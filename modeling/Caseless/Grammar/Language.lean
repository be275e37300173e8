import Caseless.Grammar.Member
import Caseless.Grammar.Recognition
import Caseless.Grammar.Statement

/-!
# The grammar

Every phrase has a rule.  Since rules refer to phrases, a phrase is read up to a depth of nested
phrases; the depth is chosen so large that no text is refused for it (`Phrase.readTo_eq_read`,
`Phrase.read_eq_follow`).
-/

namespace Caseless

def Phrase.rule : Phrase → Rule
  | path style => PathRule.path style
  | pathRest style shape => PathRule.rest style shape
  | segment style => PathRule.segment style
  | qualifiedPath style => PathRule.qualified style
  | qualifiedRest style => PathRule.qualifiedRest style
  | angleArguments => PathRule.angleArguments
  | genericArgument => PathRule.genericArgument
  | constArgument => PathRule.constArgument
  | argumentBounds => PathRule.argumentBounds
  | plainPath => PathRule.plainPath
  | plainNames => PathRule.plainNames
  | type plus => TypeRule.type plus
  | typeList => TypeRule.typeList
  | boundType plus => TypeRule.boundType plus
  | returnType plus => TypeRule.returnType plus
  | binder => TypeRule.binder
  | bound captures const => TypeRule.bound captures const
  | traitBound const => TypeRule.traitBound const
  | bounds plus captures const seen => TypeRule.bounds plus captures const seen
  | moreBounds mayEnd => TypeRule.moreBounds mayEnd
  | functionArguments first => TypeRule.functionArguments first
  | parameterBounds => TypeRule.parameterBounds
  | lifetimeBounds => TypeRule.lifetimeBounds
  | predicate => TypeRule.predicate
  | predicateLifetimes => TypeRule.predicateLifetimes
  | predicateBounds => TypeRule.predicateBounds
  | predicates => TypeRule.predicates
  | oneAttribute => AttributeRule.single
  | attributes seen => AttributeRule.attributes seen
  | innerAttributes => AttributeRule.innerAttributes
  | visibility => FieldRule.visibility
  | namedFields => FieldRule.namedFields
  | tupleFields => FieldRule.tupleFields
  | expression structs => ExpressionRule.expression structs
  | statementExpression => ExpressionRule.statementExpression
  | unary structs => ExpressionRule.unary structs
  | operators structs base shape => ExpressionRule.operators structs base shape
  | operand structs precedence => ExpressionRule.operand structs precedence
  | operandRest structs precedence shape => ExpressionRule.operandRest structs precedence shape
  | trailers shape => ExpressionRule.trailers shape
  | expressionList => ExpressionRule.expressionList
  | fieldValues => ExpressionRule.fieldValues
  | closureArguments => ExpressionRule.closureArguments
  | condition => ExpressionRule.condition
  | arms => ExpressionRule.arms
  | block inner => StatementRule.block inner
  | statements => StatementRule.statements
  | statement => StatementRule.statement
  | pattern => PatternRule.pattern
  | patterns => PatternRule.patterns
  | morePatterns => PatternRule.morePatterns
  | patternList slice => PatternRule.patternList slice
  | patternFields => PatternRule.patternFields
  | rangeBound => PatternRule.rangeBound
  | functionParameters first => SignatureRule.functionParameters first
  | variants => ItemRule.variants
  | importTree rootable => ItemRule.importTree rootable
  | importTrees rootable seen => ItemRule.importTrees rootable seen
  | associatedBounds => ItemRule.associatedBounds
  | superTraits => ItemRule.superTraits
  | aliasedBounds => ItemRule.aliasedBounds
  | item => ItemRule.item
  | items => ItemRule.items
  | members owner => MemberRule.members owner

/-- Reads a phrase up to the given depth of nested phrases. -/
def Phrase.readTo : Nat → Phrase → Parser Piece
  | 0, _ => Parser.fail (.broken "nested too deeply")
  | depth + 1, phrase => phrase.rule.follow (readTo depth)

/-- A depth that suffices for some tokens (`Phrase.readTo_eq_read`): between two tokens that are
read, fewer than sixteen phrases are entered (`Phrase.entersBelow_rule`). -/
def depthFor (tokens : List Token) : Nat :=
  16 * (Token.size tokens + 1)

/-- Reads what a rule describes, for its tokens alone. -/
def Rule.parse (rule : Rule) : Parser (List Token) :=
  fun cursor =>
    match rule.follow (Phrase.readTo (depthFor cursor.tokens)) cursor with
    | .ok (piece, rest) => .ok (piece.tokens, rest)
    | .error error => .error error

/-- Reads a phrase, for its tokens alone. -/
def Phrase.parse (phrase : Phrase) : Parser (List Token) :=
  (Rule.phrase phrase).parse

end Caseless
