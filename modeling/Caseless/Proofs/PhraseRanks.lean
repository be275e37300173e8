import Caseless.Proofs.Nesting

/-!
# The ranks of phrases

Each phrase is made of phrases of lower ranks until a token is read, which is checked rule by rule.
A rule that refers back to its own phrase does so behind a comma, an operator, a keyword, or a part
that cannot be missing.  From this it follows that the depth up to which phrases are read does not
matter (`Phrase.readTo_eq_read`), and that reading a text is what the rules say, without any depth
(`Phrase.read_eq_follow`, `Rule.parse_eq_follow`).
-/

namespace Caseless

section Combinators

variable {rank : Nat}

namespace Rule

@[simp] theorem progresses_symbol
    (text : String) :
    (symbol text).Progresses :=
  trivial

@[simp] theorem progresses_keyword
    (word : String) :
    (keyword word).Progresses :=
  trivial

@[simp] theorem progresses_seq_cons
    (rule : Rule)
    (rules : List Rule) :
    (seq (rule :: rules)).Progresses ↔ rule.Progresses ∨ (seq rules).Progresses := by
  have : Nonempty Shape := ⟨.plain⟩
  cases rules with
  | nil =>
      simp [seq]
  | cons next rules =>
      simp [seq]

@[simp] theorem progresses_shaped
    (rule : Rule)
    (shape : Shape) :
    (shaped rule shape).Progresses ↔ rule.Progresses := by
  have : Nonempty Shape := ⟨.plain⟩
  simp [shaped]

@[simp] theorem progresses_firstOf_nil
    (otherwise : Rule) :
    (firstOf [] otherwise).Progresses ↔ otherwise.Progresses :=
  Iff.rfl

@[simp] theorem progresses_firstOf_cons
    (test : Lookahead)
    (rule : Rule)
    (others : List (Lookahead × Rule))
    (otherwise : Rule) :
    (firstOf ((test, rule) :: others) otherwise).Progresses ↔
      rule.Progresses ∧ (firstOf others otherwise).Progresses :=
  Iff.rfl

@[simp] theorem progresses_ite
    (condition : Prop)
    [Decidable condition]
    (yes no : Rule) :
    (if condition then yes else no).Progresses ↔
      (condition → yes.Progresses) ∧ (¬condition → no.Progresses) := by
  split <;> simp [*]

@[simp] theorem entersBelow_symbol
    (text : String) :
    (symbol text).EntersBelow rank :=
  trivial

@[simp] theorem entersBelow_keyword
    (word : String) :
    (keyword word).EntersBelow rank :=
  trivial

@[simp] theorem entersBelow_seq_nil :
    (seq []).EntersBelow rank :=
  trivial

/-- Behind a part that makes progress the others may enter any phrase. -/
@[simp] theorem entersBelow_seq_cons
    (rule : Rule)
    (rules : List Rule) :
    (seq (rule :: rules)).EntersBelow rank ↔
      rule.EntersBelow rank ∧ (rule.Progresses ∨ (seq rules).EntersBelow rank) := by
  have : Nonempty Shape := ⟨.plain⟩
  cases rules with
  | nil =>
      simp [seq]
  | cons next rules =>
      simp [seq]

@[simp] theorem entersBelow_shaped
    (rule : Rule)
    (shape : Shape) :
    (shaped rule shape).EntersBelow rank ↔ rule.EntersBelow rank := by
  simp [shaped]

@[simp] theorem entersBelow_optional
    (test : Lookahead)
    (rule : Rule) :
    (optional test rule).EntersBelow rank ↔ rule.EntersBelow rank := by
  simp [optional]

@[simp] theorem entersBelow_optionalSymbol
    (text : String) :
    (optionalSymbol text).EntersBelow rank := by
  simp [optionalSymbol]

@[simp] theorem entersBelow_optionalKeyword
    (word : String) :
    (optionalKeyword word).EntersBelow rank := by
  simp [optionalKeyword]

@[simp] theorem entersBelow_present
    (test : Lookahead)
    (rule : Rule) :
    (present test rule).EntersBelow rank ↔ rule.EntersBelow rank := by
  simp [present]

@[simp] theorem entersBelow_firstOf_nil
    (otherwise : Rule) :
    (firstOf [] otherwise).EntersBelow rank ↔ otherwise.EntersBelow rank :=
  Iff.rfl

@[simp] theorem entersBelow_firstOf_cons
    (test : Lookahead)
    (rule : Rule)
    (others : List (Lookahead × Rule))
    (otherwise : Rule) :
    (firstOf ((test, rule) :: others) otherwise).EntersBelow rank ↔
      rule.EntersBelow rank ∧ (firstOf others otherwise).EntersBelow rank :=
  Iff.rfl

/-- Each of several rules has to stay below the rank. -/
theorem entersBelow_firstOf
    {alternatives : List (Lookahead × Rule)}
    {otherwise : Rule}
    (halternatives : ∀ alternative ∈ alternatives, alternative.2.EntersBelow rank)
    (hotherwise : otherwise.EntersBelow rank) :
    (firstOf alternatives otherwise).EntersBelow rank := by
  induction alternatives with
  | nil =>
      exact hotherwise
  | cons alternative others ih =>
      obtain ⟨hrule, hothers⟩ := List.forall_mem_cons.mp halternatives
      exact ⟨hrule, ih hothers⟩

/-- A list refers back to its phrase behind a comma only. -/
@[simp] theorem entersBelow_commaList
    (entry : Rule)
    (again : Phrase) :
    (commaList entry again).EntersBelow rank ↔ entry.EntersBelow rank := by
  simp [commaList]

@[simp] theorem entersBelow_ite
    (condition : Prop)
    [Decidable condition]
    (yes no : Rule) :
    (if condition then yes else no).EntersBelow rank ↔
      (condition → yes.EntersBelow rank) ∧ (¬condition → no.EntersBelow rank) := by
  split <;> simp [*]

end Rule

end Combinators

open Rule

section Types

variable {rank : Nat}

/-- What a single name is associated with follows a symbol. -/
theorem PathRule.entersBelow_genericArgument :
    genericArgument.EntersBelow 6 := by
  refine ⟨by simp, by simp, by simp, Or.inr fun shape => ?_⟩
  dsimp only
  split <;> simp [association]

namespace TypeRule

/-- Bounds refer back to their phrase behind a plus sign only. -/
@[simp] theorem entersBelow_boundsUpTo
    (stop : Lookahead)
    (entry : Rule)
    (again : Phrase) :
    (boundsUpTo stop entry again).EntersBelow rank ↔ entry.EntersBelow rank := by
  simp [boundsUpTo]

@[simp] theorem entersBelow_convention :
    convention.EntersBelow rank := by
  simp [convention]

@[simp] theorem entersBelow_function :
    function.EntersBelow rank := by
  simp [function]

/-- The types of a function stand in parentheses. -/
theorem entersBelow_traitPath
    (shape : Shape) :
    (traitPath shape).EntersBelow 2 := by
  refine ⟨by simp, Or.inr fun path => ?_⟩
  dsimp only
  split <;> simp [functionTypes]

theorem entersBelow_traitBound
    (const : Bool) :
    (traitBound const).EntersBelow 2 := by
  simp [traitBound, constable, relaxable, entersBelow_traitPath]

theorem entersBelow_bound
    (captures const : Bool) :
    (bound captures const).EntersBelow 3 := by
  simp [bound, capture]

/-- More bounds follow a path, and each of them a plus sign. -/
theorem entersBelow_pathType
    (plus general : Bool) :
    (pathType plus general).EntersBelow 3 := by
  refine ⟨by simp, Or.inr fun path => ?_⟩
  dsimp only
  split <;> simp [addedBounds, call]

/-- Parentheses make progress, whatever is added to them. -/
theorem entersBelow_parenthesised
    (plus : Bool) :
    (parenthesised plus).EntersBelow rank :=
  ⟨trivial, Or.inl trivial⟩

/-- A type begins with a path, with bounds, or with a token of its own. -/
theorem entersBelow_type
    (plus : Bool) :
    (type plus).EntersBelow 5 := by
  have hpath := (entersBelow_pathType plus false).mono (by decide : 3 ≤ 5)
  simp [type, hpath, entersBelow_parenthesised, object, objectBounds, boundsWithTrait, sequence,
    pointer, reference]

theorem entersBelow_functionArguments
    (first : Bool) :
    (functionArguments first).EntersBelow 6 := by
  simp [functionArguments, dots, firstArgument, laterArgument]

end TypeRule

end Types

section Expressions

variable {rank : Nat}

namespace ExpressionRule

@[simp] theorem entersBelow_range
    (structs : Bool) :
    (range structs).EntersBelow rank := by
  simp [range, rangeWith]

@[simp] theorem progresses_range
    (structs : Bool) :
    (range structs).Progresses := by
  simp [range, rangeWith]

@[simp] theorem entersBelow_cast
    (structs : Bool)
    (base : Precedence) :
    (cast structs base).EntersBelow rank := by
  simp [cast]

@[simp] theorem progresses_cast
    (structs : Bool)
    (base : Precedence) :
    (cast structs base).Progresses := by
  simp [cast]

@[simp] theorem entersBelow_operation
    (structs : Bool)
    (base : Precedence)
    (text : String)
    (precedence : Precedence) :
    (operation structs base text precedence).EntersBelow rank := by
  simp [operation]

@[simp] theorem progresses_operation
    (structs : Bool)
    (base : Precedence)
    (text : String)
    (precedence : Precedence) :
    (operation structs base text precedence).Progresses := by
  simp [operation]

@[simp] theorem entersBelow_operator
    (structs : Bool)
    (base : Precedence)
    (shape : Shape)
    (text : String)
    (precedence : Precedence) :
    (operator structs base shape text precedence).EntersBelow rank := by
  unfold operator
  split
  · trivial
  · split
    · trivial
    · exact entersBelow_operation structs base text _

/-- An operator binds tightly enough for operators of its own precedence. -/
@[simp] theorem progresses_operator
    (structs : Bool)
    (shape : Shape)
    (text : String)
    (precedence : Precedence) :
    (operator structs precedence shape text precedence).Progresses := by
  unfold operator
  rw [if_neg (Nat.lt_irrefl _)]
  split
  · trivial
  · exact progresses_operation structs _ text _

/-- More operators follow an operator with its operand. -/
theorem entersBelow_operators
    (structs : Bool)
    (base : Precedence)
    (shape : Shape) :
    (operators structs base shape).EntersBelow rank := by
  unfold operators
  split
  · trivial
  · exact entersBelow_firstOf (List.forall_mem_map.mpr fun op _ => by simp) (by simp)

/-- Tighter operators are looked for behind an operator only. -/
theorem entersBelow_operandRest
    (structs : Bool)
    (precedence : Precedence)
    (shape : Shape) :
    (operandRest structs precedence shape).EntersBelow rank := by
  unfold operandRest
  split
  · trivial
  · exact entersBelow_firstOf (List.forall_mem_map.mpr fun op _ => by simp) (by simp)

theorem entersBelow_trailers
    (shape : Shape) :
    (trailers shape).EntersBelow rank := by
  cases shape <;> simp [trailers, callArguments]

theorem progresses_atom
    (structs : Bool) :
    (atom structs).Progresses := by
  simp [atom, closure, builtin, pathExpression, jumpOut, jump, array, letting, blocks, loops,
    labelled, distinction]

/-- An operand has an atom, which cannot be missing. -/
theorem progresses_unary
    (structs : Bool) :
    (unary structs).Progresses := by
  simp [unary, reference, unaryOperators, markedRange, rangeWith, trailed, progresses_atom]

/-- Operators in front of an operand are tokens, and so is what an atom begins with unless it is a
path. -/
theorem entersBelow_unary
    (structs : Bool) :
    (unary structs).EntersBelow 3 := by
  simp [unary, reference, unaryOperators, markedRange, rangeWith, trailed, atom, closure, builtin,
    pathExpression, jumpOut, jump, array, letting, blocks, loops, labelled, distinction]

theorem progresses_statementExpression :
    statementExpression.Progresses := by
  simp [statementExpression, blocks, loops, labelled, distinction]

theorem entersBelow_statementExpression :
    statementExpression.EntersBelow 5 := by
  simp [statementExpression, blocks, loops, labelled, distinction]

end ExpressionRule

namespace PatternRule

theorem entersBelow_pattern :
    pattern.EntersBelow 4 := by
  simp [pattern, pathPattern, binding, rangeRest, openRange]

theorem entersBelow_patternList
    (slice : Bool) :
    (patternList slice).EntersBelow 6 := by
  have hpart : slicePart.EntersBelow 6 := by
    refine ⟨by simp, Or.inr fun shape => ?_⟩
    cases shape <;> trivial
  simp [patternList, hpart]

end PatternRule

end Expressions

section Items

variable {rank : Nat}

namespace SignatureRule

@[simp] theorem entersBelow_signatureRest :
    signatureRest.EntersBelow rank := by
  simp [signatureRest]

@[simp] theorem progresses_signatureRest :
    signatureRest.Progresses := by
  simp [signatureRest]

@[simp] theorem entersBelow_signature :
    signature.EntersBelow rank := by
  simp [signature]

@[simp] theorem progresses_signature :
    signature.Progresses := by
  simp [signature]

theorem entersBelow_functionParameters
    (first : Bool) :
    (functionParameters first).EntersBelow 6 := by
  simp [functionParameters, dots, receiver, ordinary, parametersRest]

end SignatureRule

namespace ItemRule

@[simp] theorem entersBelow_constantWith
    (shape : Bool → Bool → Shape) :
    (constantWith shape).EntersBelow rank := by
  simp [constantWith]

@[simp] theorem progresses_constantWith
    (shape : Bool → Bool → Shape) :
    (constantWith shape).Progresses := by
  simp [constantWith]

@[simp] theorem entersBelow_typeNameWith
    (early late : Bool)
    (shape : Bool → Bool → Shape) :
    (typeNameWith early late shape).EntersBelow rank := by
  simp [typeNameWith]

@[simp] theorem progresses_typeNameWith
    (early late : Bool)
    (shape : Bool → Bool → Shape) :
    (typeNameWith early late shape).Progresses := by
  simp [typeNameWith]

/-- Every item has a keyword, or the mark of a code generator. -/
theorem progresses_item :
    item.Progresses := by
  simp [item, itemBehind, SignatureRule.function, package, hiddenForeign, foreign, importItem,
    static, constant, marked, moduleItem, typeName, struct, enum, union, traitOrAlias, trait,
    implementation, generator, namedCall, contents]

theorem entersBelow_item :
    item.EntersBelow 2 := by
  simp [item, itemBehind, SignatureRule.function, package, hiddenForeign, foreign, importItem,
    static, constant, marked, moduleItem, typeName, struct, enum, union, traitOrAlias, trait,
    implementation, generator, namedCall, contents]

end ItemRule

theorem StatementRule.progresses_statement :
    statement.Progresses := by
  simp [statement, call, variableStatement, expressionStatement]

theorem StatementRule.entersBelow_statement :
    statement.EntersBelow 6 := by
  simp [statement, call, variableStatement, expressionStatement]

namespace MemberRule

theorem progresses_member
    (owner : Owner) :
    (member owner).Progresses := by
  cases owner
  all_goals simp [member, implementation, implemented, trait, traitFunction, declared, foreign,
    foreignFunction, foreignStatic, callUnless, SignatureRule.function, ItemRule.constant,
    ItemRule.call]

theorem entersBelow_members
    (owner : Owner) :
    (members owner).EntersBelow 2 := by
  have hmember : (member owner).EntersBelow 2 := by
    cases owner
    all_goals simp [member, implementation, implemented, trait, traitFunction, declared, foreign,
      foreignFunction, foreignStatic, safety, callUnless, SignatureRule.function,
      ItemRule.constant, ItemRule.call]
  simp [members, hmember, progresses_member]

end MemberRule

end Items

namespace Phrase

/-- The phrases that are said to read a token do so by their rules. -/
theorem progresses_rule
    {phrase : Phrase}
    (h : phrase.Progresses) :
    phrase.rule.Progresses := by
  cases phrase
  all_goals first | exact False.elim h | skip
  case path style => simp [rule, PathRule.path]
  case segment style => simp [rule, PathRule.segment]
  case qualifiedPath style => simp [rule, PathRule.qualified]
  case plainPath => simp [rule, PathRule.plainPath]
  case plainNames => simp [rule, PathRule.plainNames]
  case oneAttribute => simp [rule, AttributeRule.single]
  case expression structs => simp [rule, ExpressionRule.expression]
  case statementExpression => exact ExpressionRule.progresses_statementExpression
  case unary structs => exact ExpressionRule.progresses_unary structs
  case condition => simp [rule, ExpressionRule.condition]
  case block inner => simp [rule, StatementRule.block]
  case statement => exact StatementRule.progresses_statement
  case item => exact ItemRule.progresses_item

/-- Before a token is read, a phrase enters only phrases of lower ranks. -/
theorem entersBelow_rule
    (phrase : Phrase) :
    phrase.rule.EntersBelow phrase.rank := by
  cases phrase with
  | path style => simp [rule, PathRule.path]
  | pathRest style shape => simp [rule, PathRule.rest]
  | segment style => simp [rule, PathRule.segment]
  | qualifiedPath style => simp [rule, PathRule.qualified]
  | qualifiedRest style => simp [rule, PathRule.qualifiedRest]
  | angleArguments => simp [rule, PathRule.angleArguments]
  | genericArgument => exact PathRule.entersBelow_genericArgument
  | constArgument => simp [rule, PathRule.constArgument]
  | argumentBounds => simp [rule, PathRule.argumentBounds]
  | plainPath => simp [rule, PathRule.plainPath]
  | plainNames => simp [rule, PathRule.plainNames]
  | type plus => exact TypeRule.entersBelow_type plus
  | typeList => simp [rule, TypeRule.typeList]
  | boundType plus => simp [rule, TypeRule.boundType, TypeRule.entersBelow_pathType]
  | returnType plus => simp [rule, TypeRule.returnType]
  | binder => simp [rule, TypeRule.binder]
  | bound captures const => exact TypeRule.entersBelow_bound captures const
  | traitBound const => exact TypeRule.entersBelow_traitBound const
  | bounds plus captures const seen => simp [rule, TypeRule.bounds]
  | moreBounds mayEnd => simp [rule, TypeRule.moreBounds]
  | functionArguments first => exact TypeRule.entersBelow_functionArguments first
  | parameterBounds => simp [rule, TypeRule.parameterBounds]
  | lifetimeBounds => simp [rule, TypeRule.lifetimeBounds]
  | predicate => simp [rule, TypeRule.predicate]
  | predicateLifetimes => simp [rule, TypeRule.predicateLifetimes]
  | predicateBounds => simp [rule, TypeRule.predicateBounds]
  | predicates => simp [rule, TypeRule.predicates]
  | oneAttribute => simp [rule, AttributeRule.single]
  | attributes seen => simp [rule, AttributeRule.attributes]
  | innerAttributes => simp [rule, AttributeRule.innerAttributes]
  | visibility => simp [rule, FieldRule.visibility]
  | namedFields => simp [rule, FieldRule.namedFields, FieldRule.named]
  | tupleFields => simp [rule, FieldRule.tupleFields]
  | expression structs => simp [rule, ExpressionRule.expression]
  | statementExpression => exact ExpressionRule.entersBelow_statementExpression
  | unary structs => exact ExpressionRule.entersBelow_unary structs
  | operators structs base shape => exact ExpressionRule.entersBelow_operators structs base shape
  | operand structs precedence => simp [rule, ExpressionRule.operand]
  | operandRest structs precedence shape =>
      exact ExpressionRule.entersBelow_operandRest structs precedence shape
  | trailers shape => exact ExpressionRule.entersBelow_trailers shape
  | expressionList => simp [rule, ExpressionRule.expressionList]
  | fieldValues => simp [rule, ExpressionRule.fieldValues]
  | closureArguments => simp [rule, ExpressionRule.closureArguments]
  | condition => simp [rule, ExpressionRule.condition]
  | arms => simp [rule, ExpressionRule.arms]
  | block inner => simp [rule, StatementRule.block]
  | statements => simp [rule, StatementRule.statements]
  | statement => exact StatementRule.entersBelow_statement
  | pattern => exact PatternRule.entersBelow_pattern
  | patterns => simp [rule, PatternRule.patterns]
  | morePatterns => simp [rule, PatternRule.morePatterns]
  | patternList slice => exact PatternRule.entersBelow_patternList slice
  | patternFields => simp [rule, PatternRule.patternFields, PatternRule.fieldPattern]
  | rangeBound => simp [rule, PatternRule.rangeBound]
  | functionParameters first => exact SignatureRule.entersBelow_functionParameters first
  | variants => simp [rule, ItemRule.variants]
  | importTree rootable => simp [rule, ItemRule.importTree]
  | importTrees rootable seen => simp [rule, ItemRule.importTrees, ItemRule.rootableTree]
  | associatedBounds => simp [rule, ItemRule.associatedBounds]
  | superTraits => simp [rule, ItemRule.superTraits]
  | aliasedBounds => simp [rule, ItemRule.aliasedBounds]
  | item => exact ItemRule.entersBelow_item
  | items => simp [rule, ItemRule.items]
  | members owner => exact MemberRule.entersBelow_members owner

end Phrase

section Reading

namespace Phrase

theorem progresses_readTo
    (depth : Nat)
    {phrase : Phrase}
    (h : phrase.Progresses) :
    Parser.Progresses (readTo depth phrase) := by
  induction depth generalizing phrase with
  | zero =>
      exact Parser.progresses_fail _
  | succ depth ih =>
      exact Rule.progresses_follow (steady_readTo depth) (fun _ hp => ih hp) (progresses_rule h)

/-- Any two depths give the same if they are large enough for the tokens and the rank. -/
theorem readTo_eq_readTo
    {n m : Nat}
    {phrase : Phrase}
    {c : Cursor}
    (hn : 16 * Token.size c.tokens + phrase.rank < n)
    (hm : 16 * Token.size c.tokens + phrase.rank < m) :
    readTo n phrase c = readTo m phrase c := by
  induction n generalizing m phrase c with
  | zero =>
      omega
  | succ n ih =>
      obtain ⟨m, rfl⟩ : ∃ k, m = k + 1 := ⟨m - 1, by omega⟩
      apply Rule.follow_eq_of_agree (steady_readTo n) (fun _ => progresses_readTo n)
        phrase.entersBelow_rule
      intro p d hd
      exact ih (by omega) (by omega)

/-- Reads a phrase up to a depth that suffices. -/
def read (phrase : Phrase) : Parser Piece :=
  fun cursor => phrase.readTo (depthFor cursor.tokens) cursor

/-- More depth changes nothing, neither what is read nor what is complained about. -/
theorem readTo_eq_read
    {depth : Nat}
    {phrase : Phrase}
    {c : Cursor}
    (h : depthFor c.tokens ≤ depth) :
    readTo depth phrase c = phrase.read c := by
  have hrank := phrase.rank_lt
  unfold depthFor at h
  apply readTo_eq_readTo
  · omega
  · unfold depthFor
    omega

end Phrase

/-- What a rule describes is read as if there were no depth. -/
theorem Rule.follow_readTo_depthFor
    (rule : Rule)
    (c : Cursor) :
    rule.follow (Phrase.readTo (depthFor c.tokens)) c = rule.follow Phrase.read c := by
  apply follow_eq_of_agree (Phrase.steady_readTo _) (fun _ => Phrase.progresses_readTo _)
    rule.entersBelow_top
  intro p d hd
  apply Phrase.readTo_eq_read
  unfold depthFor
  omega

/-- Reading a phrase is following its rule: the phrases in the rule are read in the same way, and
there is no depth at which a text is refused. -/
theorem Phrase.read_eq_follow
    (phrase : Phrase) :
    phrase.read = phrase.rule.follow Phrase.read := by
  funext c
  calc
    phrase.read c = phrase.readTo (depthFor c.tokens + 1) c :=
      (readTo_eq_read (Nat.le_succ _)).symm
    _ = phrase.rule.follow (readTo (depthFor c.tokens)) c := rfl
    _ = phrase.rule.follow Phrase.read c := phrase.rule.follow_readTo_depthFor c

/-- Reading a text for its tokens is following the rule, and nothing else. -/
theorem Rule.parse_eq_follow
    (rule : Rule) :
    rule.parse = Piece.tokens <$> rule.follow Phrase.read := by
  funext c
  change rule.parse c = ((rule.follow Phrase.read c) >>= fun r => .ok (r.1.tokens, r.2))
  unfold parse
  rw [rule.follow_readTo_depthFor c]
  cases rule.follow Phrase.read c with
  | ok result =>
      rfl
  | error error =>
      rfl

end Reading

end Caseless
