import Caseless.Grammar.Expression
import Caseless.Grammar.Item

/-!
# Rules for blocks and statements

A block is a list of statements: variables, items, calls of code generators and expressions.  An
expression that does not end in a block needs a semicolon, unless it is the last.
-/

namespace Caseless
namespace StatementRule

open Rule

def block (inner : Bool) : Rule :=
  shaped
    (inside .brace
      (if inner then seq [phrase .innerAttributes, phrase .statements] else phrase .statements))
    .block

/-- The call of a code generator with braces follows that is a statement of its own. -/
def callFollows : Lookahead :=
  .behindPath
    (.allOf
      [.symbol "!", .behind (.group .brace),
        .no (.behindTwo (.either (.symbolOnly "." [".."]) (.symbol "?")))])

/-- The call of a code generator as a statement. -/
def call : Rule := seq [phrase .plainPath, symbol "!", read .delimited, optionalSymbol ";"]

/-- The value of a variable.  Another branch may follow it unless it ends in braces. -/
def initializer : Rule :=
  seq [symbol "=",
    andThen (endsInBraces (phrase (.expression true))) fun braces =>
      if braces.isYes then accept .plain
      else optional (.keyword "else") (seq [keyword "else", phrase (.block false)])]

def variableStatement : Rule :=
  seq [keyword "let", phrase .pattern,
    optional (.symbol ":") (seq [symbol ":", phrase (.type true)]),
    optional (.symbol "=") initializer, symbol ";"]

/-- Whether an expression is a statement without a mark behind it. -/
def standsAlone : Shape → Bool
  | .block => true
  | .bracedCall => true
  | _ => false

/-- An expression as a statement; answers whether another statement may follow. -/
def expressionStatement : Rule :=
  andThen (phrase .statementExpression) fun shape =>
    choose (.symbol ";") (shaped (symbol ";") (.answer true)) (accept (.answer (standsAlone shape)))

/-- A statement; answers whether another one may follow, unless it is kept as it is written. -/
def statement : Rule :=
  asWritten Shape.isVerbatim
    (seq [phrase (.attributes false),
      firstOf
        [(callFollows, shaped call (.answer true)),
          (.keyword "let", shaped variableStatement (.answer true)),
          (ItemRule.itemFollows,
            andThen (phrase .item) fun shape =>
              accept (if shape.isVerbatim then .verbatim else .answer true))]
        expressionStatement])

/-- The statements of a block, up to the end. -/
def statements : Rule :=
  firstOf
    [(.symbol ";", seq [symbol ";", phrase .statements]),
      (.finished, accept .plain)]
    (andThen (phrase .statement) fun shape =>
      if shape.isYes || shape.isVerbatim then phrase .statements
      else choose .finished (accept .plain) (refuse (.broken "unexpected token, expected `;`")))

end StatementRule
end Caseless
