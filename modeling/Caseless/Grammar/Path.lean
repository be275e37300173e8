import Caseless.Grammar.Phrase

/-!
# Rules for paths and generic arguments

A path is a list of names with double colons between them, each of which may have generic
arguments in angle brackets.  A qualified path begins with a type in angle brackets.
-/

namespace Caseless
namespace PathRule

open Rule

/-- The words that stand for a place of their own in a path and take no arguments. -/
def placeWords : List String := ["super", "self", "crate", "try"]

/-- Whether generic arguments follow the name of a segment. -/
def argumentsFollow : PathStyle → Lookahead
  | .type =>
      .either (.symbolOnly "<" ["<="]) (.both (.symbol "::") (.behindTwo (.symbol "<")))
  | .expression => .both (.symbol "::") (.behindTwo (.symbol "<"))

def segment (style : PathStyle) : Rule :=
  choose (.keywords placeWords) (shaped (read .word) (.answer true))
    (seq [choose (.keyword "Self") (read .word) (read .ident),
      choose (argumentsFollow style) (shaped (phrase .angleArguments) (.answer false))
        (accept (.answer true))])

/-- The shape of a path behind another segment. -/
def extend (shape : PathShape) : Shape → PathShape
  | .answer bare => ⟨shape.simple && bare, false, bare⟩
  | _ => ⟨false, false, false⟩

/-- The segments behind a path.  A double colon in front of parentheses belongs to no path. -/
def rest (style : PathStyle) (shape : PathShape) : Rule :=
  choose (.both (.symbol "::") (.no (.behindTwo (.group .parenthesis))))
    (seq [symbol "::",
      andThen (phrase (.segment style)) fun next => phrase (.pathRest style (extend shape next))])
    (accept (.path shape))

/-- The shape of a path that consists of one segment. -/
def begin (leading : Bool) : Shape → PathShape
  | .answer bare => ⟨bare, !leading, bare⟩
  | _ => ⟨false, false, false⟩

def path (style : PathStyle) : Rule :=
  choose (.symbol "::")
    (seq [symbol "::",
      andThen (phrase (.segment style)) fun s => phrase (.pathRest style (begin true s))])
    (andThen (phrase (.segment style)) fun s => phrase (.pathRest style (begin false s)))

/-- The segments behind a type in angle brackets. -/
def qualifiedRest (style : PathStyle) : Rule :=
  seq [phrase (.segment style),
    choose (.symbol "::") (seq [symbol "::", phrase (.qualifiedRest style)]) (accept .plain)]

/-- A path that may begin with a type in angle brackets. -/
def qualified (style : PathStyle) : Rule :=
  choose (.symbol "<")
    (seq [symbol "<", phrase (.type true),
      optional (.keyword "as") (seq [keyword "as", phrase (.path .type)]),
      symbol ">", symbol "::", phrase (.qualifiedRest style)])
    (phrase (.path style))

/-- Generic arguments in angle brackets. -/
def angleArguments : Rule :=
  seq [optionalSymbol "::", symbol "<", listing (phrase .genericArgument), symbol ">"]

/-- A constant as a generic argument. -/
def constArgument : Rule :=
  firstOf
    [(.literal, read .literal),
      (.ident, read .ident),
      (.group .brace, phrase (.block true))]
    (refuse (.oneOf []))

/-- A constant follows that is told from a type by its first token. -/
def constFollows : Lookahead := .either .literal (.group .brace)

/-- What may follow a type that is a single name: an associated type or constant, or the bounds of
an associated type. -/
def association : Rule :=
  firstOf
    [(.symbol "=",
        seq [symbol "=", choose constFollows (phrase .constArgument) (phrase (.type true))]),
      (.symbol ":", seq [symbol ":", phrase .argumentBounds])]
    (accept .plain)

def genericArgument : Rule :=
  firstOf
    [(.both .lifetime (.no (.behind (.symbol "+"))), shaped (read .lifetime) .lifetime),
      (constFollows, shaped (phrase .constArgument) .plain)]
    (andThen (phrase (.type true)) fun
      | .path ⟨_, true, _⟩ => shaped association .plain
      | _ => accept .plain)

/-- The bounds on an associated type, up to a comma or an angle bracket. -/
def argumentBounds : Rule :=
  choose (.symbols [",", ">"]) (accept .plain)
    (seq [phrase (.bound false true),
      choose (.symbol "+") (seq [symbol "+", phrase .argumentBounds]) (accept .plain)])

/-- The words that may stand in a path without arguments beside names. -/
def plainWords : List String := ["super", "self", "Self", "crate"]

/-- The names of a path without arguments. -/
def plainNames : Rule :=
  choose (.either .ident (.keywords plainWords))
    (seq [read .word,
      choose (.symbol "::") (seq [symbol "::", phrase .plainNames]) (accept .plain)])
    (read .ident)

/-- A path without arguments. -/
def plainPath : Rule := seq [optionalSymbol "::", phrase .plainNames]

end PathRule
end Caseless
