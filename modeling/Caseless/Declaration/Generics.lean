import Caseless.Grammar.Language
import Caseless.Token.Printer

/-!
# Generic parameters

A declaration may have parameters in angle brackets and conditions on them behind `where`.  An
implementation for the declared type repeats the parameters with their bounds, and gives their
names as arguments to the type; lifetimes come first in both lists.
-/

namespace Caseless

/-- Something in a list with the comma behind it, if there is one. -/
structure Separated (α : Type) where
  value : α
  comma : List Token

/-- A generic parameter. -/
inductive Parameter where
  /-- A lifetime and the lifetimes that it outlives. -/
  | lifetime (attributes name bounds : List Token)
  /-- A type with its bounds and what it is if it is not given. -/
  | type (attributes name bounds default : List Token)
  /-- A constant with its type and what it is if it is not given. -/
  | const (attributes word name annotation default : List Token)

/-- The generic parameters of a declaration and the conditions on them. -/
structure Generics where
  parameters : List (Separated Parameter)
  conditions : List (Separated (List Token))

namespace Parameter

/-- A colon that was not read from the text. -/
def colon : Token := .punct ':' .alone Span.unplaced

/-- Bounds behind a colon; without bounds there is no colon either. -/
def boundsTokens (bounds : List Token) : List Token :=
  if bounds.isEmpty then [] else colon :: bounds

/-- Whether the parameter is a lifetime. -/
def isLifetime : Parameter → Bool
  | lifetime .. => true
  | _ => false

/-- The name of the parameter. -/
def nameTokens : Parameter → List Token
  | lifetime _ name _ => name
  | type _ name _ _ => name
  | const _ _ name _ _ => name

/-- The parameter as it is bound by an implementation: with attributes and bounds, but without a
default. -/
def boundTokens : Parameter → List Token
  | lifetime attributes name bounds => attributes ++ name ++ boundsTokens bounds
  | type attributes name bounds _ => attributes ++ name ++ boundsTokens bounds
  | const attributes word name annotation _ => attributes ++ word ++ name ++ colon :: annotation

section Reading

/-- Reads something behind a symbol if the symbol stands there. -/
def behind (text : String) (p : Parser (List Token)) : Parser (List Token) := do
  if ← Parser.test (Lookahead.symbol text).holds then
    let _ ← (Terminal.symbol text).read
    p
  else return []

/-- Reads a parameter behind its attributes. -/
def parseBehind (attributes : List Token) : Parser Parameter := do
  if ← Parser.test Lookahead.lifetime.holds then
    let name ← Terminal.lifetime.read
    return .lifetime attributes name (← behind ":" Phrase.lifetimeBounds.parse)
  else if ← Parser.test Lookahead.ident.holds then
    let name ← Terminal.ident.read
    let bounds ← behind ":" Phrase.parameterBounds.parse
    return .type attributes name bounds (← behind "=" (Phrase.type true).parse)
  else if ← Parser.test (Lookahead.keyword "const").holds then
    let word ← (Terminal.keyword "const").read
    let name ← Terminal.ident.read
    let _ ← (Terminal.symbol ":").read
    let annotation ← (Phrase.type true).parse
    return .const attributes word name annotation (← behind "=" Phrase.constArgument.parse)
  else if ← Parser.test (Lookahead.keyword "_").holds then
    return .type attributes (← (Terminal.keyword "_").read) [] []
  else Parser.fail (.oneOf ["lifetime", "identifier", "`const`"])

/-- Reads a parameter. -/
def parse : Parser Parameter := do
  parseBehind (← (Phrase.attributes false).parse)

/-- Reads a parameter with the comma behind it, up to a closing angle bracket. -/
def parseStep : Parser (Parser.Step (Separated Parameter)) := do
  if ← Parser.test (Lookahead.symbol ">").holds then return .done
  let parameter ← parse
  if ← Parser.test (Lookahead.symbol ">").holds then return .last ⟨parameter, []⟩
  return .again ⟨parameter, ← (Terminal.symbol ",").read⟩

/-- Reads parameters in angle brackets if they are there. -/
def parseAll : Parser (List (Separated Parameter)) := do
  if ← Parser.test (Lookahead.symbol "<").holds then
    let _ ← (Terminal.symbol "<").read
    let parameters ← Parser.repeatSteps parseStep
    let _ ← (Terminal.symbol ">").read
    return parameters
  else return []

end Reading

end Parameter

namespace Generics

section Reading

/-- Reads a condition with the comma behind it. -/
def conditionStep : Parser (Parser.Step (Separated (List Token))) := do
  if ← Parser.test TypeRule.conditionsEnd.holds then return .done
  let condition ← Phrase.predicate.parse
  if ← Parser.test (Lookahead.symbol ",").holds then
    return .again ⟨condition, ← (Terminal.symbol ",").read⟩
  else return .last ⟨condition, []⟩

/-- Reads conditions behind their keyword if they are there. -/
def parseConditions : Parser (List (Separated (List Token))) := do
  if ← Parser.test (Lookahead.keyword "where").holds then
    let _ ← (Terminal.keyword "where").read
    Parser.repeatSteps conditionStep
  else return []

end Reading

section Printing

/-- A list in angle brackets with the lifetimes first, made of what `print` shows of each
parameter.  Without parameters there is no list. -/
def angleList (parameters : List (Separated Parameter)) (print : Parameter → List Token) :
    List Lexeme :=
  if parameters.isEmpty then []
  else
    .punct '<' .alone ::
      Token.lexemesAll
        (Entry.lifetimesFirst
          (parameters.map fun p => ⟨p.value.isLifetime, print p.value, p.comma⟩)) ++
      [.punct '>' .alone]

/-- The parameters that an implementation binds. -/
def implLexemes (generics : Generics) : List Lexeme :=
  angleList generics.parameters Parameter.boundTokens

/-- The arguments that an implementation gives to the type. -/
def typeLexemes (generics : Generics) : List Lexeme :=
  angleList generics.parameters Parameter.nameTokens

/-- The conditions of an implementation, as they are written. -/
def whereLexemes (generics : Generics) : List Lexeme :=
  if generics.conditions.isEmpty then []
  else
    .ident (.plain "where") ::
      generics.conditions.flatMap fun c => Token.lexemesAll (c.value ++ c.comma)

end Printing

end Generics

end Caseless
