import Caseless.Declaration.Item
import Caseless.Diagnostic

/-!
# Cases and their raw values

A declaration is an enum with raw values when it says so and all of its cases are plain names.
The raw value of a case is its name without the raw mark.
-/

namespace Caseless

/-- A case of an enum and the raw value that it is looked up by. -/
structure Case where
  ident : Ident
  rawValue : String
  deriving DecidableEq

namespace Item

/-- The name of the attribute that declares the raw value type. -/
def rawValueAttribute : String := "raw_value"

/-- The lexemes of the only raw value type that is supported. -/
def stringType : List Lexeme := [.ident (.plain "String")]

/-- The type that an attribute declares: all of the tokens between its delimiters. -/
def declaredType (a : Attribute) : Option (List Token) :=
  match a.arguments with
  | .group _ content _ closing =>
      match Parser.parseAll (Phrase.type true).parse content closing with
      | .ok tokens => some tokens
      | .error _ => none
  | _ => none

/-- A diagnostic about raw values. -/
def rawValueDiagnostic (problem : RawValueProblem) (span : Span) : Diagnostic :=
  ⟨.unsupportedRawValueType problem, span⟩

/-- Checks that an attribute declares strings as raw values. -/
def checkDeclaredType (a : Attribute) : Except Diagnostic Unit :=
  match declaredType a with
  | some tokens =>
      if Token.lexemesAll tokens = stringType then .ok ()
      else .error (rawValueDiagnostic (.notString (Token.render tokens)) (Token.spanAll tokens))
  | none => .error (rawValueDiagnostic (.notString (Token.render a.content)) a.span)

/-- Checks that the first attribute that declares raw values declares strings. -/
def requireStringRawValue (item : Item) : Except Diagnostic Unit :=
  match item.attributes.find? (·.isNamed rawValueAttribute) with
  | some a => checkDeclaredType a
  | none => .error (rawValueDiagnostic .missing item.name.span)

end Item

namespace Variant

/-- The case of a variant that is a plain name.  Fields are reported before a discriminant. -/
def toCase (variant : Variant) : Except Diagnostic Case :=
  let rawValue := variant.name.ident.name
  if variant.hasFields then
    .error (Item.rawValueDiagnostic (.caseWithFields rawValue) variant.span)
  else if variant.hasDiscriminant then
    .error
      (Item.rawValueDiagnostic (.caseWithDiscriminant rawValue)
        (Token.spanAll variant.discriminant))
  else .ok ⟨variant.name.ident, rawValue⟩

/-- The cases of an enum in the order in which they are declared, or what is wrong with the first
bad one. -/
def toCases : List Variant → Except Diagnostic (List Case)
  | [] => .ok []
  | variant :: rest => do
      let case ← variant.toCase
      return case :: (← toCases rest)

end Variant

end Caseless
