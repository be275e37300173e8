import Caseless.Declaration.Item
import Caseless.Template

/-!
# Diagnostics

A diagnostic says why nothing can be generated for a declaration.  Its problem determines its
identifier and its text; the compile error shows both.
-/

namespace Caseless

/-- What is wrong with the raw values of an enum. -/
inductive RawValueProblem where
  /-- No raw value type is declared. -/
  | missing
  /-- The declared raw value type is another one. -/
  | notString (found : String)
  /-- A case has fields. -/
  | caseWithFields (case : String)
  /-- A case declares a discriminant. -/
  | caseWithDiscriminant (case : String)

/-- Why nothing can be generated for a declaration. -/
inductive Problem where
  /-- The declaration is no enum. -/
  | notAnEnum (name : String) (found : ItemKind)
  /-- Its cases do not have raw values that are strings. -/
  | unsupportedRawValueType (problem : RawValueProblem)

/-- How grave a diagnostic is. -/
inductive Severity where
  | error

/-- A problem and the place that it is about. -/
structure Diagnostic where
  problem : Problem
  span : Span

namespace Severity

/-- The word for a severity. -/
def describe : Severity → String
  | error => "Error"

end Severity

namespace RawValueProblem

/-- The text of a problem with raw values. -/
def message : RawValueProblem → String
  | missing =>
      "`CaseInsensitive` requires the enum to declare a raw value type with " ++
        "`#[raw_value(String)]`"
  | notString found =>
      "`CaseInsensitive` only supports `String` raw values, found `" ++ found ++ "`"
  | caseWithFields case =>
      "`CaseInsensitive` requires a `String` raw value for every case, but case `" ++ case ++
        "` has fields"
  | caseWithDiscriminant case =>
      "`CaseInsensitive` requires a `String` raw value for every case, but case `" ++ case ++
        "` declares a discriminant"

end RawValueProblem

namespace Problem

/-- The text of a problem. -/
def message : Problem → String
  | notAnEnum name found =>
      "`CaseInsensitive` can only be derived for enums, but `" ++ name ++ "` is a " ++
        found.describe
  | unsupportedRawValueType problem => problem.message

/-- The part of the program that diagnostics come from. -/
def domain : String := "CaseInsensitiveMacros"

/-- The name of a problem within its domain. -/
def name : Problem → String
  | notAnEnum .. => "NotAnEnum"
  | unsupportedRawValueType _ => "UnsupportedRawValueType"

/-- The identifier of a problem, which does not depend on its text. -/
def id (problem : Problem) : String := domain ++ "::" ++ problem.name

/-- How grave a problem is. -/
def severity (_ : Problem) : Severity := .error

/-- The text of the compile error: that of the problem and its identifier. -/
def compileErrorText (problem : Problem) : String :=
  problem.message ++ " [" ++ problem.id ++ "]"

/-- The code that reports a problem. -/
def lexemes (problem : Problem) : List Lexeme :=
  Template.compileError problem.compileErrorText

end Problem

end Caseless
