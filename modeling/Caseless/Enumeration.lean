import Caseless.Expansion
import Caseless.Generated.Meaning
import Caseless.UnknownCase

/-!
# Enumerations at run time

An enumeration is an enum together with the declarations that were generated for it.  A text is
parsed to the case that it selects, or to the answer that it matches none.
-/

namespace Caseless

/-- An enum with its generated declarations. -/
structure Enumeration where
  name : String
  initializer : Initializer
  extension : Option Extension

namespace Enumeration

/-- The enumeration that some generated declarations make up. -/
def ofGenerated? (name : String) : List Generated → Option Enumeration
  | [.initializer i] => some ⟨name, i, none⟩
  | [.initializer i, .extension e] => some ⟨name, i, some e⟩
  | _ => none

/-- All cases in the order in which they are declared, if the enum can list them. -/
def allCases? (e : Enumeration) : Option (List Ident) := e.extension.map (·.cases)

/-- The case that a text selects. -/
def fromRawValue (e : Enumeration) (text : String) : Option Ident :=
  e.initializer.fromRawValue (e.allCases?.getD []) text

/-- The raw value of a case. -/
def rawValue (e : Enumeration) (case : Ident) : Option String := e.initializer.rawValue case

/-- The case that a text selects, or the answer that it matches none. -/
def parse (e : Enumeration) (text : String) : Except UnknownCase Ident :=
  match e.fromRawValue text with
  | some case => .ok case
  | none => .error ⟨text⟩

end Enumeration

end Caseless
