import Caseless.Generated.Branch

/-!
# Generated declarations

Two implementations can be generated for an enum: the initializer looks a case up by its raw
value and gives the raw value of a case, and the extension lists all cases.
-/

namespace Caseless

/-- The type that an implementation is for. -/
structure Target where
  name : Ident
  generics : Generics

/-- How an initializer finds the case that matches. -/
inductive Lookup where
  | branchTable (branches : List Branch)
  | allCases

/-- The implementation that looks cases up by their raw values. -/
structure Initializer where
  target : Target
  /-- The path under which the traits are found. -/
  root : List Lexeme
  cases : List Case
  lookup : Lookup

/-- The implementation that lists all cases. -/
structure Extension where
  target : Target
  /-- The path under which the traits are found. -/
  root : List Lexeme
  cases : List Ident

/-- A generated declaration. -/
inductive Generated where
  | initializer (initializer : Initializer)
  | extension (extension : Extension)

namespace Generated

/-- The word for a kind of generated declaration. -/
def describe : Generated → String
  | initializer _ => "Initializer"
  | extension _ => "Extension"

end Generated

end Caseless
