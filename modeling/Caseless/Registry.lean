import Caseless.Expansion

/-!
# Registered expanders

Expanders are found by name.  Running one on a declaration always gives code.
-/

namespace Caseless

/-- An expander and the name that it is found by. -/
structure Registration where
  name : String
  expand : Item → Except Failure (List Generated)

namespace Registration

/-- The code that an expander gives for a declaration. -/
def run (registration : Registration) (item : Item) : List Lexeme :=
  Expansion.lexemes (registration.expand item)

/-- All expanders. -/
def all : List Registration := [⟨"CaseInsensitive", Caseless.expand⟩]

/-- The expander of the given name. -/
def find? (name : String) : Option Registration := all.find? (·.name == name)

end Registration

end Caseless
