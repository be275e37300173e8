import Caseless.Generated.Basic

/-!
# What generated declarations compute

A value of the enum is one of its cases.  The initializer answers with the first case that
matches: by the pattern of a branch, or by searching through the cases that the extension lists
for one whose raw value, in lowercase, is the lowercase text.
-/

namespace Caseless

namespace Branch

/-- The case of the first branch whose pattern is the given text. -/
def select (branches : List Branch) (text : String) : Option Ident :=
  (branches.find? (·.pattern == text)).map (·.case)

end Branch

namespace Initializer

/-- The raw value of a case: that of the first arm for it. -/
def rawValue (i : Initializer) (case : Ident) : Option String :=
  (i.cases.find? (·.ident == case)).map (·.rawValue)

/-- Whether the raw value of a case is the given text after both are lowercased. -/
def matchesRawValue (i : Initializer) (text : String) (case : Ident) : Bool :=
  (i.rawValue case).map Text.lower == some (Text.lower text)

/-- The case that a text selects, where `all` are the cases that the extension lists. -/
def fromRawValue (i : Initializer) (all : List Ident) (text : String) : Option Ident :=
  match i.lookup with
  | .branchTable branches => Branch.select branches (Text.lower text)
  | .allCases => all.find? (i.matchesRawValue text)

end Initializer

end Caseless
