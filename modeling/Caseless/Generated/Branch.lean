import Caseless.Declaration.Case
import Caseless.Text.Lower

/-!
# Branch tables

A branch table has one branch for each different lowercase raw value, in the order in which the
cases are declared.  Of cases that collide after lowercasing the first has the branch.
-/

namespace Caseless

/-- A lowercase raw value and the case that it selects. -/
structure Branch where
  pattern : String
  case : Ident
  deriving DecidableEq

namespace Branch

/-- The branches of cases, where the patterns in `seen` are already taken. -/
def tableFrom (seen : List String) : List Case → List Branch
  | [] => []
  | case :: cases =>
      let pattern := Text.lower case.rawValue
      if pattern ∈ seen then tableFrom seen cases
      else ⟨pattern, case.ident⟩ :: tableFrom (pattern :: seen) cases

/-- The branch table of some cases. -/
def table (cases : List Case) : List Branch := tableFrom [] cases

end Branch

end Caseless
