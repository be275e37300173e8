/-!
# Sets of characters

A property of characters is listed as closed ranges of code points in ascending order.  Since the
ranges ascend, a search may stop at the first range that begins behind the character.
-/

namespace Caseless
namespace Unicode

/-- A closed range of code points. -/
structure CodeRange where
  /-- The least code point of the range. -/
  first : Nat
  /-- The greatest code point of the range. -/
  last : Nat

/-- Ranges of code points in ascending order. -/
abbrev CharSet := List CodeRange

namespace CharSet

/-- Whether a code point lies in one of the ranges. -/
def containsCode : CharSet → Nat → Bool
  | [], _ => false
  | range :: ranges, n =>
      if n < range.first then false
      else if n ≤ range.last then true
      else containsCode ranges n

/-- Whether a character belongs to the set. -/
def contains (set : CharSet) (c : Char) : Bool :=
  set.containsCode c.toNat

end CharSet

end Unicode
end Caseless
