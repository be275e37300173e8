import Caseless.Unicode.CharSet

/-!
# Blank characters

Between two tokens stand characters with the property `White_Space`, and the two marks that only
set the direction of writing.
-/

namespace Caseless
namespace Unicode

/-- The characters with the property `White_Space`. -/
def whiteSpace : CharSet := [
    ⟨0x9, 0xD⟩, ⟨0x20, 0x20⟩, ⟨0x85, 0x85⟩, ⟨0xA0, 0xA0⟩,
    ⟨0x1680, 0x1680⟩, ⟨0x2000, 0x200A⟩, ⟨0x2028, 0x2029⟩, ⟨0x202F, 0x202F⟩,
    ⟨0x205F, 0x205F⟩, ⟨0x3000, 0x3000⟩]

/-- The left-to-right mark and the right-to-left mark. -/
def directionMarks : CharSet := [⟨0x200E, 0x200F⟩]

/-- Whether a character separates tokens and means nothing else. -/
def isBlank (c : Char) : Bool :=
  whiteSpace.contains c || directionMarks.contains c

end Unicode
end Caseless
