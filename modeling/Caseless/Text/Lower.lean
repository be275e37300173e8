import Caseless.Unicode.Cased
import Caseless.Unicode.Lowercase

/-!
# Lowercase texts

The lowercase form of a text replaces each character by its lowercase form.  Only the capital
sigma looks at its neighbours: it becomes the final sigma at the end of a word and the ordinary
small sigma elsewhere.  No locale and no normalisation take part.
-/

namespace Caseless
namespace Text

open Unicode

/-- The capital sigma. -/
def capitalSigma : Char := Char.ofNat 0x3A3

/-- The small sigma that stands at the end of a word. -/
def finalSigma : Char := Char.ofNat 0x3C2

/-- The small sigma that stands elsewhere. -/
def innerSigma : Char := Char.ofNat 0x3C3

/-- Whether the nearest character that is not case-ignorable is a cased one. -/
def casedNext (cs : List Char) : Bool :=
  match cs.dropWhile caseIgnorable.contains with
  | [] => false
  | c :: _ => cased.contains c

/-- The lowercase form of a capital sigma between the characters before it, nearest first, and
the characters after it: it ends a word when a cased character precedes and none follows. -/
def lowerSigma (before after : List Char) : Char :=
  if casedNext before && !casedNext after then finalSigma else innerSigma

/-- The lowercase form of a character between its neighbours. -/
def lowerBetween (before : List Char) (c : Char) (after : List Char) : List Char :=
  if c = capitalSigma then [lowerSigma before after] else lowerChar c

/-- The lowercase form of the characters that follow `before`, given nearest first. -/
def lowerAfter (before : List Char) : List Char → List Char
  | [] => []
  | c :: after => lowerBetween before c after ++ lowerAfter (c :: before) after

/-- The lowercase form of a list of characters. -/
def lowerChars (cs : List Char) : List Char :=
  lowerAfter [] cs

/-- The lowercase form of a text. -/
def lower (s : String) : String :=
  String.ofList (lowerChars s.toList)

end Text
end Caseless
