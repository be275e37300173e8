import Caseless.Unicode.Printable

/-!
# Quoted texts

A text is written between double quotes.  Quotes, backslashes and the common controls have named
escapes, a character that cannot be shown has its code point in hexadecimal, and all else stands
as it is.  Two styles differ in one point: whether a NUL in front of an octal digit is spelt out.
-/

namespace Caseless
namespace Text

open Unicode

/-- How a text is quoted. -/
structure QuoteStyle where
  /-- Whether a NUL in front of an octal digit is written with two hexadecimal digits, so that it
  cannot be misread as the beginning of an octal escape. -/
  guardNul : Bool

/-- The style of string literals in generated code. -/
def QuoteStyle.literal : QuoteStyle := ⟨true⟩

/-- The style of texts shown for debugging. -/
def QuoteStyle.debug : QuoteStyle := ⟨false⟩

/-- The character with code point zero. -/
def nul : Char := Char.ofNat 0

/-- Whether a text begins with an octal digit. -/
def startsOctal : List Char → Bool
  | [] => false
  | c :: _ => '0' ≤ c && c ≤ '7'

/-- The escape of a character by its code point, in lower case and without leading zeros. -/
def codeEscape (c : Char) : List Char :=
  ['\\', 'u', '{'] ++ Nat.toDigits 16 c.toNat ++ ['}']

/-- How a character is written inside quotes in front of the characters `after`. -/
def escapeChar (style : QuoteStyle) (c : Char) (after : List Char) : List Char :=
  if c = nul then
    if style.guardNul && startsOctal after then ['\\', 'x', '0', '0'] else ['\\', '0']
  else if c = '\t' then ['\\', 't']
  else if c = '\r' then ['\\', 'r']
  else if c = '\n' then ['\\', 'n']
  else if c = '\\' || c = '"' then ['\\', c]
  else if isShown c then [c]
  else codeEscape c

/-- How the characters of a text are written inside quotes. -/
def escape (style : QuoteStyle) : List Char → List Char
  | [] => []
  | c :: after => escapeChar style c after ++ escape style after

/-- A text between double quotes. -/
def quote (style : QuoteStyle) (s : String) : String :=
  String.ofList ('"' :: escape style s.toList ++ ['"'])

end Text
end Caseless
