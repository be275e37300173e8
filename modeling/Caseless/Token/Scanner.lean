import Caseless.Text.Cooked
import Caseless.Unicode.Blank
import Caseless.Unicode.Identifier

/-!
# Scanning the pieces of a text

A scanner looks at the front of a list of characters.  When its piece stands there, it gives what
follows the piece; the piece itself is what was left out.  Each scanner takes the longest piece
of its kind.
-/

namespace Caseless

/-- Gives what follows the piece at the front of a text, if the piece stands there. -/
abbrev Scanner := List Char → Option (List Char)

namespace Scanner

open Unicode

/-- The front of `cs` that a scanner took when it left `rest`. -/
def taken (cs rest : List Char) : List Char :=
  cs.take (cs.length - rest.length)

/-- Scans a fixed text. -/
def exactly : List Char → Scanner
  | [], cs => some cs
  | _ :: _, [] => none
  | p :: ps, c :: cs => if p = c then exactly ps cs else none

/-- Scans a fixed text given as a string. -/
def text (s : String) : Scanner :=
  exactly s.toList

/-- Whether a text begins with a fixed text. -/
def startsWith (cs : List Char) (s : String) : Bool :=
  (text s cs).isSome

section Names

/-- Scans an identifier without the raw mark. -/
def name : Scanner
  | [] => none
  | c :: cs => if isIdentStart c then some (cs.dropWhile isIdentContinue) else none

/-- Skips an identifier if one stands there. -/
def optionalName (cs : List Char) : List Char :=
  (name cs).getD cs

/-- Whether the next character could still belong to an identifier. -/
def continuesName : List Char → Bool
  | [] => false
  | c :: _ => isIdentContinue c

/-- The names that cannot be written with the raw mark. -/
def neverRaw : List String :=
  ["_", "super", "self", "Self", "crate"]

end Names

section Numbers

/-- Whether a character is a decimal digit. -/
def isDigit (c : Char) : Bool :=
  '0' ≤ c && c ≤ '9'

/-- Whether a character is a decimal digit or an underscore. -/
def isDigitOrLine (c : Char) : Bool :=
  isDigit c || c == '_'

/-- Scans the digits of a base.  A decimal digit that the base lacks is refused, a letter that the
base lacks ends the digits; decimal digits do not begin with an underscore. -/
def digitsOf (base : Nat) (empty : Bool) : Scanner
  | [] => if empty then none else some []
  | c :: cs =>
      if c = '_' then
        if empty && base == 10 then none else digitsOf base empty cs
      else
        match Text.hexValue? c with
        | some digit =>
            if digit < base then digitsOf base false cs
            else if digit < 10 then none
            else if empty then none else some (c :: cs)
        | none => if empty then none else some (c :: cs)

/-- Scans the digits of an integer with the mark of its base. -/
def digits (cs : List Char) : Option (List Char) :=
  match cs with
  | '0' :: 'x' :: rest => digitsOf 16 true rest
  | '0' :: 'o' :: rest => digitsOf 8 true rest
  | '0' :: 'b' :: rest => digitsOf 2 true rest
  | _ => digitsOf 10 true cs

/-- Scans the exponent behind its letter: one sign before the first digit, digits and
underscores.  Without a digit, or with a second sign, there is no exponent and the answer is
`otherwise`. -/
def exponent (otherwise : Option (List Char)) (signed valued : Bool) : Scanner
  | [] => if valued then some [] else otherwise
  | c :: cs =>
      if c = '+' || c = '-' then
        if valued then some (c :: cs)
        else if signed then otherwise
        else exponent otherwise true valued cs
      else if isDigit c then exponent otherwise signed true cs
      else if c = '_' then exponent otherwise signed valued cs
      else if valued then some (c :: cs)
      else otherwise

/-- Whether the letter of an exponent comes next. -/
def isExponentMark (c : Char) : Bool :=
  c == 'e' || c == 'E'

/-- Scans what follows the point of a number: digits and perhaps an exponent. -/
def fraction (cs : List Char) : Option (List Char) :=
  match cs.dropWhile isDigitOrLine with
  | c :: rest =>
      if isExponentMark c then exponent (some (c :: rest)) false false rest else some (c :: rest)
  | [] => some []

/-- Whether a point in front of these characters belongs to a number: not if another point or a
name follows it. -/
def pointEndsNumber : List Char → Bool
  | [] => true
  | c :: _ => !(c == '.' || isIdentStart c)

/-- Scans the digits of a number that has a point or an exponent. -/
def floatDigits : Scanner
  | [] => none
  | c :: cs =>
      if isDigit c then
        match cs.dropWhile isDigitOrLine with
        | d :: rest =>
            if d = '.' then
              if pointEndsNumber rest then fraction rest else none
            else if isExponentMark d then exponent none false false rest
            else none
        | [] => none
      else none

/-- Scans a number whose digits are scanned by `p`, with a suffix if there is one; it must not run
into further characters of a name. -/
def suffixed (p : Scanner) (cs : List Char) : Option (List Char) :=
  match p cs with
  | some rest => if continuesName (optionalName rest) then none else some (optionalName rest)
  | none => none

/-- Scans a number with a point or an exponent. -/
def float : Scanner := suffixed floatDigits

def integer : Scanner := suffixed digits

end Numbers

section Literals

/-- Scans a quoted text of the given kind behind its opening quote, with a suffix. -/
def quoted (kind : Text.QuotedKind) (cs : List Char) : Option (List Char) :=
  (Text.readQuoted kind cs).map fun result => optionalName result.2

/-- Scans the given number of number signs. -/
def hashes : Nat → Scanner
  | 0, cs => some cs
  | n + 1, '#' :: cs => hashes n cs
  | _ + 1, _ => none

/-- Scans the body of a raw text up to the quote that is followed by as many number signs as
stood in front of the text. -/
def rawBody (admits : Char → Bool) (count : Nat) : Scanner
  | [] => none
  | '\r' :: '\n' :: cs => rawBody admits count cs
  | c :: cs =>
      if c = '\r' then none
      else if c = '"' then
        match hashes count cs with
        | some rest => some rest
        | none => rawBody admits count cs
      else if admits c then rawBody admits count cs
      else none

/-- The greatest number of number signs in front of a raw text. -/
def maxHashes : Nat := 255

/-- Scans a raw text behind its letters, with a suffix. -/
def raw (admits : Char → Bool) (cs : List Char) : Option (List Char) :=
  match cs.dropWhile (· == '#') with
  | '"' :: rest =>
      if (cs.takeWhile (· == '#')).length ≤ maxHashes then
        (rawBody admits (cs.takeWhile (· == '#')).length rest).map optionalName
      else none
  | _ => none

/-- Scans a single character of the given kind behind its opening apostrophe, with a suffix. -/
def character (kind : Text.QuotedKind) (cs : List Char) : Option (List Char) :=
  match Text.readCharacter kind cs with
  | some (_, '\x27' :: rest) => some (optionalName rest)
  | _ => none

/-- Scans a string literal. -/
def string : Scanner
  | '"' :: cs => quoted .text cs
  | 'r' :: cs => raw Text.QuotedKind.text.admits cs
  | _ => none

/-- Scans a byte string literal. -/
def byteString : Scanner
  | 'b' :: '"' :: cs => quoted .byteString cs
  | 'b' :: 'r' :: cs => raw Text.QuotedKind.byteString.admits cs
  | _ => none

/-- Scans a literal of a text that is ended by a NUL. -/
def nulEndedString : Scanner
  | 'c' :: '"' :: cs => quoted .nulEnded cs
  | 'c' :: 'r' :: cs => raw Text.QuotedKind.nulEnded.admits cs
  | _ => none

/-- Scans a byte literal or a character literal. -/
def single : Scanner
  | 'b' :: '\x27' :: cs => character .byteString cs
  | '\x27' :: cs => character .text cs
  | _ => none

def literal (cs : List Char) : Option (List Char) :=
  string cs <|> byteString cs <|> nulEndedString cs <|> single cs <|> float cs <|> integer cs

end Literals

section Comments

/-- The rest of a line and what follows it.  The line ends in front of a line feed or of a
carriage return with a line feed, and the carriage return belongs to neither part. -/
def line : List Char → List Char × List Char
  | [] => ([], [])
  | '\r' :: '\n' :: cs => ([], '\n' :: cs)
  | c :: cs => if c = '\n' then ([], c :: cs) else (c :: (line cs).1, (line cs).2)

/-- Scans to the end of a block comment that is nested `depth` deep at this point. -/
def blockEnd : Nat → Scanner
  | _, [] => none
  | depth, '/' :: '*' :: cs => blockEnd (depth + 1) cs
  | depth, '*' :: '/' :: cs => if depth ≤ 1 then some cs else blockEnd (depth - 1) cs
  | depth, _ :: cs => blockEnd depth cs

/-- Scans a block comment, comments inside it included. -/
def block : Scanner
  | '/' :: '*' :: cs => blockEnd 1 cs
  | _ => none

/-- Whether a line comment that documents nothing comes next. -/
def startsLineComment (cs : List Char) : Bool :=
  startsWith cs "//" && (!startsWith cs "///" || startsWith cs "////") && !startsWith cs "//!"

/-- Whether a block comment that documents nothing comes next. -/
def startsBlockComment (cs : List Char) : Bool :=
  startsWith cs "/**/" ||
    (startsWith cs "/*" && (!startsWith cs "/**" || startsWith cs "/***") && !startsWith cs "/*!")

/-- Skips one blank character or one comment that documents nothing. -/
def filler (cs : List Char) : Option (List Char) :=
  if startsLineComment cs then some (line cs).2
  else if startsBlockComment cs then block cs
  else
    match cs with
    | c :: rest => if isBlank c then some rest else none
    | [] => none

/-- Skips at most the given number of blanks and comments. -/
def skipUpTo : Nat → List Char → List Char
  | 0, cs => cs
  | n + 1, cs =>
      match filler cs with
      | some rest => skipUpTo n rest
      | none => cs

/-- Skips all blanks and comments; each takes at least one character. -/
def skip (cs : List Char) : List Char :=
  skipUpTo cs.length cs

/-- A comment that documents the item it stands in front of, or the item it stands in. -/
structure DocComment where
  /-- Whether it documents the item it stands in. -/
  inner : Bool
  /-- What it says, without the marks of the comment. -/
  text : List Char

/-- Whether every carriage return is followed by a line feed. -/
def returnsPaired : List Char → Bool
  | [] => true
  | '\r' :: '\n' :: cs => returnsPaired cs
  | c :: cs => c != '\r' && returnsPaired cs

/-- The text of a block comment without its marks of three and two characters. -/
def blockText (cs rest : List Char) : List Char :=
  ((taken cs rest).drop 3).dropLast.dropLast

/-- Reads a documenting comment whatever its carriage returns. -/
def anyDocComment (cs : List Char) : Option (DocComment × List Char) :=
  if startsWith cs "//!" then some (⟨true, (line (cs.drop 3)).1⟩, (line (cs.drop 3)).2)
  else if startsWith cs "/*!" then
    (block cs).map fun rest => (⟨true, blockText cs rest⟩, rest)
  else if startsWith cs "///" then
    if startsWith cs "////" then none
    else some (⟨false, (line (cs.drop 3)).1⟩, (line (cs.drop 3)).2)
  else if startsWith cs "/**" && !startsWith cs "/***" then
    (block cs).map fun rest => (⟨false, blockText cs rest⟩, rest)
  else none

/-- Reads a documenting comment. -/
def docComment (cs : List Char) : Option (DocComment × List Char) :=
  match anyDocComment cs with
  | some (doc, rest) => if returnsPaired doc.text then some (doc, rest) else none
  | none => none

end Comments

end Scanner

end Caseless
