/-!
# Reading quoted texts

Reading a quoted text goes character by character through a small automaton: it accepts exactly
the escapes that the kind of text knows, and gives the characters that are meant.  A backslash at
the end of a line joins the next line to it, blanks at its front left out; a carriage return must
be followed by a line feed and the two mean a line feed.
-/

namespace Caseless
namespace Text

/-- What a kind of quoted text admits. -/
structure QuotedKind where
  /-- The characters that may stand for themselves. -/
  admits : Char → Bool
  /-- Whether an escape may give code point zero. -/
  zero : Bool
  /-- Whether an escape of two hexadecimal digits may reach beyond 127. -/
  bytes : Bool
  /-- Whether escapes by code point are known. -/
  codes : Bool

namespace QuotedKind

/-- Ordinary text. -/
def text : QuotedKind := ⟨fun _ => true, true, false, true⟩

/-- A string of bytes, written in ASCII. -/
def byteString : QuotedKind := ⟨fun c => decide (c.toNat < 128), true, true, false⟩

/-- Text that is ended by a NUL and therefore holds none. -/
def nulEnded : QuotedKind := ⟨fun c => c.toNat != 0, false, true, true⟩

end QuotedKind

/-- The value of a hexadecimal digit. -/
def hexValue? (c : Char) : Option Nat :=
  if '0' ≤ c && c ≤ '9' then some (c.toNat - '0'.toNat)
  else if 'a' ≤ c && c ≤ 'f' then some (c.toNat - 'a'.toNat + 10)
  else if 'A' ≤ c && c ≤ 'F' then some (c.toNat - 'A'.toNat + 10)
  else none

/-- Where the reader of a quoted text stands. -/
inductive Reading where
  /-- Between two characters of the text. -/
  | plain
  /-- Behind a carriage return that stands for itself. -/
  | returned
  /-- Behind a backslash. -/
  | escaped
  /-- In front of the first of two hexadecimal digits. -/
  | byteHigh
  /-- In front of the second of two hexadecimal digits. -/
  | byteLow (high : Nat)
  /-- In front of the brace that opens a code point. -/
  | codeOpen
  /-- Inside the braces, behind `count` digits of the given value. -/
  | code (value count : Nat)
  /-- Behind a line joined to the next, among the blanks left out. -/
  | joining
  /-- Behind a carriage return among those blanks. -/
  | joiningReturned

/-- What reading one character does. -/
inductive Reading.Move where
  /-- The character is not allowed here. -/
  | refuse
  /-- The character is the closing quote. -/
  | close
  /-- The character gives some characters of the text, and reading goes on. -/
  | next (state : Reading) (given : List Char)

namespace Reading

/-- Reads a character that stands for itself or begins an escape. -/
def movePlain (kind : QuotedKind) (c : Char) : Move :=
  if c = '"' then .close
  else if c = '\r' then .next .returned []
  else if c = '\\' then .next .escaped []
  else if kind.admits c then .next .plain [c]
  else .refuse

/-- Reads the character behind a backslash. -/
def moveEscaped (kind : QuotedKind) (c : Char) : Move :=
  if c = 'x' then .next .byteHigh []
  else if c = 'n' then .next .plain ['\n']
  else if c = 'r' then .next .plain ['\r']
  else if c = 't' then .next .plain ['\t']
  else if c = '\\' || c = '"' || c = '\x27' then .next .plain [c]
  else if c = '0' && kind.zero then .next .plain [Char.ofNat 0]
  else if c = 'u' && kind.codes then .next .codeOpen []
  else if c = '\n' then .next .joining []
  else if c = '\r' then .next .joiningReturned []
  else .refuse

/-- Reads the first of two hexadecimal digits. -/
def moveByteHigh (kind : QuotedKind) (c : Char) : Move :=
  match hexValue? c with
  | some high => if kind.bytes || decide (high < 8) then .next (.byteLow high) [] else .refuse
  | none => .refuse

/-- Reads the second of two hexadecimal digits. -/
def moveByteLow (kind : QuotedKind) (high : Nat) (c : Char) : Move :=
  match hexValue? c with
  | some low =>
      if kind.zero || decide (0 < high * 16 + low) then
        .next .plain [Char.ofNat (high * 16 + low)]
      else .refuse
  | none => .refuse

/-- Reads a character inside the braces of a code point: up to six digits, with underscores
anywhere behind the first, that name a character. -/
def moveCode (kind : QuotedKind) (value count : Nat) (c : Char) : Move :=
  match hexValue? c with
  | some digit => if count = 6 then .refuse else .next (.code (value * 16 + digit) (count + 1)) []
  | none =>
      if count = 0 then .refuse
      else if c = '_' then .next (.code value count) []
      else if c = '}' then
        if value.isValidChar && (kind.zero || decide (0 < value)) then
          .next .plain [Char.ofNat value]
        else .refuse
      else .refuse

/-- Reads one character of a quoted text. -/
def move (kind : QuotedKind) : Reading → Char → Move
  | .plain, c => movePlain kind c
  | .returned, c => if c = '\n' then .next .plain ['\n'] else .refuse
  | .escaped, c => moveEscaped kind c
  | .byteHigh, c => moveByteHigh kind c
  | .byteLow high, c => moveByteLow kind high c
  | .codeOpen, c => if c = '{' then .next (.code 0 0) [] else .refuse
  | .code value count, c => moveCode kind value count c
  | .joining, c =>
      if c = ' ' || c = '\t' || c = '\n' then .next .joining []
      else if c = '\r' then .next .joiningReturned []
      else movePlain kind c
  | .joiningReturned, c => if c = '\n' then .next .joining [] else .refuse

end Reading

/-- Reads a quoted text from the given state: the text that is meant, and what follows the closing
quote. -/
def readFrom (kind : QuotedKind) : Reading → List Char → Option (List Char × List Char)
  | _, [] => none
  | state, c :: cs =>
      match state.move kind c with
      | .refuse => none
      | .close => some ([], cs)
      | .next state given =>
          (readFrom kind state cs).map fun result => (given ++ result.1, result.2)

/-- Reads a quoted text behind its opening quote. -/
def readQuoted (kind : QuotedKind) (cs : List Char) : Option (List Char × List Char) :=
  readFrom kind .plain cs

/-- Reads one escape from the given state: the character that is meant, and what follows it. -/
def readEscapeFrom (kind : QuotedKind) : Reading → List Char → Option (Char × List Char)
  | _, [] => none
  | state, c :: cs =>
      match state.move kind c with
      | .next .plain [value] => some (value, cs)
      | .next .joining _ => none
      | .next .joiningReturned _ => none
      | .next state _ => readEscapeFrom kind state cs
      | _ => none

/-- Reads one character behind an opening apostrophe, written as it is or as an escape; behind a
backslash only an escape is read. -/
def readCharacter (kind : QuotedKind) : List Char → Option (Char × List Char)
  | [] => none
  | c :: cs =>
      if c = '\\' then readEscapeFrom kind .escaped cs
      else if kind.admits c then some (c, cs)
      else none

end Text
end Caseless
