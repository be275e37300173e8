import Caseless.Grammar.Cursor
import Caseless.Grammar.Lookahead
import Caseless.Token.Scanner

/-!
# The smallest things that rules read

Each terminal reads at least one token and gives it in the form in which it is printed: the
characters of a symbol belong together, and the last of them stands alone.
-/

namespace Caseless

/-- What a rule reads without looking into it. -/
inductive Terminal where
  /-- A symbol. -/
  | symbol (text : String)
  /-- A symbol that is printed as another one of the same length. -/
  | respelt (written printed : String)
  /-- A keyword. -/
  | keyword (word : String)
  /-- An identifier that is no keyword. -/
  | ident
  /-- An identifier or a keyword. -/
  | word
  /-- A lifetime. -/
  | lifetime
  /-- A literal. -/
  | literal
  /-- A string literal. -/
  | string
  /-- A group of any kind, with its content as it is written. -/
  | delimited
  /-- The number of a field. -/
  | index
  /-- The numbers of a field and of a field of that field, written like a decimal fraction. -/
  | indexPair

namespace Terminal

section Numbers

/-- The value of digits of a base, among which underscores may stand. -/
def digitsValue? (base : Nat) : List Char → Nat → Option Nat
  | [], value => some value
  | c :: cs, value =>
      if c = '_' then digitsValue? base cs value
      else
        match Text.hexValue? c with
        | some digit => if digit < base then digitsValue? base cs (value * base + digit) else none
        | none => none

/-- The value of an integer without a suffix. -/
def integerValue? : List Char → Option Nat
  | '0' :: 'x' :: cs => digitsValue? 16 cs 0
  | '0' :: 'o' :: cs => digitsValue? 8 cs 0
  | '0' :: 'b' :: cs => digitsValue? 2 cs 0
  | [] => none
  | cs => digitsValue? 10 cs 0

/-- The number of a field, which has at most 32 bits. -/
def indexValue? (cs : List Char) : Option Nat :=
  match integerValue? cs with
  | some value => if value < 0x100000000 then some value else none
  | none => none

/-- Whether the text of a literal is that of a number with a point or an exponent. -/
def isFloatText (text : String) : Bool :=
  match text.toList with
  | '0' :: c :: rest =>
      if c = 'x' || c = 'o' || c = 'b' then false
      else (Scanner.floatDigits ('0' :: c :: rest)).isSome
  | cs => (Scanner.floatDigits cs).isSome

/-- Whether the text of a literal is that of an integer. -/
def isIntegerText (text : String) : Bool :=
  Token.isNumberText text && !isFloatText text

/-- Whether the text of a literal is that of a string. -/
def isStringText (text : String) : Bool :=
  match text.toList with
  | '"' :: _ => true
  | 'r' :: _ => true
  | _ => false

end Numbers

/-- The columns between two offsets of a token that stands on one line. -/
def part (span : Span) (first last : Nat) : Span :=
  ⟨⟨span.start.line, span.start.column + first⟩, ⟨span.start.line, span.start.column + last⟩⟩

/-- The token of a field number. -/
def indexToken (value : Nat) (span : Span) : Token :=
  .literal (toString value) span

/-- The tokens of two field numbers with a point between them, and perhaps a point behind. -/
def indexPairTokens (text : List Char) (span : Span) : Option (List Token) :=
  let first := text.takeWhile (· != '.')
  let second := (text.dropWhile (· != '.')).drop 1
  let point := Token.punct '.' .alone (part span first.length (first.length + 1))
  match indexValue? first with
  | some value =>
      if second.isEmpty then
        some [indexToken value (part span 0 first.length), point]
      else
        (indexValue? second).map fun other =>
          [indexToken value (part span 0 first.length), point,
            indexToken other (part span (first.length + 1) text.length)]
  | none => none

/-- Changes the characters of a symbol and keeps their places. -/
def respell : List Char → List Token → List Token
  | c :: cs, .punct _ spacing span :: tokens => .punct c spacing span :: respell cs tokens
  | _, tokens => tokens

/-- Takes a terminal from the front of some tokens. -/
def take : Terminal → List Token → Option (List Token × List Token)
  | symbol text, tokens => Token.takeSymbol text.toList tokens
  | respelt written printed, tokens =>
      (Token.takeSymbol written.toList tokens).map fun result =>
        (respell printed.toList result.1, result.2)
  | keyword w, .ident i span :: rest => if i.isWord w then some ([.ident i span], rest) else none
  | ident, .ident i span :: rest => if i.isReserved then none else some ([.ident i span], rest)
  | word, .ident i span :: rest => some ([.ident i span], rest)
  | lifetime, .punct '\x27' .joint mark :: .ident i span :: rest =>
      some ([.punct '\x27' .joint mark, .ident i span], rest)
  | literal, .literal text span :: rest => some ([.literal text span], rest)
  | literal, .ident i span :: rest =>
      if i.isWord "true" || i.isWord "false" then some ([.ident i span], rest) else none
  | literal, .punct '-' _ mark :: .literal text span :: rest =>
      if Token.isNumberText text then
        some ([.punct '-' .alone mark, .literal text span], rest)
      else none
  | string, .literal text span :: rest =>
      if isStringText text then some ([.literal text span], rest) else none
  | delimited, .group d content opening closing :: rest =>
      some ([.group d content opening closing], rest)
  | index, .literal text span :: rest =>
      (indexValue? text.toList).map fun value => ([indexToken value span], rest)
  | indexPair, .literal text span :: rest =>
      (indexPairTokens text.toList span).map fun tokens => (tokens, rest)
  | _, _ => none

/-- What is said when a terminal does not stand in front of these tokens. -/
def complaint : Terminal → List Token → Complaint
  | symbol text, _ => .symbol text
  | respelt written _, _ => .symbol written
  | keyword w, _ => .keyword w
  | ident, .ident i _ :: _ => .reserved i.name
  | ident, _ => .wanted "identifier"
  | word, _ => .wanted "ident"
  | lifetime, _ => .wanted "lifetime"
  | literal, _ => .wanted "literal"
  | string, _ => .wanted "string literal"
  | delimited, _ => .wanted "delimiter"
  | index, _ => .wanted "integer literal"
  | indexPair, _ => .wanted "integer literal"

def read (terminal : Terminal) : Parser (List Token) :=
  fun cursor =>
    Parser.takeOr terminal.take (terminal.complaint cursor.tokens) cursor

end Terminal

end Caseless
