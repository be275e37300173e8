import Caseless.Text.Quoted
import Caseless.Token.Basic
import Caseless.Token.Scanner

/-!
# Splitting a text into lexemes

The lexer skips blanks and comments and reads one lexeme after the other, each with its place.  A
documenting comment is read as the attribute that it stands for.  Delimiters are lexemes like all
others; whether they match is for the reader of groups to say.
-/

namespace Caseless

namespace Lexer

open Scanner Unicode

/-- The punctuation characters. -/
def punctuation : List Char :=
  "~!@#$%^&*-=+|;:,<.>/?\x27".toList

/-- Reads a punctuation character; a slash that begins a comment is none. -/
def punctChar (cs : List Char) : Option (Char × List Char) :=
  if startsWith cs "//" || startsWith cs "/*" then none
  else
    match cs with
    | c :: rest => if c ∈ punctuation then some (c, rest) else none
    | [] => none

/-- The marks that begin a literal and therefore no identifier. -/
def literalMarks : List String :=
  ["r\"", "r#\"", "r##", "b\"", "b\x27", "br\"", "br#", "c\"", "cr\"", "cr#"]

/-- Reads an identifier, with or without the raw mark. -/
def anyIdent (cs : List Char) : Option (Ident × List Char) :=
  match text Ident.rawMark cs with
  | some body =>
      match name body with
      | some rest =>
          if String.ofList (taken body rest) ∈ neverRaw then none
          else some (⟨String.ofList (taken body rest), true⟩, rest)
      | none => none
  | none =>
      match name cs with
      | some rest => some (⟨String.ofList (taken cs rest), false⟩, rest)
      | none => none

/-- Reads an identifier where a literal could stand. -/
def ident (cs : List Char) : Option (Ident × List Char) :=
  if literalMarks.any (startsWith cs) then none else anyIdent cs

/-- Whether a lifetime follows an apostrophe: an identifier that does not run into another
apostrophe, nor, if it is not raw, into a number sign. -/
def startsLifetime (cs : List Char) : Bool :=
  match anyIdent cs with
  | some (i, rest) => !(startsWith rest "\x27") && (i.raw || !(startsWith rest "#"))
  | none => false

/-- Reads a punctuation character with its spacing.  An apostrophe belongs together with the
lifetime behind it, any other character with a punctuation character behind it. -/
def punct (cs : List Char) : Option (Lexeme × List Char) :=
  match punctChar cs with
  | some (c, rest) =>
      if c = '\x27' then
        if startsLifetime rest then some (.punct c .joint, rest) else none
      else
        some (.punct c (if (punctChar rest).isSome then .joint else .alone), rest)
  | none => none

/-- The literal that stands for a part of a text that could not be printed. -/
def errorMark : String := "(/*ERROR*/)"

/-- The delimiter that a character opens. -/
def opens? (c : Char) : Option Delimiter :=
  if c = '(' then some .parenthesis
  else if c = '[' then some .bracket
  else if c = '{' then some .brace
  else none

/-- The delimiter that a character closes. -/
def closes? (c : Char) : Option Delimiter :=
  if c = ')' then some .parenthesis
  else if c = ']' then some .bracket
  else if c = '}' then some .brace
  else none

/-- Reads a delimiter. -/
def delimiter : List Char → Option (Lexeme × List Char)
  | [] => none
  | c :: rest =>
      match opens? c, closes? c with
      | some d, _ => if startsWith (c :: rest) errorMark then none else some (.opening d, rest)
      | none, some d => some (.closing d, rest)
      | none, none => none

/-- Reads a lexeme that is no delimiter.  A literal comes before an identifier, since both may
begin with a letter. -/
def leaf (cs : List Char) : Option (Lexeme × List Char) :=
  match literal cs with
  | some rest => some (.literal (String.ofList (taken cs rest)), rest)
  | none =>
      match punct cs with
      | some result => some result
      | none =>
          match ident cs with
          | some (i, rest) => some (.ident i, rest)
          | none => (text errorMark cs).map fun rest => (.literal errorMark, rest)

/-- The lexemes of the attribute that a documenting comment stands for. -/
def docLexemes (doc : DocComment) : List Lexeme :=
  .punct '#' .alone :: (if doc.inner then [.punct '!' .alone] else []) ++
    [.opening .bracket, .ident (.plain "doc"), .punct '=' .alone,
      .literal (Text.quote .literal (String.ofList doc.text)), .closing .bracket]

/-- Reads the lexemes at the front of a text that begins with no filler: those of a documenting
comment, or a single one. -/
def next (cs : List Char) : Option (List Lexeme × List Char) :=
  match docComment cs with
  | some (doc, rest) => some (docLexemes doc, rest)
  | none =>
      match delimiter cs with
      | some (lexeme, rest) => some ([lexeme], rest)
      | none => (leaf cs).map fun result => ([result.1], result.2)

/-- Reads all lexemes of a text that stands at the given place, in at most the given number of
steps. -/
def lexFor : Nat → Position → List Char → Option (List (Lexeme × Span))
  | 0, _, _ => none
  | n + 1, place, cs =>
      let front := skip cs
      let start := place.advanceAll (taken cs front)
      if front.isEmpty then some []
      else
        match next front with
        | some (lexemes, rest) =>
            let stop := start.advanceAll (taken front rest)
            (lexFor n stop rest).map fun others =>
              lexemes.map (·, ⟨start, stop⟩) ++ others
        | none => none

/-- Splits a text that stands at the given place into lexemes; every step takes at least one
character. -/
def lexFrom (place : Position) (cs : List Char) : Option (List (Lexeme × Span)) :=
  lexFor (cs.length + 1) place cs

/-- Splits a text into lexemes with their places in it. -/
def lexChars (cs : List Char) : Option (List (Lexeme × Span)) :=
  lexFrom Position.origin cs

/-- The byte order mark, which may stand in front of a source text. -/
def byteOrderMark : Char := Char.ofNat 0xFEFF

/-- The characters of a text without a byte order mark at its front. -/
def dropMark : List Char → List Char
  | [] => []
  | c :: cs => if c = byteOrderMark then cs else c :: cs

/-- Splits a source text into lexemes with their places.  A byte order mark at its front is passed
over, and like every other character it counts for the places of what follows. -/
def lex (source : String) : Option (List (Lexeme × Span)) :=
  let body := dropMark source.toList
  lexFrom (Position.origin.advanceAll (taken source.toList body)) body

end Lexer

end Caseless
