/-!
# Tokens and where they stand

A source text is a sequence of lexemes: identifiers, punctuation characters, literals and
delimiters.  A token is a lexeme or a delimited group of tokens, together with the place in the
text that it was read from.  Forgetting the places turns tokens back into lexemes.
-/

namespace Caseless

/-- A place between two characters: lines count from one, columns from zero in characters. -/
structure Position where
  line : Nat
  column : Nat
  deriving DecidableEq

namespace Position

/-- The place in front of the first character of a text. -/
def origin : Position := ⟨1, 0⟩

/-- The place behind a character that stands at the given place; a line feed ends a line. -/
def advance (p : Position) (c : Char) : Position :=
  if c = '\n' then ⟨p.line + 1, 0⟩ else ⟨p.line, p.column + 1⟩

/-- The place behind some characters that stand at the given place. -/
def advanceAll (p : Position) (cs : List Char) : Position :=
  cs.foldl advance p

end Position

/-- The stretch of text from one place up to another. -/
structure Span where
  start : Position
  stop : Position
  deriving DecidableEq

namespace Span

/-- The empty span at the beginning of the text, for tokens that were not read from it. -/
def unplaced : Span := ⟨Position.origin, Position.origin⟩

/-- From the beginning of one span to the end of another. -/
def join (first last : Span) : Span := ⟨first.start, last.stop⟩

end Span

/-- Whether a punctuation character belongs together with the next one. -/
inductive Spacing where
  | alone
  | joint
  deriving DecidableEq

/-- The three kinds of brackets. -/
inductive Delimiter where
  | parenthesis
  | bracket
  | brace
  deriving DecidableEq

namespace Delimiter

/-- The character that opens a group. -/
def openingChar : Delimiter → Char
  | parenthesis => '('
  | bracket => '['
  | brace => '{'

/-- The character that closes a group. -/
def closingChar : Delimiter → Char
  | parenthesis => ')'
  | bracket => ']'
  | brace => '}'

end Delimiter

/-- An identifier: a name, and whether it is marked as raw, which keeps a keyword from being
read as one. -/
structure Ident where
  name : String
  raw : Bool
  deriving DecidableEq

namespace Ident

/-- The mark in front of a raw identifier. -/
def rawMark : String := "r#"

/-- An identifier without the raw mark. -/
def plain (name : String) : Ident := ⟨name, false⟩

/-- The identifier as it is written. -/
def text (ident : Ident) : String :=
  if ident.raw then rawMark ++ ident.name else ident.name

end Ident

/-- The smallest pieces of a source text. -/
inductive Lexeme where
  | ident (ident : Ident)
  | punct (char : Char) (spacing : Spacing)
  | literal (text : String)
  | opening (delimiter : Delimiter)
  | closing (delimiter : Delimiter)
  deriving DecidableEq

/-- A piece of a source text with its place, or a delimited group of such pieces. -/
inductive Token where
  | ident (ident : Ident) (span : Span)
  | punct (char : Char) (spacing : Spacing) (span : Span)
  | literal (text : String) (span : Span)
  | group (delimiter : Delimiter) (content : List Token) (opening closing : Span)

namespace Token

/-- The stretch of text that a token covers. -/
def span : Token → Span
  | ident _ span => span
  | punct _ _ span => span
  | literal _ span => span
  | group _ _ opening closing => opening.join closing

/-- Where a complaint about a token points: at the opening delimiter of a group. -/
def front : Token → Span
  | group _ _ opening _ => opening
  | token => token.span

mutual

/-- The lexemes of a token. -/
def lexemes : Token → List Lexeme
  | ident i _ => [.ident i]
  | punct c spacing _ => [.punct c spacing]
  | literal text _ => [.literal text]
  | group delimiter content _ _ =>
      .opening delimiter :: lexemesAll content ++ [.closing delimiter]

/-- The lexemes of some tokens, one after the other. -/
def lexemesAll : List Token → List Lexeme
  | [] => []
  | token :: tokens => lexemes token ++ lexemesAll tokens

end

theorem lexemesAll_append
    (tokens others : List Token) :
    lexemesAll (tokens ++ others) = lexemesAll tokens ++ lexemesAll others := by
  induction tokens with
  | nil =>
      rfl
  | cons token tokens ih =>
      simp [lexemesAll, ih]

/-- The number of lexemes of some tokens. -/
def size (tokens : List Token) : Nat :=
  (lexemesAll tokens).length

/-- The stretch of text from the first of some tokens to the last. -/
def spanAll : List Token → Span
  | [] => Span.unplaced
  | token :: tokens => token.span.join ((token :: tokens).getLast (by simp)).span

end Token

end Caseless
