import Caseless.Token.Lexer

/-!
# Groups of tokens

Delimiters must match.  The tokens between a delimiter and its partner become the content of a
group; a text whose delimiters do not match has no tokens.
-/

namespace Caseless

namespace Token

/-- A group whose closing delimiter is still to come: the tokens before it in reverse order, its
delimiter, and the place where it was opened. -/
structure Frame where
  before : List Token
  delimiter : Delimiter
  opening : Span

/-- Reads tokens in front of which some groups are open, the innermost first.  The tokens read so
far in the innermost group are given in reverse order. -/
def ofLexemesIn : List Frame → List Token → List (Lexeme × Span) → Option (List Token)
  | [], done, [] => some done.reverse
  | _ :: _, _, [] => none
  | frames, done, (.ident i, span) :: rest => ofLexemesIn frames (.ident i span :: done) rest
  | frames, done, (.punct c spacing, span) :: rest =>
      ofLexemesIn frames (.punct c spacing span :: done) rest
  | frames, done, (.literal text, span) :: rest =>
      ofLexemesIn frames (.literal text span :: done) rest
  | frames, done, (.opening d, span) :: rest => ofLexemesIn (⟨done, d, span⟩ :: frames) [] rest
  | [], _, (.closing _, _) :: _ => none
  | frame :: frames, done, (.closing d, span) :: rest =>
      if frame.delimiter = d then
        ofLexemesIn frames (.group d done.reverse frame.opening span :: frame.before) rest
      else none

/-- Reads tokens from lexemes. -/
def ofLexemes? (lexemes : List (Lexeme × Span)) : Option (List Token) :=
  ofLexemesIn [] [] lexemes

/-- Reads the tokens of a source text. -/
def ofSource? (source : String) : Option (List Token) :=
  (Lexer.lex source).bind ofLexemes?

end Token

end Caseless
