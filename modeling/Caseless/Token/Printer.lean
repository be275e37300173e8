import Caseless.Token.Basic

/-!
# Printing lexemes

Lexemes are printed with one blank between them.  No blank stands behind a punctuation character
that belongs together with the next one, nor on the inner side of parentheses and brackets.
-/

namespace Caseless

namespace Lexeme

/-- The characters of a lexeme. -/
def chars : Lexeme → List Char
  | ident i => i.text.toList
  | punct c _ => [c]
  | literal text => text.toList
  | opening delimiter => [delimiter.openingChar]
  | closing delimiter => [delimiter.closingChar]

/-- Whether a blank stands between two lexemes that follow each other. -/
def blankBetween : Lexeme → Lexeme → Bool
  | _, closing .brace => true
  | _, closing _ => false
  | opening .brace, _ => true
  | opening _, _ => false
  | punct _ .joint, _ => false
  | _, _ => true

/-- The blank between two lexemes, if there is one. -/
def gap (a b : Lexeme) : List Char :=
  if blankBetween a b then [' '] else []

/-- The characters of some lexemes that follow the lexeme `before`. -/
def renderAfter (before : Lexeme) : List Lexeme → List Char
  | [] => []
  | a :: rest => gap before a ++ a.chars ++ renderAfter a rest

/-- The characters of some lexemes. -/
def renderChars : List Lexeme → List Char
  | [] => []
  | a :: rest => a.chars ++ renderAfter a rest

/-- The printed form of some lexemes. -/
def render (lexemes : List Lexeme) : String :=
  String.ofList (renderChars lexemes)

end Lexeme

/-- The printed form of some tokens. -/
def Token.render (tokens : List Token) : String :=
  Lexeme.render (Token.lexemesAll tokens)

end Caseless
