import Caseless.Token.Basic

/-!
# Looking at the tokens ahead

Which rule applies is decided by looking at the next few tokens.  A symbol of several characters
stands there when its characters follow each other without a gap.
-/

namespace Caseless

/-- The words that are no names unless they are marked as raw. -/
def reservedWords : List String :=
  ["_", "abstract", "as", "async", "await", "become", "box", "break", "const", "continue",
    "crate", "do", "dyn", "else", "enum", "extern", "false", "final", "fn", "for", "if", "impl",
    "in", "let", "loop", "macro", "match", "mod", "move", "mut", "override", "priv", "pub", "ref",
    "return", "Self", "self", "static", "struct", "super", "trait", "true", "try", "type",
    "typeof", "unsafe", "unsized", "use", "virtual", "where", "while", "yield"]

namespace Ident

/-- Whether an identifier is the given word without the raw mark. -/
def isWord (i : Ident) (word : String) : Bool :=
  !i.raw && i.name == word

/-- Whether an identifier is a keyword. -/
def isReserved (i : Ident) : Bool :=
  !i.raw && reservedWords.contains i.name

end Ident

namespace Token

/-- Takes a symbol from the front of some tokens.  Its characters are joint but for the last, which
stands alone whatever follows it. -/
def takeSymbol : List Char → List Token → Option (List Token × List Token)
  | [c], .punct d _ span :: rest =>
      if c = d then some ([.punct c .alone span], rest) else none
  | c :: c' :: cs, .punct d .joint span :: rest =>
      if c = d then
        (takeSymbol (c' :: cs) rest).map fun result =>
          (.punct c .joint span :: result.1, result.2)
      else none
  | _, _ => none

/-- The tokens behind the next one; an apostrophe and its name count as one. -/
def afterNext : List Token → List Token
  | .punct '\x27' .joint _ :: .ident _ _ :: rest => rest
  | _ :: rest => rest
  | [] => []

/-- Whether the text of a literal is that of a number. -/
def isNumberText (text : String) : Bool :=
  match text.toList with
  | c :: _ => '0' ≤ c && c ≤ '9'
  | [] => false

/-- Skips the names of a path without arguments, at most the given number of them. -/
def skipNames : Nat → List Token → Option (List Token)
  | 0, _ => none
  | n + 1, .ident i _ :: rest =>
      if i.isReserved && !(["super", "self", "Self", "crate"].contains i.name) then none
      else
        match takeSymbol [':', ':'] rest with
        | some (_, rest) => skipNames n rest
        | none => some rest
  | _ + 1, _ => none

/-- Skips a path without arguments. -/
def skipPath (tokens : List Token) : Option (List Token) :=
  match takeSymbol [':', ':'] tokens with
  | some (_, rest) => skipNames tokens.length rest
  | none => skipNames tokens.length tokens

end Token

/-- A test of the tokens ahead. -/
inductive Lookahead where
  /-- Nothing follows. -/
  | finished
  /-- A symbol follows. -/
  | symbol (text : String)
  /-- A keyword follows. -/
  | keyword (word : String)
  /-- An identifier that is no keyword follows. -/
  | ident
  /-- An identifier or a keyword follows. -/
  | word
  /-- A lifetime follows. -/
  | lifetime
  /-- A literal follows: one that is written as such, a truth value, or a negative number. -/
  | literal
  /-- A literal follows whose text passes a test. -/
  | literalText (test : String → Bool)
  /-- A group follows. -/
  | group (delimiter : Delimiter)
  /-- A group follows whose content passes a test. -/
  | content (delimiter : Delimiter) (test : Lookahead)
  /-- A test holds behind the next token. -/
  | behind (test : Lookahead)
  /-- A test holds behind a path without arguments. -/
  | behindPath (test : Lookahead)
  /-- A test fails. -/
  | no (test : Lookahead)
  /-- Two tests hold. -/
  | both (first second : Lookahead)
  /-- One of two tests holds. -/
  | either (first second : Lookahead)

namespace Lookahead

/-- Whether a test holds of the tokens ahead. -/
def holds : Lookahead → List Token → Bool
  | finished, tokens => tokens.isEmpty
  | symbol text, tokens => (Token.takeSymbol text.toList tokens).isSome
  | keyword w, .ident i _ :: _ => i.isWord w
  | ident, .ident i _ :: _ => !i.isReserved
  | word, .ident _ _ :: _ => true
  | lifetime, .punct '\x27' .joint _ :: .ident _ _ :: _ => true
  | literal, .literal _ _ :: _ => true
  | literal, .ident i _ :: _ => i.isWord "true" || i.isWord "false"
  | literal, .punct '-' _ _ :: .literal text _ :: _ => Token.isNumberText text
  | literalText test, .literal text _ :: _ => test text
  | group d, .group d' _ _ _ :: _ => decide (d = d')
  | content d test, .group d' inner _ _ :: _ => decide (d = d') && test.holds inner
  | behind test, tokens => test.holds (Token.afterNext tokens)
  | behindPath test, tokens =>
      match Token.skipPath tokens with
      | some rest => test.holds rest
      | none => false
  | no test, tokens => !test.holds tokens
  | both first second, tokens => first.holds tokens && second.holds tokens
  | either first second, tokens => first.holds tokens || second.holds tokens
  | _, _ => false

/-- The test that always holds. -/
def always : Lookahead := either finished (no finished)

/-- The test that never holds. -/
def never : Lookahead := no always

/-- One of several tests holds. -/
def anyOf (tests : List Lookahead) : Lookahead := tests.foldr either never

/-- All of several tests hold. -/
def allOf (tests : List Lookahead) : Lookahead := tests.foldr both always

/-- One of several symbols follows. -/
def symbols (texts : List String) : Lookahead := anyOf (texts.map symbol)

/-- One of several keywords follows. -/
def keywords (words : List String) : Lookahead := anyOf (words.map keyword)

/-- A symbol follows, and no longer symbol that begins with it. -/
def symbolOnly (text : String) (longer : List String) : Lookahead :=
  both (symbol text) (no (symbols longer))

/-- A group of any kind follows. -/
def anyGroup : Lookahead := anyOf [group .parenthesis, group .bracket, group .brace]

/-- A test holds behind the next two tokens. -/
def behindTwo (test : Lookahead) : Lookahead := behind (behind test)

end Lookahead

end Caseless
