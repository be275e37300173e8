import Caseless.Grammar.Language
import Caseless.Token.Printer

/-!
# Attributes

An attribute stands in brackets behind a number sign.  It has a path and, behind it, nothing, a
value, or a group of arguments whose tokens are not looked into.
-/

namespace Caseless

/-- What follows the path of an attribute. -/
inductive Arguments where
  /-- Nothing. -/
  | absent
  /-- An equals sign at the given place and the tokens of a value. -/
  | value (equals : Span) (tokens : List Token)
  /-- A group of tokens. -/
  | group (delimiter : Delimiter) (content : List Token) (opening closing : Span)

/-- An attribute. -/
structure Attribute where
  /-- The place of the number sign. -/
  hash : Span
  /-- The place of the opening bracket. -/
  opening : Span
  /-- The place of the closing bracket. -/
  closing : Span
  /-- The tokens of the path. -/
  path : List Token
  /-- What follows the path. -/
  arguments : Arguments

namespace Arguments

/-- The tokens behind the path. -/
def tokens : Arguments → List Token
  | absent => []
  | value equals tokens => .punct '=' .alone equals :: tokens
  | group delimiter content opening closing => [.group delimiter content opening closing]

/-- Reads what follows the path of an attribute. -/
def parse : Parser Arguments := fun cursor =>
  match cursor.tokens with
  | .group delimiter content opening closing :: rest =>
      .ok (.group delimiter content opening closing, { cursor with tokens := rest })
  | _ =>
      if AttributeRule.equalsFollows.holds cursor.tokens then
        (do
          let equals ← (Terminal.symbol "=").read
          let tokens ← AttributeRule.value.parse
          return .value (Token.spanAll equals) tokens : Parser Arguments) cursor
      else .ok (.absent, cursor)

end Arguments

namespace Attribute

def content (a : Attribute) : List Token := a.path ++ a.arguments.tokens

def tokens (a : Attribute) : List Token :=
  [.punct '#' .alone a.hash, .group .bracket a.content a.opening a.closing]

/-- The stretch of text that an attribute covers. -/
def span (a : Attribute) : Span := a.hash.join a.closing

/-- Whether the path is exactly the given name, without the raw mark. -/
def isNamed (a : Attribute) (name : String) : Bool :=
  decide (Token.lexemesAll a.path = [.ident (.plain name)])

/-- Reads an attribute. -/
def parse : Parser Attribute := do
  let hash ← (Terminal.symbol "#").read
  let ((path, arguments), opening, closing) ←
    Parser.within .bracket (.wanted Delimiter.bracket.name) do
      let path ← AttributeRule.path.parse
      let arguments ← Arguments.parse
      return (path, arguments)
  return ⟨Token.spanAll hash, opening, closing, path, arguments⟩

/-- Reads all attributes in front of something else. -/
def parseAll : Parser (List Attribute) :=
  Parser.repeatSteps do
    if ← Parser.test (Lookahead.symbol "#").holds then return .again (← parse) else return .done

/-- The attributes of a text that consists of attributes alone. -/
def ofTokens (tokens : List Token) : Except SyntaxError (List Attribute) :=
  Parser.parseAll parseAll tokens Span.unplaced

end Attribute

end Caseless
