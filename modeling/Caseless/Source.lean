import Caseless.Declaration.Item
import Caseless.Token.Tree

/-!
# Source texts

A source text is split into tokens and read as one construct, which must take all of them.
-/

namespace Caseless

/-- Why a source text is not the construct that is wanted. -/
inductive SourceError where
  /-- It cannot be split into tokens. -/
  | lexical
  /-- Its tokens are not the construct. -/
  | grammatical (error : SyntaxError)

namespace Source

/-- Reads all of a source text with a parser. -/
def parse {α : Type} (p : Parser α) (source : String) : Except SourceError α :=
  match Token.ofSource? source with
  | none => .error .lexical
  | some tokens =>
      match Parser.parseAll p tokens Span.unplaced with
      | .ok value => .ok value
      | .error error => .error (.grammatical error)

/-- Reads a source text as an item. -/
def item (source : String) : Except SourceError Item := parse Item.parse source

/-- Reads a source text as a list of attributes. -/
def attributes (source : String) : Except SourceError (List Attribute) :=
  parse Attribute.parseAll source

/-- Reads a source text as a path. -/
def path (source : String) : Except SourceError (List Lexeme) :=
  parse (do return Token.lexemesAll (← (Phrase.path .type).parse)) source

/-- Reads one identifier, which may be a keyword. -/
def anyIdent : Parser Ident :=
  Parser.takeOr
    (fun
      | .ident i _ :: rest => some (i, rest)
      | _ => none)
    (.wanted "ident")

/-- Reads a source text as one identifier, which may be a keyword. -/
def ident (source : String) : Except SourceError Ident := parse anyIdent source

end Source

end Caseless
