import Caseless.Grammar.Phrase

/-!
# Following a rule

A rule is followed on the tokens in front of a cursor.  What is read comes back in the form in
which it is printed.  Phrases inside the rule are read by a parser that is given, so that
following a rule is plain recursion on the rule.
-/

namespace Caseless

/-- What following a rule gives. -/
structure Piece where
  shape : Shape
  /-- The tokens of the phrase as they are printed. -/
  tokens : List Token

/-- An entry of a list in angle brackets. -/
structure Entry where
  isLifetime : Bool
  tokens : List Token
  /-- The comma behind the entry, if there is one. -/
  comma : List Token

namespace Entry

/-- A comma that was not read from the text. -/
def insertedComma : Token := .punct ',' .alone Span.unplaced

/-- The tokens of entries, each with its comma. -/
def printAll (entries : List Entry) : List Token :=
  entries.flatMap fun entry => entry.tokens ++ entry.comma

/-- Whether some entries are followed by another one without a comma between them. -/
def lacksComma (entries others : List Entry) : Bool :=
  match entries.getLast?, others with
  | some entry, _ :: _ => entry.comma.isEmpty
  | _, _ => false

/-- The tokens of entries with the lifetimes first.  Every entry keeps its own comma; one is put
in when the last lifetime has none and another entry follows. -/
def lifetimesFirst (entries : List Entry) : List Token :=
  let lifetimes := entries.filter (·.isLifetime)
  let others := entries.filter (!·.isLifetime)
  printAll lifetimes ++ (if lacksComma lifetimes others then [insertedComma] else []) ++
    printAll others

end Entry

namespace Piece

/-- The stretch of text of a list, without the plus sign that it may end in. -/
def listSpan (piece : Piece) : Span :=
  Token.spanAll
    (piece.tokens.reverse.dropWhile fun
      | .punct '+' _ _ => true
      | _ => false).reverse

/-- Whether the last token is a group in braces. -/
def endsInBraces (piece : Piece) : Bool :=
  match piece.tokens.getLast? with
  | some (.group .brace _ _ _) => true
  | _ => false

end Piece

namespace Rule

/-- Reads an entry of a list in angle brackets with the comma behind it. -/
def entryStep (entry : Parser Piece) : Parser (Parser.Step Entry) := do
  if ← Parser.test (Lookahead.symbol ">").holds then return .done
  let piece ← entry
  if ← Parser.test (Lookahead.symbol ">").holds then
    return .last ⟨piece.shape.isLifetime, piece.tokens, []⟩
  let comma ← (Terminal.symbol ",").read
  return .again ⟨piece.shape.isLifetime, piece.tokens, comma⟩

/-- Follows a rule, reading phrases with `call`. -/
def follow (call : Phrase → Parser Piece) : Rule → Parser Piece
  | accept shape => pure ⟨shape, []⟩
  | refuse complaint => Parser.fail complaint
  | read terminal => do return ⟨.plain, ← terminal.read⟩
  | phrase p => call p
  | andThen first second => do
      let a ← first.follow call
      let b ← (second a.shape).follow call
      return ⟨b.shape, a.tokens ++ b.tokens⟩
  | choose test yes no => do
      if ← Parser.test test.holds then yes.follow call else no.follow call
  | inside delimiter content => do
      let (piece, opening, closing) ←
        Parser.within delimiter (.wanted delimiter.name) (content.follow call)
      return ⟨piece.shape, [.group delimiter piece.tokens opening closing]⟩
  | listing entry => do
      let entries ← Parser.repeatSteps (entryStep (entry.follow call))
      return ⟨.plain, Entry.lifetimesFirst entries⟩
  | asWritten when rule => do
      let before ← get
      let piece ← rule.follow call
      let after ← get
      if when piece.shape then
        return ⟨piece.shape, before.tokens.take (before.tokens.length - after.tokens.length)⟩
      else return piece
  | silently rule => do
      let piece ← rule.follow call
      return ⟨piece.shape, []⟩
  | before first second drop => do
      let a ← first.follow call
      let b ← second.follow call
      return if drop b.shape then b else ⟨b.shape, a.tokens ++ b.tokens⟩
  | require test complaint rule => do
      let piece ← rule.follow call
      if test piece.shape then return piece
      else throw ⟨complaint, false, piece.listSpan⟩
  | forbid complaint rule rest => do
      let piece ← rule.follow call
      let _ ← rest.follow call
      throw ⟨complaint, false, Token.spanAll piece.tokens⟩
  | endsInBraces rule => do
      let piece ← rule.follow call
      return ⟨.answer piece.endsInBraces, piece.tokens⟩

end Rule

end Caseless
