import Caseless.Token.Basic

/-!
# Reading tokens from left to right

A cursor stands in front of some tokens, at the top of a text or inside a group.  A parser moves
a cursor on, or complains about the token in front of it.
-/

namespace Caseless

namespace Delimiter

/-- What is said to be wanted when a group of this kind is missing. -/
def name : Delimiter → String
  | parenthesis => "parentheses"
  | bracket => "square brackets"
  | brace => "curly braces"

end Delimiter

/-- What is wrong with the token in front of a cursor. -/
inductive Complaint where
  /-- A symbol was wanted. -/
  | symbol (text : String)
  /-- A keyword was wanted. -/
  | keyword (text : String)
  /-- Something with a name was wanted. -/
  | wanted (what : String)
  /-- One of several things was wanted. -/
  | oneOf (alternatives : List String)
  /-- A keyword stands where a name was wanted. -/
  | reserved (found : String)
  /-- A token is left over in front of a closing delimiter. -/
  | leftOver (delimiter : Delimiter)
  /-- A literal stands where the name of an option was wanted. -/
  | literalOption
  /-- Something else that is no name stands where the name of an option was wanted. -/
  | namelessOption
  /-- An option has a name that is not known. -/
  | unknownOption
  /-- An attribute has no arguments. -/
  | noArguments (name : String)
  /-- An attribute has a value in place of arguments. -/
  | valueForArguments (name : String)
  /-- A rule that is told in full is broken. -/
  | broken (rule : String)

namespace Complaint

/-- Lists alternatives the way a sentence does. -/
def listed : List String → String
  | [] => "unexpected token"
  | [a] => "expected " ++ a
  | [a, b] => "expected " ++ a ++ " or " ++ b
  | as => "expected one of: " ++ ", ".intercalate as

/-- A complaint in words. -/
def message : Complaint → String
  | symbol text => "expected `" ++ text ++ "`"
  | keyword text => "expected `" ++ text ++ "`"
  | wanted what => "expected " ++ what
  | oneOf alternatives => listed alternatives
  | reserved found => "expected identifier, found keyword `" ++ found ++ "`"
  | leftOver delimiter =>
      "unexpected token, expected `" ++ String.singleton delimiter.closingChar ++ "`"
  | literalOption => "unexpected literal in nested attribute, expected ident"
  | namelessOption => "unexpected token in nested attribute, expected ident"
  | unknownOption => "unknown option, expected `all_cases` or `crate = <path>`"
  | noArguments name => "expected attribute arguments in parentheses: #[" ++ name ++ "(...)]"
  | valueForArguments name => "expected parentheses: #[" ++ name ++ "(...)]"
  | broken rule => rule

end Complaint

/-- A complaint and the place it is about. -/
structure SyntaxError where
  complaint : Complaint
  /-- Whether the tokens had come to an end. -/
  atEnd : Bool
  span : Span

namespace SyntaxError

/-- The text of an error.  The end of the tokens is mentioned unless a symbol was wanted. -/
def message (error : SyntaxError) : String :=
  match error.complaint, error.atEnd with
  | .symbol text, _ => (Complaint.symbol text).message
  | complaint, true => "unexpected end of input, " ++ complaint.message
  | complaint, false => complaint.message

end SyntaxError

/-- A place in a text that is read from left to right. -/
structure Cursor where
  /-- The tokens still to be read. -/
  tokens : List Token
  /-- The place that stands for their end: the closing delimiter of the group that they belong
  to. -/
  close : Span
  /-- The first token that was left over in a group behind which reading went on. -/
  leftOver : Option SyntaxError

namespace Cursor

/-- The place of the token in front of the cursor. -/
def here (cursor : Cursor) : Span :=
  match cursor.tokens with
  | [] => cursor.close
  | token :: _ => token.front

/-- An error about the token in front of the cursor. -/
def complain (cursor : Cursor) (complaint : Complaint) : SyntaxError :=
  ⟨complaint, cursor.tokens.isEmpty, cursor.here⟩

/-- What was left over when reading stopped here: in a group before, or in front of the cursor.
All of a token is left over, the content of a group too. -/
def remains (cursor : Cursor) (complaint : Complaint) : Option SyntaxError :=
  match cursor.leftOver, cursor.tokens with
  | some error, _ => some error
  | none, [] => none
  | none, token :: _ => some ⟨complaint, false, token.span⟩

end Cursor

/-- Reads something in front of a cursor and moves the cursor behind it. -/
abbrev Parser (α : Type) := StateT Cursor (Except SyntaxError) α

namespace Parser

/-- Complains about the token in front of the cursor. -/
def fail {α : Type} (complaint : Complaint) : Parser α :=
  fun cursor => .error (cursor.complain complaint)

/-- Whether the tokens in front of the cursor pass a test. -/
def test (p : List Token → Bool) : Parser Bool :=
  fun cursor => .ok (p cursor.tokens, cursor)

/-- Takes what `take` finds at the front of the tokens, or complains. -/
def takeOr {α : Type} (take : List Token → Option (α × List Token)) (complaint : Complaint) :
    Parser α :=
  fun cursor =>
    match take cursor.tokens with
    | some (value, rest) => .ok (value, { cursor with tokens := rest })
    | none => .error (cursor.complain complaint)

/-- Enters a group of the given kind, reads its content with `p`, and goes on behind it.  What is
left over in the group is remembered, for it counts only if nothing else is wrong.  The places of
the two delimiters are given too. -/
def within {α : Type} (delimiter : Delimiter) (complaint : Complaint) (p : Parser α) :
    Parser (α × Span × Span) :=
  fun cursor =>
    match cursor.tokens with
    | .group d content opening closing :: rest =>
        if d = delimiter then
          match p ⟨content, closing, cursor.leftOver⟩ with
          | .ok (value, inner) =>
              .ok ((value, opening, closing),
                ⟨rest, cursor.close, inner.remains (.leftOver delimiter)⟩)
          | .error error => .error error
        else .error (cursor.complain complaint)
    | _ => .error (cursor.complain complaint)

/-- What a step of a repetition says about the next one. -/
inductive Step (α : Type) where
  /-- Another step follows. -/
  | again (value : α)
  /-- This was the last step. -/
  | last (value : α)
  /-- There was nothing to read any more. -/
  | done

/-- Repeats a parser at most the given number of times. -/
def repeatUpTo {α : Type} (p : Parser (Step α)) : Nat → Parser (List α)
  | 0 => fail (.wanted "the end")
  | n + 1 => do
      match ← p with
      | .done => return []
      | .last value => return [value]
      | .again value => return value :: (← repeatUpTo p n)

/-- Repeats a parser that reads at least one token in each step but the last. -/
def repeatSteps {α : Type} (p : Parser (Step α)) : Parser (List α) :=
  fun cursor => repeatUpTo p (cursor.tokens.length + 1) cursor

/-- Runs a parser on all of some tokens that end at the given place. -/
def parseAll {α : Type} (p : Parser α) (tokens : List Token) (close : Span) :
    Except SyntaxError α :=
  match p ⟨tokens, close, none⟩ with
  | .ok (value, rest) =>
      match rest.remains (.oneOf []) with
      | none => .ok value
      | some error => .error error
  | .error error => .error error

end Parser

end Caseless
