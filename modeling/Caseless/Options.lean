import Caseless.Declaration.Attribute

/-!
# Options of an expansion

The attribute `case_insensitive` sets options: how a case is looked up, and the path under which
the generated code finds the traits that it implements.  All such attributes of a declaration
count, and of several paths the last one does.
-/

namespace Caseless

/-- How generated code finds the case that matches. -/
inductive Strategy where
  /-- By comparing with the lowercase raw values, one branch for each. -/
  | branchTable
  /-- By searching through all cases. -/
  | allCases
  deriving DecidableEq

/-- One option. -/
inductive Setting where
  /-- Look a case up by searching through all cases. -/
  | allCases
  /-- Find the traits under a path. -/
  | root (path : List Lexeme)

/-- The options of an expansion. -/
structure Context where
  strategy : Strategy
  /-- The path under which generated code finds the traits. -/
  root : List Lexeme

/-- The name of an option: names with double colons between them, keywords included. -/
structure OptionKey where
  /-- Whether a double colon stands in front. -/
  rooted : Bool
  first : Token
  others : List Token

namespace OptionKey

/-- Whether the name is exactly the given word, without the raw mark. -/
def isWord (key : OptionKey) (word : String) : Bool :=
  match key with
  | ⟨false, .ident i _, []⟩ => i.isWord word
  | _ => false

/-- From the first name to the last. -/
def span (key : OptionKey) : Span := Token.spanAll (key.first :: key.others)

/-- Reads one name of the key; a keyword is a name here. -/
def word (complaint : Complaint) : Parser Token :=
  Parser.takeOr
    (fun
      | .ident i span :: rest => some (.ident i span, rest)
      | _ => none)
    complaint

/-- What is said when a key does not begin with a name. -/
def firstComplaint (tokens : List Token) : Complaint :=
  if tokens.isEmpty then .wanted "nested attribute"
  else if Lookahead.literal.holds tokens then .literalOption
  else .namelessOption

/-- Reads the first name of a key. -/
def firstWord : Parser Token :=
  fun cursor => word (firstComplaint cursor.tokens) cursor

/-- Reads a further name of a key behind a double colon. -/
def otherStep : Parser (Parser.Step Token) := do
  if ← Parser.test (Lookahead.symbol "::").holds then
    let _ ← (Terminal.symbol "::").read
    return .again (← word (.wanted "ident"))
  else return .done

/-- Reads the name of an option. -/
def parse : Parser OptionKey := do
  let rooted ← Parser.test (Lookahead.symbol "::").holds
  let _ ← (Rule.optionalSymbol "::").parse
  let first ← firstWord
  return ⟨rooted, first, ← Parser.repeatSteps otherStep⟩

end OptionKey

namespace Setting

/-- Reads an option whose name is known. -/
def parseValue (key : OptionKey) : Parser Setting := do
  if key.isWord "all_cases" then return .allCases
  else if key.isWord "crate" then
    let _ ← (Terminal.symbol "=").read
    return .root (Token.lexemesAll (← (Phrase.path .type).parse))
  else throw ⟨.unknownOption, false, key.span⟩

/-- Reads an option. -/
def parse : Parser Setting := do
  parseValue (← OptionKey.parse)

/-- Reads an option with the comma behind it, up to the end. -/
def parseStep : Parser (Parser.Step Setting) := do
  if ← Parser.test Lookahead.finished.holds then return .done
  let setting ← parse
  if ← Parser.test Lookahead.finished.holds then return .last setting
  let _ ← (Terminal.symbol ",").read
  return .again setting

/-- Reads options with commas between them, up to the end. -/
def parseAll : Parser (List Setting) := Parser.repeatSteps parseStep

end Setting

namespace Context

/-- The name of the attribute that sets options. -/
def attributeName : String := "case_insensitive"

/-- The path under which the traits are found if no option says otherwise. -/
def defaultRoot : List Lexeme :=
  [.punct ':' .joint, .punct ':' .alone, .ident (.plain "case_insensitive")]

/-- The options if none is set. -/
def default : Context := ⟨.branchTable, defaultRoot⟩

def set (context : Context) : Setting → Context
  | .allCases => { context with strategy := .allCases }
  | .root path => { context with root := path }

/-- The options that an attribute sets. -/
def settingsOf (a : Attribute) : Except SyntaxError (List Setting) :=
  match a.arguments with
  | .absent => .error ⟨.noArguments attributeName, false, Token.spanAll a.path⟩
  | .value equals _ => .error ⟨.valueForArguments attributeName, false, equals⟩
  | .group _ content _ closing => Parser.parseAll Setting.parseAll content closing

/-- The options that some attributes set, those of the first malformed one reported. -/
def settingsOfAll : List Attribute → Except SyntaxError (List Setting)
  | [] => .ok []
  | a :: rest => do
      let settings ← settingsOf a
      return settings ++ (← settingsOfAll rest)

/-- The options of a declaration with the given attributes. -/
def ofAttributes (attributes : List Attribute) : Except SyntaxError Context := do
  let settings ← settingsOfAll (attributes.filter (·.isNamed attributeName))
  return settings.foldl set default

end Context

end Caseless
