import Caseless.Generated.Basic

/-!
# The code of generated declarations
-/

namespace Caseless

open Template

namespace Target

/-- An implementation of a trait for the target. -/
def implement (target : Target) (root : List Lexeme) (trait : String) (body : List Lexeme) :
    List Lexeme :=
  symbol "#" ++ brackets (word "automatically_derived") ++
    word "impl" ++ target.generics.implLexemes ++ root ++ symbol "::" ++ word trait ++
    word "for" ++ ident target.name ++ target.generics.typeLexemes ++
    target.generics.whereLexemes ++ braces body

end Target

section Parts

/-- A case as a member of the type at hand. -/
def selfCase (case : Ident) : List Lexeme := word "Self" ++ symbol "::" ++ ident case

/-- The type at hand seen as an implementation of a trait. -/
def selfAs (root : List Lexeme) (trait : String) : List Lexeme :=
  symbol "<" ++ word "Self" ++ word "as" ++ root ++ symbol "::" ++ word trait ++ symbol ">"

/-- The call of a method without arguments. -/
def methodCall (name : String) : List Lexeme := symbol "." ++ word name ++ parens []

/-- The path of something that may be missing. -/
def optionPath (rest : List String) : List Lexeme := names (["std", "option", "Option"] ++ rest)

end Parts

namespace Branch

/-- A branch as an arm of a case distinction. -/
def lexemes (branch : Branch) : List Lexeme :=
  string branch.pattern ++ symbol "=>" ++ optionPath ["Some"] ++
    parens (selfCase branch.case) ++ symbol ","

end Branch

namespace Lookup

/-- A case distinction over the lowercase text. -/
def tableLexemes (branches : List Branch) : List Lexeme :=
  word "match" ++ word "raw_value" ++ methodCall "to_lowercase" ++ methodCall "as_str" ++
    braces
      (branches.flatMap Branch.lexemes ++ word "_" ++ symbol "=>" ++ optionPath ["None"] ++
        symbol ",")

/-- A search through all cases. -/
def searchLexemes (root : List Lexeme) : List Lexeme :=
  word "let" ++ word "raw_value" ++ symbol "=" ++ word "raw_value" ++
    methodCall "to_lowercase" ++ symbol ";" ++
    selfAs root "CaseIterable" ++ symbol "::" ++ word "all_cases" ++ parens [] ++
    methodCall "into_iter" ++ symbol "." ++ word "find" ++
    parens
      (symbol "|" ++ word "case" ++ symbol "|" ++
        braces
          (selfAs root "CaseInsensitive" ++ symbol "::" ++ word "raw_value" ++
            parens (word "case") ++ methodCall "to_lowercase" ++ symbol "==" ++
            word "raw_value"))

/-- The code that finds the case that matches. -/
def lexemes (root : List Lexeme) : Lookup → List Lexeme
  | branchTable branches => tableLexemes branches
  | allCases => searchLexemes root

end Lookup

namespace Case

/-- The raw value of a case as an arm of a case distinction. -/
def armLexemes (case : Case) : List Lexeme :=
  selfCase case.ident ++ symbol "=>" ++ string case.rawValue ++ symbol ","

end Case

namespace Initializer

/-- The function that looks a case up. -/
def fromRawValueLexemes (i : Initializer) : List Lexeme :=
  word "fn" ++ word "from_raw_value" ++
    parens (word "raw_value" ++ symbol ":" ++ symbol "&" ++ word "str") ++ symbol "->" ++
    optionPath [] ++ symbol "<" ++ word "Self" ++ symbol ">" ++ braces (i.lookup.lexemes i.root)

/-- The function that gives the raw value of a case. -/
def rawValueLexemes (i : Initializer) : List Lexeme :=
  word "fn" ++ word "raw_value" ++ parens (symbol "&" ++ word "self") ++ symbol "->" ++
    symbol "&" ++ lifetime "static" ++ word "str" ++
    braces (word "match" ++ symbol "*" ++ word "self" ++ braces (i.cases.flatMap Case.armLexemes))

/-- The code of an initializer. -/
def lexemes (i : Initializer) : List Lexeme :=
  i.target.implement i.root "CaseInsensitive" (i.fromRawValueLexemes ++ i.rawValueLexemes)

end Initializer

namespace Extension

/-- The code of an extension. -/
def lexemes (e : Extension) : List Lexeme :=
  e.target.implement e.root "CaseIterable"
    (word "fn" ++ word "all_cases" ++ parens [] ++ symbol "->" ++ names ["std", "vec", "Vec"] ++
      symbol "<" ++ word "Self" ++ symbol ">" ++
      braces
        (names ["std", "vec"] ++ symbol "!" ++ brackets (commaSeparated (e.cases.map selfCase))))

end Extension

namespace Generated

/-- The code of a generated declaration. -/
def lexemes : Generated → List Lexeme
  | initializer i => i.lexemes
  | extension e => e.lexemes

end Generated

end Caseless
