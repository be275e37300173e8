import Caseless.Generated.Printer
import Caseless.Text.Cooked

/-!
# Reading generated code

What an implementation says about the cases of an enum can be read off its code: the arms that give
raw values, the branches that select a case, and the list of all cases.  A reader takes exactly the
code that it knows and answers nothing for any other.
-/

namespace Caseless
namespace Code

open Template

section Pieces

/-- Takes a fixed piece of code from the front. -/
def expect : List Lexeme → List Lexeme → Option (List Lexeme)
  | [], code => some code
  | a :: front, b :: code => if a = b then expect front code else none
  | _ :: _, [] => none

/-- The code of a group, `depth` groups inside it being open, up to its closing mark, and what
follows the mark. -/
def groupEnd : Nat → List Lexeme → Option (List Lexeme × List Lexeme)
  | _, [] => none
  | 0, .closing _ :: code => some ([], code)
  | depth + 1, .closing d :: code =>
      (groupEnd depth code).map fun result => (.closing d :: result.1, result.2)
  | depth, .opening d :: code =>
      (groupEnd (depth + 1) code).map fun result => (.opening d :: result.1, result.2)
  | depth, a :: code => (groupEnd depth code).map fun result => (a :: result.1, result.2)

/-- The content of the group in braces that code ends in. -/
def lastBraces : List Lexeme → Option (List Lexeme)
  | [] => none
  | .opening .brace :: code =>
      match groupEnd 0 code with
      | some (content, []) => some content
      | _ => lastBraces code
  | _ :: code => lastBraces code

/-- Reads pieces, at most the given number of them, up to code that is exactly `stop`. -/
def readFor {α : Type} (piece : List Lexeme → Option (α × List Lexeme)) (stop : List Lexeme) :
    Nat → List Lexeme → Option (List α)
  | 0, code => if code = stop then some [] else none
  | n + 1, code =>
      if code = stop then some []
      else do
        let (a, rest) ← piece code
        return a :: (← readFor piece stop n rest)

/-- Reads pieces, each of which takes at least one lexeme, up to code that is exactly `stop`. -/
def readAll {α : Type} (piece : List Lexeme → Option (α × List Lexeme)) (stop code : List Lexeme) :
    Option (List α) :=
  readFor piece stop code.length code

/-- The text that a string literal means. -/
def stringValue? (literal : String) : Option String :=
  match literal.toList with
  | '"' :: cs =>
      match Text.readQuoted .text cs with
      | some (value, []) => some (String.ofList value)
      | _ => none
  | _ => none

/-- Reads a string literal. -/
def string? : List Lexeme → Option (String × List Lexeme)
  | .literal text :: code => (stringValue? text).map (·, code)
  | _ => none

/-- Reads a case of the type at hand. -/
def case? (code : List Lexeme) : Option (Ident × List Lexeme) :=
  match expect (word "Self" ++ symbol "::") code with
  | some (.ident i :: rest) => some (i, rest)
  | _ => none

end Pieces

section Functions

/-- Reads a function: its name, and the code in its braces, which are the first behind its name. -/
def function? (code : List Lexeme) : Option ((Ident × List Lexeme) × List Lexeme) :=
  match expect (word "fn") code with
  | some (.ident name :: rest) =>
      (groupEnd 0 ((rest.dropWhile (· ≠ .opening .brace)).drop 1)).map fun result =>
        ((name, result.1), result.2)
  | _ => none

/-- The code of the function of the given name in an implementation. -/
def bodyOf? (name : String) (code : List Lexeme) : Option (List Lexeme) := do
  let functions ← readAll function? [] (← lastBraces code)
  functions.lookup (.plain name)

end Functions

section Accessors

/-- Reads an arm that gives the raw value of a case. -/
def arm? (code : List Lexeme) : Option ((Ident × String) × List Lexeme) := do
  let (case, code) ← case? code
  let (value, code) ← string? (← expect (symbol "=>") code)
  return ((case, value), ← expect (symbol ",") code)

/-- The arms of the function that gives raw values: each case with its raw value.  An arm for
several cases at once is not read. -/
def rawValueArms? (code : List Lexeme) : Option (List (Ident × String)) := do
  let body ← bodyOf? "raw_value" code
  let rest ← expect (word "match" ++ symbol "*" ++ word "self" ++ [.opening .brace]) body
  readAll arm? [.closing .brace] rest

/-- Reads a branch: a text and the case that it selects. -/
def branch? (code : List Lexeme) : Option ((String × Ident) × List Lexeme) := do
  let (pattern, code) ← string? code
  let code ← expect (symbol "=>" ++ optionPath ["Some"] ++ [.opening .parenthesis]) code
  let (case, code) ← case? code
  return ((pattern, case), ← expect (.closing .parenthesis :: symbol ",") code)

/-- The branches of the function that looks a case up, if it compares with a table.  The last branch
is for all other texts. -/
def branches? (code : List Lexeme) : Option (List (String × Ident)) := do
  let body ← bodyOf? "from_raw_value" code
  let rest ←
    expect
      (word "match" ++ word "raw_value" ++ methodCall "to_lowercase" ++ methodCall "as_str" ++
        [.opening .brace])
      body
  readAll branch?
    (word "_" ++ symbol "=>" ++ optionPath ["None"] ++ symbol "," ++ [.closing .brace]) rest

/-- Reads a case in a list, with the comma behind it unless the list ends there. -/
def element? (code : List Lexeme) : Option (Ident × List Lexeme) := do
  let (case, code) ← case? code
  if code = [.closing .bracket] then return (case, code)
  else return (case, ← expect (symbol ",") code)

/-- The elements of the list that the function for all cases gives. -/
def allCases? (code : List Lexeme) : Option (List Ident) := do
  let body ← bodyOf? "all_cases" code
  let rest ← expect (names ["std", "vec"] ++ symbol "!" ++ [.opening .bracket]) body
  readAll element? [.closing .bracket] rest

end Accessors

end Code
end Caseless
