import Caseless.Text.Quoted
import Caseless.Token.Printer

/-!
# Building blocks of generated code

Generated code is a list of lexemes.  The functions of this module write words, symbols, string
literals and groups.
-/

namespace Caseless
namespace Template

/-- A word of the language or a name. -/
def word (text : String) : List Lexeme := [.ident (.plain text)]

/-- The characters of a symbol, which belong together but for the last. -/
def symbolChars : List Char → List Lexeme
  | [] => []
  | [c] => [.punct c .alone]
  | c :: cs => .punct c .joint :: symbolChars cs

def symbol (text : String) : List Lexeme := symbolChars text.toList

def ident (i : Ident) : List Lexeme := [.ident i]

/-- A string literal that means the given text. -/
def string (text : String) : List Lexeme := [.literal (Text.quote .literal text)]

def lifetime (name : String) : List Lexeme := [.punct '\x27' .joint, .ident (.plain name)]

def group (delimiter : Delimiter) (content : List Lexeme) : List Lexeme :=
  .opening delimiter :: content ++ [.closing delimiter]

/-- A group in parentheses. -/
def parens (content : List Lexeme) : List Lexeme := group .parenthesis content

/-- A group in brackets. -/
def brackets (content : List Lexeme) : List Lexeme := group .bracket content

/-- A group in braces. -/
def braces (content : List Lexeme) : List Lexeme := group .brace content

/-- Names behind a path that may be empty, with double colons in front of each. -/
def names (texts : List String) : List Lexeme :=
  texts.flatMap fun text => symbol "::" ++ word text

/-- Several parts with a comma between two of them. -/
def commaSeparated : List (List Lexeme) → List Lexeme
  | [] => []
  | [part] => part
  | part :: parts => part ++ symbol "," ++ commaSeparated parts

/-- The code that makes compilation fail with the given text. -/
def compileError (text : String) : List Lexeme :=
  names ["core", "compile_error"] ++ symbol "!" ++ braces (string text)

end Template
end Caseless
