import Caseless.Grammar.Pattern

/-!
# Rules for expressions

An expression is a chain of operands and operators.  Operators are read by precedence; ranges
cannot be operands, and comparisons cannot be chained.  Where a block follows an expression, as
behind a condition, braces behind a path do not begin a struct.
-/

namespace Caseless
namespace ExpressionRule

open Rule

section Operators

/-- The operators between two operands.  An operator stands before those that it begins with. -/
def binaryOperators : List (String × Precedence) :=
  [("+=", .assign), ("-=", .assign), ("*=", .assign), ("/=", .assign), ("%=", .assign),
    ("^=", .assign), ("&=", .assign), ("|=", .assign), ("<<=", .assign), (">>=", .assign),
    ("&&", .and), ("||", .or), ("<<", .shift), (">>", .shift), ("==", .compare),
    ("<=", .compare), ("!=", .compare), (">=", .compare), ("+", .sum), ("-", .sum),
    ("*", .product), ("/", .product), ("%", .product), ("^", .bitXor), ("&", .bitAnd),
    ("|", .bitOr), ("<", .compare), (">", .compare)]

def assignFollows : Lookahead := .symbolOnly "=" ["=>"]

/-- The shape of an expression whose outermost operator has the given precedence. -/
def resultShape : Precedence → Shape
  | .compare => .comparison
  | _ => .plain

/-- Nothing follows that could be the end of a range. -/
def rangeEndMissing (structs : Bool) : Lookahead :=
  .anyOf
    [.finished, .symbolOnly "." [".."],
      if structs then .never else .group .brace,
      .symbols [",", ";", "?", "=>", "=", "+", "/", "%", "^", ">", "<=", "!=", "-=", "*=", "&=",
        "|=", "<<="],
      .keyword "as"]

/-- The dots and the end of a range, put together in the given way. -/
def rangeWith (join : (dots stop : Rule) → Rule) (structs : Bool) : Rule :=
  firstOf
    [(.symbol "..=", join (symbol "..=") (phrase (.operand structs .range))),
      (.symbol "...", refuse (.oneOf ["`..`", "`..=`"]))]
    (join (symbol "..")
      (choose (rangeEndMissing structs) (accept .plain) (phrase (.operand structs .range))))

/-- A range without a beginning, or the rest of one that has a beginning. -/
def range (structs : Bool) : Rule :=
  rangeWith (fun dots stop => shaped (seq [dots, stop]) .range) structs

/-- A range without a beginning behind attributes, which it must not have. -/
def markedRange (structs : Bool) : Rule :=
  rangeWith
    (forbid (.broken "attributes are not allowed on range expressions starting with `..`"))
    structs

/-- What must not follow a cast without parentheses around it. -/
def afterCast : Rule :=
  let no (what : String) : Rule := refuse (.broken ("casts cannot be followed by " ++ what))
  firstOf
    [(.symbolOnly "." [".."],
        firstOf
          [(.behind (.keyword "await"), no "`.await`"),
            (.both (.behind .ident)
                (.behindTwo (.either (.group .parenthesis) (.symbol "::"))),
              no "a method call")]
          (no "a field access")),
      (.symbol "?", no "`?`"),
      (.group .bracket, no "indexing"),
      (.group .parenthesis, no "a function call")]
    (accept .plain)

/-- A cast, and what follows it. -/
def cast (structs : Bool) (base : Precedence) : Rule :=
  seq [keyword "as", phrase (.type false), afterCast, phrase (.operators structs base .plain)]

/-- An operator with its right operand, and what follows them. -/
def operation (structs : Bool) (base : Precedence) (text : String) (precedence : Precedence) :
    Rule :=
  seq [symbol text, phrase (.operand structs precedence),
    phrase (.operators structs base (resultShape precedence))]

/-- An operator that may follow an operand of the given shape. -/
def operator (structs : Bool) (base : Precedence) (shape : Shape) (text : String)
    (precedence : Precedence) : Rule :=
  if precedence.rank < base.rank then accept shape
  else
    match precedence, shape with
    | .compare, .comparison => refuse (.broken "comparison operators cannot be chained")
    | _, _ => operation structs base text precedence

/-- The operators and operands behind an operand of the given shape. -/
def operators (structs : Bool) (base : Precedence) (shape : Shape) : Rule :=
  match shape with
  | .range => accept .range
  | _ =>
      firstOf
        (binaryOperators.map fun op =>
          (.symbol op.1, operator structs base shape op.1 op.2))
        (firstOf
          [(assignFollows,
              if base.rank ≤ Precedence.assign.rank then operation structs base "=" .assign
              else accept shape),
            (.symbol "..",
              if base.rank ≤ Precedence.range.rank then range structs else accept shape),
            (.keyword "as", cast structs base)]
          (accept shape))

/-- Whether an operator behind a right operand belongs to that operand. -/
def bindsTighter (next precedence : Precedence) : Bool :=
  precedence.rank < next.rank ||
    (next.rank == precedence.rank && precedence.rank == Precedence.assign.rank)

/-- The tighter operators behind a right operand of the given shape. -/
def operandRest (structs : Bool) (precedence : Precedence) (shape : Shape) : Rule :=
  match shape with
  | .range => accept .range
  | _ =>
      let climb (next : Precedence) (step : Rule) : Rule :=
        if bindsTighter next precedence then
          andThen step fun s => phrase (.operandRest structs precedence s)
        else accept shape
      firstOf
        (binaryOperators.map fun op =>
          (.symbol op.1, climb op.2 (operator structs op.2 shape op.1 op.2)))
        (firstOf
          [(assignFollows, climb .assign (operation structs .assign "=" .assign)),
            (.symbol "..", climb .range (range structs)),
            (.keyword "as", climb .cast (cast structs .cast))]
          (accept shape))

/-- The right operand of an operator. -/
def operand (structs : Bool) (precedence : Precedence) : Rule :=
  andThen (phrase (.unary structs)) fun shape =>
    phrase (.operandRest structs precedence shape)

def expression (structs : Bool) : Rule :=
  andThen (phrase (.unary structs)) fun shape => phrase (.operators structs .jump shape)

end Operators

section Trailers

def callArguments : Rule := inside .parenthesis (phrase .expressionList)

/-- Generic arguments behind the name of a method. -/
def methodArguments : Rule :=
  seq [symbol "::", symbol "<", listing (phrase .genericArgument), symbol ">"]

/-- A field or a method behind its point. -/
def member : Rule :=
  firstOf
    [(.keyword "await", keyword "await"),
      (.ident,
        seq [read .ident,
          choose (.symbol "::") (seq [methodArguments, callArguments])
            (optional (.group .parenthesis) callArguments)]),
      (.literalText Terminal.isIntegerText, read .index)]
    (refuse (.wanted "identifier or integer"))

/-- Whether the text of a literal is that of a number that ends in a point. -/
def endsInPoint (text : String) : Bool :=
  Terminal.isFloatText text && text.toList.getLast? == some '.'

/-- What follows a point behind an expression. -/
def afterPoint : Rule :=
  firstOf
    [(.literalText endsInPoint, seq [read .indexPair, member]),
      (.literalText Terminal.isFloatText, read .indexPair)]
    member

/-- Calls, fields and the like behind an expression of the given shape. -/
def trailers (shape : Shape) : Rule :=
  let again := phrase (.trailers .plain)
  let index := seq [inside .bracket (phrase (.expression true)), again]
  match shape with
  | .range =>
      firstOf [(.group .parenthesis, seq [callArguments, again]), (.group .bracket, index)]
        (accept .range)
  | _ =>
      firstOf
        [(.group .parenthesis, seq [callArguments, again]),
          (.symbolOnly "." [".."], seq [symbol ".", afterPoint, again]),
          (.group .bracket, index),
          (.symbol "?", seq [symbol "?", again])]
        (accept shape)

/-- Expressions with commas between them, up to the end. -/
def expressionList : Rule := commaList (phrase (.expression true)) .expressionList

end Trailers

section Atoms

/-- An expression may begin with the next token. -/
def startFollows : Lookahead :=
  .anyOf
    [.both .word (.no (.keyword "as")), .anyGroup, .literal, .symbolOnly "!" ["!="],
      .symbolOnly "-" ["-=", "->"], .symbolOnly "*" ["*="], .symbolOnly "|" ["|="],
      .symbolOnly "&" ["&="], .symbol "..", .symbolOnly "<" ["<=", "<<="], .symbol "::",
      .lifetime, .symbol "#"]

/-- The lifetimes of a closure follow. -/
def closureBinderFollows : Lookahead :=
  .both (.behind (.symbol "<")) (.either (.behindTwo .lifetime) (.behindTwo (.symbol ">")))

def closureFollows : Lookahead :=
  .anyOf
    [.symbol "|", .keyword "move", .both (.keyword "for") closureBinderFollows,
      .both (.keyword "const") (.no (.behind (.group .brace))), .keyword "static",
      .both (.keyword "async") (.either (.behind (.symbol "|")) (.behind (.keyword "move")))]

def closure (structs : Bool) : Rule :=
  shaped
    (seq [optional (.keyword "for") (phrase .binder), optionalKeyword "const",
      optionalKeyword "static", optionalKeyword "async", optionalKeyword "move", symbol "|",
      phrase .closureArguments, symbol "|",
      choose (.symbol "->") (seq [symbol "->", phrase (.type true), phrase (.block false)])
        (phrase (.expression structs))])
    .plain

def closureArguments : Rule :=
  choose (.symbol "|") (accept .plain)
    (seq [phrase (.attributes false), phrase .pattern,
      optional (.symbol ":") (seq [symbol ":", phrase (.type true)]),
      choose (.symbol "|") (accept .plain) (seq [symbol ",", phrase .closureArguments])])

/-- The call of a code generator. -/
def generatorCall : Rule :=
  seq [symbol "!", choose (.group .brace) (shaped (read .delimited) .bracedCall)
    (read .delimited)]

/-- What may follow a path in an expression. -/
def afterPath (structs : Bool) : Rule :=
  if structs then
    choose (.group .brace) (shaped (inside .brace (phrase .fieldValues)) .plain) (accept .plain)
  else accept .plain

/-- A path, the call of a code generator, or a struct. -/
def pathExpression (structs : Bool) : Rule :=
  andThen (phrase (.qualifiedPath .expression)) fun
    | .path ⟨true, _, _⟩ => choose (.symbolOnly "!" ["!="]) generatorCall (afterPath structs)
    | _ => afterPath structs

def pathFollows : Lookahead :=
  .anyOf
    [.ident, .symbol "::", .symbol "<", .keywords ["self", "Self", "super", "crate"],
      .both (.keyword "try") (.either (.behind (.symbol "!")) (.behind (.symbol "::")))]

/-- The fields of a struct expression. -/
def fieldValues : Rule :=
  firstOf
    [(.finished, accept .plain),
      (.symbol "..",
        seq [symbol "..", choose .finished (accept .plain) (phrase (.expression true))])]
    (seq [phrase (.attributes false),
      choose .ident
        (seq [read .ident,
          optional (.symbol ":") (seq [symbol ":", phrase (.expression true)])])
        (seq [read .index, symbol ":", phrase (.expression true)]),
      choose .finished (accept .plain) (seq [symbol ",", phrase .fieldValues])])

/-- An array, written out or as a value that is repeated. -/
def array : Rule :=
  inside .bracket
    (choose .finished (accept .plain)
      (seq [phrase (.expression true),
        firstOf
          [(.finished, accept .plain), (.symbol ",", seq [symbol ",", phrase .expressionList]),
            (.symbol ";", seq [symbol ";", phrase (.expression true)])]
          (refuse (.wanted "`,` or `;`"))]))

/-- A jump out of a loop or a block. -/
def jumpOut (structs : Bool) : Rule :=
  seq [keyword "break",
    choose (.both .lifetime (.behind (.symbol ":")))
      (forbid (.broken "parentheses required") (phrase (.expression true)) (accept .plain))
      (seq [optional .lifetime (read .lifetime),
        optional
          (if structs then startFollows else .both startFollows (.no (.group .brace)))
          (shaped (phrase (.expression structs)) .plain)])]

/-- A keyword with an expression behind it, if one follows. -/
def jump (word : String) : Rule :=
  seq [keyword word, optional startFollows (shaped (phrase (.expression true)) .plain)]

/-- A match with a condition that is an expression. -/
def letting (structs : Bool) : Rule :=
  seq [keyword "let", phrase .patterns, symbol "=",
    andThen (phrase (.unary structs)) fun shape =>
      shaped (phrase (.operators structs .compare shape)) .plain]

/-- A condition with its branches. -/
def condition : Rule :=
  seq [keyword "if", phrase (.expression false), phrase (.block false),
    choose (.keyword "else")
      (seq [keyword "else",
        firstOf [(.keyword "if", phrase .condition), (.group .brace, phrase (.block false))]
          (refuse (.oneOf ["`if`", "curly braces"]))])
      (accept .block)]

/-- A loop, with its label left out. -/
def loops : List (Lookahead × Rule) :=
  [(.keyword "while", seq [keyword "while", phrase (.expression false), phrase (.block true)]),
    (.both (.keyword "for") (.no closureBinderFollows),
      seq [keyword "for", phrase .patterns, keyword "in", phrase (.expression false),
        phrase (.block true)]),
    (.keyword "loop", seq [keyword "loop", phrase (.block true)])]

/-- A loop or a block with a label. -/
def labelled : Rule :=
  seq [read .lifetime, symbol ":",
    firstOf (loops ++ [(.group .brace, phrase (.block true))])
      (refuse (.wanted "loop or block expression"))]

/-- A case distinction. -/
def distinction : Rule :=
  shaped
    (seq [keyword "match", phrase (.expression false),
      inside .brace (seq [phrase .innerAttributes, phrase .arms])])
    .block

/-- Whether an arm or a statement of this shape may end without a mark. -/
def endsItself : Shape → Bool
  | .block => true
  | _ => false

/-- The arms of a case distinction. -/
def arms : Rule :=
  choose .finished (accept .plain)
    (seq [phrase (.attributes false), phrase .patterns,
      optional (.keyword "if") (seq [keyword "if", phrase (.expression true)]), symbol "=>",
      andThen (phrase .statementExpression) fun shape =>
        if endsItself shape then seq [optionalSymbol ",", phrase .arms]
        else choose .finished (accept .plain) (seq [symbol ",", phrase .arms])])

/-- The expressions that end in a block and begin with a keyword or a brace. -/
def blocks : List (Lookahead × Rule) :=
  [(.keyword "if", phrase .condition)] ++ loops ++
    [(.keyword "match", distinction),
      (.both (.keyword "try") (.behind (.group .brace)),
        seq [keyword "try", phrase (.block false)]),
      (.keyword "unsafe", seq [keyword "unsafe", phrase (.block true)]),
      (.both (.keyword "const") (.behind (.group .brace)),
        seq [keyword "const", phrase (.block true)]),
      (.group .brace, phrase (.block true)),
      (.lifetime, labelled)]

/-- A reserved form, kept as it is written. -/
def builtin : Rule :=
  asWritten (fun _ => true)
    (seq [read .word, symbol "#", read .word, choose (.group .parenthesis) (read .delimited)
      (refuse (.wanted Delimiter.parenthesis.name))])

/-- An expression without operators and without anything behind it. -/
def atom (structs : Bool) : Rule :=
  firstOf
    [(.literal, read .literal),
      (.both (.keyword "async")
          (.either (.behind (.group .brace))
            (.both (.behind (.keyword "move")) (.behindTwo (.group .brace)))),
        shaped (seq [keyword "async", optionalKeyword "move", phrase (.block false)]) .plain),
      (.both (.keyword "try") (.behind (.group .brace)),
        seq [keyword "try", phrase (.block false)]),
      (closureFollows, closure structs),
      (.both (.keyword "builtin") (.behind (.symbol "#")), builtin),
      (pathFollows, pathExpression structs),
      (.group .parenthesis, shaped (inside .parenthesis (phrase .expressionList)) .plain),
      (.keyword "break", jumpOut structs),
      (.keyword "continue", seq [keyword "continue", optional .lifetime (read .lifetime)]),
      (.keyword "return", jump "return"),
      (.keyword "become",
        asWritten (fun _ => true)
          (shaped (seq [keyword "become", phrase (.expression true)]) .plain)),
      (.group .bracket, shaped array .plain),
      (.keyword "let", letting structs),
      (.keyword "yield", jump "yield"),
      (.symbol "..", range structs),
      (.keyword "_", keyword "_")]
    (firstOf blocks (refuse (.wanted "an expression")))

/-- An expression behind an ampersand. -/
def reference (structs : Bool) : Rule :=
  seq [symbol "&",
    choose (.both (.keyword "raw") (.behind (.keywords ["mut", "const"])))
      (seq [keyword "raw", choose (.keyword "mut") (keyword "mut") (keyword "const")])
      (optionalKeyword "mut"),
    shaped (phrase (.unary structs)) .plain]

/-- An atom with what follows it. -/
def trailed (structs : Bool) : Rule :=
  andThen (atom structs) fun shape => phrase (.trailers shape)

/-- The operators in front of an operand. -/
def unaryOperators : List String := ["*", "!", "-"]

/-- An expression without operators between operands. -/
def unary (structs : Bool) : Rule :=
  andThen (phrase (.attributes false)) fun marked =>
    firstOf
      ((.symbol "&", reference structs) ::
        unaryOperators.map fun text =>
          (.symbol text, seq [symbol text, shaped (phrase (.unary structs)) .plain]))
      (if marked.isYes then choose (.symbol "..") (markedRange structs) (trailed structs)
        else trailed structs)

/-- An expression in front of which a block ends a statement. -/
def statementExpression : Rule :=
  seq [phrase (.attributes false),
    firstOf
      (blocks.map fun option =>
        (option.1,
          seq [option.2,
            choose (.either (.symbolOnly "." [".."]) (.symbol "?"))
              (andThen (phrase (.trailers .plain)) fun shape =>
                phrase (.operators true .jump shape))
              (accept .block)]))
      (phrase (.expression true))]

end Atoms

end ExpressionRule
end Caseless
