import Caseless.Grammar.Pattern

/-!
# Rules for parameters, conditions and signatures

The head of an item: its generic parameters, the conditions on them, and what a function takes
and gives.  Empty lists of parameters, bounds or conditions are not kept.
-/

namespace Caseless
namespace SignatureRule

open Rule

section Generics

/-- A list behind something that introduces it; without entries neither is kept. -/
def introduced (introduction : Rule) (stop : Lookahead) (list : Rule) : Rule :=
  choose (.behind stop) (silently introduction) (seq [introduction, list])

/-- Bounds behind a colon; answers whether there is a colon. -/
def bounded (stop : Lookahead) (bounds : Phrase) : Rule :=
  present (.symbol ":") (introduced (symbol ":") stop (phrase bounds))

/-- Something behind an equals sign; answers whether it is there. -/
def defined (value : Phrase) : Rule :=
  present (.symbol "=") (seq [symbol "=", phrase value])

/-- A generic parameter behind its attributes. -/
def parameter : Rule :=
  firstOf
    [(.lifetime,
        shaped (seq [read .lifetime, bounded (.symbols [",", ">"]) .lifetimeBounds]) .lifetime),
      (.ident,
        seq [read .ident, bounded (.symbols [",", ">", "="]) .parameterBounds,
          defined (.type true)]),
      (.keyword "const",
        seq [keyword "const", read .ident, symbol ":", phrase (.type true),
          defined .constArgument]),
      (.keyword "_", keyword "_")]
    (refuse (.oneOf ["lifetime", "identifier", "`const`"]))

/-- Generic parameters; answers whether there are angle brackets. -/
def generics : Rule :=
  present (.symbol "<")
    (choose (.behind (.symbol ">")) (silently (seq [symbol "<", symbol ">"]))
      (seq [symbol "<", listing (seq [phrase (.attributes false), parameter]), symbol ">"]))

/-- Conditions on generic parameters; answers whether there is a keyword for them. -/
def conditions : Rule :=
  present (.keyword "where")
    (introduced (keyword "where") TypeRule.conditionsEnd (phrase .predicates))

end Generics

section Functions

/-- A test holds behind a keyword that may be left out. -/
def behindOptional (word : String) (test : Lookahead) : Lookahead :=
  .either (.both (.keyword word) (.behind test)) (.both (.no (.keyword word)) test)

/-- A test holds behind a calling convention that may be left out. -/
def behindConvention (test : Lookahead) : Lookahead :=
  .either
    (.both (.keyword "extern")
      (.either (.both (.behind (.literalText Terminal.isStringText)) (.behindTwo test))
        (.behind test)))
    test

/-- The signature of a function follows, be it `safe` or not. -/
def signatureFollows (safe : Bool) : Lookahead :=
  let rest := behindConvention (.keyword "fn")
  behindOptional "const"
    (behindOptional "async"
      (if safe then .either (.both (.keyword "safe") (.behind rest)) (behindOptional "unsafe" rest)
        else behindOptional "unsafe" rest))

/-- The dots that end the parameters. -/
def dots : Rule := seq [symbol "...", optionalSymbol ","]

/-- What follows a parameter. -/
def parametersRest : Rule :=
  choose .finished (accept .plain) (seq [symbol ",", phrase (.functionParameters false)])

/-- The receiver of a method follows. -/
def receiverFollows : Lookahead :=
  let own := behindOptional "mut" (.keyword "self")
  .anyOf
    [.both (.keyword "self") (.no (.behind (.symbol "::"))),
      .both (.keyword "mut") (.behind (.keyword "self")),
      .both (.symbol "&")
        (.either (.behind own) (.both (.behind .lifetime) (.behindTwo own)))]

/-- The receiver of a method. -/
def receiver : Rule :=
  choose (.symbol "&")
    (seq [symbol "&", optional .lifetime (read .lifetime), optionalKeyword "mut",
      keyword "self"])
    (seq [optionalKeyword "mut", keyword "self",
      optional (.symbol ":") (seq [symbol ":", phrase (.type true)])])

/-- A parameter of a function that is no receiver, and those behind it. -/
def ordinary : Rule :=
  choose (.both .ident (.behind (.symbol "<"))) (seq [phrase (.type true), parametersRest])
    (seq [phrase .pattern, symbol ":",
      choose (.symbol "...") dots (seq [phrase (.type true), parametersRest])])

/-- The parameters of a function, up to the end.  Only the first can be a receiver. -/
def functionParameters (first : Bool) : Rule :=
  choose .finished (accept .plain)
    (seq [phrase (.attributes false),
      firstOf
        [(.symbol "...", dots),
          (receiverFollows,
            if first then seq [receiver, parametersRest]
            else refuse (.broken "unexpected method receiver"))]
        ordinary])

/-- The signature of a function behind the words that qualify it. -/
def signatureRest : Rule :=
  seq [TypeRule.convention, keyword "fn", read .ident, generics,
    inside .parenthesis (phrase (.functionParameters true)), phrase (.returnType true),
    conditions]

/-- The signature of a function. -/
def signature : Rule :=
  seq [optionalKeyword "const", optionalKeyword "async", optionalKeyword "unsafe",
    signatureRest]

/-- The body of a function. -/
def body : Rule := inside .brace (seq [phrase .innerAttributes, phrase .statements])

/-- A function.  One without a body is kept as it is written. -/
def function : Rule :=
  seq [signature,
    choose (.symbol ";") (shaped (symbol ";") .verbatim) (shaped body .plain)]

end Functions

end SignatureRule
end Caseless
