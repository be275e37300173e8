import Caseless.Grammar.Path

/-!
# Rules for types and bounds

Types are recognised by their first token.  Bounds that are added up form a type of their own
where a plus sign is allowed.
-/

namespace Caseless
namespace TypeRule

open Rule

section Bounds

/-- The lifetimes that a type or a trait is general in. -/
def binder : Rule :=
  seq [keyword "for", symbol "<",
    listing (seq [phrase (.attributes false), shaped (read .lifetime) .lifetime]),
    symbol ">"]

/-- The names that a bound captures. -/
def capture : Rule :=
  seq [keyword "use", symbol "<",
    listing
      (firstOf
        [(.lifetime, shaped (read .lifetime) .lifetime),
          (.either .ident (.keyword "Self"), read .word)]
        (refuse (.oneOf ["lifetime", "identifier", "`>`"]))),
    symbol ">"]

/-- The type behind an arrow, if there is one. -/
def returnType (plus : Bool) : Rule :=
  optional (.symbol "->") (seq [symbol "->", phrase (.type plus)])

/-- The types that a trait of functions takes and gives.  A double colon in front of them is not
kept. -/
def functionTypes : Rule :=
  seq [silently (optionalSymbol "::"), inside .parenthesis (phrase .typeList),
    phrase (.returnType false)]

/-- The path of a trait, perhaps with the types of a function. -/
def traitPath (shape : Shape) : Rule :=
  andThen (phrase (.path .type)) fun
    | .path ⟨_, _, true⟩ =>
        choose
          (.either (.group .parenthesis)
            (.both (.symbol "::") (.behindTwo (.group .parenthesis))))
          (shaped functionTypes shape) (accept shape)
    | _ => accept shape

/-- What is said when a relaxed bound is general in lifetimes. -/
def relaxedBinder : Complaint :=
  .broken "`for<...>` binder not allowed with `?` trait polarity modifier"

/-- The trait of a bound behind the lifetimes that it is general in.  A relaxed bound must not be
general, on either side of its mark. -/
def relaxable (general : Bool) (shape : Shape) : Rule :=
  if general then
    choose (.symbol "?") (forbid relaxedBinder (symbol "?") (traitPath shape)) (traitPath shape)
  else
    firstOf
      [(.both (.symbol "?") (.behind (.keyword "for")),
          forbid relaxedBinder (symbol "?") (seq [phrase .binder, traitPath shape])),
        (.symbol "?", seq [symbol "?", traitPath shape])]
      (traitPath shape)

/-- The trait of a bound that may be constant. -/
def constable (const general : Bool) : Rule :=
  firstOf
    [(.group .bracket,
        if const then
          seq [inside .bracket (keyword "const"), relaxable general .verbatim]
        else
          forbid (.broken "`[const]` is not allowed here") (inside .bracket (keyword "const"))
            (accept .plain)),
      (.keyword "const",
        if const then seq [keyword "const", relaxable general .verbatim]
        else forbid (.broken "`const` is not allowed here") (keyword "const") (accept .plain))]
    (relaxable general .trait)

def traitBound (const : Bool) : Rule :=
  choose (.keyword "for") (seq [phrase .binder, constable const true]) (constable const false)

def bound (captures const : Bool) : Rule :=
  firstOf
    [(.lifetime, shaped (read .lifetime) .lifetime),
      (.keyword "use",
        if captures then shaped capture .plain
        else
          forbid (.broken "`use<...>` precise capturing syntax is not allowed here") capture
            (accept .plain))]
    (asWritten Shape.isVerbatim
      (choose (.group .parenthesis) (inside .parenthesis (phrase (.traitBound const)))
        (phrase (.traitBound const))))

def boundFollows : Lookahead :=
  .anyOf [.word, .symbol "::", .symbol "?", .lifetime, .group .parenthesis]

def constBoundFollows : Lookahead :=
  .anyOf [boundFollows, .group .bracket, .keyword "const"]

/-- Whether a bound is a trait. -/
def isTrait : Shape → Bool
  | .trait => true
  | .verbatim => true
  | _ => false

/-- Bounds with plus signs between them. -/
def bounds (plus captures const seen : Bool) : Rule :=
  andThen (phrase (.bound captures const)) fun shape =>
    if plus then
      choose (.symbol "+")
        (seq [symbol "+",
          choose (if const then constBoundFollows else boundFollows)
            (phrase (.bounds plus captures const (seen || isTrait shape)))
            (accept (.answer (seen || isTrait shape)))])
        (accept (.answer (seen || isTrait shape)))
    else accept (.answer (seen || isTrait shape))

/-- More bounds, each behind a plus sign. -/
def moreBounds (mayEnd : Bool) : Rule :=
  optional (.symbol "+")
    (seq [symbol "+",
      if mayEnd then
        optional boundFollows (seq [phrase (.bound false false), phrase (.moreBounds mayEnd)])
      else seq [phrase (.bound false false), phrase (.moreBounds mayEnd)]])

/-- Bounds with a trait among them, behind something that introduces them. -/
def boundsWithTrait (introduction : List Rule) (plus captures const : Bool)
    (complaint : String) : Rule :=
  require Shape.isYes (.broken complaint)
    (seq (introduction ++ [phrase (.bounds plus captures const false)]))

/-- The bounds of an object type, behind something that introduces them. -/
def objectBounds (introduction : List Rule) (plus : Bool) : Rule :=
  boundsWithTrait introduction plus false false
    "at least one trait is required for an object type"

/-- Bounds up to one of several things. -/
def boundsUpTo (stop : Lookahead) (entry : Rule) (again : Phrase) : Rule :=
  choose stop (accept .plain)
    (seq [entry, choose (.symbol "+") (seq [symbol "+", phrase again]) (accept .plain)])

def parameterBounds : Rule :=
  boundsUpTo (.anyOf [.finished, .symbol ",", .symbol ">", .symbol "="])
    (phrase (.bound false true)) .parameterBounds

/-- The bounds of a lifetime parameter. -/
def lifetimeBounds : Rule :=
  boundsUpTo (.anyOf [.finished, .symbol ",", .symbol ">"]) (read .lifetime) .lifetimeBounds

/-- What ends the bounds of a condition. -/
def predicateEnds : Lookahead :=
  .anyOf [.finished, .group .brace, .symbol ",", .symbol ";", .symbol "="]

/-- What ends conditions, or the bounds of a condition on a type. -/
def conditionsEnd : Lookahead := .either predicateEnds (.symbolOnly ":" ["::"])

/-- The bounds of a condition on a lifetime. -/
def predicateLifetimes : Rule :=
  boundsUpTo (.either predicateEnds (.symbol ":")) (read .lifetime) .predicateLifetimes

/-- The bounds of a condition on a type. -/
def predicateBounds : Rule :=
  boundsUpTo conditionsEnd (phrase (.bound false true)) .predicateBounds

/-- Conditions with commas between them. -/
def predicates : Rule :=
  choose conditionsEnd (accept .plain)
    (seq [phrase .predicate,
      optional (.symbol ",") (seq [symbol ",", phrase .predicates])])

/-- A condition on a type or a lifetime. -/
def predicate : Rule :=
  choose (.both .lifetime (.behind (.symbol ":")))
    (seq [read .lifetime, symbol ":", phrase .predicateLifetimes])
    (seq [optional (.keyword "for") (phrase .binder), phrase (.type true), symbol ":",
      phrase .predicateBounds])

end Bounds

section Functions

/-- The name of a calling convention. -/
def convention : Rule :=
  optional (.keyword "extern")
    (seq [keyword "extern", optional (.literalText Terminal.isStringText) (read .string)])

/-- A function type; the shape of its result is not its own. -/
def function : Rule :=
  shaped
    (seq [optionalKeyword "unsafe", convention, keyword "fn",
      inside .parenthesis (phrase (.functionArguments true)), phrase (.returnType false)])
    .plain

/-- A mutable receiver follows. -/
def mutableSelf : Lookahead := .both (.keyword "mut") (.behind (.keyword "self"))

/-- A name with a colon behind it follows. -/
def labelFollows (name : Lookahead) : Lookahead :=
  .allOf [name, .behind (.symbol ":"), .no (.behind (.symbol "::"))]

/-- The name of an argument, which may be left blank. -/
def argumentName : Lookahead := .either .ident (.keyword "_")

/-- The arguments come to an end with dots. -/
def dotsFollow : Lookahead :=
  .either (.symbol "...")
    (.allOf [argumentName, .behind (.symbol ":"), .behindTwo (.symbol "...")])

/-- The dots at the end of the arguments. -/
def dots : Rule :=
  seq [optional argumentName (seq [read .word, symbol ":"]), symbol "...", optionalSymbol ","]

/-- An argument that is not the first. -/
def laterArgument : Rule :=
  seq [optional (labelFollows argumentName) (seq [read .word, symbol ":"]), phrase (.type true)]

/-- The first argument, which may be a receiver. -/
def firstArgument : Rule :=
  firstOf
    [(mutableSelf,
        asWritten (fun _ => true)
          (seq [keyword "mut", keyword "self",
            optional (.symbolOnly ":" ["::"]) (seq [symbol ":", phrase (.type true)])])),
      (labelFollows (.keyword "self"), seq [keyword "self", symbol ":", phrase (.type true)]),
      (labelFollows argumentName,
        seq [read .word, symbol ":",
          choose mutableSelf (seq [keyword "mut", keyword "self"]) (phrase (.type true))])]
    (phrase (.type true))

def functionArguments (first : Bool) : Rule :=
  choose .finished (accept .plain)
    (seq [phrase (.attributes false),
      choose dotsFollow dots
        (seq [if first then firstArgument else laterArgument,
          choose .finished (accept .plain)
            (seq [symbol ",", phrase (.functionArguments false)])])])

end Functions

section Types

/-- What a type may begin with, as a complaint lists it. -/
def starts : List String :=
  ["`for`", "parentheses", "`fn`", "`unsafe`", "`extern`", "identifier", "`::`", "`<`", "`dyn`",
    "square brackets", "`*`", "`&`", "`!`", "`impl`", "`_`", "lifetime"]

/-- What may follow the lifetimes that a type is general in, as a complaint lists it. -/
def boundStarts : List String :=
  ["identifier", "`fn`", "`unsafe`", "`extern`", "`super`", "`self`", "`Self`", "`crate`"]

def functionFollows : Lookahead := .keywords ["fn", "unsafe", "extern"]

/-- A path follows that begins with a name. -/
def nameFollows : Lookahead := .either .ident (.keywords ["super", "self", "Self", "crate"])

/-- The call of a code generator behind its path. -/
def call : Rule := seq [symbol "!", read .delimited]

/-- More bounds where a plus sign is allowed; `alone` is the shape without any. -/
def addedBounds (plus : Bool) (alone : Shape) : Rule :=
  if plus then
    choose (.symbol "+") (shaped (phrase (.moreBounds true)) (.bounds false)) (accept alone)
  else accept alone

/-- A type that begins with a path; whether it is general in lifetimes. -/
def pathType (plus general : Bool) : Rule :=
  andThen (phrase (.qualifiedPath .type)) fun
    | .path shape =>
        let tail := addedBounds plus (if general then .bounds true else .path shape)
        if shape.simple then
          choose (.symbolOnly "!" ["!="]) (shaped call .calledType) tail
        else tail
    | _ => accept .plain

/-- The rest of a type behind the lifetimes that it is general in. -/
def boundType (plus : Bool) : Rule := choose functionFollows function (pathType plus true)

/-- The content of a type in parentheses; its shape tells what may follow. -/
def parenthesisContent : Rule :=
  firstOf
    [(.finished, accept .plain),
      (.lifetime, shaped (objectBounds [] true) .plain),
      (.symbol "?", phrase (.traitBound false))]
    (andThen (phrase (.type true)) fun shape =>
      choose (.symbol ",") (shaped (seq [symbol ",", phrase .typeList]) .plain) (accept shape))

/-- A type in parentheses, a tuple, or bounds of which the first stands in parentheses. -/
def parenthesised (plus : Bool) : Rule :=
  andThen (inside .parenthesis parenthesisContent) fun
    | .trait =>
        choose (.symbol "+") (shaped (phrase (.moreBounds false)) (.bounds false))
          (accept (.bounds true))
    | .path _ | .bounds true =>
        if plus then
          choose (.symbol "+") (shaped (phrase (.moreBounds false)) (.bounds false))
            (accept .plain)
        else accept .plain
    | _ => accept .plain

/-- An object type behind its keyword.  With a star it is kept as it is written. -/
def object (plus : Bool) : Rule :=
  asWritten Shape.isVerbatim
    (choose (.behind (.symbol "*"))
      (shaped (objectBounds [keyword "dyn", symbol "*"] plus) .verbatim)
      (shaped (objectBounds [keyword "dyn"] plus) .plain))

/-- The target of a raw pointer. -/
def pointer : Rule :=
  seq [symbol "*",
    firstOf [(.keyword "const", keyword "const"), (.keyword "mut", keyword "mut")]
      (refuse (.oneOf ["`const`", "`mut`"])),
    shaped (phrase (.type false)) .plain]

def reference : Rule :=
  seq [symbol "&", optional .lifetime (read .lifetime), optionalKeyword "mut",
    shaped (phrase (.type false)) .plain]

/-- An array or a slice. -/
def sequence : Rule :=
  shaped
    (inside .bracket
      (seq [phrase (.type true),
        optional (.symbol ";") (seq [symbol ";", phrase (.expression true)])]))
    .plain

def type (plus : Bool) : Rule :=
  firstOf
    [(.keyword "for",
        before (phrase .binder)
          (choose (.either nameFollows functionFollows) (phrase (.boundType plus))
            (refuse (.oneOf boundStarts)))
          fun
            | .calledType => true
            | _ => false),
      (.group .parenthesis, parenthesised plus),
      (functionFollows, function),
      (.anyOf [nameFollows, .symbol "::", .symbol "<"], pathType plus false),
      (.keyword "dyn", shaped (object plus) .plain),
      (.group .bracket, sequence),
      (.symbol "*", pointer),
      (.symbol "&", reference),
      (.symbol "!", symbol "!"),
      (.keyword "impl",
        shaped
          (boundsWithTrait [keyword "impl"] plus true true "at least one trait must be specified")
          .plain),
      (.keyword "_", keyword "_"),
      (.lifetime, shaped (objectBounds [] true) (.bounds false))]
    (refuse (.oneOf starts))

/-- Types with commas between them, up to the end. -/
def typeList : Rule := commaList (phrase (.type true)) .typeList

end Types

end TypeRule
end Caseless
