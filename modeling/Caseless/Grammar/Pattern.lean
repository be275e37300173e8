import Caseless.Grammar.Attribute

/-!
# Rules for patterns
-/

namespace Caseless
namespace PatternRule

open Rule

/-- A path follows that may be the bound of a range. -/
def pathFollows : Lookahead :=
  .anyOf [.ident, .symbol "::", .symbol "<", .keywords ["self", "Self", "super", "crate"]]

/-- Nothing follows that could be the end of a range. -/
def boundMissing : Lookahead :=
  .anyOf [.finished, .symbol "|", .symbol "=", .symbolOnly ":" ["::"], .symbol ",", .symbol ";",
    .keyword "if"]

/-- The end of a range pattern; answers whether there is one. -/
def rangeBound : Rule :=
  choose boundMissing (accept (.answer false))
    (shaped
      (firstOf
        [(.literal, read .literal),
          (pathFollows, phrase (.qualifiedPath .expression)),
          (.keyword "const", seq [keyword "const", phrase (.block true)])]
        (refuse
          (.oneOf ["literal", "identifier", "`::`", "`<`", "`self`", "`Self`", "`super`",
            "`crate`", "`const`"])))
      (.answer true))

/-- The end of a range that includes its bound, which must be there. -/
def closedEnd (shape : Shape) : Rule :=
  andThen (phrase .rangeBound) fun
    | .answer true => accept shape
    | _ => refuse (.wanted "range upper bound")

/-- The dots and the end of a range pattern that has a beginning.  Three dots are an old spelling
of a range that includes its end. -/
def rangeRest : Rule :=
  firstOf
    [(.symbol "..=", seq [symbol "..=", closedEnd .plain]),
      (.symbol "...", seq [read (.respelt "..." "..="), closedEnd .plain])]
    (seq [symbol "..",
      andThen (phrase .rangeBound) fun
        | .answer true => accept .plain
        | _ => accept .range])

/-- A range pattern without a beginning, or the dots that stand for all remaining parts. -/
def openRange : Rule :=
  choose (.symbol "..=") (seq [symbol "..=", closedEnd .range])
    (seq [symbol "..",
      andThen (phrase .rangeBound) fun
        | .answer true => accept .range
        | _ => accept .plain])

/-- What may follow the path of a pattern. -/
def afterPath : Rule :=
  firstOf
    [(.group .brace, shaped (inside .brace (phrase .patternFields)) .plain),
      (.group .parenthesis, shaped (inside .parenthesis (phrase (.patternList false))) .plain),
      (.symbol "..", rangeRest)]
    (accept .plain)

/-- A pattern that begins with a path. -/
def pathPattern : Rule :=
  andThen (phrase (.qualifiedPath .expression)) fun
    | .path ⟨true, _, _⟩ => choose (.symbolOnly "!" ["!="]) TypeRule.call afterPath
    | _ => afterPath

/-- A pattern that is no plain name although it begins with one follows. -/
def pathPatternFollows : Lookahead :=
  .anyOf
    [.both .ident
        (.behind
          (.anyOf [.symbol "::", .symbol "!", .group .brace, .group .parenthesis, .symbol ".."])),
      .both (.keyword "self") (.behind (.symbol "::")),
      .symbol "::", .symbol "<", .keywords ["Self", "super", "crate"]]

/-- A name that is bound, perhaps to what another pattern describes. -/
def binding : Rule :=
  seq [optionalKeyword "ref", optionalKeyword "mut",
    choose (.keyword "self") (read .word) (read .ident),
    optional (.symbol "@") (shaped (seq [symbol "@", phrase .pattern]) .plain)]

/-- A pattern without alternatives. -/
def pattern : Rule :=
  firstOf
    [(pathPatternFollows, pathPattern),
      (.keyword "_", keyword "_"),
      (.keyword "box",
        asWritten (fun _ => true) (shaped (seq [keyword "box", phrase .pattern]) .plain)),
      (.anyOf [.symbol "-", .literal, .keyword "const"],
        seq [phrase .rangeBound, choose (.symbol "..") rangeRest (accept .plain)]),
      (.either .ident (.keywords ["ref", "mut", "self"]), binding),
      (.symbol "&",
        shaped (seq [symbol "&", optionalKeyword "mut", phrase .pattern]) .plain),
      (.group .parenthesis, shaped (inside .parenthesis (phrase (.patternList false))) .plain),
      (.group .bracket, shaped (inside .bracket (phrase (.patternList true))) .plain),
      (.symbolOnly ".." ["..."], openRange)]
    (refuse
      (.oneOf ["identifier", "`::`", "`<`", "`_`", "literal", "`const`", "`ref`", "`mut`", "`&`",
        "parentheses", "square brackets", "`..`"]))

def alternativeFollows : Lookahead := .symbolOnly "|" ["||", "|="]

/-- More alternatives of a pattern. -/
def morePatterns : Rule :=
  optional alternativeFollows (seq [symbol "|", phrase .pattern, phrase .morePatterns])

/-- A pattern with alternatives. -/
def patterns : Rule :=
  choose (.symbol "|") (seq [symbol "|", phrase .pattern, phrase .morePatterns])
    (andThen (phrase .pattern) fun shape =>
      choose alternativeFollows (phrase .morePatterns) (accept shape))

/-- A pattern inside a slice, where an open range needs parentheses. -/
def slicePart : Rule :=
  andThen (phrase .patterns) fun
    | .range =>
        refuse
          (.broken "range pattern is not allowed unparenthesized inside slice pattern")
    | _ => accept .plain

/-- Patterns with commas between them, up to the end. -/
def patternList (slice : Bool) : Rule :=
  commaList (if slice then slicePart else phrase .patterns) (.patternList slice)

/-- The number or the name of a field with its pattern. -/
def fieldPattern : Rule :=
  firstOf
    [(.keywords ["box", "ref", "mut"],
        seq [optionalKeyword "box", optionalKeyword "ref", optionalKeyword "mut", read .ident]),
      (.ident,
        seq [read .ident, optional (.symbol ":") (seq [symbol ":", phrase .patterns])])]
    (seq [read .index, symbol ":", phrase .patterns])

/-- The fields of a struct pattern. -/
def patternFields : Rule :=
  choose .finished (accept .plain)
    (seq [phrase (.attributes false),
      choose (.symbol "..") (symbol "..")
        (seq [fieldPattern,
          choose .finished (accept .plain) (seq [symbol ",", phrase .patternFields])])])

end PatternRule
end Caseless
