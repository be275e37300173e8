import Caseless.Grammar.Signature

/-!
# Rules for items inside blocks

An item declares something with a name: a function, a type, a constant, an import, a module.  An
item that is incomplete by the rules of the language, or uses an extension of them, is kept as it
is written; the shape of the item tells.
-/

namespace Caseless
namespace ItemRule

open Rule

/-- The shape of something that is kept as it is written under a condition. -/
def verbatimIf (condition : Bool) : Shape := if condition then .verbatim else .plain

section Values

/-- A name, or a blank in its place. -/
def nameOrBlank : Rule :=
  choose (.either .ident (.keyword "_")) (read .word) (refuse (.oneOf ["identifier", "`_`"]))

/-- A constant with all that may follow its name, with a shape that depends on whether it is
generic or conditional, and on whether it has a value. -/
def constantWith (shape : (general valued : Bool) → Shape) : Rule :=
  seq [keyword "const", nameOrBlank,
    andThen SignatureRule.generics fun general =>
      seq [symbol ":", phrase (.type true),
        andThen (SignatureRule.defined (.expression true)) fun valued =>
          andThen SignatureRule.conditions fun conditional =>
            shaped (symbol ";") (shape (general.isYes || conditional.isYes) valued.isYes)]]

/-- A constant, which must not be generic and must have a value. -/
def constant : Rule := constantWith fun general valued => verbatimIf (general || !valued)

/-- A variable that lives as long as the program.  It must have a type and a value. -/
def static : Rule :=
  seq [keyword "static", optionalKeyword "mut", read .ident,
    choose (.symbol "=")
      (shaped (seq [symbol "=", phrase (.expression true), symbol ";"]) .verbatim)
      (seq [symbol ":", phrase (.type true),
        choose (.symbol ";") (shaped (symbol ";") .verbatim)
          (shaped (seq [symbol "=", phrase (.expression true), symbol ";"]) .plain)])]

end Values

section Types

/-- What ends the bounds of an associated type. -/
def associatedEnd : Lookahead := .either (.keyword "where") (.symbols ["=", ";"])

/-- The bounds of an associated type. -/
def associatedBounds : Rule :=
  TypeRule.boundsUpTo associatedEnd (phrase (.bound false true)) .associatedBounds

/-- Another name for a type.  Conditions stand before the type, behind it, or in either place; the
shape depends on whether there are bounds, and on whether there is a type. -/
def typeNameWith (early late : Bool) (shape : (restricted given : Bool) → Shape) : Rule :=
  seq [keyword "type", read .ident, SignatureRule.generics,
    andThen (SignatureRule.bounded associatedEnd .associatedBounds) fun restricted =>
      andThen (if early then SignatureRule.conditions else accept .plain) fun conditional =>
        andThen (SignatureRule.defined (.type true)) fun given =>
          seq [if late && !conditional.isYes then SignatureRule.conditions else accept .plain,
            shaped (symbol ";") (shape restricted.isYes given.isYes)]]

/-- Another name for a type, which must be given and must have no bounds. -/
def typeName : Rule := typeNameWith true false fun restricted given =>
  verbatimIf (restricted || !given)

def struct : Rule :=
  seq [keyword "struct", read .ident, SignatureRule.generics,
    choose (.group .parenthesis)
      (seq [inside .parenthesis (phrase .tupleFields), SignatureRule.conditions, symbol ";"])
      (seq [SignatureRule.conditions,
        choose (.group .brace) (inside .brace (phrase .namedFields)) (symbol ";")])]

/-- The fields of a case of an enum, if there are any. -/
def variantFields : Rule :=
  firstOf
    [(.group .brace, inside .brace (phrase .namedFields)),
      (.group .parenthesis, inside .parenthesis (phrase .tupleFields))]
    (accept .plain)

/-- The cases of an enum, up to the end.  A visibility in front of a case is not kept. -/
def variants : Rule :=
  commaList
    (seq [phrase (.attributes false), silently (phrase .visibility), read .ident, variantFields,
      SignatureRule.defined (.expression true)])
    .variants

def enum : Rule :=
  seq [keyword "enum", read .ident, SignatureRule.generics, SignatureRule.conditions,
    inside .brace (phrase .variants)]

def union : Rule :=
  seq [keyword "union", read .ident, SignatureRule.generics, SignatureRule.conditions,
    inside .brace (phrase .namedFields)]

end Types

section Imports

/-- What is imported; whether a double colon may stand at its front.  A list in which one did is
kept as it is written. -/
def importTree (rootable : Bool) : Rule :=
  firstOf
    [(.either .ident (.keywords ["self", "super", "crate", "try"]),
        seq [read .word,
          firstOf
            [(.symbol "::", seq [symbol "::", phrase (.importTree false)]),
              (.keyword "as", seq [keyword "as", nameOrBlank])]
            (accept .plain)]),
      (.symbol "*", symbol "*"),
      (.group .brace, inside .brace (phrase (.importTrees rootable false)))]
    (refuse (.oneOf ["identifier", "`self`", "`super`", "`crate`", "`try`", "`*`",
      "curly braces"]))

/-- An import that may have a double colon at its front. -/
def rootableTree : Rule :=
  choose (.symbol "::") (shaped (seq [symbol "::", phrase (.importTree false)]) .verbatim)
    (phrase (.importTree true))

/-- Imports with commas between them, up to the end. -/
def importTrees (rootable seen : Bool) : Rule :=
  choose .finished (accept (verbatimIf seen))
    (andThen (if rootable then rootableTree else phrase (.importTree false)) fun shape =>
      choose .finished (accept (verbatimIf (seen || shape.isVerbatim)))
        (seq [symbol ",", phrase (.importTrees rootable (seen || shape.isVerbatim))]))

def importItem : Rule :=
  seq [keyword "use",
    andThen
      (choose (.symbol "::") (seq [symbol "::", phrase (.importTree false)])
        (phrase (.importTree true)))
      fun shape => shaped (symbol ";") shape]

/-- An import of a whole package. -/
def package : Rule :=
  seq [keyword "extern", keyword "crate", choose (.keyword "self") (read .word) (read .ident),
    optional (.keyword "as") (seq [keyword "as", nameOrBlank]), symbol ";"]

end Imports

section Containers

/-- Items between braces. -/
def contents (list : Phrase) : Rule := inside .brace (seq [phrase .innerAttributes, phrase list])

def moduleItem : Rule :=
  seq [optionalKeyword "unsafe", keyword "mod",
    choose (.keyword "try") (read .word) (read .ident),
    choose (.symbol ";") (symbol ";") (contents .items)]

/-- A block of declarations of things that are defined elsewhere. -/
def foreign : Rule :=
  seq [optionalKeyword "unsafe",
    choose (.keyword "extern") TypeRule.convention (keyword "extern"),
    contents (.members .foreign)]

/-- What ends the traits that a trait builds on. -/
def superTraitsEnd : Lookahead := .either (.keyword "where") (.group .brace)

/-- The traits that a trait builds on. -/
def superTraits : Rule :=
  TypeRule.boundsUpTo superTraitsEnd (phrase (.bound false true)) .superTraits

/-- The bounds that another name is given to. -/
def aliasedBounds : Rule :=
  TypeRule.boundsUpTo (.either (.keyword "where") (.symbol ";")) (phrase (.bound false false))
    .aliasedBounds

/-- A trait behind its parameters. -/
def traitRest : Rule :=
  seq [SignatureRule.bounded superTraitsEnd .superTraits, SignatureRule.conditions,
    contents (.members .trait)]

def trait : Rule :=
  seq [optionalKeyword "unsafe", optionalKeyword "auto", keyword "trait", read .ident,
    SignatureRule.generics, traitRest]

/-- A trait, or another name for bounds. -/
def traitOrAlias : Rule :=
  seq [keyword "trait", read .ident, SignatureRule.generics,
    choose (.symbol "=")
      (seq [symbol "=", phrase .aliasedBounds, SignatureRule.conditions, symbol ";"]) traitRest]

/-- Generic parameters follow, and not a type in angle brackets. -/
def genericsFollow : Lookahead :=
  let name : Lookahead := .either .lifetime .ident
  .both (.symbol "<")
    (.anyOf
      [.behind (.symbols [">", "#"]), .behind (.keyword "const"),
        .both (.behind name)
          (.behindTwo (.either (.symbols [">", ",", "="]) (.symbolOnly ":" ["::"])))])

/-- Whether a type can name the trait of an implementation. -/
def namesTrait : Shape → Bool
  | .path _ => true
  | _ => false

/-- What an implementation is for: a type, or a trait and a type. -/
def implementationHead (negative : Bool) : Rule :=
  andThen (phrase (.type true)) fun shape =>
    choose (.keyword "for")
      (shaped (seq [keyword "for", phrase (.type true)]) (verbatimIf (!namesTrait shape)))
      (if negative then refuse (.broken "inherent impls cannot be negative")
        else accept .plain)

/-- The mark of an implementation that is constant; answers whether there is one. -/
def constantMark : Rule :=
  present
    (.either (.keyword "const") (.both (.symbol "?") (.behind (.keyword "const"))))
    (seq [optionalSymbol "?", keyword "const"])

/-- An implementation; whether a visibility stands in front of it. -/
def implementation (visible : Bool) : Rule :=
  seq [optionalKeyword "default", optionalKeyword "unsafe", keyword "impl",
    choose genericsFollow SignatureRule.generics (accept .plain),
    andThen constantMark fun constant =>
      andThen
        (choose (.both (.symbol "!") (.no (.behind (.group .brace))))
          (seq [symbol "!", implementationHead true]) (implementationHead false))
        fun head =>
          seq [SignatureRule.conditions,
            shaped (contents (.members .implementation))
              (verbatimIf (visible || constant.isYes || head.isVerbatim))]]

end Containers

section Calls

/-- The arguments of a code generator in the place of an item; a semicolon follows them unless
they stand in braces. -/
def callArguments : Rule :=
  choose (.group .brace) (read .delimited) (seq [read .delimited, symbol ";"])

/-- The call of a code generator in the place of an item, perhaps with a name. -/
def namedCall : Rule :=
  seq [phrase .plainPath, symbol "!",
    optional (.either .ident (.keyword "try")) (read .word), callArguments]

/-- The call of a code generator in the place of a member. -/
def call : Rule := seq [phrase .plainPath, symbol "!", callArguments]

/-- The path of a code generator may follow. -/
def callFollows : Lookahead :=
  .anyOf [.ident, .keywords ["self", "super", "crate"], .symbol "::"]

/-- A code generator. -/
def generator : Rule :=
  shaped
    (seq [keyword "macro", read .ident, optional (.group .parenthesis) (read .delimited),
      choose (.group .brace) (read .delimited) (refuse (.wanted "curly braces"))])
    .verbatim

end Calls

section Items

/-- A block of declarations of things that are defined elsewhere, which has no visibility. -/
def hiddenForeign (visible : Bool) : Rule :=
  if visible then refuse (.keyword "extern") else foreign

/-- An item that is marked as unsafe. -/
def marked (visible : Bool) : Rule :=
  firstOf
    [(.behind (.either (.keyword "trait") (.both (.keyword "auto") (.behind (.keyword "trait")))),
        trait),
      (.behind (.keyword "impl"), implementation visible),
      (.behind (.keyword "extern"), hiddenForeign visible),
      (.behind (.keyword "mod"), moduleItem)]
    (refuse (.oneOf []))

/-- An item behind its visibility. -/
def itemBehind (visible : Bool) : Rule :=
  firstOf
    [(SignatureRule.signatureFollows false, SignatureRule.function),
      (.both (.keyword "extern") (.behind (.keyword "crate")), package),
      (.keyword "extern", hiddenForeign visible),
      (.keyword "use", importItem),
      (.keyword "static", static),
      (.keyword "const", constant),
      (.keyword "unsafe", marked visible),
      (.keyword "mod", moduleItem),
      (.keyword "type", typeName),
      (.keyword "struct", struct),
      (.keyword "enum", enum),
      (.both (.keyword "union") (.behind .ident), union),
      (.keyword "trait", traitOrAlias),
      (.both (.keyword "auto") (.behind (.keyword "trait")), trait),
      (.either (.keyword "impl")
          (.both (.keyword "default") (.no (.behind (.symbol "!")))),
        implementation visible),
      (.keyword "macro", generator)]
    (if visible then refuse (.oneOf [])
      else choose callFollows namedCall (refuse (.oneOf [])))

/-- An item, with its attributes already read. -/
def item : Rule := andThen (phrase .visibility) fun visible => itemBehind visible.isYes

/-- Items, up to the end. -/
def items : Rule :=
  choose .finished (accept .plain)
    (seq [asWritten Shape.isVerbatim (seq [phrase (.attributes false), phrase .item]),
      phrase .items])

/-- An item follows at the beginning of a statement. -/
def itemFollows : Lookahead :=
  let function : Lookahead := .keywords ["unsafe", "extern", "fn"]
  .anyOf
    [.keywords ["pub", "extern", "use", "fn", "mod", "type", "struct", "enum", "trait", "impl",
        "macro"],
      .both (.keyword "crate") (.no (.behind (.symbol "::"))),
      .both (.keyword "static")
        (.either (.behind (.keyword "mut"))
          (.behind .ident)),
      .both (.keyword "const")
        (.no
          (.behind
            (.anyOf
              [.group .brace, .keywords ["static", "move"], .symbol "|",
                .both (.keyword "async") (.no (.behind function))]))),
      .both (.keyword "unsafe") (.no (.behind (.group .brace))),
      .both (.keyword "async") (.behind function),
      .both (.keyword "union") (.behind .ident),
      .both (.keyword "auto") (.behind (.keyword "trait")),
      .both (.keyword "default") (.behind (.keywords ["unsafe", "impl"])),
      .behindPath (.both (.symbol "!") (.behind (.either .ident (.keyword "try"))))]

end Items

end ItemRule
end Caseless
