import Caseless.Grammar.Item

/-!
# Rules for members

Implementations, traits and blocks of foreign declarations have members.  They are functions,
constants, types and calls of code generators, and which forms are complete depends on the owner.
-/

namespace Caseless
namespace MemberRule

open Rule

/-- A call of a code generator, if nothing stands in front of it. -/
def callUnless (preceded : Bool) : Rule :=
  if preceded then refuse (.oneOf [])
  else choose ItemRule.callFollows ItemRule.call (refuse (.oneOf []))

section Implementations

/-- A member of an implementation behind its visibility and mark. -/
def implemented (preceded : Bool) : Rule :=
  firstOf
    [(SignatureRule.signatureFollows false, SignatureRule.function),
      (.keyword "const", ItemRule.constant),
      (.keyword "type",
        ItemRule.typeNameWith false true fun restricted given =>
          ItemRule.verbatimIf (restricted || !given))]
    (callUnless preceded)

def implementation : Rule :=
  andThen (phrase .visibility) fun visible =>
    andThen
      (present (.both (.keyword "default") (.no (.behind (.symbol "!")))) (keyword "default"))
      fun default => implemented (visible.isYes || default.isYes)

end Implementations

section Traits

/-- A function of a trait, which may have a body. -/
def traitFunction : Rule :=
  seq [SignatureRule.signature,
    choose (.group .brace) SignatureRule.body (symbol ";")]

/-- A member of a trait behind its visibility and mark, which it should not have. -/
def declared (preceded : Bool) : Rule :=
  firstOf
    [(SignatureRule.signatureFollows false,
        shaped traitFunction (ItemRule.verbatimIf preceded)),
      (.keyword "const",
        ItemRule.constantWith fun general _ => ItemRule.verbatimIf (preceded || general)),
      (.keyword "type",
        ItemRule.typeNameWith false true fun _ _ => ItemRule.verbatimIf preceded)]
    (callUnless preceded)

def trait : Rule :=
  andThen (phrase .visibility) fun visible =>
    andThen (present (.keyword "default") (keyword "default")) fun default =>
      declared (visible.isYes || default.isYes)

end Traits

section Foreign

/-- A word that says whether something foreign is safe; answers whether it says so. -/
def safety : Rule :=
  choose (.keyword "safe") (shaped (keyword "safe") (.answer true))
    (shaped (optionalKeyword "unsafe") (.answer false))

/-- A foreign function, which should have no body. -/
def foreignFunction : Rule :=
  seq [optionalKeyword "const", optionalKeyword "async",
    andThen safety fun safe =>
      seq [SignatureRule.signatureRest,
        choose (.group .brace) (shaped SignatureRule.body .verbatim)
          (shaped (symbol ";") (ItemRule.verbatimIf safe.isYes))]]

/-- A foreign variable, which should have no value and no word for its safety. -/
def foreignStatic : Rule :=
  andThen
    (present (.keywords ["unsafe", "safe"]) (read .word))
    fun marked =>
      seq [keyword "static", optionalKeyword "mut", read .ident, symbol ":", phrase (.type true),
        andThen (SignatureRule.defined (.expression true)) fun valued =>
          shaped (symbol ";") (ItemRule.verbatimIf (marked.isYes || valued.isYes))]

def foreign : Rule :=
  andThen (phrase .visibility) fun visible =>
    firstOf
      [(SignatureRule.signatureFollows true, foreignFunction),
        (.either (.keyword "static")
            (.both (.keywords ["unsafe", "safe"]) (.behind (.keyword "static"))),
          foreignStatic),
        (.keyword "type",
          ItemRule.typeNameWith true true fun restricted given =>
            ItemRule.verbatimIf (restricted || given))]
      (callUnless visible.isYes)

end Foreign

/-- A member behind its attributes. -/
def member : Owner → Rule
  | .implementation => implementation
  | .trait => trait
  | .foreign => foreign

/-- Members, up to the end. -/
def members (owner : Owner) : Rule :=
  choose .finished (accept .plain)
    (seq [asWritten Shape.isVerbatim (seq [phrase (.attributes false), member owner]),
      phrase (.members owner)])

end MemberRule
end Caseless
