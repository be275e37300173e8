import Caseless.Grammar.Type

/-!
# Rules for attributes, visibility and fields
-/

namespace Caseless
namespace AttributeRule

open Rule

/-- An equals sign follows that belongs to no longer symbol. -/
def equalsFollows : Lookahead := .symbolOnly "=" ["==", "=>"]

def path : Rule := choose (.keyword "unsafe") (keyword "unsafe") (phrase .plainPath)

/-- The value of an attribute behind its equals sign. -/
def value : Rule :=
  choose (.both (.symbol "#") (.behind (.group .bracket)))
    (refuse (.broken "unexpected attribute inside of attribute"))
    (phrase (.expression true))

def content : Rule :=
  seq [path,
    firstOf [(.anyGroup, read .delimited), (equalsFollows, seq [symbol "=", value])]
      (accept .plain)]

def single : Rule := seq [symbol "#", inside .bracket content]

/-- Attributes; answers whether there are any. -/
def attributes (seen : Bool) : Rule :=
  choose (.symbol "#") (seq [phrase .oneAttribute, phrase (.attributes true)])
    (accept (.answer seen))

/-- Attributes of the construct around them. -/
def innerAttributes : Rule :=
  optional (.both (.symbol "#") (.behind (.symbol "!")))
    (seq [symbol "#", symbol "!", inside .bracket content, phrase .innerAttributes])

end AttributeRule

namespace FieldRule

open Rule

/-- Visibility that is restricted to a place follows. -/
def restriction : Lookahead :=
  .content .parenthesis
    (.either (.both (.keywords ["crate", "self", "super"]) (.behind .finished)) (.keyword "in"))

/-- The visibility of an item; answers whether there is one. -/
def visibility : Rule :=
  present (.keyword "pub")
    (seq [keyword "pub",
      optional restriction
        (inside .parenthesis
          (choose (.keyword "in") (seq [keyword "in", phrase .plainPath]) (read .word)))])

/-- The fields of a type without a name, kept as they are written. -/
def anonymous : Rule :=
  asWritten (fun _ => true) (seq [read .word, inside .brace (phrase .namedFields)])

/-- A named field. -/
def named : Rule :=
  seq [phrase (.attributes false), phrase .visibility,
    choose (.keyword "_")
      (seq [read .word, symbol ":",
        choose (.either (.keyword "struct") (.both (.keyword "union") (.behind (.group .brace))))
          anonymous (phrase (.type true))])
      (seq [read .ident, symbol ":", phrase (.type true)])]

/-- Named fields, up to the end. -/
def namedFields : Rule := commaList named .namedFields

/-- Fields without names, up to the end. -/
def tupleFields : Rule :=
  commaList
    (seq [phrase (.attributes false), phrase .visibility, phrase (.type true)]) .tupleFields

end FieldRule
end Caseless
