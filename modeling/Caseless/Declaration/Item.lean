import Caseless.Declaration.Attribute
import Caseless.Declaration.Generics

/-!
# Declared items

An item declares a struct, an enum or a union.  Of an enum the cases are kept one by one, of a
struct or a union only the tokens of the fields.
-/

namespace Caseless

/-- What an item declares. -/
inductive ItemKind where
  | enum
  | struct
  | union
  deriving DecidableEq

namespace ItemKind

/-- The word for a kind of item. -/
def describe : ItemKind → String
  | enum => "enum"
  | struct => "struct"
  | union => "union"

end ItemKind

/-- An identifier and its place. -/
structure Name where
  ident : Ident
  span : Span

/-- A case of an enum. -/
structure Variant where
  attributes : List Attribute
  name : Name
  /-- The fields with their delimiters, or nothing. -/
  fields : List Token
  /-- The equals sign in front of the discriminant, or nothing. -/
  equals : List Token
  /-- The discriminant, or nothing. -/
  discriminant : List Token

/-- What belongs to the kind of an item. -/
inductive Body where
  | enum (variants : List Variant)
  /-- The fields with their delimiters, or nothing. -/
  | struct (fields : List Token)
  /-- The fields with their delimiters. -/
  | union (fields : List Token)

/-- A declared item. -/
structure Item where
  attributes : List Attribute
  visibility : List Token
  name : Name
  generics : Generics
  body : Body

namespace Name

/-- The token of a name. -/
def token (name : Name) : Token := .ident name.ident name.span

/-- Reads a name, which is no keyword. -/
def parse : Parser Name :=
  fun cursor =>
    Parser.takeOr
      (fun
        | .ident i span :: rest => if i.isReserved then none else some (⟨i, span⟩, rest)
        | _ => none)
      (Terminal.ident.complaint cursor.tokens) cursor

end Name

namespace Variant

/-- The tokens of a case. -/
def tokens (variant : Variant) : List Token :=
  variant.attributes.flatMap Attribute.tokens ++
    variant.name.token :: variant.fields ++ variant.equals ++ variant.discriminant

/-- The stretch of text that a case covers, from its first attribute or else its name. -/
def span (variant : Variant) : Span := Token.spanAll variant.tokens

/-- Whether the case has fields, be it none between the delimiters. -/
def hasFields (variant : Variant) : Bool := !variant.fields.isEmpty

/-- Whether the case declares a discriminant. -/
def hasDiscriminant (variant : Variant) : Bool := !variant.discriminant.isEmpty

/-- Reads a case.  A visibility in front of the name belongs to nothing. -/
def parse : Parser Variant := do
  let attributes ← Attribute.parseAll
  let _ ← Phrase.visibility.parse
  let name ← Name.parse
  let fields ← ItemRule.variantFields.parse
  if ← Parser.test (Lookahead.symbol "=").holds then
    let equals ← (Terminal.symbol "=").read
    let discriminant ← (Phrase.expression true).parse
    return ⟨attributes, name, fields, equals, discriminant⟩
  else return ⟨attributes, name, fields, [], []⟩

/-- Reads a case with the comma behind it, up to the end. -/
def parseStep : Parser (Parser.Step Variant) := do
  if ← Parser.test Lookahead.finished.holds then return .done
  let variant ← parse
  if ← Parser.test Lookahead.finished.holds then return .last variant
  let _ ← (Terminal.symbol ",").read
  return .again variant

end Variant

namespace Item

def kind (item : Item) : ItemKind :=
  match item.body with
  | .enum _ => .enum
  | .struct _ => .struct
  | .union _ => .union

section Reading

/-- Reads fields in braces. -/
def bracedFields : Parser (List Token) :=
  (Rule.inside .brace (.phrase .namedFields)).parse

/-- Reads an item whose attributes, visibility and kind are known, with `read` for what follows
the parameters. -/
def parseWith (attributes : List Attribute) (visibility : List Token) (word : String)
    (read : Parser (List (Separated (List Token)) × Body)) : Parser Item := do
  let _ ← (Terminal.keyword word).read
  let name ← Name.parse
  let parameters ← Parameter.parseAll
  let (conditions, body) ← read
  return ⟨attributes, visibility, name, ⟨parameters, conditions⟩, body⟩

/-- Reads what follows the parameters of an enum. -/
def parseEnum : Parser (List (Separated (List Token)) × Body) := do
  let conditions ← Generics.parseConditions
  let (variants, _) ←
    Parser.within .brace (.wanted Delimiter.brace.name) (Parser.repeatSteps Variant.parseStep)
  return (conditions, .enum variants)

/-- Reads what follows the parameters of a union. -/
def parseUnion : Parser (List (Separated (List Token)) × Body) := do
  let conditions ← Generics.parseConditions
  return (conditions, .union (← bracedFields))

/-- Reads the end of a struct whose fields have no names: conditions may follow the fields. -/
def parseTuple : Parser (List (Separated (List Token)) × Body) := do
  let fields ← (Rule.inside .parenthesis (.phrase .tupleFields)).parse
  let conditions ← Generics.parseConditions
  let _ ← (Terminal.symbol ";").read
  return (conditions, .struct fields)

/-- Reads what follows the parameters of a struct. -/
def parseStruct : Parser (List (Separated (List Token)) × Body) := do
  if ← Parser.test (Lookahead.group .parenthesis).holds then parseTuple
  else
    let conditions ← Generics.parseConditions
    if ← Parser.test (Lookahead.group .brace).holds then
      return (conditions, .struct (← bracedFields))
    else
      let _ ← (Terminal.symbol ";").read
      return (conditions, .struct [])

/-- Reads an item. -/
def parse : Parser Item := do
  let attributes ← Attribute.parseAll
  let visibility ← Phrase.visibility.parse
  if ← Parser.test (Lookahead.keyword "struct").holds then
    parseWith attributes visibility "struct" parseStruct
  else if ← Parser.test (Lookahead.keyword "enum").holds then
    parseWith attributes visibility "enum" parseEnum
  else if ← Parser.test (Lookahead.keyword "union").holds then
    parseWith attributes visibility "union" parseUnion
  else Parser.fail (.oneOf ["`struct`", "`enum`", "`union`"])

/-- The item that some tokens declare. -/
def ofTokens (tokens : List Token) : Except SyntaxError Item :=
  Parser.parseAll parse tokens Span.unplaced

end Reading

end Item

end Caseless
