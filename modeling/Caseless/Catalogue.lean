import Caseless.Enumeration

/-!
# A catalogue of enumerations

Well-known enumerations, each expanded from its list of cases: place names, keywords, collisions
after lowercasing, and names in many scripts.
-/

namespace Caseless
namespace Catalogue

/-- The case of a name, which is raw if it is written so. -/
def caseOf (name : String) : Case :=
  match name.toList with
  | 'r' :: '#' :: rest => ⟨⟨String.ofList rest, true⟩, String.ofList rest⟩
  | _ => ⟨.plain name, name⟩

/-- An enumeration with the given cases. -/
def enumeration? (strategy : Strategy) (name : String) (cases : List String) :
    Option Enumeration :=
  Enumeration.ofGenerated? name
    (generate ⟨.plain name, ⟨[], []⟩⟩ (cases.map caseOf) { Context.default with strategy })

/-- The enumerations whose cases are found by a branch table. -/
def tables : List (String × List String) :=
  [("Area", ["tokyo", "nagoya"]),
    ("MixedArea", ["Tokyo", "nagoya"]),
    ("Station", ["Shinjuku", "Shibuya", "Ikebukuro", "Ueno"]),
    ("ReversedStation", ["Ueno", "Ikebukuro", "Shibuya", "Shinjuku"]),
    ("Never", []),
    ("Single", ["Only"]),
    ("Keyword", ["r#type", "r#match", "r#Fn", "plain"]),
    ("Colliding", ["Tokyo", "tokyo", "TOKYO", "Osaka", "oSAKA"]),
    ("Capacity", ["Small", "Large"]),
    ("Snake",
      ["snake_case", "SCREAMING_SNAKE", "_leading", "trailing_", "__", "A1", "a_1", "B2B"]),
    ("Greek", ["ΟΔΟΣ", "Σ", "ΣΑΣ", "Α_Σ", "ΑΣ_Β", "όχι", "Ώμεγα", "ς"]),
    ("GreekCollide", ["οδοσ", "ΟΔΟΣ", "οδος"]),
    ("Latin",
      ["Straße", "STRASSE", "ẞ", "ß", "İstanbul", "Istanbul", "ısı", "Ǆ", "ǅungla", "Œuvre",
        "ﬁn", "Łódź", "ÿ"]),
    ("Scripts",
      ["Москва", "ԵՐԵՎԱՆ", "ᲗᲑᲘᲚᲘᲡᲘ", "ᏣᎳᎩ", "Ⅷ", "𐐔𐐯𐑅", "東京", "ไทย", "हिन्दी", "ＦＵＬＬ", "Ⱥ", "Ω"]),
    ("Line", ["Yamanote", "Chuo"])]

/-- The names of the enumerations that can also list their cases, under a longer name. -/
def iterableTables : List String :=
  ["Station", "Never", "Single", "Keyword", "Colliding", "Capacity", "Greek", "GreekCollide",
    "Latin", "Line"]

/-- The enumerations whose cases are found by searching through all of them. -/
def searches : List (String × List String) :=
  ("City", ["Tokyo", "Nagoya", "Osaka"]) ::
    iterableTables.filterMap fun name =>
      (tables.lookup name).map fun cases => ("Iterable" ++ name, cases)

/-- The enumeration of the given name. -/
def find? (name : String) : Option Enumeration :=
  match tables.lookup name, searches.lookup name with
  | some cases, _ => enumeration? .branchTable name cases
  | none, some cases => enumeration? .allCases name cases
  | none, none => none

end Catalogue
end Caseless
