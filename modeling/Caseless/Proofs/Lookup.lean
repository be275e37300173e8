import Caseless.Enumeration
import Caseless.Proofs.Checking
import Mathlib.Data.List.Find

/-!
# What a look-up finds

A text means the first case whose raw value equals it after both are lowercased.  A branch table
finds this case although it drops the cases that collide with an earlier one, and so does the
search through all cases, which asks for the raw value of each.

The invariant of the table is about the patterns that are already taken: as long as the text is
none of them, dropping a case that has one of them changes nothing.
-/

namespace Caseless

section Meaning

namespace Case

/-- Whether the raw value of a case is the given text after both are lowercased. -/
def isMeantBy (text : String) (case : Case) : Bool :=
  Text.lower case.rawValue == Text.lower text

/-- The case that a text means: the first one that it can mean. -/
def firstMeant (cases : List Case) (text : String) : Option Ident :=
  (cases.find? (isMeantBy text)).map (·.ident)

/-- Cases with the same identifier have the same raw value. -/
def Consistent (cases : List Case) : Prop :=
  ∀ c ∈ cases, ∀ d ∈ cases, c.ident = d.ident → c.rawValue = d.rawValue

end Case

namespace Variant

/-- The case that a text means in an enum with the given variants: the first one whose name, without
the raw mark, equals the text after both are lowercased. -/
def firstMeant (variants : List Variant) (text : String) : Option Ident :=
  (variants.find? fun v => Text.lower v.name.ident.name == Text.lower text).map (·.name.ident)

theorem firstMeant_map_asCase
    (variants : List Variant)
    (text : String) :
    Case.firstMeant (variants.map asCase) text = firstMeant variants text := by
  unfold Case.firstMeant firstMeant
  rw [List.find?_map, Option.map_map]
  rfl

theorem firstMeant_eq_none_iff
    (variants : List Variant)
    (text : String) :
    firstMeant variants text = none
      ↔
    ∀ v ∈ variants, Text.lower v.name.ident.name ≠ Text.lower text := by
  simp [firstMeant]

/-- The raw values of an enum's cases are their names, so one identifier has one raw value. -/
theorem consistent_map_asCase
    (variants : List Variant) :
    Case.Consistent (variants.map asCase) := by
  intro c hc d hd hident
  obtain ⟨v, -, rfl⟩ := List.mem_map.mp hc
  obtain ⟨w, -, rfl⟩ := List.mem_map.mp hd
  exact congrArg Ident.name hident

end Variant

end Meaning

section Table

namespace Branch

@[simp] theorem select_nil
    (text : String) :
    select [] text = none := by
  rfl

theorem select_cons
    (branch : Branch)
    (branches : List Branch)
    (text : String) :
    select (branch :: branches) text =
      if branch.pattern = text then some branch.case else select branches text := by
  unfold select
  by_cases h : branch.pattern = text
  · simp [h]
  · simp [h]

/-- A table finds the first case with a pattern that is not taken already. -/
theorem select_tableFrom
    (seen : List String)
    (cases : List Case)
    (text : String)
    (hseen : text ∉ seen) :
    select (tableFrom seen cases) text =
      (cases.find? fun c => Text.lower c.rawValue == text).map (·.ident) := by
  induction cases generalizing seen with
  | nil =>
      rfl
  | cons case cases ih =>
      rw [tableFrom]
      by_cases hmatch : Text.lower case.rawValue = text
      · simp [hseen, hmatch, select_cons]
      · by_cases htaken : Text.lower case.rawValue ∈ seen
        · simp [htaken, hmatch, ih seen hseen]
        · have hseen' : text ∉ Text.lower case.rawValue :: seen := by
            simp [hseen, Ne.symm hmatch]
          simp [htaken, hmatch, select_cons, ih _ hseen']

theorem select_table
    (cases : List Case)
    (text : String) :
    select (table cases) (Text.lower text) = Case.firstMeant cases text :=
  select_tableFrom [] cases (Text.lower text) (by simp)

end Branch

end Table

section Search

namespace Initializer

/-- The accessor gives the raw value of every case. -/
theorem rawValue_ident
    (i : Initializer)
    (hcases : Case.Consistent i.cases)
    {case : Case}
    (hmem : case ∈ i.cases) :
    i.rawValue case.ident = some case.rawValue := by
  unfold rawValue
  cases hfind : i.cases.find? (·.ident == case.ident) with
  | none =>
      have hnone := List.find?_eq_none.mp hfind case hmem
      simp at hnone
  | some found =>
      have hfound : found ∈ i.cases := List.mem_of_find?_eq_some hfind
      have hident : found.ident = case.ident := by
        simpa using List.find?_some hfind
      simp [hcases found hfound case hmem hident]

theorem matchesRawValue_ident
    (i : Initializer)
    (hcases : Case.Consistent i.cases)
    {case : Case}
    (hmem : case ∈ i.cases)
    (text : String) :
    i.matchesRawValue text case.ident = case.isMeantBy text := by
  unfold matchesRawValue Case.isMeantBy
  rw [i.rawValue_ident hcases hmem]
  rfl

/-- The search through all cases finds the case that the text means. -/
theorem find?_matchesRawValue
    (i : Initializer)
    (hcases : Case.Consistent i.cases)
    (text : String) :
    (i.cases.map (·.ident)).find? (i.matchesRawValue text) =
      Case.firstMeant i.cases text := by
  unfold Case.firstMeant
  rw [List.find?_map]
  congr 1
  apply List.find?_congr
  intro case hmem
  exact i.matchesRawValue_ident hcases hmem text

end Initializer

end Search

section Strategies

namespace Enumeration

/-- An enumeration answers by the given meaning of texts: it gives the case that a text means, and
parsing gives the same case or, exactly when there is none, keeps the text in its error. -/
def AnswersBy (e : Enumeration) (meaning : String → Option Ident) : Prop :=
  ∀ text,
    e.fromRawValue text = meaning text ∧
    (∀ case, e.parse text = .ok case ↔ meaning text = some case) ∧
    (∀ error, e.parse text = .error error ↔ meaning text = none ∧ error = ⟨text⟩)

theorem answersBy_of_fromRawValue
    {e : Enumeration}
    {meaning : String → Option Ident}
    (h : ∀ text, e.fromRawValue text = meaning text) :
    e.AnswersBy meaning := by
  intro text
  refine ⟨h text, ?_, ?_⟩
  · intro case
    rw [← h text, parse]
    cases e.fromRawValue text with
    | none =>
        simp
    | some found =>
        simp
  · intro error
    rw [← h text, parse]
    cases e.fromRawValue text with
    | none =>
        simp [eq_comm]
    | some found =>
        simp

/-- The enumeration of a branch table answers by the first case that a text means. -/
theorem answersBy_branchTable
    (name : String)
    (target : Target)
    (root : List Lexeme)
    (cases : List Case) :
    AnswersBy ⟨name, ⟨target, root, cases, .branchTable (Branch.table cases)⟩, none⟩
      (Case.firstMeant cases) := by
  apply answersBy_of_fromRawValue
  intro text
  exact Branch.select_table cases text

/-- The enumeration of a search answers by the first case that a text means. -/
theorem answersBy_allCases
    (name : String)
    (target : Target)
    (root : List Lexeme)
    (cases : List Case)
    (hcases : Case.Consistent cases) :
    AnswersBy
      ⟨name, ⟨target, root, cases, .allCases⟩, some ⟨target, root, cases.map (·.ident)⟩⟩
      (Case.firstMeant cases) := by
  apply answersBy_of_fromRawValue
  intro text
  exact Initializer.find?_matchesRawValue ⟨target, root, cases, .allCases⟩ hcases text

end Enumeration

/-- Both strategies fail on a declaration with the same diagnostic, or both succeed on an enum, and
what they generate answers every text by the first variant that it means. -/
theorem strategies_answer_by_firstMeant
    (item : Item)
    (tableRoot searchRoot : List Lexeme)
    (name : String) :
    (∃ d : Diagnostic,
        expandWith item ⟨.branchTable, tableRoot⟩ = .error d ∧
        expandWith item ⟨.allCases, searchRoot⟩ = .error d)
      ∨
    (∃ (variants : List Variant)
        (table search : List Generated)
        (byTable bySearch : Enumeration),
        item.body = .enum variants ∧
        expandWith item ⟨.branchTable, tableRoot⟩ = .ok table ∧
        expandWith item ⟨.allCases, searchRoot⟩ = .ok search ∧
        Enumeration.ofGenerated? name table = some byTable ∧
        Enumeration.ofGenerated? name search = some bySearch ∧
        byTable.AnswersBy (Variant.firstMeant variants) ∧
        bySearch.AnswersBy (Variant.firstMeant variants) ∧
        ∀ text,
          Variant.firstMeant variants text = none ↔
            ∀ v ∈ variants, Text.lower v.name.ident.name ≠ Text.lower text) := by
  cases hcases : item.requireCases with
  | error d =>
      left
      exact ⟨d, expandWith_of_requireCases_error hcases _,
        expandWith_of_requireCases_error hcases _⟩
  | ok cases =>
      right
      obtain ⟨variants, hbody, -, -, rfl⟩ := (item.requireCases_eq_ok_iff cases).mp hcases
      have hmeaning :
          Case.firstMeant (variants.map Variant.asCase) = Variant.firstMeant variants :=
        funext (Variant.firstMeant_map_asCase variants)
      have htable :=
        Enumeration.answersBy_branchTable name item.target tableRoot
          (variants.map Variant.asCase)
      have hsearch :=
        Enumeration.answersBy_allCases name item.target searchRoot
          (variants.map Variant.asCase) (Variant.consistent_map_asCase variants)
      rw [hmeaning] at htable hsearch
      exact ⟨variants, _, _, _, _, hbody,
        expandWith_of_requireCases_ok hcases _,
        expandWith_of_requireCases_ok hcases _,
        rfl, rfl, htable, hsearch,
        Variant.firstMeant_eq_none_iff variants⟩

end Strategies

end Caseless
