import Caseless.Registry
import Mathlib.Data.List.Forall2

/-!
# Checks that stop at the first failure

The options of a declaration and the cases of an enum are both checked one after the other, and
the first one that fails decides the answer.  This module says once what such a run of checks
gives, and from it what the checks of an expansion accept.
-/

namespace Caseless

section FirstFailure

variable {ε α β γ : Type}

theorem exceptBind_eq_ok_iff
    {x : Except ε α}
    {f : α → Except ε β}
    {b : β} :
    x >>= f = .ok b ↔ ∃ a, x = .ok a ∧ f a = .ok b := by
  cases x with
  | error e =>
      simp [bind, Except.bind]
  | ok a =>
      simp [bind, Except.bind]

theorem exceptBind_eq_error_iff
    {x : Except ε α}
    {f : α → Except ε β}
    {e : ε} :
    x >>= f = .error e ↔ x = .error e ∨ ∃ a, x = .ok a ∧ f a = .error e := by
  cases x with
  | error e' =>
      simp [bind, Except.bind]
  | ok a =>
      simp [bind, Except.bind]

/-- `e` is the failure of the first element of a list that a check refuses. -/
def FirstFailure (check : α → Except ε β) (l : List α) (e : ε) : Prop :=
  ∃ (before : List α) (a : α) (after : List α),
    l = before ++ a :: after ∧ (∀ b ∈ before, ∃ v, check b = .ok v) ∧ check a = .error e

theorem not_firstFailure_nil
    (check : α → Except ε β)
    (e : ε) :
    ¬ FirstFailure check [] e := by
  rintro ⟨before, a, after, hl, -, -⟩
  simp at hl

/-- Either the first element fails, or it passes and the failure comes later. -/
theorem firstFailure_cons_iff
    (check : α → Except ε β)
    (a : α)
    (l : List α)
    (e : ε) :
    FirstFailure check (a :: l) e
      ↔
    check a = .error e ∨ (∃ v, check a = .ok v) ∧ FirstFailure check l e := by
  constructor
  · rintro ⟨before, b, after, hl, hbefore, hb⟩
    cases before with
    | nil =>
        obtain ⟨rfl, -⟩ : a = b ∧ l = after := by simpa using hl
        exact Or.inl hb
    | cons c before =>
        obtain ⟨rfl, hrest⟩ : a = c ∧ l = before ++ b :: after := by simpa using hl
        refine Or.inr ⟨hbefore a (by simp), before, b, after, hrest, ?_, hb⟩
        intro d hd
        exact hbefore d (List.mem_cons_of_mem _ hd)
  · rintro (ha | ⟨ha, before, b, after, rfl, hbefore, hb⟩)
    · exact ⟨[], a, l, rfl, by simp, ha⟩
    · refine ⟨a :: before, b, after, rfl, ?_, hb⟩
      intro d hd
      rcases List.mem_cons.mp hd with rfl | hd
      · exact ha
      · exact hbefore d hd

/-- A run of checks fails with the first failure. -/
theorem mapM_eq_error_iff
    (check : α → Except ε β)
    (l : List α)
    (e : ε) :
    l.mapM check = .error e ↔ FirstFailure check l e := by
  induction l with
  | nil =>
      simp [not_firstFailure_nil, pure, Except.pure]
  | cons a l ih =>
      rw [List.mapM_cons, exceptBind_eq_error_iff, firstFailure_cons_iff]
      simp only [exceptBind_eq_error_iff, ih, pure, Except.pure]
      constructor
      · rintro (ha | ⟨v, ha, hl | ⟨vs, -, hnone⟩⟩)
        · exact Or.inl ha
        · exact Or.inr ⟨⟨v, ha⟩, hl⟩
        · cases hnone
      · rintro (ha | ⟨⟨v, ha⟩, hl⟩)
        · exact Or.inl ha
        · exact Or.inr ⟨v, ha, Or.inl hl⟩

/-- A run of checks gives what each of them gives. -/
theorem mapM_eq_ok_iff
    (check : α → Except ε β)
    (l : List α)
    (vs : List β) :
    l.mapM check = .ok vs ↔ List.Forall₂ (fun a v => check a = .ok v) l vs := by
  induction l generalizing vs with
  | nil =>
      simp [pure, Except.pure, eq_comm]
  | cons a l ih =>
      rw [List.mapM_cons, exceptBind_eq_ok_iff]
      simp only [exceptBind_eq_ok_iff, ih, pure, Except.pure, Except.ok.injEq]
      constructor
      · rintro ⟨v, ha, ws, hl, rfl⟩
        exact List.Forall₂.cons ha hl
      · intro h
        cases h with
        | cons ha hl =>
            exact ⟨_, ha, _, hl, rfl⟩

/-- A run of checks passes exactly when every check passes. -/
theorem exists_mapM_eq_ok_iff
    (check : α → Except ε β)
    (l : List α) :
    (∃ vs, l.mapM check = .ok vs) ↔ ∀ a ∈ l, ∃ v, check a = .ok v := by
  induction l with
  | nil =>
      simp [pure, Except.pure]
  | cons a l ih =>
      rw [List.forall_mem_cons, ← ih]
      simp only [mapM_eq_ok_iff]
      constructor
      · rintro ⟨vs, h⟩
        cases h with
        | cons ha hl =>
            exact ⟨⟨_, ha⟩, _, hl⟩
      · rintro ⟨⟨v, ha⟩, vs, hl⟩
        exact ⟨v :: vs, List.Forall₂.cons ha hl⟩

end FirstFailure

section Cases

namespace Variant

/-- The case of a variant that is a plain name. -/
def asCase (variant : Variant) : Case := ⟨variant.name.ident, variant.name.ident.name⟩

/-- A variant is a plain name if it has neither fields nor a discriminant. -/
def IsPlain (variant : Variant) : Prop :=
  variant.hasFields = false ∧ variant.hasDiscriminant = false

theorem toCase_eq_ok_iff
    (variant : Variant)
    (case : Case) :
    variant.toCase = .ok case ↔ variant.IsPlain ∧ case = variant.asCase := by
  unfold toCase IsPlain asCase
  cases hfields : variant.hasFields with
  | true =>
      simp
  | false =>
      cases hdiscriminant : variant.hasDiscriminant with
      | true =>
          simp
      | false =>
          simp [eq_comm]

theorem exists_toCase_eq_ok_iff
    (variant : Variant) :
    (∃ case, variant.toCase = .ok case) ↔ variant.IsPlain := by
  simp [toCase_eq_ok_iff]

theorem toCases_eq_mapM
    (variants : List Variant) :
    toCases variants = variants.mapM toCase := by
  induction variants with
  | nil =>
      rfl
  | cons variant rest ih =>
      rw [List.mapM_cons, ← ih]
      rfl

/-- The cases of an enum are its variants, provided that all of them are plain names. -/
theorem toCases_eq_ok_iff
    (variants : List Variant)
    (cases : List Case) :
    toCases variants = .ok cases
      ↔
    (∀ v ∈ variants, v.IsPlain) ∧ cases = variants.map asCase := by
  rw [toCases_eq_mapM, mapM_eq_ok_iff]
  induction variants generalizing cases with
  | nil =>
      simp
  | cons variant rest ih =>
      rw [List.forall₂_cons_left_iff, List.forall_mem_cons]
      simp only [ih]
      simp only [toCase_eq_ok_iff]
      constructor
      · rintro ⟨case, others, ⟨hplain, rfl⟩, ⟨hrest, rfl⟩, rfl⟩
        exact ⟨⟨hplain, hrest⟩, rfl⟩
      · rintro ⟨⟨hplain, hrest⟩, rfl⟩
        exact ⟨_, _, ⟨hplain, rfl⟩, ⟨hrest, rfl⟩, rfl⟩

theorem toCases_eq_error_iff
    (variants : List Variant)
    (d : Diagnostic) :
    toCases variants = .error d ↔ FirstFailure toCase variants d := by
  rw [toCases_eq_mapM, mapM_eq_error_iff]

end Variant

end Cases

section Options

namespace Context

theorem settingsOfAll_eq_mapM
    (attributes : List Attribute) :
    settingsOfAll attributes = (attributes.mapM settingsOf).map List.flatten := by
  induction attributes with
  | nil =>
      rfl
  | cons a rest ih =>
      rw [List.mapM_cons, settingsOfAll, ih]
      cases settingsOf a with
      | error e =>
          rfl
      | ok settings =>
          cases rest.mapM settingsOf with
          | error e =>
              rfl
          | ok others =>
              rfl

theorem settingsOfAll_eq_error_iff
    (attributes : List Attribute)
    (e : SyntaxError) :
    settingsOfAll attributes = .error e ↔ FirstFailure settingsOf attributes e := by
  rw [settingsOfAll_eq_mapM, ← mapM_eq_error_iff]
  cases attributes.mapM settingsOf with
  | error e' =>
      simp [Except.map]
  | ok settings =>
      simp [Except.map]

theorem settingsOfAll_eq_ok_iff
    (attributes : List Attribute)
    (settings : List Setting) :
    settingsOfAll attributes = .ok settings
      ↔
    ∃ lists,
      List.Forall₂ (fun a l => settingsOf a = .ok l) attributes lists ∧
        lists.flatten = settings := by
  simp only [settingsOfAll_eq_mapM, ← mapM_eq_ok_iff]
  cases attributes.mapM settingsOf with
  | error e =>
      simp [Except.map]
  | ok lists =>
      simp [Except.map]

theorem ofAttributes_eq_error_iff
    (attributes : List Attribute)
    (e : SyntaxError) :
    ofAttributes attributes = .error e
      ↔
    FirstFailure settingsOf (attributes.filter (·.isNamed attributeName)) e := by
  rw [← settingsOfAll_eq_error_iff]
  unfold ofAttributes
  cases settingsOfAll (attributes.filter (·.isNamed attributeName)) with
  | error e' =>
      simp [bind, Except.bind]
  | ok settings =>
      simp [bind, Except.bind, pure, Except.pure]

theorem ofAttributes_eq_ok_iff
    (attributes : List Attribute)
    (context : Context) :
    ofAttributes attributes = .ok context
      ↔
    ∃ settings,
      settingsOfAll (attributes.filter (·.isNamed attributeName)) = .ok settings ∧
        settings.foldl set default = context := by
  unfold ofAttributes
  rw [exceptBind_eq_ok_iff]
  simp [pure, Except.pure]

/-- The options of a declaration can be read if those of every attribute can be read. -/
theorem exists_ofAttributes_eq_ok_iff
    (attributes : List Attribute) :
    (∃ context, ofAttributes attributes = .ok context)
      ↔
    ∀ a ∈ attributes, a.isNamed attributeName = true → ∃ settings, settingsOf a = .ok settings := by
  have hall :=
    exists_mapM_eq_ok_iff settingsOf (attributes.filter (·.isNamed attributeName))
  simp only [List.mem_filter, and_imp] at hall
  rw [← hall]
  simp only [ofAttributes_eq_ok_iff, settingsOfAll_eq_mapM]
  cases (attributes.filter (·.isNamed attributeName)).mapM settingsOf with
  | error e =>
      simp [Except.map]
  | ok lists =>
      simp [Except.map]

end Context

end Options

section Expansion

namespace Item

/-- The variants of an item, which are none unless it is an enum. -/
def variants (item : Item) : List Variant :=
  match item.body with
  | .enum variants => variants
  | _ => []

theorem requireEnum_eq_ok_iff
    (item : Item)
    (variants : List Variant) :
    item.requireEnum = .ok variants ↔ item.body = .enum variants := by
  unfold requireEnum
  cases item.body with
  | enum others =>
      simp
  | struct =>
      simp
  | union =>
      simp

/-- The cases of an item are its variants, if it is an enum with strings as raw values and each of
its variants is a plain name. -/
theorem requireCases_eq_ok_iff
    (item : Item)
    (cases : List Case) :
    item.requireCases = .ok cases
      ↔
    ∃ variants,
      item.body = .enum variants ∧
      item.requireStringRawValue = .ok () ∧
      (∀ v ∈ variants, v.IsPlain) ∧
      cases = variants.map Variant.asCase := by
  unfold requireCases
  simp only [exceptBind_eq_ok_iff, requireEnum_eq_ok_iff, Variant.toCases_eq_ok_iff]
  constructor
  · rintro ⟨variants, hbody, ⟨⟩, hraw, hcases⟩
    exact ⟨variants, hbody, hraw, hcases⟩
  · rintro ⟨variants, hbody, hraw, hcases⟩
    exact ⟨variants, hbody, (), hraw, hcases⟩

end Item

theorem expandWith_of_requireCases_ok
    {item : Item}
    {cases : List Case}
    (hcases : item.requireCases = .ok cases)
    (context : Context) :
    expandWith item context = .ok (generate item.target cases context) := by
  unfold expandWith
  rw [hcases]
  rfl

theorem expandWith_of_requireCases_error
    {item : Item}
    {d : Diagnostic}
    (hcases : item.requireCases = .error d)
    (context : Context) :
    expandWith item context = .error d := by
  unfold expandWith
  rw [hcases]
  rfl

end Expansion

end Caseless
