import Caseless.Proofs.Lookup
import Mathlib.Data.List.Nodup
import Mathlib.Data.Set.Card
import Mathlib.Tactic.TFAE

/-!
# The cases that a branch table keeps

A branch table has a branch for a case exactly when the lowercase raw value of the case is new, that
is, when no case in front of it has the same one.  These are also the cases that a look-up can ever
give, by whichever strategy: what a table drops could not have been reached.

The invariant of building the table says which of the cases still to come get a branch when some
patterns are already taken (`mem_tableFrom_iff`).  The main result is
`table_keeps_reachable_cases`.
-/

namespace Caseless

section NewCases

/-- An element of a list is the first one, or it stands in what follows. -/
theorem exists_split_cons_iff
    {α : Type}
    {P : List α → α → Prop}
    {first : α}
    {l : List α} :
    (∃ before a after, first :: l = before ++ a :: after ∧ P before a)
      ↔
    P [] first ∨ ∃ before a after, l = before ++ a :: after ∧ P (first :: before) a := by
  constructor
  · rintro ⟨before, a, after, hsplit, h⟩
    cases before with
    | nil =>
        obtain ⟨rfl, -⟩ : first = a ∧ l = after := by simpa using hsplit
        exact Or.inl h
    | cons b before =>
        obtain ⟨rfl, hl⟩ : first = b ∧ l = before ++ a :: after := by simpa using hsplit
        exact Or.inr ⟨before, a, after, hl, h⟩
  · rintro (h | ⟨before, a, after, rfl, h⟩)
    · exact ⟨[], first, l, rfl, h⟩
    · exact ⟨first :: before, a, after, rfl, h⟩

namespace Case

/-- The lowercase raw value of a case is new behind the cases in front of it. -/
def NewBehind (before : List Case) (case : Case) : Prop :=
  ∀ d ∈ before, Text.lower d.rawValue ≠ Text.lower case.rawValue

theorem newBehind_nil
    (case : Case) :
    NewBehind [] case := by
  simp [NewBehind]

theorem newBehind_cons_iff
    {first case : Case}
    {before : List Case} :
    NewBehind (first :: before) case
      ↔
    Text.lower first.rawValue ≠ Text.lower case.rawValue ∧ NewBehind before case :=
  List.forall_mem_cons

/-- A text means the case that matches it and is new at its place. -/
theorem firstMeant_eq_some_iff
    {cases : List Case}
    {text : String}
    {ident : Ident} :
    firstMeant cases text = some ident
      ↔
    ∃ before case after,
      cases = before ++ case :: after ∧
      NewBehind before case ∧
      Text.lower case.rawValue = Text.lower text ∧
      case.ident = ident := by
  unfold firstMeant
  rw [Option.map_eq_some_iff]
  simp only [List.find?_eq_some_iff_append]
  constructor
  · rintro ⟨case, ⟨hmeant, before, after, hsplit, hbefore⟩, hident⟩
    have htext : Text.lower case.rawValue = Text.lower text := by simpa [isMeantBy] using hmeant
    refine ⟨before, case, after, hsplit, ?_, htext, hident⟩
    intro d hd
    rw [htext]
    simpa [isMeantBy] using hbefore d hd
  · rintro ⟨before, case, after, hsplit, hnew, htext, hident⟩
    refine ⟨case, ⟨by simp [isMeantBy, htext], before, after, hsplit, ?_⟩, hident⟩
    intro d hd
    simpa [isMeantBy, ← htext] using hnew d hd

/-- Every lowercase raw value is that of a case that is new at its place. -/
theorem exists_newBehind
    {cases : List Case}
    {case : Case}
    (hmem : case ∈ cases) :
    ∃ before leader after,
      cases = before ++ leader :: after ∧
      NewBehind before leader ∧
      Text.lower leader.rawValue = Text.lower case.rawValue := by
  cases hmeant : firstMeant cases case.rawValue with
  | none =>
      have hnone : ∀ d ∈ cases, Text.lower d.rawValue ≠ Text.lower case.rawValue := by
        simpa [firstMeant, isMeantBy] using hmeant
      exact absurd rfl (hnone case hmem)
  | some ident =>
      obtain ⟨before, leader, after, hsplit, hnew, hlower, -⟩ := firstMeant_eq_some_iff.mp hmeant
      exact ⟨before, leader, after, hsplit, hnew, hlower⟩

theorem consistent_of_nodup
    {cases : List Case}
    (hidents : (cases.map (·.ident)).Nodup) :
    Consistent cases := by
  intro c hc d hd hident
  rw [List.inj_on_of_nodup_map hidents hc hd hident]

/-- A case stands at one place only. -/
theorem before_eq_of_ident_eq
    {cases before before' after after' : List Case}
    {case case' : Case}
    (hidents : (cases.map (·.ident)).Nodup)
    (hsplit : cases = before ++ case :: after)
    (hsplit' : cases = before' ++ case' :: after')
    (hident : case'.ident = case.ident) :
    before' = before ∧ case' = case := by
  have hsame : case' = case :=
    List.inj_on_of_nodup_map hidents (by simp [hsplit']) (by simp [hsplit]) hident
  have hnodup : (before ++ case :: after).Nodup := hsplit ▸ List.Nodup.of_map _ hidents
  obtain ⟨hbefore, hafter⟩ : case ∉ before ∧ case ∉ after := by
    rw [List.nodup_middle, List.nodup_cons, List.mem_append] at hnodup
    tauto
  have heq : before ++ case' :: after = before' ++ case' :: after' := by
    rw [hsame] at hsplit' ⊢
    rw [← hsplit, hsplit']
  subst hsame
  obtain ⟨hbefore', -⟩ := List.append_cons_inj_of_notMem hbefore hafter |>.mp heq
  exact ⟨hbefore'.symm, rfl⟩

end Case

end NewCases

section Arms

namespace Branch

/-- The branch of a case. -/
def ofCase (case : Case) : Branch := ⟨Text.lower case.rawValue, case.ident⟩

/-- The cases that get a branch when some patterns are taken: those whose pattern is not taken and
is new at their place.  A first case with a taken pattern is dropped, and a pattern that is not
taken differs from it anyway. -/
theorem mem_tableFrom_iff
    {seen : List String}
    {cases : List Case}
    {branch : Branch} :
    branch ∈ tableFrom seen cases
      ↔
    ∃ before case after,
      cases = before ++ case :: after ∧
      Case.NewBehind before case ∧
      Text.lower case.rawValue ∉ seen ∧
      branch = ofCase case := by
  induction cases generalizing seen with
  | nil =>
      simp [tableFrom]
  | cons first cases ih =>
      rw [tableFrom,
        exists_split_cons_iff (P := fun before case =>
          Case.NewBehind before case ∧ Text.lower case.rawValue ∉ seen ∧ branch = ofCase case)]
      by_cases htaken : Text.lower first.rawValue ∈ seen
      · simp only [htaken, if_true, ih]
        constructor
        · rintro ⟨before, case, after, hsplit, hnew, hfree, hbranch⟩
          have hfirst : Text.lower first.rawValue ≠ Text.lower case.rawValue := by
            intro heq
            exact hfree (heq ▸ htaken)
          exact Or.inr ⟨before, case, after, hsplit,
            Case.newBehind_cons_iff.mpr ⟨hfirst, hnew⟩, hfree, hbranch⟩
        · rintro (⟨-, hfree, -⟩ | ⟨before, case, after, hsplit, hnew, hfree, hbranch⟩)
          · exact absurd trivial hfree
          · exact ⟨before, case, after, hsplit, (Case.newBehind_cons_iff.mp hnew).2, hfree,
              hbranch⟩
      · simp only [htaken, if_false, List.mem_cons, ih, not_or]
        constructor
        · rintro (hbranch | ⟨before, case, after, hsplit, hnew, ⟨hne, hfree⟩, hbranch⟩)
          · exact Or.inl ⟨Case.newBehind_nil first, not_false, hbranch⟩
          · exact Or.inr ⟨before, case, after, hsplit,
              Case.newBehind_cons_iff.mpr ⟨Ne.symm hne, hnew⟩, hfree, hbranch⟩
        · rintro (⟨-, -, hbranch⟩ | ⟨before, case, after, hsplit, hnew, hfree, hbranch⟩)
          · exact Or.inl hbranch
          · obtain ⟨hne, hnew⟩ := Case.newBehind_cons_iff.mp hnew
            exact Or.inr ⟨before, case, after, hsplit, hnew, ⟨Ne.symm hne, hfree⟩, hbranch⟩

theorem mem_table_iff
    {cases : List Case}
    {branch : Branch} :
    branch ∈ table cases
      ↔
    ∃ before case after,
      cases = before ++ case :: after ∧
      Case.NewBehind before case ∧
      branch = ofCase case := by
  simp [table, mem_tableFrom_iff]

theorem sublist_tableFrom
    (seen : List String)
    (cases : List Case) :
    ((tableFrom seen cases).map (·.case)).Sublist (cases.map (·.ident)) := by
  induction cases generalizing seen with
  | nil =>
      exact List.Sublist.refl _
  | cons first cases ih =>
      rw [tableFrom]
      by_cases htaken : Text.lower first.rawValue ∈ seen
      · simp only [htaken, if_true, List.map_cons]
        exact List.Sublist.cons _ (ih seen)
      · simp only [htaken, if_false, List.map_cons]
        exact List.Sublist.cons_cons _ (ih _)

/-- No pattern of a table is taken twice. -/
theorem nodup_patterns_tableFrom
    (seen : List String)
    (cases : List Case) :
    ((tableFrom seen cases).map (·.pattern)).Nodup := by
  induction cases generalizing seen with
  | nil =>
      exact List.nodup_nil
  | cons first cases ih =>
      rw [tableFrom]
      by_cases htaken : Text.lower first.rawValue ∈ seen
      · simp only [htaken, if_true]
        exact ih seen
      · simp only [htaken, if_false, List.map_cons, List.nodup_cons]
        refine ⟨?_, ih _⟩
        intro hmem
        obtain ⟨branch, hbranch, hpattern⟩ := List.mem_map.mp hmem
        obtain ⟨-, case, -, -, -, hfree, rfl⟩ := mem_tableFrom_iff.mp hbranch
        exact hfree (hpattern ▸ List.mem_cons_self)

/-- The patterns of a table are the lowercase raw values of all cases. -/
theorem mem_patterns_table_iff
    (cases : List Case)
    (pattern : String) :
    pattern ∈ (table cases).map (·.pattern)
      ↔
    pattern ∈ cases.map fun c => Text.lower c.rawValue := by
  simp only [List.mem_map]
  constructor
  · rintro ⟨branch, hbranch, rfl⟩
    obtain ⟨before, case, after, rfl, -, rfl⟩ := mem_table_iff.mp hbranch
    exact ⟨case, by simp, rfl⟩
  · rintro ⟨case, hmem, rfl⟩
    obtain ⟨before, leader, after, hsplit, hnew, hlower⟩ := Case.exists_newBehind hmem
    exact ⟨ofCase leader, mem_table_iff.mpr ⟨before, leader, after, hsplit, hnew, rfl⟩, hlower⟩

end Branch

end Arms

section Reachable

namespace Enumeration

/-- A case round-trips if its raw value selects it. -/
def RoundTrips (e : Enumeration) (case : Ident) : Prop :=
  ∃ raw, e.rawValue case = some raw ∧ e.fromRawValue raw = some case

/-- By either strategy, what is generated for cases with different identifiers finds the case that
a text means and knows the raw value of each case. -/
theorem exists_ofGenerated?_generate
    (name : String)
    (target : Target)
    (context : Context)
    {cases : List Case}
    (hidents : (cases.map (·.ident)).Nodup) :
    ∃ e,
      ofGenerated? name (generate target cases context) = some e ∧
      (∀ text, e.fromRawValue text = Case.firstMeant cases text) ∧
      ∀ case ∈ cases, e.rawValue case.ident = some case.rawValue := by
  have hcases := Case.consistent_of_nodup hidents
  unfold generate
  cases context.strategy with
  | branchTable =>
      refine ⟨_, rfl, ?_, ?_⟩
      · intro text
        exact (answersBy_branchTable name target context.root cases text).1
      · intro case hmem
        exact Initializer.rawValue_ident _ hcases hmem
  | allCases =>
      refine ⟨_, rfl, ?_, ?_⟩
      · intro text
        exact (answersBy_allCases name target context.root cases hcases text).1
      · intro case hmem
        exact Initializer.rawValue_ident _ hcases hmem

end Enumeration

namespace Case

/-- The cases that texts mean are those with a branch. -/
theorem exists_firstMeant_eq_some_iff
    (cases : List Case)
    (ident : Ident) :
    (∃ text, firstMeant cases text = some ident)
      ↔
    ident ∈ (Branch.table cases).map (·.case) := by
  simp only [firstMeant_eq_some_iff, List.mem_map, Branch.mem_table_iff]
  constructor
  · rintro ⟨text, before, case, after, hsplit, hnew, -, rfl⟩
    exact ⟨Branch.ofCase case, ⟨before, case, after, hsplit, hnew, rfl⟩, rfl⟩
  · rintro ⟨branch, ⟨before, case, after, hsplit, hnew, rfl⟩, rfl⟩
    exact ⟨case.rawValue, before, case, after, hsplit, hnew, rfl, rfl⟩

/-- A case that some text means is meant by its own raw value. -/
theorem exists_firstMeant_rawValue
    {cases : List Case}
    {text : String}
    {ident : Ident}
    (h : firstMeant cases text = some ident) :
    ∃ case ∈ cases, case.ident = ident ∧ firstMeant cases case.rawValue = some ident := by
  obtain ⟨before, case, after, hsplit, hnew, -, hident⟩ := firstMeant_eq_some_iff.mp h
  exact ⟨case, by simp [hsplit], hident,
    firstMeant_eq_some_iff.mpr ⟨before, case, after, hsplit, hnew, rfl, hident⟩⟩

theorem firstMeant_congr
    (cases : List Case)
    {text other : String}
    (h : Text.lower text = Text.lower other) :
    firstMeant cases text = firstMeant cases other := by
  unfold firstMeant isMeantBy
  rw [h]

/-- For a case at its place it is the same to have a branch, to be new, to be reachable, and to be
meant by its own raw value. -/
theorem tfae_newBehind
    {cases before after : List Case}
    {case : Case}
    (hidents : (cases.map (·.ident)).Nodup)
    (hsplit : cases = before ++ case :: after) :
    List.TFAE
      [∃ branch ∈ Branch.table cases, branch.case = case.ident,
        NewBehind before case,
        ∃ text, firstMeant cases text = some case.ident,
        firstMeant cases case.rawValue = some case.ident] := by
  tfae_have 1 → 2 := by
    rintro ⟨branch, hbranch, hident⟩
    obtain ⟨before', case', after', hsplit', hnew, rfl⟩ := Branch.mem_table_iff.mp hbranch
    obtain ⟨rfl, rfl⟩ := before_eq_of_ident_eq hidents hsplit hsplit' hident
    exact hnew
  tfae_have 2 → 4 := by
    intro hnew
    exact firstMeant_eq_some_iff.mpr ⟨before, case, after, hsplit, hnew, rfl, rfl⟩
  tfae_have 4 → 3 := fun h => ⟨case.rawValue, h⟩
  tfae_have 3 → 1 := by
    intro h
    exact List.mem_map.mp ((exists_firstMeant_eq_some_iff cases case.ident).mp h)
  tfae_finish

/-- All cases are meant by their own raw values exactly if no two of them collide. -/
theorem forall_firstMeant_rawValue_iff
    {cases : List Case}
    (hidents : (cases.map (·.ident)).Nodup) :
    (∀ case ∈ cases, firstMeant cases case.rawValue = some case.ident)
      ↔
    (cases.map fun c => Text.lower c.rawValue).Nodup := by
  rw [List.nodup_map_iff_inj_on (List.Nodup.of_map _ hidents)]
  constructor
  · intro hall c hc d hd hlower
    have hident : c.ident = d.ident := by
      have hsame := firstMeant_congr cases hlower
      rw [hall c hc, hall d hd] at hsame
      exact Option.some.inj hsame
    exact List.inj_on_of_nodup_map hidents hc hd hident
  · intro hinj case hmem
    obtain ⟨before, leader, after, hsplit, hnew, hlower⟩ := exists_newBehind hmem
    obtain rfl := hinj leader (by simp [hsplit]) case hmem hlower
    exact firstMeant_eq_some_iff.mpr ⟨before, leader, after, hsplit, hnew, rfl, rfl⟩

end Case

/-- A branch table keeps the order of the cases, has no pattern twice, and matches the lowercase raw
value of every case.  Whichever strategy the options ask for, the look-up gives exactly the cases
with a branch, each of them for its own raw value, and there are as many as branches; so all cases
round-trip exactly if no two of them collide after lowercasing. -/
theorem table_keeps_reachable_cases
    (name : String)
    (target : Target)
    (cases : List Case)
    (context : Context)
    (hidents : (cases.map (·.ident)).Nodup) :
    ((Branch.table cases).map (·.case)).Sublist (cases.map (·.ident)) ∧
    ((Branch.table cases).map (·.pattern)).Nodup ∧
    (∀ pattern,
      pattern ∈ (Branch.table cases).map (·.pattern) ↔
        pattern ∈ cases.map fun c => Text.lower c.rawValue) ∧
    ∃ e,
      Enumeration.ofGenerated? name (generate target cases context) = some e ∧
      (∀ before case after,
        cases = before ++ case :: after →
          List.TFAE
            [∃ branch ∈ Branch.table cases, branch.case = case.ident,
              ∀ d ∈ before, Text.lower d.rawValue ≠ Text.lower case.rawValue,
              ∃ text, e.fromRawValue text = some case.ident,
              e.fromRawValue case.rawValue = some case.ident]) ∧
      {case | ∃ text, e.fromRawValue text = some case}.encard = (Branch.table cases).length ∧
      (∀ text case, e.fromRawValue text = some case → e.RoundTrips case) ∧
      ((∀ case ∈ cases, e.RoundTrips case.ident) ↔
        (cases.map fun c => Text.lower c.rawValue).Nodup) := by
  obtain ⟨e, he, hlookup, hraw⟩ :=
    Enumeration.exists_ofGenerated?_generate name target context hidents
  have hsublist := Branch.sublist_tableFrom [] cases
  refine ⟨hsublist, Branch.nodup_patterns_tableFrom [] cases,
    Branch.mem_patterns_table_iff cases, e, he, ?_, ?_, ?_, ?_⟩
  · intro before case after hsplit
    simp only [hlookup]
    exact Case.tfae_newBehind hidents hsplit
  · have hreached :
        {case | ∃ text, e.fromRawValue text = some case} =
          (((Branch.table cases).map (·.case)).toFinset : Set Ident) := by
      ext case
      simp only [hlookup, Case.exists_firstMeant_eq_some_iff, Set.mem_ofPred_eq,
        List.coe_toFinset]
    have hnodup : ((Branch.table cases).map (·.case)).Nodup := hsublist.nodup hidents
    rw [hreached, Set.encard_coe_eq_coe_finsetCard, List.toFinset_card_of_nodup hnodup,
      List.length_map]
  · intro text ident hfound
    rw [hlookup] at hfound
    obtain ⟨case, hmem, rfl, hown⟩ := Case.exists_firstMeant_rawValue hfound
    exact ⟨case.rawValue, hraw case hmem, by rw [hlookup, hown]⟩
  · rw [← Case.forall_firstMeant_rawValue_iff hidents]
    apply forall₂_congr
    intro case hmem
    simp [Enumeration.RoundTrips, hraw case hmem, hlookup]

/-- Of the cases `Tokyo`, `osaka` and `TOKYO` the last is lost, with its branch. -/
theorem table_keeps_reachable_cases_collision :
    let cases : List Case :=
      [⟨.plain "Tokyo", "Tokyo"⟩, ⟨.plain "osaka", "osaka"⟩, ⟨.plain "TOKYO", "TOKYO"⟩]
    (cases.map (·.ident)).Nodup ∧
    ∃ e,
      Enumeration.ofGenerated? "Area" (generate ⟨.plain "Area", ⟨[], []⟩⟩ cases .default) = some e ∧
      (∀ text, e.fromRawValue text ≠ some (.plain "TOKYO")) ∧
      {case | ∃ text, e.fromRawValue text = some case}.encard = 2 := by
  intro cases
  have hidents : (cases.map (·.ident)).Nodup := by decide +kernel
  have htable : Branch.table cases = [⟨"tokyo", .plain "Tokyo"⟩, ⟨"osaka", .plain "osaka"⟩] := by
    decide +kernel
  obtain ⟨-, -, -, e, he, hcase, hcount, -, -⟩ :=
    table_keeps_reachable_cases "Area" ⟨.plain "Area", ⟨[], []⟩⟩ cases .default hidents
  refine ⟨hidents, e, he, ?_, by rw [hcount, htable]; rfl⟩
  have hlost := (hcase [_, _] ⟨.plain "TOKYO", "TOKYO"⟩ [] rfl).out 2 0
  intro text hfound
  obtain ⟨branch, hbranch, hident⟩ := hlost.mp ⟨text, hfound⟩
  rw [htable] at hbranch
  revert hident
  revert branch
  decide +kernel

end Reachable

end Caseless
