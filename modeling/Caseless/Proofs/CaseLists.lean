import Caseless.Proofs.BranchTable

/-!
# Changing the list of cases

Two enums are compared whose cases differ: one has a case more than the other, or both have the
same cases in another order.  In both comparisons a look-up can change only within a class of cases
that collide after lowercasing.

A case that is added takes over the texts that mean it, unless a case in front of it has them
already (`added_case_takes_its_texts_only`).  The order of the cases tells which member of a class
is found, and nothing else (`order_decides_collisions_only`).
-/

namespace Caseless

section Adding

namespace Case

theorem firstMeant_cons
    (case : Case)
    (cases : List Case)
    (text : String) :
    firstMeant (case :: cases) text =
      if Text.lower case.rawValue = Text.lower text then some case.ident
      else firstMeant cases text := by
  unfold firstMeant isMeantBy
  by_cases h : Text.lower case.rawValue = Text.lower text
  · simp [h]
  · simp [h]

/-- Of two lists of cases the first is asked first. -/
theorem firstMeant_append
    (cases others : List Case)
    (text : String) :
    firstMeant (cases ++ others) text = (firstMeant cases text).or (firstMeant others text) := by
  unfold firstMeant
  rw [List.find?_append]
  cases cases.find? (isMeantBy text) with
  | none =>
      rfl
  | some case =>
      rfl

/-- A case is not seen by texts that differ from it. -/
theorem firstMeant_insert_of_ne
    (before after : List Case)
    {case : Case}
    {text : String}
    (h : Text.lower text ≠ Text.lower case.rawValue) :
    firstMeant (before ++ case :: after) text = firstMeant (before ++ after) text := by
  rw [firstMeant_append, firstMeant_append, firstMeant_cons, if_neg (Ne.symm h)]

/-- A text that equals a case means it, unless it means a case in front. -/
theorem firstMeant_insert_of_eq
    (before after : List Case)
    {case : Case}
    {text : String}
    (h : Text.lower text = Text.lower case.rawValue) :
    firstMeant (before ++ case :: after) text =
      some ((firstMeant before text).getD case.ident) := by
  rw [firstMeant_append, firstMeant_cons, if_pos h.symm]
  cases firstMeant before text with
  | none =>
      rfl
  | some ident =>
      rfl

end Case

/-- Whatever patterns are taken, further cases only add branches behind. -/
theorem Branch.tableFrom_prefix
    (seen : List String)
    (cases others : List Case) :
    tableFrom seen cases <+: tableFrom seen (cases ++ others) := by
  induction cases generalizing seen with
  | nil =>
      exact List.nil_prefix
  | cons case cases ih =>
      rw [List.cons_append, tableFrom, tableFrom]
      by_cases htaken : Text.lower case.rawValue ∈ seen
      · simp only [htaken, if_true]
        exact ih seen
      · simp only [htaken, if_false]
        exact (List.prefix_cons_inj _).mpr (ih _)

/-- The branch table of some cases begins that of a longer list, so whatever strategy the options
ask for, a text keeps its case when cases are added behind.  When a case is added anywhere, the
texts that differ from it keep their answer, and those that equal it are given the answer of the
cases in front, or else the new case. -/
theorem added_case_takes_its_texts_only
    (name : String)
    (target : Target)
    (context : Context)
    (before after : List Case) :
    Branch.table before <+: Branch.table (before ++ after) ∧
    (((before ++ after).map (·.ident)).Nodup →
      ∃ front whole,
        Enumeration.ofGenerated? name (generate target before context) = some front ∧
        Enumeration.ofGenerated? name (generate target (before ++ after) context) = some whole ∧
        (∀ text ident, front.fromRawValue text = some ident →
          whole.fromRawValue text = some ident) ∧
        ∀ case : Case,
          ((before ++ case :: after).map (·.ident)).Nodup →
            ∃ grown,
              Enumeration.ofGenerated? name (generate target (before ++ case :: after) context) =
                some grown ∧
              ∀ text,
                (Text.lower text ≠ Text.lower case.rawValue →
                  grown.fromRawValue text = whole.fromRawValue text) ∧
                (Text.lower text = Text.lower case.rawValue →
                  grown.fromRawValue text =
                    some ((front.fromRawValue text).getD case.ident))) := by
  refine ⟨Branch.tableFrom_prefix [] before after, ?_⟩
  intro hidents
  have hbefore : (before.map (·.ident)).Nodup := by
    rw [List.map_append] at hidents
    exact hidents.of_append_left
  obtain ⟨front, hfront, hfrontText, -⟩ :=
    Enumeration.exists_ofGenerated?_generate name target context hbefore
  obtain ⟨whole, hwhole, hwholeText, -⟩ :=
    Enumeration.exists_ofGenerated?_generate name target context hidents
  refine ⟨front, whole, hfront, hwhole, ?_, ?_⟩
  · intro text ident hfound
    rw [hfrontText] at hfound
    rw [hwholeText, Case.firstMeant_append, hfound]
    rfl
  · intro case hgrown
    obtain ⟨grown, hgrown, hgrownText, -⟩ :=
      Enumeration.exists_ofGenerated?_generate name target context hgrown
    refine ⟨grown, hgrown, ?_⟩
    intro text
    rw [hgrownText, hwholeText, hfrontText]
    exact ⟨Case.firstMeant_insert_of_ne before after, Case.firstMeant_insert_of_eq before after⟩

/-- Between `Osaka` and `TOKYO` the new case `Tokyo` takes over the texts of `TOKYO`, while those of
`Osaka` stay as they are. -/
theorem added_case_takes_its_texts_only_eviction :
    let before : List Case := [⟨.plain "Osaka", "Osaka"⟩]
    let after : List Case := [⟨.plain "TOKYO", "TOKYO"⟩]
    let case : Case := ⟨.plain "Tokyo", "Tokyo"⟩
    let target : Target := ⟨.plain "Area", ⟨[], []⟩⟩
    ((before ++ case :: after).map (·.ident)).Nodup ∧
    ∃ whole grown,
      Enumeration.ofGenerated? "Area" (generate target (before ++ after) .default) =
        some whole ∧
      Enumeration.ofGenerated? "Area" (generate target (before ++ case :: after) .default) =
        some grown ∧
      whole.fromRawValue "tokyo" = some (.plain "TOKYO") ∧
      grown.fromRawValue "tokyo" = some (.plain "Tokyo") ∧
      grown.fromRawValue "OSAKA" = whole.fromRawValue "OSAKA" := by
  intro before after case target
  have hidents : ((before ++ case :: after).map (·.ident)).Nodup := by decide +kernel
  obtain ⟨-, hadded⟩ := added_case_takes_its_texts_only "Area" target .default before after
  obtain ⟨front, whole, hfront, hwhole, -, hcase⟩ := hadded (by decide +kernel)
  obtain ⟨grown, hgrown, htext⟩ := hcase case hidents
  have hnone : front.fromRawValue "tokyo" = none := by
    obtain rfl := Option.some.inj hfront
    decide +kernel
  have hevicted : whole.fromRawValue "tokyo" = some (.plain "TOKYO") := by
    obtain rfl := Option.some.inj hwhole
    decide +kernel
  have hfound := (htext "tokyo").2 (by decide +kernel)
  rw [hnone] at hfound
  exact ⟨hidents, whole, grown, hwhole, hgrown, hevicted, hfound,
    (htext "OSAKA").1 (by decide +kernel)⟩

end Adding

section Reordering

namespace Case

/-- The cases that collide with the given one after lowercasing, itself among them. -/
def colliding (cases : List Case) (case : Case) : List Case :=
  cases.filter (isMeantBy case.rawValue)

theorem head?_colliding
    (cases : List Case)
    (case : Case) :
    (colliding cases case).head? = cases.find? (isMeantBy case.rawValue) :=
  List.head?_filter

theorem find?_isMeantBy_congr
    (cases : List Case)
    {text other : String}
    (h : Text.lower text = Text.lower other) :
    cases.find? (isMeantBy text) = cases.find? (isMeantBy other) := by
  unfold isMeantBy
  rw [h]

/-- A text means some case exactly if it equals one. -/
theorem isSome_firstMeant_iff
    (cases : List Case)
    (text : String) :
    (firstMeant cases text).isSome = true
      ↔
    ∃ case ∈ cases, Text.lower case.rawValue = Text.lower text := by
  simp [firstMeant, isMeantBy]

/-- The first members of all classes are the same exactly if all texts mean the same case. -/
theorem firstMeant_eq_iff_head?_colliding_eq
    {cases others : List Case}
    (hperm : cases.Perm others)
    (hidents : (cases.map (·.ident)).Nodup) :
    (∀ text, firstMeant cases text = firstMeant others text)
      ↔
    ∀ case ∈ cases, (colliding cases case).head? = (colliding others case).head? := by
  simp only [head?_colliding]
  constructor
  · intro hall case hmem
    have hsame := hall case.rawValue
    unfold firstMeant at hsame
    cases hfound : cases.find? (isMeantBy case.rawValue) with
    | none =>
        rw [hfound] at hsame
        exact (Option.map_eq_none_iff.mp hsame.symm).symm
    | some leader =>
        rw [hfound] at hsame
        obtain ⟨leader', hfound', hident⟩ := Option.map_eq_some_iff.mp hsame.symm
        have hleader : leader ∈ cases := List.mem_of_find?_eq_some hfound
        have hleader' : leader' ∈ cases :=
          hperm.mem_iff.mpr (List.mem_of_find?_eq_some hfound')
        rw [hfound', List.inj_on_of_nodup_map hidents hleader' hleader hident]
  · intro hclass text
    unfold firstMeant
    cases hfound : cases.find? (isMeantBy text) with
    | none =>
        have hnone : others.find? (isMeantBy text) = none := by
          rw [List.find?_eq_none] at hfound ⊢
          intro case hmem
          exact hfound case (hperm.mem_iff.mpr hmem)
        rw [hnone]
    | some case =>
        have hmeant : Text.lower case.rawValue = Text.lower text := by
          simpa [isMeantBy] using List.find?_some hfound
        rw [← hfound, ← find?_isMeantBy_congr cases hmeant, ← find?_isMeantBy_congr others hmeant,
          hclass case (List.mem_of_find?_eq_some hfound)]

/-- A class of one member has it in front in every order. -/
theorem head?_colliding_eq_of_nodup
    {cases others : List Case}
    (hperm : cases.Perm others)
    (hlower : (cases.map fun c => Text.lower c.rawValue).Nodup)
    {case : Case}
    (hmem : case ∈ cases) :
    (colliding cases case).head? = (colliding others case).head? := by
  have halone (l : List Case) (hl : l.Perm cases) : (colliding l case).head? = some case := by
    rw [head?_colliding]
    cases hfound : l.find? (isMeantBy case.rawValue) with
    | none =>
        have hnone := List.find?_eq_none.mp hfound case (hl.mem_iff.mpr hmem)
        simp [isMeantBy] at hnone
    | some leader =>
        have hleader : leader ∈ cases := hl.mem_iff.mp (List.mem_of_find?_eq_some hfound)
        have heq : Text.lower leader.rawValue = Text.lower case.rawValue := by
          simpa [isMeantBy] using List.find?_some hfound
        rw [List.inj_on_of_nodup_map hlower hleader hmem heq]
  rw [halone cases (List.Perm.refl cases), halone others hperm.symm]

end Case

/-- Whatever strategies the options of two enums ask for, the order of their cases decides about
collisions only: in another order a text selects a case just as before, whose raw value is the same
after lowercasing, and it is the same case for all texts exactly if every class of colliding cases
has the same first member in both orders, as it has if no two cases collide. -/
theorem order_decides_collisions_only
    (name : String)
    (target : Target)
    (context context' : Context)
    (cases others : List Case)
    (hperm : cases.Perm others)
    (hidents : (cases.map (·.ident)).Nodup) :
    ∃ e e',
      Enumeration.ofGenerated? name (generate target cases context) = some e ∧
      Enumeration.ofGenerated? name (generate target others context') = some e' ∧
      (∀ text, (e.fromRawValue text).isSome = (e'.fromRawValue text).isSome) ∧
      (∀ text ident ident',
        e.fromRawValue text = some ident →
        e'.fromRawValue text = some ident' →
          ∃ raw raw',
            e.rawValue ident = some raw ∧
            e'.rawValue ident' = some raw' ∧
            Text.lower raw = Text.lower raw') ∧
      ((∀ text, e.fromRawValue text = e'.fromRawValue text)
          ↔
        ∀ case ∈ cases,
          (Case.colliding cases case).head? = (Case.colliding others case).head?) ∧
      ((cases.map fun c => Text.lower c.rawValue).Nodup →
        ∀ text, e.fromRawValue text = e'.fromRawValue text) := by
  have hidents' : (others.map (·.ident)).Nodup := (hperm.map _).nodup_iff.mp hidents
  obtain ⟨e, he, htext, hraw⟩ :=
    Enumeration.exists_ofGenerated?_generate name target context hidents
  obtain ⟨e', he', htext', hraw'⟩ :=
    Enumeration.exists_ofGenerated?_generate name target context' hidents'
  have hclasses := Case.firstMeant_eq_iff_head?_colliding_eq hperm hidents
  refine ⟨e, e', he, he', ?_, ?_, ?_, ?_⟩
  · intro text
    rw [htext, htext', Bool.eq_iff_iff, Case.isSome_firstMeant_iff, Case.isSome_firstMeant_iff]
    simp only [hperm.mem_iff]
  · intro text ident ident' hfound hfound'
    rw [htext] at hfound
    rw [htext'] at hfound'
    obtain ⟨before, case, after, rfl, -, hlower, rfl⟩ := Case.firstMeant_eq_some_iff.mp hfound
    obtain ⟨before', case', after', rfl, -, hlower', rfl⟩ :=
      Case.firstMeant_eq_some_iff.mp hfound'
    exact ⟨case.rawValue, case'.rawValue, hraw case (by simp), hraw' case' (by simp),
      hlower.trans hlower'.symm⟩
  · simp only [htext, htext']
    exact hclasses
  · intro hlower
    simp only [htext, htext']
    apply hclasses.mpr
    intro case hmem
    exact Case.head?_colliding_eq_of_nodup hperm hlower hmem

/-- Exchanging `Tokyo` and `TOKYO` changes who is found, by the table and by the search. -/
theorem order_decides_collisions_only_exchange :
    let first : Case := ⟨.plain "Tokyo", "Tokyo"⟩
    let second : Case := ⟨.plain "TOKYO", "TOKYO"⟩
    let target : Target := ⟨.plain "Area", ⟨[], []⟩⟩
    List.Perm [first, second] [second, first] ∧
    ([first, second].map (·.ident)).Nodup ∧
    ∃ e e',
      Enumeration.ofGenerated? "Area" (generate target [first, second] .default) = some e ∧
      Enumeration.ofGenerated? "Area"
        (generate target [second, first] ⟨.allCases, Context.defaultRoot⟩) = some e' ∧
      (∀ text, (e.fromRawValue text).isSome = (e'.fromRawValue text).isSome) ∧
      ∃ text, e.fromRawValue text ≠ e'.fromRawValue text := by
  intro first second target
  have hperm : List.Perm [first, second] [second, first] := List.Perm.swap second first []
  have hidents : ([first, second].map (·.ident)).Nodup := by decide +kernel
  obtain ⟨e, e', he, he', hsome, -, hsame, -⟩ :=
    order_decides_collisions_only "Area" target .default ⟨.allCases, Context.defaultRoot⟩
      [first, second] [second, first] hperm hidents
  refine ⟨hperm, hidents, e, e', he, he', hsome, ?_⟩
  by_contra hall
  push Not at hall
  have hclass := hsame.mp hall first List.mem_cons_self
  revert hclass
  decide +kernel

end Reordering

end Caseless
