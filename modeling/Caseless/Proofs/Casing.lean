import Caseless.Proofs.BranchTable
import Caseless.Proofs.CaseRuns
import Mathlib.Data.List.Forall2

/-!
# The casing of a text does not matter

A look-up sees a text only through its lowercase form.  Two laws of that form say how little this
is: texts that differ only in the case of letters have the same form, and a form is its own form.

Neither law follows character by character, for a capital sigma looks at its neighbours.  For the
first, changing the case of a letter must not change what any sigma sees; for the second, no form
may hold a capital sigma, so that the second pass has no neighbours to look at.

The main results are `fromRawValue_eq_of_sameLetters` and `lower_text_selects_same_case`.
-/

namespace Caseless

namespace Text

open Unicode

section SameLetters

/-- Two characters are equal, or neither is a capital sigma and both have the same lowercase form. -/
def SameLetter (c d : Char) : Prop :=
  c = d ∨ c ≠ capitalSigma ∧ d ≠ capitalSigma ∧ lowerChar c = lowerChar d

instance : DecidableRel SameLetter :=
  fun c d => inferInstanceAs (Decidable (c = d ∨ _ ∧ _ ∧ _))

theorem SameLetter.sameClass
    {c d : Char}
    (h : SameLetter c d) :
    SameClass c d := by
  rcases h with rfl | ⟨-, -, hform⟩
  · exact SameClass.refl c
  · exact sameClass_of_lowerChar_eq hform

theorem casedNext_cons
    (c : Char)
    (cs : List Char) :
    casedNext (c :: cs) =
      if caseIgnorable.contains c then casedNext cs else cased.contains c := by
  unfold casedNext
  by_cases h : caseIgnorable.contains c = true
  · simp [h]
  · simp [h]

/-- What a sigma sees depends only on the classes of its neighbours. -/
theorem casedNext_congr
    {cs ds : List Char}
    (h : List.Forall₂ SameClass cs ds) :
    casedNext cs = casedNext ds := by
  induction h with
  | nil =>
      rfl
  | cons hfirst _ ih =>
      rw [casedNext_cons, casedNext_cons, hfirst.cased, hfirst.ignorable, ih]

theorem lowerBetween_congr
    {before before' after after' : List Char}
    {c d : Char}
    (hbefore : casedNext before = casedNext before')
    (hafter : casedNext after = casedNext after')
    (h : SameLetter c d) :
    lowerBetween before c after = lowerBetween before' d after' := by
  unfold lowerBetween
  rcases h with rfl | ⟨hc, hd, hform⟩
  · rw [lowerSigma, lowerSigma, hbefore, hafter]
  · rw [if_neg hc, if_neg hd, hform]

/-- The characters that are already passed may differ within their classes, those still to come in
the case of letters. -/
theorem lowerAfter_congr
    {before before' cs ds : List Char}
    (hbefore : List.Forall₂ SameClass before before')
    (h : List.Forall₂ SameLetter cs ds) :
    lowerAfter before cs = lowerAfter before' ds := by
  induction h generalizing before before' with
  | nil =>
      rfl
  | @cons c d cs ds hfirst hrest ih =>
      have hafter : List.Forall₂ SameClass cs ds := hrest.imp fun _ _ h => h.sameClass
      have hpassed : List.Forall₂ SameClass (c :: before) (d :: before') :=
        List.Forall₂.cons hfirst.sameClass hbefore
      rw [lowerAfter, lowerAfter, ih hpassed,
        lowerBetween_congr (casedNext_congr hbefore) (casedNext_congr hafter) hfirst]

theorem lower_congr
    {s t : String}
    (h : List.Forall₂ SameLetter s.toList t.toList) :
    lower s = lower t := by
  rw [lower, lower, lowerChars, lowerChars, lowerAfter_congr List.Forall₂.nil h]

end SameLetters

section Idempotence

/-- A character is lowercase if it is its own form wherever it stands. -/
structure IsLower (c : Char) : Prop where
  ne_capitalSigma : c ≠ capitalSigma
  lowerChar_eq : lowerChar c = [c]

instance (c : Char) : Decidable (IsLower c) :=
  decidable_of_iff (c ≠ capitalSigma ∧ lowerChar c = [c])
    ⟨fun h => ⟨h.1, h.2⟩, fun h => ⟨h.ne_capitalSigma, h.lowerChar_eq⟩⟩

theorem ofNat_lowerCode_ne_capitalSigma
    (c : Char) :
    Char.ofNat (lowerCode c.toNat) ≠ capitalSigma := by
  intro heq
  have hcode : lowerCode c.toNat = 0x3A3 := by
    rw [← toNat_ofNat_lowerCode, heq]
    rfl
  have hfixed := lowerCode_lowerCode c.toNat
  rw [hcode] at hfixed
  revert hfixed
  decide +kernel

theorem ofNat_lowerCode_ne_dottedCapitalI
    {c : Char}
    (hc : c ≠ dottedCapitalI) :
    Char.ofNat (lowerCode c.toNat) ≠ dottedCapitalI := by
  intro heq
  have hcode : lowerCode c.toNat = 0x130 := by
    rw [← toNat_ofNat_lowerCode, heq]
    rfl
  apply hc
  rw [← Char.toNat_inj, eq_of_lowerCode_eq_dotted hcode]
  rfl

theorem isLower_of_mem_lowerChar
    {c d : Char}
    (h : d ∈ lowerChar c) :
    IsLower d := by
  by_cases hc : c = dottedCapitalI
  · have hparts : IsLower (Char.ofNat 0x69) ∧ IsLower (Char.ofNat 0x307) := by
      decide +kernel
    rw [lowerChar, if_pos hc, List.mem_pair] at h
    rcases h with rfl | rfl
    · exact hparts.1
    · exact hparts.2
  · rw [lowerChar_of_ne hc, List.mem_singleton] at h
    subst h
    refine ⟨ofNat_lowerCode_ne_capitalSigma c, ?_⟩
    rw [lowerChar_of_ne (ofNat_lowerCode_ne_dottedCapitalI hc), toNat_ofNat_lowerCode,
      lowerCode_lowerCode]

theorem isLower_lowerSigma
    (before after : List Char) :
    IsLower (lowerSigma before after) := by
  have hforms : IsLower finalSigma ∧ IsLower innerSigma := by
    decide +kernel
  unfold lowerSigma
  split
  · exact hforms.1
  · exact hforms.2

theorem isLower_of_mem_lowerAfter
    {before cs : List Char}
    {d : Char}
    (h : d ∈ lowerAfter before cs) :
    IsLower d := by
  induction cs generalizing before with
  | nil =>
      cases h
  | cons c cs ih =>
      rw [lowerAfter, List.mem_append] at h
      rcases h with hfirst | hrest
      · unfold lowerBetween at hfirst
        split at hfirst
        · rw [List.mem_singleton] at hfirst
          rw [hfirst]
          exact isLower_lowerSigma before cs
        · exact isLower_of_mem_lowerChar hfirst
      · exact ih hrest

theorem lowerAfter_eq_self
    {before cs : List Char}
    (h : ∀ c ∈ cs, IsLower c) :
    lowerAfter before cs = cs := by
  induction cs generalizing before with
  | nil =>
      rfl
  | cons c cs ih =>
      obtain ⟨hfirst, hrest⟩ := List.forall_mem_cons.mp h
      rw [lowerAfter, ih hrest, lowerBetween, if_neg hfirst.ne_capitalSigma, hfirst.lowerChar_eq]
      rfl

/-- The lowercase form of a text is its own form. -/
theorem lower_lower
    (s : String) :
    lower (lower s) = lower s := by
  rw [lower, lower, String.toList_ofList]
  congr 1
  exact lowerAfter_eq_self fun _ h => isLower_of_mem_lowerAfter h

end Idempotence

end Text

section Selection

namespace Branch

/-- A pattern is the lowercase form of a raw value, so it is its own form. -/
theorem lower_pattern
    {cases : List Case}
    {branch : Branch}
    (h : branch ∈ table cases) :
    Text.lower branch.pattern = branch.pattern := by
  obtain ⟨-, case, -, -, -, rfl⟩ := mem_table_iff.mp h
  exact Text.lower_lower case.rawValue

/-- The first branch with the pattern of a branch is that branch. -/
theorem find?_pattern
    {cases : List Case}
    {branch : Branch}
    (h : branch ∈ table cases) :
    (table cases).find? (·.pattern == branch.pattern) = some branch := by
  cases hfind : (table cases).find? (·.pattern == branch.pattern) with
  | none =>
      have hnone := List.find?_eq_none.mp hfind branch h
      simp at hnone
  | some found =>
      have hpattern : found.pattern = branch.pattern := by simpa using List.find?_some hfind
      rw [List.inj_on_of_nodup_map (nodup_patterns_tableFrom [] cases)
        (List.mem_of_find?_eq_some hfind) h hpattern]

end Branch

namespace Enumeration

/-- A look-up sees nothing of a text but its lowercase form. -/
theorem fromRawValue_congr
    (e : Enumeration)
    {text other : String}
    (h : Text.lower text = Text.lower other) :
    e.fromRawValue text = e.fromRawValue other := by
  have hmatches : e.initializer.matchesRawValue text = e.initializer.matchesRawValue other := by
    funext case
    rw [Initializer.matchesRawValue, Initializer.matchesRawValue, h]
  unfold fromRawValue Initializer.fromRawValue
  rw [h, hmatches]

/-- Two texts of the same length select the same case if their characters are equal, or neither is a
capital sigma and both have the same lowercase form, at every place.  Other places may hold capital
sigmas. -/
theorem fromRawValue_eq_of_sameLetters
    (e : Enumeration)
    (text other : String)
    (h : List.Forall₂ Text.SameLetter text.toList other.toList) :
    e.fromRawValue text = e.fromRawValue other :=
  e.fromRawValue_congr (Text.lower_congr h)

/-- The casing of all letters but the last is changed; the sigma at the end stays a final one. -/
theorem fromRawValue_eq_of_sameLetters_sigma :
    let cases : List Case := [⟨.plain "Οδος", "Οδος"⟩]
    let e : Enumeration :=
      ⟨"Word", ⟨⟨.plain "Word", ⟨[], []⟩⟩, Context.defaultRoot, cases,
        .branchTable (Branch.table cases)⟩, none⟩
    List.Forall₂ Text.SameLetter "ΟδοΣ".toList "οΔΟΣ".toList ∧
    e.fromRawValue "ΟδοΣ" = e.fromRawValue "οΔΟΣ" ∧
    e.fromRawValue "οΔΟΣ" = some (.plain "Οδος") := by
  intro cases e
  have hletters : List.Forall₂ Text.SameLetter "ΟδοΣ".toList "οΔΟΣ".toList := by
    decide +kernel
  exact ⟨hletters, e.fromRawValue_eq_of_sameLetters _ _ hletters, by decide +kernel⟩

/-- The lowercase form of a text selects what the text selects.  In a branch table every pattern is
its own lowercase form, and as a text it selects the branch that it stands in. -/
theorem lower_text_selects_same_case
    (e : Enumeration) :
    (∀ text, e.fromRawValue (Text.lower text) = e.fromRawValue text) ∧
    ∀ cases,
      e.initializer.lookup = .branchTable (Branch.table cases) →
        ∀ branch ∈ Branch.table cases,
          Text.lower branch.pattern = branch.pattern ∧
          (Branch.table cases).find? (·.pattern == Text.lower branch.pattern) = some branch ∧
          e.fromRawValue branch.pattern = some branch.case := by
  refine ⟨fun text => e.fromRawValue_congr (Text.lower_lower text), ?_⟩
  intro cases hlookup branch hbranch
  have hpattern := Branch.lower_pattern hbranch
  have hfind := Branch.find?_pattern hbranch
  refine ⟨hpattern, by rw [hpattern, hfind], ?_⟩
  unfold fromRawValue Initializer.fromRawValue
  simp [hlookup, hpattern, Branch.select, hfind]

/-- The pattern of a case with a dotted capital I and a final sigma is found as it stands. -/
theorem lower_text_selects_same_case_sigma :
    let cases : List Case := [⟨.plain "İΣ", "İΣ"⟩]
    let branch : Branch := ⟨"i\u0307ς", .plain "İΣ"⟩
    let e : Enumeration :=
      ⟨"Word", ⟨⟨.plain "Word", ⟨[], []⟩⟩, Context.defaultRoot, cases,
        .branchTable (Branch.table cases)⟩, none⟩
    branch ∈ Branch.table cases ∧
    Text.lower branch.pattern = branch.pattern ∧
    e.fromRawValue branch.pattern = some (.plain "İΣ") := by
  intro cases branch e
  have hbranch : branch ∈ Branch.table cases := by
    decide +kernel
  obtain ⟨hpattern, -, hfound⟩ := (lower_text_selects_same_case e).2 cases rfl branch hbranch
  exact ⟨hbranch, hpattern, hfound⟩

end Enumeration

end Selection

end Caseless
