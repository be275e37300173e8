import Caseless.Text.Lower

/-!
# What holds of all letters

Three facts about the tables of the Unicode standard carry every law of lowercase texts: a letter
with a lowercase form and that form are both cased and not case-ignorable, a lowercase form has no
other lowercase form, and every form is a character.

Each fact is checked once for every run of letters, or every two runs, and not letter by letter: a
range is compared with the ranges of a set, and two runs with the same step are told apart by
their remainders.
-/

namespace Caseless
namespace Unicode

section Ranges

namespace CharSet

variable {set : CharSet} {first last n : Nat}

/-- Whether one pass through a set finds a closed range of code points inside it. -/
def covers : CharSet → Nat → Nat → Bool
  | [], _, _ => false
  | range :: ranges, first, last =>
      Nat.ble range.first first &&
        (Nat.ble last range.last || (Nat.blt range.last first && covers ranges first last))

/-- Whether one pass through a set finds a closed range of code points outside it. -/
def misses : CharSet → Nat → Nat → Bool
  | [], _, _ => true
  | range :: ranges, first, last =>
      Nat.blt last range.first || (Nat.blt range.last first && misses ranges first last)

theorem containsCode_of_covers
    (h : set.covers first last = true)
    (hfirst : first ≤ n)
    (hlast : n ≤ last) :
    set.containsCode n = true := by
  induction set with
  | nil =>
      cases h
  | cons range ranges ih =>
      simp only [covers, Bool.and_eq_true, Bool.or_eq_true, Nat.ble_eq, Nat.blt_eq] at h
      obtain ⟨hstart, hstop | ⟨-, hrest⟩⟩ := h
      · simp [containsCode, show ¬ n < range.first by omega, show n ≤ range.last by omega]
      · simp [containsCode, show ¬ n < range.first by omega, ih hrest]

theorem containsCode_of_misses
    (h : set.misses first last = true)
    (hfirst : first ≤ n)
    (hlast : n ≤ last) :
    set.containsCode n = false := by
  induction set with
  | nil =>
      rfl
  | cons range ranges ih =>
      simp only [misses, Bool.or_eq_true, Bool.and_eq_true, Nat.blt_eq] at h
      obtain hbehind | ⟨hstop, hrest⟩ := h
      · simp [containsCode, show n < range.first by omega]
      · simp [containsCode, show ¬ n ≤ range.last by omega, ih hrest]

end CharSet

end Ranges

section Runs

namespace CaseRun

variable {run other : CaseRun} {n : Nat}

theorem contains_eq_true_iff :
    run.contains n = true
      ↔
    run.first ≤ n ∧ n ≤ run.last ∧ run.step ∣ n - run.first := by
  simp [contains, and_assoc, Nat.dvd_iff_mod_eq_zero]

theorem image_le_map
    (run : CaseRun)
    (n : Nat) :
    run.image ≤ run.map n := by
  simp [map]

theorem map_le_map_last
    (h : run.contains n = true) :
    run.map n ≤ run.map run.last := by
  obtain ⟨-, hlast, -⟩ := contains_eq_true_iff.mp h
  simp only [map]
  omega

/-- Whether all letters of a run belong to a set: either with everything between them, or one by
one. -/
def lettersIn (run : CaseRun) (set : CharSet) : Bool :=
  set.covers run.first run.last ||
    (List.range' run.first (run.last + 1 - run.first)).all fun n =>
      !run.contains n || set.containsCode n

theorem containsCode_of_lettersIn
    {set : CharSet}
    (h : run.lettersIn set = true)
    (hn : run.contains n = true) :
    set.containsCode n = true := by
  obtain ⟨hfirst, hlast, -⟩ := contains_eq_true_iff.mp hn
  rcases Bool.or_eq_true _ _ |>.mp h with hcovers | hall
  · exact CharSet.containsCode_of_covers hcovers hfirst hlast
  · have hmem : n ∈ List.range' run.first (run.last + 1 - run.first) := by
      rw [List.mem_range'_1]
      omega
    simpa [hn] using List.all_eq_true.mp hall n hmem

/-- Whether no lowercase form of a run is a letter of another one: they lie apart, or their
remainders by the step of the other one differ. -/
def avoids (run other : CaseRun) : Bool :=
  Nat.blt (run.map run.last) other.first || Nat.blt other.last run.image ||
    ((run.first == run.last || run.step % other.step == 0) &&
      run.image % other.step != other.first % other.step)

theorem not_contains_map_of_avoids
    (h : run.avoids other = true)
    (hn : run.contains n = true) :
    other.contains (run.map n) = false := by
  cases hcontains : other.contains (run.map n) with
  | false =>
      rfl
  | true =>
      obtain ⟨hfirst, hlast, hdvd⟩ := contains_eq_true_iff.mp hcontains
      have himage := run.image_le_map n
      have hmap := map_le_map_last hn
      simp only [avoids, Bool.or_eq_true, Bool.and_eq_true, Nat.blt_eq, beq_iff_eq, bne_iff_ne]
        at h
      obtain (hbelow | habove) | ⟨hstep, hremainder⟩ := h
      · omega
      · omega
      · have hoffset : other.step ∣ n - run.first := by
          obtain ⟨hstart, hstop, hown⟩ := contains_eq_true_iff.mp hn
          rcases hstep with hsingle | hmultiple
          · simp [show n - run.first = 0 by omega]
          · exact Nat.dvd_trans (Nat.dvd_of_mod_eq_zero hmultiple) hown
        apply absurd _ hremainder
        calc
          run.image % other.step = (run.image + (n - run.first)) % other.step := by
            obtain ⟨k, hk⟩ := hoffset
            rw [hk, Nat.add_mul_mod_self_left]
          _ = run.map n % other.step := rfl
          _ = (other.first + (run.map n - other.first)) % other.step := by
            rw [Nat.add_sub_cancel' hfirst]
          _ = other.first % other.step := by
            obtain ⟨k, hk⟩ := hdvd
            rw [hk, Nat.add_mul_mod_self_left]

end CaseRun

theorem lettersIn_cased :
    ∀ run ∈ caseRuns, run.lettersIn cased = true := by
  decide +kernel

theorem cased_covers_images :
    ∀ run ∈ caseRuns, cased.covers run.image (run.map run.last) = true := by
  decide +kernel

theorem caseIgnorable_misses_letters :
    ∀ run ∈ caseRuns, caseIgnorable.misses run.first run.last = true := by
  decide +kernel

theorem caseIgnorable_misses_images :
    ∀ run ∈ caseRuns, caseIgnorable.misses run.image (run.map run.last) = true := by
  decide +kernel

theorem all_avoids :
    ∀ run ∈ caseRuns, caseRuns.all run.avoids = true := by
  decide +kernel

/-- Every lowercase form is a character, and none is the capital I with a dot above. -/
theorem image_bounds :
    ∀ run ∈ caseRuns,
      (run.map run.last < 0xD800 ∨ 0xDFFF < run.image ∧ run.map run.last < 0x110000) ∧
      (run.map run.last < 0x130 ∨ 0x130 < run.image) := by
  decide +kernel

end Runs

section Letters

/-- Whether a code point is cased and not case-ignorable. -/
structure IsLetter (n : Nat) : Prop where
  cased : cased.containsCode n = true
  notIgnorable : caseIgnorable.containsCode n = false

theorem isLetter_of_contains
    {run : CaseRun}
    (hrun : run ∈ caseRuns)
    {n : Nat}
    (hn : run.contains n = true) :
    IsLetter n := by
  obtain ⟨hfirst, hlast, -⟩ := CaseRun.contains_eq_true_iff.mp hn
  exact
    ⟨CaseRun.containsCode_of_lettersIn (lettersIn_cased run hrun) hn,
      CharSet.containsCode_of_misses (caseIgnorable_misses_letters run hrun) hfirst hlast⟩

theorem isLetter_map
    {run : CaseRun}
    (hrun : run ∈ caseRuns)
    {n : Nat}
    (hn : run.contains n = true) :
    IsLetter (run.map n) :=
  ⟨CharSet.containsCode_of_covers (cased_covers_images run hrun) (run.image_le_map n)
      (CaseRun.map_le_map_last hn),
    CharSet.containsCode_of_misses (caseIgnorable_misses_images run hrun) (run.image_le_map n)
      (CaseRun.map_le_map_last hn)⟩

/-- A code point lies in no run and keeps its form, or its form is told by a run. -/
theorem lowerCode_cases
    (n : Nat) :
    ((∀ run ∈ caseRuns, run.contains n = false) ∧ lowerCode n = n) ∨
      ∃ run ∈ caseRuns, run.contains n = true ∧ lowerCode n = run.map n := by
  unfold lowerCode
  cases hfind : caseRuns.find? (·.contains n) with
  | none =>
      left
      exact ⟨by simpa using hfind, rfl⟩
  | some run =>
      right
      exact ⟨run, List.mem_of_find?_eq_some hfind, by simpa using List.find?_some hfind, rfl⟩

theorem lowerCode_eq_self
    {n : Nat}
    (h : ∀ run ∈ caseRuns, run.contains n = false) :
    lowerCode n = n := by
  rcases lowerCode_cases n with ⟨-, heq⟩ | ⟨run, hrun, hn, -⟩
  · exact heq
  · simp [h run hrun] at hn

theorem lowerCode_lowerCode
    (n : Nat) :
    lowerCode (lowerCode n) = lowerCode n := by
  rcases lowerCode_cases n with ⟨-, heq⟩ | ⟨run, hrun, hn, heq⟩
  · rw [heq, heq]
  · rw [heq]
    apply lowerCode_eq_self
    intro other hother
    have havoids := List.all_eq_true.mp (all_avoids run hrun) other hother
    exact CaseRun.not_contains_map_of_avoids havoids hn

/-- What changes its form is a letter, and so is its form. -/
theorem isLetter_of_lowerCode_ne
    {n : Nat}
    (h : lowerCode n ≠ n) :
    IsLetter n ∧ IsLetter (lowerCode n) := by
  rcases lowerCode_cases n with ⟨-, heq⟩ | ⟨run, hrun, hn, heq⟩
  · exact absurd heq h
  · rw [heq]
    exact ⟨isLetter_of_contains hrun hn, isLetter_map hrun hn⟩

theorem isValidChar_lowerCode
    {n : Nat}
    (h : n.isValidChar) :
    (lowerCode n).isValidChar := by
  rcases lowerCode_cases n with ⟨-, heq⟩ | ⟨run, hrun, hn, heq⟩
  · rwa [heq]
  · rw [heq]
    have himage := run.image_le_map n
    have hmap := CaseRun.map_le_map_last hn
    rcases (image_bounds run hrun).1 with hlow | ⟨hhigh, htop⟩
    · exact Or.inl (by omega)
    · exact Or.inr ⟨by omega, by omega⟩

/-- Nothing but the capital I with a dot above has it as its form. -/
theorem eq_of_lowerCode_eq_dotted
    {n : Nat}
    (h : lowerCode n = 0x130) :
    n = 0x130 := by
  rcases lowerCode_cases n with ⟨-, heq⟩ | ⟨run, hrun, hn, heq⟩
  · rw [← heq, h]
  · have himage := run.image_le_map n
    have hmap := CaseRun.map_le_map_last hn
    have hbounds := (image_bounds run hrun).2
    omega

/-- Two code points with the same form are equal, or both are letters. -/
theorem eq_or_isLetter_of_lowerCode_eq
    {n m : Nat}
    (h : lowerCode n = lowerCode m) :
    n = m ∨ IsLetter n ∧ IsLetter m := by
  by_cases hn : lowerCode n = n
  · by_cases hm : lowerCode m = m
    · exact Or.inl (by rw [← hn, h, hm])
    · obtain ⟨hletter, hform⟩ := isLetter_of_lowerCode_ne hm
      rw [← h, hn] at hform
      exact Or.inr ⟨hform, hletter⟩
  · obtain ⟨hletter, hform⟩ := isLetter_of_lowerCode_ne hn
    by_cases hm : lowerCode m = m
    · rw [h, hm] at hform
      exact Or.inr ⟨hletter, hform⟩
    · exact Or.inr ⟨hletter, (isLetter_of_lowerCode_ne hm).1⟩

end Letters

section Characters

/-- The lowercase form of a character with a form of one character. -/
theorem lowerChar_of_ne
    {c : Char}
    (h : c ≠ dottedCapitalI) :
    lowerChar c = [Char.ofNat (lowerCode c.toNat)] := by
  simp [lowerChar, h]

theorem toNat_ofNat_lowerCode
    (c : Char) :
    (Char.ofNat (lowerCode c.toNat)).toNat = lowerCode c.toNat := by
  have hvalid : (lowerCode c.toNat).isValidChar := isValidChar_lowerCode c.valid
  rw [Char.ofNat, dif_pos hvalid]
  rfl

/-- Two characters that a capital sigma cannot tell apart. -/
structure SameClass (c d : Char) : Prop where
  cased : cased.contains c = cased.contains d
  ignorable : caseIgnorable.contains c = caseIgnorable.contains d

theorem SameClass.refl
    (c : Char) :
    SameClass c c :=
  ⟨rfl, rfl⟩

/-- Characters with the same lowercase form look the same to every capital sigma. -/
theorem sameClass_of_lowerChar_eq
    {c d : Char}
    (h : lowerChar c = lowerChar d) :
    SameClass c d := by
  by_cases hc : c = dottedCapitalI
  · by_cases hd : d = dottedCapitalI
    · rw [hc, hd]
      exact SameClass.refl _
    · rw [lowerChar_of_ne hd] at h
      simp [lowerChar, hc] at h
  · by_cases hd : d = dottedCapitalI
    · rw [lowerChar_of_ne hc] at h
      simp [lowerChar, hd] at h
    · rw [lowerChar_of_ne hc, lowerChar_of_ne hd, List.singleton_inj] at h
      have hcode : lowerCode c.toNat = lowerCode d.toNat := by
        rw [← toNat_ofNat_lowerCode c, h, toNat_ofNat_lowerCode d]
      rcases eq_or_isLetter_of_lowerCode_eq hcode with heq | ⟨hcletter, hdletter⟩
      · rw [Char.toNat_inj.mp heq]
        exact SameClass.refl _
      · exact
          ⟨hcletter.cased.trans hdletter.cased.symm,
            hcletter.notIgnorable.trans hdletter.notIgnorable.symm⟩

end Characters

end Unicode
end Caseless
