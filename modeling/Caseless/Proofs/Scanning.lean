import Caseless.Token.Lexer
import Mathlib.Data.List.Infix
import Mathlib.Tactic.IntervalCases

/-!
# Scanning in front of a stop

Printed lexemes have a blank or the closing mark of a group behind them.  This module shows that
such a stop ends every piece of a text: what a scanner takes at the front of a text, it also takes
when a tail that begins with a stop is put behind the text.

A scanner is called firm if it answers the same with and without such a tail, be it a piece or
not, and stable if it does so for the pieces that it finds.  Scanners of names and numbers are
firm.  A scanner of quoted texts is only stable, since a quote that closes a text could stand in
the tail.
-/

namespace Caseless

namespace Scanner

open Unicode

section Stops

/-- Whether a character ends every piece of a text in front of it. -/
def isStop (c : Char) : Bool :=
  c == ' ' || c == ')' || c == ']'

/-- A text is stopped if it is empty or begins with a stop. -/
def Stopped (tail : List Char) : Prop :=
  ∀ c ∈ tail.head?, isStop c = true

theorem stopped_nil :
    Stopped [] := by
  simp [Stopped]

theorem stopped_cons_iff
    {c : Char}
    {tail : List Char} :
    Stopped (c :: tail) ↔ isStop c = true := by
  simp [Stopped]

theorem isStop_iff
    {c : Char} :
    isStop c = true ↔ c = ' ' ∨ c = ')' ∨ c = ']' := by
  simp [isStop, or_assoc]

/-- A scanner is firm if a stopped tail changes nothing in its answer. -/
def Firm (p : Scanner) : Prop :=
  ∀ cs tail, Stopped tail → p (cs ++ tail) = (p cs).map (· ++ tail)

/-- A scanner is stable if it leaves the end of its text, and also finds its piece in front of a
stopped tail. -/
structure Stable (p : Scanner) : Prop where
  suffix : ∀ cs rest, p cs = some rest → rest <:+ cs
  append : ∀ cs rest tail, p cs = some rest → Stopped tail → p (cs ++ tail) = some (rest ++ tail)

/-- A firm scanner is stable if it leaves the end of its text. -/
theorem Firm.stable
    {p : Scanner}
    (hfirm : Firm p)
    (hsuffix : ∀ cs rest, p cs = some rest → rest <:+ cs) :
    Stable p := by
  refine ⟨hsuffix, ?_⟩
  intro cs rest tail h htail
  rw [hfirm cs tail htail, h]
  rfl

/-- What a scanner took stands in front of what it left. -/
theorem taken_append
    {cs rest : List Char}
    (h : rest <:+ cs) :
    taken cs rest ++ rest = cs := by
  obtain ⟨front, rfl⟩ := h
  simp [taken]

theorem taken_append_tail
    {cs rest : List Char}
    (h : rest <:+ cs)
    (tail : List Char) :
    taken (cs ++ tail) (rest ++ tail) = taken cs rest := by
  obtain ⟨front, rfl⟩ := h
  simp [taken]

/-- A tail changes nothing in what is dropped if its first character is not dropped. -/
theorem dropWhile_append_stopped
    {p : Char → Bool}
    (hp : ∀ c, isStop c = true → p c = false)
    (cs : List Char)
    {tail : List Char}
    (htail : Stopped tail) :
    (cs ++ tail).dropWhile p = cs.dropWhile p ++ tail := by
  induction cs with
  | nil =>
      cases tail with
      | nil =>
          rfl
      | cons c tail =>
          simp [hp c (stopped_cons_iff.mp htail)]
  | cons c cs ih =>
      cases hc : p c with
      | true =>
          simp [hc, ih]
      | false =>
          simp [hc]

theorem takeWhile_append_stopped
    {p : Char → Bool}
    (hp : ∀ c, isStop c = true → p c = false)
    (cs : List Char)
    {tail : List Char}
    (htail : Stopped tail) :
    (cs ++ tail).takeWhile p = cs.takeWhile p := by
  have hboth : (cs ++ tail).takeWhile p ++ (cs ++ tail).dropWhile p = cs ++ tail :=
    List.takeWhile_append_dropWhile
  have hcs : cs.takeWhile p ++ cs.dropWhile p = cs := List.takeWhile_append_dropWhile
  rw [dropWhile_append_stopped hp cs htail, ← List.append_assoc] at hboth
  have hfront := List.append_cancel_right hboth
  nth_rewrite 3 [← hcs] at hfront
  exact List.append_cancel_right hfront

/-- A fixed text without a stop in it does not reach into the tail. -/
theorem firm_exactly
    {pattern : List Char}
    (hpattern : pattern.any isStop = false) :
    Firm (exactly pattern) := by
  intro cs tail htail
  induction pattern generalizing cs with
  | nil =>
      rfl
  | cons p ps ih =>
      obtain ⟨hp, hps⟩ : isStop p = false ∧ ps.any isStop = false := by
        rwa [List.any_cons, Bool.or_eq_false_iff] at hpattern
      cases cs with
      | nil =>
          cases tail with
          | nil =>
              rfl
          | cons c tail =>
              have hne : p ≠ c := by
                rintro rfl
                have hstop := stopped_cons_iff.mp htail
                rw [hp] at hstop
                cases hstop
              simp [exactly, hne]
      | cons c cs =>
          simp only [List.cons_append, exactly]
          split
          · exact ih hps cs
          · rfl

/-- A pattern is read by taking it off the front. -/
theorem exactly_eq_some_iff
    {pattern cs rest : List Char} :
    exactly pattern cs = some rest ↔ cs = pattern ++ rest := by
  induction pattern generalizing cs with
  | nil =>
      simp [exactly]
  | cons p ps ih =>
      cases cs with
      | nil =>
          simp [exactly]
      | cons c cs =>
          simp only [exactly, List.cons_append, List.cons.injEq]
          split
          · rename_i heq
            rw [ih, heq]
            simp
          · rename_i hne
            simp [Ne.symm hne]

/-- Whether a text begins with a fixed text without a stop in it can be told without the tail. -/
theorem startsWith_append
    {s : String}
    (hs : s.toList.any isStop = false)
    (cs : List Char)
    {tail : List Char}
    (htail : Stopped tail) :
    startsWith (cs ++ tail) s = startsWith cs s := by
  unfold startsWith text
  rw [firm_exactly hs cs tail htail, Option.isSome_map]

end Stops

section Names

theorem not_identContinue_of_isStop
    {c : Char}
    (h : isStop c = true) :
    isIdentContinue c = false := by
  rcases isStop_iff.mp h with rfl | rfl | rfl <;> rfl

theorem not_identStart_of_isStop
    {c : Char}
    (h : isStop c = true) :
    isIdentStart c = false := by
  rcases isStop_iff.mp h with rfl | rfl | rfl <;> rfl

theorem firm_name :
    Firm name := by
  intro cs tail htail
  cases cs with
  | nil =>
      cases tail with
      | nil =>
          rfl
      | cons c tail =>
          simp [name, not_identStart_of_isStop (stopped_cons_iff.mp htail)]
  | cons c cs =>
      simp only [List.cons_append, name]
      rw [dropWhile_append_stopped (fun _ => not_identContinue_of_isStop) cs htail]
      split <;> rfl

theorem name_suffix
    {cs rest : List Char}
    (h : name cs = some rest) :
    rest <:+ cs := by
  cases cs with
  | nil =>
      cases h
  | cons c cs =>
      obtain ⟨-, rfl⟩ : isIdentStart c = true ∧ cs.dropWhile isIdentContinue = rest := by
        simpa [name] using h
      exact (List.dropWhile_suffix _).trans (List.suffix_cons c cs)

/-- A name that may be missing ends in front of a stop. -/
theorem optionalName_append
    (cs : List Char)
    {tail : List Char}
    (htail : Stopped tail) :
    optionalName (cs ++ tail) = optionalName cs ++ tail := by
  unfold optionalName
  rw [firm_name cs tail htail]
  cases name cs <;> rfl

theorem optionalName_suffix
    (cs : List Char) :
    optionalName cs <:+ cs := by
  unfold optionalName
  cases h : name cs with
  | none =>
      exact List.suffix_refl cs
  | some rest =>
      exact name_suffix h

theorem stable_optionalName :
    Stable fun cs => some (optionalName cs) := by
  constructor
  · intro cs rest h
    obtain rfl : optionalName cs = rest := by simpa using h
    exact optionalName_suffix cs
  · intro cs rest tail h htail
    obtain rfl : optionalName cs = rest := by simpa using h
    rw [optionalName_append cs htail]

theorem continuesName_append
    (cs : List Char)
    {tail : List Char}
    (htail : Stopped tail) :
    continuesName (cs ++ tail) = continuesName cs := by
  cases cs with
  | nil =>
      cases tail with
      | nil =>
          rfl
      | cons c tail =>
          exact not_identContinue_of_isStop (stopped_cons_iff.mp htail)
  | cons c cs =>
      rfl

end Names

section Numbers

theorem mem_digits_of_isDigit
    {c : Char}
    (h : isDigit c = true) :
    c ∈ "0123456789".toList := by
  obtain ⟨hlow, hhigh⟩ : '0' ≤ c ∧ c ≤ '9' := by simpa [isDigit] using h
  have hlow' : 48 ≤ c.toNat := hlow
  have hhigh' : c.toNat ≤ 57 := hhigh
  rw [← Char.ofNat_toNat c]
  generalize c.toNat = n at hlow' hhigh'
  interval_cases n <;> decide

theorem not_identStart_of_isDigit
    {c : Char}
    (h : isDigit c = true) :
    isIdentStart c = false := by
  have hdigits : "0123456789".toList.any isIdentStart = false := by
    decide
  exact Bool.eq_false_of_not_eq_true (List.any_eq_false.mp hdigits c (mem_digits_of_isDigit h))

theorem isIdentContinue_of_isDigit
    {c : Char}
    (h : isDigit c = true) :
    isIdentContinue c = true := by
  have hdigits : "0123456789".toList.all isIdentContinue = true := by
    decide
  exact List.all_eq_true.mp hdigits c (mem_digits_of_isDigit h)

theorem hexValue?_of_isStop
    {c : Char}
    (h : isStop c = true) :
    Text.hexValue? c = none := by
  rcases isStop_iff.mp h with rfl | rfl | rfl <;> rfl

theorem not_isDigitOrLine_of_isStop
    {c : Char}
    (h : isStop c = true) :
    isDigitOrLine c = false := by
  rcases isStop_iff.mp h with rfl | rfl | rfl <;> rfl

/-- At a character the digits go on, or the text is refused, or the digits end in front of it. -/
theorem digitsOf_cons_cases
    (base : Nat)
    (empty : Bool)
    (c : Char) :
    (∃ empty', ∀ cs, digitsOf base empty (c :: cs) = digitsOf base empty' cs)
      ∨
    (∀ cs, digitsOf base empty (c :: cs) = none)
      ∨
    (∀ cs, digitsOf base empty (c :: cs) = some (c :: cs)) := by
  by_cases hline : c = '_'
  · cases hfirst : empty && base == 10 with
    | true =>
        exact Or.inr (Or.inl fun cs => by simp [digitsOf, hline, hfirst])
    | false =>
        exact Or.inl ⟨empty, fun cs => by simp [digitsOf, hline, hfirst]⟩
  · cases hvalue : Text.hexValue? c with
    | none =>
        cases empty with
        | true =>
            exact Or.inr (Or.inl fun cs => by simp [digitsOf, hline, hvalue])
        | false =>
            exact Or.inr (Or.inr fun cs => by simp [digitsOf, hline, hvalue])
    | some digit =>
        by_cases hbase : digit < base
        · exact Or.inl ⟨false, fun cs => by simp [digitsOf, hline, hvalue, hbase]⟩
        · by_cases hten : digit < 10
          · exact Or.inr (Or.inl fun cs => by simp [digitsOf, hline, hvalue, hbase, hten])
          · cases empty with
            | true =>
                exact Or.inr (Or.inl fun cs => by simp [digitsOf, hline, hvalue, hbase])
            | false =>
                exact Or.inr
                  (Or.inr fun cs => by simp [digitsOf, hline, hvalue, hbase, hten])

/-- Digits end in front of a stop, since no stop is a digit. -/
theorem firm_digitsOf
    (base : Nat)
    (empty : Bool) :
    Firm (digitsOf base empty) := by
  intro cs tail htail
  induction cs generalizing empty with
  | nil =>
      cases tail with
      | nil =>
          cases empty <;> rfl
      | cons c tail =>
          have hstop := stopped_cons_iff.mp htail
          have hline : c ≠ '_' := by
            rintro rfl
            cases hstop
          cases empty <;> simp [digitsOf, hline, hexValue?_of_isStop hstop]
  | cons c cs ih =>
      rw [List.cons_append]
      rcases digitsOf_cons_cases base empty c with ⟨empty', h⟩ | h | h
      · rw [h, h]
        exact ih empty'
      · rw [h, h]
        rfl
      · rw [h, h]
        rfl

theorem digitsOf_suffix
    {base : Nat}
    {empty : Bool}
    {cs rest : List Char}
    (h : digitsOf base empty cs = some rest) :
    rest <:+ cs := by
  induction cs generalizing empty with
  | nil =>
      obtain ⟨-, rfl⟩ : empty = false ∧ [] = rest := by simpa [digitsOf] using h
      exact List.suffix_refl _
  | cons c cs ih =>
      rcases digitsOf_cons_cases base empty c with ⟨empty', hstep⟩ | hstep | hstep
      · rw [hstep] at h
        exact (ih h).trans (List.suffix_cons c cs)
      · rw [hstep] at h
        cases h
      · rw [hstep] at h
        obtain rfl : c :: cs = rest := by simpa using h
        exact List.suffix_refl _

/-- Without the letter of a base behind a zero the digits are decimal. -/
theorem digits_of_unmarked
    {cs : List Char}
    (h : ∀ d rest, cs = '0' :: d :: rest → d ≠ 'x' ∧ d ≠ 'o' ∧ d ≠ 'b') :
    digits cs = digitsOf 10 true cs := by
  unfold digits
  split
  · exact absurd rfl (h _ _ rfl).1
  · exact absurd rfl (h _ _ rfl).2.1
  · exact absurd rfl (h _ _ rfl).2.2
  · rfl

/-- The first two characters tell the base. -/
theorem digits_cons_cons_cases
    (c d : Char) :
    (∃ base, ∀ cs, digits (c :: d :: cs) = digitsOf base true cs)
      ∨
    (∀ cs, digits (c :: d :: cs) = digitsOf 10 true (c :: d :: cs)) := by
  by_cases hmarked : c = '0' ∧ (d = 'x' ∨ d = 'o' ∨ d = 'b')
  · left
    obtain ⟨rfl, rfl | rfl | rfl⟩ := hmarked
    · exact ⟨16, fun cs => rfl⟩
    · exact ⟨8, fun cs => rfl⟩
    · exact ⟨2, fun cs => rfl⟩
  · right
    intro cs
    unfold digits
    split <;> simp_all

theorem firm_digits :
    Firm digits := by
  intro cs tail htail
  rcases cs with _ | ⟨c, _ | ⟨d, cs⟩⟩
  · have htail' : digits tail = digitsOf 10 true tail := by
      apply digits_of_unmarked
      rintro d rest rfl
      cases stopped_cons_iff.mp htail
    rw [List.nil_append, htail']
    exact firm_digitsOf 10 true [] tail htail
  · have hdigit : digits [c] = digitsOf 10 true [c] := by
      apply digits_of_unmarked
      simp
    have hboth : digits ([c] ++ tail) = digitsOf 10 true ([c] ++ tail) := by
      apply digits_of_unmarked
      intro d rest heq
      obtain ⟨rfl, rfl⟩ : c = '0' ∧ tail = d :: rest := by simpa using heq
      rcases isStop_iff.mp (stopped_cons_iff.mp htail) with rfl | rfl | rfl <;> decide
    rw [hboth, hdigit]
    exact firm_digitsOf 10 true [c] tail htail
  · rcases digits_cons_cons_cases c d with ⟨base, h⟩ | h
    · simp only [List.cons_append, h]
      exact firm_digitsOf base true cs tail htail
    · simp only [List.cons_append, h]
      exact firm_digitsOf 10 true (c :: d :: cs) tail htail

theorem digits_suffix
    {cs rest : List Char}
    (h : digits cs = some rest) :
    rest <:+ cs := by
  unfold digits at h
  split at h
  · exact (digitsOf_suffix h).trans (List.suffix_append ['0', 'x'] _)
  · exact (digitsOf_suffix h).trans (List.suffix_append ['0', 'o'] _)
  · exact (digitsOf_suffix h).trans (List.suffix_append ['0', 'b'] _)
  · exact digitsOf_suffix h

/-- At a character the exponent goes on, or there is none, or it ends in front of it. -/
theorem exponent_cons_cases
    (signed valued : Bool)
    (c : Char) :
    (∃ signed' valued', ∀ otherwise cs,
      exponent otherwise signed valued (c :: cs) = exponent otherwise signed' valued' cs)
      ∨
    (∀ otherwise cs, exponent otherwise signed valued (c :: cs) = otherwise)
      ∨
    (∀ otherwise cs, exponent otherwise signed valued (c :: cs) = some (c :: cs)) := by
  by_cases hsign : (c = '+' || c = '-') = true
  · cases valued with
    | true =>
        exact Or.inr (Or.inr fun otherwise cs => by simp [exponent, hsign])
    | false =>
        cases signed with
        | true =>
            exact Or.inr (Or.inl fun otherwise cs => by simp [exponent, hsign])
        | false =>
            exact Or.inl ⟨true, false, fun otherwise cs => by simp [exponent, hsign]⟩
  · by_cases hdigit : isDigit c = true
    · exact Or.inl ⟨signed, true, fun otherwise cs => by simp [exponent, hsign, hdigit]⟩
    · by_cases hline : c = '_'
      · subst hline
        exact Or.inl ⟨signed, valued, fun otherwise cs => by rw [exponent]; rfl⟩
      · cases valued with
        | true =>
            exact Or.inr
              (Or.inr fun otherwise cs => by simp [exponent, hsign, hdigit, hline])
        | false =>
            exact Or.inr
              (Or.inl fun otherwise cs => by simp [exponent, hsign, hdigit, hline])

/-- An exponent, or what it falls back to, ends in front of a stop. -/
theorem exponent_append
    (otherwise : Option (List Char))
    (signed valued : Bool)
    (cs : List Char)
    {tail : List Char}
    (htail : Stopped tail) :
    exponent (otherwise.map (· ++ tail)) signed valued (cs ++ tail) =
      (exponent otherwise signed valued cs).map (· ++ tail) := by
  induction cs generalizing signed valued with
  | nil =>
      cases tail with
      | nil =>
          cases valued <;> simp [exponent]
      | cons c tail =>
          rcases isStop_iff.mp (stopped_cons_iff.mp htail) with rfl | rfl | rfl <;>
            cases valued <;> rfl
  | cons c cs ih =>
      rw [List.cons_append]
      rcases exponent_cons_cases signed valued c with ⟨signed', valued', h⟩ | h | h
      · rw [h, h]
        exact ih signed' valued'
      · rw [h, h]
      · rw [h, h]
        rfl

theorem exponent_suffix
    {otherwise : Option (List Char)}
    {signed valued : Bool}
    {cs rest : List Char}
    (h : exponent otherwise signed valued cs = some rest) :
    rest <:+ cs ∨ otherwise = some rest := by
  induction cs generalizing signed valued with
  | nil =>
      cases valued with
      | true =>
          obtain rfl : [] = rest := by simpa [exponent] using h
          exact Or.inl (List.suffix_refl _)
      | false =>
          exact Or.inr (by simpa [exponent] using h)
  | cons c cs ih =>
      rcases exponent_cons_cases signed valued c with ⟨signed', valued', hstep⟩ | hstep | hstep
      · rw [hstep] at h
        rcases ih h with hsuffix | hother
        · exact Or.inl (hsuffix.trans (List.suffix_cons c cs))
        · exact Or.inr hother
      · rw [hstep] at h
        exact Or.inr h
      · rw [hstep] at h
        obtain rfl : c :: cs = rest := by simpa using h
        exact Or.inl (List.suffix_refl _)

theorem fraction_append
    (cs : List Char)
    {tail : List Char}
    (htail : Stopped tail) :
    fraction (cs ++ tail) = (fraction cs).map (· ++ tail) := by
  unfold fraction
  rw [dropWhile_append_stopped (fun _ => not_isDigitOrLine_of_isStop) cs htail]
  cases cs.dropWhile isDigitOrLine with
  | nil =>
      cases tail with
      | nil =>
          rfl
      | cons c tail =>
          rcases isStop_iff.mp (stopped_cons_iff.mp htail) with rfl | rfl | rfl <;> rfl
  | cons c rest =>
      simp only [List.cons_append]
      split
      · exact exponent_append (some (c :: rest)) false false rest htail
      · rfl

theorem fraction_suffix
    {cs rest : List Char}
    (h : fraction cs = some rest) :
    rest <:+ cs := by
  have hdrop := List.dropWhile_suffix (l := cs) isDigitOrLine
  unfold fraction at h
  split at h
  · rename_i c after heq
    rw [heq] at hdrop
    split at h
    · rcases exponent_suffix h with hsuffix | hother
      · exact hsuffix.trans ((List.suffix_cons c after).trans hdrop)
      · obtain rfl : c :: after = rest := by simpa using hother
        exact hdrop
    · obtain rfl : c :: after = rest := by simpa using h
      exact hdrop
  · obtain rfl : [] = rest := by simpa using h
    exact List.nil_suffix

theorem pointEndsNumber_append
    (cs : List Char)
    {tail : List Char}
    (htail : Stopped tail) :
    pointEndsNumber (cs ++ tail) = pointEndsNumber cs := by
  cases cs with
  | nil =>
      cases tail with
      | nil =>
          rfl
      | cons c tail =>
          rcases isStop_iff.mp (stopped_cons_iff.mp htail) with rfl | rfl | rfl <;> rfl
  | cons c cs =>
      rfl

/-- The digits of a fraction end in front of a stop. -/
theorem firm_floatDigits :
    Firm floatDigits := by
  intro cs tail htail
  cases cs with
  | nil =>
      cases tail with
      | nil =>
          rfl
      | cons c tail =>
          rcases isStop_iff.mp (stopped_cons_iff.mp htail) with rfl | rfl | rfl <;> rfl
  | cons c cs =>
      simp only [List.cons_append, floatDigits]
      rw [dropWhile_append_stopped (fun _ => not_isDigitOrLine_of_isStop) cs htail]
      split
      · cases cs.dropWhile isDigitOrLine with
        | nil =>
            cases tail with
            | nil =>
                rfl
            | cons d tail =>
                rcases isStop_iff.mp (stopped_cons_iff.mp htail) with rfl | rfl | rfl <;> rfl
        | cons d rest =>
            simp only [List.cons_append, pointEndsNumber_append rest htail]
            split_ifs
            · exact fraction_append rest htail
            · rfl
            · exact exponent_append none false false rest htail
            · rfl
      · rfl

theorem floatDigits_suffix
    {cs rest : List Char}
    (h : floatDigits cs = some rest) :
    rest <:+ cs := by
  cases cs with
  | nil =>
      cases h
  | cons c cs =>
      have hdrop : cs.dropWhile isDigitOrLine <:+ c :: cs :=
        (List.dropWhile_suffix _).trans (List.suffix_cons c cs)
      simp only [floatDigits] at h
      split at h
      · split at h
        · rename_i d after heq
          rw [heq] at hdrop
          have hafter := (List.suffix_cons d after).trans hdrop
          split_ifs at h
          · exact (fraction_suffix h).trans hafter
          · rcases exponent_suffix h with hsuffix | hother
            · exact hsuffix.trans hafter
            · cases hother
        · cases h
      · cases h

theorem firm_suffixed
    {p : Scanner}
    (hp : Firm p) :
    Firm (suffixed p) := by
  intro cs tail htail
  unfold suffixed
  rw [hp cs tail htail]
  cases p cs with
  | none =>
      rfl
  | some rest =>
      simp only [Option.map_some, optionalName_append rest htail, continuesName_append _ htail]
      split <;> rfl

theorem suffixed_suffix
    {p : Scanner}
    (hp : ∀ cs rest, p cs = some rest → rest <:+ cs)
    {cs rest : List Char}
    (h : suffixed p cs = some rest) :
    rest <:+ cs := by
  unfold suffixed at h
  split at h
  · rename_i after hafter
    split at h
    · cases h
    · obtain rfl : optionalName after = rest := by simpa using h
      exact (optionalName_suffix after).trans (hp cs after hafter)
  · cases h

theorem firm_float :
    Firm float :=
  firm_suffixed firm_floatDigits

theorem firm_integer :
    Firm integer :=
  firm_suffixed firm_digits

theorem stable_float :
    Stable float :=
  firm_float.stable fun _ _ => suffixed_suffix fun _ _ => floatDigits_suffix

theorem stable_integer :
    Stable integer :=
  firm_integer.stable fun _ _ => suffixed_suffix fun _ _ => digits_suffix

end Numbers

section Quoted

open Text

/-- A quoted text is read without a look at what follows its closing quote. -/
theorem readFrom_front
    {kind : QuotedKind}
    {state : Reading}
    {cs text rest : List Char}
    (h : readFrom kind state cs = some (text, rest)) :
    ∃ front, cs = front ++ rest ∧ ∀ tail, readFrom kind state (front ++ tail) = some (text, tail) := by
  induction cs generalizing state text with
  | nil =>
      cases h
  | cons c cs ih =>
      rw [readFrom] at h
      cases hmove : state.move kind c with
      | refuse =>
          simp [hmove] at h
      | close =>
          obtain ⟨rfl, rfl⟩ : [] = text ∧ cs = rest := by simpa [hmove] using h
          exact ⟨[c], rfl, fun tail => by simp [readFrom, hmove]⟩
      | next state' given =>
          simp only [hmove, Option.map_eq_some_iff] at h
          obtain ⟨⟨others, rest'⟩, hothers, heq⟩ := h
          obtain ⟨rfl, rfl⟩ : given ++ others = text ∧ rest' = rest := by simpa using heq
          obtain ⟨front, rfl, hfront⟩ := ih hothers
          exact ⟨c :: front, rfl, fun tail => by simp [readFrom, hmove, hfront]⟩

theorem readEscapeFrom_front
    {kind : QuotedKind}
    {state : Reading}
    {cs rest : List Char}
    {value : Char}
    (h : readEscapeFrom kind state cs = some (value, rest)) :
    ∃ front,
      cs = front ++ rest ∧ ∀ tail, readEscapeFrom kind state (front ++ tail) = some (value, tail) := by
  induction cs generalizing state with
  | nil =>
      cases h
  | cons c cs ih =>
      rw [readEscapeFrom] at h
      split at h
      · rename_i value' hmove
        obtain ⟨rfl, rfl⟩ : value' = value ∧ cs = rest := by simpa using h
        exact ⟨[c], rfl, fun tail => by simp [readEscapeFrom, hmove]⟩
      · cases h
      · cases h
      · rename_i state' given hplain hjoining hreturned hmove
        obtain ⟨front, rfl, hfront⟩ := ih h
        refine ⟨c :: front, rfl, ?_⟩
        intro tail
        rw [List.cons_append, readEscapeFrom, hmove]
        rw [← hfront tail]
        split <;> simp_all
      · cases h

theorem readCharacter_front
    {kind : QuotedKind}
    {cs rest : List Char}
    {value : Char}
    (h : readCharacter kind cs = some (value, rest)) :
    ∃ front,
      cs = front ++ rest ∧ ∀ tail, readCharacter kind (front ++ tail) = some (value, tail) := by
  cases cs with
  | nil =>
      cases h
  | cons c cs =>
      by_cases hbackslash : c = '\\'
      · subst hbackslash
        obtain ⟨front, rfl, hfront⟩ := readEscapeFrom_front (by simpa [readCharacter] using h)
        exact ⟨'\\' :: front, rfl, fun tail => by simpa [readCharacter] using hfront tail⟩
      · obtain ⟨hadmits, rfl, rfl⟩ : kind.admits c = true ∧ c = value ∧ cs = rest := by
          simpa [readCharacter, hbackslash] using h
        exact ⟨[c], rfl, fun tail => by simp [readCharacter, hbackslash, hadmits]⟩

/-- A scanner is stable if it goes on as a stable one behind the mark that it finds. -/
theorem stable_of_mark
    {p : Scanner}
    (hp :
      ∀ cs rest,
        p cs = some rest →
          ∃ mark body q,
            Stable q ∧ cs = mark ++ body ∧ ∀ other, p (mark ++ other) = q other) :
    Stable p := by
  constructor
  · intro cs rest h
    obtain ⟨mark, body, q, hq, rfl, hmark⟩ := hp cs rest h
    rw [hmark] at h
    exact (hq.suffix body rest h).trans (List.suffix_append mark body)
  · intro cs rest tail h htail
    obtain ⟨mark, body, q, hq, rfl, hmark⟩ := hp cs rest h
    rw [hmark] at h
    rw [List.append_assoc, hmark]
    exact hq.append body rest tail h htail

/-- A quoted text ends with its quote, whatever stands behind it. -/
theorem stable_quoted
    (kind : QuotedKind) :
    Stable (quoted kind) := by
  apply stable_of_mark
  intro cs rest h
  obtain ⟨⟨text, after⟩, hread, -⟩ := Option.map_eq_some_iff.mp h
  obtain ⟨front, rfl, hfront⟩ := readFrom_front hread
  refine ⟨front, after, _, stable_optionalName, rfl, ?_⟩
  intro other
  simp [quoted, readQuoted, hfront]

theorem stable_character
    (kind : QuotedKind) :
    Stable (character kind) := by
  apply stable_of_mark
  intro cs rest h
  unfold character at h
  split at h
  · rename_i value after hread
    obtain ⟨front, rfl, hfront⟩ := readCharacter_front hread
    refine ⟨front ++ ['\x27'], after, _, stable_optionalName, by simp, ?_⟩
    intro other
    rw [List.append_assoc, character, hfront]
    rfl
  · cases h

theorem firm_hashes
    (count : Nat) :
    Firm (hashes count) := by
  intro cs tail htail
  induction count generalizing cs with
  | zero =>
      rfl
  | succ n ih =>
      cases cs with
      | nil =>
          cases tail with
          | nil =>
              rfl
          | cons c tail =>
              rcases isStop_iff.mp (stopped_cons_iff.mp htail) with rfl | rfl | rfl <;> rfl
      | cons c cs =>
          by_cases hc : c = '#'
          · subst hc
            exact ih cs
          · simp [hashes, hc]

theorem hashes_suffix
    {count : Nat}
    {cs rest : List Char}
    (h : hashes count cs = some rest) :
    rest <:+ cs := by
  induction count generalizing cs with
  | zero =>
      obtain rfl : cs = rest := by simpa [hashes] using h
      exact List.suffix_refl _
  | succ n ih =>
      cases cs with
      | nil =>
          cases h
      | cons c cs =>
          by_cases hc : c = '#'
          · subst hc
            exact (ih h).trans (List.suffix_cons '#' cs)
          · simp [hashes, hc] at h

theorem rawBody_cons
    {admits : Char → Bool}
    {count : Nat}
    {c : Char}
    (hc : c ≠ '\r')
    (cs : List Char) :
    rawBody admits count (c :: cs) =
      if c = '"' then
        match hashes count cs with
        | some rest => some rest
        | none => rawBody admits count cs
      else if admits c then rawBody admits count cs
      else none := by
  rw [rawBody]
  · exact if_neg hc
  · intro _ heq
    exact absurd heq hc

theorem stable_rawBody
    (admits : Char → Bool)
    (count : Nat) :
    Stable (rawBody admits count) := by
  constructor
  · intro cs rest h
    fun_induction rawBody admits count cs with
    | case1 =>
        cases h
    | case2 cs ih =>
        exact (ih h).trans (List.suffix_append ['\r', '\n'] cs)
    | case3 =>
        cases h
    | case4 cs rest' hhashes =>
        obtain rfl : rest' = rest := by simpa using h
        exact (hashes_suffix hhashes).trans (List.suffix_cons '"' cs)
    | case5 cs hhashes _ _ ih =>
        exact (ih h).trans (List.suffix_cons '"' cs)
    | case6 c cs _ _ _ _ ih =>
        exact (ih h).trans (List.suffix_cons c cs)
    | case7 =>
        cases h
  · intro cs rest tail h htail
    fun_induction rawBody admits count cs with
    | case1 =>
        cases h
    | case2 cs ih =>
        exact ih h
    | case3 =>
        cases h
    | case4 cs rest' hhashes =>
        obtain rfl : rest' = rest := by simpa using h
        rw [List.cons_append, rawBody_cons (by decide), firm_hashes count cs tail htail, hhashes]
        rfl
    | case5 cs hhashes _ _ ih =>
        rw [List.cons_append, rawBody_cons (by decide), firm_hashes count cs tail htail, hhashes]
        exact ih h
    | case6 c cs _ hreturn hquote hadmits ih =>
        rw [List.cons_append, rawBody_cons hreturn, if_neg hquote, if_pos hadmits]
        exact ih h
    | case7 =>
        cases h

/-- A raw text ends with its quote and as many number signs as stand in front of it. -/
theorem stable_raw
    (admits : Char → Bool) :
    Stable (raw admits) := by
  have hhash : ∀ c, isStop c = true → (c == '#') = false := by
    intro c hc
    rcases isStop_iff.mp hc with rfl | rfl | rfl <;> rfl
  constructor
  · intro cs rest h
    have hdrop := List.dropWhile_suffix (l := cs) (· == '#')
    unfold raw at h
    split at h
    · rename_i body heq
      rw [heq] at hdrop
      split at h
      · obtain ⟨after, hafter, rfl⟩ := Option.map_eq_some_iff.mp h
        have hbody := (stable_rawBody admits _).suffix _ _ hafter
        exact (optionalName_suffix after).trans
          (hbody.trans ((List.suffix_cons '"' body).trans hdrop))
      · cases h
    · cases h
  · intro cs rest tail h htail
    unfold raw at h ⊢
    rw [dropWhile_append_stopped hhash cs htail, takeWhile_append_stopped hhash cs htail]
    split at h
    · rename_i body heq
      rw [heq]
      split at h
      · rename_i hcount
        obtain ⟨after, hafter, rfl⟩ := Option.map_eq_some_iff.mp h
        have hbody := (stable_rawBody admits _).append _ _ tail hafter htail
        simp [hcount, hbody, optionalName_append after htail]
      · cases h
    · cases h

end Quoted

section Literals

theorem stable_string :
    Stable string := by
  apply stable_of_mark
  intro cs rest h
  unfold string at h
  split at h
  · exact ⟨['"'], _, _, stable_quoted _, rfl, fun _ => rfl⟩
  · exact ⟨['r'], _, _, stable_raw _, rfl, fun _ => rfl⟩
  · cases h

theorem stable_byteString :
    Stable byteString := by
  apply stable_of_mark
  intro cs rest h
  unfold byteString at h
  split at h
  · exact ⟨['b', '"'], _, _, stable_quoted _, rfl, fun _ => rfl⟩
  · exact ⟨['b', 'r'], _, _, stable_raw _, rfl, fun _ => rfl⟩
  · cases h

theorem stable_nulEndedString :
    Stable nulEndedString := by
  apply stable_of_mark
  intro cs rest h
  unfold nulEndedString at h
  split at h
  · exact ⟨['c', '"'], _, _, stable_quoted _, rfl, fun _ => rfl⟩
  · exact ⟨['c', 'r'], _, _, stable_raw _, rfl, fun _ => rfl⟩
  · cases h

theorem stable_single :
    Stable single := by
  apply stable_of_mark
  intro cs rest h
  unfold single at h
  split at h
  · exact ⟨['b', '\x27'], _, _, stable_character _, rfl, fun _ => rfl⟩
  · exact ⟨['\x27'], _, _, stable_character _, rfl, fun _ => rfl⟩
  · cases h

theorem startsWith_eq_true_iff
    {cs : List Char}
    {s : String} :
    startsWith cs s = true ↔ ∃ rest, cs = s.toList ++ rest := by
  unfold startsWith text
  rw [Option.isSome_iff_exists]
  simp only [exactly_eq_some_iff]

/-- A number begins with a digit. -/
theorem isDigit_of_floatDigits
    {cs rest : List Char}
    (h : floatDigits cs = some rest) :
    ∃ c front, cs = c :: front ∧ isDigit c = true := by
  cases cs with
  | nil =>
      cases h
  | cons c cs =>
      refine ⟨c, cs, rfl, ?_⟩
      by_contra hdigit
      simp [floatDigits, hdigit] at h

theorem isDigit_of_hexValue?
    {c : Char}
    {d : Nat}
    (h : Text.hexValue? c = some d)
    (hd : d < 10) :
    isDigit c = true := by
  unfold Text.hexValue? at h
  split_ifs at h with hdigit hlower hupper
  · exact hdigit
  · obtain rfl : c.toNat - 'a'.toNat + 10 = d := by simpa using h
    omega
  · obtain rfl : c.toNat - 'A'.toNat + 10 = d := by simpa using h
    omega

theorem isDigit_of_digits
    {cs rest : List Char}
    (h : digits cs = some rest) :
    ∃ c front, cs = c :: front ∧ isDigit c = true := by
  unfold digits at h
  split at h
  · exact ⟨'0', _, rfl, rfl⟩
  · exact ⟨'0', _, rfl, rfl⟩
  · exact ⟨'0', _, rfl, rfl⟩
  · cases cs with
    | nil =>
        cases h
    | cons c cs =>
        refine ⟨c, cs, rfl, ?_⟩
        by_contra hdigit
        by_cases hline : c = '_'
        · simp [digitsOf, hline] at h
        · cases hvalue : Text.hexValue? c with
          | none =>
              simp [digitsOf, hline, hvalue] at h
          | some d =>
              have hten : ¬ d < 10 := fun hlt => hdigit (isDigit_of_hexValue? hvalue hlt)
              simp [digitsOf, hline, hvalue, hten] at h

theorem exists_of_suffixed
    {p : Scanner}
    {cs rest : List Char}
    (h : suffixed p cs = some rest) :
    ∃ after, p cs = some after := by
  cases hp : p cs with
  | none =>
      simp [suffixed, hp] at h
  | some after =>
      exact ⟨after, rfl⟩

theorem isDigit_of_float
    {cs rest : List Char}
    (h : float cs = some rest) :
    ∃ c front, cs = c :: front ∧ isDigit c = true := by
  obtain ⟨after, hafter⟩ := exists_of_suffixed h
  exact isDigit_of_floatDigits hafter

theorem isDigit_of_integer
    {cs rest : List Char}
    (h : integer cs = some rest) :
    ∃ c front, cs = c :: front ∧ isDigit c = true := by
  obtain ⟨after, hafter⟩ := exists_of_suffixed h
  exact isDigit_of_digits hafter

theorem head_of_string
    {cs rest : List Char}
    (h : string cs = some rest) :
    ∃ front, cs = '"' :: front ∨ cs = 'r' :: front := by
  unfold string at h
  split at h
  · exact ⟨_, Or.inl rfl⟩
  · exact ⟨_, Or.inr rfl⟩
  · cases h

theorem head_of_byteString
    {cs rest : List Char}
    (h : byteString cs = some rest) :
    ∃ front, cs = 'b' :: '"' :: front ∨ cs = 'b' :: 'r' :: front := by
  unfold byteString at h
  split at h
  · exact ⟨_, Or.inl rfl⟩
  · exact ⟨_, Or.inr rfl⟩
  · cases h

theorem head_of_nulEndedString
    {cs rest : List Char}
    (h : nulEndedString cs = some rest) :
    ∃ front, cs = 'c' :: '"' :: front ∨ cs = 'c' :: 'r' :: front := by
  unfold nulEndedString at h
  split at h
  · exact ⟨_, Or.inl rfl⟩
  · exact ⟨_, Or.inr rfl⟩
  · cases h

/-- A character begins with a quote, a byte with its mark. -/
theorem head_of_single
    {cs rest : List Char}
    (h : single cs = some rest) :
    ∃ front, cs = 'b' :: '\x27' :: front ∨ cs = '\x27' :: front := by
  unfold single at h
  split at h
  · exact ⟨_, Or.inl rfl⟩
  · exact ⟨_, Or.inr rfl⟩
  · cases h

/-- In front of a digit only a number can be a literal. -/
theorem literal_of_isDigit
    {c : Char}
    (hc : isDigit c = true)
    (cs : List Char) :
    literal (c :: cs) = (float (c :: cs) <|> integer (c :: cs)) := by
  have hstring : string (c :: cs) = none := by
    apply Option.eq_none_iff_forall_ne_some.mpr
    intro rest h
    obtain ⟨front, heq | heq⟩ := head_of_string h <;> cases heq <;> cases hc
  have hbytes : byteString (c :: cs) = none := by
    apply Option.eq_none_iff_forall_ne_some.mpr
    intro rest h
    obtain ⟨front, heq | heq⟩ := head_of_byteString h <;> cases heq <;> cases hc
  have hnul : nulEndedString (c :: cs) = none := by
    apply Option.eq_none_iff_forall_ne_some.mpr
    intro rest h
    obtain ⟨front, heq | heq⟩ := head_of_nulEndedString h <;> cases heq <;> cases hc
  have hsingle : single (c :: cs) = none := by
    apply Option.eq_none_iff_forall_ne_some.mpr
    intro rest h
    obtain ⟨front, heq | heq⟩ := head_of_single h <;> cases heq <;> cases hc
  simp [literal, hstring, hbytes, hnul, hsingle]

/-- A literal is a string of one of three kinds, a single character, or a number, and no text
begins with two of these but for the two kinds of numbers. -/
theorem literal_eq_some_iff
    {cs rest : List Char} :
    literal cs = some rest
      ↔
    string cs = some rest ∨ byteString cs = some rest ∨ nulEndedString cs = some rest ∨
      single cs = some rest ∨ float cs = some rest ∨
      (float cs = none ∧ integer cs = some rest) := by
  constructor
  · intro h
    simp only [literal, Option.orElse_eq_orElse, Option.orElse_eq_or, Option.or_eq_some_iff] at h
    tauto
  · rintro (h | h | h | h | h | ⟨hfloat, h⟩)
    · simp [literal, h]
    · obtain ⟨front, rfl | rfl⟩ := head_of_byteString h <;> simp [literal, string, h]
    · obtain ⟨front, rfl | rfl⟩ := head_of_nulEndedString h <;>
        simp [literal, string, byteString, h]
    · obtain ⟨front, rfl | rfl⟩ := head_of_single h <;>
        simp [literal, string, byteString, nulEndedString, h]
    · obtain ⟨c, front, rfl, hc⟩ := isDigit_of_float h
      simp [literal_of_isDigit hc, h]
    · obtain ⟨c, front, rfl, hc⟩ := isDigit_of_integer h
      simp [literal_of_isDigit hc, hfloat, h]

theorem stable_literal :
    Stable literal := by
  constructor
  · intro cs rest h
    rcases literal_eq_some_iff.mp h with h | h | h | h | h | ⟨-, h⟩
    · exact stable_string.suffix cs rest h
    · exact stable_byteString.suffix cs rest h
    · exact stable_nulEndedString.suffix cs rest h
    · exact stable_single.suffix cs rest h
    · exact stable_float.suffix cs rest h
    · exact stable_integer.suffix cs rest h
  · intro cs rest tail h htail
    rw [literal_eq_some_iff]
    rcases literal_eq_some_iff.mp h with h | h | h | h | h | ⟨hfloat, h⟩
    · exact Or.inl (stable_string.append cs rest tail h htail)
    · exact Or.inr (Or.inl (stable_byteString.append cs rest tail h htail))
    · exact Or.inr (Or.inr (Or.inl (stable_nulEndedString.append cs rest tail h htail)))
    · exact Or.inr (Or.inr (Or.inr (Or.inl (stable_single.append cs rest tail h htail))))
    · exact Or.inr (Or.inr (Or.inr (Or.inr (Or.inl (stable_float.append cs rest tail h htail)))))
    · have hfloat' : float (cs ++ tail) = none := by
        rw [firm_float cs tail htail, hfloat]
        rfl
      have hinteger := stable_integer.append cs rest tail h htail
      exact Or.inr (Or.inr (Or.inr (Or.inr (Or.inr ⟨hfloat', hinteger⟩))))

theorem raw_eq_some_head
    {admits : Char → Bool}
    {cs rest : List Char}
    (h : raw admits cs = some rest) :
    ∃ front, cs = '"' :: front ∨ cs = '#' :: '"' :: front ∨ cs = '#' :: '#' :: front := by
  rcases cs with _ | ⟨c, cs⟩
  · cases h
  · by_cases hhash : c = '#'
    · subst hhash
      rcases cs with _ | ⟨d, cs⟩
      · cases h
      · by_cases hhash : d = '#'
        · exact ⟨cs, Or.inr (Or.inr (by rw [hhash]))⟩
        · by_cases hquote : d = '"'
          · exact ⟨cs, Or.inr (Or.inl (by rw [hquote]))⟩
          · simp [raw, hhash, hquote] at h
    · by_cases hquote : c = '"'
      · exact ⟨cs, Or.inl (by rw [hquote])⟩
      · simp [raw, hhash, hquote] at h

/-- Every literal but a quoted text, a character and a number begins with a mark. -/
theorem literal_eq_none
    {c : Char}
    {cs : List Char}
    (hquote : c ≠ '"')
    (happ : c ≠ '\x27')
    (hdigit : isDigit c = false)
    (hmarks : Lexer.literalMarks.any (startsWith (c :: cs)) = false) :
    literal (c :: cs) = none := by
  have hmark :
      ∀ mark ∈ Lexer.literalMarks, ∀ rest, c :: cs ≠ mark.toList ++ rest := by
    intro mark hmem rest heq
    have hstarts : startsWith (c :: cs) mark = true := startsWith_eq_true_iff.mpr ⟨rest, heq⟩
    have hany := List.any_eq_true.mpr ⟨mark, hmem, hstarts⟩
    rw [hmarks] at hany
    cases hany
  apply Option.eq_none_iff_forall_ne_some.mpr
  intro rest h
  rcases literal_eq_some_iff.mp h with h | h | h | h | h | ⟨-, h⟩
  · obtain ⟨front, heq | heq⟩ := head_of_string h
    · exact hquote (List.cons.inj heq).1
    · rw [heq] at h
      obtain ⟨front', rfl | rfl | rfl⟩ := raw_eq_some_head h
      · exact hmark "r\"" (by decide) front' heq
      · exact hmark "r#\"" (by decide) front' heq
      · exact hmark "r##" (by decide) front' heq
  · obtain ⟨front, heq | heq⟩ := head_of_byteString h
    · exact hmark "b\"" (by decide) front heq
    · rw [heq] at h
      obtain ⟨front', rfl | rfl | rfl⟩ := raw_eq_some_head h
      · exact hmark "br\"" (by decide) front' heq
      · exact hmark "br#" (by decide) _ heq
      · exact hmark "br#" (by decide) _ heq
  · obtain ⟨front, heq | heq⟩ := head_of_nulEndedString h
    · exact hmark "c\"" (by decide) front heq
    · rw [heq] at h
      obtain ⟨front', rfl | rfl | rfl⟩ := raw_eq_some_head h
      · exact hmark "cr\"" (by decide) front' heq
      · exact hmark "cr#" (by decide) _ heq
      · exact hmark "cr#" (by decide) _ heq
  · obtain ⟨front, heq | heq⟩ := head_of_single h
    · exact hmark "b\x27" (by decide) front heq
    · exact happ (List.cons.inj heq).1
  · obtain ⟨d, front, heq, hd⟩ := isDigit_of_float h
    rw [(List.cons.inj heq).1, hd] at hdigit
    cases hdigit
  · obtain ⟨d, front, heq, hd⟩ := isDigit_of_integer h
    rw [(List.cons.inj heq).1, hd] at hdigit
    cases hdigit

/-- No name continues behind a number with its suffix. -/
theorem continuesName_of_suffixed
    {p : Scanner}
    {cs rest : List Char}
    (h : suffixed p cs = some rest) :
    continuesName rest = false := by
  unfold suffixed at h
  split at h
  · split_ifs at h with hcontinues
    obtain rfl := Option.some.inj h
    simpa using hcontinues
  · cases h

/-- A literal takes at least one character: a number that took none would end in front of a digit,
and so run into a name. -/
theorem length_lt_of_literal
    {cs rest : List Char}
    (h : literal cs = some rest) :
    rest.length < cs.length := by
  have hnumber :
      ∀ (p : Scanner) (c : Char) (front : List Char),
        isDigit c = true → suffixed p (c :: front) = some rest →
          rest <:+ c :: front → rest.length < (c :: front).length := by
    intro p c front hc hp hsuffix
    refine Nat.lt_of_le_of_ne hsuffix.length_le ?_
    intro hlength
    obtain rfl := hsuffix.eq_of_length hlength
    have hcontinues := continuesName_of_suffixed hp
    rw [continuesName, isIdentContinue_of_isDigit hc] at hcontinues
    cases hcontinues
  rcases literal_eq_some_iff.mp h with h | h | h | h | h | ⟨-, h⟩
  · obtain ⟨front, rfl | rfl⟩ := head_of_string h
    · exact Nat.lt_succ_of_le ((stable_quoted _).suffix _ _ h).length_le
    · exact Nat.lt_succ_of_le ((stable_raw _).suffix _ _ h).length_le
  · obtain ⟨front, rfl | rfl⟩ := head_of_byteString h
    · have hle := ((stable_quoted _).suffix _ _ h).length_le
      simp only [List.length_cons]
      omega
    · have hle := ((stable_raw _).suffix _ _ h).length_le
      simp only [List.length_cons]
      omega
  · obtain ⟨front, rfl | rfl⟩ := head_of_nulEndedString h
    · have hle := ((stable_quoted _).suffix _ _ h).length_le
      simp only [List.length_cons]
      omega
    · have hle := ((stable_raw _).suffix _ _ h).length_le
      simp only [List.length_cons]
      omega
  · obtain ⟨front, rfl | rfl⟩ := head_of_single h
    · have hle := ((stable_character _).suffix _ _ h).length_le
      simp only [List.length_cons]
      omega
    · exact Nat.lt_succ_of_le ((stable_character _).suffix _ _ h).length_le
  · obtain ⟨c, front, rfl, hc⟩ := isDigit_of_float h
    exact hnumber _ c front hc h (stable_float.suffix _ _ h)
  · obtain ⟨c, front, rfl, hc⟩ := isDigit_of_integer h
    exact hnumber _ c front hc h (stable_integer.suffix _ _ h)

end Literals

end Scanner

end Caseless
