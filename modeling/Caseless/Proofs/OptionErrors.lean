import Caseless.Proofs.PathExtent

/-!
# Errors of options

The error of a list of attributes is that of the first malformed attribute that sets options,
whatever stands around it.  The error of an attribute is in turn that of what stands behind its
well-formed options: these do not change it, and neither does their number.

An option with a comma behind it is one step of the reader, and a step leaves the same cursor as if
the reader had begun behind it.  What the reader has left is the number of steps, which does not
matter while each step takes a token (`Parser.repeatUpTo_eq_of_lt`).
-/

namespace Caseless

section Repetition

variable {α : Type}

namespace Parser

/-- Behind a step that asks for another one, the rest of the repetition decides. -/
theorem repeatUpTo_eq_map_of_again
    {p : Parser (Step α)}
    {c d : Cursor}
    {value : α}
    (h : p c = .ok (.again value, d))
    (n : Nat) :
    repeatUpTo p (n + 1) c = (repeatUpTo p n d).map fun r => (value :: r.1, r.2) := by
  simp only [repeatUpTo, bind, StateT.bind, h, Except.bind]
  cases repeatUpTo p n d with
  | error e =>
      rfl
  | ok r =>
      rfl

/-- How many steps a repetition may take does not matter if there are more than tokens. -/
theorem repeatUpTo_eq_of_lt
    {p : Parser (Step α)}
    (hp : ∀ c value d, p c = .ok (.again value, d) → d.tokens.length < c.tokens.length)
    {n m : Nat}
    {c : Cursor}
    (hn : c.tokens.length < n)
    (hm : c.tokens.length < m) :
    repeatUpTo p n c = repeatUpTo p m c := by
  induction n generalizing m c with
  | zero =>
      omega
  | succ n ih =>
      obtain ⟨m, rfl⟩ : ∃ k, m = k + 1 := ⟨m - 1, by omega⟩
      cases hstep : p c with
      | error e =>
          simp only [repeatUpTo, bind, StateT.bind, hstep, Except.bind]
      | ok result =>
          obtain ⟨step, d⟩ := result
          cases step with
          | done =>
              rw [repeatUpTo_of_done hstep, repeatUpTo_of_done hstep]
          | last value =>
              rw [repeatUpTo_of_last hstep, repeatUpTo_of_last hstep]
          | again value =>
              have hlt := hp c value d hstep
              have hrest : repeatUpTo p n d = repeatUpTo p m d := ih (by omega) (by omega)
              rw [repeatUpTo_eq_map_of_again hstep, repeatUpTo_eq_map_of_again hstep, hrest]

end Parser

end Repetition

section Settings

namespace Setting

/-- Some tokens begin with options, each of them one on its own and with a comma behind it, and
others follow. -/
inductive Precede : List Token → List Token → Prop
  | nil
      (rest : List Token) :
      Precede rest rest
  | cons
      {option content rest : List Token}
      {setting : Setting}
      (hoption : Stands option setting [])
      (spacing : Spacing)
      (comma : Span)
      (hrest : Precede content rest) :
      Precede (option ++ .punct ',' spacing comma :: content) rest

theorem length_lt_of_parseStep_again
    {c d : Cursor}
    {setting : Setting}
    (h : parseStep c = .ok (.again setting, d)) :
    d.tokens.length < c.tokens.length := by
  rcases parseStep_cases h with ⟨-, hstep, -⟩ | ⟨other, -, -, hstep⟩ |
    ⟨other, c', spacing, comma, rest, hparse, htokens, -, rfl⟩
  · cases hstep
  · cases hstep
  · have hle := (steady_parse c other c' hparse).1.tokens.length_le
    rw [htokens, List.length_cons] at hle
    exact hle

/-- Behind an option and its comma the rest of the tokens decides. -/
theorem parseAll_eq_map_of_stands
    {tokens rest : List Token}
    {setting : Setting}
    {spacing : Spacing}
    {comma : Span}
    (h : Stands tokens setting (.punct ',' spacing comma :: rest))
    (close : Span) :
    Parser.parseAll parseAll tokens close =
      (Parser.parseAll parseAll rest close).map (setting :: ·) := by
  have hlt := h.length_lt
  rw [List.length_cons] at hlt
  have hrun :
      parseAll ⟨tokens, close, none⟩ =
        (parseAll ⟨rest, close, none⟩).map fun r => (setting :: r.1, r.2) := by
    have hsteps :
        Parser.repeatUpTo parseStep tokens.length ⟨rest, close, none⟩ =
          parseAll ⟨rest, close, none⟩ :=
      Parser.repeatUpTo_eq_of_lt (fun _ _ _ => length_lt_of_parseStep_again)
        (show rest.length < tokens.length by omega) (Nat.lt_succ_self _)
    rw [← hsteps]
    exact Parser.repeatUpTo_eq_map_of_again (parseStep_again h close) tokens.length
  unfold Parser.parseAll
  rw [hrun]
  cases parseAll ⟨rest, close, none⟩ with
  | error e =>
      rfl
  | ok result =>
      obtain ⟨settings, d⟩ := result
      simp only [Except.map]
      cases d.remains (.oneOf []) with
      | none =>
          rfl
      | some e =>
          rfl

/-- Behind well-formed options the rest of the tokens decides. -/
theorem parseAll_eq_map_of_precede
    {content rest : List Token}
    (h : Precede content rest)
    (close : Span) :
    ∃ settings,
      Parser.parseAll parseAll content close =
        (Parser.parseAll parseAll rest close).map (settings ++ ·) := by
  induction h with
  | nil rest =>
      refine ⟨[], ?_⟩
      cases Parser.parseAll parseAll rest close with
      | error e =>
          rfl
      | ok settings =>
          rfl
  | @cons option content rest setting hoption spacing comma hrest ih =>
      obtain ⟨settings, hsettings⟩ := ih
      have hstands := hoption.writtenAs _ (Or.inr ⟨spacing, comma, content, rfl⟩)
      refine ⟨setting :: settings, ?_⟩
      rw [parseAll_eq_map_of_stands hstands close, hsettings]
      cases Parser.parseAll parseAll rest close with
      | error e =>
          rfl
      | ok others =>
          rfl

end Setting

end Settings

section Attributes

namespace Context

/-- A malformed attribute behind well-formed ones gives the error. -/
theorem ofAttributes_of_first_malformed
    {before after : List Attribute}
    {x : Attribute}
    (hbefore : ∀ a ∈ before, a.HasName attributeName → ∃ settings, a.Sets settings)
    (hx : x.HasName attributeName)
    {e : SyntaxError}
    (he : settingsOf x = .error e) :
    ofAttributes (before ++ x :: after) = .error e := by
  have hnamed : x.isNamed attributeName = true := (x.isNamed_eq_true_iff _).mpr hx
  rw [ofAttributes_eq_error_iff]
  refine ⟨before.filter (·.isNamed attributeName), x, after.filter (·.isNamed attributeName),
    ?_, ?_, he⟩
  · simp only [List.filter_append, List.filter_cons, hnamed, if_true]
  · intro a ha
    obtain ⟨hmem, haname⟩ := List.mem_filter.mp ha
    obtain ⟨settings, hsets⟩ := hbefore a hmem ((a.isNamed_eq_true_iff _).mp haname)
    exact ⟨settings, (settingsOf_eq_ok_iff a settings).mpr hsets⟩

/-- A single attribute gives the error of its options. -/
theorem ofAttributes_singleton_eq_error_iff
    {x : Attribute}
    (hx : x.HasName attributeName)
    (e : SyntaxError) :
    ofAttributes [x] = .error e ↔ settingsOf x = .error e := by
  have hnamed : x.isNamed attributeName = true := (x.isNamed_eq_true_iff _).mpr hx
  rw [ofAttributes_eq_error_iff]
  simp [hnamed, firstFailure_cons_iff, not_firstFailure_nil]

/-- An attribute with a group gives the error of the tokens in the group. -/
theorem ofAttributes_group_eq_error_iff
    {x : Attribute}
    (hx : x.HasName attributeName)
    (delimiter : Delimiter)
    (content : List Token)
    (opening closing : Span)
    (e : SyntaxError) :
    ofAttributes [{ x with arguments := .group delimiter content opening closing }] = .error e
      ↔
    Parser.parseAll Setting.parseAll content closing = .error e := by
  have hx' : { x with arguments := .group delimiter content opening closing }.HasName
      attributeName := hx
  exact ofAttributes_singleton_eq_error_iff hx' e

/-- An attribute that is not well-formed has an error. -/
theorem exists_settingsOf_eq_error
    {x : Attribute}
    (hx : ¬∃ settings, x.Sets settings) :
    ∃ e, settingsOf x = .error e := by
  cases hresult : settingsOf x with
  | error e =>
      exact ⟨e, rfl⟩
  | ok settings =>
      exact absurd ⟨settings, (settingsOf_eq_ok_iff x settings).mp hresult⟩ hx

/-- Errors of options are local.  A list of attributes fails with the error of its first malformed
one, as this one does alone.  In an attribute, options that are well-formed on their own, each with
a comma behind it, can be left out: it fails as the rest does in the same place, and only then. -/
theorem option_errors_are_local :
    (∀ (before after : List Attribute) (x : Attribute),
      (∀ a ∈ before, a.HasName "case_insensitive" → ∃ settings, a.Sets settings) →
      x.HasName "case_insensitive" →
      (¬∃ settings, x.Sets settings) →
        ∃ e, ofAttributes [x] = .error e ∧ ofAttributes (before ++ x :: after) = .error e) ∧
    (∀ (x : Attribute) (delimiter : Delimiter) (content rest : List Token)
        (opening closing : Span),
      x.HasName "case_insensitive" →
      Setting.Precede content rest →
        ∀ e,
          ofAttributes [{ x with arguments := .group delimiter content opening closing }] =
              .error e
            ↔
          ofAttributes [{ x with arguments := .group delimiter rest opening closing }] =
              .error e) := by
  constructor
  · intro before after x hbefore hx hmalformed
    obtain ⟨e, he⟩ := exists_settingsOf_eq_error hmalformed
    exact ⟨e, (ofAttributes_singleton_eq_error_iff hx e).mpr he,
      ofAttributes_of_first_malformed hbefore hx he⟩
  · intro x delimiter content rest opening closing hx hprecede e
    rw [ofAttributes_group_eq_error_iff hx, ofAttributes_group_eq_error_iff hx]
    obtain ⟨settings, hsettings⟩ := Setting.parseAll_eq_map_of_precede hprecede closing
    rw [hsettings]
    cases Parser.parseAll Setting.parseAll rest closing with
    | error e' =>
        rfl
    | ok others =>
        simp [Except.map]

/-- In `all_cases, crate = a, bogus` the third option is reported where it stands, as if it stood
alone, behind an attribute that is well-formed and in front of one that is not. -/
theorem option_errors_are_local_third :
    let place : Span := ⟨⟨3, 4⟩, ⟨3, 9⟩⟩
    let comma : Token := .punct ',' .alone Span.unplaced
    let search : List Token := [.ident (.plain "all_cases") Span.unplaced]
    let root : List Token :=
      [.ident (.plain "crate") Span.unplaced, .punct '=' .alone Span.unplaced,
        .ident (.plain "a") Span.unplaced]
    let bogus : List Token := [.ident (.plain "bogus") place]
    let content : List Token := search ++ comma :: (root ++ comma :: bogus)
    let x := unplacedAttribute .parenthesis content
    let good := unplacedAttribute .bracket search
    let empty : Attribute := { x with arguments := .absent }
    Setting.Precede content bogus ∧
    ofAttributes [x] = .error ⟨.unknownOption, false, place⟩ ∧
    ofAttributes ([good] ++ x :: [empty]) = .error ⟨.unknownOption, false, place⟩ := by
  intro place comma search root bogus content x good empty
  have hx : x.HasName "case_insensitive" := ⟨Span.unplaced, rfl⟩
  have hpath : PathStands [.ident (.plain "a") Span.unplaced]
      [.ident (.plain "a") Span.unplaced] [] := by
    rfl
  have hprecede : Setting.Precede content bogus :=
    Setting.Precede.cons (Setting.Stands.allCases _ []) .alone Span.unplaced
      (Setting.Precede.cons (Setting.Stands.root _ _ .alone hpath) .alone Span.unplaced
        (Setting.Precede.nil bogus))
  have hbogus :
      ofAttributes [unplacedAttribute .parenthesis bogus] =
        .error ⟨.unknownOption, false, place⟩ := by
    rfl
  have halone : ofAttributes [x] = .error ⟨.unknownOption, false, place⟩ :=
    (option_errors_are_local.2 x .parenthesis content bogus Span.unplaced Span.unplaced hx
      hprecede _).mpr hbogus
  have hmalformed : ¬∃ settings, x.Sets settings := by
    rintro ⟨settings, hsets⟩
    have hok := (settingsOf_eq_ok_iff x settings).mpr hsets
    have herror := (ofAttributes_singleton_eq_error_iff hx _).mp halone
    cases hok.symm.trans herror
  have hgood : ∀ a ∈ [good], a.HasName "case_insensitive" → ∃ settings, a.Sets settings := by
    intro a ha _
    obtain rfl := List.mem_singleton.mp ha
    exact ⟨_, _, _, _, _, rfl, Setting.Listed.last (Setting.Stands.allCases _ [])⟩
  obtain ⟨e, he, hlist⟩ := option_errors_are_local.1 [good] [empty] x hgood hx hmalformed
  rw [halone] at he
  obtain rfl : _ = e := Except.error.inj he
  exact ⟨hprecede, halone, hlist⟩

end Context

end Attributes

end Caseless
