import Caseless.Grammar.Language
import Mathlib.Data.List.Forall2
import Mathlib.Data.Option.Basic

/-!
# Reading does not depend on places

Tokens are alike if they differ in their places only.  Parsers are alike if on alike tokens they
give related values, leave alike tokens, and complain in the same words; what an error says does
not include the place that it points at.

Every way of combining parsers keeps this relation.  All rules are followed alike, by induction on
the rule, and all phrases are read alike, by induction on the depth of nested phrases.
-/

namespace Caseless

section Tokens

/-- Two tokens differ in their places only. -/
inductive Token.Alike : Token → Token → Prop
  | ident
      (i : Ident)
      (span span' : Span) :
      Alike (.ident i span) (.ident i span')
  | punct
      (c : Char)
      (spacing : Spacing)
      (span span' : Span) :
      Alike (.punct c spacing span) (.punct c spacing span')
  | literal
      (text : String)
      (span span' : Span) :
      Alike (.literal text span) (.literal text span')
  | group
      (d : Delimiter)
      {content content' : List Token}
      (opening closing opening' closing' : Span)
      (hcontent : List.Forall₂ Alike content content') :
      Alike (.group d content opening closing) (.group d content' opening' closing')

namespace Token

/-- Two lists of tokens differ in the places of the tokens only. -/
abbrev AlikeAll : List Token → List Token → Prop := List.Forall₂ Alike

mutual

theorem Alike.refl
    (token : Token) :
    Alike token token := by
  match token with
  | .ident i span => exact Alike.ident i span span
  | .punct c spacing span => exact Alike.punct c spacing span span
  | .literal text span => exact Alike.literal text span span
  | .group d content opening closing =>
      exact Alike.group d opening closing opening closing (AlikeAll.refl content)

theorem AlikeAll.refl
    (tokens : List Token) :
    AlikeAll tokens tokens := by
  match tokens with
  | [] => exact List.Forall₂.nil
  | token :: rest => exact List.Forall₂.cons (Alike.refl token) (AlikeAll.refl rest)

end

mutual

theorem Alike.lexemes_eq
    {token other : Token}
    (h : Alike token other) :
    token.lexemes = other.lexemes := by
  match token, other, h with
  | .ident _ _, _, .ident _ _ _ => rfl
  | .punct _ _ _, _, .punct _ _ _ _ => rfl
  | .literal _ _, _, .literal _ _ _ => rfl
  | .group _ content _ _, .group _ content' _ _, .group _ _ _ _ _ hcontent =>
      rw [lexemes, lexemes, AlikeAll.lexemesAll_eq hcontent]

/-- Alike tokens have the same lexemes. -/
theorem AlikeAll.lexemesAll_eq
    {tokens others : List Token}
    (h : AlikeAll tokens others) :
    lexemesAll tokens = lexemesAll others := by
  match tokens, others, h with
  | [], _, .nil => rfl
  | _ :: _, _ :: _, .cons hfirst hrest =>
      rw [lexemesAll, lexemesAll, Alike.lexemes_eq hfirst, AlikeAll.lexemesAll_eq hrest]

end

theorem AlikeAll.singleton
    {token other : Token}
    (h : Alike token other) :
    AlikeAll [token] [other] :=
  List.Forall₂.cons h List.Forall₂.nil

/-- Two results of taking something from the front of some tokens: the values are related, and what
is left is alike. -/
structure TakenAlike {α β : Type} (R : α → β → Prop) (taken : α × List Token)
    (other : β × List Token) : Prop where
  value : R taken.1 other.1
  rest : AlikeAll taken.2 other.2

end Token

end Tokens

section Lists

variable {α β : Type} {R : α → β → Prop}

theorem forall₂_isEmpty_eq
    {l : List α}
    {l' : List β}
    (h : List.Forall₂ R l l') :
    l.isEmpty = l'.isEmpty := by
  cases h with
  | nil =>
      rfl
  | cons hfirst hrest =>
      rfl

/-- The last elements of related lists are related. -/
theorem rel_getLast?
    {l : List α}
    {l' : List β}
    (h : List.Forall₂ R l l') :
    Option.Rel R l.getLast? l'.getLast? := by
  induction h with
  | nil =>
      exact Option.Rel.none
  | cons hfirst hrest ih =>
      rw [List.getLast?_cons, List.getLast?_cons]
      generalize List.getLast? _ = last at ih ⊢
      generalize List.getLast? _ = last' at ih ⊢
      cases ih with
      | none =>
          exact Option.Rel.some hfirst
      | some hlast =>
          exact Option.Rel.some hlast

theorem forall₂_filter
    {p : α → Bool}
    {q : β → Bool}
    (hpq : ∀ a b, R a b → p a = q b)
    {l : List α}
    {l' : List β}
    (h : List.Forall₂ R l l') :
    List.Forall₂ R (l.filter p) (l'.filter q) := by
  induction h with
  | nil =>
      exact List.Forall₂.nil
  | @cons a b l l' hfirst hrest ih =>
      rw [List.filter_cons, List.filter_cons, hpq a b hfirst]
      split
      · exact List.Forall₂.cons hfirst ih
      · exact ih

theorem rel_ite
    {b : Bool}
    {x x' : Option α}
    {y y' : Option β}
    (hyes : Option.Rel R x y)
    (hno : Option.Rel R x' y') :
    Option.Rel R (if b = true then x else x') (if b = true then y else y') := by
  cases b with
  | true =>
      exact hyes
  | false =>
      exact hno

end Lists

section Parsers

variable {α β γ δ : Type} {R : α → β → Prop} {S : γ → δ → Prop}

/-- What an error says, without the place that it points at. -/
def SyntaxError.said (e : SyntaxError) : Complaint × Bool := (e.complaint, e.atEnd)

/-- What an error says tells its text. -/
theorem SyntaxError.message_eq_of_said
    {e f : SyntaxError}
    (h : e.said = f.said) :
    e.message = f.message := by
  obtain ⟨hcomplaint, hend⟩ := Prod.mk.inj h
  rw [message, message, hcomplaint, hend]

/-- Two outcomes agree: both give values, which are related, or both fail and say the same. -/
inductive Agreeing (R : α → β → Prop) : Except SyntaxError α → Except SyntaxError β → Prop
  | ok
      {a : α}
      {b : β}
      (h : R a b) :
      Agreeing R (.ok a) (.ok b)
  | error
      {e f : SyntaxError}
      (h : e.said = f.said) :
      Agreeing R (.error e) (.error f)

theorem Agreeing.cases
    {x : Except SyntaxError α}
    {y : Except SyntaxError β}
    (h : Agreeing R x y) :
    (∃ a b, x = .ok a ∧ y = .ok b ∧ R a b) ∨
      ∃ e f, x = .error e ∧ y = .error f ∧ e.said = f.said := by
  cases h with
  | ok h =>
      exact Or.inl ⟨_, _, rfl, rfl, h⟩
  | error h =>
      exact Or.inr ⟨_, _, rfl, rfl, h⟩

theorem Agreeing.bind
    {x : Except SyntaxError α}
    {y : Except SyntaxError β}
    {f : α → Except SyntaxError γ}
    {g : β → Except SyntaxError δ}
    (hxy : Agreeing R x y)
    (hfg : ∀ a b, R a b → Agreeing S (f a) (g b)) :
    Agreeing S (x >>= f) (y >>= g) := by
  cases hxy with
  | ok h =>
      exact hfg _ _ h
  | error h =>
      exact Agreeing.error h

/-- Two cursors stand in front of alike tokens, and the same was left over before. -/
structure Cursor.Alike (c d : Cursor) : Prop where
  tokens : Token.AlikeAll c.tokens d.tokens
  leftOver : c.leftOver.map SyntaxError.said = d.leftOver.map SyntaxError.said

theorem Cursor.Alike.said_complain
    {c d : Cursor}
    (h : c.Alike d)
    (complaint : Complaint) :
    (c.complain complaint).said = (d.complain complaint).said := by
  simp [complain, SyntaxError.said, forall₂_isEmpty_eq h.tokens]

theorem Cursor.Alike.remains
    {c d : Cursor}
    (h : c.Alike d)
    (complaint : Complaint) :
    (c.remains complaint).map SyntaxError.said = (d.remains complaint).map SyntaxError.said := by
  obtain ⟨tokens, close, leftOver⟩ := c
  obtain ⟨others, close', leftOver'⟩ := d
  have hleft : leftOver.map SyntaxError.said = leftOver'.map SyntaxError.said := h.leftOver
  cases leftOver with
  | some e =>
      obtain ⟨e', rfl, hsaid⟩ := Option.map_eq_some_iff.mp hleft.symm
      simp [Cursor.remains, hsaid]
  | none =>
      obtain rfl : leftOver' = none := by simpa using hleft.symm
      cases h.tokens with
      | nil =>
          rfl
      | cons hfirst hrest =>
          rfl

/-- Two results of reading: the values are related, and the cursors behind are alike. -/
structure ReadAlike (R : α → β → Prop) (read : α × Cursor) (other : β × Cursor) : Prop where
  value : R read.1 other.1
  cursor : read.2.Alike other.2

namespace Parser

/-- Two parsers give agreeing outcomes in front of alike tokens. -/
def Alike (R : α → β → Prop) (p : Parser α) (q : Parser β) : Prop :=
  ∀ c d, c.Alike d → Agreeing (ReadAlike R) (p c) (q d)

theorem alike_pure
    {a : α}
    {b : β}
    (h : R a b) :
    Alike R (pure a) (pure b) := by
  intro c d hcd
  exact Agreeing.ok ⟨h, hcd⟩

theorem alike_bind
    {p : Parser α}
    {q : Parser β}
    {f : α → Parser γ}
    {g : β → Parser δ}
    (hpq : Alike R p q)
    (hfg : ∀ a b, R a b → Alike S (f a) (g b)) :
    Alike S (p >>= f) (q >>= g) := by
  intro c d hcd
  change Agreeing _ (p c >>= fun r => f r.1 r.2) (q d >>= fun r => g r.1 r.2)
  apply (hpq c d hcd).bind
  intro read other hread
  exact hfg _ _ hread.value _ _ hread.cursor

theorem alike_fail
    (complaint : Complaint) :
    Alike R (fail complaint) (fail complaint) := by
  intro c d hcd
  exact Agreeing.error (hcd.said_complain complaint)

theorem alike_throw
    {e f : SyntaxError}
    (h : e.said = f.said) :
    Alike R (throw e) (throw f) := by
  intro c d _
  exact Agreeing.error h

theorem alike_get :
    Alike Cursor.Alike get get := by
  intro c d hcd
  exact Agreeing.ok ⟨hcd, hcd⟩

theorem alike_test
    {p : List Token → Bool}
    (hp : ∀ tokens others, Token.AlikeAll tokens others → p tokens = p others) :
    Alike Eq (test p) (test p) := by
  intro c d hcd
  exact Agreeing.ok ⟨hp _ _ hcd.tokens, hcd⟩

theorem alike_ite
    {b : Bool}
    {p p' : Parser α}
    {q q' : Parser β}
    (hyes : Alike R p q)
    (hno : Alike R p' q') :
    Alike R (if b = true then p else p') (if b = true then q else q') := by
  cases b with
  | true =>
      exact hyes
  | false =>
      exact hno

theorem alike_takeOr
    {take : List Token → Option (α × List Token)}
    {take' : List Token → Option (β × List Token)}
    {complaint : List Token → Complaint}
    (htake : ∀ tokens others, Token.AlikeAll tokens others →
      Option.Rel (Token.TakenAlike R) (take tokens) (take' others))
    (hcomplaint : ∀ tokens others, Token.AlikeAll tokens others →
      complaint tokens = complaint others) :
    Alike R (fun c => takeOr take (complaint c.tokens) c)
      (fun c => takeOr take' (complaint c.tokens) c) := by
  intro c d hcd
  change Agreeing _ (takeOr take (complaint c.tokens) c) (takeOr take' (complaint d.tokens) d)
  rw [hcomplaint _ _ hcd.tokens]
  have htaken := htake _ _ hcd.tokens
  unfold takeOr
  generalize take c.tokens = found at htaken ⊢
  generalize take' d.tokens = found' at htaken ⊢
  cases htaken with
  | none =>
      exact Agreeing.error (hcd.said_complain _)
  | some htaken =>
      exact Agreeing.ok ⟨htaken.value, htaken.rest, hcd.leftOver⟩

theorem alike_within
    {p : Parser α}
    {q : Parser β}
    (hpq : Alike R p q)
    (delimiter : Delimiter)
    (complaint : Complaint) :
    Alike (fun r s => R r.1 s.1) (within delimiter complaint p) (within delimiter complaint q) := by
  rintro ⟨tokens, close, leftOver⟩ ⟨others, close', leftOver'⟩ hcd
  have hfail := hcd.said_complain complaint
  unfold within
  cases hcd.tokens with
  | nil =>
      exact Agreeing.error hfail
  | @cons token other rest rest' hfirst hrest =>
      cases hfirst with
      | ident i span span' =>
          exact Agreeing.error hfail
      | punct c spacing span span' =>
          exact Agreeing.error hfail
      | literal text span span' =>
          exact Agreeing.error hfail
      | @group d content content' opening closing opening' closing' hcontent =>
          by_cases hdelimiter : d = delimiter
          · simp only [hdelimiter, if_true]
            have hinner :=
              hpq ⟨content, closing, leftOver⟩ ⟨content', closing', leftOver'⟩
                ⟨hcontent, hcd.leftOver⟩
            obtain ⟨a, b, hp, hq, hread⟩ | ⟨e, f, hp, hq, hsaid⟩ := hinner.cases
            · rw [hp, hq]
              exact Agreeing.ok ⟨hread.value, hrest, hread.cursor.remains _⟩
            · rw [hp, hq]
              exact Agreeing.error hsaid
          · simp only [hdelimiter, if_false]
            exact Agreeing.error hfail

/-- Two steps of a repetition say the same about the next one. -/
inductive Step.Alike (R : α → β → Prop) : Step α → Step β → Prop
  | again
      {a : α}
      {b : β}
      (h : R a b) :
      Alike R (.again a) (.again b)
  | last
      {a : α}
      {b : β}
      (h : R a b) :
      Alike R (.last a) (.last b)
  | done :
      Alike R .done .done

theorem alike_repeatUpTo
    {p : Parser (Step α)}
    {q : Parser (Step β)}
    (hpq : Alike (Step.Alike R) p q)
    (n : Nat) :
    Alike (List.Forall₂ R) (repeatUpTo p n) (repeatUpTo q n) := by
  induction n with
  | zero =>
      exact alike_fail _
  | succ n ih =>
      apply alike_bind hpq
      intro step step' hstep
      cases hstep with
      | again hvalue =>
          apply alike_bind ih
          intro values values' hvalues
          exact alike_pure (List.Forall₂.cons hvalue hvalues)
      | last hvalue =>
          exact alike_pure (List.Forall₂.cons hvalue List.Forall₂.nil)
      | done =>
          exact alike_pure List.Forall₂.nil

theorem alike_repeatSteps
    {p : Parser (Step α)}
    {q : Parser (Step β)}
    (hpq : Alike (Step.Alike R) p q) :
    Alike (List.Forall₂ R) (repeatSteps p) (repeatSteps q) := by
  intro c d hcd
  unfold repeatSteps
  rw [hcd.tokens.length_eq]
  exact alike_repeatUpTo hpq _ c d hcd

/-- Reading all of some tokens gives agreeing outcomes. -/
theorem Alike.parseAll
    {p : Parser α}
    {q : Parser β}
    (hpq : Alike R p q)
    {tokens others : List Token}
    (htokens : Token.AlikeAll tokens others)
    (close close' : Span) :
    Agreeing R (Parser.parseAll p tokens close) (Parser.parseAll q others close') := by
  unfold Parser.parseAll
  have hread := hpq ⟨tokens, close, none⟩ ⟨others, close', none⟩ ⟨htokens, rfl⟩
  obtain ⟨read, other, hp, hq, hread⟩ | ⟨e, f, hp, hq, hsaid⟩ := hread.cases
  · have hremains := hread.cursor.remains (.oneOf [])
    rw [hp, hq]
    cases hleft : read.2.remains (.oneOf []) with
    | none =>
        rw [hleft] at hremains
        simp only [hleft, show other.2.remains (.oneOf []) = none by simpa using hremains.symm]
        exact Agreeing.ok hread.value
    | some e =>
        rw [hleft] at hremains
        obtain ⟨f, hf, hsaid⟩ := Option.map_eq_some_iff.mp hremains.symm
        simp only [hleft, hf]
        exact Agreeing.error hsaid.symm
  · rw [hp, hq]
    exact Agreeing.error hsaid

end Parser

end Parsers

section Terminals

namespace Token

/-- Symbols are taken alike. -/
theorem takeSymbol_alike
    (cs : List Char)
    {tokens others : List Token}
    (h : AlikeAll tokens others) :
    Option.Rel (TakenAlike AlikeAll) (takeSymbol cs tokens) (takeSymbol cs others) := by
  induction cs generalizing tokens others with
  | nil =>
      simp [takeSymbol]
  | cons c cs ih =>
      cases h with
      | nil =>
          cases cs <;> exact Option.Rel.none
      | @cons token other rest rest' hfirst hrest =>
          cases hfirst with
          | punct d spacing span span' =>
              cases cs with
              | nil =>
                  simp only [takeSymbol]
                  split
                  · exact Option.Rel.some
                      ⟨AlikeAll.singleton (Alike.punct c .alone span span'), hrest⟩
                  · exact Option.Rel.none
              | cons c' cs =>
                  cases spacing with
                  | alone =>
                      exact Option.Rel.none
                  | joint =>
                      simp only [takeSymbol]
                      split
                      · have hothers := ih hrest
                        generalize takeSymbol (c' :: cs) rest = taken at hothers ⊢
                        generalize takeSymbol (c' :: cs) rest' = taken' at hothers ⊢
                        cases hothers with
                        | none =>
                            exact Option.Rel.none
                        | some htaken =>
                            exact Option.Rel.some
                              ⟨List.Forall₂.cons (Alike.punct c .joint span span') htaken.value,
                                htaken.rest⟩
                      · exact Option.Rel.none
          | ident i span span' =>
              cases cs <;> exact Option.Rel.none
          | literal text span span' =>
              cases cs <;> exact Option.Rel.none
          | group d opening closing opening' closing' hcontent =>
              cases cs <;> exact Option.Rel.none

theorem isSome_takeSymbol_eq
    (cs : List Char)
    {tokens others : List Token}
    (h : AlikeAll tokens others) :
    (takeSymbol cs tokens).isSome = (takeSymbol cs others).isSome := by
  have htaken := takeSymbol_alike cs h
  generalize takeSymbol cs tokens = taken at htaken ⊢
  generalize takeSymbol cs others = taken' at htaken ⊢
  cases htaken with
  | none =>
      rfl
  | some htaken =>
      rfl

/-- The tokens behind the next one are alike, also where the mark of a lifetime is passed together
with its name. -/
theorem afterNext_alike
    {tokens others : List Token}
    (h : AlikeAll tokens others) :
    AlikeAll (afterNext tokens) (afterNext others) := by
  cases h with
  | nil =>
      exact List.Forall₂.nil
  | @cons token other rest rest' hfirst hrest =>
      cases hfirst with
      | punct c spacing span span' =>
          by_cases hmark : c = '\x27'
          · subst hmark
            cases spacing with
            | alone =>
                simpa [afterNext] using hrest
            | joint =>
                cases hrest with
                | nil =>
                    exact List.Forall₂.nil
                | cons hsecond hothers =>
                    cases hsecond with
                    | ident i place place' =>
                        exact hothers
                    | punct d spacing place place' =>
                        exact List.Forall₂.cons (Alike.punct _ _ _ _) hothers
                    | literal text place place' =>
                        exact List.Forall₂.cons (Alike.literal _ _ _) hothers
                    | group d opening closing opening' closing' hcontent =>
                        exact List.Forall₂.cons (Alike.group _ _ _ _ _ hcontent) hothers
          · simpa [afterNext, hmark] using hrest
      | ident i span span' =>
          exact hrest
      | literal text span span' =>
          exact hrest
      | group d opening closing opening' closing' hcontent =>
          exact hrest

theorem skipNames_alike
    (n : Nat)
    {tokens others : List Token}
    (h : AlikeAll tokens others) :
    Option.Rel AlikeAll (skipNames n tokens) (skipNames n others) := by
  induction n generalizing tokens others with
  | zero =>
      exact Option.Rel.none
  | succ n ih =>
      cases h with
      | nil =>
          exact Option.Rel.none
      | @cons token other rest rest' hfirst hrest =>
          cases hfirst with
          | ident i span span' =>
              simp only [skipNames]
              split
              · exact Option.Rel.none
              · have hcolons := takeSymbol_alike [':', ':'] hrest
                generalize takeSymbol [':', ':'] rest = taken at hcolons ⊢
                generalize takeSymbol [':', ':'] rest' = taken' at hcolons ⊢
                cases hcolons with
                | none =>
                    exact Option.Rel.some hrest
                | some htaken =>
                    exact ih htaken.rest
          | punct c spacing span span' =>
              exact Option.Rel.none
          | literal text span span' =>
              exact Option.Rel.none
          | group d opening closing opening' closing' hcontent =>
              exact Option.Rel.none

theorem skipPath_alike
    {tokens others : List Token}
    (h : AlikeAll tokens others) :
    Option.Rel AlikeAll (skipPath tokens) (skipPath others) := by
  unfold skipPath
  rw [h.length_eq]
  have hcolons := takeSymbol_alike [':', ':'] h
  generalize takeSymbol [':', ':'] tokens = taken at hcolons ⊢
  generalize takeSymbol [':', ':'] others = taken' at hcolons ⊢
  cases hcolons with
  | none =>
      exact skipNames_alike _ h
  | some htaken =>
      exact skipNames_alike _ htaken.rest

end Token

/-- A test of the tokens ahead does not depend on places. -/
theorem Lookahead.holds_eq
    (test : Lookahead)
    (tokens others : List Token)
    (h : Token.AlikeAll tokens others) :
    test.holds tokens = test.holds others := by
  induction test generalizing tokens others with
  | finished =>
      exact forall₂_isEmpty_eq h
  | symbol text =>
      exact Token.isSome_takeSymbol_eq text.toList h
  | content d test ih =>
      cases h with
      | nil =>
          rfl
      | cons hfirst hrest =>
          cases hfirst with
          | group d' opening closing opening' closing' hcontent =>
              simp only [holds, ih _ _ hcontent]
          | ident i span span' =>
              rfl
          | punct c spacing span span' =>
              rfl
          | literal text span span' =>
              rfl
  | behind test ih =>
      exact ih _ _ (Token.afterNext_alike h)
  | behindPath test ih =>
      have hskipped := Token.skipPath_alike h
      unfold holds
      generalize Token.skipPath tokens = skipped at hskipped ⊢
      generalize Token.skipPath others = skipped' at hskipped ⊢
      cases hskipped with
      | none =>
          rfl
      | some hrest =>
          exact ih _ _ hrest
  | no test ih =>
      simp only [holds, ih _ _ h]
  | both first second ihFirst ihSecond =>
      simp only [holds, ihFirst _ _ h, ihSecond _ _ h]
  | either first second ihFirst ihSecond =>
      simp only [holds, ihFirst _ _ h, ihSecond _ _ h]
  | keyword word =>
      cases h with
      | nil =>
          rfl
      | cons hfirst hrest =>
          cases hfirst <;> rfl
  | ident =>
      cases h with
      | nil =>
          rfl
      | cons hfirst hrest =>
          cases hfirst <;> rfl
  | word =>
      cases h with
      | nil =>
          rfl
      | cons hfirst hrest =>
          cases hfirst <;> rfl
  | lifetime =>
      cases h with
      | nil =>
          rfl
      | cons hfirst hrest =>
          cases hfirst with
          | punct c spacing span span' =>
              by_cases hmark : c = '\x27'
              · subst hmark
                cases spacing with
                | alone =>
                    simp [holds]
                | joint =>
                    cases hrest with
                    | nil =>
                        rfl
                    | cons hsecond hothers =>
                        cases hsecond <;> rfl
              · simp [holds, hmark]
          | ident i span span' =>
              rfl
          | literal text span span' =>
              rfl
          | group d opening closing opening' closing' hcontent =>
              rfl
  | literal =>
      cases h with
      | nil =>
          rfl
      | cons hfirst hrest =>
          cases hfirst with
          | punct c spacing span span' =>
              by_cases hminus : c = '-'
              · subst hminus
                cases hrest with
                | nil =>
                    rfl
                | cons hsecond hothers =>
                    cases hsecond <;> rfl
              · simp [holds, hminus]
          | ident i span span' =>
              rfl
          | literal text span span' =>
              rfl
          | group d opening closing opening' closing' hcontent =>
              rfl
  | literalText p =>
      cases h with
      | nil =>
          rfl
      | cons hfirst hrest =>
          cases hfirst <;> rfl
  | group d =>
      cases h with
      | nil =>
          rfl
      | cons hfirst hrest =>
          cases hfirst <;> rfl

/-- A choice by a test of the tokens ahead is made alike. -/
theorem Lookahead.alike_choose
    {α β : Type}
    {R : α → β → Prop}
    {p p' : Parser α}
    {q q' : Parser β}
    (test : Lookahead)
    (hyes : Parser.Alike R p q)
    (hno : Parser.Alike R p' q') :
    Parser.Alike R (Parser.test test.holds >>= fun b => if b = true then p else p')
      (Parser.test test.holds >>= fun b => if b = true then q else q') := by
  apply Parser.alike_bind (Parser.alike_test test.holds_eq)
  rintro b _ rfl
  exact Parser.alike_ite hyes hno

namespace Terminal

theorem respell_alike
    (cs : List Char)
    {tokens others : List Token}
    (h : Token.AlikeAll tokens others) :
    Token.AlikeAll (respell cs tokens) (respell cs others) := by
  induction cs generalizing tokens others with
  | nil =>
      simpa [respell] using h
  | cons c cs ih =>
      cases h with
      | nil =>
          exact List.Forall₂.nil
      | cons hfirst hrest =>
          cases hfirst with
          | punct d spacing span span' =>
              exact List.Forall₂.cons (Token.Alike.punct c spacing span span') (ih hrest)
          | ident i span span' =>
              exact List.Forall₂.cons (Token.Alike.ident i span span') hrest
          | literal text span span' =>
              exact List.Forall₂.cons (Token.Alike.literal text span span') hrest
          | group d opening closing opening' closing' hcontent =>
              exact List.Forall₂.cons (Token.Alike.group d _ _ _ _ hcontent) hrest

theorem indexPairTokens_alike
    (text : List Char)
    (span span' : Span) :
    Option.Rel Token.AlikeAll (indexPairTokens text span) (indexPairTokens text span') := by
  have hindex (value : Nat) (place place' : Span) :
      Token.Alike (indexToken value place) (indexToken value place') :=
    Token.Alike.literal _ _ _
  unfold indexPairTokens
  simp only
  split
  · split
    · exact Option.Rel.some
        (List.Forall₂.cons (hindex _ _ _)
          (Token.AlikeAll.singleton (Token.Alike.punct _ _ _ _)))
    · cases indexValue? ((text.dropWhile (· != '.')).drop 1) with
      | none =>
          exact Option.Rel.none
      | some other =>
          exact Option.Rel.some
            (List.Forall₂.cons (hindex _ _ _)
              (List.Forall₂.cons (Token.Alike.punct _ _ _ _)
                (Token.AlikeAll.singleton (hindex _ _ _))))
  · exact Option.Rel.none

/-- One token is taken as it stands. -/
theorem some_singleton_alike
    {token other : Token}
    {rest rest' : List Token}
    (hfirst : token.Alike other)
    (hrest : Token.AlikeAll rest rest') :
    Option.Rel (Token.TakenAlike Token.AlikeAll) (some ([token], rest)) (some ([other], rest')) :=
  Option.Rel.some ⟨Token.AlikeAll.singleton hfirst, hrest⟩

theorem some_pair_alike
    {first second first' second' : Token}
    {rest rest' : List Token}
    (hfirst : first.Alike first')
    (hsecond : second.Alike second')
    (hrest : Token.AlikeAll rest rest') :
    Option.Rel (Token.TakenAlike Token.AlikeAll) (some ([first, second], rest))
      (some ([first', second'], rest')) :=
  Option.Rel.some
    ⟨List.Forall₂.cons hfirst (Token.AlikeAll.singleton hsecond), hrest⟩

/-- Terminals are taken alike. -/
theorem take_alike
    (terminal : Terminal)
    (tokens others : List Token)
    (h : Token.AlikeAll tokens others) :
    Option.Rel (Token.TakenAlike Token.AlikeAll) (terminal.take tokens)
      (terminal.take others) := by
  cases terminal with
  | symbol text =>
      exact Token.takeSymbol_alike text.toList h
  | respelt written printed =>
      have htaken := Token.takeSymbol_alike written.toList h
      simp only [take]
      generalize Token.takeSymbol written.toList tokens = taken at htaken ⊢
      generalize Token.takeSymbol written.toList others = taken' at htaken ⊢
      cases htaken with
      | none =>
          exact Option.Rel.none
      | some htaken =>
          exact Option.Rel.some ⟨respell_alike printed.toList htaken.value, htaken.rest⟩
  | keyword w =>
      cases h with
      | nil =>
          exact Option.Rel.none
      | cons hfirst hrest =>
          cases hfirst with
          | ident i span span' =>
              exact rel_ite (some_singleton_alike (Token.Alike.ident i span span') hrest)
                Option.Rel.none
          | _ =>
              exact Option.Rel.none
  | ident =>
      cases h with
      | nil =>
          exact Option.Rel.none
      | cons hfirst hrest =>
          cases hfirst with
          | ident i span span' =>
              exact rel_ite Option.Rel.none
                (some_singleton_alike (Token.Alike.ident i span span') hrest)
          | _ =>
              exact Option.Rel.none
  | word =>
      cases h with
      | nil =>
          exact Option.Rel.none
      | cons hfirst hrest =>
          cases hfirst with
          | ident i span span' =>
              exact some_singleton_alike (Token.Alike.ident i span span') hrest
          | _ =>
              exact Option.Rel.none
  | lifetime =>
      cases h with
      | nil =>
          exact Option.Rel.none
      | cons hfirst hrest =>
          cases hfirst with
          | punct c spacing mark mark' =>
              by_cases hmark : c = '\x27' ∧ spacing = .joint
              · obtain ⟨rfl, rfl⟩ := hmark
                cases hrest with
                | nil =>
                    exact Option.Rel.none
                | cons hsecond hothers =>
                    cases hsecond with
                    | ident i span span' =>
                        exact some_pair_alike (Token.Alike.punct _ _ mark mark')
                          (Token.Alike.ident i span span') hothers
                    | _ =>
                        exact Option.Rel.none
              · have hnone (place : Span) (l : List Token) :
                    lifetime.take (.punct c spacing place :: l) = none := by
                  cases spacing with
                  | alone =>
                      simp [take]
                  | joint =>
                      simp [take, show c ≠ '\x27' by simpa using hmark]
                rw [hnone, hnone]
                exact Option.Rel.none
          | _ =>
              exact Option.Rel.none
  | literal =>
      cases h with
      | nil =>
          exact Option.Rel.none
      | cons hfirst hrest =>
          cases hfirst with
          | ident i span span' =>
              exact rel_ite (some_singleton_alike (Token.Alike.ident i span span') hrest)
                Option.Rel.none
          | literal text span span' =>
              exact some_singleton_alike (Token.Alike.literal text span span') hrest
          | punct c spacing mark mark' =>
              by_cases hminus : c = '-'
              · subst hminus
                cases hrest with
                | nil =>
                    exact Option.Rel.none
                | cons hsecond hothers =>
                    cases hsecond with
                    | literal text span span' =>
                        exact rel_ite
                          (some_pair_alike (Token.Alike.punct _ _ mark mark')
                            (Token.Alike.literal text span span') hothers)
                          Option.Rel.none
                    | _ =>
                        exact Option.Rel.none
              · have hnone (place : Span) (l : List Token) :
                    literal.take (.punct c spacing place :: l) = none := by
                  simp [take, hminus]
                rw [hnone, hnone]
                exact Option.Rel.none
          | group d opening closing opening' closing' hcontent =>
              exact Option.Rel.none
  | string =>
      cases h with
      | nil =>
          exact Option.Rel.none
      | cons hfirst hrest =>
          cases hfirst with
          | literal text span span' =>
              exact rel_ite (some_singleton_alike (Token.Alike.literal text span span') hrest)
                Option.Rel.none
          | _ =>
              exact Option.Rel.none
  | delimited =>
      cases h with
      | nil =>
          exact Option.Rel.none
      | cons hfirst hrest =>
          cases hfirst with
          | group d opening closing opening' closing' hcontent =>
              exact some_singleton_alike (Token.Alike.group d _ _ _ _ hcontent) hrest
          | _ =>
              exact Option.Rel.none
  | index =>
      cases h with
      | nil =>
          exact Option.Rel.none
      | cons hfirst hrest =>
          cases hfirst with
          | literal text span span' =>
              simp only [take]
              cases indexValue? text.toList with
              | none =>
                  exact Option.Rel.none
              | some value =>
                  exact some_singleton_alike (Token.Alike.literal _ span span') hrest
          | _ =>
              exact Option.Rel.none
  | indexPair =>
      cases h with
      | nil =>
          exact Option.Rel.none
      | cons hfirst hrest =>
          cases hfirst with
          | literal text span span' =>
              have hpair := indexPairTokens_alike text.toList span span'
              simp only [take]
              generalize indexPairTokens text.toList span = pair at hpair ⊢
              generalize indexPairTokens text.toList span' = pair' at hpair ⊢
              cases hpair with
              | none =>
                  exact Option.Rel.none
              | some hpair =>
                  exact Option.Rel.some ⟨hpair, hrest⟩
          | _ =>
              exact Option.Rel.none

theorem complaint_eq
    (terminal : Terminal)
    (tokens others : List Token)
    (h : Token.AlikeAll tokens others) :
    terminal.complaint tokens = terminal.complaint others := by
  cases terminal with
  | ident =>
      cases h with
      | nil =>
          rfl
      | cons hfirst hrest =>
          cases hfirst <;> rfl
  | _ =>
      rfl

theorem alike_read
    (terminal : Terminal) :
    Parser.Alike Token.AlikeAll terminal.read terminal.read :=
  Parser.alike_takeOr terminal.take_alike terminal.complaint_eq

end Terminal

end Terminals

section Rules

/-- Two pieces have the same shape, and their tokens differ in their places only. -/
structure Piece.Alike (piece other : Piece) : Prop where
  shape : piece.shape = other.shape
  tokens : Token.AlikeAll piece.tokens other.tokens

theorem Piece.Alike.endsInBraces_eq
    {piece other : Piece}
    (h : piece.Alike other) :
    piece.endsInBraces = other.endsInBraces := by
  have hlast := rel_getLast? h.tokens
  unfold endsInBraces
  generalize piece.tokens.getLast? = last at hlast ⊢
  generalize other.tokens.getLast? = last' at hlast ⊢
  cases hlast with
  | none =>
      rfl
  | some htoken =>
      cases htoken with
      | group d opening closing opening' closing' hcontent =>
          cases d <;> rfl
      | _ =>
          rfl

/-- Two entries are both lifetimes or both something else, and their tokens and commas differ in
their places only. -/
structure Entry.Alike (entry other : Entry) : Prop where
  isLifetime : entry.isLifetime = other.isLifetime
  tokens : Token.AlikeAll entry.tokens other.tokens
  comma : Token.AlikeAll entry.comma other.comma

namespace Entry

theorem printAll_alike
    {entries others : List Entry}
    (h : List.Forall₂ Alike entries others) :
    Token.AlikeAll (printAll entries) (printAll others) := by
  apply List.rel_flatMap h
  intro entry other hentry
  exact List.rel_append hentry.tokens hentry.comma

theorem lacksComma_eq
    {entries entries' others others' : List Entry}
    (hentries : List.Forall₂ Alike entries entries')
    (hothers : List.Forall₂ Alike others others') :
    lacksComma entries others = lacksComma entries' others' := by
  have hlast := rel_getLast? hentries
  unfold lacksComma
  generalize entries.getLast? = last at hlast ⊢
  generalize entries'.getLast? = last' at hlast ⊢
  cases hlast with
  | none =>
      rfl
  | some hentry =>
      cases hothers with
      | nil =>
          rfl
      | cons hfirst hrest =>
          exact forall₂_isEmpty_eq hentry.comma

/-- Putting the lifetimes first does not depend on places. -/
theorem lifetimesFirst_alike
    {entries others : List Entry}
    (h : List.Forall₂ Alike entries others) :
    Token.AlikeAll (lifetimesFirst entries) (lifetimesFirst others) := by
  have hlifetimes :=
    forall₂_filter (p := (·.isLifetime)) (q := (·.isLifetime))
      (fun _ _ hentry => hentry.isLifetime) h
  have hothers :=
    forall₂_filter (p := (!·.isLifetime)) (q := (!·.isLifetime))
      (fun _ _ hentry => by rw [hentry.isLifetime]) h
  simp only [lifetimesFirst, lacksComma_eq hlifetimes hothers]
  apply List.rel_append (List.rel_append (printAll_alike hlifetimes) _) (printAll_alike hothers)
  split
  · exact Token.AlikeAll.refl [insertedComma]
  · exact List.Forall₂.nil

end Entry

namespace Rule

theorem alike_entryStep
    {entry other : Parser Piece}
    (h : Parser.Alike Piece.Alike entry other) :
    Parser.Alike (Parser.Step.Alike Entry.Alike) (entryStep entry) (entryStep other) := by
  apply (Lookahead.symbol ">").alike_choose (Parser.alike_pure Parser.Step.Alike.done)
  apply Parser.alike_bind h
  intro piece piece' hpiece
  have hlifetime : piece.shape.isLifetime = piece'.shape.isLifetime := by rw [hpiece.shape]
  apply (Lookahead.symbol ">").alike_choose
  · exact Parser.alike_pure
      (Parser.Step.Alike.last ⟨hlifetime, hpiece.tokens, List.Forall₂.nil⟩)
  · apply Parser.alike_bind (Terminal.alike_read (.symbol ","))
    intro comma comma' hcomma
    exact Parser.alike_pure (Parser.Step.Alike.again ⟨hlifetime, hpiece.tokens, hcomma⟩)

/-- All rules are followed alike if phrases are read alike. -/
theorem alike_follow
    {call call' : Phrase → Parser Piece}
    (hcall : ∀ phrase, Parser.Alike Piece.Alike (call phrase) (call' phrase))
    (rule : Rule) :
    Parser.Alike Piece.Alike (rule.follow call) (rule.follow call') := by
  induction rule with
  | accept shape =>
      exact Parser.alike_pure ⟨rfl, List.Forall₂.nil⟩
  | refuse complaint =>
      exact Parser.alike_fail complaint
  | read terminal =>
      apply Parser.alike_bind terminal.alike_read
      intro tokens others htokens
      exact Parser.alike_pure ⟨rfl, htokens⟩
  | phrase phrase =>
      exact hcall phrase
  | andThen first second ihFirst ihSecond =>
      apply Parser.alike_bind ihFirst
      intro a a' ha
      rw [ha.shape]
      apply Parser.alike_bind (ihSecond a'.shape)
      intro b b' hb
      exact Parser.alike_pure ⟨hb.shape, List.rel_append ha.tokens hb.tokens⟩
  | choose test yes no ihYes ihNo =>
      exact test.alike_choose ihYes ihNo
  | inside delimiter content ih =>
      apply Parser.alike_bind (Parser.alike_within ih delimiter _)
      rintro ⟨piece, opening, closing⟩ ⟨piece', opening', closing'⟩ hpiece
      exact Parser.alike_pure
        ⟨hpiece.shape,
          Token.AlikeAll.singleton (Token.Alike.group delimiter _ _ _ _ hpiece.tokens)⟩
  | listing entry ih =>
      apply Parser.alike_bind (Parser.alike_repeatSteps (alike_entryStep ih))
      intro entries others hentries
      exact Parser.alike_pure ⟨rfl, Entry.lifetimesFirst_alike hentries⟩
  | asWritten when rule ih =>
      apply Parser.alike_bind Parser.alike_get
      intro before before' hbefore
      apply Parser.alike_bind ih
      intro piece piece' hpiece
      apply Parser.alike_bind Parser.alike_get
      intro after after' hafter
      rw [hpiece.shape, hbefore.tokens.length_eq, hafter.tokens.length_eq]
      exact Parser.alike_ite
        (Parser.alike_pure ⟨rfl, List.forall₂_take _ hbefore.tokens⟩)
        (Parser.alike_pure hpiece)
  | silently rule ih =>
      apply Parser.alike_bind ih
      intro piece piece' hpiece
      exact Parser.alike_pure ⟨hpiece.shape, List.Forall₂.nil⟩
  | before first second drop ihFirst ihSecond =>
      apply Parser.alike_bind ihFirst
      intro a a' ha
      apply Parser.alike_bind ihSecond
      intro b b' hb
      apply Parser.alike_pure
      rw [hb.shape]
      split
      · exact hb
      · exact ⟨rfl, List.rel_append ha.tokens hb.tokens⟩
  | require test complaint rule ih =>
      apply Parser.alike_bind ih
      intro piece piece' hpiece
      rw [hpiece.shape]
      exact Parser.alike_ite (Parser.alike_pure hpiece) (Parser.alike_throw rfl)
  | forbid complaint rule rest ihRule ihRest =>
      apply Parser.alike_bind ihRule
      intro piece piece' hpiece
      apply Parser.alike_bind ihRest
      intro behind behind' hbehind
      exact Parser.alike_throw rfl
  | endsInBraces rule ih =>
      apply Parser.alike_bind ih
      intro piece piece' hpiece
      exact Parser.alike_pure ⟨by rw [hpiece.endsInBraces_eq], hpiece.tokens⟩

end Rule

/-- All phrases are read alike up to every depth. -/
theorem Phrase.alike_readTo
    (depth : Nat)
    (phrase : Phrase) :
    Parser.Alike Piece.Alike (readTo depth phrase) (readTo depth phrase) := by
  induction depth generalizing phrase with
  | zero =>
      exact Parser.alike_fail _
  | succ depth ih =>
      exact Rule.alike_follow ih phrase.rule

/-- Rules give alike tokens. -/
theorem Rule.alike_parse
    (rule : Rule) :
    Parser.Alike Token.AlikeAll rule.parse rule.parse := by
  intro c d hcd
  have hdepth : depthFor c.tokens = depthFor d.tokens := by
    rw [depthFor, depthFor, Token.size, Token.size, hcd.tokens.lexemesAll_eq]
  have hread := Rule.alike_follow (Phrase.alike_readTo (depthFor d.tokens)) rule c d hcd
  unfold Rule.parse
  rw [hdepth]
  obtain ⟨read, other, hp, hq, hpiece⟩ | ⟨e, f, hp, hq, hsaid⟩ := hread.cases
  · rw [hp, hq]
    exact Agreeing.ok ⟨hpiece.value.tokens, hpiece.cursor⟩
  · rw [hp, hq]
    exact Agreeing.error hsaid

/-- Phrases give alike tokens. -/
theorem Phrase.alike_parse
    (phrase : Phrase) :
    Parser.Alike Token.AlikeAll phrase.parse phrase.parse :=
  Rule.alike_parse (.phrase phrase)

end Rules

end Caseless
