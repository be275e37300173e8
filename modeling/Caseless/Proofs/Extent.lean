import Caseless.Proofs.Options

/-!
# Reading in front of a comma

What a parser reads may depend on what follows, since it looks ahead.  A parser extends another one
by a tail if it reads the same in front of the tail.

A test is blind to a comma if it does not see whether the tokens end or a comma follows.  A rule
reads the same at the end and in front of a comma if its tests are blind, at least where it succeeds
(`Rule.extends_follow`).  By an empty tail every phrase extends itself when deeper nesting is
allowed (`Phrase.extends_nil_readTo`).
-/

namespace Caseless

section Tails

/-- Some tokens are at an end or have a comma in front. -/
def Token.EndsOption (tail : List Token) : Prop :=
  tail = [] ∨ ∃ spacing comma others, tail = .punct ',' spacing comma :: others

/-- A cursor with more tokens behind those that are still to be read. -/
def Cursor.followedBy (c : Cursor) (tail : List Token) : Cursor :=
  { c with tokens := c.tokens ++ tail }

@[simp] theorem Cursor.followedBy_nil
    (c : Cursor) :
    c.followedBy [] = c := by
  simp [followedBy]

namespace Parser

variable {α β : Type} {tail : List Token}

/-- A parser extends another one by a tail if it reads the same in front of the tail, and leaves
it. -/
def Extends (tail : List Token) (p p' : Parser α) : Prop :=
  ∀ c v d, p c = .ok (v, d) → p' (c.followedBy tail) = .ok (v, d.followedBy tail)

theorem extends_pure
    (a : α) :
    Extends tail (pure a) (pure a) := by
  intro c v d h
  obtain ⟨rfl, rfl⟩ := pure_eq_ok_iff.mp h
  rfl

theorem extends_bind
    {p p' : Parser α}
    {f f' : α → Parser β}
    (hp : Extends tail p p')
    (hf : ∀ a, Extends tail (f a) (f' a)) :
    Extends tail (p >>= f) (p' >>= f') := by
  intro c v d h
  obtain ⟨a, c', ha, hv⟩ := bind_eq_ok_iff.mp h
  exact bind_eq_ok_iff.mpr ⟨a, c'.followedBy tail, hp c a c' ha, hf a c' v d hv⟩

theorem extends_fail
    (complaint : Complaint)
    (p : Parser α) :
    Extends tail (fail complaint) p := by
  intro c v d h
  cases h

/-- A test that does not see the tail leads to the same branch. -/
theorem extends_branch
    {test : List Token → Bool}
    {p p' : Bool → Parser α}
    (htest : ∀ tokens, test (tokens ++ tail) = test tokens)
    (hp : ∀ b, Extends tail (p b) (p' b)) :
    Extends tail (Parser.test test >>= p) (Parser.test test >>= p') := by
  intro c v d h
  obtain ⟨b, c', hb, hv⟩ := bind_eq_ok_iff.mp h
  obtain ⟨rfl, rfl⟩ := test_eq_ok_iff.mp hb
  refine bind_eq_ok_iff.mpr ⟨test c.tokens, c.followedBy tail, ?_, hp _ c v d hv⟩
  exact test_eq_ok_iff.mpr ⟨htest c.tokens, rfl⟩

theorem extends_takeOr
    {take : List Token → Option (α × List Token)}
    (htake : ∀ tokens a rest,
      take tokens = some (a, rest) → take (tokens ++ tail) = some (a, rest ++ tail))
    (complaint : List Token → Complaint) :
    Extends tail (fun c => takeOr take (complaint c.tokens) c)
      (fun c => takeOr take (complaint c.tokens) c) := by
  intro c v d h
  obtain ⟨rest, hrest, rfl⟩ := takeOr_eq_ok_iff.mp h
  exact takeOr_eq_ok_iff.mpr ⟨rest ++ tail, htake _ _ _ hrest, rfl⟩

/-- The content of a group is the same whatever follows the group. -/
theorem extends_within
    {p p' : Parser α}
    (hp : Extends [] p p')
    (delimiter : Delimiter)
    (complaint : Complaint) :
    Extends tail (within delimiter complaint p) (within delimiter complaint p') := by
  intro c v d h
  obtain ⟨content, opening, closing, rest, a, inner, htokens, hinner, rfl, rfl⟩ :=
    within_eq_ok_iff.mp h
  have hinner' : p' ⟨content, closing, c.leftOver⟩ = .ok (a, inner) := by
    simpa using hp _ _ _ hinner
  refine within_eq_ok_iff.mpr
    ⟨content, opening, closing, rest ++ tail, a, inner, ?_, hinner', rfl, rfl⟩
  simp [Cursor.followedBy, htokens]

/-- A repetition reads the same with more steps to spare. -/
theorem extends_repeatUpTo
    {p p' : Parser (Step α)}
    (hp : Extends tail p p')
    {n m : Nat}
    (hle : n ≤ m) :
    Extends tail (repeatUpTo p n) (repeatUpTo p' m) := by
  induction n generalizing m with
  | zero =>
      exact extends_fail _ _
  | succ n ih =>
      obtain ⟨m, rfl⟩ : ∃ k, m = k + 1 := ⟨m - 1, by omega⟩
      apply extends_bind hp
      intro step
      cases step with
      | again value =>
          apply extends_bind (ih (by omega))
          intro values
          exact extends_pure _
      | last value =>
          exact extends_pure _
      | done =>
          exact extends_pure _

theorem extends_repeatSteps
    {p p' : Parser (Step α)}
    (hp : Extends tail p p') :
    Extends tail (repeatSteps p) (repeatSteps p') := by
  intro c v d h
  have hle : c.tokens.length + 1 ≤ (c.followedBy tail).tokens.length + 1 := by
    simp [Cursor.followedBy]
  exact extends_repeatUpTo hp hle c v d h

end Parser

end Tails

section Terminals

variable {tail : List Token}

theorem Token.takeSymbol_append
    (cs : List Char)
    (tokens : List Token)
    {taken rest : List Token}
    (h : takeSymbol cs tokens = some (taken, rest)) :
    takeSymbol cs (tokens ++ tail) = some (taken, rest ++ tail) := by
  fun_induction takeSymbol cs tokens generalizing taken rest with
  | case1 c spacing span rest' =>
      obtain ⟨rfl, rfl⟩ : _ = taken ∧ rest' = rest := by simpa using h
      simp [takeSymbol]
  | case2 =>
      cases h
  | case3 c c' cs span rest' ih =>
      obtain ⟨⟨taken', rest''⟩, htail, heq⟩ := Option.map_eq_some_iff.mp h
      obtain ⟨rfl, rfl⟩ : _ = taken ∧ rest'' = rest := by simpa using heq
      simp [takeSymbol, ih htail]
  | case4 =>
      cases h
  | case5 =>
      cases h

/-- A symbol without a comma does not reach into the tail. -/
theorem Token.isSome_takeSymbol_append
    (htail : EndsOption tail)
    {cs : List Char}
    (hcs : ',' ∉ cs)
    (tokens : List Token) :
    (takeSymbol cs (tokens ++ tail)).isSome = (takeSymbol cs tokens).isSome := by
  induction cs generalizing tokens with
  | nil =>
      simp [takeSymbol]
  | cons c cs ih =>
      obtain ⟨hc, hcs⟩ : c ≠ ',' ∧ ',' ∉ cs := by simpa [eq_comm] using hcs
      rcases tokens with _ | ⟨token, tokens⟩
      · rcases htail with rfl | ⟨spacing, comma, others, rfl⟩
        · simp
        · cases cs <;> cases spacing <;> simp [takeSymbol, hc]
      · cases token with
        | punct d spacing span =>
            cases cs with
            | nil =>
                by_cases hd : c = d
                · simp [takeSymbol, hd]
                · simp [takeSymbol, hd]
            | cons c' cs =>
                cases spacing with
                | alone =>
                    simp [takeSymbol]
                | joint =>
                    by_cases hd : c = d
                    · simp [takeSymbol, hd, ih hcs tokens]
                    · simp [takeSymbol, hd]
        | _ =>
            cases cs <;> simp [takeSymbol]

/-- A symbol of one character is told by the first token. -/
theorem Token.isSome_takeSymbol_cons
    (x : Char)
    (token : Token)
    (rest : List Token) :
    (takeSymbol [x] (token :: rest)).isSome = (takeSymbol [x] [token]).isSome := by
  cases token with
  | punct y spacing span =>
      by_cases hy : x = y
      · simp [takeSymbol, hy]
      · simp [takeSymbol, hy]
  | _ =>
      simp [takeSymbol]

/-- A comma is no name, so it is not passed together with an apostrophe in front of it. -/
theorem Token.afterNext_append
    (htail : EndsOption tail)
    {tokens : List Token}
    (hne : tokens ≠ []) :
    afterNext (tokens ++ tail) = afterNext tokens ++ tail := by
  fun_cases afterNext tokens with
  | case1 mark i span rest =>
      rfl
  | case2 token rest hother =>
      apply afterNext.eq_2
      intro mark i span others htoken hrest
      rcases rest with _ | ⟨second, rest⟩
      · rcases htail with rfl | ⟨spacing, comma, others', rfl⟩
        · cases hrest
        · cases hrest
      · obtain ⟨rfl, -⟩ : second = .ident i span ∧ rest ++ tail = others := by simpa using hrest
        exact hother mark i span rest htoken rfl
  | case3 =>
      contradiction

namespace Terminal

theorem take_append
    (terminal : Terminal)
    (tokens taken rest : List Token)
    (h : terminal.take tokens = some (taken, rest)) :
    terminal.take (tokens ++ tail) = some (taken, rest ++ tail) := by
  unfold take at h
  split at h
  case h_1 => exact Token.takeSymbol_append _ _ h
  case h_2 =>
    obtain ⟨⟨taken', rest'⟩, htake, heq⟩ := Option.map_eq_some_iff.mp h
    obtain ⟨rfl, rfl⟩ : _ = taken ∧ rest' = rest := by simpa using heq
    simp [take, Token.takeSymbol_append _ _ htake]
  all_goals grind [take, Option.map_eq_some_iff]

theorem extends_read
    (terminal : Terminal) :
    Parser.Extends tail terminal.read terminal.read :=
  Parser.extends_takeOr terminal.take_append terminal.complaint

end Terminal

end Terminals

section Tests

namespace Lookahead

/-- A test is blind to a comma if it does not see whether the tokens end or a comma follows. -/
def Blind (test : Lookahead) : Prop :=
  ∀ tail, Token.EndsOption tail → ∀ tokens, test.holds (tokens ++ tail) = test.holds tokens

theorem blind_symbol
    {text : String}
    (htext : ',' ∉ text.toList) :
    Blind (symbol text) := by
  intro tail htail tokens
  exact Token.isSome_takeSymbol_append htail htext tokens

/-- A test that looks at two tokens at most is blind if a comma is for it like no token. -/
theorem blind_of_two
    {test : Lookahead}
    (htwo : ∀ first second rest,
      test.holds (first :: second :: rest) = test.holds [first, second])
    (hsecond : ∀ first spacing comma,
      test.holds [first, .punct ',' spacing comma] = test.holds [first])
    (hfirst : ∀ spacing comma others,
      test.holds (.punct ',' spacing comma :: others) = test.holds []) :
    Blind test := by
  intro tail htail tokens
  rcases htail with rfl | ⟨spacing, comma, others, rfl⟩
  · rw [List.append_nil]
  · rcases tokens with _ | ⟨first, _ | ⟨second, rest⟩⟩
    · exact hfirst spacing comma others
    · rw [List.singleton_append, htwo, hsecond]
    · rw [List.cons_append, List.cons_append, htwo, ← htwo first second rest]

/-- A test that looks at one token is blind if a comma is for it like no token. -/
theorem blind_of_one
    {test : Lookahead}
    (hone : ∀ first rest, test.holds (first :: rest) = test.holds [first])
    (hfirst : ∀ spacing comma, test.holds [.punct ',' spacing comma] = test.holds []) :
    Blind test := by
  apply blind_of_two
  · intro first second rest
    rw [hone, hone first [second]]
  · intro first spacing comma
    rw [hone]
  · intro spacing comma others
    rw [hone, hfirst]

theorem blind_keyword
    (word : String) :
    Blind (keyword word) :=
  blind_of_one (fun first _ => by cases first <;> rfl) fun _ _ => rfl

theorem blind_ident :
    Blind ident :=
  blind_of_one (fun first _ => by cases first <;> rfl) fun _ _ => rfl

theorem blind_word :
    Blind word :=
  blind_of_one (fun first _ => by cases first <;> rfl) fun _ _ => rfl

theorem blind_literalText
    (test : String → Bool) :
    Blind (literalText test) :=
  blind_of_one (fun first _ => by cases first <;> rfl) fun _ _ => rfl

theorem blind_group
    (delimiter : Delimiter) :
    Blind (group delimiter) :=
  blind_of_one (fun first _ => by cases first <;> rfl) fun _ _ => rfl

theorem blind_lifetime :
    Blind lifetime := by
  apply blind_of_two
  · intro first second rest
    cases first with
    | punct x spacing mark =>
        cases second with
        | ident i span =>
            by_cases hx : x = '\x27'
            · subst hx
              cases spacing <;> simp [holds]
            · simp [holds, hx]
        | _ =>
            simp [holds]
    | _ =>
        rfl
  · intro first spacing comma
    cases first <;> simp [holds]
  · intro spacing comma others
    cases others <;> simp [holds]

theorem blind_literal :
    Blind literal := by
  apply blind_of_two
  · intro first second rest
    cases first with
    | punct x spacing mark =>
        cases second with
        | literal text span =>
            by_cases hx : x = '-'
            · subst hx
              simp [holds]
            · simp [holds, hx]
        | _ =>
            simp [holds]
    | _ =>
        rfl
  · intro first spacing comma
    cases first <;> simp [holds]
  · intro spacing comma others
    cases others <;> simp [holds]

theorem blind_no
    {test : Lookahead}
    (h : Blind test) :
    Blind (no test) := by
  intro tail htail tokens
  simp only [holds, h tail htail tokens]

theorem blind_both
    {first second : Lookahead}
    (hfirst : Blind first)
    (hsecond : Blind second) :
    Blind (both first second) := by
  intro tail htail tokens
  simp only [holds, hfirst tail htail tokens, hsecond tail htail tokens]

theorem blind_either
    {first second : Lookahead}
    (hfirst : Blind first)
    (hsecond : Blind second) :
    Blind (either first second) := by
  intro tail htail tokens
  simp only [holds, hfirst tail htail tokens, hsecond tail htail tokens]

theorem blind_anyOf
    {tests : List Lookahead}
    (h : ∀ test ∈ tests, Blind test) :
    Blind (anyOf tests) := by
  induction tests with
  | nil =>
      intro tail htail tokens
      simp [anyOf, never, always, holds]
  | cons test tests ih =>
      obtain ⟨hfirst, hothers⟩ := List.forall_mem_cons.mp h
      exact blind_either hfirst (ih hothers)

theorem blind_keywords
    (words : List String) :
    Blind (keywords words) := by
  apply blind_anyOf
  simp [blind_keyword]

theorem blind_symbolOnly
    {text : String}
    {longer : List String}
    (htext : ',' ∉ text.toList)
    (hlonger : ∀ other ∈ longer, ',' ∉ other.toList) :
    Blind (symbolOnly text longer) := by
  apply blind_both (blind_symbol htext)
  apply blind_no
  apply blind_anyOf
  intro test htest
  obtain ⟨other, hother, rfl⟩ := List.mem_map.mp htest
  exact blind_symbol (hlonger other hother)

/-- Behind a token of its own a test sees as little as it does in front. -/
theorem holds_behind_append
    {test : Lookahead}
    (htest : Blind test)
    {tail : List Token}
    (htail : Token.EndsOption tail)
    {tokens : List Token}
    (hne : tokens ≠ []) :
    (behind test).holds (tokens ++ tail) = (behind test).holds tokens := by
  simp only [holds, Token.afterNext_append htail hne, htest tail htail]

/-- Only where the first of two tests holds does the second have to be blind. -/
theorem blind_both_of_imp
    {first second : Lookahead}
    (hfirst : Blind first)
    (hsecond : ∀ tail, Token.EndsOption tail → ∀ tokens,
      first.holds tokens = true → second.holds (tokens ++ tail) = second.holds tokens) :
    Blind (both first second) := by
  intro tail htail tokens
  simp only [holds, hfirst tail htail tokens]
  cases hholds : first.holds tokens with
  | true =>
      rw [hsecond tail htail tokens hholds]
  | false =>
      rfl

theorem blind_both_no
    {first second : Lookahead}
    (hfirst : Blind first)
    (hboth : Blind (both first second)) :
    Blind (both first (no second)) := by
  intro tail htail tokens
  have hsecond := hboth tail htail tokens
  simp only [holds, hfirst tail htail tokens] at hsecond ⊢
  cases hholds : first.holds tokens with
  | true =>
      simpa [hholds] using hsecond
  | false =>
      rfl

theorem exists_of_holds_colons
    {tokens : List Token}
    (h : (symbol "::").holds tokens = true) :
    ∃ first spacing second rest,
      tokens = .punct ':' .joint first :: .punct ':' spacing second :: rest := by
  obtain ⟨⟨taken, rest⟩, htake⟩ := Option.isSome_iff_exists.mp h
  change Token.takeSymbol [':', ':'] tokens = some (taken, rest) at htake
  unfold Token.takeSymbol at htake
  split at htake
  · rename_i heq
    simp at heq
  · rename_i x y more z first others heq
    obtain ⟨rfl, rfl, rfl⟩ : ':' = x ∧ ':' = y ∧ [] = more := by simpa using heq
    split at htake
    · rename_i hcolon
      obtain ⟨⟨taken', rest'⟩, hsecond, -⟩ := Option.map_eq_some_iff.mp htake
      obtain ⟨spacing, second, rfl, -⟩ := Token.takeSymbol_singleton_eq_some_iff.mp hsecond
      exact ⟨first, spacing, second, rest', by rw [hcolon]⟩
    · cases htake
  · cases htake

/-- A double colon has two tokens, behind which a test may look. -/
theorem blind_behind_colons
    {test : Lookahead}
    (htest : Blind test) :
    Blind (both (symbol "::") (behindTwo test)) := by
  apply blind_both_of_imp (blind_symbol (by decide))
  intro tail htail tokens hcolons
  obtain ⟨first, spacing, second, rest, rfl⟩ := exists_of_holds_colons hcolons
  exact htest tail htail rest

/-- Behind something that is there a test may look. -/
theorem blind_both_behind
    {first test : Lookahead}
    (hfirst : Blind first)
    (hnil : first.holds [] = false)
    (htest : Blind test) :
    Blind (both first (behind test)) := by
  apply blind_both_of_imp hfirst
  intro tail htail tokens hholds
  apply holds_behind_append htest htail
  rintro rfl
  simp [hnil] at hholds

end Lookahead

end Tests

section Rules

variable {call call' : Phrase → Parser Piece} {tail : List Token}

namespace Rule

/-- A rule can be followed in front of a tail if its phrases are read there alike, and if where it
succeeds its tests do not see the tail.  What is read in a group does not matter. -/
def Extensible (tail : List Token) (call call' : Phrase → Parser Piece) : Rule → Prop
  | accept _ => True
  | refuse _ => True
  | read _ => True
  | phrase p => Parser.Extends tail (call p) (call' p)
  | andThen first second =>
      first.Extensible tail call call' ∧ ∀ shape, (second shape).Extensible tail call call'
  | choose test yes no =>
      (∀ c piece d,
        (choose test yes no).follow call c = .ok (piece, d) →
          test.holds (c.tokens ++ tail) = test.holds c.tokens) ∧
      yes.Extensible tail call call' ∧ no.Extensible tail call call'
  | inside _ _ => True
  | listing entry => entry.Extensible tail call call'
  | asWritten _ rule => rule.Extensible tail call call'
  | silently rule => rule.Extensible tail call call'
  | before first second _ =>
      first.Extensible tail call call' ∧ second.Extensible tail call call'
  | require _ _ rule => rule.Extensible tail call call'
  | forbid _ _ _ => True
  | endsInBraces rule => rule.Extensible tail call call'

/-- Nothing is seen of an empty tail. -/
theorem extensible_nil
    (hcall : ∀ p, Parser.Extends [] (call p) (call' p))
    (rule : Rule) :
    rule.Extensible [] call call' := by
  induction rule with
  | phrase p =>
      exact hcall p
  | andThen first second ihFirst ihSecond =>
      exact ⟨ihFirst, ihSecond⟩
  | choose test yes no ihYes ihNo =>
      refine ⟨?_, ihYes, ihNo⟩
      intro c piece d _
      rw [List.append_nil]
  | before first second drop ihFirst ihSecond =>
      exact ⟨ihFirst, ihSecond⟩
  | listing entry ih =>
      exact ih
  | asWritten when rule ih =>
      exact ih
  | silently rule ih =>
      exact ih
  | require test complaint rule ih =>
      exact ih
  | endsInBraces rule ih =>
      exact ih
  | _ =>
      trivial

theorem extensible_choose
    (htail : Token.EndsOption tail)
    {test : Lookahead}
    {yes no : Rule}
    (htest : test.Blind)
    (hyes : yes.Extensible tail call call')
    (hno : no.Extensible tail call call') :
    (choose test yes no).Extensible tail call call' :=
  ⟨fun c _ _ _ => htest tail htail c.tokens, hyes, hno⟩

theorem extensible_firstOf
    (htail : Token.EndsOption tail)
    {alternatives : List (Lookahead × Rule)}
    {otherwise : Rule}
    (halternatives : ∀ alternative ∈ alternatives,
      alternative.1.Blind ∧ alternative.2.Extensible tail call call')
    (hotherwise : otherwise.Extensible tail call call') :
    (firstOf alternatives otherwise).Extensible tail call call' := by
  induction alternatives with
  | nil =>
      exact hotherwise
  | cons alternative others ih =>
      obtain ⟨⟨htest, hrule⟩, hothers⟩ := List.forall_mem_cons.mp halternatives
      exact extensible_choose htail htest hrule (ih hothers)

theorem extensible_seq
    {rules : List Rule}
    (h : ∀ rule ∈ rules, rule.Extensible tail call call') :
    (seq rules).Extensible tail call call' := by
  induction rules with
  | nil =>
      trivial
  | cons rule rules ih =>
      obtain ⟨hrule, hrules⟩ := List.forall_mem_cons.mp h
      cases rules with
      | nil =>
          exact hrule
      | cons next rules =>
          exact ⟨hrule, fun _ => ih hrules⟩

theorem extends_entryStep
    (htail : Token.EndsOption tail)
    {entry entry' : Parser Piece}
    (hentry : Parser.Extends tail entry entry') :
    Parser.Extends tail (entryStep entry) (entryStep entry') := by
  have hblind : (Lookahead.symbol ">").Blind := Lookahead.blind_symbol (by decide)
  have hclosed := hblind tail htail
  apply Parser.extends_branch hclosed
  intro closed
  cases closed with
  | true =>
      exact Parser.extends_pure _
  | false =>
      apply Parser.extends_bind hentry
      intro piece
      apply Parser.extends_branch hclosed
      intro closed
      cases closed with
      | true =>
          exact Parser.extends_pure _
      | false =>
          apply Parser.extends_bind (Terminal.extends_read _)
          intro comma
          exact Parser.extends_pure _

/-- An extensible rule reads the same in front of the tail.  In a group the tail is empty, so the
induction is for all tails. -/
theorem extends_follow
    (hcall : ∀ p, Parser.Extends [] (call p) (call' p))
    (htail : Token.EndsOption tail)
    {rule : Rule}
    (h : rule.Extensible tail call call') :
    Parser.Extends tail (rule.follow call) (rule.follow call') := by
  induction rule generalizing tail with
  | accept shape =>
      exact Parser.extends_pure _
  | refuse complaint =>
      exact Parser.extends_fail _ _
  | read terminal =>
      apply Parser.extends_bind terminal.extends_read
      intro tokens
      exact Parser.extends_pure _
  | phrase p =>
      exact h
  | andThen first second ihFirst ihSecond =>
      apply Parser.extends_bind (ihFirst htail h.1)
      intro a
      apply Parser.extends_bind (ihSecond a.shape htail (h.2 a.shape))
      intro b
      exact Parser.extends_pure _
  | choose test yes no ihYes ihNo =>
      obtain ⟨htest, hyes, hno⟩ := h
      intro c piece d hfollow
      have hholds : test.holds (c.followedBy tail).tokens = test.holds c.tokens :=
        htest c piece d hfollow
      rw [follow_choose] at hfollow ⊢
      rw [hholds]
      split at hfollow
      · rw [if_pos ‹_›]
        exact ihYes htail hyes c piece d hfollow
      · rw [if_neg ‹_›]
        exact ihNo htail hno c piece d hfollow
  | inside delimiter content ih =>
      apply Parser.extends_bind
        (Parser.extends_within (ih (Or.inl rfl) (extensible_nil hcall content)) _ _)
      intro result
      exact Parser.extends_pure _
  | listing entry ih =>
      apply Parser.extends_bind
        (Parser.extends_repeatSteps (extends_entryStep htail (ih htail h)))
      intro entries
      exact Parser.extends_pure _
  | asWritten when rule ih =>
      intro c result d hfollow
      obtain ⟨piece, hpiece, rfl⟩ := follow_asWritten_eq_ok_iff.mp hfollow
      refine follow_asWritten_eq_ok_iff.mpr ⟨piece, ih htail h c piece d hpiece, ?_⟩
      have hlength :
          (c.followedBy tail).tokens.length - (d.followedBy tail).tokens.length =
            c.tokens.length - d.tokens.length := by
        simp only [Cursor.followedBy, List.length_append]
        omega
      have htaken :
          (c.followedBy tail).tokens.take (c.tokens.length - d.tokens.length) =
            c.tokens.take (c.tokens.length - d.tokens.length) :=
        List.take_append_of_le_length (Nat.sub_le _ _)
      rw [hlength, htaken]
  | silently rule ih =>
      apply Parser.extends_bind (ih htail h)
      intro piece
      exact Parser.extends_pure _
  | before first second drop ihFirst ihSecond =>
      apply Parser.extends_bind (ihFirst htail h.1)
      intro a
      apply Parser.extends_bind (ihSecond htail h.2)
      intro b
      exact Parser.extends_pure _
  | require test complaint rule ih =>
      intro c piece d hfollow
      obtain ⟨hpiece, htest⟩ := follow_require_eq_ok_iff.mp hfollow
      exact follow_require_eq_ok_iff.mpr ⟨ih htail h c piece d hpiece, htest⟩
  | forbid complaint rule rest ihRule ihRest =>
      intro c piece d hfollow
      exact absurd hfollow follow_forbid_ne_ok
  | endsInBraces rule ih =>
      apply Parser.extends_bind (ih htail h)
      intro piece
      exact Parser.extends_pure _

end Rule

/-- A phrase that is read is read with more nesting to spare. -/
theorem Phrase.extends_nil_readTo
    {n m : Nat}
    (hle : n ≤ m)
    (phrase : Phrase) :
    Parser.Extends [] (readTo n phrase) (readTo m phrase) := by
  induction n generalizing m phrase with
  | zero =>
      exact Parser.extends_fail _ _
  | succ n ih =>
      obtain ⟨m, rfl⟩ : ∃ k, m = k + 1 := ⟨m - 1, by omega⟩
      have hcall : ∀ p, Parser.Extends [] (readTo n p) (readTo m p) := ih (by omega)
      exact Rule.extends_follow hcall (Or.inl rfl) (Rule.extensible_nil hcall phrase.rule)

end Rules

end Caseless
