import Caseless.Proofs.Reading

/-!
# How deeply phrases are nested

Phrases are read up to a depth.  That the depth suffices follows from a rank of phrases: before a
rule reads a token it enters only phrases of a lower rank, and there are fewer than sixteen ranks.
So a phrase is read in the same way at any two depths that are large enough for the tokens in front
of it, be they accepted or refused.  Reading without a depth is then what the rules say and nothing
else (`Phrase.read_eq_follow`, `Rule.parse_eq_follow`).
-/

namespace Caseless

section Sizes

namespace Token

theorem size_append
    (tokens others : List Token) :
    size (tokens ++ others) = size tokens + size others := by
  simp [size, lexemesAll_append]

theorem size_cons
    (token : Token)
    (tokens : List Token) :
    size (token :: tokens) = (lexemes token).length + size tokens := by
  simp [size, lexemesAll]

theorem lexemes_length_pos
    (token : Token) :
    0 < (lexemes token).length := by
  cases token <;> simp [lexemes]

/-- A group has two lexemes beside those of its content. -/
theorem size_group_cons
    (delimiter : Delimiter)
    (content : List Token)
    (opening closing : Span)
    (rest : List Token) :
    size (.group delimiter content opening closing :: rest) = size content + 2 + size rest := by
  have hlexemes :
      (lexemes (.group delimiter content opening closing)).length = size content + 2 := by
    simp [lexemes, size]
  rw [size_cons, hlexemes]

theorem size_le_of_suffix
    {tokens rest : List Token}
    (h : rest <:+ tokens) :
    size rest ≤ size tokens := by
  obtain ⟨front, rfl⟩ := h
  rw [size_append]
  exact Nat.le_add_left _ _

/-- The tokens behind a token are fewer. -/
theorem size_lt_of_suffix
    {token : Token}
    {tokens rest : List Token}
    (h : rest <:+ tokens) :
    size rest < size (token :: tokens) := by
  have hle := size_le_of_suffix h
  have hpos := lexemes_length_pos token
  rw [size_cons]
  omega

end Token

end Sizes

section Progress

variable {α β : Type}

theorem Token.size_lt_of_takeSymbol
    (cs : List Char)
    (tokens : List Token)
    {taken rest : List Token}
    (h : takeSymbol cs tokens = some (taken, rest)) :
    size rest < size tokens := by
  fun_induction takeSymbol cs tokens generalizing taken rest with
  | case1 c spacing span tail =>
      obtain ⟨-, rfl⟩ : _ = taken ∧ tail = rest := by simpa using h
      exact size_lt_of_suffix (List.suffix_refl _)
  | case2 =>
      cases h
  | case3 c c' cs span tail ih =>
      obtain ⟨⟨taken', rest'⟩, htail, heq⟩ := Option.map_eq_some_iff.mp h
      obtain ⟨-, rfl⟩ : _ = taken ∧ rest' = rest := by simpa using heq
      exact Nat.lt_trans (ih htail) (size_lt_of_suffix (List.suffix_refl _))
  | case4 =>
      cases h
  | case5 =>
      cases h

/-- A terminal takes at least one token. -/
theorem Terminal.size_lt_of_take
    (terminal : Terminal)
    (tokens : List Token)
    {taken rest : List Token}
    (h : terminal.take tokens = some (taken, rest)) :
    Token.size rest < Token.size tokens := by
  unfold take at h
  split at h
  case h_1 => exact Token.size_lt_of_takeSymbol _ _ h
  case h_2 =>
    obtain ⟨⟨taken', rest'⟩, htake, heq⟩ := Option.map_eq_some_iff.mp h
    obtain ⟨-, rfl⟩ : _ = taken ∧ rest' = rest := by simpa using heq
    exact Token.size_lt_of_takeSymbol _ _ htake
  all_goals grind [Option.map_eq_some_iff, Token.size_cons, Token.lexemes_length_pos]

namespace Parser

/-- A parser makes progress if it reads a token wherever it succeeds. -/
def Progresses (p : Parser α) : Prop :=
  ∀ c v d, p c = .ok (v, d) → Token.size d.tokens < Token.size c.tokens

theorem Steady.size_le
    {p : Parser α}
    (hp : Steady p)
    {c d : Cursor}
    {v : α}
    (h : p c = .ok (v, d)) :
    Token.size d.tokens ≤ Token.size c.tokens :=
  Token.size_le_of_suffix (hp c v d h).1.tokens

theorem progresses_fail
    (complaint : Complaint) :
    Progresses (fail complaint : Parser α) := by
  intro c v d h
  cases h

theorem progresses_bind_left
    {p : Parser α}
    {f : α → Parser β}
    (hp : Progresses p)
    (hf : ∀ a, Steady (f a)) :
    Progresses (p >>= f) := by
  intro c v d h
  obtain ⟨a, c', ha, hv⟩ := bind_eq_ok_iff.mp h
  exact Nat.lt_of_le_of_lt ((hf a).size_le hv) (hp c a c' ha)

theorem progresses_bind_right
    {p : Parser α}
    {f : α → Parser β}
    (hp : Steady p)
    (hf : ∀ a, Progresses (f a)) :
    Progresses (p >>= f) := by
  intro c v d h
  obtain ⟨a, c', ha, hv⟩ := bind_eq_ok_iff.mp h
  exact Nat.lt_of_lt_of_le (hf a c' v d hv) (hp.size_le ha)

theorem progresses_ite
    {b : Bool}
    {p q : Parser α}
    (hp : Progresses p)
    (hq : Progresses q) :
    Progresses (if b = true then p else q) := by
  cases b with
  | true =>
      exact hp
  | false =>
      exact hq

/-- A group is read whole, so there is progress whatever is read of its content. -/
theorem progresses_within
    (delimiter : Delimiter)
    (complaint : Complaint)
    (p : Parser α) :
    Progresses (within delimiter complaint p) := by
  intro c v d h
  obtain ⟨content, opening, closing, rest, a, inner, htokens, -, -, rfl⟩ :=
    within_eq_ok_iff.mp h
  rw [htokens]
  exact Token.size_lt_of_suffix (List.suffix_refl _)

end Parser

theorem Terminal.progresses_read
    (terminal : Terminal) :
    Parser.Progresses terminal.read := by
  intro c v d h
  obtain ⟨rest, hrest, rfl⟩ := Parser.takeOr_eq_ok_iff.mp h
  exact terminal.size_lt_of_take c.tokens hrest

/-- The phrases that read a token wherever they are found. -/
@[simp] def Phrase.Progresses : Phrase → Prop
  | path _ | segment _ | qualifiedPath _ | plainPath | plainNames | oneAttribute => True
  | expression _ | statementExpression | unary _ | condition | block _ => True
  | statement | item => True
  | _ => False

namespace Rule

/-- A rule makes progress if one of its parts does that cannot be missing. -/
@[simp] def Progresses : Rule → Prop
  | accept _ => False
  | refuse _ => True
  | read _ => True
  | phrase p => p.Progresses
  | andThen first second => first.Progresses ∨ ∀ shape, (second shape).Progresses
  | choose _ yes no => yes.Progresses ∧ no.Progresses
  | inside _ _ => True
  | listing _ => False
  | asWritten _ rule => rule.Progresses
  | silently rule => rule.Progresses
  | before first second _ => first.Progresses ∨ second.Progresses
  | require _ _ rule => rule.Progresses
  | forbid _ _ _ => True
  | endsInBraces rule => rule.Progresses

theorem progresses_follow
    {call : Phrase → Parser Piece}
    (hsteady : ∀ p, Parser.Steady (call p))
    (hcall : ∀ p, p.Progresses → Parser.Progresses (call p))
    {rule : Rule}
    (h : rule.Progresses) :
    Parser.Progresses (rule.follow call) := by
  have hfollow (rule : Rule) : Parser.Steady (rule.follow call) := steady_follow hsteady rule
  induction rule with
  | accept shape =>
      exact False.elim h
  | refuse complaint =>
      exact Parser.progresses_fail _
  | read terminal =>
      apply Parser.progresses_bind_left terminal.progresses_read
      intro tokens
      exact Parser.steady_pure _
  | phrase p =>
      exact hcall p h
  | andThen first second ihFirst ihSecond =>
      rcases h with hfirst | hsecond
      · apply Parser.progresses_bind_left (ihFirst hfirst)
        intro a
        exact Parser.steady_bind (hfollow _) fun b => Parser.steady_pure _
      · apply Parser.progresses_bind_right (hfollow first)
        intro a
        apply Parser.progresses_bind_left (ihSecond a.shape (hsecond a.shape))
        intro b
        exact Parser.steady_pure _
  | choose test yes no ihYes ihNo =>
      apply Parser.progresses_bind_right (Parser.steady_test _)
      intro holds
      exact Parser.progresses_ite (ihYes h.1) (ihNo h.2)
  | inside delimiter content ih =>
      apply Parser.progresses_bind_left (Parser.progresses_within _ _ _)
      intro result
      exact Parser.steady_pure _
  | listing entry ih =>
      exact False.elim h
  | asWritten when rule ih =>
      intro c result d hresult
      obtain ⟨piece, hpiece, -⟩ := follow_asWritten_eq_ok_iff.mp hresult
      exact ih h c piece d hpiece
  | silently rule ih =>
      apply Parser.progresses_bind_left (ih h)
      intro piece
      exact Parser.steady_pure _
  | before first second drop ihFirst ihSecond =>
      rcases h with hfirst | hsecond
      · apply Parser.progresses_bind_left (ihFirst hfirst)
        intro a
        exact Parser.steady_bind (hfollow _) fun b => Parser.steady_pure _
      · apply Parser.progresses_bind_right (hfollow first)
        intro a
        apply Parser.progresses_bind_left (ihSecond hsecond)
        intro b
        exact Parser.steady_pure _
  | require test complaint rule ih =>
      intro c piece d hpiece
      exact ih h c piece d (follow_require_eq_ok_iff.mp hpiece).1
  | forbid complaint rule rest ihRule ihRest =>
      intro c piece d hpiece
      exact absurd hpiece follow_forbid_ne_ok
  | endsInBraces rule ih =>
      apply Parser.progresses_bind_left (ih h)
      intro piece
      exact Parser.steady_pure _

end Rule

end Progress

section Agreement

variable {α β : Type}

namespace Parser

/-- Parsers in sequence read the same from a cursor if the first ones do there, and the second ones
wherever the first ones lead. -/
theorem bind_eq_bind
    {p p' : Parser α}
    {f f' : α → Parser β}
    {c : Cursor}
    (hp : p c = p' c)
    (hf : ∀ a d, p c = .ok (a, d) → f a d = f' a d) :
    (p >>= f) c = (p' >>= f') c := by
  change (p c >>= fun r => f r.1 r.2) = (p' c >>= fun r => f' r.1 r.2)
  rw [← hp]
  cases hrun : p c with
  | error e =>
      rfl
  | ok result =>
      obtain ⟨a, d⟩ := result
      exact hf a d hrun

theorem within_eq_within
    {delimiter : Delimiter}
    {complaint : Complaint}
    {p p' : Parser α}
    {c : Cursor}
    (h :
      ∀ content opening closing rest,
        c.tokens = .group delimiter content opening closing :: rest →
          p ⟨content, closing, c.leftOver⟩ = p' ⟨content, closing, c.leftOver⟩) :
    within delimiter complaint p c = within delimiter complaint p' c := by
  unfold within
  split
  · rename_i delimiter' content opening closing rest htokens
    split
    · rename_i hdelimiter
      subst hdelimiter
      rw [h content opening closing rest htokens]
    · rfl
  · rfl

/-- Repetitions read the same if their steps do wherever they lead. -/
theorem repeatUpTo_eq_repeatUpTo
    {p p' : Parser (Step α)}
    (hp : Steady p)
    {c : Cursor}
    (h : ∀ d, Token.size d.tokens ≤ Token.size c.tokens → p d = p' d)
    (n : Nat) :
    repeatUpTo p n c = repeatUpTo p' n c := by
  induction n generalizing c with
  | zero =>
      rfl
  | succ n ih =>
      apply bind_eq_bind (h c (Nat.le_refl _))
      intro step d hstep
      cases step with
      | again value =>
          have hle := hp.size_le hstep
          have hrest := ih fun e he => h e (Nat.le_trans he hle)
          exact bind_eq_bind hrest fun _ _ _ => rfl
      | last value =>
          rfl
      | done =>
          rfl

end Parser

namespace Rule

theorem entryStep_eq_entryStep
    {entry entry' : Parser Piece}
    {c : Cursor}
    (h : entry c = entry' c) :
    entryStep entry c = entryStep entry' c := by
  apply Parser.bind_eq_bind rfl
  intro closed d htest
  obtain ⟨-, rfl⟩ := Parser.test_eq_ok_iff.mp htest
  cases closed with
  | true =>
      rfl
  | false =>
      exact Parser.bind_eq_bind h fun _ _ _ => rfl

end Rule

end Agreement

section Ranks

/-- The rank of a phrase.  Before a token is read, a phrase is made of phrases of lower ranks. -/
@[simp] def Phrase.rank : Phrase → Nat
  | segment _ | pathRest _ _ | angleArguments | returnType _ | binder | moreBounds _ => 0
  | plainNames | oneAttribute | innerAttributes | visibility => 0
  | lifetimeBounds | predicateLifetimes | importTree _ => 0
  | operators _ _ _ | operandRest _ _ _ | trailers _ | condition | block _ | morePatterns => 0
  | path _ | qualifiedRest _ | constArgument | plainPath | attributes _ | importTrees _ _ => 1
  | qualifiedPath _ | traitBound _ | fieldValues | patternFields => 2
  | namedFields | variants | item | members _ => 2
  | bound _ _ | boundType _ | unary _ | rangeBound | items => 3
  | bounds _ _ _ _ | argumentBounds | parameterBounds | predicateBounds => 4
  | associatedBounds | superTraits | aliasedBounds => 4
  | expression _ | operand _ _ | pattern => 4
  | type _ | statementExpression | expressionList | closureArguments | patterns => 5
  | genericArgument | typeList | functionArguments _ | functionParameters _ => 6
  | tupleFields | predicate | patternList _ | arms | statement => 6
  | predicates | statements => 7

theorem Phrase.rank_lt
    (phrase : Phrase) :
    phrase.rank < 16 := by
  cases phrase <;> simp

namespace Rule

/-- Before a token is read, a rule enters only phrases below a rank. -/
@[simp] def EntersBelow (rank : Nat) : Rule → Prop
  | accept _ => True
  | refuse _ => True
  | read _ => True
  | phrase p => p.rank < rank
  | andThen first second =>
      first.EntersBelow rank ∧
      (first.Progresses ∨ ∀ shape, (second shape).EntersBelow rank)
  | choose _ yes no => yes.EntersBelow rank ∧ no.EntersBelow rank
  | inside _ _ => True
  | listing entry => entry.EntersBelow rank
  | asWritten _ rule => rule.EntersBelow rank
  | silently rule => rule.EntersBelow rank
  | before first second _ =>
      first.EntersBelow rank ∧ (first.Progresses ∨ second.EntersBelow rank)
  | require _ _ rule => rule.EntersBelow rank
  | forbid _ rule rest =>
      rule.EntersBelow rank ∧ (rule.Progresses ∨ rest.EntersBelow rank)
  | endsInBraces rule => rule.EntersBelow rank

/-- Every rule enters only phrases, and every phrase has a rank below sixteen. -/
theorem entersBelow_top
    (rule : Rule) :
    rule.EntersBelow 16 := by
  induction rule with
  | accept shape => trivial
  | refuse complaint => trivial
  | read terminal => trivial
  | phrase p => exact p.rank_lt
  | andThen first second ihFirst ihSecond => exact ⟨ihFirst, Or.inr ihSecond⟩
  | choose test yes no ihYes ihNo => exact ⟨ihYes, ihNo⟩
  | inside delimiter content ih => trivial
  | listing entry ih => exact ih
  | asWritten when rule ih => exact ih
  | silently rule ih => exact ih
  | before first second drop ihFirst ihSecond => exact ⟨ihFirst, Or.inr ihSecond⟩
  | require test complaint rule ih => exact ih
  | forbid complaint rule rest ihRule ihRest => exact ⟨ihRule, Or.inr ihRest⟩
  | endsInBraces rule ih => exact ih

/-- A higher rank allows more phrases. -/
theorem EntersBelow.mono
    {rank rank' : Nat}
    (hle : rank ≤ rank')
    {rule : Rule}
    (h : rule.EntersBelow rank) :
    rule.EntersBelow rank' := by
  induction rule with
  | accept shape => trivial
  | refuse complaint => trivial
  | read terminal => trivial
  | phrase p => exact Nat.lt_of_lt_of_le h hle
  | andThen first second ihFirst ihSecond =>
      exact ⟨ihFirst h.1, h.2.imp id fun hsecond shape => ihSecond shape (hsecond shape)⟩
  | choose test yes no ihYes ihNo => exact ⟨ihYes h.1, ihNo h.2⟩
  | inside delimiter content ih => trivial
  | listing entry ih => exact ih h
  | asWritten when rule ih => exact ih h
  | silently rule ih => exact ih h
  | before first second drop ihFirst ihSecond => exact ⟨ihFirst h.1, h.2.imp id ihSecond⟩
  | require test complaint rule ih => exact ih h
  | forbid complaint rule rest ihRule ihRest => exact ⟨ihRule h.1, h.2.imp id ihRest⟩
  | endsInBraces rule ih => exact ih h

section Following

variable {call call' : Phrase → Parser Piece} {c d : Cursor} {piece : Piece} {rank : Nat}

/-- Behind a rule that makes progress any phrase may be entered, for there are fewer tokens. -/
theorem exists_entersBelow_behind
    (hsteady : ∀ p, Parser.Steady (call p))
    (hcall : ∀ p, p.Progresses → Parser.Progresses (call p))
    {first second : Rule}
    (h : first.Progresses ∨ second.EntersBelow rank)
    (hfirst : first.follow call c = .ok (piece, d)) :
    ∃ rank',
      second.EntersBelow rank' ∧
      16 * Token.size d.tokens + rank' ≤ 16 * Token.size c.tokens + rank := by
  rcases h with hprogress | hsecond
  · have hlt := progresses_follow hsteady hcall hprogress c piece d hfirst
    exact ⟨16, second.entersBelow_top, by omega⟩
  · have hle := (steady_follow hsteady first).size_le hfirst
    exact ⟨rank, hsecond, by omega⟩

/-- Two ways of reading phrases give the same for a rule if they do for every phrase that the rule
may enter: any phrase where fewer tokens are left, and phrases below the rank of the rule. -/
theorem follow_eq_of_agree
    (hsteady : ∀ p, Parser.Steady (call p))
    (hcall : ∀ p, p.Progresses → Parser.Progresses (call p))
    {rule : Rule}
    (hrule : rule.EntersBelow rank)
    (hagree :
      ∀ p d,
        16 * Token.size d.tokens + p.rank < 16 * Token.size c.tokens + rank →
          call p d = call' p d) :
    rule.follow call c = rule.follow call' c := by
  induction rule generalizing c rank with
  | accept shape =>
      rfl
  | refuse complaint =>
      rfl
  | read terminal =>
      rfl
  | phrase p =>
      exact hagree p c (by simpa using hrule)
  | andThen first second ihFirst ihSecond =>
      apply Parser.bind_eq_bind (ihFirst hrule.1 hagree)
      intro a d ha
      obtain ⟨rank', hsecond, hle⟩ :=
        exists_entersBelow_behind hsteady hcall (hrule.2.imp id fun h => h a.shape) ha
      apply Parser.bind_eq_bind
        (ihSecond a.shape hsecond fun p e he => hagree p e (by omega))
      intro b e hb
      rfl
  | choose test yes no ihYes ihNo =>
      rw [follow_choose, follow_choose, ihYes hrule.1 hagree, ihNo hrule.2 hagree]
  | inside delimiter content ih =>
      have hcontent :
          ∀ tokens opening closing rest,
            c.tokens = .group delimiter tokens opening closing :: rest →
              content.follow call ⟨tokens, closing, c.leftOver⟩ =
                content.follow call' ⟨tokens, closing, c.leftOver⟩ := by
        intro tokens opening closing rest htokens
        apply ih content.entersBelow_top
        intro p d hd
        apply hagree
        rw [htokens, Token.size_group_cons]
        dsimp only at hd
        omega
      apply Parser.bind_eq_bind (Parser.within_eq_within hcontent)
      intro result d hresult
      rfl
  | listing entry ih =>
      have hentry :
          ∀ d, Token.size d.tokens ≤ Token.size c.tokens →
            entryStep (entry.follow call) d = entryStep (entry.follow call') d := by
        intro d hd
        exact entryStep_eq_entryStep (ih hrule fun p e he => hagree p e (by omega))
      have hentries :
          Parser.repeatSteps (entryStep (entry.follow call)) c =
            Parser.repeatSteps (entryStep (entry.follow call')) c :=
        Parser.repeatUpTo_eq_repeatUpTo
          (steady_entryStep (steady_follow hsteady entry)) hentry _
      apply Parser.bind_eq_bind hentries
      intro entries d hread
      rfl
  | asWritten when rule ih =>
      apply Parser.bind_eq_bind rfl
      intro front d hfront
      obtain ⟨-, rfl⟩ : c = front ∧ c = d := Prod.mk.inj (Except.ok.inj hfront)
      apply Parser.bind_eq_bind (ih hrule hagree)
      intro piece d hpiece
      rfl
  | silently rule ih =>
      apply Parser.bind_eq_bind (ih hrule hagree)
      intro piece d hpiece
      rfl
  | before first second drop ihFirst ihSecond =>
      apply Parser.bind_eq_bind (ihFirst hrule.1 hagree)
      intro a d ha
      obtain ⟨rank', hsecond, hle⟩ := exists_entersBelow_behind hsteady hcall hrule.2 ha
      apply Parser.bind_eq_bind (ihSecond hsecond fun p e he => hagree p e (by omega))
      intro b e hb
      rfl
  | require test complaint rule ih =>
      apply Parser.bind_eq_bind (ih hrule hagree)
      intro piece d hpiece
      rfl
  | forbid complaint rule rest ihRule ihRest =>
      apply Parser.bind_eq_bind (ihRule hrule.1 hagree)
      intro a d ha
      obtain ⟨rank', hrest, hle⟩ := exists_entersBelow_behind hsteady hcall hrule.2 ha
      apply Parser.bind_eq_bind (ihRest hrest fun p e he => hagree p e (by omega))
      intro b e hb
      rfl
  | endsInBraces rule ih =>
      apply Parser.bind_eq_bind (ih hrule hagree)
      intro piece d hpiece
      rfl

end Following

end Rule

end Ranks

end Caseless
