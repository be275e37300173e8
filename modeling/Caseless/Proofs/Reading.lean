import Caseless.Proofs.Checking

/-!
# What every parser keeps

A parser that succeeds only moves its cursor forward: it leaves the last of the tokens that it
was given, it keeps the place that stands for their end, and it never forgets a token that was
left over in a group.  Nor does its result depend on the place that stands for the end, which
only errors point at.

A parser with these properties is called steady.  Steadiness is shown for each way of combining
parsers, then for all rules by induction on the rule, and for all phrases by induction on the
depth of nested phrases.
-/

namespace Caseless

section Steady

variable {α β : Type}

/-- A cursor is reached from another one by reading on. -/
structure Cursor.Reaches (c d : Cursor) : Prop where
  tokens : d.tokens <:+ c.tokens
  close : d.close = c.close
  leftOver : ∀ e, c.leftOver = some e → d.leftOver = some e

namespace Cursor

theorem Reaches.refl
    (c : Cursor) :
    c.Reaches c :=
  ⟨List.suffix_refl _, rfl, fun _ h => h⟩

theorem Reaches.trans
    {c d e : Cursor}
    (h : c.Reaches d)
    (h' : d.Reaches e) :
    c.Reaches e :=
  ⟨h'.tokens.trans h.tokens, h'.close.trans h.close, fun e he => h'.leftOver e (h.leftOver e he)⟩

/-- What was not left over in the end was not left over before. -/
theorem Reaches.leftOver_eq_none
    {c d : Cursor}
    (h : c.Reaches d)
    (hd : d.leftOver = none) :
    c.leftOver = none := by
  cases hc : c.leftOver with
  | none =>
      rfl
  | some e =>
      rw [h.leftOver e hc] at hd
      cases hd

/-- What is left over in a group keeps what was left over before it. -/
theorem remains_of_leftOver
    {c : Cursor}
    {e : SyntaxError}
    (h : c.leftOver = some e)
    (complaint : Complaint) :
    c.remains complaint = some e := by
  simp [remains, h]

/-- Nothing is left over where the tokens have come to an end and no group had any left. -/
theorem remains_eq_none_iff
    (c : Cursor)
    {complaint : Complaint} :
    c.remains complaint = none ↔ c.tokens = [] ∧ c.leftOver = none := by
  obtain ⟨tokens, close, leftOver⟩ := c
  cases leftOver with
  | some e =>
      simp [remains]
  | none =>
      cases tokens with
      | nil =>
          simp [remains]
      | cons token rest =>
          simp [remains]

end Cursor

namespace Parser

/-- A parser is steady if it only reads on, whatever place stands for the end of the tokens. -/
def Steady (p : Parser α) : Prop :=
  ∀ c v d,
    p c = .ok (v, d) →
      c.Reaches d ∧
      ∀ close, p { c with close := close } = .ok (v, { d with close := close })

/-- Parsers in sequence succeed if the second one does where the first one stops. -/
theorem bind_eq_ok_iff
    {p : Parser α}
    {f : α → Parser β}
    {c d : Cursor}
    {b : β} :
    (p >>= f) c = .ok (b, d) ↔ ∃ a c', p c = .ok (a, c') ∧ f a c' = .ok (b, d) := by
  change ((p c) >>= fun r => f r.1 r.2) = .ok (b, d) ↔ _
  rw [exceptBind_eq_ok_iff]
  constructor
  · rintro ⟨⟨a, c'⟩, hp, hf⟩
    exact ⟨a, c', hp, hf⟩
  · rintro ⟨a, c', hp, hf⟩
    exact ⟨(a, c'), hp, hf⟩

theorem pure_eq_ok_iff
    {a b : α}
    {c d : Cursor} :
    (pure a : Parser α) c = .ok (b, d) ↔ a = b ∧ c = d := by
  change Except.ok (a, c) = .ok (b, d) ↔ _
  simp

theorem test_eq_ok_iff
    {p : List Token → Bool}
    {c d : Cursor}
    {b : Bool} :
    test p c = .ok (b, d) ↔ p c.tokens = b ∧ c = d := by
  simp [test]

theorem steady_pure
    (a : α) :
    Steady (pure a : Parser α) := by
  intro c v d h
  obtain ⟨rfl, rfl⟩ := pure_eq_ok_iff.mp h
  exact ⟨Cursor.Reaches.refl c, fun close => rfl⟩

theorem steady_bind
    {p : Parser α}
    {f : α → Parser β}
    (hp : Steady p)
    (hf : ∀ a, Steady (f a)) :
    Steady (p >>= f) := by
  intro c v d h
  obtain ⟨a, c', h₁, h₂⟩ := bind_eq_ok_iff.mp h
  obtain ⟨hreach₁, hclose₁⟩ := hp c a c' h₁
  obtain ⟨hreach₂, hclose₂⟩ := hf a c' v d h₂
  refine ⟨hreach₁.trans hreach₂, ?_⟩
  intro close
  exact bind_eq_ok_iff.mpr ⟨a, _, hclose₁ close, hclose₂ close⟩

theorem steady_fail
    (complaint : Complaint) :
    Steady (fail complaint : Parser α) := by
  intro c v d h
  cases h

theorem steady_throw
    (e : SyntaxError) :
    Steady (throw e : Parser α) := by
  intro c v d h
  cases h

theorem steady_test
    (p : List Token → Bool) :
    Steady (test p) := by
  intro c v d h
  obtain ⟨rfl, rfl⟩ := test_eq_ok_iff.mp h
  exact ⟨Cursor.Reaches.refl c, fun close => rfl⟩

theorem steady_ite
    {b : Bool}
    {p q : Parser α}
    (hp : Steady p)
    (hq : Steady q) :
    Steady (if b = true then p else q) := by
  cases b with
  | true =>
      exact hp
  | false =>
      exact hq

/-- What is taken leaves the rest of the tokens, and changes nothing else of the cursor. -/
theorem takeOr_eq_ok_iff
    {take : List Token → Option (α × List Token)}
    {complaint : Complaint}
    {c d : Cursor}
    {a : α} :
    takeOr take complaint c = .ok (a, d)
      ↔
    ∃ rest, take c.tokens = some (a, rest) ∧ d = { c with tokens := rest } := by
  unfold takeOr
  cases take c.tokens with
  | none =>
      simp
  | some found =>
      obtain ⟨b, rest⟩ := found
      constructor
      · intro h
        obtain ⟨rfl, rfl⟩ : b = a ∧ { c with tokens := rest } = d := by simpa using h
        exact ⟨rest, rfl, rfl⟩
      · rintro ⟨rest', h, rfl⟩
        obtain ⟨rfl, rfl⟩ : b = a ∧ rest = rest' := by simpa using h
        rfl

/-- What a parser takes must stand at the front of the tokens. -/
theorem steady_takeOr
    {take : List Token → Option (α × List Token)}
    (htake : ∀ tokens a rest, take tokens = some (a, rest) → rest <:+ tokens)
    (complaint : List Token → Complaint) :
    Steady (fun c => takeOr take (complaint c.tokens) c) := by
  intro c v d h
  obtain ⟨rest, hrest, rfl⟩ := takeOr_eq_ok_iff.mp h
  refine ⟨⟨htake _ _ _ hrest, rfl, fun _ he => he⟩, ?_⟩
  intro close
  exact takeOr_eq_ok_iff.mpr ⟨rest, hrest, rfl⟩

/-- A group is read with a cursor of its own, and what is left over in it is remembered. -/
theorem within_eq_ok_iff
    {delimiter : Delimiter}
    {complaint : Complaint}
    {p : Parser α}
    {c d : Cursor}
    {r : α × Span × Span} :
    within delimiter complaint p c = .ok (r, d)
      ↔
    ∃ content opening closing rest a inner,
      c.tokens = .group delimiter content opening closing :: rest ∧
      p ⟨content, closing, c.leftOver⟩ = .ok (a, inner) ∧
      r = (a, opening, closing) ∧
      d = ⟨rest, c.close, inner.remains (.leftOver delimiter)⟩ := by
  unfold within
  constructor
  · intro h
    split at h
    · rename_i delimiter' content opening closing rest htokens
      split at h
      · rename_i hdelimiter
        subst hdelimiter
        split at h
        · rename_i a inner hinner
          obtain ⟨rfl, rfl⟩ := (by simpa using h : _ = r ∧ _ = d)
          exact ⟨content, opening, closing, rest, a, inner, htokens, hinner, rfl, rfl⟩
        · cases h
      · cases h
    · cases h
  · rintro ⟨content, opening, closing, rest, a, inner, htokens, hinner, rfl, rfl⟩
    simp [htokens, hinner]

theorem steady_within
    {p : Parser α}
    (hp : Steady p)
    (delimiter : Delimiter)
    (complaint : Complaint) :
    Steady (within delimiter complaint p) := by
  intro c v d h
  obtain ⟨content, opening, closing, rest, a, inner, htokens, hinner, rfl, rfl⟩ :=
    within_eq_ok_iff.mp h
  have hreach := (hp _ _ _ hinner).1
  refine ⟨⟨?_, rfl, ?_⟩, ?_⟩
  · rw [htokens]
    exact List.suffix_cons _ _
  · intro e he
    exact Cursor.remains_of_leftOver (hreach.leftOver e he) _
  · intro close
    exact within_eq_ok_iff.mpr
      ⟨content, opening, closing, rest, a, inner, htokens, hinner, rfl, rfl⟩

theorem repeatUpTo_of_done
    {p : Parser (Step α)}
    {c d : Cursor}
    (h : p c = .ok (.done, d))
    (n : Nat) :
    repeatUpTo p (n + 1) c = .ok ([], d) :=
  bind_eq_ok_iff.mpr ⟨.done, d, h, rfl⟩

theorem repeatUpTo_of_last
    {p : Parser (Step α)}
    {c d : Cursor}
    {value : α}
    (h : p c = .ok (.last value, d))
    (n : Nat) :
    repeatUpTo p (n + 1) c = .ok ([value], d) :=
  bind_eq_ok_iff.mpr ⟨.last value, d, h, rfl⟩

/-- A step that asks for another one adds its value in front of those that follow. -/
theorem repeatUpTo_of_again
    {p : Parser (Step α)}
    {c c' d : Cursor}
    {value : α}
    {values : List α}
    {n : Nat}
    (h : p c = .ok (.again value, c'))
    (hrest : repeatUpTo p n c' = .ok (values, d)) :
    repeatUpTo p (n + 1) c = .ok (value :: values, d) :=
  bind_eq_ok_iff.mpr
    ⟨.again value, c', h, bind_eq_ok_iff.mpr ⟨values, d, hrest, rfl⟩⟩

theorem steady_repeatUpTo
    {p : Parser (Step α)}
    (hp : Steady p)
    (n : Nat) :
    Steady (repeatUpTo p n) := by
  induction n with
  | zero =>
      exact steady_fail _
  | succ n ih =>
      apply steady_bind hp
      intro step
      cases step with
      | again value =>
          apply steady_bind ih
          intro values
          exact steady_pure _
      | last value =>
          exact steady_pure _
      | done =>
          exact steady_pure _

theorem steady_repeatSteps
    {p : Parser (Step α)}
    (hp : Steady p) :
    Steady (repeatSteps p) := by
  intro c v d h
  exact steady_repeatUpTo hp _ c v d h

/-- Reading all of some tokens succeeds if nothing is left over, neither behind what was read nor in
a group. -/
theorem parseAll_eq_ok_iff
    {p : Parser α}
    {tokens : List Token}
    {close : Span}
    {value : α} :
    parseAll p tokens close = .ok value
      ↔
    ∃ d, p ⟨tokens, close, none⟩ = .ok (value, d) ∧ d.tokens = [] ∧ d.leftOver = none := by
  unfold parseAll
  constructor
  · intro h
    split at h
    · rename_i v d hrun
      split at h
      · rename_i hnone
        obtain rfl : v = value := by simpa using h
        exact ⟨d, hrun, d.remains_eq_none_iff.mp hnone⟩
      · cases h
    · cases h
  · rintro ⟨d, hrun, hend⟩
    rw [hrun]
    simp only [d.remains_eq_none_iff.mpr hend]

end Parser

end Steady

section Terminals

theorem Token.takeSymbol_suffix
    (cs : List Char)
    (tokens : List Token)
    {taken rest : List Token}
    (h : takeSymbol cs tokens = some (taken, rest)) :
    rest <:+ tokens := by
  fun_induction takeSymbol cs tokens generalizing taken rest with
  | case1 c spacing span tail =>
      obtain ⟨-, rfl⟩ : _ = taken ∧ tail = rest := by simpa using h
      exact List.suffix_cons _ _
  | case2 =>
      cases h
  | case3 c c' cs span tail ih =>
      obtain ⟨⟨taken', rest'⟩, htail, heq⟩ := Option.map_eq_some_iff.mp h
      obtain ⟨-, rfl⟩ : _ = taken ∧ rest' = rest := by simpa using heq
      exact (ih htail).trans (List.suffix_cons _ _)
  | case4 =>
      cases h
  | case5 =>
      cases h

namespace Terminal

/-- A terminal is taken from the front of the tokens. -/
theorem take_suffix
    (terminal : Terminal)
    (tokens : List Token)
    (taken rest : List Token)
    (h : terminal.take tokens = some (taken, rest)) :
    rest <:+ tokens := by
  unfold take at h
  split at h
  case h_1 => exact Token.takeSymbol_suffix _ _ h
  case h_2 =>
    obtain ⟨⟨taken', rest'⟩, htake, heq⟩ := Option.map_eq_some_iff.mp h
    obtain ⟨-, rfl⟩ : _ = taken ∧ rest' = rest := by simpa using heq
    exact Token.takeSymbol_suffix _ _ htake
  all_goals grind [Option.map_eq_some_iff, List.suffix_cons_iff]

theorem steady_read
    (terminal : Terminal) :
    Parser.Steady terminal.read :=
  Parser.steady_takeOr terminal.take_suffix terminal.complaint

end Terminal

end Terminals

section Rules

namespace Rule

section Following

variable {call : Phrase → Parser Piece} {c d : Cursor} {piece : Piece}

theorem follow_read_eq_ok_iff
    {terminal : Terminal} :
    (read terminal).follow call c = .ok (piece, d)
      ↔
    ∃ tokens, terminal.read c = .ok (tokens, d) ∧ piece = ⟨.plain, tokens⟩ := by
  rw [follow]
  simp only [Parser.bind_eq_ok_iff, Parser.pure_eq_ok_iff]
  constructor
  · rintro ⟨tokens, c', hread, rfl, rfl⟩
    exact ⟨tokens, hread, rfl⟩
  · rintro ⟨tokens, hread, rfl⟩
    exact ⟨tokens, d, hread, rfl, rfl⟩

theorem follow_andThen_eq_ok_iff
    {first : Rule}
    {second : Shape → Rule} :
    (andThen first second).follow call c = .ok (piece, d)
      ↔
    ∃ a c' b,
      first.follow call c = .ok (a, c') ∧
      (second a.shape).follow call c' = .ok (b, d) ∧
      piece = ⟨b.shape, a.tokens ++ b.tokens⟩ := by
  rw [follow]
  simp only [Parser.bind_eq_ok_iff, Parser.pure_eq_ok_iff]
  constructor
  · rintro ⟨a, c', ha, b, c'', hb, rfl, rfl⟩
    exact ⟨a, c', b, ha, hb, rfl⟩
  · rintro ⟨a, c', b, ha, hb, rfl⟩
    exact ⟨a, c', ha, b, d, hb, rfl, rfl⟩

/-- A choice is made by looking at the tokens ahead, without reading any. -/
theorem follow_choose
    (test : Lookahead)
    (yes no : Rule)
    (c : Cursor) :
    (choose test yes no).follow call c =
      if test.holds c.tokens = true then yes.follow call c else no.follow call c := by
  rw [follow]
  change (if test.holds c.tokens = true then yes.follow call else no.follow call) c = _
  split <;> rfl

theorem follow_inside_eq_ok_iff
    {delimiter : Delimiter}
    {content : Rule} :
    (inside delimiter content).follow call c = .ok (piece, d)
      ↔
    ∃ tokens opening closing rest inner innerEnd,
      c.tokens = .group delimiter tokens opening closing :: rest ∧
      content.follow call ⟨tokens, closing, c.leftOver⟩ = .ok (inner, innerEnd) ∧
      piece = ⟨inner.shape, [.group delimiter inner.tokens opening closing]⟩ ∧
      d = ⟨rest, c.close, innerEnd.remains (.leftOver delimiter)⟩ := by
  rw [follow]
  simp only [Parser.bind_eq_ok_iff, Parser.pure_eq_ok_iff, Parser.within_eq_ok_iff]
  constructor
  · rintro ⟨r, c', ⟨tokens, opening, closing, rest, inner, innerEnd, htokens, hinner, rfl, rfl⟩,
      rfl, rfl⟩
    exact ⟨tokens, opening, closing, rest, inner, innerEnd, htokens, hinner, rfl, rfl⟩
  · rintro ⟨tokens, opening, closing, rest, inner, innerEnd, htokens, hinner, rfl, rfl⟩
    exact ⟨_, _, ⟨tokens, opening, closing, rest, inner, innerEnd, htokens, hinner, rfl, rfl⟩,
      rfl, rfl⟩

theorem follow_before_eq_ok_iff
    {first second : Rule}
    {drop : Shape → Bool} :
    (before first second drop).follow call c = .ok (piece, d)
      ↔
    ∃ a c' b,
      first.follow call c = .ok (a, c') ∧
      second.follow call c' = .ok (b, d) ∧
      piece = if drop b.shape = true then b else ⟨b.shape, a.tokens ++ b.tokens⟩ := by
  rw [follow]
  simp only [Parser.bind_eq_ok_iff, Parser.pure_eq_ok_iff]
  constructor
  · rintro ⟨a, c', ha, b, c'', hb, rfl, rfl⟩
    exact ⟨a, c', b, ha, hb, rfl⟩
  · rintro ⟨a, c', b, ha, hb, rfl⟩
    exact ⟨a, c', ha, b, d, hb, rfl, rfl⟩

/-- Where something is required, only what meets the test is read. -/
theorem follow_require_eq_ok_iff
    {test : Shape → Bool}
    {complaint : Complaint}
    {rule : Rule} :
    (require test complaint rule).follow call c = .ok (piece, d)
      ↔
    rule.follow call c = .ok (piece, d) ∧ test piece.shape = true := by
  rw [follow]
  simp only [Parser.bind_eq_ok_iff]
  constructor
  · rintro ⟨a, c', ha, hrest⟩
    cases htest : test a.shape with
    | true =>
        simp only [htest, if_true, Parser.pure_eq_ok_iff] at hrest
        obtain ⟨rfl, rfl⟩ := hrest
        exact ⟨ha, htest⟩
    | false =>
        simp only [htest, Bool.false_eq_true, if_false] at hrest
        cases hrest
  · rintro ⟨hrule, htest⟩
    refine ⟨piece, d, hrule, ?_⟩
    simp only [htest, if_true]
    rfl

/-- Nothing is read where it is forbidden. -/
theorem follow_forbid_ne_ok
    {complaint : Complaint}
    {rule rest : Rule} :
    (forbid complaint rule rest).follow call c ≠ .ok (piece, d) := by
  intro h
  rw [follow] at h
  simp only [Parser.bind_eq_ok_iff] at h
  obtain ⟨a, c', -, b, c'', -, hthrow⟩ := h
  cases hthrow

end Following

theorem steady_entryStep
    {entry : Parser Piece}
    (hentry : Parser.Steady entry) :
    Parser.Steady (entryStep entry) := by
  apply Parser.steady_bind (Parser.steady_test _)
  intro closed
  apply Parser.steady_ite (Parser.steady_pure _)
  apply Parser.steady_bind hentry
  intro piece
  apply Parser.steady_bind (Parser.steady_test _)
  intro closed
  apply Parser.steady_ite (Parser.steady_pure _)
  apply Parser.steady_bind (Terminal.steady_read _)
  intro comma
  exact Parser.steady_pure _

/-- What is kept as it is written are the tokens between two cursors. -/
theorem follow_asWritten_eq_ok_iff
    {call : Phrase → Parser Piece}
    {when : Shape → Bool}
    {rule : Rule}
    {c d : Cursor}
    {result : Piece} :
    (asWritten when rule).follow call c = .ok (result, d)
      ↔
    ∃ piece,
      rule.follow call c = .ok (piece, d) ∧
      result =
        if when piece.shape = true then
          ⟨piece.shape, c.tokens.take (c.tokens.length - d.tokens.length)⟩
        else piece := by
  have hget : ∀ a : Cursor, (get : Parser Cursor) a = .ok (a, a) := fun _ => rfl
  rw [follow]
  simp only [Parser.bind_eq_ok_iff, hget]
  constructor
  · rintro ⟨c₀, c₁, hc, piece, d₁, hpiece, d₀, d₂, hd, hresult⟩
    obtain ⟨rfl, rfl⟩ : c = c₀ ∧ c = c₁ := by simpa using hc
    obtain ⟨rfl, rfl⟩ : d₁ = d₀ ∧ d₁ = d₂ := by simpa using hd
    cases hwhen : when piece.shape with
    | true =>
        rw [hwhen] at hresult
        obtain ⟨rfl, rfl⟩ := Parser.pure_eq_ok_iff.mp hresult
        exact ⟨piece, hpiece, by simp [hwhen]⟩
    | false =>
        rw [hwhen] at hresult
        obtain ⟨rfl, rfl⟩ := Parser.pure_eq_ok_iff.mp hresult
        exact ⟨piece, hpiece, by simp [hwhen]⟩
  · rintro ⟨piece, hpiece, rfl⟩
    refine ⟨c, c, rfl, piece, d, hpiece, d, d, rfl, ?_⟩
    cases hwhen : when piece.shape with
    | true =>
        rfl
    | false =>
        rfl

/-- A rule is followed steadily if phrases are read steadily. -/
theorem steady_follow
    {call : Phrase → Parser Piece}
    (hcall : ∀ phrase, Parser.Steady (call phrase))
    (rule : Rule) :
    Parser.Steady (rule.follow call) := by
  induction rule with
  | accept shape =>
      exact Parser.steady_pure _
  | refuse complaint =>
      exact Parser.steady_fail _
  | read terminal =>
      apply Parser.steady_bind terminal.steady_read
      intro tokens
      exact Parser.steady_pure _
  | phrase p =>
      exact hcall p
  | andThen first second ihFirst ihSecond =>
      apply Parser.steady_bind ihFirst
      intro a
      apply Parser.steady_bind (ihSecond a.shape)
      intro b
      exact Parser.steady_pure _
  | choose test yes no ihYes ihNo =>
      apply Parser.steady_bind (Parser.steady_test _)
      intro holds
      exact Parser.steady_ite ihYes ihNo
  | inside delimiter content ih =>
      apply Parser.steady_bind (Parser.steady_within ih _ _)
      intro result
      exact Parser.steady_pure _
  | listing entry ih =>
      apply Parser.steady_bind (Parser.steady_repeatSteps (steady_entryStep ih))
      intro entries
      exact Parser.steady_pure _
  | asWritten when rule ih =>
      intro c v d h
      obtain ⟨piece, hpiece, rfl⟩ := follow_asWritten_eq_ok_iff.mp h
      obtain ⟨hreach, hclose⟩ := ih c piece d hpiece
      refine ⟨hreach, ?_⟩
      intro close
      exact follow_asWritten_eq_ok_iff.mpr ⟨piece, hclose close, rfl⟩
  | silently rule ih =>
      apply Parser.steady_bind ih
      intro piece
      exact Parser.steady_pure _
  | before first second drop ihFirst ihSecond =>
      apply Parser.steady_bind ihFirst
      intro a
      apply Parser.steady_bind ihSecond
      intro b
      exact Parser.steady_pure _
  | require test complaint rule ih =>
      apply Parser.steady_bind ih
      intro piece
      exact Parser.steady_ite (Parser.steady_pure _) (Parser.steady_throw _)
  | forbid complaint rule rest ihRule ihRest =>
      intro c v d h
      exact absurd h follow_forbid_ne_ok
  | endsInBraces rule ih =>
      apply Parser.steady_bind ih
      intro piece
      exact Parser.steady_pure _

end Rule

/-- Phrases are read steadily at every depth. -/
theorem Phrase.steady_readTo
    (depth : Nat)
    (phrase : Phrase) :
    Parser.Steady (phrase.readTo depth) := by
  induction depth generalizing phrase with
  | zero =>
      exact Parser.steady_fail _
  | succ depth ih =>
      exact Rule.steady_follow ih phrase.rule

theorem Rule.parse_eq_ok_iff
    {rule : Rule}
    {c d : Cursor}
    {tokens : List Token} :
    rule.parse c = .ok (tokens, d)
      ↔
    ∃ piece,
      rule.follow (Phrase.readTo (depthFor c.tokens)) c = .ok (piece, d) ∧
        piece.tokens = tokens := by
  unfold parse
  split
  · rename_i piece rest h
    constructor
    · intro heq
      obtain ⟨rfl, rfl⟩ : piece.tokens = tokens ∧ rest = d := by simpa using heq
      exact ⟨piece, h, rfl⟩
    · rintro ⟨piece', h', rfl⟩
      rw [h] at h'
      obtain ⟨rfl, rfl⟩ : piece = piece' ∧ rest = d := by simpa using h'
      rfl
  · rename_i error h
    simp [h]

theorem Rule.steady_parse
    (rule : Rule) :
    Parser.Steady rule.parse := by
  intro c v d h
  obtain ⟨piece, hfollow, rfl⟩ := Rule.parse_eq_ok_iff.mp h
  obtain ⟨hreach, hclose⟩ :=
    Rule.steady_follow (Phrase.steady_readTo _) rule c piece d hfollow
  refine ⟨hreach, ?_⟩
  intro close
  exact Rule.parse_eq_ok_iff.mpr ⟨piece, hclose close, rfl⟩

theorem Phrase.steady_parse
    (phrase : Phrase) :
    Parser.Steady phrase.parse :=
  Rule.steady_parse (.phrase phrase)

end Rules

end Caseless
