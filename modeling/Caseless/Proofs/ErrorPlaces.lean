import Caseless.Proofs.PhrasePlaces

/-!
# The places that errors point at

An error of a parser is about tokens in front of its cursor, or about the closing delimiter behind
them: its span runs from the beginning of a lexeme there to the end of the same or a later one.
This holds for the token in front of which a parser stops, for a token that is left over in a group,
and for a list of bounds without a trait.

A parser with this property is said to blame its input.  It is shown for each way of combining
parsers, then for all rules by induction on the rule, and for all phrases by induction on the depth
of nested phrases (`Phrase.blames_readTo`).
-/

namespace Caseless

section Spans

namespace Span

/-- Some spans are not empty and follow each other. -/
structure Ordered (spans : List Span) : Prop where
  nonempty : ∀ s ∈ spans, s.start < s.stop
  precedes : spans.Pairwise Precedes

/-- A span runs from one of some spans to the same or a later one. -/
structure Runs (s : Span) (spans : List Span) : Prop where
  start : ∃ x ∈ spans, s.start = x.start
  stop : ∃ y ∈ spans, s.stop = y.stop
  nonempty : s.start < s.stop

variable {s : Span} {spans others : List Span}

theorem Ordered.sublist
    (h : Ordered spans)
    (hsublist : others.Sublist spans) :
    Ordered others :=
  ⟨fun s hs => h.nonempty s (hsublist.subset hs), h.precedes.sublist hsublist⟩

theorem Ordered.runs_of_mem
    (h : Ordered spans)
    (hs : s ∈ spans) :
    s.Runs spans :=
  ⟨⟨s, hs, rfl⟩, ⟨s, hs, rfl⟩, h.nonempty s hs⟩

theorem Runs.mono
    (h : s.Runs spans)
    (hsub : spans ⊆ others) :
    s.Runs others := by
  obtain ⟨⟨x, hx, hstart⟩, ⟨y, hy, hstop⟩, hlt⟩ := h
  exact ⟨⟨x, hsub hx, hstart⟩, ⟨y, hsub hy, hstop⟩, hlt⟩

/-- The last of some spans ends behind the beginning of each of them. -/
theorem Ordered.start_lt_last
    (h : Ordered (spans ++ [s])) :
    ∀ x ∈ spans ++ [s], x.start < s.stop := by
  intro x hx
  have hs := h.nonempty s (by simp)
  rcases List.mem_append.mp hx with hmem | hmem
  · have hprecedes := (List.pairwise_append.mp h.precedes).2.2 x hmem s (by simp)
    exact hprecedes.start_lt_stop (h.nonempty x hx) hs
  · obtain rfl := List.mem_singleton.mp hmem
    exact hs

end Span

/-- Lexemes that are laid out follow each other. -/
theorem Lexeme.Laid.spans_ordered
    {pairs : List (Lexeme × Span)}
    (h : Laid pairs) :
    Span.Ordered (pairs.map (·.2)) :=
  ⟨List.forall_mem_map.mpr h.nonempty, List.pairwise_map.mpr h.ordered⟩

namespace Token

/-- The places of the lexemes of some tokens. -/
def places (tokens : List Token) : List Span := (leavesAll tokens).map (·.2)

@[simp] theorem places_append
    (tokens others : List Token) :
    places (tokens ++ others) = places tokens ++ places others := by
  simp [places]

theorem leavesAll_sublist
    {tokens others : List Token}
    (h : tokens.Sublist others) :
    (leavesAll tokens).Sublist (leavesAll others) := by
  induction h with
  | slnil =>
      exact List.Sublist.refl _
  | cons token _ ih =>
      exact ih.trans (List.sublist_append_right _ _)
  | cons_cons token _ ih =>
      exact ih.append_left token.leaves

theorem places_sublist
    {tokens others : List Token}
    (h : tokens.Sublist others) :
    (places tokens).Sublist (places others) :=
  (leavesAll_sublist h).map _

/-- The lexemes of a token are among those of the tokens where it stands. -/
theorem leaves_sublist_of_mem
    {token : Token}
    {tokens : List Token}
    (h : token ∈ tokens) :
    token.leaves.Sublist (leavesAll tokens) := by
  simpa using leavesAll_sublist (List.singleton_sublist.mpr h)

theorem front_mem_places
    {token : Token}
    {tokens : List Token} :
    token.front ∈ places (token :: tokens) := by
  obtain ⟨a, others, hleaves, -⟩ := token.leaves_eq_cons
  simp [places, hleaves]

/-- The places of some tokens end where the last token ends. -/
theorem places_concat
    (tokens : List Token)
    (token : Token) :
    ∃ others last, places (tokens ++ [token]) = others ++ [last] ∧ last.stop = token.span.stop := by
  obtain ⟨others, e, hleaves, hstop⟩ := token.leaves_eq_append
  exact ⟨places tokens ++ others.map (·.2), e.2, by simp [places, hleaves], hstop⟩

theorem stop?_eq_spanAll
    {tokens : List Token}
    (h : tokens ≠ []) :
    stop? tokens = some (spanAll tokens).stop := by
  obtain ⟨token, rest, rfl⟩ := List.exists_cons_of_ne_nil h
  simp [stop?, spanAll, Span.join, List.getLast?_eq_some_getLast]

/-- What is printed with the places of some tokens runs over these tokens. -/
theorem runs_spanAll
    {printed read : List Token}
    (hordered : Span.Ordered (places read))
    (hbegins : BeginsIn printed read)
    (hstop : stop? printed = stop? read)
    (hne : printed ≠ []) :
    (spanAll printed).Runs (places read) := by
  have hread := ne_nil_of_stop?_eq hstop hne
  obtain ⟨front, last, rfl⟩ := (List.eq_nil_or_concat' read).resolve_left hread
  obtain ⟨others, y, hplaces, hy⟩ := places_concat front last
  have hend : (spanAll printed).stop = y.stop := by
    rw [stop?_eq_spanAll hne] at hstop
    simpa [stop?, hy] using hstop
  obtain ⟨token, rest, rfl⟩ := List.exists_cons_of_ne_nil hne
  obtain ⟨x, hx, hstart⟩ := hbegins token rfl
  have hmem : x.2 ∈ places (front ++ [last]) := List.mem_map_of_mem hx
  rw [hplaces] at hordered hmem ⊢
  refine ⟨⟨x.2, hmem, hstart.symm⟩, ⟨y, by simp, hend⟩, ?_⟩
  have hlt := hordered.start_lt_last x.2 hmem
  rw [hstart, ← hend] at hlt
  exact hlt

end Token

/-- A single token runs over its own lexemes. -/
theorem Token.runs_span
    {token : Token}
    {tokens : List Token}
    (hmem : token ∈ tokens)
    (hordered : Span.Ordered (places tokens)) :
    token.span.Runs (places tokens) := by
  have hplaces := places_sublist (List.singleton_sublist.mpr hmem)
  have hspan : spanAll [token] = token.span := rfl
  rw [← hspan]
  exact (runs_spanAll (hordered.sublist hplaces) (beginsIn_self _) rfl (by simp)).mono
    hplaces.subset

/-- What is printed by a rule that opens and closes properly runs over the tokens in front of it. -/
theorem Rule.runs_of_follow
    {rule : Rule}
    (hopens : rule.Opens true)
    (hcloses : rule.Closes true)
    {depth : Nat}
    {c d : Cursor}
    {piece : Piece}
    (hlaid : Lexeme.Laid (Token.leavesAll c.tokens))
    (h : rule.follow (Phrase.readTo depth) c = .ok (piece, d)) :
    (Token.spanAll piece.tokens).Runs (Token.places c.tokens) := by
  obtain ⟨read, hread, hbegins, hstop, hne⟩ := places_of_follow hopens hcloses hlaid h
  have hsublist : read.Sublist c.tokens := by
    rw [hread]
    exact List.sublist_append_left _ _
  have hplaces := Token.places_sublist hsublist
  have hordered := hlaid.spans_ordered.sublist hplaces
  exact (Token.runs_spanAll hordered hbegins hstop hne).mono hplaces.subset

theorem Rule.runs_of_parse
    {rule : Rule}
    (hopens : rule.Opens true)
    (hcloses : rule.Closes true)
    {c d : Cursor}
    {tokens : List Token}
    (hlaid : Lexeme.Laid (Token.leavesAll c.tokens))
    (h : rule.parse c = .ok (tokens, d)) :
    (Token.spanAll tokens).Runs (Token.places c.tokens) := by
  obtain ⟨piece, hpiece, rfl⟩ := Rule.parse_eq_ok_iff.mp h
  exact runs_of_follow hopens hcloses hlaid hpiece

namespace Cursor

/-- The places in front of a cursor, up to the one that stands for the end. -/
def spans (c : Cursor) : List Span := Token.places c.tokens ++ [c.close]

theorem places_subset_spans
    (c : Cursor) :
    Token.places c.tokens ⊆ c.spans :=
  List.subset_append_left _ _

theorem here_mem_spans
    (c : Cursor) :
    c.here ∈ c.spans := by
  obtain ⟨tokens, close, leftOver⟩ := c
  cases tokens with
  | nil =>
      exact List.mem_singleton_self close
  | cons token rest =>
      exact List.mem_append_left _ Token.front_mem_places

/-- The lexemes in front of a cursor, up to the delimiter that stands for the end, are laid out. -/
def Laid (c : Cursor) : Prop :=
  ∃ delimiter, Lexeme.Laid (Token.leavesAll c.tokens ++ [(.closing delimiter, c.close)])

theorem Laid.tokens
    {c : Cursor}
    (h : c.Laid) :
    Lexeme.Laid (Token.leavesAll c.tokens) := by
  obtain ⟨delimiter, hlaid⟩ := h
  exact hlaid.sublist (List.sublist_append_left _ _)

theorem Laid.ordered
    {c : Cursor}
    (h : c.Laid) :
    Span.Ordered c.spans := by
  obtain ⟨delimiter, hlaid⟩ := h
  have hordered := hlaid.spans_ordered
  rwa [List.map_append] at hordered

/-- Reading on leaves some of the places. -/
theorem Reaches.spans_subset
    {c d : Cursor}
    (h : c.Reaches d) :
    d.spans ⊆ c.spans := by
  obtain ⟨read, hread⟩ := h.tokens
  rw [spans, spans, h.close, ← hread, Token.places_append, List.append_assoc]
  exact List.subset_append_right _ _

theorem Reaches.laid
    {c d : Cursor}
    (h : c.Reaches d)
    (hlaid : c.Laid) :
    d.Laid := by
  obtain ⟨read, hread⟩ := h.tokens
  obtain ⟨delimiter, hlaid⟩ := hlaid
  refine ⟨delimiter, hlaid.sublist ?_⟩
  rw [h.close, ← hread, Token.leavesAll_append, List.append_assoc]
  exact List.sublist_append_right _ _

theorem Reaches.laid_tokens
    {c d : Cursor}
    (h : c.Reaches d)
    (hlaid : Lexeme.Laid (Token.leavesAll c.tokens)) :
    Lexeme.Laid (Token.leavesAll d.tokens) :=
  hlaid.sublist (Token.leavesAll_sublist h.tokens.sublist)

section Inner

variable {tokens content : List Token} {delimiter : Delimiter} {opening closing : Span}

/-- The places in a group are places of the tokens among which it stands. -/
theorem spans_inner_subset
    (h : .group delimiter content opening closing ∈ tokens)
    (leftOver : Option SyntaxError) :
    spans ⟨content, closing, leftOver⟩ ⊆ Token.places tokens := by
  have hgroup := ((Token.leaves_sublist_of_mem h).map (·.2)).subset
  rw [Token.leaves, List.cons_append, List.map_cons, List.map_append] at hgroup
  exact List.Subset.trans (List.subset_cons_self _ _) hgroup

theorem laid_inner
    (hlaid : Lexeme.Laid (Token.leavesAll tokens))
    (h : .group delimiter content opening closing ∈ tokens)
    (leftOver : Option SyntaxError) :
    Laid ⟨content, closing, leftOver⟩ := by
  refine ⟨delimiter, hlaid.sublist ?_⟩
  exact (List.sublist_cons_self _ _).trans (Token.leaves_sublist_of_mem h)

end Inner

end Cursor

end Spans

section Contracts

variable {α β : Type}

namespace Parser

/-- A parser blames its input if its errors, and the tokens that it leaves over in groups, run over
places in front of the cursor. -/
structure Blames (p : Parser α) : Prop where
  error :
    ∀ c e, c.Laid → p c = .error e → e.span.Runs c.spans
  leftOver :
    ∀ c v d e,
      c.Laid →
      p c = .ok (v, d) →
      d.leftOver = some e →
        c.leftOver = some e ∨ e.span.Runs c.spans

theorem bind_eq_error_iff
    {p : Parser α}
    {f : α → Parser β}
    {c : Cursor}
    {e : SyntaxError} :
    (p >>= f) c = .error e
      ↔
    p c = .error e ∨ ∃ a c', p c = .ok (a, c') ∧ f a c' = .error e := by
  change ((p c) >>= fun r => f r.1 r.2) = .error e ↔ _
  rw [exceptBind_eq_error_iff]
  constructor
  · rintro (hp | ⟨⟨a, c'⟩, hp, hf⟩)
    · exact Or.inl hp
    · exact Or.inr ⟨a, c', hp, hf⟩
  · rintro (hp | ⟨a, c', hp, hf⟩)
    · exact Or.inl hp
    · exact Or.inr ⟨(a, c'), hp, hf⟩

/-- A complaint is about the token in front of the cursor. -/
theorem runs_complain
    {c : Cursor}
    (h : c.Laid)
    (complaint : Complaint) :
    (c.complain complaint).span.Runs c.spans :=
  h.ordered.runs_of_mem c.here_mem_spans

/-- What is left over was so before, or stands in front of the cursor. -/
theorem runs_remains
    {c : Cursor}
    (h : c.Laid)
    {complaint : Complaint}
    {e : SyntaxError}
    (he : c.remains complaint = some e) :
    c.leftOver = some e ∨ e.span.Runs c.spans := by
  unfold Cursor.remains at he
  split at he
  · rename_i e' hleft
    exact Or.inl (hleft.trans he)
  · cases he
  · rename_i token rest hleft htokens
    obtain rfl := Option.some.inj he
    have hmem : token ∈ c.tokens := by simp [htokens]
    have hruns := Token.runs_span hmem h.tokens.spans_ordered
    exact Or.inr (hruns.mono c.places_subset_spans)

theorem blames_pure
    (a : α) :
    Blames (pure a : Parser α) := by
  constructor
  · intro c e _ h
    cases h
  · intro c v d e _ h he
    obtain ⟨-, rfl⟩ := pure_eq_ok_iff.mp h
    exact Or.inl he

theorem blames_fail
    (complaint : Complaint) :
    Blames (fail complaint : Parser α) := by
  constructor
  · intro c e hlaid h
    obtain rfl : c.complain complaint = e := by simpa [fail] using h
    exact runs_complain hlaid complaint
  · intro c v d e _ h
    cases h

theorem blames_test
    (p : List Token → Bool) :
    Blames (test p) := by
  constructor
  · intro c e _ h
    cases h
  · intro c v d e _ h he
    obtain ⟨-, rfl⟩ := test_eq_ok_iff.mp h
    exact Or.inl he

theorem blames_ite
    {b : Bool}
    {p q : Parser α}
    (hp : Blames p)
    (hq : Blames q) :
    Blames (if b = true then p else q) := by
  cases b with
  | true =>
      exact hp
  | false =>
      exact hq

/-- What is blamed behind some tokens stands in front of the cursor too. -/
theorem blames_bind
    {p : Parser α}
    {f : α → Parser β}
    (hsteady : Steady p)
    (hp : Blames p)
    (hf : ∀ a, Blames (f a)) :
    Blames (p >>= f) := by
  constructor
  · intro c e hlaid h
    rcases bind_eq_error_iff.mp h with hp' | ⟨a, c', hp', hf'⟩
    · exact hp.error c e hlaid hp'
    · have hreach := (hsteady c a c' hp').1
      exact ((hf a).error c' e (hreach.laid hlaid) hf').mono hreach.spans_subset
  · intro c v d e hlaid h he
    obtain ⟨a, c', hp', hf'⟩ := bind_eq_ok_iff.mp h
    have hreach := (hsteady c a c' hp').1
    rcases (hf a).leftOver c' v d e (hreach.laid hlaid) hf' he with hleft | hruns
    · exact hp.leftOver c a c' e hlaid hp' hleft
    · exact Or.inr (hruns.mono hreach.spans_subset)

theorem blames_takeOr
    (take : List Token → Option (α × List Token))
    (complaint : List Token → Complaint) :
    Blames (fun c => takeOr take (complaint c.tokens) c) := by
  constructor
  · intro c e hlaid h
    unfold takeOr at h
    split at h
    · cases h
    · obtain rfl : c.complain (complaint c.tokens) = e := by simpa using h
      exact runs_complain hlaid _
  · intro c v d e _ h he
    obtain ⟨rest, -, rfl⟩ := takeOr_eq_ok_iff.mp h
    exact Or.inl he

theorem blames_within
    {p : Parser α}
    (hsteady : Steady p)
    (hp : Blames p)
    (delimiter : Delimiter)
    (complaint : Complaint) :
    Blames (within delimiter complaint p) := by
  constructor
  · intro c e hlaid h
    unfold within at h
    split at h
    · rename_i d content opening closing rest htokens
      split at h
      · split at h
        · cases h
        · rename_i error herror
          obtain rfl : error = e := by simpa using h
          have hmem : .group d content opening closing ∈ c.tokens := by simp [htokens]
          have hinner := Cursor.laid_inner hlaid.tokens hmem c.leftOver
          exact ((hp.error _ error hinner herror).mono (Cursor.spans_inner_subset hmem _)).mono
            c.places_subset_spans
      · obtain rfl : c.complain complaint = e := by simpa using h
        exact runs_complain hlaid complaint
    · obtain rfl : c.complain complaint = e := by simpa using h
      exact runs_complain hlaid complaint
  · intro c v d e hlaid h he
    obtain ⟨content, opening, closing, rest, a, inner, htokens, hinner, rfl, rfl⟩ :=
      within_eq_ok_iff.mp h
    have hmem : .group delimiter content opening closing ∈ c.tokens := by simp [htokens]
    have hsubset :=
      List.Subset.trans (Cursor.spans_inner_subset hmem c.leftOver) c.places_subset_spans
    have hinside := Cursor.laid_inner hlaid.tokens hmem c.leftOver
    have hreach := (hsteady _ a inner hinner).1
    rcases runs_remains (hreach.laid hinside) he with hleft | hruns
    · rcases hp.leftOver _ a inner e hinside hinner hleft with hbefore | hruns
      · exact Or.inl hbefore
      · exact Or.inr (hruns.mono hsubset)
    · exact Or.inr ((hruns.mono hreach.spans_subset).mono hsubset)

theorem blames_repeatUpTo
    {p : Parser (Step α)}
    (hsteady : Steady p)
    (hp : Blames p)
    (n : Nat) :
    Blames (repeatUpTo p n) := by
  induction n with
  | zero =>
      exact blames_fail _
  | succ n ih =>
      apply blames_bind hsteady hp
      intro step
      cases step with
      | again value =>
          apply blames_bind (steady_repeatUpTo hsteady n) ih
          intro values
          exact blames_pure _
      | last value =>
          exact blames_pure _
      | done =>
          exact blames_pure _

theorem blames_repeatSteps
    {p : Parser (Step α)}
    (hsteady : Steady p)
    (hp : Blames p) :
    Blames (repeatSteps p) := by
  constructor
  · intro c e
    exact (blames_repeatUpTo hsteady hp _).error c e
  · intro c v d e
    exact (blames_repeatUpTo hsteady hp _).leftOver c v d e

/-- An error in all of some tokens is about them or about what stands behind them. -/
theorem Blames.runs_of_parseAll
    {p : Parser α}
    (hp : Blames p)
    (hsteady : Steady p)
    {tokens : List Token}
    {close : Span}
    {e : SyntaxError}
    (hlaid : Cursor.Laid ⟨tokens, close, none⟩)
    (h : parseAll p tokens close = .error e) :
    e.span.Runs (Token.places tokens ++ [close]) := by
  unfold parseAll at h
  split at h
  · rename_i value d hrun
    split at h
    · cases h
    · rename_i error hremains
      obtain rfl : error = e := by simpa using h
      have hreach := (hsteady _ value d hrun).1
      rcases runs_remains (hreach.laid hlaid) hremains with hleft | hruns
      · rcases hp.leftOver _ value d error hlaid hrun hleft with hbefore | hruns
        · cases hbefore
        · exact hruns
      · exact hruns.mono hreach.spans_subset
  · rename_i error hrun
    obtain rfl : error = e := by simpa using h
    exact hp.error _ error hlaid hrun

end Parser

end Contracts

section Bounds

/-- Whether a token is a plus sign. -/
def Token.isPlus : Token → Bool
  | punct '+' _ _ => true
  | _ => false

namespace Token

/-- What is printed has, up to plus signs at its end, the places of the first of some tokens. -/
def PlacedUpToPluses (printed tokens : List Token) : Prop :=
  ∃ body pluses read rest,
    printed = body ++ pluses ∧
    (∀ token ∈ pluses, token.isPlus = true) ∧
    (∀ token ∈ body.getLast?, token.isPlus = false) ∧
    tokens = read ++ rest ∧
    BeginsIn body read ∧
    stop? body = stop? read ∧
    body ≠ []

theorem PlacedUpToPluses.prepend
    {printed others read tokens : List Token}
    (h : PlacedUpToPluses others tokens)
    (hbegins : BeginsIn printed read) :
    PlacedUpToPluses (printed ++ others) (read ++ tokens) := by
  obtain ⟨body, pluses, read', rest, rfl, hpluses, hlast, rfl, hbegins', hstop, hne⟩ := h
  have hne' := ne_nil_of_stop?_eq hstop hne
  refine ⟨printed ++ body, pluses, read ++ read', rest, by simp, hpluses, ?_, by simp, ?_, ?_, ?_⟩
  · rwa [List.getLast?_append_of_ne_nil _ hne]
  · exact (hbegins.mono (by simp)).append fun _ => hbegins'.mono (by simp)
  · rw [stop?_append_of_ne_nil _ hne, stop?_append_of_ne_nil _ hne', hstop]
  · simp [hne]

/-- The stretch of a list of bounds runs over the tokens that were read. -/
theorem PlacedUpToPluses.runs_listSpan
    {piece : Piece}
    {tokens : List Token}
    (h : PlacedUpToPluses piece.tokens tokens)
    (hordered : Span.Ordered (places tokens)) :
    piece.listSpan.Runs (places tokens) := by
  obtain ⟨body, pluses, read, rest, hprinted, hpluses, hlast, rfl, hbegins, hstop, hne⟩ := h
  have hspan : piece.listSpan = spanAll body := by
    obtain ⟨front, last, rfl⟩ := (List.eq_nil_or_concat' body).resolve_left hne
    have hdrop : (piece.tokens.reverse.dropWhile isPlus).reverse = front ++ [last] := by
      rw [hprinted, List.reverse_append, List.dropWhile_append_of_pos (by simpa using hpluses),
        List.reverse_append, List.reverse_singleton, List.singleton_append,
        List.dropWhile_cons_of_neg (by simp [hlast last (by simp)])]
      simp
    exact congrArg spanAll hdrop
  rw [hspan]
  rw [places_append] at hordered ⊢
  have hread := hordered.sublist (List.sublist_append_left _ _)
  exact (runs_spanAll hread hbegins hstop hne).mono (List.subset_append_left _ _)

end Token

variable {call : Phrase → Parser Piece}

/-- Whatever a parser reads is a trait. -/
def Parser.ReadsTraits : Parser Piece → Prop :=
  Ensures fun _ piece _ => TypeRule.isTrait piece.shape = true

namespace Rule

theorem readsTraits_andThen
    {first : Rule}
    {second : Shape → Rule}
    (hsecond : ∀ shape, Parser.ReadsTraits ((second shape).follow call)) :
    Parser.ReadsTraits ((andThen first second).follow call) := by
  intro c piece d h
  obtain ⟨a, c', b, -, hb, rfl⟩ := follow_andThen_eq_ok_iff.mp h
  exact hsecond a.shape c' b d hb

theorem readsTraits_accept
    {shape : Shape}
    (hshape : TypeRule.isTrait shape = true) :
    Parser.ReadsTraits ((accept shape).follow call) := by
  intro c piece d h
  obtain ⟨rfl, -⟩ := Parser.pure_eq_ok_iff.mp h
  exact hshape

end Rule

namespace TypeRule

open Rule

theorem readsTraits_traitPath
    {shape : Shape}
    (hshape : isTrait shape = true) :
    Parser.ReadsTraits ((traitPath shape).follow call) := by
  apply readsTraits_andThen
  intro path
  split
  · apply ensures_choose _ (readsTraits_accept hshape)
    exact readsTraits_andThen fun _ => readsTraits_accept hshape
  · exact readsTraits_accept hshape

theorem readsTraits_relaxable
    (general : Bool)
    {shape : Shape}
    (hshape : isTrait shape = true) :
    Parser.ReadsTraits ((relaxable general shape).follow call) := by
  have hpath := @readsTraits_traitPath call shape hshape
  cases general with
  | true =>
      exact ensures_choose ensures_forbid hpath
  | false =>
      exact ensures_choose ensures_forbid
        (ensures_choose (readsTraits_andThen fun _ => hpath) hpath)

theorem readsTraits_constable
    (const general : Bool) :
    Parser.ReadsTraits ((constable const general).follow call) := by
  have hverbatim := @readsTraits_relaxable call general .verbatim rfl
  apply ensures_choose
  · cases const with
    | true =>
        exact readsTraits_andThen fun _ => hverbatim
    | false =>
        exact ensures_forbid
  · apply ensures_choose _ (readsTraits_relaxable general rfl)
    cases const with
    | true =>
        exact readsTraits_andThen fun _ => hverbatim
    | false =>
        exact ensures_forbid

theorem readsTraits_traitBound
    (const : Bool)
    (depth : Nat) :
    Parser.ReadsTraits (Phrase.readTo depth (.traitBound const)) := by
  apply Phrase.ensures_readTo
  intro depth
  apply ensures_choose _ (readsTraits_constable const false)
  exact readsTraits_andThen fun _ => readsTraits_constable const true

/-- Some tokens end, but not in a plus sign. -/
def EndsFirmly (tokens : List Token) : Prop :=
  ∃ front last, tokens = front ++ [last] ∧ last.isPlus = false

theorem endsFirmly_andThen
    {first : Rule}
    {second : Shape → Rule}
    (hsecond : ∀ shape, Parser.Prints EndsFirmly ((second shape).follow call)) :
    Parser.Prints EndsFirmly ((andThen first second).follow call) := by
  intro c piece d h
  obtain ⟨a, c', b, -, hb, rfl⟩ := follow_andThen_eq_ok_iff.mp h
  obtain ⟨front, last, htokens, hlast⟩ := hsecond a.shape c' b d hb
  exact ⟨a.tokens ++ front, last, by simp [htokens], hlast⟩

theorem endsFirmly_shaped
    {rule : Rule}
    {shape : Shape}
    (hrule : Parser.Prints EndsFirmly (rule.follow call)) :
    Parser.Prints EndsFirmly ((shaped rule shape).follow call) := by
  intro c piece d h
  obtain ⟨a, c', b, ha, hb, rfl⟩ := follow_andThen_eq_ok_iff.mp h
  obtain ⟨rfl, rfl⟩ := Parser.pure_eq_ok_iff.mp hb
  simpa using hrule c a c' ha

theorem endsFirmly_lifetime :
    Parser.Prints EndsFirmly ((read .lifetime).follow call) := by
  intro c piece d h
  obtain ⟨taken, hread, rfl⟩ := follow_read_eq_ok_iff.mp h
  obtain ⟨rest, htake, -⟩ := Parser.takeOr_eq_ok_iff.mp hread
  unfold Terminal.take at htake
  split at htake
  case h_6 =>
    cases htake
    exact ⟨[_], _, rfl, rfl⟩
  all_goals contradiction

theorem endsFirmly_closingAngle :
    Parser.Prints EndsFirmly ((symbol ">").follow call) := by
  intro c piece d h
  obtain ⟨taken, hread, rfl⟩ := follow_read_eq_ok_iff.mp h
  obtain ⟨spacing, span, rest, -, rfl, -⟩ :=
    (Terminal.read_symbol_eq_ok_iff (x := '>') rfl).mp hread
  exact ⟨[], _, rfl, rfl⟩

/-- A bound that is no trait is a lifetime or a list of names in angle brackets. -/
theorem endsFirmly_of_bound
    {captures const : Bool}
    {depth : Nat}
    {c d : Cursor}
    {piece : Piece}
    (h : Phrase.readTo depth (.bound captures const) c = .ok (piece, d))
    (hshape : isTrait piece.shape = false) :
    EndsFirmly piece.tokens := by
  have hensures :
      Parser.Ensures (fun _ piece _ => isTrait piece.shape = false → EndsFirmly piece.tokens)
        (Phrase.readTo depth (.bound captures const)) := by
    apply Phrase.ensures_readTo
    intro depth
    apply ensures_choose
    · intro c piece d h _
      exact endsFirmly_shaped endsFirmly_lifetime c piece d h
    · apply ensures_choose
      · cases captures with
        | true =>
            intro c piece d h _
            refine endsFirmly_shaped ?_ c piece d h
            iterate 3 refine endsFirmly_andThen fun _ => ?_
            exact endsFirmly_closingAngle
        | false =>
            exact ensures_forbid
      · intro c piece d h hshape
        obtain ⟨inner, hinner, rfl⟩ := follow_asWritten_eq_ok_iff.mp h
        have htrait : isTrait inner.shape = true := by
          rw [follow_choose] at hinner
          split at hinner
          · obtain ⟨tokens, opening, closing, rest, a, innerEnd, -, ha, rfl, -⟩ :=
              follow_inside_eq_ok_iff.mp hinner
            exact readsTraits_traitBound const depth _ a innerEnd ha
          · exact readsTraits_traitBound const depth c inner d hinner
        split at hshape
        · exact absurd htrait (by simp [hshape])
        · exact absurd htrait (by simp [hshape])
  exact hensures c piece d h hshape

/-- Bounds without a trait are printed at their places, up to a plus sign at the end: what follows
the first bound are plus signs, or bounds behind a plus sign. -/
theorem placed_of_bounds
    {plus captures const seen : Bool}
    {depth : Nat}
    {c d : Cursor}
    {piece : Piece}
    (hlaid : c.Laid)
    (h : Phrase.readTo depth (.bounds plus captures const seen) c = .ok (piece, d))
    (hshape : piece.shape.isYes = false) :
    seen = false ∧ Token.PlacedUpToPluses piece.tokens c.tokens := by
  induction depth generalizing seen c d piece with
  | zero =>
      cases h
  | succ depth ih =>
      obtain ⟨a, c', b, ha, hb, rfl⟩ := follow_andThen_eq_ok_iff.mp h
      change Phrase.readTo depth (.bound captures const) c = .ok (a, c') at ha
      obtain ⟨read, hread, hbegins, hstop, hne⟩ :=
        @Rule.places_of_follow (.phrase (.bound captures const)) trivial trivial _ _ _ _
          hlaid.tokens ha
      have hreach := (Phrase.steady_readTo depth _ c a c' ha).1
      have hpluses {pluses : List Token}
          (hpluses : ∀ token ∈ pluses, token.isPlus = true)
          (hanswer : (seen || isTrait a.shape) = false) :
          seen = false ∧ Token.PlacedUpToPluses (a.tokens ++ pluses) c.tokens := by
        obtain ⟨hseen, htrait⟩ := Bool.or_eq_false_iff.mp hanswer
        obtain ⟨front, last, htokens, hlast⟩ := endsFirmly_of_bound ha htrait
        refine ⟨hseen, a.tokens, pluses, read, c'.tokens, rfl, hpluses, ?_, hread, hbegins, hstop,
          hne⟩
        simpa [htokens] using hlast
      have haccept
          (hb : (accept (.answer (seen || isTrait a.shape))).follow (Phrase.readTo depth) c' =
            .ok (b, d)) :
          seen = false ∧ Token.PlacedUpToPluses (a.tokens ++ b.tokens) c.tokens := by
        obtain ⟨rfl, -⟩ := Parser.pure_eq_ok_iff.mp hb
        exact hpluses (by simp) hshape
      split at hb
      · rw [follow_choose] at hb
        split at hb
        · obtain ⟨sign, c'', rest, hsign, hrest, rfl⟩ := follow_andThen_eq_ok_iff.mp hb
          obtain ⟨taken, htaken, rfl⟩ := follow_read_eq_ok_iff.mp hsign
          obtain ⟨spacing, span, others, hc', rfl, rfl⟩ :=
            (Terminal.read_symbol_eq_ok_iff (x := '+') rfl).mp htaken
          change (choose _ _ _).follow (Phrase.readTo depth) _ = .ok (rest, d) at hrest
          generalize (if const then constBoundFollows else boundFollows) = test at hrest
          rw [follow_choose] at hrest
          split at hrest
          · have hbehind := (Terminal.steady_read _ _ _ _ htaken).1.laid (hreach.laid hlaid)
            obtain ⟨hseen, hplaced⟩ := ih hbehind hrest hshape
            refine ⟨(Bool.or_eq_false_iff.mp hseen).1, ?_⟩
            have hsign : Token.BeginsIn [.punct '+' .alone span] [.punct '+' spacing span] :=
              Token.beginsIn_of_spans_eq rfl
            have hall := (hplaced.prepend hsign).prepend hbegins
            rw [hread, hc']
            exact hall
          · obtain ⟨rfl, -⟩ := Parser.pure_eq_ok_iff.mp hrest
            exact hpluses (by simp [Token.isPlus]) hshape
        · exact haccept hb
      · exact haccept hb

/-- The same holds behind keywords and symbols that introduce the bounds. -/
theorem placed_of_introduced
    {introduction : List Rule}
    (hintroduction :
      ∀ rule ∈ introduction, ∃ terminal, terminal ≠ .indexPair ∧ rule = read terminal)
    {plus captures const : Bool}
    {depth : Nat}
    {c d : Cursor}
    {piece : Piece}
    (hlaid : c.Laid)
    (h :
      (seq (introduction ++ [phrase (.bounds plus captures const false)])).follow
        (Phrase.readTo depth) c = .ok (piece, d))
    (hshape : piece.shape.isYes = false) :
    Token.PlacedUpToPluses piece.tokens c.tokens := by
  induction introduction generalizing c piece with
  | nil =>
      exact (placed_of_bounds hlaid h hshape).2
  | cons rule rules ih =>
      obtain ⟨⟨terminal, hterminal, rfl⟩, hrules⟩ := List.forall_mem_cons.mp hintroduction
      obtain ⟨next, others, heq⟩ :
          ∃ next others,
            rules ++ [phrase (.bounds plus captures const false)] = next :: others :=
        List.exists_cons_of_ne_nil (by simp)
      rw [List.cons_append] at h
      rw [heq] at h ih
      obtain ⟨a, c', b, ha, hb, rfl⟩ := follow_andThen_eq_ok_iff.mp h
      obtain ⟨taken, htaken, rfl⟩ := follow_read_eq_ok_iff.mp ha
      have hreach := (Terminal.steady_read _ _ _ _ htaken).1
      obtain ⟨rest, htake, rfl⟩ := Parser.takeOr_eq_ok_iff.mp htaken
      obtain ⟨-, read, hread, hspans⟩ := Terminal.spans_of_take hterminal htake
      have hplaced := ih hrules (hreach.laid hlaid) hb hshape
      rw [hread]
      exact hplaced.prepend (Token.beginsIn_of_spans_eq hspans)

end TypeRule

end Bounds

section Rules

namespace Rule

/-- Whatever a rule requires, it requires of bounds behind keywords and symbols: that a trait is
among them.  Whatever is forbidden is printed at its place. -/
@[simp] def RequiresOfBounds : Rule → Prop
  | accept _ => True
  | refuse _ => True
  | read _ => True
  | phrase _ => True
  | andThen first second => first.RequiresOfBounds ∧ ∀ shape, (second shape).RequiresOfBounds
  | choose _ yes no => yes.RequiresOfBounds ∧ no.RequiresOfBounds
  | inside _ content => content.RequiresOfBounds
  | listing entry => entry.RequiresOfBounds
  | asWritten _ rule => rule.RequiresOfBounds
  | silently rule => rule.RequiresOfBounds
  | before first second _ => first.RequiresOfBounds ∧ second.RequiresOfBounds
  | require test _ rule =>
      test = Shape.isYes ∧
      ∃ introduction plus captures const,
        (∀ rule ∈ introduction, ∃ terminal, terminal ≠ .indexPair ∧ rule = read terminal) ∧
        rule = seq (introduction ++ [phrase (.bounds plus captures const false)])
  | forbid _ rule rest =>
      rule.RequiresOfBounds ∧ rest.RequiresOfBounds ∧ rule.Opens true ∧ rule.Closes true
  | endsInBraces rule => rule.RequiresOfBounds

@[simp] theorem requiresOfBounds_seq_nil :
    (seq []).RequiresOfBounds :=
  trivial

@[simp] theorem requiresOfBounds_seq_cons
    (rule : Rule)
    (rules : List Rule) :
    (seq (rule :: rules)).RequiresOfBounds ↔
      rule.RequiresOfBounds ∧ (seq rules).RequiresOfBounds := by
  have : Nonempty Shape := ⟨.plain⟩
  cases rules with
  | nil =>
      simp [seq]
  | cons next rules =>
      simp [seq]

theorem requiresOfBounds_seq_append
    (rules others : List Rule) :
    (seq (rules ++ others)).RequiresOfBounds ↔
      (∀ rule ∈ rules, rule.RequiresOfBounds) ∧ (seq others).RequiresOfBounds := by
  induction rules with
  | nil =>
      simp
  | cons rule rules ih =>
      simp [ih, and_assoc]

theorem follow_asWritten_eq_error
    {call : Phrase → Parser Piece}
    {when : Shape → Bool}
    {rule : Rule}
    {c : Cursor}
    {e : SyntaxError}
    (h : (asWritten when rule).follow call c = .error e) :
    rule.follow call c = .error e := by
  rw [follow] at h
  rcases Parser.bind_eq_error_iff.mp h with hget | ⟨before, c', hget, h⟩
  · cases hget
  · obtain ⟨-, rfl⟩ : c = before ∧ c = c' := Prod.mk.inj (Except.ok.inj hget)
    rcases Parser.bind_eq_error_iff.mp h with hrule | ⟨piece, d, -, h⟩
    · exact hrule
    · rcases Parser.bind_eq_error_iff.mp h with hget' | ⟨after, d', -, h⟩
      · cases hget'
      · split at h <;> cases h

theorem follow_require_eq_error
    {call : Phrase → Parser Piece}
    {test : Shape → Bool}
    {complaint : Complaint}
    {rule : Rule}
    {c : Cursor}
    {e : SyntaxError}
    (h : (require test complaint rule).follow call c = .error e) :
    rule.follow call c = .error e
      ∨
    ∃ piece d,
      rule.follow call c = .ok (piece, d) ∧
      test piece.shape = false ∧
      e.span = piece.listSpan := by
  rw [follow] at h
  rcases Parser.bind_eq_error_iff.mp h with hrule | ⟨piece, d, hpiece, h⟩
  · exact Or.inl hrule
  · right
    refine ⟨piece, d, hpiece, ?_⟩
    cases htest : test piece.shape with
    | true =>
        rw [htest] at h
        cases h
    | false =>
        rw [htest] at h
        cases h
        exact ⟨rfl, rfl⟩

theorem follow_forbid_eq_error
    {call : Phrase → Parser Piece}
    {complaint : Complaint}
    {rule rest : Rule}
    {c : Cursor}
    {e : SyntaxError}
    (h : (forbid complaint rule rest).follow call c = .error e) :
    rule.follow call c = .error e
      ∨
    ∃ piece d,
      rule.follow call c = .ok (piece, d) ∧
      (rest.follow call d = .error e ∨ e.span = Token.spanAll piece.tokens) := by
  rw [follow] at h
  rcases Parser.bind_eq_error_iff.mp h with hrule | ⟨piece, d, hpiece, h⟩
  · exact Or.inl hrule
  · refine Or.inr ⟨piece, d, hpiece, ?_⟩
    rcases Parser.bind_eq_error_iff.mp h with hrest | ⟨behind, d', -, hthrow⟩
    · exact Or.inl hrest
    · cases hthrow
      exact Or.inr rfl

theorem blames_entryStep
    {entry : Parser Piece}
    (hsteady : Parser.Steady entry)
    (hentry : Parser.Blames entry) :
    Parser.Blames (entryStep entry) := by
  apply Parser.blames_bind (Parser.steady_test _) (Parser.blames_test _)
  intro closed
  apply Parser.blames_ite (Parser.blames_pure _)
  apply Parser.blames_bind hsteady hentry
  intro piece
  apply Parser.blames_bind (Parser.steady_test _) (Parser.blames_test _)
  intro closed
  apply Parser.blames_ite (Parser.blames_pure _)
  apply Parser.blames_bind (Terminal.steady_read _) (Parser.blames_takeOr _ _)
  intro comma
  exact Parser.blames_pure _

/-- A rule that requires things of bounds alone blames its input. -/
theorem blames_follow
    {depth : Nat}
    (hcall : ∀ p, Parser.Blames (Phrase.readTo depth p))
    {rule : Rule}
    (h : rule.RequiresOfBounds) :
    Parser.Blames (rule.follow (Phrase.readTo depth)) := by
  have hsteady (rule : Rule) : Parser.Steady (rule.follow (Phrase.readTo depth)) :=
    steady_follow (Phrase.steady_readTo depth) rule
  induction rule with
  | accept shape =>
      exact Parser.blames_pure _
  | refuse complaint =>
      exact Parser.blames_fail _
  | read terminal =>
      apply Parser.blames_bind terminal.steady_read (Parser.blames_takeOr _ _)
      intro tokens
      exact Parser.blames_pure _
  | phrase p =>
      exact hcall p
  | andThen first second ihFirst ihSecond =>
      apply Parser.blames_bind (hsteady first) (ihFirst h.1)
      intro a
      apply Parser.blames_bind (hsteady _) (ihSecond a.shape (h.2 a.shape))
      intro b
      exact Parser.blames_pure _
  | choose test yes no ihYes ihNo =>
      apply Parser.blames_bind (Parser.steady_test _) (Parser.blames_test _)
      intro holds
      exact Parser.blames_ite (ihYes h.1) (ihNo h.2)
  | inside delimiter content ih =>
      apply Parser.blames_bind (Parser.steady_within (hsteady content) _ _)
        (Parser.blames_within (hsteady content) (ih h) _ _)
      intro result
      exact Parser.blames_pure _
  | listing entry ih =>
      apply Parser.blames_bind (Parser.steady_repeatSteps (steady_entryStep (hsteady entry)))
        (Parser.blames_repeatSteps (steady_entryStep (hsteady entry))
          (blames_entryStep (hsteady entry) (ih h)))
      intro entries
      exact Parser.blames_pure _
  | asWritten when rule ih =>
      constructor
      · intro c e hlaid hfollow
        exact (ih h).error c e hlaid (follow_asWritten_eq_error hfollow)
      · intro c piece d e hlaid hfollow
        obtain ⟨inner, hinner, -⟩ := follow_asWritten_eq_ok_iff.mp hfollow
        exact (ih h).leftOver c inner d e hlaid hinner
  | silently rule ih =>
      apply Parser.blames_bind (hsteady rule) (ih h)
      intro piece
      exact Parser.blames_pure _
  | before first second drop ihFirst ihSecond =>
      apply Parser.blames_bind (hsteady first) (ihFirst h.1)
      intro a
      apply Parser.blames_bind (hsteady second) (ihSecond h.2)
      intro b
      exact Parser.blames_pure _
  | require test complaint rule ih =>
      obtain ⟨rfl, introduction, plus, captures, const, hintroduction, rfl⟩ := h
      have hrequires :
          (seq (introduction ++
            [phrase (.bounds plus captures const false)])).RequiresOfBounds := by
        rw [requiresOfBounds_seq_append]
        refine ⟨fun rule hrule => ?_, trivial⟩
        obtain ⟨terminal, -, rfl⟩ := hintroduction rule hrule
        trivial
      constructor
      · intro c e hlaid hfollow
        rcases follow_require_eq_error hfollow with hrule | ⟨piece, d, hpiece, hshape, hspan⟩
        · exact (ih hrequires).error c e hlaid hrule
        · have hplaced := TypeRule.placed_of_introduced hintroduction hlaid hpiece hshape
          rw [hspan]
          exact (hplaced.runs_listSpan hlaid.tokens.spans_ordered).mono c.places_subset_spans
      · intro c piece d e hlaid hfollow
        exact (ih hrequires).leftOver c piece d e hlaid (follow_require_eq_ok_iff.mp hfollow).1
  | forbid complaint rule rest ihRule ihRest =>
      obtain ⟨hrule, hrest, hopens, hcloses⟩ := h
      constructor
      · intro c e hlaid hfollow
        rcases follow_forbid_eq_error hfollow with herror | ⟨piece, d, hpiece, herror | hspan⟩
        · exact (ihRule hrule).error c e hlaid herror
        · have hreach := (hsteady rule c piece d hpiece).1
          exact ((ihRest hrest).error d e (hreach.laid hlaid) herror).mono hreach.spans_subset
        · rw [hspan]
          exact (runs_of_follow hopens hcloses hlaid.tokens hpiece).mono c.places_subset_spans
      · intro c piece d e _ hfollow
        exact absurd hfollow follow_forbid_ne_ok
  | endsInBraces rule ih =>
      apply Parser.blames_bind (hsteady rule) (ih h)
      intro piece
      exact Parser.blames_pure _

end Rule

end Rules

end Caseless
