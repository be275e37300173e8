import Caseless.Grammar.Lookahead
import Caseless.Proofs.Relexing
import Mathlib.Data.Prod.Lex

/-!
# Places in a text

Places are ordered as they follow each other in a text, line by line.  A span covers a stretch of a
text if it begins in front of its first character and ends behind its last one.

The lexer gives each lexeme the stretch that it was read from.  These stretches are not empty and
follow each other, but for the lexemes of a documenting comment, which share the stretch of the
comment.  The relation `Lexer.Steps` says how a text is split into such stretches, and from it come
the order of the places (`Lexer.Steps.laid`) and the characters that a lexeme stands for
(`Lexer.Steps.alone_or_inDoc`).
-/

namespace Caseless

section Order

namespace Position

instance : LinearOrder Position :=
  LinearOrder.lift' (fun p => toLex (p.line, p.column)) (by
    intro p q h
    obtain ⟨hline, hcolumn⟩ := Prod.mk.inj (toLex.injective h)
    cases p
    cases q
    congr)

theorem lt_iff
    {p q : Position} :
    p < q ↔ p.line < q.line ∨ p.line = q.line ∧ p.column < q.column :=
  Prod.Lex.toLex_lt_toLex

theorem lt_advance
    (p : Position)
    (c : Char) :
    p < p.advance c := by
  unfold advance
  rw [lt_iff]
  split
  · exact Or.inl (Nat.lt_succ_self _)
  · exact Or.inr ⟨rfl, Nat.lt_succ_self _⟩

theorem advanceAll_cons
    (p : Position)
    (c : Char)
    (cs : List Char) :
    p.advanceAll (c :: cs) = (p.advance c).advanceAll cs :=
  rfl

theorem advanceAll_append
    (p : Position)
    (cs ds : List Char) :
    p.advanceAll (cs ++ ds) = (p.advanceAll cs).advanceAll ds :=
  List.foldl_append

theorem le_advanceAll
    (p : Position)
    (cs : List Char) :
    p ≤ p.advanceAll cs := by
  induction cs generalizing p with
  | nil =>
      exact le_refl p
  | cons c cs ih =>
      exact (lt_advance p c).le.trans (ih (p.advance c))

/-- Every character moves the place on. -/
theorem lt_advanceAll
    (p : Position)
    {cs : List Char}
    (h : cs ≠ []) :
    p < p.advanceAll cs := by
  obtain ⟨c, cs, rfl⟩ := List.exists_cons_of_ne_nil h
  exact (lt_advance p c).trans_le (le_advanceAll _ cs)

/-- On one line only the column moves on. -/
theorem advanceAll_of_not_mem
    (p : Position)
    {cs : List Char}
    (h : '\n' ∉ cs) :
    p.advanceAll cs = ⟨p.line, p.column + cs.length⟩ := by
  induction cs generalizing p with
  | nil =>
      rfl
  | cons c cs ih =>
      have hc : c ≠ '\n' := by
        rintro rfl
        exact h List.mem_cons_self
      have hcs : '\n' ∉ cs := fun hmem => h (List.mem_cons_of_mem c hmem)
      rw [advanceAll_cons, ih _ hcs, advance, if_neg hc, List.length_cons]
      simp only [Nat.add_assoc, Nat.add_comm 1]

/-- A place in a text: some characters of the text stand before it. -/
def In (p : Position) (text : List Char) : Prop :=
  ∃ before after, text = before ++ after ∧ p = origin.advanceAll before

end Position

namespace Span

/-- One span covers the same stretch as another one, or comes before it. -/
def Precedes (s t : Span) : Prop :=
  s = t ∨ s.stop ≤ t.start

theorem Precedes.start_lt_stop
    {s t : Span}
    (h : s.Precedes t)
    (hs : s.start < s.stop)
    (ht : t.start < t.stop) :
    s.start < t.stop := by
  rcases h with rfl | hle
  · exact hs
  · exact (hs.trans_le hle).trans ht

theorem Precedes.start_le_start
    {s t : Span}
    (h : s.Precedes t)
    (hs : s.start < s.stop) :
    s.start ≤ t.start := by
  rcases h with rfl | hle
  · exact le_refl _
  · exact (hs.trans_le hle).le

theorem Precedes.stop_le_stop
    {s t : Span}
    (h : s.Precedes t)
    (ht : t.start < t.stop) :
    s.stop ≤ t.stop := by
  rcases h with rfl | hle
  · exact le_refl _
  · exact hle.trans ht.le

/-- A span lies inside another one. -/
structure Within (s t : Span) : Prop where
  start : t.start ≤ s.start
  stop : s.stop ≤ t.stop

/-- A span covers a stretch of a text: it begins in front of the first character of the stretch and
ends behind the last one. -/
def Covers (s : Span) (text stretch : List Char) : Prop :=
  ∃ before after,
    text = before ++ stretch ++ after ∧
    s = ⟨Position.origin.advanceAll before, Position.origin.advanceAll (before ++ stretch)⟩

/-- A span between two places of a text covers what stands between them, for its end cannot come
before its beginning. -/
theorem exists_covers
    {text : List Char}
    {s : Span}
    (hstart : s.start.In text)
    (hstop : s.stop.In text)
    (hlt : s.start < s.stop) :
    ∃ stretch, stretch ≠ [] ∧ s.Covers text stretch := by
  obtain ⟨start, stop⟩ := s
  obtain ⟨before, after, rfl, rfl⟩ := hstart
  obtain ⟨front, back, htext, rfl⟩ := hstop
  rcases List.append_eq_append_iff.mp htext with ⟨stretch, rfl, rfl⟩ | ⟨stretch, rfl, rfl⟩
  · refine ⟨stretch, ?_, before, back, by rw [List.append_assoc], rfl⟩
    rintro rfl
    rw [List.append_nil] at hlt
    exact lt_irrefl _ hlt
  · rw [Position.advanceAll_append] at hlt
    exact absurd (Position.le_advanceAll _ stretch) hlt.not_ge

end Span

end Order

section Steps

namespace Lexer

open Scanner

/-- A stretch of a text is read as one lexeme, or is a documenting comment. -/
inductive Gives : List Char → List Lexeme → Prop
  | single
      (a : Lexeme) :
      Gives a.chars [a]
  | doc
      (stretch : List Char)
      (doc : DocComment) :
      Gives stretch (docLexemes doc)

/-- Some characters behind a place are split into stretches with fillers between them, and each
stretch gives its lexemes. -/
inductive Steps : Position → List Char → List (Lexeme × Span) → Prop
  | nil
      (place : Position)
      (cs : List Char) :
      Steps place cs []
  | cons
      {place : Position}
      {stretch rest : List Char}
      {lexemes : List Lexeme}
      {others : List (Lexeme × Span)}
      (filler : List Char)
      (hne : stretch ≠ [])
      (hgives : Gives stretch lexemes)
      (hrest : Steps (place.advanceAll (filler ++ stretch)) rest others) :
      Steps place (filler ++ stretch ++ rest)
        (lexemes.map
            (·, ⟨place.advanceAll filler, place.advanceAll (filler ++ stretch)⟩) ++
          others)

theorem line_suffix
    (cs : List Char) :
    (line cs).2 <:+ cs := by
  fun_induction line cs with
  | case1 =>
      exact List.suffix_refl _
  | case2 cs =>
      exact List.suffix_cons '\r' _
  | case3 cs hreturn =>
      exact List.suffix_refl _
  | case4 c cs hreturn hfeed ih =>
      exact ih.trans (List.suffix_cons c cs)

theorem blockEnd_suffix
    {depth : Nat}
    {cs rest : List Char}
    (h : blockEnd depth cs = some rest) :
    rest <:+ cs := by
  fun_induction blockEnd depth cs with
  | case1 =>
      cases h
  | case2 depth cs ih =>
      exact (ih h).trans ((List.suffix_cons '*' cs).trans (List.suffix_cons '/' _))
  | case3 depth cs hdepth =>
      obtain rfl := Option.some.inj h
      exact (List.suffix_cons '/' cs).trans (List.suffix_cons '*' _)
  | case4 depth cs hdepth ih =>
      exact (ih h).trans ((List.suffix_cons '/' cs).trans (List.suffix_cons '*' _))
  | case5 depth c cs hopen hclose ih =>
      exact (ih h).trans (List.suffix_cons c cs)

theorem block_suffix
    {cs rest : List Char}
    (h : block cs = some rest) :
    rest <:+ cs ∧ rest.length < cs.length := by
  unfold block at h
  split at h
  · have hsuffix := blockEnd_suffix h
    refine ⟨hsuffix.trans ((List.suffix_cons '*' _).trans (List.suffix_cons '/' _)), ?_⟩
    have hle := hsuffix.length_le
    simp only [List.length_cons]
    omega
  · cases h

theorem filler_suffix
    {cs rest : List Char}
    (h : filler cs = some rest) :
    rest <:+ cs := by
  unfold filler at h
  split_ifs at h
  · obtain rfl := Option.some.inj h
    exact line_suffix cs
  · exact (block_suffix h).1
  · split at h
    · split_ifs at h
      obtain rfl := Option.some.inj h
      exact List.suffix_cons _ _
    · cases h

theorem skip_suffix
    (cs : List Char) :
    skip cs <:+ cs := by
  suffices hup : ∀ n, skipUpTo n cs <:+ cs from hup cs.length
  intro n
  induction n generalizing cs with
  | zero =>
      exact List.suffix_refl cs
  | succ n ih =>
      unfold skipUpTo
      split
      · rename_i rest hfiller
        exact (ih rest).trans (filler_suffix hfiller)
      · exact List.suffix_refl cs

/-- A documenting comment has at least the characters of its mark. -/
theorem docComment_suffix
    {cs rest : List Char}
    {doc : DocComment}
    (h : docComment cs = some (doc, rest)) :
    rest <:+ cs ∧ rest.length < cs.length := by
  have hline (mark : String) (hmark : startsWith cs mark = true) (hlength : 3 ≤ mark.length) :
      (line (cs.drop 3)).2 <:+ cs ∧ (line (cs.drop 3)).2.length < cs.length := by
    have hsuffix := line_suffix (cs.drop 3)
    refine ⟨hsuffix.trans (List.drop_suffix 3 cs), ?_⟩
    obtain ⟨tail, rfl⟩ := startsWith_eq_true_iff.mp hmark
    have hle := hsuffix.length_le
    simp only [List.length_drop, List.length_append, String.length_toList] at hle ⊢
    omega
  have hany : anyDocComment cs = some (doc, rest) := by
    unfold docComment at h
    split at h
    · split_ifs at h
      rwa [← h]
    · cases h
  unfold anyDocComment at hany
  split_ifs at hany with hinner hinnerBlock houter hlong hblock
  · obtain ⟨-, rfl⟩ := Prod.mk.inj (Option.some.inj hany)
    exact hline _ hinner (by decide)
  · obtain ⟨rest', hrest, heq⟩ := Option.map_eq_some_iff.mp hany
    obtain ⟨-, rfl⟩ := Prod.mk.inj heq
    exact block_suffix hrest
  · obtain ⟨-, rfl⟩ := Prod.mk.inj (Option.some.inj hany)
    exact hline _ houter (by decide)
  · obtain ⟨rest', hrest, heq⟩ := Option.map_eq_some_iff.mp hany
    obtain ⟨-, rfl⟩ := Prod.mk.inj heq
    exact block_suffix hrest

/-- What is read next takes up a stretch of the text. -/
theorem exists_gives_of_next
    {cs rest : List Char}
    {lexemes : List Lexeme}
    (h : next cs = some (lexemes, rest)) :
    ∃ stretch, stretch ≠ [] ∧ Gives stretch lexemes ∧ cs = stretch ++ rest ∧
      taken cs rest = stretch := by
  unfold next at h
  have hlexeme (a : Lexeme) (ha : lexeme? cs = some (a, rest)) :
      ∃ stretch, stretch ≠ [] ∧ Gives stretch [a] ∧ cs = stretch ++ rest ∧
        taken cs rest = stretch := by
    have hchars := chars_of_lexeme ha
    refine ⟨a.chars, chars_ne_nil ha, .single a, hchars, ?_⟩
    simp [hchars, taken]
  split at h
  · rename_i doc rest' hdoc
    obtain ⟨rfl, rfl⟩ := Prod.mk.inj (Option.some.inj h)
    obtain ⟨hsuffix, hlt⟩ := docComment_suffix hdoc
    have hsplit := taken_append hsuffix
    refine ⟨taken cs rest', ?_, .doc _ doc, hsplit.symm, rfl⟩
    intro hnil
    rw [hnil, List.nil_append] at hsplit
    rw [hsplit] at hlt
    exact lt_irrefl _ hlt
  · split at h
    · rename_i a rest' hdelimiter
      obtain ⟨rfl, rfl⟩ := Prod.mk.inj (Option.some.inj h)
      exact hlexeme a (by rw [lexeme?, hdelimiter, Option.some_or])
    · rename_i hdelimiter
      obtain ⟨⟨a, rest'⟩, hleaf, heq⟩ := Option.map_eq_some_iff.mp h
      obtain ⟨rfl, rfl⟩ := Prod.mk.inj heq
      exact hlexeme a (by rw [lexeme?, hdelimiter, Option.none_or, hleaf])

/-- The lexer splits a text into stretches. -/
theorem steps_of_lexFor
    {n : Nat}
    {place : Position}
    {cs : List Char}
    {pairs : List (Lexeme × Span)}
    (h : lexFor n place cs = some pairs) :
    Steps place cs pairs := by
  induction n generalizing place cs pairs with
  | zero =>
      cases h
  | succ n ih =>
      unfold lexFor at h
      simp only at h
      split_ifs at h
      · obtain rfl := Option.some.inj h
        exact .nil place cs
      · split at h
        · rename_i lexemes rest hnext
          obtain ⟨others, hothers, rfl⟩ := Option.map_eq_some_iff.mp h
          obtain ⟨stretch, hne, hgives, hfront, htaken⟩ := exists_gives_of_next hnext
          have hsplit := taken_append (skip_suffix cs)
          have hrest := ih hothers
          rw [htaken, ← Position.advanceAll_append] at hrest ⊢
          have hcons := Steps.cons (taken cs (skip cs)) hne hgives hrest
          rwa [List.append_assoc, ← hfront, hsplit] at hcons
        · cases h

/-- What stands in front of the first stretch belongs to its filler. -/
theorem Steps.behind
    {place : Position}
    {front cs : List Char}
    {pairs : List (Lexeme × Span)}
    (h : Steps (place.advanceAll front) cs pairs) :
    Steps place (front ++ cs) pairs := by
  cases h with
  | nil =>
      exact .nil place _
  | @cons _ stretch rest lexemes others filler hne hgives hrest =>
      simp only [← Position.advanceAll_append, ← List.append_assoc] at hrest ⊢
      exact .cons (front ++ filler) hne hgives hrest

theorem dropMark_suffix
    (cs : List Char) :
    dropMark cs <:+ cs := by
  cases cs with
  | nil =>
      exact List.suffix_refl []
  | cons c cs =>
      rw [dropMark]
      split_ifs
      · exact List.suffix_cons c cs
      · exact List.suffix_refl _

/-- The lexer splits a source text into stretches, a byte order mark being filler. -/
theorem steps_of_lex
    {source : String}
    {pairs : List (Lexeme × Span)}
    (h : lex source = some pairs) :
    Steps Position.origin source.toList pairs := by
  have hsteps := (steps_of_lexFor h).behind
  rwa [taken_append (dropMark_suffix source.toList)] at hsteps

/-- Every lexeme begins and ends at places of the text, behind the place where the text begins. -/
theorem Steps.places
    {place : Position}
    {cs : List Char}
    {pairs : List (Lexeme × Span)}
    (h : Steps place cs pairs) :
    ∀ e ∈ pairs,
      place ≤ e.2.start ∧ e.2.start < e.2.stop ∧
      ∃ before stretch after,
        cs = before ++ stretch ++ after ∧
        e.2 = ⟨place.advanceAll before, place.advanceAll (before ++ stretch)⟩ := by
  induction h with
  | nil place cs =>
      simp
  | @cons place stretch rest lexemes others filler hne hgives hrest ih =>
      intro e he
      rcases List.mem_append.mp he with hmem | hmem
      · obtain ⟨a, -, rfl⟩ := List.mem_map.mp hmem
        refine ⟨Position.le_advanceAll _ _, ?_, filler, stretch, rest, rfl, rfl⟩
        simp only [Position.advanceAll_append]
        exact Position.lt_advanceAll _ hne
      · obtain ⟨hle, hlt, before, stretch', after, rfl, hspan⟩ := ih e hmem
        refine ⟨(Position.le_advanceAll _ _).trans hle, hlt,
          filler ++ stretch ++ before, stretch', after, by simp, ?_⟩
        rw [hspan]
        simp only [Position.advanceAll_append]

end Lexer

/-- Lexemes are laid out if their places are not empty and follow each other, and a number stands
for the characters that it covers. -/
structure Lexeme.Laid (pairs : List (Lexeme × Span)) : Prop where
  nonempty : ∀ e ∈ pairs, e.2.start < e.2.stop
  ordered : pairs.Pairwise fun e e' => e.2.Precedes e'.2
  numbers :
    ∀ text span,
      (Lexeme.literal text, span) ∈ pairs →
      Token.isNumberText text = true →
        span.stop = span.start.advanceAll text.toList

theorem Lexeme.Laid.sublist
    {pairs others : List (Lexeme × Span)}
    (h : Laid pairs)
    (hsublist : others.Sublist pairs) :
    Laid others where
  nonempty e he := h.nonempty e (hsublist.subset he)
  ordered := h.ordered.sublist hsublist
  numbers text span hmem := h.numbers text span (hsublist.subset hmem)

namespace Lexer

/-- A number stands for the characters that it was read from, since the text of a comment becomes a
string. -/
theorem Gives.numbers
    {stretch : List Char}
    {lexemes : List Lexeme}
    (h : Gives stretch lexemes)
    {text : String}
    (hmem : .literal text ∈ lexemes)
    (hnumber : Token.isNumberText text = true) :
    stretch = text.toList := by
  cases h with
  | single a =>
      obtain rfl := List.mem_singleton.mp hmem
      rfl
  | doc stretch doc =>
      have hquote : text = Text.quote .literal (String.ofList doc.text) := by
        unfold docLexemes at hmem
        split_ifs at hmem <;> simpa using hmem
      rw [hquote] at hnumber
      simp [Token.isNumberText, Text.quote] at hnumber

/-- The lexemes of a text are laid out. -/
theorem Steps.laid
    {place : Position}
    {cs : List Char}
    {pairs : List (Lexeme × Span)}
    (h : Steps place cs pairs) :
    Lexeme.Laid pairs := by
  refine ⟨fun e he => (h.places e he).2.1, ?_, ?_⟩
  · induction h with
    | nil place cs =>
        exact List.Pairwise.nil
    | @cons place stretch rest lexemes others filler hne hgives hrest ih =>
        rw [List.pairwise_append]
        refine ⟨?_, ih, ?_⟩
        · rw [List.pairwise_map]
          exact List.pairwise_of_forall fun a b => Or.inl rfl
        · intro e he e' he'
          obtain ⟨a, -, rfl⟩ := List.mem_map.mp he
          exact Or.inr (hrest.places e' he').1
  · induction h with
    | nil place cs =>
        simp
    | @cons place stretch rest lexemes others filler hne hgives hrest ih =>
        intro text span hmem hnumber
        rcases List.mem_append.mp hmem with hmem | hmem
        · obtain ⟨a, ha, heq⟩ := List.mem_map.mp hmem
          obtain ⟨rfl, rfl⟩ := Prod.mk.inj heq
          rw [← hgives.numbers ha hnumber, Position.advanceAll_append]
        · exact ih text span hmem hnumber

/-- A lexeme stands alone in a text if it covers its own characters and nothing else does. -/
structure Alone (place : Position) (cs : List Char) (before : List (Lexeme × Span))
    (e : Lexeme × Span) (after : List (Lexeme × Span)) : Prop where
  covers :
    ∃ front back,
      cs = front ++ e.1.chars ++ back ∧
      e.2 = ⟨place.advanceAll front, place.advanceAll (front ++ e.1.chars)⟩
  before : ∀ x ∈ before, x.2.stop ≤ e.2.start
  after : ∀ y ∈ after, e.2.stop ≤ y.2.start

/-- A lexeme belongs to a documenting comment with the lexemes around it. -/
def InDoc (before : List (Lexeme × Span)) (e : Lexeme × Span) (after : List (Lexeme × Span)) :
    Prop :=
  ∃ doc front back before' after',
    docLexemes doc = front ++ e.1 :: back ∧
    before = before' ++ front.map (·, e.2) ∧
    after = back.map (·, e.2) ++ after'

/-- An element of an append stands in the second list or in the first. -/
theorem split_append_cons
    {α : Type}
    {front others before after : List α}
    {a : α}
    (h : front ++ others = before ++ a :: after) :
    (∃ middle, before = front ++ middle ∧ others = middle ++ a :: after)
      ∨
    ∃ middle, front = before ++ a :: middle ∧ after = middle ++ others := by
  rcases List.append_eq_append_iff.mp h with ⟨middle, rfl, hothers⟩ | ⟨middle, rfl, hmiddle⟩
  · exact Or.inl ⟨middle, rfl, hothers⟩
  · cases middle with
    | nil =>
        exact Or.inl ⟨[], by simp, hmiddle.symm⟩
    | cons a' middle =>
        obtain ⟨rfl, rfl⟩ := List.cons.inj hmiddle
        exact Or.inr ⟨middle, rfl, rfl⟩

/-- Every lexeme stands alone or belongs to a documenting comment, by the step that reads it. -/
theorem Steps.alone_or_inDoc
    {place : Position}
    {cs : List Char}
    {pairs before after : List (Lexeme × Span)}
    {e : Lexeme × Span}
    (h : Steps place cs pairs)
    (hsplit : pairs = before ++ e :: after) :
    Alone place cs before e after ∨ InDoc before e after := by
  induction h generalizing before with
  | nil place cs =>
      simp at hsplit
  | @cons place stretch rest lexemes others filler hne hgives hrest ih =>
      rcases split_append_cons hsplit with ⟨middle, rfl, hothers⟩ | ⟨middle, hblock, rfl⟩
      · rcases ih hothers with halone | ⟨doc, front, back, before', after', hlexemes, rfl, rfl⟩
        · left
          obtain ⟨front, back, rfl, hspan⟩ := halone.covers
          refine ⟨⟨filler ++ stretch ++ front, back, by simp, ?_⟩, ?_, halone.after⟩
          · rw [hspan]
            simp only [Position.advanceAll_append]
          · intro x hx
            rcases List.mem_append.mp hx with hx | hx
            · obtain ⟨a, -, rfl⟩ := List.mem_map.mp hx
              exact (hrest.places e (by simp [hothers])).1
            · exact halone.before x hx
        · right
          exact ⟨doc, front, back, _, after', hlexemes, (List.append_assoc _ _ _).symm, rfl⟩
      · obtain ⟨front, others', rfl, rfl, hothers'⟩ := List.map_eq_append_iff.mp hblock
        obtain ⟨a, back, rfl, rfl, rfl⟩ := List.map_eq_cons_iff.mp hothers'
        generalize hlexemes : front ++ a :: back = lexemes at hgives
        cases hgives with
        | single b =>
            left
            obtain ⟨rfl, rfl, rfl⟩ : front = [] ∧ a = b ∧ back = [] := by
              cases front with
              | nil =>
                  simpa using hlexemes
              | cons c front =>
                  simp at hlexemes
            refine ⟨⟨filler, rest, rfl, rfl⟩, by simp, ?_⟩
            intro y hy
            exact (hrest.places y (by simpa using hy)).1
        | doc stretch doc =>
            right
            exact ⟨doc, front, back, [], others, hlexemes.symm, rfl, rfl⟩

end Lexer

end Steps

section Leaves

namespace Token

mutual

/-- The lexemes of a token with their places. -/
def leaves : Token → List (Lexeme × Span)
  | ident i span => [(.ident i, span)]
  | punct c spacing span => [(.punct c spacing, span)]
  | literal text span => [(.literal text, span)]
  | group d content opening closing =>
      (.opening d, opening) :: leavesAll content ++ [(.closing d, closing)]

/-- The lexemes of some tokens with their places, one after the other. -/
def leavesAll : List Token → List (Lexeme × Span)
  | [] => []
  | token :: tokens => leaves token ++ leavesAll tokens

end

@[simp] theorem leavesAll_nil :
    leavesAll [] = [] :=
  rfl

@[simp] theorem leavesAll_cons
    (token : Token)
    (tokens : List Token) :
    leavesAll (token :: tokens) = token.leaves ++ leavesAll tokens :=
  rfl

@[simp] theorem leavesAll_append
    (tokens others : List Token) :
    leavesAll (tokens ++ others) = leavesAll tokens ++ leavesAll others := by
  induction tokens with
  | nil =>
      rfl
  | cons token tokens ih =>
      simp [ih]

/-- The lexemes that were read when some groups are open and some tokens are done. -/
def openLeaves : List Frame → List Token → List (Lexeme × Span)
  | [], done => leavesAll done.reverse
  | frame :: frames, done =>
      openLeaves frames frame.before ++
        (.opening frame.delimiter, frame.opening) :: leavesAll done.reverse

theorem openLeaves_cons
    (frames : List Frame)
    (token : Token)
    (done : List Token) :
    openLeaves frames (token :: done) = openLeaves frames done ++ token.leaves := by
  cases frames with
  | nil =>
      simp [openLeaves]
  | cons frame frames =>
      simp [openLeaves]

/-- Reading tokens keeps every lexeme at its place. -/
theorem leavesAll_of_ofLexemesIn
    {frames : List Frame}
    {done tokens : List Token}
    {pairs : List (Lexeme × Span)}
    (h : ofLexemesIn frames done pairs = some tokens) :
    leavesAll tokens = openLeaves frames done ++ pairs := by
  fun_induction ofLexemesIn frames done pairs with
  | case1 done =>
      obtain rfl := Option.some.inj h
      simp [openLeaves]
  | case2 =>
      cases h
  | case3 frames done i span rest ih =>
      rw [ih h, openLeaves_cons]
      simp [leaves]
  | case4 frames done c spacing span rest ih =>
      rw [ih h, openLeaves_cons]
      simp [leaves]
  | case5 frames done text span rest ih =>
      rw [ih h, openLeaves_cons]
      simp [leaves]
  | case6 frames done d span rest ih =>
      rw [ih h]
      simp [openLeaves]
  | case7 =>
      cases h
  | case8 frame frames done span rest ih =>
      rw [ih h, openLeaves_cons]
      simp [openLeaves, leaves]
  | case9 =>
      cases h

/-- The tokens of a source text lie in its stretches. -/
theorem steps_of_ofSource
    {source : String}
    {tokens : List Token}
    (h : ofSource? source = some tokens) :
    Lexer.Steps Position.origin source.toList (leavesAll tokens) := by
  obtain ⟨pairs, hpairs, htokens⟩ := Option.bind_eq_some_iff.mp h
  have hleaves := leavesAll_of_ofLexemesIn htokens
  rw [openLeaves, List.reverse_nil, leavesAll_nil, List.nil_append] at hleaves
  rw [hleaves]
  exact Lexer.steps_of_lex hpairs

/-- The first lexeme of a token is where a complaint about the token points, and the token begins
there. -/
theorem leaves_eq_cons
    (token : Token) :
    ∃ a others,
      token.leaves = (a, token.front) :: others ∧ token.front.start = token.span.start := by
  cases token with
  | ident i span =>
      exact ⟨.ident i, [], rfl, rfl⟩
  | punct c spacing span =>
      exact ⟨.punct c spacing, [], rfl, rfl⟩
  | literal text span =>
      exact ⟨.literal text, [], rfl, rfl⟩
  | group d content opening closing =>
      exact ⟨.opening d, _, rfl, rfl⟩

/-- A token ends where its last lexeme does. -/
theorem leaves_eq_append
    (token : Token) :
    ∃ others e, token.leaves = others ++ [e] ∧ e.2.stop = token.span.stop := by
  cases token with
  | ident i span =>
      exact ⟨[], (.ident i, span), rfl, rfl⟩
  | punct c spacing span =>
      exact ⟨[], (.punct c spacing, span), rfl, rfl⟩
  | literal text span =>
      exact ⟨[], (.literal text, span), rfl, rfl⟩
  | group d content opening closing =>
      exact ⟨(.opening d, opening) :: leavesAll content, (.closing d, closing), rfl, rfl⟩

end Token

end Leaves

end Caseless
