import Caseless.Proofs.Lexing
import Caseless.Proofs.Quoting
import Caseless.Template
import Caseless.Token.Tree

/-!
# Printed lexemes are read back

Lexemes relex if their printed form is read back to exactly these lexemes, with matching
delimiters.  A list of lexemes is sound if each of them is read back in front of what is printed
behind it, whatever stopped tail follows the list.

Both notions agree (`Sound.relexes` and `Relexes.sound`): what is read back on its own is also read
back in front of every stopped tail.  Sound lists can be joined and put in groups, so the printed
form of a large piece of code is read back if that of its parts is.
-/

namespace Caseless

namespace Lexer

open Scanner Unicode

section Fillers

/-- A text is fresh if neither a blank nor a comment stands at its front. -/
structure Fresh (cs : List Char) : Prop where
  head : ∃ c front, cs = c :: front ∧ isBlank c = false
  line : startsWith cs "//" = false
  block : startsWith cs "/*" = false

theorem fresh_cons_iff
    {c : Char}
    {cs : List Char} :
    Fresh (c :: cs)
      ↔
    isBlank c = false ∧ (c = '/' → ∀ d ∈ cs.head?, d ≠ '/' ∧ d ≠ '*') := by
  constructor
  · intro h
    obtain ⟨c', front, heq, hblank⟩ := h.head
    obtain ⟨rfl, rfl⟩ := List.cons.inj heq
    refine ⟨hblank, ?_⟩
    rintro rfl d hd
    obtain ⟨rest, rfl⟩ := List.head?_eq_some_iff.mp hd
    constructor
    · rintro rfl
      cases h.line
    · rintro rfl
      cases h.block
  · rintro ⟨hblank, hslash⟩
    refine ⟨⟨c, cs, rfl, hblank⟩, ?_, ?_⟩
    · by_contra hline
      obtain ⟨front, heq⟩ := startsWith_eq_true_iff.mp (by simpa using hline)
      obtain ⟨rfl, rfl⟩ := List.cons.inj heq
      exact (hslash rfl '/' rfl).1 rfl
    · by_contra hblock
      obtain ⟨front, heq⟩ := startsWith_eq_true_iff.mp (by simpa using hblock)
      obtain ⟨rfl, rfl⟩ := List.cons.inj heq
      exact (hslash rfl '*' rfl).2 rfl

/-- A text that does not begin with some characters does not begin with more of them. -/
theorem startsWith_eq_false_of_longer
    {cs : List Char}
    {s t : String}
    (hlonger : s.toList <+: t.toList)
    (h : startsWith cs s = false) :
    startsWith cs t = false := by
  by_contra hstarts
  obtain ⟨front, rfl⟩ := startsWith_eq_true_iff.mp (by simpa using hstarts)
  obtain ⟨middle, hmiddle⟩ := hlonger
  have hs : startsWith (t.toList ++ front) s = true := by
    refine startsWith_eq_true_iff.mpr ⟨middle ++ front, ?_⟩
    rw [← hmiddle, List.append_assoc]
  rw [h] at hs
  cases hs

theorem Fresh.filler_eq_none
    {cs : List Char}
    (h : Fresh cs) :
    filler cs = none := by
  obtain ⟨c, front, rfl, hblank⟩ := h.head
  have hempty := startsWith_eq_false_of_longer (t := "/**/") ⟨['*', '/'], rfl⟩ h.block
  simp [filler, startsLineComment, startsBlockComment, h.line, h.block, hempty, hblank]

theorem Fresh.docComment_eq_none
    {cs : List Char}
    (h : Fresh cs) :
    docComment cs = none := by
  have hinnerLine := startsWith_eq_false_of_longer (t := "//!") ⟨['!'], rfl⟩ h.line
  have hinnerBlock := startsWith_eq_false_of_longer (t := "/*!") ⟨['!'], rfl⟩ h.block
  have houterLine := startsWith_eq_false_of_longer (t := "///") ⟨['/'], rfl⟩ h.line
  have houterBlock := startsWith_eq_false_of_longer (t := "/**") ⟨['*'], rfl⟩ h.block
  simp [docComment, anyDocComment, hinnerLine, hinnerBlock, houterLine, houterBlock]

theorem skipUpTo_of_filler_none
    {cs : List Char}
    (h : filler cs = none)
    (n : Nat) :
    skipUpTo n cs = cs := by
  cases n with
  | zero =>
      rfl
  | succ n =>
      simp [skipUpTo, h]

theorem Fresh.skip_eq
    {cs : List Char}
    (h : Fresh cs) :
    skip cs = cs :=
  skipUpTo_of_filler_none h.filler_eq_none _

theorem filler_blank
    (cs : List Char) :
    filler (' ' :: cs) = some cs := by
  rfl

theorem Fresh.skip_blank
    {cs : List Char}
    (h : Fresh cs) :
    skip (' ' :: cs) = cs := by
  unfold skip
  rw [List.length_cons, skipUpTo, filler_blank]
  exact skipUpTo_of_filler_none h.filler_eq_none _

/-- Neither a blank nor a comment stands in front of a lexeme. -/
theorem fresh_of_lexeme
    {cs rest : List Char}
    {a : Lexeme}
    (h : lexeme? cs = some (a, rest)) :
    Fresh cs := by
  obtain ⟨c, front, heq, hc⟩ := startsLexeme_of_lexeme h
  obtain ⟨hline, hblock⟩ := not_comment_of_lexeme h
  exact ⟨⟨c, front, heq, not_isBlank_of_startsLexeme hc⟩, hline, hblock⟩

end Fillers

section Steps

theorem Fresh.next_eq
    {cs : List Char}
    (h : Fresh cs) :
    next cs = (lexeme? cs).map fun result => ([result.1], result.2) := by
  unfold next lexeme?
  rw [h.docComment_eq_none]
  cases delimiter cs with
  | none =>
      rfl
  | some result =>
      rfl

/-- The lexer takes a lexeme behind at most one blank in one step. -/
theorem lexFor_cons
    {cs rest : List Char}
    {a : Lexeme}
    (h : lexeme? cs = some (a, rest))
    (blank : Bool)
    (n : Nat)
    (place : Position) :
    ∃ span,
      lexFor (n + 1) place ((if blank then [' '] else []) ++ cs) =
        (lexFor n span.stop rest).map ((a, span) :: ·) := by
  have hfresh := fresh_of_lexeme h
  have hskip : skip ((if blank then [' '] else []) ++ cs) = cs := by
    cases blank with
    | true =>
        exact hfresh.skip_blank
    | false =>
        exact hfresh.skip_eq
  have hne : cs.isEmpty = false := by
    obtain ⟨c, front, rfl, -⟩ := hfresh.head
    rfl
  let start := place.advanceAll (taken ((if blank then [' '] else []) ++ cs) cs)
  refine ⟨⟨start, start.advanceAll (taken cs rest)⟩, ?_⟩
  rw [lexFor]
  simp only [hskip, hne, hfresh.next_eq, h, Option.map_some, Bool.false_eq_true, if_false]
  rfl

/-- The lexer has reached the end, or takes the next lexemes and goes on. -/
theorem lexFor_cases
    {n : Nat}
    {place : Position}
    {cs : List Char}
    {pairs : List (Lexeme × Span)}
    (h : lexFor n place cs = some pairs) :
    pairs = []
      ∨
    ∃ m place' lexemes rest others,
      next (skip cs) = some (lexemes, rest) ∧
      lexFor m place' rest = some others ∧
      pairs.map Prod.fst = lexemes ++ others.map Prod.fst := by
  cases n with
  | zero =>
      cases h
  | succ n =>
      unfold lexFor at h
      simp only at h
      split_ifs at h with hempty
      · exact Or.inl (Option.some.inj h).symm
      · split at h
        · rename_i lexemes rest hnext
          obtain ⟨others, hothers, rfl⟩ := Option.map_eq_some_iff.mp h
          refine Or.inr ⟨n, _, lexemes, rest, others, hnext, hothers, ?_⟩
          simp [Function.comp_def]
        · cases h

/-- The first lexeme of a text is the number sign that a documenting comment stands for, or is read
from behind the fillers. -/
theorem first_of_lexFor
    {n : Nat}
    {place : Position}
    {cs : List Char}
    {pairs : List (Lexeme × Span)}
    {a : Lexeme}
    {others : List Lexeme}
    (h : lexFor n place cs = some pairs)
    (hpairs : pairs.map Prod.fst = a :: others) :
    (a = .punct '#' .alone ∧ docComment (skip cs) ≠ none)
      ∨
    ∃ rest m place' pairs',
      lexeme? (skip cs) = some (a, rest) ∧
      lexFor m place' rest = some pairs' ∧
      pairs'.map Prod.fst = others := by
  rcases lexFor_cases h with rfl | ⟨m, place', lexemes, rest, pairs', hnext, hrest, heq⟩
  · cases hpairs
  · rw [hpairs] at heq
    unfold next at hnext
    split at hnext
    · rename_i doc rest' hdoc
      obtain ⟨rfl, -⟩ := Prod.mk.inj (Option.some.inj hnext)
      left
      exact ⟨(List.cons.inj heq).1, by simp [hdoc]⟩
    · right
      have hlexeme : ∃ b, lexeme? (skip cs) = some (b, rest) ∧ lexemes = [b] := by
        unfold lexeme?
        cases hdelimiter : delimiter (skip cs) with
        | some result =>
            rw [hdelimiter] at hnext
            obtain ⟨rfl, rfl⟩ := Prod.mk.inj (Option.some.inj hnext)
            exact ⟨result.1, rfl, rfl⟩
        | none =>
            rw [hdelimiter] at hnext
            obtain ⟨result, hleaf, hresult⟩ := Option.map_eq_some_iff.mp hnext
            obtain ⟨rfl, rfl⟩ := Prod.mk.inj hresult
            exact ⟨result.1, hleaf, rfl⟩
      obtain ⟨b, hlexeme, rfl⟩ := hlexeme
      obtain ⟨rfl, rfl⟩ := List.cons.inj heq
      exact ⟨rest, m, place', pairs', hlexeme, hrest, rfl⟩

end Steps

end Lexer

namespace Lexeme

open Lexer Scanner

section Printing

theorem renderAfter_cons
    (before a : Lexeme)
    (L : List Lexeme) :
    renderAfter before (a :: L) = gap before a ++ renderChars (a :: L) := by
  simp [renderAfter, renderChars]

/-- What is printed behind a lexeme has at most one blank in front of it. -/
theorem exists_renderAfter_eq
    (before : Lexeme)
    (L : List Lexeme) :
    ∃ blank : Bool, renderAfter before L = (if blank then [' '] else []) ++ renderChars L := by
  cases L with
  | nil =>
      exact ⟨false, rfl⟩
  | cons a L =>
      exact ⟨blankBetween before a, renderAfter_cons before a L⟩

/-- Each lexeme is read back in front of what is printed behind it and of the tail. -/
def Faithful : List Lexeme → List Char → Prop
  | [], _ => True
  | a :: L, tail =>
      lexeme? (renderChars (a :: L) ++ tail) = some (a, renderAfter a L ++ tail) ∧
        Faithful L tail

/-- The lexer reads a faithful list back, one lexeme a step. -/
theorem exists_lexFor_of_faithful
    {L : List Lexeme}
    (h : Faithful L [])
    {n : Nat}
    (hn : L.length < n)
    (blank : Bool)
    (place : Position) :
    ∃ pairs,
      lexFor n place ((if blank then [' '] else []) ++ renderChars L) = some pairs ∧
      pairs.map Prod.fst = L := by
  induction L generalizing n blank place with
  | nil =>
      obtain ⟨m, rfl⟩ : ∃ m, n = m + 1 := ⟨n - 1, by omega⟩
      cases blank <;> exact ⟨[], rfl, rfl⟩
  | cons a L ih =>
      obtain ⟨m, rfl⟩ : ∃ m, n = m + 1 := ⟨n - 1, by omega⟩
      obtain ⟨hfirst, hrest⟩ := h
      simp only [List.append_nil] at hfirst
      obtain ⟨span, hstep⟩ := lexFor_cons hfirst blank m place
      obtain ⟨blank', hafter⟩ := exists_renderAfter_eq a L
      have hm : L.length < m := by
        rw [List.length_cons] at hn
        omega
      obtain ⟨pairs, hpairs, hmap⟩ := ih hrest hm blank' span.stop
      refine ⟨(a, span) :: pairs, ?_, ?_⟩
      · rw [hstep, hafter, hpairs]
        rfl
      · rw [List.map_cons, hmap]

/-- If the text in front of the lexer is fresh, the first lexeme is read from it. -/
theorem lexeme_of_lexFor
    {n : Nat}
    {place : Position}
    {cs : List Char}
    {pairs : List (Lexeme × Span)}
    {a : Lexeme}
    {L : List Lexeme}
    (hfresh : Fresh cs)
    (h : lexFor n place cs = some pairs)
    (hpairs : pairs.map Prod.fst = a :: L) :
    ∃ rest, lexeme? cs = some (a, rest) := by
  rcases first_of_lexFor h hpairs with ⟨-, hdoc⟩ | ⟨rest, -, -, -, hlexeme, -⟩
  · rw [hfresh.skip_eq, hfresh.docComment_eq_none] at hdoc
    exact absurd rfl hdoc
  · rw [hfresh.skip_eq] at hlexeme
    exact ⟨rest, hlexeme⟩

/-- What is printed begins as the first lexeme does. -/
theorem head_renderChars
    {cs rest : List Char}
    {a : Lexeme}
    (h : lexeme? cs = some (a, rest))
    (L : List Lexeme) :
    (renderChars (a :: L)).head? = cs.head? := by
  rw [chars_of_lexeme h, renderChars, List.head?_append_of_ne_nil _ (chars_ne_nil h),
    List.head?_append_of_ne_nil _ (chars_ne_nil h)]

theorem head_gap
    {a b : Lexeme}
    {cs : List Char}
    {d : Char}
    (h : d ∈ (gap a b ++ cs).head?) :
    d = ' ' ∨ d ∈ cs.head? := by
  unfold gap at h
  split_ifs at h with hblank
  · left
    simpa using h.symm
  · exact Or.inr h

/-- Right behind a character that stands alone only a closing mark is printed. -/
theorem head_gap_alone
    {c d : Char}
    {b : Lexeme}
    {L : List Lexeme}
    (h : d ∈ (gap (.punct c .alone) b ++ renderChars (b :: L)).head?) :
    d = ' ' ∨ ∃ delimiter : Delimiter, d = delimiter.closingChar := by
  cases b with
  | closing delimiter =>
      rcases head_gap h with hblank | hclosing
      · exact Or.inl hblank
      · exact Or.inr ⟨delimiter, by simpa [renderChars, chars] using hclosing.symm⟩
  | ident i =>
      exact Or.inl (by simpa [gap, blankBetween] using h.symm)
  | punct c spacing =>
      exact Or.inl (by simpa [gap, blankBetween] using h.symm)
  | literal text =>
      exact Or.inl (by simpa [gap, blankBetween] using h.symm)
  | opening delimiter =>
      exact Or.inl (by simpa [gap, blankBetween] using h.symm)

/-- A slash is not printed right in front of what would make it a comment: a punctuation character
stands there only if it was read right behind the slash, where no comment began. -/
theorem head_renderAfter_slash
    {n : Nat}
    {place : Position}
    {rest : List Char}
    {pairs : List (Lexeme × Span)}
    {a : Lexeme}
    {L : List Lexeme}
    (hslash : lexeme? ('/' :: rest) = some (a, rest))
    (h : lexFor n place rest = some pairs)
    (hpairs : pairs.map Prod.fst = L) :
    ∀ d ∈ (renderAfter a L).head?, d ≠ '/' ∧ d ≠ '*' := by
  obtain rfl : a = .punct '/' (if (punctChar rest).isSome then .joint else .alone) := by
    rcases punct_cases (punct_of_slash hslash) with ⟨c, hchar, -, rfl⟩ | ⟨hchar, -⟩
    · obtain ⟨rfl, -⟩ := List.cons.inj (punctChar_cases hchar).2.2.1
      rfl
    · cases (punctChar_cases hchar).2.2.1
  intro d hd
  cases L with
  | nil =>
      cases hd
  | cons b L =>
      rw [renderAfter_cons] at hd
      cases hnext : punctChar rest with
      | none =>
          simp only [hnext, Option.isSome_none, Bool.false_eq_true, if_false] at hd
          rcases head_gap_alone hd with rfl | ⟨delimiter, rfl⟩
          · decide
          · cases delimiter <;> decide
      | some found =>
          obtain ⟨hline, hblock, hrest, hmem⟩ := punctChar_cases hnext
          have hstart : startsLexeme found.1 = true := by
            simp [startsLexeme, hmem]
          have hfresh : Fresh rest :=
            ⟨⟨_, _, hrest, not_isBlank_of_startsLexeme hstart⟩, hline, hblock⟩
          obtain ⟨rest', hlexeme⟩ := lexeme_of_lexFor hfresh h hpairs
          rcases head_gap hd with rfl | hd'
          · decide
          · rw [head_renderChars hlexeme] at hd'
            exact (fresh_cons_iff.mp (fresh_of_lexeme hslash)).2 rfl d hd'

/-- A lexeme that the lexer reads is read from where it is printed, and not from a documenting
comment, which no number sign begins. -/
theorem read_of_lexFor
    {n : Nat}
    {place : Position}
    {blank : Bool}
    {pairs : List (Lexeme × Span)}
    {a : Lexeme}
    {L : List Lexeme}
    (h : lexFor n place ((if blank then [' '] else []) ++ renderChars (a :: L)) = some pairs)
    (hpairs : pairs.map Prod.fst = a :: L) :
    lexeme? (renderChars (a :: L)) = some (a, renderAfter a L) ∧
      ∃ m place' pairs',
        lexFor m place' (renderAfter a L) = some pairs' ∧ pairs'.map Prod.fst = L := by
  have hskip (hfresh : Fresh (renderChars (a :: L))) :
      skip ((if blank then [' '] else []) ++ renderChars (a :: L)) = renderChars (a :: L) := by
    cases blank with
    | true =>
        exact hfresh.skip_blank
    | false =>
        exact hfresh.skip_eq
  rcases first_of_lexFor h hpairs with ⟨rfl, hdoc⟩ | ⟨rest, m, place', pairs', hlexeme, hrest, hmap⟩
  · have hfresh : Fresh (renderChars (.punct '#' .alone :: L)) := by
      refine fresh_cons_iff.mpr ⟨rfl, ?_⟩
      intro hslash
      cases hslash
    rw [hskip hfresh, hfresh.docComment_eq_none] at hdoc
    exact absurd rfl hdoc
  · have hfront := chars_of_lexeme hlexeme
    have hfresh : Fresh (renderChars (a :: L)) := by
      have hfresh' := fresh_of_lexeme hlexeme
      rw [hfront] at hfresh'
      rw [renderChars]
      rcases hchars : a.chars with _ | ⟨c, _ | ⟨d, cs⟩⟩
      · exact absurd hchars (chars_ne_nil hlexeme)
      · rw [hchars, List.singleton_append, fresh_cons_iff] at hfresh'
        rw [List.singleton_append, fresh_cons_iff]
        refine ⟨hfresh'.1, ?_⟩
        rintro rfl
        rw [hfront, hchars, List.singleton_append] at hlexeme
        exact head_renderAfter_slash hlexeme hrest hmap
      · rw [hchars, List.cons_append, fresh_cons_iff] at hfresh'
        rw [List.cons_append, fresh_cons_iff]
        exact hfresh'
    rw [hskip hfresh] at hlexeme hfront
    obtain rfl : renderAfter a L = rest := by
      rw [renderChars] at hfront
      exact List.append_cancel_left hfront
    exact ⟨hlexeme, m, place', pairs', hrest, hmap⟩

/-- A list that the lexer reads back from its printed form is faithful. -/
theorem faithful_of_lexFor
    {L : List Lexeme}
    {n : Nat}
    {place : Position}
    (blank : Bool)
    {pairs : List (Lexeme × Span)}
    (h : lexFor n place ((if blank then [' '] else []) ++ renderChars L) = some pairs)
    (hpairs : pairs.map Prod.fst = L) :
    Faithful L [] := by
  induction L generalizing n place blank pairs with
  | nil =>
      trivial
  | cons a L ih =>
      obtain ⟨hlexeme, m, place', pairs', hrest, hmap⟩ := read_of_lexFor h hpairs
      obtain ⟨blank', hafter⟩ := exists_renderAfter_eq a L
      rw [hafter] at hrest
      refine ⟨?_, ih blank' hrest hmap⟩
      simpa using hlexeme

end Printing

end Lexeme

namespace Token

section Trees

/-- The lexemes that were read when some groups are open and some tokens are done. -/
def openLexemes : List Frame → List Token → List Lexeme
  | [], done => lexemesAll done.reverse
  | frame :: frames, done =>
      openLexemes frames frame.before ++ .opening frame.delimiter :: lexemesAll done.reverse

theorem openLexemes_cons
    (frames : List Frame)
    (token : Token)
    (done : List Token) :
    openLexemes frames (token :: done) = openLexemes frames done ++ token.lexemes := by
  cases frames with
  | nil =>
      simp [openLexemes, lexemesAll_append, lexemesAll]
  | cons frame frames =>
      simp [openLexemes, lexemesAll_append, lexemesAll]

/-- Reading tokens loses no lexeme. -/
theorem lexemesAll_of_ofLexemesIn
    {frames : List Frame}
    {done tokens : List Token}
    {pairs : List (Lexeme × Span)}
    (h : ofLexemesIn frames done pairs = some tokens) :
    lexemesAll tokens = openLexemes frames done ++ pairs.map Prod.fst := by
  fun_induction ofLexemesIn frames done pairs with
  | case1 done =>
      obtain rfl := Option.some.inj h
      simp [openLexemes]
  | case2 =>
      cases h
  | case3 frames done i span rest ih =>
      rw [ih h, openLexemes_cons]
      simp [lexemes]
  | case4 frames done c spacing span rest ih =>
      rw [ih h, openLexemes_cons]
      simp [lexemes]
  | case5 frames done text span rest ih =>
      rw [ih h, openLexemes_cons]
      simp [lexemes]
  | case6 frames done d span rest ih =>
      rw [ih h]
      simp [openLexemes, lexemesAll]
  | case7 =>
      cases h
  | case8 frame frames done span rest ih =>
      rw [ih h, openLexemes_cons]
      simp [openLexemes, lexemes]
  | case9 =>
      cases h

mutual

/-- The lexemes of a token are read to a token. -/
theorem exists_ofLexemesIn_lexemes
    (token : Token)
    (frames : List Frame)
    (done : List Token)
    {L : List Lexeme}
    {pairs : List (Lexeme × Span)}
    (hpairs : pairs.map Prod.fst = token.lexemes ++ L) :
    ∃ token' pairs',
      pairs'.map Prod.fst = L ∧
      ofLexemesIn frames done pairs = ofLexemesIn frames (token' :: done) pairs' := by
  match token with
  | .ident i _ =>
      obtain ⟨⟨_, span⟩, rest, rfl, rfl, hrest⟩ := List.map_eq_cons_iff.mp hpairs
      exact ⟨.ident i span, rest, hrest, by rw [ofLexemesIn]⟩
  | .punct c spacing _ =>
      obtain ⟨⟨_, span⟩, rest, rfl, rfl, hrest⟩ := List.map_eq_cons_iff.mp hpairs
      exact ⟨.punct c spacing span, rest, hrest, by rw [ofLexemesIn]⟩
  | .literal text _ =>
      obtain ⟨⟨_, span⟩, rest, rfl, rfl, hrest⟩ := List.map_eq_cons_iff.mp hpairs
      exact ⟨.literal text span, rest, hrest, by rw [ofLexemesIn]⟩
  | .group d content _ _ =>
      simp only [lexemes, List.cons_append, List.append_assoc] at hpairs
      obtain ⟨⟨_, opening⟩, rest, rfl, rfl, hrest⟩ := List.map_eq_cons_iff.mp hpairs
      obtain ⟨content', pairs', hpairs', hcontent⟩ :=
        exists_ofLexemesIn_lexemesAll content (⟨done, d, opening⟩ :: frames) [] hrest
      obtain ⟨⟨_, closing⟩, rest', rfl, rfl, hrest'⟩ := List.map_eq_cons_iff.mp hpairs'
      refine ⟨.group d content'.reverse opening closing, rest', hrest', ?_⟩
      rw [ofLexemesIn, hcontent, ofLexemesIn]
      simp

theorem exists_ofLexemesIn_lexemesAll
    (tokens : List Token)
    (frames : List Frame)
    (done : List Token)
    {L : List Lexeme}
    {pairs : List (Lexeme × Span)}
    (hpairs : pairs.map Prod.fst = lexemesAll tokens ++ L) :
    ∃ done' pairs',
      pairs'.map Prod.fst = L ∧
      ofLexemesIn frames done pairs = ofLexemesIn frames done' pairs' := by
  match tokens with
  | [] =>
      exact ⟨done, pairs, by simpa [lexemesAll] using hpairs, rfl⟩
  | token :: tokens =>
      rw [lexemesAll, List.append_assoc] at hpairs
      obtain ⟨token', pairs₁, hpairs₁, hfirst⟩ :=
        exists_ofLexemesIn_lexemes token frames done hpairs
      obtain ⟨done', pairs₂, hpairs₂, hrest⟩ :=
        exists_ofLexemesIn_lexemesAll tokens frames (token' :: done) hpairs₁
      exact ⟨done', pairs₂, hpairs₂, hfirst.trans hrest⟩

end

end Trees

end Token

namespace Lexeme

open Lexer Scanner

section Relexing

/-- Some lexemes relex if their printed form has tokens with exactly these lexemes. -/
def Relexes (L : List Lexeme) : Prop :=
  ∃ tokens, Token.ofSource? (render L) = some tokens ∧ Token.lexemesAll tokens = L

/-- Some lexemes are sound if their delimiters match and each of them is read back, whatever
stopped tail follows. -/
structure Sound (L : List Lexeme) : Prop where
  balanced : ∃ tokens, Token.lexemesAll tokens = L
  faithful : ∀ tail, Stopped tail → Faithful L tail

/-- What is read back on its own is read back in front of a stopped tail. -/
theorem Faithful.append
    {L : List Lexeme}
    {tail : List Char}
    (h : Faithful L [])
    (htail : Stopped tail) :
    Faithful L tail := by
  induction L with
  | nil =>
      trivial
  | cons a L ih =>
      obtain ⟨hfirst, hrest⟩ := h
      simp only [List.append_nil] at hfirst
      refine ⟨?_, ih hrest⟩
      apply lexeme_append hfirst htail
      cases L with
      | nil =>
          rfl
      | cons b L =>
          have hfresh := fresh_of_lexeme hrest.1
          rw [List.append_nil] at hfresh
          rw [renderAfter_cons, gap]
          split
          · rfl
          · exact hfresh.block

/-- Without the byte order mark in front, dropping it changes nothing. -/
theorem dropMark_eq
    {cs : List Char}
    (h : cs.head? ≠ some byteOrderMark) :
    dropMark cs = cs := by
  cases cs with
  | nil =>
      rfl
  | cons c cs =>
      have hne : c ≠ byteOrderMark := by
        rintro rfl
        exact h rfl
      simp [dropMark, hne]

/-- Without the byte order mark in front, a source text is split from its origin. -/
theorem lex_eq_lexChars
    {source : String}
    (h : dropMark source.toList = source.toList) :
    lex source = lexChars source.toList := by
  have hmark : taken source.toList source.toList = [] := by simp [taken]
  simp only [lex, lexChars, h, hmark, Position.advanceAll, List.foldl_nil]

/-- What is read back does not begin with the byte order mark. -/
theorem dropMark_renderChars_of_lexFor
    {L : List Lexeme}
    {n : Nat}
    {place : Position}
    {cs : List Char}
    {pairs : List (Lexeme × Span)}
    (h : lexFor n place cs = some pairs)
    (hpairs : pairs.map Prod.fst = L) :
    dropMark (renderChars L) = renderChars L := by
  apply dropMark_eq
  cases L with
  | nil =>
      simp [renderChars]
  | cons a L =>
      rcases first_of_lexFor h hpairs with ⟨rfl, -⟩ | ⟨rest, -, -, -, hlexeme, -⟩
      · simp [renderChars, chars, byteOrderMark]
      · rw [head_renderChars hlexeme]
        intro hhead
        obtain ⟨front, heq⟩ := List.head?_eq_some_iff.mp hhead
        rw [heq, lexeme_byteOrderMark] at hlexeme
        cases hlexeme

theorem length_le_of_faithful
    {L : List Lexeme}
    (h : Faithful L []) :
    L.length ≤ (renderChars L).length := by
  induction L with
  | nil =>
      exact Nat.zero_le _
  | cons a L ih =>
      have hle := ih h.2
      have hlt := length_lt_of_lexeme h.1
      obtain ⟨blank, hafter⟩ := exists_renderAfter_eq a L
      simp only [List.append_nil, hafter, List.length_append] at hlt
      rw [List.length_cons]
      omega

theorem Sound.relexes
    {L : List Lexeme}
    (h : Sound L) :
    Relexes L := by
  have hfaithful := h.faithful [] stopped_nil
  obtain ⟨pairs, hlex, hpairs⟩ :=
    exists_lexFor_of_faithful hfaithful
      (Nat.lt_succ_of_le (length_le_of_faithful hfaithful)) false Position.origin
  obtain ⟨tokens, htokens⟩ := h.balanced
  obtain ⟨done, pairs', hpairs', hread⟩ :=
    Token.exists_ofLexemesIn_lexemesAll tokens [] [] (L := [])
      (by rw [hpairs, htokens, List.append_nil])
  obtain rfl := List.map_eq_nil_iff.mp hpairs'
  have hlexed : lex (render L) = some pairs := by
    rw [lex_eq_lexChars, render, String.toList_ofList]
    · exact hlex
    · rw [render, String.toList_ofList]
      exact dropMark_renderChars_of_lexFor hlex hpairs
  have hdone : Token.ofLexemesIn [] [] pairs = some done.reverse := by
    rw [hread, Token.ofLexemesIn]
  refine ⟨done.reverse, ?_, ?_⟩
  · unfold Token.ofSource? Token.ofLexemes?
    rw [hlexed, Option.bind_some, hdone]
  · rw [Token.lexemesAll_of_ofLexemesIn hdone, hpairs]
    rfl

theorem Relexes.sound
    {L : List Lexeme}
    (h : Relexes L) :
    Sound L := by
  obtain ⟨tokens, hsource, htokens⟩ := h
  obtain ⟨pairs, hlexed, hread⟩ := Option.bind_eq_some_iff.mp hsource
  have hpairs : pairs.map Prod.fst = L := by
    rw [← htokens, Token.lexemesAll_of_ofLexemesIn hread]
    rfl
  unfold lex lexFrom render at hlexed
  rw [String.toList_ofList] at hlexed
  rw [dropMark_renderChars_of_lexFor hlexed hpairs] at hlexed
  have hfaithful : Faithful L [] := faithful_of_lexFor false hlexed hpairs
  exact ⟨⟨tokens, htokens⟩, fun tail htail => hfaithful.append htail⟩

end Relexing

end Lexeme

end Caseless
