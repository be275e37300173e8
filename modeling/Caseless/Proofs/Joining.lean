import Caseless.Proofs.Relexing
import Mathlib.Data.List.TakeWhile

/-!
# Joining sound code

Sound lists of lexemes can be joined, repeated, separated by commas and put in groups.  Words,
symbols, lifetimes and string literals are sound, whatever text a literal means.
-/

namespace Caseless

namespace Lexeme

open Lexer Scanner

section Ends

/-- Nothing is printed between two lexemes only in front of a closing mark, behind an opening one,
or inside a symbol. -/
theorem blankBetween_eq_false_cases
    {a b : Lexeme}
    (h : blankBetween a b = false) :
    (∃ d : Delimiter, b = .closing d ∧ isStop d.closingChar = true) ∨
      (∃ d, a = .opening d) ∨ (∃ c, a = .punct c .joint) := by
  unfold blankBetween at h
  split at h
  · cases h
  · rename_i d hbrace
    left
    refine ⟨d, rfl, ?_⟩
    cases d with
    | parenthesis =>
        rfl
    | bracket =>
        rfl
    | brace =>
        exact absurd rfl hbrace
  · cases h
  · exact Or.inr (Or.inl ⟨_, rfl⟩)
  · exact Or.inr (Or.inr ⟨_, rfl⟩)
  · cases h

/-- At the end of a text a punctuation character stands alone. -/
theorem lexeme_nil_ne_joint
    {cs : List Char}
    {c : Char} :
    lexeme? cs ≠ some (.punct c .joint, []) := by
  intro h
  rcases Option.or_eq_some_iff.mp h with hdelimiter | ⟨-, hleaf⟩
  · rcases delimiter_cases hdelimiter with ⟨d, heq, -⟩ | ⟨d, heq, -⟩ <;> cases heq
  · rcases leaf_eq_some_iff.mp hleaf with ⟨-, heq⟩ | hpunct | ⟨i, -, heq⟩ | ⟨-, heq⟩
    · cases heq
    · rcases punct_cases hpunct with ⟨d, -, -, heq⟩ | ⟨-, hlife, -⟩
      · cases heq
      · cases hlife
    · cases heq
    · cases heq

theorem Faithful.last
    {a : Lexeme}
    {L : List Lexeme}
    {tail : List Char}
    (h : Faithful (a :: L) tail) :
    ∃ cs, lexeme? cs = some (L.getLastD a, tail) := by
  induction L generalizing a with
  | nil =>
      exact ⟨_, h.1⟩
  | cons b L ih =>
      rw [List.getLastD_cons]
      exact ih h.2

/-- No opening mark stands at the end of what matches. -/
theorem getLast?_lexemesAll_ne_opening
    (tokens : List Token)
    (d : Delimiter) :
    (Token.lexemesAll tokens).getLast? ≠ some (.opening d) := by
  induction tokens with
  | nil =>
      simp [Token.lexemesAll]
  | cons token tokens ih =>
      rw [Token.lexemesAll, List.getLast?_append]
      cases hlast : (Token.lexemesAll tokens).getLast? with
      | some a =>
          rw [hlast] at ih
          simpa using ih
      | none =>
          cases token with
          | group delimiter content opening closing =>
              rw [Token.lexemes, List.getLast?_concat]
              simp
          | ident i span =>
              simp [Token.lexemes]
          | punct c spacing span =>
              simp [Token.lexemes]
          | literal text span =>
              simp [Token.lexemes]

/-- Sound code is followed by a stop. -/
theorem Sound.stopped_renderAfter
    {a : Lexeme}
    {L : List Lexeme}
    (h : Sound (a :: L))
    (M : List Lexeme)
    {tail : List Char}
    (htail : Stopped tail) :
    Stopped (renderAfter (L.getLastD a) M ++ tail) := by
  cases M with
  | nil =>
      exact htail
  | cons b M =>
      rw [renderAfter_cons, gap]
      split_ifs with hblank
      · exact stopped_cons_iff.mpr rfl
      · rcases blankBetween_eq_false_cases (Bool.eq_false_of_not_eq_true hblank) with
          ⟨d, rfl, hd⟩ | ⟨d, hopening⟩ | ⟨c, hjoint⟩
        · exact stopped_cons_iff.mpr hd
        · obtain ⟨tokens, htokens⟩ := h.balanced
          have hlast := getLast?_lexemesAll_ne_opening tokens d
          rw [htokens, List.getLast?_cons, ← List.getLastD_eq_getLast?, hopening] at hlast
          exact absurd rfl hlast
        · obtain ⟨cs, hcs⟩ := (h.faithful [] stopped_nil).last
          rw [hjoint] at hcs
          exact absurd hcs lexeme_nil_ne_joint

end Ends

section Closure

theorem renderAfter_append
    (a : Lexeme)
    (L M : List Lexeme) :
    renderAfter a (L ++ M) = renderAfter a L ++ renderAfter (L.getLastD a) M := by
  induction L generalizing a with
  | nil =>
      rfl
  | cons b L ih =>
      rw [List.cons_append, renderAfter, renderAfter, ih, List.getLastD_cons]
      simp only [List.append_assoc]

/-- What is joined is faithful if the first part is in front of the second. -/
theorem faithful_append
    {a : Lexeme}
    {L M : List Lexeme}
    {tail : List Char}
    (h : Faithful (a :: L) (renderAfter (L.getLastD a) M ++ tail))
    (h' : Faithful M tail) :
    Faithful (a :: L ++ M) tail := by
  induction L generalizing a with
  | nil =>
      refine ⟨?_, h'⟩
      have hfirst := h.1
      simpa [renderChars, renderAfter] using hfirst
  | cons b L ih =>
      obtain ⟨hfirst, hrest⟩ := h
      rw [List.getLastD_cons] at hfirst hrest
      refine ⟨?_, ih hrest⟩
      change
        lexeme? (renderChars (a :: (b :: L ++ M)) ++ tail) =
          some (a, renderAfter a (b :: L ++ M) ++ tail)
      rw [renderChars, renderAfter_append, List.getLastD_cons]
      simpa only [renderChars, List.append_assoc] using hfirst

theorem sound_nil :
    Sound [] :=
  ⟨⟨[], rfl⟩, fun _ _ => trivial⟩

theorem Sound.append
    {L M : List Lexeme}
    (hL : Sound L)
    (hM : Sound M) :
    Sound (L ++ M) := by
  cases L with
  | nil =>
      exact hM
  | cons a L =>
      constructor
      · obtain ⟨tokens, htokens⟩ := hL.balanced
        obtain ⟨others, hothers⟩ := hM.balanced
        exact ⟨tokens ++ others, by rw [Token.lexemesAll_append, htokens, hothers]⟩
      · intro tail htail
        have hstopped := hL.stopped_renderAfter M htail
        exact faithful_append (hL.faithful _ hstopped) (hM.faithful tail htail)

theorem sound_flatMap
    {α : Type}
    {f : α → List Lexeme}
    {items : List α}
    (h : ∀ item ∈ items, Sound (f item)) :
    Sound (items.flatMap f) := by
  induction items with
  | nil =>
      exact sound_nil
  | cons item items ih =>
      rw [List.flatMap_cons]
      have hitem := h item List.mem_cons_self
      have hitems := ih fun other hother => h other (List.mem_cons_of_mem item hother)
      exact hitem.append hitems

/-- A closing mark is read in front of every tail. -/
theorem faithful_closing
    (d : Delimiter)
    (tail : List Char) :
    Faithful [.closing d] tail := by
  refine ⟨?_, trivial⟩
  have hclosing := delimiter_closing d tail
  exact Option.or_eq_some_iff.mpr (Or.inl hclosing)

theorem stopped_closing
    (a : Lexeme)
    (d : Delimiter)
    (tail : List Char) :
    Stopped (renderAfter a [.closing d] ++ tail) := by
  cases d <;> exact stopped_cons_iff.mpr rfl

theorem Sound.faithful_closed
    {L : List Lexeme}
    (h : Sound L)
    (d : Delimiter)
    (tail : List Char) :
    Faithful (L ++ [.closing d]) tail := by
  cases L with
  | nil =>
      exact faithful_closing d tail
  | cons a L =>
      exact faithful_append (h.faithful _ (stopped_closing _ d tail)) (faithful_closing d tail)

theorem Sound.group
    {L : List Lexeme}
    (h : Sound L)
    (d : Delimiter) :
    Sound (Template.group d L) := by
  constructor
  · obtain ⟨tokens, rfl⟩ := h.balanced
    refine ⟨[.group d tokens Span.unplaced Span.unplaced], ?_⟩
    simp [Token.lexemesAll, Token.lexemes, Template.group]
  · intro tail htail
    have hcontent := h.faithful_closed d tail
    refine ⟨?_, hcontent⟩
    have hcomment :
        startsWith (renderAfter (.opening d) (L ++ [.closing d]) ++ tail) "/*" = false := by
      cases hlist : L ++ [.closing d] with
      | nil =>
          simp at hlist
      | cons b M =>
          rw [hlist] at hcontent
          rw [renderAfter_cons, gap]
          split_ifs with hblank
          · rfl
          · exact (fresh_of_lexeme hcontent.1).block
    refine Option.or_eq_some_iff.mpr (Or.inl ?_)
    exact delimiter_opening (d := d) (startsWith_errorMark_eq_false hcomment)

end Closure

end Lexeme

namespace Ident

/-- An identifier is well formed if its name is a name and, with the raw mark, one that may bear
it. -/
def WellFormed (i : Ident) : Prop :=
  Scanner.name i.name.toList = some [] ∧ (i.raw = true → i.name ∉ Scanner.neverRaw)

instance (i : Ident) : Decidable i.WellFormed :=
  inferInstanceAs (Decidable (_ ∧ _))

end Ident

namespace Lexeme

open Lexer Scanner Unicode

section Leaves

theorem Sound.of_faithful
    {L : List Lexeme}
    (tokens : List Token)
    (htokens : Token.lexemesAll tokens = L)
    (h : Faithful L []) :
    Sound L :=
  ⟨⟨tokens, htokens⟩, fun _ htail => h.append htail⟩

/-- All characters of a name may stand in one. -/
theorem isIdentContinue_of_name
    {cs : List Char}
    (h : name cs = some []) :
    ∀ c ∈ cs, isIdentStart c = true ∨ isIdentContinue c = true := by
  obtain ⟨c, front, rfl, hstart⟩ := name_head h
  have hdrop : front.dropWhile isIdentContinue = [] := by simpa [name, hstart] using h
  intro d hd
  rcases List.mem_cons.mp hd with rfl | hmem
  · exact Or.inl hstart
  · exact Or.inr (List.dropWhile_eq_nil_iff.mp hdrop d hmem)

/-- A name does not begin as a text with a character that no name has. -/
theorem startsWith_name_eq_false
    {cs : List Char}
    (h : name cs = some [])
    {s : String}
    (hs : (s.toList.any fun c => !isIdentStart c && !isIdentContinue c) = true) :
    startsWith cs s = false := by
  by_contra hstarts
  obtain ⟨front, rfl⟩ := startsWith_eq_true_iff.mp (by simpa using hstarts)
  obtain ⟨c, hmem, hstart, hcontinue⟩ :
      ∃ c ∈ s.toList, isIdentStart c = false ∧ isIdentContinue c = false := by
    simpa using hs
  rcases isIdentContinue_of_name h c (List.mem_append_left front hmem) with hc | hc
  · rw [hstart] at hc
    cases hc
  · rw [hcontinue] at hc
    cases hc

theorem anyIdent_text
    {i : Ident}
    (h : i.WellFormed) :
    anyIdent i.text.toList = some (i, []) := by
  obtain ⟨name, raw⟩ := i
  obtain ⟨hname, hraw⟩ := h
  simp only at hname hraw
  cases raw with
  | true =>
      have hmark : text Ident.rawMark (Ident.text ⟨name, true⟩).toList = some name.toList := by
        simp [Ident.text, text, exactly_eq_some_iff]
      simp [anyIdent, hmark, hname, taken, hraw]
  | false =>
      have hmark : text Ident.rawMark name.toList = none := by
        have hstarts := startsWith_name_eq_false hname (s := Ident.rawMark) (by decide)
        simpa [startsWith] using hstarts
      simp [anyIdent, Ident.text, hmark, hname, taken]

/-- An identifier is read back, since what a mark of a literal needs behind it begins no name. -/
theorem ident_text
    {i : Ident}
    (h : i.WellFormed) :
    Lexer.ident i.text.toList = some (i, []) := by
  refine ident_eq_some_iff.mpr ⟨?_, anyIdent_text h⟩
  rw [List.any_eq_false]
  intro mark hmark
  rw [Bool.not_eq_true]
  obtain ⟨name, raw⟩ := i
  obtain ⟨hname, -⟩ := h
  cases raw with
  | true =>
      obtain ⟨c, front, hlist, hstart⟩ := name_head hname
      have htext : (Ident.text ⟨name, true⟩).toList = 'r' :: '#' :: c :: front := by
        simpa [Ident.text, Ident.rawMark] using hlist
      have hquote : '"' ≠ c := by
        rintro rfl
        cases hstart
      have hhash : '#' ≠ c := by
        rintro rfl
        cases hstart
      rw [htext]
      simp only [literalMarks, List.mem_cons, List.not_mem_nil, or_false] at hmark
      rcases hmark with rfl | rfl | rfl | rfl | rfl | rfl | rfl | rfl | rfl | rfl <;>
        simp [startsWith, text, exactly, hquote, hhash]
  | false =>
      have hforeign :
          ∀ mark ∈ literalMarks,
            (mark.toList.any fun c => !isIdentStart c && !isIdentContinue c) = true := by
        decide
      exact startsWith_name_eq_false hname (hforeign mark hmark)

theorem opens?_of_isIdentStart
    {c : Char}
    (h : isIdentStart c = true) :
    opens? c = none ∧ closes? c = none := by
  constructor
  · apply Option.eq_none_iff_forall_ne_some.mpr
    intro d hd
    rw [openingChar_of_opens? hd] at h
    cases d <;> cases h
  · apply Option.eq_none_iff_forall_ne_some.mpr
    intro d hd
    rw [closingChar_of_closes? hd] at h
    cases d <;> cases h

theorem faithful_ident
    {i : Ident}
    (h : i.WellFormed) :
    Faithful (Template.ident i) [] := by
  refine ⟨?_, trivial⟩
  have hident := ident_text h
  obtain ⟨c, front, hlist, hstart⟩ := anyIdent_head (anyIdent_text h)
  obtain ⟨hopens, hcloses⟩ := opens?_of_isIdentStart hstart
  simp only [renderChars, renderAfter, chars, List.append_nil]
  rw [hlist] at hident ⊢
  rw [lexeme_of_leaf hopens hcloses, leaf_eq_some_iff]
  exact Or.inr (Or.inr (Or.inl ⟨i, hident, rfl⟩))

theorem sound_ident
    {i : Ident}
    (h : i.WellFormed) :
    Sound (Template.ident i) :=
  Sound.of_faithful [.ident i Span.unplaced] rfl (faithful_ident h)

theorem sound_word
    {text : String}
    (h : (Ident.plain text).WellFormed) :
    Sound (Template.word text) :=
  sound_ident h

/-- What is quoted is scanned as one string literal. -/
theorem string_quote
    (style : Text.QuoteStyle)
    (text : String) :
    string (Text.quote style text).toList = some [] := by
  rw [Text.quote_toList]
  simp [string, quoted, Text.readQuoted_escape, optionalName, name]

/-- What is quoted is one lexeme. -/
theorem lexeme_quote
    (style : Text.QuoteStyle)
    (text : String) :
    lexeme? (Text.quote style text).toList = some (.literal (Text.quote style text), []) := by
  have hliteral : Scanner.literal (Text.quote style text).toList = some [] :=
    literal_eq_some_iff.mpr (Or.inl (string_quote style text))
  have hleaf :
      leaf (Text.quote style text).toList =
        some (.literal (Text.quote style text), []) := by
    rw [leaf_eq_some_iff]
    exact Or.inl ⟨hliteral, by simp [taken]⟩
  rw [Text.quote_toList] at hleaf ⊢
  rw [lexeme_of_leaf rfl rfl]
  exact hleaf

/-- A string literal is sound, whatever text it means. -/
theorem sound_string
    (text : String) :
    Sound (Template.string text) := by
  refine Sound.of_faithful [.literal (Text.quote .literal text) Span.unplaced] rfl ⟨?_, trivial⟩
  simp only [renderChars, renderAfter, chars, List.append_nil]
  exact lexeme_quote .literal text

theorem punctChar_cons
    {c : Char}
    {cs : List Char}
    (hmem : c ∈ punctuation)
    (hslash : c ≠ '/') :
    punctChar (c :: cs) = some (c, cs) := by
  simp [punctChar, startsWith, text, exactly, hmem, hslash.symm]

theorem lexeme_of_punctuation
    {c : Char}
    {cs : List Char}
    (hmem : c ∈ punctuation)
    (hslash : c ≠ '/')
    (happ : c ≠ '\x27') :
    lexeme? (c :: cs) =
      some (.punct c (if (punctChar cs).isSome then .joint else .alone), cs) := by
  obtain ⟨-, -, -, hopens, hcloses⟩ := punctuation_heads hmem
  rw [lexeme_of_leaf hopens hcloses, leaf_eq_some_iff]
  refine Or.inr (Or.inl ?_)
  simp [Lexer.punct, punctChar_cons hmem hslash, happ]

/-- The characters of a symbol that needs no care with slashes and apostrophes. -/
def Symbolic (cs : List Char) : Prop :=
  ∀ c ∈ cs, c ∈ punctuation ∧ c ≠ '/' ∧ c ≠ '\x27'

instance (cs : List Char) : Decidable (Symbolic cs) :=
  List.decidableBAll _ cs

theorem renderAfter_symbolChars
    (c : Char)
    (cs : List Char) :
    renderAfter (.punct c .joint) (Template.symbolChars cs) = cs := by
  fun_induction Template.symbolChars cs generalizing c with
  | case1 =>
      rfl
  | case2 d =>
      rfl
  | case3 d cs hne ih =>
      simp [renderAfter, gap, blankBetween, chars, ih]

theorem faithful_symbolChars
    {cs : List Char}
    (h : Symbolic cs) :
    Faithful (Template.symbolChars cs) [] := by
  fun_induction Template.symbolChars cs with
  | case1 =>
      trivial
  | case2 c =>
      obtain ⟨hmem, hslash, happ⟩ := h c List.mem_cons_self
      exact ⟨lexeme_of_punctuation hmem hslash happ, trivial⟩
  | case3 c cs hne ih =>
      obtain ⟨hmem, hslash, happ⟩ := h c List.mem_cons_self
      refine ⟨?_, ih fun d hd => h d (List.mem_cons_of_mem c hd)⟩
      have hjoint : (punctChar cs).isSome = true := by
        rcases cs with _ | ⟨d, cs⟩
        · exact absurd rfl hne
        · obtain ⟨hmem', hslash', -⟩ := h d (by simp)
          rw [punctChar_cons hmem' hslash']
          rfl
      have hlexeme :
          lexeme? (c :: cs) =
            some (.punct c (if (punctChar cs).isSome then .joint else .alone), cs) :=
        lexeme_of_punctuation hmem hslash happ
      rw [hjoint] at hlexeme
      simpa [renderChars, chars, renderAfter_symbolChars] using hlexeme

theorem balanced_symbolChars
    (cs : List Char) :
    ∃ tokens, Token.lexemesAll tokens = Template.symbolChars cs := by
  fun_induction Template.symbolChars cs with
  | case1 =>
      exact ⟨[], rfl⟩
  | case2 c =>
      exact ⟨[.punct c .alone Span.unplaced], rfl⟩
  | case3 c cs hne ih =>
      obtain ⟨tokens, htokens⟩ := ih
      refine ⟨.punct c .joint Span.unplaced :: tokens, ?_⟩
      rw [Token.lexemesAll, htokens]
      rfl

theorem sound_symbol
    {text : String}
    (h : Symbolic text.toList) :
    Sound (Template.symbol text) := by
  obtain ⟨tokens, htokens⟩ := balanced_symbolChars text.toList
  exact Sound.of_faithful tokens htokens (faithful_symbolChars h)

theorem sound_lifetime
    {name : String}
    (h : (Ident.plain name).WellFormed) :
    Sound (Template.lifetime name) := by
  have hany : anyIdent name.toList = some (.plain name, []) := anyIdent_text h
  have hlife : startsLifetime name.toList = true := by
    simp [startsLifetime, hany, startsWith, text, exactly, Ident.plain]
  refine Sound.of_faithful
    [.punct '\x27' .joint Span.unplaced, .ident (.plain name) Span.unplaced] rfl
    ⟨?_, faithful_ident h⟩
  have hchar : punctChar ('\x27' :: name.toList) = some ('\x27', name.toList) :=
    punctChar_cons (by decide) (by decide)
  have hleaf : leaf ('\x27' :: name.toList) = some (.punct '\x27' .joint, name.toList) := by
    rw [leaf_eq_some_iff]
    refine Or.inr (Or.inl ?_)
    simp [Lexer.punct, hchar, hlife]
  have hlexeme : lexeme? ('\x27' :: name.toList) = some (.punct '\x27' .joint, name.toList) := by
    rw [lexeme_of_leaf rfl rfl, hleaf]
  simpa [renderChars, renderAfter, gap, blankBetween, chars, Ident.text, Ident.plain]
    using hlexeme

theorem sound_commaSeparated
    {parts : List (List Lexeme)}
    (h : ∀ part ∈ parts, Sound part) :
    Sound (Template.commaSeparated parts) := by
  fun_induction Template.commaSeparated parts with
  | case1 =>
      exact sound_nil
  | case2 part =>
      exact h part List.mem_cons_self
  | case3 part parts _ ih =>
      have hpart := h part List.mem_cons_self
      have hparts := ih fun other hother => h other (List.mem_cons_of_mem part hother)
      have hcomma : Sound (Template.symbol ",") := sound_symbol (by decide)
      exact (hpart.append hcomma).append hparts

theorem sound_names
    {texts : List String}
    (h : ∀ text ∈ texts, (Ident.plain text).WellFormed) :
    Sound (Template.names texts) := by
  apply sound_flatMap
  intro text htext
  exact (sound_symbol (by decide)).append (sound_word (h text htext))

end Leaves

end Lexeme

end Caseless
