import Caseless.Proofs.Layout
import Caseless.Proofs.RawValueType

/-!
# What tokens cover in a text

A span that runs over tokens of a text covers a stretch of the text.  An identifier and a delimiter
cover their own characters unless they come from a documenting comment, whose lexemes all have the
place of the comment.  What stands around them tells that they do not: an identifier in a comment
follows an opening bracket, and the brackets of an attribute with another name than `doc` are those
of no comment (`Attribute.covers_of_hasName`).
-/

namespace Caseless

section Spans

namespace Span

variable {s t : Span} {spans : List Span}

theorem Ordered.start_le
    (h : Ordered (s :: spans)) :
    ∀ x ∈ s :: spans, s.start ≤ x.start := by
  intro x hx
  rcases List.mem_cons.mp hx with rfl | hmem
  · exact le_refl _
  · exact ((List.pairwise_cons.mp h.precedes).1 x hmem).start_le_start
      (h.nonempty s List.mem_cons_self)

theorem Ordered.le_stop
    (h : Ordered (spans ++ [s])) :
    ∀ x ∈ spans ++ [s], x.stop ≤ s.stop := by
  intro x hx
  rcases List.mem_append.mp hx with hmem | hmem
  · exact ((List.pairwise_append.mp h.precedes).2.2 x hmem s (by simp)).stop_le_stop
      (h.nonempty s (by simp))
  · obtain rfl := List.mem_singleton.mp hmem
    exact le_refl _

/-- What runs over some tokens lies between the beginning of the first and the end of the last. -/
theorem Runs.within_spanAll
    {tokens : List Token}
    (hordered : Ordered (Token.places tokens))
    (h : s.Runs (Token.places tokens)) :
    s.Within (Token.spanAll tokens) := by
  obtain ⟨⟨x, hx, hstart⟩, ⟨y, hy, hstop⟩, -⟩ := h
  have hne : tokens ≠ [] := by
    rintro rfl
    cases hx
  constructor
  · obtain ⟨token, rest, rfl⟩ := List.exists_cons_of_ne_nil hne
    obtain ⟨a, others, hleaves, hfront⟩ := token.leaves_eq_cons
    have hplaces :
        Token.places (token :: rest) = token.front :: (others.map (·.2) ++ Token.places rest) := by
      simp [Token.places, hleaves]
    rw [hplaces] at hordered hx
    rw [hstart]
    exact hfront ▸ hordered.start_le x hx
  · obtain ⟨front, last, rfl⟩ := (List.eq_nil_or_concat' tokens).resolve_left hne
    obtain ⟨others, z, hplaces, hz⟩ := Token.places_concat front last
    have hend := Token.stop?_eq_spanAll hne
    have hlast : z.stop = (Token.spanAll (front ++ [last])).stop := by
      simpa [Token.stop?, hz] using hend
    rw [hplaces] at hordered hy
    rw [hstop, ← hlast]
    exact hordered.le_stop y hy

/-- From one stretch of a text to a later one, which cannot begin before the end of the first. -/
theorem Covers.join
    {text first last : List Char}
    (hs : s.Covers text first)
    (ht : t.Covers text last)
    (h : s.stop ≤ t.start) :
    ∃ middle, (s.join t).Covers text (first ++ middle ++ last) := by
  obtain ⟨before, after, rfl, rfl⟩ := hs
  obtain ⟨front, back, htext, rfl⟩ := ht
  rw [List.append_assoc front] at htext
  have hbehind :
      ∃ middle, front = before ++ first ++ middle ∧ after = middle ++ (last ++ back) := by
    rcases List.append_eq_append_iff.mp htext with hmiddle | ⟨middle, hfront, hlast⟩
    · exact hmiddle
    · cases middle with
      | nil =>
          exact ⟨[], by simpa using hfront.symm, by simpa using hlast.symm⟩
      | cons c middle =>
          have hlt := Position.lt_advanceAll (Position.origin.advanceAll front)
            (List.cons_ne_nil c middle)
          rw [← Position.advanceAll_append, ← hfront] at hlt
          exact absurd h hlt.not_ge
  obtain ⟨middle, rfl, rfl⟩ := hbehind
  exact ⟨middle, before, back, by simp, by simp [Span.join]⟩

end Span

end Spans

section Texts

variable {text : List Char} {tokens : List Token}

/-- What runs over tokens of a text covers a stretch of it. -/
theorem Span.Runs.exists_covers
    {s : Span}
    (h : s.Runs (Token.places tokens))
    (hsteps : Lexer.Steps Position.origin text (Token.leavesAll tokens)) :
    ∃ stretch, stretch ≠ [] ∧ s.Covers text stretch := by
  obtain ⟨⟨x, hx, hstart⟩, ⟨y, hy, hstop⟩, hlt⟩ := h
  obtain ⟨e, he, rfl⟩ := List.mem_map.mp hx
  obtain ⟨e', he', rfl⟩ := List.mem_map.mp hy
  obtain ⟨-, -, before, stretch, after, htext, hspan⟩ := hsteps.places e he
  obtain ⟨-, -, before', stretch', after', htext', hspan'⟩ := hsteps.places e' he'
  refine Span.exists_covers ?_ ?_ hlt
  · exact ⟨before, stretch ++ after, by rw [htext, List.append_assoc], by rw [hstart, hspan]⟩
  · exact ⟨before' ++ stretch', after', htext', by rw [hstop, hspan']⟩

namespace Lexer

open Scanner

/-- The last element of a list stands at a place in it or behind. -/
theorem eq_or_mem_of_concat_eq
    {α : Type}
    {front before after : List α}
    {z a : α}
    (h : front ++ [z] = before ++ a :: after) :
    a = z ∨ z ∈ after := by
  rcases split_append_cons h with ⟨middle, -, hlast⟩ | ⟨middle, -, rfl⟩
  · cases middle with
    | nil =>
        exact Or.inl (List.cons.inj hlast).1.symm
    | cons b middle =>
        simp at hlast
  · exact Or.inr (by simp)

section Docs

variable {doc : DocComment} {front back : List Lexeme}

/-- The lexemes of a documenting comment behind its marks. -/
def docBody (doc : DocComment) : List Lexeme :=
  [.opening .bracket, .ident (.plain "doc"), .punct '=' .alone,
    .literal (Text.quote .literal (String.ofList doc.text)), .closing .bracket]

theorem docLexemes_eq
    (doc : DocComment) :
    ∃ mark,
      (mark = [] ∨ mark = [.punct '!' .alone]) ∧
      docLexemes doc = .punct '#' .alone :: mark ++ docBody doc := by
  unfold docLexemes
  split
  · exact ⟨_, Or.inr rfl, rfl⟩
  · exact ⟨_, Or.inl rfl, rfl⟩

/-- An identifier in a documenting comment follows an opening bracket. -/
theorem ident_of_docLexemes
    {i : Ident}
    (h : docLexemes doc = front ++ .ident i :: back) :
    i = .plain "doc" ∧ ∃ front', front = front' ++ [.opening .bracket] := by
  obtain ⟨mark, hmark, heq⟩ := docLexemes_eq doc
  rw [heq] at h
  rcases split_append_cons h with ⟨middle, rfl, hbody⟩ | ⟨middle, hmarks, -⟩
  · rcases middle with _ | ⟨a, _ | ⟨b, middle⟩⟩
    · simp [docBody] at hbody
    · obtain ⟨rfl, rfl, -⟩ : .opening .bracket = a ∧ .plain "doc" = i ∧ _ = back := by
        simpa [docBody] using hbody
      exact ⟨rfl, _, rfl⟩
    · have hrest :
          [.punct '=' .alone, .literal _, .closing .bracket] = middle ++ .ident i :: back :=
        (List.cons.inj (List.cons.inj hbody).2).2
      have hmem : .ident i ∈ middle ++ .ident i :: back := by simp
      rw [← hrest] at hmem
      simp at hmem
  · have hmem : .ident i ∈ front ++ .ident i :: middle := by simp
    rw [← hmarks] at hmem
    rcases hmark with rfl | rfl <;> simp at hmem

/-- Behind the number sign of a documenting comment stand an exclamation mark or brackets. -/
theorem hash_of_docLexemes
    {spacing : Spacing}
    (h : docLexemes doc = front ++ .punct '#' spacing :: back) :
    back = docBody doc ∨ back = .punct '!' .alone :: docBody doc := by
  obtain ⟨mark, hmark, heq⟩ := docLexemes_eq doc
  rw [heq] at h
  have hrest : .punct '#' spacing ∉ mark ++ docBody doc := by
    rcases hmark with rfl | rfl <;> simp [docBody]
  cases front with
  | nil =>
      obtain ⟨-, rfl⟩ := List.cons.inj h
      rcases hmark with rfl | rfl
      · exact Or.inl rfl
      · exact Or.inr rfl
  | cons a front =>
      obtain ⟨-, htail⟩ := List.cons.inj h
      change mark ++ docBody doc = _ at htail
      rw [htail] at hrest
      simp at hrest

/-- The closing bracket of a documenting comment follows its brackets' other tokens. -/
theorem closing_of_docLexemes
    (h : docLexemes doc = front ++ .closing .bracket :: back) :
    ∃ marks text,
      front =
        marks ++ [.opening .bracket, .ident (.plain "doc"), .punct '=' .alone, .literal text] := by
  obtain ⟨mark, hmark, heq⟩ := docLexemes_eq doc
  rw [heq] at h
  have hmarks : .closing .bracket ∉ .punct '#' .alone :: mark := by
    rcases hmark with rfl | rfl <;> simp
  rcases split_append_cons h with ⟨middle, rfl, hbody⟩ | ⟨middle, heq', -⟩
  · rcases middle with _ | ⟨a, _ | ⟨b, _ | ⟨c, _ | ⟨d, middle⟩⟩⟩⟩
    all_goals simp [docBody] at hbody
    obtain ⟨rfl, rfl, rfl, rfl, hend⟩ := hbody
    cases middle with
    | nil =>
        exact ⟨_, _, rfl⟩
    | cons e middle =>
        simp at hend
  · rw [heq'] at hmarks
    simp at hmarks

end Docs

section Alone

variable {place : Position} {cs : List Char} {pairs before after : List (Lexeme × Span)} {s : Span}

/-- An identifier that follows no opening bracket stands alone. -/
theorem Steps.alone_ident
    {i : Ident}
    (h : Steps place cs (before ++ (.ident i, s) :: after))
    (hbefore : ∀ e ∈ before.getLast?, e.1 ≠ .opening .bracket) :
    Alone place cs before (.ident i, s) after := by
  rcases h.alone_or_inDoc rfl with halone | ⟨doc, front, back, before', after', hdoc, rfl, -⟩
  · exact halone
  · obtain ⟨-, front', rfl⟩ := ident_of_docLexemes hdoc
    exact absurd rfl (hbefore (.opening .bracket, s) (by simp))

/-- The number sign of brackets that begin with another identifier than `doc` stands alone. -/
theorem Steps.alone_hash
    {i : Ident}
    (hi : i ≠ .plain "doc")
    {spacing : Spacing}
    {t u : Span}
    (h :
      Steps place cs
        (before ++ (.punct '#' spacing, s) :: (.opening .bracket, t) :: (.ident i, u) :: after)) :
    Alone place cs before (.punct '#' spacing, s)
      ((.opening .bracket, t) :: (.ident i, u) :: after) := by
  rcases h.alone_or_inDoc rfl with halone | ⟨doc, front, back, before', after', hdoc, -, hafter⟩
  · exact halone
  · rcases hash_of_docLexemes hdoc with rfl | rfl
    · simp [docBody, hi] at hafter
    · simp at hafter

end Alone

end Lexer

/-- Behind an opening delimiter stands a closing one, that of the outermost group around it. -/
theorem Token.closing_behind_opening
    {d : Delimiter}
    {s : Span}
    {before after : List (Lexeme × Span)}
    (h : leavesAll tokens = before ++ (.opening d, s) :: after) :
    ∃ d' t, (.closing d', t) ∈ after := by
  induction tokens generalizing before with
  | nil =>
      simp at h
  | cons token tokens ih =>
      rw [leavesAll_cons] at h
      rcases Lexer.split_append_cons h with ⟨middle, rfl, hrest⟩ | ⟨middle, htoken, rfl⟩
      · exact ih hrest
      · have hmem : (.opening d, s) ∈ token.leaves := by simp [htoken]
        cases token with
        | ident i span =>
            simp [leaves] at hmem
        | punct c spacing span =>
            simp [leaves] at hmem
        | literal text span =>
            simp [leaves] at hmem
        | group d' content opening closing =>
            rcases Lexer.eq_or_mem_of_concat_eq htoken with heq | hclosing
            · cases (Prod.mk.inj heq).1
            · exact ⟨d', closing, List.mem_append_left _ hclosing⟩

/-- The closing bracket behind another identifier than `doc` stands alone: the brackets of a comment
would begin behind the identifier, and end there. -/
theorem Lexer.Steps.alone_closing
    {i : Ident}
    (hi : i ≠ .plain "doc")
    {place : Position}
    {cs : List Char}
    {before after : List (Lexeme × Span)}
    {s u : Span}
    (h :
      Steps place cs
        (before ++ (.ident i, u) :: Token.leavesAll tokens ++ (.closing .bracket, s) :: after)) :
    Alone place cs (before ++ (.ident i, u) :: Token.leavesAll tokens) (.closing .bracket, s)
      after := by
  rcases h.alone_or_inDoc rfl with halone | ⟨doc, front, back, before', after', hdoc, hbefore, -⟩
  · exact halone
  · obtain ⟨marks, text, rfl⟩ := closing_of_docLexemes hdoc
    rw [List.append_cons, List.map_append, ← List.append_assoc] at hbefore
    rcases split_append_cons hbefore with ⟨middle, -, htokens⟩ | ⟨middle, hident, hrest⟩
    · obtain ⟨d', t, hmem⟩ := Token.closing_behind_opening htokens
      simp at hmem
    · rcases eq_or_mem_of_concat_eq hident with heq | hmem
      · cases (Prod.mk.inj heq).1
      · have hdoc : (.ident i, u) ∈ middle ++ Token.leavesAll tokens :=
          List.mem_append_left _ hmem
        rw [← hrest] at hdoc
        simp [hi] at hdoc

end Texts

section Attributes

namespace Rule

/-- What may stand in front of a name is printed as something else. -/
theorem echoes_andThen_of_optional
    {call : Phrase → Parser Piece}
    {i : Ident}
    (hi : i.isReserved = false)
    {test : Lookahead}
    {first second : Rule}
    (hfirst : Parser.Prints Token.Foreign (first.follow call))
    (hsecond : Parser.Echoes i (second.follow call)) :
    Parser.Echoes i ((andThen (optional test first) fun _ => second).follow call) := by
  intro c piece d h span htokens
  obtain ⟨a, c', b, ha, hb, rfl⟩ := follow_andThen_eq_ok_iff.mp h
  rw [optional, follow_choose] at ha
  split at ha
  · exact absurd htokens (((hfirst c a c' ha).append b.tokens).ne_ident hi span)
  · obtain ⟨rfl, rfl⟩ := Parser.pure_eq_ok_iff.mp ha
    exact hsecond c b d hb span (by simpa using htokens)

end Rule

namespace AttributeRule

variable {i : Ident}

theorem echoes_plainNames
    (depth : Nat) :
    Parser.Echoes i (Phrase.readTo depth .plainNames) := by
  apply Phrase.ensures_readTo
  intro depth
  apply Rule.ensures_choose _ (Rule.echoes_name Terminal.takesName_ident)
  apply Rule.echoes_andThen (Rule.echoes_name Terminal.takesName_word)
    (Rule.nonempty_name Terminal.takesName_word)
  intro _
  apply Rule.ensures_choose _ (Rule.sparing_accept _)
  apply Parser.sparing_of_prints
  exact Rule.nonempty_of_foreign (Rule.foreign_andThen (Rule.foreign_symbol "::"))

theorem echoes_path
    (hi : i.isReserved = false)
    (depth : Nat) :
    Parser.Echoes i (path.follow (Phrase.readTo depth)) := by
  apply Rule.ensures_choose
  · exact Parser.echoes_of_foreign hi (Rule.foreign_keyword (by decide))
  · apply Phrase.ensures_readTo
    intro depth
    exact Rule.echoes_andThen_of_optional hi (Rule.foreign_symbol "::") (echoes_plainNames depth)

end AttributeRule

namespace Attribute

/-- The brackets of an attribute whose path is a name begin with this name. -/
theorem content_of_hasName
    {name : String}
    (hname : (Ident.plain name).isReserved = false)
    {a : Attribute}
    (ha : a.HasName name)
    {c d : Cursor}
    (h : parseContent c = .ok ((a.path, a.arguments), d)) :
    ∃ span rest, c.tokens = .ident (.plain name) span :: rest := by
  obtain ⟨path, c', hpath, h⟩ := Parser.bind_eq_ok_iff.mp h
  obtain ⟨arguments, c'', -, h⟩ := Parser.bind_eq_ok_iff.mp h
  obtain ⟨heq, -⟩ := Parser.pure_eq_ok_iff.mp h
  obtain ⟨span, hspan⟩ := ha
  obtain rfl : path = [.ident (.plain name) span] := by
    rw [← hspan]
    exact (Prod.mk.inj heq).1
  obtain ⟨piece, hpiece, htokens⟩ := Rule.parse_eq_ok_iff.mp hpath
  exact ⟨span, c'.tokens, AttributeRule.echoes_path hname _ c piece c' hpiece span htokens⟩

/-- An attribute with another name than `doc` covers a text from its number sign to its bracket. -/
theorem covers_of_hasName
    {text : List Char}
    {tokens : List Token}
    (hsteps : Lexer.Steps Position.origin text (Token.leavesAll tokens))
    {name : String}
    (hname : (Ident.plain name).isReserved = false)
    (hdoc : name ≠ "doc")
    {a : Attribute}
    (ha : a.HasName name)
    (h : a.StandsIn tokens) :
    ∃ middle, a.span.Covers text ('#' :: middle ++ [']']) := by
  obtain ⟨before, spacing, content, after, leftOver, inner, rfl, hcontent⟩ := h
  obtain ⟨span, rest, heq⟩ := content_of_hasName hname ha hcontent
  obtain rfl : content = _ := heq
  have hi : Ident.plain name ≠ .plain "doc" := by simpa [Ident.plain] using hdoc
  have hleaves :
      Token.leavesAll
          (before ++ .punct '#' spacing a.hash ::
            .group .bracket (.ident (.plain name) span :: rest) a.opening a.closing :: after) =
        Token.leavesAll before ++ (.punct '#' spacing, a.hash) :: (.opening .bracket, a.opening) ::
          (.ident (.plain name), span) :: (Token.leavesAll rest ++
            (.closing .bracket, a.closing) :: Token.leavesAll after) := by
    simp [Token.leaves]
  rw [hleaves] at hsteps
  have hhash := hsteps.alone_hash hi
  have hsteps' :
      Lexer.Steps Position.origin text
        ((Token.leavesAll before ++
            [(.punct '#' spacing, a.hash), (.opening .bracket, a.opening)]) ++
          (.ident (.plain name), span) :: Token.leavesAll rest ++
            (.closing .bracket, a.closing) :: Token.leavesAll after) := by
    simpa using hsteps
  have hclosing := hsteps'.alone_closing hi
  exact Span.Covers.join hhash.covers hclosing.covers
    (hhash.after (.closing .bracket, a.closing) (by simp))

end Attribute

end Attributes

end Caseless
