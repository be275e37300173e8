import Caseless.Proofs.OptionPlaces
import Caseless.Proofs.Outcome
import Caseless.Proofs.TextPlaces
import Caseless.Source

/-!
# Failures point at their causes

A failure of an expansion is reported at what caused it, and the span covers a stretch of the source
text (`Failure.expand_points_at_cause`).  The cause is the name of an item that is no enum or
declares no raw value type, the attribute with malformed options or with another raw value type, or
the first variant that is no plain name.
-/

namespace Caseless

section Causes

/-- The place at which a failure is reported. -/
def Failure.span : Failure → Span
  | options e => e.span
  | diagnostic d => d.span

namespace Item

variable (item : Item) (text : List Char) (tokens : List Token) (s : Span)

/-- A span lies inside the first attribute with malformed options. -/
def InMalformedOptions : Prop :=
  ∃ before a after,
    item.attributes.filter (·.isNamed Context.attributeName) = before ++ a :: after ∧
    (∀ b ∈ before, ∃ settings, Context.settingsOf b = .ok settings) ∧
    (∀ settings, Context.settingsOf a ≠ .ok settings) ∧
    a.StandsIn tokens ∧
    s.Within a.span

/-- A span covers exactly the name of an item, the raw mark included, which stands behind the
keyword for the kind of the item. -/
def AtName : Prop :=
  s = item.name.span ∧
  s.Covers text item.name.ident.text.toList ∧
  ∃ before word after,
    tokens = before ++ .ident (.plain item.kind.describe) word :: item.name.token :: after

/-- A span lies inside the first attribute that declares a raw value type.  It covers all of this
attribute, from the number sign to the bracket, if there are no delimiters with exactly one type
between them. -/
def InRawValueType : Prop :=
  ∃ a,
    Attribute.FirstNamed item.attributes rawValueAttribute a ∧
    a.StandsIn tokens ∧
    s.Within a.span ∧
    (declaredType a = none → s = a.span ∧ ∃ middle, s.Covers text ('#' :: middle ++ [']']))

/-- A variant is the first one of an item that is no plain name, and it is read from a window of the
tokens between the braces, where its attributes stand in front of its name. -/
def FirstBad (v : Variant) (window : List Token) : Prop :=
  (∃ before after, item.variants = before ++ v :: after ∧ ∀ u ∈ before, u.IsPlain) ∧
  ¬v.IsPlain ∧
  (∃ content opening closing,
    .group .brace content opening closing ∈ tokens ∧ v.StandsIn window content) ∧
  ∃ front back, window = front ++ v.name.token :: back ∧ ∀ a ∈ v.attributes, a.StandsIn front

/-- A span runs from the first attribute of the first bad variant, or else from its name, to its
end, and the variant has fields. -/
def AtCaseWithFields : Prop :=
  ∃ v window,
    item.FirstBad tokens v window ∧
    v.hasFields = true ∧
    s.start = ((v.attributes.map (·.hash)).head?.getD v.name.span).start ∧
    s.stop = (Token.spanAll window).stop

/-- A span lies inside the first bad variant, behind its name, and the variant has a discriminant
and no fields. -/
def AtDiscriminant : Prop :=
  ∃ v window,
    item.FirstBad tokens v window ∧
    v.hasFields = false ∧
    v.hasDiscriminant = true ∧
    s.Within (Token.spanAll window) ∧
    v.name.span.stop ≤ s.start

end Item

/-- A failure is reported at its cause. -/
def Failure.PointsAtCause (text : List Char) (tokens : List Token) (item : Item) : Failure → Prop
  | options e => item.InMalformedOptions tokens e.span
  | diagnostic ⟨.notAnEnum _ _, s⟩ => item.AtName text tokens s
  | diagnostic ⟨.unsupportedRawValueType .missing, s⟩ => item.AtName text tokens s
  | diagnostic ⟨.unsupportedRawValueType (.notString _), s⟩ => item.InRawValueType text tokens s
  | diagnostic ⟨.unsupportedRawValueType (.caseWithFields _), s⟩ => item.AtCaseWithFields tokens s
  | diagnostic ⟨.unsupportedRawValueType (.caseWithDiscriminant _), s⟩ =>
      item.AtDiscriminant tokens s

end Causes

section Attributes

namespace Attribute

variable {a : Attribute} {tokens : List Token}

/-- What runs over tokens in the brackets of an attribute lies inside the attribute. -/
theorem StandsIn.places
    (hlaid : Lexeme.Laid (Token.leavesAll tokens))
    (h : a.StandsIn tokens) :
    a.span.Runs (Token.places tokens) ∧
    ∃ content leftOver inner,
      parseContent ⟨content, a.closing, leftOver⟩ = .ok ((a.path, a.arguments), inner) ∧
      Lexeme.Laid (Token.leavesAll content) ∧
      ∀ s : Span,
        s.Runs (Token.places content) → s.Runs (Token.places tokens) ∧ s.Within a.span := by
  obtain ⟨before, spacing, content, after, leftOver, inner, rfl, hcontent⟩ := h
  have hmem :
      Token.group .bracket content a.opening a.closing ∈
        [.punct '#' spacing a.hash, .group .bracket content a.opening a.closing] := by
    simp
  have hown :
      [Token.punct '#' spacing a.hash, .group .bracket content a.opening a.closing].Sublist
        (before ++ .punct '#' spacing a.hash ::
          .group .bracket content a.opening a.closing :: after) :=
    ((List.nil_sublist after).cons_cons _ |>.cons_cons _).trans (List.sublist_append_right _ _)
  have hplaces := Token.places_sublist hown
  have hordered := hlaid.spans_ordered.sublist hplaces
  have hinner := Cursor.spans_inner_subset hmem leftOver
  refine ⟨?_, content, leftOver, inner, hcontent, ?_, fun s hs => ?_⟩
  · exact (Token.runs_spanAll hordered (Token.beginsIn_self _) rfl (by simp)).mono hplaces.subset
  · exact (Cursor.laid_inner hlaid (hown.subset hmem) leftOver).tokens
  · have hinside := hs.mono (Cursor.places_subset_spans ⟨content, a.closing, leftOver⟩)
    have hruns := hinside.mono hinner
    exact ⟨hruns.mono hplaces.subset, hruns.within_spanAll hordered⟩

/-- An error of options runs over tokens inside their attribute. -/
theorem StandsIn.runs_of_settingsOf_eq_error
    (hlaid : Lexeme.Laid (Token.leavesAll tokens))
    (h : a.StandsIn tokens)
    {e : SyntaxError}
    (he : Context.settingsOf a = .error e) :
    e.span.Runs (Token.places tokens) ∧ e.span.Within a.span := by
  obtain ⟨-, content, leftOver, inner, hcontent, hinner, hruns⟩ := h.places hlaid
  exact hruns e.span (Context.runs_of_settingsOf_eq_error hinner hcontent he)

/-- The type that an attribute declares runs over tokens in its brackets. -/
theorem runs_of_declaredType
    {c d : Cursor}
    (hlaid : Lexeme.Laid (Token.leavesAll c.tokens))
    (hcontent : parseContent c = .ok ((a.path, a.arguments), d))
    {type : List Token}
    (h : Item.declaredType a = some type) :
    (Token.spanAll type).Runs (Token.places c.tokens) := by
  have harguments := standIn_of_parseContent hcontent
  unfold Item.declaredType at h
  split at h
  · rename_i delimiter tokens' opening closing heq
    rw [heq] at harguments
    have hinner := Cursor.laid_inner hlaid harguments none
    split at h
    · rename_i type' hparse
      obtain rfl := Option.some.inj h
      obtain ⟨d', hread, -⟩ := Parser.parseAll_eq_ok_iff.mp hparse
      have hruns :=
        @Rule.runs_of_parse (.phrase (.type true)) trivial trivial _ _ _ hinner.tokens hread
      exact (hruns.mono (Cursor.places_subset_spans ⟨tokens', closing, none⟩)).mono
        (Cursor.spans_inner_subset harguments none)
    · cases h
  · cases h

/-- An error about the type that an attribute declares runs over tokens inside the attribute. -/
theorem StandsIn.runs_of_checkDeclaredType_eq_error
    (hlaid : Lexeme.Laid (Token.leavesAll tokens))
    (h : a.StandsIn tokens)
    {d : Diagnostic}
    (hd : Item.checkDeclaredType a = .error d) :
    d.span.Runs (Token.places tokens) ∧
    d.span.Within a.span ∧
    (Item.declaredType a = none → d.span = a.span) := by
  obtain ⟨hown, content, leftOver, inner, hcontent, hinner, hruns⟩ := h.places hlaid
  unfold Item.checkDeclaredType at hd
  split at hd
  · rename_i type htype
    split at hd
    · cases hd
    · obtain rfl := Except.error.inj hd
      obtain ⟨hall, hwithin⟩ := hruns _ (runs_of_declaredType hinner hcontent htype)
      exact ⟨hall, hwithin, fun hnone => nomatch htype.symm.trans hnone⟩
  · obtain rfl := Except.error.inj hd
    exact ⟨hown, ⟨le_refl _, le_refl _⟩, fun _ => rfl⟩

end Attribute

end Attributes

section Items

variable {text : List Char} {tokens : List Token} {item : Item}

/-- No tokens end with an opening bracket, and neither do they behind an opening brace. -/
theorem Token.last_ne_opening
    {before : List (Lexeme × Span)}
    {opening : Span} :
    ∀ e ∈ (before ++ (.opening .brace, opening) :: leavesAll tokens).getLast?,
      e.1 ≠ .opening .bracket := by
  intro e he hbracket
  obtain ⟨d, s⟩ := e
  obtain rfl : d = .opening .bracket := hbracket
  simp only [List.getLast?_append, List.getLast?_cons] at he
  cases hlast : (leavesAll tokens).getLast? with
  | none =>
      simp [hlast] at he
  | some e =>
      obtain rfl : e = (.opening .bracket, s) := by simpa [hlast] using he
      obtain ⟨others, hothers⟩ := List.getLast?_eq_some_iff.mp hlast
      obtain ⟨d', t, hmem⟩ := closing_behind_opening hothers
      cases hmem

namespace Item

/-- The name of an item covers its own characters. -/
theorem StandsIn.atName
    (hsteps : Lexer.Steps Position.origin text (Token.leavesAll tokens))
    (h : item.StandsIn tokens) :
    item.AtName text tokens item.name.span ∧ item.name.span.Runs (Token.places tokens) := by
  obtain ⟨before, word, after, rfl⟩ := h.name
  have hleaves :
      Token.leavesAll
          (before ++ .ident (.plain item.kind.describe) word :: item.name.token :: after) =
        (Token.leavesAll before ++ [(.ident (.plain item.kind.describe), word)]) ++
          (.ident item.name.ident, item.name.span) :: Token.leavesAll after := by
    simp [Token.leaves, Name.token]
  have hlaid := hsteps.laid
  rw [hleaves] at hsteps
  have halone := hsteps.alone_ident (by simp)
  refine ⟨⟨rfl, halone.covers, before, word, after, rfl⟩, ?_⟩
  apply hlaid.spans_ordered.runs_of_mem
  rw [hleaves]
  simp

end Item

namespace Variant

/-- The places of a variant that stands between the braces of an item.  Nothing else covers its
name, so what is read behind the name begins behind it. -/
theorem StandsIn.places
    (hsteps : Lexer.Steps Position.origin text (Token.leavesAll tokens))
    {content : List Token}
    {opening closing : Span}
    (hmem : .group .brace content opening closing ∈ tokens)
    {v : Variant}
    {window : List Token}
    (h : v.StandsIn window content) :
    (∃ front back,
      window = front ++ v.name.token :: back ∧ ∀ a ∈ v.attributes, a.StandsIn front) ∧
    v.span.Runs (Token.places tokens) ∧
    v.span.stop = (Token.spanAll window).stop ∧
    (v.hasDiscriminant = true →
      (Token.spanAll v.discriminant).Runs (Token.places tokens) ∧
      (Token.spanAll v.discriminant).Within (Token.spanAll window) ∧
      v.name.span.stop ≤ (Token.spanAll v.discriminant).start) := by
  obtain ⟨front, back, close, leftOver, leftOver', rfl, hparse⟩ := h
  obtain ⟨before, after, rfl⟩ := List.append_of_mem hmem
  have hlaid := hsteps.laid
  have hcontent := (Cursor.laid_inner hlaid hmem none).tokens
  have hwindow : (window ++ back).Sublist (front ++ window ++ back) := by
    rw [List.append_assoc]
    exact List.sublist_append_right _ _
  have hread := hcontent.sublist (Token.leavesAll_sublist hwindow)
  obtain ⟨hidden, behind, rfl, hattributes, hruns, hstop, hdiscriminant⟩ :=
    placed_of_parse hread hparse rfl
  have hinside {s : Span} {tokens : List Token} (hs : s.Runs (Token.places tokens))
      (hsublist : tokens.Sublist (front ++ (hidden ++ v.name.token :: behind) ++ back)) :
      s.Runs (Token.places (before ++ .group .brace _ opening closing :: after)) :=
    ((hs.mono (Token.places_sublist hsublist).subset).mono
      (Cursor.places_subset_spans ⟨_, closing, none⟩)).mono (Cursor.spans_inner_subset hmem none)
  have hown : (hidden ++ v.name.token :: behind).Sublist _ := List.sublist_append_left _ back
  have hbehind : behind.Sublist (hidden ++ v.name.token :: behind) :=
    (List.sublist_cons_self _ _).trans (List.sublist_append_right _ _)
  refine
    ⟨⟨hidden, behind, rfl, hattributes⟩, hinside hruns (hown.trans hwindow), hstop, fun h => ?_⟩
  have hvalue := hdiscriminant h
  have hordered := (hread.sublist (Token.leavesAll_sublist hown)).spans_ordered
  have hwithin := (hvalue.mono (Token.places_sublist hbehind).subset).within_spanAll hordered
  refine ⟨hinside hvalue ((hbehind.trans hown).trans hwindow), hwithin, ?_⟩
  have hleaves :
      Token.leavesAll
          (before ++ .group .brace (front ++ (hidden ++ v.name.token :: behind) ++ back)
            opening closing :: after) =
        (Token.leavesAll before ++
            (.opening .brace, opening) :: Token.leavesAll (front ++ hidden)) ++
          (.ident v.name.ident, v.name.span) :: (Token.leavesAll behind ++
            (Token.leavesAll back ++ (.closing .brace, closing) :: Token.leavesAll after)) := by
    simp [Token.leaves, Name.token]
  rw [hleaves] at hsteps
  have halone := hsteps.alone_ident Token.last_ne_opening
  obtain ⟨x, hx, hstart⟩ := hvalue.start
  obtain ⟨e, he, rfl⟩ := List.mem_map.mp hx
  rw [hstart]
  exact halone.after e (List.mem_append_left _ he)

end Variant

end Items

section Failures

namespace Item

variable {text : List Char} {tokens : List Token} {item : Item}

/-- What is wrong with the raw value type is reported at the name or in the attribute. -/
theorem StandsIn.pointsAt_rawValueType
    (hsteps : Lexer.Steps Position.origin text (Token.leavesAll tokens))
    (h : item.StandsIn tokens)
    {d : Diagnostic}
    (hd : item.requireStringRawValue = .error d) :
    d.span.Runs (Token.places tokens) ∧
    (Failure.diagnostic d).PointsAtCause text tokens item := by
  unfold requireStringRawValue at hd
  split at hd
  · rename_i a hfirst
    have hnamed := Attribute.find_isNamed_eq_some_iff.mp hfirst
    have hstands := h.attributes a (List.mem_of_find?_eq_some hfirst)
    obtain ⟨hruns, hwithin, hwhole⟩ :=
      hstands.runs_of_checkDeclaredType_eq_error hsteps.laid hd
    obtain ⟨middle, hcovers⟩ :=
      Attribute.covers_of_hasName hsteps (by decide) (by decide) hnamed.1 hstands
    have hcause : item.InRawValueType text tokens d.span :=
      ⟨a, hnamed, hstands, hwithin, fun hnone => by
        rw [hwhole hnone]
        exact ⟨rfl, middle, hcovers⟩⟩
    refine ⟨hruns, ?_⟩
    rcases checkDeclaredType_ok_or_notString a with hok | ⟨found, span, hfound⟩
    · cases hok.symm.trans hd
    · obtain rfl := Except.error.inj (hfound.symm.trans hd)
      exact hcause
  · obtain rfl := Except.error.inj hd
    obtain ⟨hname, hruns⟩ := h.atName hsteps
    exact ⟨hruns, hname⟩

/-- A variant that is no case is reported where it stands. -/
theorem StandsIn.pointsAt_variant
    (hsteps : Lexer.Steps Position.origin text (Token.leavesAll tokens))
    (h : item.StandsIn tokens)
    {d : Diagnostic}
    (hd : Variant.toCases item.variants = .error d) :
    d.span.Runs (Token.places tokens) ∧
    (Failure.diagnostic d).PointsAtCause text tokens item := by
  obtain ⟨before, v, after, hsplit, hbefore, hv⟩ := (Variant.toCases_eq_error_iff _ d).mp hd
  have hmem : v ∈ item.variants := by simp [hsplit]
  obtain ⟨content, opening, closing, window, hgroup, hstands⟩ := h.variants v hmem
  obtain ⟨hwindow, hruns, hstop, hdiscriminant⟩ := hstands.places hsteps hgroup
  have hbad (hplain : ¬v.IsPlain) : item.FirstBad tokens v window :=
    ⟨⟨before, after, hsplit, fun u hu => (Variant.exists_toCase_eq_ok_iff u).mp (hbefore u hu)⟩,
      hplain, ⟨content, opening, closing, hgroup, hstands⟩, hwindow⟩
  unfold Variant.toCase at hv
  dsimp only at hv
  split at hv
  · rename_i hfields
    obtain rfl := Except.error.inj hv
    have hplain : ¬v.IsPlain := by simp [Variant.IsPlain, hfields]
    exact ⟨hruns, v, window, hbad hplain, hfields, v.span_start, hstop⟩
  · rename_i hfields
    split at hv
    · rename_i hvalue
      obtain rfl := Except.error.inj hv
      obtain ⟨hruns, hwithin, hname⟩ := hdiscriminant hvalue
      have hplain : ¬v.IsPlain := by simp [Variant.IsPlain, hvalue]
      exact ⟨hruns, v, window, hbad hplain, by simpa using hfields, hvalue, hwithin, hname⟩
    · cases hv

end Item

namespace Failure

/-- Whatever failure an expansion has, it runs over tokens of the item and points at its cause. -/
theorem pointsAtCause_of_expand
    {text : List Char}
    {tokens : List Token}
    {item : Item}
    (hsteps : Lexer.Steps Position.origin text (Token.leavesAll tokens))
    (h : item.StandsIn tokens)
    {failure : Failure}
    (hfail : expand item = .error failure) :
    failure.span.Runs (Token.places tokens) ∧ failure.PointsAtCause text tokens item := by
  cases hoptions : Context.ofAttributes item.attributes with
  | error e =>
      rw [Item.expand_of_options_error hoptions] at hfail
      obtain rfl := Except.error.inj hfail
      obtain ⟨before, a, after, hsplit, hbefore, ha⟩ :=
        (Context.ofAttributes_eq_error_iff _ e).mp hoptions
      have hmem : a ∈ item.attributes := by
        have hfilter : a ∈ item.attributes.filter (·.isNamed Context.attributeName) := by
          simp [hsplit]
        exact (List.mem_filter.mp hfilter).1
      have hstands := h.attributes a hmem
      obtain ⟨hruns, hwithin⟩ := hstands.runs_of_settingsOf_eq_error hsteps.laid ha
      refine ⟨hruns, before, a, after, hsplit, hbefore, fun settings hok => ?_, hstands, hwithin⟩
      cases ha.symm.trans hok
  | ok context =>
      cases hcases : item.requireCases with
      | ok cases =>
          rw [Item.expand_of_cases_ok hoptions hcases] at hfail
          cases hfail
      | error d =>
          rw [Item.expand_of_cases_error hoptions hcases] at hfail
          obtain rfl := Except.error.inj hfail
          by_cases hkind : item.kind = .enum
          · cases hraw : item.requireStringRawValue with
            | error d' =>
                rw [Item.requireCases_of_rawValue_error hkind hraw] at hcases
                obtain rfl := Except.error.inj hcases
                exact h.pointsAt_rawValueType hsteps hraw
            | ok _ =>
                rw [Item.requireCases_of_rawValue_ok hkind hraw] at hcases
                exact h.pointsAt_variant hsteps hcases
          · rw [Item.requireCases_of_not_enum hkind] at hcases
            obtain rfl := Except.error.inj hcases
            obtain ⟨hname, hruns⟩ := h.atName hsteps
            exact ⟨hruns, hname⟩

/-- Every failure points at its cause.  When a text is an item and its expansion fails, the reported
span covers a stretch of the text that is not empty, and it is the place of what caused the
failure. -/
theorem expand_points_at_cause
    {source : String}
    {item : Item}
    {failure : Failure}
    (hitem : Source.item source = .ok item)
    (hfail : expand item = .error failure) :
    ∃ tokens,
      Token.ofSource? source = some tokens ∧
      (∃ stretch, stretch ≠ [] ∧ failure.span.Covers source.toList stretch) ∧
      failure.PointsAtCause source.toList tokens item := by
  unfold Source.item Source.parse at hitem
  split at hitem
  · cases hitem
  · rename_i tokens htokens
    split at hitem
    · rename_i item' hparse
      obtain rfl := Except.ok.inj hitem
      obtain ⟨d, hread, -⟩ := Parser.parseAll_eq_ok_iff.mp hparse
      have hsteps := Token.steps_of_ofSource htokens
      obtain ⟨hruns, hcause⟩ :=
        pointsAtCause_of_expand hsteps (Item.standsIn_of_parse hread) hfail
      exact ⟨tokens, htokens, hruns.exists_covers hsteps, hcause⟩
    · cases hitem

/-- Why a source text cannot be expanded, if it is an item and its expansion fails. -/
def ofSource? (source : String) : Option Failure :=
  match Source.item source with
  | .ok item =>
      match expand item with
      | .ok _ => none
      | .error failure => some failure
  | .error _ => none

theorem ofSource?_eq_some_iff
    {source : String}
    {failure : Failure} :
    ofSource? source = some failure
      ↔
    ∃ item, Source.item source = .ok item ∧ expand item = .error failure := by
  cases hitem : Source.item source with
  | error error =>
      simp [ofSource?, hitem]
  | ok item =>
      cases hexpand : expand item with
      | ok generated =>
          simp [ofSource?, hitem, hexpand]
      | error failure' =>
          simp [ofSource?, hitem, hexpand]

/-- On the first line a byte order mark counts for the places behind it, and a comment that is not
in ASCII counts by its characters: a case with fields is reported from its attribute to its
discriminant. -/
theorem expand_points_at_cause_behind_mark :
    let source :=
      "\uFEFF/* ä */ #[raw_value(String)] enum E \x7b A, #[x] pub r#B(u8) = 1, \x7d"
    ∃ item failure tokens,
      Source.item source = .ok item ∧
      expand item = .error failure ∧
      Token.ofSource? source = some tokens ∧
      failure.span = ⟨⟨1, 42⟩, ⟨1, 62⟩⟩ ∧
      failure.span.Covers source.toList "#[x] pub r#B(u8) = 1".toList ∧
      failure.PointsAtCause source.toList tokens item := by
  intro source
  have hspan : (ofSource? source).map Failure.span = some ⟨⟨1, 42⟩, ⟨1, 62⟩⟩ := by
    decide +kernel
  obtain ⟨failure, hsource, hplace⟩ := Option.map_eq_some_iff.mp hspan
  obtain ⟨item, hitem, hfail⟩ := ofSource?_eq_some_iff.mp hsource
  obtain ⟨tokens, htokens, -, hcause⟩ := expand_points_at_cause hitem hfail
  have hcovers : failure.span.Covers source.toList "#[x] pub r#B(u8) = 1".toList := by
    rw [hplace]
    exact ⟨"\uFEFF/* ä */ #[raw_value(String)] enum E \x7b A, ".toList, ", \x7d".toList,
      by decide +kernel, by decide +kernel⟩
  exact ⟨item, failure, tokens, hitem, hfail, htokens, hplace, hcovers, hcause⟩

end Failure

end Failures

end Caseless
