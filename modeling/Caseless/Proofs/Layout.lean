import Caseless.Proofs.Declarations
import Caseless.Proofs.ErrorPlaces

/-!
# Where the parts of an item stand

Whatever is read of a text stands somewhere in it.  An attribute is a number sign and brackets, the
name of an item follows the keyword for its kind, and each variant of an enum is read from a window
of the tokens between the braces (`Item.standsIn_of_parse`).

What a variant is printed from is not what was read: a visibility is dropped, and symbols may be
taken apart.  Still the stretch of a variant begins where its first attribute or else its name does,
and it ends where the window ends (`Variant.placed_of_parse`).
-/

namespace Caseless

section Attributes

namespace Attribute

/-- An attribute stands among some tokens if its number sign and its brackets do, and its path and
its arguments are what is in the brackets. -/
def StandsIn (a : Attribute) (tokens : List Token) : Prop :=
  ∃ before spacing content after leftOver inner,
    tokens =
      before ++ .punct '#' spacing a.hash :: .group .bracket content a.opening a.closing :: after ∧
    parseContent ⟨content, a.closing, leftOver⟩ = .ok ((a.path, a.arguments), inner)

theorem StandsIn.mono
    {a : Attribute}
    {tokens : List Token}
    (h : a.StandsIn tokens)
    (before after : List Token) :
    a.StandsIn (before ++ tokens ++ after) := by
  obtain ⟨before', spacing, content, after', leftOver, inner, rfl, hcontent⟩ := h
  exact ⟨before ++ before', spacing, content, after' ++ after, leftOver, inner, by simp, hcontent⟩

/-- An attribute stands where it is read. -/
theorem standsIn_of_parse
    {c d : Cursor}
    {a : Attribute}
    (h : parse c = .ok (a, d)) :
    ∃ read, c.tokens = read ++ d.tokens ∧ a.StandsIn read := by
  obtain ⟨taken, c₁, hhash, h⟩ := Parser.bind_eq_ok_iff.mp h
  obtain ⟨result, c₂, hgroup, h⟩ := Parser.bind_eq_ok_iff.mp h
  obtain ⟨spacing, hash, rest, htokens, rfl, rfl⟩ :=
    (Terminal.read_symbol_eq_ok_iff (x := '#') rfl).mp hhash
  obtain ⟨content, opening, closing, behind, ⟨path, arguments⟩, inner, hrest, hcontent, rfl, rfl⟩ :=
    Parser.within_eq_ok_iff.mp hgroup
  obtain ⟨rfl, rfl⟩ := Parser.pure_eq_ok_iff.mp h
  obtain rfl : rest = _ := hrest
  exact ⟨[_, _], htokens, [], spacing, content, [], _, inner, rfl, hcontent⟩

/-- All attributes stand in what is read for them. -/
theorem standIn_of_parseAll
    {c d : Cursor}
    {attributes : List Attribute}
    (h : parseAll c = .ok (attributes, d)) :
    ∃ read, c.tokens = read ++ d.tokens ∧ ∀ a ∈ attributes, a.StandsIn read := by
  obtain ⟨read, hread⟩ := (steady_parseAll c attributes d h).1.tokens
  refine ⟨read, hread.symm, fun a ha => ?_⟩
  obtain ⟨c', step, d', hreach, hstep, hvalue, hreach'⟩ :=
    Parser.exists_step_of_mem steady_parseStep h ha
  obtain ⟨follows, c'', htest, hstep⟩ := Parser.bind_eq_ok_iff.mp hstep
  obtain ⟨-, rfl⟩ := Parser.test_eq_ok_iff.mp htest
  cases follows with
  | false =>
      obtain ⟨rfl, -⟩ := Parser.pure_eq_ok_iff.mp hstep
      cases hvalue
  | true =>
      obtain ⟨a', d'', hparse, hpure⟩ := Parser.bind_eq_ok_iff.mp hstep
      obtain ⟨rfl, rfl⟩ := Parser.pure_eq_ok_iff.mp hpure
      obtain rfl := Option.some.inj hvalue
      obtain ⟨before, hbefore⟩ := hreach.tokens
      obtain ⟨own, hown, hstands⟩ := standsIn_of_parse hparse
      obtain ⟨after, hafter⟩ := hreach'.tokens
      have hall : read ++ d.tokens = before ++ own ++ after ++ d.tokens := by
        rw [hread, ← hbefore, hown, ← hafter]
        simp
      have heq : read = before ++ own ++ after := List.append_cancel_right hall
      rw [heq]
      exact hstands.mono before after

end Attribute

end Attributes

section Variants

/-- Where tokens end depends on what follows one of them. -/
theorem Token.stop?_behind
    {tail others : List Token}
    (h : stop? tail = stop? others)
    (tokens front : List Token)
    (token : Token) :
    stop? (tokens ++ token :: tail) = stop? (front ++ token :: others) := by
  have hcons (tail : List Token) : stop? (token :: tail) = (stop? tail).or (stop? [token]) :=
    stop?_append [token] tail
  rw [stop?_append_of_ne_nil _ (List.cons_ne_nil _ _),
    stop?_append_of_ne_nil _ (List.cons_ne_nil _ _), hcons tail, hcons others, h]

namespace Variant

/-- A variant stands in a window of some tokens if it is read there and the window is what is
read. -/
def StandsIn (v : Variant) (window content : List Token) : Prop :=
  ∃ front back close leftOver leftOver',
    content = front ++ window ++ back ∧
    parse ⟨window ++ back, close, leftOver⟩ = .ok (v, ⟨back, close, leftOver'⟩)

/-- Each variant of a list stands in the tokens of the list. -/
theorem standIn_of_repeatSteps
    {c d : Cursor}
    {variants : List Variant}
    (h : Parser.repeatSteps parseStep c = .ok (variants, d)) :
    ∀ v ∈ variants, ∃ window, v.StandsIn window c.tokens := by
  intro v hv
  obtain ⟨c', step, d', hreach, hstep, hvalue, -⟩ :=
    Parser.exists_step_of_mem steady_parseStep h hv
  obtain ⟨d'', hparse⟩ := parse_of_parseStep hstep hvalue
  obtain ⟨front, hfront⟩ := hreach.tokens
  have hreach' := (steady_parse c' v d'' hparse).1
  obtain ⟨window, hwindow⟩ := hreach'.tokens
  refine ⟨window, front, d''.tokens, c'.close, c'.leftOver, d''.leftOver, ?_, ?_⟩
  · rw [← hfront, ← hwindow, List.append_assoc]
  · have hend : (⟨d''.tokens, c'.close, d''.leftOver⟩ : Cursor) = d'' := by
      rw [← hreach'.close]
    rw [hwindow, hend]
    exact hparse

/-- The parts of a variant stand one after the other. -/
theorem parts_of_parse
    {c d : Cursor}
    {v : Variant}
    (hlaid : Lexeme.Laid (Token.leavesAll c.tokens))
    (h : parse c = .ok (v, d)) :
    ∃ front fields tail,
      c.tokens = front ++ v.name.token :: (fields ++ tail) ++ d.tokens ∧
      (∀ a ∈ v.attributes, a.StandsIn front) ∧
      Token.stop? v.fields = Token.stop? fields ∧
      (v.equals = [] ∧ v.discriminant = [] ∧ tail = []
        ∨
      ∃ spacing equals value,
        tail = .punct '=' spacing equals :: value ∧
        v.equals = [.punct '=' .alone equals] ∧
        Token.BeginsIn v.discriminant value ∧
        Token.stop? v.discriminant = Token.stop? value ∧
        v.discriminant ≠ []) := by
  obtain ⟨attributes, c₁, hattributes, h⟩ := Parser.bind_eq_ok_iff.mp h
  obtain ⟨visibility, c₂, hvisibility, h⟩ := Parser.bind_eq_ok_iff.mp h
  obtain ⟨name, c₃, hname, h⟩ := Parser.bind_eq_ok_iff.mp h
  obtain ⟨fields, c₄, hfields, h⟩ := Parser.bind_eq_ok_iff.mp h
  obtain ⟨follows, c₅, htest, h⟩ := Parser.bind_eq_ok_iff.mp h
  obtain ⟨-, rfl⟩ := Parser.test_eq_ok_iff.mp htest
  have hlaid₁ := (Attribute.steady_parseAll _ _ _ hattributes).1.laid_tokens hlaid
  have hlaid₂ := (Phrase.steady_parse _ _ _ _ hvisibility).1.laid_tokens hlaid₁
  have hlaid₃ := (Name.steady_parse _ _ _ hname).1.laid_tokens hlaid₂
  have hlaid₄ := (Rule.steady_parse _ _ _ _ hfields).1.laid_tokens hlaid₃
  obtain ⟨own, hown, hstand⟩ := Attribute.standIn_of_parseAll hattributes
  obtain ⟨hidden, hhidden⟩ := (Phrase.steady_parse _ _ _ _ hvisibility).1.tokens
  obtain ⟨hnamed, -, -⟩ := Name.parse_eq_ok_iff.mp hname
  have hcloses : ItemRule.variantFields.Closes false := ⟨Or.inl trivial, Or.inl trivial, rfl⟩
  obtain ⟨inner, hinner, hstop⟩ := Rule.stop?_of_parse hcloses hlaid₃ hfields
  have hfront : c.tokens = (own ++ hidden) ++ name.token :: inner ++ c₄.tokens := by
    rw [hown, ← hhidden, hnamed, hinner]
    simp
  have hattributes : ∀ a ∈ attributes, a.StandsIn (own ++ hidden) :=
    fun a ha => (hstand a ha).mono [] hidden
  cases follows with
  | false =>
      obtain ⟨rfl, rfl⟩ := Parser.pure_eq_ok_iff.mp h
      exact ⟨own ++ hidden, inner, [], by simp [hfront], hattributes, hstop, Or.inl ⟨rfl, rfl, rfl⟩⟩
  | true =>
      obtain ⟨taken, c₆, hequals, h⟩ := Parser.bind_eq_ok_iff.mp h
      obtain ⟨discriminant, c₇, hvalue, h⟩ := Parser.bind_eq_ok_iff.mp h
      obtain ⟨rfl, rfl⟩ := Parser.pure_eq_ok_iff.mp h
      have hlaid₆ := (Terminal.steady_read _ _ _ _ hequals).1.laid_tokens hlaid₄
      obtain ⟨spacing, equals, rest, htokens, rfl, rfl⟩ :=
        (Terminal.read_symbol_eq_ok_iff (x := '=') rfl).mp hequals
      obtain ⟨value, hread, hbegins, hstop', hne⟩ :=
        @Rule.places_of_parse (.phrase (.expression true)) trivial trivial _ _ _ hlaid₆ hvalue
      obtain rfl : rest = value ++ _ := hread
      refine ⟨own ++ hidden, inner, .punct '=' spacing equals :: value, ?_, hattributes, hstop,
        Or.inr ⟨spacing, equals, value, rfl, rfl, hbegins, hstop', hne⟩⟩
      rw [hfront, htokens]
      simp

/-- A variant begins with its first attribute, or else with its name. -/
theorem span_start
    (v : Variant) :
    v.span.start = ((v.attributes.map (·.hash)).head?.getD v.name.span).start := by
  obtain ⟨attributes, name, fields, equals, discriminant⟩ := v
  cases attributes with
  | nil =>
      rfl
  | cons a attributes =>
      rfl

/-- A variant is printed from its first attribute on, or else from its name on. -/
theorem beginsIn_tokens
    {v : Variant}
    {front : List Token}
    (hattributes : ∀ a ∈ v.attributes, a.StandsIn front)
    (back : List Token) :
    Token.BeginsIn v.tokens (front ++ v.name.token :: back) := by
  obtain ⟨attributes, name, fields, equals, discriminant⟩ := v
  intro token htoken
  cases attributes with
  | nil =>
      obtain rfl := Option.some.inj htoken
      exact ⟨(.ident name.ident, name.span), by simp [Name.token, Token.leaves], rfl⟩
  | cons a attributes =>
      obtain rfl := Option.some.inj htoken
      obtain ⟨before, spacing, content, after, _, _, rfl, -⟩ := hattributes a List.mem_cons_self
      exact ⟨(.punct '#' spacing, a.hash), by simp [Token.leaves], rfl⟩

/-- The stretch of a variant runs over the tokens that are read for it, up to their end.  The
attributes stand in front of the name, and the discriminant behind it. -/
theorem placed_of_parse
    {read rest : List Token}
    {close : Span}
    {leftOver : Option SyntaxError}
    {d : Cursor}
    {v : Variant}
    (hlaid : Lexeme.Laid (Token.leavesAll (read ++ rest)))
    (h : parse ⟨read ++ rest, close, leftOver⟩ = .ok (v, d))
    (hrest : d.tokens = rest) :
    ∃ front back,
      read = front ++ v.name.token :: back ∧
      (∀ a ∈ v.attributes, a.StandsIn front) ∧
      v.span.Runs (Token.places read) ∧
      v.span.stop = (Token.spanAll read).stop ∧
      (v.hasDiscriminant = true → (Token.spanAll v.discriminant).Runs (Token.places back)) := by
  obtain ⟨front, fields, tail, htokens, hattributes, hfields, htail⟩ := parts_of_parse hlaid h
  obtain rfl : read = front ++ v.name.token :: (fields ++ tail) := by
    rw [hrest] at htokens
    exact List.append_cancel_right htokens
  have hordered : Span.Ordered (Token.places (front ++ v.name.token :: (fields ++ tail))) := by
    have hall := hlaid.spans_ordered
    rw [Token.leavesAll_append, List.map_append] at hall
    exact hall.sublist (List.sublist_append_left _ _)
  have hbegins := beginsIn_tokens hattributes (fields ++ tail)
  have hvalue : Token.stop? (v.equals ++ v.discriminant) = Token.stop? tail := by
    rcases htail with ⟨hequals, hnil, rfl⟩ | ⟨spacing, equals, value, rfl, hequals, -, hstop, hne⟩
    · simp [hequals, hnil]
    · have hne' := Token.ne_nil_of_stop?_eq hstop hne
      rw [hequals, Token.stop?_append_of_ne_nil _ hne, hstop, ← List.singleton_append,
        Token.stop?_append_of_ne_nil _ hne']
  have hstop :
      Token.stop? v.tokens = Token.stop? (front ++ v.name.token :: (fields ++ tail)) := by
    have htokens :
        v.tokens =
          v.attributes.flatMap Attribute.tokens ++
            v.name.token :: (v.fields ++ (v.equals ++ v.discriminant)) := by
      simp [tokens]
    rw [htokens]
    apply Token.stop?_behind
    rw [Token.stop?_append, hvalue, hfields, ← Token.stop?_append]
  have hne : v.tokens ≠ [] := by simp [tokens]
  refine
    ⟨front, fields ++ tail, rfl, hattributes, Token.runs_spanAll hordered hbegins hstop hne, ?_, ?_⟩
  · rw [Token.stop?_eq_spanAll hne, Token.stop?_eq_spanAll (by simp)] at hstop
    exact Option.some.inj hstop
  · intro hdiscriminant
    rcases htail with ⟨-, hnil, -⟩ | ⟨spacing, equals, value, rfl, -, hvalue', hstop', hne'⟩
    · simp [hasDiscriminant, hnil] at hdiscriminant
    · have hsublist : value.Sublist (fields ++ .punct '=' spacing equals :: value) :=
        (List.sublist_cons_self _ _).trans (List.sublist_append_right _ _)
      have hbehind : value.Sublist (front ++ v.name.token :: (fields ++ _)) :=
        (hsublist.trans (List.sublist_cons_self _ _)).trans (List.sublist_append_right _ _)
      have hback := hordered.sublist (Token.places_sublist hbehind)
      exact (Token.runs_spanAll hback hvalue' hstop' hne').mono
        (Token.places_sublist hsublist).subset

end Variant

end Variants

section Items

namespace Item

/-- What is read for an item stands among some tokens: the attributes, the name behind the keyword
for the kind of the item, and the variants between braces. -/
structure StandsIn (item : Item) (tokens : List Token) : Prop where
  attributes : ∀ a ∈ item.attributes, a.StandsIn tokens
  name :
    ∃ before word after,
      tokens = before ++ .ident (.plain item.kind.describe) word :: item.name.token :: after
  variants :
    ∀ v ∈ item.variants,
      ∃ content opening closing window,
        .group .brace content opening closing ∈ tokens ∧ v.StandsIn window content

/-- An item stands among the tokens that it is read from. -/
theorem standsIn_of_parse
    {c d : Cursor}
    {item : Item}
    (h : parse c = .ok (item, d)) :
    item.StandsIn c.tokens := by
  obtain ⟨attributes, c₁, visibility, c₂, kind, read, hattributes, hvisibility, hread, h⟩ :=
    exists_parseWith_of_parse h
  obtain ⟨taken, c₃, hword, h⟩ := Parser.bind_eq_ok_iff.mp h
  obtain ⟨name, c₄, hname, h⟩ := Parser.bind_eq_ok_iff.mp h
  obtain ⟨parameters, c₅, hparameters, h⟩ := Parser.bind_eq_ok_iff.mp h
  obtain ⟨⟨conditions, body⟩, c₆, hbody, h⟩ := Parser.bind_eq_ok_iff.mp h
  obtain ⟨rfl, -⟩ := Parser.pure_eq_ok_iff.mp h
  have hfront :=
    (Attribute.steady_parseAll _ _ _ hattributes).1.trans
      (Phrase.steady_parse _ _ _ _ hvisibility).1
  have hbehind :=
    ((Terminal.steady_read _ _ _ _ hword).1.trans (Name.steady_parse _ _ _ hname).1).trans
      (Parameter.steady_parseAll _ _ _ hparameters).1
  obtain ⟨-, hkind, hvariants⟩ := hread _ _ _ _ hbody
  constructor
  · intro a ha
    obtain ⟨own, hown, hstand⟩ := Attribute.standIn_of_parseAll hattributes
    rw [hown]
    exact (hstand a ha).mono [] c₁.tokens
  · obtain ⟨before, hbefore⟩ := hfront.tokens
    obtain ⟨word, rest, htokens, -, rfl⟩ := Terminal.read_keyword_eq_ok_iff.mp hword
    obtain ⟨hnamed, -, -⟩ := Name.parse_eq_ok_iff.mp hname
    refine ⟨before, word, c₄.tokens, ?_⟩
    rw [← hbefore, htokens, hkind, ← hnamed]
  · intro v hv
    cases body with
    | enum variants =>
        obtain ⟨content, opening, closing, leftOver, inner, hmem, hinner⟩ := hvariants variants rfl
        obtain ⟨window, hwindow⟩ := Variant.standIn_of_repeatSteps hinner v hv
        exact ⟨content, opening, closing, window,
          (hfront.trans hbehind).tokens.subset hmem, hwindow⟩
    | struct fields =>
        cases hv
    | union fields =>
        cases hv

end Item

end Items

end Caseless
