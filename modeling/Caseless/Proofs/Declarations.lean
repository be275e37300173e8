import Caseless.Proofs.Options

/-!
# Reading declarations

The readers of attributes, parameters, conditions, variants and items only read on, as those of the
grammar do.  An item is read by one of three parsers, one for each kind of item, and what such a
parser reads is told once: conditions, a body of its kind and, for an enum, the variants between
braces (`Item.ReadsBody`).
-/

namespace Caseless

section Repetition

variable {α : Type}

namespace Parser

/-- The value of a step, if it has one. -/
def Step.value? : Step α → Option α
  | again value => some value
  | last value => some value
  | done => none

/-- Each value of a repetition is that of a step on the way. -/
theorem exists_step_of_mem
    {p : Parser (Step α)}
    (hsteady : Steady p)
    {n : Nat}
    {c d : Cursor}
    {values : List α}
    (h : repeatUpTo p n c = .ok (values, d))
    {value : α}
    (hvalue : value ∈ values) :
    ∃ c' step d',
      c.Reaches c' ∧ p c' = .ok (step, d') ∧ step.value? = some value ∧ d'.Reaches d := by
  induction n generalizing c values with
  | zero =>
      cases h
  | succ n ih =>
      obtain ⟨step, c', hstep, hrest⟩ := bind_eq_ok_iff.mp h
      cases step with
      | again first =>
          obtain ⟨others, d', hothers, hpure⟩ := bind_eq_ok_iff.mp hrest
          obtain ⟨rfl, rfl⟩ := pure_eq_ok_iff.mp hpure
          rcases List.mem_cons.mp hvalue with rfl | hmem
          · have hreach := (steady_repeatUpTo hsteady n _ _ _ hothers).1
            exact ⟨c, _, c', Cursor.Reaches.refl c, hstep, rfl, hreach⟩
          · obtain ⟨c₁, step', d₁, hreach, hstep', heq, hreach'⟩ := ih hothers hmem
            have hfirst := (hsteady c _ c' hstep).1
            exact ⟨c₁, step', d₁, hfirst.trans hreach, hstep', heq, hreach'⟩
      | last only =>
          obtain ⟨rfl, rfl⟩ := pure_eq_ok_iff.mp hrest
          obtain rfl := List.mem_singleton.mp hvalue
          exact ⟨c, _, c', Cursor.Reaches.refl c, hstep, rfl, Cursor.Reaches.refl c'⟩
      | done =>
          obtain ⟨rfl, -⟩ := pure_eq_ok_iff.mp hrest
          cases hvalue

end Parser

end Repetition

section Attributes

namespace Arguments

/-- Reads a value behind an equals sign if one follows. -/
def parseValue : Parser Arguments := do
  if ← Parser.test AttributeRule.equalsFollows.holds then
    let equals ← (Terminal.symbol "=").read
    let tokens ← AttributeRule.value.parse
    return .value (Token.spanAll equals) tokens
  else return .absent

/-- Where no group stands, there may be a value. -/
theorem parse_eq_parseValue
    {c : Cursor}
    (h :
      ∀ delimiter content opening closing rest,
        c.tokens ≠ .group delimiter content opening closing :: rest) :
    parse c = parseValue c := by
  unfold parse
  split
  · rename_i htokens
    exact absurd htokens (h _ _ _ _ _)
  · change _ = (if AttributeRule.equalsFollows.holds c.tokens = true then _ else _ : Parser _) c
    split <;> rfl

/-- Behind a path there is a group, or a value may follow. -/
theorem parse_eq_ok_iff
    {c d : Cursor}
    {arguments : Arguments} :
    parse c = .ok (arguments, d)
      ↔
    (∃ delimiter content opening closing,
      c.tokens = .group delimiter content opening closing :: d.tokens ∧
      arguments = .group delimiter content opening closing ∧
      d = { c with tokens := d.tokens })
      ∨
    (∀ delimiter content opening closing rest,
      c.tokens ≠ .group delimiter content opening closing :: rest) ∧
      parseValue c = .ok (arguments, d) := by
  by_cases hgroup :
      ∃ delimiter content opening closing rest,
        c.tokens = .group delimiter content opening closing :: rest
  · obtain ⟨delimiter, content, opening, closing, rest, htokens⟩ := hgroup
    obtain ⟨tokens, close, leftOver⟩ := c
    obtain rfl : tokens = _ := htokens
    constructor
    · intro h
      obtain ⟨rfl, rfl⟩ := Prod.mk.inj (Except.ok.inj h)
      exact Or.inl ⟨_, _, _, _, rfl, rfl, rfl⟩
    · rintro (⟨_, _, _, _, htokens, rfl, hd⟩ | ⟨hgroup, -⟩)
      · obtain ⟨heq, rfl⟩ := List.cons.inj htokens
        obtain ⟨rfl, rfl, rfl, rfl⟩ := Token.group.inj heq
        rw [hd]
        rfl
      · exact absurd rfl (hgroup _ _ _ _ _)
  · have hnone :
        ∀ delimiter content opening closing rest,
          c.tokens ≠ .group delimiter content opening closing :: rest :=
      fun _ _ _ _ _ htokens => hgroup ⟨_, _, _, _, _, htokens⟩
    rw [parse_eq_parseValue hnone]
    constructor
    · exact fun h => Or.inr ⟨hnone, h⟩
    · rintro (⟨_, _, _, _, htokens, -⟩ | ⟨-, h⟩)
      · exact absurd htokens (hnone _ _ _ _ _)
      · exact h

theorem steady_parseValue :
    Parser.Steady parseValue := by
  apply Parser.steady_bind (Parser.steady_test _)
  intro follows
  apply Parser.steady_ite _ (Parser.steady_pure _)
  apply Parser.steady_bind (Terminal.steady_read _)
  intro equals
  apply Parser.steady_bind (Rule.steady_parse _)
  intro tokens
  exact Parser.steady_pure _

theorem steady_parse :
    Parser.Steady parse := by
  intro c arguments d h
  rcases parse_eq_ok_iff.mp h with
    ⟨delimiter, content, opening, closing, htokens, rfl, hd⟩ | ⟨hnone, hvalue⟩
  · refine ⟨⟨⟨[_], htokens.symm⟩, by rw [hd], fun e he => by rw [hd]; exact he⟩, fun close => ?_⟩
    refine parse_eq_ok_iff.mpr (Or.inl ⟨delimiter, content, opening, closing, htokens, rfl, ?_⟩)
    rw [hd]
  · obtain ⟨hreach, hclose⟩ := steady_parseValue c arguments d hvalue
    exact ⟨hreach, fun close => parse_eq_ok_iff.mpr (Or.inr ⟨hnone, hclose close⟩)⟩

end Arguments

namespace Attribute

/-- Reads what stands in the brackets of an attribute. -/
def parseContent : Parser (List Token × Arguments) := do
  let path ← AttributeRule.path.parse
  let arguments ← Arguments.parse
  return (path, arguments)

theorem steady_parseContent :
    Parser.Steady parseContent := by
  apply Parser.steady_bind (Rule.steady_parse _)
  intro path
  apply Parser.steady_bind Arguments.steady_parse
  intro arguments
  exact Parser.steady_pure _

theorem steady_parse :
    Parser.Steady parse := by
  apply Parser.steady_bind (Terminal.steady_read _)
  intro hash
  apply Parser.steady_bind (Parser.steady_within steady_parseContent _ _)
  intro result
  exact Parser.steady_pure _

/-- The step by which attributes are read. -/
def parseStep : Parser (Parser.Step Attribute) := do
  if ← Parser.test (Lookahead.symbol "#").holds then return .again (← parse) else return .done

theorem steady_parseStep :
    Parser.Steady parseStep := by
  apply Parser.steady_bind (Parser.steady_test _)
  intro follows
  apply Parser.steady_ite _ (Parser.steady_pure _)
  apply Parser.steady_bind steady_parse
  intro a
  exact Parser.steady_pure _

theorem steady_parseAll :
    Parser.Steady parseAll :=
  Parser.steady_repeatSteps steady_parseStep

end Attribute

end Attributes

section Parts

/-- A keyword is read as the identifier that spells it without a raw mark. -/
theorem Terminal.read_keyword_eq_ok_iff
    {w : String}
    {c d : Cursor}
    {taken : List Token} :
    (Terminal.keyword w).read c = .ok (taken, d)
      ↔
    ∃ span rest,
      c.tokens = .ident (.plain w) span :: rest ∧
      taken = [.ident (.plain w) span] ∧
      d = { c with tokens := rest } := by
  unfold read
  rw [Parser.takeOr_eq_ok_iff]
  constructor
  · rintro ⟨rest, htake, rfl⟩
    unfold take at htake
    split at htake
    case h_3 w' i span tail heq htokens =>
      obtain rfl := Terminal.keyword.inj heq
      split at htake
      · rename_i hword
        obtain ⟨rfl, rfl⟩ := Prod.mk.inj (Option.some.inj htake)
        obtain ⟨name, raw⟩ := i
        obtain ⟨rfl, rfl⟩ : raw = false ∧ name = w := by simpa [Ident.isWord] using hword
        exact ⟨span, _, htokens, rfl, rfl⟩
      · cases htake
    all_goals contradiction
  · rintro ⟨span, rest, htokens, rfl, rfl⟩
    exact ⟨rest, by simp [htokens, take, Ident.isWord, Ident.plain], rfl⟩

namespace Name

theorem parse_eq_ok_iff
    {c d : Cursor}
    {name : Name} :
    parse c = .ok (name, d)
      ↔
    c.tokens = name.token :: d.tokens ∧
    name.ident.isReserved = false ∧
    d = { c with tokens := d.tokens } := by
  unfold parse
  rw [Parser.takeOr_eq_ok_iff]
  constructor
  · rintro ⟨rest, htake, rfl⟩
    split at htake
    · rename_i i span tail htokens
      split at htake
      · cases htake
      · rename_i hreserved
        obtain ⟨rfl, rfl⟩ := Prod.mk.inj (Option.some.inj htake)
        exact ⟨htokens, by simpa using hreserved, rfl⟩
    · cases htake
  · rintro ⟨htokens, hreserved, hd⟩
    exact ⟨d.tokens, by simp [htokens, token, hreserved], hd⟩

theorem steady_parse :
    Parser.Steady parse := by
  intro c name d h
  obtain ⟨htokens, hreserved, hd⟩ := parse_eq_ok_iff.mp h
  refine ⟨⟨⟨[_], htokens.symm⟩, by rw [hd], fun e he => by rw [hd]; exact he⟩, fun close => ?_⟩
  exact parse_eq_ok_iff.mpr ⟨htokens, hreserved, by rw [hd]⟩

end Name

namespace Parameter

theorem steady_behind
    (text : String)
    {p : Parser (List Token)}
    (hp : Parser.Steady p) :
    Parser.Steady (behind text p) := by
  apply Parser.steady_bind (Parser.steady_test _)
  intro follows
  apply Parser.steady_ite _ (Parser.steady_pure _)
  apply Parser.steady_bind (Terminal.steady_read _)
  intro taken
  exact hp

theorem steady_parseBehind
    (attributes : List Token) :
    Parser.Steady (parseBehind attributes) := by
  have hread (terminal : Terminal) := terminal.steady_read
  have hbehind (text : String) (phrase : Phrase) := steady_behind text phrase.steady_parse
  apply Parser.steady_bind (Parser.steady_test _)
  intro lifetime
  apply Parser.steady_ite
  · apply Parser.steady_bind (hread _)
    intro name
    apply Parser.steady_bind (hbehind _ _)
    intro bounds
    exact Parser.steady_pure _
  apply Parser.steady_bind (Parser.steady_test _)
  intro type
  apply Parser.steady_ite
  · apply Parser.steady_bind (hread _)
    intro name
    apply Parser.steady_bind (hbehind _ _)
    intro bounds
    apply Parser.steady_bind (hbehind _ _)
    intro default
    exact Parser.steady_pure _
  apply Parser.steady_bind (Parser.steady_test _)
  intro const
  apply Parser.steady_ite
  · apply Parser.steady_bind (hread _)
    intro word
    apply Parser.steady_bind (hread _)
    intro name
    apply Parser.steady_bind (hread _)
    intro colon
    apply Parser.steady_bind (Phrase.steady_parse _)
    intro annotation
    apply Parser.steady_bind (hbehind _ _)
    intro default
    exact Parser.steady_pure _
  apply Parser.steady_bind (Parser.steady_test _)
  intro blank
  apply Parser.steady_ite _ (Parser.steady_fail _)
  apply Parser.steady_bind (hread _)
  intro name
  exact Parser.steady_pure _

theorem steady_parseStep :
    Parser.Steady parseStep := by
  apply Parser.steady_bind (Parser.steady_test _)
  intro closed
  apply Parser.steady_ite (Parser.steady_pure _)
  apply Parser.steady_bind
  · exact Parser.steady_bind (Phrase.steady_parse _) steady_parseBehind
  intro parameter
  apply Parser.steady_bind (Parser.steady_test _)
  intro closed
  apply Parser.steady_ite (Parser.steady_pure _)
  apply Parser.steady_bind (Terminal.steady_read _)
  intro comma
  exact Parser.steady_pure _

theorem steady_parseAll :
    Parser.Steady parseAll := by
  apply Parser.steady_bind (Parser.steady_test _)
  intro opened
  apply Parser.steady_ite _ (Parser.steady_pure _)
  apply Parser.steady_bind (Terminal.steady_read _)
  intro opening
  apply Parser.steady_bind (Parser.steady_repeatSteps steady_parseStep)
  intro parameters
  apply Parser.steady_bind (Terminal.steady_read _)
  intro closing
  exact Parser.steady_pure _

end Parameter

namespace Generics

theorem steady_conditionStep :
    Parser.Steady conditionStep := by
  apply Parser.steady_bind (Parser.steady_test _)
  intro finished
  apply Parser.steady_ite (Parser.steady_pure _)
  apply Parser.steady_bind (Phrase.steady_parse _)
  intro condition
  apply Parser.steady_bind (Parser.steady_test _)
  intro follows
  apply Parser.steady_ite _ (Parser.steady_pure _)
  apply Parser.steady_bind (Terminal.steady_read _)
  intro comma
  exact Parser.steady_pure _

theorem steady_parseConditions :
    Parser.Steady parseConditions := by
  apply Parser.steady_bind (Parser.steady_test _)
  intro follows
  apply Parser.steady_ite _ (Parser.steady_pure _)
  apply Parser.steady_bind (Terminal.steady_read _)
  intro word
  exact Parser.steady_repeatSteps steady_conditionStep

end Generics

end Parts

section Variants

namespace Variant

theorem steady_parse :
    Parser.Steady parse := by
  apply Parser.steady_bind Attribute.steady_parseAll
  intro attributes
  apply Parser.steady_bind (Phrase.steady_parse _)
  intro visibility
  apply Parser.steady_bind Name.steady_parse
  intro name
  apply Parser.steady_bind (Rule.steady_parse _)
  intro fields
  apply Parser.steady_bind (Parser.steady_test _)
  intro follows
  apply Parser.steady_ite _ (Parser.steady_pure _)
  apply Parser.steady_bind (Terminal.steady_read _)
  intro equals
  apply Parser.steady_bind (Phrase.steady_parse _)
  intro discriminant
  exact Parser.steady_pure _

theorem steady_parseStep :
    Parser.Steady parseStep := by
  apply Parser.steady_bind (Parser.steady_test _)
  intro finished
  apply Parser.steady_ite (Parser.steady_pure _)
  apply Parser.steady_bind steady_parse
  intro variant
  apply Parser.steady_bind (Parser.steady_test _)
  intro finished
  apply Parser.steady_ite (Parser.steady_pure _)
  apply Parser.steady_bind (Terminal.steady_read _)
  intro comma
  exact Parser.steady_pure _

/-- The variant of a step is read where the step begins. -/
theorem parse_of_parseStep
    {c d : Cursor}
    {step : Parser.Step Variant}
    {v : Variant}
    (h : parseStep c = .ok (step, d))
    (hvalue : step.value? = some v) :
    ∃ d', parse c = .ok (v, d') := by
  obtain ⟨finished, c', htest, h⟩ := Parser.bind_eq_ok_iff.mp h
  obtain ⟨-, rfl⟩ := Parser.test_eq_ok_iff.mp htest
  cases finished with
  | true =>
      obtain ⟨rfl, -⟩ := Parser.pure_eq_ok_iff.mp h
      cases hvalue
  | false =>
      obtain ⟨variant, d', hparse, h⟩ := Parser.bind_eq_ok_iff.mp h
      obtain ⟨finished, d'', -, h⟩ := Parser.bind_eq_ok_iff.mp h
      have hv : variant = v := by
        cases finished with
        | true =>
            obtain ⟨rfl, -⟩ := Parser.pure_eq_ok_iff.mp h
            exact Option.some.inj hvalue
        | false =>
            obtain ⟨comma, _, -, h⟩ := Parser.bind_eq_ok_iff.mp h
            obtain ⟨rfl, -⟩ := Parser.pure_eq_ok_iff.mp h
            exact Option.some.inj hvalue
      exact ⟨d', hv ▸ hparse⟩

end Variant

end Variants

section Items

namespace Item

/-- Conditions and a body of some kind as they are read behind a cursor; the variants of an enum are
read between braces. -/
structure BodyRead (kind : ItemKind) (c : Cursor) (conditions : List (Separated (List Token)))
    (body : Body) : Prop where
  conditions : ∃ c₁ c₂, Generics.parseConditions c₁ = .ok (conditions, c₂)
  kind :
    ∀ attributes visibility name generics,
      Item.kind ⟨attributes, visibility, name, generics, body⟩ = kind
  variants :
    ∀ variants,
      body = .enum variants →
        ∃ content opening closing leftOver inner,
          .group .brace content opening closing ∈ c.tokens ∧
          Parser.repeatSteps Variant.parseStep ⟨content, closing, leftOver⟩ = .ok (variants, inner)

/-- A parser reads what follows the parameters of an item of some kind. -/
def ReadsBody (kind : ItemKind) (read : Parser (List (Separated (List Token)) × Body)) : Prop :=
  ∀ c conditions body d,
    read c = .ok ((conditions, body), d) → BodyRead kind c conditions body

theorem readsBody_parseEnum :
    ReadsBody .enum parseEnum := by
  intro c conditions body d h
  obtain ⟨read, c₁, hconditions, h⟩ := Parser.bind_eq_ok_iff.mp h
  obtain ⟨⟨variants, _⟩, c₂, hvariants, h⟩ := Parser.bind_eq_ok_iff.mp h
  obtain ⟨heq, -⟩ := Parser.pure_eq_ok_iff.mp h
  obtain ⟨rfl, rfl⟩ := Prod.mk.inj heq
  obtain ⟨content, opening, closing, rest, variants', inner, htokens, hinner, hresult, -⟩ :=
    Parser.within_eq_ok_iff.mp hvariants
  obtain ⟨rfl, -⟩ := Prod.mk.inj hresult
  refine ⟨⟨c, c₁, hconditions⟩, fun _ _ _ _ => rfl, fun others hothers => ?_⟩
  obtain rfl := Body.enum.inj hothers
  have hreach := (Generics.steady_parseConditions _ _ _ hconditions).1
  have hmem : .group .brace content opening closing ∈ c₁.tokens := by simp [htokens]
  exact ⟨content, opening, closing, _, inner, hreach.tokens.subset hmem, hinner⟩

theorem readsBody_parseUnion :
    ReadsBody .union parseUnion := by
  intro c conditions body d h
  obtain ⟨read, c₁, hconditions, h⟩ := Parser.bind_eq_ok_iff.mp h
  obtain ⟨fields, _, -, h⟩ := Parser.bind_eq_ok_iff.mp h
  obtain ⟨heq, -⟩ := Parser.pure_eq_ok_iff.mp h
  obtain ⟨rfl, rfl⟩ := Prod.mk.inj heq
  exact ⟨⟨c, c₁, hconditions⟩, fun _ _ _ _ => rfl, fun _ hbody => nomatch hbody⟩

theorem readsBody_parseTuple :
    ReadsBody .struct parseTuple := by
  intro c conditions body d h
  obtain ⟨fields, c₁, -, h⟩ := Parser.bind_eq_ok_iff.mp h
  obtain ⟨read, c₂, hconditions, h⟩ := Parser.bind_eq_ok_iff.mp h
  obtain ⟨_, _, -, h⟩ := Parser.bind_eq_ok_iff.mp h
  obtain ⟨heq, -⟩ := Parser.pure_eq_ok_iff.mp h
  obtain ⟨rfl, rfl⟩ := Prod.mk.inj heq
  exact ⟨⟨c₁, c₂, hconditions⟩, fun _ _ _ _ => rfl, fun _ hbody => nomatch hbody⟩

/-- A struct is read from its fields in braces or in parentheses, or from a semicolon. -/
theorem readsBody_parseStruct :
    ReadsBody .struct parseStruct := by
  intro c conditions body d h
  obtain ⟨tuple, c', htest, h⟩ := Parser.bind_eq_ok_iff.mp h
  obtain ⟨-, rfl⟩ := Parser.test_eq_ok_iff.mp htest
  cases tuple with
  | true =>
      exact readsBody_parseTuple _ _ _ _ h
  | false =>
      obtain ⟨read, c₁, hconditions, h⟩ := Parser.bind_eq_ok_iff.mp h
      obtain ⟨braced, _, -, h⟩ := Parser.bind_eq_ok_iff.mp h
      have hbody : ∃ fields, (read, Body.struct fields) = (conditions, body) := by
        cases braced with
        | true =>
            obtain ⟨fields, _, -, h⟩ := Parser.bind_eq_ok_iff.mp h
            exact ⟨fields, (Parser.pure_eq_ok_iff.mp h).1⟩
        | false =>
            obtain ⟨_, _, -, h⟩ := Parser.bind_eq_ok_iff.mp h
            exact ⟨[], (Parser.pure_eq_ok_iff.mp h).1⟩
      obtain ⟨fields, heq⟩ := hbody
      obtain ⟨rfl, rfl⟩ := Prod.mk.inj heq
      exact ⟨⟨c, c₁, hconditions⟩, fun _ _ _ _ => rfl, fun _ hbody => nomatch hbody⟩

/-- An item has attributes and a visibility, and then the keyword for its kind decides. -/
theorem exists_parseWith_of_parse
    {c d : Cursor}
    {item : Item}
    (h : parse c = .ok (item, d)) :
    ∃ attributes c₁ visibility c₂ kind read,
      Attribute.parseAll c = .ok (attributes, c₁) ∧
      Phrase.visibility.parse c₁ = .ok (visibility, c₂) ∧
      ReadsBody kind read ∧
      parseWith attributes visibility kind.describe read c₂ = .ok (item, d) := by
  obtain ⟨attributes, c₁, hattributes, h⟩ := Parser.bind_eq_ok_iff.mp h
  obtain ⟨visibility, c₂, hvisibility, h⟩ := Parser.bind_eq_ok_iff.mp h
  refine ⟨attributes, c₁, visibility, c₂, ?_⟩
  obtain ⟨struct, c₃, htest, h⟩ := Parser.bind_eq_ok_iff.mp h
  obtain ⟨-, rfl⟩ := Parser.test_eq_ok_iff.mp htest
  cases struct with
  | true =>
      exact ⟨.struct, _, hattributes, hvisibility, readsBody_parseStruct, h⟩
  | false =>
  obtain ⟨enum, c₃, htest, h⟩ := Parser.bind_eq_ok_iff.mp h
  obtain ⟨-, rfl⟩ := Parser.test_eq_ok_iff.mp htest
  cases enum with
  | true =>
      exact ⟨.enum, _, hattributes, hvisibility, readsBody_parseEnum, h⟩
  | false =>
  obtain ⟨union, c₃, htest, h⟩ := Parser.bind_eq_ok_iff.mp h
  obtain ⟨-, rfl⟩ := Parser.test_eq_ok_iff.mp htest
  cases union with
  | true =>
      exact ⟨.union, _, hattributes, hvisibility, readsBody_parseUnion, h⟩
  | false =>
      cases h

end Item

end Items

end Caseless
