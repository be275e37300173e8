import Caseless.Proofs.Options
import Caseless.Proofs.Outcome
import Caseless.Proofs.Placement
import Mathlib.Logic.Relation

/-!
# What an expansion does not depend on

The code that is given for an item depends on the kind of the item, its name, its generics, the
first attribute that declares raw values, the attributes that set options, and of every case its
name and whether it has fields and a discriminant.  Items that agree on these parts have the same
code, be it implementations or a compile error, wherever the parts stand in the text.

Every part is followed from the item to the code in a section of its own.  The main result is
`run_eq_of_agrees`.
-/

namespace Caseless

section Attributes

/-- What follows the paths of two attributes differs in places only. -/
inductive Arguments.Alike : Arguments → Arguments → Prop
  | absent :
      Alike .absent .absent
  | value
      (equals equals' : Span)
      {tokens others : List Token}
      (htokens : Token.AlikeAll tokens others) :
      Alike (.value equals tokens) (.value equals' others)
  | group
      (d : Delimiter)
      {content content' : List Token}
      (opening closing opening' closing' : Span)
      (hcontent : Token.AlikeAll content content') :
      Alike (.group d content opening closing) (.group d content' opening' closing')

/-- Two attributes differ in places only. -/
structure Attribute.Alike (a b : Attribute) : Prop where
  path : Token.AlikeAll a.path b.path
  arguments : a.arguments.Alike b.arguments

theorem Arguments.Alike.refl
    (arguments : Arguments) :
    arguments.Alike arguments := by
  cases arguments with
  | absent =>
      exact Arguments.Alike.absent
  | value equals tokens =>
      exact Arguments.Alike.value equals equals (Token.AlikeAll.refl tokens)
  | group d content opening closing =>
      exact Arguments.Alike.group d _ _ _ _ (Token.AlikeAll.refl content)

theorem Attribute.Alike.refl
    (a : Attribute) :
    a.Alike a :=
  ⟨Token.AlikeAll.refl a.path, Arguments.Alike.refl a.arguments⟩

theorem Arguments.Alike.tokens
    {arguments others : Arguments}
    (h : arguments.Alike others) :
    Token.AlikeAll arguments.tokens others.tokens := by
  cases h with
  | absent =>
      exact List.Forall₂.nil
  | value equals equals' htokens =>
      exact List.Forall₂.cons (Token.Alike.punct _ _ equals equals') htokens
  | group d opening closing opening' closing' hcontent =>
      exact Token.AlikeAll.singleton (Token.Alike.group d _ _ _ _ hcontent)

theorem Attribute.Alike.content
    {a b : Attribute}
    (h : a.Alike b) :
    Token.AlikeAll a.content b.content :=
  List.rel_append h.path h.arguments.tokens

end Attributes

section Options

namespace OptionKey

/-- The names of two options differ in places only. -/
structure Alike (key other : OptionKey) : Prop where
  rooted : key.rooted = other.rooted
  first : key.first.Alike other.first
  others : Token.AlikeAll key.others other.others

theorem Alike.isWord_eq
    {key other : OptionKey}
    (h : key.Alike other)
    (word : String) :
    key.isWord word = other.isWord word := by
  obtain ⟨rooted, first, others⟩ := key
  obtain ⟨rooted', first', others'⟩ := other
  obtain ⟨rfl, hfirst, hothers⟩ := h
  cases rooted with
  | true =>
      rfl
  | false =>
      cases hfirst with
      | ident i span span' =>
          cases hothers with
          | nil =>
              rfl
          | cons hsecond hrest =>
              rfl
      | _ =>
          rfl

theorem firstComplaint_eq
    (tokens others : List Token)
    (h : Token.AlikeAll tokens others) :
    firstComplaint tokens = firstComplaint others := by
  rw [firstComplaint, firstComplaint, forall₂_isEmpty_eq h,
    Lookahead.literal.holds_eq tokens others h]

/-- Names of an option are read alike, whatever is said when there is none. -/
theorem alike_word
    (complaint : List Token → Complaint)
    (hcomplaint : ∀ tokens others, Token.AlikeAll tokens others →
      complaint tokens = complaint others) :
    Parser.Alike Token.Alike (fun c => word (complaint c.tokens) c)
      (fun c => word (complaint c.tokens) c) := by
  apply Parser.alike_takeOr _ hcomplaint
  intro tokens others htokens
  cases htokens with
  | nil =>
      exact Option.Rel.none
  | cons hfirst hrest =>
      cases hfirst with
      | ident i span span' =>
          exact Option.Rel.some ⟨Token.Alike.ident i span span', hrest⟩
      | _ =>
          exact Option.Rel.none

theorem alike_otherStep :
    Parser.Alike (Parser.Step.Alike Token.Alike) otherStep otherStep := by
  apply (Lookahead.symbol "::").alike_choose
  · apply Parser.alike_bind (Terminal.alike_read (.symbol "::"))
    intro colons colons' _
    apply Parser.alike_bind (alike_word (fun _ => .wanted "ident") fun _ _ _ => rfl)
    intro name name' hname
    exact Parser.alike_pure (Parser.Step.Alike.again hname)
  · exact Parser.alike_pure Parser.Step.Alike.done

theorem alike_parse :
    Parser.Alike Alike parse parse := by
  apply Parser.alike_bind (Parser.alike_test (Lookahead.symbol "::").holds_eq)
  rintro rooted _ rfl
  apply Parser.alike_bind (Rule.optionalSymbol "::").alike_parse
  intro colons colons' _
  apply Parser.alike_bind (alike_word firstComplaint firstComplaint_eq)
  intro first first' hfirst
  apply Parser.alike_bind (Parser.alike_repeatSteps alike_otherStep)
  intro others others' hothers
  exact Parser.alike_pure ⟨rfl, hfirst, hothers⟩

end OptionKey

namespace Setting

theorem alike_parseValue
    {key other : OptionKey}
    (h : key.Alike other) :
    Parser.Alike Eq (parseValue key) (parseValue other) := by
  unfold parseValue
  rw [h.isWord_eq, h.isWord_eq]
  apply Parser.alike_ite (Parser.alike_pure rfl)
  apply Parser.alike_ite
  · apply Parser.alike_bind (Terminal.alike_read (.symbol "="))
    intro equals equals' _
    apply Parser.alike_bind (Phrase.path .type).alike_parse
    intro path path' hpath
    exact Parser.alike_pure (by rw [hpath.lexemesAll_eq])
  · exact Parser.alike_throw rfl

theorem alike_parseStep :
    Parser.Alike (Parser.Step.Alike Eq) parseStep parseStep := by
  apply Lookahead.finished.alike_choose (Parser.alike_pure Parser.Step.Alike.done)
  apply Parser.alike_bind (Parser.alike_bind OptionKey.alike_parse fun _ _ => alike_parseValue)
  intro setting setting' hsetting
  apply Lookahead.finished.alike_choose (Parser.alike_pure (Parser.Step.Alike.last hsetting))
  apply Parser.alike_bind (Terminal.alike_read (.symbol ","))
  intro comma comma' _
  exact Parser.alike_pure (Parser.Step.Alike.again hsetting)

theorem alike_parseAll :
    Parser.Alike Eq parseAll parseAll := by
  rw [← List.forall₂_eq_eq_eq]
  exact Parser.alike_repeatSteps alike_parseStep

end Setting

namespace Context

/-- The options that alike attributes set are the same. -/
theorem agreeing_settingsOf
    {a b : Attribute}
    (h : a.Alike b) :
    Agreeing Eq (settingsOf a) (settingsOf b) := by
  have harguments := h.arguments
  unfold settingsOf
  generalize a.arguments = arguments at harguments ⊢
  generalize b.arguments = arguments' at harguments ⊢
  cases harguments with
  | absent =>
      exact Agreeing.error rfl
  | value equals equals' htokens =>
      exact Agreeing.error rfl
  | group d opening closing opening' closing' hcontent =>
      exact Setting.alike_parseAll.parseAll hcontent closing closing'

theorem agreeing_settingsOfAll
    {attributes others : List Attribute}
    (h : List.Forall₂ Attribute.Alike attributes others) :
    Agreeing Eq (settingsOfAll attributes) (settingsOfAll others) := by
  induction h with
  | nil =>
      exact Agreeing.ok rfl
  | cons hfirst hrest ih =>
      apply (agreeing_settingsOf hfirst).bind
      rintro settings _ rfl
      apply ih.bind
      rintro settings' _ rfl
      exact Agreeing.ok rfl

/-- The options of a declaration depend on the attributes that set some, and not on their
places. -/
theorem agreeing_ofAttributes
    {attributes others : List Attribute}
    (h : List.Forall₂ Attribute.Alike (optionAttributes attributes) (optionAttributes others)) :
    Agreeing Eq (ofAttributes attributes) (ofAttributes others) := by
  apply (agreeing_settingsOfAll h).bind
  rintro settings _ rfl
  exact Agreeing.ok rfl

end Context

end Options

section Cases

/-- A check with the problem that it finds, but without the place of the problem. -/
def Diagnostic.found {α : Type} (check : Except Diagnostic α) : Except Problem α :=
  check.mapError Diagnostic.problem

theorem Diagnostic.found_bind_congr
    {α β : Type}
    {x y : Except Diagnostic α}
    {f g : α → Except Diagnostic β}
    (hxy : found x = found y)
    (hfg : ∀ a, found (f a) = found (g a)) :
    found (x >>= f) = found (y >>= g) := by
  cases x with
  | error d =>
      cases y with
      | error d' =>
          exact congrArg Except.error (Except.error.inj hxy)
      | ok b =>
          cases hxy
  | ok a =>
      cases y with
      | error d' =>
          cases hxy
      | ok b =>
          obtain rfl : a = b := Except.ok.inj hxy
          exact hfg a

namespace Variant

/-- What an expansion sees of a case: its name, and whether it has fields and a discriminant. -/
def outline (variant : Variant) : Ident × Bool × Bool :=
  (variant.name.ident, variant.hasFields, variant.hasDiscriminant)

theorem found_toCase_eq
    {variant other : Variant}
    (h : variant.outline = other.outline) :
    Diagnostic.found variant.toCase = Diagnostic.found other.toCase := by
  obtain ⟨hname, hfields, hdiscriminant⟩ :
      variant.name.ident = other.name.ident ∧ variant.hasFields = other.hasFields ∧
        variant.hasDiscriminant = other.hasDiscriminant := by
    simpa [outline] using h
  simp only [toCase, hname, hfields, hdiscriminant]
  split
  · rfl
  · split
    · rfl
    · rfl

theorem found_toCases_eq
    {variants others : List Variant}
    (h : variants.map outline = others.map outline) :
    Diagnostic.found (toCases variants) = Diagnostic.found (toCases others) := by
  induction variants generalizing others with
  | nil =>
      obtain rfl : others = [] := by simpa using h.symm
      rfl
  | cons variant rest ih =>
      cases others with
      | nil =>
          simp at h
      | cons other rest' =>
          obtain ⟨hfirst, hrest⟩ := List.cons.inj h
          apply Diagnostic.found_bind_congr (found_toCase_eq hfirst)
          intro case
          apply Diagnostic.found_bind_congr (ih hrest)
          intro cases
          rfl

end Variant

namespace Item

theorem declaredType_alike
    {a b : Attribute}
    (h : a.Alike b) :
    Option.Rel Token.AlikeAll (declaredType a) (declaredType b) := by
  have harguments := h.arguments
  unfold declaredType
  generalize a.arguments = arguments at harguments ⊢
  generalize b.arguments = arguments' at harguments ⊢
  cases harguments with
  | absent =>
      exact Option.Rel.none
  | value equals equals' htokens =>
      exact Option.Rel.none
  | group d opening closing opening' closing' hcontent =>
      have htype := (Phrase.type true).alike_parse.parseAll hcontent closing closing'
      obtain ⟨tokens, others, hok, hok', htokens⟩ | ⟨e, f, herror, herror', _⟩ := htype.cases
      · simp only [hok, hok']
        exact Option.Rel.some htokens
      · simp only [herror, herror']
        exact Option.Rel.none

theorem found_checkDeclaredType_eq
    {a b : Attribute}
    (h : a.Alike b) :
    Diagnostic.found (checkDeclaredType a) = Diagnostic.found (checkDeclaredType b) := by
  have hrender {tokens others : List Token} (htokens : Token.AlikeAll tokens others) :
      Token.render tokens = Token.render others := by
    rw [Token.render, Token.render, htokens.lexemesAll_eq]
  have htype := declaredType_alike h
  unfold checkDeclaredType
  generalize declaredType a = type at htype ⊢
  generalize declaredType b = type' at htype ⊢
  cases htype with
  | none =>
      simp only [hrender h.content]
      rfl
  | some htokens =>
      simp only [htokens.lexemesAll_eq, hrender htokens]
      split
      · rfl
      · rfl

end Item

end Cases

section Generics

/-- Two parts of a list are related, and the commas behind them differ in places only. -/
structure Separated.Alike {α : Type} (R : α → α → Prop) (s t : Separated α) : Prop where
  value : R s.value t.value
  comma : Token.AlikeAll s.comma t.comma

/-- Two generic parameters differ in places only. -/
inductive Parameter.Alike : Parameter → Parameter → Prop
  | lifetime
      {attributes attributes' name name' bounds bounds' : List Token}
      (hattributes : Token.AlikeAll attributes attributes')
      (hname : Token.AlikeAll name name')
      (hbounds : Token.AlikeAll bounds bounds') :
      Alike (.lifetime attributes name bounds) (.lifetime attributes' name' bounds')
  | type
      {attributes attributes' name name' bounds bounds' default default' : List Token}
      (hattributes : Token.AlikeAll attributes attributes')
      (hname : Token.AlikeAll name name')
      (hbounds : Token.AlikeAll bounds bounds')
      (hdefault : Token.AlikeAll default default') :
      Alike (.type attributes name bounds default) (.type attributes' name' bounds' default')
  | const
      {attributes attributes' word word' name name' annotation annotation' default
        default' : List Token}
      (hattributes : Token.AlikeAll attributes attributes')
      (hword : Token.AlikeAll word word')
      (hname : Token.AlikeAll name name')
      (htype : Token.AlikeAll annotation annotation')
      (hdefault : Token.AlikeAll default default') :
      Alike (.const attributes word name annotation default)
        (.const attributes' word' name' annotation' default')

/-- The generics of two declarations differ in places only. -/
structure Generics.Alike (generics other : Generics) : Prop where
  parameters :
    List.Forall₂ (Separated.Alike Parameter.Alike) generics.parameters other.parameters
  conditions :
    List.Forall₂ (Separated.Alike Token.AlikeAll) generics.conditions other.conditions

namespace Parameter

theorem Alike.refl
    (parameter : Parameter) :
    parameter.Alike parameter := by
  have hrefl := Token.AlikeAll.refl
  cases parameter with
  | lifetime attributes name bounds =>
      exact Alike.lifetime (hrefl _) (hrefl _) (hrefl _)
  | type attributes name bounds default =>
      exact Alike.type (hrefl _) (hrefl _) (hrefl _) (hrefl _)
  | const attributes word name annotation default =>
      exact Alike.const (hrefl _) (hrefl _) (hrefl _) (hrefl _) (hrefl _)

theorem Alike.isLifetime_eq
    {parameter other : Parameter}
    (h : parameter.Alike other) :
    parameter.isLifetime = other.isLifetime := by
  cases h <;> rfl

theorem Alike.nameTokens
    {parameter other : Parameter}
    (h : parameter.Alike other) :
    Token.AlikeAll parameter.nameTokens other.nameTokens := by
  cases h <;> assumption

theorem boundsTokens_alike
    {bounds others : List Token}
    (h : Token.AlikeAll bounds others) :
    Token.AlikeAll (boundsTokens bounds) (boundsTokens others) := by
  unfold boundsTokens
  rw [forall₂_isEmpty_eq h]
  split
  · exact List.Forall₂.nil
  · exact List.Forall₂.cons (Token.Alike.refl colon) h

theorem Alike.boundTokens
    {parameter other : Parameter}
    (h : parameter.Alike other) :
    Token.AlikeAll parameter.boundTokens other.boundTokens := by
  cases h with
  | lifetime hattributes hname hbounds =>
      exact List.rel_append (List.rel_append hattributes hname) (boundsTokens_alike hbounds)
  | type hattributes hname hbounds hdefault =>
      exact List.rel_append (List.rel_append hattributes hname) (boundsTokens_alike hbounds)
  | const hattributes hword hname htype hdefault =>
      exact List.rel_append (List.rel_append (List.rel_append hattributes hword) hname)
        (List.Forall₂.cons (Token.Alike.refl colon) htype)

end Parameter

namespace Generics

theorem Alike.refl
    (generics : Generics) :
    generics.Alike generics where
  parameters :=
    List.forall₂_same.mpr fun p _ => ⟨Parameter.Alike.refl p.value, Token.AlikeAll.refl p.comma⟩
  conditions :=
    List.forall₂_same.mpr fun c _ => ⟨Token.AlikeAll.refl c.value, Token.AlikeAll.refl c.comma⟩

/-- What is shown of alike parameters in angle brackets is the same. -/
theorem angleList_eq
    {parameters others : List (Separated Parameter)}
    {print : Parameter → List Token}
    (hprint : ∀ p q : Parameter, p.Alike q → Token.AlikeAll (print p) (print q))
    (h : List.Forall₂ (Separated.Alike Parameter.Alike) parameters others) :
    angleList parameters print = angleList others print := by
  have hentries :
      List.Forall₂ Entry.Alike
        (parameters.map fun p => ⟨p.value.isLifetime, print p.value, p.comma⟩)
        (others.map fun p => ⟨p.value.isLifetime, print p.value, p.comma⟩) := by
    apply List.rel_map _ h
    intro p q hpq
    exact ⟨hpq.value.isLifetime_eq, hprint _ _ hpq.value, hpq.comma⟩
  unfold angleList
  rw [forall₂_isEmpty_eq h, (Entry.lifetimesFirst_alike hentries).lexemesAll_eq]

theorem Alike.whereLexemes_eq
    {generics other : Generics}
    (h : generics.Alike other) :
    generics.whereLexemes = other.whereLexemes := by
  have hconditions :
      (generics.conditions.flatMap fun c => Token.lexemesAll (c.value ++ c.comma)) =
        other.conditions.flatMap fun c => Token.lexemesAll (c.value ++ c.comma) := by
    rw [← List.forall₂_eq_eq_eq]
    apply List.rel_flatMap h.conditions
    intro c d hcd
    rw [List.forall₂_eq_eq_eq]
    have htokens : Token.AlikeAll (c.value ++ c.comma) (d.value ++ d.comma) :=
      List.rel_append hcd.value hcd.comma
    exact htokens.lexemesAll_eq
  rw [whereLexemes, whereLexemes, forall₂_isEmpty_eq h.conditions, hconditions]

end Generics

/-- An implementation is the same for alike targets. -/
theorem Target.implement_eq
    {name : Ident}
    {generics other : Generics}
    (h : generics.Alike other)
    (root : List Lexeme)
    (trait : String)
    (body : List Lexeme) :
    implement ⟨name, generics⟩ root trait body = implement ⟨name, other⟩ root trait body := by
  have himpl : generics.implLexemes = other.implLexemes :=
    Generics.angleList_eq (fun _ _ => Parameter.Alike.boundTokens) h.parameters
  have htype : generics.typeLexemes = other.typeLexemes :=
    Generics.angleList_eq (fun _ _ => Parameter.Alike.nameTokens) h.parameters
  simp only [implement, himpl, htype, h.whereLexemes_eq]

/-- The code of the generated declarations is the same for alike targets. -/
theorem lexemes_generate_eq
    {name : Ident}
    {generics other : Generics}
    (h : generics.Alike other)
    (cases : List Case)
    (context : Context) :
    (generate ⟨name, generics⟩ cases context).flatMap Generated.lexemes =
      (generate ⟨name, other⟩ cases context).flatMap Generated.lexemes := by
  rw [flatMap_lexemes_generate, flatMap_lexemes_generate]
  cases context.strategy with
  | branchTable =>
      exact Target.implement_eq h _ _ _
  | allCases =>
      exact congrArg₂ (· ++ ·) (Target.implement_eq h _ _ _) (Target.implement_eq h _ _ _)

end Generics

section Items

namespace Item

/-- Two items agree on all that an expansion depends on, apart from places. -/
structure Agrees (item other : Item) : Prop where
  kind : item.kind = other.kind
  name : item.name.ident = other.name.ident
  generics : item.generics.Alike other.generics
  rawValue :
    Option.Rel Attribute.Alike (item.attributes.find? (·.isNamed rawValueAttribute))
      (other.attributes.find? (·.isNamed rawValueAttribute))
  options :
    List.Forall₂ Attribute.Alike (Context.optionAttributes item.attributes)
      (Context.optionAttributes other.attributes)
  cases :
    item.kind = .enum → item.variants.map Variant.outline = other.variants.map Variant.outline

theorem Agrees.found_requireStringRawValue_eq
    {item other : Item}
    (h : item.Agrees other) :
    Diagnostic.found item.requireStringRawValue =
      Diagnostic.found other.requireStringRawValue := by
  have hfirst := h.rawValue
  unfold requireStringRawValue
  generalize item.attributes.find? (·.isNamed rawValueAttribute) = first at hfirst ⊢
  generalize other.attributes.find? (·.isNamed rawValueAttribute) = first' at hfirst ⊢
  cases hfirst with
  | none =>
      rfl
  | some halike =>
      exact found_checkDeclaredType_eq halike

theorem Agrees.found_requireCases_eq
    {item other : Item}
    (h : item.Agrees other) :
    Diagnostic.found item.requireCases = Diagnostic.found other.requireCases := by
  unfold requireCases
  by_cases hkind : item.kind = .enum
  · rw [requireEnum_of_enum hkind, requireEnum_of_enum (h.kind ▸ hkind)]
    apply Diagnostic.found_bind_congr h.found_requireStringRawValue_eq
    intro _
    exact Variant.found_toCases_eq (h.cases hkind)
  · rw [requireEnum_of_not_enum hkind, requireEnum_of_not_enum (h.kind ▸ hkind)]
    simp only [h.name, h.kind]
    rfl

/-- The code of an expansion is the same for items that agree. -/
theorem Agrees.lexemes_expand_eq
    {item other : Item}
    (h : item.Agrees other) :
    Expansion.lexemes (expand item) = Expansion.lexemes (expand other) := by
  obtain ⟨context, _, hok, hok', rfl⟩ | ⟨e, f, herror, herror', hsaid⟩ :=
    (Context.agreeing_ofAttributes h.options).cases
  · have hcases := h.found_requireCases_eq
    cases hfirst : item.requireCases with
    | error d =>
        cases hsecond : other.requireCases with
        | error d' =>
            rw [hfirst, hsecond] at hcases
            have hproblem : d.problem = d'.problem := Except.error.inj hcases
            rw [expand_of_cases_error hok hfirst, expand_of_cases_error hok' hsecond]
            exact congrArg Problem.lexemes hproblem
        | ok cases' =>
            rw [hfirst, hsecond] at hcases
            cases hcases
    | ok cases =>
        cases hsecond : other.requireCases with
        | error d' =>
            rw [hfirst, hsecond] at hcases
            cases hcases
        | ok cases' =>
            rw [hfirst, hsecond] at hcases
            obtain rfl : cases = cases' := Except.ok.inj hcases
            rw [expand_of_cases_ok hok hfirst, expand_of_cases_ok hok' hsecond]
            have htarget : other.target = ⟨item.name.ident, other.generics⟩ := by
              rw [target, h.name]
            rw [htarget]
            exact lexemes_generate_eq h.generics cases context
  · rw [expand_of_options_error herror, expand_of_options_error herror']
    exact congrArg Template.compileError (SyntaxError.message_eq_of_said hsaid)

end Item

end Items

section Changes

/-- An attribute has one name at most. -/
theorem Attribute.isNamed_eq_false_of_ne
    {a : Attribute}
    {name other : String}
    (h : a.isNamed name = true)
    (hne : name ≠ other) :
    a.isNamed other = false := by
  obtain ⟨span, hpath⟩ := (a.isNamed_eq_true_iff name).mp h
  simp [isNamed, hpath, Token.lexemesAll, Token.lexemes, Ident.plain, hne]

namespace Item

/-- A change of an item that an expansion does not see. -/
inductive Retouch : Item → Item → Prop
  | visibility
      (item : Item)
      (tokens : List Token) :
      Retouch item { item with visibility := tokens }
  /-- An attribute of another name is put somewhere. -/
  | otherAttribute
      {item : Item}
      {front rest : List Attribute}
      {a : Attribute}
      (hattributes : item.attributes = front ++ rest)
      (hraw : a.isNamed rawValueAttribute = false)
      (hoptions : a.isNamed Context.attributeName = false) :
      Retouch item { item with attributes := front ++ a :: rest }
  /-- Raw values are declared again behind the first declaration. -/
  | laterRawValue
      {item : Item}
      {front rest : List Attribute}
      {first a : Attribute}
      (hattributes : item.attributes = front ++ rest)
      (hmem : first ∈ front)
      (hfirst : first.isNamed rawValueAttribute = true)
      (hraw : a.isNamed rawValueAttribute = true) :
      Retouch item { item with attributes := front ++ a :: rest }
  /-- A declaration of raw values and options behind it change places. -/
  | swap
      {item : Item}
      {front rest : List Attribute}
      {a b : Attribute}
      (hattributes : item.attributes = front ++ a :: b :: rest)
      (hraw : a.isNamed rawValueAttribute = true)
      (hoptions : b.isNamed Context.attributeName = true) :
      Retouch item { item with attributes := front ++ b :: a :: rest }
  /-- A case keeps its name and keeps having or not having fields and a discriminant. -/
  | case
      {item : Item}
      {front rest : List Variant}
      {variant other : Variant}
      (hbody : item.body = .enum (front ++ variant :: rest))
      (houtline : variant.outline = other.outline) :
      Retouch item { item with body := .enum (front ++ other :: rest) }
  | struct
      {item : Item}
      {fields : List Token}
      (hbody : item.body = .struct fields)
      (tokens : List Token) :
      Retouch item { item with body := .struct tokens }
  | union
      {item : Item}
      {fields : List Token}
      (hbody : item.body = .union fields)
      (tokens : List Token) :
      Retouch item { item with body := .union tokens }

theorem agrees_withAttributes
    {item : Item}
    {attributes : List Attribute}
    (hraw :
      item.attributes.find? (·.isNamed rawValueAttribute) =
        attributes.find? (·.isNamed rawValueAttribute))
    (hoptions :
      Context.optionAttributes item.attributes = Context.optionAttributes attributes) :
    item.Agrees { item with attributes := attributes } where
  kind := rfl
  name := rfl
  generics := Generics.Alike.refl item.generics
  rawValue := by
    rw [hraw]
    cases attributes.find? (·.isNamed rawValueAttribute) with
    | none =>
        exact Option.Rel.none
    | some a =>
        exact Option.Rel.some (Attribute.Alike.refl a)
  options := by
    rw [hoptions]
    exact List.forall₂_same.mpr fun a _ => Attribute.Alike.refl a
  cases := fun _ => rfl

theorem agrees_withRest
    {item : Item}
    {visibility : List Token}
    {body : Body}
    (hkind : item.kind = Item.kind { item with body := body })
    (hcases :
      item.variants.map Variant.outline =
        (Item.variants { item with body := body }).map Variant.outline) :
    item.Agrees { item with visibility := visibility, body := body } := by
  have hsame : item.Agrees item := agrees_withAttributes rfl rfl
  exact { hsame with kind := hkind, cases := fun _ => hcases }

/-- A change that an expansion does not see keeps all that the expansion depends on.  The first
declaration of raw values is found before the place of a later one is reached. -/
theorem Retouch.agrees
    {item other : Item}
    (h : Retouch item other) :
    item.Agrees other := by
  cases h with
  | visibility tokens =>
      exact agrees_withRest rfl rfl
  | otherAttribute hattributes hraw hoptions =>
      apply agrees_withAttributes
      · simp [hattributes, List.find?_append, hraw]
      · simp [hattributes, Context.optionAttributes, hoptions]
  | @laterRawValue front rest first a hattributes hmem hfirst hraw =>
      have hoptions := Attribute.isNamed_eq_false_of_ne hraw
        (show rawValueAttribute ≠ Context.attributeName by decide)
      apply agrees_withAttributes
      · have hfound : (front.find? (·.isNamed rawValueAttribute)).isSome = true :=
          List.find?_isSome.mpr ⟨first, hmem, hfirst⟩
        obtain ⟨found, hfound⟩ := Option.isSome_iff_exists.mp hfound
        simp [hattributes, List.find?_append, hfound]
      · simp [hattributes, Context.optionAttributes, hoptions]
  | swap hattributes hraw hoptions =>
      have hneither := Attribute.isNamed_eq_false_of_ne hraw
        (show rawValueAttribute ≠ Context.attributeName by decide)
      have hneither' := Attribute.isNamed_eq_false_of_ne hoptions
        (show Context.attributeName ≠ rawValueAttribute by decide)
      apply agrees_withAttributes
      · simp [hattributes, List.find?_append, hraw, hneither']
      · simp [hattributes, Context.optionAttributes, hoptions, hneither]
  | case hbody houtline =>
      apply agrees_withRest
      · simp [kind, hbody]
      · simp [variants, hbody, houtline]
  | struct hbody tokens =>
      apply agrees_withRest
      · simp [kind, hbody]
      · simp [variants, hbody]
  | union hbody tokens =>
      apply agrees_withRest
      · simp [kind, hbody]
      · simp [variants, hbody]

end Item

/-- Items that agree on their kind, their name, their generics, their first declaration of raw
values, their options and the outlines of their cases have the same code.  So no sequence of
changes elsewhere, made or taken back, has any influence on the code. -/
theorem run_eq_of_agrees
    {registration : Registration}
    (hregistered : registration ∈ Registration.all) :
    (∀ item other : Item,
      item.Agrees other → registration.run item = registration.run other) ∧
    (∀ item other : Item,
      Relation.EqvGen Item.Retouch item other →
        registration.run item = registration.run other) := by
  obtain rfl : registration = ⟨"CaseInsensitive", expand⟩ := by
    simpa [Registration.all] using hregistered
  have hagrees (item other : Item) (h : item.Agrees other) :
      Registration.run ⟨"CaseInsensitive", expand⟩ item =
        Registration.run ⟨"CaseInsensitive", expand⟩ other :=
    h.lexemes_expand_eq
  refine ⟨hagrees, ?_⟩
  intro item other h
  induction h with
  | rel item other h =>
      exact hagrees item other h.agrees
  | refl item =>
      rfl
  | symm item other h ih =>
      exact ih.symm
  | trans item middle other h h' ih ih' =>
      exact ih.trans ih'

/-- An attribute with arguments in parentheses, all at one place. -/
def sampleAttribute (place : Span) (path : List Token) (content : Token) : Attribute where
  hash := place
  opening := place
  closing := place
  path := path
  arguments := .group .parenthesis [content] place place

/-- The enum `E` with the case `A`, which declares raw values and then sets options. -/
def bareSample : Item where
  attributes :=
    [sampleAttribute Span.unplaced [.ident (.plain "raw_value") Span.unplaced]
        (.ident (.plain "String") Span.unplaced),
      sampleAttribute Span.unplaced [.ident (.plain "case_insensitive") Span.unplaced]
        (.ident (.plain "all_cases") Span.unplaced)]
  visibility := []
  name := ⟨.plain "E", Span.unplaced⟩
  generics := ⟨[], []⟩
  body := .enum [⟨[], ⟨.plain "A", Span.unplaced⟩, [], [], []⟩]

/-- The same enum elsewhere in a text: public, with the options first, with an attribute on its
case, and with the attributes `r#raw_value` and `a::raw_value` before and another `raw_value` behind
the one that counts. -/
def crowdedSample (place : Span) : Item where
  attributes :=
    [sampleAttribute place [.ident ⟨"raw_value", true⟩ place] (.ident (.plain "u8") place),
      sampleAttribute place [.ident (.plain "case_insensitive") place]
        (.ident (.plain "all_cases") place),
      sampleAttribute place
        [.ident (.plain "a") place, .punct ':' .joint place, .punct ':' .alone place,
          .ident (.plain "raw_value") place]
        (.ident (.plain "u8") place),
      sampleAttribute place [.ident (.plain "raw_value") place] (.ident (.plain "String") place),
      sampleAttribute place [.ident (.plain "raw_value") place] (.ident (.plain "u8") place)]
  visibility := [.ident (.plain "pub") place]
  name := ⟨.plain "E", place⟩
  generics := ⟨[], []⟩
  body :=
    .enum
      [⟨[sampleAttribute place [.ident (.plain "cfg") place] (.ident (.plain "test") place)],
        ⟨.plain "A", place⟩, [], [], []⟩]

/-- The two samples have the same code, and so have structs that differ in their fields and their
visibility. -/
theorem run_eq_of_agrees_crowded :
    let expander : Registration := ⟨"CaseInsensitive", expand⟩
    let place : Span := ⟨⟨7, 0⟩, ⟨7, 9⟩⟩
    let unit : Item := { bareSample with body := .struct [] }
    let braced : Item :=
      { bareSample with
        visibility := [.ident (.plain "pub") place]
        body := .struct [.group .brace [] place place] }
    expander ∈ Registration.all ∧
    bareSample.Agrees (crowdedSample place) ∧
    expander.run bareSample = expander.run (crowdedSample place) ∧
    Relation.EqvGen Item.Retouch unit braced ∧
    expander.run unit = expander.run braced := by
  intro expander place unit braced
  have hregistered : expander ∈ Registration.all := by simp [expander, Registration.all]
  have halike (name content : String) :
      (sampleAttribute Span.unplaced [.ident (.plain name) Span.unplaced]
        (.ident (.plain content) Span.unplaced)).Alike
        (sampleAttribute place [.ident (.plain name) place] (.ident (.plain content) place)) :=
    ⟨Token.AlikeAll.singleton (Token.Alike.ident _ _ _),
      Arguments.Alike.group _ _ _ _ _ (Token.AlikeAll.singleton (Token.Alike.ident _ _ _))⟩
  have hagrees : bareSample.Agrees (crowdedSample place) :=
    { kind := rfl
      name := rfl
      generics := Generics.Alike.refl _
      rawValue := Option.Rel.some (halike "raw_value" "String")
      options := List.Forall₂.cons (halike "case_insensitive" "all_cases") List.Forall₂.nil
      cases := fun _ => rfl }
  have hretouched : Relation.EqvGen Item.Retouch unit braced :=
    Relation.EqvGen.trans _ _ _
      (Relation.EqvGen.rel _ _ (Item.Retouch.visibility unit [.ident (.plain "pub") place]))
      (Relation.EqvGen.rel _ _ (Item.Retouch.struct rfl [.group .brace [] place place]))
  have hrun := run_eq_of_agrees hregistered
  exact ⟨hregistered, hagrees, hrun.1 _ _ hagrees, hretouched, hrun.2 _ _ hretouched⟩

end Changes

end Caseless
