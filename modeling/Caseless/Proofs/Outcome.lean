import Caseless.Proofs.Checking

/-!
# The outcome of an expansion

An expansion has one of two outcomes: the code of the generated declarations, or one compile error
and nothing beside it.  Which of the two comes out is said by four conditions on the item, and the
compile error is about the first condition that fails, in the order of the checks.

The relation `Reported` tells the text of the compile error for an item without running any check
behind the one that fails.  The main result is `run_outcome`.
-/

namespace Caseless

section Conditions

namespace Item

/-- Every attribute of an item that sets options can be read. -/
def OptionsReadable (item : Item) : Prop :=
  ∀ a ∈ item.attributes,
    a.isNamed Context.attributeName = true → ∃ settings, Context.settingsOf a = .ok settings

/-- The conditions under which declarations are generated for an item. -/
structure Expandable (item : Item) : Prop where
  options : item.OptionsReadable
  kind : item.kind = .enum
  rawValue : item.requireStringRawValue = .ok ()
  cases : ∀ v ∈ item.variants, v.IsPlain

/-- What is wrong with the raw value type that an item declares. -/
inductive RawValueFault (item : Item) : RawValueProblem → Prop
  | missing
      (hnone : ∀ a ∈ item.attributes, a.isNamed rawValueAttribute = false) :
      RawValueFault item .missing
  | otherType
      {a : Attribute}
      {tokens : List Token}
      (hfirst : item.attributes.find? (·.isNamed rawValueAttribute) = some a)
      (htype : declaredType a = some tokens)
      (hother : Token.lexemesAll tokens ≠ stringType) :
      RawValueFault item (.notString (Token.render tokens))
  | noType
      {a : Attribute}
      (hfirst : item.attributes.find? (·.isNamed rawValueAttribute) = some a)
      (htype : declaredType a = none) :
      RawValueFault item (.notString (Token.render a.content))

/-- The text of the compile error for an item: it is about the first condition that fails, and of
the variants about the first that is no plain name. -/
inductive Reported (item : Item) : String → Prop
  | options
      {error : SyntaxError}
      (hfirst :
        FirstFailure Context.settingsOf
          (item.attributes.filter (·.isNamed Context.attributeName)) error) :
      Reported item error.message
  | kind
      (hoptions : item.OptionsReadable)
      (hkind : item.kind ≠ .enum) :
      Reported item (Problem.notAnEnum item.name.ident.text item.kind).compileErrorText
  | rawValue
      {problem : RawValueProblem}
      (hoptions : item.OptionsReadable)
      (hkind : item.kind = .enum)
      (hfault : item.RawValueFault problem) :
      Reported item (Problem.unsupportedRawValueType problem).compileErrorText
  | fields
      {before after : List Variant}
      {v : Variant}
      (hoptions : item.OptionsReadable)
      (hkind : item.kind = .enum)
      (hraw : item.requireStringRawValue = .ok ())
      (hsplit : item.variants = before ++ v :: after)
      (hbefore : ∀ u ∈ before, u.IsPlain)
      (hfields : v.hasFields = true) :
      Reported item
        (Problem.unsupportedRawValueType (.caseWithFields v.name.ident.name)).compileErrorText
  | discriminant
      {before after : List Variant}
      {v : Variant}
      (hoptions : item.OptionsReadable)
      (hkind : item.kind = .enum)
      (hraw : item.requireStringRawValue = .ok ())
      (hsplit : item.variants = before ++ v :: after)
      (hbefore : ∀ u ∈ before, u.IsPlain)
      (hfields : v.hasFields = false)
      (hdiscriminant : v.hasDiscriminant = true) :
      Reported item
        (Problem.unsupportedRawValueType
          (.caseWithDiscriminant v.name.ident.name)).compileErrorText

end Item

end Conditions

section Checks

namespace Item

theorem kind_eq_enum_iff
    (item : Item) :
    item.kind = .enum ↔ item.body = .enum item.variants := by
  unfold kind variants
  cases item.body with
  | enum variants =>
      simp
  | struct =>
      simp
  | union =>
      simp

theorem requireEnum_of_enum
    {item : Item}
    (hkind : item.kind = .enum) :
    item.requireEnum = .ok item.variants :=
  (item.requireEnum_eq_ok_iff item.variants).mpr (item.kind_eq_enum_iff.mp hkind)

theorem requireEnum_of_not_enum
    {item : Item}
    (hkind : item.kind ≠ .enum) :
    item.requireEnum =
      .error ⟨.notAnEnum item.name.ident.text item.kind, item.name.span⟩ := by
  unfold requireEnum
  cases hbody : item.body with
  | enum variants =>
      simp [kind, hbody] at hkind
  | struct =>
      rfl
  | union =>
      rfl

/-- The check of the raw value type fails exactly on a fault, with the problem of that fault. -/
theorem rawValueFault_iff
    (item : Item)
    (problem : RawValueProblem) :
    item.RawValueFault problem
      ↔
    ∃ span, item.requireStringRawValue = .error (rawValueDiagnostic problem span) := by
  constructor
  · intro hfault
    cases hfault with
    | missing hnone =>
        have hfind : item.attributes.find? (·.isNamed rawValueAttribute) = none := by
          simpa using hnone
        exact ⟨item.name.span, by simp [requireStringRawValue, hfind]⟩
    | @otherType a tokens hfirst htype hother =>
        exact ⟨Token.spanAll tokens,
          by simp [requireStringRawValue, hfirst, checkDeclaredType, htype, hother]⟩
    | @noType a hfirst htype =>
        exact ⟨a.span, by simp [requireStringRawValue, hfirst, checkDeclaredType, htype]⟩
  · rintro ⟨span, herror⟩
    unfold requireStringRawValue at herror
    cases hfirst : item.attributes.find? (·.isNamed rawValueAttribute) with
    | none =>
        obtain ⟨rfl, -⟩ : RawValueProblem.missing = problem ∧ item.name.span = span := by
          simpa [hfirst, rawValueDiagnostic] using herror
        exact RawValueFault.missing (by simpa using hfirst)
    | some a =>
        cases htype : declaredType a with
        | none =>
            obtain ⟨rfl, -⟩ :
                RawValueProblem.notString (Token.render a.content) = problem ∧
                  a.span = span := by
              simpa [hfirst, checkDeclaredType, htype, rawValueDiagnostic] using herror
            exact RawValueFault.noType hfirst htype
        | some tokens =>
            by_cases hother : Token.lexemesAll tokens = stringType
            · simp [hfirst, checkDeclaredType, htype, hother] at herror
            · obtain ⟨rfl, -⟩ :
                  RawValueProblem.notString (Token.render tokens) = problem ∧
                    Token.spanAll tokens = span := by
                simpa [hfirst, checkDeclaredType, htype, hother, rawValueDiagnostic]
                  using herror
              exact RawValueFault.otherType hfirst htype hother

theorem rawValueFault_of_error
    {item : Item}
    {d : Diagnostic}
    (herror : item.requireStringRawValue = .error d) :
    ∃ problem,
      d.problem = .unsupportedRawValueType problem ∧ item.RawValueFault problem := by
  have hform : ∃ problem span, d = rawValueDiagnostic problem span := by
    unfold requireStringRawValue checkDeclaredType at herror
    split at herror
    · split at herror
      · split at herror
        · cases herror
        · exact ⟨_, _, by simpa using herror.symm⟩
      · exact ⟨_, _, by simpa using herror.symm⟩
    · exact ⟨_, _, by simpa using herror.symm⟩
  obtain ⟨problem, span, rfl⟩ := hform
  exact ⟨problem, rfl, (item.rawValueFault_iff problem).mpr ⟨span, herror⟩⟩

end Item

end Checks

section Outcome

namespace Failure

/-- The text of a failure's compile error. -/
def text : Failure → String
  | options error => error.message
  | diagnostic d => d.problem.compileErrorText

theorem lexemes_eq_compileError
    (failure : Failure) :
    failure.lexemes = Template.compileError failure.text := by
  cases failure with
  | options error =>
      rfl
  | diagnostic d =>
      rfl

end Failure

namespace Item

theorem expand_of_options_error
    {item : Item}
    {error : SyntaxError}
    (herror : Context.ofAttributes item.attributes = .error error) :
    expand item = .error (.options error) := by
  simp [expand, herror]

theorem expand_of_cases_error
    {item : Item}
    {context : Context}
    {d : Diagnostic}
    (hcontext : Context.ofAttributes item.attributes = .ok context)
    (herror : item.requireCases = .error d) :
    expand item = .error (.diagnostic d) := by
  simp [expand, hcontext, expandWith_of_requireCases_error herror]

theorem expand_of_cases_ok
    {item : Item}
    {context : Context}
    {cases : List Case}
    (hcontext : Context.ofAttributes item.attributes = .ok context)
    (hcases : item.requireCases = .ok cases) :
    expand item = .ok (generate item.target cases context) := by
  simp [expand, hcontext, expandWith_of_requireCases_ok hcases]

theorem requireCases_of_not_enum
    {item : Item}
    (hkind : item.kind ≠ .enum) :
    item.requireCases =
      .error ⟨.notAnEnum item.name.ident.text item.kind, item.name.span⟩ := by
  unfold requireCases
  rw [requireEnum_of_not_enum hkind]
  rfl

theorem requireCases_of_rawValue_error
    {item : Item}
    {d : Diagnostic}
    (hkind : item.kind = .enum)
    (herror : item.requireStringRawValue = .error d) :
    item.requireCases = .error d := by
  unfold requireCases
  rw [requireEnum_of_enum hkind, herror]
  rfl

theorem requireCases_of_rawValue_ok
    {item : Item}
    (hkind : item.kind = .enum)
    (hraw : item.requireStringRawValue = .ok ()) :
    item.requireCases = Variant.toCases item.variants := by
  unfold requireCases
  rw [requireEnum_of_enum hkind, hraw]
  rfl

/-- The first variant that is no plain name makes the check of the cases fail. -/
theorem toCases_of_split
    {before after : List Variant}
    {v : Variant}
    {d : Diagnostic}
    (hbefore : ∀ u ∈ before, u.IsPlain)
    (hv : v.toCase = .error d) :
    Variant.toCases (before ++ v :: after) = .error d := by
  rw [Variant.toCases_eq_error_iff]
  refine ⟨before, v, after, rfl, ?_, hv⟩
  intro u hu
  exact u.exists_toCase_eq_ok_iff.mpr (hbefore u hu)

/-- What is reported is what the expansion fails with. -/
theorem expand_of_reported
    {item : Item}
    {text : String}
    (hreported : item.Reported text) :
    ∃ failure, expand item = .error failure ∧ failure.text = text := by
  cases hreported with
  | @options error hfirst =>
      refine ⟨.options error, expand_of_options_error ?_, rfl⟩
      exact (Context.ofAttributes_eq_error_iff item.attributes error).mpr hfirst
  | kind hoptions hkind =>
      obtain ⟨context, hcontext⟩ :=
        (Context.exists_ofAttributes_eq_ok_iff item.attributes).mpr hoptions
      exact ⟨_, expand_of_cases_error hcontext (requireCases_of_not_enum hkind), rfl⟩
  | @rawValue problem hoptions hkind hfault =>
      obtain ⟨context, hcontext⟩ :=
        (Context.exists_ofAttributes_eq_ok_iff item.attributes).mpr hoptions
      obtain ⟨span, herror⟩ := (item.rawValueFault_iff problem).mp hfault
      exact ⟨_,
        expand_of_cases_error hcontext (requireCases_of_rawValue_error hkind herror), rfl⟩
  | @fields before after v hoptions hkind hraw hsplit hbefore hfields =>
      obtain ⟨context, hcontext⟩ :=
        (Context.exists_ofAttributes_eq_ok_iff item.attributes).mpr hoptions
      have hv :
          v.toCase =
            .error (rawValueDiagnostic (.caseWithFields v.name.ident.name) v.span) := by
        simp [Variant.toCase, hfields]
      have hcases := requireCases_of_rawValue_ok hkind hraw
      rw [hsplit, toCases_of_split hbefore hv] at hcases
      exact ⟨_, expand_of_cases_error hcontext hcases, rfl⟩
  | @discriminant before after v hoptions hkind hraw hsplit hbefore hfields hdiscriminant =>
      obtain ⟨context, hcontext⟩ :=
        (Context.exists_ofAttributes_eq_ok_iff item.attributes).mpr hoptions
      have hv :
          v.toCase =
            .error
              (rawValueDiagnostic (.caseWithDiscriminant v.name.ident.name)
                (Token.spanAll v.discriminant)) := by
        simp [Variant.toCase, hfields, hdiscriminant]
      have hcases := requireCases_of_rawValue_ok hkind hraw
      rw [hsplit, toCases_of_split hbefore hv] at hcases
      exact ⟨_, expand_of_cases_error hcontext hcases, rfl⟩

/-- A bad variant is reported once all checks in front of it have passed. -/
theorem reported_of_toCases_error
    {item : Item}
    {d : Diagnostic}
    (hoptions : item.OptionsReadable)
    (hkind : item.kind = .enum)
    (hraw : item.requireStringRawValue = .ok ())
    (herror : Variant.toCases item.variants = .error d) :
    item.Reported d.problem.compileErrorText := by
  obtain ⟨before, v, after, hsplit, hpass, hv⟩ :=
    (Variant.toCases_eq_error_iff item.variants d).mp herror
  have hbefore : ∀ u ∈ before, u.IsPlain := by
    intro u hu
    exact u.exists_toCase_eq_ok_iff.mp (hpass u hu)
  unfold Variant.toCase at hv
  cases hfields : v.hasFields with
  | true =>
      obtain rfl := (by simpa [hfields] using hv : _ = d)
      exact Reported.fields hoptions hkind hraw hsplit hbefore hfields
  | false =>
      cases hdiscriminant : v.hasDiscriminant with
      | true =>
          obtain rfl := (by simpa [hfields, hdiscriminant] using hv : _ = d)
          exact Reported.discriminant hoptions hkind hraw hsplit hbefore hfields hdiscriminant
      | false =>
          simp [hfields, hdiscriminant] at hv

/-- An item is expandable, or something is reported about it. -/
theorem expandable_or_reported
    (item : Item) :
    item.Expandable ∨ ∃ text, item.Reported text := by
  cases hcontext : Context.ofAttributes item.attributes with
  | error error =>
      right
      exact ⟨_, Reported.options
        ((Context.ofAttributes_eq_error_iff item.attributes error).mp hcontext)⟩
  | ok context =>
      have hoptions : item.OptionsReadable :=
        (Context.exists_ofAttributes_eq_ok_iff item.attributes).mp ⟨context, hcontext⟩
      by_cases hkind : item.kind = .enum
      · cases hraw : item.requireStringRawValue with
        | error d =>
            right
            obtain ⟨problem, -, hfault⟩ := rawValueFault_of_error hraw
            exact ⟨_, Reported.rawValue hoptions hkind hfault⟩
        | ok done =>
            cases hcases : Variant.toCases item.variants with
            | error d =>
                right
                exact ⟨_, reported_of_toCases_error hoptions hkind hraw hcases⟩
            | ok cases =>
                left
                exact ⟨hoptions, hkind, hraw,
                  ((Variant.toCases_eq_ok_iff item.variants cases).mp hcases).1⟩
      · right
        exact ⟨_, Reported.kind hoptions hkind⟩

/-- An expandable item is expanded to the declarations for its variants. -/
theorem Expandable.expand_eq_ok
    {item : Item}
    (h : item.Expandable) :
    ∃ context,
      Context.ofAttributes item.attributes = .ok context ∧
      expand item =
        .ok (generate item.target (item.variants.map Variant.asCase) context) := by
  obtain ⟨context, hcontext⟩ :=
    (Context.exists_ofAttributes_eq_ok_iff item.attributes).mpr h.options
  have hcases : item.requireCases = .ok (item.variants.map Variant.asCase) := by
    rw [requireCases_of_rawValue_ok h.kind h.rawValue, Variant.toCases_eq_ok_iff]
    exact ⟨h.cases, rfl⟩
  exact ⟨context, hcontext, expand_of_cases_ok hcontext hcases⟩

theorem Expandable.not_reported
    {item : Item}
    (h : item.Expandable)
    (text : String) :
    ¬ item.Reported text := by
  intro hreported
  obtain ⟨context, -, hok⟩ := h.expand_eq_ok
  obtain ⟨failure, herror, -⟩ := expand_of_reported hreported
  rw [hok] at herror
  cases herror

/-- At most one text is reported about an item. -/
theorem Reported.unique
    {item : Item}
    {text text' : String}
    (h : item.Reported text)
    (h' : item.Reported text') :
    text' = text := by
  obtain ⟨failure, herror, rfl⟩ := expand_of_reported h
  obtain ⟨failure', herror', rfl⟩ := expand_of_reported h'
  rw [herror] at herror'
  obtain rfl : failure = failure' := by simpa using herror'
  rfl

end Item

/-- The word that every generated declaration begins its implementation with. -/
def implWord : Lexeme := .ident (.plain "impl")

theorem implWord_mem_implement
    (target : Target)
    (root : List Lexeme)
    (trait : String)
    (body : List Lexeme) :
    implWord ∈ target.implement root trait body := by
  simp [implWord, Target.implement, Template.word]

theorem implWord_not_mem_compileError
    (text : String) :
    implWord ∉ Template.compileError text := by
  simp [implWord, Template.compileError, Template.names, Template.symbol, Template.symbolChars,
    Template.word, Template.braces, Template.group, Template.string, Ident.plain]

/-- The printed form of a compile error: the call with the text as a literal, and nothing else. -/
theorem render_compileError
    (text : String) :
    Lexeme.render (Template.compileError text) =
      ":: core :: compile_error ! \x7b " ++ Text.quote .literal text ++ " \x7d" := by
  apply String.toList_injective
  simp [Lexeme.render, Template.compileError, Template.names, Template.symbol,
    Template.symbolChars, Template.word, Template.braces, Template.group, Template.string,
    Lexeme.renderChars, Lexeme.renderAfter, Lexeme.gap, Lexeme.blankBetween, Lexeme.chars,
    Ident.text, Ident.plain, Delimiter.openingChar, Delimiter.closingChar]

/-- The code of an expansion is that of the initializer, and for a search that of the extension
behind it. -/
theorem flatMap_lexemes_generate
    (target : Target)
    (cases : List Case)
    (context : Context) :
    (generate target cases context).flatMap Generated.lexemes =
      match context.strategy with
      | .branchTable =>
          Initializer.lexemes
            ⟨target, context.root, cases, .branchTable (Branch.table cases)⟩
      | .allCases =>
          Initializer.lexemes ⟨target, context.root, cases, .allCases⟩ ++
          Extension.lexemes ⟨target, context.root, cases.map (·.ident)⟩ := by
  unfold generate
  cases context.strategy with
  | branchTable =>
      simp [Generated.lexemes]
  | allCases =>
      simp [Generated.lexemes]

theorem implWord_mem_generate
    (target : Target)
    (cases : List Case)
    (context : Context) :
    implWord ∈ (generate target cases context).flatMap Generated.lexemes := by
  rw [flatMap_lexemes_generate]
  cases context.strategy with
  | branchTable =>
      exact implWord_mem_implement _ _ _ _
  | allCases =>
      exact List.mem_append_left _ (implWord_mem_implement _ _ _ _)

/-- The registered expander gives code for every item.  It gives implementations exactly for an
expandable item: those that its options ask for, in order.  For any other item it gives one compile
error, and its text is the one that is reported about the item. -/
theorem run_outcome :
    ∃ registration : Registration,
      Registration.find? "CaseInsensitive" = some registration ∧
      ∀ item : Item,
        (implWord ∈ registration.run item ↔ item.Expandable) ∧
        (item.Expandable →
          ∃ context,
            Context.ofAttributes item.attributes = .ok context ∧
            registration.run item =
              match context.strategy with
              | .branchTable =>
                  Initializer.lexemes
                    ⟨item.target, context.root, item.variants.map Variant.asCase,
                      .branchTable (Branch.table (item.variants.map Variant.asCase))⟩
              | .allCases =>
                  Initializer.lexemes
                    ⟨item.target, context.root, item.variants.map Variant.asCase, .allCases⟩ ++
                  Extension.lexemes
                    ⟨item.target, context.root, item.variants.map (·.name.ident)⟩) ∧
        (¬ item.Expandable →
          ∃ text,
            (∀ reported, item.Reported reported ↔ reported = text) ∧
            registration.run item = Template.compileError text ∧
            Lexeme.render (registration.run item) =
              ":: core :: compile_error ! \x7b " ++ Text.quote .literal text ++ " \x7d") := by
  refine ⟨⟨"CaseInsensitive", expand⟩, by simp [Registration.find?, Registration.all], ?_⟩
  intro item
  rcases item.expandable_or_reported with hexpandable | ⟨text, hreported⟩
  · obtain ⟨context, hcontext, hok⟩ := hexpandable.expand_eq_ok
    have hrun :
        Registration.run ⟨"CaseInsensitive", expand⟩ item =
          (generate item.target (item.variants.map Variant.asCase) context).flatMap
            Generated.lexemes := by
      simp [Registration.run, hok, Expansion.lexemes]
    refine ⟨?_, ?_, ?_⟩
    · rw [hrun]
      exact iff_of_true (implWord_mem_generate _ _ _) hexpandable
    · intro _
      refine ⟨context, hcontext, ?_⟩
      rw [hrun, flatMap_lexemes_generate, List.map_map]
      rfl
    · intro hnot
      exact absurd hexpandable hnot
  · obtain ⟨failure, herror, rfl⟩ := Item.expand_of_reported hreported
    have hrun :
        Registration.run ⟨"CaseInsensitive", expand⟩ item =
          Template.compileError failure.text := by
      simp [Registration.run, herror, Expansion.lexemes, failure.lexemes_eq_compileError]
    have hnot : ¬ item.Expandable := by
      intro h
      exact h.not_reported failure.text hreported
    refine ⟨?_, ?_, ?_⟩
    · rw [hrun]
      exact iff_of_false (implWord_not_mem_compileError failure.text) hnot
    · intro h
      exact absurd h hnot
    · intro _
      refine ⟨failure.text, ?_, hrun, ?_⟩
      · intro reported
        constructor
        · intro h
          exact hreported.unique h
        · rintro rfl
          exact hreported
      · rw [hrun, render_compileError]

end Outcome

end Caseless
