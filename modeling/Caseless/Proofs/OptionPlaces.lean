import Caseless.Proofs.Layout
import Caseless.Proofs.OptionErrors
import Caseless.Proofs.Requirements

/-!
# Places of errors in options

An error in the options of an attribute is about tokens of the attribute: its path if it has no
arguments, the equals sign if it has a value, and otherwise a token between the delimiters of its
arguments, the closing one included.  The name of an option that is not known is reported from its
first word to its last.
-/

namespace Caseless

section Keys

namespace OptionKey

theorem blames_otherStep :
    Parser.Blames otherStep := by
  apply Parser.blames_bind (Parser.steady_test _) (Parser.blames_test _)
  intro follows
  apply Parser.blames_ite _ (Parser.blames_pure _)
  apply Parser.blames_bind (Terminal.steady_read _) (Parser.blames_takeOr _ _)
  intro colons
  apply Parser.blames_bind (steady_word fun _ => .wanted "ident")
    (Parser.blames_takeOr _ fun _ => .wanted "ident")
  intro token
  exact Parser.blames_pure _

theorem blames_parse :
    Parser.Blames parse := by
  apply Parser.blames_bind (Parser.steady_test _) (Parser.blames_test _)
  intro rooted
  apply Parser.blames_bind (Rule.steady_parse _) (Rule.blames_parse (by simp))
  intro colons
  apply Parser.blames_bind (steady_word firstComplaint) (Parser.blames_takeOr _ firstComplaint)
  intro first
  apply Parser.blames_bind (Parser.steady_repeatSteps steady_otherStep)
    (Parser.blames_repeatSteps steady_otherStep blames_otherStep)
  intro others
  exact Parser.blames_pure _

/-- A step that gives a further name reads it behind a double colon. -/
theorem tokens_of_otherStep
    {c d : Cursor}
    {step : Parser.Step Token}
    {token : Token}
    (h : otherStep c = .ok (step, d))
    (hvalue : step.value? = some token) :
    token :: d.tokens <:+ c.tokens := by
  obtain ⟨follows, c', htest, h⟩ := Parser.bind_eq_ok_iff.mp h
  obtain ⟨-, rfl⟩ := Parser.test_eq_ok_iff.mp htest
  cases follows with
  | false =>
      obtain ⟨rfl, -⟩ := Parser.pure_eq_ok_iff.mp h
      cases hvalue
  | true =>
      obtain ⟨colons, c₁, hcolons, h⟩ := Parser.bind_eq_ok_iff.mp h
      obtain ⟨word, c₂, hword, h⟩ := Parser.bind_eq_ok_iff.mp h
      obtain ⟨rfl, rfl⟩ := Parser.pure_eq_ok_iff.mp h
      obtain rfl := Option.some.inj hvalue
      obtain ⟨i, span, rest, htokens, rfl, rfl⟩ := word_eq_ok_iff.mp hword
      have hreach := (Terminal.steady_read _ _ _ _ hcolons).1.tokens
      rwa [htokens] at hreach

/-- The further names of a key stand in the text in their order. -/
theorem sublist_of_repeatUpTo
    {n : Nat}
    {c d : Cursor}
    {others : List Token}
    (h : Parser.repeatUpTo otherStep n c = .ok (others, d)) :
    others.Sublist c.tokens := by
  induction n generalizing c others with
  | zero =>
      cases h
  | succ n ih =>
      obtain ⟨step, c', hstep, h⟩ := Parser.bind_eq_ok_iff.mp h
      cases step with
      | again token =>
          obtain ⟨more, d', hmore, hpure⟩ := Parser.bind_eq_ok_iff.mp h
          obtain ⟨rfl, rfl⟩ := Parser.pure_eq_ok_iff.mp hpure
          exact ((ih hmore).cons_cons token).trans (tokens_of_otherStep hstep rfl).sublist
      | last token =>
          obtain ⟨rfl, rfl⟩ := Parser.pure_eq_ok_iff.mp h
          exact ((List.nil_sublist _).cons_cons token).trans
            (tokens_of_otherStep hstep rfl).sublist
      | done =>
          obtain ⟨rfl, -⟩ := Parser.pure_eq_ok_iff.mp h
          exact List.nil_sublist _

/-- The stretch of a key runs over tokens that were read. -/
theorem runs_span
    {c d : Cursor}
    {key : OptionKey}
    (hlaid : c.Laid)
    (h : parse c = .ok (key, d)) :
    key.span.Runs (Token.places c.tokens) := by
  obtain ⟨rooted, c₁, htest, h⟩ := Parser.bind_eq_ok_iff.mp h
  obtain ⟨-, rfl⟩ := Parser.test_eq_ok_iff.mp htest
  obtain ⟨colons, c₂, hcolons, h⟩ := Parser.bind_eq_ok_iff.mp h
  obtain ⟨first, c₃, hfirst, h⟩ := Parser.bind_eq_ok_iff.mp h
  obtain ⟨others, c₄, hothers, h⟩ := Parser.bind_eq_ok_iff.mp h
  obtain ⟨rfl, -⟩ := Parser.pure_eq_ok_iff.mp h
  obtain ⟨i, span, rest, htokens, rfl, rfl⟩ := word_eq_ok_iff.mp hfirst
  have hnames : (.ident i span :: others).Sublist c.tokens := by
    have hrest := (sublist_of_repeatUpTo hothers).cons_cons (.ident i span)
    rw [← htokens] at hrest
    exact hrest.trans (Rule.steady_parse _ _ _ _ hcolons).1.tokens.sublist
  have hplaces := Token.places_sublist hnames
  have hordered := hlaid.tokens.spans_ordered.sublist hplaces
  exact (Token.runs_spanAll hordered (Token.beginsIn_self _) rfl (List.cons_ne_nil _ _)).mono
    hplaces.subset

end OptionKey

end Keys

section Settings

namespace Setting

/-- Behind the name of an option that is not known nothing more is read. -/
theorem blames_parseValue_or_eq_throw
    (key : OptionKey) :
    Parser.Blames (parseValue key) ∨
      parseValue key = throw ⟨.unknownOption, false, key.span⟩ := by
  unfold parseValue
  cases key.isWord "all_cases" with
  | true =>
      exact Or.inl (Parser.blames_pure _)
  | false =>
      cases key.isWord "crate" with
      | true =>
          left
          apply Parser.blames_bind (Terminal.steady_read _) (Parser.blames_takeOr _ _)
          intro equals
          apply Parser.blames_bind (Phrase.steady_parse _) (Phrase.blames_parse _)
          intro path
          exact Parser.blames_pure _
      | false =>
          exact Or.inr rfl

theorem blames_parse :
    Parser.Blames parse := by
  constructor
  · intro c e hlaid h
    rcases Parser.bind_eq_error_iff.mp h with hkey | ⟨key, c', hkey, hvalue⟩
    · exact OptionKey.blames_parse.error c e hlaid hkey
    · have hreach := (OptionKey.steady_parse c key c' hkey).1
      rcases blames_parseValue_or_eq_throw key with hblames | hthrow
      · exact (hblames.error c' e (hreach.laid hlaid) hvalue).mono hreach.spans_subset
      · rw [hthrow] at hvalue
        obtain rfl := Except.error.inj hvalue
        exact (OptionKey.runs_span hlaid hkey).mono c.places_subset_spans
  · intro c setting d e hlaid h he
    obtain ⟨key, c', hkey, hvalue⟩ := Parser.bind_eq_ok_iff.mp h
    have hreach := (OptionKey.steady_parse c key c' hkey).1
    rcases blames_parseValue_or_eq_throw key with hblames | hthrow
    · rcases hblames.leftOver c' setting d e (hreach.laid hlaid) hvalue he with hleft | hruns
      · exact OptionKey.blames_parse.leftOver c key c' e hlaid hkey hleft
      · exact Or.inr (hruns.mono hreach.spans_subset)
    · rw [hthrow] at hvalue
      cases hvalue

theorem blames_parseStep :
    Parser.Blames parseStep := by
  apply Parser.blames_bind (Parser.steady_test _) (Parser.blames_test _)
  intro finished
  apply Parser.blames_ite (Parser.blames_pure _)
  apply Parser.blames_bind steady_parse blames_parse
  intro setting
  apply Parser.blames_bind (Parser.steady_test _) (Parser.blames_test _)
  intro finished
  apply Parser.blames_ite (Parser.blames_pure _)
  apply Parser.blames_bind (Terminal.steady_read _) (Parser.blames_takeOr _ _)
  intro comma
  exact Parser.blames_pure _

theorem blames_parseAll :
    Parser.Blames parseAll :=
  Parser.blames_repeatSteps steady_parseStep blames_parseStep

theorem steady_parseAll :
    Parser.Steady parseAll :=
  Parser.steady_repeatSteps steady_parseStep

end Setting

end Settings

section Attributes

/-- Arguments stand among some tokens if their group does, or the equals sign of their value. -/
def Arguments.StandIn : Arguments → List Token → Prop
  | absent, _ => True
  | value equals _, tokens => ∃ spacing, .punct '=' spacing equals ∈ tokens
  | group delimiter content opening closing, tokens =>
      .group delimiter content opening closing ∈ tokens

theorem Attribute.standIn_of_parseContent
    {c d : Cursor}
    {path : List Token}
    {arguments : Arguments}
    (h : parseContent c = .ok ((path, arguments), d)) :
    arguments.StandIn c.tokens := by
  obtain ⟨path', c', hpath, h⟩ := Parser.bind_eq_ok_iff.mp h
  obtain ⟨arguments', c'', harguments, h⟩ := Parser.bind_eq_ok_iff.mp h
  obtain ⟨heq, -⟩ := Parser.pure_eq_ok_iff.mp h
  obtain ⟨rfl, rfl⟩ := Prod.mk.inj heq
  have hreach := (Rule.steady_parse _ _ _ _ hpath).1.tokens.subset
  rcases Arguments.parse_eq_ok_iff.mp harguments with
    ⟨delimiter, content, opening, closing, htokens, rfl, -⟩ | ⟨-, hvalue⟩
  · exact hreach (by simp [htokens])
  · obtain ⟨follows, c₁, htest, hvalue⟩ := Parser.bind_eq_ok_iff.mp hvalue
    obtain ⟨-, rfl⟩ := Parser.test_eq_ok_iff.mp htest
    cases follows with
    | false =>
        obtain ⟨rfl, -⟩ := Parser.pure_eq_ok_iff.mp hvalue
        trivial
    | true =>
        obtain ⟨taken, c₂, hequals, hvalue⟩ := Parser.bind_eq_ok_iff.mp hvalue
        obtain ⟨tokens, c₃, -, hpure⟩ := Parser.bind_eq_ok_iff.mp hvalue
        obtain ⟨rfl, -⟩ := Parser.pure_eq_ok_iff.mp hpure
        obtain ⟨spacing, equals, rest, htokens, rfl, -⟩ :=
          (Terminal.read_symbol_eq_ok_iff (x := '=') rfl).mp hequals
        exact ⟨spacing, hreach (by simp [htokens, Token.spanAll, Token.span, Span.join])⟩

/-- The path of an attribute runs over tokens in its brackets. -/
theorem Attribute.runs_path
    {c d : Cursor}
    {path : List Token}
    {arguments : Arguments}
    (hlaid : Lexeme.Laid (Token.leavesAll c.tokens))
    (h : parseContent c = .ok ((path, arguments), d)) :
    (Token.spanAll path).Runs (Token.places c.tokens) := by
  obtain ⟨path', c', hpath, h⟩ := Parser.bind_eq_ok_iff.mp h
  obtain ⟨arguments', c'', -, h⟩ := Parser.bind_eq_ok_iff.mp h
  obtain ⟨heq, -⟩ := Parser.pure_eq_ok_iff.mp h
  obtain ⟨rfl, -⟩ := Prod.mk.inj heq
  exact Rule.runs_of_parse AttributeRule.opens_path AttributeRule.closes_path hlaid hpath

/-- An error of options runs over tokens in the brackets of their attribute. -/
theorem Context.runs_of_settingsOf_eq_error
    {a : Attribute}
    {c d : Cursor}
    (hlaid : Lexeme.Laid (Token.leavesAll c.tokens))
    (hcontent : Attribute.parseContent c = .ok ((a.path, a.arguments), d))
    {e : SyntaxError}
    (h : settingsOf a = .error e) :
    e.span.Runs (Token.places c.tokens) := by
  have harguments := Attribute.standIn_of_parseContent hcontent
  unfold settingsOf at h
  split at h
  · obtain rfl := Except.error.inj h
    exact Attribute.runs_path hlaid hcontent
  · rename_i equals tokens heq
    obtain rfl := Except.error.inj h
    rw [heq] at harguments
    obtain ⟨spacing, hmem⟩ := harguments
    exact hlaid.spans_ordered.runs_of_mem
      ((Token.leaves_sublist_of_mem hmem).map _ |>.subset (by simp [Token.leaves]))
  · rename_i delimiter content opening closing heq
    rw [heq] at harguments
    have hinner := Cursor.laid_inner hlaid harguments none
    exact (Setting.blames_parseAll.runs_of_parseAll Setting.steady_parseAll hinner h).mono
      (Cursor.spans_inner_subset harguments none)

end Attributes

end Caseless
