import Caseless.Proofs.Reading

/-!
# The grammar of options

The content of an attribute that sets options is empty or a list of options with commas between
them, and perhaps one more comma behind the last.  An option is the lone word `all_cases`, or the
word `crate` with an equals sign and a path behind it, where the path is as long as the reader of
paths takes it.

The relations `Setting.Stands` and `Setting.Listed` give this grammar.  Reading an attribute
succeeds exactly on the grammar (`settingsOf_eq_ok_iff`), and the options of a declaration are told
by the list of all options in order: the last path counts, and the order of the rest does not.
-/

namespace Caseless

section Grammar

/-- A path stands at the front of some tokens and others are left behind it; nothing may be left
over in a group of the path. -/
def PathStands (tokens path rest : List Token) : Prop :=
  (Phrase.path .type).parse ⟨tokens, Span.unplaced, none⟩ =
    .ok (path, ⟨rest, Span.unplaced, none⟩)

namespace Setting

/-- An option stands at the front of some tokens and others are left behind it. -/
inductive Stands : List Token → Setting → List Token → Prop
  | allCases
      (word : Span)
      (rest : List Token) :
      Stands (.ident (.plain "all_cases") word :: rest) .allCases rest
  | root
      (word equals : Span)
      (spacing : Spacing)
      {tokens path rest : List Token}
      (hpath : PathStands tokens path rest) :
      Stands
        (.ident (.plain "crate") word :: .punct '=' spacing equals :: tokens)
        (.root (Token.lexemesAll path)) rest

/-- Some tokens are a list of options, with a comma behind each but the last and perhaps one
behind the last. -/
inductive Listed : List Token → List Setting → Prop
  | nil :
      Listed [] []
  | last
      {tokens : List Token}
      {setting : Setting}
      (hfirst : Stands tokens setting []) :
      Listed tokens [setting]
  | cons
      {tokens rest : List Token}
      {setting : Setting}
      {settings : List Setting}
      (spacing : Spacing)
      (comma : Span)
      (hfirst : Stands tokens setting (.punct ',' spacing comma :: rest))
      (hrest : Listed rest settings) :
      Listed tokens (setting :: settings)

end Setting

namespace Attribute

/-- An attribute sets some options if it has a group, with whatever delimiters, in which exactly
these options are listed. -/
def Sets (a : Attribute) (settings : List Setting) : Prop :=
  ∃ delimiter content opening closing,
    a.arguments = .group delimiter content opening closing ∧ Setting.Listed content settings

end Attribute

end Grammar

section Pieces

/-- Some tokens are an option wherever they stand at the end or in front of a comma. -/
def Setting.WrittenAs (setting : Setting) (piece : List Token) : Prop :=
  ∀ rest,
    (rest = [] ∨ ∃ spacing comma others, rest = .punct ',' spacing comma :: others) →
      Stands (piece ++ rest) setting rest

/-- Some tokens are pieces with a comma behind each but the last, and perhaps one behind the
last. -/
inductive Punctuated : List Token → List (List Token) → Prop
  | nil :
      Punctuated [] []
  | last
      (piece : List Token) :
      Punctuated piece [piece]
  | cons
      (piece : List Token)
      (spacing : Spacing)
      (comma : Span)
      {rest : List Token}
      {pieces : List (List Token)}
      (hrest : Punctuated rest pieces) :
      Punctuated (piece ++ .punct ',' spacing comma :: rest) (piece :: pieces)

/-- An attribute holds some pieces if they stand punctuated in its group. -/
def Attribute.Holds (a : Attribute) (pieces : List (List Token)) : Prop :=
  ∃ delimiter content opening closing,
    a.arguments = .group delimiter content opening closing ∧ Punctuated content pieces

/-- Punctuated pieces that are options are a list of these options. -/
theorem Punctuated.listed
    {meaning : List Token → Setting}
    {content : List Token}
    {pieces : List (List Token)}
    (h : Punctuated content pieces)
    (hwritten : ∀ piece ∈ pieces, (meaning piece).WrittenAs piece) :
    Setting.Listed content (pieces.map meaning) := by
  induction h with
  | nil =>
      exact Setting.Listed.nil
  | last piece =>
      have hpiece := hwritten piece (List.mem_singleton_self piece) [] (Or.inl rfl)
      rw [List.append_nil] at hpiece
      exact Setting.Listed.last hpiece
  | @cons piece spacing comma rest pieces hrest ih =>
      have hpiece :=
        hwritten piece List.mem_cons_self (.punct ',' spacing comma :: rest)
          (Or.inr ⟨spacing, comma, rest, rfl⟩)
      have hothers := ih fun other hother => hwritten other (List.mem_cons_of_mem piece hother)
      exact Setting.Listed.cons spacing comma hpiece hothers

/-- Attributes that hold pieces which are options set these options. -/
theorem Attribute.forall₂_sets_of_holds
    {meaning : List Token → Setting}
    {attributes : List Attribute}
    {pieces : List (List (List Token))}
    (h : List.Forall₂ Attribute.Holds attributes pieces)
    (hwritten : ∀ piece ∈ pieces.flatten, (meaning piece).WrittenAs piece) :
    List.Forall₂ Attribute.Sets attributes (pieces.map (·.map meaning)) := by
  induction h with
  | nil =>
      exact List.Forall₂.nil
  | @cons a first attributes pieces hfirst hrest ih =>
      obtain ⟨delimiter, content, opening, closing, harguments, hcontent⟩ := hfirst
      simp only [List.flatten_cons, List.mem_append] at hwritten
      have hlisted := hcontent.listed fun piece hpiece => hwritten piece (Or.inl hpiece)
      refine List.Forall₂.cons ⟨delimiter, content, opening, closing, harguments, hlisted⟩ ?_
      exact ih fun piece hpiece => hwritten piece (Or.inr hpiece)

end Pieces

section Keys

theorem Token.takeSymbol_singleton_eq_some_iff
    {x : Char}
    {tokens taken rest : List Token} :
    takeSymbol [x] tokens = some (taken, rest)
      ↔
    ∃ spacing span,
      tokens = .punct x spacing span :: rest ∧ taken = [.punct x .alone span] := by
  constructor
  · intro h
    unfold takeSymbol at h
    split at h
    · rename_i x' d spacing span tail heq
      obtain rfl : x = x' := by simpa using heq
      split at h
      · rename_i hchar
        obtain ⟨rfl, rfl⟩ : [.punct x .alone span] = taken ∧ tail = rest := by simpa using h
        exact ⟨spacing, span, by rw [hchar], rfl⟩
      · cases h
    · rename_i heq
      simp at heq
    · cases h
  · rintro ⟨spacing, span, rfl, rfl⟩
    simp [takeSymbol]

/-- Reading a symbol of one character takes that character, whatever its spacing. -/
theorem Terminal.read_symbol_eq_ok_iff
    {c d : Cursor}
    {x : Char}
    {text : String}
    (htext : text.toList = [x])
    {taken : List Token} :
    (Terminal.symbol text).read c = .ok (taken, d)
      ↔
    ∃ spacing span rest,
      c.tokens = .punct x spacing span :: rest ∧
      taken = [.punct x .alone span] ∧
      d = { c with tokens := rest } := by
  unfold Terminal.read
  rw [Parser.takeOr_eq_ok_iff]
  simp only [Terminal.take, htext, Token.takeSymbol_singleton_eq_some_iff]
  constructor
  · rintro ⟨rest, ⟨spacing, span, htokens, htaken⟩, hd⟩
    exact ⟨spacing, span, rest, htokens, htaken, hd⟩
  · rintro ⟨spacing, span, rest, htokens, htaken, hd⟩
    exact ⟨rest, ⟨spacing, span, htokens, htaken⟩, hd⟩

namespace OptionKey

theorem word_eq_ok_iff
    {complaint : Complaint}
    {c d : Cursor}
    {token : Token} :
    word complaint c = .ok (token, d)
      ↔
    ∃ i span rest,
      c.tokens = .ident i span :: rest ∧
      token = .ident i span ∧
      d = { c with tokens := rest } := by
  unfold word
  rw [Parser.takeOr_eq_ok_iff]
  constructor
  · rintro ⟨rest, htake, hd⟩
    split at htake
    · rename_i i span tail htokens
      obtain ⟨rfl, rfl⟩ : .ident i span = token ∧ tail = rest := by simpa using htake
      exact ⟨i, span, tail, htokens, rfl, hd⟩
    · cases htake
  · rintro ⟨i, span, rest, htokens, rfl, hd⟩
    exact ⟨rest, by rw [htokens], hd⟩

/-- Without a double colon in front, an optional one reads nothing. -/
theorem parse_optionalSymbol_of_not_holds
    {text : String}
    {c : Cursor}
    (h : (Lookahead.symbol text).holds c.tokens = false) :
    (Rule.optionalSymbol text).parse c = .ok ([], c) := by
  rw [Rule.parse_eq_ok_iff]
  refine ⟨⟨.plain, []⟩, ?_, rfl⟩
  unfold Rule.optionalSymbol Rule.optional
  rw [Rule.follow, Parser.bind_eq_ok_iff]
  refine ⟨false, c, Parser.test_eq_ok_iff.mpr ⟨h, rfl⟩, ?_⟩
  rfl

/-- No further name is read where no double colon stands. -/
theorem otherStep_of_not_holds
    {c : Cursor}
    (h : (Lookahead.symbol "::").holds c.tokens = false) :
    otherStep c = .ok (.done, c) := by
  unfold otherStep
  rw [Parser.bind_eq_ok_iff]
  exact ⟨false, c, Parser.test_eq_ok_iff.mpr ⟨h, rfl⟩, rfl⟩

/-- A step that ends the names has moved nothing. -/
theorem eq_of_otherStep_eq_done
    {c d : Cursor}
    (h : otherStep c = .ok (.done, d)) :
    d = c := by
  unfold otherStep at h
  obtain ⟨b, c', htest, hrest⟩ := Parser.bind_eq_ok_iff.mp h
  obtain ⟨-, rfl⟩ := Parser.test_eq_ok_iff.mp htest
  cases b with
  | true =>
      obtain ⟨_, _, _, hword⟩ := Parser.bind_eq_ok_iff.mp hrest
      obtain ⟨_, _, _, hpure⟩ := Parser.bind_eq_ok_iff.mp hword
      simp [Parser.pure_eq_ok_iff] at hpure
  | false =>
      exact (Parser.pure_eq_ok_iff.mp hrest).2.symm

/-- A word with no double colon behind it is a key of its own. -/
theorem parse_ident
    {i : Ident}
    {span close : Span}
    {rest : List Token}
    {leftOver : Option SyntaxError}
    (hrest : (Lookahead.symbol "::").holds rest = false) :
    parse ⟨.ident i span :: rest, close, leftOver⟩ =
      .ok (⟨false, .ident i span, []⟩, ⟨rest, close, leftOver⟩) := by
  have hfront : (Lookahead.symbol "::").holds (.ident i span :: rest) = false := by
    simp [Lookahead.holds, Token.takeSymbol]
  unfold parse
  simp only [Parser.bind_eq_ok_iff]
  refine
    ⟨false, _, Parser.test_eq_ok_iff.mpr ⟨hfront, rfl⟩, [], _,
      parse_optionalSymbol_of_not_holds hfront, .ident i span, ⟨rest, close, leftOver⟩,
      word_eq_ok_iff.mpr ⟨i, span, rest, rfl, rfl, rfl⟩, [], ⟨rest, close, leftOver⟩, ?_, rfl⟩
  unfold Parser.repeatSteps Parser.repeatUpTo
  rw [Parser.bind_eq_ok_iff]
  exact ⟨.done, _, otherStep_of_not_holds hrest, rfl⟩

theorem steady_word
    (complaint : List Token → Complaint) :
    Parser.Steady fun c => word (complaint c.tokens) c := by
  apply Parser.steady_takeOr
  intro tokens token rest h
  split at h
  · obtain ⟨-, rfl⟩ := (by simpa using h : _ = token ∧ _ = rest)
    exact List.suffix_cons _ _
  · cases h

theorem steady_otherStep :
    Parser.Steady otherStep := by
  apply Parser.steady_bind (Parser.steady_test _)
  intro follows
  apply Parser.steady_ite _ (Parser.steady_pure _)
  apply Parser.steady_bind (Terminal.steady_read _)
  intro colons
  apply Parser.steady_bind (steady_word fun _ => .wanted "ident")
  intro token
  exact Parser.steady_pure _

theorem steady_parse :
    Parser.Steady parse := by
  apply Parser.steady_bind (Parser.steady_test _)
  intro rooted
  apply Parser.steady_bind (Rule.steady_parse _)
  intro colons
  apply Parser.steady_bind (steady_word firstComplaint)
  intro first
  apply Parser.steady_bind (Parser.steady_repeatSteps steady_otherStep)
  intro others
  exact Parser.steady_pure _

/-- If no further names were read, the cursor has not moved. -/
theorem eq_of_repeatSteps_otherStep_eq_nil
    {c d : Cursor}
    (h : Parser.repeatSteps otherStep c = .ok ([], d)) :
    d = c := by
  unfold Parser.repeatSteps Parser.repeatUpTo at h
  obtain ⟨step, c', hstep, hrest⟩ := Parser.bind_eq_ok_iff.mp h
  cases step with
  | again value =>
      obtain ⟨_, _, _, hpure⟩ := Parser.bind_eq_ok_iff.mp hrest
      simp [Parser.pure_eq_ok_iff] at hpure
  | last value =>
      simp [Parser.pure_eq_ok_iff] at hrest
  | done =>
      obtain ⟨-, rfl⟩ := Parser.pure_eq_ok_iff.mp hrest
      exact eq_of_otherStep_eq_done hstep

theorem isWord_eq_true_iff
    {key : OptionKey}
    {w : String} :
    key.isWord w = true ↔ ∃ span, key = ⟨false, .ident (.plain w) span, []⟩ := by
  constructor
  · intro h
    unfold isWord at h
    split at h
    · rename_i i span
      obtain ⟨hraw, hname⟩ : i.raw = false ∧ i.name = w := by
        simpa [Ident.isWord] using h
      obtain ⟨name, raw⟩ := i
      obtain rfl : raw = false := hraw
      obtain rfl : name = w := hname
      exact ⟨span, rfl⟩
    · cases h
  · rintro ⟨span, rfl⟩
    simp [isWord, Ident.isWord, Ident.plain]

/-- A key that is one word was written as that word alone. -/
theorem tokens_of_parse_isWord
    {c d : Cursor}
    {key : OptionKey}
    {w : String}
    (h : parse c = .ok (key, d))
    (hword : key.isWord w = true) :
    ∃ span,
      c.tokens = .ident (.plain w) span :: d.tokens ∧
      d = { c with tokens := d.tokens } := by
  obtain ⟨span, rfl⟩ := isWord_eq_true_iff.mp hword
  unfold parse at h
  simp only [Parser.bind_eq_ok_iff, Parser.pure_eq_ok_iff, Parser.test_eq_ok_iff] at h
  obtain ⟨rooted, c₁, ⟨hrooted, rfl⟩, taken, c₂, hsymbol, first, c₃, hfirst, others, c₄, hothers,
    hkey, rfl⟩ := h
  obtain ⟨rfl, rfl, rfl⟩ :
      rooted = false ∧ first = .ident (.plain w) span ∧ others = [] := by
    simpa using hkey
  rw [parse_optionalSymbol_of_not_holds hrooted] at hsymbol
  obtain ⟨-, rfl⟩ : [] = taken ∧ c = c₂ := by simpa using hsymbol
  obtain ⟨i, span', rest, htokens, htoken, rfl⟩ := word_eq_ok_iff.mp hfirst
  obtain rfl := eq_of_repeatSteps_otherStep_eq_nil hothers
  obtain ⟨rfl, rfl⟩ : .plain w = i ∧ span = span' := by simpa using htoken
  exact ⟨span, htokens, rfl⟩

end OptionKey

end Keys

section Reading

namespace Setting

theorem steady_parseValue
    (key : OptionKey) :
    Parser.Steady (parseValue key) := by
  unfold parseValue
  apply Parser.steady_ite (Parser.steady_pure _)
  apply Parser.steady_ite _ (Parser.steady_throw _)
  apply Parser.steady_bind (Terminal.steady_read _)
  intro equals
  apply Parser.steady_bind (Phrase.steady_parse _)
  intro path
  exact Parser.steady_pure _

theorem steady_parse :
    Parser.Steady parse := by
  apply Parser.steady_bind OptionKey.steady_parse
  intro key
  exact steady_parseValue key

/-- The path behind an equals sign does not depend on the place that stands for its end. -/
theorem pathStands_iff
    {tokens path rest : List Token}
    (close : Span) :
    PathStands tokens path rest
      ↔
    (Phrase.path .type).parse ⟨tokens, close, none⟩ = .ok (path, ⟨rest, close, none⟩) := by
  constructor
  · intro h
    exact (Phrase.steady_parse _ _ _ _ h).2 close
  · intro h
    exact (Phrase.steady_parse _ _ _ _ h).2 Span.unplaced

/-- A path that leaves nothing over stands where it was read. -/
theorem pathStands_of_parse
    {c d : Cursor}
    {path : List Token}
    (h : (Phrase.path .type).parse c = .ok (path, d))
    (hd : d.leftOver = none) :
    PathStands c.tokens path d.tokens := by
  have hreach := (Phrase.steady_parse _ _ _ _ h).1
  have hc : c = ⟨c.tokens, c.close, none⟩ := by
    rw [← hreach.leftOver_eq_none hd]
  have hd' : d = ⟨d.tokens, c.close, none⟩ := by
    rw [← hd, ← hreach.close]
  rw [hc, hd'] at h
  exact (pathStands_iff c.close).mpr h

/-- What is read as an option is one. -/
theorem stands_of_parse
    {c d : Cursor}
    {setting : Setting}
    (h : parse c = .ok (setting, d))
    (hd : d.leftOver = none) :
    Stands c.tokens setting d.tokens := by
  unfold parse at h
  obtain ⟨key, c₁, hkey, hvalue⟩ := Parser.bind_eq_ok_iff.mp h
  unfold parseValue at hvalue
  cases hall : key.isWord "all_cases" with
  | true =>
      simp only [hall, if_true, Parser.pure_eq_ok_iff] at hvalue
      obtain ⟨rfl, rfl⟩ := hvalue
      obtain ⟨span, htokens, -⟩ := OptionKey.tokens_of_parse_isWord hkey hall
      rw [htokens]
      exact Stands.allCases span c₁.tokens
  | false =>
      cases hcrate : key.isWord "crate" with
      | true =>
          simp only [hall, hcrate, Bool.false_eq_true, if_false, if_true,
            Parser.bind_eq_ok_iff, Parser.pure_eq_ok_iff] at hvalue
          obtain ⟨taken, c₂, hequals, path, c₃, hparse, rfl, rfl⟩ := hvalue
          obtain ⟨span, htokens, -⟩ := OptionKey.tokens_of_parse_isWord hkey hcrate
          obtain ⟨spacing, equals, rest, hrest, -, rfl⟩ :=
            (Terminal.read_symbol_eq_ok_iff (x := '=') rfl).mp hequals
          have hpath := pathStands_of_parse hparse hd
          rw [htokens, hrest]
          exact Stands.root span equals spacing hpath
      | false =>
          simp only [hall, hcrate, Bool.false_eq_true, if_false] at hvalue
          cases hvalue

theorem not_isWord_of_ne
    {w w' : String}
    {span : Span}
    (h : w ≠ w') :
    OptionKey.isWord ⟨false, .ident (.plain w) span, []⟩ w' = false := by
  simp [OptionKey.isWord, Ident.isWord, Ident.plain, h]

/-- An option is read wherever one stands with no double colon behind it. -/
theorem parse_of_stands
    {tokens rest : List Token}
    {setting : Setting}
    (h : Stands tokens setting rest)
    (hrest : (Lookahead.symbol "::").holds rest = false)
    (close : Span) :
    parse ⟨tokens, close, none⟩ = .ok (setting, ⟨rest, close, none⟩) := by
  unfold parse
  rw [Parser.bind_eq_ok_iff]
  cases h with
  | allCases word =>
      refine ⟨_, _, OptionKey.parse_ident hrest, ?_⟩
      unfold parseValue
      rw [OptionKey.isWord_eq_true_iff.mpr ⟨word, rfl⟩]
      rfl
  | @root word equals spacing tokens path _ hpath =>
      have hequals :
          (Lookahead.symbol "::").holds (.punct '=' spacing equals :: tokens) = false := by
        cases spacing <;> simp [Lookahead.holds, Token.takeSymbol]
      refine ⟨_, _, OptionKey.parse_ident hequals, ?_⟩
      unfold parseValue
      rw [not_isWord_of_ne (by decide), OptionKey.isWord_eq_true_iff.mpr ⟨word, rfl⟩]
      simp only [Bool.false_eq_true, if_false, if_true, Parser.bind_eq_ok_iff]
      refine
        ⟨[.punct '=' .alone equals], ⟨tokens, close, none⟩, ?_, path, _,
          (pathStands_iff close).mp hpath, rfl⟩
      exact (Terminal.read_symbol_eq_ok_iff rfl).mpr ⟨spacing, equals, tokens, rfl, rfl, rfl⟩

/-- A step reads nothing at the end, the last option, or an option with a comma behind it. -/
theorem parseStep_cases
    {c d : Cursor}
    {step : Parser.Step Setting}
    (h : parseStep c = .ok (step, d)) :
    (c.tokens = [] ∧ step = .done ∧ d = c)
      ∨
    (∃ setting,
      parse c = .ok (setting, d) ∧ d.tokens = [] ∧ step = .last setting)
      ∨
    (∃ setting c' spacing comma rest,
      parse c = .ok (setting, c') ∧
      c'.tokens = .punct ',' spacing comma :: rest ∧
      step = .again setting ∧
      d = { c' with tokens := rest }) := by
  unfold parseStep at h
  obtain ⟨b, c₀, htest, h⟩ := Parser.bind_eq_ok_iff.mp h
  obtain ⟨hend, rfl⟩ := Parser.test_eq_ok_iff.mp htest
  cases b with
  | true =>
      obtain ⟨rfl, rfl⟩ := Parser.pure_eq_ok_iff.mp h
      exact Or.inl ⟨by simpa [Lookahead.holds] using hend, rfl, rfl⟩
  | false =>
      simp only [Bool.false_eq_true, if_false, Parser.bind_eq_ok_iff] at h
      obtain ⟨setting, c', hparse, b, c₁, htest', h⟩ := h
      obtain ⟨hend', rfl⟩ := Parser.test_eq_ok_iff.mp htest'
      cases b with
      | true =>
          obtain ⟨rfl, rfl⟩ := Parser.pure_eq_ok_iff.mp h
          exact Or.inr (Or.inl ⟨setting, hparse, by simpa [Lookahead.holds] using hend', rfl⟩)
      | false =>
          simp only [Bool.false_eq_true, if_false, Parser.bind_eq_ok_iff] at h
          obtain ⟨taken, c₂, hcomma, hpure⟩ := h
          obtain ⟨rfl, rfl⟩ := Parser.pure_eq_ok_iff.mp hpure
          obtain ⟨spacing, comma, rest, htokens, -, hd⟩ :=
            (Terminal.read_symbol_eq_ok_iff (x := ',') rfl).mp hcomma
          exact Or.inr (Or.inr ⟨setting, c', spacing, comma, rest, hparse, htokens, rfl, hd⟩)

theorem steady_parseStep :
    Parser.Steady parseStep := by
  apply Parser.steady_bind (Parser.steady_test _)
  intro finished
  apply Parser.steady_ite (Parser.steady_pure _)
  apply Parser.steady_bind steady_parse
  intro setting
  apply Parser.steady_bind (Parser.steady_test _)
  intro finished
  apply Parser.steady_ite (Parser.steady_pure _)
  apply Parser.steady_bind (Terminal.steady_read _)
  intro comma
  exact Parser.steady_pure _

/-- What is read as a list of options is one. -/
theorem listed_of_repeatUpTo
    {n : Nat}
    {c d : Cursor}
    {settings : List Setting}
    (h : Parser.repeatUpTo parseStep n c = .ok (settings, d))
    (hd : d.leftOver = none) :
    Listed c.tokens settings ∧ d.tokens = [] := by
  induction n generalizing c settings with
  | zero =>
      cases h
  | succ n ih =>
      obtain ⟨step, c', hstep, hgo⟩ := Parser.bind_eq_ok_iff.mp h
      clear h
      rcases parseStep_cases hstep with
        ⟨htokens, rfl, rfl⟩ | ⟨setting, hparse, htokens, rfl⟩ |
        ⟨setting, c₁, spacing, comma, rest, hparse, htokens, rfl, rfl⟩
      · obtain ⟨rfl, rfl⟩ := Parser.pure_eq_ok_iff.mp hgo
        rw [htokens]
        exact ⟨Listed.nil, rfl⟩
      · obtain ⟨rfl, rfl⟩ := Parser.pure_eq_ok_iff.mp hgo
        have hfirst := stands_of_parse hparse hd
        rw [htokens] at hfirst
        exact ⟨Listed.last hfirst, htokens⟩
      · obtain ⟨others, d', hothers, hpure⟩ := Parser.bind_eq_ok_iff.mp hgo
        obtain ⟨rfl, rfl⟩ := Parser.pure_eq_ok_iff.mp hpure
        obtain ⟨hrest, hend⟩ := ih hothers
        have hreach := (Parser.steady_repeatUpTo steady_parseStep n _ _ _ hothers).1
        have hfirst := stands_of_parse hparse (hreach.leftOver_eq_none hd)
        rw [htokens] at hfirst
        exact ⟨Listed.cons spacing comma hfirst hrest, hend⟩

/-- An option takes at least one token. -/
theorem Stands.length_lt
    {tokens rest : List Token}
    {setting : Setting}
    (h : Stands tokens setting rest) :
    rest.length < tokens.length := by
  cases h with
  | allCases word =>
      simp
  | @root word equals spacing tokens path _ hpath =>
      have hsuffix : rest <:+ tokens := (Phrase.steady_parse _ _ _ _ hpath).1.tokens
      have hle := hsuffix.length_le
      simp only [List.length_cons]
      omega

theorem Stands.not_finished
    {tokens rest : List Token}
    {setting : Setting}
    (h : Stands tokens setting rest) :
    Lookahead.finished.holds tokens = false := by
  cases h with
  | allCases word =>
      rfl
  | root word equals spacing hpath =>
      rfl

theorem parseStep_last
    {tokens : List Token}
    {setting : Setting}
    (h : Stands tokens setting [])
    (close : Span) :
    parseStep ⟨tokens, close, none⟩ = .ok (.last setting, ⟨[], close, none⟩) := by
  refine Parser.bind_eq_ok_iff.mpr
    ⟨false, _, Parser.test_eq_ok_iff.mpr ⟨h.not_finished, rfl⟩, ?_⟩
  exact Parser.bind_eq_ok_iff.mpr ⟨setting, _, parse_of_stands h (by rfl) close, rfl⟩

theorem parseStep_again
    {tokens rest : List Token}
    {setting : Setting}
    {spacing : Spacing}
    {comma : Span}
    (h : Stands tokens setting (.punct ',' spacing comma :: rest))
    (close : Span) :
    parseStep ⟨tokens, close, none⟩ = .ok (.again setting, ⟨rest, close, none⟩) := by
  have hcolon :
      (Lookahead.symbol "::").holds (.punct ',' spacing comma :: rest) = false := by
    cases spacing <;> simp [Lookahead.holds, Token.takeSymbol]
  refine Parser.bind_eq_ok_iff.mpr
    ⟨false, _, Parser.test_eq_ok_iff.mpr ⟨h.not_finished, rfl⟩, ?_⟩
  refine Parser.bind_eq_ok_iff.mpr ⟨setting, _, parse_of_stands h hcolon close, ?_⟩
  refine Parser.bind_eq_ok_iff.mpr ⟨false, _, Parser.test_eq_ok_iff.mpr ⟨rfl, rfl⟩, ?_⟩
  refine Parser.bind_eq_ok_iff.mpr ⟨[.punct ',' .alone comma], ⟨rest, close, none⟩, ?_, rfl⟩
  exact (Terminal.read_symbol_eq_ok_iff rfl).mpr ⟨spacing, comma, rest, rfl, rfl, rfl⟩

/-- A list of options is read in as many steps as it has tokens, and one more. -/
theorem repeatUpTo_of_listed
    {tokens : List Token}
    {settings : List Setting}
    (h : Listed tokens settings)
    {n : Nat}
    (hn : tokens.length ≤ n)
    (close : Span) :
    Parser.repeatUpTo parseStep (n + 1) ⟨tokens, close, none⟩ =
      .ok (settings, ⟨[], close, none⟩) := by
  induction h generalizing n with
  | nil =>
      exact Parser.repeatUpTo_of_done rfl n
  | last hfirst =>
      exact Parser.repeatUpTo_of_last (parseStep_last hfirst close) n
  | @cons tokens rest setting settings spacing comma hfirst hrest ih =>
      have hlt := hfirst.length_lt
      rw [List.length_cons] at hlt
      obtain ⟨m, rfl⟩ : ∃ m, n = m + 1 := ⟨n - 1, by omega⟩
      exact Parser.repeatUpTo_of_again (parseStep_again hfirst close) (ih (by omega))

/-- All of some tokens are read as options exactly if options are listed in them. -/
theorem parseAll_eq_ok_iff
    (tokens : List Token)
    (close : Span)
    (settings : List Setting) :
    Parser.parseAll parseAll tokens close = .ok settings ↔ Listed tokens settings := by
  rw [Parser.parseAll_eq_ok_iff]
  constructor
  · rintro ⟨d, hrun, -, hleft⟩
    exact (listed_of_repeatUpTo hrun hleft).1
  · intro h
    exact ⟨_, repeatUpTo_of_listed h (Nat.le_refl _) close, rfl, rfl⟩

end Setting

/-- Reading the options of an attribute succeeds exactly on the grammar. -/
theorem Context.settingsOf_eq_ok_iff
    (a : Attribute)
    (settings : List Setting) :
    Context.settingsOf a = .ok settings ↔ a.Sets settings := by
  unfold Context.settingsOf Attribute.Sets
  cases a.arguments with
  | absent =>
      simp
  | value equals tokens =>
      simp
  | group delimiter content opening closing =>
      rw [Setting.parseAll_eq_ok_iff]
      simp

end Reading

section Merging

theorem Token.length_lexemes_pos
    (token : Token) :
    0 < token.lexemes.length := by
  cases token <;> simp [lexemes]

/-- Some tokens are printed as one identifier exactly if they are this identifier: every token has a
lexeme, so two tokens have more than one. -/
theorem Token.lexemesAll_eq_ident_iff
    {tokens : List Token}
    {i : Ident} :
    lexemesAll tokens = [.ident i] ↔ ∃ span, tokens = [.ident i span] := by
  constructor
  · intro h
    rcases tokens with _ | ⟨token, tokens⟩
    · simp [lexemesAll] at h
    · rw [lexemesAll] at h
      rcases tokens with _ | ⟨other, tokens⟩
      · cases token with
        | ident j span =>
            obtain rfl : j = i := by simpa [lexemes, lexemesAll] using h
            exact ⟨span, rfl⟩
        | punct c spacing span =>
            simp [lexemes, lexemesAll] at h
        | literal text span =>
            simp [lexemes, lexemesAll] at h
        | group delimiter content opening closing =>
            simp [lexemes, lexemesAll] at h
      · have hlength := congrArg List.length h
        have hfirst := token.length_lexemes_pos
        have hother := other.length_lexemes_pos
        simp only [lexemesAll, List.length_append, List.length_singleton] at hlength
        omega
  · rintro ⟨span, rfl⟩
    simp [lexemesAll, lexemes]

namespace Setting

/-- The path that an option sets, if it sets one. -/
def path? : Setting → Option (List Lexeme)
  | .allCases => none
  | .root path => some path

/-- Two lists of options say the same: they set the same paths in the same order, and both or none
of them ask for the search through all cases. -/
def SameOptions (settings others : List Setting) : Prop :=
  settings.filterMap path? = others.filterMap path? ∧
    (Setting.allCases ∈ settings ↔ Setting.allCases ∈ others)

end Setting

namespace Context

/-- The strategy is a search if it was one before or some option asks for it. -/
theorem strategy_foldl_set
    (settings : List Setting)
    (context : Context) :
    (settings.foldl set context).strategy = .allCases
      ↔
    context.strategy = .allCases ∨ Setting.allCases ∈ settings := by
  induction settings generalizing context with
  | nil =>
      simp
  | cons setting settings ih =>
      rw [List.foldl_cons, ih]
      cases setting with
      | allCases =>
          simp [set]
      | root path =>
          simp [set]

/-- The path under which the traits are found is the last one that is set. -/
theorem root_foldl_set
    (settings : List Setting)
    (context : Context) :
    (settings.foldl set context).root =
      (settings.filterMap Setting.path?).getLast?.getD context.root := by
  induction settings generalizing context with
  | nil =>
      rfl
  | cons setting settings ih =>
      rw [List.foldl_cons, ih]
      cases setting with
      | allCases =>
          simp [set, Setting.path?]
      | root path =>
          simp [set, Setting.path?, List.getLast?_cons]

/-- Options that say the same make up the same context. -/
theorem foldl_set_congr
    {settings others : List Setting}
    (h : Setting.SameOptions settings others)
    (context : Context) :
    settings.foldl set context = others.foldl set context := by
  have hroot :
      (settings.foldl set context).root = (others.foldl set context).root := by
    rw [root_foldl_set, root_foldl_set, h.1]
  have hsearch :
      (settings.foldl set context).strategy = .allCases
        ↔
      (others.foldl set context).strategy = .allCases := by
    rw [strategy_foldl_set, strategy_foldl_set, h.2]
  have hstrategy :
      (settings.foldl set context).strategy = (others.foldl set context).strategy := by
    cases hs : (settings.foldl set context).strategy with
    | allCases =>
        exact (hsearch.mp hs).symm
    | branchTable =>
        cases ho : (others.foldl set context).strategy with
        | allCases =>
            rw [hsearch.mpr ho] at hs
            cases hs
        | branchTable =>
            rfl
  cases hs : settings.foldl set context with
  | mk strategy root =>
      cases ho : others.foldl set context with
      | mk strategy' root' =>
          rw [hs, ho] at hroot hstrategy
          obtain rfl : root = root' := hroot
          obtain rfl : strategy = strategy' := hstrategy
          rfl

/-- The attributes of a declaration that set options. -/
def optionAttributes (attributes : List Attribute) : List Attribute :=
  attributes.filter (·.isNamed attributeName)

/-- The options of a declaration are those of its attributes, one list after the other. -/
theorem ofAttributes_of_sets
    {attributes : List Attribute}
    {lists : List (List Setting)}
    (h : List.Forall₂ Attribute.Sets (optionAttributes attributes) lists) :
    ofAttributes attributes = .ok (lists.flatten.foldl set default) := by
  refine (ofAttributes_eq_ok_iff attributes _).mpr ⟨lists.flatten, ?_, rfl⟩
  refine (settingsOfAll_eq_ok_iff _ _).mpr ⟨lists, ?_, rfl⟩
  apply h.imp
  intro a settings ha
  exact (settingsOf_eq_ok_iff a settings).mpr ha

end Context

namespace Attribute

/-- An attribute with other delimiters around its arguments. -/
def withDelimiter (delimiter : Delimiter) (a : Attribute) : Attribute :=
  match a.arguments with
  | .group _ content opening closing =>
      { a with arguments := .group delimiter content opening closing }
  | _ => a

theorem isNamed_withDelimiter
    (delimiter : Delimiter)
    (a : Attribute)
    (name : String) :
    (a.withDelimiter delimiter).isNamed name = a.isNamed name := by
  unfold withDelimiter
  cases a.arguments with
  | absent =>
      rfl
  | value equals tokens =>
      rfl
  | group d content opening closing =>
      rfl

theorem settingsOf_withDelimiter
    (delimiter : Delimiter)
    (a : Attribute) :
    Context.settingsOf (a.withDelimiter delimiter) = Context.settingsOf a := by
  unfold withDelimiter
  cases harguments : a.arguments with
  | absent =>
      rfl
  | value equals tokens =>
      rfl
  | group d content opening closing =>
      simp [Context.settingsOf, harguments]

/-- The path of an attribute is exactly the given name, without the raw mark. -/
def HasName (a : Attribute) (name : String) : Prop :=
  ∃ place, a.path = [.ident (.plain name) place]

/-- An attribute is named by a path that is one plain identifier. -/
theorem isNamed_eq_true_iff
    (a : Attribute)
    (name : String) :
    a.isNamed name = true ↔ ∃ span, a.path = [.ident (.plain name) span] := by
  rw [isNamed, decide_eq_true_iff, Token.lexemesAll_eq_ident_iff]

end Attribute

namespace Context

/-- The options of a declaration are told by the results of reading each attribute that sets
some. -/
theorem ofAttributes_congr
    {attributes others : List Attribute}
    (h : (optionAttributes attributes).map settingsOf = (optionAttributes others).map settingsOf) :
    ofAttributes attributes = ofAttributes others := by
  have hmapM (l : List Attribute) : l.mapM settingsOf = (l.map settingsOf).mapM id := by
    rw [List.mapM_map]
    rfl
  unfold optionAttributes at h
  unfold ofAttributes
  rw [settingsOfAll_eq_mapM, settingsOfAll_eq_mapM, hmapM, hmapM, h]

theorem settingsOf_map_withDelimiter
    (delimiterOf : Attribute → Delimiter)
    (attributes : List Attribute) :
    (optionAttributes (attributes.map fun a => a.withDelimiter (delimiterOf a))).map settingsOf =
      (optionAttributes attributes).map settingsOf := by
  unfold optionAttributes
  rw [List.filter_map, List.map_map]
  have hnamed :
      ((·.isNamed attributeName) ∘ fun a : Attribute => a.withDelimiter (delimiterOf a)) =
        (·.isNamed attributeName) := by
    funext a
    exact a.isNamed_withDelimiter (delimiterOf a) attributeName
  rw [hnamed]
  apply List.map_congr_left
  intro a _
  exact a.settingsOf_withDelimiter (delimiterOf a)

/-- Options are accepted exactly on their grammar, and those of several attributes count as one
list: its paths in order and whether it asks for the search through all cases tell the context,
however the list is spread over attributes. -/
theorem ofAttributes_reads_grammar
    (attributes : List Attribute) :
    ((∃ context, ofAttributes attributes = .ok context)
        ↔
      ∀ a ∈ attributes,
        (∃ span, a.path = [.ident (.plain "case_insensitive") span]) →
          ∃ settings, a.Sets settings) ∧
    (∀ lists : List (List Setting),
      List.Forall₂ Attribute.Sets (optionAttributes attributes) lists →
        ∃ context,
          ofAttributes attributes = .ok context ∧
          (context.strategy = .allCases ↔ ∃ settings ∈ lists, Setting.allCases ∈ settings) ∧
          context.root = (lists.flatten.filterMap Setting.path?).getLast?.getD defaultRoot) ∧
    (∀ (others : List Attribute) (lists lists' : List (List Setting)),
      List.Forall₂ Attribute.Sets (optionAttributes attributes) lists →
      List.Forall₂ Attribute.Sets (optionAttributes others) lists' →
      Setting.SameOptions lists.flatten lists'.flatten →
        ofAttributes others = ofAttributes attributes) ∧
    (∀ (meaning : List Token → Setting) (others : List Attribute)
        (pieces pieces' : List (List (List Token))),
      List.Forall₂ Attribute.Holds (optionAttributes attributes) pieces →
      List.Forall₂ Attribute.Holds (optionAttributes others) pieces' →
      (∀ piece ∈ pieces.flatten ++ pieces'.flatten, (meaning piece).WrittenAs piece) →
      Setting.SameOptions (pieces.flatten.map meaning) (pieces'.flatten.map meaning) →
        ofAttributes others = ofAttributes attributes) ∧
    (∀ delimiterOf : Attribute → Delimiter,
      ofAttributes (attributes.map fun a => a.withDelimiter (delimiterOf a)) =
        ofAttributes attributes) ∧
    (∀ others : List Attribute,
      optionAttributes others = optionAttributes attributes →
        ofAttributes others = ofAttributes attributes) := by
  have hmerge :
      ∀ (others : List Attribute) (lists lists' : List (List Setting)),
        List.Forall₂ Attribute.Sets (optionAttributes attributes) lists →
        List.Forall₂ Attribute.Sets (optionAttributes others) lists' →
        Setting.SameOptions lists.flatten lists'.flatten →
          ofAttributes others = ofAttributes attributes := by
    intro others lists lists' h h' hsame
    rw [ofAttributes_of_sets h, ofAttributes_of_sets h', foldl_set_congr hsame]
  refine ⟨?_, ?_, hmerge, ?_, ?_, ?_⟩
  · rw [exists_ofAttributes_eq_ok_iff]
    simp only [Attribute.isNamed_eq_true_iff, settingsOf_eq_ok_iff, attributeName]
  · intro lists h
    refine ⟨_, ofAttributes_of_sets h, ?_, ?_⟩
    · rw [strategy_foldl_set, List.mem_flatten]
      simp [default]
    · rw [root_foldl_set]
      rfl
  · intro meaning others pieces pieces' h h' hwritten hsame
    simp only [List.mem_append] at hwritten
    have hsets :=
      Attribute.forall₂_sets_of_holds h fun piece hpiece => hwritten piece (Or.inl hpiece)
    have hsets' :=
      Attribute.forall₂_sets_of_holds h' fun piece hpiece => hwritten piece (Or.inr hpiece)
    apply hmerge others _ _ hsets hsets'
    rwa [← List.map_flatten, ← List.map_flatten]
  · intro delimiterOf
    exact ofAttributes_congr (settingsOf_map_withDelimiter delimiterOf attributes)
  · intro others h
    exact ofAttributes_congr (by rw [h])

/-- An attribute that sets options, read from no place. -/
def unplacedAttribute (delimiter : Delimiter) (content : List Token) : Attribute where
  hash := Span.unplaced
  opening := Span.unplaced
  closing := Span.unplaced
  path := [.ident (.plain "case_insensitive") Span.unplaced]
  arguments := .group delimiter content Span.unplaced Span.unplaced

/-- The options `all_cases` and `crate = a` may stand in one attribute, or in two of them with
other delimiters, a further comma and the other order. -/
theorem ofAttributes_reads_grammar_split :
    let search : List Token := [.ident (.plain "all_cases") Span.unplaced]
    let root : List Token :=
      [.ident (.plain "crate") Span.unplaced, .punct '=' .alone Span.unplaced,
        .ident (.plain "a") Span.unplaced]
    let comma : Token := .punct ',' .alone Span.unplaced
    Setting.allCases.WrittenAs search ∧
    (Setting.root [.ident (.plain "a")]).WrittenAs root ∧
    ofAttributes
        [unplacedAttribute .bracket (root ++ [comma]), unplacedAttribute .brace search] =
      ofAttributes [unplacedAttribute .parenthesis (search ++ comma :: root)] := by
  intro search root comma
  have hsearch : Setting.allCases.WrittenAs search := by
    intro rest _
    exact Setting.Stands.allCases Span.unplaced rest
  have hroot : (Setting.root [.ident (.plain "a")]).WrittenAs root := by
    rintro rest (rfl | ⟨spacing, place, others, rfl⟩)
    · have hpath :
          PathStands [.ident (.plain "a") Span.unplaced] [.ident (.plain "a") Span.unplaced] [] := by
        rfl
      exact Setting.Stands.root _ _ _ hpath
    · have hpath :
          PathStands
            (.ident (.plain "a") Span.unplaced :: .punct ',' spacing place :: others)
            [.ident (.plain "a") Span.unplaced]
            (.punct ',' spacing place :: others) := by
        cases spacing <;> rfl
      exact Setting.Stands.root _ _ _ hpath
  refine ⟨hsearch, hroot, ?_⟩
  have hmerge :=
    (ofAttributes_reads_grammar
      [unplacedAttribute .parenthesis (search ++ comma :: root)]).2.2.2.1
  refine hmerge (fun piece => if piece.length = 1 then .allCases else .root [.ident (.plain "a")])
    _ [[search, root]] [[root], [search]] ?_ ?_ ?_ ?_
  · exact List.Forall₂.cons
      ⟨_, _, _, _, rfl, Punctuated.cons search .alone Span.unplaced (Punctuated.last root)⟩
      List.Forall₂.nil
  · exact List.Forall₂.cons
      ⟨_, _, _, _, rfl, Punctuated.cons root .alone Span.unplaced Punctuated.nil⟩
      (List.Forall₂.cons ⟨_, _, _, _, rfl, Punctuated.last search⟩ List.Forall₂.nil)
  · intro piece hpiece
    have hcases : piece = search ∨ piece = root := by
      simp at hpiece
      tauto
    rcases hcases with rfl | rfl
    · exact hsearch
    · exact hroot
  · exact ⟨rfl, by simp [search, root]⟩

end Context

end Merging

end Caseless
