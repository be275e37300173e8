import Caseless.Generated.Printer
import Caseless.Proofs.Joining

/-!
# The text of generated declarations

The printed code of a generated declaration is read back to exactly its lexemes, whatever the raw
values of its cases are: a raw value stands in a string literal and cannot end it.  For a given
target and path of the traits the text also tells the declaration.
-/

namespace Caseless

open Lexeme Template

section Soundness

/-- The parts of a target that are printed relex. -/
structure Target.Relexes (target : Target) : Prop where
  name : Lexeme.Relexes (Template.ident target.name)
  implLexemes : Lexeme.Relexes target.generics.implLexemes
  typeLexemes : Lexeme.Relexes target.generics.typeLexemes
  whereLexemes : Lexeme.Relexes target.generics.whereLexemes

/-- An implementation is sound text if what it is for and its body are. -/
theorem Target.Relexes.sound_implement
    {target : Target}
    (h : target.Relexes)
    {root body : List Lexeme}
    (hroot : Sound root)
    {trait : String}
    (htrait : (Ident.plain trait).WellFormed)
    (hbody : Sound body) :
    Sound (target.implement root trait body) := by
  unfold Target.implement
  exact (sound_symbol (by decide))
    |>.append ((sound_word (by decide)).group .bracket)
    |>.append (sound_word (by decide))
    |>.append h.implLexemes.sound
    |>.append hroot
    |>.append (sound_symbol (by decide))
    |>.append (sound_word htrait)
    |>.append (sound_word (by decide))
    |>.append h.name.sound
    |>.append h.typeLexemes.sound
    |>.append h.whereLexemes.sound
    |>.append (hbody.group .brace)

theorem sound_selfCase
    {case : Ident}
    (h : case.WellFormed) :
    Sound (selfCase case) := by
  have hself : Sound (Template.word "Self") := sound_word (by decide)
  have hcolons : Sound (Template.symbol "::") := sound_symbol (by decide)
  exact (hself.append hcolons).append (sound_ident h)

theorem sound_selfAs
    {root : List Lexeme}
    (hroot : Sound root)
    {trait : String}
    (htrait : (Ident.plain trait).WellFormed) :
    Sound (selfAs root trait) := by
  unfold selfAs
  exact (sound_symbol (by decide))
    |>.append (sound_word (by decide))
    |>.append (sound_word (by decide))
    |>.append hroot
    |>.append (sound_symbol (by decide))
    |>.append (sound_word htrait)
    |>.append (sound_symbol (by decide))

theorem sound_methodCall
    {name : String}
    (h : (Ident.plain name).WellFormed) :
    Sound (methodCall name) := by
  unfold methodCall
  exact (sound_symbol (by decide))
    |>.append (sound_word h)
    |>.append (sound_nil.group .parenthesis)

theorem Branch.sound_lexemes
    {branch : Branch}
    (h : branch.case.WellFormed) :
    Sound branch.lexemes := by
  unfold Branch.lexemes optionPath
  exact (sound_string branch.pattern)
    |>.append (sound_symbol (by decide))
    |>.append (sound_names (by decide))
    |>.append ((sound_selfCase h).group .parenthesis)
    |>.append (sound_symbol (by decide))

namespace Lookup

/-- A table of branches is sound text if the names of its cases are well formed. -/
theorem sound_tableLexemes
    {branches : List Branch}
    (h : ∀ branch ∈ branches, branch.case.WellFormed) :
    Sound (tableLexemes branches) := by
  have hbranches : Sound (branches.flatMap Branch.lexemes) :=
    sound_flatMap fun branch hbranch => Branch.sound_lexemes (h branch hbranch)
  have hbody :
      Sound
        (branches.flatMap Branch.lexemes ++ word "_" ++ symbol "=>" ++ optionPath ["None"] ++
          symbol ",") := by
    exact hbranches
      |>.append (sound_word (by decide))
      |>.append (sound_symbol (by decide))
      |>.append (sound_names (by decide))
      |>.append (sound_symbol (by decide))
  unfold tableLexemes
  exact (sound_word (by decide))
    |>.append (sound_word (by decide))
    |>.append (sound_methodCall (by decide))
    |>.append (sound_methodCall (by decide))
    |>.append (hbody.group .brace)

theorem sound_searchLexemes
    {root : List Lexeme}
    (hroot : Sound root) :
    Sound (searchLexemes root) := by
  have hcompare :
      Sound
        (selfAs root "CaseInsensitive" ++ symbol "::" ++ word "raw_value" ++
          parens (word "case") ++ methodCall "to_lowercase" ++ symbol "==" ++
          word "raw_value") := by
    exact (sound_selfAs hroot (by decide))
      |>.append (sound_symbol (by decide))
      |>.append (sound_word (by decide))
      |>.append ((sound_word (by decide)).group .parenthesis)
      |>.append (sound_methodCall (by decide))
      |>.append (sound_symbol (by decide))
      |>.append (sound_word (by decide))
  have hbound : Sound (symbol "|" ++ word "case" ++ symbol "|") := by
    exact (sound_symbol (by decide))
      |>.append (sound_word (by decide))
      |>.append (sound_symbol (by decide))
  unfold searchLexemes
  exact (sound_word (by decide))
    |>.append (sound_word (by decide))
    |>.append (sound_symbol (by decide))
    |>.append (sound_word (by decide))
    |>.append (sound_methodCall (by decide))
    |>.append (sound_symbol (by decide))
    |>.append (sound_selfAs hroot (by decide))
    |>.append (sound_symbol (by decide))
    |>.append (sound_word (by decide))
    |>.append (sound_nil.group .parenthesis)
    |>.append (sound_methodCall (by decide))
    |>.append (sound_symbol (by decide))
    |>.append (sound_word (by decide))
    |>.append ((hbound.append (hcompare.group .brace)).group .parenthesis)

/-- The cases that a lookup names are identifiers. -/
def WellFormed : Lookup → Prop
  | branchTable branches => ∀ branch ∈ branches, branch.case.WellFormed
  | allCases => True

theorem sound_lexemes
    {lookup : Lookup}
    (h : lookup.WellFormed)
    {root : List Lexeme}
    (hroot : Sound root) :
    Sound (lookup.lexemes root) := by
  cases lookup with
  | branchTable branches =>
      exact sound_tableLexemes h
  | allCases =>
      exact sound_searchLexemes hroot

end Lookup

theorem Case.sound_armLexemes
    {case : Case}
    (h : case.ident.WellFormed) :
    Sound case.armLexemes := by
  unfold Case.armLexemes
  exact (sound_selfCase h)
    |>.append (sound_symbol (by decide))
    |>.append (sound_string case.rawValue)
    |>.append (sound_symbol (by decide))

namespace Initializer

/-- The parts of an initializer that are printed as they are relex, and its cases are
identifiers.  Raw values and patterns are arbitrary texts. -/
structure WellFormed (i : Initializer) : Prop where
  target : i.target.Relexes
  root : Relexes i.root
  cases : ∀ case ∈ i.cases, case.ident.WellFormed
  lookup : i.lookup.WellFormed

theorem WellFormed.sound_fromRawValueLexemes
    {i : Initializer}
    (h : i.WellFormed) :
    Sound i.fromRawValueLexemes := by
  have hparameter : Sound (word "raw_value" ++ symbol ":" ++ symbol "&" ++ word "str") := by
    exact (sound_word (by decide))
      |>.append (sound_symbol (by decide))
      |>.append (sound_symbol (by decide))
      |>.append (sound_word (by decide))
  unfold fromRawValueLexemes
  exact (sound_word (by decide))
    |>.append (sound_word (by decide))
    |>.append (hparameter.group .parenthesis)
    |>.append (sound_symbol (by decide))
    |>.append (sound_names (by decide))
    |>.append (sound_symbol (by decide))
    |>.append (sound_word (by decide))
    |>.append (sound_symbol (by decide))
    |>.append ((Lookup.sound_lexemes h.lookup h.root.sound).group .brace)

theorem WellFormed.sound_rawValueLexemes
    {i : Initializer}
    (h : i.WellFormed) :
    Sound i.rawValueLexemes := by
  have harms : Sound (i.cases.flatMap Case.armLexemes) :=
    sound_flatMap fun case hcase => Case.sound_armLexemes (h.cases case hcase)
  have hself : Sound (symbol "&" ++ word "self") := by
    exact (sound_symbol (by decide)).append (sound_word (by decide))
  have hmatch :
      Sound
        (word "match" ++ symbol "*" ++ word "self" ++
          braces (i.cases.flatMap Case.armLexemes)) := by
    exact (sound_word (by decide))
      |>.append (sound_symbol (by decide))
      |>.append (sound_word (by decide))
      |>.append (harms.group .brace)
  unfold rawValueLexemes
  exact (sound_word (by decide))
    |>.append (sound_word (by decide))
    |>.append (hself.group .parenthesis)
    |>.append (sound_symbol (by decide))
    |>.append (sound_symbol (by decide))
    |>.append (sound_lifetime (by decide))
    |>.append (sound_word (by decide))
    |>.append (hmatch.group .brace)

theorem WellFormed.sound_lexemes
    {i : Initializer}
    (h : i.WellFormed) :
    Sound i.lexemes := by
  have hbody := h.sound_fromRawValueLexemes.append h.sound_rawValueLexemes
  exact h.target.sound_implement h.root.sound (by decide) hbody

end Initializer

namespace Extension

/-- The parts of an extension that are printed as they are relex, and its cases are
identifiers. -/
structure WellFormed (e : Extension) : Prop where
  target : e.target.Relexes
  root : Relexes e.root
  cases : ∀ case ∈ e.cases, case.WellFormed

theorem WellFormed.sound_lexemes
    {e : Extension}
    (h : e.WellFormed) :
    Sound e.lexemes := by
  have hcases : Sound (commaSeparated (e.cases.map selfCase)) := by
    apply sound_commaSeparated
    intro part hpart
    obtain ⟨case, hcase, rfl⟩ := List.mem_map.mp hpart
    exact sound_selfCase (h.cases case hcase)
  have hlist :
      Sound
        (names ["std", "vec"] ++ symbol "!" ++
          brackets (commaSeparated (e.cases.map selfCase))) := by
    exact (sound_names (by decide))
      |>.append (sound_symbol (by decide))
      |>.append (hcases.group .bracket)
  apply h.target.sound_implement h.root.sound (by decide)
  exact (sound_word (by decide))
    |>.append (sound_word (by decide))
    |>.append (sound_nil.group .parenthesis)
    |>.append (sound_symbol (by decide))
    |>.append (sound_names (by decide))
    |>.append (sound_symbol (by decide))
    |>.append (sound_word (by decide))
    |>.append (sound_symbol (by decide))
    |>.append (hlist.group .brace)

end Extension

namespace Generated

/-- The parts of a declaration that are printed as they are relex, and its cases are
identifiers. -/
def WellFormed : Generated → Prop
  | initializer i => i.WellFormed
  | extension e => e.WellFormed

/-- What is generated is read back from its text lexeme by lexeme. -/
theorem relexes_lexemes
    {g : Generated}
    (h : g.WellFormed) :
    Relexes g.lexemes := by
  cases g with
  | initializer i =>
      exact (Initializer.WellFormed.sound_lexemes h).relexes
  | extension e =>
      exact (Extension.WellFormed.sound_lexemes h).relexes

end Generated

end Soundness

section Injectivity

/-- Lexemes that are read back from their text are determined by it. -/
theorem Lexeme.Relexes.eq_of_render_eq
    {L M : List Lexeme}
    (hL : Relexes L)
    (hM : Relexes M)
    (h : render L = render M) :
    L = M := by
  obtain ⟨tokens, htokens, rfl⟩ := hL
  obtain ⟨others, hothers, rfl⟩ := hM
  rw [h, hothers] at htokens
  rw [Option.some.inj htokens]

/-- A list of pieces can be told from its code if each piece can, and no piece begins as what
follows the list. -/
theorem flatMap_append_inj
    {α : Type}
    {f : α → List Lexeme}
    {stop : Lexeme}
    (hstop : ∀ a, ∃ first rest, f a = first :: rest ∧ first ≠ stop)
    (hinj : ∀ a b r r', f a ++ r = f b ++ r' → a = b ∧ r = r')
    {items others : List α}
    {r r' : List Lexeme}
    (h : items.flatMap f ++ stop :: r = others.flatMap f ++ stop :: r') :
    items = others ∧ r = r' := by
  induction items generalizing others with
  | nil =>
      cases others with
      | nil =>
          exact ⟨rfl, (List.cons.inj h).2⟩
      | cons b others =>
          obtain ⟨first, rest, hfirst, hne⟩ := hstop b
          rw [List.flatMap_cons, hfirst] at h
          exact absurd (List.cons.inj h).1.symm hne
  | cons a items ih =>
      cases others with
      | nil =>
          obtain ⟨first, rest, hfirst, hne⟩ := hstop a
          rw [List.flatMap_cons, hfirst] at h
          exact absurd (List.cons.inj h).1 hne
      | cons b others =>
          rw [List.flatMap_cons, List.flatMap_cons, List.append_assoc, List.append_assoc] at h
          obtain ⟨rfl, hrest⟩ := hinj a b _ _ h
          obtain ⟨rfl, hr⟩ := ih hrest
          exact ⟨rfl, hr⟩

/-- The trait and the body can be told from an implementation, for the header has a fixed form. -/
theorem Target.implement_inj
    {target : Target}
    {root body body' : List Lexeme}
    {trait trait' : String}
    (h : target.implement root trait body = target.implement root trait' body') :
    trait = trait' ∧ body = body' := by
  simpa [Target.implement, word, Ident.plain, braces, group] using h

/-- A branch can be told from its lexemes whatever follows it. -/
theorem Branch.lexemes_append_inj
    {b b' : Branch}
    {r r' : List Lexeme}
    (h : b.lexemes ++ r = b'.lexemes ++ r') :
    b = b' ∧ r = r' := by
  obtain ⟨hpattern, hcase, hr⟩ :
      Text.quote .literal b.pattern = Text.quote .literal b'.pattern ∧
        b.case = b'.case ∧ r = r' := by
    simpa [Branch.lexemes, string, selfCase, Template.ident, parens, group] using h
  obtain ⟨pattern, case⟩ := b
  obtain ⟨pattern', case'⟩ := b'
  obtain rfl : pattern = pattern' := Text.quote_injective _ hpattern
  obtain rfl : case = case' := hcase
  exact ⟨rfl, hr⟩

theorem Case.armLexemes_append_inj
    {c c' : Case}
    {r r' : List Lexeme}
    (h : c.armLexemes ++ r = c'.armLexemes ++ r') :
    c = c' ∧ r = r' := by
  obtain ⟨hident, hvalue, hr⟩ :
      c.ident = c'.ident ∧
        Text.quote .literal c.rawValue = Text.quote .literal c'.rawValue ∧ r = r' := by
    simpa [Case.armLexemes, string, selfCase, Template.ident] using h
  obtain ⟨ident, rawValue⟩ := c
  obtain ⟨ident', rawValue'⟩ := c'
  obtain rfl : ident = ident' := hident
  obtain rfl : rawValue = rawValue' := Text.quote_injective _ hvalue
  exact ⟨rfl, hr⟩

theorem selfCase_append_inj
    {case case' : Ident}
    {r r' : List Lexeme}
    (h : selfCase case ++ r = selfCase case' ++ r') :
    case = case' ∧ r = r' := by
  simpa [selfCase, Template.ident] using h

namespace Lookup

/-- A branch table ends where the branch for all other texts begins. -/
theorem tableLexemes_append_inj
    {branches branches' : List Branch}
    {r r' : List Lexeme}
    (h : tableLexemes branches ++ r = tableLexemes branches' ++ r') :
    branches = branches' ∧ r = r' := by
  have hbody :
      branches.flatMap Branch.lexemes ++
          .ident (.plain "_") ::
            (symbol "=>" ++ optionPath ["None"] ++ symbol "," ++ .closing .brace :: r) =
        branches'.flatMap Branch.lexemes ++
          .ident (.plain "_") ::
            (symbol "=>" ++ optionPath ["None"] ++ symbol "," ++ .closing .brace :: r') := by
    simpa [tableLexemes, word, braces, group] using h
  obtain ⟨rfl, hrest⟩ :=
    flatMap_append_inj (fun b => ⟨_, _, rfl, by simp⟩)
      (fun _ _ _ _ => Branch.lexemes_append_inj) hbody
  exact ⟨rfl, by simpa using hrest⟩

theorem lexemes_append_inj
    {root : List Lexeme}
    {lookup lookup' : Lookup}
    {r r' : List Lexeme}
    (h : lookup.lexemes root ++ r = lookup'.lexemes root ++ r') :
    lookup = lookup' ∧ r = r' := by
  cases lookup with
  | branchTable branches =>
      cases lookup' with
      | branchTable branches' =>
          obtain ⟨rfl, hr⟩ := tableLexemes_append_inj h
          exact ⟨rfl, hr⟩
      | allCases =>
          simp [lexemes, tableLexemes, searchLexemes, word, Ident.plain] at h
  | allCases =>
      cases lookup' with
      | branchTable branches' =>
          simp [lexemes, tableLexemes, searchLexemes, word, Ident.plain] at h
      | allCases =>
          exact ⟨rfl, List.append_cancel_left h⟩

end Lookup

theorem arms_append_inj
    {cases cases' : List Case}
    {r r' : List Lexeme}
    (h :
      cases.flatMap Case.armLexemes ++ .closing .brace :: r =
        cases'.flatMap Case.armLexemes ++ .closing .brace :: r') :
    cases = cases' ∧ r = r' :=
  flatMap_append_inj (fun c => ⟨_, _, rfl, by simp⟩) (fun _ _ _ _ => Case.armLexemes_append_inj) h

theorem commaSeparated_cons
    (part : List Lexeme)
    (parts : List (List Lexeme)) :
    commaSeparated (part :: parts) = part ++ parts.flatMap fun other => symbol "," ++ other := by
  induction parts generalizing part with
  | nil =>
      simp [commaSeparated]
  | cons other parts ih =>
      rw [commaSeparated, ih, List.flatMap_cons]
      · simp
      · simp

theorem selfCases_append_inj
    {cases cases' : List Ident}
    {r r' : List Lexeme}
    (h :
      commaSeparated (cases.map selfCase) ++ .closing .bracket :: r =
        commaSeparated (cases'.map selfCase) ++ .closing .bracket :: r') :
    cases = cases' ∧ r = r' := by
  cases cases with
  | nil =>
      cases cases' with
      | nil =>
          exact ⟨rfl, (List.cons.inj h).2⟩
      | cons case' cases' =>
          simp [commaSeparated_cons, commaSeparated, selfCase, word] at h
  | cons case cases =>
      cases cases' with
      | nil =>
          simp [commaSeparated_cons, commaSeparated, selfCase, word] at h
      | cons case' cases' =>
          simp only [List.map_cons, commaSeparated_cons, List.append_assoc,
            List.flatMap_map] at h
          obtain ⟨rfl, hrest⟩ := selfCase_append_inj h
          obtain ⟨rfl, hr⟩ :=
            flatMap_append_inj (fun c => ⟨_, _, rfl, by simp⟩)
              (fun _ _ _ _ hcase => selfCase_append_inj (by simpa using hcase)) hrest
          exact ⟨rfl, hr⟩

theorem Initializer.eq_of_lexemes_eq
    {target : Target}
    {root : List Lexeme}
    {cases cases' : List Case}
    {lookup lookup' : Lookup}
    (h :
      Initializer.lexemes ⟨target, root, cases, lookup⟩ =
        Initializer.lexemes ⟨target, root, cases', lookup'⟩) :
    cases = cases' ∧ lookup = lookup' := by
  obtain ⟨-, hbody⟩ := Target.implement_inj h
  have hlookup :
      lookup.lexemes root ++ .closing .brace ::
          Initializer.rawValueLexemes ⟨target, root, cases, lookup⟩ =
        lookup'.lexemes root ++ .closing .brace ::
          Initializer.rawValueLexemes ⟨target, root, cases', lookup'⟩ := by
    simpa [Initializer.fromRawValueLexemes, braces, group] using hbody
  obtain ⟨rfl, hrest⟩ := Lookup.lexemes_append_inj hlookup
  have harms :
      cases.flatMap Case.armLexemes ++ .closing .brace :: [.closing .brace] =
        cases'.flatMap Case.armLexemes ++ .closing .brace :: [.closing .brace] := by
    simpa [Initializer.rawValueLexemes, braces, group] using hrest
  exact ⟨(arms_append_inj harms).1, rfl⟩

theorem Extension.eq_of_lexemes_eq
    {target : Target}
    {root : List Lexeme}
    {cases cases' : List Ident}
    (h :
      Extension.lexemes ⟨target, root, cases⟩ = Extension.lexemes ⟨target, root, cases'⟩) :
    cases = cases' := by
  obtain ⟨-, hbody⟩ := Target.implement_inj h
  have hcases :
      commaSeparated (cases.map selfCase) ++ .closing .bracket :: [.closing .brace] =
        commaSeparated (cases'.map selfCase) ++ .closing .bracket :: [.closing .brace] := by
    simpa [brackets, braces, group] using hbody
  exact (selfCases_append_inj hcases).1

namespace Generated

/-- The type that a declaration is for. -/
def target : Generated → Target
  | initializer i => i.target
  | extension e => e.target

/-- The path under which a declaration finds the traits. -/
def root : Generated → List Lexeme
  | initializer i => i.root
  | extension e => e.root

/-- The code of a declaration tells it among all those for the same type and traits. -/
theorem eq_of_lexemes_eq
    {g g' : Generated}
    (htarget : g'.target = g.target)
    (hroot : g'.root = g.root)
    (h : g'.lexemes = g.lexemes) :
    g' = g := by
  cases g with
  | initializer i =>
      obtain ⟨t, path, cases, lookup⟩ := i
      cases g' with
      | initializer i' =>
          obtain ⟨t', path', cases', lookup'⟩ := i'
          obtain rfl : t' = t := htarget
          obtain rfl : path' = path := hroot
          obtain ⟨rfl, rfl⟩ := Initializer.eq_of_lexemes_eq h
          rfl
      | extension e' =>
          obtain ⟨t', path', cases'⟩ := e'
          obtain rfl : t' = t := htarget
          obtain rfl : path' = path := hroot
          exact absurd (Target.implement_inj h).1 (by decide)
  | extension e =>
      obtain ⟨t, path, cases⟩ := e
      cases g' with
      | initializer i' =>
          obtain ⟨t', path', cases', lookup'⟩ := i'
          obtain rfl : t' = t := htarget
          obtain rfl : path' = path := hroot
          exact absurd (Target.implement_inj h).1 (by decide)
      | extension e' =>
          obtain ⟨t', path', cases'⟩ := e'
          obtain rfl : t' = t := htarget
          obtain rfl : path' = path := hroot
          obtain rfl := Extension.eq_of_lexemes_eq h
          rfl

/-- The printed text of a declaration is read back to exactly its lexemes, and tells the
declaration among all those for the same type and traits. -/
theorem text_determines_declaration
    (g : Generated)
    (h : g.WellFormed) :
    (∃ tokens,
      Token.ofSource? (Lexeme.render g.lexemes) = some tokens ∧
      Token.lexemesAll tokens = g.lexemes) ∧
    ∀ g' : Generated,
      g'.WellFormed →
      g'.target = g.target →
      g'.root = g.root →
      Lexeme.render g'.lexemes = Lexeme.render g.lexemes →
        g' = g := by
  have hrelexes := relexes_lexemes h
  refine ⟨hrelexes, ?_⟩
  intro g' h' htarget hroot hrender
  have hlexemes := (relexes_lexemes h').eq_of_render_eq hrelexes hrender
  exact eq_of_lexemes_eq htarget hroot hlexemes

/-- An initializer for one case with the given raw value and a branch for another text. -/
def sample (pattern rawValue : String) : Generated :=
  .initializer
    { target := ⟨.plain "Op", ⟨[], []⟩⟩
      root := symbol "::" ++ word "case_insensitive"
      cases := [⟨⟨"type", true⟩, rawValue⟩]
      lookup := .branchTable [⟨pattern, ⟨"type", true⟩⟩] }

theorem wellFormed_sample
    (pattern rawValue : String) :
    (sample pattern rawValue).WellFormed := by
  have hname : (Ident.plain "Op").WellFormed := by
    decide
  have hcase : Ident.WellFormed ⟨"type", true⟩ := by
    decide
  have hroot : Sound (symbol "::" ++ word "case_insensitive") :=
    (sound_symbol (by decide)).append (sound_word (by decide))
  refine ⟨⟨?_, sound_nil.relexes, sound_nil.relexes, sound_nil.relexes⟩, hroot.relexes, ?_, ?_⟩
  · exact (sound_ident hname).relexes
  · intro case hmem
    obtain rfl := List.mem_singleton.mp hmem
    exact hcase
  · intro branch hmem
    obtain rfl := List.mem_singleton.mp hmem
    exact hcase

/-- Quotes, backslashes, line ends and a NUL in front of a digit do no harm, and a text that is
escaped differs from one that spells the escape. -/
theorem text_determines_sample :
    (sample "\"\x7d" "\\\n\x007\"").WellFormed ∧
    (∃ tokens,
      Token.ofSource? (Lexeme.render (sample "\"\x7d" "\\\n\x007\"").lexemes) = some tokens ∧
      Token.lexemesAll tokens = (sample "\"\x7d" "\\\n\x007\"").lexemes) ∧
    Lexeme.render (sample "\"\x7d" "\\n").lexemes ≠
      Lexeme.render (sample "\"\x7d" "\\\n\x007\"").lexemes := by
  have hsample := text_determines_declaration _ (wellFormed_sample "\"\x7d" "\\\n\x007\"")
  refine ⟨wellFormed_sample _ _, hsample.1, ?_⟩
  intro hrender
  have heq := hsample.2 (sample "\"\x7d" "\\n") (wellFormed_sample _ _) rfl rfl hrender
  simp [sample] at heq

end Generated

end Injectivity

end Caseless
