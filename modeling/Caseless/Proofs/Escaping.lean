import Caseless.Proofs.Accessors
import Caseless.Proofs.DiagnosticText
import Caseless.Proofs.Places
import Caseless.UnknownCase

/-!
# Escaping loses nothing

A literal denotes a text if it is one string literal in front of a blank, whatever follows the
blank, and if its escapes mean the text.  What is quoted in either style denotes the text that was
quoted.  The literals of generated code are the quoted patterns, raw values and texts of compile
errors, and a text that matches no case is shown quoted, so each of these texts can be told from
what is written for it.

The two styles write the same for every character but a NUL in front of an octal digit.  There one
of them spells the NUL out, and what follows cannot make up for it: the quoted texts differ.

The main result is `escaping_loses_nothing`.
-/

namespace Caseless

section Lexing

namespace Lexer

open Scanner

theorem length_lt_of_next
    {cs rest : List Char}
    {lexemes : List Lexeme}
    (h : next cs = some (lexemes, rest)) :
    rest.length < cs.length := by
  obtain ⟨stretch, hne, -, rfl, -⟩ := exists_gives_of_next h
  have hpos := List.length_pos_iff.mpr hne
  rw [List.length_append]
  omega

/-- The lexemes of a step stand in front of those of later steps. -/
theorem lexemes_behind
    (lexemes : List Lexeme)
    (span : Span)
    (others : Option (List (Lexeme × Span))) :
    (others.map fun pairs => lexemes.map (·, span) ++ pairs).map (List.map Prod.fst) =
      (others.map (List.map Prod.fst)).map (lexemes ++ ·) := by
  cases others with
  | none =>
      rfl
  | some pairs =>
      simp [Function.comp_def]

/-- The lexemes of a text depend neither on its place, nor on what is skipped in front of it, nor on
the number of steps if that suffices. -/
theorem lexemes_lexFor_congr
    {n m : Nat}
    {place place' : Position}
    {cs cs' : List Char}
    (hn : cs.length < n)
    (hm : cs'.length < m)
    (hskip : skip cs = skip cs') :
    (lexFor n place cs).map (List.map Prod.fst) =
      (lexFor m place' cs').map (List.map Prod.fst) := by
  induction n generalizing m place place' cs cs' with
  | zero =>
      omega
  | succ n ih =>
      obtain ⟨m, rfl⟩ : ∃ k, m = k + 1 := ⟨m - 1, by omega⟩
      have hle := (skip_suffix cs).length_le
      have hle' := (skip_suffix cs').length_le
      simp only [lexFor, hskip] at hle ⊢
      split_ifs with hempty
      · rfl
      · cases hnext : next (skip cs') with
        | none =>
            rfl
        | some result =>
            have hlt := length_lt_of_next hnext
            have hn' : result.2.length < n := by omega
            have hm' : result.2.length < m := by omega
            simp only [lexemes_behind]
            rw [ih hn' hm' rfl]

theorem skip_blank_cons
    (cs : List Char) :
    skip (' ' :: cs) = skip cs := by
  rfl

/-- Behind a lexeme and a blank the lexer reads what it reads of the rest alone. -/
theorem lexemes_lexChars_of_lexeme
    {front rest : List Char}
    {a : Lexeme}
    (h : lexeme? (front ++ ' ' :: rest) = some (a, ' ' :: rest)) :
    (lexChars (front ++ ' ' :: rest)).map (List.map Prod.fst) =
      (lexChars rest).map fun others => a :: others.map Prod.fst := by
  obtain ⟨span, hstep⟩ := lexFor_cons h false (front ++ ' ' :: rest).length Position.origin
  have hrest :
      (lexFor (front ++ ' ' :: rest).length span.stop (' ' :: rest)).map (List.map Prod.fst) =
        (lexChars rest).map (List.map Prod.fst) :=
    lexemes_lexFor_congr (length_lt_of_lexeme h) (Nat.lt_succ_self _) (skip_blank_cons rest)
  calc
    (lexChars (front ++ ' ' :: rest)).map (List.map Prod.fst)
        = ((lexFor (front ++ ' ' :: rest).length span.stop (' ' :: rest)).map
            ((a, span) :: ·)).map (List.map Prod.fst) := congrArg _ hstep
    _ = ((lexFor (front ++ ' ' :: rest).length span.stop (' ' :: rest)).map
          (List.map Prod.fst)).map ([a] ++ ·) := lexemes_behind [a] span _
    _ = (lexChars rest).map fun others => a :: others.map Prod.fst := by
      rw [hrest, Option.map_map]
      rfl

end Lexer

end Lexing

section Denoting

namespace Text

open Lexer

/-- A literal denotes a text if it is one string literal in front of a blank, whatever follows the
blank, and if its escapes mean the text. -/
structure Denotes (literal text : String) : Prop where
  /-- It is scanned as a string literal that bears no suffix. -/
  scanned : ∀ rest, Scanner.string (literal.toList ++ ' ' :: rest) = some (' ' :: rest)
  /-- It is the next lexeme, also where the rest cannot be read. -/
  read : ∀ rest, next (literal.toList ++ ' ' :: rest) = some ([.literal literal], ' ' :: rest)
  /-- It is read in front of the lexemes that the rest has on its own. -/
  lexed :
    ∀ rest : String,
      (lex (literal ++ " " ++ rest)).map (List.map Prod.fst) =
        (lexChars rest.toList).map fun others => .literal literal :: others.map Prod.fst
  /-- Its escapes mean the text. -/
  means : Code.stringValue? literal = some text

theorem stopped_blank
    (rest : List Char) :
    Scanner.Stopped (' ' :: rest) :=
  Scanner.stopped_cons_iff.mpr rfl

theorem lexeme_quote_blank
    (style : QuoteStyle)
    (text : String)
    (rest : List Char) :
    lexeme? ((quote style text).toList ++ ' ' :: rest) =
      some (.literal (quote style text), ' ' :: rest) :=
  lexeme_append (Lexeme.lexeme_quote style text) (stopped_blank rest) rfl

/-- What is quoted denotes the text that was quoted. -/
theorem denotes_quote
    (style : QuoteStyle)
    (text : String) :
    Denotes (quote style text) text where
  scanned rest :=
    Scanner.stable_string.append _ _ _ (Lexeme.string_quote style text) (stopped_blank rest)
  read rest := by
    have hlexeme := lexeme_quote_blank style text rest
    rw [(fresh_of_lexeme hlexeme).next_eq, hlexeme]
    rfl
  lexed rest := by
    have hlist :
        (quote style text ++ " " ++ rest).toList =
          (quote style text).toList ++ ' ' :: rest.toList := by
      simp
    have hmark :
        dropMark ((quote style text).toList ++ ' ' :: rest.toList) =
          (quote style text).toList ++ ' ' :: rest.toList := by
      rw [quote_toList]
      rfl
    rw [Lexeme.lex_eq_lexChars (by rw [hlist, hmark]), hlist]
    exact lexemes_lexChars_of_lexeme (lexeme_quote_blank style text rest.toList)
  means := Code.stringValue?_quote style text

end Text

namespace UnknownCase

/-- What is shown of an answer tells its text. -/
theorem debug_injective :
    Function.Injective debug := by
  intro e e' h
  have hquote := Frame.around_injective ⟨"UnknownCase \x7b value: ", " \x7d"⟩ h
  have hvalue := Text.quote_injective .debug hquote
  cases e
  cases e'
  exact congrArg mk hvalue

end UnknownCase

end Denoting

section Literals

open Template

namespace Lexeme

/-- The text of a lexeme that is a literal. -/
def literal? : Lexeme → Option String
  | literal text => some text
  | _ => none

/-- The literals of some code, in order. -/
def literals (code : List Lexeme) : List String :=
  code.filterMap literal?

@[simp] theorem literals_nil :
    literals [] = [] :=
  rfl

@[simp] theorem literals_append
    (code others : List Lexeme) :
    literals (code ++ others) = literals code ++ literals others :=
  List.filterMap_append

theorem literals_flatMap
    {α : Type}
    (f : α → List Lexeme)
    (items : List α) :
    literals (items.flatMap f) = items.flatMap fun a => literals (f a) :=
  List.filterMap_flatMap

end Lexeme

open Lexeme

namespace Template

@[simp] theorem literals_ident
    (i : Ident) :
    literals (ident i) = [] :=
  rfl

@[simp] theorem literals_word
    (text : String) :
    literals (word text) = [] :=
  rfl

@[simp] theorem literals_lifetime
    (name : String) :
    literals (lifetime name) = [] :=
  rfl

@[simp] theorem literals_string
    (text : String) :
    literals (string text) = [Text.quote .literal text] :=
  rfl

@[simp] theorem literals_symbol
    (text : String) :
    literals (symbol text) = [] := by
  suffices hchars : ∀ cs, literals (symbolChars cs) = [] from hchars text.toList
  intro cs
  fun_induction symbolChars cs with
  | case1 =>
      rfl
  | case2 c =>
      rfl
  | case3 c cs hne ih =>
      exact ih

@[simp] theorem literals_group
    (d : Delimiter)
    (content : List Lexeme) :
    literals (group d content) = literals content := by
  rw [group, List.cons_append, literals, List.filterMap_cons_none rfl]
  simp [literals, literal?]

@[simp] theorem literals_names
    (texts : List String) :
    literals (names texts) = [] := by
  simp [names, literals_flatMap]

/-- The only literal of a compile error is its quoted text. -/
theorem literals_compileError
    (text : String) :
    literals (compileError text) = [Text.quote .literal text] := by
  simp [compileError, braces]

end Template

/-- The literals of a case distinction over the lowercase text are the quoted patterns. -/
theorem Initializer.literals_fromRawValueLexemes
    (target : Target)
    (root : List Lexeme)
    (cases : List Case)
    (branches : List Branch) :
    literals (fromRawValueLexemes ⟨target, root, cases, .branchTable branches⟩) =
      branches.map fun branch => Text.quote .literal branch.pattern := by
  have hbranch (branch : Branch) :
      literals branch.lexemes = [Text.quote .literal branch.pattern] := by
    simp [Branch.lexemes, selfCase, optionPath, parens]
  rw [List.map_eq_flatMap]
  simp [fromRawValueLexemes, Lookup.lexemes, Lookup.tableLexemes, methodCall, optionPath, parens,
    braces, literals_flatMap, hbranch]

/-- The literals of the function that gives raw values are the quoted raw values. -/
theorem Initializer.literals_rawValueLexemes
    (i : Initializer) :
    literals i.rawValueLexemes = i.cases.map fun case => Text.quote .literal case.rawValue := by
  have harm (case : Case) :
      literals case.armLexemes = [Text.quote .literal case.rawValue] := by
    simp [Case.armLexemes, selfCase]
  rw [List.map_eq_flatMap]
  simp [rawValueLexemes, parens, braces, literals_flatMap, harm]

end Literals

section Styles

namespace Text

/-- What is written for each character of a text, in order. -/
def escapes (style : QuoteStyle) : List Char → List (List Char)
  | [] => []
  | c :: after => escapeChar style c after :: escapes style after

/-- A NUL stands at a place of a text, with an octal digit behind it. -/
def NulBeforeOctal (text : List Char) (i : Nat) : Prop :=
  text[i]? = some nul ∧ ∃ d, text[i + 1]? = some d ∧ '0' ≤ d ∧ d ≤ '7'

theorem flatten_escapes
    (style : QuoteStyle)
    (text : List Char) :
    (escapes style text).flatten = escape style text := by
  induction text with
  | nil =>
      rfl
  | cons c after ih =>
      rw [escapes, escape, List.flatten_cons, ih]

theorem quote_eq_flatten_escapes
    (style : QuoteStyle)
    (text : String) :
    quote style text = "\"" ++ String.ofList (escapes style text.toList).flatten ++ "\"" := by
  apply String.toList_injective
  rw [quote_toList, flatten_escapes]
  simp

@[simp] theorem nulBeforeOctal_succ
    (c : Char)
    (after : List Char)
    (i : Nat) :
    NulBeforeOctal (c :: after) (i + 1) ↔ NulBeforeOctal after i := by
  simp [NulBeforeOctal]

theorem nulBeforeOctal_zero
    (c : Char)
    (after : List Char) :
    NulBeforeOctal (c :: after) 0 ↔ c = nul ∧ startsOctal after = true := by
  cases after with
  | nil =>
      simp [NulBeforeOctal, startsOctal]
  | cons d after =>
      simp [NulBeforeOctal, startsOctal]

/-- The styles differ for a NUL in front of an octal digit and agree for all other characters. -/
theorem escapeChar_eq_iff
    (c : Char)
    (after : List Char) :
    escapeChar .literal c after = escapeChar .debug c after
      ↔
    ¬ NulBeforeOctal (c :: after) 0 := by
  rw [nulBeforeOctal_zero]
  by_cases hnul : c = nul
  · cases hoctal : startsOctal after with
    | false =>
        simp [escapeChar, hnul, hoctal]
    | true =>
        simp [escapeChar, hnul, hoctal, QuoteStyle.literal, QuoteStyle.debug]
  · simp [escapeChar, hnul]

theorem escapes_eq_iff
    (text : List Char)
    (i : Nat) :
    (escapes .literal text)[i]? = (escapes .debug text)[i]? ↔ ¬ NulBeforeOctal text i := by
  induction text generalizing i with
  | nil =>
      simp [escapes, NulBeforeOctal]
  | cons c after ih =>
      cases i with
      | zero =>
          simpa [escapes] using escapeChar_eq_iff c after
      | succ i =>
          simpa [escapes] using ih i

/-- The first NUL in front of an octal digit already makes the escaped texts differ. -/
theorem escape_eq_iff
    (text : List Char) :
    escape .literal text = escape .debug text ↔ ∀ i, ¬ NulBeforeOctal text i := by
  induction text with
  | nil =>
      simp [escape, NulBeforeOctal]
  | cons c after ih =>
      by_cases hzero : NulBeforeOctal (c :: after) 0
      · obtain ⟨rfl, hoctal⟩ := (nulBeforeOctal_zero c after).mp hzero
        have hne : escape .literal (nul :: after) ≠ escape .debug (nul :: after) := by
          simp [escape, escapeChar, hoctal, QuoteStyle.literal, QuoteStyle.debug]
        exact iff_of_false hne fun hall => hall 0 hzero
      · rw [escape, escape, (escapeChar_eq_iff c after).mpr hzero, List.append_cancel_left_eq, ih]
        constructor
        · intro hall i
          cases i with
          | zero =>
              exact hzero
          | succ i =>
              rw [nulBeforeOctal_succ]
              exact hall i
        · intro hall i
          rw [← nulBeforeOctal_succ c after i]
          exact hall (i + 1)

/-- A text is quoted alike in both styles exactly if no NUL stands in front of an octal digit. -/
theorem quote_eq_iff
    (text : String) :
    quote .literal text = quote .debug text ↔ ∀ i, ¬ NulBeforeOctal text.toList i := by
  rw [← escape_eq_iff, ← String.toList_inj, quote_toList, quote_toList, List.cons.injEq]
  simp

/-- Behind a NUL an octal digit makes the two styles differ, and no other digit does. -/
example :
    quote .literal "\x007" = "\"\\x007\"" ∧ quote .debug "\x007" = "\"\\07\"" ∧
      quote .literal "\x008" = quote .debug "\x008" := by
  decide +kernel

end Text

end Styles

section Result

open Lexeme

/-- The literals of generated code are the quoted patterns, raw values and texts of compile errors,
and an answer is shown with its text quoted.  Whatever is quoted denotes the text, so answers are
shown alike only if they are equal.  Character by character the two styles write the same, but for a
NUL in front of an octal digit, and a text that holds one is quoted differently. -/
theorem escaping_loses_nothing :
    (∀ target root cases branches,
      literals (Initializer.fromRawValueLexemes ⟨target, root, cases, .branchTable branches⟩) =
        branches.map fun branch => Text.quote .literal branch.pattern) ∧
    (∀ i : Initializer,
      literals i.rawValueLexemes = i.cases.map fun case => Text.quote .literal case.rawValue) ∧
    (∀ text, literals (Template.compileError text) = [Text.quote .literal text]) ∧
    (∀ text, Text.Denotes (Text.quote .literal text) text) ∧
    (∀ text,
      UnknownCase.debug ⟨text⟩ =
        "UnknownCase \x7b value: " ++ Text.quote .debug text ++ " \x7d" ∧
      Text.Denotes (Text.quote .debug text) text) ∧
    (∀ e e' : UnknownCase, e = e' ↔ e.debug = e'.debug) ∧
    (∀ style (text : String),
      Text.quote style text =
        "\"" ++ String.ofList (Text.escapes style text.toList).flatten ++ "\"") ∧
    (∀ (text : List Char) (i : Nat),
      (Text.escapes .literal text)[i]? = (Text.escapes .debug text)[i]?
        ↔
      ¬ Text.NulBeforeOctal text i) ∧
    (∀ text : String,
      Text.quote .literal text = Text.quote .debug text
        ↔
      ∀ i, ¬ Text.NulBeforeOctal text.toList i) := by
  refine ⟨Initializer.literals_fromRawValueLexemes, Initializer.literals_rawValueLexemes,
    Template.literals_compileError, Text.denotes_quote .literal, ?_, ?_,
    Text.quote_eq_flatten_escapes, Text.escapes_eq_iff, Text.quote_eq_iff⟩
  · intro text
    exact ⟨rfl, Text.denotes_quote .debug text⟩
  · intro e e'
    exact UnknownCase.debug_injective.eq_iff.symm

end Result

end Caseless
