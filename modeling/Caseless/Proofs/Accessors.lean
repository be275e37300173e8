import Caseless.Generated.Reader
import Caseless.Proofs.BranchTable
import Caseless.Proofs.GeneratedText
import Caseless.Proofs.Options
import Caseless.Proofs.Outcome
import Caseless.Proofs.RawValueType

/-!
# The accessors name every case

Three lists of cases go into generated code: that of all cases with their raw values, that of the
branches, from which collided cases are dropped, and that of the bare identifiers.  This module
reads them off the code again and compares them with the variants of the enum.

A group is read back with exactly its content if the delimiters of the content match.  Code whose
delimiters match is closed under joining and grouping, and the parts of a declaration that are
printed as they are consist of tokens, so the groups of an implementation can be told apart whatever
its parameters and its root path are.  The main result is `accessors_keep_every_variant`.
-/

namespace Caseless

open Template

section Matching

namespace Lexeme

/-- Code has matching delimiters if it consists of tokens. -/
def Matched (code : List Lexeme) : Prop :=
  ∃ tokens, Token.lexemesAll tokens = code

theorem matched_nil :
    Matched [] :=
  ⟨[], rfl⟩

theorem matched_lexemesAll
    (tokens : List Token) :
    Matched (Token.lexemesAll tokens) :=
  ⟨tokens, rfl⟩

theorem matched_ident
    (i : Ident) :
    Matched [.ident i] :=
  ⟨[.ident i Span.unplaced], rfl⟩

theorem matched_punct
    (c : Char)
    (spacing : Spacing) :
    Matched [.punct c spacing] :=
  ⟨[.punct c spacing Span.unplaced], rfl⟩

theorem matched_literal
    (text : String) :
    Matched [.literal text] :=
  ⟨[.literal text Span.unplaced], rfl⟩

theorem Matched.append
    {code others : List Lexeme}
    (h : Matched code)
    (h' : Matched others) :
    Matched (code ++ others) := by
  obtain ⟨tokens, rfl⟩ := h
  obtain ⟨tokens', rfl⟩ := h'
  exact ⟨tokens ++ tokens', Token.lexemesAll_append tokens tokens'⟩

theorem Matched.group
    {content : List Lexeme}
    (h : Matched content)
    (d : Delimiter) :
    Matched (Template.group d content) := by
  obtain ⟨tokens, rfl⟩ := h
  exact ⟨[.group d tokens Span.unplaced Span.unplaced],
    by simp [Token.lexemesAll, Token.lexemes, Template.group]⟩

theorem matched_symbol
    (text : String) :
    Matched (symbol text) :=
  balanced_symbolChars text.toList

theorem matched_flatMap
    {α : Type}
    {f : α → List Lexeme}
    {items : List α}
    (h : ∀ a ∈ items, Matched (f a)) :
    Matched (items.flatMap f) := by
  induction items with
  | nil =>
      exact matched_nil
  | cons a items ih =>
      obtain ⟨ha, hitems⟩ := List.forall_mem_cons.mp h
      exact ha.append (ih hitems)

theorem matched_names
    (texts : List String) :
    Matched (names texts) :=
  matched_flatMap fun text _ => (matched_symbol "::").append (matched_ident (.plain text))

theorem matched_commaSeparated
    {parts : List (List Lexeme)}
    (h : ∀ part ∈ parts, Matched part) :
    Matched (commaSeparated parts) := by
  fun_induction commaSeparated parts with
  | case1 =>
      exact matched_nil
  | case2 part =>
      exact h part List.mem_cons_self
  | case3 part parts _ ih =>
      obtain ⟨hpart, hparts⟩ := List.forall_mem_cons.mp h
      exact (hpart.append (matched_symbol ",")).append (ih hparts)

end Lexeme

end Matching

section Groups

namespace Code

theorem groupEnd_opening
    (depth : Nat)
    (d : Delimiter)
    (code : List Lexeme) :
    groupEnd depth (.opening d :: code) =
      (groupEnd (depth + 1) code).map fun result => (.opening d :: result.1, result.2) := by
  cases depth <;> rfl

mutual

/-- The end of a group is looked for behind every token inside it. -/
theorem groupEnd_lexemes
    (token : Token)
    (depth : Nat)
    (code : List Lexeme) :
    groupEnd depth (token.lexemes ++ code) =
      (groupEnd depth code).map fun result => (token.lexemes ++ result.1, result.2) := by
  match token with
  | .ident i _ =>
      cases depth <;> rfl
  | .punct c spacing _ =>
      cases depth <;> rfl
  | .literal text _ =>
      cases depth <;> rfl
  | .group d content _ _ =>
      simp only [Token.lexemes, List.cons_append, List.append_assoc, List.nil_append]
      rw [groupEnd_opening, groupEnd_lexemesAll content, groupEnd]
      simp [Function.comp_def]

theorem groupEnd_lexemesAll
    (tokens : List Token)
    (depth : Nat)
    (code : List Lexeme) :
    groupEnd depth (Token.lexemesAll tokens ++ code) =
      (groupEnd depth code).map fun result => (Token.lexemesAll tokens ++ result.1, result.2) := by
  match tokens with
  | [] =>
      simp [Token.lexemesAll]
  | token :: tokens =>
      rw [Token.lexemesAll, List.append_assoc, groupEnd_lexemes token,
        groupEnd_lexemesAll tokens]
      simp [Function.comp_def]

end

/-- A group ends behind its content. -/
theorem groupEnd_closing
    {content : List Lexeme}
    (h : Lexeme.Matched content)
    (d : Delimiter)
    (code : List Lexeme) :
    groupEnd 0 (content ++ .closing d :: code) = some (content, code) := by
  obtain ⟨tokens, rfl⟩ := h
  rw [groupEnd_lexemesAll, groupEnd]
  simp

mutual

/-- A token in front of other code holds none of the braces that the code ends in. -/
theorem lastBraces_lexemes
    (token : Token)
    {code : List Lexeme}
    (hcode : code ≠ []) :
    lastBraces (token.lexemes ++ code) = lastBraces code := by
  match token with
  | .ident i _ =>
      rfl
  | .punct c spacing _ =>
      rfl
  | .literal text _ =>
      rfl
  | .group d content _ _ =>
      have hcontent :
          lastBraces (Token.lexemesAll content ++ .closing d :: code) = lastBraces code := by
        rw [lastBraces_lexemesAll content (List.cons_ne_nil _ _)]
        rfl
      simp only [Token.lexemes, List.cons_append, List.append_assoc, List.nil_append]
      cases d with
      | parenthesis =>
          exact hcontent
      | bracket =>
          exact hcontent
      | brace =>
          rw [lastBraces, groupEnd_closing (Lexeme.matched_lexemesAll content)]
          split
          · rename_i heq
            obtain ⟨-, rfl⟩ := Prod.mk.inj (Option.some.inj heq)
            exact absurd rfl hcode
          · exact hcontent

theorem lastBraces_lexemesAll
    (tokens : List Token)
    {code : List Lexeme}
    (hcode : code ≠ []) :
    lastBraces (Token.lexemesAll tokens ++ code) = lastBraces code := by
  match tokens with
  | [] =>
      rfl
  | token :: tokens =>
      have hne : Token.lexemesAll tokens ++ code ≠ [] := by
        simp [hcode]
      rw [Token.lexemesAll, List.append_assoc, lastBraces_lexemes token hne,
        lastBraces_lexemesAll tokens hcode]

end

/-- Code with matching delimiters does not hide the braces behind it. -/
theorem lastBraces_append_braces
    {header body : List Lexeme}
    (hheader : Lexeme.Matched header)
    (hbody : Lexeme.Matched body) :
    lastBraces (header ++ braces body) = some body := by
  obtain ⟨tokens, rfl⟩ := hheader
  have hne : braces body ≠ [] := by
    simp [braces, group]
  rw [lastBraces_lexemesAll tokens hne, braces, group, List.cons_append, lastBraces,
    groupEnd_closing hbody]

end Code

end Groups

section Pieces

namespace Code

theorem expect_append
    (front code : List Lexeme) :
    expect front (front ++ code) = some code := by
  induction front with
  | nil =>
      cases code <;> rfl
  | cons a front ih =>
      simp [expect, ih]

theorem stringValue?_quote
    (style : Text.QuoteStyle)
    (text : String) :
    stringValue? (Text.quote style text) = some text := by
  unfold stringValue?
  rw [Text.quote_toList]
  simp [Text.readQuoted_escape]

theorem string?_append
    (text : String)
    (code : List Lexeme) :
    string? (Template.string text ++ code) = some (text, code) := by
  simp [Template.string, string?, stringValue?_quote]

theorem case?_append
    (case : Ident)
    (code : List Lexeme) :
    case? (selfCase case ++ code) = some (case, code) := by
  unfold case? selfCase
  rw [List.append_assoc, expect_append]
  rfl

theorem readFor_succ_of_piece
    {α : Type}
    {piece : List Lexeme → Option (α × List Lexeme)}
    {stop code rest : List Lexeme}
    {a : α}
    (hstop : code ≠ stop)
    (hpiece : piece code = some (a, rest))
    (n : Nat) :
    readFor piece stop (n + 1) code = (readFor piece stop n rest).map (a :: ·) := by
  rw [readFor, if_neg hstop, hpiece]
  simp only [Option.bind_eq_bind, Option.bind_some]
  cases readFor piece stop n rest <;> rfl

theorem readFor_stop
    {α : Type}
    (piece : List Lexeme → Option (α × List Lexeme))
    (stop : List Lexeme)
    (n : Nat) :
    readFor piece stop n stop = some [] := by
  cases n <;> simp [readFor]

/-- Pieces that are read one by one are all read, up to code that begins like none of them.  Each
takes a lexeme, since one that took none would be the code that stops the reading. -/
theorem readAll_flatMap
    {α β : Type}
    {piece : List Lexeme → Option (β × List Lexeme)}
    {f : α → List Lexeme}
    {g : α → β}
    {stop : List Lexeme}
    {items : List α}
    (hpiece : ∀ a ∈ items, ∀ rest, piece (f a ++ rest) = some (g a, rest))
    (hstop : ∀ a ∈ items, ∀ rest, f a ++ rest ≠ stop) :
    readAll piece stop (items.flatMap f ++ stop) = some (items.map g) := by
  have hne (a : α) (ha : a ∈ items) : 1 ≤ (f a).length := by
    by_contra hshort
    have hnil : f a = [] := List.length_eq_zero_iff.mp (by omega)
    exact hstop a ha stop (by rw [hnil, List.nil_append])
  have hitems : items.length ≤ (items.flatMap f).length := by
    have hlengths :=
      List.length_le_sum_of_one_le (items.map (List.length ∘ f)) (by simpa using hne)
    simpa [List.length_flatMap, Function.comp_def] using hlengths
  have hfor (n : Nat) (hn : items.length ≤ n) :
      readFor piece stop n (items.flatMap f ++ stop) = some (items.map g) := by
    clear hne hitems
    induction items generalizing n with
    | nil =>
        exact readFor_stop piece stop n
    | cons a items ih =>
        obtain ⟨m, rfl⟩ : ∃ m, n = m + 1 := ⟨n - 1, by simp at hn; omega⟩
        obtain ⟨ha, hothers⟩ := List.forall_mem_cons.mp hpiece
        obtain ⟨hastop, hotherstop⟩ := List.forall_mem_cons.mp hstop
        rw [List.flatMap_cons, List.append_assoc,
          readFor_succ_of_piece (hastop _) (ha _), ih hothers hotherstop m (by simpa using hn)]
        rfl
  apply hfor
  rw [List.length_append]
  omega

theorem arm?_append
    (case : Case)
    (code : List Lexeme) :
    arm? (case.armLexemes ++ code) = some ((case.ident, case.rawValue), code) := by
  simp only [arm?, Case.armLexemes, List.append_assoc, case?_append, expect_append,
    string?_append, Option.bind_eq_bind, Option.bind_some]
  rfl

theorem branch?_append
    (branch : Branch)
    (code : List Lexeme) :
    branch? (branch.lexemes ++ code) = some ((branch.pattern, branch.case), code) := by
  have hsplit :
      branch.lexemes ++ code =
        Template.string branch.pattern ++
          ((symbol "=>" ++ optionPath ["Some"] ++ [.opening .parenthesis]) ++
            (selfCase branch.case ++ ((.closing .parenthesis :: symbol ",") ++ code))) := by
    simp [Branch.lexemes, parens, group]
  simp only [branch?, hsplit, case?_append, expect_append, string?_append, Option.bind_eq_bind,
    Option.bind_some]
  rfl

theorem length_le_commaSeparated
    (cases : List Ident) :
    cases.length ≤ (commaSeparated (cases.map selfCase)).length := by
  induction cases with
  | nil =>
      exact Nat.le_refl 0
  | cons case cases ih =>
      have hcase : 1 ≤ (selfCase case).length := by
        simp [selfCase, word]
      cases cases with
      | nil =>
          simpa [commaSeparated] using hcase
      | cons other cases =>
          rw [List.map_cons] at ih
          simp only [List.map_cons, commaSeparated, List.length_append, List.length_cons] at ih ⊢
          omega

theorem element?_last
    (case : Ident) :
    element? (selfCase case ++ [.closing .bracket]) = some (case, [.closing .bracket]) := by
  simp [element?, case?_append]

theorem element?_append
    (case : Ident)
    (code : List Lexeme) :
    element? (selfCase case ++ (symbol "," ++ code)) = some (case, code) := by
  have hcomma : symbol "," ++ code ≠ [.closing .bracket] := by
    simp [symbol, symbolChars]
  simp only [element?, case?_append, expect_append, hcomma, Option.bind_eq_bind,
    Option.bind_some, if_false]
  rfl

/-- The elements of a list are read with the commas between them. -/
theorem readAll_elements
    (cases : List Ident) :
    readAll element? [.closing .bracket]
        (commaSeparated (cases.map selfCase) ++ [.closing .bracket]) =
      some cases := by
  have hne (case : Ident) (rest : List Lexeme) : selfCase case ++ rest ≠ [.closing .bracket] := by
    simp [selfCase, word]
  have hfor (n : Nat) (hn : cases.length ≤ n) :
      readFor element? [.closing .bracket] n
          (commaSeparated (cases.map selfCase) ++ [.closing .bracket]) =
        some cases := by
    induction cases generalizing n with
    | nil =>
        exact readFor_stop element? [.closing .bracket] n
    | cons case cases ih =>
        obtain ⟨m, rfl⟩ : ∃ m, n = m + 1 := ⟨n - 1, by simp at hn; omega⟩
        cases cases with
        | nil =>
            rw [List.map_cons, List.map_nil, commaSeparated,
              readFor_succ_of_piece (hne case _) (element?_last case), readFor_stop]
            rfl
        | cons other cases =>
            have hsplit :
                commaSeparated ((case :: other :: cases).map selfCase) ++ [.closing .bracket] =
                  selfCase case ++
                    (symbol "," ++
                      (commaSeparated ((other :: cases).map selfCase) ++ [.closing .bracket])) := by
              simp [commaSeparated]
            rw [hsplit, readFor_succ_of_piece (hne case _) (element?_append case _),
              ih m (by simpa using hn)]
            rfl
  apply hfor
  have hlength := length_le_commaSeparated cases
  rw [List.length_append]
  omega

end Code

end Pieces

section Implementations

theorem Generics.matched_angleList
    (parameters : List (Separated Parameter))
    (print : Parameter → List Token) :
    Lexeme.Matched (angleList parameters print) := by
  unfold angleList
  split
  · exact Lexeme.matched_nil
  · exact (Lexeme.matched_punct '<' .alone).append
      ((Lexeme.matched_lexemesAll _).append (Lexeme.matched_punct '>' .alone))

theorem Generics.matched_whereLexemes
    (generics : Generics) :
    Lexeme.Matched generics.whereLexemes := by
  unfold whereLexemes
  split
  · exact Lexeme.matched_nil
  · exact (Lexeme.matched_ident (.plain "where")).append
      (Lexeme.matched_flatMap fun c _ => Lexeme.matched_lexemesAll (c.value ++ c.comma))

/-- The body of an implementation is read back. -/
theorem Target.lastBraces_implement
    (target : Target)
    {root body : List Lexeme}
    (hroot : Lexeme.Matched root)
    (hbody : Lexeme.Matched body)
    (trait : String) :
    Code.lastBraces (target.implement root trait body) = some body := by
  apply Code.lastBraces_append_braces _ hbody
  exact (Lexeme.matched_symbol "#")
    |>.append ((Lexeme.matched_ident (.plain "automatically_derived")).group .bracket)
    |>.append (Lexeme.matched_ident (.plain "impl"))
    |>.append (Generics.matched_angleList _ _)
    |>.append hroot
    |>.append (Lexeme.matched_symbol "::")
    |>.append (Lexeme.matched_ident (.plain trait))
    |>.append (Lexeme.matched_ident (.plain "for"))
    |>.append (Lexeme.matched_ident target.name)
    |>.append (Generics.matched_angleList _ _)
    |>.append target.generics.matched_whereLexemes

namespace Code

/-- A function of an implementation. -/
structure Function where
  name : String
  /-- What stands between its name and its body. -/
  signature : List Lexeme
  body : List Lexeme

namespace Function

/-- The code of a function. -/
def lexemes (f : Function) : List Lexeme :=
  word "fn" ++ word f.name ++ f.signature ++ braces f.body

/-- A function can be read if no brace stands in its signature and all delimiters match. -/
structure Readable (f : Function) : Prop where
  unbraced : ∀ a ∈ f.signature, a ≠ .opening .brace
  signature : Lexeme.Matched f.signature
  body : Lexeme.Matched f.body

theorem Readable.matched_lexemes
    {f : Function}
    (h : f.Readable) :
    Lexeme.Matched f.lexemes :=
  (Lexeme.matched_ident (.plain "fn"))
    |>.append (Lexeme.matched_ident (.plain f.name))
    |>.append h.signature
    |>.append (h.body.group .brace)

end Function

theorem function?_append
    {f : Function}
    (h : f.Readable)
    (code : List Lexeme) :
    function? (f.lexemes ++ code) = some ((.plain f.name, f.body), code) := by
  have hskip :
      (f.signature ++ (braces f.body ++ code)).dropWhile (· ≠ .opening .brace) =
        braces f.body ++ code := by
    rw [List.dropWhile_append_of_pos (by simpa using h.unbraced)]
    simp [braces, group]
  have hend : groupEnd 0 ((braces f.body ++ code).drop 1) = some (f.body, code) := by
    simpa [braces, group] using groupEnd_closing h.body .brace code
  unfold function? Function.lexemes
  rw [List.append_assoc, List.append_assoc, List.append_assoc, expect_append]
  change
    (groupEnd 0
        (((f.signature ++ (braces f.body ++ code)).dropWhile (· ≠ .opening .brace)).drop 1)).map
      _ = _
  rw [hskip, hend]
  rfl

/-- Every function of an implementation is found under its name. -/
theorem bodyOf?_implement
    (target : Target)
    {root : List Lexeme}
    (hroot : Lexeme.Matched root)
    (trait : String)
    {functions : List Function}
    (hfunctions : ∀ f ∈ functions, f.Readable)
    (name : String) :
    bodyOf? name (target.implement root trait (functions.flatMap Function.lexemes)) =
      (functions.map fun f => (Ident.plain f.name, f.body)).lookup (.plain name) := by
  have hbody : Lexeme.Matched (functions.flatMap Function.lexemes) :=
    Lexeme.matched_flatMap fun f hf => (hfunctions f hf).matched_lexemes
  have hread :
      readAll function? [] (functions.flatMap Function.lexemes) =
        some (functions.map fun f => (Ident.plain f.name, f.body)) := by
    rw [← List.append_nil (functions.flatMap Function.lexemes)]
    apply readAll_flatMap
    · intro f hf rest
      exact function?_append (hfunctions f hf) rest
    · intro f hf rest
      simp [Function.lexemes, word]
  simp only [bodyOf?, target.lastBraces_implement hroot hbody, hread, Option.bind_eq_bind,
    Option.bind_some]

end Code

section Declarations

theorem matched_selfCase
    (case : Ident) :
    Lexeme.Matched (selfCase case) :=
  (Lexeme.matched_ident (.plain "Self"))
    |>.append (Lexeme.matched_symbol "::")
    |>.append (Lexeme.matched_ident case)

theorem matched_methodCall
    (name : String) :
    Lexeme.Matched (methodCall name) :=
  (Lexeme.matched_symbol ".")
    |>.append (Lexeme.matched_ident (.plain name))
    |>.append (Lexeme.matched_nil.group .parenthesis)

theorem Branch.matched_lexemes
    (branch : Branch) :
    Lexeme.Matched branch.lexemes :=
  (Lexeme.matched_literal _)
    |>.append (Lexeme.matched_symbol "=>")
    |>.append (Lexeme.matched_names _)
    |>.append ((matched_selfCase branch.case).group .parenthesis)
    |>.append (Lexeme.matched_symbol ",")

theorem Case.matched_armLexemes
    (case : Case) :
    Lexeme.Matched case.armLexemes :=
  (matched_selfCase case.ident)
    |>.append (Lexeme.matched_symbol "=>")
    |>.append (Lexeme.matched_literal _)
    |>.append (Lexeme.matched_symbol ",")

theorem matched_selfAs
    {root : List Lexeme}
    (hroot : Lexeme.Matched root)
    (trait : String) :
    Lexeme.Matched (selfAs root trait) :=
  (Lexeme.matched_symbol "<")
    |>.append (Lexeme.matched_ident (.plain "Self"))
    |>.append (Lexeme.matched_ident (.plain "as"))
    |>.append hroot
    |>.append (Lexeme.matched_symbol "::")
    |>.append (Lexeme.matched_ident (.plain trait))
    |>.append (Lexeme.matched_symbol ">")

namespace Lookup

theorem matched_tableLexemes
    (branches : List Branch) :
    Lexeme.Matched (tableLexemes branches) := by
  have hbranches : Lexeme.Matched (branches.flatMap Branch.lexemes) :=
    Lexeme.matched_flatMap fun branch _ => branch.matched_lexemes
  have hbody :=
    hbranches
      |>.append (Lexeme.matched_ident (.plain "_"))
      |>.append (Lexeme.matched_symbol "=>")
      |>.append (Lexeme.matched_names ["std", "option", "Option", "None"])
      |>.append (Lexeme.matched_symbol ",")
  exact (Lexeme.matched_ident (.plain "match"))
    |>.append (Lexeme.matched_ident (.plain "raw_value"))
    |>.append (matched_methodCall "to_lowercase")
    |>.append (matched_methodCall "as_str")
    |>.append (hbody.group .brace)

theorem matched_searchLexemes
    {root : List Lexeme}
    (hroot : Lexeme.Matched root) :
    Lexeme.Matched (searchLexemes root) := by
  have hcompare :=
    (matched_selfAs hroot "CaseInsensitive")
      |>.append (Lexeme.matched_symbol "::")
      |>.append (Lexeme.matched_ident (.plain "raw_value"))
      |>.append ((Lexeme.matched_ident (.plain "case")).group .parenthesis)
      |>.append (matched_methodCall "to_lowercase")
      |>.append (Lexeme.matched_symbol "==")
      |>.append (Lexeme.matched_ident (.plain "raw_value"))
  have hclosure :=
    (Lexeme.matched_symbol "|")
      |>.append (Lexeme.matched_ident (.plain "case"))
      |>.append (Lexeme.matched_symbol "|")
      |>.append (hcompare.group .brace)
  exact (Lexeme.matched_ident (.plain "let"))
    |>.append (Lexeme.matched_ident (.plain "raw_value"))
    |>.append (Lexeme.matched_symbol "=")
    |>.append (Lexeme.matched_ident (.plain "raw_value"))
    |>.append (matched_methodCall "to_lowercase")
    |>.append (Lexeme.matched_symbol ";")
    |>.append (matched_selfAs hroot "CaseIterable")
    |>.append (Lexeme.matched_symbol "::")
    |>.append (Lexeme.matched_ident (.plain "all_cases"))
    |>.append (Lexeme.matched_nil.group .parenthesis)
    |>.append (matched_methodCall "into_iter")
    |>.append (Lexeme.matched_symbol ".")
    |>.append (Lexeme.matched_ident (.plain "find"))
    |>.append (hclosure.group .parenthesis)

theorem matched_lexemes
    {root : List Lexeme}
    (hroot : Lexeme.Matched root)
    (lookup : Lookup) :
    Lexeme.Matched (lookup.lexemes root) := by
  cases lookup with
  | branchTable branches =>
      exact matched_tableLexemes branches
  | allCases =>
      exact matched_searchLexemes hroot

end Lookup

namespace Initializer

/-- The signature of the function that looks a case up. -/
def lookupSignature : List Lexeme :=
  parens (word "raw_value" ++ symbol ":" ++ symbol "&" ++ word "str") ++ symbol "->" ++
    optionPath [] ++ symbol "<" ++ word "Self" ++ symbol ">"

/-- The signature of the function that gives raw values. -/
def rawValueSignature : List Lexeme :=
  parens (symbol "&" ++ word "self") ++ symbol "->" ++ symbol "&" ++ lifetime "static" ++ word "str"

/-- The functions of an initializer. -/
def functions (i : Initializer) : List Code.Function :=
  [{ name := "from_raw_value"
     signature := lookupSignature
     body := i.lookup.lexemes i.root },
   { name := "raw_value"
     signature := rawValueSignature
     body :=
       word "match" ++ symbol "*" ++ word "self" ++ braces (i.cases.flatMap Case.armLexemes) }]

theorem lexemes_eq_functions
    (i : Initializer) :
    i.lexemes =
      i.target.implement i.root "CaseInsensitive" (i.functions.flatMap Code.Function.lexemes) := by
  simp [lexemes, functions, lookupSignature, rawValueSignature, Code.Function.lexemes,
    fromRawValueLexemes, rawValueLexemes]

theorem readable_functions
    {i : Initializer}
    (hroot : Lexeme.Matched i.root) :
    ∀ f ∈ i.functions, f.Readable := by
  have harms : Lexeme.Matched (i.cases.flatMap Case.armLexemes) :=
    Lexeme.matched_flatMap fun case _ => case.matched_armLexemes
  have hparameter :=
    (Lexeme.matched_ident (.plain "raw_value"))
      |>.append (Lexeme.matched_symbol ":")
      |>.append (Lexeme.matched_symbol "&")
      |>.append (Lexeme.matched_ident (.plain "str"))
  have hself := (Lexeme.matched_symbol "&").append (Lexeme.matched_ident (.plain "self"))
  have hstatic :=
    (Lexeme.matched_punct '\x27' .joint).append (Lexeme.matched_ident (.plain "static"))
  have hlookup : ∀ a ∈ lookupSignature, a ≠ .opening .brace := by decide
  have hrawValue : ∀ a ∈ rawValueSignature, a ≠ .opening .brace := by decide
  rw [functions, List.forall_mem_cons, List.forall_mem_singleton]
  refine ⟨⟨hlookup, ?_, Lookup.matched_lexemes hroot i.lookup⟩, ⟨hrawValue, ?_, ?_⟩⟩
  · exact (hparameter.group .parenthesis)
      |>.append (Lexeme.matched_symbol "->")
      |>.append (Lexeme.matched_names _)
      |>.append (Lexeme.matched_symbol "<")
      |>.append (Lexeme.matched_ident (.plain "Self"))
      |>.append (Lexeme.matched_symbol ">")
  · exact (hself.group .parenthesis)
      |>.append (Lexeme.matched_symbol "->")
      |>.append (Lexeme.matched_symbol "&")
      |>.append hstatic
      |>.append (Lexeme.matched_ident (.plain "str"))
  · exact (Lexeme.matched_ident (.plain "match"))
      |>.append (Lexeme.matched_symbol "*")
      |>.append (Lexeme.matched_ident (.plain "self"))
      |>.append (harms.group .brace)

/-- The arms for raw values are those of all cases. -/
theorem rawValueArms?_lexemes
    {i : Initializer}
    (hroot : Lexeme.Matched i.root) :
    Code.rawValueArms? i.lexemes = some (i.cases.map fun c => (c.ident, c.rawValue)) := by
  have hbody :
      Code.bodyOf? "raw_value" i.lexemes =
        some
          ((word "match" ++ symbol "*" ++ word "self" ++ [.opening .brace]) ++
            (i.cases.flatMap Case.armLexemes ++ [.closing .brace])) := by
    rw [lexemes_eq_functions, Code.bodyOf?_implement _ hroot _ (readable_functions hroot)]
    change
      some (word "match" ++ symbol "*" ++ word "self" ++ braces (i.cases.flatMap Case.armLexemes)) =
        _
    simp [braces, group]
  have harms :
      Code.readAll Code.arm? [.closing .brace]
          (i.cases.flatMap Case.armLexemes ++ [.closing .brace]) =
        some (i.cases.map fun c => (c.ident, c.rawValue)) := by
    apply Code.readAll_flatMap
    · intro case _ rest
      exact Code.arm?_append case rest
    · intro case _ rest
      simp [Case.armLexemes, selfCase, word]
  simp only [Code.rawValueArms?, hbody, Code.expect_append, harms, Option.bind_eq_bind,
    Option.bind_some]

theorem bodyOf?_fromRawValue
    {i : Initializer}
    (hroot : Lexeme.Matched i.root) :
    Code.bodyOf? "from_raw_value" i.lexemes = some (i.lookup.lexemes i.root) := by
  rw [lexemes_eq_functions, Code.bodyOf?_implement _ hroot _ (readable_functions hroot)]
  rfl

/-- The branches that are read are those of the table. -/
theorem branches?_lexemes_branchTable
    {i : Initializer}
    (hroot : Lexeme.Matched i.root)
    {branches : List Branch}
    (hlookup : i.lookup = .branchTable branches) :
    Code.branches? i.lexemes = some (branches.map fun b => (b.pattern, b.case)) := by
  have hsplit :
      i.lookup.lexemes i.root =
        (word "match" ++ word "raw_value" ++ methodCall "to_lowercase" ++ methodCall "as_str" ++
            [.opening .brace]) ++
          (branches.flatMap Branch.lexemes ++
            (word "_" ++ symbol "=>" ++ optionPath ["None"] ++ symbol "," ++
              [.closing .brace])) := by
    simp [hlookup, Lookup.lexemes, Lookup.tableLexemes, braces, group]
  have hbranches :
      Code.readAll Code.branch?
          (word "_" ++ symbol "=>" ++ optionPath ["None"] ++ symbol "," ++ [.closing .brace])
          (branches.flatMap Branch.lexemes ++
            (word "_" ++ symbol "=>" ++ optionPath ["None"] ++ symbol "," ++
              [.closing .brace])) =
        some (branches.map fun b => (b.pattern, b.case)) := by
    apply Code.readAll_flatMap
    · intro branch _ rest
      exact Code.branch?_append branch rest
    · intro branch _ rest
      simp [Branch.lexemes, Template.string, word]
  simp only [Code.branches?, bodyOf?_fromRawValue hroot, hsplit, Code.expect_append, hbranches,
    Option.bind_eq_bind, Option.bind_some]

/-- A search has no branches. -/
theorem branches?_lexemes_allCases
    {i : Initializer}
    (hroot : Lexeme.Matched i.root)
    (hlookup : i.lookup = .allCases) :
    Code.branches? i.lexemes = none := by
  simp [Code.branches?, bodyOf?_fromRawValue hroot, hlookup, Lookup.lexemes,
    Lookup.searchLexemes, word, Code.expect, Ident.plain]

end Initializer

namespace Extension

/-- The signature of the function for all cases. -/
def signature : List Lexeme :=
  parens [] ++ symbol "->" ++ names ["std", "vec", "Vec"] ++ symbol "<" ++ word "Self" ++ symbol ">"

/-- The function of an extension. -/
def functions (e : Extension) : List Code.Function :=
  [{ name := "all_cases"
     signature := signature
     body :=
       names ["std", "vec"] ++ symbol "!" ++ brackets (commaSeparated (e.cases.map selfCase)) }]

theorem readable_functions
    (e : Extension) :
    ∀ f ∈ e.functions, f.Readable := by
  have hcases : Lexeme.Matched (commaSeparated (e.cases.map selfCase)) := by
    apply Lexeme.matched_commaSeparated
    intro part hpart
    obtain ⟨case, -, rfl⟩ := List.mem_map.mp hpart
    exact matched_selfCase case
  have hsignature : ∀ a ∈ signature, a ≠ .opening .brace := by decide
  rw [functions, List.forall_mem_singleton]
  refine ⟨hsignature, ?_, ?_⟩
  · exact (Lexeme.matched_nil.group .parenthesis)
      |>.append (Lexeme.matched_symbol "->")
      |>.append (Lexeme.matched_names _)
      |>.append (Lexeme.matched_symbol "<")
      |>.append (Lexeme.matched_ident (.plain "Self"))
      |>.append (Lexeme.matched_symbol ">")
  · exact (Lexeme.matched_names _)
      |>.append (Lexeme.matched_symbol "!")
      |>.append (hcases.group .bracket)

/-- The elements of the list are the cases of the extension. -/
theorem allCases?_lexemes
    {e : Extension}
    (hroot : Lexeme.Matched e.root) :
    Code.allCases? e.lexemes = some e.cases := by
  have hlexemes :
      e.lexemes =
        e.target.implement e.root "CaseIterable" (e.functions.flatMap Code.Function.lexemes) := by
    simp [lexemes, functions, signature, Code.Function.lexemes]
  have hbody :
      Code.bodyOf? "all_cases" e.lexemes =
        some
          ((names ["std", "vec"] ++ symbol "!" ++ [.opening .bracket]) ++
            (commaSeparated (e.cases.map selfCase) ++ [.closing .bracket])) := by
    rw [hlexemes, Code.bodyOf?_implement _ hroot _ e.readable_functions]
    simp [functions, brackets, group]
  simp only [Code.allCases?, hbody, Code.expect_append, Code.readAll_elements,
    Option.bind_eq_bind, Option.bind_some]

end Extension

end Declarations

end Implementations

section Roots

theorem Setting.Stands.matched_path
    {tokens rest : List Token}
    {setting : Setting}
    (h : Stands tokens setting rest)
    {path : List Lexeme}
    (hpath : setting.path? = some path) :
    Lexeme.Matched path := by
  cases h with
  | allCases =>
      cases hpath
  | @root _ _ _ _ read =>
      obtain rfl : Token.lexemesAll read = path := by simpa [path?] using hpath
      exact Lexeme.matched_lexemesAll read

theorem Setting.Listed.matched_path
    {tokens : List Token}
    {settings : List Setting}
    (h : Listed tokens settings) :
    ∀ path ∈ settings.filterMap path?, Lexeme.Matched path := by
  simp only [List.mem_filterMap]
  rintro path ⟨setting, hmem, hpath⟩
  induction h with
  | nil =>
      cases hmem
  | last hfirst =>
      obtain rfl := List.mem_singleton.mp hmem
      exact hfirst.matched_path hpath
  | cons spacing comma hfirst hrest ih =>
      rcases List.mem_cons.mp hmem with rfl | hmem
      · exact hfirst.matched_path hpath
      · exact ih hmem

theorem Context.matched_paths
    {attributes : List Attribute}
    {lists : List (List Setting)}
    (h : List.Forall₂ (fun a settings => settingsOf a = .ok settings) attributes lists) :
    ∀ path ∈ lists.flatten.filterMap Setting.path?, Lexeme.Matched path := by
  induction h with
  | nil =>
      simp
  | @cons a settings _ _ hread _ ih =>
      obtain ⟨_, _, _, _, -, hlisted⟩ := (settingsOf_eq_ok_iff a settings).mp hread
      rw [List.flatten_cons, List.filterMap_append, List.forall_mem_append]
      exact ⟨hlisted.matched_path, ih⟩

/-- The path under which the traits are found has matching delimiters, be it set or not. -/
theorem Context.matched_root
    {attributes : List Attribute}
    {context : Context}
    (h : ofAttributes attributes = .ok context) :
    Lexeme.Matched context.root := by
  obtain ⟨settings, hsettings, rfl⟩ := (ofAttributes_eq_ok_iff _ _).mp h
  obtain ⟨lists, hlists, rfl⟩ := (settingsOfAll_eq_ok_iff _ _).mp hsettings
  rw [root_foldl_set]
  cases hlast : (lists.flatten.filterMap Setting.path?).getLast? with
  | none =>
      exact Lexeme.matched_names ["case_insensitive"]
  | some path =>
      exact matched_paths hlists path (List.mem_of_getLast? hlast)

end Roots

section Agreement

/-- An expansion that succeeds generates the declarations for the variants of an enum. -/
theorem generated_of_expand_eq_ok
    {item : Item}
    {generated : List Generated}
    (h : expand item = .ok generated) :
    ∃ variants context,
      item.body = .enum variants ∧
      Context.ofAttributes item.attributes = .ok context ∧
      generated = generate item.target (variants.map Variant.asCase) context := by
  rcases item.expandable_or_reported with hexpandable | ⟨text, hreported⟩
  · obtain ⟨context, hcontext, hok⟩ := hexpandable.expand_eq_ok
    obtain rfl := Except.ok.inj (hok.symm.trans h)
    exact ⟨item.variants, context, item.kind_eq_enum_iff.mp hexpandable.kind, hcontext, rfl⟩
  · obtain ⟨failure, herror, -⟩ := Item.expand_of_reported hreported
    simp [h] at herror

/-- The arms for raw values name every variant once and in order, with the raw value that is its
name without the raw mark; so does the list of all cases, if there is one.  The branches select
none but these variants, each at most once and in order, and a search has no branches. -/
theorem accessors_keep_every_variant
    {item : Item}
    {generated : List Generated}
    (h : expand item = .ok generated) :
    ∃ variants context,
      item.body = .enum variants ∧
      Context.ofAttributes item.attributes = .ok context ∧
      match context.strategy with
      | .branchTable =>
          ∃ initializer branches,
            generated.map Generated.lexemes = [initializer] ∧
            Code.rawValueArms? initializer =
              some (variants.map fun v => (v.name.ident, v.name.ident.name)) ∧
            Code.branches? initializer = some branches ∧
            (branches.map Prod.snd).Sublist (variants.map (·.name.ident))
      | .allCases =>
          ∃ initializer extension,
            generated.map Generated.lexemes = [initializer, extension] ∧
            Code.rawValueArms? initializer =
              some (variants.map fun v => (v.name.ident, v.name.ident.name)) ∧
            Code.bodyOf? "from_raw_value" initializer =
              some (Lookup.searchLexemes context.root) ∧
            Code.branches? initializer = none ∧
            Code.allCases? extension = some (variants.map (·.name.ident)) := by
  obtain ⟨variants, context, hbody, hcontext, rfl⟩ := generated_of_expand_eq_ok h
  have hroot := Context.matched_root hcontext
  have harms :
      (variants.map Variant.asCase).map (fun c => (c.ident, c.rawValue)) =
        variants.map fun v => (v.name.ident, v.name.ident.name) := by
    simp [Variant.asCase]
  have hidents :
      (variants.map Variant.asCase).map (·.ident) = variants.map (·.name.ident) := by
    simp [Variant.asCase]
  refine ⟨variants, context, hbody, hcontext, ?_⟩
  unfold generate
  cases context.strategy with
  | branchTable =>
      have hsublist := Branch.sublist_tableFrom [] (variants.map Variant.asCase)
      rw [hidents] at hsublist
      refine ⟨_, _, rfl, ?_, Initializer.branches?_lexemes_branchTable hroot rfl, ?_⟩
      · rw [← harms]
        exact Initializer.rawValueArms?_lexemes hroot
      · rw [List.map_map]
        exact hsublist
  | allCases =>
      refine ⟨_, _, rfl, ?_, Initializer.bodyOf?_fromRawValue hroot,
        Initializer.branches?_lexemes_allCases hroot rfl, ?_⟩
      · rw [← harms]
        exact Initializer.rawValueArms?_lexemes hroot
      · rw [← hidents]
        exact Extension.allCases?_lexemes hroot

/-- Of `Tokyo`, `TOKYO` and `r#type` all keep their arms, although `TOKYO` selects nothing. -/
theorem accessors_keep_every_variant_collision :
    let variant : Ident → Variant := fun i => ⟨[], ⟨i, Span.unplaced⟩, [], [], []⟩
    let idents : List Ident := [.plain "Tokyo", .plain "TOKYO", ⟨"type", true⟩]
    let item : Item :=
      { Item.declaring [(.parenthesis, [.ident (.plain "String") Span.unplaced])] with
        body := .enum (idents.map variant) }
    ∃ generated initializer,
      expand item = .ok generated ∧
      generated.map Generated.lexemes = [initializer] ∧
      Code.rawValueArms? initializer =
        some [(.plain "Tokyo", "Tokyo"), (.plain "TOKYO", "TOKYO"), (⟨"type", true⟩, "type")] := by
  intro variant idents item
  have hcontext : Context.ofAttributes item.attributes = .ok .default := rfl
  have hexpandable : item.Expandable := by
    have hfirst : ∃ a, Attribute.FirstNamed item.attributes "raw_value" a ∧ a.HoldsString :=
      ⟨_, ⟨⟨Span.unplaced, rfl⟩, [], _, rfl, by simp⟩, .parenthesis, _, _, _, rfl⟩
    have hstring : item.requireStringRawValue = .ok () := by
      obtain ⟨a, ha, hstring⟩ := hfirst
      rw [Item.requireStringRawValue, Item.rawValueAttribute,
        Attribute.find_isNamed_eq_some_iff.mpr ha]
      exact (Item.checkDeclaredType_eq_ok_iff a).mpr hstring
    refine ⟨?_, rfl, hstring, ?_⟩
    · exact (Context.exists_ofAttributes_eq_ok_iff item.attributes).mp ⟨_, hcontext⟩
    · simp [item, Item.variants, idents, variant, Variant.IsPlain, Variant.hasFields,
        Variant.hasDiscriminant]
  obtain ⟨_, -, hok⟩ := hexpandable.expand_eq_ok
  obtain ⟨variants, context, hbody, hset, hlists⟩ := accessors_keep_every_variant hok
  obtain rfl : idents.map variant = variants := Body.enum.inj hbody
  obtain rfl : Context.default = context := Except.ok.inj (hcontext.symm.trans hset)
  obtain ⟨initializer, _, hcode, harms, -⟩ := hlists
  exact ⟨_, initializer, hok, hcode, harms⟩

end Agreement

end Caseless
