import Caseless.Proofs.Accessors
import Caseless.Proofs.Declarations

/-!
# Generic parameters in generated headers

An implementation binds the parameters of an enum and gives their names to the type.  Both lists
print the same parameters in the same order, lifetimes first, so an argument always means the
parameter that is bound at its place.

In the text a comma stands behind each parameter but the last.  Moving the lifetimes to the front
moves their commas too, and the one that the last parameter may lack is put in where it is needed.
The relation `Separated.Punctuated` says how commas stand in the text, and
`lexemesAll_lifetimesFirst` that they separate the reordered list as well.  The main result is
`implementations_repeat_generics`.
-/

namespace Caseless

open Template

section Commas

variable {α : Type}

namespace Separated

/-- A comma stands behind each entry but the last, and perhaps one behind the last. -/
inductive Punctuated : List (Separated α) → Prop
  | nil :
      Punctuated []
  | last
      (value : α) :
      Punctuated [⟨value, []⟩]
  | cons
      (value : α)
      (comma : Span)
      {rest : List (Separated α)}
      (hrest : Punctuated rest) :
      Punctuated (⟨value, [.punct ',' .alone comma]⟩ :: rest)

/-- Entries stay punctuated when some of them are left out. -/
theorem Punctuated.sublist
    {entries others : List (Separated α)}
    (h : Punctuated entries)
    (hsublist : others.Sublist entries) :
    Punctuated others := by
  induction h generalizing others with
  | nil =>
      obtain rfl := List.sublist_nil.mp hsublist
      exact .nil
  | last value =>
      rcases List.sublist_singleton.mp hsublist with rfl | rfl
      · exact .nil
      · exact .last value
  | cons value comma hrest ih =>
      cases hsublist with
      | cons _ hsublist =>
          exact ih hsublist
      | cons_cons _ hsublist =>
          exact .cons value comma (ih hsublist)

/-- Whether a comma stands behind the last entry. -/
def trails (entries : List (Separated α)) : Bool :=
  match entries.getLast? with
  | some entry => !entry.comma.isEmpty
  | none => false

theorem trails_append
    (entries : List (Separated α))
    {others : List (Separated α)}
    (h : others ≠ []) :
    trails (entries ++ others) = trails others := by
  rw [trails, List.getLast?_append_of_ne_nil entries h]
  rfl

/-- The code of a comma that may be missing. -/
def commaIf (present : Bool) : List Lexeme :=
  if present then symbol "," else []

theorem commaIf_trails_nil :
    commaIf (trails ([] : List (Separated α))) = [] :=
  rfl

/-- Punctuated entries are printed as parts with commas between them. -/
theorem Punctuated.flatMap_lexemesAll
    {entries : List (Separated α)}
    (h : Punctuated entries)
    (print : α → List Token) :
    (entries.flatMap fun e => Token.lexemesAll (print e.value ++ e.comma)) =
      commaSeparated (entries.map fun e => Token.lexemesAll (print e.value)) ++
        commaIf (trails entries) := by
  induction h with
  | nil =>
      rfl
  | last value =>
      simp [commaSeparated, commaIf, trails]
  | @cons value comma rest hrest ih =>
      have hcomma : Token.lexemesAll [.punct ',' .alone comma] = symbol "," := rfl
      cases rest with
      | nil =>
          simp [commaSeparated, commaIf, trails, Token.lexemesAll_append, hcomma]
      | cons entry rest =>
          have htrails :=
            trails_append [⟨value, [.punct ',' .alone comma]⟩] (List.cons_ne_nil entry rest)
          rw [List.singleton_append] at htrails
          rw [List.flatMap_cons, ih, htrails, Token.lexemesAll_append, hcomma]
          simp [commaSeparated]

end Separated

theorem commaSeparated_append
    {parts others : List (List Lexeme)}
    (hparts : parts ≠ [])
    (hothers : others ≠ []) :
    commaSeparated (parts ++ others) =
      commaSeparated parts ++ symbol "," ++ commaSeparated others := by
  obtain ⟨other, others, rfl⟩ := List.exists_cons_of_ne_nil hothers
  induction parts with
  | nil =>
      exact absurd rfl hparts
  | cons part parts ih =>
      cases parts with
      | nil =>
          rfl
      | cons next parts =>
          have htail := ih (List.cons_ne_nil next parts)
          simp only [List.cons_append, commaSeparated] at htail ⊢
          rw [htail]
          simp

end Commas

section Order

namespace Separated

variable {α : Type}

/-- Entries with those that pass a test in front, in their order otherwise. -/
def moved (first : α → Bool) (entries : List (Separated α)) : List (Separated α) :=
  entries.filter (fun e => first e.value) ++ entries.filter (fun e => !first e.value)

end Separated

theorem Token.lexemesAll_flatMap
    {α : Type}
    (print : α → List Token)
    (items : List α) :
    lexemesAll (items.flatMap print) = items.flatMap fun a => lexemesAll (print a) := by
  induction items with
  | nil =>
      rfl
  | cons a items ih =>
      rw [List.flatMap_cons, lexemesAll_append, ih, List.flatMap_cons]

theorem Entry.lacksComma_nil_right
    (entries : List Entry) :
    lacksComma entries [] = false := by
  unfold lacksComma
  split
  · rename_i heq
    cases heq
  · rfl

/-- The parameter that a comma may be lacking behind is the last one of the first list. -/
theorem Entry.lacksComma_map
    {entry : Separated Parameter → Entry}
    (hcomma : ∀ p, (entry p).comma = p.comma)
    {parameters others : List (Separated Parameter)}
    (hparameters : parameters ≠ [])
    (hothers : others ≠ []) :
    lacksComma (parameters.map entry) (others.map entry) = !Separated.trails parameters := by
  obtain ⟨other, others, rfl⟩ := List.exists_cons_of_ne_nil hothers
  cases hlast : parameters.getLast? with
  | none =>
      exact absurd (List.getLast?_eq_none_iff.mp hlast) hparameters
  | some last =>
      simp [lacksComma, Separated.trails, hlast, hcomma]

/-- Two punctuated lists, with a comma put in between them if it is lacking, make up one. -/
theorem Separated.Punctuated.lexemesAll_join
    {parameters others : List (Separated Parameter)}
    (hparameters : Punctuated parameters)
    (hothers : Punctuated others)
    (print : Parameter → List Token)
    {entry : Separated Parameter → Entry}
    (htokens : ∀ p, (entry p).tokens = print p.value)
    (hcomma : ∀ p, (entry p).comma = p.comma) :
    Token.lexemesAll
        (Entry.printAll (parameters.map entry) ++
          (if Entry.lacksComma (parameters.map entry) (others.map entry) then
            [Entry.insertedComma] else []) ++
          Entry.printAll (others.map entry)) =
      commaSeparated ((parameters ++ others).map fun p => Token.lexemesAll (print p.value)) ++
        commaIf (trails (parameters ++ others)) := by
  have hprint {entries : List (Separated Parameter)} (h : Punctuated entries) :
      Token.lexemesAll (Entry.printAll (entries.map entry)) =
        commaSeparated (entries.map fun p => Token.lexemesAll (print p.value)) ++
          commaIf (trails entries) := by
    rw [← h.flatMap_lexemesAll, Entry.printAll, Token.lexemesAll_flatMap, List.flatMap_map]
    simp only [htokens, hcomma]
  rw [Token.lexemesAll_append, Token.lexemesAll_append, hprint hparameters, hprint hothers]
  by_cases hfirst : parameters = []
  · subst hfirst
    rfl
  by_cases hsecond : others = []
  · subst hsecond
    rw [List.map_nil, Entry.lacksComma_nil_right]
    simp [Token.lexemesAll, commaSeparated, commaIf_trails_nil]
  have hbetween :
      commaIf (trails parameters) ++
          Token.lexemesAll
            (if Entry.lacksComma (parameters.map entry) (others.map entry) then
              [Entry.insertedComma] else []) =
        symbol "," := by
    rw [Entry.lacksComma_map hcomma hfirst hsecond]
    cases trails parameters <;> rfl
  rw [List.append_assoc (commaSeparated _), hbetween, List.map_append,
    commaSeparated_append (by simpa using hfirst) (by simpa using hsecond),
    trails_append parameters hsecond]
  simp only [List.append_assoc]

/-- Punctuated parameters with the lifetimes first are printed as parts with commas between
them: if the last parameter is a lifetime without a comma and is moved, a comma is put in. -/
theorem lexemesAll_lifetimesFirst
    {parameters : List (Separated Parameter)}
    (h : Separated.Punctuated parameters)
    (print : Parameter → List Token) :
    Token.lexemesAll
        (Entry.lifetimesFirst
          (parameters.map fun p => ⟨p.value.isLifetime, print p.value, p.comma⟩)) =
      commaSeparated
          ((Separated.moved Parameter.isLifetime parameters).map fun p =>
            Token.lexemesAll (print p.value)) ++
        Separated.commaIf (Separated.trails (Separated.moved Parameter.isLifetime parameters)) := by
  have hlifetimes := h.sublist (List.filter_sublist (p := fun p => p.value.isLifetime))
  have hothers := h.sublist (List.filter_sublist (p := fun p => !p.value.isLifetime))
  unfold Entry.lifetimesFirst
  simp only [List.filter_map]
  exact hlifetimes.lexemesAll_join hothers print (fun _ => rfl) (fun _ => rfl)

end Order

section Reading

variable {α : Type}

/-- A step of a repetition gives entries with a property, and reads a comma behind each but the
last. -/
def Separated.Fits (P : α → Prop) : Parser.Step (Separated α) → Prop
  | .done => True
  | .last entry => P entry.value ∧ entry.comma = []
  | .again entry => P entry.value ∧ ∃ comma, entry.comma = [.punct ',' .alone comma]

/-- If every step fits, a repetition gives punctuated entries with the property. -/
theorem Separated.punctuated_of_repeatUpTo
    {P : α → Prop}
    {p : Parser (Parser.Step (Separated α))}
    (hfits : ∀ c step d, p c = .ok (step, d) → Fits P step)
    {n : Nat}
    {c d : Cursor}
    {entries : List (Separated α)}
    (h : Parser.repeatUpTo p n c = .ok (entries, d)) :
    Punctuated entries ∧ ∀ entry ∈ entries, P entry.value := by
  induction n generalizing c d entries with
  | zero =>
      cases h
  | succ n ih =>
      obtain ⟨step, c', hstep, hgo⟩ := Parser.bind_eq_ok_iff.mp h
      have hstep := hfits _ _ _ hstep
      cases step with
      | done =>
          obtain ⟨rfl, -⟩ := Parser.pure_eq_ok_iff.mp hgo
          exact ⟨.nil, by simp⟩
      | last entry =>
          obtain ⟨rfl, -⟩ := Parser.pure_eq_ok_iff.mp hgo
          obtain ⟨value, _⟩ := entry
          obtain ⟨hvalue, rfl⟩ := hstep
          exact ⟨.last value, by simpa using hvalue⟩
      | again entry =>
          obtain ⟨others, d', hothers, hpure⟩ := Parser.bind_eq_ok_iff.mp hgo
          obtain ⟨rfl, -⟩ := Parser.pure_eq_ok_iff.mp hpure
          obtain ⟨value, _⟩ := entry
          obtain ⟨hvalue, comma, rfl⟩ := hstep
          obtain ⟨hrest, hvalues⟩ := ih hothers
          exact ⟨.cons value comma hrest, List.forall_mem_cons.mpr ⟨hvalue, hvalues⟩⟩

namespace Parameter

/-- A lifetime is named by a lifetime, and every other parameter by one identifier. -/
def Named (p : Parameter) : Prop :=
  ∃ i,
    Token.lexemesAll p.nameTokens =
      if p.isLifetime then [.punct '\x27' .joint, .ident i] else [.ident i]

theorem named_lifetime
    {attributes name : List Token}
    {c d : Cursor}
    (h : Terminal.lifetime.read c = .ok (name, d))
    (bounds : List Token) :
    (lifetime attributes name bounds).Named := by
  obtain ⟨rest, htake, -⟩ := Parser.takeOr_eq_ok_iff.mp h
  unfold Terminal.take at htake
  split at htake
  case h_6 =>
    cases htake
    exact ⟨_, rfl⟩
  all_goals contradiction

theorem lexemesAll_of_read_ident
    {name : List Token}
    {c d : Cursor}
    (h : Terminal.ident.read c = .ok (name, d)) :
    ∃ i, Token.lexemesAll name = [.ident i] := by
  obtain ⟨rest, htake, -⟩ := Parser.takeOr_eq_ok_iff.mp h
  obtain ⟨i, span, -, rfl⟩ := Terminal.takesName_ident _ _ _ htake
  exact ⟨i, rfl⟩

theorem lexemesAll_of_read_keyword
    {w : String}
    {name : List Token}
    {c d : Cursor}
    (h : (Terminal.keyword w).read c = .ok (name, d)) :
    ∃ i, Token.lexemesAll name = [.ident i] := by
  obtain ⟨rest, htake, -⟩ := Parser.takeOr_eq_ok_iff.mp h
  obtain ⟨i, span, rfl, -⟩ := Terminal.exists_of_take_keyword htake
  exact ⟨i, rfl⟩

/-- A parameter is read with its name. -/
theorem named_of_parseBehind
    {attributes : List Token}
    {c d : Cursor}
    {p : Parameter}
    (h : parseBehind attributes c = .ok (p, d)) :
    p.Named := by
  unfold parseBehind at h
  obtain ⟨b, c₀, -, h⟩ := Parser.bind_eq_ok_iff.mp h
  cases b with
  | true =>
      obtain ⟨name, c₁, hname, h⟩ := Parser.bind_eq_ok_iff.mp h
      obtain ⟨bounds, c₂, -, h⟩ := Parser.bind_eq_ok_iff.mp h
      obtain ⟨rfl, -⟩ := Parser.pure_eq_ok_iff.mp h
      exact named_lifetime hname bounds
  | false =>
  obtain ⟨b, c₀, -, h⟩ := Parser.bind_eq_ok_iff.mp h
  cases b with
  | true =>
      obtain ⟨name, c₁, hname, h⟩ := Parser.bind_eq_ok_iff.mp h
      obtain ⟨bounds, c₂, -, h⟩ := Parser.bind_eq_ok_iff.mp h
      obtain ⟨default, c₃, -, h⟩ := Parser.bind_eq_ok_iff.mp h
      obtain ⟨rfl, -⟩ := Parser.pure_eq_ok_iff.mp h
      exact lexemesAll_of_read_ident hname
  | false =>
  obtain ⟨b, c₀, -, h⟩ := Parser.bind_eq_ok_iff.mp h
  cases b with
  | true =>
      obtain ⟨word, c₁, -, h⟩ := Parser.bind_eq_ok_iff.mp h
      obtain ⟨name, c₂, hname, h⟩ := Parser.bind_eq_ok_iff.mp h
      obtain ⟨colon, c₃, -, h⟩ := Parser.bind_eq_ok_iff.mp h
      obtain ⟨read, c₄, -, h⟩ := Parser.bind_eq_ok_iff.mp h
      obtain ⟨default, c₅, -, h⟩ := Parser.bind_eq_ok_iff.mp h
      obtain ⟨rfl, -⟩ := Parser.pure_eq_ok_iff.mp h
      exact lexemesAll_of_read_ident hname
  | false =>
  obtain ⟨b, c₀, -, h⟩ := Parser.bind_eq_ok_iff.mp h
  cases b with
  | true =>
      obtain ⟨name, c₁, hname, h⟩ := Parser.bind_eq_ok_iff.mp h
      obtain ⟨rfl, -⟩ := Parser.pure_eq_ok_iff.mp h
      exact lexemesAll_of_read_keyword hname
  | false =>
      cases h

theorem fits_parseStep
    (c : Cursor)
    (step : Parser.Step (Separated Parameter))
    (d : Cursor)
    (h : parseStep c = .ok (step, d)) :
    Separated.Fits Named step := by
  unfold parseStep at h
  obtain ⟨finished, c₀, -, h⟩ := Parser.bind_eq_ok_iff.mp h
  cases finished with
  | true =>
      obtain ⟨rfl, -⟩ := Parser.pure_eq_ok_iff.mp h
      trivial
  | false =>
      obtain ⟨p, c₁, hp, h⟩ := Parser.bind_eq_ok_iff.mp h
      obtain ⟨attributes, c₂, -, hbehind⟩ := Parser.bind_eq_ok_iff.mp hp
      have hnamed := named_of_parseBehind hbehind
      obtain ⟨finished, c₃, -, h⟩ := Parser.bind_eq_ok_iff.mp h
      cases finished with
      | true =>
          obtain ⟨rfl, -⟩ := Parser.pure_eq_ok_iff.mp h
          exact ⟨hnamed, rfl⟩
      | false =>
          obtain ⟨taken, c₄, hcomma, h⟩ := Parser.bind_eq_ok_iff.mp h
          obtain ⟨rfl, -⟩ := Parser.pure_eq_ok_iff.mp h
          obtain ⟨_, comma, _, -, rfl, -⟩ :=
            (Terminal.read_symbol_eq_ok_iff (x := ',') rfl).mp hcomma
          exact ⟨hnamed, comma, rfl⟩

/-- Parameters that are read are punctuated and named. -/
theorem punctuated_of_parseAll
    {c d : Cursor}
    {parameters : List (Separated Parameter)}
    (h : parseAll c = .ok (parameters, d)) :
    Separated.Punctuated parameters ∧ ∀ p ∈ parameters, p.value.Named := by
  unfold parseAll at h
  obtain ⟨present, c₀, -, h⟩ := Parser.bind_eq_ok_iff.mp h
  cases present with
  | false =>
      obtain ⟨rfl, -⟩ := Parser.pure_eq_ok_iff.mp h
      exact ⟨.nil, by simp⟩
  | true =>
      obtain ⟨_, _, -, h⟩ := Parser.bind_eq_ok_iff.mp h
      obtain ⟨read, _, hread, h⟩ := Parser.bind_eq_ok_iff.mp h
      obtain ⟨_, _, -, h⟩ := Parser.bind_eq_ok_iff.mp h
      obtain ⟨rfl, -⟩ := Parser.pure_eq_ok_iff.mp h
      exact Separated.punctuated_of_repeatUpTo fits_parseStep hread

end Parameter

namespace Generics

theorem fits_conditionStep
    (c : Cursor)
    (step : Parser.Step (Separated (List Token)))
    (d : Cursor)
    (h : conditionStep c = .ok (step, d)) :
    Separated.Fits (fun _ => True) step := by
  unfold conditionStep at h
  obtain ⟨finished, c₀, -, h⟩ := Parser.bind_eq_ok_iff.mp h
  cases finished with
  | true =>
      obtain ⟨rfl, -⟩ := Parser.pure_eq_ok_iff.mp h
      trivial
  | false =>
      obtain ⟨condition, c₁, -, h⟩ := Parser.bind_eq_ok_iff.mp h
      obtain ⟨another, c₂, -, h⟩ := Parser.bind_eq_ok_iff.mp h
      cases another with
      | true =>
          obtain ⟨taken, c₃, hcomma, h⟩ := Parser.bind_eq_ok_iff.mp h
          obtain ⟨rfl, -⟩ := Parser.pure_eq_ok_iff.mp h
          obtain ⟨_, comma, _, -, rfl, -⟩ :=
            (Terminal.read_symbol_eq_ok_iff (x := ',') rfl).mp hcomma
          exact ⟨trivial, comma, rfl⟩
      | false =>
          obtain ⟨rfl, -⟩ := Parser.pure_eq_ok_iff.mp h
          exact ⟨trivial, rfl⟩

/-- Conditions that are read are punctuated. -/
theorem punctuated_of_parseConditions
    {c d : Cursor}
    {conditions : List (Separated (List Token))}
    (h : parseConditions c = .ok (conditions, d)) :
    Separated.Punctuated conditions := by
  unfold parseConditions at h
  obtain ⟨present, c₀, -, h⟩ := Parser.bind_eq_ok_iff.mp h
  cases present with
  | false =>
      obtain ⟨rfl, -⟩ := Parser.pure_eq_ok_iff.mp h
      exact .nil
  | true =>
      obtain ⟨_, _, -, h⟩ := Parser.bind_eq_ok_iff.mp h
      exact (Separated.punctuated_of_repeatUpTo fits_conditionStep h).1

/-- Parameters and conditions as they are read from a text. -/
structure WellRead (generics : Generics) : Prop where
  parameters : Separated.Punctuated generics.parameters
  named : ∀ p ∈ generics.parameters, p.value.Named
  conditions : Separated.Punctuated generics.conditions

end Generics

namespace Item

/-- Whatever item is read, its parameters and conditions are punctuated. -/
theorem wellRead_of_ofTokens
    {tokens : List Token}
    {item : Item}
    (h : ofTokens tokens = .ok item) :
    item.generics.WellRead := by
  obtain ⟨d, h, -⟩ := Parser.parseAll_eq_ok_iff.mp h
  obtain ⟨attributes, _, visibility, _, kind, read, -, -, hread, h⟩ := exists_parseWith_of_parse h
  obtain ⟨_, _, -, h⟩ := Parser.bind_eq_ok_iff.mp h
  obtain ⟨name, _, -, h⟩ := Parser.bind_eq_ok_iff.mp h
  obtain ⟨parameters, _, hparameters, h⟩ := Parser.bind_eq_ok_iff.mp h
  obtain ⟨⟨conditions, body⟩, _, hbody, h⟩ := Parser.bind_eq_ok_iff.mp h
  obtain ⟨rfl, -⟩ := Parser.pure_eq_ok_iff.mp h
  obtain ⟨hpunctuated, hnamed⟩ := Parameter.punctuated_of_parseAll hparameters
  obtain ⟨_, _, hconditions⟩ := (hread _ _ _ _ hbody).conditions
  exact ⟨hpunctuated, hnamed, Generics.punctuated_of_parseConditions hconditions⟩

end Item

end Reading

section Headers

namespace Parameter

/-- The attributes of the parameter. -/
def attributes : Parameter → List Token
  | lifetime attributes _ _ => attributes
  | type attributes _ _ _ => attributes
  | const attributes _ _ _ _ => attributes

/-- The keyword in front of the name of a constant. -/
def keyword : Parameter → List Token
  | const _ word _ _ _ => word
  | _ => []

/-- The bounds of the parameter behind a colon, or the type of a constant.  Without bounds there is
no colon. -/
def boundsLexemes : Parameter → List Lexeme
  | const _ _ _ annotation _ => symbol ":" ++ Token.lexemesAll annotation
  | lifetime _ _ bounds | type _ _ bounds _ =>
      if bounds.isEmpty then [] else symbol ":" ++ Token.lexemesAll bounds

theorem lexemesAll_boundsTokens
    (bounds : List Token) :
    Token.lexemesAll (boundsTokens bounds) =
      if bounds.isEmpty then [] else symbol ":" ++ Token.lexemesAll bounds := by
  unfold boundsTokens
  split <;> rfl

/-- The code of the name alone. -/
def argument (p : Parameter) : List Lexeme :=
  Token.lexemesAll p.nameTokens

/-- The code of the parameter without what it is by default. -/
def binding (p : Parameter) : List Lexeme :=
  Token.lexemesAll p.attributes ++ Token.lexemesAll p.keyword ++ p.argument ++ p.boundsLexemes

theorem lexemesAll_boundTokens
    (p : Parameter) :
    Token.lexemesAll p.boundTokens = p.binding := by
  unfold binding argument
  cases p with
  | lifetime attributes name bounds =>
      simp [boundTokens, Parameter.attributes, keyword, nameTokens, boundsLexemes, Token.lexemesAll,
        Token.lexemesAll_append, lexemesAll_boundsTokens]
  | type attributes name bounds default =>
      simp [boundTokens, Parameter.attributes, keyword, nameTokens, boundsLexemes, Token.lexemesAll,
        Token.lexemesAll_append, lexemesAll_boundsTokens]
  | const attributes word name annotation default =>
      simp [boundTokens, Parameter.attributes, keyword, nameTokens, boundsLexemes, Token.lexemesAll,
        Token.lexemesAll_append]
      rfl

end Parameter

namespace Generics

/-- The parameters with the lifetimes in front, in the order of the text otherwise. -/
def ordered (generics : Generics) : List Parameter :=
  let declared := generics.parameters.map (·.value)
  declared.filter (·.isLifetime) ++ declared.filter (!·.isLifetime)

theorem ordered_perm
    (generics : Generics) :
    generics.ordered.Perm (generics.parameters.map (·.value)) :=
  List.filter_append_perm _ _

theorem map_value_moved
    (generics : Generics) :
    (Separated.moved Parameter.isLifetime generics.parameters).map (·.value) =
      generics.ordered := by
  simp [Separated.moved, ordered, List.filter_map, Function.comp_def]

/-- Parts in angle brackets with commas between them, or nothing if there are no parts. -/
def angled (parts : List (List Lexeme)) (comma : Bool) : List Lexeme :=
  if parts.isEmpty then []
  else symbol "<" ++ commaSeparated parts ++ Separated.commaIf comma ++ symbol ">"

/-- Parts behind `where` with commas between them, or nothing if there are no parts. -/
def demanded (parts : List (List Lexeme)) (comma : Bool) : List Lexeme :=
  if parts.isEmpty then []
  else word "where" ++ commaSeparated parts ++ Separated.commaIf comma

/-- Whether a comma stands behind the last parameter when the lifetimes are in front. -/
def parametersTrail (generics : Generics) : Bool :=
  Separated.trails (Separated.moved Parameter.isLifetime generics.parameters)

/-- A list in angle brackets shows all parameters in order, separated by commas. -/
theorem WellRead.angleList_eq
    {generics : Generics}
    (h : generics.WellRead)
    (print : Parameter → List Token) :
    angleList generics.parameters print =
      angled (generics.ordered.map fun p => Token.lexemesAll (print p))
        generics.parametersTrail := by
  have hempty :
      (generics.ordered.map fun p => Token.lexemesAll (print p)).isEmpty =
        generics.parameters.isEmpty := by
    have hlength := generics.ordered_perm.length_eq
    rw [Bool.eq_iff_iff]
    simp only [List.isEmpty_iff_length_eq_zero, List.length_map] at hlength ⊢
    rw [hlength]
  unfold angleList angled
  rw [hempty]
  split
  · rfl
  · rw [lexemesAll_lifetimesFirst h.parameters, ← map_value_moved, List.map_map]
    rfl

/-- All conditions are shown in order, separated by commas. -/
theorem WellRead.whereLexemes_eq
    {generics : Generics}
    (h : generics.WellRead) :
    generics.whereLexemes =
      demanded (generics.conditions.map fun c => Token.lexemesAll c.value)
        (Separated.trails generics.conditions) := by
  have hcode := h.conditions.flatMap_lexemesAll id
  simp only [id_eq] at hcode
  unfold whereLexemes demanded
  rw [List.isEmpty_map, hcode]
  rfl

end Generics

/-- The front of an implementation of a trait, up to its body: the parameters that it binds, the
trait under its path, the type with its arguments, and the conditions. -/
def headerLexemes (bound root : List Lexeme) (trait : String) (type : Ident)
    (arguments conditions : List Lexeme) : List Lexeme :=
  symbol "#" ++ brackets (word "automatically_derived") ++
    word "impl" ++ bound ++ root ++ symbol "::" ++ word trait ++
    word "for" ++ ident type ++ arguments ++ conditions

/-- An implementation for read parameters and conditions shows all of them in its header. -/
theorem Target.implement_eq_headerLexemes
    {target : Target}
    (h : target.generics.WellRead)
    (root : List Lexeme)
    (trait : String)
    (body : List Lexeme) :
    target.implement root trait body =
      headerLexemes
          (Generics.angled (target.generics.ordered.map Parameter.binding)
            target.generics.parametersTrail)
          root trait target.name
          (Generics.angled (target.generics.ordered.map Parameter.argument)
            target.generics.parametersTrail)
          (Generics.demanded (target.generics.conditions.map fun c => Token.lexemesAll c.value)
            (Separated.trails target.generics.conditions)) ++
        braces body := by
  have hbound : target.generics.implLexemes = _ := h.angleList_eq Parameter.boundTokens
  have harguments : target.generics.typeLexemes = _ := h.angleList_eq Parameter.nameTokens
  simp only [Parameter.lexemesAll_boundTokens] at hbound
  rw [implement, hbound, harguments, h.whereLexemes_eq]
  rfl

/-- Whatever is generated is an implementation for the target. -/
theorem exists_implement_of_mem_generate
    {target : Target}
    {cases : List Case}
    {context : Context}
    {g : Generated}
    (hg : g ∈ generate target cases context) :
    ∃ trait body, g.lexemes = target.implement context.root trait body := by
  unfold generate at hg
  cases hstrategy : context.strategy with
  | branchTable =>
      rw [hstrategy] at hg
      obtain rfl := List.mem_singleton.mp hg
      exact ⟨_, _, rfl⟩
  | allCases =>
      rw [hstrategy] at hg
      rcases List.mem_pair.mp hg with rfl | rfl
      · exact ⟨_, _, rfl⟩
      · exact ⟨_, _, rfl⟩

/-- Every implementation that is generated for a declaration has the same parameters, the same
type and the same conditions.  The parameters are all those of the declaration, lifetimes first,
each bound with its attributes and bounds and without a default, and the arguments of the type are
the names of the same parameters in the same order. -/
theorem implementations_repeat_generics
    {tokens : List Token}
    {item : Item}
    {generated : List Generated}
    (hitem : Item.ofTokens tokens = .ok item)
    (h : expand item = .ok generated) :
    let ordered := item.generics.ordered
    ordered.Perm (item.generics.parameters.map (·.value)) ∧
    (∀ p ∈ ordered, p.Named) ∧
    ∃ (root : List Lexeme) (comma comma' : Bool),
      ∀ g ∈ generated, ∃ trait body,
        g.lexemes =
          headerLexemes
              (Generics.angled (ordered.map Parameter.binding) comma)
              root trait item.name.ident
              (Generics.angled (ordered.map Parameter.argument) comma)
              (Generics.demanded
                (item.generics.conditions.map fun c => Token.lexemesAll c.value) comma') ++
            braces body := by
  intro ordered
  have hread := Item.wellRead_of_ofTokens hitem
  have hperm := item.generics.ordered_perm
  obtain ⟨variants, context, -, -, rfl⟩ := generated_of_expand_eq_ok h
  refine ⟨hperm, ?_, context.root, item.generics.parametersTrail,
    Separated.trails item.generics.conditions, ?_⟩
  · intro p hp
    obtain ⟨entry, hentry, rfl⟩ := List.mem_map.mp (hperm.mem_iff.mp hp)
    exact hread.named entry hentry
  · intro g hg
    obtain ⟨trait, body, hcode⟩ := exists_implement_of_mem_generate hg
    have hheader := @Target.implement_eq_headerLexemes item.target hread context.root trait body
    exact ⟨trait, body, hcode.trans hheader⟩

theorem toOption_eq_some_iff
    {ε α : Type}
    {result : Except ε α}
    {a : α} :
    result.toOption = some a ↔ result = .ok a := by
  cases result <;> simp [Except.toOption]

/-- In both implementations for `Area<T: Clone = u8, 'a>` the lifetime comes first, a comma is put
in behind it, and the default is gone. -/
theorem implementations_repeat_generics_reordered :
    let text :=
      "#[raw_value(String)] #[case_insensitive(all_cases)] enum Area<T: Clone = u8, 'a> { Tokyo }"
    let a : List Lexeme := [.punct '\x27' .joint, .ident (.plain "a")]
    ∃ tokens item generated root comma,
      Token.ofSource? text = some tokens ∧
      Item.ofTokens tokens = .ok item ∧
      expand item = .ok generated ∧
      generated.length = 2 ∧
      ∀ g ∈ generated, ∃ trait body,
        g.lexemes =
          headerLexemes (Generics.angled [a, word "T" ++ symbol ":" ++ word "Clone"] comma)
              root trait (.plain "Area") (Generics.angled [a, word "T"] comma) [] ++
            braces body := by
  intro text a
  have hrun :
      (Token.ofSource? text).any (fun tokens =>
        (Item.ofTokens tokens).toOption.any fun item =>
          (expand item).toOption.any fun generated =>
            generated.length = 2 ∧
            item.name.ident = .plain "Area" ∧
            item.generics.ordered.map Parameter.binding =
              [a, word "T" ++ symbol ":" ++ word "Clone"] ∧
            item.generics.ordered.map Parameter.argument = [a, word "T"] ∧
            item.generics.conditions.length = 0) = true := by
    decide +kernel
  simp only [Option.any_eq_true, toOption_eq_some_iff, decide_eq_true_eq] at hrun
  obtain ⟨tokens, htokens, item, hitem, generated, hgenerated, hlength, hname, hbindings,
    harguments, hconditions⟩ := hrun
  obtain ⟨-, -, root, comma, comma', hheaders⟩ := implementations_repeat_generics hitem hgenerated
  refine ⟨tokens, item, generated, root, comma, htokens, hitem, hgenerated, hlength, ?_⟩
  intro g hg
  obtain ⟨trait, body, hcode⟩ := hheaders g hg
  refine ⟨trait, body, ?_⟩
  rw [hcode, hname, hbindings, harguments, List.length_eq_zero_iff.mp hconditions]
  rfl

end Headers

end Caseless
