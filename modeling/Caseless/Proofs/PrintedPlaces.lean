import Caseless.Proofs.Places
import Caseless.Proofs.RawValueType
import Mathlib.Data.List.TakeWhile

/-!
# The places of what is printed

What a rule prints is not always what it reads: lifetimes move to the front of a list, commas are
put in, a visibility is left out.  Still a rule may print its first token where a lexeme begins that
it reads, and its last token where the last token ends that it reads.

Both are properties of the shape of a rule.  A rule opens properly if its first part does, and
closes properly if its last part does.  The main results are `Rule.opens_follow` and
`Rule.closes_follow`: such a rule is followed so if its phrases are read so.
-/

namespace Caseless

section Ends

namespace Token

/-- The place behind the last of some tokens. -/
def stop? (tokens : List Token) : Option Position :=
  tokens.getLast?.map fun token => token.span.stop

@[simp] theorem stop?_eq_none_iff
    {tokens : List Token} :
    stop? tokens = none ↔ tokens = [] := by
  simp [stop?]

theorem stop?_append
    (tokens others : List Token) :
    stop? (tokens ++ others) = (stop? others).or (stop? tokens) := by
  simp only [stop?, List.getLast?_append]
  cases others.getLast? <;> rfl

/-- What is read where something is printed is something. -/
theorem ne_nil_of_stop?_eq
    {printed read : List Token}
    (h : stop? printed = stop? read)
    (hne : printed ≠ []) :
    read ≠ [] := by
  rintro rfl
  exact hne (stop?_eq_none_iff.mp h)

theorem stop?_append_of_ne_nil
    (tokens : List Token)
    {others : List Token}
    (h : others ≠ []) :
    stop? (tokens ++ others) = stop? others := by
  rw [stop?_append]
  cases hstop : stop? others with
  | none =>
      exact absurd (stop?_eq_none_iff.mp hstop) h
  | some place =>
      rfl

/-- Some printed tokens begin where a lexeme begins that was read. -/
def BeginsIn (printed read : List Token) : Prop :=
  ∀ token ∈ printed.head?, ∃ x ∈ leavesAll read, x.2.start = token.span.start

theorem beginsIn_self
    (tokens : List Token) :
    BeginsIn tokens tokens := by
  cases tokens with
  | nil =>
      simp [BeginsIn]
  | cons token tokens =>
      obtain ⟨a, others, hleaves, hstart⟩ := token.leaves_eq_cons
      simp [BeginsIn, hleaves, hstart]

theorem BeginsIn.mono
    {printed read others : List Token}
    (h : BeginsIn printed read)
    (hsub : leavesAll read ⊆ leavesAll others) :
    BeginsIn printed others := by
  intro token htoken
  obtain ⟨x, hx, hstart⟩ := h token htoken
  exact ⟨x, hsub hx, hstart⟩

theorem BeginsIn.ne_nil
    {printed read : List Token}
    (h : BeginsIn printed read)
    (hne : printed ≠ []) :
    read ≠ [] := by
  obtain ⟨token, rest, rfl⟩ := List.exists_cons_of_ne_nil hne
  obtain ⟨x, hx, -⟩ := h token rfl
  rintro rfl
  simp at hx

/-- What is printed first decides. -/
theorem BeginsIn.append
    {printed others read : List Token}
    (h : BeginsIn printed read)
    (hothers : printed = [] → BeginsIn others read) :
    BeginsIn (printed ++ others) read := by
  cases printed with
  | nil =>
      exact hothers rfl
  | cons token rest =>
      exact h

/-- Tokens with the same places begin alike. -/
theorem beginsIn_of_spans_eq
    {printed read : List Token}
    (h : printed.map Token.span = read.map Token.span) :
    BeginsIn printed read := by
  cases printed with
  | nil =>
      simp [BeginsIn]
  | cons token rest =>
      obtain ⟨other, others, rfl⟩ : ∃ other others, read = other :: others := by
        cases read with
        | nil =>
            simp at h
        | cons other others =>
            exact ⟨other, others, rfl⟩
      obtain ⟨hspan, -⟩ := List.cons.inj h
      obtain ⟨a, leaves, hleaves, hstart⟩ := other.leaves_eq_cons
      simp [BeginsIn, hleaves, hstart, hspan]

/-- Tokens with the same places end alike. -/
theorem stop?_of_spans_eq
    {printed read : List Token}
    (h : printed.map Token.span = read.map Token.span) :
    stop? printed = stop? read := by
  have hlast := congrArg (fun spans => spans.getLast?.map Span.stop) h
  simpa [stop?, List.getLast?_map, Function.comp_def] using hlast

end Token

end Ends

section Numbers

namespace Terminal

theorem forall_of_digitsValue?
    {base value total : Nat}
    {cs : List Char}
    (h : digitsValue? base cs value = some total) :
    ∀ c ∈ cs, c = '_' ∨ ∃ digit, Text.hexValue? c = some digit ∧ digit < base := by
  fun_induction digitsValue? base cs value with
  | case1 =>
      simp
  | case2 value cs ih =>
      exact List.forall_mem_cons.mpr ⟨Or.inl rfl, ih h⟩
  | case3 value c cs hline digit hdigit hlt ih =>
      exact List.forall_mem_cons.mpr ⟨Or.inr ⟨digit, hdigit, hlt⟩, ih h⟩
  | case4 =>
      cases h
  | case5 =>
      cases h

/-- An integer has digits of some base behind its mark, or is written with decimal digits. -/
theorem integerValue?_cases
    {cs : List Char}
    {value : Nat}
    (h : integerValue? cs = some value) :
    (∃ mark rest base, mark ∈ ['x', 'o', 'b'] ∧ cs = '0' :: mark :: rest ∧
      digitsValue? base rest 0 = some value)
      ∨
    digitsValue? 10 cs 0 = some value := by
  unfold integerValue? at h
  split at h
  · exact Or.inl ⟨_, _, _, by simp, rfl, h⟩
  · exact Or.inl ⟨_, _, _, by simp, rfl, h⟩
  · exact Or.inl ⟨_, _, _, by simp, rfl, h⟩
  · cases h
  · exact Or.inr h

theorem exists_integerValue?_of_indexValue?
    {cs : List Char}
    {value : Nat}
    (h : indexValue? cs = some value) :
    ∃ total, integerValue? cs = some total := by
  unfold indexValue? at h
  split at h
  · exact ⟨_, ‹_›⟩
  · cases h

/-- The number of a field stands on one line. -/
theorem newline_not_mem_of_indexValue?
    {cs : List Char}
    {value : Nat}
    (h : indexValue? cs = some value) :
    '\n' ∉ cs := by
  have hdigits {base : Nat} {digits : List Char} {total : Nat}
      (hvalue : digitsValue? base digits 0 = some total) :
      '\n' ∉ digits := by
    intro hmem
    rcases forall_of_digitsValue? hvalue _ hmem with hline | ⟨digit, hdigit, -⟩
    · exact absurd hline (by decide)
    · exact absurd hdigit (by simp [show Text.hexValue? '\n' = none by decide])
  obtain ⟨total, htotal⟩ := exists_integerValue?_of_indexValue? h
  rcases integerValue?_cases htotal with ⟨mark, rest, base, hmark, rfl, hrest⟩ | hdecimal
  · have hne : '\n' ≠ mark := by
      rintro rfl
      exact absurd hmark (by decide)
    simp [hne, hdigits hrest]
  · exact hdigits hdecimal

/-- There is no decimal fraction without a point or an exponent. -/
theorem floatDigits_eq_none
    {cs : List Char}
    (h : ∀ c ∈ cs, Scanner.isDigitOrLine c = true) :
    Scanner.floatDigits cs = none := by
  cases cs with
  | nil =>
      rfl
  | cons c cs =>
      have hrest : cs.dropWhile Scanner.isDigitOrLine = [] :=
        List.dropWhile_eq_nil_iff.mpr (List.forall_mem_cons.mp h).2
      simp [Scanner.floatDigits, hrest]

/-- The number of a field is no decimal fraction. -/
theorem not_isFloatText_of_indexValue?
    {text : String}
    {value : Nat}
    (h : indexValue? text.toList = some value) :
    isFloatText text = false := by
  obtain ⟨total, htotal⟩ := exists_integerValue?_of_indexValue? h
  unfold isFloatText
  rcases integerValue?_cases htotal with ⟨mark, rest, base, hmark, htext, -⟩ | hdecimal
  · have hmarks : mark = 'x' ∨ mark = 'o' ∨ mark = 'b' := by simpa using hmark
    rw [htext]
    rcases hmarks with rfl | rfl | rfl <;> rfl
  · have hnone : Scanner.floatDigits text.toList = none := by
      apply floatDigits_eq_none
      intro c hc
      rcases forall_of_digitsValue? hdecimal c hc with rfl | ⟨digit, hdigit, hlt⟩
      · rfl
      · simp [Scanner.isDigitOrLine, Scanner.isDigit_of_hexValue? hdigit hlt]
    split
    · rename_i htext
      rw [htext] at hnone
      simp [hnone]
    · simp [hnone]

/-- The numbers of two fields that are written like a decimal fraction end where the fraction
ends. -/
theorem stop?_of_indexPairTokens
    {text : String}
    {span : Span}
    {tokens : List Token}
    (h : indexPairTokens text.toList span = some tokens)
    (hfloat : isFloatText text = true)
    (hspan : span.stop = span.start.advanceAll text.toList) :
    Token.stop? tokens = some span.stop := by
  generalize hfirst : text.toList.takeWhile (· != '.') = first
  generalize hpoint : text.toList.dropWhile (· != '.') = pointed
  have htext : text.toList = first ++ pointed := by
    rw [← hfirst, ← hpoint, List.takeWhile_append_dropWhile]
  simp only [indexPairTokens, hfirst, hpoint] at h
  cases hvalue : indexValue? first with
  | none =>
      simp [hvalue] at h
  | some value =>
      obtain ⟨second, rfl⟩ : ∃ second, pointed = '.' :: second := by
        cases pointed with
        | nil =>
            rw [List.append_nil] at htext
            rw [← htext] at hvalue
            rw [not_isFloatText_of_indexValue? hvalue] at hfloat
            cases hfloat
        | cons c second =>
            have hhead := List.head?_dropWhile_not (· != '.') text.toList
            rw [hpoint] at hhead
            obtain rfl : c = '.' := by simpa using hhead
            exact ⟨second, rfl⟩
      simp only [hvalue, List.drop_succ_cons, List.drop_zero] at h
      have hline : '\n' ∉ second → span.stop =
          ⟨span.start.line, span.start.column + text.toList.length⟩ := by
        intro hsecond
        rw [hspan, Position.advanceAll_of_not_mem]
        simp [htext, newline_not_mem_of_indexValue? hvalue, hsecond]
      split at h
      · rename_i hempty
        obtain rfl := List.isEmpty_iff.mp hempty
        obtain rfl := Option.some.inj h
        rw [hline (by simp), htext]
        simp [Token.stop?, Token.span, part]
      · obtain ⟨other, hother, rfl⟩ := Option.map_eq_some_iff.mp h
        rw [hline (newline_not_mem_of_indexValue? hother)]
        rfl

end Terminal

end Numbers

section Terminals

namespace Token

/-- A symbol is printed at the places of its characters. -/
theorem spans_of_takeSymbol
    {cs : List Char}
    {tokens taken rest : List Token}
    (h : takeSymbol cs tokens = some (taken, rest)) :
    taken ≠ [] ∧
    ∃ read, tokens = read ++ rest ∧ taken.map Token.span = read.map Token.span := by
  fun_induction takeSymbol cs tokens generalizing taken rest with
  | case1 c spacing span tail =>
      obtain ⟨rfl, rfl⟩ : [.punct c .alone span] = taken ∧ tail = rest := by simpa using h
      exact ⟨by simp, [.punct c spacing span], rfl, rfl⟩
  | case2 =>
      cases h
  | case3 c' cs d span tail ih =>
      obtain ⟨⟨taken', rest'⟩, htail, heq⟩ := Option.map_eq_some_iff.mp h
      obtain ⟨rfl, rfl⟩ : .punct d .joint span :: taken' = taken ∧ rest' = rest := by
        simpa using heq
      obtain ⟨-, read, rfl, hspans⟩ := ih htail
      exact ⟨by simp, .punct d .joint span :: read, rfl, by simp [hspans]⟩
  | case4 =>
      cases h
  | case5 =>
      cases h

end Token

namespace Terminal

theorem map_span_respell
    (cs : List Char)
    (tokens : List Token) :
    (respell cs tokens).map Token.span = tokens.map Token.span := by
  fun_induction respell cs tokens with
  | case1 c cs d spacing span tokens ih =>
      simp [ih, Token.span]
  | case2 =>
      rfl

theorem spans_of_some_eq
    {printed taken others rest : List Token}
    (read : List Token)
    (h : some (printed, others) = some (taken, rest))
    (hspans : printed.map Token.span = read.map Token.span)
    (hne : printed ≠ []) :
    taken ≠ [] ∧
    ∃ read', read ++ others = read' ++ rest ∧ taken.map Token.span = read'.map Token.span := by
  obtain ⟨rfl, rfl⟩ := Prod.mk.inj (Option.some.inj h)
  exact ⟨hne, read, rfl, hspans⟩

/-- A terminal is printed at the places of the tokens that it takes, but for the two numbers that
are written as one. -/
theorem spans_of_take
    {terminal : Terminal}
    (hterminal : terminal ≠ .indexPair)
    {tokens taken rest : List Token}
    (h : terminal.take tokens = some (taken, rest)) :
    taken ≠ [] ∧
    ∃ read, tokens = read ++ rest ∧ taken.map Token.span = read.map Token.span := by
  unfold take at h
  split at h
  case h_1 =>
    exact Token.spans_of_takeSymbol h
  case h_2 =>
    obtain ⟨⟨taken', rest'⟩, htake, heq⟩ := Option.map_eq_some_iff.mp h
    obtain ⟨rfl, rfl⟩ := Prod.mk.inj heq
    obtain ⟨hne, read, rfl, hspans⟩ := Token.spans_of_takeSymbol htake
    refine ⟨?_, read, rfl, by rw [map_span_respell, hspans]⟩
    rw [ne_eq, ← @List.map_eq_nil_iff _ _ Token.span, map_span_respell]
    simpa using hne
  case h_3 | h_8 | h_10 =>
    split at h
    · exact spans_of_some_eq [_] h rfl (by simp)
    · cases h
  case h_4 =>
    split at h
    · cases h
    · exact spans_of_some_eq [_] h rfl (by simp)
  case h_5 | h_7 | h_11 =>
    exact spans_of_some_eq [_] h rfl (by simp)
  case h_6 =>
    exact spans_of_some_eq [_, _] h rfl (by simp)
  case h_9 =>
    split at h
    · exact spans_of_some_eq [_, _] h rfl (by simp)
    · cases h
  case h_12 =>
    obtain ⟨value, -, heq⟩ := Option.map_eq_some_iff.mp h
    exact spans_of_some_eq [_] (congrArg some heq) rfl (by simp)
  case h_13 =>
    exact absurd rfl hterminal
  case h_14 =>
    cases h

theorem isNumberText_of_isFloatText
    {text : String}
    (h : isFloatText text = true) :
    Token.isNumberText text = true := by
  have hdigits : ∃ rest, Scanner.floatDigits text.toList = some rest := by
    unfold isFloatText at h
    split at h
    · rename_i htext
      split at h
      · cases h
      · rw [htext]
        exact Option.isSome_iff_exists.mp h
    · exact Option.isSome_iff_exists.mp h
  obtain ⟨rest, hrest⟩ := hdigits
  obtain ⟨c, front, htext, hdigit⟩ := Scanner.isDigit_of_floatDigits hrest
  simp only [Token.isNumberText, htext]
  exact hdigit

/-- Two numbers of fields that are written as a decimal fraction end where it ends. -/
theorem stop?_of_take_indexPair
    {tokens taken rest : List Token}
    (hlaid : Lexeme.Laid (Token.leavesAll tokens))
    (hfloat : (Lookahead.literalText isFloatText).holds tokens = true)
    (h : indexPair.take tokens = some (taken, rest)) :
    ∃ token, tokens = token :: rest ∧ Token.stop? taken = Token.stop? [token] := by
  unfold take at h
  split at h
  case h_13 text span others _ =>
    obtain ⟨printed, hprinted, heq⟩ := Option.map_eq_some_iff.mp h
    obtain ⟨rfl, rfl⟩ := Prod.mk.inj heq
    refine ⟨.literal text span, rfl, ?_⟩
    apply stop?_of_indexPairTokens hprinted hfloat
    apply hlaid.numbers text span
    · simp [Token.leaves]
    · exact isNumberText_of_isFloatText hfloat
  all_goals contradiction

end Terminal

end Terminals

section Contracts

variable {call : Phrase → Parser Piece}

namespace Parser

/-- A parser opens properly if what it prints begins where a lexeme begins that it reads; perhaps
it always prints something. -/
def Opens (prints : Bool) (p : Parser Piece) : Prop :=
  ∀ c piece d,
    p c = .ok (piece, d) →
      ∃ read,
        c.tokens = read ++ d.tokens ∧
        Token.BeginsIn piece.tokens read ∧
        (prints = true → piece.tokens ≠ [])

/-- A parser closes properly if what it prints ends where the last token ends that it reads; perhaps
it always prints something. -/
def Closes (prints : Bool) (p : Parser Piece) : Prop :=
  ∀ c piece d,
    Lexeme.Laid (Token.leavesAll c.tokens) →
    p c = .ok (piece, d) →
      ∃ read,
        c.tokens = read ++ d.tokens ∧
        Token.stop? piece.tokens = Token.stop? read ∧
        (prints = true → piece.tokens ≠ [])

end Parser

/-- The phrases that open properly.  All but attributes print something. -/
@[simp] def Phrase.Opens (prints : Bool) : Phrase → Prop
  | path _ | segment _ | qualifiedPath _ | plainPath | plainNames => True
  | type _ | boundType _ | binder | bound _ _ | traitBound _ | bounds _ _ _ _ => True
  | expression _ | unary _ | condition | block _ | oneAttribute => True
  | attributes _ => prints = false
  | _ => False

/-- The phrases that close properly.  What may follow another phrase may be missing. -/
@[simp] def Phrase.Closes (prints : Bool) : Phrase → Prop
  | path _ | segment _ | qualifiedPath _ | qualifiedRest _ | angleArguments => True
  | plainPath | plainNames => True
  | type _ | boundType _ | bound _ _ | traitBound _ | bounds _ _ _ _ => True
  | expression _ | unary _ | operand _ _ | condition | block _ => True
  | pathRest _ _ | returnType _ | moreBounds _ => prints = false
  | operators _ _ _ | operandRest _ _ _ | trailers _ => prints = false
  | _ => False

namespace Rule

/-- A rule opens properly if its first part does, and the next one where the first may be
missing. -/
@[simp] def Opens (prints : Bool) : Rule → Prop
  | accept _ => prints = false
  | refuse _ => True
  | read terminal => terminal ≠ .indexPair
  | phrase p => p.Opens prints
  | andThen first second =>
      first.Opens true ∨ first.Opens false ∧ ∀ shape, (second shape).Opens prints
  | choose _ yes no => yes.Opens prints ∧ no.Opens prints
  | inside _ _ => True
  | listing _ => False
  | asWritten _ rule => rule.Opens prints
  | silently _ => prints = false
  | before first second _ => first.Opens true ∧ second.Opens true
  | require _ _ rule => rule.Opens prints
  | forbid _ _ _ => True
  | endsInBraces rule => rule.Opens prints

/-- A rule closes properly if its last part does, and the one before where the last may be missing.
Two numbers that are written as one must be a decimal fraction. -/
@[simp] def Closes (prints : Bool) : Rule → Prop
  | accept _ => prints = false
  | refuse _ => True
  | read terminal => terminal ≠ .indexPair
  | phrase p => p.Closes prints
  | andThen first second =>
      (∀ shape, (second shape).Closes true) ∨
        first.Closes prints ∧ ∀ shape, (second shape).Closes false
  | choose test yes no =>
      (yes.Closes prints ∨
        test = .literalText Terminal.isFloatText ∧ yes = .read .indexPair) ∧
      no.Closes prints
  | inside _ _ => True
  | listing _ => False
  | asWritten _ rule => rule.Closes prints
  | silently _ => False
  | before _ second _ => second.Closes true
  | require _ _ rule => rule.Closes prints
  | forbid _ _ _ => True
  | endsInBraces rule => rule.Closes prints

section Following

variable {c d : Cursor} {piece : Piece}

theorem follow_silently_eq_ok_iff
    {rule : Rule} :
    (silently rule).follow call c = .ok (piece, d)
      ↔
    ∃ a, rule.follow call c = .ok (a, d) ∧ piece = ⟨a.shape, []⟩ := by
  rw [follow]
  simp only [Parser.bind_eq_ok_iff, Parser.pure_eq_ok_iff]
  constructor
  · rintro ⟨a, c', ha, rfl, rfl⟩
    exact ⟨a, ha, rfl⟩
  · rintro ⟨a, ha, rfl⟩
    exact ⟨a, d, ha, rfl, rfl⟩

theorem follow_endsInBraces_eq_ok_iff
    {rule : Rule} :
    (endsInBraces rule).follow call c = .ok (piece, d)
      ↔
    ∃ a, rule.follow call c = .ok (a, d) ∧ piece = ⟨.answer a.endsInBraces, a.tokens⟩ := by
  rw [follow]
  simp only [Parser.bind_eq_ok_iff, Parser.pure_eq_ok_iff]
  constructor
  · rintro ⟨a, c', ha, rfl, rfl⟩
    exact ⟨a, ha, rfl⟩
  · rintro ⟨a, ha, rfl⟩
    exact ⟨a, d, ha, rfl, rfl⟩

/-- What is printed as it is written is what was read. -/
theorem tokens_of_asWritten
    (when : Shape → Bool)
    (inner : Piece)
    {read : List Token}
    (hread : c.tokens = read ++ d.tokens) :
    (if when inner.shape = true then
        (⟨inner.shape, c.tokens.take (c.tokens.length - d.tokens.length)⟩ : Piece)
      else inner).tokens =
      if when inner.shape = true then read else inner.tokens := by
  split
  · simp [hread]
  · rfl

/-- A rule reads some tokens. -/
theorem exists_read_of_follow
    (hsteady : ∀ p, Parser.Steady (call p))
    {rule : Rule}
    (h : rule.follow call c = .ok (piece, d)) :
    ∃ read, c.tokens = read ++ d.tokens := by
  obtain ⟨read, hread⟩ := (steady_follow hsteady rule c piece d h).1.tokens
  exact ⟨read, hread.symm⟩

end Following

/-- A rule that opens properly is followed so. -/
theorem opens_follow
    (hsteady : ∀ p, Parser.Steady (call p))
    (hcall : ∀ p prints, p.Opens prints → Parser.Opens prints (call p))
    {rule : Rule}
    {prints : Bool}
    (h : rule.Opens prints) :
    Parser.Opens prints (rule.follow call) := by
  intro c piece d hfollow
  induction rule generalizing prints c piece d with
  | accept shape =>
      obtain ⟨rfl, rfl⟩ := Parser.pure_eq_ok_iff.mp hfollow
      exact ⟨[], rfl, Token.beginsIn_self [], by rintro rfl; cases h⟩
  | refuse complaint =>
      cases hfollow
  | read terminal =>
      obtain ⟨taken, hread, rfl⟩ := follow_read_eq_ok_iff.mp hfollow
      obtain ⟨rest, htake, rfl⟩ := Parser.takeOr_eq_ok_iff.mp hread
      obtain ⟨hne, read, htokens, hspans⟩ := Terminal.spans_of_take h htake
      exact ⟨read, htokens, Token.beginsIn_of_spans_eq hspans, fun _ => hne⟩
  | phrase p =>
      exact hcall p prints h c piece d hfollow
  | andThen first second ihFirst ihSecond =>
      obtain ⟨a, c', b, ha, hb, rfl⟩ := follow_andThen_eq_ok_iff.mp hfollow
      rcases h with hfirst | ⟨hfirst, hsecond⟩
      · obtain ⟨read, hread, hbegins, hne⟩ := ihFirst hfirst c a c' ha
        obtain ⟨others, hothers⟩ := exists_read_of_follow hsteady hb
        refine ⟨read ++ others, by rw [hread, hothers, List.append_assoc], ?_, ?_⟩
        · exact (hbegins.mono (by simp)).append fun hnil => absurd hnil (hne rfl)
        · simp [hne rfl]
      · obtain ⟨read, hread, hbegins, -⟩ := ihFirst hfirst c a c' ha
        obtain ⟨others, hothers, hbegins', hne⟩ := ihSecond a.shape (hsecond a.shape) c' b d hb
        refine ⟨read ++ others, by rw [hread, hothers, List.append_assoc], ?_, ?_⟩
        · exact (hbegins.mono (by simp)).append fun _ => hbegins'.mono (by simp)
        · intro hprints
          simp [hne hprints]
  | choose test yes no ihYes ihNo =>
      rw [follow_choose] at hfollow
      split at hfollow
      · exact ihYes h.1 c piece d hfollow
      · exact ihNo h.2 c piece d hfollow
  | inside delimiter content ih =>
      obtain ⟨tokens, opening, closing, rest, inner, innerEnd, htokens, -, rfl, rfl⟩ :=
        follow_inside_eq_ok_iff.mp hfollow
      exact ⟨[.group delimiter tokens opening closing], htokens,
        Token.beginsIn_of_spans_eq rfl, by simp⟩
  | listing entry ih =>
      exact h.elim
  | asWritten when rule ih =>
      obtain ⟨inner, hinner, rfl⟩ := follow_asWritten_eq_ok_iff.mp hfollow
      obtain ⟨read, hread, hbegins, hne⟩ := ih h c inner d hinner
      refine ⟨read, hread, ?_⟩
      rw [tokens_of_asWritten when inner hread]
      split
      · exact ⟨Token.beginsIn_self read, fun hprints => hbegins.ne_nil (hne hprints)⟩
      · exact ⟨hbegins, hne⟩
  | silently rule ih =>
      obtain ⟨a, ha, rfl⟩ := follow_silently_eq_ok_iff.mp hfollow
      obtain ⟨read, hread⟩ := exists_read_of_follow hsteady ha
      exact ⟨read, hread, by simp [Token.BeginsIn], by rintro rfl; cases h⟩
  | before first second drop ihFirst ihSecond =>
      obtain ⟨a, c', b, ha, hb, rfl⟩ := follow_before_eq_ok_iff.mp hfollow
      obtain ⟨read, hread, hbegins, hne⟩ := ihFirst h.1 c a c' ha
      obtain ⟨others, hothers, hbegins', hne'⟩ := ihSecond h.2 c' b d hb
      refine ⟨read ++ others, by rw [hread, hothers, List.append_assoc], ?_⟩
      split
      · exact ⟨hbegins'.mono (by simp), fun _ => hne' rfl⟩
      · refine ⟨?_, by simp [hne rfl]⟩
        exact (hbegins.mono (by simp)).append fun hnil => absurd hnil (hne rfl)
  | require test complaint rule ih =>
      exact ih h c piece d (follow_require_eq_ok_iff.mp hfollow).1
  | forbid complaint rule rest ihRule ihRest =>
      exact absurd hfollow follow_forbid_ne_ok
  | endsInBraces rule ih =>
      obtain ⟨a, ha, rfl⟩ := follow_endsInBraces_eq_ok_iff.mp hfollow
      exact ih h c a d ha

/-- A rule that closes properly is followed so. -/
theorem closes_follow
    (hsteady : ∀ p, Parser.Steady (call p))
    (hcall : ∀ p prints, p.Closes prints → Parser.Closes prints (call p))
    {rule : Rule}
    {prints : Bool}
    (h : rule.Closes prints) :
    Parser.Closes prints (rule.follow call) := by
  intro c piece d hlaid hfollow
  induction rule generalizing prints c piece d with
  | accept shape =>
      obtain ⟨rfl, rfl⟩ := Parser.pure_eq_ok_iff.mp hfollow
      exact ⟨[], rfl, rfl, by rintro rfl; cases h⟩
  | refuse complaint =>
      cases hfollow
  | read terminal =>
      obtain ⟨taken, hread, rfl⟩ := follow_read_eq_ok_iff.mp hfollow
      obtain ⟨rest, htake, rfl⟩ := Parser.takeOr_eq_ok_iff.mp hread
      obtain ⟨hne, read, htokens, hspans⟩ := Terminal.spans_of_take h htake
      exact ⟨read, htokens, Token.stop?_of_spans_eq hspans, fun _ => hne⟩
  | phrase p =>
      exact hcall p prints h c piece d hlaid hfollow
  | andThen first second ihFirst ihSecond =>
      obtain ⟨a, c', b, ha, hb, rfl⟩ := follow_andThen_eq_ok_iff.mp hfollow
      have hlaid' : Lexeme.Laid (Token.leavesAll c'.tokens) := by
        obtain ⟨read, hread⟩ := exists_read_of_follow hsteady ha
        exact hlaid.sublist (by simp [hread])
      rcases h with hsecond | ⟨hfirst, hsecond⟩
      · obtain ⟨read, hread⟩ := exists_read_of_follow hsteady ha
        obtain ⟨others, hothers, hstop, hne⟩ :=
          ihSecond a.shape (hsecond a.shape) c' b d hlaid' hb
        refine ⟨read ++ others, ?_, ?_, by simp [hne rfl]⟩
        · rw [hread, hothers, List.append_assoc]
        · have hne' := Token.ne_nil_of_stop?_eq hstop (hne rfl)
          rw [Token.stop?_append_of_ne_nil _ (hne rfl), Token.stop?_append_of_ne_nil _ hne', hstop]
      · obtain ⟨read, hread, hstop, hne⟩ := ihFirst hfirst c a c' hlaid ha
        obtain ⟨others, hothers, hstop', -⟩ :=
          ihSecond a.shape (hsecond a.shape) c' b d hlaid' hb
        refine ⟨read ++ others, by rw [hread, hothers, List.append_assoc], ?_, ?_⟩
        · simp only [Token.stop?_append, hstop, hstop']
        · intro hprints
          simp [hne hprints]
  | choose test yes no ihYes ihNo =>
      rw [follow_choose] at hfollow
      split at hfollow
      · rename_i hholds
        rcases h.1 with hyes | ⟨rfl, rfl⟩
        · exact ihYes hyes c piece d hlaid hfollow
        · obtain ⟨taken, hread, rfl⟩ := follow_read_eq_ok_iff.mp hfollow
          obtain ⟨rest, htake, rfl⟩ := Parser.takeOr_eq_ok_iff.mp hread
          obtain ⟨token, htokens, hstop⟩ := Terminal.stop?_of_take_indexPair hlaid hholds htake
          refine ⟨[token], htokens, hstop, fun _ => ?_⟩
          exact Token.ne_nil_of_stop?_eq hstop.symm (by simp)
      · exact ihNo h.2 c piece d hlaid hfollow
  | inside delimiter content ih =>
      obtain ⟨tokens, opening, closing, rest, inner, innerEnd, htokens, -, rfl, rfl⟩ :=
        follow_inside_eq_ok_iff.mp hfollow
      exact ⟨[.group delimiter tokens opening closing], htokens,
        Token.stop?_of_spans_eq rfl, by simp⟩
  | listing entry ih =>
      exact h.elim
  | asWritten when rule ih =>
      obtain ⟨inner, hinner, rfl⟩ := follow_asWritten_eq_ok_iff.mp hfollow
      obtain ⟨read, hread, hstop, hne⟩ := ih h c inner d hlaid hinner
      refine ⟨read, hread, ?_⟩
      rw [tokens_of_asWritten when inner hread]
      split
      · exact ⟨rfl, fun hprints => Token.ne_nil_of_stop?_eq hstop (hne hprints)⟩
      · exact ⟨hstop, hne⟩
  | silently rule ih =>
      exact h.elim
  | before first second drop ihFirst ihSecond =>
      obtain ⟨a, c', b, ha, hb, rfl⟩ := follow_before_eq_ok_iff.mp hfollow
      obtain ⟨read, hread⟩ := exists_read_of_follow hsteady ha
      have hlaid' : Lexeme.Laid (Token.leavesAll c'.tokens) :=
        hlaid.sublist (by simp [hread])
      obtain ⟨others, hothers, hstop, hne⟩ := ihSecond h c' b d hlaid' hb
      have hne' := Token.ne_nil_of_stop?_eq hstop (hne rfl)
      refine ⟨read ++ others, by rw [hread, hothers, List.append_assoc], ?_⟩
      rw [Token.stop?_append_of_ne_nil _ hne']
      split
      · exact ⟨hstop, fun _ => hne rfl⟩
      · exact ⟨by rw [Token.stop?_append_of_ne_nil _ (hne rfl), hstop], by simp [hne rfl]⟩
  | require test complaint rule ih =>
      exact ih h c piece d hlaid (follow_require_eq_ok_iff.mp hfollow).1
  | forbid complaint rule rest ihRule ihRest =>
      exact absurd hfollow follow_forbid_ne_ok
  | endsInBraces rule ih =>
      obtain ⟨a, ha, rfl⟩ := follow_endsInBraces_eq_ok_iff.mp hfollow
      exact ih h c a d hlaid ha

/-- Of several rules each has to open properly. -/
theorem opens_firstOf
    {alternatives : List (Lookahead × Rule)}
    {otherwise : Rule}
    {prints : Bool}
    (halternatives : ∀ alternative ∈ alternatives, alternative.2.Opens prints)
    (hotherwise : otherwise.Opens prints) :
    (firstOf alternatives otherwise).Opens prints := by
  induction alternatives with
  | nil =>
      exact hotherwise
  | cons alternative others ih =>
      obtain ⟨hrule, hothers⟩ := List.forall_mem_cons.mp halternatives
      exact ⟨hrule, ih hothers⟩

/-- Of several rules each has to close properly. -/
theorem closes_firstOf
    {alternatives : List (Lookahead × Rule)}
    {otherwise : Rule}
    {prints : Bool}
    (halternatives : ∀ alternative ∈ alternatives, alternative.2.Closes prints)
    (hotherwise : otherwise.Closes prints) :
    (firstOf alternatives otherwise).Closes prints := by
  induction alternatives with
  | nil =>
      exact hotherwise
  | cons alternative others ih =>
      obtain ⟨hrule, hothers⟩ := List.forall_mem_cons.mp halternatives
      exact ⟨Or.inl hrule, ih hothers⟩

end Rule

end Contracts

end Caseless
