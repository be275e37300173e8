import Caseless.Proofs.Options

/-!
# The raw value type is the one token `String`

The raw value type of an enum is read by the rule for types, which knows many forms and does not
keep all that it reads, and the check looks at the printed form alone.  Still nothing but the lone
token `String` passes.

A parser echoes a name if it prints this name alone only when it has read this name alone.  The
alternatives of a type echo every name, for one of two reasons: they begin with something that is no
name, or they are a path, where more than a name is printed as soon as more than a name is read
(`echoes_type`).  The main result is `Item.requireStringRawValue_accepts_string_alone`.
-/

namespace Caseless

section Contracts

/-- Some tokens begin with one that is no name: a keyword, a symbol, a literal or a group. -/
def Token.Foreign (tokens : List Token) : Prop :=
  ∃ token rest, tokens = token :: rest ∧ ∀ i span, token = .ident i span → i.isReserved = true

theorem Token.Foreign.append
    {tokens : List Token}
    (h : Foreign tokens)
    (others : List Token) :
    Foreign (tokens ++ others) := by
  obtain ⟨token, rest, rfl, htoken⟩ := h
  exact ⟨token, rest ++ others, rfl, htoken⟩

theorem Token.Foreign.ne_nil
    {tokens : List Token}
    (h : Foreign tokens) :
    tokens ≠ [] := by
  obtain ⟨token, rest, rfl, -⟩ := h
  exact List.cons_ne_nil token rest

/-- What does not begin with a name is no name. -/
theorem Token.Foreign.ne_ident
    {tokens : List Token}
    (h : Foreign tokens)
    {i : Ident}
    (hi : i.isReserved = false)
    (span : Span) :
    tokens ≠ [.ident i span] := by
  rintro rfl
  obtain ⟨token, rest, heq, htoken⟩ := h
  obtain ⟨rfl, -⟩ : .ident i span = token ∧ [] = rest := by simpa using heq
  rw [htoken i span rfl] at hi
  cases hi

namespace Parser

/-- At a cursor a parser ensures a relation between the cursor, what it reads and the cursor behind,
if it succeeds at all. -/
def EnsuresAt (Q : Cursor → Piece → Cursor → Prop) (p : Parser Piece) (c : Cursor) : Prop :=
  ∀ piece d, p c = .ok (piece, d) → Q c piece d

/-- A parser ensures a relation wherever it stands. -/
def Ensures (Q : Cursor → Piece → Cursor → Prop) (p : Parser Piece) : Prop :=
  ∀ c, EnsuresAt Q p c

/-- Whatever a parser prints has a property. -/
def Prints (P : List Token → Prop) : Parser Piece → Prop :=
  Ensures fun _ piece _ => P piece.tokens

/-- A parser is sparing if it reads nothing where it prints nothing. -/
def Sparing : Parser Piece → Prop :=
  Ensures fun c piece d => piece.tokens = [] → d = c

/-- A parser echoes a name at a cursor if it prints this name alone only when it has read it
alone. -/
def EchoesAt (i : Ident) : Parser Piece → Cursor → Prop :=
  EnsuresAt fun c piece d =>
    ∀ span, piece.tokens = [.ident i span] → c.tokens = .ident i span :: d.tokens

/-- A parser echoes a name wherever it stands. -/
def Echoes (i : Ident) (p : Parser Piece) : Prop :=
  ∀ c, EchoesAt i p c

theorem sparing_of_prints
    {p : Parser Piece}
    (h : Prints (· ≠ []) p) :
    Sparing p := by
  intro c piece d hp hnil
  exact absurd hnil (h c piece d hp)

theorem echoes_of_foreign
    {i : Ident}
    (hi : i.isReserved = false)
    {p : Parser Piece}
    (h : Prints Token.Foreign p) :
    Echoes i p := by
  intro c piece d hp span htokens
  exact absurd htokens ((h c piece d hp).ne_ident hi span)

end Parser

end Contracts

section Rules

variable {call : Phrase → Parser Piece} {i : Ident}

namespace Terminal

/-- A terminal takes names if it takes one identifier and prints it as it is. -/
def TakesName (terminal : Terminal) : Prop :=
  ∀ tokens taken rest,
    terminal.take tokens = some (taken, rest) →
      ∃ i span, tokens = .ident i span :: rest ∧ taken = [.ident i span]

theorem takesName_word :
    word.TakesName := by
  intro tokens taken rest h
  unfold take at h
  split at h
  case h_5 =>
    cases h
    exact ⟨_, _, rfl, rfl⟩
  all_goals contradiction

theorem takesName_ident :
    ident.TakesName := by
  intro tokens taken rest h
  unfold take at h
  split at h
  case h_4 =>
    split at h
    · cases h
    · cases h
      exact ⟨_, _, rfl, rfl⟩
  all_goals contradiction

theorem exists_of_take_keyword
    {w : String}
    {tokens taken rest : List Token}
    (h : (keyword w).take tokens = some (taken, rest)) :
    ∃ i span, taken = [.ident i span] ∧ i.isWord w = true := by
  unfold take at h
  split at h
  case h_3 heq =>
    cases heq
    split at h
    · cases h
      exact ⟨_, _, rfl, ‹_›⟩
    · cases h
  all_goals contradiction

/-- A symbol begins with a punctuation character. -/
theorem exists_of_take_symbol
    {text : String}
    {tokens taken rest : List Token}
    (h : (symbol text).take tokens = some (taken, rest)) :
    ∃ x spacing span more, taken = .punct x spacing span :: more := by
  change Token.takeSymbol text.toList tokens = some (taken, rest) at h
  unfold Token.takeSymbol at h
  split at h
  · split at h
    · exact ⟨_, _, _, _, (Prod.mk.inj (Option.some.inj h)).1.symm⟩
    · cases h
  · split at h
    · obtain ⟨result, -, hresult⟩ := Option.map_eq_some_iff.mp h
      exact ⟨_, _, _, _, (Prod.mk.inj hresult).1.symm⟩
    · cases h
  · cases h

/-- A lifetime begins with its mark. -/
theorem exists_of_take_lifetime
    {tokens taken rest : List Token}
    (h : lifetime.take tokens = some (taken, rest)) :
    ∃ mark more, taken = .punct '\x27' .joint mark :: more := by
  unfold take at h
  split at h
  case h_6 =>
    cases h
    exact ⟨_, _, rfl⟩
  all_goals contradiction

end Terminal

namespace Rule

theorem ensures_choose
    {Q : Cursor → Piece → Cursor → Prop}
    {test : Lookahead}
    {yes no : Rule}
    (hyes : Parser.Ensures Q (yes.follow call))
    (hno : Parser.Ensures Q (no.follow call)) :
    Parser.Ensures Q ((choose test yes no).follow call) := by
  intro c piece d h
  rw [follow_choose] at h
  split at h
  · exact hyes c piece d h
  · exact hno c piece d h

/-- Of several rules each has to ensure a relation only where its test holds. -/
theorem ensuresAt_firstOf
    {Q : Cursor → Piece → Cursor → Prop}
    {alternatives : List (Lookahead × Rule)}
    {otherwise : Rule}
    {c : Cursor}
    (halternatives :
      ∀ alternative ∈ alternatives,
        alternative.1.holds c.tokens = true →
          Parser.EnsuresAt Q (alternative.2.follow call) c)
    (hotherwise : Parser.EnsuresAt Q (otherwise.follow call) c) :
    Parser.EnsuresAt Q ((firstOf alternatives otherwise).follow call) c := by
  induction alternatives with
  | nil =>
      exact hotherwise
  | cons alternative others ih =>
      obtain ⟨hfirst, hothers⟩ := List.forall_mem_cons.mp halternatives
      intro piece d h
      rw [firstOf, follow_choose] at h
      split at h
      · rename_i hholds
        exact hfirst hholds piece d h
      · exact ih hothers piece d h

theorem ensures_require
    {Q : Cursor → Piece → Cursor → Prop}
    {test : Shape → Bool}
    {complaint : Complaint}
    {rule : Rule}
    (hrule : Parser.Ensures Q (rule.follow call)) :
    Parser.Ensures Q ((require test complaint rule).follow call) := by
  intro c piece d h
  exact hrule c piece d (follow_require_eq_ok_iff.mp h).1

/-- Nothing is read where it is forbidden, so whatever is said of it is so. -/
theorem ensures_forbid
    {Q : Cursor → Piece → Cursor → Prop}
    {complaint : Complaint}
    {rule rest : Rule} :
    Parser.Ensures Q ((forbid complaint rule rest).follow call) := by
  intro c piece d h
  exact absurd h follow_forbid_ne_ok

theorem foreign_symbol
    (text : String) :
    Parser.Prints Token.Foreign ((symbol text).follow call) := by
  intro c piece d h
  obtain ⟨taken, hread, rfl⟩ := follow_read_eq_ok_iff.mp h
  obtain ⟨rest, htake, -⟩ := Parser.takeOr_eq_ok_iff.mp hread
  obtain ⟨x, spacing, span, more, rfl⟩ := Terminal.exists_of_take_symbol htake
  exact ⟨_, more, rfl, by simp⟩

theorem foreign_keyword
    {word : String}
    (hword : reservedWords.contains word = true) :
    Parser.Prints Token.Foreign ((keyword word).follow call) := by
  intro c piece d h
  obtain ⟨taken, hread, rfl⟩ := follow_read_eq_ok_iff.mp h
  obtain ⟨rest, htake, -⟩ := Parser.takeOr_eq_ok_iff.mp hread
  obtain ⟨j, span, rfl, hj⟩ := Terminal.exists_of_take_keyword htake
  refine ⟨_, [], rfl, ?_⟩
  intro k span' heq
  obtain ⟨rfl, -⟩ : j = k ∧ span = span' := by simpa using heq
  obtain ⟨hraw, hname⟩ : j.raw = false ∧ j.name = word := by simpa [Ident.isWord] using hj
  rw [Ident.isReserved, hraw, hname, hword]
  rfl

theorem foreign_inside
    (delimiter : Delimiter)
    (content : Rule) :
    Parser.Prints Token.Foreign ((inside delimiter content).follow call) := by
  intro c piece d h
  obtain ⟨tokens, opening, closing, rest, inner, innerEnd, -, -, rfl, -⟩ :=
    follow_inside_eq_ok_iff.mp h
  exact ⟨_, [], rfl, by simp⟩

theorem foreign_andThen
    {first : Rule}
    {second : Shape → Rule}
    (hfirst : Parser.Prints Token.Foreign (first.follow call)) :
    Parser.Prints Token.Foreign ((andThen first second).follow call) := by
  intro c piece d h
  obtain ⟨a, c', b, ha, -, rfl⟩ := follow_andThen_eq_ok_iff.mp h
  exact (hfirst c a c' ha).append b.tokens

/-- Something that may be left out does not hide what follows it. -/
theorem foreign_andThen_of_optional
    {test : Lookahead}
    {first : Rule}
    {second : Shape → Rule}
    (hfirst : Parser.Prints Token.Foreign (first.follow call))
    (hsecond : ∀ shape, Parser.Prints Token.Foreign ((second shape).follow call)) :
    Parser.Prints Token.Foreign ((andThen (optional test first) second).follow call) := by
  intro c piece d h
  obtain ⟨a, c', b, ha, hb, rfl⟩ := follow_andThen_eq_ok_iff.mp h
  rw [optional, follow_choose] at ha
  split at ha
  · exact (hfirst c a c' ha).append b.tokens
  · obtain ⟨rfl, rfl⟩ := Parser.pure_eq_ok_iff.mp ha
    exact hsecond .plain c b d hb

theorem nonempty_andThen_left
    {first : Rule}
    {second : Shape → Rule}
    (hfirst : Parser.Prints (· ≠ []) (first.follow call)) :
    Parser.Prints (· ≠ []) ((andThen first second).follow call) := by
  intro c piece d h
  obtain ⟨a, c', b, ha, -, rfl⟩ := follow_andThen_eq_ok_iff.mp h
  simp [hfirst c a c' ha]

theorem nonempty_andThen_right
    {first : Rule}
    {second : Shape → Rule}
    (hsecond : ∀ shape, Parser.Prints (· ≠ []) ((second shape).follow call)) :
    Parser.Prints (· ≠ []) ((andThen first second).follow call) := by
  intro c piece d h
  obtain ⟨a, c', b, -, hb, rfl⟩ := follow_andThen_eq_ok_iff.mp h
  simp [hsecond a.shape c' b d hb]

theorem sparing_accept
    (shape : Shape) :
    Parser.Sparing ((accept shape).follow call) := by
  intro c piece d h _
  exact (Parser.pure_eq_ok_iff.mp h).2.symm

theorem sparing_shaped
    {rule : Rule}
    {shape : Shape}
    (hrule : Parser.Sparing (rule.follow call)) :
    Parser.Sparing ((shaped rule shape).follow call) := by
  intro c piece d h htokens
  obtain ⟨a, c', b, ha, hb, rfl⟩ := follow_andThen_eq_ok_iff.mp h
  obtain ⟨rfl, rfl⟩ := Parser.pure_eq_ok_iff.mp hb
  exact hrule c a c' ha (by simpa using htokens)

/-- A name is echoed by what prints something, if what follows it prints nothing for nothing. -/
theorem echoes_andThen
    {first : Rule}
    {second : Shape → Rule}
    (hfirst : Parser.Echoes i (first.follow call))
    (hprints : Parser.Prints (· ≠ []) (first.follow call))
    (hsecond : ∀ shape, Parser.Sparing ((second shape).follow call)) :
    Parser.Echoes i ((andThen first second).follow call) := by
  intro c piece d h span htokens
  obtain ⟨a, c', b, ha, hb, rfl⟩ := follow_andThen_eq_ok_iff.mp h
  rcases List.append_eq_singleton_iff.mp htokens with ⟨hnil, -⟩ | ⟨hname, hnil⟩
  · exact absurd hnil (hprints c a c' ha)
  · obtain rfl := hsecond a.shape c' b d hb hnil
    exact hfirst c a d ha span hname

theorem echoes_shaped
    {rule : Rule}
    {shape : Shape}
    (hrule : Parser.Echoes i (rule.follow call)) :
    Parser.Echoes i ((shaped rule shape).follow call) := by
  intro c piece d h span htokens
  obtain ⟨a, c', b, ha, hb, rfl⟩ := follow_andThen_eq_ok_iff.mp h
  obtain ⟨rfl, rfl⟩ := Parser.pure_eq_ok_iff.mp hb
  exact hrule c a c' ha span (by simpa using htokens)

theorem echoes_name
    {terminal : Terminal}
    (hterminal : terminal.TakesName) :
    Parser.Echoes i ((read terminal).follow call) := by
  intro c piece d h span htokens
  obtain ⟨taken, hread, rfl⟩ := follow_read_eq_ok_iff.mp h
  obtain ⟨rest, htake, rfl⟩ := Parser.takeOr_eq_ok_iff.mp hread
  obtain ⟨j, place, heq, rfl⟩ := hterminal _ _ _ htake
  obtain ⟨rfl, rfl⟩ : j = i ∧ place = span := by simpa using htokens
  exact heq

/-- What is printed as it is written is what was read. -/
theorem echoes_asWritten
    {when : Shape → Bool}
    {rule : Rule}
    (hsteady : Parser.Steady (rule.follow call))
    (hrule : Parser.Echoes i (rule.follow call)) :
    Parser.Echoes i ((asWritten when rule).follow call) := by
  intro c piece d h span htokens
  obtain ⟨inner, hinner, rfl⟩ := follow_asWritten_eq_ok_iff.mp h
  split at htokens
  · obtain ⟨front, hfront⟩ := (hsteady c inner d hinner).1.tokens
    have hlength : c.tokens.length - d.tokens.length = front.length := by
      rw [← hfront, List.length_append]
      omega
    rw [hlength, ← hfront, List.take_left] at htokens
    obtain rfl : front = [.ident i span] := htokens
    exact hfront.symm
  · exact hrule c inner d hinner span htokens

theorem nonempty_name
    {terminal : Terminal}
    (hterminal : terminal.TakesName) :
    Parser.Prints (· ≠ []) ((read terminal).follow call) := by
  intro c piece d h
  obtain ⟨taken, hread, rfl⟩ := follow_read_eq_ok_iff.mp h
  obtain ⟨rest, htake, -⟩ := Parser.takeOr_eq_ok_iff.mp hread
  obtain ⟨j, span, -, rfl⟩ := hterminal _ _ _ htake
  simp

theorem nonempty_of_foreign
    {rule : Rule}
    (h : Parser.Prints Token.Foreign (rule.follow call)) :
    Parser.Prints (· ≠ []) (rule.follow call) := by
  intro c piece d hpiece
  exact (h c piece d hpiece).ne_nil

end Rule

end Rules

section Paths

variable {i : Ident}

namespace Phrase

/-- A phrase ensures what its rule ensures. -/
theorem ensures_readTo
    {Q : Cursor → Piece → Cursor → Prop}
    {phrase : Phrase}
    (h : ∀ depth, Parser.Ensures Q (phrase.rule.follow (readTo depth)))
    (depth : Nat) :
    Parser.Ensures Q (readTo depth phrase) := by
  cases depth with
  | zero =>
      intro c piece d hfail
      cases hfail
  | succ depth =>
      exact h depth

theorem nonempty_angleArguments
    (depth : Nat) :
    Parser.Prints (· ≠ []) (readTo depth .angleArguments) := by
  apply ensures_readTo
  intro depth
  apply Rule.nonempty_andThen_right
  intro _
  apply Rule.nonempty_andThen_left
  exact Rule.nonempty_of_foreign (Rule.foreign_symbol "<")

/-- The name of a segment, which may be the word `Self`. -/
theorem nonempty_segmentName
    (depth : Nat) :
    Parser.Prints (· ≠ [])
      ((Rule.choose (.keyword "Self") (.read .word) (.read .ident)).follow (readTo depth)) :=
  Rule.ensures_choose (Rule.nonempty_name Terminal.takesName_word)
    (Rule.nonempty_name Terminal.takesName_ident)

theorem nonempty_segment
    (style : PathStyle)
    (depth : Nat) :
    Parser.Prints (· ≠ []) (readTo depth (.segment style)) := by
  apply ensures_readTo
  intro depth
  apply Rule.ensures_choose
  · exact Rule.nonempty_andThen_left (Rule.nonempty_name Terminal.takesName_word)
  · exact Rule.nonempty_andThen_left (nonempty_segmentName depth)

/-- A segment is a name, and with arguments it is printed as more. -/
theorem echoes_segment
    (style : PathStyle)
    (depth : Nat) :
    Parser.Echoes i (readTo depth (.segment style)) := by
  apply ensures_readTo
  intro depth
  have hword : Parser.Echoes i ((Rule.read .word).follow (readTo depth)) :=
    Rule.echoes_name Terminal.takesName_word
  apply Rule.ensures_choose (Rule.echoes_shaped hword)
  apply Rule.echoes_andThen
  · exact Rule.ensures_choose hword (Rule.echoes_name Terminal.takesName_ident)
  · exact nonempty_segmentName depth
  · intro _
    apply Rule.ensures_choose _ (Rule.sparing_accept _)
    apply Parser.sparing_of_prints
    exact Rule.nonempty_andThen_left (nonempty_angleArguments depth)

theorem sparing_pathRest
    (style : PathStyle)
    (shape : PathShape)
    (depth : Nat) :
    Parser.Sparing (readTo depth (.pathRest style shape)) := by
  apply ensures_readTo
  intro depth
  apply Rule.ensures_choose _ (Rule.sparing_accept _)
  apply Parser.sparing_of_prints
  exact Rule.nonempty_of_foreign (Rule.foreign_andThen (Rule.foreign_symbol "::"))

theorem nonempty_path
    (style : PathStyle)
    (depth : Nat) :
    Parser.Prints (· ≠ []) (readTo depth (.path style)) := by
  apply ensures_readTo
  intro depth
  apply Rule.ensures_choose
  · exact Rule.nonempty_of_foreign (Rule.foreign_andThen (Rule.foreign_symbol "::"))
  · exact Rule.nonempty_andThen_left (nonempty_segment style depth)

theorem echoes_path
    (hi : i.isReserved = false)
    (style : PathStyle)
    (depth : Nat) :
    Parser.Echoes i (readTo depth (.path style)) := by
  apply ensures_readTo
  intro depth
  apply Rule.ensures_choose
  · exact Parser.echoes_of_foreign hi (Rule.foreign_andThen (Rule.foreign_symbol "::"))
  · apply Rule.echoes_andThen
    · exact echoes_segment style depth
    · exact nonempty_segment style depth
    · intro shape
      exact sparing_pathRest style _ depth

theorem nonempty_qualifiedPath
    (style : PathStyle)
    (depth : Nat) :
    Parser.Prints (· ≠ []) (readTo depth (.qualifiedPath style)) := by
  apply ensures_readTo
  intro depth
  apply Rule.ensures_choose
  · exact Rule.nonempty_of_foreign (Rule.foreign_andThen (Rule.foreign_symbol "<"))
  · exact nonempty_path style depth

theorem echoes_qualifiedPath
    (hi : i.isReserved = false)
    (style : PathStyle)
    (depth : Nat) :
    Parser.Echoes i (readTo depth (.qualifiedPath style)) := by
  apply ensures_readTo
  intro depth
  apply Rule.ensures_choose
  · exact Parser.echoes_of_foreign hi (Rule.foreign_andThen (Rule.foreign_symbol "<"))
  · exact echoes_path hi style depth

end Phrase

end Paths

section Types

variable {i : Ident}

namespace TypeRule

open Rule

theorem sparing_moreBounds
    (mayEnd : Bool)
    (depth : Nat) :
    Parser.Sparing (Phrase.readTo depth (.moreBounds mayEnd)) := by
  apply Phrase.ensures_readTo
  intro depth
  apply ensures_choose _ (sparing_accept .plain)
  apply Parser.sparing_of_prints
  exact nonempty_of_foreign (foreign_andThen (foreign_symbol "+"))

theorem sparing_addedBounds
    (plus : Bool)
    (alone : Shape)
    (depth : Nat) :
    Parser.Sparing ((addedBounds plus alone).follow (Phrase.readTo depth)) := by
  cases plus with
  | false =>
      exact sparing_accept alone
  | true =>
      apply ensures_choose _ (sparing_accept alone)
      apply sparing_shaped
      exact sparing_moreBounds true depth

theorem foreign_function
    (depth : Nat) :
    Parser.Prints Token.Foreign (function.follow (Phrase.readTo depth)) := by
  apply foreign_andThen
  apply foreign_andThen_of_optional (foreign_keyword (by decide))
  intro _
  apply foreign_andThen_of_optional (foreign_andThen (foreign_keyword (by decide)))
  intro _
  exact foreign_andThen (foreign_keyword (by decide))

theorem foreign_binder
    (depth : Nat) :
    Parser.Prints Token.Foreign (Phrase.readTo depth .binder) := by
  apply Phrase.ensures_readTo
  intro depth
  exact foreign_andThen (foreign_keyword (by decide))

theorem nonempty_call
    (depth : Nat) :
    Parser.Prints (· ≠ []) (call.follow (Phrase.readTo depth)) :=
  nonempty_of_foreign (foreign_andThen (foreign_symbol "!"))

/-- A type that begins with a path is a name, and is printed as more if more follows. -/
theorem echoes_pathType
    (hi : i.isReserved = false)
    (plus general : Bool)
    (depth : Nat) :
    Parser.Echoes i ((pathType plus general).follow (Phrase.readTo depth)) := by
  apply echoes_andThen
  · exact Phrase.echoes_qualifiedPath hi .type depth
  · exact Phrase.nonempty_qualifiedPath .type depth
  · intro shape
    split
    · rename_i path
      have htail := sparing_addedBounds plus (if general then .bounds true else .path path) depth
      simp only
      split
      · apply ensures_choose _ htail
        exact Parser.sparing_of_prints (nonempty_andThen_left (nonempty_call depth))
      · exact htail
    · exact sparing_accept _

/-- Added bounds have the shape of what stands alone, or that of bounds. -/
theorem shape_of_addedBounds
    {plus : Bool}
    {alone : Shape}
    {depth : Nat}
    {c d : Cursor}
    {piece : Piece}
    (h : (addedBounds plus alone).follow (Phrase.readTo depth) c = .ok (piece, d)) :
    piece.shape = alone ∨ piece.shape = .bounds false := by
  unfold addedBounds at h
  split at h
  · rw [follow_choose] at h
    split at h
    · obtain ⟨a, c', b, -, hb, rfl⟩ := follow_andThen_eq_ok_iff.mp h
      obtain ⟨rfl, -⟩ := Parser.pure_eq_ok_iff.mp hb
      exact Or.inr rfl
    · obtain ⟨rfl, -⟩ := Parser.pure_eq_ok_iff.mp h
      exact Or.inl rfl
  · obtain ⟨rfl, -⟩ := Parser.pure_eq_ok_iff.mp h
    exact Or.inl rfl

/-- The call of a code generator is printed as more than a name. -/
theorem not_lone_of_calledType
    {plus : Bool}
    {depth : Nat}
    {c d : Cursor}
    {piece : Piece}
    (h : (pathType plus true).follow (Phrase.readTo depth) c = .ok (piece, d))
    (hshape : piece.shape = .calledType)
    (token : Token) :
    piece.tokens ≠ [token] := by
  obtain ⟨a, c', b, ha, hb, rfl⟩ := follow_andThen_eq_ok_iff.mp h
  have hpath := Phrase.nonempty_qualifiedPath .type depth c a c' ha
  have hcall : b.tokens ≠ [] := by
    have hadded {alone : Shape} (halone : alone ≠ .calledType)
        (hb : (addedBounds plus alone).follow (Phrase.readTo depth) c' = .ok (b, d)) :
        b.tokens ≠ [] := by
      rcases shape_of_addedBounds hb with hb | hb
      · exact absurd (hb.symm.trans hshape) halone
      · cases hb.symm.trans hshape
    split at hb
    · simp only at hb
      split at hb
      · rw [follow_choose] at hb
        split at hb
        · exact nonempty_andThen_left (nonempty_call depth) c' b d hb
        · exact hadded (by simp) hb
      · exact hadded (by simp) hb
    · obtain ⟨rfl, -⟩ := Parser.pure_eq_ok_iff.mp hb
      cases hshape
  intro htokens
  rcases List.append_eq_singleton_iff.mp htokens with ⟨hnil, -⟩ | ⟨-, hnil⟩
  · exact hpath hnil
  · exact hcall hnil

/-- Bounds that begin with a lifetime begin with its mark. -/
theorem foreign_bounds_of_lifetime
    {plus captures const seen : Bool}
    {depth : Nat}
    {c d : Cursor}
    {piece : Piece}
    (hlifetime : Lookahead.lifetime.holds c.tokens = true)
    (h : Phrase.readTo depth (.bounds plus captures const seen) c = .ok (piece, d)) :
    Token.Foreign piece.tokens := by
  cases depth with
  | zero =>
      cases h
  | succ depth =>
      obtain ⟨first, c', b, hfirst, -, rfl⟩ := follow_andThen_eq_ok_iff.mp h
      apply Token.Foreign.append
      change Phrase.readTo depth (.bound captures const) c = .ok (first, c') at hfirst
      cases depth with
      | zero =>
          cases hfirst
      | succ depth =>
          change (bound captures const).follow (Phrase.readTo depth) c = .ok (first, c') at hfirst
          rw [bound, firstOf, follow_choose, if_pos hlifetime] at hfirst
          obtain ⟨mark, c'', shape, hmark, -, rfl⟩ := follow_andThen_eq_ok_iff.mp hfirst
          apply Token.Foreign.append
          obtain ⟨taken, hread, rfl⟩ := follow_read_eq_ok_iff.mp hmark
          obtain ⟨rest, htake, -⟩ := Parser.takeOr_eq_ok_iff.mp hread
          obtain ⟨place, more, rfl⟩ := Terminal.exists_of_take_lifetime htake
          exact ⟨_, more, rfl, by simp⟩

/-- The rest of a type behind its lifetimes is printed as more than a name if it is a call. -/
theorem not_lone_of_boundType
    {plus : Bool}
    {depth : Nat}
    {c d : Cursor}
    {piece : Piece}
    (h : Phrase.readTo depth (.boundType plus) c = .ok (piece, d))
    (hshape : piece.shape = .calledType)
    (token : Token) :
    piece.tokens ≠ [token] := by
  cases depth with
  | zero =>
      cases h
  | succ depth =>
      change (boundType plus).follow (Phrase.readTo depth) c = .ok (piece, d) at h
      rw [boundType, follow_choose] at h
      split at h
      · obtain ⟨a, c', b, -, hb, rfl⟩ := follow_andThen_eq_ok_iff.mp h
        obtain ⟨rfl, -⟩ := Parser.pure_eq_ok_iff.mp hb
        cases hshape
      · exact not_lone_of_calledType h hshape token

/-- Bound lifetimes are dropped only in front of the call of a code generator. -/
theorem echoes_general
    (hi : i.isReserved = false)
    (plus : Bool)
    (depth : Nat)
    {drop : Shape → Bool}
    (hdrop : ∀ shape, drop shape = true → shape = .calledType) :
    Parser.Echoes i
      ((before (phrase .binder)
        (choose (.either nameFollows functionFollows) (phrase (.boundType plus))
          (refuse (.oneOf boundStarts))) drop).follow (Phrase.readTo depth)) := by
  intro c piece d h span htokens
  obtain ⟨a, c', b, ha, hb, rfl⟩ := follow_before_eq_ok_iff.mp h
  split at htokens
  · rename_i hdropped
    rw [follow_choose] at hb
    split at hb
    · exact absurd htokens (not_lone_of_boundType hb (hdrop b.shape hdropped) _)
    · cases hb
  · have hforeign := (foreign_binder depth c a c' ha).append b.tokens
    exact absurd htokens (hforeign.ne_ident hi span)

/-- The bounds of an object type that begin with a lifetime echo no name. -/
theorem echoesAt_lifetimeBounds
    (hi : i.isReserved = false)
    (depth : Nat)
    {shape : Shape}
    {c : Cursor}
    (hlifetime : Lookahead.lifetime.holds c.tokens = true) :
    Parser.EchoesAt i ((shaped (objectBounds [] true) shape).follow (Phrase.readTo depth)) c := by
  intro piece d h span htokens
  obtain ⟨a, c', b, ha, hb, rfl⟩ := follow_andThen_eq_ok_iff.mp h
  have hbounds := (follow_require_eq_ok_iff.mp ha).1
  have hforeign := (foreign_bounds_of_lifetime hlifetime hbounds).append b.tokens
  exact absurd htokens (hforeign.ne_ident hi span)

theorem foreign_bounds_behind
    {word : String}
    (hword : reservedWords.contains word = true)
    (introduction : List Rule)
    (plus captures const : Bool)
    (complaint : String)
    (shape : Shape)
    (depth : Nat) :
    Parser.Prints Token.Foreign
      ((shaped
        (boundsWithTrait (keyword word :: introduction) plus captures const complaint)
        shape).follow (Phrase.readTo depth)) := by
  apply foreign_andThen
  apply ensures_require
  cases introduction with
  | nil =>
      exact foreign_andThen (foreign_keyword hword)
  | cons rule rules =>
      exact foreign_andThen (foreign_keyword hword)

/-- A type echoes every name: it begins with something else, or it is a path. -/
theorem echoes_type
    (hi : i.isReserved = false)
    (plus : Bool)
    (depth : Nat) :
    Parser.Echoes i ((type plus).follow (Phrase.readTo depth)) := by
  intro c
  have hforeign {rule : Rule}
      (hrule : Parser.Prints Token.Foreign (rule.follow (Phrase.readTo depth))) :
      Parser.EchoesAt i (rule.follow (Phrase.readTo depth)) c :=
    Parser.echoes_of_foreign hi hrule c
  apply ensuresAt_firstOf
  · simp only [List.forall_mem_cons, List.not_mem_nil, false_implies, implies_true, and_true]
    refine ⟨?_, ?_, ?_, ?_, ?_, ?_, ?_, ?_, ?_, ?_, ?_, ?_⟩
    all_goals intro hholds
    · exact echoes_general hi plus depth (by intro shape; cases shape <;> simp) c
    · exact hforeign (foreign_andThen (foreign_inside _ _))
    · exact hforeign (foreign_function depth)
    · exact echoes_pathType hi plus false depth c
    · apply echoes_shaped
      apply echoes_asWritten (steady_follow (Phrase.steady_readTo depth) _)
      apply ensures_choose
      · exact Parser.echoes_of_foreign hi (foreign_bounds_behind (by decide) _ _ _ _ _ _ depth)
      · exact Parser.echoes_of_foreign hi (foreign_bounds_behind (by decide) _ _ _ _ _ _ depth)
    · exact hforeign (foreign_andThen (foreign_inside _ _))
    · exact hforeign (foreign_andThen (foreign_symbol "*"))
    · exact hforeign (foreign_andThen (foreign_symbol "&"))
    · exact hforeign (foreign_symbol "!")
    · exact hforeign (foreign_bounds_behind (by decide) _ _ _ _ _ _ depth)
    · exact hforeign (foreign_keyword (by decide))
    · exact echoesAt_lifetimeBounds hi depth hholds
  · intro piece d h
    cases h

end TypeRule

/-- A type that is printed as a name is this name. -/
theorem Phrase.tokens_of_type_parse
    (hi : i.isReserved = false)
    {plus : Bool}
    {c d : Cursor}
    {span : Span}
    (h : (Phrase.type plus).parse c = .ok ([.ident i span], d)) :
    c.tokens = .ident i span :: d.tokens := by
  obtain ⟨piece, hpiece, htokens⟩ := Rule.parse_eq_ok_iff.mp h
  have hechoes : Parser.Echoes i (readTo (depthFor c.tokens) (.type plus)) := by
    apply ensures_readTo
    exact TypeRule.echoes_type hi plus
  exact hechoes c piece d hpiece span htokens

end Types

section Check

namespace Attribute

/-- An attribute is the first one with a name. -/
def FirstNamed (attributes : List Attribute) (name : String) (a : Attribute) : Prop :=
  a.HasName name ∧
    ∃ before after, attributes = before ++ a :: after ∧ ∀ other ∈ before, ¬other.HasName name

/-- The group of an attribute, with whatever delimiters, holds the one token `String`. -/
def HoldsString (a : Attribute) : Prop :=
  ∃ delimiter word opening closing,
    a.arguments = .group delimiter [.ident (.plain "String") word] opening closing

theorem find_isNamed_eq_some_iff
    {attributes : List Attribute}
    {name : String}
    {a : Attribute} :
    attributes.find? (·.isNamed name) = some a ↔ FirstNamed attributes name a := by
  simp only [List.find?_eq_some_iff_append, isNamed_eq_true_iff, Bool.not_eq_true',
    ← Bool.not_eq_true]
  rfl

theorem find_isNamed_eq_none_iff
    {attributes : List Attribute}
    {name : String} :
    attributes.find? (·.isNamed name) = none ↔ ∀ a ∈ attributes, ¬a.HasName name := by
  simp only [List.find?_eq_none, isNamed_eq_true_iff]
  rfl

end Attribute

namespace Item

/-- The type of an attribute is that of strings exactly if the attribute holds the one token
`String`. -/
theorem declaredType_string_iff
    (a : Attribute) :
    (∃ tokens, declaredType a = some tokens ∧ Token.lexemesAll tokens = stringType)
      ↔
    a.HoldsString := by
  constructor
  · rintro ⟨tokens, htype, hlexemes⟩
    obtain ⟨word, rfl⟩ := Token.lexemesAll_eq_ident_iff.mp hlexemes
    unfold declaredType at htype
    split at htype
    · rename_i delimiter content opening closing harguments
      split at htype
      · rename_i tokens hparse
        obtain rfl : tokens = [.ident (.plain "String") word] := by simpa using htype
        obtain ⟨d, hrun, hend, -⟩ := Parser.parseAll_eq_ok_iff.mp hparse
        have hcontent : content = .ident (.plain "String") word :: d.tokens :=
          Phrase.tokens_of_type_parse (by decide) hrun
        rw [hend] at hcontent
        exact ⟨delimiter, word, opening, closing, by rw [harguments, hcontent]⟩
      · cases htype
    · cases htype
  · rintro ⟨delimiter, word, opening, closing, harguments⟩
    have hparse :
        Parser.parseAll (Phrase.type true).parse [.ident (.plain "String") word] closing =
          .ok [.ident (.plain "String") word] :=
      rfl
    refine ⟨[.ident (.plain "String") word], ?_, rfl⟩
    rw [declaredType, harguments]
    simp only [hparse]

theorem checkDeclaredType_eq_ok_iff
    (a : Attribute) :
    checkDeclaredType a = .ok () ↔ a.HoldsString := by
  rw [← declaredType_string_iff, checkDeclaredType]
  cases htype : declaredType a with
  | none =>
      simp
  | some tokens =>
      by_cases hstring : Token.lexemesAll tokens = stringType
      · simp [hstring]
      · simp [hstring]

/-- The check of an attribute passes or finds another type. -/
theorem checkDeclaredType_ok_or_notString
    (a : Attribute) :
    checkDeclaredType a = .ok ()
      ∨
    ∃ found span, checkDeclaredType a = .error (rawValueDiagnostic (.notString found) span) := by
  unfold checkDeclaredType
  split
  · split
    · exact Or.inl rfl
    · exact Or.inr ⟨_, _, rfl⟩
  · exact Or.inr ⟨_, _, rfl⟩

/-- The raw value type is accepted exactly if the first attribute that declares one holds the one
token `String`.  Whatever else this attribute holds is reported as another type, and an item
without such an attribute as one without raw values. -/
theorem requireStringRawValue_accepts_string_alone
    (item : Item) :
    (item.requireStringRawValue = .ok ()
        ↔
      ∃ a, Attribute.FirstNamed item.attributes "raw_value" a ∧ a.HoldsString) ∧
    (∀ a, Attribute.FirstNamed item.attributes "raw_value" a → ¬a.HoldsString →
      ∃ found span,
        item.requireStringRawValue =
          .error ⟨.unsupportedRawValueType (.notString found), span⟩) ∧
    ((∀ a ∈ item.attributes, ¬a.HasName "raw_value") →
      item.requireStringRawValue =
        .error ⟨.unsupportedRawValueType .missing, item.name.span⟩) := by
  have hfirst {a : Attribute} (ha : Attribute.FirstNamed item.attributes "raw_value" a) :
      item.requireStringRawValue = checkDeclaredType a := by
    rw [requireStringRawValue, rawValueAttribute, Attribute.find_isNamed_eq_some_iff.mpr ha]
  have hnone (hall : ∀ a ∈ item.attributes, ¬a.HasName "raw_value") :
      item.requireStringRawValue = .error (rawValueDiagnostic .missing item.name.span) := by
    rw [requireStringRawValue, rawValueAttribute, Attribute.find_isNamed_eq_none_iff.mpr hall]
  refine ⟨?_, ?_, hnone⟩
  · constructor
    · intro hok
      cases hfind : item.attributes.find? (·.isNamed "raw_value") with
      | none =>
          rw [hnone (Attribute.find_isNamed_eq_none_iff.mp hfind)] at hok
          cases hok
      | some a =>
          have ha := Attribute.find_isNamed_eq_some_iff.mp hfind
          rw [hfirst ha] at hok
          exact ⟨a, ha, (checkDeclaredType_eq_ok_iff a).mp hok⟩
    · rintro ⟨a, ha, hstring⟩
      rw [hfirst ha]
      exact (checkDeclaredType_eq_ok_iff a).mpr hstring
  · intro a ha hother
    rw [hfirst ha]
    rcases checkDeclaredType_ok_or_notString a with hok | herror
    · exact absurd ((checkDeclaredType_eq_ok_iff a).mp hok) hother
    · exact herror

/-- The empty enum `E` with attributes that declare raw values. -/
def declaring (contents : List (Delimiter × List Token)) : Item where
  attributes :=
    contents.map fun (delimiter, content) =>
      { hash := Span.unplaced
        opening := Span.unplaced
        closing := Span.unplaced
        path := [.ident (.plain "raw_value") Span.unplaced]
        arguments := .group delimiter content Span.unplaced Span.unplaced }
  visibility := []
  name := ⟨.plain "E", Span.unplaced⟩
  generics := ⟨[], []⟩
  body := .enum []

/-- The first attribute counts, and a comma behind the type is one token too many. -/
theorem requireStringRawValue_accepts_string_alone_comma :
    let lone : List Token := [.ident (.plain "String") Span.unplaced]
    let trailed : List Token := lone ++ [.punct ',' .alone Span.unplaced]
    (declaring [(.brace, lone), (.parenthesis, trailed)]).requireStringRawValue = .ok () ∧
    (∃ found span,
      (declaring [(.parenthesis, trailed), (.brace, lone)]).requireStringRawValue =
        .error ⟨.unsupportedRawValueType (.notString found), span⟩) ∧
    (declaring []).requireStringRawValue =
      .error ⟨.unsupportedRawValueType .missing, Span.unplaced⟩ := by
  intro lone trailed
  have hnamed (contents : List (Delimiter × List Token)) (first : Delimiter × List Token) :
      ∃ a, Attribute.FirstNamed (declaring (first :: contents)).attributes "raw_value" a ∧
        a.arguments = .group first.1 first.2 Span.unplaced Span.unplaced :=
    ⟨_, ⟨⟨Span.unplaced, rfl⟩, [], _, rfl, by simp⟩, rfl⟩
  refine ⟨?_, ?_, ?_⟩
  · obtain ⟨a, ha, harguments⟩ := hnamed [(.parenthesis, trailed)] (.brace, lone)
    exact (requireStringRawValue_accepts_string_alone _).1.mpr ⟨a, ha, _, _, _, _, harguments⟩
  · obtain ⟨a, ha, harguments⟩ := hnamed [(.brace, lone)] (.parenthesis, trailed)
    apply (requireStringRawValue_accepts_string_alone _).2.1 a ha
    rintro ⟨delimiter, word, opening, closing, hother⟩
    simp [harguments, trailed, lone] at hother
  · exact (requireStringRawValue_accepts_string_alone _).2.2 (by simp [declaring])

end Item

end Check

end Caseless
