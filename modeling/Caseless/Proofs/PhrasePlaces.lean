import Caseless.Proofs.PrintedPlaces

/-!
# The places of types and expressions

A type or an expression is printed with the places at which it was read, whatever is moved, put in
or left out inside: it begins with a keyword, a symbol, a name, a literal or a group, and so does
everything that it may begin with; and a list in angle brackets, whose entries may move, is followed
by its closing bracket.  This is shown rule by rule, for the phrases that may stand first or last in
a type or an expression.  The main result is `Rule.places_of_parse`.
-/

namespace Caseless

section Openings

variable {prints : Bool}

namespace Rule

@[simp] theorem opens_symbol
    (text : String) :
    (symbol text).Opens prints :=
  nofun

@[simp] theorem opens_keyword
    (word : String) :
    (keyword word).Opens prints :=
  nofun

/-- What is read in order opens with its first part, or with the next one where the first part may
be missing. -/
@[simp] theorem opens_seq_cons
    (first next : Rule)
    (others : List Rule) :
    (seq (first :: next :: others)).Opens prints ↔
      first.Opens true ∨ first.Opens false ∧ (seq (next :: others)).Opens prints := by
  have : Nonempty Shape := ⟨.plain⟩
  simp [seq]

@[simp] theorem opens_shaped
    (rule : Rule)
    (shape : Shape) :
    (shaped rule shape).Opens prints ↔
      rule.Opens true ∨ rule.Opens false ∧ prints = false := by
  have : Nonempty Shape := ⟨.plain⟩
  simp [shaped]

/-- What may be missing opens properly only where nothing has to be printed. -/
@[simp] theorem opens_optional
    (test : Lookahead)
    (rule : Rule) :
    (optional test rule).Opens prints ↔ rule.Opens prints ∧ prints = false := by
  simp [optional]

end Rule

open Rule

theorem PathRule.opens_segment
    (style : PathStyle) :
    (segment style).Opens prints := by
  simp [segment]

/-- A path opens with a double colon or with its first segment. -/
theorem PathRule.opens_path
    (style : PathStyle) :
    (path style).Opens prints := by
  simp [path]

/-- A qualified path opens with an angle bracket, or as a path. -/
theorem PathRule.opens_qualified
    (style : PathStyle) :
    (qualified style).Opens prints := by
  simp [qualified]

theorem PathRule.opens_plainNames :
    plainNames.Opens prints := by
  simp [plainNames]

/-- The double colon in front of a plain path may be missing, its names may not. -/
theorem PathRule.opens_plainPath :
    plainPath.Opens prints := by
  simp [plainPath, optionalSymbol, seq]

theorem AttributeRule.opens_path :
    AttributeRule.path.Opens prints := by
  simp [AttributeRule.path]

theorem AttributeRule.opens_single :
    single.Opens prints := by
  simp [single]

/-- Attributes may be missing, so they may open without printing anything. -/
theorem AttributeRule.opens_attributes
    (seen : Bool) :
    (attributes seen).Opens false := by
  simp [attributes]

theorem TypeRule.opens_binder :
    binder.Opens prints := by
  simp [binder]

theorem TypeRule.opens_traitPath
    (shape : Shape) :
    (traitPath shape).Opens prints := by
  simp [traitPath]

/-- A relaxed bound opens with its mark; where it is forbidden nothing is printed. -/
theorem TypeRule.opens_relaxable
    (general : Bool)
    (shape : Shape) :
    (relaxable general shape).Opens prints := by
  cases general <;> simp [relaxable, firstOf, opens_traitPath]

theorem TypeRule.opens_constable
    (const general : Bool) :
    (constable const general).Opens prints := by
  cases const <;> simp [constable, firstOf, opens_relaxable]

theorem TypeRule.opens_traitBound
    (const : Bool) :
    (traitBound const).Opens prints := by
  simp [traitBound, opens_constable]

/-- A bound opens with a lifetime, a keyword, a group or a trait. -/
theorem TypeRule.opens_bound
    (captures const : Bool) :
    (bound captures const).Opens prints := by
  cases captures <;> simp [bound, capture, firstOf]

theorem TypeRule.opens_bounds
    (plus captures const seen : Bool) :
    (bounds plus captures const seen).Opens prints := by
  simp [bounds]

/-- Bounds open with what introduces them, or with the first bound if nothing does. -/
theorem TypeRule.opens_boundsWithTrait
    (introduction : List Rule)
    (hintroduction : ∀ rule ∈ introduction, rule.Opens true)
    (plus captures const : Bool)
    (complaint : String) :
    (boundsWithTrait introduction plus captures const complaint).Opens prints := by
  cases introduction with
  | nil =>
      simp [boundsWithTrait, seq]
  | cons rule rules =>
      have hrule := hintroduction rule List.mem_cons_self
      cases rules with
      | nil =>
          simp [boundsWithTrait, hrule]
      | cons next rules =>
          simp [boundsWithTrait, hrule]

theorem TypeRule.opens_objectBounds
    (introduction : List Rule)
    (hintroduction : ∀ rule ∈ introduction, rule.Opens true)
    (plus : Bool) :
    (objectBounds introduction plus).Opens prints :=
  opens_boundsWithTrait introduction hintroduction plus false false _

/-- Everything in front of the keyword of a function type may be missing. -/
theorem TypeRule.opens_function :
    function.Opens prints := by
  simp [function, convention, optionalKeyword]

theorem TypeRule.opens_pathType
    (plus general : Bool) :
    (pathType plus general).Opens prints := by
  simp [pathType]

theorem TypeRule.opens_boundType
    (plus : Bool) :
    (boundType plus).Opens prints := by
  simp [boundType, opens_function, opens_pathType]

/-- A type opens with the token by which it is recognised. -/
theorem TypeRule.opens_type
    (plus : Bool) :
    (type plus).Opens prints := by
  simp [type, parenthesised, object, sequence, pointer, reference, firstOf,
    opens_function, opens_pathType, opens_objectBounds, opens_boundsWithTrait]

namespace ExpressionRule

theorem opens_condition :
    condition.Opens prints := by
  simp [condition]

theorem opens_range
    (structs : Bool) :
    (range structs).Opens prints := by
  simp [range, rangeWith, firstOf]

/-- Everything in front of the first bar of a closure may be missing. -/
theorem opens_closure
    (structs : Bool) :
    (closure structs).Opens prints := by
  simp [closure, optionalKeyword]

theorem opens_blocks :
    ∀ alternative ∈ blocks, alternative.2.Opens prints := by
  simp [blocks, loops, distinction, labelled]

/-- An atom opens with the token by which it is recognised. -/
theorem opens_atom
    (structs : Bool) :
    (atom structs).Opens prints := by
  apply opens_firstOf
  · simp [builtin, pathExpression, jumpOut, jump, array, letting,
      opens_closure, opens_range]
  · exact opens_firstOf opens_blocks trivial

/-- An operand opens with its attributes, or else with its operator or its atom. -/
theorem opens_unary
    (structs : Bool) :
    (unary structs).Opens prints := by
  refine Or.inr ⟨rfl, fun marked => ?_⟩
  apply opens_firstOf
  · simp [reference, unaryOperators]
  · have htrailed : (trailed structs).Opens prints := Or.inl (opens_atom structs)
    split
    · exact ⟨by simp [markedRange, rangeWith, firstOf], htrailed⟩
    · exact htrailed

theorem opens_expression
    (structs : Bool) :
    (expression structs).Opens prints :=
  Or.inl trivial

end ExpressionRule

theorem StatementRule.opens_block
    (inner : Bool) :
    (block inner).Opens prints := by
  simp [block]

/-- Every phrase that should open properly has a rule that does. -/
theorem Phrase.opens_rule
    {phrase : Phrase}
    (h : phrase.Opens prints) :
    phrase.rule.Opens prints := by
  cases phrase <;> first
    | exact h.elim
    | skip
  case path style => exact PathRule.opens_path style
  case segment style => exact PathRule.opens_segment style
  case qualifiedPath style => exact PathRule.opens_qualified style
  case plainPath => exact PathRule.opens_plainPath
  case plainNames => exact PathRule.opens_plainNames
  case type plus => exact TypeRule.opens_type plus
  case boundType plus => exact TypeRule.opens_boundType plus
  case binder => exact TypeRule.opens_binder
  case bound captures const => exact TypeRule.opens_bound captures const
  case traitBound const => exact TypeRule.opens_traitBound const
  case bounds plus captures const seen => exact TypeRule.opens_bounds plus captures const seen
  case oneAttribute => exact AttributeRule.opens_single
  case attributes seen =>
    obtain rfl : prints = false := h
    exact AttributeRule.opens_attributes seen
  case expression structs => exact ExpressionRule.opens_expression structs
  case unary structs => exact ExpressionRule.opens_unary structs
  case condition => exact ExpressionRule.opens_condition
  case block inner => exact StatementRule.opens_block inner

end Openings

section Closings

variable {prints : Bool}

namespace Rule

@[simp] theorem closes_symbol
    (text : String) :
    (symbol text).Closes prints :=
  nofun

@[simp] theorem closes_keyword
    (word : String) :
    (keyword word).Closes prints :=
  nofun

/-- What is read in order closes with its last part, or with the one before where the last part may
be missing. -/
@[simp] theorem closes_seq_cons
    (first next : Rule)
    (others : List Rule) :
    (seq (first :: next :: others)).Closes prints ↔
      (seq (next :: others)).Closes true ∨
        first.Closes prints ∧ (seq (next :: others)).Closes false := by
  have : Nonempty Shape := ⟨.plain⟩
  simp [seq]

@[simp] theorem closes_seq_singleton
    (rule : Rule) :
    (seq [rule]).Closes prints ↔ rule.Closes prints :=
  Iff.rfl

/-- What ends in a part that always closes properly does so itself, whatever stands in front. -/
theorem closes_seq_concat
    (rules : List Rule)
    {last : Rule}
    (h : ∀ prints, last.Closes prints) :
    (seq (rules ++ [last])).Closes prints := by
  induction rules generalizing prints with
  | nil =>
      exact h prints
  | cons rule rules ih =>
      obtain ⟨next, others, heq⟩ : ∃ next others, rules ++ [last] = next :: others :=
        List.exists_cons_of_ne_nil (by simp)
      rw [List.cons_append]
      rw [heq] at ih ⊢
      exact Or.inl fun _ => ih

@[simp] theorem closes_shaped
    (rule : Rule)
    (shape : Shape) :
    (shaped rule shape).Closes prints ↔ rule.Closes prints := by
  have : Nonempty Shape := ⟨.plain⟩
  simp [shaped]

/-- What may be missing closes properly if it does so where it stands. -/
@[simp] theorem closes_optional
    (test : Lookahead)
    (rule : Rule) :
    (optional test rule).Closes false ↔
      rule.Closes false ∨
        test = .literalText Terminal.isFloatText ∧ rule = read .indexPair := by
  simp [optional]

end Rule

open Rule

namespace PathRule

/-- A segment closes with its name, or with the closing bracket of its arguments. -/
theorem closes_segment
    (style : PathStyle) :
    (segment style).Closes prints := by
  simp [segment]

/-- The segments behind a path may be missing, and otherwise close with more of themselves. -/
theorem closes_rest
    (style : PathStyle)
    (shape : PathShape) :
    (rest style shape).Closes false := by
  simp [rest]

theorem closes_path
    (style : PathStyle) :
    (path style).Closes prints := by
  simp [path]

theorem closes_qualifiedRest
    (style : PathStyle) :
    (qualifiedRest style).Closes prints := by
  simp [qualifiedRest]

theorem closes_qualified
    (style : PathStyle) :
    (qualified style).Closes prints := by
  simp [qualified]

/-- The arguments may be moved, but the closing bracket stands behind all of them. -/
theorem closes_angleArguments :
    angleArguments.Closes prints := by
  simp [angleArguments]

theorem closes_plainNames :
    plainNames.Closes prints := by
  simp [plainNames]

theorem closes_plainPath :
    plainPath.Closes prints := by
  simp [plainPath]

end PathRule

theorem AttributeRule.closes_path :
    AttributeRule.path.Closes prints := by
  simp [AttributeRule.path]

namespace TypeRule

theorem closes_returnType
    (plus : Bool) :
    (returnType plus).Closes false := by
  simp [returnType]

theorem closes_functionTypes :
    functionTypes.Closes prints := by
  simp [functionTypes]

/-- A trait closes with its path, or with the types of a function behind it. -/
theorem closes_traitPath
    (shape : Shape) :
    (traitPath shape).Closes prints := by
  refine Or.inr ⟨trivial, fun path => ?_⟩
  dsimp only
  split
  · simp [closes_functionTypes]
  · rfl

/-- A relaxed bound closes with its trait; where it is forbidden nothing is printed. -/
theorem closes_relaxable
    (general : Bool)
    (shape : Shape) :
    (relaxable general shape).Closes prints := by
  cases general <;> simp [relaxable, firstOf, closes_traitPath]

theorem closes_constable
    (const general : Bool) :
    (constable const general).Closes prints := by
  cases const <;> simp [constable, firstOf, closes_relaxable]

theorem closes_traitBound
    (const : Bool) :
    (traitBound const).Closes prints := by
  simp [traitBound, closes_constable]

/-- A bound closes with a name, a closing bracket or the path of a trait. -/
theorem closes_bound
    (captures const : Bool) :
    (bound captures const).Closes prints := by
  cases captures <;> simp [bound, capture, firstOf]

/-- Bounds close with the first bound, with a plus sign, or with the bounds behind it. -/
theorem closes_bounds
    (plus captures const seen : Bool) :
    (bounds plus captures const seen).Closes prints := by
  refine Or.inr ⟨trivial, fun shape => ?_⟩
  cases plus <;> simp

theorem closes_moreBounds
    (mayEnd : Bool) :
    (moreBounds mayEnd).Closes false := by
  cases mayEnd <;> simp [moreBounds]

/-- Bounds close alike, whatever introduces them. -/
theorem closes_boundsWithTrait
    (introduction : List Rule)
    (plus captures const : Bool)
    (complaint : String) :
    (boundsWithTrait introduction plus captures const complaint).Closes prints :=
  closes_seq_concat introduction fun _ => trivial

theorem closes_objectBounds
    (introduction : List Rule)
    (plus : Bool) :
    (objectBounds introduction plus).Closes prints :=
  closes_boundsWithTrait introduction plus false false _

theorem closes_function :
    function.Closes prints := by
  simp [function]

/-- Where no plus sign follows, no bounds are added. -/
theorem closes_addedBounds
    (plus : Bool)
    (alone : Shape) :
    (addedBounds plus alone).Closes false := by
  cases plus <;> simp [addedBounds]

/-- A type that begins with a path closes with the path, with bounds behind it, or with the
arguments of a call. -/
theorem closes_pathType
    (plus general : Bool) :
    (pathType plus general).Closes prints := by
  refine Or.inr ⟨trivial, fun shape => ?_⟩
  cases shape with
  | path path =>
      dsimp only
      split
      · simp [call, closes_addedBounds]
      · exact closes_addedBounds _ _
  | _ =>
      rfl

theorem closes_boundType
    (plus : Bool) :
    (boundType plus).Closes prints := by
  simp [boundType, closes_function, closes_pathType]

/-- A type in parentheses closes with the group, or with bounds behind it. -/
theorem closes_parenthesised
    (plus : Bool) :
    (parenthesised plus).Closes prints := by
  refine Or.inr ⟨trivial, fun shape => ?_⟩
  dsimp only
  split
  · simp
  · cases plus <;> simp
  · cases plus <;> simp
  · rfl

/-- A type closes with the last token that is read for it. -/
theorem closes_type
    (plus : Bool) :
    (type plus).Closes prints := by
  simp [type, object, sequence, pointer, reference, firstOf,
    closes_parenthesised, closes_function, closes_pathType, closes_objectBounds,
    closes_boundsWithTrait]

end TypeRule

namespace ExpressionRule

theorem closes_range
    (structs : Bool) :
    (range structs).Closes prints := by
  simp [range, rangeWith, firstOf]

/-- What must not follow a cast is never read. -/
theorem closes_afterCast :
    afterCast.Closes false := by
  simp [afterCast, firstOf]

theorem closes_cast
    (structs : Bool)
    (base : Precedence) :
    (cast structs base).Closes false := by
  simp [cast, closes_afterCast]

theorem closes_operation
    (structs : Bool)
    (base : Precedence)
    (text : String)
    (precedence : Precedence) :
    (operation structs base text precedence).Closes prints := by
  simp [operation]

theorem closes_operator
    (structs : Bool)
    (base : Precedence)
    (shape : Shape)
    (text : String)
    (precedence : Precedence) :
    (operator structs base shape text precedence).Closes false := by
  unfold operator
  split
  · rfl
  · split
    · trivial
    · exact closes_operation structs base text _

/-- Operators may be missing behind an operand, and otherwise close with their last operand. -/
theorem closes_operators
    (structs : Bool)
    (base : Precedence)
    (shape : Shape) :
    (operators structs base shape).Closes false := by
  unfold operators
  split
  · rfl
  · apply closes_firstOf
    · exact List.forall_mem_map.mpr fun op _ => closes_operator structs base shape op.1 op.2
    · apply closes_firstOf
      · have hassign :
            (if base.rank ≤ Precedence.assign.rank then operation structs base "=" .assign
              else accept shape).Closes false := by
          split
          · exact closes_operation structs base "=" .assign
          · rfl
        have hrange :
            (if base.rank ≤ Precedence.range.rank then range structs
              else accept shape).Closes false := by
          split
          · exact closes_range structs
          · rfl
        simp [hassign, hrange, closes_cast]
      · rfl

/-- Tighter operators may be missing behind an operand, and otherwise more of them close it. -/
theorem closes_operandRest
    (structs : Bool)
    (precedence : Precedence)
    (shape : Shape) :
    (operandRest structs precedence shape).Closes false := by
  have hclimb (next : Precedence) {step : Rule} (hstep : step.Closes false) :
      (if bindsTighter next precedence then
          andThen step fun s => phrase (.operandRest structs precedence s)
        else accept shape).Closes false := by
    split
    · exact Or.inr ⟨hstep, fun _ => rfl⟩
    · rfl
  unfold operandRest
  split
  · rfl
  · apply closes_firstOf
    · exact List.forall_mem_map.mpr fun op _ =>
        hclimb op.2 (closes_operator structs op.2 shape op.1 op.2)
    · simp [firstOf, hclimb, closes_operation, closes_range, closes_cast]

theorem closes_operand
    (structs : Bool)
    (precedence : Precedence) :
    (operand structs precedence).Closes prints :=
  Or.inr ⟨trivial, fun _ => rfl⟩

theorem closes_expression
    (structs : Bool) :
    (expression structs).Closes prints :=
  Or.inr ⟨trivial, fun _ => rfl⟩

theorem closes_member :
    member.Closes prints := by
  simp [member, callArguments, firstOf]

/-- Two numbers behind a point close properly, since they are written like a decimal fraction. -/
theorem closes_afterPoint :
    afterPoint.Closes prints := by
  simp [afterPoint, firstOf, closes_member]

/-- Calls and fields may be missing behind an expression, and otherwise close with more of
themselves. -/
theorem closes_trailers
    (shape : Shape) :
    (trailers shape).Closes false := by
  cases shape
  all_goals simp [trailers, callArguments, firstOf, closes_afterPoint]

theorem closes_condition :
    condition.Closes prints := by
  simp [condition, firstOf]

/-- A closure closes with its body. -/
theorem closes_closure
    (structs : Bool) :
    (closure structs).Closes prints := by
  simp [closure]

theorem closes_pathExpression
    (structs : Bool) :
    (pathExpression structs).Closes prints := by
  have hafter : (afterPath structs).Closes false := by
    cases structs <;> simp [afterPath]
  refine Or.inr ⟨trivial, fun shape => ?_⟩
  dsimp only
  split
  · simp [generatorCall, hafter]
  · exact hafter

/-- An expression that ends in a block closes with this block. -/
theorem closes_blocks :
    ∀ alternative ∈ blocks, alternative.2.Closes prints := by
  simp [blocks, loops, distinction, labelled, firstOf]

theorem closes_atom
    (structs : Bool) :
    (atom structs).Closes prints := by
  apply closes_firstOf
  · simp [builtin, jumpOut, jump, array, letting, closes_closure, closes_range,
      closes_pathExpression]
  · exact closes_firstOf closes_blocks trivial

/-- An operand closes with its atom, or with calls and fields behind it. -/
theorem closes_unary
    (structs : Bool) :
    (unary structs).Closes prints := by
  refine Or.inl fun marked => ?_
  apply closes_firstOf
  · simp [reference, unaryOperators]
  · have htrailed : (trailed structs).Closes true := Or.inr ⟨closes_atom structs, fun _ => rfl⟩
    split
    · exact ⟨Or.inl (by simp [markedRange, rangeWith, firstOf]), htrailed⟩
    · exact htrailed

end ExpressionRule

theorem StatementRule.closes_block
    (inner : Bool) :
    (block inner).Closes prints := by
  simp [block]

/-- Every phrase that should close properly has a rule that does. -/
theorem Phrase.closes_rule
    {phrase : Phrase}
    (h : phrase.Closes prints) :
    phrase.rule.Closes prints := by
  cases phrase <;> first
    | exact h.elim
    | skip
  case path style => exact PathRule.closes_path style
  case segment style => exact PathRule.closes_segment style
  case qualifiedPath style => exact PathRule.closes_qualified style
  case qualifiedRest style => exact PathRule.closes_qualifiedRest style
  case angleArguments => exact PathRule.closes_angleArguments
  case plainPath => exact PathRule.closes_plainPath
  case plainNames => exact PathRule.closes_plainNames
  case type plus => exact TypeRule.closes_type plus
  case boundType plus => exact TypeRule.closes_boundType plus
  case bound captures const => exact TypeRule.closes_bound captures const
  case traitBound const => exact TypeRule.closes_traitBound const
  case bounds plus captures const seen => exact TypeRule.closes_bounds plus captures const seen
  case expression structs => exact ExpressionRule.closes_expression structs
  case unary structs => exact ExpressionRule.closes_unary structs
  case operand structs precedence => exact ExpressionRule.closes_operand structs precedence
  case condition => exact ExpressionRule.closes_condition
  case block inner => exact StatementRule.closes_block inner
  all_goals obtain rfl : prints = false := h
  case pathRest style shape => exact PathRule.closes_rest style shape
  case returnType plus => exact TypeRule.closes_returnType plus
  case moreBounds mayEnd => exact TypeRule.closes_moreBounds mayEnd
  case operators structs base shape => exact ExpressionRule.closes_operators structs base shape
  case operandRest structs precedence shape =>
    exact ExpressionRule.closes_operandRest structs precedence shape
  case trailers shape => exact ExpressionRule.closes_trailers shape

end Closings

section Phrases

namespace Phrase

theorem opens_readTo
    (depth : Nat)
    {phrase : Phrase}
    {prints : Bool}
    (h : phrase.Opens prints) :
    Parser.Opens prints (readTo depth phrase) := by
  induction depth generalizing phrase prints with
  | zero =>
      intro c piece d hfail
      cases hfail
  | succ depth ih =>
      exact Rule.opens_follow (steady_readTo depth) (fun p prints hp => ih hp) (opens_rule h)

theorem closes_readTo
    (depth : Nat)
    {phrase : Phrase}
    {prints : Bool}
    (h : phrase.Closes prints) :
    Parser.Closes prints (readTo depth phrase) := by
  induction depth generalizing phrase prints with
  | zero =>
      intro c piece d _ hfail
      cases hfail
  | succ depth ih =>
      exact Rule.closes_follow (steady_readTo depth) (fun p prints hp => ih hp) (closes_rule h)

end Phrase

namespace Rule

/-- What is printed by a rule that opens and closes properly begins where a lexeme begins that was
read, and ends where the last token ends that was read. -/
theorem places_of_follow
    {rule : Rule}
    (hopens : rule.Opens true)
    (hcloses : rule.Closes true)
    {depth : Nat}
    {c d : Cursor}
    {piece : Piece}
    (hlaid : Lexeme.Laid (Token.leavesAll c.tokens))
    (h : rule.follow (Phrase.readTo depth) c = .ok (piece, d)) :
    ∃ read,
      c.tokens = read ++ d.tokens ∧
      Token.BeginsIn piece.tokens read ∧
      Token.stop? piece.tokens = Token.stop? read ∧
      piece.tokens ≠ [] := by
  have hsteady := Phrase.steady_readTo depth
  obtain ⟨read, hread, hbegins, hne⟩ :=
    opens_follow hsteady (fun _ _ => Phrase.opens_readTo depth) hopens c piece d h
  obtain ⟨read', hread', hstop, -⟩ :=
    closes_follow hsteady (fun _ _ => Phrase.closes_readTo depth) hcloses c piece d hlaid h
  obtain rfl : read = read' := List.append_cancel_right (hread.symm.trans hread')
  exact ⟨read, hread, hbegins, hstop, hne rfl⟩

theorem places_of_parse
    {rule : Rule}
    (hopens : rule.Opens true)
    (hcloses : rule.Closes true)
    {c d : Cursor}
    {tokens : List Token}
    (hlaid : Lexeme.Laid (Token.leavesAll c.tokens))
    (h : rule.parse c = .ok (tokens, d)) :
    ∃ read,
      c.tokens = read ++ d.tokens ∧
      Token.BeginsIn tokens read ∧
      Token.stop? tokens = Token.stop? read ∧
      tokens ≠ [] := by
  obtain ⟨piece, hpiece, rfl⟩ := Rule.parse_eq_ok_iff.mp h
  exact places_of_follow hopens hcloses hlaid hpiece

/-- What is printed by a rule that closes properly ends where the last token ends that was read. -/
theorem stop?_of_parse
    {rule : Rule}
    {prints : Bool}
    (hcloses : rule.Closes prints)
    {c d : Cursor}
    {tokens : List Token}
    (hlaid : Lexeme.Laid (Token.leavesAll c.tokens))
    (h : rule.parse c = .ok (tokens, d)) :
    ∃ read, c.tokens = read ++ d.tokens ∧ Token.stop? tokens = Token.stop? read := by
  obtain ⟨piece, hpiece, rfl⟩ := Rule.parse_eq_ok_iff.mp h
  obtain ⟨read, hread, hstop, -⟩ :=
    closes_follow (Phrase.steady_readTo _) (fun _ _ => Phrase.closes_readTo _) hcloses c piece d
      hlaid hpiece
  exact ⟨read, hread, hstop⟩

end Rule

end Phrases

end Caseless
