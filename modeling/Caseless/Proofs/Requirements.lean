import Caseless.Proofs.ErrorPlaces

/-!
# What rules require

There is one thing that rules ask of what was read, beyond its tokens: that bounds have a trait
among them.  What they forbid is printed at its place.  So an error of a rule is a complaint about
the next token, about bounds or about what is forbidden, and every phrase blames its input
(`Phrase.blames_parse`).
-/

namespace Caseless

section Combinators

namespace Rule

@[simp] theorem requiresOfBounds_symbol
    (text : String) :
    (symbol text).RequiresOfBounds :=
  trivial

@[simp] theorem requiresOfBounds_keyword
    (word : String) :
    (keyword word).RequiresOfBounds :=
  trivial

/-- A shape of its own requires nothing. -/
@[simp] theorem requiresOfBounds_shaped
    (rule : Rule)
    (shape : Shape) :
    (shaped rule shape).RequiresOfBounds ↔ rule.RequiresOfBounds := by
  simp [shaped]

@[simp] theorem requiresOfBounds_optional
    (test : Lookahead)
    (rule : Rule) :
    (optional test rule).RequiresOfBounds ↔ rule.RequiresOfBounds := by
  simp [optional]

@[simp] theorem requiresOfBounds_optionalSymbol
    (text : String) :
    (optionalSymbol text).RequiresOfBounds := by
  simp [optionalSymbol]

@[simp] theorem requiresOfBounds_optionalKeyword
    (word : String) :
    (optionalKeyword word).RequiresOfBounds := by
  simp [optionalKeyword]

@[simp] theorem requiresOfBounds_present
    (test : Lookahead)
    (rule : Rule) :
    (present test rule).RequiresOfBounds ↔ rule.RequiresOfBounds := by
  simp [present]

@[simp] theorem requiresOfBounds_firstOf_nil
    (otherwise : Rule) :
    (firstOf [] otherwise).RequiresOfBounds ↔ otherwise.RequiresOfBounds :=
  Iff.rfl

@[simp] theorem requiresOfBounds_firstOf_cons
    (test : Lookahead)
    (rule : Rule)
    (others : List (Lookahead × Rule))
    (otherwise : Rule) :
    (firstOf ((test, rule) :: others) otherwise).RequiresOfBounds ↔
      rule.RequiresOfBounds ∧ (firstOf others otherwise).RequiresOfBounds :=
  Iff.rfl

/-- Of several rules each has to keep to what may be required. -/
theorem requiresOfBounds_firstOf
    {alternatives : List (Lookahead × Rule)}
    {otherwise : Rule}
    (halternatives : ∀ alternative ∈ alternatives, alternative.2.RequiresOfBounds)
    (hotherwise : otherwise.RequiresOfBounds) :
    (firstOf alternatives otherwise).RequiresOfBounds := by
  induction alternatives with
  | nil =>
      exact hotherwise
  | cons alternative others ih =>
      obtain ⟨hrule, hothers⟩ := List.forall_mem_cons.mp halternatives
      exact ⟨hrule, ih hothers⟩

/-- A list requires what its entries do. -/
@[simp] theorem requiresOfBounds_commaList
    (entry : Rule)
    (again : Phrase) :
    (commaList entry again).RequiresOfBounds ↔ entry.RequiresOfBounds := by
  simp [commaList]

/-- An alternative meets what both sides meet. -/
@[simp] theorem requiresOfBounds_ite
    (condition : Prop)
    [Decidable condition]
    (yes no : Rule) :
    (if condition then yes else no).RequiresOfBounds ↔
      (condition → yes.RequiresOfBounds) ∧ (¬condition → no.RequiresOfBounds) := by
  split <;> simp [*]

end Rule

end Combinators

open Rule

section Types

namespace PathRule

/-- What may follow a type among arguments depends on the shape of the type. -/
theorem requiresOfBounds_genericArgument :
    genericArgument.RequiresOfBounds := by
  refine ⟨by simp, by simp, trivial, fun shape => ?_⟩
  dsimp only
  split <;> simp [association]

end PathRule

namespace TypeRule

/-- The types of a function follow a path only where its last segment has no arguments. -/
theorem requiresOfBounds_traitPath
    (shape : Shape) :
    (traitPath shape).RequiresOfBounds := by
  refine ⟨trivial, fun path => ?_⟩
  dsimp only
  split
  · simp [functionTypes]
  · trivial

/-- A mark that is forbidden is a token or a group, and printed at its place. -/
theorem requiresOfBounds_constable
    (const general : Bool) :
    (constable const general).RequiresOfBounds := by
  simp [constable, relaxable, requiresOfBounds_traitPath]

/-- Bounds behind keywords are what a trait is required of. -/
theorem requiresOfBounds_boundsWithTrait
    (terminals : List Terminal)
    (hterminals : ∀ terminal ∈ terminals, terminal ≠ .indexPair)
    (plus captures const : Bool)
    (complaint : String) :
    (boundsWithTrait (terminals.map read) plus captures const complaint).RequiresOfBounds := by
  refine ⟨rfl, terminals.map read, plus, captures, const, ?_, rfl⟩
  intro rule hrule
  obtain ⟨terminal, hterminal, rfl⟩ := List.mem_map.mp hrule
  exact ⟨terminal, hterminals terminal hterminal, rfl⟩

theorem requiresOfBounds_objectBounds
    (terminals : List Terminal)
    (hterminals : ∀ terminal ∈ terminals, terminal ≠ .indexPair)
    (plus : Bool) :
    (objectBounds (terminals.map read) plus).RequiresOfBounds :=
  requiresOfBounds_boundsWithTrait terminals hterminals plus false false _

/-- An object type requires a trait, with a star behind its keyword or without. -/
theorem requiresOfBounds_object
    (plus : Bool) :
    (object plus).RequiresOfBounds := by
  have hstar := requiresOfBounds_objectBounds [.keyword "dyn", .symbol "*"] (by simp) plus
  have hplain := requiresOfBounds_objectBounds [.keyword "dyn"] (by simp) plus
  simp only [object, RequiresOfBounds, requiresOfBounds_shaped]
  exact ⟨hstar, hplain⟩

theorem requiresOfBounds_function :
    function.RequiresOfBounds := by
  simp [function, convention]

/-- Only behind a path that is not qualified by a type does anything follow. -/
theorem requiresOfBounds_pathType
    (plus general : Bool) :
    (pathType plus general).RequiresOfBounds := by
  refine ⟨trivial, fun shape => ?_⟩
  cases shape <;> simp [addedBounds, call]

/-- In parentheses lifetimes alone are no bounds, and behind them bounds may be added. -/
theorem requiresOfBounds_parenthesised
    (plus : Bool) :
    (parenthesised plus).RequiresOfBounds := by
  have hlifetimes := requiresOfBounds_objectBounds [] (by simp) true
  refine ⟨?_, fun shape => ?_⟩
  · simpa [parenthesisContent] using hlifetimes
  · cases shape <;> simp
    split <;> simp

/-- Three kinds of types require a trait among their bounds: those that begin with `dyn`, with
`impl` or with a lifetime. -/
theorem requiresOfBounds_type
    (plus : Bool) :
    (type plus).RequiresOfBounds := by
  have himpl :
      (boundsWithTrait [keyword "impl"] plus true true
        "at least one trait must be specified").RequiresOfBounds :=
    requiresOfBounds_boundsWithTrait [.keyword "impl"] (by simp) plus true true _
  have hlifetimes := requiresOfBounds_objectBounds [] (by simp) true
  simpa [type, sequence, pointer, reference, requiresOfBounds_parenthesised,
    requiresOfBounds_function, requiresOfBounds_pathType, requiresOfBounds_object]
    using And.intro himpl hlifetimes

end TypeRule

theorem AttributeRule.requiresOfBounds_content :
    content.RequiresOfBounds := by
  simp [content, AttributeRule.path, value]

end Types

section Expressions

namespace ExpressionRule

theorem requiresOfBounds_range
    (structs : Bool) :
    (range structs).RequiresOfBounds := by
  simp [range, rangeWith]

theorem requiresOfBounds_cast
    (structs : Bool)
    (base : Precedence) :
    (cast structs base).RequiresOfBounds := by
  simp [cast, afterCast]

theorem requiresOfBounds_operation
    (structs : Bool)
    (base : Precedence)
    (text : String)
    (precedence : Precedence) :
    (operation structs base text precedence).RequiresOfBounds := by
  simp [operation]

/-- An operator that does not apply here requires nothing. -/
theorem requiresOfBounds_operator
    (structs : Bool)
    (base : Precedence)
    (shape : Shape)
    (text : String)
    (precedence : Precedence) :
    (operator structs base shape text precedence).RequiresOfBounds := by
  unfold operator
  split
  · trivial
  · split
    · trivial
    · exact requiresOfBounds_operation structs base text _

/-- Whichever operator follows, its operands require nothing themselves. -/
theorem requiresOfBounds_operators
    (structs : Bool)
    (base : Precedence)
    (shape : Shape) :
    (operators structs base shape).RequiresOfBounds := by
  unfold operators
  split
  · trivial
  · apply requiresOfBounds_firstOf
      (List.forall_mem_map.mpr fun op _ => requiresOfBounds_operator ..)
    simp [requiresOfBounds_operation, requiresOfBounds_range, requiresOfBounds_cast]

theorem requiresOfBounds_operandRest
    (structs : Bool)
    (precedence : Precedence)
    (shape : Shape) :
    (operandRest structs precedence shape).RequiresOfBounds := by
  unfold operandRest
  split
  · trivial
  · apply requiresOfBounds_firstOf
      (List.forall_mem_map.mpr fun op _ => by simp [requiresOfBounds_operator])
    simp [requiresOfBounds_operation, requiresOfBounds_range, requiresOfBounds_cast]

theorem requiresOfBounds_trailers
    (shape : Shape) :
    (trailers shape).RequiresOfBounds := by
  have hpoint : afterPoint.RequiresOfBounds := by
    simp [afterPoint, member, methodArguments, callArguments]
  cases shape <;> simp [trailers, callArguments, hpoint]

theorem requiresOfBounds_pathExpression
    (structs : Bool) :
    (pathExpression structs).RequiresOfBounds := by
  have hafter : (afterPath structs).RequiresOfBounds := by
    simp [afterPath]
  refine ⟨trivial, fun shape => ?_⟩
  dsimp only
  split
  · simp [generatorCall, hafter]
  · exact hafter

/-- An expression that ends in a block requires nothing beside its parts. -/
theorem requiresOfBounds_blocks :
    ∀ alternative ∈ blocks, alternative.2.RequiresOfBounds := by
  simp [blocks, loops, distinction, labelled]

/-- An atom requires nothing beside its parts; an expression that needs parentheses is forbidden as
a whole. -/
theorem requiresOfBounds_atom
    (structs : Bool) :
    (atom structs).RequiresOfBounds := by
  have hblocks :
      (firstOf blocks (refuse (.wanted "an expression"))).RequiresOfBounds :=
    requiresOfBounds_firstOf requiresOfBounds_blocks trivial
  simp [atom, hblocks, closure, builtin, jumpOut, jump, array, letting,
    requiresOfBounds_pathExpression, requiresOfBounds_range]

/-- The dots of a range are forbidden behind attributes, and printed at their place. -/
theorem requiresOfBounds_unary
    (structs : Bool) :
    (unary structs).RequiresOfBounds := by
  refine ⟨trivial, fun marked => ?_⟩
  apply requiresOfBounds_firstOf (by simp [reference, unaryOperators])
  have htrailed : (trailed structs).RequiresOfBounds :=
    ⟨requiresOfBounds_atom structs, fun _ => trivial⟩
  split
  · exact ⟨by simp [markedRange, rangeWith], htrailed⟩
  · exact htrailed

theorem requiresOfBounds_statementExpression :
    statementExpression.RequiresOfBounds := by
  have hblocks :
      ∀ alternative ∈ blocks.map fun option =>
        (option.1,
          seq [option.2,
            choose (.either (.symbolOnly "." [".."]) (.symbol "?"))
              (andThen (phrase (.trailers .plain)) fun shape =>
                phrase (.operators true .jump shape))
              (accept .block)]),
        alternative.2.RequiresOfBounds :=
    List.forall_mem_map.mpr fun option hoption => by
      simp [requiresOfBounds_blocks option hoption]
  exact ⟨trivial, fun _ => requiresOfBounds_firstOf hblocks trivial⟩

end ExpressionRule

namespace PatternRule

theorem requiresOfBounds_closedEnd
    (shape : Shape) :
    (closedEnd shape).RequiresOfBounds := by
  refine ⟨trivial, fun bound => ?_⟩
  dsimp only
  split <;> trivial

/-- The end of a range may be missing or not, depending on its dots. -/
theorem requiresOfBounds_rangeRest :
    rangeRest.RequiresOfBounds := by
  refine ⟨by simp [requiresOfBounds_closedEnd], by simp [requiresOfBounds_closedEnd], trivial,
    fun _ => ⟨trivial, fun bound => ?_⟩⟩
  dsimp only
  split <;> trivial

theorem requiresOfBounds_openRange :
    openRange.RequiresOfBounds := by
  refine ⟨by simp [requiresOfBounds_closedEnd], trivial, fun _ => ⟨trivial, fun bound => ?_⟩⟩
  dsimp only
  split <;> trivial

theorem requiresOfBounds_pathPattern :
    pathPattern.RequiresOfBounds := by
  have hafter : afterPath.RequiresOfBounds := by
    simp [afterPath, requiresOfBounds_rangeRest]
  refine ⟨trivial, fun shape => ?_⟩
  dsimp only
  split
  · simp [TypeRule.call, hafter]
  · exact hafter

/-- A pattern requires nothing beside its parts. -/
theorem requiresOfBounds_pattern :
    pattern.RequiresOfBounds := by
  simp [pattern, binding, requiresOfBounds_pathPattern, requiresOfBounds_rangeRest,
    requiresOfBounds_openRange]

theorem requiresOfBounds_patternList
    (slice : Bool) :
    (patternList slice).RequiresOfBounds := by
  have hpart : slicePart.RequiresOfBounds := by
    refine ⟨trivial, fun shape => ?_⟩
    cases shape <;> trivial
  simp [patternList, hpart]

end PatternRule

end Expressions

section Items

namespace SignatureRule

@[simp] theorem requiresOfBounds_bounded
    (stop : Lookahead)
    (bounds : Phrase) :
    (bounded stop bounds).RequiresOfBounds := by
  simp [bounded, introduced]

@[simp] theorem requiresOfBounds_defined
    (value : Phrase) :
    (defined value).RequiresOfBounds := by
  simp [defined]

@[simp] theorem requiresOfBounds_conditions :
    conditions.RequiresOfBounds := by
  simp [conditions, introduced]

/-- The bounds of a parameter need no trait among them. -/
@[simp] theorem requiresOfBounds_generics :
    generics.RequiresOfBounds := by
  simp [generics, parameter]

theorem requiresOfBounds_functionParameters
    (first : Bool) :
    (functionParameters first).RequiresOfBounds := by
  simp [functionParameters, dots, receiver, parametersRest, ordinary]

@[simp] theorem requiresOfBounds_signatureRest :
    signatureRest.RequiresOfBounds := by
  simp [signatureRest, TypeRule.convention]

@[simp] theorem requiresOfBounds_signature :
    signature.RequiresOfBounds := by
  simp [signature]

@[simp] theorem requiresOfBounds_body :
    body.RequiresOfBounds := by
  simp [body]

@[simp] theorem requiresOfBounds_function :
    function.RequiresOfBounds := by
  simp [function]

end SignatureRule

namespace ItemRule

@[simp] theorem requiresOfBounds_nameOrBlank :
    nameOrBlank.RequiresOfBounds := by
  simp [nameOrBlank]

@[simp] theorem requiresOfBounds_constantWith
    (shape : Bool → Bool → Shape) :
    (constantWith shape).RequiresOfBounds := by
  simp [constantWith]

/-- Where the conditions of a type stand makes no difference for what is required. -/
@[simp] theorem requiresOfBounds_typeNameWith
    (early late : Bool)
    (shape : Bool → Bool → Shape) :
    (typeNameWith early late shape).RequiresOfBounds := by
  simp [typeNameWith]

@[simp] theorem requiresOfBounds_contents
    (list : Phrase) :
    (contents list).RequiresOfBounds := by
  simp [contents]

@[simp] theorem requiresOfBounds_traitRest :
    traitRest.RequiresOfBounds := by
  simp [traitRest]

@[simp] theorem requiresOfBounds_trait :
    trait.RequiresOfBounds := by
  simp [trait]

@[simp] theorem requiresOfBounds_implementation
    (visible : Bool) :
    (implementation visible).RequiresOfBounds := by
  simp [implementation, implementationHead, constantMark]

@[simp] theorem requiresOfBounds_callArguments :
    callArguments.RequiresOfBounds := by
  simp [callArguments]

@[simp] theorem requiresOfBounds_hiddenForeign
    (visible : Bool) :
    (hiddenForeign visible).RequiresOfBounds := by
  simp [hiddenForeign, foreign, TypeRule.convention]

@[simp] theorem requiresOfBounds_moduleItem :
    moduleItem.RequiresOfBounds := by
  simp [moduleItem]

/-- An item requires nothing beside its parts. -/
theorem requiresOfBounds_item :
    item.RequiresOfBounds := by
  simp [item, itemBehind, package, importItem, static, constant, marked, typeName, struct, enum,
    union, traitOrAlias, generator, namedCall]

theorem requiresOfBounds_importTrees
    (rootable seen : Bool) :
    (importTrees rootable seen).RequiresOfBounds := by
  simp [importTrees, rootableTree]

end ItemRule

/-- What makes a statement one that is kept as it is written requires nothing. -/
theorem StatementRule.requiresOfBounds_statement :
    statement.RequiresOfBounds := by
  simp [statement, call, variableStatement, initializer, expressionStatement]

/-- Members of all owners require nothing beside their parts. -/
theorem MemberRule.requiresOfBounds_member
    (owner : Owner) :
    (member owner).RequiresOfBounds := by
  cases owner
  all_goals simp [member, implementation, implemented, trait, traitFunction, declared, foreign,
    foreignFunction, foreignStatic, safety, callUnless, ItemRule.constant, ItemRule.call]

end Items

/-- No rule requires anything but a trait among bounds, or forbids what is printed elsewhere. -/
theorem Phrase.requiresOfBounds_rule
    (phrase : Phrase) :
    phrase.rule.RequiresOfBounds := by
  cases phrase with
  | path style =>
      change (PathRule.path style).RequiresOfBounds
      simp [PathRule.path]
  | pathRest style shape =>
      change (PathRule.rest style shape).RequiresOfBounds
      simp [PathRule.rest]
  | segment style =>
      change (PathRule.segment style).RequiresOfBounds
      simp [PathRule.segment]
  | qualifiedPath style =>
      change (PathRule.qualified style).RequiresOfBounds
      simp [PathRule.qualified]
  | qualifiedRest style =>
      change (PathRule.qualifiedRest style).RequiresOfBounds
      simp [PathRule.qualifiedRest]
  | angleArguments =>
      change PathRule.angleArguments.RequiresOfBounds
      simp [PathRule.angleArguments]
  | genericArgument =>
      exact PathRule.requiresOfBounds_genericArgument
  | constArgument =>
      change PathRule.constArgument.RequiresOfBounds
      simp [PathRule.constArgument]
  | argumentBounds =>
      change PathRule.argumentBounds.RequiresOfBounds
      simp [PathRule.argumentBounds]
  | type plus =>
      exact TypeRule.requiresOfBounds_type plus
  | typeList =>
      change TypeRule.typeList.RequiresOfBounds
      simp [TypeRule.typeList]
  | boundType plus =>
      change (TypeRule.boundType plus).RequiresOfBounds
      simp [TypeRule.boundType, TypeRule.requiresOfBounds_function,
        TypeRule.requiresOfBounds_pathType]
  | returnType plus =>
      change (TypeRule.returnType plus).RequiresOfBounds
      simp [TypeRule.returnType]
  | binder =>
      change TypeRule.binder.RequiresOfBounds
      simp [TypeRule.binder]
  | bound captures const =>
      change (TypeRule.bound captures const).RequiresOfBounds
      simp [TypeRule.bound, TypeRule.capture]
  | traitBound const =>
      change (TypeRule.traitBound const).RequiresOfBounds
      simp [TypeRule.traitBound, TypeRule.requiresOfBounds_constable]
  | bounds plus captures const seen =>
      change (TypeRule.bounds plus captures const seen).RequiresOfBounds
      simp [TypeRule.bounds]
  | moreBounds mayEnd =>
      change (TypeRule.moreBounds mayEnd).RequiresOfBounds
      simp [TypeRule.moreBounds]
  | functionArguments first =>
      change (TypeRule.functionArguments first).RequiresOfBounds
      simp [TypeRule.functionArguments, TypeRule.dots, TypeRule.firstArgument,
        TypeRule.laterArgument]
  | plainPath =>
      change PathRule.plainPath.RequiresOfBounds
      simp [PathRule.plainPath]
  | plainNames =>
      change PathRule.plainNames.RequiresOfBounds
      simp [PathRule.plainNames]
  | oneAttribute =>
      change AttributeRule.single.RequiresOfBounds
      simp [AttributeRule.single, AttributeRule.requiresOfBounds_content]
  | attributes seen =>
      change (AttributeRule.attributes seen).RequiresOfBounds
      simp [AttributeRule.attributes]
  | innerAttributes =>
      change AttributeRule.innerAttributes.RequiresOfBounds
      simp [AttributeRule.innerAttributes, AttributeRule.requiresOfBounds_content]
  | expression structs =>
      change (ExpressionRule.expression structs).RequiresOfBounds
      simp [ExpressionRule.expression]
  | statementExpression =>
      exact ExpressionRule.requiresOfBounds_statementExpression
  | unary structs =>
      exact ExpressionRule.requiresOfBounds_unary structs
  | operators structs base shape =>
      exact ExpressionRule.requiresOfBounds_operators structs base shape
  | operand structs precedence =>
      change (ExpressionRule.operand structs precedence).RequiresOfBounds
      simp [ExpressionRule.operand]
  | operandRest structs precedence shape =>
      exact ExpressionRule.requiresOfBounds_operandRest structs precedence shape
  | trailers shape =>
      exact ExpressionRule.requiresOfBounds_trailers shape
  | expressionList =>
      change ExpressionRule.expressionList.RequiresOfBounds
      simp [ExpressionRule.expressionList]
  | fieldValues =>
      change ExpressionRule.fieldValues.RequiresOfBounds
      simp [ExpressionRule.fieldValues]
  | closureArguments =>
      change ExpressionRule.closureArguments.RequiresOfBounds
      simp [ExpressionRule.closureArguments]
  | condition =>
      change ExpressionRule.condition.RequiresOfBounds
      simp [ExpressionRule.condition]
  | arms =>
      change ExpressionRule.arms.RequiresOfBounds
      simp [ExpressionRule.arms]
  | block inner =>
      change (StatementRule.block inner).RequiresOfBounds
      simp [StatementRule.block]
  | statements =>
      change StatementRule.statements.RequiresOfBounds
      simp [StatementRule.statements]
  | statement =>
      exact StatementRule.requiresOfBounds_statement
  | pattern =>
      exact PatternRule.requiresOfBounds_pattern
  | patterns =>
      change PatternRule.patterns.RequiresOfBounds
      simp [PatternRule.patterns]
  | morePatterns =>
      change PatternRule.morePatterns.RequiresOfBounds
      simp [PatternRule.morePatterns]
  | patternList slice =>
      exact PatternRule.requiresOfBounds_patternList slice
  | patternFields =>
      change PatternRule.patternFields.RequiresOfBounds
      simp [PatternRule.patternFields, PatternRule.fieldPattern]
  | rangeBound =>
      change PatternRule.rangeBound.RequiresOfBounds
      simp [PatternRule.rangeBound]
  | visibility =>
      change FieldRule.visibility.RequiresOfBounds
      simp [FieldRule.visibility]
  | namedFields =>
      change FieldRule.namedFields.RequiresOfBounds
      simp [FieldRule.namedFields, FieldRule.named, FieldRule.anonymous]
  | tupleFields =>
      change FieldRule.tupleFields.RequiresOfBounds
      simp [FieldRule.tupleFields]
  | parameterBounds =>
      change TypeRule.parameterBounds.RequiresOfBounds
      simp [TypeRule.parameterBounds, TypeRule.boundsUpTo]
  | lifetimeBounds =>
      change TypeRule.lifetimeBounds.RequiresOfBounds
      simp [TypeRule.lifetimeBounds, TypeRule.boundsUpTo]
  | predicate =>
      change TypeRule.predicate.RequiresOfBounds
      simp [TypeRule.predicate]
  | predicateLifetimes =>
      change TypeRule.predicateLifetimes.RequiresOfBounds
      simp [TypeRule.predicateLifetimes, TypeRule.boundsUpTo]
  | predicateBounds =>
      change TypeRule.predicateBounds.RequiresOfBounds
      simp [TypeRule.predicateBounds, TypeRule.boundsUpTo]
  | predicates =>
      change TypeRule.predicates.RequiresOfBounds
      simp [TypeRule.predicates]
  | functionParameters first =>
      exact SignatureRule.requiresOfBounds_functionParameters first
  | variants =>
      change ItemRule.variants.RequiresOfBounds
      simp [ItemRule.variants, ItemRule.variantFields]
  | importTree rootable =>
      change (ItemRule.importTree rootable).RequiresOfBounds
      simp [ItemRule.importTree]
  | importTrees rootable seen =>
      exact ItemRule.requiresOfBounds_importTrees rootable seen
  | associatedBounds =>
      change ItemRule.associatedBounds.RequiresOfBounds
      simp [ItemRule.associatedBounds, TypeRule.boundsUpTo]
  | superTraits =>
      change ItemRule.superTraits.RequiresOfBounds
      simp [ItemRule.superTraits, TypeRule.boundsUpTo]
  | aliasedBounds =>
      change ItemRule.aliasedBounds.RequiresOfBounds
      simp [ItemRule.aliasedBounds, TypeRule.boundsUpTo]
  | item =>
      exact ItemRule.requiresOfBounds_item
  | items =>
      change ItemRule.items.RequiresOfBounds
      simp [ItemRule.items]
  | members owner =>
      change (MemberRule.members owner).RequiresOfBounds
      simp [MemberRule.members, MemberRule.requiresOfBounds_member]

namespace Phrase

/-- Every phrase blames its input, however deeply phrases are nested. -/
theorem blames_readTo
    (depth : Nat)
    (phrase : Phrase) :
    Parser.Blames (readTo depth phrase) := by
  induction depth generalizing phrase with
  | zero =>
      exact Parser.blames_fail _
  | succ depth ih =>
      exact Rule.blames_follow ih (requiresOfBounds_rule phrase)

end Phrase

/-- What is read of a text for its tokens alone blames its input. -/
theorem Rule.blames_parse
    {rule : Rule}
    (h : rule.RequiresOfBounds) :
    Parser.Blames rule.parse := by
  have hfollow (c : Cursor) :=
    Rule.blames_follow (Phrase.blames_readTo (depthFor c.tokens)) h
  constructor
  · intro c e hlaid hparse
    unfold parse at hparse
    split at hparse
    · cases hparse
    · rename_i error herror
      obtain rfl : error = e := by simpa using hparse
      exact (hfollow c).error c error hlaid herror
  · intro c tokens d e hlaid hparse
    obtain ⟨piece, hpiece, -⟩ := Rule.parse_eq_ok_iff.mp hparse
    exact (hfollow c).leftOver c piece d e hlaid hpiece

theorem Phrase.blames_parse
    (phrase : Phrase) :
    Parser.Blames phrase.parse :=
  @Rule.blames_parse (.phrase phrase) trivial

end Caseless
