import Caseless.Grammar.Terminal

/-!
# Phrases and rules

A phrase is a construct of the language: a type, an expression, a pattern, and the parts that
they are made of.  A rule says how a phrase is read.  Rules are data: they read terminals and
phrases in order, look at the tokens ahead to choose between two rules, and enter groups.

What a rule reads is kept only as the tokens in which it is printed.  Beside them a rule gives a
shape, which says as much about the phrase as a later choice depends on.
-/

namespace Caseless

/-- Where a path stands.  Behind the name of a type, generic arguments may follow at once; in an
expression they need a double colon. -/
inductive PathStyle where
  | type
  | expression

/-- What later choices depend on in a path that is not qualified. -/
structure PathShape where
  /-- No segment has arguments. -/
  simple : Bool
  /-- There is one segment, and no double colon in front of it. -/
  single : Bool
  /-- The last segment has no arguments. -/
  bare : Bool

/-- What later choices depend on in a phrase. -/
inductive Shape where
  /-- Nothing. -/
  | plain
  /-- A condition that the phrase itself answers. -/
  | answer (value : Bool)
  /-- A path that is not qualified. -/
  | path (shape : PathShape)
  /-- A lifetime among bounds or arguments. -/
  | lifetime
  /-- A trait among bounds. -/
  | trait
  /-- A bound that is kept as it is written. -/
  | verbatim
  /-- Bounds that form a type of their own; whether it is a single one. -/
  | bounds (single : Bool)
  /-- A range. -/
  | range
  /-- A comparison. -/
  | comparison
  /-- An expression that ends in a block and needs no mark behind it to be a statement. -/
  | block
  /-- The call of a code generator with its arguments in braces. -/
  | bracedCall
  /-- The call of a code generator in place of a type. -/
  | calledType

namespace Shape

/-- Whether the shape is that of a lifetime. -/
def isLifetime : Shape → Bool
  | lifetime => true
  | _ => false

/-- Whether the phrase is kept as it is written. -/
def isVerbatim : Shape → Bool
  | verbatim => true
  | _ => false

/-- Whether the phrase answers its condition with yes. -/
def isYes : Shape → Bool
  | answer value => value
  | _ => false

end Shape

/-- What an item with members is. -/
inductive Owner where
  | implementation
  | trait
  /-- A block of declarations of things that are defined elsewhere. -/
  | foreign

/-- How tightly an operator binds. -/
inductive Precedence where
  | jump
  | assign
  | range
  | or
  | and
  | letting
  | compare
  | bitOr
  | bitXor
  | bitAnd
  | shift
  | sum
  | product
  | cast

/-- The position of a precedence from loose to tight. -/
def Precedence.rank : Precedence → Nat
  | jump => 0
  | assign => 1
  | range => 2
  | or => 3
  | and => 4
  | letting => 5
  | compare => 6
  | bitOr => 7
  | bitXor => 8
  | bitAnd => 9
  | shift => 10
  | sum => 11
  | product => 12
  | cast => 13

/-- The constructs of the language that rules refer to. -/
inductive Phrase where
  /-- A path. -/
  | path (style : PathStyle)
  /-- The segments that follow a path of the given shape. -/
  | pathRest (style : PathStyle) (shape : PathShape)
  /-- A segment of a path; answers whether it has no arguments. -/
  | segment (style : PathStyle)
  /-- A path that may begin with a type in angle brackets. -/
  | qualifiedPath (style : PathStyle)
  /-- The segments behind a type in angle brackets. -/
  | qualifiedRest (style : PathStyle)
  /-- Generic arguments in angle brackets. -/
  | angleArguments
  /-- One generic argument. -/
  | genericArgument
  /-- A constant as a generic argument. -/
  | constArgument
  /-- The bounds on an associated type, up to a comma or an angle bracket. -/
  | argumentBounds
  /-- A type; whether several bounds may be added up. -/
  | type (plus : Bool)
  /-- Types with commas between them, up to the end. -/
  | typeList
  /-- The rest of a type behind its bound lifetimes. -/
  | boundType (plus : Bool)
  /-- The type behind an arrow, if there is one. -/
  | returnType (plus : Bool)
  /-- Bound lifetimes. -/
  | binder
  /-- A bound; whether it may capture names, and whether it may be constant. -/
  | bound (capture const : Bool)
  /-- The trait of a bound. -/
  | traitBound (const : Bool)
  /-- Bounds with plus signs between them; answers whether a trait is among them. -/
  | bounds (plus capture const seen : Bool)
  /-- More bounds, each behind a plus sign. -/
  | moreBounds (mayEnd : Bool)
  /-- The arguments of a function type. -/
  | functionArguments (first : Bool)
  /-- A path without arguments. -/
  | plainPath
  /-- The names of a path without arguments. -/
  | plainNames
  /-- An attribute. -/
  | oneAttribute
  /-- Attributes; answers whether there are any. -/
  | attributes (seen : Bool)
  /-- Attributes of the construct around them. -/
  | innerAttributes
  /-- An expression; whether braces behind a path begin a struct. -/
  | expression (structs : Bool)
  /-- An expression in front of which a block ends a statement. -/
  | statementExpression
  /-- An expression without operators between operands. -/
  | unary (structs : Bool)
  /-- The operators and operands behind an operand of the given shape. -/
  | operators (structs : Bool) (base : Precedence) (shape : Shape)
  /-- The right operand of an operator. -/
  | operand (structs : Bool) (precedence : Precedence)
  /-- The tighter operators behind a right operand of the given shape. -/
  | operandRest (structs : Bool) (precedence : Precedence) (shape : Shape)
  /-- Calls, fields and the like behind an expression of the given shape. -/
  | trailers (shape : Shape)
  /-- Expressions with commas between them, up to the end. -/
  | expressionList
  /-- The fields of a struct expression. -/
  | fieldValues
  /-- The arguments of a closure. -/
  | closureArguments
  /-- A condition with its branches. -/
  | condition
  /-- The arms of a case distinction. -/
  | arms
  /-- A block; whether attributes of the block may stand at its front. -/
  | block (inner : Bool)
  /-- The statements of a block, up to the end. -/
  | statements
  /-- A statement; answers whether another one may follow. -/
  | statement
  /-- A pattern without alternatives. -/
  | pattern
  /-- A pattern with alternatives. -/
  | patterns
  /-- More alternatives of a pattern. -/
  | morePatterns
  /-- Patterns with commas between them, up to the end; whether they belong to a slice. -/
  | patternList (slice : Bool)
  /-- The fields of a struct pattern. -/
  | patternFields
  /-- The end of a range pattern; answers whether there is one. -/
  | rangeBound
  /-- The visibility of an item; answers whether there is one. -/
  | visibility
  /-- Named fields, up to the end. -/
  | namedFields
  /-- Fields without names, up to the end. -/
  | tupleFields
  /-- The bounds of a type parameter. -/
  | parameterBounds
  /-- The bounds of a lifetime parameter. -/
  | lifetimeBounds
  /-- A condition on a type or a lifetime. -/
  | predicate
  /-- The bounds of a condition on a lifetime. -/
  | predicateLifetimes
  /-- The bounds of a condition on a type. -/
  | predicateBounds
  /-- Conditions with commas between them. -/
  | predicates
  /-- The parameters of a function, up to the end. -/
  | functionParameters (first : Bool)
  /-- The cases of an enum, up to the end. -/
  | variants
  /-- What is imported; whether a double colon may stand at its front. -/
  | importTree (rootable : Bool)
  /-- Imports with commas between them, up to the end; whether a double colon may stand at the
  front of each, and whether it did. -/
  | importTrees (rootable seen : Bool)
  /-- The bounds of an associated type. -/
  | associatedBounds
  /-- The traits that a trait builds on. -/
  | superTraits
  /-- The bounds that another name is given to. -/
  | aliasedBounds
  /-- An item, with its attributes already read. -/
  | item
  /-- Items, up to the end. -/
  | items
  /-- Members, up to the end. -/
  | members (owner : Owner)

/-- How a phrase is read. -/
inductive Rule where
  /-- Reads nothing. -/
  | accept (shape : Shape)
  /-- Complains about the next token. -/
  | refuse (complaint : Complaint)
  /-- Reads a terminal. -/
  | read (terminal : Terminal)
  /-- Reads a phrase. -/
  | phrase (phrase : Phrase)
  /-- Reads one thing after another, which may depend on the shape of the first. -/
  | andThen (first : Rule) (second : Shape → Rule)
  /-- Chooses between two rules. -/
  | choose (test : Lookahead) (yes no : Rule)
  /-- Reads all of a group. -/
  | inside (delimiter : Delimiter) (content : Rule)
  /-- Reads entries with commas between them up to a closing angle bracket, and puts the lifetimes
  among them first. -/
  | listing (entry : Rule)
  /-- Keeps what was read as it is written if its shape asks for that. -/
  | asWritten (when : Shape → Bool) (rule : Rule)
  /-- Reads without keeping anything. -/
  | silently (rule : Rule)
  /-- Reads one thing before another, and keeps the first unless the shape of the second tells
  otherwise. -/
  | before (first second : Rule) (drop : Shape → Bool)
  /-- Reads something, and complains about all of it if its shape fails a test. -/
  | require (test : Shape → Bool) (complaint : Complaint) (rule : Rule)
  /-- Reads something that may not stand there and what follows it, and complains about the
  first. -/
  | forbid (complaint : Complaint) (rule rest : Rule)
  /-- Reads something, and answers whether it ends in braces. -/
  | endsInBraces (rule : Rule)

namespace Rule

/-- Reads several things in order; the last one gives the shape. -/
def seq : List Rule → Rule
  | [] => accept .plain
  | [rule] => rule
  | rule :: rules => andThen rule fun _ => seq rules

/-- Reads something if a test holds. -/
def optional (test : Lookahead) (rule : Rule) : Rule :=
  choose test rule (accept .plain)

/-- Takes the first of several rules whose test holds. -/
def firstOf : List (Lookahead × Rule) → Rule → Rule
  | [], otherwise => otherwise
  | (test, rule) :: others, otherwise => choose test rule (firstOf others otherwise)

/-- Reads a symbol. -/
def symbol (text : String) : Rule := read (.symbol text)

/-- Reads a keyword. -/
def keyword (word : String) : Rule := read (.keyword word)

/-- Reads a symbol if it stands there. -/
def optionalSymbol (text : String) : Rule := optional (.symbol text) (symbol text)

/-- Reads a keyword if it stands there. -/
def optionalKeyword (word : String) : Rule := optional (.keyword word) (keyword word)

/-- Reads something and gives it a shape of its own. -/
def shaped (rule : Rule) (shape : Shape) : Rule := andThen rule fun _ => accept shape

/-- Reads something if a test holds, and answers whether it does. -/
def present (test : Lookahead) (rule : Rule) : Rule :=
  choose test (shaped rule (.answer true)) (accept (.answer false))

/-- Reads entries with commas between them up to the end; `again` is the phrase itself. -/
def commaList (entry : Rule) (again : Phrase) : Rule :=
  choose .finished (accept .plain)
    (seq [entry, choose .finished (accept .plain) (seq [symbol ",", phrase again])])

end Rule

end Caseless
