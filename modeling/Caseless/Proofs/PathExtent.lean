import Caseless.Proofs.Extent

/-!
# How far a path reaches

A path that takes all of some tokens takes exactly them in front of a comma, whatever follows the
comma.  There are types and bounds in the angle brackets of a path, so this is shown for each of
their rules: all tests are blind to the comma but two.  The bounds of an associated type may end at
a comma, but not at the end of the tokens, and an object type looks behind its keyword.

The main result is `Phrase.extends_readTo`, and for options `Setting.Stands.writtenAs`.
-/

namespace Caseless

section Paths

/-- A phrase of a path that ends by itself, and neither at the end of the tokens nor at a comma. -/
def Phrase.EndsItself : Phrase → Prop
  | path _ | pathRest _ _ | segment _ | qualifiedPath _ | qualifiedRest _ => True
  | angleArguments | genericArgument | constArgument | argumentBounds => True
  | type _ | boundType _ | returnType _ => True
  | binder | bound _ _ | traitBound _ | bounds _ _ _ _ | moreBounds _ => True
  | oneAttribute | attributes _ | block _ => True
  | _ => False

/-- The phrases of a path are read in front of a tail with more nesting to spare. -/
def Phrase.ExtendBy (tail : List Token) (n m : Nat) : Prop :=
  ∀ p, p.EndsItself → Parser.Extends tail (Phrase.readTo n p) (Phrase.readTo m p)

variable {tail : List Token} {n m : Nat}

/-- There is no bound where no token is left: the bound is a trait, the trait a path, the path a
segment, and the segment a name. -/
theorem Phrase.readTo_bound_nil
    (n : Nat)
    (close : Span)
    (leftOver : Option SyntaxError) :
    ∃ e, readTo n (.bound false true) ⟨[], close, leftOver⟩ = .error e := by
  rcases n with _ | _ | _ | _ | n
  all_goals exact ⟨_, rfl⟩

section Arguments

open Rule Lookahead PathRule

/-- Whether generic arguments follow a name is seen behind a comma as at the end. -/
theorem PathRule.blind_argumentsFollow
    (style : PathStyle) :
    (argumentsFollow style).Blind := by
  have hcolons : Blind (both (symbol "::") (behindTwo (symbol "<"))) :=
    blind_behind_colons (blind_symbol (by decide))
  cases style with
  | type =>
      exact blind_either (blind_symbolOnly (by decide) (by decide)) hcolons
  | expression =>
      exact hcolons

section

variable (htail : Token.EndsOption tail) (hphrases : Phrase.ExtendBy tail n m)
include htail hphrases

theorem PathRule.extensible_segment
    (style : PathStyle) :
    (segment style).Extensible tail (Phrase.readTo n) (Phrase.readTo m) := by
  refine extensible_choose htail (blind_keywords _) ⟨trivial, fun _ => trivial⟩ ?_
  refine ⟨extensible_choose htail (blind_keyword _) trivial trivial, fun _ => ?_⟩
  refine extensible_choose htail (blind_argumentsFollow style) ?_ trivial
  exact ⟨hphrases .angleArguments trivial, fun _ => trivial⟩

/-- More segments follow behind a double colon, which a comma is not. -/
theorem PathRule.extensible_rest
    (style : PathStyle)
    (shape : PathShape) :
    (rest style shape).Extensible tail (Phrase.readTo n) (Phrase.readTo m) := by
  have htest : Blind (both (symbol "::") (no (behindTwo (group .parenthesis)))) :=
    blind_both_no (blind_symbol (by decide)) (blind_behind_colons (blind_group _))
  refine extensible_choose htail htest ⟨trivial, fun _ => ?_⟩ trivial
  exact ⟨hphrases (.segment style) trivial, fun _ => hphrases (.pathRest style _) trivial⟩

theorem PathRule.extensible_path
    (style : PathStyle) :
    (path style).Extensible tail (Phrase.readTo n) (Phrase.readTo m) := by
  have hsegments (leading : Bool) :
      (andThen (phrase (.segment style)) fun s =>
        phrase (.pathRest style (begin leading s))).Extensible tail
          (Phrase.readTo n) (Phrase.readTo m) :=
    ⟨hphrases (.segment style) trivial, fun _ => hphrases (.pathRest style _) trivial⟩
  exact extensible_choose htail (blind_symbol (by decide))
    ⟨trivial, fun _ => hsegments true⟩ (hsegments false)

theorem PathRule.extensible_qualifiedRest
    (style : PathStyle) :
    (qualifiedRest style).Extensible tail (Phrase.readTo n) (Phrase.readTo m) := by
  refine ⟨hphrases (.segment style) trivial, fun _ => ?_⟩
  refine extensible_choose htail (blind_symbol (by decide)) ⟨trivial, fun _ => ?_⟩ trivial
  exact hphrases (.qualifiedRest style) trivial

theorem PathRule.extensible_qualified
    (style : PathStyle) :
    (qualified style).Extensible tail (Phrase.readTo n) (Phrase.readTo m) := by
  refine extensible_choose htail (blind_symbol (by decide)) ?_ (hphrases (.path style) trivial)
  refine ⟨trivial, fun _ => ⟨hphrases (.type true) trivial, fun _ => ⟨?_, fun _ => ?_⟩⟩⟩
  · refine extensible_choose htail (blind_keyword _) ⟨trivial, fun _ => ?_⟩ trivial
    exact hphrases (.path .type) trivial
  · exact ⟨trivial, fun _ => ⟨trivial, fun _ => hphrases (.qualifiedRest style) trivial⟩⟩

theorem PathRule.extensible_angleArguments :
    angleArguments.Extensible tail (Phrase.readTo n) (Phrase.readTo m) := by
  refine ⟨extensible_choose htail (blind_symbol (by decide)) trivial trivial, fun _ => ?_⟩
  exact ⟨trivial, fun _ => ⟨hphrases .genericArgument trivial, fun _ => trivial⟩⟩

theorem PathRule.extensible_constArgument :
    constArgument.Extensible tail (Phrase.readTo n) (Phrase.readTo m) := by
  refine extensible_firstOf htail ?_ trivial
  simp only [List.forall_mem_cons, List.not_mem_nil, false_implies, implies_true, and_true]
  exact ⟨⟨blind_literal, trivial⟩, ⟨blind_ident, trivial⟩, blind_group _,
    hphrases (.block true) trivial⟩

theorem PathRule.extensible_association :
    association.Extensible tail (Phrase.readTo n) (Phrase.readTo m) := by
  refine extensible_choose htail (blind_symbol (by decide)) ⟨trivial, fun _ => ?_⟩ ?_
  · exact extensible_choose htail (blind_either blind_literal (blind_group _))
      (hphrases .constArgument trivial) (hphrases (.type true) trivial)
  · refine extensible_choose htail (blind_symbol (by decide)) ⟨trivial, fun _ => ?_⟩ trivial
    exact hphrases .argumentBounds trivial

/-- An argument ends in front of its comma or the closing bracket. -/
theorem PathRule.extensible_genericArgument :
    genericArgument.Extensible tail (Phrase.readTo n) (Phrase.readTo m) := by
  have hlifetime : Blind (both lifetime (no (behind (symbol "+")))) :=
    blind_both_no blind_lifetime
      (blind_both_behind blind_lifetime rfl (blind_symbol (by decide)))
  refine extensible_choose htail hlifetime ⟨trivial, fun _ => trivial⟩ ?_
  refine extensible_choose htail (blind_either blind_literal (blind_group _))
    ⟨hphrases .constArgument trivial, fun _ => trivial⟩ ?_
  refine ⟨hphrases (.type true) trivial, fun shape => ?_⟩
  dsimp only
  split
  · exact ⟨extensible_association htail hphrases, fun _ => trivial⟩
  · trivial

/-- The bounds of an associated type may end at a comma, but they do not at the end of the
tokens. -/
theorem PathRule.extensible_argumentBounds :
    argumentBounds.Extensible tail (Phrase.readTo n) (Phrase.readTo m) := by
  have hbounds :
      (seq [phrase (.bound false true),
        choose (.symbol "+") (seq [Rule.symbol "+", phrase .argumentBounds])
          (accept .plain)]).Extensible tail (Phrase.readTo n) (Phrase.readTo m) := by
    refine ⟨hphrases (.bound false true) trivial, fun _ => ?_⟩
    refine extensible_choose htail (blind_symbol (by decide)) ⟨trivial, fun _ => ?_⟩ trivial
    exact hphrases .argumentBounds trivial
  refine ⟨?_, trivial, hbounds⟩
  rintro ⟨tokens, close, leftOver⟩ piece d hfollow
  rcases tokens with _ | ⟨token, tokens⟩
  · rw [follow_choose, if_neg (show ¬(symbols [",", ">"]).holds [] = true by decide)] at hfollow
    obtain ⟨a, c', b, hbound, -, -⟩ := follow_andThen_eq_ok_iff.mp hfollow
    obtain ⟨e, herror⟩ := Phrase.readTo_bound_nil n close leftOver
    cases hbound.symm.trans herror
  · simp [symbols, anyOf, never, always, holds,
      fun x => Token.isSome_takeSymbol_cons x token (tokens ++ tail),
      fun x => Token.isSome_takeSymbol_cons x token tokens]

end

end Arguments

section Bounds

open Rule Lookahead TypeRule

theorem TypeRule.blind_boundFollows :
    boundFollows.Blind := by
  apply blind_anyOf
  simp only [List.forall_mem_cons, List.not_mem_nil, false_implies, implies_true, and_true]
  exact ⟨blind_word, blind_symbol (by decide), blind_symbol (by decide), blind_lifetime,
    blind_group _⟩

theorem TypeRule.blind_constBoundFollows :
    constBoundFollows.Blind := by
  apply blind_anyOf
  simp only [List.forall_mem_cons, List.not_mem_nil, false_implies, implies_true, and_true]
  exact ⟨blind_boundFollows, blind_group _, blind_keyword _⟩

theorem TypeRule.extensible_binder
    (hphrases : Phrase.ExtendBy tail n m) :
    binder.Extensible tail (Phrase.readTo n) (Phrase.readTo m) := by
  refine ⟨trivial, fun _ => ⟨trivial, fun _ => ⟨?_, fun _ => trivial⟩⟩⟩
  exact ⟨hphrases (.attributes false) trivial, fun _ => ⟨trivial, fun _ => trivial⟩⟩

theorem TypeRule.extensible_capture
    (htail : Token.EndsOption tail) :
    capture.Extensible tail (Phrase.readTo n) (Phrase.readTo m) := by
  refine ⟨trivial, fun _ => ⟨trivial, fun _ => ⟨?_, fun _ => trivial⟩⟩⟩
  refine extensible_choose htail blind_lifetime ⟨trivial, fun _ => trivial⟩ ?_
  exact extensible_choose htail (blind_either blind_ident (blind_keyword _)) trivial trivial

theorem TypeRule.extensible_boundsWithTrait
    (hphrases : Phrase.ExtendBy tail n m)
    {introduction : List Rule}
    (hintroduction : ∀ rule ∈ introduction,
      rule.Extensible tail (Phrase.readTo n) (Phrase.readTo m))
    (plus captures const : Bool)
    (complaint : String) :
    (boundsWithTrait introduction plus captures const complaint).Extensible tail
      (Phrase.readTo n) (Phrase.readTo m) := by
  apply extensible_seq
  intro rule hrule
  rcases List.mem_append.mp hrule with hrule | hrule
  · exact hintroduction rule hrule
  · obtain rfl := List.mem_singleton.mp hrule
    exact hphrases (.bounds plus captures const false) trivial

section

variable (htail : Token.EndsOption tail) (hphrases : Phrase.ExtendBy tail n m)
include htail hphrases

theorem AttributeRule.extensible_attributes
    (seen : Bool) :
    (AttributeRule.attributes seen).Extensible tail (Phrase.readTo n) (Phrase.readTo m) := by
  refine extensible_choose htail (blind_symbol (by decide)) ?_ trivial
  exact ⟨hphrases .oneAttribute trivial, fun _ => hphrases (.attributes true) trivial⟩

theorem TypeRule.extensible_returnType
    (plus : Bool) :
    (returnType plus).Extensible tail (Phrase.readTo n) (Phrase.readTo m) := by
  refine extensible_choose htail (blind_symbol (by decide)) ⟨trivial, fun _ => ?_⟩ trivial
  exact hphrases (.type plus) trivial

/-- The types of a function follow in parentheses, which a comma does not open. -/
theorem TypeRule.extensible_traitPath
    (shape : Shape) :
    (traitPath shape).Extensible tail (Phrase.readTo n) (Phrase.readTo m) := by
  refine ⟨hphrases (.path .type) trivial, fun path => ?_⟩
  dsimp only
  split
  · have htest :
        Blind (either (group .parenthesis)
          (both (symbol "::") (behindTwo (group .parenthesis)))) :=
      blind_either (blind_group _) (blind_behind_colons (blind_group _))
    refine extensible_choose htail htest ⟨?_, fun _ => trivial⟩ trivial
    refine ⟨extensible_choose htail (blind_symbol (by decide)) trivial trivial, fun _ => ?_⟩
    exact ⟨trivial, fun _ => hphrases (.returnType false) trivial⟩
  · trivial

theorem TypeRule.extensible_relaxable
    (general : Bool)
    (shape : Shape) :
    (relaxable general shape).Extensible tail (Phrase.readTo n) (Phrase.readTo m) := by
  have htrait := extensible_traitPath htail hphrases shape
  have hmark : Blind (symbol "?") := blind_symbol (by decide)
  cases general with
  | true =>
      exact extensible_choose htail hmark trivial htrait
  | false =>
      have hboth := blind_both_behind hmark rfl (blind_keyword "for")
      refine extensible_choose htail hboth trivial ?_
      exact extensible_choose htail hmark ⟨trivial, fun _ => htrait⟩ htrait

theorem TypeRule.extensible_constable
    (const general : Bool) :
    (constable const general).Extensible tail (Phrase.readTo n) (Phrase.readTo m) := by
  have hverbatim := extensible_relaxable htail hphrases general .verbatim
  refine extensible_choose htail (blind_group _) ?_ ?_
  · cases const with
    | true =>
        exact ⟨trivial, fun _ => hverbatim⟩
    | false =>
        trivial
  · refine extensible_choose htail (blind_keyword _) ?_
      (extensible_relaxable htail hphrases general .trait)
    cases const with
    | true =>
        exact ⟨trivial, fun _ => hverbatim⟩
    | false =>
        trivial

theorem TypeRule.extensible_traitBound
    (const : Bool) :
    (traitBound const).Extensible tail (Phrase.readTo n) (Phrase.readTo m) := by
  refine extensible_choose htail (blind_keyword _) ⟨hphrases .binder trivial, fun _ => ?_⟩ ?_
  · exact extensible_constable htail hphrases const true
  · exact extensible_constable htail hphrases const false

theorem TypeRule.extensible_bound
    (captures const : Bool) :
    (bound captures const).Extensible tail (Phrase.readTo n) (Phrase.readTo m) := by
  refine extensible_choose htail blind_lifetime ⟨trivial, fun _ => trivial⟩ ?_
  refine extensible_choose htail (blind_keyword _) ?_ ?_
  · cases captures with
    | true =>
        exact ⟨extensible_capture htail, fun _ => trivial⟩
    | false =>
        trivial
  · exact extensible_choose htail (blind_group _) trivial (hphrases (.traitBound const) trivial)

/-- A comma ends bounds as the end of the tokens does, for no plus sign follows. -/
theorem TypeRule.extensible_bounds
    (plus captures const seen : Bool) :
    (bounds plus captures const seen).Extensible tail (Phrase.readTo n) (Phrase.readTo m) := by
  refine ⟨hphrases (.bound captures const) trivial, fun shape => ?_⟩
  cases plus with
  | false =>
      trivial
  | true =>
      refine extensible_choose htail (blind_symbol (by decide)) ⟨trivial, fun _ => ?_⟩ trivial
      have hfollows : Blind (if const then constBoundFollows else boundFollows) := by
        cases const with
        | true =>
            exact blind_constBoundFollows
        | false =>
            exact blind_boundFollows
      exact extensible_choose htail hfollows (hphrases (.bounds true captures const _) trivial)
        trivial

theorem TypeRule.extensible_moreBounds
    (mayEnd : Bool) :
    (moreBounds mayEnd).Extensible tail (Phrase.readTo n) (Phrase.readTo m) := by
  have hmore :
      (seq [phrase (.bound false false), phrase (.moreBounds mayEnd)]).Extensible tail
        (Phrase.readTo n) (Phrase.readTo m) :=
    ⟨hphrases (.bound false false) trivial, fun _ => hphrases (.moreBounds mayEnd) trivial⟩
  refine extensible_choose htail (blind_symbol (by decide)) ⟨trivial, fun _ => ?_⟩ trivial
  cases mayEnd with
  | true =>
      exact extensible_choose htail blind_boundFollows hmore trivial
  | false =>
      exact hmore

end

end Bounds

section Types

open Rule Lookahead TypeRule

theorem TypeRule.blind_functionFollows :
    functionFollows.Blind :=
  blind_keywords _

theorem TypeRule.blind_nameFollows :
    nameFollows.Blind :=
  blind_either blind_ident (blind_keywords _)

section

variable (htail : Token.EndsOption tail) (hphrases : Phrase.ExtendBy tail n m)
include htail hphrases

theorem TypeRule.extensible_function :
    function.Extensible tail (Phrase.readTo n) (Phrase.readTo m) := by
  refine ⟨⟨?_, fun _ => ⟨?_, fun _ => ⟨trivial, fun _ => ?_⟩⟩⟩, fun _ => trivial⟩
  · exact extensible_choose htail (blind_keyword _) trivial trivial
  · refine extensible_choose htail (blind_keyword _) ⟨trivial, fun _ => ?_⟩ trivial
    exact extensible_choose htail (blind_literalText _) trivial trivial
  · exact ⟨trivial, fun _ => hphrases (.returnType false) trivial⟩

theorem TypeRule.extensible_addedBounds
    (plus : Bool)
    (alone : Shape) :
    (addedBounds plus alone).Extensible tail (Phrase.readTo n) (Phrase.readTo m) := by
  cases plus with
  | false =>
      trivial
  | true =>
      refine extensible_choose htail (blind_symbol (by decide)) ?_ trivial
      exact ⟨hphrases (.moreBounds true) trivial, fun _ => trivial⟩

theorem TypeRule.extensible_pathType
    (plus general : Bool) :
    (pathType plus general).Extensible tail (Phrase.readTo n) (Phrase.readTo m) := by
  refine ⟨hphrases (.qualifiedPath .type) trivial, fun shape => ?_⟩
  dsimp only
  split
  · have hadded (alone : Shape) := extensible_addedBounds htail hphrases plus alone
    split
    · refine extensible_choose htail (blind_symbolOnly (by decide) (by decide)) ?_ (hadded _)
      exact ⟨⟨trivial, fun _ => trivial⟩, fun _ => trivial⟩
    · exact hadded _
  · trivial

theorem TypeRule.extensible_boundType
    (plus : Bool) :
    (boundType plus).Extensible tail (Phrase.readTo n) (Phrase.readTo m) :=
  extensible_choose htail blind_functionFollows (extensible_function htail hphrases)
    (extensible_pathType htail hphrases plus true)

/-- A type that is general in lifetimes ends where the type behind its lifetimes does. -/
theorem TypeRule.extensible_general
    (plus : Bool)
    (drop : Shape → Bool) :
    (before (phrase .binder)
      (choose (.either nameFollows functionFollows) (phrase (.boundType plus))
        (refuse (.oneOf boundStarts))) drop).Extensible tail
          (Phrase.readTo n) (Phrase.readTo m) := by
  refine ⟨hphrases .binder trivial, ?_⟩
  exact extensible_choose htail (blind_either blind_nameFollows blind_functionFollows)
    (hphrases (.boundType plus) trivial) trivial

/-- Parentheses are read the same, and only a plus sign adds something to them. -/
theorem TypeRule.extensible_parenthesised
    (plus : Bool) :
    (parenthesised plus).Extensible tail (Phrase.readTo n) (Phrase.readTo m) := by
  have hmore (alone : Shape) :
      (choose (.symbol "+") (shaped (phrase (.moreBounds false)) (.bounds false))
        (accept alone)).Extensible tail (Phrase.readTo n) (Phrase.readTo m) :=
    extensible_choose htail (blind_symbol (by decide))
      ⟨hphrases (.moreBounds false) trivial, fun _ => trivial⟩ trivial
  refine ⟨trivial, fun shape => ?_⟩
  dsimp only
  split
  · exact hmore _
  · split
    · exact hmore _
    · trivial
  · split
    · exact hmore _
    · trivial
  · trivial

/-- An object type begins with its keyword, so there is a token to look behind. -/
theorem TypeRule.extensible_object
    (plus : Bool) :
    (object plus).Extensible tail (Phrase.readTo n) (Phrase.readTo m) := by
  refine ⟨?_, ⟨?_, fun _ => trivial⟩, ⟨?_, fun _ => trivial⟩⟩
  · rintro ⟨tokens, close, leftOver⟩ piece d hfollow
    apply holds_behind_append (blind_symbol (by decide)) htail
    rintro rfl
    cases hfollow
  · apply extensible_boundsWithTrait hphrases
    simp [Extensible, Rule.keyword, Rule.symbol]
  · apply extensible_boundsWithTrait hphrases
    simp [Extensible, Rule.keyword]

theorem TypeRule.extensible_pointer :
    pointer.Extensible tail (Phrase.readTo n) (Phrase.readTo m) := by
  refine ⟨trivial, fun _ => ⟨?_, fun _ => ⟨hphrases (.type false) trivial, fun _ => trivial⟩⟩⟩
  refine extensible_choose htail (blind_keyword _) trivial ?_
  exact extensible_choose htail (blind_keyword _) trivial trivial

theorem TypeRule.extensible_reference :
    reference.Extensible tail (Phrase.readTo n) (Phrase.readTo m) := by
  refine ⟨trivial, fun _ => ⟨?_, fun _ => ⟨?_, fun _ => ?_⟩⟩⟩
  · exact extensible_choose htail blind_lifetime trivial trivial
  · exact extensible_choose htail (blind_keyword _) trivial trivial
  · exact ⟨hphrases (.type false) trivial, fun _ => trivial⟩

/-- A type is read the same in front of a comma, whatever it begins with. -/
theorem TypeRule.extensible_type
    (plus : Bool) :
    (type plus).Extensible tail (Phrase.readTo n) (Phrase.readTo m) := by
  have hpath : Blind (anyOf [nameFollows, symbol "::", symbol "<"]) := by
    apply blind_anyOf
    simp only [List.forall_mem_cons, List.not_mem_nil, false_implies, implies_true, and_true]
    exact ⟨blind_nameFollows, blind_symbol (by decide), blind_symbol (by decide)⟩
  refine extensible_firstOf htail ?_ trivial
  simp only [List.forall_mem_cons, List.not_mem_nil, false_implies, implies_true, and_true]
  refine ⟨⟨blind_keyword _, ?_⟩, ⟨blind_group _, ?_⟩, ⟨blind_functionFollows, ?_⟩, ⟨hpath, ?_⟩,
    ⟨blind_keyword _, ?_⟩, ⟨blind_group _, ?_⟩, ⟨blind_symbol (by decide), ?_⟩,
    ⟨blind_symbol (by decide), ?_⟩, ⟨blind_symbol (by decide), ?_⟩, ⟨blind_keyword _, ?_⟩,
    ⟨blind_keyword _, ?_⟩, ⟨blind_lifetime, ?_⟩⟩
  · exact extensible_general htail hphrases plus _
  · exact extensible_parenthesised htail hphrases plus
  · exact extensible_function htail hphrases
  · exact extensible_pathType htail hphrases plus false
  · exact ⟨extensible_object htail hphrases plus, fun _ => trivial⟩
  · exact ⟨trivial, fun _ => trivial⟩
  · exact extensible_pointer htail hphrases
  · exact extensible_reference htail hphrases
  · trivial
  · refine ⟨?_, fun _ => trivial⟩
    apply extensible_boundsWithTrait hphrases
    simp [Extensible, Rule.keyword]
  · trivial
  · refine ⟨?_, fun _ => trivial⟩
    apply extensible_boundsWithTrait hphrases
    simp

end

end Types

/-- The rule of each phrase of a path can be followed in front of the tail. -/
theorem Phrase.extensible_rule
    (htail : Token.EndsOption tail)
    (hphrases : Phrase.ExtendBy tail n m)
    {p : Phrase}
    (hp : p.EndsItself) :
    p.rule.Extensible tail (readTo n) (readTo m) := by
  cases p with
  | path style =>
      exact PathRule.extensible_path htail hphrases style
  | pathRest style shape =>
      exact PathRule.extensible_rest htail hphrases style shape
  | segment style =>
      exact PathRule.extensible_segment htail hphrases style
  | qualifiedPath style =>
      exact PathRule.extensible_qualified htail hphrases style
  | qualifiedRest style =>
      exact PathRule.extensible_qualifiedRest htail hphrases style
  | angleArguments =>
      exact PathRule.extensible_angleArguments htail hphrases
  | genericArgument =>
      exact PathRule.extensible_genericArgument htail hphrases
  | constArgument =>
      exact PathRule.extensible_constArgument htail hphrases
  | argumentBounds =>
      exact PathRule.extensible_argumentBounds htail hphrases
  | type plus =>
      exact TypeRule.extensible_type htail hphrases plus
  | boundType plus =>
      exact TypeRule.extensible_boundType htail hphrases plus
  | returnType plus =>
      exact TypeRule.extensible_returnType htail hphrases plus
  | binder =>
      exact TypeRule.extensible_binder hphrases
  | bound captures const =>
      exact TypeRule.extensible_bound htail hphrases captures const
  | traitBound const =>
      exact TypeRule.extensible_traitBound htail hphrases const
  | bounds plus captures const seen =>
      exact TypeRule.extensible_bounds htail hphrases plus captures const seen
  | moreBounds mayEnd =>
      exact TypeRule.extensible_moreBounds htail hphrases mayEnd
  | oneAttribute =>
      exact ⟨trivial, fun _ => trivial⟩
  | attributes seen =>
      exact AttributeRule.extensible_attributes htail hphrases seen
  | block inner =>
      exact ⟨trivial, fun _ => trivial⟩
  | _ =>
      cases hp

/-- A phrase of a path reads the same at the end of the tokens and in front of a comma. -/
theorem Phrase.extends_readTo
    (htail : Token.EndsOption tail)
    (hle : n ≤ m)
    {p : Phrase}
    (hp : p.EndsItself) :
    Parser.Extends tail (readTo n p) (readTo m p) := by
  induction n generalizing m p with
  | zero =>
      exact Parser.extends_fail _ _
  | succ n ih =>
      obtain ⟨m, rfl⟩ : ∃ k, m = k + 1 := ⟨m - 1, by omega⟩
      have hphrases : Phrase.ExtendBy tail n m := fun q hq => ih (by omega) hq
      exact Rule.extends_follow (extends_nil_readTo (by omega)) htail
        (extensible_rule htail hphrases hp)

end Paths

section Options

/-- More tokens allow more depth. -/
theorem depthFor_le_append
    (tokens tail : List Token) :
    depthFor tokens ≤ depthFor (tokens ++ tail) := by
  simp only [depthFor, Token.size, Token.lexemesAll_append, List.length_append]
  omega

/-- A path that takes all of some tokens takes them in front of a comma. -/
theorem PathStands.append
    {tokens path tail : List Token}
    (h : PathStands tokens path [])
    (htail : Token.EndsOption tail) :
    PathStands (tokens ++ tail) path tail := by
  obtain ⟨piece, hpiece, rfl⟩ := Rule.parse_eq_ok_iff.mp h
  have hextends :
      Parser.Extends tail (Phrase.readTo (depthFor tokens) (.path .type))
        (Phrase.readTo (depthFor (tokens ++ tail)) (.path .type)) :=
    Phrase.extends_readTo htail (depthFor_le_append tokens tail) trivial
  exact Rule.parse_eq_ok_iff.mpr ⟨piece, hextends _ _ _ hpiece, rfl⟩

/-- Some tokens that are an option on their own are one in front of a comma. -/
theorem Setting.Stands.writtenAs
    {tokens : List Token}
    {setting : Setting}
    (h : Stands tokens setting []) :
    setting.WrittenAs tokens := by
  intro tail htail
  generalize hend : ([] : List Token) = rest at h
  cases h with
  | allCases word rest =>
      subst hend
      exact Stands.allCases word tail
  | root word equals spacing hpath =>
      subst hend
      exact Stands.root word equals spacing (hpath.append htail)

end Options

end Caseless
