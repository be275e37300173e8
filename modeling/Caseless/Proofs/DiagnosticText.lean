import Caseless.Proofs.Outcome
import Caseless.Proofs.Quoting
import Mathlib.Data.List.Pairwise

/-!
# The text of a compile error tells the problem

Every problem shows at most one text that comes from the declaration, in a frame of fixed words.
Two different frames never give the same text, whatever they show: they disagree in front of what
is shown, or behind it.  So the frame can be read off the text, and with it what is shown.

The main result is `Diagnostic.compileError_determines_problem`.
-/

namespace Caseless

section Frames

/-- The fixed words around what a problem shows. -/
structure Frame where
  front : String
  back : String
  deriving DecidableEq

namespace Frame

/-- A text in its frame. -/
def around (frame : Frame) (shown : String) : String := frame.front ++ shown ++ frame.back

/-- Two frames disagree in front of what they show, or behind it: none of the two fronts continues
the other, or none of the two backs ends in the other. -/
def Apart (f g : Frame) : Prop :=
  (¬ f.front.toList <+: g.front.toList ∧ ¬ g.front.toList <+: f.front.toList) ∨
    (¬ f.back.toList <:+ g.back.toList ∧ ¬ g.back.toList <:+ f.back.toList)

instance (f g : Frame) : Decidable (Apart f g) :=
  inferInstanceAs (Decidable (_ ∨ _))

theorem Apart.symm
    {f g : Frame}
    (h : Apart f g) :
    Apart g f :=
  h.imp And.symm And.symm

instance : Std.Symm Apart :=
  ⟨fun _ _ h => h.symm⟩

theorem around_toList
    (frame : Frame)
    (shown : String) :
    (frame.around shown).toList = frame.front.toList ++ shown.toList ++ frame.back.toList := by
  simp [around]

/-- A frame shows each text in its own way. -/
theorem around_injective
    (frame : Frame) :
    Function.Injective frame.around := by
  intro shown other h
  have hlist := congrArg String.toList h
  rw [around_toList, around_toList] at hlist
  have hfront := List.append_cancel_right hlist
  exact String.toList_injective (List.append_cancel_left hfront)

/-- Frames that are apart give different texts, whatever they show. -/
theorem Apart.around_ne
    {f g : Frame}
    (h : Apart f g)
    (shown other : String) :
    f.around shown ≠ g.around other := by
  intro heq
  have hlist := congrArg String.toList heq
  rw [around_toList, around_toList] at hlist
  rcases h with ⟨hfg, hgf⟩ | ⟨hfg, hgf⟩
  · rw [List.append_assoc, List.append_assoc] at hlist
    have hf : f.front.toList <+: g.front.toList ++ (other.toList ++ g.back.toList) :=
      ⟨_, hlist⟩
    rcases List.prefix_or_prefix_of_prefix hf (List.prefix_append _ _) with hpre | hpre
    · exact hfg hpre
    · exact hgf hpre
  · have hf : f.back.toList <:+ (g.front.toList ++ other.toList) ++ g.back.toList :=
      ⟨_, hlist⟩
    rcases List.suffix_or_suffix_of_suffix hf (List.suffix_append _ _) with hsuf | hsuf
    · exact hfg hsuf
    · exact hgf hsuf

end Frame

end Frames

section Problems

namespace ItemKind

/-- All kinds of items. -/
def all : List ItemKind := [enum, struct, union]

theorem mem_all
    (kind : ItemKind) :
    kind ∈ all := by
  cases kind <;> decide

end ItemKind

namespace Problem

/-- What is said in front of the case that a problem is about. -/
def caseFront : String :=
  "`CaseInsensitive` requires a `String` raw value for every case, but case `"

/-- The words of a problem around what it shows. -/
def words : Problem → Frame
  | notAnEnum _ found =>
      ⟨"`CaseInsensitive` can only be derived for enums, but `", "` is a " ++ found.describe⟩
  | unsupportedRawValueType .missing =>
      ⟨"`CaseInsensitive` requires the enum to declare a raw value type with ",
        "`#[raw_value(String)]`"⟩
  | unsupportedRawValueType (.notString _) =>
      ⟨"`CaseInsensitive` only supports `String` raw values, found `", "`"⟩
  | unsupportedRawValueType (.caseWithFields _) => ⟨caseFront, "` has fields"⟩
  | unsupportedRawValueType (.caseWithDiscriminant _) =>
      ⟨caseFront, "` declares a discriminant"⟩

/-- What a problem shows of the declaration. -/
def shown : Problem → String
  | notAnEnum name _ => name
  | unsupportedRawValueType .missing => ""
  | unsupportedRawValueType (.notString found) => found
  | unsupportedRawValueType (.caseWithFields case) => case
  | unsupportedRawValueType (.caseWithDiscriminant case) => case

/-- The text of a problem is what it shows, between its words. -/
theorem message_eq_around
    (problem : Problem) :
    problem.message = problem.words.around problem.shown := by
  rcases problem with ⟨name, found⟩ | ⟨_ | found | case | case⟩
  · exact String.append_assoc
  · exact congrArg (· ++ "`#[raw_value(String)]`") String.append_empty.symm
  · rfl
  · rfl
  · rfl

/-- The words of all problems. -/
def allWords : List Frame :=
  (ItemKind.all.map fun found => words (.notAnEnum "" found)) ++
    [words (.unsupportedRawValueType .missing),
      words (.unsupportedRawValueType (.notString "")),
      words (.unsupportedRawValueType (.caseWithFields "")),
      words (.unsupportedRawValueType (.caseWithDiscriminant ""))]

theorem words_mem_allWords
    (problem : Problem) :
    problem.words ∈ allWords := by
  rw [allWords, List.mem_append, List.mem_map]
  cases problem with
  | notAnEnum name found =>
      exact Or.inl ⟨found, found.mem_all, by simp only [words]⟩
  | unsupportedRawValueType problem =>
      right
      cases problem <;> simp only [words, List.mem_cons, true_or, or_true]

/-- The words of two problems with a case agree in front of it and disagree behind it, as those of
two kinds of items do.  All others disagree in front. -/
theorem pairwise_apart_allWords :
    allWords.Pairwise Frame.Apart := by
  decide +kernel

/-- A problem is known by its words and what it shows. -/
theorem eq_of_words_eq_of_shown_eq
    {p q : Problem}
    (hwords : p.words = q.words)
    (hshown : p.shown = q.shown) :
    p = q := by
  rcases p with ⟨name, found⟩ | ⟨_ | found | case | case⟩ <;>
    rcases q with ⟨name', found'⟩ | ⟨_ | found' | case' | case'⟩ <;>
    simp_all [words, shown, caseFront]
  cases found <;> cases found' <;> simp_all [ItemKind.describe]

theorem message_injective :
    Function.Injective message := by
  intro p q h
  rw [message_eq_around, message_eq_around] at h
  by_cases hwords : p.words = q.words
  · rw [hwords] at h
    exact eq_of_words_eq_of_shown_eq hwords (q.words.around_injective h)
  · have hapart : Frame.Apart p.words q.words :=
      pairwise_apart_allWords.forall p.words_mem_allWords q.words_mem_allWords hwords
    exact absurd h (hapart.around_ne p.shown q.shown)

/-- What a name within the domain puts around a message in the text of a compile error. -/
def marking (name : String) : Frame := ⟨"", " [" ++ (domain ++ "::" ++ name) ++ "]"⟩

/-- Of the two identifiers none ends as the other. -/
theorem apart_marking :
    Frame.Apart (marking "NotAnEnum") (marking "UnsupportedRawValueType") := by
  decide +kernel

theorem name_eq_or_apart
    (p q : Problem) :
    p.name = q.name ∨ Frame.Apart (marking p.name) (marking q.name) := by
  cases p with
  | notAnEnum =>
      cases q with
      | notAnEnum =>
          exact Or.inl rfl
      | unsupportedRawValueType =>
          exact Or.inr apart_marking
  | unsupportedRawValueType =>
      cases q with
      | notAnEnum =>
          exact Or.inr apart_marking.symm
      | unsupportedRawValueType =>
          exact Or.inl rfl

/-- Different problems have different texts. -/
theorem compileErrorText_injective :
    Function.Injective compileErrorText := by
  have haround (p : Problem) : p.compileErrorText = (marking p.name).around p.message := by
    simp only [compileErrorText, id, marking, Frame.around, String.append_assoc,
      String.empty_append]
  intro p q h
  rw [haround, haround] at h
  rcases p.name_eq_or_apart q with hname | hapart
  · rw [hname] at h
    exact message_injective ((marking q.name).around_injective h)
  · exact absurd h (hapart.around_ne p.message q.message)

end Problem

end Problems

section CompileErrors

/-- The printed form of a compile error shows its text, which can be told from it. -/
theorem Template.eq_of_render_compileError_eq
    {text other : String}
    (h : Lexeme.render (Template.compileError text) = Lexeme.render (Template.compileError other)) :
    text = other := by
  rw [render_compileError, render_compileError] at h
  have hquote := Frame.around_injective ⟨":: core :: compile_error ! \x7b ", " \x7d"⟩ h
  exact Text.quote_injective .literal hquote

/-- Two diagnostics are reported by the same printed code exactly if they are about the same
problem, with the same kind of item and the same name, type or case, whatever characters these
have. -/
theorem Diagnostic.compileError_determines_problem
    (d e : Diagnostic) :
    Lexeme.render (Failure.diagnostic d).lexemes = Lexeme.render (Failure.diagnostic e).lexemes
      ↔
    d.problem = e.problem := by
  constructor
  · intro h
    apply Problem.compileErrorText_injective
    exact Template.eq_of_render_compileError_eq h
  · intro h
    simp [Failure.lexemes, h]

end CompileErrors

end Caseless
