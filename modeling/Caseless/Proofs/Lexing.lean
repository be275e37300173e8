import Caseless.Proofs.Scanning
import Caseless.Token.Printer

/-!
# Reading one lexeme

A lexeme is read from its characters: what is read and what is left make up the text.  In front of
a stop the reading of a lexeme depends on nothing else, so a stopped tail may be put behind it.
-/

namespace Caseless

namespace Lexer

open Scanner Unicode

section Firmness

/-- The answer of a reader with a tail put behind what is left. -/
def behind {α : Type} (tail : List Char) (result : α × List Char) : α × List Char :=
  (result.1, result.2 ++ tail)

theorem punctChar_append
    (cs : List Char)
    {tail : List Char}
    (htail : Stopped tail) :
    punctChar (cs ++ tail) = (punctChar cs).map (behind tail) := by
  unfold punctChar
  rw [startsWith_append (by decide) cs htail, startsWith_append (by decide) cs htail]
  cases cs with
  | nil =>
      cases tail with
      | nil =>
          rfl
      | cons c tail =>
          rcases isStop_iff.mp (stopped_cons_iff.mp htail) with rfl | rfl | rfl <;> rfl
  | cons c cs =>
      simp only [List.cons_append]
      split_ifs <;> rfl

theorem anyIdent_append
    (cs : List Char)
    {tail : List Char}
    (htail : Stopped tail) :
    anyIdent (cs ++ tail) = (anyIdent cs).map (behind tail) := by
  have hraw : text Ident.rawMark (cs ++ tail) = (text Ident.rawMark cs).map (· ++ tail) :=
    firm_exactly (by decide) cs tail htail
  unfold anyIdent
  rw [hraw]
  cases text Ident.rawMark cs with
  | none =>
      simp only [Option.map_none, firm_name cs tail htail]
      cases hname : name cs with
      | none =>
          rfl
      | some rest =>
          simp [taken_append_tail (name_suffix hname), behind]
  | some body =>
      simp only [Option.map_some, firm_name body tail htail]
      cases hname : name body with
      | none =>
          rfl
      | some rest =>
          simp only [Option.map_some, taken_append_tail (name_suffix hname)]
          split_ifs <;> rfl

theorem literalMarks_append
    (cs : List Char)
    {tail : List Char}
    (htail : Stopped tail) :
    literalMarks.any (startsWith (cs ++ tail)) = literalMarks.any (startsWith cs) := by
  have hmarks : ∀ mark ∈ literalMarks, mark.toList.any isStop = false := by
    decide
  rw [Bool.eq_iff_iff, List.any_eq_true, List.any_eq_true]
  constructor
  · rintro ⟨mark, hmem, hmark⟩
    rw [startsWith_append (hmarks mark hmem) cs htail] at hmark
    exact ⟨mark, hmem, hmark⟩
  · rintro ⟨mark, hmem, hmark⟩
    rw [← startsWith_append (hmarks mark hmem) cs htail] at hmark
    exact ⟨mark, hmem, hmark⟩

theorem ident_append
    (cs : List Char)
    {tail : List Char}
    (htail : Stopped tail) :
    ident (cs ++ tail) = (ident cs).map (behind tail) := by
  unfold ident
  rw [literalMarks_append cs htail, anyIdent_append cs htail]
  split_ifs <;> rfl

theorem startsLifetime_append
    (cs : List Char)
    {tail : List Char}
    (htail : Stopped tail) :
    startsLifetime (cs ++ tail) = startsLifetime cs := by
  unfold startsLifetime
  rw [anyIdent_append cs htail]
  cases anyIdent cs with
  | none =>
      rfl
  | some found =>
      obtain ⟨i, rest⟩ := found
      simp only [Option.map_some, behind]
      rw [startsWith_append (by decide) rest htail, startsWith_append (by decide) rest htail]

theorem punct_append
    (cs : List Char)
    {tail : List Char}
    (htail : Stopped tail) :
    punct (cs ++ tail) = (punct cs).map (behind tail) := by
  unfold punct
  rw [punctChar_append cs htail]
  cases punctChar cs with
  | none =>
      rfl
  | some found =>
      obtain ⟨c, rest⟩ := found
      simp only [Option.map_some, behind]
      rw [startsLifetime_append rest htail, punctChar_append rest htail, Option.isSome_map]
      split_ifs <;> rfl

end Firmness

section Heads

/-- A punctuation character begins nothing else, but for the apostrophe of a character. -/
theorem punctuation_heads
    {c : Char}
    (h : c ∈ punctuation) :
    c ≠ '"' ∧ isDigit c = false ∧ isIdentStart c = false ∧ opens? c = none ∧
      closes? c = none := by
  have hall :
      punctuation.all fun c =>
        c != '"' && !isDigit c && !isIdentStart c && opens? c == none && closes? c == none := by
    decide
  have hc := List.all_eq_true.mp hall c h
  simpa [and_assoc] using hc

theorem name_head
    {cs rest : List Char}
    (h : name cs = some rest) :
    ∃ c front, cs = c :: front ∧ isIdentStart c = true := by
  cases cs with
  | nil =>
      cases h
  | cons c cs =>
      refine ⟨c, cs, rfl, ?_⟩
      by_contra hstart
      simp [name, hstart] at h

theorem length_lt_of_name
    {cs rest : List Char}
    (h : name cs = some rest) :
    rest.length < cs.length := by
  obtain ⟨c, front, rfl, hstart⟩ := name_head h
  obtain rfl : front.dropWhile isIdentContinue = rest := by simpa [name, hstart] using h
  exact Nat.lt_succ_of_le (List.dropWhile_suffix _).length_le

theorem anyIdent_head
    {cs rest : List Char}
    {i : Ident}
    (h : anyIdent cs = some (i, rest)) :
    ∃ c front, cs = c :: front ∧ isIdentStart c = true := by
  unfold anyIdent at h
  split at h
  · rename_i body hraw
    obtain rfl : cs = Ident.rawMark.toList ++ body := exactly_eq_some_iff.mp hraw
    exact ⟨'r', '#' :: body, rfl, rfl⟩
  · split at h
    · rename_i after hname
      exact name_head hname
    · cases h

theorem ident_eq_some_iff
    {cs rest : List Char}
    {i : Ident} :
    ident cs = some (i, rest)
      ↔
    literalMarks.any (startsWith cs) = false ∧ anyIdent cs = some (i, rest) := by
  unfold ident
  cases literalMarks.any (startsWith cs) <;> simp

theorem punctChar_cases
    {cs rest : List Char}
    {c : Char}
    (h : punctChar cs = some (c, rest)) :
    startsWith cs "//" = false ∧ startsWith cs "/*" = false ∧ cs = c :: rest ∧
      c ∈ punctuation := by
  unfold punctChar at h
  split at h
  · cases h
  · rename_i hcomment
    obtain ⟨hline, hblock⟩ : startsWith cs "//" = false ∧ startsWith cs "/*" = false := by
      simpa using hcomment
    cases cs with
    | nil =>
        cases h
    | cons d cs =>
        obtain ⟨hmem, rfl, rfl⟩ : d ∈ punctuation ∧ d = c ∧ cs = rest := by simpa using h
        exact ⟨hline, hblock, rfl, hmem⟩

/-- A punctuation character is an apostrophe in front of a lifetime or tells its spacing by what
follows. -/
theorem punct_cases
    {cs rest : List Char}
    {a : Lexeme}
    (h : punct cs = some (a, rest)) :
    (∃ c,
      punctChar cs = some (c, rest) ∧ c ≠ '\x27' ∧
      a = .punct c (if (punctChar rest).isSome then .joint else .alone))
      ∨
    (punctChar cs = some ('\x27', rest) ∧ startsLifetime rest = true ∧
      a = .punct '\x27' .joint) := by
  unfold punct at h
  split at h
  · rename_i c rest' hchar
    split_ifs at h with happ hlife
    · obtain ⟨rfl, rfl⟩ : .punct c .joint = a ∧ rest' = rest := by simpa using h
      subst happ
      exact Or.inr ⟨hchar, hlife, rfl⟩
    all_goals
      obtain ⟨rfl, rfl⟩ := Prod.mk.inj (Option.some.inj h)
      exact Or.inl ⟨c, hchar, happ, by simp [*]⟩
  · cases h

theorem punctChar_of_punct
    {cs rest : List Char}
    {a : Lexeme}
    (h : punct cs = some (a, rest)) :
    ∃ c spacing, punctChar cs = some (c, rest) ∧ a = .punct c spacing := by
  rcases punct_cases h with ⟨c, hchar, -, rfl⟩ | ⟨hchar, -, rfl⟩
  · exact ⟨c, _, hchar, rfl⟩
  · exact ⟨_, _, hchar, rfl⟩

/-- Where an identifier stands, no literal does. -/
theorem literal_of_ident
    {cs rest : List Char}
    {i : Ident}
    (h : ident cs = some (i, rest)) :
    literal cs = none := by
  obtain ⟨hmarks, hany⟩ := ident_eq_some_iff.mp h
  obtain ⟨c, front, rfl, hstart⟩ := anyIdent_head hany
  have hdigit : isDigit c = false := by
    by_contra hdigit
    rw [not_identStart_of_isDigit (by simpa using hdigit)] at hstart
    cases hstart
  refine literal_eq_none ?_ ?_ hdigit hmarks
  · rintro rfl
    cases hstart
  · rintro rfl
    cases hstart

/-- Where a lifetime stands, no character literal does: it would be closed right behind the first
character of the name. -/
theorem literal_of_startsLifetime
    {cs : List Char}
    (h : startsLifetime cs = true) :
    literal ('\x27' :: cs) = none := by
  apply Option.eq_none_iff_forall_ne_some.mpr
  intro rest hliteral
  have hsingle : character .text cs = some rest := by
    rcases literal_eq_some_iff.mp hliteral with h' | h' | h' | h' | h' | ⟨-, h'⟩
    · cases h'
    · cases h'
    · cases h'
    · exact h'
    · obtain ⟨d, front, heq, hd⟩ := isDigit_of_float h'
      cases heq
      cases hd
    · obtain ⟨d, front, heq, hd⟩ := isDigit_of_integer h'
      cases heq
      cases hd
  unfold startsLifetime at h
  split at h
  · rename_i i after hany
    obtain ⟨c, front, rfl, hstart⟩ := anyIdent_head hany
    have hbackslash : c ≠ '\\' := by
      rintro rfl
      cases hstart
    obtain ⟨front', rfl⟩ : ∃ front', front = '\x27' :: front' := by
      simp only [character, Text.readCharacter, hbackslash, if_false, Text.QuotedKind.text,
        if_true] at hsingle
      split at hsingle
      · rename_i value body heq
        exact ⟨body, by simpa using (Prod.mk.inj (Option.some.inj heq)).2⟩
      · cases hsingle
    have hafter : after = '\x27' :: front' := by
      have hname : name (c :: '\x27' :: front') = some ('\x27' :: front') := by
        have happ : isIdentContinue '\x27' = false := by
          rfl
        simp [name, hstart, happ]
      have hraw : text Ident.rawMark (c :: '\x27' :: front') = none := by
        apply Option.eq_none_iff_forall_ne_some.mpr
        intro body hbody
        have heq := exactly_eq_some_iff.mp hbody
        cases heq
      simp only [anyIdent, hraw, hname] at hany
      exact (Prod.mk.inj (Option.some.inj hany)).2.symm
    rw [hafter] at h
    simp [startsWith, text, exactly] at h
  · cases h

/-- Where a punctuation character stands, no literal does, since all marks of literals begin with a
letter. -/
theorem literal_of_punct
    {cs rest : List Char}
    {a : Lexeme}
    (h : punct cs = some (a, rest)) :
    literal cs = none := by
  rcases punct_cases h with ⟨c, hchar, happ, -⟩ | ⟨hchar, hlife, -⟩
  · obtain ⟨-, -, rfl, hmem⟩ := punctChar_cases hchar
    obtain ⟨hquote, hdigit, hstart, -⟩ := punctuation_heads hmem
    refine literal_eq_none hquote happ hdigit ?_
    rw [List.any_eq_false]
    intro mark hmark hstarts
    have hletter : ∀ mark ∈ literalMarks, mark.toList.head?.any isIdentStart = true := by
      decide
    have hfirst := hletter mark hmark
    obtain ⟨front, heq⟩ := startsWith_eq_true_iff.mp hstarts
    cases hlist : mark.toList with
    | nil =>
        rw [hlist] at hfirst
        cases hfirst
    | cons d ds =>
        rw [hlist, List.cons_append] at heq
        obtain ⟨rfl, -⟩ := List.cons.inj heq
        rw [hlist, List.head?_cons, Option.any_some, hstart] at hfirst
        cases hfirst
  · obtain ⟨-, -, rfl, -⟩ := punctChar_cases hchar
    exact literal_of_startsLifetime hlife

end Heads

section Leaves

theorem punct_of_ident
    {cs rest : List Char}
    {i : Ident}
    (h : ident cs = some (i, rest)) :
    punct cs = none := by
  obtain ⟨c, front, rfl, hstart⟩ := anyIdent_head (ident_eq_some_iff.mp h).2
  have hchar : punctChar (c :: front) = none := by
    apply Option.eq_none_iff_forall_ne_some.mpr
    rintro ⟨d, rest'⟩ hchar
    obtain ⟨-, -, heq, hmem⟩ := punctChar_cases hchar
    rw [(List.cons.inj heq).1, (punctuation_heads hmem).2.2.1] at hstart
    cases hstart
  simp [punct, hchar]

/-- A leaf is a literal, a punctuation character, an identifier, or the mark of an error. -/
theorem leaf_eq_some_iff
    {cs rest : List Char}
    {a : Lexeme} :
    leaf cs = some (a, rest)
      ↔
    (literal cs = some rest ∧ a = .literal (String.ofList (taken cs rest))) ∨
      punct cs = some (a, rest) ∨
      (∃ i, ident cs = some (i, rest) ∧ a = .ident i) ∨
      (cs = errorMark.toList ++ rest ∧ a = .literal errorMark) := by
  constructor
  · intro h
    unfold leaf at h
    split at h
    · rename_i rest' hliteral
      obtain ⟨rfl, rfl⟩ := Prod.mk.inj (Option.some.inj h)
      exact Or.inl ⟨hliteral, rfl⟩
    · split at h
      · rename_i result hpunct
        obtain rfl : result = (a, rest) := Option.some.inj h
        exact Or.inr (Or.inl hpunct)
      · split at h
        · rename_i i rest' hident
          obtain ⟨rfl, rfl⟩ := Prod.mk.inj (Option.some.inj h)
          exact Or.inr (Or.inr (Or.inl ⟨i, hident, rfl⟩))
        · obtain ⟨rest', hmark, heq⟩ := Option.map_eq_some_iff.mp h
          obtain ⟨rfl, rfl⟩ := Prod.mk.inj heq
          exact Or.inr (Or.inr (Or.inr ⟨exactly_eq_some_iff.mp hmark, rfl⟩))
  · rintro (⟨h, rfl⟩ | h | ⟨i, h, rfl⟩ | ⟨rfl, rfl⟩)
    · simp [leaf, h]
    · simp [leaf, literal_of_punct h, h]
    · simp [leaf, literal_of_ident h, punct_of_ident h, h]
    · rfl

theorem taken_literal_append
    {cs rest tail : List Char}
    (h : literal cs = some rest) :
    taken (cs ++ tail) (rest ++ tail) = taken cs rest :=
  taken_append_tail (stable_literal.suffix cs rest h) tail

/-- A leaf is read alike in front of a stopped tail. -/
theorem leaf_append
    {cs rest tail : List Char}
    {a : Lexeme}
    (h : leaf cs = some (a, rest))
    (htail : Stopped tail) :
    leaf (cs ++ tail) = some (a, rest ++ tail) := by
  rw [leaf_eq_some_iff]
  rcases leaf_eq_some_iff.mp h with ⟨hliteral, rfl⟩ | hpunct | ⟨i, hident, rfl⟩ | ⟨rfl, rfl⟩
  · refine Or.inl ⟨stable_literal.append cs rest tail hliteral htail, ?_⟩
    rw [taken_literal_append hliteral]
  · refine Or.inr (Or.inl ?_)
    rw [punct_append cs htail, hpunct]
    rfl
  · refine Or.inr (Or.inr (Or.inl ⟨i, ?_, rfl⟩))
    rw [ident_append cs htail, hident]
    rfl
  · exact Or.inr (Or.inr (Or.inr ⟨List.append_assoc _ _ _, rfl⟩))

theorem chars_of_anyIdent
    {cs rest : List Char}
    {i : Ident}
    (h : anyIdent cs = some (i, rest)) :
    cs = i.text.toList ++ rest := by
  unfold anyIdent at h
  split at h
  · rename_i body hraw
    obtain rfl : cs = Ident.rawMark.toList ++ body := exactly_eq_some_iff.mp hraw
    split at h
    · rename_i rest' hname
      split at h
      · cases h
      · obtain ⟨rfl, rfl⟩ := Prod.mk.inj (Option.some.inj h)
        simp [Ident.text, taken_append (name_suffix hname)]
    · cases h
  · split at h
    · rename_i rest' hname
      obtain ⟨rfl, rfl⟩ := Prod.mk.inj (Option.some.inj h)
      simp [Ident.text, taken_append (name_suffix hname)]
    · cases h

/-- A leaf and what is left make up the text. -/
theorem chars_of_leaf
    {cs rest : List Char}
    {a : Lexeme}
    (h : leaf cs = some (a, rest)) :
    cs = a.chars ++ rest := by
  rcases leaf_eq_some_iff.mp h with ⟨hliteral, rfl⟩ | hpunct | ⟨i, hident, rfl⟩ | ⟨rfl, rfl⟩
  · have hsuffix := stable_literal.suffix cs rest hliteral
    simp [Lexeme.chars, taken_append hsuffix]
  · obtain ⟨c, spacing, hchar, rfl⟩ := punctChar_of_punct hpunct
    exact (punctChar_cases hchar).2.2.1
  · exact chars_of_anyIdent (ident_eq_some_iff.mp hident).2
  · rfl

end Leaves

section Lexemes

/-- Reads one lexeme, be it a delimiter or a leaf. -/
def lexeme? (cs : List Char) : Option (Lexeme × List Char) :=
  (delimiter cs).or (leaf cs)

theorem openingChar_of_opens?
    {c : Char}
    {d : Delimiter}
    (h : opens? c = some d) :
    c = d.openingChar := by
  unfold opens? at h
  split_ifs at h with hchar hchar hchar <;> cases h <;> exact hchar

theorem closingChar_of_closes?
    {c : Char}
    {d : Delimiter}
    (h : closes? c = some d) :
    c = d.closingChar := by
  unfold closes? at h
  split_ifs at h with hchar hchar hchar <;> cases h <;> exact hchar

theorem delimiter_cases
    {cs rest : List Char}
    {a : Lexeme}
    (h : delimiter cs = some (a, rest)) :
    (∃ d, a = .opening d ∧ cs = d.openingChar :: rest ∧ startsWith cs errorMark = false)
      ∨
    (∃ d, a = .closing d ∧ cs = d.closingChar :: rest) := by
  cases cs with
  | nil =>
      cases h
  | cons c cs =>
      cases hopens : opens? c with
      | some d =>
          obtain ⟨hmark, rfl, rfl⟩ :
              startsWith (c :: cs) errorMark = false ∧ .opening d = a ∧ cs = rest := by
            simpa [delimiter, hopens] using h
          exact Or.inl ⟨d, rfl, by rw [openingChar_of_opens? hopens], hmark⟩
      | none =>
          cases hcloses : closes? c with
          | some d =>
              obtain ⟨rfl, rfl⟩ : .closing d = a ∧ cs = rest := by
                simpa [delimiter, hopens, hcloses] using h
              exact Or.inr ⟨d, rfl, by rw [closingChar_of_closes? hcloses]⟩
          | none =>
              simp [delimiter, hopens, hcloses] at h

theorem delimiter_opening
    {d : Delimiter}
    {rest : List Char}
    (h : startsWith (d.openingChar :: rest) errorMark = false) :
    delimiter (d.openingChar :: rest) = some (.opening d, rest) := by
  cases d <;> simp [delimiter, Delimiter.openingChar, opens?] at h ⊢ <;> simp [h]

theorem delimiter_closing
    (d : Delimiter)
    (rest : List Char) :
    delimiter (d.closingChar :: rest) = some (.closing d, rest) := by
  cases d <;> rfl

theorem chars_of_lexeme
    {cs rest : List Char}
    {a : Lexeme}
    (h : lexeme? cs = some (a, rest)) :
    cs = a.chars ++ rest := by
  rcases Option.or_eq_some_iff.mp h with hdelimiter | ⟨-, hleaf⟩
  · rcases delimiter_cases hdelimiter with ⟨d, rfl, hcs, -⟩ | ⟨d, rfl, hcs⟩
    · exact hcs
    · exact hcs
  · exact chars_of_leaf hleaf

/-- What is no delimiter in front of the end is none in front of a tail either. -/
theorem delimiter_append_eq_none
    {c : Char}
    {cs : List Char}
    (h : delimiter (c :: cs) = none)
    (tail : List Char) :
    delimiter (c :: (cs ++ tail)) = none := by
  cases hopens : opens? c with
  | some d =>
      have hmark : startsWith (c :: cs) errorMark = true := by
        simpa [delimiter, hopens] using h
      obtain ⟨front, heq⟩ := startsWith_eq_true_iff.mp hmark
      have hmark' : startsWith (c :: (cs ++ tail)) errorMark = true := by
        refine startsWith_eq_true_iff.mpr ⟨front ++ tail, ?_⟩
        rw [← List.append_assoc, ← heq]
        rfl
      simp [delimiter, hopens, hmark']
  | none =>
      cases hcloses : closes? c with
      | some d =>
          simp [delimiter, hopens, hcloses] at h
      | none =>
          simp [delimiter, hopens, hcloses]

/-- The mark of an error holds what begins a comment. -/
theorem startsWith_errorMark_eq_false
    {c : Char}
    {cs : List Char}
    (h : startsWith cs "/*" = false) :
    startsWith (c :: cs) errorMark = false := by
  by_contra hmark
  obtain ⟨front, heq⟩ := startsWith_eq_true_iff.mp (by simpa using hmark)
  obtain ⟨-, rfl⟩ := List.cons.inj heq
  cases h

/-- A lexeme is read alike in front of a stopped tail, unless it is a parenthesis in front of a
comment. -/
theorem lexeme_append
    {cs rest tail : List Char}
    {a : Lexeme}
    (h : lexeme? cs = some (a, rest))
    (htail : Stopped tail)
    (hcomment : startsWith rest "/*" = false) :
    lexeme? (cs ++ tail) = some (a, rest ++ tail) := by
  unfold lexeme?
  rw [Option.or_eq_some_iff]
  rcases Option.or_eq_some_iff.mp h with hdelimiter | ⟨hnone, hleaf⟩
  · left
    rcases delimiter_cases hdelimiter with ⟨d, rfl, rfl, -⟩ | ⟨d, rfl, rfl⟩
    · have hcomment' : startsWith (rest ++ tail) "/*" = false := by
        rw [startsWith_append (by decide) rest htail, hcomment]
      exact delimiter_opening (startsWith_errorMark_eq_false hcomment')
    · exact delimiter_closing d (rest ++ tail)
  · right
    refine ⟨?_, leaf_append hleaf htail⟩
    cases cs with
    | nil =>
        cases hleaf
    | cons c cs =>
        exact delimiter_append_eq_none hnone tail

theorem lexeme_of_leaf
    {c : Char}
    {cs : List Char}
    (hopens : opens? c = none)
    (hcloses : closes? c = none) :
    lexeme? (c :: cs) = leaf (c :: cs) := by
  simp [lexeme?, delimiter, hopens, hcloses]

/-- A lexeme that begins with a slash is a punctuation character. -/
theorem punct_of_slash
    {cs rest : List Char}
    {a : Lexeme}
    (h : lexeme? ('/' :: cs) = some (a, rest)) :
    punct ('/' :: cs) = some (a, rest) := by
  rw [lexeme_of_leaf rfl rfl, leaf_eq_some_iff] at h
  rcases h with ⟨hliteral, -⟩ | hpunct | ⟨i, hident, -⟩ | ⟨hmark, -⟩
  · rw [literal_eq_none (by decide) (by decide) rfl rfl] at hliteral
    cases hliteral
  · exact hpunct
  · obtain ⟨c, front, heq, hstart⟩ := anyIdent_head (ident_eq_some_iff.mp hident).2
    cases heq
    cases hstart
  · cases hmark

/-- A text that begins with a comment begins with no lexeme. -/
theorem not_comment_of_lexeme
    {cs rest : List Char}
    {a : Lexeme}
    (h : lexeme? cs = some (a, rest)) :
    startsWith cs "//" = false ∧ startsWith cs "/*" = false := by
  by_cases hslash : ∃ front, cs = '/' :: front
  · obtain ⟨front, rfl⟩ := hslash
    obtain ⟨c, spacing, hchar, -⟩ := punctChar_of_punct (punct_of_slash h)
    exact ⟨(punctChar_cases hchar).1, (punctChar_cases hchar).2.1⟩
  · constructor
    · by_contra hstarts
      obtain ⟨front, rfl⟩ := startsWith_eq_true_iff.mp (by simpa using hstarts)
      exact hslash ⟨_, rfl⟩
    · by_contra hstarts
      obtain ⟨front, rfl⟩ := startsWith_eq_true_iff.mp (by simpa using hstarts)
      exact hslash ⟨_, rfl⟩

/-- The characters that a lexeme can begin with. -/
def startsLexeme (c : Char) : Bool :=
  isIdentStart c || isDigit c || decide (c ∈ punctuation ++ "\"()[]\x7b\x7d".toList)

theorem startsLexeme_of_literal
    {cs rest : List Char}
    (h : literal cs = some rest) :
    ∃ c front, cs = c :: front ∧ startsLexeme c = true := by
  rcases literal_eq_some_iff.mp h with h | h | h | h | h | ⟨-, h⟩
  · obtain ⟨front, rfl | rfl⟩ := head_of_string h
    · exact ⟨'"', front, rfl, rfl⟩
    · exact ⟨'r', front, rfl, rfl⟩
  · obtain ⟨front, rfl | rfl⟩ := head_of_byteString h
    · exact ⟨'b', _, rfl, rfl⟩
    · exact ⟨'b', _, rfl, rfl⟩
  · obtain ⟨front, rfl | rfl⟩ := head_of_nulEndedString h
    · exact ⟨'c', _, rfl, rfl⟩
    · exact ⟨'c', _, rfl, rfl⟩
  · obtain ⟨front, rfl | rfl⟩ := head_of_single h
    · exact ⟨'b', _, rfl, rfl⟩
    · exact ⟨'\x27', front, rfl, rfl⟩
  · obtain ⟨c, front, rfl, hc⟩ := isDigit_of_float h
    exact ⟨c, front, rfl, by simp [startsLexeme, hc]⟩
  · obtain ⟨c, front, rfl, hc⟩ := isDigit_of_integer h
    exact ⟨c, front, rfl, by simp [startsLexeme, hc]⟩

theorem startsLexeme_of_lexeme
    {cs rest : List Char}
    {a : Lexeme}
    (h : lexeme? cs = some (a, rest)) :
    ∃ c front, cs = c :: front ∧ startsLexeme c = true := by
  rcases Option.or_eq_some_iff.mp h with hdelimiter | ⟨-, hleaf⟩
  · rcases delimiter_cases hdelimiter with ⟨d, -, rfl, -⟩ | ⟨d, -, rfl⟩
    · exact ⟨_, rest, rfl, by cases d <;> rfl⟩
    · exact ⟨_, rest, rfl, by cases d <;> rfl⟩
  · rcases leaf_eq_some_iff.mp hleaf with ⟨hliteral, -⟩ | hpunct | ⟨i, hident, -⟩ | ⟨rfl, -⟩
    · exact startsLexeme_of_literal hliteral
    · obtain ⟨c, spacing, hchar, -⟩ := punctChar_of_punct hpunct
      obtain ⟨-, -, rfl, hmem⟩ := punctChar_cases hchar
      exact ⟨c, rest, rfl, by simp [startsLexeme, hmem]⟩
    · obtain ⟨c, front, rfl, hstart⟩ := anyIdent_head (ident_eq_some_iff.mp hident).2
      exact ⟨c, front, rfl, by simp [startsLexeme, hstart]⟩
    · exact ⟨'(', _, rfl, rfl⟩

theorem mem_range_of_containsCode
    {set : CharSet}
    {n : Nat}
    (h : set.containsCode n = true) :
    ∃ range ∈ set, range.first ≤ n ∧ n ≤ range.last := by
  induction set with
  | nil =>
      cases h
  | cons range ranges ih =>
      unfold CharSet.containsCode at h
      split_ifs at h with hfirst hlast
      · exact ⟨range, List.mem_cons_self, by omega, hlast⟩
      · obtain ⟨range', hmem, hrange⟩ := ih h
        exact ⟨range', List.mem_cons_of_mem range hmem, hrange⟩

/-- No blank begins a name. -/
theorem not_identStart_of_isBlank
    {c : Char}
    (h : isBlank c = true) :
    isIdentStart c = false := by
  have hblanks :
      ∀ range ∈ whiteSpace ++ directionMarks,
        ∀ n ∈ List.range' range.first (range.last + 1 - range.first),
          xidStart.containsCode n = false ∧ n ≠ '_'.toNat := by
    decide +kernel
  obtain ⟨range, hmem, hfirst, hlast⟩ :
      ∃ range ∈ whiteSpace ++ directionMarks, range.first ≤ c.toNat ∧ c.toNat ≤ range.last := by
    have hcases : whiteSpace.contains c = true ∨ directionMarks.contains c = true := by
      simpa [isBlank] using h
    rcases hcases with hspace | hmark
    · obtain ⟨range, hmem, hrange⟩ := mem_range_of_containsCode hspace
      exact ⟨range, List.mem_append_left _ hmem, hrange⟩
    · obtain ⟨range, hmem, hrange⟩ := mem_range_of_containsCode hmark
      exact ⟨range, List.mem_append_right _ hmem, hrange⟩
  have hn : c.toNat ∈ List.range' range.first (range.last + 1 - range.first) := by
    rw [List.mem_range'_1]
    omega
  obtain ⟨hset, hline⟩ := hblanks range hmem c.toNat hn
  have hne : c ≠ '_' := by
    rintro rfl
    exact hline rfl
  simp [isIdentStart, CharSet.contains, hset, hne]

theorem not_isBlank_of_startsLexeme
    {c : Char}
    (h : startsLexeme c = true) :
    isBlank c = false := by
  by_contra hblank
  have hblank' : isBlank c = true := by simpa using hblank
  have hothers :
      ("0123456789".toList ++ (punctuation ++ "\"()[]\x7b\x7d".toList)).any isBlank = false := by
    decide
  rw [startsLexeme, not_identStart_of_isBlank hblank'] at h
  have hcases : isDigit c = true ∨ c ∈ punctuation ++ "\"()[]\x7b\x7d".toList := by
    simpa using h
  have hmem : c ∈ "0123456789".toList ++ (punctuation ++ "\"()[]\x7b\x7d".toList) := by
    rcases hcases with hdigit | hother
    · exact List.mem_append_left _ (mem_digits_of_isDigit hdigit)
    · exact List.mem_append_right _ hother
  exact List.any_eq_false.mp hothers c hmem hblank'

/-- No lexeme begins with the byte order mark. -/
theorem lexeme_byteOrderMark
    (cs : List Char) :
    lexeme? (byteOrderMark :: cs) = none := by
  have hmark : startsLexeme byteOrderMark = false := by
    decide +kernel
  apply Option.eq_none_iff_forall_ne_some.mpr
  rintro ⟨a, rest⟩ h
  obtain ⟨c, front, heq, hc⟩ := startsLexeme_of_lexeme h
  rw [← (List.cons.inj heq).1, hmark] at hc
  cases hc

theorem length_lt_of_anyIdent
    {cs rest : List Char}
    {i : Ident}
    (h : anyIdent cs = some (i, rest)) :
    rest.length < cs.length := by
  unfold anyIdent at h
  split at h
  · rename_i body hraw
    obtain rfl : cs = Ident.rawMark.toList ++ body := exactly_eq_some_iff.mp hraw
    split at h
    · rename_i rest' hname
      split at h
      · cases h
      · obtain ⟨-, rfl⟩ := Prod.mk.inj (Option.some.inj h)
        have hlt := length_lt_of_name hname
        rw [List.length_append]
        omega
    · cases h
  · split at h
    · rename_i rest' hname
      obtain ⟨-, rfl⟩ := Prod.mk.inj (Option.some.inj h)
      exact length_lt_of_name hname
    · cases h

theorem length_lt_of_lexeme
    {cs rest : List Char}
    {a : Lexeme}
    (h : lexeme? cs = some (a, rest)) :
    rest.length < cs.length := by
  rcases Option.or_eq_some_iff.mp h with hdelimiter | ⟨-, hleaf⟩
  · rcases delimiter_cases hdelimiter with ⟨d, -, rfl, -⟩ | ⟨d, -, rfl⟩ <;> simp
  · rcases leaf_eq_some_iff.mp hleaf with ⟨hliteral, -⟩ | hpunct | ⟨i, hident, -⟩ | ⟨rfl, -⟩
    · exact length_lt_of_literal hliteral
    · obtain ⟨c, spacing, hchar, -⟩ := punctChar_of_punct hpunct
      rw [(punctChar_cases hchar).2.2.1]
      exact Nat.lt_succ_self _
    · exact length_lt_of_anyIdent (ident_eq_some_iff.mp hident).2
    · have hpos : 0 < errorMark.toList.length := by
        decide
      rw [List.length_append]
      omega

/-- Every lexeme that is read has a character. -/
theorem chars_ne_nil
    {cs rest : List Char}
    {a : Lexeme}
    (h : lexeme? cs = some (a, rest)) :
    a.chars ≠ [] := by
  intro hnil
  have hcs := chars_of_lexeme h
  have hlt := length_lt_of_lexeme h
  rw [hnil, List.nil_append] at hcs
  rw [hcs] at hlt
  exact Nat.lt_irrefl _ hlt

end Lexemes

end Lexer

end Caseless
