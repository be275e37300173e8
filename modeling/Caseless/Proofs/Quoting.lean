import Caseless.Text.Cooked
import Caseless.Text.Quoted
import Mathlib.Tactic.IntervalCases

/-!
# Quoted texts are read back

Reading a quoted text behind its opening quote gives the text that was quoted, and stops right
behind the closing quote.  This holds for every text: what cannot stand for itself is escaped, and
each escape is read back to the character that it stands for.  Hence different texts are quoted
differently.
-/

namespace Caseless
namespace Text

section Reader

/-- A character that gives nothing only changes the state of the reader. -/
theorem readFrom_of_move_nil
    {kind : QuotedKind}
    {state state' : Reading}
    {c : Char}
    (h : state.move kind c = .next state' [])
    (cs : List Char) :
    readFrom kind state (c :: cs) = readFrom kind state' cs := by
  simp [readFrom, h]

/-- A character that gives another one puts it in front of what is read. -/
theorem readFrom_of_move_single
    {kind : QuotedKind}
    {state state' : Reading}
    {c x : Char}
    (h : state.move kind c = .next state' [x])
    (cs : List Char) :
    readFrom kind state (c :: cs) =
      (readFrom kind state' cs).map fun result => (x :: result.1, result.2) := by
  simp [readFrom, h]

theorem readFrom_backslash
    (cs : List Char) :
    readFrom .text .plain ('\\' :: cs) = readFrom .text .escaped cs :=
  readFrom_of_move_nil rfl cs

/-- The closing quote ends the text. -/
theorem readFrom_quote
    (cs : List Char) :
    readFrom .text .plain ('"' :: cs) = some ([], cs) := by
  rfl

/-- A character that needs no escape stands for itself. -/
theorem readFrom_plain
    {c : Char}
    (hquote : c ≠ '"')
    (hreturn : c ≠ '\r')
    (hbackslash : c ≠ '\\')
    (cs : List Char) :
    readFrom .text .plain (c :: cs) =
      (readFrom .text .plain cs).map fun result => (c :: result.1, result.2) := by
  apply readFrom_of_move_single
  simp [Reading.move, Reading.movePlain, hquote, hreturn, hbackslash, QuotedKind.text]

/-- An escape of one character behind the backslash. -/
theorem readFrom_escaped
    {c x : Char}
    (h : Reading.move .text .escaped c = .next .plain [x])
    (cs : List Char) :
    readFrom .text .plain ('\\' :: c :: cs) =
      (readFrom .text .plain cs).map fun result => (x :: result.1, result.2) := by
  rw [readFrom_backslash]
  exact readFrom_of_move_single h cs

end Reader

section CodePoints

theorem hexValue?_digitChar
    {d : Nat}
    (h : d < 16) :
    hexValue? d.digitChar = some d := by
  interval_cases d <;> rfl

theorem move_code_digitChar
    {value count d : Nat}
    (hcount : count < 6)
    (hd : d < 16) :
    Reading.move .text (.code value count) d.digitChar =
      .next (.code (value * 16 + d) (count + 1)) [] := by
  have hne : count ≠ 6 := by omega
  simp [Reading.move, Reading.moveCode, hexValue?_digitChar hd, hne]

/-- The digits of a code point are read to its value; all but the last are those of the quotient. -/
theorem readFrom_toDigits
    (n : Nat)
    (hn : (Nat.toDigits 16 n).length ≤ 6)
    (cs : List Char) :
    readFrom .text (.code 0 0) (Nat.toDigits 16 n ++ cs) =
      readFrom .text (.code n (Nat.toDigits 16 n).length) cs := by
  induction n using Nat.strongRecOn generalizing cs with
  | ind n ih =>
      rcases Nat.lt_or_ge n 16 with hlt | hge
      · rw [Nat.toDigits_of_lt_base hlt]
        rw [List.singleton_append, readFrom_of_move_nil (move_code_digitChar (by omega) hlt)]
        simp
      · have hsplit := Nat.toDigits_of_base_le (by omega : 1 < 16) hge
        rw [hsplit, List.length_append, List.length_singleton] at hn
        have hmod : n % 16 < 16 := Nat.mod_lt _ (by omega)
        rw [hsplit, List.append_assoc, ih (n / 16) (by omega) (by omega)]
        rw [List.singleton_append,
          readFrom_of_move_nil (move_code_digitChar (by omega) hmod)]
        rw [List.length_append, List.length_singleton, Nat.div_add_mod']

/-- A code point has one to six hexadecimal digits. -/
theorem length_toDigits_char
    (c : Char) :
    0 < (Nat.toDigits 16 c.toNat).length ∧ (Nat.toDigits 16 c.toNat).length ≤ 6 := by
  have hlt : c.toNat < 16 ^ 6 := by
    have hvalid := c.valid
    have hval : c.toNat < 0x110000 := by
      rcases hvalid with h | ⟨-, h⟩
      · exact Nat.lt_of_lt_of_le h (by decide)
      · exact h
    exact Nat.lt_of_lt_of_le hval (by decide)
  constructor
  · exact Nat.length_toDigits_pos
  · exact (Nat.length_toDigits_le_iff (by omega) (by omega)).mpr hlt

/-- An escape by code point gives its character. -/
theorem readFrom_codeEscape
    (c : Char)
    (cs : List Char) :
    readFrom .text .plain (codeEscape c ++ cs) =
      (readFrom .text .plain cs).map fun result => (c :: result.1, result.2) := by
  obtain ⟨hpos, hle⟩ := length_toDigits_char c
  have hclose :
      Reading.move .text (.code c.toNat (Nat.toDigits 16 c.toNat).length) '}' =
        .next .plain [c] := by
    have hvalid : Nat.isValidChar c.toNat := c.valid
    have hne : (Nat.toDigits 16 c.toNat).length ≠ 0 := by omega
    have hbrace : hexValue? '}' = none := by
      rfl
    have hchar : Char.ofNat c.toNat = c := Char.ofNat_toNat c
    simp [Reading.move, Reading.moveCode, hbrace, hne, hvalid, QuotedKind.text, hchar]
  unfold codeEscape
  simp only [List.cons_append, List.nil_append, List.append_assoc]
  have hmark : Reading.move .text .escaped 'u' = .next .codeOpen [] := by
    rfl
  have hopen : Reading.move .text .codeOpen '{' = .next (.code 0 0) [] := by
    rfl
  rw [readFrom_backslash, readFrom_of_move_nil hmark, readFrom_of_move_nil hopen,
    readFrom_toDigits c.toNat hle]
  exact readFrom_of_move_single hclose cs

end CodePoints

section RoundTrip

/-- However a character is written, it is read back to itself. -/
theorem readFrom_escapeChar
    (style : QuoteStyle)
    (c : Char)
    (after cs : List Char) :
    readFrom .text .plain (escapeChar style c after ++ cs) =
      (readFrom .text .plain cs).map fun result => (c :: result.1, result.2) := by
  unfold escapeChar
  split_ifs with hnul hguard htab hreturn hline hmark hshown
  · subst hnul
    change readFrom .text .plain ('\\' :: 'x' :: '0' :: '0' :: cs) = _
    have hmark : Reading.move .text .escaped 'x' = .next .byteHigh [] := by
      rfl
    have hhigh : Reading.move .text .byteHigh '0' = .next (.byteLow 0) [] := by
      rfl
    rw [readFrom_backslash, readFrom_of_move_nil hmark, readFrom_of_move_nil hhigh]
    exact readFrom_of_move_single rfl cs
  · subst hnul
    exact readFrom_escaped rfl cs
  · subst htab
    exact readFrom_escaped rfl cs
  · subst hreturn
    exact readFrom_escaped rfl cs
  · subst hline
    exact readFrom_escaped rfl cs
  · have hmark' : c = '\\' ∨ c = '"' := by simpa using hmark
    rcases hmark' with rfl | rfl
    · exact readFrom_escaped rfl cs
    · exact readFrom_escaped rfl cs
  · have hmark' : c ≠ '\\' ∧ c ≠ '"' := by simpa using hmark
    exact readFrom_plain hmark'.2 hreturn hmark'.1 cs
  · exact readFrom_codeEscape c cs

/-- A text that was escaped in whatever style is read back up to the closing quote. -/
theorem readQuoted_escape
    (style : QuoteStyle)
    (text rest : List Char) :
    readQuoted .text (escape style text ++ '"' :: rest) = some (text, rest) := by
  unfold readQuoted
  induction text with
  | nil =>
      exact readFrom_quote rest
  | cons c text ih =>
      rw [escape, List.append_assoc, readFrom_escapeChar, ih]
      rfl

theorem quote_toList
    (style : QuoteStyle)
    (s : String) :
    (quote style s).toList = '"' :: (escape style s.toList ++ ['"']) := by
  simp [quote]

/-- Different texts are quoted differently. -/
theorem quote_injective
    (style : QuoteStyle) :
    Function.Injective (quote style) := by
  intro s t h
  have hlist := congrArg String.toList h
  rw [quote_toList, quote_toList, List.cons.injEq] at hlist
  have hread := readQuoted_escape style s.toList []
  rw [hlist.2, readQuoted_escape style t.toList []] at hread
  have htext : t.toList = s.toList := by simpa using hread
  exact (String.toList_inj.mp htext).symm

end RoundTrip

end Text
end Caseless
