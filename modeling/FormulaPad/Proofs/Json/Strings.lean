import FormulaPad.Json.Reader

/-!
# FormulaPad.Proofs.Json.Strings

The written form of a text, and reading it back.

A character is written in one of three ways (`encodeChar_cases`): as a letter
behind a backslash, as four hexadecimal digits, or as itself. From that follows
character by character what the two readers make of it.

Main statements: `decodeString?_encodeString` (the text comes back) and
`takeString?_encodeString` (the written form ends at the closing mark).
-/

namespace FormulaPad.Json

/-! ## One character -/

theorem hexValue?_hexDigit {n : Nat} (h : n < 16) : hexValue? (hexDigit n) = some n := by
  have hall : ∀ m < 16, hexValue? (hexDigit m) = some m := by decide
  exact hall n h

theorem isHex_hexDigit {n : Nat} (h : n < 16) : isHex (hexDigit n) = true := by
  rw [isHex, hexValue?_hexDigit h]
  rfl

/-- The four digits of a control character. -/
theorem hexUnit?_control {n : Nat} (h : n < 32) :
    hexUnit? '0' '0' (hexDigit (n / 16)) (hexDigit (n % 16)) = some n := by
  have hzero : hexValue? '0' = some 0 := rfl
  have hhigh := hexValue?_hexDigit (n := n / 16) (by omega)
  have hlow := hexValue?_hexDigit (n := n % 16) (by omega)
  simp only [hexUnit?, hzero, hhigh, hlow, Option.bind_eq_bind, Option.bind_some, Option.pure_def,
    Option.some_inj]
  omega

/-- The ways in which a character is written. -/
theorem encodeChar_cases (c : Char) :
    (∃ letter, encodeChar c = ['\\', letter] ∧ letter ≠ 'u' ∧ unescape? letter = some c) ∨
      (encodeChar c = ['\\', 'u', '0', '0', hexDigit (c.toNat / 16), hexDigit (c.toNat % 16)] ∧
        c.toNat < 32) ∨
      (encodeChar c = [c] ∧ c ≠ '"' ∧ c ≠ '\\' ∧ 32 ≤ c.toNat) := by
  by_cases hletter : c ∈ ['"', '\\', '\x08', '\x0c', '\n', '\r', '\t']
  · simp only [List.mem_cons, List.not_mem_nil, or_false] at hletter
    left
    rcases hletter with rfl | rfl | rfl | rfl | rfl | rfl | rfl <;>
      exact ⟨_, rfl, by decide, by decide⟩
  · simp only [List.mem_cons, List.not_mem_nil, or_false, not_or] at hletter
    right
    simp only [encodeChar, hletter, if_false]
    by_cases hlt : c.toNat < 32
    · simp [hlt]
    · simp [hlt, hletter, Nat.le_of_not_lt hlt]

theorem decodeString?_encodeChar_append (c : Char) (t : Text) :
    decodeString? (encodeChar c ++ t) = (decodeString? t).map (c :: ·) := by
  obtain ⟨letter, hc, hu, hletter⟩ | ⟨hc, hlt⟩ | ⟨hc, -, hslash, -⟩ := encodeChar_cases c
  · simp [hc, decodeString?, hu, hletter]
  · have hlow : isLowSurrogate c.toNat = false := by simp [isLowSurrogate]; omega
    have hhigh : isHighSurrogate c.toNat = false := by simp [isHighSurrogate]; omega
    simp [hc, decodeString?, hexUnit?_control hlt, hlow, hhigh]
  · simp [hc, decodeString?, hslash]

theorem takeString?_encodeChar_append (c : Char) (t : Text) :
    takeString? (encodeChar c ++ t) =
      (takeString? t).map fun (raw, rest) => (encodeChar c ++ raw, rest) := by
  obtain ⟨letter, hc, hu, hletter⟩ | ⟨hc, hlt⟩ | ⟨hc, hmark, hslash, hge⟩ := encodeChar_cases c
  · simp [hc, takeString?, hu, hletter]
  · have hzero : isHex '0' = true := rfl
    have hhigh := isHex_hexDigit (n := c.toNat / 16) (by omega)
    have hlow := isHex_hexDigit (n := c.toNat % 16) (by omega)
    simp [hc, takeString?, hzero, hhigh, hlow]
  · simp [hc, takeString?, hslash, Nat.not_lt_of_le hge]

/-! ## A text -/

/-- A text that is written as a string comes back. -/
theorem decodeString?_encodeString (t : Text) : decodeString? (encodeString t) = some t := by
  induction t with
  | nil => rfl
  | cons c t ih =>
      rw [encodeString, List.flatMap_cons, decodeString?_encodeChar_append, ← encodeString, ih,
        Option.map_some]

/-- The written form of a text holds no mark that could end it early. -/
theorem takeString?_encodeString (t rest : Text) :
    takeString? (encodeString t ++ '"' :: rest) = some (encodeString t, rest) := by
  induction t with
  | nil => rfl
  | cons c t ih =>
      rw [encodeString, List.flatMap_cons, List.append_assoc, takeString?_encodeChar_append,
        ← encodeString, ih, Option.map_some]

theorem text?_ofText (t : Text) : (ofText t).text? = some t := decodeString?_encodeString t

end FormulaPad.Json
