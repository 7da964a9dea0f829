import FormulaPad.Text.Basic

/-!
# FormulaPad.Text.Blank

Blank characters, and the operations that remove them.

A character is blank when Unicode gives it the property `White_Space`: twenty
five code points. The same set serves wherever text is trimmed, stripped, or
read as a name that may hold blanks.
-/

namespace FormulaPad.Text

/-! ## Blank characters -/

/-- The Unicode property `White_Space`. -/
def isBlank (c : Char) : Bool :=
  let n := c.toNat
  (9 ≤ n && n ≤ 13) || n == 0x20 || n == 0x85 || n == 0xA0 || n == 0x1680 ||
    (0x2000 ≤ n && n ≤ 0x200A) || n == 0x2028 || n == 0x2029 || n == 0x202F || n == 0x205F ||
    n == 0x3000

/-- What core counts as whitespace is blank. -/
theorem isBlank_of_isWhitespace {c : Char} (h : c.isWhitespace = true) : isBlank c = true := by
  simp only [Char.isWhitespace, Bool.or_eq_true, decide_eq_true_eq] at h
  rcases h with ((h | h) | h) | h <;> subst h <;> decide

/-! ## Trimming and stripping -/

/-- Without the blanks at the start. -/
def trimStart (t : Text) : Text := t.dropWhile isBlank

/-- Without the blanks at the end. -/
def trimEnd (t : Text) : Text := (t.reverse.dropWhile isBlank).reverse

/-- Without the blanks at both ends; blanks inside stay. -/
def trim (t : Text) : Text := trimEnd (trimStart t)

/-- Without any blank. -/
def strip (t : Text) : Text := t.filter (!isBlank ·)

theorem strip_append (t u : Text) : strip (t ++ u) = strip t ++ strip u := by
  simp [strip]

/-- Nothing but blanks strips to nothing. -/
theorem strip_eq_nil_iff {t : Text} : strip t = [] ↔ ∀ c ∈ t, isBlank c = true := by
  simp [strip, List.filter_eq_nil_iff]

theorem strip_trimStart (t : Text) : strip (trimStart t) = strip t := by
  induction t with
  | nil => rfl
  | cons c t ih =>
      by_cases h : isBlank c
      · simpa [trimStart, strip, h] using ih
      · simp [trimStart, h]

theorem strip_reverse (t : Text) : strip t.reverse = (strip t).reverse := by
  simp [strip]

theorem trimStart_cons {c : Char} (h : isBlank c = false) (t : Text) :
    trimStart (c :: t) = c :: t := by
  simp [trimStart, h]

/-- Blanks at the end do not change what is left when they are trimmed. -/
theorem trimEnd_append {u : Text} (h : strip u = []) (t : Text) : trimEnd (t ++ u) = trimEnd t := by
  have hu : ∀ c ∈ u.reverse, isBlank c = true := fun c hc =>
    strip_eq_nil_iff.mp h c (List.mem_reverse.mp hc)
  rw [trimEnd, trimEnd, List.reverse_append, List.dropWhile_append_of_pos hu]

theorem strip_trimEnd (t : Text) : strip (trimEnd t) = strip t := by
  have := strip_trimStart t.reverse
  rw [trimStart, strip_reverse] at this
  rw [trimEnd, strip_reverse, this, List.reverse_reverse]

/-- Trimming removes nothing but blanks. -/
theorem strip_trim (t : Text) : strip (trim t) = strip t := by
  rw [trim, strip_trimEnd, strip_trimStart]

/-- Of nothing but blanks nothing is left. -/
theorem trim_of_strip_eq_nil {t : Text} (h : strip t = []) : trim t = [] := by
  have hstart : trimStart t = [] := by
    rw [trimStart, ← List.append_nil t, List.dropWhile_append_of_pos (strip_eq_nil_iff.mp h)]
    rfl
  rw [trim, hstart]
  rfl

/-- Up to the last part that is more than blanks, nothing is trimmed. -/
theorem trimEnd_append_of_ne {u : Text} (h : strip u ≠ []) (t : Text) :
    trimEnd (t ++ u) = t ++ trimEnd u := by
  have hne : u.reverse.dropWhile isBlank ≠ [] := by
    intro hnil
    rw [← strip_trimEnd, trimEnd, hnil] at h
    exact h rfl
  rw [trimEnd, trimEnd, List.reverse_append, List.dropWhile_append, if_neg (by simpa using hne),
    List.reverse_append, List.reverse_reverse]

theorem trimEnd_cons {c : Char} (h : isBlank c = false) (t : Text) :
    trimEnd (c :: t) = c :: trimEnd t := by
  by_cases ht : strip t = []
  · have hnil : trimEnd t = [] := trimEnd_append ht []
    rw [← List.singleton_append, trimEnd_append ht, hnil]
    simp [trimEnd, h]
  · rw [← List.singleton_append, trimEnd_append_of_ne ht]
    rfl

/-- Only the end of a text is trimmed off. -/
theorem isInitial_trimEnd (t : Text) : trimEnd t <+: t := by
  rw [← List.reverse_suffix, trimEnd, List.reverse_reverse]
  exact List.dropWhile_suffix isBlank

/-- What is trimmed off the end is blank. -/
theorem exists_trimEnd_append (t : Text) : ∃ u, t = trimEnd t ++ u ∧ strip u = [] := by
  obtain ⟨u, hu⟩ := isInitial_trimEnd t
  have hstrip : strip t = strip t ++ strip u := by
    have h := congrArg strip hu
    rw [strip_append, strip_trimEnd] at h
    exact h.symm
  exact ⟨u, hu.symm, List.self_eq_append_right.mp hstrip⟩

theorem isWithin_trim (t : Text) : trim t <:+: t :=
  (isInitial_trimEnd _).isInfix.trans (List.dropWhile_suffix isBlank).isInfix

/-- Blanks at the end are trimmed off. -/
theorem trim_append {u : Text} (h : strip u = []) (t : Text) : trim (t ++ u) = trim t := by
  by_cases ht : strip t = []
  · rw [trim_of_strip_eq_nil ht, trim_of_strip_eq_nil (by rw [strip_append, ht, h]; rfl)]
  · have hne : t.dropWhile isBlank ≠ [] := fun hnil => by
      rw [← strip_trimStart, trimStart, hnil] at ht
      exact ht rfl
    have hstart : trimStart (t ++ u) = trimStart t ++ u := by
      rw [trimStart, trimStart, List.dropWhile_append, if_neg (by simpa using hne)]
    rw [trim, hstart, trimEnd_append h, trim]

theorem trim_cons {c : Char} (h : isBlank c = false) (t : Text) :
    trim (c :: t) = c :: trimEnd t := by
  rw [trim, trimStart_cons h, trimEnd_cons h]

theorem trimStart_trimStart (t : Text) : trimStart (trimStart t) = trimStart t := by
  induction t with
  | nil => rfl
  | cons c t ih =>
      by_cases h : isBlank c
      · simpa [trimStart, h] using ih
      · have hc : isBlank c = false := by simpa using h
        rw [trimStart_cons hc, trimStart_cons hc]

/-- What has been trimmed has no blanks at its ends. -/
theorem trim_trim (t : Text) : trim (trim t) = trim t := by
  obtain ⟨u, hu, hblank⟩ := exists_trimEnd_append (trimStart t)
  calc trim (trim t)
      = trim (trimEnd (trimStart t) ++ u) := (trim_append hblank _).symm
    _ = trim (trimStart t) := by rw [← hu]
    _ = trim t := by rw [trim, trimStart_trimStart, trim]

/-- What is no blank is not trimmed off. -/
theorem mem_trim {c : Char} {t : Text} (hc : c ∈ t) (h : isBlank c = false) : c ∈ trim t := by
  have hmem : c ∈ strip (trim t) := by
    rw [strip_trim]
    exact List.mem_filter.2 ⟨hc, by simp [h]⟩
  exact (List.mem_filter.1 hmem).1

/-- What starts with a character that is not blank keeps its place when the text around it is
trimmed. -/
theorem trim_infix_trim {c : Char} (hc : isBlank c = false) {t u : Text} (h : c :: t <:+: u) :
    trim (c :: t) <:+: trim u := by
  obtain ⟨before, after, rfl⟩ := h
  have hstart : trimStart (before ++ (c :: t) ++ after) =
      trimStart before ++ ((c :: t) ++ after) := by
    rw [trimStart, trimStart, List.append_assoc, List.dropWhile_append]
    split
    · next hnil => rw [List.isEmpty_iff.1 hnil]; exact trimStart_cons hc _
    · rfl
  have hrun : strip (c :: t) ≠ [] := by simp [strip, hc]
  rw [trim, trim, hstart, trimStart_cons hc]
  by_cases hafter : strip after = []
  · rw [← List.append_assoc, trimEnd_append hafter, trimEnd_append_of_ne hrun]
    exact ⟨trimStart before, [], List.append_nil _⟩
  · rw [← List.append_assoc, trimEnd_append_of_ne hafter]
    exact (isInitial_trimEnd _).isInfix.trans ⟨trimStart before, trimEnd after, rfl⟩

end FormulaPad.Text
