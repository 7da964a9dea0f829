import FormulaPad.Text.Basic

/-!
# FormulaPad.Text.Utf8

Positions in a text measured in bytes of its UTF-8 form.

A position that stands between two characters is a boundary, and only there can
a text be cut: `sliceTo`, `sliceFrom`, `insertAt` and `removeRange` ask for a
proof of it. `floorBoundary` goes down from any position to a boundary.
`takeBytes n` is the longest initial part of at most `n` bytes.

Main statements: `takeBytes_append_dropBytes` (nothing is lost),
`takeBytes_byteLength_append` (a cut at a boundary falls on that boundary),
`prefix_takeBytes_iff` (the initial part is the longest) and
`floorBoundary_eq` (the scan ends where that part ends).
-/

namespace FormulaPad.Text

/-- Bytes of the UTF-8 form. -/
def byteLength : Text → Nat
  | [] => 0
  | c :: t => c.utf8Size + byteLength t

/-- The longest initial part of at most `n` bytes. -/
def takeBytes (n : Nat) : Text → Text
  | [] => []
  | c :: t => if c.utf8Size ≤ n then c :: takeBytes (n - c.utf8Size) t else []

/-- What follows the longest initial part of at most `n` bytes. -/
def dropBytes (n : Nat) : Text → Text
  | [] => []
  | c :: t => if c.utf8Size ≤ n then dropBytes (n - c.utf8Size) t else c :: t

theorem byteLength_append (t u : Text) : byteLength (t ++ u) = byteLength t + byteLength u := by
  induction t with
  | nil => simp [byteLength]
  | cons c t ih => simp [byteLength, ih, Nat.add_assoc]

theorem byteLength_append_singleton (t : Text) (c : Char) :
    byteLength (t ++ [c]) = byteLength t + c.utf8Size := by
  rw [byteLength_append]; rfl

theorem takeBytes_append_dropBytes (n : Nat) (t : Text) : takeBytes n t ++ dropBytes n t = t := by
  induction t generalizing n with
  | nil => rfl
  | cons c t ih => by_cases h : c.utf8Size ≤ n <;> simp [takeBytes, dropBytes, h, ih]

theorem byteLength_takeBytes_le (n : Nat) (t : Text) : byteLength (takeBytes n t) ≤ n := by
  induction t generalizing n with
  | nil => simp [takeBytes, byteLength]
  | cons c t ih =>
      by_cases h : c.utf8Size ≤ n
      · have := ih (n - c.utf8Size)
        simp only [takeBytes, h, if_true, byteLength]; omega
      · simp [takeBytes, h, byteLength]

/-- A cut after the bytes of `t` falls between `t` and `u`. -/
theorem takeBytes_byteLength_append (t u : Text) : takeBytes (byteLength t) (t ++ u) = t := by
  induction t with
  | nil =>
      cases u with
      | nil => rfl
      | cons c u =>
          have := c.utf8Size_pos
          simp [takeBytes, byteLength, Nat.not_le.2 this]
  | cons c t ih => simp [takeBytes, byteLength, ih]

theorem dropBytes_byteLength_append (t u : Text) : dropBytes (byteLength t) (t ++ u) = u := by
  have h := takeBytes_append_dropBytes (byteLength t) (t ++ u)
  rw [takeBytes_byteLength_append] at h
  exact List.append_cancel_left h

theorem takeBytes_of_le {n : Nat} {t : Text} (h : byteLength t ≤ n) : takeBytes n t = t := by
  induction t generalizing n with
  | nil => rfl
  | cons c t ih =>
      simp only [byteLength] at h
      rw [takeBytes, if_pos (by omega), ih (by omega)]

/-- Among the initial parts of at most `n` bytes, `takeBytes n` is the longest. -/
theorem prefix_takeBytes_iff {n : Nat} {p t : Text} :
    p <+: takeBytes n t ↔ p <+: t ∧ byteLength p ≤ n := by
  induction t generalizing n p with
  | nil =>
      rw [takeBytes, List.prefix_nil]
      constructor
      · rintro rfl; exact ⟨rfl, Nat.zero_le n⟩
      · exact And.left
  | cons c t ih =>
      cases p with
      | nil => simp [byteLength]
      | cons d p =>
          by_cases h : c.utf8Size ≤ n
          · rw [takeBytes, if_pos h, List.cons_prefix_cons, List.cons_prefix_cons, ih, byteLength,
              and_assoc]
            refine and_congr_right fun hd => and_congr_right fun _ => ?_
            rw [hd]; omega
          · rw [takeBytes, if_neg h, List.prefix_nil, List.cons_prefix_cons, byteLength]
            constructor
            · intro hnil; cases hnil
            · rintro ⟨⟨rfl, -⟩, hle⟩; omega

/-! ## Boundaries -/

/-- The position stands between two characters, or at an end of the text. -/
def isBoundary : Text → Nat → Bool
  | _, 0 => true
  | [], _ + 1 => false
  | c :: t, n + 1 => decide (c.utf8Size ≤ n + 1) && isBoundary t (n + 1 - c.utf8Size)

/-- The boundary that a scan down from a position reaches first. -/
def scanBoundary (t : Text) : Nat → Nat
  | 0 => 0
  | n + 1 => if isBoundary t (n + 1) then n + 1 else scanBoundary t n

/-- The last boundary that is not after the position. -/
def floorBoundary (t : Text) (offset : Nat) : Nat := scanBoundary t (min offset (byteLength t))

theorem isBoundary_zero (t : Text) : isBoundary t 0 = true := by
  cases t <;> rfl

theorem isBoundary_iff {t : Text} {n : Nat} :
    isBoundary t n = true ↔ byteLength (takeBytes n t) = n := by
  induction t generalizing n with
  | nil => cases n <;> simp [isBoundary, takeBytes, byteLength]
  | cons c t ih =>
      have hpos := c.utf8Size_pos
      cases n with
      | zero => simp [isBoundary, takeBytes, byteLength, Nat.not_le.2 hpos]
      | succ n =>
          by_cases h : c.utf8Size ≤ n + 1
          · simp only [isBoundary, takeBytes, h, decide_true, Bool.true_and, if_true, byteLength, ih]
            omega
          · simp [isBoundary, takeBytes, h, byteLength]

theorem isBoundary_byteLength_append (t u : Text) : isBoundary (t ++ u) (byteLength t) = true := by
  rw [isBoundary_iff, takeBytes_byteLength_append]

theorem isBoundary_byteLength (t : Text) : isBoundary t (byteLength t) = true := by
  have h := isBoundary_byteLength_append t []
  rwa [List.append_nil] at h

/-- The byte at a position that is no boundary belongs to a character that begins before it. -/
theorem takeBytes_succ {t : Text} {n : Nat} (h : isBoundary t (n + 1) = false) :
    takeBytes (n + 1) t = takeBytes n t := by
  have hlt : byteLength (takeBytes (n + 1) t) ≤ n := by
    have hne : byteLength (takeBytes (n + 1) t) ≠ n + 1 := fun he => by
      rw [isBoundary_iff.2 he] at h; cases h
    have hle := byteLength_takeBytes_le (n + 1) t
    omega
  have hshort : takeBytes (n + 1) t <+: takeBytes n t :=
    prefix_takeBytes_iff.2 ⟨(prefix_takeBytes_iff.1 List.prefix_rfl).1, hlt⟩
  have hlong : takeBytes n t <+: takeBytes (n + 1) t := by
    have hself := prefix_takeBytes_iff.1 (List.prefix_refl (takeBytes n t))
    exact prefix_takeBytes_iff.2 ⟨hself.1, by omega⟩
  exact hshort.eq_of_length_le hlong.length_le

theorem scanBoundary_eq (t : Text) (n : Nat) : scanBoundary t n = byteLength (takeBytes n t) := by
  induction n with
  | zero => rw [scanBoundary, isBoundary_iff.1 (isBoundary_zero t)]
  | succ n ih =>
      rw [scanBoundary]
      split
      case isTrue h => rw [isBoundary_iff.1 h]
      case isFalse h => rw [ih, takeBytes_succ (Bool.eq_false_iff.2 h)]

/-- The scan ends behind the longest initial part that fits. -/
theorem floorBoundary_eq (t : Text) (n : Nat) :
    floorBoundary t n = byteLength (takeBytes n t) := by
  rw [floorBoundary, scanBoundary_eq]
  cases Nat.le_total n (byteLength t) with
  | inl h => rw [Nat.min_eq_left h]
  | inr h => rw [Nat.min_eq_right h, takeBytes_of_le h, takeBytes_of_le (Nat.le_refl _)]

theorem isBoundary_floorBoundary (t : Text) (n : Nat) : isBoundary t (floorBoundary t n) = true := by
  have h := isBoundary_byteLength_append (takeBytes n t) (dropBytes n t)
  rwa [takeBytes_append_dropBytes, ← floorBoundary_eq] at h

/-! ## Columns -/

/-- The positions at which the characters begin, counted from a start. -/
def charOffsets (start : Nat) : Text → List Nat
  | [] => []
  | c :: t => start :: charOffsets (start + c.utf8Size) t

/-- The position at which the character with this number begins, or the end of the text. -/
def columnOffset (t : Text) (column : Nat) : Nat :=
  (charOffsets 0 t)[column]?.getD (byteLength t)

theorem charOffsets_getElem? (start : Nat) (t : Text) (column : Nat) :
    (charOffsets start t)[column]?.getD (start + byteLength t) =
      start + byteLength (t.take column) := by
  induction t generalizing start column with
  | nil => simp [charOffsets, byteLength]
  | cons c t ih =>
      cases column with
      | zero => simp [charOffsets, byteLength]
      | succ column =>
          rw [charOffsets, List.getElem?_cons_succ, byteLength, ← Nat.add_assoc, ih,
            List.take_succ_cons, byteLength, Nat.add_assoc]

theorem columnOffset_eq (t : Text) (column : Nat) :
    columnOffset t column = byteLength (t.take column) := by
  have h := charOffsets_getElem? 0 t column
  rwa [Nat.zero_add, Nat.zero_add] at h

/-! ## Cutting at boundaries -/

/-- The text before a boundary. -/
def sliceTo (t : Text) (n : Nat) (_ : isBoundary t n = true) : Text := takeBytes n t

/-- The text after a boundary. -/
def sliceFrom (t : Text) (n : Nat) (_ : isBoundary t n = true) : Text := dropBytes n t

/-- Put `u` in at a boundary. -/
def insertAt (t : Text) (n : Nat) (u : Text) (h : isBoundary t n = true) : Text :=
  sliceTo t n h ++ u ++ sliceFrom t n h

/-- Take out what stands between two boundaries. -/
def removeRange (t : Text) (i j : Nat) (hi : isBoundary t i = true) (hj : isBoundary t j = true)
    (_ : i ≤ j) : Text :=
  sliceTo t i hi ++ sliceFrom t j hj

theorem sliceTo_eq {t b a : Text} {n : Nat} (ht : t = b ++ a) (hn : n = byteLength b)
    (h : isBoundary t n = true) : sliceTo t n h = b := by
  subst ht hn
  exact takeBytes_byteLength_append b a

theorem sliceFrom_eq {t b a : Text} {n : Nat} (ht : t = b ++ a) (hn : n = byteLength b)
    (h : isBoundary t n = true) : sliceFrom t n h = a := by
  subst ht hn
  exact dropBytes_byteLength_append b a

theorem insertAt_eq {t b a : Text} {n : Nat} (u : Text) (ht : t = b ++ a) (hn : n = byteLength b)
    (h : isBoundary t n = true) : insertAt t n u h = b ++ u ++ a := by
  rw [insertAt, sliceTo_eq ht hn, sliceFrom_eq ht hn]

theorem removeRange_eq {t b run a : Text} {i j : Nat} (ht : t = b ++ run ++ a)
    (hbegin : i = byteLength b) (hend : j = byteLength (b ++ run)) (hi : isBoundary t i = true)
    (hj : isBoundary t j = true) (hle : i ≤ j) : removeRange t i j hi hj hle = b ++ a := by
  rw [removeRange, sliceTo_eq (ht.trans (List.append_assoc b run a)) hbegin,
    sliceFrom_eq ht hend]

end FormulaPad.Text
