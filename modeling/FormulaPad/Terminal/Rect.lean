/-!
# FormulaPad.Terminal.Rect

Rectangles of cells on a terminal.

Coordinates have 16 bits. Sums stop at the greatest coordinate and differences
at zero, so no operation leaves the range; `contains_inter` says that the
intersection holds just the cells that both rectangles hold.
-/

namespace FormulaPad.Terminal

/-- The greatest coordinate. -/
def maxCoordinate : Nat := 65535

/-- A sum that stops at the greatest coordinate. -/
def satAdd (a b : Nat) : Nat := min (a + b) maxCoordinate

/-- A number as a coordinate. -/
def toCoordinate (n : Nat) : Nat := min n maxCoordinate

structure Rect where
  x : Nat
  y : Nat
  width : Nat
  height : Nat
  deriving DecidableEq, Repr

namespace Rect

/-- One past the last column. -/
def right (r : Rect) : Nat := satAdd r.x r.width

/-- One past the last row. -/
def bottom (r : Rect) : Nat := satAdd r.y r.height

def isEmpty (r : Rect) : Bool := r.width == 0 || r.height == 0

/-- The rectangle with its far edges within the range of coordinates. -/
def clamped (x y width height : Nat) : Rect :=
  ⟨x, y, satAdd x width - x, satAdd y height - y⟩

def contains (r : Rect) (x y : Nat) : Bool :=
  r.x ≤ x && x < r.right && r.y ≤ y && y < r.bottom

/-- The cells of both rectangles. -/
def inter (r s : Rect) : Rect :=
  let x := max r.x s.x
  let y := max r.y s.y
  ⟨x, y, min r.right s.right - x, min r.bottom s.bottom - y⟩

/-- Without the first column, the first row and so on, as far as there are any. -/
def inset (r : Rect) (left top right bottom : Bool) : Rect where
  x := if left then min (satAdd r.x 1) r.right else r.x
  y := if top then min (satAdd r.y 1) r.bottom else r.y
  width := r.width - (if left then 1 else 0) - (if right then 1 else 0)
  height := r.height - (if top then 1 else 0) - (if bottom then 1 else 0)

/-- One coordinate of `contains_inter`: from `a` on `m` places, and from `b` on `n` places. -/
theorem lt_satAdd_of_lt_inter {a b m n x : Nat} (hl : max a b ≤ x)
    (hr : x < satAdd (max a b) (min (satAdd a m) (satAdd b n) - max a b)) :
    (a ≤ x ∧ x < satAdd a m) ∧ b ≤ x ∧ x < satAdd b n := by
  have h : x < min (satAdd a m) (satAdd b n) := by
    simp only [satAdd] at hr ⊢; omega
  exact ⟨⟨Nat.le_trans (Nat.le_max_left ..) hl, Nat.lt_of_lt_of_le h (Nat.min_le_left ..)⟩,
    Nat.le_trans (Nat.le_max_right ..) hl, Nat.lt_of_lt_of_le h (Nat.min_le_right ..)⟩

/-- A cell of the intersection is a cell of both rectangles. -/
theorem contains_inter {r s : Rect} {x y : Nat} (h : (r.inter s).contains x y = true) :
    r.contains x y = true ∧ s.contains x y = true := by
  simp only [contains, Bool.and_eq_true, decide_eq_true_eq] at h ⊢
  obtain ⟨⟨⟨hl, hr⟩, ht⟩, hb⟩ := h
  obtain ⟨⟨rl, rr⟩, sl, sr⟩ := lt_satAdd_of_lt_inter hl hr
  obtain ⟨⟨rt, rb⟩, st, sb⟩ := lt_satAdd_of_lt_inter ht hb
  exact ⟨⟨⟨⟨rl, rr⟩, rt⟩, rb⟩, ⟨⟨sl, sr⟩, st⟩, sb⟩

end Rect
end FormulaPad.Terminal
