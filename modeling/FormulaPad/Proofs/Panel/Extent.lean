import FormulaPad.Panel.InputLine
import FormulaPad.Proofs.Panel.Windows

/-!
# FormulaPad.Proofs.Panel.Extent

How far the regions that the panels record reach, and the arithmetic that they
come from.

Each region lies inside the edges of its panel: the controls of chips from the
left to the right, no two of them on one cell, and rows on lines of their own.
The coordinates are computed without a check that the sums and differences are
coordinates. Here they are computed once more with such checks, and none fails
in panels whose own far edges are coordinates.

Main statements: `pairwise_chipRegions` (controls lie apart, in their order),
`inside_of_mem_chipRegions`, `inside_of_mem_optionRegions` and
`inside_of_mem_tableRegions` (regions lie inside the edges), and
`checkedChipRegions_eq`, `checkedOptionRegions_eq`, `checkedTableRegions_eq` and
`checkedCursor_eq` (no check fails).
-/

namespace FormulaPad

open Terminal

/-! ## Areas inside others -/

namespace Terminal.Rect

variable {r s : Rect}

/-- No edge of the area is beyond that of the other. -/
structure Inside (r s : Rect) : Prop where
  left : s.x ≤ r.x
  right : r.right ≤ s.right
  top : s.y ≤ r.y
  bottom : r.bottom ≤ s.bottom

theorem Inside.contains (h : r.Inside s) {x y : Nat} (hcell : r.contains x y = true) :
    s.contains x y = true := by
  obtain ⟨hleft, hright, htop, hbottom⟩ := h
  rw [contains_iff] at hcell ⊢
  omega

/-- The lines of an area lie inside it. -/
theorem inside_line {line : Nat} (h : line < r.height) :
    (clamped r.x (r.y + toCoordinate line) r.width 1).Inside r := by
  constructor <;> simp only [clamped, Rect.right, Rect.bottom, satAdd, toCoordinate] <;> omega

end Terminal.Rect

namespace Panel

/-! ## Controls of chips -/

section Chips

variable {column : Nat} {items : List ViewItem} {area inner : Rect}

theorem le_start_of_mem_controlsFrom {c : Control} (h : c ∈ controlsFrom column items) :
    column ≤ c.start := by
  induction items generalizing column with
  | nil => cases h
  | cons item rest ih =>
      cases item with
      | text t => exact Nat.le_trans (by omega) (ih h)
      | chip chip =>
          cases List.mem_cons.1 h with
          | inl hfirst => subst hfirst; exact Nat.le_add_right ..
          | inr hrest => exact Nat.le_trans (by omega) (ih hrest)

/-- Every control ends before the next one starts. -/
theorem pairwise_controlsFrom :
    (controlsFrom column items).Pairwise fun c d => c.start + c.width ≤ d.start := by
  induction items generalizing column with
  | nil => exact .nil
  | cons item rest ih =>
      cases item with
      | text t => exact ih
      | chip chip =>
          refine List.pairwise_cons.2 ⟨fun d hd => ?_, ih⟩
          have hstart := le_start_of_mem_controlsFrom hd
          simp only [itemWidth, itemSpans, Span.totalWidth] at hstart ⊢
          omega

/-- There is a control for each chip. -/
theorem map_id_controlsFrom (column : Nat) (items : List ViewItem) :
    (controlsFrom column items).map (·.id) = (View.mk items).chips.map (·.dropdownId) := by
  induction items generalizing column with
  | nil => rfl
  | cons item rest ih =>
      cases item with
      | text t => exact ih _
      | chip chip => exact congrArg (chip.dropdownId :: ·) (ih _)

/-- A control is in view if it starts before the right edge; its region starts there too, and ends
where the control or the room for it does. -/
theorem controlRegion?_eq_some {c : Control} {p : Rect × Text} (hinner : inner.InRange)
    (h : controlRegion? inner c = some p) :
    c.start < inner.width ∧
      p = (⟨inner.x + c.start, inner.y, min c.width (inner.width - c.start), min 1 inner.height⟩,
        c.id) := by
  obtain ⟨hright, hbottom⟩ := hinner
  rw [controlRegion?] at h
  split at h
  · next hview =>
      obtain rfl := Option.some.inj h
      simp only [Rect.clamped, Rect.right, satAdd, toCoordinate, Prod.mk.injEq, Rect.mk.injEq,
        true_and, and_true] at hview ⊢
      omega
  · cases h

theorem inside_of_mem_chipRegions {v : View} {p : Rect × Text} (harea : area.InRange)
    (h : p ∈ chipRegions area v) : p.1.Inside (boxed.inner area) := by
  obtain ⟨c, -, hc⟩ := List.mem_filterMap.1 h
  obtain ⟨hview, rfl⟩ := controlRegion?_eq_some harea.inner hc
  constructor <;> simp only [Rect.right, Rect.bottom, satAdd] <;> omega

/-- The regions of the controls lie apart, each to the left of those that come after it. -/
theorem pairwise_chipRegions {v : View} (harea : area.InRange) :
    (chipRegions area v).Pairwise fun p q => p.1.right ≤ q.1.x := by
  refine List.pairwise_filterMap.2 (pairwise_controlsFrom.imp ?_)
  intro c d hends p hp q hq
  obtain ⟨-, rfl⟩ := controlRegion?_eq_some harea.inner hp
  obtain ⟨-, rfl⟩ := controlRegion?_eq_some harea.inner hq
  simp only [Rect.right, satAdd]
  omega

/-- The controls in view are those of chips, in the order of the chips. -/
theorem sublist_chipRegions {v : View} (harea : area.InRange) :
    ((chipRegions area v).map (·.2)).Sublist (v.chips.map (·.dropdownId)) := by
  rw [← map_id_controlsFrom 0 v.items, chipRegions]
  induction controlsFrom 0 v.items with
  | nil => exact .slnil
  | cons c rest ih =>
      cases hc : controlRegion? (boxed.inner area) c with
      | none =>
          rw [List.filterMap_cons_none hc]
          exact ih.cons _
      | some p =>
          obtain ⟨-, rfl⟩ := controlRegion?_eq_some harea.inner hc
          rw [List.filterMap_cons_some hc]
          exact ih.cons_cons _

end Chips

/-! ## Rows -/

theorem inside_of_mem_optionRegions {area : Rect} {chip : Chip} {highlight : Nat} {loading : Bool}
    {p : Rect × Nat} (h : p ∈ optionRegions area chip highlight loading) :
    p.1.Inside (boxed.inner area) := by
  obtain ⟨region, number⟩ := p
  obtain ⟨-, line, hline, rfl, -⟩ := mem_optionRegions_iff.1 h
  exact Rect.inside_line hline

/-- Rows of the table lie below the line of the header. -/
theorem inside_of_mem_tableRegions {area : Rect} {suggestions : List Suggestion} {highlight : Nat}
    {p : Rect × Nat} (h : p ∈ tableRegions area suggestions highlight) :
    p.1.Inside (boxed.inner area) ∧ (boxed.inner area).y < p.1.y := by
  obtain ⟨region, number⟩ := p
  obtain ⟨line, hline, rfl, -⟩ := mem_tableRegions_iff.1 h
  obtain ⟨hleft, hright, htop, hbottom⟩ := Rect.inside_line (r := tableBody area) hline
  refine ⟨⟨hleft, hright, Nat.le_trans (Nat.le_succ _) htop, ?_⟩, htop⟩
  refine Nat.le_trans hbottom ?_
  simp only [tableBody, tableRoom, Rect.bottom, satAdd] at hline ⊢
  omega

end Panel

/-! ## Arithmetic with checks -/

namespace Terminal

/-- A sum, if it is a coordinate. -/
def add? (a b : Nat) : Option Nat := if a + b ≤ maxCoordinate then some (a + b) else none

/-- A difference, if there is one. -/
def sub? (a b : Nat) : Option Nat := if b ≤ a then some (a - b) else none

theorem add?_of_le {a b : Nat} (h : a + b ≤ maxCoordinate) : add? a b = some (a + b) := if_pos h

theorem sub?_of_le {a b : Nat} (h : b ≤ a) : sub? a b = some (a - b) := if_pos h

end Terminal

/-- Rows in view stand on lines that there is room for. -/
theorem Window.lt_of_mem_zipIdx_rows {xs : List α} {highlight size line : Nat} {row : α × Nat}
    (h : (row, line) ∈ (rows xs highlight size).zipIdx) : line < size := by
  rw [List.mem_zipIdx_iff_getElem?, getElem?_rows] at h
  split at h
  · assumption
  · cases h

namespace Panel

/-! ### Along a list -/

/-- If a step always succeeds, so do all steps along a list. -/
theorem mapM_eq_some {f : α → Option β} {g : α → β} {xs : List α}
    (h : ∀ a ∈ xs, f a = some (g a)) : xs.mapM f = some (xs.map g) := by
  induction xs with
  | nil => rfl
  | cons a xs ih =>
      rw [List.mapM_cons, h a List.mem_cons_self, ih fun b hb => h b (List.mem_cons_of_mem a hb)]
      rfl

theorem filterMapM_eq_some {f : α → Option (Option β)} {g : α → Option β} {xs : List α}
    (h : ∀ a ∈ xs, f a = some (g a)) : xs.filterMapM f = some (xs.filterMap g) := by
  induction xs with
  | nil => rfl
  | cons a xs ih =>
      rw [List.filterMapM_cons, h a List.mem_cons_self,
        ih fun b hb => h b (List.mem_cons_of_mem a hb), List.filterMap_cons]
      cases g a <;> rfl

/-! ### Regions and the cursor -/

/-- The region of a control, with checks. -/
def checkedControlRegion (inner : Rect) (c : Control) : Option (Option (Rect × Text)) :=
  let start := toCoordinate c.start
  if start < inner.width then do
    let x ← add? inner.x start
    let room ← sub? inner.right x
    some (some
      (.clamped x inner.y (min (toCoordinate c.width) room) (min 1 inner.height), c.id))
  else some none

/-- The regions of the controls in view, with checks. -/
def checkedChipRegions (area : Rect) (v : View) : Option (List (Rect × Text)) :=
  (controlsFrom 0 v.items).filterMapM (checkedControlRegion (boxed.inner area))

theorem checkedControlRegion_eq {inner : Rect} (hinner : inner.InRange) (c : Control) :
    checkedControlRegion inner c = some (controlRegion? inner c) := by
  obtain ⟨hright, -⟩ := hinner
  rw [checkedControlRegion, controlRegion?]
  dsimp only
  split
  · next hview =>
      have hroom : inner.x + toCoordinate c.start ≤ inner.right := by
        simp only [Rect.right, satAdd]
        omega
      rw [add?_of_le (by omega), Option.bind_eq_bind, Option.bind_some, sub?_of_le hroom,
        Option.bind_some]
  · rfl

theorem checkedChipRegions_eq {area : Rect} (harea : area.InRange) (v : View) :
    checkedChipRegions area v = some (chipRegions area v) :=
  filterMapM_eq_some fun c _ => checkedControlRegion_eq harea.inner c

/-- The regions of rows, each on its line, with the checks on the way to them. -/
def checkedRows (region? : Nat → Option Rect) (rows : List (α × Nat)) :
    Option (List (Rect × Nat)) :=
  rows.zipIdx.mapM fun row => (region? row.2).map (·, row.1.2)

theorem checkedRows_eq {region? : Nat → Option Rect} {region : Nat → Rect} {xs : List α}
    {highlight size : Nat} (h : ∀ line < size, region? line = some (region line)) :
    checkedRows region? (Window.rows xs highlight size) =
      some ((Window.rows xs highlight size).zipIdx.map fun ((_, number), line) =>
        (region line, number)) := by
  refine mapM_eq_some fun row hrow => ?_
  rw [h row.2 (Window.lt_of_mem_zipIdx_rows hrow)]
  rfl

/-- The region of the option on a line, with a check. -/
def checkedOptionRegion (inner : Rect) (line : Nat) : Option Rect := do
  let y ← add? inner.y (toCoordinate line)
  some (.clamped inner.x y inner.width 1)

/-- The regions of the options in view, with checks. -/
def checkedOptionRegions (area : Rect) (chip : Chip) (highlight : Nat) (loading : Bool) :
    Option (List (Rect × Nat)) :=
  let inner := boxed.inner area
  if loading then some []
  else checkedRows (checkedOptionRegion inner) (optionRows inner chip highlight)

theorem checkedOptionRegions_eq (anchor bounds : Rect) (chip : Chip) (highlight : Nat)
    (loading : Bool) :
    checkedOptionRegions (optionArea anchor bounds chip) chip highlight loading =
      some (optionRegions (optionArea anchor bounds chip) chip highlight loading) := by
  rw [checkedOptionRegions, optionRegions]
  dsimp only
  split
  · rfl
  · refine checkedRows_eq fun line hline => ?_
    have hbottom := bottom_inner_inter_le (Nat.zero_lt_of_lt hline)
    have hy : (boxed.inner (optionArea anchor bounds chip)).y + toCoordinate line ≤
        maxCoordinate := by
      refine Nat.le_trans ?_ hbottom
      exact Nat.add_le_add_left (Nat.le_trans (Nat.min_le_left ..) (Nat.le_of_lt hline)) _
    rw [checkedOptionRegion, add?_of_le hy]
    rfl

/-- The region of the row on a line below the header, with checks. -/
def checkedTableRowRegion (inner : Rect) (line : Nat) : Option Rect := do
  let top ← add? inner.y 1
  let y ← add? top (toCoordinate line)
  some (.clamped inner.x y inner.width 1)

/-- The regions of the rows in view, with checks. -/
def checkedTableRegions (area : Rect) (suggestions : List Suggestion) (highlight : Nat) :
    Option (List (Rect × Nat)) :=
  let inner := boxed.inner area
  checkedRows (checkedTableRowRegion inner) (tableRows inner suggestions highlight)

theorem checkedTableRegions_eq {area : Rect} (harea : area.InRange) (suggestions : List Suggestion)
    (highlight : Nat) :
    checkedTableRegions area suggestions highlight =
      some (tableRegions area suggestions highlight) := by
  refine checkedRows_eq fun line hline => ?_
  have hbottom := harea.inner.bottom_le
  have hy : (boxed.inner area).y + 1 + toCoordinate line ≤ maxCoordinate := by
    simp only [toCoordinate, tableRoom] at hline ⊢
    omega
  rw [checkedTableRowRegion, add?_of_le (by omega), Option.bind_eq_bind, Option.bind_some,
    add?_of_le hy]
  rfl

/-- The cell of the cursor, with checks. -/
def checkedCursor (l : InputLayout) (column : Nat) : Option (Option (Nat × Nat)) :=
  if l.text.isEmpty then some none
  else do
    let offset ← sub? column l.scroll
    let last ← sub? l.text.width 1
    let x ← add? l.text.x (min (toCoordinate offset) last)
    some (some (x, l.text.y))

theorem checkedCursor_eq {area : Rect} (harea : area.InRange) (column : Nat) :
    checkedCursor (inputLayout area column) column =
      some (inputCursor (inputLayout area column) column) := by
  have hright : (inputLayout area column).text.x + (inputLayout area column).text.width ≤
      maxCoordinate := harea.inner.right_le
  have hscroll : (inputLayout area column).scroll ≤ column := Window.start_le ..
  rw [checkedCursor, inputCursor]
  split
  · rfl
  · next hempty =>
      simp only [Rect.isEmpty, Bool.or_eq_true, beq_iff_eq, not_or] at hempty
      rw [sub?_of_le hscroll, Option.bind_eq_bind, Option.bind_some, sub?_of_le (by omega),
        Option.bind_some, add?_of_le (by omega)]
      rfl

end Panel
end FormulaPad
