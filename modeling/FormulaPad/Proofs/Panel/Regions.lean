import FormulaPad.Panel.ChipRow
import FormulaPad.Panel.OptionList
import FormulaPad.Widget.Region

/-!
# FormulaPad.Proofs.Panel.Regions

The cells of the regions that the panels record.

A region is cut off at the greatest coordinate, and a cell that is in it all the
same tells which line it is on. So the regions of the rows of a list do not meet,
and the row that is found at a cell is the one whose region has the cell.

Main statements: `findAt_optionRegions` and `findAt_tableRegions` (the row at a
cell), `contains_of_mem_optionRegions`, `contains_of_mem_tableRegions` and
`contains_of_mem_chipRegions` (regions lie in the area of their panel).
-/

namespace FormulaPad

open Terminal

/-! ## Cells -/

namespace Terminal.Rect

variable {r : Rect} {x y : Nat}

theorem contains_iff :
    r.contains x y = true ↔ (r.x ≤ x ∧ x < r.right) ∧ r.y ≤ y ∧ y < r.bottom := by
  simp [contains, and_assoc]

/-- One coordinate of `contains_inset`: from `a` on `m` places, with or without the first and the
last one. -/
theorem lt_satAdd_of_lt_inset {a m x : Nat} {near far : Bool}
    (hl : (if near then min (satAdd a 1) (satAdd a m) else a) ≤ x)
    (hr : x < satAdd (if near then min (satAdd a 1) (satAdd a m) else a)
      (m - (if near then 1 else 0) - (if far then 1 else 0))) :
    a ≤ x ∧ x < satAdd a m := by
  simp only [satAdd] at hl hr ⊢
  cases near <;> simp only [Bool.false_eq_true, if_false, if_true] at hl hr <;> omega

/-- A cell of the inside is a cell of the rectangle. -/
theorem contains_inset {left top right bottom : Bool}
    (h : (r.inset left top right bottom).contains x y = true) : r.contains x y = true := by
  obtain ⟨⟨hl, hr⟩, ht, hb⟩ := contains_iff.1 h
  exact contains_iff.2 ⟨lt_satAdd_of_lt_inset hl hr, lt_satAdd_of_lt_inset ht hb⟩

theorem contains_line_iff {left top width : Nat} :
    (clamped left top width 1).contains x y = true ↔
      (left ≤ x ∧ x < satAdd left width) ∧ y = top ∧ y < maxCoordinate := by
  simp only [contains_iff, clamped, right, bottom, satAdd]
  -- which coordinate is the greatest does not matter
  generalize maxCoordinate = m
  omega

/-- A cell of a line tells which line it is, although the coordinates of lines are cut off. -/
theorem eq_add_of_contains_line {left top width line : Nat}
    (h : (clamped left (top + toCoordinate line) width 1).contains x y = true) :
    y = top + line := by
  obtain ⟨-, hy, hlt⟩ := contains_line_iff.1 h
  simp only [toCoordinate] at hy
  omega

/-- The lines of a rectangle lie in it. -/
theorem contains_of_contains_line {n : Nat} (hn : n < r.height)
    (h : (clamped r.x (r.y + n) r.width 1).contains x y = true) : r.contains x y = true := by
  obtain ⟨hx, hy, hlt⟩ := contains_line_iff.1 h
  refine contains_iff.2 ⟨hx, ?_⟩
  simp only [bottom, satAdd]
  omega

end Terminal.Rect

/-! ## Finding a region -/

namespace Widget

/-- If all regions that have the cell say the same, this is what is found. -/
theorem findAt_eq_some {regions : List (Rect × α)} {region : Rect} {a : α} {x y : Nat}
    (hmem : (region, a) ∈ regions) (hcell : region.contains x y = true)
    (hsame : ∀ other b, (other, b) ∈ regions → other.contains x y = true → b = a) :
    findAt x y regions = some a := by
  have hfound : (regions.find? (·.1.contains x y)).isSome = true :=
    List.find?_isSome.2 ⟨(region, a), hmem, hcell⟩
  obtain ⟨⟨other, b⟩, hfind⟩ := Option.isSome_iff_exists.1 hfound
  rw [findAt, hfind, Option.map_some]
  have hcell' : other.contains x y = true :=
    List.find?_some (p := fun p : Rect × α => p.1.contains x y) hfind
  exact congrArg some (hsame other b (List.mem_of_find?_eq_some hfind) hcell')

/-- Nothing is found where no region has the cell. -/
theorem findAt_eq_none_iff {regions : List (Rect × α)} {x y : Nat} :
    findAt x y regions = none ↔ ∀ region a, (region, a) ∈ regions → ¬ region.contains x y = true := by
  simp [findAt]

end Widget

namespace Panel

variable {area region : Rect} {x y number : Nat}

/-! ## Rows -/

section Rows

variable {xs : List α} {highlight size : Nat} {place : Nat → Rect}

/-- The regions of the rows of a list, each at the place of its line. -/
theorem mem_map_rows_iff :
    (region, number) ∈ ((Window.rows xs highlight size).zipIdx.map fun ((_, number), line) =>
        (place line, number)) ↔
      ∃ line < size, region = place line ∧ number < xs.length ∧
        number = Window.start (Window.rowOf highlight xs.length) size + line := by
  simp only [List.mem_map, Prod.exists, List.mem_zipIdx_iff_getElem?, Window.getElem?_rows]
  constructor
  · rintro ⟨a, n, line, hrow, heq⟩
    obtain ⟨rfl, rfl⟩ := Prod.mk.inj heq
    split at hrow
    · next hline =>
        obtain ⟨b, hget, hb⟩ := Option.map_eq_some_iff.1 hrow
        obtain ⟨rfl, rfl⟩ := Prod.mk.inj hb
        exact ⟨line, hline, rfl, (List.getElem?_eq_some_iff.1 hget).1, rfl⟩
    · cases hrow
  · rintro ⟨line, hline, rfl, hlt, rfl⟩
    refine ⟨xs.get ⟨_, hlt⟩, _, line, ?_, rfl⟩
    rw [if_pos hline, List.getElem?_eq_getElem hlt]
    rfl

/-- If a cell tells the line of the row it is on, the row that is found at it is this one. -/
theorem findAt_map_rows {top : Nat}
    (hplace : ∀ line, (place line).contains x y = true → y = top + line)
    (hmem : (region, number) ∈ ((Window.rows xs highlight size).zipIdx.map
      fun ((_, number), line) => (place line, number)))
    (hcell : region.contains x y = true) :
    Widget.findAt x y ((Window.rows xs highlight size).zipIdx.map
      fun ((_, number), line) => (place line, number)) = some number := by
  refine Widget.findAt_eq_some hmem hcell fun other b hother hcell' => ?_
  obtain ⟨line, -, rfl, -, rfl⟩ := mem_map_rows_iff.1 hmem
  obtain ⟨line', -, rfl, -, rfl⟩ := mem_map_rows_iff.1 hother
  have hline := hplace line hcell
  have hline' := hplace line' hcell'
  omega

end Rows

/-! ## Options -/

section Options

variable {chip : Chip} {highlight : Nat} {loading : Bool}

/-- Regions of options are recorded once the suggestions are there, and for the rows in view. -/
theorem mem_optionRegions_iff :
    (region, number) ∈ optionRegions area chip highlight loading ↔
      loading = false ∧ ∃ line < (boxed.inner area).height,
        region = optionRegion (boxed.inner area) line ∧ number < chip.options.length ∧
          number = Window.start (Window.rowOf highlight chip.options.length)
            (boxed.inner area).height + line := by
  rw [optionRegions]
  cases loading with
  | true => simp
  | false => exact (and_iff_right rfl).symm.trans (and_congr_right fun _ => mem_map_rows_iff)

/-- The regions of the options lie in the area of the list. -/
theorem contains_of_mem_optionRegions
    (hmem : (region, number) ∈ optionRegions area chip highlight loading)
    (hcell : region.contains x y = true) : area.contains x y = true := by
  obtain ⟨-, line, hline, rfl, -⟩ := mem_optionRegions_iff.1 hmem
  have hinner : toCoordinate line < (boxed.inner area).height := by
    simp only [toCoordinate]
    omega
  exact Rect.contains_inset (Rect.contains_of_contains_line hinner hcell)

/-- The option that is found at a cell is the one whose region has the cell. -/
theorem findAt_optionRegions
    (hmem : (region, number) ∈ optionRegions area chip highlight loading)
    (hcell : region.contains x y = true) :
    Widget.findAt x y (optionRegions area chip highlight loading) = some number := by
  obtain rfl := (mem_optionRegions_iff.1 hmem).1
  exact findAt_map_rows (fun _ => Rect.eq_add_of_contains_line) hmem hcell

end Options

/-! ## Rows of the table -/

section Table

variable {suggestions : List Suggestion} {highlight : Nat}

theorem mem_tableRegions_iff :
    (region, number) ∈ tableRegions area suggestions highlight ↔
      ∃ line < tableRoom (boxed.inner area),
        region = tableRowRegion (boxed.inner area) line ∧ number < suggestions.length ∧
          number = Window.start (Window.rowOf highlight suggestions.length)
            (tableRoom (boxed.inner area)) + line :=
  mem_map_rows_iff

/-- The regions of the rows lie in the area of the table. -/
theorem contains_of_mem_tableRegions
    (hmem : (region, number) ∈ tableRegions area suggestions highlight)
    (hcell : region.contains x y = true) : area.contains x y = true := by
  obtain ⟨line, hline, rfl, -⟩ := mem_tableRegions_iff.1 hmem
  have hinner : 1 + toCoordinate line < (boxed.inner area).height := by
    simp only [tableRoom, toCoordinate] at hline ⊢
    omega
  rw [tableRowRegion, Nat.add_assoc] at hcell
  exact Rect.contains_inset (Rect.contains_of_contains_line hinner hcell)

/-- The row that is found at a cell is the one whose region has the cell. -/
theorem findAt_tableRegions
    (hmem : (region, number) ∈ tableRegions area suggestions highlight)
    (hcell : region.contains x y = true) :
    Widget.findAt x y (tableRegions area suggestions highlight) = some number :=
  findAt_map_rows (fun _ => Rect.eq_add_of_contains_line) hmem hcell

end Table

/-! ## Controls of chips -/

/-- The regions of the controls lie in the area of the row of chips. -/
theorem contains_of_mem_chipRegions {v : View} {id : Text}
    (hmem : (region, id) ∈ chipRegions area v) (hcell : region.contains x y = true) :
    area.contains x y = true := by
  obtain ⟨c, -, hc⟩ := List.mem_filterMap.1 hmem
  refine Rect.contains_inset (?_ : (boxed.inner area).contains x y = true)
  rw [controlRegion?] at hc
  split at hc
  · obtain ⟨rfl, -⟩ := Prod.mk.inj (Option.some.inj hc)
    simp only [Rect.contains_iff, Rect.clamped, Rect.right, Rect.bottom, satAdd] at hcell ⊢
    omega
  · cases hc

end Panel
end FormulaPad
