import FormulaPad.Proofs.Panel.Regions
import FormulaPad.Proofs.Terminal.Cells
import FormulaPad.Editor.Basic

/-!
# FormulaPad.Proofs.Panel.Windows

Lists that are drawn in a room with too few lines for them.

The table and the list of options work alike: the room has as many lines as fit
inside the edges of the panel, for the table below the line of the header, and
the rows in view are drawn on them from the top down. The regions that are
recorded are these lines, and the row that is drawn as highlighted, the one that
the highlight stands for, is among them.

Main statements: `drawnIn_tableRegions` and `drawnIn_optionRegions` (in which
style each recorded line is drawn), and `windows_inView` (what is recorded and
drawn for every room, highlight and list).
-/

namespace FormulaPad

open Terminal

/-! ## Rows in view -/

namespace Window

variable {xs : List α} {highlight size : Nat}

/-- The highlighted row is in view, and no line stays empty while there are rows for it. -/
theorem start_bounds (highlight : Nat) (hsize : 0 < size) (hxs : xs ≠ []) :
    let first := start (rowOf highlight xs.length) size
    let shown := min xs.length size
    first ≤ rowOf highlight xs.length ∧ rowOf highlight xs.length < first + shown ∧
      first + shown ≤ xs.length := by
  have hlength : 0 < xs.length := List.length_pos_iff.2 hxs
  simp only [start, rowOf]
  omega

/-- On the lines of a list are its rows one after another. -/
theorem map_rows_eq (hsize : 0 < size) (hxs : xs ≠ []) (place : Nat → Rect) :
    ((rows xs highlight size).zipIdx.map fun ((_, number), line) => (place line, number)) =
      (List.range (min xs.length size)).map fun line =>
        (place line, start (rowOf highlight xs.length) size + line) := by
  obtain ⟨-, -, hlast⟩ := start_bounds highlight hsize hxs
  apply List.ext_getElem?
  intro line
  rw [List.getElem?_map, List.getElem?_map, List.getElem?_zipIdx, getElem?_rows]
  dsimp only
  by_cases hline : line < min xs.length size
  · have hlt : start (rowOf highlight xs.length) size + line < xs.length := by omega
    rw [if_pos (by omega), List.getElem?_range hline, List.getElem?_eq_getElem hlt]
    simp
  · have hlength : (List.range (min xs.length size)).length ≤ line := by
      rw [List.length_range]
      exact Nat.le_of_not_lt hline
    rw [List.getElem?_eq_none hlength]
    split
    · -- there is room for another line, but no row
      have hstart : start (rowOf highlight xs.length) size = 0 := by
        simp only [start, rowOf]
        omega
      rw [List.getElem?_eq_none (by omega)]
      rfl
    · rfl

end Window

namespace Terminal.Rect

/-! ## The inside of an area -/

variable {r : Rect}

theorem bottom_inner_le (h : r.y + r.height ≤ maxCoordinate) :
    (Panel.boxed.inner r).y + (Panel.boxed.inner r).height ≤ maxCoordinate := by
  simp only [Panel.boxed, Grid.Borders.inner, inset, bottom, satAdd, if_true]
  omega

theorem InRange.inner (h : r.InRange) : (Panel.boxed.inner r).InRange := by
  refine ⟨?_, bottom_inner_le h.bottom_le⟩
  have hright := h.right_le
  simp only [Panel.boxed, Grid.Borders.inner, inset, right, satAdd, if_true]
  omega

theorem width_inner_le (b : Grid.Borders) (r : Rect) : (b.inner r).width ≤ r.width :=
  Nat.le_trans (Nat.sub_le ..) (Nat.sub_le ..)

theorem height_inner_le (b : Grid.Borders) (r : Rect) : (b.inner r).height ≤ r.height :=
  Nat.le_trans (Nat.sub_le ..) (Nat.sub_le ..)

end Terminal.Rect

/-! ## Rooms -/

namespace Panel

/-- The regions are those of a list of `count` rows in a room: as many lines as there are rows, or
as the room has, one below the other from its top, with the numbers of successive rows, among
which is `row`. -/
def ShowsRows (regions : List (Rect × Nat)) (room : Rect) (count row : Nat) : Prop :=
  ∃ first, (first ≤ row ∧ row < first + min count room.height) ∧
    first + min count room.height ≤ count ∧
    regions = (List.range (min count room.height)).map fun line =>
      (⟨room.x, room.y + line, room.right - room.x, 1⟩, first + line)

/-- Of the recorded lines, the one of `row` is drawn as highlighted, and no other. -/
def MarksRow (g : Grid) (regions : List (Rect × Nat)) (row : Nat) : Prop :=
  ∀ region number, (region, number) ∈ regions → (g.DrawnIn region .selected ↔ number = row)

theorem ShowsRows.exists_region {regions : List (Rect × Nat)} {room : Rect} {count row : Nat}
    (h : ShowsRows regions room count row) : ∃ region, (region, row) ∈ regions := by
  obtain ⟨first, ⟨hfirst, hlast⟩, -, rfl⟩ := h
  have hline : row - first < min count room.height := by omega
  refine ⟨_, List.mem_map.2 ⟨row - first, List.mem_range.2 hline, Prod.ext rfl ?_⟩⟩
  exact Nat.add_sub_cancel' hfirst

/-- A line of a room is a whole line, as wide as the room. -/
theorem clamped_line_eq (room : Rect) {line : Nat} (hbottom : room.y + room.height ≤ maxCoordinate)
    (hline : line < room.height) :
    Rect.clamped room.x (room.y + toCoordinate line) room.width 1 =
      ⟨room.x, room.y + line, room.right - room.x, 1⟩ := by
  simp only [Rect.clamped, Rect.right, satAdd, toCoordinate, Rect.mk.injEq, true_and]
  omega

theorem clamped_line_eq_of_inRange {room : Rect} {line : Nat} (h : room.InRange)
    (hline : line < room.height) :
    Rect.clamped room.x (room.y + toCoordinate line) room.width 1 =
      ⟨room.x, room.y + line, room.width, 1⟩ := by
  have hwidth : room.right - room.x = room.width := by
    rw [Rect.right, satAdd, Nat.min_eq_left h.right_le, Nat.add_sub_cancel_left]
  rw [clamped_line_eq room h.bottom_le hline, hwidth]

theorem showsRows_map_rows (room : Rect) {xs : List α} {highlight : Nat}
    (hbottom : room.y + room.height ≤ maxCoordinate) (hroom : 0 < room.height) (hxs : xs ≠ []) :
    ShowsRows ((Window.rows xs highlight room.height).zipIdx.map fun ((_, number), line) =>
        (Rect.clamped room.x (room.y + toCoordinate line) room.width 1, number))
      room xs.length (Window.rowOf highlight xs.length) := by
  obtain ⟨hfirst, hrow, hlast⟩ := Window.start_bounds highlight hroom hxs
  refine ⟨_, ⟨hfirst, hrow⟩, hlast, ?_⟩
  refine (Window.map_rows_eq hroom hxs fun line =>
    .clamped room.x (room.y + toCoordinate line) room.width 1).trans ?_
  refine List.map_congr_left fun line hline => ?_
  have hlt : line < room.height := Nat.lt_of_lt_of_le (List.mem_range.1 hline) (Nat.min_le_right ..)
  rw [clamped_line_eq room hbottom hlt]

theorem rowStyle_eq_selected_iff (highlight count number : Nat) :
    rowStyle highlight count number = .selected ↔ number = Window.rowOf highlight count := by
  rw [rowStyle]
  split
  · next h => exact iff_of_true rfl h
  · next h => exact iff_of_false Style.selected_ne_text.symm h

theorem marksRow_of_drawnIn {g : Grid} {regions : List (Rect × Nat)} {highlight count : Nat}
    (h : ∀ region number, (region, number) ∈ regions →
      g.DrawnIn region (rowStyle highlight count number)) :
    MarksRow g regions (Window.rowOf highlight count) := by
  intro region number hmem
  have hdrawn := h region number hmem
  rw [← rowStyle_eq_selected_iff highlight count number]
  exact ⟨fun hselected => hdrawn.unique hselected, fun heq => heq ▸ hdrawn⟩

/-! ## The table -/

section Table

variable {area : Rect} {suggestions : List Suggestion} {highlight : Nat}

/-- The lines of the table inside its edges and below its header. -/
def tableBody (area : Rect) : Rect :=
  let inner := boxed.inner area
  ⟨inner.x, inner.y + 1, inner.width, tableRoom inner⟩

theorem bottom_tableBody_le (hbottom : area.y + area.height ≤ maxCoordinate)
    (hroom : 0 < tableRoom (boxed.inner area)) :
    (tableBody area).y + (tableBody area).height ≤ maxCoordinate := by
  have hinner : (boxed.inner area).y + (boxed.inner area).height ≤ maxCoordinate :=
    Rect.bottom_inner_le hbottom
  simp only [tableBody, tableRoom] at hroom ⊢
  omega

theorem showsRows_tableRegions (highlight : Nat) (hbottom : area.y + area.height ≤ maxCoordinate)
    (hroom : 0 < tableRoom (boxed.inner area)) (hne : suggestions ≠ []) :
    ShowsRows (tableRegions area suggestions highlight) (tableBody area) suggestions.length
      (Window.rowOf highlight suggestions.length) :=
  showsRows_map_rows (tableBody area) (bottom_tableBody_le hbottom hroom) hroom hne

/-- A line of the table has its style up to the cells that wide characters cover. -/
theorem paints_drawTableLine (g : Grid) (r : Rect) (style : Style) (cells : List Text) :
    Grid.Paints (fun _ v => v = r.y) (fun u s => r.x < u ∧ s = .plain) (g.fill r ⟨[' '], style⟩)
      (drawTableLine g r style cells) := by
  refine Grid.Paints.foldl (fun g p _ => ?_) _
  exact (Grid.paints_drawLabel g (r.x + p.1.1) r.y p.1.2 p.2).mono (fun _ _ h => h)
    fun _ _ _ _ hs => ⟨by omega, hs.2⟩

theorem paints_drawTableLine_all (g : Grid) {r : Rect} (style : Style) (cells : List Text)
    (hheight : r.height = 1) :
    Grid.Paints (fun _ v => v = r.y) Grid.anyStyle g (drawTableLine g r style cells) := by
  have hfill : Grid.Paints (fun _ v => v = r.y) Grid.anyStyle g (g.fill r ⟨[' '], style⟩) :=
    (Grid.paints_fill g r _).mono (fun _ v h => by omega) fun _ _ _ _ _ => trivial
  exact hfill.trans
    ((paints_drawTableLine g r style cells).mono (fun _ _ h => h) fun _ _ _ _ _ => trivial)

theorem drawnIn_drawTableLine {g : Grid} {r : Rect} (style : Style) (cells : List Text)
    (hr : r.InRange) (hwidth : 0 < r.width) (hheight : r.height = 1)
    (hcell : ∀ u, r.contains u r.y = true → (g.cell? u r.y).isSome = true) :
    (drawTableLine g r style cells).DrawnIn r style := by
  have hpaints := paints_drawTableLine g r style cells
  have hfilled (u : Nat) (hu : r.contains u r.y = true) :
      (g.fill r ⟨[' '], style⟩).style? u r.y = some style := by
    obtain ⟨c, hc⟩ := Option.isSome_iff_exists.1 (hcell u hu)
    obtain ⟨⟨hleft, hright⟩, -, -⟩ := Rect.contains_iff.1 hu
    simp only [Rect.right, satAdd] at hright
    rw [Grid.style?, Grid.cell?_fill, if_pos (by omega), hc]
    rfl
  have hfirst : r.contains r.x r.y = true := hr.contains_iff.2 (by omega)
  constructor
  · cases hpaints.style?_eq_or r.x r.y with
    | inl hsame => exact hsame.trans (hfilled r.x hfirst)
    | inr hnew =>
        obtain ⟨_, ⟨hlt, -⟩, -⟩ := hnew
        omega
  · intro u hu
    cases hpaints.style?_eq_or u r.y with
    | inl hsame => exact .inl (hsame.trans (hfilled u hu))
    | inr hnew =>
        obtain ⟨_, ⟨-, rfl⟩, heq⟩ := hnew
        exact .inr heq

/-- A line of the table, counted from the header. -/
def tableLine (inner : Rect) (n : Nat) : Rect := ⟨inner.x, inner.y + n, inner.width, 1⟩

/-- Draw one of the rows in view, the one on the line with this number below the header. -/
def drawTableRow (inner : Rect) (count highlight : Nat) (g : Grid)
    (row : (Suggestion × Nat) × Nat) : Grid :=
  drawTableLine g (tableLine inner (row.2 + 1)) (rowStyle highlight count row.1.2)
    (suggestionCells row.1.1)

theorem drawTableRows_eq (g : Grid) {inner : Rect} (h : inner.isEmpty = false) :
    drawTableRows g inner suggestions highlight =
      (tableRows inner suggestions highlight).zipIdx.foldl
        (drawTableRow inner suggestions.length highlight)
        (drawTableLine g (tableLine inner 0) .header tableHeader) := by
  rw [drawTableRows, h]
  rfl

theorem paints_drawTableRow (inner : Rect) (count highlight : Nat) (g : Grid)
    (row : Suggestion × Nat) (n : Nat) :
    Grid.Paints (fun _ v => v = inner.y + 1 + n) Grid.anyStyle g
      (drawTableRow inner count highlight g (row, n)) :=
  (paints_drawTableLine_all g _ _ rfl).mono (fun _ v h => by simp only [tableLine] at h; omega)
    fun _ _ _ _ hs => hs

/-- Each row in view is drawn in its style on its line below the header. -/
theorem drawnIn_drawTableRows {g : Grid} {inner : Rect} {s : Suggestion} {line number : Nat}
    (hrow : (tableRows inner suggestions highlight)[line]? = some (s, number))
    (hinner : inner.InRange) (hwidth : 0 < inner.width) (hline : line + 1 < inner.height)
    (hcell : ∀ u v, inner.contains u v = true → (g.cell? u v).isSome = true) :
    (drawTableRows g inner suggestions highlight).DrawnIn
      ⟨inner.x, inner.y + 1 + line, inner.width, 1⟩
      (rowStyle highlight suggestions.length number) := by
  obtain ⟨hright, hbottom⟩ := hinner
  have hinside : inner.isEmpty = false := by
    simp only [Rect.isEmpty, Bool.or_eq_false_iff, beq_eq_false_iff_ne]
    omega
  have hplace : tableLine inner (line + 1) = ⟨inner.x, inner.y + 1 + line, inner.width, 1⟩ := by
    rw [tableLine, Nat.add_assoc, Nat.add_comm 1 line]
  obtain ⟨before, hbefore, hafter⟩ :=
    Grid.cell?_foldl_lines (paints_drawTableRow inner suggestions.length highlight) hrow 0
      (drawTableLine g (tableLine inner 0) .header tableHeader)
  rw [Nat.zero_add] at hbefore hafter
  have hdrawn : (drawTableRow inner suggestions.length highlight before
      ((s, number), line)).DrawnIn (tableLine inner (line + 1))
      (rowStyle highlight suggestions.length number) := by
    rw [drawTableRow, hplace]
    refine drawnIn_drawTableLine _ _ ⟨hright, by dsimp only; omega⟩ hwidth rfl fun u hu => ?_
    rw [hbefore]
    refine (paints_drawTableLine_all g _ _ rfl).isSome_cell? (hcell u _ ?_)
    obtain ⟨hx, -⟩ := Rect.contains_iff.1 hu
    refine Rect.contains_iff.2 ⟨hx, ?_⟩
    simp only [Rect.bottom, satAdd]
    omega
  rw [drawTableRows_eq g hinside]
  rw [hplace] at hdrawn
  exact hdrawn.congr hafter

/-- Each recorded line of the table is drawn in the style of its row. -/
theorem drawnIn_tableRegions {g : Grid} (hg : g.Holds area)
    (hroom : 0 < tableRoom (boxed.inner area)) (hwidth : 0 < (boxed.inner area).width)
    {region : Rect} {number : Nat}
    (hmem : (region, number) ∈ tableRegions area suggestions highlight) :
    (drawTable g area (some suggestions) highlight).DrawnIn region
      (rowStyle highlight suggestions.length number) := by
  obtain ⟨line, hline, rfl, hlt, hnumber⟩ := mem_tableRegions_iff.1 hmem
  have hbody : (tableBody area).InRange :=
    ⟨hg.inRange.inner.right_le, bottom_tableBody_le hg.inRange.bottom_le hroom⟩
  have hregion : tableRowRegion (boxed.inner area) line =
      ⟨(boxed.inner area).x, (boxed.inner area).y + 1 + line, (boxed.inner area).width, 1⟩ :=
    clamped_line_eq_of_inRange hbody hline
  have hrow : (tableRows (boxed.inner area) suggestions highlight)[line]? =
      some (suggestions[number], number) := by
    rw [tableRows, Window.getElem?_rows, if_pos hline]
    dsimp only
    rw [← hnumber, List.getElem?_eq_getElem hlt]
    rfl
  have hdraw : drawTable g area (some suggestions) highlight =
      drawTableRows (g.drawBlock area boxed tableTitle) (boxed.inner area) suggestions
        highlight := by
    cases suggestions with
    | nil => cases hlt
    | cons s rest => simp only [drawTable, Option.getD_some, hg.inter_bounds]
  rw [hdraw, hregion]
  refine drawnIn_drawTableRows hrow hg.inRange.inner hwidth ?_ fun u v hcell => ?_
  · simp only [tableRoom] at hline
    omega
  · exact (Grid.paints_drawBlock ..).isSome_cell? (hg.isSome_cell? u v (Rect.contains_inset hcell))

end Table

/-! ## The list of options -/

section Options

variable {anchor bounds : Rect} {chip : Chip} {highlight : Nat}

/-- What is cut off at an edge ends there, so its inside, if it has a line, ends within the range of
coordinates. -/
theorem bottom_inner_inter_le {r s : Rect} (h : 0 < (boxed.inner (r.inter s)).height) :
    (boxed.inner (r.inter s)).y + (boxed.inner (r.inter s)).height ≤ maxCoordinate := by
  simp only [boxed, Grid.Borders.inner, Rect.inset, Rect.inter, Rect.bottom, satAdd, if_true]
    at h ⊢
  omega

theorem showsRows_optionRegions
    (hroom : 0 < (boxed.inner (optionArea anchor bounds chip)).height) (hne : chip.options ≠ []) :
    ShowsRows (optionRegions (optionArea anchor bounds chip) chip highlight false)
      (boxed.inner (optionArea anchor bounds chip)) chip.options.length
      (Window.rowOf highlight chip.options.length) := by
  exact showsRows_map_rows _ (bottom_inner_inter_le hroom) hroom hne

/-! ### Drawing -/

/-- The mark before an option, or the blank in its place. -/
theorem exists_optionLabel_eq (o : ChipOption) :
    ∃ mark, (mark = '✓' ∨ mark = ' ') ∧ optionLabel o = mark :: ' ' :: o.value := by
  rw [optionLabel]
  split
  · exact ⟨_, .inl rfl, rfl⟩
  · exact ⟨_, .inr rfl, rfl⟩

/-- A blank begins a unit of its own, so the mark before it is one, which takes one cell. -/
theorem visibleGlyphs_optionLabel (o : ChipOption) (style : Style) :
    ∃ glyph rest, Span.visibleGlyphs (Span.lines ⟨optionLabel o, style⟩) = glyph :: rest ∧
      glyph.width = 1 := by
  obtain ⟨mark, hmark, hlabel⟩ := exists_optionLabel_eq o
  have hfeed : mark ≠ '\n' := by obtain rfl | rfl := hmark <;> decide
  have hreturn : mark ≠ '\r' := by obtain rfl | rfl := hmark <;> decide
  have hblank : Text.continues [mark] ' ' = false := by
    obtain rfl | rfl := hmark <;> decide +kernel
  have hwidth : Text.width [mark] = 1 := by obtain rfl | rfl := hmark <;> decide +kernel
  refine ⟨⟨[mark], 1, style⟩, ?_⟩
  rw [Span.lines, hlabel, Text.splitLines_cons hfeed hreturn,
    Text.splitLines_cons (by decide) (by decide)]
  simp [Span.visibleGlyphs, Span.glyphs, drawnUnits, Text.clusters, Text.clustersFrom, hblank,
    hwidth, hfeed]

/-- Inside its edges a block leaves the plain cells of a cleared area. -/
theorem style?_drawBlock_fill {g : Grid} {area : Rect} (hg : g.Holds area) (title : Span)
    {u v : Nat} (hcell : (boxed.inner area).contains u v = true) :
    ((g.fill area {}).drawBlock area boxed title).style? u v = some .plain := by
  obtain ⟨c, hc⟩ := Option.isSome_iff_exists.1 (hg.isSome_cell? u v (Rect.contains_inset hcell))
  obtain ⟨hright, hbottom⟩ := hg.inRange
  have hinter : area.inter (g.fill area {}).bounds = area := by
    rw [(Grid.paints_fill g area {}).bounds_eq, hg.inter_bounds]
  obtain ⟨hu, hv⟩ := Rect.contains_iff.1 hcell
  simp only [boxed, Grid.Borders.inner, Rect.inset, Rect.right, Rect.bottom, satAdd, if_true]
    at hu hv
  -- which coordinate is the greatest does not matter
  generalize maxCoordinate = m at hright hbottom hu hv
  have hedge : ¬ Grid.OnEdge area u v := by
    simp only [Grid.OnEdge]
    omega
  have hblock := (Grid.paints_drawBlock (g.fill area {}) area boxed title).cell?_eq u v
    fun h => hedge (hinter ▸ h.1)
  rw [Grid.style?, hblock, Grid.cell?_fill, if_pos (by omega), hc]
  rfl

/-- Each recorded line of the list is drawn in the style of its option. -/
theorem drawnIn_optionRegions {g : Grid} {area : Rect} (hg : g.Holds area)
    (hwidth : 0 < (boxed.inner area).width) {region : Rect} {number : Nat}
    (hmem : (region, number) ∈ optionRegions area chip highlight false) :
    (drawOptions g area chip highlight false).DrawnIn region
      (rowStyle highlight chip.options.length number) := by
  obtain ⟨-, line, hline, rfl, hlt, hnumber⟩ := mem_optionRegions_iff.1 hmem
  have hinner := hg.inRange.inner
  have hregion : optionRegion (boxed.inner area) line =
      ⟨(boxed.inner area).x, (boxed.inner area).y + line, (boxed.inner area).width, 1⟩ :=
    clamped_line_eq_of_inRange hinner hline
  have hrow : (optionLines (boxed.inner area) chip highlight)[line]? =
      some (Span.lines ⟨optionLabel chip.options[number],
        rowStyle highlight chip.options.length number⟩) := by
    rw [optionLines, List.getElem?_map, optionRows, Window.getElem?_rows, if_pos hline]
    dsimp only
    rw [← hnumber, List.getElem?_eq_getElem hlt]
    rfl
  have hsome : chip.options.isEmpty = false := by
    rw [List.isEmpty_eq_false_iff]
    exact List.ne_nil_of_length_pos (Nat.zero_lt_of_lt hlt)
  have hinter : area.inter (g.fill area {}).bounds = area := by
    rw [(Grid.paints_fill g area {}).bounds_eq, hg.inter_bounds]
  obtain ⟨glyph, rest, hglyphs, hone⟩ :=
    visibleGlyphs_optionLabel chip.options[number] (rowStyle highlight chip.options.length number)
  rw [hregion, drawOptions, drawPanel, hg.inter_bounds, hinter, hsome]
  refine Grid.drawnIn_drawLines hrow hline (fun span hspan => ?_) hglyphs (by omega) (by omega)
    hinner fun u v => style?_drawBlock_fill hg _
  obtain ⟨_, -, rfl⟩ := List.mem_map.1 hspan
  rfl

end Options

/-! ## In view -/

/-- For every size, highlight and list, a table or a list of options with room for a row records
as many rows as it has and room for, on lines one below the other, among them the one that is
drawn as highlighted. In the table this is the row that is taken with the same highlight. -/
theorem windows_inView :
    (∀ (area : Rect) (suggestions : List Suggestion) (highlight : Nat),
      area.y + area.height ≤ maxCoordinate → 0 < tableRoom (boxed.inner area) →
      suggestions ≠ [] →
      ∃ row s, suggestions[row]? = some s ∧
        ShowsRows (tableRegions area suggestions highlight) (tableBody area) suggestions.length
          row ∧
        (∀ g : Grid, g.Holds area → 0 < (boxed.inner area).width →
          MarksRow (drawTable g area (some suggestions) highlight)
            (tableRegions area suggestions highlight) row) ∧
        ∀ e : Editor, e.tableOpen = true → e.tableRow = highlight →
          e.enter suggestions = e.selectSuggestion s) ∧
    ∀ (anchor bounds : Rect) (chip : Chip) (highlight : Nat), chip.options ≠ [] →
      let area := optionArea anchor bounds chip
      0 < (boxed.inner area).height →
      ∃ row o, chip.options[row]? = some o ∧
        ShowsRows (optionRegions area chip highlight false) (boxed.inner area) chip.options.length
          row ∧
        ∀ g : Grid, g.Holds bounds → 0 < (boxed.inner area).width →
          MarksRow (drawOptions g area chip highlight false)
            (optionRegions area chip highlight false) row := by
  constructor
  · intro area suggestions highlight hbottom hroom hne
    have hrow : Window.rowOf highlight suggestions.length < suggestions.length :=
      Window.rowOf_lt highlight (List.length_pos_iff.2 hne)
    refine ⟨_, suggestions[_], List.getElem?_eq_getElem hrow,
      showsRows_tableRegions highlight hbottom hroom hne, fun g hg hwidth => ?_,
      fun e hopen hhighlight => ?_⟩
    · exact marksRow_of_drawnIn fun _ _ => drawnIn_tableRegions hg hroom hwidth
    · subst hhighlight
      rw [Editor.enter, hopen, List.getElem?_eq_getElem hrow]
      rfl
  · intro anchor bounds chip highlight hne area hroom
    have hrow : Window.rowOf highlight chip.options.length < chip.options.length :=
      Window.rowOf_lt highlight (List.length_pos_iff.2 hne)
    refine ⟨_, chip.options[_], List.getElem?_eq_getElem hrow,
      showsRows_optionRegions hroom hne, fun g hg hwidth => ?_⟩
    have harea : g.Holds area := hg.inter
      (Nat.lt_of_lt_of_le hwidth (Rect.width_inner_le boxed area))
      (Nat.lt_of_lt_of_le hroom (Rect.height_inner_le boxed area))
    exact marksRow_of_drawnIn fun _ _ => drawnIn_optionRegions harea hwidth

/-- A table with room for two of three rows, and a list with room for one of three options, both
with the highlight beyond the last one. -/
theorem windows_inView_scrolled :
    let suggestions : List Suggestion := ["rent", "rate", "tax"].map fun name =>
      ⟨name.toList, name.toList, "flat".toList, .text "7".toList⟩
    let chip : Chip := ⟨0, "rent".toList, none, true,
      suggestions.map fun s => ⟨s.id, s.valueText, false⟩⟩
    let table : Rect := ⟨0, 2, 40, 5⟩
    let bounds : Rect := ⟨0, 0, 40, 5⟩
    let list := optionArea ⟨30, 1, 8, 1⟩ bounds chip
    tableRoom (boxed.inner table) = 2 ∧ (boxed.inner list).height = 1 ∧
      (∃ row s, suggestions[row]? = some s ∧
        ShowsRows (tableRegions table suggestions 9) (tableBody table) 3 row ∧
        MarksRow (drawTable (.blank 40 7) table (some suggestions) 9)
          (tableRegions table suggestions 9) row ∧
        ({ tableOpen := true, tableRow := 9 } : Editor).enter suggestions =
          ({ tableOpen := true, tableRow := 9 } : Editor).selectSuggestion s) ∧
      ∃ row o, chip.options[row]? = some o ∧
        ShowsRows (optionRegions list chip 9 false) (boxed.inner list) 3 row ∧
        MarksRow (drawOptions (.blank 40 7) list chip 9 false) (optionRegions list chip 9 false)
          row := by
  intro suggestions chip table bounds list
  have htable : (Grid.blank 40 7).Holds table :=
    Grid.holds_blank (by decide) (by decide) (by decide) (by decide)
  have hbounds : (Grid.blank 40 7).Holds bounds :=
    Grid.holds_blank (by decide) (by decide) (by decide) (by decide)
  obtain ⟨row, s, hs, hshows, hmarks, henter⟩ :=
    windows_inView.1 table suggestions 9 (by decide) (by decide) (by decide)
  obtain ⟨number, o, ho, hlists, hdrawn⟩ :=
    windows_inView.2 ⟨30, 1, 8, 1⟩ bounds chip 9 (by decide) (by decide)
  exact ⟨by decide, by decide,
    ⟨row, s, hs, hshows, hmarks _ htable (by decide), henter _ rfl rfl⟩,
    ⟨number, o, ho, hlists, hdrawn _ hbounds (by decide)⟩⟩

end Panel
end FormulaPad
