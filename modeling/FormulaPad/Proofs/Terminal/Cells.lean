import FormulaPad.Panel.Frame

/-!
# FormulaPad.Proofs.Terminal.Cells

What drawing leaves on the cells of a screen.

All drawing sets single cells, so it is described by the cells that it may change
and the styles that it may give them: `Paints`. Drawing one thing after another
paints what either paints, which carries the statements from single cells to
labels, spans and edges. Lines that are drawn one below the other do not touch
each other, so each is found as if it had been drawn alone.

Main statements: `paints_drawLabel` (a label leaves the style of its first cell),
`paints_drawBlock` (only the edges), `cell?_foldl_lines` (lines one below the
other) and `drawnIn_drawLines` (each is drawn in the style of its spans).
-/

namespace FormulaPad.Terminal

/-- The far edges of the area are coordinates. -/
structure Rect.InRange (r : Rect) : Prop where
  right_le : r.x + r.width ≤ maxCoordinate
  bottom_le : r.y + r.height ≤ maxCoordinate

/-- No coordinate of such an area is cut off. -/
theorem Rect.InRange.contains_iff {r : Rect} (h : r.InRange) {x y : Nat} :
    r.contains x y = true ↔
      (r.x ≤ x ∧ x < r.x + r.width) ∧ r.y ≤ y ∧ y < r.y + r.height := by
  obtain ⟨hright, hbottom⟩ := h
  simp only [contains, right, bottom, satAdd, Nat.min_eq_left hright, Nat.min_eq_left hbottom,
    Bool.and_eq_true, decide_eq_true_eq, and_assoc]

namespace Grid

/-! ## What may change -/

/-- The style of a cell, if it is on the screen. -/
def style? (g : Grid) (x y : Nat) : Option Style := (g.cell? x y).map (·.style)

/-- From one screen to the other, only cells of which `P` holds have changed, and a cell that has
got another style has got one of `S`. -/
structure Paints (P : Nat → Nat → Prop) (S : Nat → Style → Prop) (g g' : Grid) : Prop where
  bounds_eq : g'.bounds = g.bounds
  cell?_eq : ∀ u v, ¬ P u v → g'.cell? u v = g.cell? u v
  style?_eq_or : ∀ u v, g'.style? u v = g.style? u v ∨ ∃ s, S u s ∧ g'.style? u v = some s

/-- Any style may be given. -/
def anyStyle : Nat → Style → Prop := fun _ _ => True

variable {P P' : Nat → Nat → Prop} {S S' : Nat → Style → Prop} {g g' g'' : Grid}

theorem Paints.refl (g : Grid) : Paints P S g g :=
  ⟨rfl, fun _ _ _ => rfl, fun _ _ => .inl rfl⟩

theorem Paints.trans (h : Paints P S g g') (h' : Paints P S g' g'') : Paints P S g g'' := by
  refine ⟨h'.bounds_eq.trans h.bounds_eq,
    fun u v hP => (h'.cell?_eq u v hP).trans (h.cell?_eq u v hP), fun u v => ?_⟩
  cases h'.style?_eq_or u v with
  | inl hsame =>
      rw [hsame]
      exact h.style?_eq_or u v
  | inr hnew => exact .inr hnew

theorem Paints.mono (h : Paints P S g g') (hP : ∀ u v, P u v → P' u v)
    (hS : ∀ u v s, P u v → S u s → S' u s) : Paints P' S' g g' := by
  refine ⟨h.bounds_eq, fun u v hne => h.cell?_eq u v fun hp => hne (hP u v hp), fun u v => ?_⟩
  by_cases hp : P u v
  · exact (h.style?_eq_or u v).imp_right fun ⟨s, hs, heq⟩ => ⟨s, hS u v s hp hs, heq⟩
  · exact .inl (by rw [style?, style?, h.cell?_eq u v hp])

theorem Paints.foldl {xs : List α} {f : Grid → α → Grid}
    (h : ∀ g, ∀ a ∈ xs, Paints P S g (f g a)) (g : Grid) : Paints P S g (xs.foldl f g) := by
  induction xs generalizing g with
  | nil => exact .refl g
  | cons a xs ih =>
      have hfirst : Paints P S g (f g a) := h g a List.mem_cons_self
      exact hfirst.trans (ih (fun g b hb => h g b (List.mem_cons_of_mem a hb)) (f g a))

/-! ## Single cells -/

theorem paints_put (g : Grid) (x y : Nat) (c : Cell) :
    Paints (fun u v => u = x ∧ v = y) (fun _ s => s = c.style) g (g.put x y c) := by
  refine ⟨rfl, fun u v hne => ?_, fun u v => ?_⟩
  · rw [cell?_put, if_neg hne]
  · rw [style?, style?, cell?_put]
    split
    · cases g.cell? u v <;> simp
    · exact .inl rfl

/-- A new symbol on a cell leaves its style. -/
theorem paints_modifySymbol (g : Grid) (x y : Nat) (f : Text → Text) :
    Paints (fun u v => u = x ∧ v = y) (fun _ _ => False) g (g.modifySymbol x y f) := by
  rw [modifySymbol]
  cases hcell : g.cell? x y with
  | none => exact .refl g
  | some c =>
      refine ⟨rfl, (paints_put g x y _).cell?_eq, fun u v => .inl ?_⟩
      rw [Option.elim_some, style?, style?, cell?_put]
      split
      · next h => simp [h.1, h.2, hcell]
      · rfl

/-- What is on the screen stays on it. -/
theorem Paints.isSome_cell? (h : Paints P S g g') {u v : Nat}
    (hcell : (g.cell? u v).isSome = true) : (g'.cell? u v).isSome = true := by
  have hstyle : (g'.style? u v).isSome = true := by
    cases h.style?_eq_or u v with
    | inl hsame => rw [hsame, style?, Option.isSome_map, hcell]
    | inr hnew =>
        obtain ⟨s, -, hs⟩ := hnew
        rw [hs]
        rfl
  rwa [style?, Option.isSome_map] at hstyle

/-! ## Rows, columns and areas -/

theorem cell?_drawRow (g : Grid) (x y width : Nat) (c : Cell) (u v : Nat) :
    (g.drawRow x y width c).cell? u v =
      if v = y ∧ x ≤ u ∧ u < x + width then (g.cell? u v).map fun _ => c else g.cell? u v := by
  unfold drawRow
  induction width generalizing g x with
  | zero => grind
  | succ width ih =>
      rw [List.range'_succ, List.foldl_cons, ih, cell?_put]
      grind

theorem paints_drawRow (g : Grid) (x y width : Nat) (c : Cell) :
    Paints (fun u v => v = y ∧ x ≤ u ∧ u < x + width) (fun _ s => s = c.style) g
      (g.drawRow x y width c) := by
  refine Paints.foldl (fun g column hcolumn => ?_) g
  refine (paints_put g column y c).mono (fun u v h => ?_) fun _ _ _ _ h => h
  exact ⟨h.2, h.1 ▸ List.mem_range'_1.1 hcolumn⟩

theorem paints_drawColumn (g : Grid) (x y height : Nat) (c : Cell) :
    Paints (fun u v => u = x ∧ y ≤ v ∧ v < y + height) (fun _ s => s = c.style) g
      (g.drawColumn x y height c) := by
  refine Paints.foldl (fun g row hrow => ?_) g
  refine (paints_put g x row c).mono (fun u v h => ?_) fun _ _ _ _ h => h
  exact ⟨h.1, h.2 ▸ List.mem_range'_1.1 hrow⟩

theorem paints_fill (g : Grid) (r : Rect) (c : Cell) :
    Paints (fun _ v => r.y ≤ v ∧ v < r.y + r.height) (fun _ s => s = c.style) g (g.fill r c) := by
  refine Paints.foldl (fun g row hrow => ?_) g
  refine (paints_drawRow g r.x row r.width c).mono (fun u v h => ?_) fun _ _ _ _ h => h
  exact h.1 ▸ List.mem_range'_1.1 hrow

/-- All cells of an area have become the same. -/
theorem cell?_fill (g : Grid) (r : Rect) (c : Cell) (u v : Nat) :
    (g.fill r c).cell? u v =
      if (r.x ≤ u ∧ u < r.x + r.width) ∧ r.y ≤ v ∧ v < r.y + r.height then
        (g.cell? u v).map fun _ => c
      else g.cell? u v := by
  obtain ⟨x, y, width, height⟩ := r
  unfold fill
  induction height generalizing g y with
  | zero => grind
  | succ height ih =>
      have hrest := ih (g.drawRow x y width c) (y + 1)
      rw [List.range'_succ, List.foldl_cons, hrest, cell?_drawRow]
      grind

/-! ## Labels -/

/-- A unit that is written in a row leaves the style of the cells up to its own; those that it
covers lose theirs. -/
theorem paints_drawUnit (g : Grid) (x y column : Nat) (started : Bool) (u : Text) :
    Paints (fun _ v => v = y) (fun u s => x < u ∧ s = .plain) g
      (g.drawUnit x y column started u) := by
  have hsymbol (x' : Nat) (f : Text → Text) :
      Paints (fun _ v => v = y) (fun u s => x < u ∧ s = .plain) g (g.modifySymbol x' y f) :=
    (paints_modifySymbol g x' y f).mono (fun _ _ h => h.2) fun _ _ _ _ h => h.elim
  have hcovered (g : Grid) :
      Paints (fun _ v => v = y) (fun u s => x < u ∧ s = .plain) g
        (g.drawRow (x + column + 1) y (Text.width u - 1) {}) :=
    (paints_drawRow g _ y _ {}).mono (fun _ _ h => h.1) fun _ _ _ h hs => ⟨by omega, hs⟩
  unfold drawUnit
  split
  · exact (hsymbol _ _).trans (hcovered _)
  · exact (hsymbol _ _).trans (hcovered _)

theorem paints_drawUnits (g : Grid) (x y width column : Nat) (started : Bool) (us : List Text) :
    Paints (fun _ v => v = y) (fun u s => x < u ∧ s = .plain) g
      (g.drawUnits x y width column started us) := by
  induction us generalizing g column started with
  | nil => exact .refl g
  | cons u us ih =>
      unfold drawUnits
      dsimp only
      split
      · exact .refl g
      · exact (paints_drawUnit g x y column started u).trans (ih ..)

/-- A label leaves the style of its first cell. -/
theorem paints_drawLabel (g : Grid) (x y width : Nat) (t : Text) :
    Paints (fun _ v => v = y) (fun u s => x < u ∧ s = .plain) g (g.drawLabel x y width t) := by
  unfold drawLabel
  split
  · exact .refl g
  · exact paints_drawUnits ..

theorem paints_drawLabels (g : Grid) (x y width : Nat) (ts : List Text) :
    Paints (fun _ v => v = y) anyStyle g (g.drawLabels x y width ts) := by
  induction ts generalizing g x width with
  | nil => exact .refl g
  | cons t ts ih =>
      have hfirst : Paints (fun _ v => v = y) anyStyle g (g.drawLabel x y width t) :=
        (paints_drawLabel g x y width t).mono (fun _ _ h => h) fun _ _ _ _ _ => trivial
      exact hfirst.trans (ih ..)

/-! ## Edges -/

theorem paints_doIf {condition : Bool} {f : Grid → Grid} (h : Paints P S g (f g)) :
    Paints P S g (g.doIf condition f) := by
  unfold doIf
  split
  · exact h
  · exact .refl g

/-- The cell is on an edge of the area. -/
def OnEdge (r : Rect) (u v : Nat) : Prop :=
  (u = r.x ∨ u = r.x + r.width - 1) ∨ v = r.y ∨ v = r.y + r.height - 1

theorem paints_drawBorders (g : Grid) {r : Rect} (hr : r.isEmpty = false) (b : Borders) :
    Paints (fun u v => OnEdge r u v ∧ r.y ≤ v) anyStyle g (g.drawBorders r b) := by
  have hlast : r.y ≤ r.y + r.height - 1 := by
    simp only [Rect.isEmpty, Bool.or_eq_false_iff, beq_eq_false_iff_ne] at hr
    omega
  have hput (g : Grid) {x y : Nat} (c : Cell) (h : OnEdge r x y) (hy : r.y ≤ y) :
      Paints (fun u v => OnEdge r u v ∧ r.y ≤ v) anyStyle g (g.put x y c) :=
    (paints_put g x y c).mono (fun _ _ heq => by rw [heq.1, heq.2]; exact ⟨h, hy⟩)
      fun _ _ _ _ _ => trivial
  have hrow (g : Grid) {y : Nat} (c : Cell) (h : ∀ u, OnEdge r u y) (hy : r.y ≤ y) :
      Paints (fun u v => OnEdge r u v ∧ r.y ≤ v) anyStyle g (g.drawRow r.x y r.width c) :=
    (paints_drawRow g r.x y r.width c).mono (fun u _ heq => by rw [heq.1]; exact ⟨h u, hy⟩)
      fun _ _ _ _ _ => trivial
  have hcolumn (g : Grid) {x : Nat} (c : Cell) (h : ∀ v, OnEdge r x v) :
      Paints (fun u v => OnEdge r u v ∧ r.y ≤ v) anyStyle g (g.drawColumn x r.y r.height c) :=
    (paints_drawColumn g x r.y r.height c).mono
      (fun _ v hcell => by rw [hcell.1]; exact ⟨h v, hcell.2.1⟩) fun _ _ _ _ _ => trivial
  unfold drawBorders
  refine Paints.trans ?_ (paints_doIf (hput _ _ (.inl (.inl rfl)) (Nat.le_refl _)))
  refine Paints.trans ?_ (paints_doIf (hput _ _ (.inl (.inl rfl)) hlast))
  refine Paints.trans ?_ (paints_doIf (hput _ _ (.inl (.inr rfl)) (Nat.le_refl _)))
  refine Paints.trans ?_ (paints_doIf (hput _ _ (.inl (.inr rfl)) hlast))
  refine Paints.trans ?_ (paints_doIf (hrow _ _ (fun _ => .inr (.inr rfl)) hlast))
  refine Paints.trans ?_ (paints_doIf (hcolumn _ _ fun _ => .inl (.inr rfl)))
  refine Paints.trans ?_ (paints_doIf (hrow _ _ (fun _ => .inr (.inl rfl)) (Nat.le_refl _)))
  exact paints_doIf (hcolumn _ _ fun _ => .inl (.inl rfl))

theorem paints_drawTitle (g : Grid) (x y width : Nat) (title : Span) :
    Paints (fun _ v => v = y) anyStyle g (g.drawTitle x y width title) := by
  have hrestyle (room : Nat) :
      Paints (fun _ v => v = y) anyStyle g (g.restyle x y room title.style) := by
    refine Paints.foldl (fun g column _ => ?_) g
    cases g.cell? column y with
    | none => exact .refl g
    | some c => exact (paints_put g column y _).mono (fun _ _ h => h.2) fun _ _ _ _ _ => trivial
  exact (hrestyle _).trans (paints_drawLabels ..)

/-- A block is drawn on the edges of its area, as far as this is on the screen, and not above it. -/
theorem paints_drawBlock (g : Grid) (area : Rect) (b : Borders) (title : Span) :
    Paints (fun u v => OnEdge (area.inter g.bounds) u v ∧ area.y ≤ v) anyStyle g
      (g.drawBlock area b title) := by
  have htop : area.y ≤ (area.inter g.bounds).y := Nat.le_max_left ..
  unfold drawBlock
  dsimp only
  split
  · exact .refl g
  · next hempty =>
      refine Paints.mono (P := fun u v => OnEdge (area.inter g.bounds) u v ∧
        (area.inter g.bounds).y ≤ v) ?_ (fun _ _ h => ⟨h.1, Nat.le_trans htop h.2⟩)
        fun _ _ _ _ h => h
      refine (paints_drawBorders g (Bool.not_eq_true _ ▸ hempty) b).trans ?_
      exact (paints_drawTitle ..).mono (fun _ _ h => ⟨.inr (.inl h), Nat.le_of_eq h.symm⟩)
        fun _ _ _ _ h => h

/-! ## Spans -/

theorem le_of_mem_place {width column : Nat} {gs : List Glyph} {p : Nat × Glyph}
    (h : p ∈ place width column gs) : column ≤ p.1 ∧ p.2 ∈ gs := by
  induction gs generalizing column with
  | nil => simp [place] at h
  | cons glyph gs ih =>
      simp only [place] at h
      split at h
      · exact ⟨(ih h).1, List.mem_cons_of_mem _ (ih h).2⟩
      · split at h
        · cases h
        · cases List.mem_cons.1 h with
          | inl hfirst => rw [hfirst]; exact ⟨Nat.le_refl _, List.mem_cons_self⟩
          | inr hrest =>
              have hlater := ih hrest
              exact ⟨by omega, List.mem_cons_of_mem _ hlater.2⟩

/-- Glyphs leave their styles, or the plain one on cells that they cover. -/
theorem paints_drawGlyphs {T : Style → Prop} {placed : List (Nat × Glyph)} (first : Nat)
    (h : ∀ p ∈ placed, first ≤ p.1 ∧ T p.2.style) (g : Grid) (x y : Nat) :
    Paints (fun u v => v = y ∧ x + first ≤ u) (fun _ s => T s ∨ s = .plain) g
      (placed.foldl (fun g (column, glyph) => g.drawGlyph (x + column) y glyph) g) := by
  refine Paints.foldl (fun g p hp => ?_) g
  obtain ⟨hfirst, hstyle⟩ := h p hp
  have hput : Paints (fun u v => v = y ∧ x + first ≤ u) (fun _ s => T s ∨ s = .plain) g
      (g.put (x + p.1) y ⟨p.2.symbol, p.2.style⟩) := by
    refine (paints_put g _ y _).mono (fun _ _ heq => ⟨heq.2, by omega⟩) fun _ _ _ _ hs => ?_
    exact .inl (hs ▸ hstyle)
  refine hput.trans ((paints_drawRow _ _ y _ {}).mono (fun _ _ hcell => ⟨hcell.1, by omega⟩) ?_)
  exact fun _ _ _ _ hs => .inr hs

theorem style_of_mem_visibleGlyphs {T : Style → Prop} {spans : List Span} {glyph : Glyph}
    (h : ∀ span ∈ spans, T span.style) (hglyph : glyph ∈ Span.visibleGlyphs spans) :
    T glyph.style := by
  obtain ⟨span, hspan, hmem⟩ := List.mem_flatMap.1 (List.mem_filter.1 hglyph).1
  obtain ⟨_, -, rfl⟩ := List.mem_map.1 hmem
  exact h span hspan

/-- Spans are drawn in their row. -/
theorem paints_drawSpans {T : Style → Prop} {spans : List Span} (h : ∀ span ∈ spans, T span.style)
    (g : Grid) (x y width : Nat) :
    Paints (fun _ v => v = y) (fun _ s => T s ∨ s = .plain) g (g.drawSpans x y width spans) :=
  (paints_drawGlyphs 0 (fun _ hp =>
    ⟨Nat.zero_le _, style_of_mem_visibleGlyphs h (le_of_mem_place hp).2⟩) g x y).mono
    (fun _ _ hcell => hcell.1) fun _ _ _ _ hs => hs

/-- If the first glyph has room, the first cell has its style. -/
theorem style?_drawSpans_first {spans : List Span} {style : Style} {glyph : Glyph}
    {rest : List Glyph} {width : Nat} (h : ∀ span ∈ spans, span.style = style)
    (hglyphs : Span.visibleGlyphs spans = glyph :: rest) (hwide : 0 < glyph.width)
    (hroom : glyph.width ≤ width) {x y : Nat} (hcell : (g.cell? x y).isSome = true) :
    (g.drawSpans x y width spans).style? x y = some style := by
  have hstyle (other : Glyph) (hmem : other ∈ glyph :: rest) : other.style = style :=
    style_of_mem_visibleGlyphs (T := (· = style)) h (hglyphs ▸ hmem)
  have hplace : place width 0 (Span.visibleGlyphs spans) =
      (0, glyph) :: place width glyph.width rest := by
    simp only [hglyphs, place, Nat.zero_add, if_neg (Nat.not_lt.2 hroom)]
  unfold drawSpans
  rw [hplace, List.foldl_cons, style?]
  -- the glyphs after the first one are drawn to the right of it
  have hplaced (p : Nat × Glyph) (hp : p ∈ place width glyph.width rest) :
      glyph.width ≤ p.1 ∧ p.2.style = style :=
    ⟨(le_of_mem_place hp).1, hstyle p.2 (List.mem_cons_of_mem _ (le_of_mem_place hp).2)⟩
  have hlater := paints_drawGlyphs (T := (· = style)) glyph.width hplaced
    (g.drawGlyph (x + 0) y glyph) x y
  rw [hlater.cell?_eq x y (by omega), drawGlyph, cell?_drawRow, cell?_put]
  obtain ⟨c, hc⟩ := Option.isSome_iff_exists.1 hcell
  rw [if_neg (by omega), if_pos ⟨rfl, rfl⟩, hc]
  exact congrArg some (hstyle glyph List.mem_cons_self)

/-! ## Lines one below the other -/

/-- A line is drawn in a style: its first cell has it, and so have all others but those that are
blank or covered by a wide character, which have the plain one. -/
structure DrawnIn (g : Grid) (line : Rect) (style : Style) : Prop where
  first : g.style? line.x line.y = some style
  others : ∀ x, line.contains x line.y = true →
    g.style? x line.y = some style ∨ g.style? x line.y = some .plain

/-- Only the cells of its row matter. -/
theorem DrawnIn.congr {line : Rect} {style : Style} (h : g.DrawnIn line style)
    (hrow : ∀ u, g'.cell? u line.y = g.cell? u line.y) : g'.DrawnIn line style := by
  have hstyle (u : Nat) : g'.style? u line.y = g.style? u line.y := by
    rw [style?, style?, hrow]
  exact ⟨(hstyle _).trans h.first, fun u hu => by rw [hstyle]; exact h.others u hu⟩

/-- A line is drawn in one style only. -/
theorem DrawnIn.unique {line : Rect} {style style' : Style} (h : g.DrawnIn line style)
    (h' : g.DrawnIn line style') : style = style' :=
  Option.some.inj (h.first.symm.trans h'.first)

/-- Spans of one style draw a plain line in it, if their first glyph has room there. -/
theorem drawnIn_drawSpans {spans : List Span} {style : Style} {glyph : Glyph} {rest : List Glyph}
    (line : Rect) (h : ∀ span ∈ spans, span.style = style)
    (hglyphs : Span.visibleGlyphs spans = glyph :: rest) (hwide : 0 < glyph.width)
    (hroom : glyph.width ≤ line.width) (hline : line.InRange) (hheight : 0 < line.height)
    (hplain : ∀ u, line.contains u line.y = true → g.style? u line.y = some .plain) :
    (g.drawSpans line.x line.y line.width spans).DrawnIn line style := by
  have hfirst : line.contains line.x line.y = true := hline.contains_iff.2 (by omega)
  constructor
  · refine style?_drawSpans_first h hglyphs hwide hroom ?_
    rw [← Option.isSome_map (f := (·.style))]
    exact Option.isSome_iff_exists.2 ⟨_, hplain line.x hfirst⟩
  · intro u hu
    have hpaints := paints_drawSpans (T := (· = style)) h g line.x line.y line.width
    cases hpaints.style?_eq_or u line.y with
    | inl hsame => exact .inr (hsame.trans (hplain u hu))
    | inr hnew =>
        obtain ⟨s, hs, heq⟩ := hnew
        cases hs with
        | inl hstyle => exact .inl (by rw [heq, hstyle])
        | inr hblank => exact .inr (by rw [heq, hblank])

/-- Of lines that are drawn one below the other, the cells of each are as its own drawing has left
them, on a screen on which they were as at the start. -/
theorem cell?_foldl_lines {f : Grid → α × Nat → Grid} {top : Nat}
    (hf : ∀ g a n, Paints (fun _ v => v = top + n) S g (f g (a, n))) {xs : List α} {line : Nat}
    {a : α} (hget : xs[line]? = some a) (start : Nat) (g : Grid) :
    ∃ before : Grid,
      (∀ u, before.cell? u (top + (start + line)) = g.cell? u (top + (start + line))) ∧
        ∀ u, ((xs.zipIdx start).foldl f g).cell? u (top + (start + line)) =
          (f before (a, start + line)).cell? u (top + (start + line)) := by
  induction xs generalizing g start line with
  | nil => cases hget
  | cons b xs ih =>
      rw [List.zipIdx_cons, List.foldl_cons]
      cases line with
      | zero =>
          obtain rfl : b = a := Option.some.inj hget
          refine ⟨g, fun _ => rfl, fun u => ?_⟩
          have hbelow : Paints (fun _ v => top + start < v) S (f g (b, start))
              ((xs.zipIdx (start + 1)).foldl f (f g (b, start))) :=
            Paints.foldl (fun g p hp => (hf g p.1 p.2).mono (fun u v hv => by
              have hle := List.le_snd_of_mem_zipIdx hp
              omega) fun _ _ _ _ hs => hs) _
          exact hbelow.cell?_eq u _ (by omega)
      | succ line =>
          obtain ⟨before, hbefore, hafter⟩ := ih hget (start + 1) (f g (b, start))
          have hrow : start + 1 + line = start + (line + 1) := by omega
          rw [hrow] at hbefore hafter
          refine ⟨before, fun u => (hbefore u).trans ?_, hafter⟩
          exact (hf g b start).cell?_eq u _ (by omega)

/-- Draw one of the lines of an area, the one with this number. -/
def drawLine (r : Rect) (g : Grid) (line : List Span × Nat) : Grid :=
  g.drawSpans r.x (r.y + line.2) r.width line.1

theorem drawLines_eq (g : Grid) (r : Rect) (lines : List (List Span)) :
    g.drawLines r lines = (lines.take r.height).zipIdx.foldl (drawLine r) g := rfl

theorem paints_drawLine (r : Rect) (g : Grid) (spans : List Span) (n : Nat) :
    Paints (fun _ v => v = r.y + n) anyStyle g (drawLine r g (spans, n)) :=
  (paints_drawSpans (T := fun _ => True) (fun _ _ => trivial) g r.x (r.y + n) r.width).mono
    (fun _ _ hcell => hcell) fun _ _ _ _ _ => trivial

/-- Lines are drawn from the top of their area down. -/
theorem paints_drawLines (g : Grid) (r : Rect) (lines : List (List Span)) :
    Paints (fun _ v => r.y ≤ v) anyStyle g (g.drawLines r lines) := by
  rw [drawLines_eq]
  refine Paints.foldl (fun g line _ => ?_) g
  exact (paints_drawLine r g line.1 line.2).mono (fun _ _ h => h ▸ Nat.le_add_right ..)
    fun _ _ _ _ h => h

/-- Each line of an area that was plain is drawn in the style of its spans. -/
theorem drawnIn_drawLines {lines : List (List Span)} {spans : List Span} {style : Style}
    {glyph : Glyph} {rest : List Glyph} {r : Rect} {line : Nat}
    (hget : lines[line]? = some spans) (hline : line < r.height)
    (h : ∀ span ∈ spans, span.style = style)
    (hglyphs : Span.visibleGlyphs spans = glyph :: rest) (hwide : 0 < glyph.width)
    (hroom : glyph.width ≤ r.width) (hr : r.InRange)
    (hplain : ∀ u v, r.contains u v = true → g.style? u v = some .plain) :
    (g.drawLines r lines).DrawnIn ⟨r.x, r.y + line, r.width, 1⟩ style := by
  obtain ⟨hright, hbottom⟩ := hr
  have hshown : (lines.take r.height)[line]? = some spans := by
    rw [List.getElem?_take, if_pos hline, hget]
  obtain ⟨before, hbefore, hafter⟩ := cell?_foldl_lines (paints_drawLine r) hshown 0 g
  rw [Nat.zero_add] at hbefore hafter
  have hdrawn : (before.drawSpans r.x (r.y + line) r.width spans).DrawnIn
      ⟨r.x, r.y + line, r.width, 1⟩ style := by
    refine drawnIn_drawSpans ⟨r.x, r.y + line, r.width, 1⟩ h hglyphs hwide hroom
      ⟨hright, Nat.le_trans (Nat.add_le_add_left hline r.y) hbottom⟩ Nat.one_pos fun u hu => ?_
    rw [style?, hbefore]
    refine hplain u _ ?_
    simp only [Rect.contains, Bool.and_eq_true, decide_eq_true_eq] at hu ⊢
    simp only [Rect.right, Rect.bottom, satAdd] at hu ⊢
    omega
  rw [drawLines_eq]
  exact hdrawn.congr hafter

/-! ## Areas on the screen -/

/-- The area is on the screen, which has all of its cells. -/
structure Holds (g : Grid) (r : Rect) : Prop where
  width_le : g.width ≤ maxCoordinate
  height_le : g.height ≤ maxCoordinate
  right_le : r.x + r.width ≤ g.width
  bottom_le : r.y + r.height ≤ g.height
  isSome_cell? : ∀ x y, r.contains x y = true → (g.cell? x y).isSome = true

theorem Holds.inRange {r : Rect} (h : g.Holds r) : r.InRange :=
  ⟨Nat.le_trans h.right_le h.width_le, Nat.le_trans h.bottom_le h.height_le⟩

theorem Holds.of_paints {r : Rect} (h : g.Holds r) (hpaints : Paints P S g g') : g'.Holds r := by
  obtain ⟨hwidth, hheight, hright, hbottom, hcells⟩ := h
  obtain ⟨-, -, hw, hh⟩ := Rect.mk.inj hpaints.bounds_eq
  rw [← hw] at hwidth hright
  rw [← hh] at hheight hbottom
  exact ⟨hwidth, hheight, hright, hbottom, fun x y hcell => hpaints.isSome_cell? (hcells x y hcell)⟩

theorem holds_blank {width height : Nat} {r : Rect} (hwidth : width ≤ maxCoordinate)
    (hheight : height ≤ maxCoordinate) (hright : r.x + r.width ≤ width)
    (hbottom : r.y + r.height ≤ height) : (blank width height).Holds r := by
  refine ⟨hwidth, hheight, hright, hbottom, fun x y hcell => ?_⟩
  simp only [Rect.contains, Bool.and_eq_true, decide_eq_true_eq] at hcell
  simp only [Rect.right, Rect.bottom, satAdd] at hcell
  have hx : x < width := by omega
  have hy : y < height := by omega
  simp [blank, cell?, hx, hy]

/-- A blank screen holds an area if the cells of the area, of which there are some, are on it. -/
theorem holds_blank_of_contains {width height : Nat} {r : Rect} (hwidth : width ≤ maxCoordinate)
    (hheight : height ≤ maxCoordinate) (hr : r.InRange) (hcells : 0 < r.width ∧ 0 < r.height)
    (h : ∀ x y, r.contains x y = true → (Rect.mk 0 0 width height).contains x y = true) :
    (blank width height).Holds r := by
  have hlast : r.contains (r.x + r.width - 1) (r.y + r.height - 1) = true :=
    hr.contains_iff.2 (by omega)
  have hscreen : (Rect.mk 0 0 width height).InRange :=
    ⟨by rwa [Nat.zero_add], by rwa [Nat.zero_add]⟩
  obtain ⟨⟨-, hright⟩, -, hbottom⟩ := hscreen.contains_iff.1 (h _ _ hlast)
  dsimp only at hright hbottom
  exact holds_blank hwidth hheight (by omega) (by omega)

/-- No part of the area is cut off. -/
theorem Holds.inter_bounds {r : Rect} (h : g.Holds r) : r.inter g.bounds = r := by
  obtain ⟨hwidth, hheight, hright, hbottom, -⟩ := h
  have hx : min (satAdd r.x r.width) (satAdd 0 g.width) - r.x = r.width := by
    simp only [satAdd]; omega
  have hy : min (satAdd r.y r.height) (satAdd 0 g.height) - r.y = r.height := by
    simp only [satAdd]; omega
  simp [Rect.inter, bounds, Rect.right, Rect.bottom, hx, hy]

/-- With an area, the screen holds what is in it of another one. -/
theorem Holds.inter {r s : Rect} (h : g.Holds s) (hwidth : 0 < (r.inter s).width)
    (hheight : 0 < (r.inter s).height) : g.Holds (r.inter s) := by
  obtain ⟨hgwidth, hgheight, hright, hbottom, hcells⟩ := h
  refine ⟨hgwidth, hgheight, ?_, ?_, fun x y hcell => hcells x y (Rect.contains_inter hcell).2⟩
  · simp only [Rect.inter, Rect.right, satAdd] at hwidth ⊢
    omega
  · simp only [Rect.inter, Rect.bottom, satAdd] at hheight ⊢
    omega

end Grid
end FormulaPad.Terminal
