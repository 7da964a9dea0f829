import FormulaPad.Proofs.Terminal.Cells
import Mathlib.Data.List.Infix

/-!
# FormulaPad.Proofs.Terminal.Spots

Which cell of a drawn line shows which character of its text.

A line is laid out in units, which may have several characters, take several cells
or none, and are left out where they are line breaks or wider than the line. Here
the same layout is made once more with every unit numbered by its first character:
a `Spot` is a unit with this number and its first cell. Without the numbers the
spots are what `place` lays out.

Main statements: `prefix_drop_of_mem_units` (the numbers are right),
`map_placeUnits` (the layout is the same), `cell?_drawSpans` (each unit is found in
its first cell), and `oneEach_of_printable`: of a text of printable ASCII
characters each cell shows one, in order.
-/

namespace FormulaPad

namespace Text

/-! ## Lines and units with their numbers -/

/-- The lines of a text with the numbers of their first characters, the first character of the text
having number `n`. -/
def numberedLines (n : Nat) : Text → List (Nat × Text)
  | [] => []
  | '\n' :: t => (n, []) :: numberedLines (n + 1) t
  | '\r' :: '\n' :: t => (n, []) :: numberedLines (n + 2) t
  | c :: t =>
      match numberedLines (n + 1) t with
      | [] => [(n, [c])]
      | (_, line) :: rest => (n, c :: line) :: rest

/-- Pieces of a text one after another with the numbers of their first characters. -/
def numbered (n : Nat) : List Text → List (Nat × Text)
  | [] => []
  | u :: rest => (n, u) :: numbered (n + u.length) rest

/-- The units of the lines of a text with the numbers of their first characters. -/
def units (n : Nat) (t : Text) : List (Nat × Text) :=
  (numberedLines n t).flatMap fun line => numbered line.1 (clusters line.2)

theorem map_snd_numberedLines (n : Nat) (t : Text) :
    (numberedLines n t).map (·.2) = splitLines t := by
  fun_induction numberedLines n t with
  | case1 => rfl
  | case2 n t ih => simp [splitLines, ih]
  | case3 n t ih => simp [splitLines, ih]
  | case4 n c t h1 h2 heq ih =>
      rw [heq] at ih
      rw [splitLines, ← ih]
      · rfl
      · exact h1
      · exact h2
  | case5 n c t h1 h2 m line rest heq ih =>
      rw [heq] at ih
      rw [splitLines, ← ih]
      · rfl
      · exact h1
      · exact h2

theorem map_snd_numbered (n : Nat) (us : List Text) : (numbered n us).map (·.2) = us := by
  induction us generalizing n with
  | nil => rfl
  | cons u us ih => simp [numbered, ih]

/-- The first line starts where the text does. -/
theorem fst_of_numberedLines_eq_cons {n m : Nat} {t line : Text} {rest : List (Nat × Text)}
    (h : numberedLines n t = (m, line) :: rest) : m = n := by
  revert h
  fun_cases numberedLines n t with
  | case1 => exact fun h => nomatch h
  | case2 | case3 | case4 | case5 => exact fun h => (Prod.mk.inj (List.cons.inj h).1).1.symm

/-- A line stands in the text where its number says. -/
theorem prefix_drop_of_mem_numberedLines {n m : Nat} {t line : Text}
    (h : (m, line) ∈ numberedLines n t) : ∃ k, m = n + k ∧ line <+: t.drop k := by
  fun_induction numberedLines n t generalizing m line with
  | case1 => cases h
  | case2 n t ih =>
      cases List.mem_cons.1 h with
      | inl hfirst =>
          obtain ⟨rfl, rfl⟩ := Prod.mk.inj hfirst
          exact ⟨0, rfl, List.nil_prefix⟩
      | inr hrest =>
          obtain ⟨k, rfl, hline⟩ := ih hrest
          exact ⟨k + 1, by omega, hline⟩
  | case3 n t ih =>
      cases List.mem_cons.1 h with
      | inl hfirst =>
          obtain ⟨rfl, rfl⟩ := Prod.mk.inj hfirst
          exact ⟨0, rfl, List.nil_prefix⟩
      | inr hrest =>
          obtain ⟨k, rfl, hline⟩ := ih hrest
          exact ⟨k + 2, by omega, hline⟩
  | case4 n c t _ _ heq ih =>
      obtain ⟨rfl, rfl⟩ := Prod.mk.inj (List.mem_singleton.1 h)
      exact ⟨0, rfl, List.cons_prefix_cons.2 ⟨rfl, List.nil_prefix⟩⟩
  | case5 n c t _ _ first line' rest heq ih =>
      rw [heq] at ih
      cases List.mem_cons.1 h with
      | inl hfirst =>
          obtain ⟨rfl, rfl⟩ := Prod.mk.inj hfirst
          obtain ⟨k, hk, hline⟩ := ih List.mem_cons_self
          obtain rfl : k = 0 := by
            have hstart := fst_of_numberedLines_eq_cons heq
            omega
          exact ⟨0, rfl, List.cons_prefix_cons.2 ⟨rfl, hline⟩⟩
      | inr hrest =>
          obtain ⟨k, rfl, hline⟩ := ih (List.mem_cons_of_mem _ hrest)
          exact ⟨k + 1, by omega, hline⟩

theorem prefix_drop_of_mem_numbered {n m : Nat} {us : List Text} {u : Text}
    (h : (m, u) ∈ numbered n us) : u ∈ us ∧ ∃ k, m = n + k ∧ u <+: us.flatten.drop k := by
  induction us generalizing n with
  | nil => cases h
  | cons v us ih =>
      cases List.mem_cons.1 h with
      | inl hfirst =>
          obtain ⟨rfl, rfl⟩ := Prod.mk.inj hfirst
          exact ⟨List.mem_cons_self, 0, rfl, List.prefix_append ..⟩
      | inr hrest =>
          obtain ⟨hmem, k, rfl, hprefix⟩ := ih hrest
          refine ⟨List.mem_cons_of_mem v hmem, v.length + k, by omega, ?_⟩
          rw [List.flatten_cons, ← List.drop_drop, List.drop_left]
          exact hprefix

/-- A unit is not empty, and stands in the text where its number says. -/
theorem prefix_drop_of_mem_units {n m : Nat} {t u : Text} (h : (m, u) ∈ units n t) :
    u ≠ [] ∧ ∃ k, m = n + k ∧ u <+: t.drop k := by
  obtain ⟨⟨start, line⟩, hline, hunit⟩ := List.mem_flatMap.1 h
  obtain ⟨k, rfl, hk⟩ := prefix_drop_of_mem_numberedLines hline
  obtain ⟨hmem, j, rfl, hj⟩ := prefix_drop_of_mem_numbered hunit
  refine ⟨ne_nil_of_mem_clusters hmem, k + j, by omega, ?_⟩
  rw [flatten_clusters] at hj
  rw [← List.drop_drop]
  exact hj.trans (List.IsPrefix.drop hk j)

/-! ## Text of printable ASCII characters -/

/-- A character that ends no line stands in front of the first line of the rest. -/
theorem numberedLines_cons {c : Char} (hfeed : c ≠ '\n') (hreturn : c ≠ '\r') (n : Nat) (t : Text) :
    numberedLines n (c :: t) =
      (n, c :: ((numberedLines (n + 1) t).map (·.2)).headD []) :: (numberedLines (n + 1) t).tail := by
  rw [numberedLines]
  · cases numberedLines (n + 1) t <;> rfl
  · exact hfeed
  · exact fun _ h => absurd h hreturn

theorem numberedLines_of_printable {t : Text} (h : ∀ c ∈ t, isBetween 0x20 0x7E c = true)
    (hne : t ≠ []) (n : Nat) : numberedLines n t = [(n, t)] := by
  induction t generalizing n with
  | nil => exact absurd rfl hne
  | cons c t ih =>
      obtain ⟨hc, hrest⟩ := List.forall_mem_cons.1 h
      have hfeed : c ≠ '\n' := fun heq => by subst heq; simp [isBetween] at hc
      have hreturn : c ≠ '\r' := fun heq => by subst heq; simp [isBetween] at hc
      rw [numberedLines_cons hfeed hreturn]
      by_cases hnil : t = []
      · rw [hnil]
        rfl
      · rw [ih hrest hnil]
        rfl

/-- In a text of printable ASCII characters the units are the characters one after another. -/
theorem units_of_printable {t : Text} (h : ∀ c ∈ t, isBetween 0x20 0x7E c = true) (n : Nat) :
    units n t = numbered n (t.map ([·])) := by
  by_cases hne : t = []
  · subst hne
    rfl
  · rw [units, numberedLines_of_printable h hne, List.flatMap_singleton, clusters_of_printable h]

end Text

namespace Terminal

/-! ## Spots -/

/-- A unit of a text where it is laid out. -/
structure Spot where
  /-- The number of its first character. -/
  number : Nat
  /-- Its first cell. -/
  column : Nat
  unit : Text
  deriving DecidableEq, Repr

namespace Spot

/-- The unit as it is drawn. -/
def glyph (s : Spot) (style : Style) : Glyph := ⟨s.unit, Text.width s.unit, style⟩

/-- The cell is one of those that the unit takes. -/
def takes (s : Spot) (column : Nat) : Prop :=
  s.column ≤ column ∧ column < s.column + Text.width s.unit

/-- The character is one of those of the unit. -/
def has (s : Spot) (number : Nat) : Prop :=
  s.number ≤ number ∧ number < s.number + s.unit.length

instance (s : Spot) (column : Nat) : Decidable (s.takes column) :=
  inferInstanceAs (Decidable (_ ∧ _))

instance (s : Spot) (number : Nat) : Decidable (s.has number) := inferInstanceAs (Decidable (_ ∧ _))

end Spot

/-- The units of a text that take cells, with the numbers of their first characters. -/
def visibleUnits (n : Nat) (t : Text) : List (Nat × Text) :=
  (Text.units n t).filter fun p => 0 < Text.width p.2 && p.2 != ['\n']

/-- Units with the cells they start at, as they are laid out by `place`. -/
def placeUnits (width column : Nat) : List (Nat × Text) → List Spot
  | [] => []
  | (n, u) :: rest =>
      if width < Text.width u then placeUnits width column rest
      else if width < column + Text.width u then []
      else ⟨n, column, u⟩ :: placeUnits width (column + Text.width u) rest

/-- The units of a text as they are laid out on a line; its first character has number `n`. -/
def spots (width n : Nat) (t : Text) : List Spot := placeUnits width 0 (visibleUnits n t)

theorem map_placeUnits (width column : Nat) (us : List (Nat × Text)) (style : Style) :
    (placeUnits width column us).map (fun s => (s.column, s.glyph style)) =
      place width column (us.map fun p => ⟨p.2, Text.width p.2, style⟩) := by
  induction us generalizing column with
  | nil => rfl
  | cons p us ih =>
      simp only [placeUnits, List.map_cons, place]
      split
      · exact ih column
      · split
        · rfl
        · rw [List.map_cons, ih]
          rfl

theorem mem_of_mem_placeUnits {width column : Nat} {us : List (Nat × Text)} {s : Spot}
    (h : s ∈ placeUnits width column us) : (s.number, s.unit) ∈ us := by
  induction us generalizing column with
  | nil => cases h
  | cons p us ih =>
      simp only [placeUnits] at h
      split at h
      · exact List.mem_cons_of_mem p (ih h)
      · split at h
        · cases h
        · cases List.mem_cons.1 h with
          | inl hfirst => subst hfirst; exact List.mem_cons_self
          | inr hrest => exact List.mem_cons_of_mem p (ih hrest)

/-- Without their numbers, the units of a text are what is drawn of its lines. -/
theorem visibleGlyphs_lines (n : Nat) (t : Text) (style : Style) :
    Span.visibleGlyphs (Span.lines ⟨t, style⟩) =
      (visibleUnits n t).map fun p => ⟨p.2, Text.width p.2, style⟩ := by
  have hline (line : Nat × Text) :
      (Span.glyphs ⟨line.2, style⟩).filter (0 < ·.width) =
        ((Text.numbered line.1 (Text.clusters line.2)).filter
          fun p => 0 < Text.width p.2 && p.2 != ['\n']).map
            fun p => ⟨p.2, Text.width p.2, style⟩ := by
    rw [Span.glyphs, drawnUnits]
    conv_lhs => rw [← Text.map_snd_numbered line.1 (Text.clusters line.2)]
    simp [List.filter_map, List.filter_filter, Function.comp_def]
  rw [Span.visibleGlyphs, Span.lines, ← Text.map_snd_numberedLines n t, visibleUnits, Text.units,
    List.map_map, List.flatMap_map, List.filter_flatMap, List.filter_flatMap, List.map_flatMap]
  exact List.flatMap_congr fun line _ => hline line

/-- A spot holds the characters of the text that its number says, and has room on the line. -/
structure Spot.Lies (s : Spot) (width n : Nat) (t : Text) : Prop where
  unit_ne_nil : s.unit ≠ []
  stands : ∃ k, s.number = n + k ∧ s.unit <+: t.drop k
  width_pos : 0 < Text.width s.unit
  column_add_width_le : s.column + Text.width s.unit ≤ width

theorem lies_of_mem_spots {width n : Nat} {t : Text} {s : Spot} (h : s ∈ spots width n t) :
    s.Lies width n t := by
  obtain ⟨hunit, hvisible⟩ := List.mem_filter.1 (mem_of_mem_placeUnits h)
  obtain ⟨hne, hstands⟩ := Text.prefix_drop_of_mem_units hunit
  have hwidth : 0 < Text.width s.unit := by
    have := (Bool.and_eq_true _ _ ▸ hvisible).1
    simpa using this
  refine ⟨hne, hstands, hwidth, ?_⟩
  -- `place` ends before the first unit that would cross the edge
  have hplaced : (s.column, s.glyph .plain) ∈
      (spots width n t).map fun s => (s.column, s.glyph .plain) := List.mem_map_of_mem h
  rw [spots, map_placeUnits] at hplaced
  exact add_width_le_of_mem_place hplaced

/-- A character of a spot is one of the text. -/
theorem Spot.Lies.number_lt {s : Spot} {width n number : Nat} {u : Text}
    (h : s.Lies width n (u.drop n)) (hhas : s.has number) : number < u.length := by
  obtain ⟨hne, ⟨k, hk, hprefix⟩, -, -⟩ := h
  have hle := hprefix.length_le
  have hpos : 0 < s.unit.length := List.length_pos_iff.2 hne
  rw [List.drop_drop, List.length_drop] at hle
  obtain ⟨-, hlt⟩ := hhas
  omega

/-! ## What is drawn -/

namespace Grid

variable {g : Grid}

/-- A glyph is drawn in its first cell. -/
theorem cell?_drawGlyph {x y : Nat} (hcell : (g.cell? x y).isSome = true) (glyph : Glyph) :
    (g.drawGlyph x y glyph).cell? x y = some ⟨glyph.symbol, glyph.style⟩ := by
  obtain ⟨c, hc⟩ := Option.isSome_iff_exists.1 hcell
  rw [drawGlyph, cell?_drawRow, if_neg (by omega), cell?_put, if_pos ⟨rfl, rfl⟩, hc]
  rfl

/-- A glyph that is laid out is found in its first cell; those after it are drawn to the right of
it. -/
theorem cell?_drawGlyphs {width column x y : Nat} {gs : List Glyph} (hgs : ∀ glyph ∈ gs, 0 < glyph.width)
    {p : Nat × Glyph} (hp : p ∈ place width column gs)
    (hcell : (g.cell? (x + p.1) y).isSome = true) :
    ((place width column gs).foldl (fun g (c, glyph) => g.drawGlyph (x + c) y glyph) g).cell?
      (x + p.1) y = some ⟨p.2.symbol, p.2.style⟩ := by
  induction gs generalizing column g with
  | nil => cases hp
  | cons glyph gs ih =>
      obtain ⟨hglyph, hrest⟩ := List.forall_mem_cons.1 hgs
      simp only [place] at hp ⊢
      split
      · next hwide => exact ih hrest (by rwa [if_pos hwide] at hp) hcell
      · next hwide =>
          rw [if_neg hwide] at hp
          split
          · next hfull => rw [if_pos hfull] at hp; cases hp
          · next hfull =>
              rw [if_neg hfull] at hp
              rw [List.foldl_cons]
              cases List.mem_cons.1 hp with
              | inl hfirst =>
                  subst hfirst
                  have hright (q : Nat × Glyph) (hq : q ∈ place width (column + glyph.width) gs) :
                      column + glyph.width ≤ q.1 ∧ True := ⟨(le_of_mem_place hq).1, trivial⟩
                  have hlater := paints_drawGlyphs (T := fun _ => True) _ hright
                    (g.drawGlyph (x + column) y glyph) x y
                  rw [hlater.cell?_eq _ y (by dsimp only; omega), cell?_drawGlyph hcell]
              | inr hlater =>
                  have hkept : ((g.drawGlyph (x + column) y glyph).cell? (x + p.1) y).isSome = true :=
                    (paints_drawRow ..).isSome_cell? ((paints_put ..).isSome_cell? hcell)
                  exact ih hrest hlater hkept

/-- Of the lines of a text, drawn side by side, each unit that is laid out is found in its first
cell. -/
theorem cell?_drawSpans {width n x y : Nat} {t : Text} {style : Style} {s : Spot}
    (h : s ∈ spots width n t) (hcell : (g.cell? (x + s.column) y).isSome = true) :
    (g.drawSpans x y width (Span.lines ⟨t, style⟩)).cell? (x + s.column) y =
      some ⟨s.unit, style⟩ := by
  have hplaced : (s.column, s.glyph style) ∈
      place width 0 (Span.visibleGlyphs (Span.lines ⟨t, style⟩)) := by
    rw [visibleGlyphs_lines n, ← map_placeUnits]
    exact List.mem_map_of_mem h
  exact cell?_drawGlyphs (fun glyph hglyph => by simpa using (List.mem_filter.1 hglyph).2) hplaced hcell

end Grid

/-! ## One character in each cell -/

/-- Every character is drawn by itself in one cell, and none before it is left out; the first cell
is that of character `n`. -/
def OneEach (n : Nat) (placed : List Spot) : Prop :=
  ∀ s ∈ placed, s.number = n + s.column ∧ s.unit.length = 1 ∧ Text.width s.unit = 1

/-- Characters that take one cell each are laid out one in each cell. -/
theorem number_add_of_mem_placeUnits {width : Nat} (hwidth : 0 < width) {t : Text}
    (h : ∀ c ∈ t, Text.width [c] = 1) {n column : Nat} {s : Spot}
    (hs : s ∈ placeUnits width column (Text.numbered n (t.map ([·])))) :
    s.number + column = n + s.column ∧ s.unit.length = 1 ∧ Text.width s.unit = 1 := by
  induction t generalizing n column with
  | nil => cases hs
  | cons c t ih =>
      obtain ⟨hc, hrest⟩ := List.forall_mem_cons.1 h
      simp only [List.map_cons, Text.numbered, placeUnits, hc, List.length_singleton,
        if_neg (Nat.not_lt.2 hwidth)] at hs
      split at hs
      · cases hs
      · cases List.mem_cons.1 hs with
        | inl hfirst => subst hfirst; exact ⟨rfl, rfl, hc⟩
        | inr hlater =>
            obtain ⟨hnumber, hunit⟩ := ih hrest hlater
            exact ⟨by omega, hunit⟩

/-- Text of printable ASCII characters shows one of them in each cell. -/
theorem oneEach_of_printable {t : Text} (h : ∀ c ∈ t, Text.isBetween 0x20 0x7E c = true)
    (width n : Nat) : OneEach n (spots width n t) := by
  have hone (c : Char) (hc : c ∈ t) : Text.width [c] = 1 :=
    Text.width_of_printable fun d hd => h d (List.mem_singleton.1 hd ▸ hc)
  have hvisible : visibleUnits n t = Text.numbered n (t.map ([·])) := by
    rw [visibleUnits, Text.units_of_printable h]
    refine List.filter_eq_self.2 fun p hp => ?_
    obtain ⟨c, hc, heq⟩ := List.mem_map.1 (Text.prefix_drop_of_mem_numbered hp).1
    have hfeed : c ≠ '\n' := fun hfeed => by simpa [hfeed, Text.isBetween] using h c hc
    simp [← heq, hone c hc, hfeed]
  intro s hs
  have hroom : 0 < width := by
    have hlies := lies_of_mem_spots hs
    have hpos := hlies.width_pos
    have hle := hlies.column_add_width_le
    omega
  rw [spots, hvisible] at hs
  exact number_add_of_mem_placeUnits hroom hone hs

end Terminal
end FormulaPad
