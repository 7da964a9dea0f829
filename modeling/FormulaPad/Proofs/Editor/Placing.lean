import FormulaPad.Proofs.Chips
import FormulaPad.Proofs.Editor.Sides
import FormulaPad.Proofs.Tokens

/-!
# FormulaPad.Proofs.Editor.Placing

A suggestion that becomes a tag of the formula.

At the end of a segment, the name of a suggestion takes the place of the word
that ends at the caret, or of nothing. If the word is all of its segment, the
name is the whole segment afterwards and all other segments are what they were.
Main statements: `placeName?_of_atSegmentEnd` (where the name goes) and
`placesTag_selectSuggestion`.
-/

namespace FormulaPad.Editor

open Formula Text

variable {e : Editor} {s : Suggestion}

/-! ## What is selected, and where -/

/-- The name of the suggestion is one that a segment can have, and its value shows. -/
structure IsTag (s : Suggestion) : Prop where
  trim_name : trim s.name = s.name
  name_ne_nil : s.name ≠ []
  isPlain : IsPlain s.name
  not_isNumeric : isNumeric s.name = false
  value_ne_nil : s.valueText ≠ []

/-- The caret stands at the end of a segment that is nothing but a word, or empty. -/
structure AtSegmentEnd (line : Line) : Prop where
  after : StartsAtOperator line.after
  before : EndsAtOperator (beforeWord line.before)

/-- The name takes the place of the word before the caret. -/
theorem placeName?_of_atSegmentEnd {line : Line} (h : AtSegmentEnd line) (name : Text) :
    placeName? line name = some (.ofSplit (beforeWord line.before ++ name) line.after) := by
  rw [placeName?_eq]
  split
  case isTrue hstart => rw [beforeWord_of_endsAtOperator (endsAtOperator_iff.2 hstart)]
  case isFalse hstart =>
      -- without a word the line would end with an operator there
      have hword : trailingWord line.before ≠ [] := by
        intro hnil
        have hsplit := beforeWord_append_trailingWord line.before
        rw [hnil, List.append_nil] at hsplit
        exact hstart (endsAtOperator_iff.1 (hsplit ▸ h.before))
      rw [if_neg hword]

theorem IsTag.classify?_name (h : IsTag s) : classify? s.name = some (.name s.name) := by
  rw [classify?, h.trim_name]
  split
  case h_1 hnil => exact absurd hnil h.name_ne_nil
  case h_2 c hc =>
      have hop : isOperator c = false := h.isPlain c (hc ▸ List.mem_cons_self)
      have hnumeric : isNumeric [c] = false := hc ▸ h.not_isNumeric
      simp [hop, hnumeric, hc]
  case h_3 => simp [h.not_isNumeric]

/-! ## What the selection does -/

theorem line_selectSuggestion {line : Line} (h : placeName? e.line s.name = some line) :
    (e.selectSuggestion s).line = line := by
  rw [selectSuggestion, h]

theorem formula_selectSuggestion {line : Line} (h : placeName? e.line s.name = some line) :
    (e.selectSuggestion s).store.formula = line.text := by
  rw [selectSuggestion, h]
  dsimp only
  rw [Store.formula_setTag, Store.formula_setFormula]

theorem get?_selectSuggestion {line : Line} (h : placeName? e.line s.name = some line) :
    (e.selectSuggestion s).store.tags.get? s.name = some s.valueText := by
  rw [selectSuggestion, h]
  dsimp only
  rw [Store.get?_setTag, if_pos rfl]

/-- From `e` to `e'` the segment at this place, where the caret is, has become a tag with the name and
the value of the suggestion, and nothing else in the line has changed. -/
structure PlacesTag (e e' : Editor) (s : Suggestion) (place : Nat) : Prop where
  formula_eq : e'.store.formula = e'.line.text
  /-- The caret stands right behind the name. -/
  before_eq : e'.line.before = beforeWord e.line.before ++ s.name
  after_eq : e'.line.after = e.line.after
  /-- The segment ended at the caret, and ends there again. -/
  ends_at_caret : ((segments e.line.text).take (place + 1)).flatten = e.line.before ∧
    ((segments e'.line.text).take (place + 1)).flatten = e'.line.before
  segment_eq : (segments e'.line.text)[place]? = some s.name
  exists_chip : ∀ suggestions, ∃ chip ∈ (e'.view suggestions).chips,
    chip.index = place ∧ chip.name = s.name ∧ chip.value = some s.valueText
  length_eq : (segments e'.line.text).length = (segments e.line.text).length
  others : ∀ other, other ≠ place →
    (segments e'.line.text)[other]? = (segments e.line.text)[other]? ∧
      dropdownIdAt? e'.line.text other = dropdownIdAt? e.line.text other

/-- What is around a place does not depend on what stands there. -/
theorem getElem?_around {ss more : List Text} {n : Nat} (h : n ≠ ss.length) (t u : Text) :
    (ss ++ t :: more)[n]? = (ss ++ u :: more)[n]? := by
  have hset : ss ++ t :: more = (ss ++ u :: more).set ss.length t := by simp
  rw [hset, List.getElem?_set_ne h.symm]

theorem flatten_take_succ (ss more : List Text) (t : Text) :
    ((ss ++ t :: more).take (ss.length + 1)).flatten = ss.flatten ++ t := by
  have htake : (ss ++ t :: more).take (ss.length + 1) = ss ++ [t] := by
    rw [List.take_length_add_append]
    rfl
  rw [htake, List.flatten_append, List.flatten_singleton]

/-- **A suggestion that is selected at the end of a segment becomes the tag of this segment**, with
its value, and leaves all other segments as they are. -/
theorem placesTag_selectSuggestion (hs : IsTag s) (hline : AtSegmentEnd e.line) :
    ∃ place, PlacesTag e (e.selectSuggestion s) s place := by
  have hplaced := placeName?_of_atSegmentEnd hline s.name
  have hnew := line_selectSuggestion hplaced
  have hformula := formula_selectSuggestion hplaced
  have htext : e.line.text =
      beforeWord e.line.before ++ (trailingWord e.line.before ++ e.line.after) := by
    rw [← List.append_assoc, beforeWord_append_trailingWord, e.line.before_append_after]
  have hold := segments_around hline.before (isPlain_trailingWord e.line.before) hline.after
  have hset := segments_around hline.before hs.isPlain hline.after
  have hlead := flatten_dropLast_segments hline.before
  rw [← htext] at hold
  rw [← List.append_assoc] at hset
  -- the place is the number of segments before the one that ends at the caret
  generalize (segments (beforeWord e.line.before)).dropLast = ss at hold hset hlead
  refine ⟨ss.length, ?_⟩
  have hothers : ∀ other, other ≠ ss.length →
      (segments (e.selectSuggestion s).line.text)[other]? = (segments e.line.text)[other]? := by
    intro other hother
    rw [hnew, Line.text_ofSplit, hset, hold]
    exact getElem?_around hother _ _
  have hsegment : (segments (e.selectSuggestion s).line.text)[ss.length]? = some s.name := by
    rw [hnew, Line.text_ofSplit, hset]
    simp
  constructor
  case formula_eq => rw [hformula, hnew]
  case before_eq => rw [hnew, Line.before_ofSplit]
  case after_eq => rw [hnew, Line.after_ofSplit]
  case ends_at_caret =>
    rw [hnew, Line.text_ofSplit, Line.before_ofSplit, hold, hset, flatten_take_succ,
      flatten_take_succ, hlead, beforeWord_append_trailingWord]
    exact ⟨rfl, rfl⟩
  case segment_eq => exact hsegment
  case exists_chip =>
    intro suggestions
    refine ⟨View.chipOf (e.selectSuggestion s).store.tags suggestions
      (e.selectSuggestion s).openDropdown ss.length s.name, ?_, rfl, rfl, ?_⟩
    · refine View.mem_chips_build_iff.2 ⟨s.name, ?_, hs.classify?_name, rfl⟩
      rw [hformula, ← hnew]
      exact hsegment
    · show Bindings.resolve? _ s.name = _
      simp [Bindings.resolve?, get?_selectSuggestion hplaced, hs.value_ne_nil]
  case length_eq =>
    rw [hnew, Line.text_ofSplit, hset, hold]
    simp
  case others =>
    exact fun other hother =>
      ⟨hothers other hother, (tokenAt?_congr (hothers other hother)).2⟩

/-- A blank before the caret, which counts as a word, gives way to a name with a blank in it, between
an operator and a group. -/
theorem placesTag_selectSuggestion_blank :
    let e : Editor := { line := .ofSplit "né*( ".toList ")-né".toList }
    let s : Suggestion := ⟨"1".toList, "net price".toList, "sales".toList, .text "7".toList⟩
    IsTag s ∧ AtSegmentEnd e.line ∧ ∃ place, PlacesTag e (e.selectSuggestion s) s place := by
  intro e s
  have hs : IsTag s :=
    ⟨by decide, by decide, by decide, by decide +kernel, by decide⟩
  have hline : AtSegmentEnd e.line := ⟨by decide +kernel, by decide +kernel⟩
  exact ⟨hs, hline, placesTag_selectSuggestion hs hline⟩

end FormulaPad.Editor
