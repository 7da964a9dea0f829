import FormulaPad.Proofs.Json.Values
import FormulaPad.Suggestion.Basic

/-!
# FormulaPad.Proofs.Suggestion.Delivered

Lists of suggestions as JSON text, and reading them back.

Texts come back whatever characters they hold, and so do integers of 64 bits. The
shape of a value tells what it is: a text stands between quotation marks, also
if it looks like a number, and a double has a point or a power of ten, also if it
is whole. What is left is the value of a double, which the reader computes in
doubles.

Main statements: `read?_writeList` (the text is that of the list) and
`readList?_writeList_iff` (the list comes back exactly if its doubles do).
-/

namespace FormulaPad

/-! ## Values -/

namespace SuggestionValue

/-- Integers of 64 bits, signed or unsigned, finite doubles, and all texts. -/
def Deliverable : SuggestionValue → Prop
  | number (.integer i) => -2 ^ 63 ≤ i ∧ i < 2 ^ 64
  | number (.double x) => x.isFinite = true
  | text _ => True

instance : DecidablePred Deliverable
  | number (.integer i) => inferInstanceAs (Decidable (-2 ^ 63 ≤ i ∧ i < 2 ^ 64))
  | number (.double x) => inferInstanceAs (Decidable (x.isFinite = true))
  | text _ => .isTrue trivial

theorem isWritten_toJson {v : SuggestionValue} (h : v.Deliverable) : v.toJson.IsWritten := by
  cases v with
  | text t => exact ⟨t, rfl⟩
  | number n =>
      cases n with
      | integer i =>
          exact ⟨_, Json.Number.wellFormed_intParts i, Json.Number.text_intParts i⟩
      | double x =>
          obtain ⟨p, hp, -, htext⟩ := Json.Number.isFraction_writeDouble h
          exact ⟨p, hp, htext⟩

/-- Only a double may fail to come back. -/
theorem ofJson?_toJson_iff {v : SuggestionValue} (h : v.Deliverable) :
    ofJson? v.toJson = some v ↔
      ∀ x, v = .number (.double x) →
        Json.Number.read? (Json.Number.writeDouble x) = some (.double x) := by
  cases v with
  | text t => simp [toJson, ofJson?, Json.ofText, Json.decodeString?_encodeString]
  | number n =>
      cases n with
      | integer i => simp [toJson, ofJson?, Json.Number.write, Json.Number.read?_ofInt h.1 h.2]
      | double x => simp [toJson, ofJson?, Json.Number.write]

end SuggestionValue

/-! ## Suggestions -/

namespace Suggestion

/-- The keys of the four fields. -/
def keys : List Text := ["id".toList, "name".toList, "category".toList, "value".toList]

/-- No character of a key needs another form. -/
theorem encodeString_of_mem_keys : ∀ key ∈ keys, Json.encodeString key = key := by decide

theorem isWritten_toJson {s : Suggestion} (h : s.value.Deliverable) : s.toJson.IsWritten := by
  have hkey : ∀ key ∈ keys, Json.IsStringText key := fun key hmem =>
    ⟨key, encodeString_of_mem_keys key hmem⟩
  simp only [keys, List.forall_mem_cons] at hkey
  obtain ⟨hid, hname, hcategory, hvalue, -⟩ := hkey
  exact ⟨hid, ⟨s.id, rfl⟩, hname, ⟨s.name, rfl⟩, hcategory, ⟨s.category, rfl⟩, hvalue,
    SuggestionValue.isWritten_toJson h, trivial⟩

/-- The four fields are found by their keys. -/
theorem ofJson?_object (id name category value : Json) :
    ofJson? (.object [("id".toList, id), ("name".toList, name), ("category".toList, category),
      ("value".toList, value)]) = ofFields? id name category value := rfl

/-- All fields but the value come back as they are. -/
theorem ofJson?_toJson (s : Suggestion) :
    ofJson? s.toJson = (SuggestionValue.ofJson? s.value.toJson).map ({ s with value := · }) := by
  rw [toJson, ofJson?_object]
  simp [ofFields?, Json.text?_ofText, Option.map_eq_bind]

theorem ofJson?_toJson_iff (s : Suggestion) :
    ofJson? s.toJson = some s ↔ SuggestionValue.ofJson? s.value.toJson = some s.value := by
  rw [ofJson?_toJson, Option.map_eq_some_iff]
  constructor
  · rintro ⟨v, hv, heq⟩
    rw [hv, ← heq]
  · exact fun h => ⟨s.value, h, rfl⟩

/-! ## Lists -/

theorem areWritten_map_toJson {ss : List Suggestion} (h : ∀ s ∈ ss, s.value.Deliverable) :
    Json.AreWritten (ss.map toJson) := by
  induction ss with
  | nil => trivial
  | cons s ss ih =>
      rw [List.forall_mem_cons] at h
      exact ⟨isWritten_toJson h.1, ih h.2⟩

/-- The text of a list is read as the array of its suggestions. -/
theorem read?_writeList {ss : List Suggestion} (h : ∀ s ∈ ss, s.value.Deliverable) :
    Json.read? (writeList ss) = some (.array (ss.map toJson)) :=
  Json.read?_write (v := .array (ss.map toJson)) (areWritten_map_toJson h)

/-- A list comes back if each of its suggestions does. -/
theorem mapM_map_toJson_iff (ss : List Suggestion) :
    (ss.map toJson).mapM ofJson? = some ss ↔ ∀ s ∈ ss, ofJson? s.toJson = some s := by
  induction ss with
  | nil => simp
  | cons s ss ih =>
      rw [List.map_cons, List.mapM_cons, List.forall_mem_cons, ← ih]
      cases ofJson? s.toJson with
      | none => simp
      | some t => cases (ss.map toJson).mapM ofJson? <;> simp

/-- **A list of suggestions** comes back from its text, in its order and with all texts and values as
they are, exactly if each of its doubles comes back from the text that is written for it. -/
theorem readList?_writeList_iff {ss : List Suggestion} (h : ∀ s ∈ ss, s.value.Deliverable) :
    readList? (writeList ss) = some ss ↔
      ∀ s ∈ ss, ∀ x, s.value = .number (.double x) →
        Json.Number.read? (Json.Number.writeDouble x) = some (.double x) := by
  rw [readList?, read?_writeList h, Option.bind_some, listOfJson?, mapM_map_toJson_iff]
  refine forall₂_congr fun s hs => ?_
  rw [ofJson?_toJson_iff, SuggestionValue.ofJson?_toJson_iff (h s hs)]

/-- Values that look alike, and texts with characters of all kinds, come back. -/
theorem readList?_writeList_alike :
    let ss : List Suggestion :=
      [⟨"1".toList, "\"a\" \\ /b".toList, "\t\r\n\x00\x1f\x7f".toList, .number (.integer 3)⟩,
        ⟨[], "größe 😀".toList, "√".toList, .number (.double 3)⟩,
        ⟨"3".toList, "n".toList, "null".toList, .text "3".toList⟩,
        ⟨"4".toList, "n".toList, "true".toList, .text "3.0".toList⟩,
        ⟨"5".toList, "n".toList, [], .number (.double (-0.0))⟩,
        ⟨"6".toList, "n".toList, [], .number (.integer (2 ^ 64 - 1))⟩,
        ⟨"7".toList, "n".toList, [], .number (.integer (-2 ^ 63))⟩]
    (∀ s ∈ ss, s.value.Deliverable) ∧
      (∀ s ∈ ss, ∀ x, s.value = .number (.double x) →
        Json.Number.read? (Json.Number.writeDouble x) = some (.double x)) ∧
      readList? (writeList ss) = some ss := by
  intro ss
  have hvalues : ∀ s ∈ ss, s.value.Deliverable := by decide +kernel
  have hdoubles : ∀ s ∈ ss, ∀ x, s.value = .number (.double x) →
      Json.Number.read? (Json.Number.writeDouble x) = some (.double x) := by
    intro s hs x hx
    simp only [ss, List.mem_cons, List.not_mem_nil, or_false] at hs
    rcases hs with rfl | rfl | rfl | rfl | rfl | rfl | rfl <;> cases hx <;> decide +kernel
  exact ⟨hvalues, hdoubles, (readList?_writeList_iff hvalues).2 hdoubles⟩

/-- Not every double comes back: of this one the last place is lost. -/
example : Json.Number.read? (Json.Number.writeDouble 5.684341886080802e-14) =
    some (.double 5.684341886080803e-14) := by decide +kernel

end Suggestion
end FormulaPad
