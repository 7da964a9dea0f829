import FormulaPad.Proofs.Digits
import FormulaPad.Proofs.Tokens
import FormulaPad.View
import Mathlib.Data.List.Find

/-!
# FormulaPad.Proofs.Chips

The chips of a view.

A chip stands for a segment of the formula that is a name. Main statements:
`chips_build` and `mem_chips_build_iff` (which chips there are), `nodup_dropdownIds`
(no two have the same dropdown), `isSome_openChip?_build_iff` (when one of them is
open), `chip?_build_eq_some_iff` (which of them has an identifier) and, from all of
these, `opensOne_build`.
-/

namespace FormulaPad

open Formula

/-- What an item says of the formula: the name on a chip, or the text of a number or an operator. -/
def ViewItem.caption : ViewItem → Text
  | .text t => t
  | .chip c => c.name

/-! ## The identifiers of dropdowns -/

/-- Dropdowns at different places have different identifiers. -/
theorem Formula.dropdownId_injective : Function.Injective dropdownId := by
  intro m n h
  have hdigits : Text.ofNat m = Text.ofNat n := List.append_cancel_left h
  rw [← Text.natOfDigits_ofNat m, hdigits, Text.natOfDigits_ofNat]

/-- No two variables of a formula have the same dropdown. -/
theorem Formula.nodup_dropdownIds (formula : Text) :
    ((tokenize formula).filterMap Token.dropdownId?).Nodup := by
  refine List.pairwise_filterMap.2 ((pairwise_tokensFrom 0 (segments formula)).imp ?_)
  intro token later hlt id hid id' hid' hsame
  obtain ⟨-, -, rfl⟩ := Option.map_eq_some_iff.1 hid
  obtain ⟨-, -, rfl⟩ := Option.map_eq_some_iff.1 hid'
  exact hlt.ne (dropdownId_injective hsame)

namespace View

variable {formula : Text} {tags : Bindings} {suggestions : Option (List Suggestion)}
  {openId : Option Text}

/-! ## Which chips there are -/

/-- The chips are the variables among the tokens, in order. -/
theorem chips_build :
    (build formula tags suggestions openId).chips =
      (tokenize formula).filterMap fun token =>
        token.name?.map (chipOf tags suggestions openId token.index) := by
  rw [chips, build, List.filterMap_map]
  refine List.filterMap_congr fun token _ => ?_
  obtain ⟨index, kind⟩ := token
  cases kind <;> rfl

/-- A chip stands for a segment that is a name, at its place. -/
theorem mem_chips_build_iff {chip : Chip} :
    chip ∈ (build formula tags suggestions openId).chips ↔
      ∃ segment, (segments formula)[chip.index]? = some segment ∧
        classify? segment = some (.name chip.name) ∧
        chip = chipOf tags suggestions openId chip.index chip.name := by
  rw [chips_build, List.mem_filterMap]
  constructor
  · rintro ⟨token, htoken, hitem⟩
    obtain ⟨name, hname, rfl⟩ := Option.map_eq_some_iff.1 hitem
    obtain ⟨segment, hget, hkind⟩ := mem_tokenize_iff.1 htoken
    exact ⟨segment, hget, TokenKind.name?_eq_some_iff.1 hname ▸ hkind, rfl⟩
  · rintro ⟨segment, hget, hkind, hchip⟩
    refine ⟨⟨chip.index, .name chip.name⟩, mem_tokenize_iff.2 ⟨segment, hget, hkind⟩, ?_⟩
    exact congrArg some hchip.symm

theorem map_name_chips_build :
    (build formula tags suggestions openId).chips.map Chip.name =
      (tokenize formula).filterMap Token.name? := by
  rw [chips_build, List.map_filterMap]
  refine List.filterMap_congr fun token _ => ?_
  rw [Option.map_map]
  exact Option.map_id'

theorem map_dropdownId_chips_build :
    (build formula tags suggestions openId).chips.map Chip.dropdownId =
      (tokenize formula).filterMap Token.dropdownId? := by
  rw [chips_build, List.map_filterMap]
  refine List.filterMap_congr fun token _ => ?_
  rw [Option.map_map]
  rfl

/-- No two chips have the same dropdown. -/
theorem nodup_map_dropdownId_build :
    ((build formula tags suggestions openId).chips.map Chip.dropdownId).Nodup := by
  rw [map_dropdownId_chips_build]
  exact nodup_dropdownIds formula

theorem value_of_mem_chips_build {chip : Chip}
    (h : chip ∈ (build formula tags suggestions openId).chips) :
    chip.value = tags.resolve? chip.name := by
  obtain ⟨-, -, -, hchip⟩ := mem_chips_build_iff.1 h
  rw [hchip]
  rfl

/-- The items say what stands between the operators, blanks aside. -/
theorem exists_item_of_mem_segments {segment : Text} (h : segment ∈ segments formula)
    (hne : Text.trim segment ≠ []) :
    ∃ item ∈ (build formula tags suggestions openId).items, item.caption = Text.trim segment := by
  obtain ⟨n, hn⟩ := List.mem_iff_getElem?.1 h
  obtain ⟨kind, hkind⟩ := exists_classify? hne
  refine ⟨itemOf tags suggestions openId ⟨n, kind⟩, ?_, ?_⟩
  · exact List.mem_map_of_mem (mem_tokenize_iff.2 ⟨segment, hn, hkind⟩)
  · rw [← text_of_classify? hkind]
    cases kind <;> rfl

/-- A segment that is a name has a chip. -/
theorem exists_chip_of_mem_segments {segment name : Text} (h : segment ∈ segments formula)
    (hname : classify? segment = some (.name name)) :
    ∃ chip ∈ (build formula tags suggestions openId).chips,
      chip.name = name ∧ chip.value = tags.resolve? name := by
  obtain ⟨n, hn⟩ := List.mem_iff_getElem?.1 h
  refine ⟨chipOf tags suggestions openId n name, mem_chips_build_iff.2 ?_, rfl, rfl⟩
  exact ⟨segment, hn, hname, rfl⟩

/-! ## Which of them is open -/

theorem isOpen_iff {chip : Chip} (h : chip ∈ (build formula tags suggestions openId).chips) :
    chip.isOpen = true ↔ openId = some chip.dropdownId := by
  obtain ⟨-, -, -, hchip⟩ := mem_chips_build_iff.1 h
  rw [hchip]
  exact beq_iff_eq

/-- The open chip is a chip of the view, and its dropdown is the one that is open. -/
theorem of_openChip?_build {chip : Chip}
    (h : (build formula tags suggestions openId).openChip? = some chip) :
    chip ∈ (build formula tags suggestions openId).chips ∧ openId = some chip.dropdownId := by
  have hmem := List.mem_of_find?_eq_some h
  exact ⟨hmem, (isOpen_iff hmem).1 (List.find?_some h)⟩

/-- A chip is open exactly if a dropdown is, and it is the dropdown of a chip. -/
theorem isSome_openChip?_build_iff :
    (build formula tags suggestions openId).openChip?.isSome = true ↔
      ∃ chip ∈ (build formula tags suggestions openId).chips, openId = some chip.dropdownId := by
  rw [openChip?, List.find?_isSome]
  constructor
  · rintro ⟨chip, hmem, hopen⟩
    exact ⟨chip, hmem, (isOpen_iff hmem).1 hopen⟩
  · rintro ⟨chip, hmem, hopen⟩
    exact ⟨chip, hmem, (isOpen_iff hmem).2 hopen⟩

/-- At most one chip is open: as many as have the identifier that is open. -/
theorem countP_isOpen_build_le :
    (build formula tags suggestions openId).chips.countP Chip.isOpen ≤ 1 := by
  cases openId with
  | none =>
      have hclosed : (build formula tags suggestions none).chips.countP Chip.isOpen = 0 :=
        List.countP_eq_zero.2 fun chip hmem hopen => nomatch (isOpen_iff hmem).1 hopen
      rw [hclosed]
      exact Nat.zero_le 1
  | some id =>
      calc (build formula tags suggestions (some id)).chips.countP Chip.isOpen
          = ((build formula tags suggestions (some id)).chips.map Chip.dropdownId).count id := by
            rw [List.count_eq_countP, List.countP_map]
            refine List.countP_congr fun chip hmem => ?_
            rw [isOpen_iff hmem, Option.some_inj, Function.comp_apply, beq_iff_eq, eq_comm]
        _ ≤ 1 := List.nodup_iff_count_le_one.1 nodup_map_dropdownId_build id

/-! ## Which of them has an identifier -/

/-- By an identifier the chip is found whose dropdown has it. -/
theorem chip?_build_eq_some_iff {chip : Chip} {id : Text} :
    (build formula tags suggestions openId).chip? id = some chip ↔
      chip ∈ (build formula tags suggestions openId).chips ∧ chip.dropdownId = id := by
  constructor
  · intro h
    exact ⟨List.mem_of_find?_eq_some h, by simpa using List.find?_some h⟩
  · rintro ⟨hmem, rfl⟩
    have hsome : ((build formula tags suggestions openId).chip? chip.dropdownId).isSome = true :=
      List.find?_isSome.2 ⟨chip, hmem, decide_eq_true rfl⟩
    obtain ⟨other, hother⟩ := Option.isSome_iff_exists.1 hsome
    have hid : other.dropdownId = chip.dropdownId := by simpa using List.find?_some hother
    obtain rfl : other = chip := List.inj_on_of_nodup_map nodup_map_dropdownId_build
      (List.mem_of_find?_eq_some hother) hmem hid
    exact hother

/-- The open chip is the one that is found by the identifier of its dropdown. -/
theorem chip?_of_openChip?_build {chip : Chip}
    (h : (build formula tags suggestions openId).openChip? = some chip) :
    (build formula tags suggestions openId).chip? chip.dropdownId = some chip :=
  chip?_build_eq_some_iff.2 ⟨(of_openChip?_build h).1, rfl⟩

/-- The open chip is the one that is found by the identifier that is open. -/
theorem openChip?_build_eq_bind :
    (build formula tags suggestions openId).openChip? =
      openId.bind (build formula tags suggestions openId).chip? := by
  have hopen : ∀ chip ∈ (build formula tags suggestions openId).chips,
      chip.isOpen = decide (openId = some chip.dropdownId) := by
    intro chip hmem
    rw [Bool.eq_iff_iff, isOpen_iff hmem, decide_eq_true_iff]
  rw [openChip?, List.find?_congr hopen]
  cases openId with
  | none => simp
  | some id => simp [chip?, eq_comm]

/-! ## What they stand for -/

/-- The variable that a chip stands for, at its place. -/
def tokenOf (chip : Chip) : Token := ⟨chip.index, .name chip.name⟩

/-- The chips stand for the variables among the tokens, each for one, in order. -/
theorem map_tokenOf_chips_build :
    (build formula tags suggestions openId).chips.map tokenOf =
      (tokenize formula).filter (·.name?.isSome) := by
  rw [chips_build, List.map_filterMap, ← List.filterMap_eq_filter]
  refine List.filterMap_congr fun token _ => ?_
  obtain ⟨index, kind⟩ := token
  cases kind <;> rfl

/-- The option is for this suggestion, and it is marked if its value is the one that is bound. -/
structure Offers (value : Option Text) (o : ChipOption) (s : Suggestion) : Prop where
  suggestionId_eq : o.suggestionId = s.id
  value_eq : o.value = s.valueText
  selected_iff : o.selected = true ↔ value = some s.valueText

/-- A chip offers the suggestions of its name, one by one. -/
theorem options_of_mem_chips_build {chip : Chip}
    (h : chip ∈ (build formula tags suggestions openId).chips) :
    List.Forall₂ (Offers chip.value) chip.options
      ((suggestions.getD []).filter (·.name = chip.name)) := by
  obtain ⟨-, -, -, hchip⟩ := mem_chips_build_iff.1 h
  rw [hchip]
  refine List.forall₂_map_left_iff.2 (List.forall₂_same.2 fun s _ => ⟨rfl, rfl, ?_⟩)
  exact beq_iff_eq

/-! ## Main statement -/

/-- The chips of a formula can be told apart by their dropdowns, and the one whose dropdown has the
identifier `openId` is open, if there is one. -/
structure OpensOne (formula : Text) (suggestions : Option (List Suggestion)) (openId : Option Text)
    (v : View) : Prop where
  nodup_dropdownId : (v.chips.map Chip.dropdownId).Nodup
  countP_isOpen_le : v.chips.countP Chip.isOpen ≤ 1
  isOpen_iff : ∀ chip ∈ v.chips, chip.isOpen = true ↔ openId = some chip.dropdownId
  /-- The open chip is the chip that is found by the identifier. -/
  openChip?_eq : v.openChip? = openId.bind v.chip?
  chip?_eq_some_iff : ∀ id chip, v.chip? id = some chip ↔ chip ∈ v.chips ∧ chip.dropdownId = id
  /-- There is one chip for each variable, with its place and name. -/
  tokens : v.chips.map tokenOf = (tokenize formula).filter (·.name?.isSome)
  /-- A chip is named by the segment at its place, without the blanks around it. -/
  segment : ∀ chip ∈ v.chips, (segments formula)[chip.index]?.map Text.trim = some chip.name
  options : ∀ chip ∈ v.chips,
    List.Forall₂ (Offers chip.value) chip.options
      ((suggestions.getD []).filter (·.name = chip.name))

/-- **Each chip of a view has a dropdown of its own, and at most one of them is open.** -/
theorem opensOne_build (formula : Text) (tags : Bindings) (suggestions : Option (List Suggestion))
    (openId : Option Text) :
    OpensOne formula suggestions openId (build formula tags suggestions openId) where
  nodup_dropdownId := nodup_map_dropdownId_build
  countP_isOpen_le := countP_isOpen_build_le
  isOpen_iff := fun _ => isOpen_iff
  openChip?_eq := openChip?_build_eq_bind
  chip?_eq_some_iff := fun _ _ => chip?_build_eq_some_iff
  tokens := map_tokenOf_chips_build
  segment := by
    intro chip hmem
    obtain ⟨segment, hget, hkind, -⟩ := mem_chips_build_iff.1 hmem
    rw [hget, Option.map_some, ← text_of_classify? hkind]
    rfl
  options := fun _ => options_of_mem_chips_build

/-- Of two chips of one name the identifier is that of the second. -/
example : (build "ab+2*ab".toList {} none (some "tag-4".toList)).openChip?.map tokenOf =
    some ⟨4, .name "ab".toList⟩ := by decide +kernel

end View
end FormulaPad
