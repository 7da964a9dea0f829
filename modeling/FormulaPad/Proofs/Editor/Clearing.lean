import FormulaPad.Proofs.Chips
import FormulaPad.Proofs.Editor.Sides
import FormulaPad.Proofs.Editor.Writes

/-!
# FormulaPad.Proofs.Editor.Clearing

Deleting backwards over the name of a tag.

What is deleted is the run of word characters before the caret, and it is this
run, as it was typed, that is bound to the empty value. Blanks are word
characters, but they do not belong to the name of a tag; and a name may have
other characters than those of words. So a tag loses its value exactly if its
name stands in the formula without blanks around it and is a word as a whole
(`StandsBare`).

Main statements: `get?_backspace` (what is bound), `trailingWord_eq_iff` (when
it is the name) and `clearsName_backspace`.
-/

namespace FormulaPad.Editor

open Formula Text

variable {e : Editor} {name : Text}

/-! ## What deleting backwards binds -/

/-- The word that is deleted is bound to the empty value, and no other binding changes. -/
theorem get?_backspace (h : e.line.text ≠ []) (tag : Text) :
    e.backspace.store.tags.get? tag =
      if tag = trailingWord e.line.before ∧ tag ≠ [] then some [] else e.store.tags.get? tag := by
  rw [store_backspace, backspaceWrites, if_neg h]
  cases hword : trailingWord? e.line.before with
  | some word =>
      obtain ⟨rfl, hne⟩ := trailingWord?_eq_some_iff.1 hword
      show ((e.store.setFormula _).setTag _ []).tags.get? tag = _
      rw [Store.get?_setTag, Store.tags_setFormula]
      by_cases htag : tag = trailingWord e.line.before
      · rw [if_pos htag, if_pos ⟨htag, htag ▸ hne⟩]
      · rw [if_neg htag, if_neg fun hboth => htag hboth.1]
  | none =>
      have hnil := trailingWord?_eq_none_iff.1 hword
      have hkept : (e.store.run (lineWrites e.line.eraseLast?)).tags = e.store.tags := by
        cases e.line.eraseLast? with
        | none => rfl
        | some line => exact Store.tags_setFormula e.store line.text
      show (e.store.run (lineWrites e.line.eraseLast?)).tags.get? tag = _
      rw [hkept, hnil, if_neg fun hboth => hboth.2 hboth.1]

/-- The word that is deleted leaves the line, which is the formula from then on. -/
theorem backspace_of_trailingWord (h : trailingWord e.line.before ≠ []) :
    e.backspace.line = .ofSplit (beforeWord e.line.before) e.line.after ∧
      e.backspace.store.formula = e.backspace.line.text := by
  have hbefore : e.line.before ≠ [] := fun hnil => h (by rw [hnil]; rfl)
  have htext : e.line.text ≠ [] := fun hnil =>
    hbefore (List.append_eq_nil_iff.1 (e.line.before_append_after.trans hnil)).1
  have hword : trailingWord? e.line.before = some (trailingWord e.line.before) :=
    trailingWord?_eq_some_iff.2 ⟨rfl, h⟩
  constructor
  · apply line_of_sides_eq
    have hboth : e.sides.before ++ e.sides.after ≠ [] := e.line.before_append_after ▸ htext
    rw [sides_backspace, Sides.backspace, if_neg hboth]
    exact if_neg h
  · rw [store_backspace, backspaceWrites, if_neg htext, hword]
    show ((e.store.setFormula e.backspace.line.text).setTag _ []).formula = _
    rw [Store.formula_setTag, Store.formula_setFormula]

/-! ## Typing -/

/-- One character after another is typed. -/
def typeText (e : Editor) (t : Text) : Editor := t.foldl insertChar e

theorem tags_typeText (e : Editor) (t : Text) : (e.typeText t).store.tags = e.store.tags := by
  induction t generalizing e with
  | nil => rfl
  | cons c t ih => exact (ih (e.insertChar c)).trans (Store.tags_setFormula _ _)

/-- While the line is the formula, what is typed at the caret is part of it. -/
theorem formula_typeText (h : e.store.formula = e.line.text) (t : Text) :
    (e.typeText t).store.formula = e.line.before ++ t ++ e.line.after := by
  induction t generalizing e with
  | nil => rw [List.append_nil, e.line.before_append_after, ← h]; rfl
  | cons c t ih =>
      have hline : (e.insertChar c).line = .ofSplit (e.line.before ++ [c]) e.line.after :=
        line_of_sides_eq (sides_insertText e [c])
      have hformula : (e.insertChar c).store.formula = (e.insertChar c).line.text :=
        Store.formula_setFormula _ _
      have hrest := ih hformula
      rw [hline, Line.before_ofSplit, Line.after_ofSplit] at hrest
      rw [List.append_cons]
      exact hrest

/-! ## Names and words -/

/-- The name is the last segment, without blanks around it, and a word as a whole. -/
structure StandsBare (formula name : Text) : Prop where
  getLast?_eq : (segments formula).getLast? = some name
  isWord : ∀ c ∈ name, isWordChar c = true

instance (formula name : Text) : Decidable (StandsBare formula name) :=
  decidable_of_iff
    ((segments formula).getLast? = some name ∧ name.all isWordChar = true)
    ⟨fun ⟨hlast, hword⟩ => ⟨hlast, List.all_eq_true.1 hword⟩,
      fun h => ⟨h.getLast?_eq, List.all_eq_true.2 h.isWord⟩⟩

/-- The last word of a segment is the name that it is, blanks aside, exactly if there are no blanks
and no other characters. -/
theorem trailingWord_eq_iff {segment : Text} :
    trailingWord segment = trim segment ↔
      segment = trim segment ∧ ∀ c ∈ trim segment, isWordChar c = true := by
  constructor
  · intro hword
    have hname : ∀ c ∈ trim segment, isWordChar c = true := fun c hc =>
      isWordChar_of_mem_trailingWord (hword ▸ hc)
    -- the blanks around the name are word characters, so they would belong to the word
    have hall : ∀ c ∈ segment, isWordChar c = true := by
      intro c hc
      cases hblank : isBlank c with
      | true => simp [isWordChar, hblank]
      | false => exact hname c (mem_trim hc hblank)
    exact ⟨(trailingWord_of_isWord hall).symm.trans hword, hname⟩
  · rintro ⟨htrim, hname⟩
    rw [htrim, trim_trim]
    exact trailingWord_of_isWord hname

/-! ## The name before the caret -/

/-- The line is the formula, the caret stands at its end, and the last token is this name, which ends
the formula. -/
structure EndsWithName (e : Editor) (name : Text) : Prop where
  formula_eq : e.store.formula = e.line.text
  after_eq : e.line.after = []
  last_token : ∃ token, (tokenize e.store.formula).getLast? = some token ∧
    token.kind = .name name ∧ token.index + 1 = (segments e.store.formula).length

/-- The name stands in the last segment, maybe among blanks. -/
theorem EndsWithName.exists_segment (h : EndsWithName e name) :
    ∃ segment, (segments e.store.formula).getLast? = some segment ∧
      classify? segment = some (.name name) := by
  obtain ⟨token, hlast, hkind, hindex⟩ := h.last_token
  obtain ⟨segment, hget, hclass⟩ := mem_tokenize_iff.1 (List.mem_of_getLast? hlast)
  refine ⟨segment, ?_, hkind ▸ hclass⟩
  rw [List.getLast?_eq_getElem?, ← hindex, Nat.add_sub_cancel]
  exact hget

theorem EndsWithName.before_eq (h : EndsWithName e name) : e.line.before = e.store.formula := by
  have hsides := e.line.before_append_after
  rwa [h.after_eq, List.append_nil, ← h.formula_eq] at hsides

theorem EndsWithName.name_ne_nil (h : EndsWithName e name) : name ≠ [] := by
  obtain ⟨segment, -, hclass⟩ := h.exists_segment
  have hname : name = trim segment := text_of_classify? hclass
  rintro rfl
  exact strip_ne_nil_of_classify? hclass (by rw [← strip_trim, ← hname]; rfl)

theorem EndsWithName.text_ne_nil (h : EndsWithName e name) : e.line.text ≠ [] := by
  obtain ⟨segment, hlast, hclass⟩ := h.exists_segment
  rw [← h.formula_eq]
  intro hnil
  obtain rfl : [] = segment := by
    rw [hnil] at hlast
    exact Option.some.inj hlast
  exact strip_ne_nil_of_classify? hclass rfl

/-- The word at the end of the formula is the name exactly if the name stands there bare. -/
theorem EndsWithName.trailingWord_eq_iff (h : EndsWithName e name) :
    trailingWord e.line.before = name ↔ StandsBare e.store.formula name := by
  obtain ⟨segment, hlast, hclass⟩ := h.exists_segment
  obtain ⟨lead, hformula, hlead, -⟩ := exists_before_last_segment hlast
  obtain rfl : name = trim segment := text_of_classify? hclass
  rw [h.before_eq, hformula, trailingWord_append hlead, Editor.trailingWord_eq_iff, ← hformula]
  constructor
  · rintro ⟨htrim, hword⟩
    exact ⟨hlast.trans (congrArg some htrim), hword⟩
  · intro hbare
    exact ⟨Option.some.inj (hlast.symm.trans hbare.getLast?_eq), hbare.isWord⟩

/-! ## Main statements -/

/-- After deleting backwards the name is bound to the empty value, and a chip of this name, once it
is typed again, shows no value. -/
structure ClearsName (e : Editor) (name : Text) : Prop where
  get?_eq : e.backspace.store.tags.get? name = some []
  exists_chip : ∀ suggestions, ∃ chip ∈ ((e.backspace.typeText name).view suggestions).chips,
    chip.name = name
  value_eq : ∀ t suggestions, ∀ chip ∈ ((e.backspace.typeText t).view suggestions).chips,
    chip.name = name → chip.value = none

/-- After deleting backwards the name has the value that it had, and a chip of this name, wherever
it is typed, shows this value. -/
structure KeepsName (e : Editor) (name : Text) : Prop where
  get?_eq : e.backspace.store.tags.get? name = e.store.tags.get? name
  value_eq : ∀ t suggestions, ∀ chip ∈ ((e.backspace.typeText t).view suggestions).chips,
    chip.name = name → chip.value = e.store.tags.resolve? name

/-- Whatever is typed, a chip shows the value that its name has after the deletion. -/
theorem value_of_mem_chips_typeText {t : Text} {suggestions : Option (List Suggestion)} {chip : Chip}
    (h : chip ∈ ((e.typeText t).view suggestions).chips) :
    chip.value = e.store.tags.resolve? chip.name := by
  rw [← tags_typeText e t]
  exact View.value_of_mem_chips_build h

/-- A bare name is cleared. -/
theorem EndsWithName.clearsName (h : EndsWithName e name)
    (hbare : StandsBare e.store.formula name) : ClearsName e name := by
  have hword : trailingWord e.line.before = name := h.trailingWord_eq_iff.2 hbare
  have hget : e.backspace.store.tags.get? name = some [] := by
    rw [get?_backspace h.text_ne_nil, if_pos ⟨hword.symm, h.name_ne_nil⟩]
  have hnone : e.backspace.store.tags.resolve? name = none := by
    rw [Bindings.resolve?, hget]
    rfl
  obtain ⟨hline, hformula⟩ := backspace_of_trailingWord (hword ▸ h.name_ne_nil)
  have htyped : (e.backspace.typeText name).store.formula = e.store.formula := by
    rw [formula_typeText hformula, hline, Line.before_ofSplit, Line.after_ofSplit, h.after_eq,
      List.append_nil, ← h.before_eq]
    conv_lhs => rw [← hword]
    exact beforeWord_append_trailingWord e.line.before
  obtain ⟨segment, hlast, hclass⟩ := h.exists_segment
  refine ⟨hget, fun suggestions => ?_, fun t suggestions chip hchip hname => ?_⟩
  · have hmem : segment ∈ segments (e.backspace.typeText name).store.formula :=
      htyped ▸ List.mem_of_getLast? hlast
    obtain ⟨chip, hchip, hname, -⟩ := View.exists_chip_of_mem_segments hmem hclass
    exact ⟨chip, hchip, hname⟩
  · rw [value_of_mem_chips_typeText hchip, hname, hnone]

/-- Any other name keeps its value. -/
theorem EndsWithName.keepsName (h : EndsWithName e name)
    (hbare : ¬ StandsBare e.store.formula name) : KeepsName e name := by
  have hword : name ≠ trailingWord e.line.before := fun heq =>
    hbare (h.trailingWord_eq_iff.1 heq.symm)
  have hget : e.backspace.store.tags.get? name = e.store.tags.get? name := by
    rw [get?_backspace h.text_ne_nil, if_neg fun hboth => hword hboth.1]
  refine ⟨hget, fun t suggestions chip hchip hname => ?_⟩
  rw [value_of_mem_chips_typeText hchip, hname, Bindings.resolve?, hget, Bindings.resolve?]

/-- **Deleting backwards over a name clears its tag where the name stands bare.** The word that is
deleted is bound to the empty value as it was typed, so that a name with blanks around it or with
other characters in it keeps its value. -/
theorem clearsName_backspace (h : EndsWithName e name) :
    (∀ tag, e.backspace.store.tags.get? tag =
      if tag = trailingWord e.store.formula ∧ tag ≠ [] then some [] else e.store.tags.get? tag) ∧
      (StandsBare e.store.formula name → ClearsName e name) ∧
      (¬ StandsBare e.store.formula name → KeepsName e name) := by
  refine ⟨fun tag => ?_, h.clearsName, h.keepsName⟩
  rw [get?_backspace h.text_ne_nil, h.before_eq]

/-- An editor with the caret at the end of a formula, where one name has a value. -/
def atEndOf (formula name value : Text) : Editor where
  store := .ofContent formula (.ofList [(name, value)])
  line := .ofText formula

/-- A formula ends with a name if its last token does. -/
theorem endsWithName_atEndOf {formula value : Text} (place : Nat)
    (h : (tokenize formula).getLast? = some ⟨place, .name name⟩ ∧
      place + 1 = (segments formula).length) :
    EndsWithName (atEndOf formula name value) name where
  formula_eq := rfl
  after_eq := by
    show (Line.ofText formula).after = []
    rw [Line.ofText_eq, Line.after_ofSplit]
  last_token := ⟨_, h.1, rfl, h.2⟩

/-- A name with a blank in it, but none around it. -/
theorem clearsName_backspace_bare :
    let e := atEndOf "2*(tax+net price".toList "net price".toList "9".toList
    EndsWithName e "net price".toList ∧ StandsBare e.store.formula "net price".toList ∧
      ClearsName e "net price".toList := by
  intro e
  have h : EndsWithName e "net price".toList := endsWithName_atEndOf 6 (by decide +kernel)
  have hbare : StandsBare e.store.formula "net price".toList := by decide +kernel
  exact ⟨h, hbare, (clearsName_backspace h).2.1 hbare⟩

/-- With a blank before the name, a blank after it, or a point in it, it keeps its value, so not
every name that is deleted backwards is cleared. -/
theorem not_clearsName_spaced :
    let before := atEndOf "2* tax".toList "tax".toList "9".toList
    let after := atEndOf "2*tax ".toList "tax".toList "9".toList
    let within := atEndOf "2*net.tax".toList "net.tax".toList "9".toList
    (EndsWithName before "tax".toList ∧
      before.backspace.store.tags.get? "tax".toList = some "9".toList) ∧
    (EndsWithName after "tax".toList ∧
      after.backspace.store.tags.get? "tax".toList = some "9".toList) ∧
    (EndsWithName within "net.tax".toList ∧
      within.backspace.store.tags.get? "net.tax".toList = some "9".toList) ∧
    ¬ ∀ e name, EndsWithName e name → ClearsName e name := by
  intro before after within
  have hbefore : EndsWithName before "tax".toList :=
    endsWithName_atEndOf 2 (by decide +kernel)
  have hafter : EndsWithName after "tax".toList :=
    endsWithName_atEndOf 2 (by decide +kernel)
  have hwithin : EndsWithName within "net.tax".toList :=
    endsWithName_atEndOf 2 (by decide +kernel)
  have hkept : before.backspace.store.tags.get? "tax".toList = some "9".toList := by
    rw [(hbefore.keepsName (by decide +kernel)).get?_eq]
    decide
  refine ⟨⟨hbefore, hkept⟩, ⟨hafter, ?_⟩, ⟨hwithin, ?_⟩, fun hclears => ?_⟩
  · rw [(hafter.keepsName (by decide +kernel)).get?_eq]
    decide
  · rw [(hwithin.keepsName (by decide +kernel)).get?_eq]
    decide
  · exact nomatch (hclears before _ hbefore).get?_eq.symm.trans hkept

end FormulaPad.Editor
