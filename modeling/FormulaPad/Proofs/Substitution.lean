import FormulaPad.Evaluation
import FormulaPad.Proofs.Variables

/-!
# FormulaPad.Proofs.Substitution

What substitution makes of a formula.

Replacing a variable everywhere in the text acts on each variable of the formula
by itself (`substitute_eq_replaceEach`): what stands between the variables is
kept, character by character and in its place (`substitute_keeps_gaps`). Inside a
longer name it does act, on the name of a shorter one.
`substitute_iff_namesApart` tells exactly for which formulas that never shows:
whatever numerals are bound, each variable ends up, up to blanks, as the value of
its own name if and only if the first variable that occurs in its text has that
name.
-/

namespace FormulaPad.Evaluation

open Formula Text

/-! ## Substitution acts on each variable by itself -/

/-- The value that replaces a variable. -/
def replacement (tags : Bindings) (run : Text) : Text := (valueOf? tags run).getD []

theorem replaceVariables_cons (tags : Bindings) (run : Text) (runs : List Text) (t : Text) :
    replaceVariables tags (run :: runs) t =
      replaceVariables tags runs (replaceAll run (replacement tags run) t) := rfl

theorem replaceVariables_append (tags : Bindings) (runs more : List Text) (t : Text) :
    replaceVariables tags (runs ++ more) t =
      replaceVariables tags more (replaceVariables tags runs t) := List.foldl_append

theorem replaceVariables_fill (tags : Bindings) {runs : List Text}
    (hruns : ∀ run ∈ runs, IsVariable run) (f : Text → Text) {ps : List Piece}
    (hs : Separated ps) :
    replaceVariables tags runs (fill f ps) =
      fill (fun r => replaceVariables tags runs (f r)) ps := by
  induction runs generalizing f with
  | nil => rfl
  | cons run runs ih =>
      rw [replaceVariables_cons, replaceAll_fill (hruns run List.mem_cons_self) _ f hs,
        ih fun r hr => hruns r (List.mem_cons_of_mem run hr)]
      rfl

theorem replaceVariables_variableRuns (tags : Bindings) (formula : Text) :
    replaceVariables tags (variableRuns formula) formula =
      replaceEach (replaceVariables tags (variableRuns formula)) formula := by
  have hruns : ∀ run ∈ variableRuns formula, IsVariable run :=
    fun _ => isVariable_of_mem_variableRuns
  have h := replaceVariables_fill tags hruns id (separated_pieces formula)
  rwa [fill_id_pieces] at h

/-- No name is without a value exactly if every variable has one. -/
theorem unresolvedNames_eq_nil_iff {formula : Text} {tags : Bindings} :
    unresolvedNames formula tags = [] ↔
      ∀ run ∈ variableRuns formula, (valueOf? tags run).isSome = true := by
  simp [unresolvedNames, List.filter_eq_nil_iff, valueOf?, Option.isSome_iff_ne_none]

/-- If every variable has a value, each one ends up as what the replacements make of its own text,
and all else is kept. -/
theorem substitute_eq_replaceEach {formula : Text} {tags : Bindings}
    (h : ∀ run ∈ variableRuns formula, (valueOf? tags run).isSome = true) :
    substitute formula tags =
      .ok (replaceEach (replaceVariables tags (variableRuns formula)) formula) := by
  rw [substitute, unresolvedNames_eq_nil_iff.mpr h, replaceVariables_variableRuns]

/-! ## The rest of the formula -/

/-- A variable with a value that is not empty is replaced by a text that is not empty. -/
theorem replaceVariables_ne_nil {tags : Bindings} {runs : List Text} {t : Text}
    (hvalues : ∀ run ∈ runs, replacement tags run ≠ []) (ht : t ≠ []) :
    replaceVariables tags runs t ≠ [] := by
  induction runs generalizing t with
  | nil => exact ht
  | cons run runs ih =>
      rw [replaceVariables_cons]
      exact ih (fun r hr => hvalues r (List.mem_cons_of_mem run hr))
        (replaceAll_ne_nil run (hvalues run List.mem_cons_self) ht)

/-- The gaps between the variables stay as they are and where they are, whatever the values are made
of: a formula `t₀ m₁ t₁ ⋯ mₖ tₖ` with the variables `mᵢ` becomes `t₀ r₁ t₁ ⋯ rₖ tₖ`, and no `rᵢ` is
empty. -/
theorem substitute_keeps_gaps {formula : Text} {tags : Bindings}
    (h : ∀ run ∈ variableRuns formula, ∃ v, tags.get? (trim run) = some v ∧ v ≠ []) :
    weave (gaps (pieces formula)) (variableRuns formula) = formula ∧
      (gaps (pieces formula)).length = (variableRuns formula).length + 1 ∧
      ∃ texts, texts.length = (variableRuns formula).length ∧ (∀ r ∈ texts, r ≠ []) ∧
        substitute formula tags = .ok (weave (gaps (pieces formula)) texts) := by
  have hvalue : ∀ run ∈ variableRuns formula, ∃ v, valueOf? tags run = some v ∧ v ≠ [] := by
    intro run hrun
    obtain ⟨v, hget, hne⟩ := h run hrun
    exact ⟨v, by simp [valueOf?, Bindings.resolve?, hget, hne], hne⟩
  have hreplacement : ∀ run ∈ variableRuns formula, replacement tags run ≠ [] := by
    intro run hrun
    obtain ⟨v, hv, hne⟩ := hvalue run hrun
    rwa [replacement, hv]
  refine ⟨weave_variableRuns formula, length_gaps (pieces formula),
    (variableRuns formula).map (replaceVariables tags (variableRuns formula)),
    List.length_map _, ?_, ?_⟩
  · intro r hr
    obtain ⟨run, hrun, rfl⟩ := List.mem_map.mp hr
    exact replaceVariables_ne_nil hreplacement (isVariable_of_mem_variableRuns hrun).ne_nil
  · rw [substitute_eq_replaceEach fun run hrun => ?_, replaceEach, fill_eq_weave]
    · rfl
    · obtain ⟨v, hv, -⟩ := hvalue run hrun
      rw [hv]
      rfl

/-- Values with parentheses and signs, one of them for the start of another name. -/
def signedValues : Bindings :=
  .ofList [("ab".toList, "(1)".toList), ("ab2".toList, "7".toList), ("cd 1".toList, "-0.5".toList)]

/-- Operators, a numeral, a foreign character and a lone letter around three variables. -/
theorem substitute_keeps_gaps_signed :
    (∀ run ∈ variableRuns "2*(ab+ab2)^x-cd 1".toList,
      ∃ v, signedValues.get? (trim run) = some v ∧ v ≠ []) ∧
    weave (gaps (pieces "2*(ab+ab2)^x-cd 1".toList)) (variableRuns "2*(ab+ab2)^x-cd 1".toList) =
        "2*(ab+ab2)^x-cd 1".toList ∧
      (gaps (pieces "2*(ab+ab2)^x-cd 1".toList)).length =
        (variableRuns "2*(ab+ab2)^x-cd 1".toList).length + 1 ∧
      ∃ texts, texts.length = (variableRuns "2*(ab+ab2)^x-cd 1".toList).length ∧
        (∀ r ∈ texts, r ≠ []) ∧
        substitute "2*(ab+ab2)^x-cd 1".toList signedValues =
          .ok (weave (gaps (pieces "2*(ab+ab2)^x-cd 1".toList)) texts) := by
  have hvalues : ∀ run ∈ variableRuns "2*(ab+ab2)^x-cd 1".toList,
      ∃ v, signedValues.get? (trim run) = some v ∧ v ≠ [] := by
    have hruns : variableRuns "2*(ab+ab2)^x-cd 1".toList =
        ["ab".toList, "ab2".toList, "cd 1".toList] := by decide +kernel
    simp only [hruns, List.forall_mem_cons, List.not_mem_nil, false_implies, implies_true, and_true]
    exact ⟨⟨"(1)".toList, by decide, by decide⟩, ⟨"7".toList, by decide, by decide⟩,
      ⟨"-0.5".toList, by decide, by decide⟩⟩
  exact ⟨hvalues, substitute_keeps_gaps hvalues⟩

/-! ## Each occurrence by the value of its own name -/

/-- One or more decimal digits. -/
def IsDigits (t : Text) : Prop := t ≠ [] ∧ ∀ c ∈ t, c.isDigit = true

/-- Digits, perhaps with a minus sign before them, and perhaps with a fraction. -/
def IsPlainNumeral (v : Text) : Prop :=
  ∃ sign whole part, v = sign ++ whole ++ part ∧ (sign = [] ∨ sign = ['-']) ∧ IsDigits whole ∧
    (part = [] ∨ ∃ ds, IsDigits ds ∧ part = '.' :: ds)

/-- Every variable of the formula is bound to a plain numeral. -/
def BindsNumerals (formula : Text) (tags : Bindings) : Prop :=
  ∀ run ∈ variableRuns formula, ∃ v, tags.get? (trim run) = some v ∧ IsPlainNumeral v

/-- Up to blanks, substitution puts at the place of every variable the value of its name, and keeps
the rest of the formula. -/
def SubstitutesEach (formula : Text) (tags : Bindings) : Prop :=
  ∃ e, substitute formula tags = .ok e ∧
    strip e = strip (replaceEach (replacement tags) formula)

/-- The first variable whose text occurs in the text of a variable has the same name. -/
def NamesApart (formula : Text) : Prop :=
  ∀ run ∈ variableRuns formula,
    ∀ first ∈ (variableRuns formula).find? (fun r => decide (r <:+: run)), trim first = trim run

instance (formula : Text) : Decidable (NamesApart formula) :=
  inferInstanceAs (Decidable (∀ run ∈ variableRuns formula,
    ∀ first ∈ (variableRuns formula).find? (fun r => decide (r <:+: run)), trim first = trim run))

theorem IsPlainNumeral.ne_nil {v : Text} (h : IsPlainNumeral v) : v ≠ [] := by
  obtain ⟨sign, whole, part, rfl, -, hw, -⟩ := h
  simp [hw.1]

theorem IsPlainNumeral.not_isAlpha {v : Text} (h : IsPlainNumeral v) :
    ∀ c ∈ v, c.isAlpha = false := by
  obtain ⟨sign, whole, part, rfl, hsign, hw, hpart⟩ := h
  intro c hc
  rcases List.mem_append.mp hc with hc | hc
  · rcases List.mem_append.mp hc with hc | hc
    · rcases hsign with rfl | rfl
      · simp at hc
      · rw [List.mem_singleton.mp hc]; decide
    · exact not_isAlpha_of_isDigit (hw.2 c hc)
  · rcases hpart with rfl | ⟨ds, hds, rfl⟩
    · simp at hc
    · rcases List.mem_cons.mp hc with rfl | hc
      · decide
      · exact not_isAlpha_of_isDigit (hds.2 c hc)

theorem resolve?_of_isPlainNumeral {tags : Bindings} {name v : Text}
    (h : tags.get? name = some v) (hv : IsPlainNumeral v) : tags.resolve? name = some v := by
  rw [Bindings.resolve?, h]
  simp [hv.ne_nil]

/-- A numeral holds no name. -/
theorem IsPlainNumeral.not_trim_infix {run v : Text} (hv : IsPlainNumeral v)
    (hrun : IsVariable run) : ¬ trim run <:+: v := by
  obtain ⟨c, t, rfl, hc⟩ := hrun.startsWithLetter
  rw [trim_cons (isBlank_of_isAlpha hc)]
  intro h
  have hletter := hv.not_isAlpha c (h.subset List.mem_cons_self)
  rw [hc] at hletter
  cases hletter

/-- Variables that do not occur in a text leave it as it is. -/
theorem replaceVariables_of_absent {tags : Bindings} {runs : List Text} {t : Text}
    (h : ∀ run ∈ runs, ¬ run <:+: t) : replaceVariables tags runs t = t := by
  induction runs with
  | nil => rfl
  | cons run runs ih =>
      rw [List.forall_mem_cons] at h
      rw [replaceVariables_cons, replaceAll_of_absent h.1, ih h.2]

/-- Blanks around a text bring no variable into it whose name it does not hold. -/
theorem not_infix_append_of_not_trim_infix {run t u : Text} (hrun : IsVariable run)
    (h : ¬ trim run <:+: t) (hu : strip u = []) : ¬ run <:+: t ++ u := by
  obtain ⟨c, r, rfl, hc⟩ := hrun.startsWithLetter
  intro hin
  have htrim := trim_infix_trim (isBlank_of_isAlpha hc) hin
  rw [trim_append hu] at htrim
  exact h (htrim.trans (isWithin_trim t))

/-- Variables that do not occur in a text leave it as it is, up to the first one that does. -/
theorem replaceVariables_eq_of_find? (tags : Bindings) {runs : List Text} {t first : Text}
    (h : runs.find? (fun r => decide (r <:+: t)) = some first) :
    ∃ rest, (∀ r ∈ rest, r ∈ runs) ∧
      replaceVariables tags runs t =
        replaceVariables tags rest (replaceAll first (replacement tags first) t) := by
  induction runs with
  | nil => simp at h
  | cons run runs ih =>
      by_cases hin : run <:+: t
      · obtain rfl : run = first := by simpa [hin] using h
        exact ⟨runs, fun r hr => List.mem_cons_of_mem run hr, rfl⟩
      · obtain ⟨rest, hrest, heq⟩ := ih (by simpa [hin] using h)
        refine ⟨rest, fun r hr => List.mem_cons_of_mem run (hrest r hr), ?_⟩
        rw [replaceVariables_cons, replaceAll_of_absent hin, heq]

/-! ## Names apart: each place gets its own value -/

theorem eq_nil_of_strip_eq_nil {s t : Text} (hrun : IsVariable (s ++ t)) (hs : strip s = []) :
    s = [] := by
  cases s with
  | nil => rfl
  | cons c s =>
      obtain ⟨d, r, hd, ha⟩ := hrun.startsWithLetter
      obtain rfl : c = d := by simpa using congrArg List.head? hd
      have := strip_eq_nil_iff.mp hs c List.mem_cons_self
      simp [isBlank_of_isAlpha ha] at this

/-- A variable within a variable has the same name if there are only blanks around it. -/
theorem trim_eq_iff_strip_around {first s u : Text} (hrun : IsVariable (s ++ (first ++ u)))
    (hfirst : IsVariable first) :
    trim first = trim (s ++ (first ++ u)) ↔ strip s = [] ∧ strip u = [] := by
  constructor
  · intro htrim
    have hstrip : strip first = strip (s ++ (first ++ u)) := by rw [← strip_trim, htrim, strip_trim]
    have hlen := congrArg List.length hstrip
    rw [strip_append, strip_append, List.length_append, List.length_append] at hlen
    exact ⟨List.eq_nil_of_length_eq_zero (by omega), List.eq_nil_of_length_eq_zero (by omega)⟩
  · rintro ⟨hs, hu⟩
    obtain ⟨c, t, rfl, ha⟩ := hfirst.startsWithLetter
    rw [eq_nil_of_strip_eq_nil hrun hs, List.nil_append, List.cons_append, trim, trim,
      trimStart_cons (isBlank_of_isAlpha ha), trimStart_cons (isBlank_of_isAlpha ha),
      ← List.cons_append, trimEnd_append hu]

/-- Where the first variable to occur in a text has the name of that text, its value is what
remains of the text, if it holds no name itself. -/
theorem strip_replaceVariables {tags : Bindings} {runs : List Text} {run first : Text}
    (hruns : ∀ r ∈ runs, IsVariable r) (hrun : IsVariable run)
    (hfind : runs.find? (fun r => decide (r <:+: run)) = some first)
    (htrim : trim first = trim run) (hv : ∀ r ∈ runs, ¬ trim r <:+: replacement tags run) :
    strip (replaceVariables tags runs run) = strip (replacement tags run) := by
  have hfirst : IsVariable first := hruns first (List.mem_of_find?_eq_some hfind)
  have hin : first <:+: run := by simpa using List.find?_some hfind
  have hval : replacement tags first = replacement tags run := by
    rw [replacement, replacement, valueOf?, valueOf?, htrim]
  obtain ⟨rest, hrest, heq⟩ := replaceVariables_eq_of_find? tags hfind
  obtain ⟨s, u, hsu, hrep⟩ := exists_replaceAll_eq_of_occurs hfirst.ne_nil hin
    (replacement tags first)
  rw [hsu] at hrun htrim
  obtain ⟨hs, hu⟩ := (trim_eq_iff_strip_around hrun hfirst).mp htrim
  have hkeep : replaceAll first (replacement tags first) u = u := by
    refine replaceAll_of_absent fun hocc => ?_
    obtain ⟨c, t, hcons, hc⟩ := hfirst.startsWithLetter
    have hblank := strip_eq_nil_iff.mp hu c (hocc.subset (by simp [hcons]))
    rw [isBlank_of_isAlpha hc] at hblank
    cases hblank
  have hkept : ∀ r ∈ rest, ¬ r <:+: replacement tags run ++ u := fun r hr =>
    not_infix_append_of_not_trim_infix (hruns r (hrest r hr)) (hv r (hrest r hr)) hu
  rw [heq, hrep, hkeep, eq_nil_of_strip_eq_nil hrun hs, List.nil_append, hval,
    replaceVariables_of_absent hkept, strip_append, hu, List.append_nil]

theorem exists_find?_occurring {runs : List Text} {run : Text} (h : run ∈ runs) :
    ∃ first, runs.find? (fun r => decide (r <:+: run)) = some first := by
  have : (runs.find? (fun r => decide (r <:+: run))).isSome = true := by
    rw [List.find?_isSome]
    exact ⟨run, h, by simp⟩
  exact Option.isSome_iff_exists.mp this

theorem exists_value_of_bindsNumerals {formula : Text} {tags : Bindings}
    (htags : BindsNumerals formula tags) {run : Text} (hrun : run ∈ variableRuns formula) :
    ∃ v, valueOf? tags run = some v ∧ IsPlainNumeral v := by
  obtain ⟨v, hv, hnum⟩ := htags run hrun
  exact ⟨v, resolve?_of_isPlainNumeral hv hnum, hnum⟩

theorem substitutesEach_of_namesApart {formula : Text} {tags : Bindings}
    (hapart : NamesApart formula) (htags : BindsNumerals formula tags) :
    SubstitutesEach formula tags := by
  refine ⟨_, substitute_eq_replaceEach fun run hrun => ?_, strip_fill_congr fun run hrun => ?_⟩
  · obtain ⟨v, hv, -⟩ := exists_value_of_bindsNumerals htags hrun
    rw [hv]; rfl
  · obtain ⟨v, hv, hnum⟩ := exists_value_of_bindsNumerals htags hrun
    obtain ⟨first, hfind⟩ := exists_find?_occurring hrun
    refine strip_replaceVariables (fun r => isVariable_of_mem_variableRuns)
      (isVariable_of_mem_variableRuns hrun) hfind (hapart run hrun first hfind) ?_
    intro r hr
    rw [replacement, hv]
    exact hnum.not_trim_infix (isVariable_of_mem_variableRuns hr)

/-! ## Names not apart: a value that does not fit -/

/-- A value that no variable has a part of: its first character is no word character. -/
def minusOne : Text := ['-', '1']

/-- Every name bound to `minusOne`. -/
def minusOnes (runs : List Text) : Bindings := ⟨runs.map fun run => (trim run, minusOne)⟩

theorem get?_minusOnes {runs : List Text} {run : Text} (h : run ∈ runs) :
    (minusOnes runs).get? (trim run) = some minusOne := by
  induction runs with
  | nil => simp at h
  | cons r runs ih =>
      by_cases heq : trim run = trim r
      · simp [minusOnes, Bindings.get?, heq]
      · have hmem : run ∈ runs := (List.mem_cons.mp h).resolve_left fun he => heq (by rw [he])
        have hih := ih hmem
        simp only [minusOnes, Bindings.get?] at hih
        simp [minusOnes, Bindings.get?, List.lookup_cons, beq_false_of_ne heq, hih]

theorem isPlainNumeral_minusOne : IsPlainNumeral minusOne :=
  ⟨['-'], ['1'], [], rfl, .inr rfl, ⟨by simp, by simp⟩, .inl rfl⟩

theorem bindsNumerals_minusOnes (formula : Text) :
    BindsNumerals formula (minusOnes (variableRuns formula)) :=
  fun _ hrun => ⟨minusOne, get?_minusOnes hrun, isPlainNumeral_minusOne⟩

theorem replacement_minusOnes {runs : List Text} {run : Text} (h : run ∈ runs) :
    replacement (minusOnes runs) run = minusOne := by
  rw [replacement, valueOf?, resolve?_of_isPlainNumeral (get?_minusOnes h) isPlainNumeral_minusOne]
  rfl

/-- The text holds `minusOne`, and if `more` does, something else that is no blank. -/
def HoldsValue (more : Prop) (t : Text) : Prop :=
  ∃ s u, t = s ++ (minusOne ++ u) ∧ (more → strip s ≠ [] ∨ strip u ≠ [])

/-- No occurrence of a variable touches a `minusOne`. -/
theorem replaceAll_append_minusOne {run : Text} (hrun : IsVariable run) (value s u : Text) :
    replaceAll run value (s ++ (minusOne ++ u)) =
      replaceAll run value s ++ (minusOne ++ replaceAll run value u) := by
  have hleft : ∀ c ∈ (minusOne ++ u).head?, isWordChar c = false := by
    intro c hc
    obtain rfl : '-' = c := by simpa [minusOne] using hc
    decide
  rw [replaceAll_append (not_crosses_of_head? hrun hleft)]
  show _ ++ replaceAll run value ('-' :: '1' :: u) = _
  rw [replaceAll_cons_of_not_isAlpha hrun (by decide), replaceAll_cons_of_not_isAlpha hrun (by decide)]
  rfl

theorem strip_minusOne_ne_nil : strip minusOne ≠ [] := by decide

theorem HoldsValue.replaceAll {more : Prop} {run t : Text} (hrun : IsVariable run)
    (h : HoldsValue more t) : HoldsValue more (replaceAll run minusOne t) := by
  obtain ⟨s, u, rfl, hmore⟩ := h
  refine ⟨_, _, replaceAll_append_minusOne hrun minusOne s u, fun hm => ?_⟩
  cases hmore hm with
  | inl hs => exact .inl (strip_replaceAll_ne_nil run strip_minusOne_ne_nil hs)
  | inr hu => exact .inr (strip_replaceAll_ne_nil run strip_minusOne_ne_nil hu)

theorem HoldsValue.replaceVariables {more : Prop} {tags : Bindings} {runs : List Text} {t : Text}
    (hruns : ∀ r ∈ runs, IsVariable r ∧ replacement tags r = minusOne) (h : HoldsValue more t) :
    HoldsValue more (replaceVariables tags runs t) := by
  induction runs generalizing t with
  | nil => exact h
  | cons run runs ih =>
      obtain ⟨hrun, hval⟩ := hruns run List.mem_cons_self
      rw [replaceVariables_cons, hval]
      exact ih (fun r hr => hruns r (List.mem_cons_of_mem run hr)) (h.replaceAll hrun)

theorem HoldsValue.length_strip {more : Prop} {t : Text} (h : HoldsValue more t) :
    2 ≤ (strip t).length ∧ (more → 3 ≤ (strip t).length) := by
  obtain ⟨s, u, rfl, hmore⟩ := h
  have hlen : (strip (s ++ (minusOne ++ u))).length = (strip s).length + 2 + (strip u).length := by
    have h2 : (strip minusOne).length = 2 := by decide
    rw [strip_append, strip_append, List.length_append, List.length_append, h2, Nat.add_assoc]
  rw [hlen]
  refine ⟨by omega, fun hm => ?_⟩
  cases hmore hm with
  | inl hs =>
      have := List.length_pos_iff.mpr hs
      omega
  | inr hu =>
      have := List.length_pos_iff.mpr hu
      omega

/-- The first variable to occur in a text leaves its value there, and if its name is another one,
then also something else. -/
theorem holdsValue_replaceAll_first {run first : Text} (hrun : IsVariable run)
    (hfirst : IsVariable first) (hin : first <:+: run) :
    HoldsValue (trim first ≠ trim run) (replaceAll first minusOne run) := by
  obtain ⟨s, u, rfl, hrep⟩ := exists_replaceAll_eq_of_occurs hfirst.ne_nil hin minusOne
  refine ⟨s, _, hrep, fun hne => ?_⟩
  rw [ne_eq, trim_eq_iff_strip_around hrun hfirst, not_and_or] at hne
  exact hne.imp_right (strip_replaceAll_ne_nil first strip_minusOne_ne_nil)

theorem holdsValue_replaceVariables {formula run first : Text}
    (hrun : run ∈ variableRuns formula)
    (hfind : (variableRuns formula).find? (fun r => decide (r <:+: run)) = some first) :
    HoldsValue (trim first ≠ trim run)
      (replaceVariables (minusOnes (variableRuns formula)) (variableRuns formula) run) := by
  have hfirst : first ∈ variableRuns formula := List.mem_of_find?_eq_some hfind
  have hin : first <:+: run := by simpa using List.find?_some hfind
  obtain ⟨rest, hrest, heq⟩ :=
    replaceVariables_eq_of_find? (minusOnes (variableRuns formula)) hfind
  rw [heq, replacement_minusOnes hfirst]
  exact (holdsValue_replaceAll_first (isVariable_of_mem_variableRuns hrun)
    (isVariable_of_mem_variableRuns hfirst) hin).replaceVariables fun r hr =>
      ⟨isVariable_of_mem_variableRuns (hrest r hr), replacement_minusOnes (hrest r hr)⟩

theorem namesApart_of_forall_substitutesEach {formula : Text}
    (h : ∀ tags, BindsNumerals formula tags → SubstitutesEach formula tags) :
    NamesApart formula := by
  intro run hrun first hfind
  by_contra hne
  obtain ⟨e, he, hstrip⟩ := h _ (bindsNumerals_minusOnes formula)
  have hvalue : ∀ r ∈ variableRuns formula,
      (strip (replacement (minusOnes (variableRuns formula)) r)).length = 2 := fun r hr => by
    rw [replacement_minusOnes hr]; decide
  have hle : ∀ r ∈ variableRuns formula,
      (strip (replacement (minusOnes (variableRuns formula)) r)).length ≤
        (strip (replaceVariables (minusOnes (variableRuns formula))
          (variableRuns formula) r)).length := fun r hr => by
    obtain ⟨k, hk⟩ := exists_find?_occurring hr
    rw [hvalue r hr]
    exact (holdsValue_replaceVariables hr hk).length_strip.1
  have hlt := length_strip_fill_lt hle hrun (by
    rw [hvalue run hrun]
    exact (holdsValue_replaceVariables hrun hfind).length_strip.2 hne)
  rw [substitute_eq_replaceEach fun r hr => ?_] at he
  · cases he
    exact absurd (congrArg List.length hstrip) (Nat.ne_of_gt hlt)
  · rw [valueOf?, resolve?_of_isPlainNumeral (get?_minusOnes hr) isPlainNumeral_minusOne]
    rfl

/-! ## When each occurrence gets the value of its own name -/

/-- Substitution keeps all but the variables, and each of them becomes what the replacements make
of its own text. That is the value of its own name, whatever numerals are bound, exactly if the
first variable whose text occurs in it has this name. -/
theorem substitute_iff_namesApart (formula : Text) :
    (∀ tags, BindsNumerals formula tags → substitute formula tags =
      .ok (replaceEach (replaceVariables tags (variableRuns formula)) formula)) ∧
    ((∀ tags, BindsNumerals formula tags → SubstitutesEach formula tags) ↔ NamesApart formula) := by
  refine ⟨fun tags htags => substitute_eq_replaceEach fun run hrun => ?_, ?_, fun h _ => ?_⟩
  · exact (exists_value_of_bindsNumerals htags hrun).elim fun v hv => by rw [hv.1]; rfl
  · exact namesApart_of_forall_substitutesEach
  · exact substitutesEach_of_namesApart h

example : NamesApart "(name 1 * 500) + (name 2 * 750)".toList := by decide +kernel

/-- Two names of which the first is the start of the second. -/
def nestedNames : Bindings := .ofList [("ab".toList, "1".toList), ("ab2".toList, "7".toList)]

/-- A shorter name that comes first leaves its value within the longer one. -/
theorem not_substitutesEach_nestedNames :
    BindsNumerals "ab+ab2".toList nestedNames ∧
      substitute "ab+ab2".toList nestedNames = .ok "1+12".toList ∧
      ¬ SubstitutesEach "ab+ab2".toList nestedNames := by
  have hsub : substitute "ab+ab2".toList nestedNames = .ok "1+12".toList := by decide +kernel
  have heach : replaceEach (replacement nestedNames) "ab+ab2".toList = "1+7".toList := by
    decide +kernel
  refine ⟨fun run hrun => ?_, hsub, ?_⟩
  · have hruns : variableRuns "ab+ab2".toList = ["ab".toList, "ab2".toList] := by decide +kernel
    rw [hruns] at hrun
    rcases List.mem_cons.mp hrun with rfl | hrun
    · exact ⟨['1'], by decide, [], ['1'], [], rfl, .inl rfl, ⟨by simp, by simp⟩, .inl rfl⟩
    · obtain rfl := List.mem_singleton.mp hrun
      exact ⟨['7'], by decide, [], ['7'], [], rfl, .inl rfl, ⟨by simp, by simp⟩, .inl rfl⟩
  · rintro ⟨e, he, hstrip⟩
    rw [hsub] at he
    cases he
    rw [heach] at hstrip
    exact absurd hstrip (by decide)

end FormulaPad.Evaluation
