import FormulaPad.Arithmetic.Grammar
import Mathlib.Data.List.Basic
import Mathlib.Data.List.TakeWhile

/-!
# FormulaPad.Proofs.Arithmetic.Lexemes

The leaves of the grammar: what the reader of lexemes yields is what the text
spells (`spells_iff`), and the reader of literals accepts exactly the numbers,
with their values (`literalValue?_eq_some_iff`).
-/

namespace FormulaPad.Arithmetic

open Text

/-! ## Lexemes -/

/-- The reader takes the characters of numbers together. -/
theorem isFigure_eq_isLiteralChar (c : Char) : isFigure c = isLiteralChar c := rfl

theorem isBlank_of_isLiteralChar {c : Char} (h : isLiteralChar c = true) :
    Text.isBlank c = false := by
  rcases (by simpa [isLiteralChar] using h : c.isDigit = true ∨ c = '.') with h | rfl
  · simp only [Char.isDigit, Bool.and_eq_true, decide_eq_true_eq, UInt32.le_iff_toNat_le,
      ge_iff_le] at h
    have hn : c.toNat = c.val.toNat := rfl
    have h0 : '0'.val.toNat = 48 := rfl
    have h9 : '9'.val.toNat = 57 := rfl
    simp [Text.isBlank]
    omega
  · decide

/-- The lexemes that are read are spelled by the text. -/
theorem spells_lexemes (offset : Nat) (t : Text) :
    Spells t ((lexemes offset t).map Lexeme.kind) := by
  fun_induction lexemes offset t with
  | case1 => exact .nil
  | case2 offset c t hblank ih => exact .blank hblank ih
  | case3 offset c t hblank hlit run ih =>
      have hsplit : c :: t = run ++ t.dropWhile isLiteralChar := by
        rw [List.cons_append, List.takeWhile_append_dropWhile]
      rw [hsplit]
      refine .literal (List.cons_ne_nil _ _) ?_ (head?_dropWhile t) ih
      intro d hd
      cases List.mem_cons.mp hd with
      | inl hd => rw [hd, isFigure_eq_isLiteralChar, hlit]
      | inr hd => exact List.mem_takeWhile_imp hd
  | case4 offset c t hblank hlit ih =>
      exact .mark (by simpa using hblank) (by simpa [isFigure_eq_isLiteralChar] using hlit) ih

/-- A text spells one list of lexemes only. -/
theorem map_kind_lexemes_of_spells {t : Text} {ks : List LexemeKind} (h : Spells t ks)
    (offset : Nat) : (lexemes offset t).map Lexeme.kind = ks := by
  induction h generalizing offset with
  | nil => rw [lexemes_nil]; rfl
  | blank hblank _ ih => rw [lexemes_cons, if_pos hblank, ih]
  | @literal run t ks hne hrun hstop _ ih =>
      obtain ⟨c, r, rfl⟩ := List.exists_cons_of_ne_nil hne
      simp only [isFigure_eq_isLiteralChar, List.forall_mem_cons] at hrun hstop
      rw [List.cons_append, lexemes_cons, if_neg (by simp [isBlank_of_isLiteralChar hrun.1]),
        if_pos hrun.1, takeWhile_append_of_head? hrun.2 hstop,
        dropWhile_append_of_head? hrun.2 hstop, List.map_cons, ih]
  | mark hblank hlit _ ih =>
      rw [isFigure_eq_isLiteralChar] at hlit
      rw [lexemes_cons, if_neg (by simp [hblank]), if_neg (by simp [hlit]), List.map_cons, ih]

theorem spells_iff {t : Text} {ks : List LexemeKind} (offset : Nat) :
    Spells t ks ↔ (lexemes offset t).map Lexeme.kind = ks :=
  ⟨fun h => map_kind_lexemes_of_spells h offset, fun h => h ▸ spells_lexemes offset t⟩

/-- A literal holds digits and points only. -/
theorem isLiteralChar_of_spells {t : Text} {ks : List LexemeKind} (h : Spells t ks) :
    ∀ run, .literal run ∈ ks → ∀ c ∈ run, isLiteralChar c = true := by
  induction h with
  | nil => simp
  | blank _ _ ih => exact ih
  | literal hne hall _ _ ih =>
      intro run hrun
      cases List.mem_cons.mp hrun with
      | inl h => cases h; exact hall
      | inr h => exact ih run h
  | mark _ _ _ ih =>
      intro run hrun
      cases List.mem_cons.mp hrun with
      | inl h => cases h
      | inr h => exact ih run h

/-! ## Literals -/

theorem takeSign_of_isLiteralChar {run : Text} (h : ∀ c ∈ run, isLiteralChar c = true) :
    Numeral.takeSign run = (false, run) := by
  unfold Numeral.takeSign
  split
  · exact absurd (h '-' List.mem_cons_self) (by decide)
  · exact absurd (h '+' List.mem_cons_self) (by decide)
  · rfl

/-- A run is digits up to its first point. -/
theorem exists_digits_append (run : Text) (h : ∀ c ∈ run, isLiteralChar c = true) :
    ∃ whole tail, run = whole ++ tail ∧ (∀ c ∈ whole, c.isDigit = true) ∧
      (tail = [] ∨ ∃ rest, tail = '.' :: rest) := by
  refine ⟨run.takeWhile Char.isDigit, run.dropWhile Char.isDigit,
    List.takeWhile_append_dropWhile.symm, fun _ => List.mem_takeWhile_imp, ?_⟩
  have hhead := head?_dropWhile (p := Char.isDigit) run
  cases htail : run.dropWhile Char.isDigit with
  | nil => exact .inl rfl
  | cons c rest =>
      have hc : c.isDigit = false := hhead c (by rw [htail]; rfl)
      have hmem : c ∈ run := (List.dropWhile_suffix _).subset (htail ▸ List.mem_cons_self)
      have hpoint : c = '.' := by simpa [isLiteralChar, hc] using h c hmem
      exact .inr ⟨rest, by rw [hpoint]⟩

theorem filter_isDigit_eq_self {ds : Text} (h : ∀ c ∈ ds, c.isDigit = true) :
    ds.filter Char.isDigit = ds :=
  List.filter_eq_self.mpr h

theorem point_not_mem {ds : Text} (h : ∀ c ∈ ds, c.isDigit = true) : '.' ∉ ds := fun hm => by
  have := h '.' hm
  contradiction

theorem count_point_eq_zero {ds : Text} (h : ∀ c ∈ ds, c.isDigit = true) : ds.count '.' = 0 :=
  List.count_eq_zero.mpr (point_not_mem h)

theorem dropWhile_ne_point {ds : Text} (h : ∀ c ∈ ds, c.isDigit = true) (t : Text) :
    (ds ++ '.' :: t).dropWhile (· != '.') = '.' :: t := by
  refine dropWhile_append_of_head? (fun c hc => ?_) fun c hc => ?_
  · exact bne_iff_ne.mpr fun he => point_not_mem h (he ▸ hc)
  · obtain rfl : '.' = c := by simpa using hc
    decide

theorem mantissa_digits {ds : Text} (h : ∀ c ∈ ds, c.isDigit = true) :
    Numeral.mantissa ds = (ds, [], []) := by
  have htake : ds.takeWhile Char.isDigit = ds := by
    simpa using takeWhile_append_of_head? (t := []) h (by simp)
  have hdrop : ds.dropWhile Char.isDigit = [] := by
    simpa using dropWhile_append_of_head? (t := []) h (by simp)
  simp only [Numeral.mantissa, htake, hdrop]

theorem mantissa_point {whole part : Text} (hw : ∀ c ∈ whole, c.isDigit = true)
    (hp : ∀ c ∈ part, c.isDigit = true) (tail : Text) (ht : ∀ c ∈ tail.head?, c.isDigit = false) :
    Numeral.mantissa (whole ++ '.' :: (part ++ tail)) = (whole, part, tail) := by
  have hpoint : ∀ c ∈ ('.' :: (part ++ tail)).head?, c.isDigit = false := by
    intro c hc
    obtain rfl : '.' = c := by simpa using hc
    decide
  simp only [Numeral.mantissa, takeWhile_append_of_head? hw hpoint,
    dropWhile_append_of_head? hw hpoint, takeWhile_append_of_head? hp ht,
    dropWhile_append_of_head? hp ht]

theorem places_digits {ds : Text} (h : ∀ c ∈ ds, c.isDigit = true) : places ds = 0 := by
  have hnil : ds.dropWhile (· != '.') = [] := by
    rw [List.dropWhile_eq_nil_iff]
    exact fun c hc => bne_iff_ne.mpr fun he => point_not_mem h (he ▸ hc)
  rw [places, hnil]
  rfl

theorem places_point {whole : Text} (hw : ∀ c ∈ whole, c.isDigit = true) (part : Text) :
    places (whole ++ '.' :: part) = part.length := by
  rw [places, dropWhile_ne_point hw]
  rfl

theorem filter_isDigit_point {whole part : Text} (hw : ∀ c ∈ whole, c.isDigit = true)
    (hp : ∀ c ∈ part, c.isDigit = true) :
    (whole ++ '.' :: part).filter Char.isDigit = whole ++ part := by
  rw [List.filter_append, List.filter_cons_of_neg (by decide), filter_isDigit_eq_self hw,
    filter_isDigit_eq_self hp]

/-- A whole number. -/
theorem literalValue?_digits {ds : Text} (hne : ds ≠ []) (h : ∀ c ∈ ds, c.isDigit = true) :
    IsNumber ds ∧ literalValue? ds = some (numberValue ds) := by
  have hlit : ∀ c ∈ ds, isLiteralChar c = true := fun c hc => by simp [isLiteralChar, h c hc]
  constructor
  · obtain ⟨c, t, rfl⟩ := List.exists_cons_of_ne_nil hne
    exact ⟨hlit, ⟨c, List.mem_cons_self, h c List.mem_cons_self⟩, by
      rw [count_point_eq_zero h]; omega⟩
  · rw [literalValue?, Numeral.read?, takeSign_of_isLiteralChar hlit]
    simp [mantissa_digits h, hne, Numeral.exponent?, numberValue, places_digits h,
      filter_isDigit_eq_self h]

/-- A number with a point. -/
theorem literalValue?_point {whole part : Text} (hw : ∀ c ∈ whole, c.isDigit = true)
    (hp : ∀ c ∈ part, c.isDigit = true) (hne : ¬ (whole = [] ∧ part = [])) :
    IsNumber (whole ++ '.' :: part) ∧
      literalValue? (whole ++ '.' :: part) = some (numberValue (whole ++ '.' :: part)) := by
  have hlit : ∀ c ∈ whole ++ '.' :: part, isLiteralChar c = true := by
    intro c hc
    rcases List.mem_append.mp hc with hc | hc
    · simp [isLiteralChar, hw c hc]
    · rcases List.mem_cons.mp hc with rfl | hc
      · decide
      · simp [isLiteralChar, hp c hc]
  refine ⟨⟨hlit, ?_, ?_⟩, ?_⟩
  · rcases not_and_or.mp hne with h | h <;> obtain ⟨c, t, rfl⟩ := List.exists_cons_of_ne_nil h
    · exact ⟨c, by simp, hw c List.mem_cons_self⟩
    · exact ⟨c, by simp, hp c List.mem_cons_self⟩
  · rw [List.count_append, count_point_eq_zero hw, List.count_cons_self, count_point_eq_zero hp]
  · have hm : Numeral.mantissa (whole ++ '.' :: part) = (whole, part, []) := by
      simpa using mantissa_point hw hp [] (by simp)
    rw [literalValue?, Numeral.read?, takeSign_of_isLiteralChar hlit]
    simp [hm, hne, Numeral.exponent?, numberValue, places_point hw, filter_isDigit_point hw hp]

/-- A second point makes a run no number. -/
theorem literalValue?_two_points {whole part rest : Text} (hw : ∀ c ∈ whole, c.isDigit = true)
    (hp : ∀ c ∈ part, c.isDigit = true)
    (hlit : ∀ c ∈ whole ++ '.' :: (part ++ '.' :: rest), isLiteralChar c = true) :
    ¬ IsNumber (whole ++ '.' :: (part ++ '.' :: rest)) ∧
      literalValue? (whole ++ '.' :: (part ++ '.' :: rest)) = none := by
  constructor
  · rintro ⟨-, -, hcount⟩
    rw [List.count_append, List.count_cons_self, List.count_append, List.count_cons_self] at hcount
    omega
  · have hm := mantissa_point hw hp ('.' :: rest) (by simp)
    rw [literalValue?, Numeral.read?, takeSign_of_isLiteralChar hlit]
    simp [hm, Numeral.exponent?]

/-- A literal has a value exactly if it is a number, and then it is the value of that number. -/
theorem literalValue?_eq_some_iff {run : Text} (h : ∀ c ∈ run, isLiteralChar c = true) {v : Float} :
    literalValue? run = some v ↔ IsNumber run ∧ v = numberValue run := by
  have hsome (hn : IsNumber run ∧ literalValue? run = some (numberValue run)) :
      literalValue? run = some v ↔ IsNumber run ∧ v = numberValue run := by
    rw [hn.2, Option.some_inj, eq_comm (a := v)]
    exact (and_iff_right hn.1).symm
  have hnone (hn : ¬ IsNumber run ∧ literalValue? run = none) :
      literalValue? run = some v ↔ IsNumber run ∧ v = numberValue run := by
    simp [hn.1, hn.2]
  obtain ⟨whole, tail, rfl, hw, rfl | ⟨rest, rfl⟩⟩ := exists_digits_append run h
  · rw [List.append_nil] at *
    by_cases hne : whole = []
    · subst hne
      exact hnone ⟨by rintro ⟨-, ⟨c, hc, -⟩, -⟩; simp at hc, by decide⟩
    · exact hsome (literalValue?_digits hne hw)
  · obtain ⟨part, tail, rfl, hp, rfl | ⟨rest, rfl⟩⟩ :=
      exists_digits_append rest fun c hc => h c (by simp [hc])
    · rw [List.append_nil] at *
      by_cases hne : whole = [] ∧ part = []
      · obtain ⟨rfl, rfl⟩ := hne
        refine hnone ⟨?_, by decide⟩
        rintro ⟨-, ⟨c, hc, hd⟩, -⟩
        rw [List.nil_append, List.mem_singleton] at hc
        subst hc
        exact absurd hd (by decide)
      · exact hsome (literalValue?_point hw hp hne)
    · exact hnone (literalValue?_two_points hw hp h)

theorem literalValue?_of_isNumber {run : Text} (h : IsNumber run) :
    literalValue? run = some (numberValue run) :=
  (literalValue?_eq_some_iff h.isLiteral).mpr ⟨h, rfl⟩

/-! ## Literals in an expression -/

/-- No literal reaches from the first text into the second. -/
def Apart (t u : Text) : Prop :=
  (∀ c ∈ t.getLast?, isLiteralChar c = false) ∨ ∀ c ∈ u.head?, isLiteralChar c = false

theorem Apart.of_append {s t u : Text} (h : Apart (s ++ t) u) : Apart t u :=
  h.imp_left fun h _ hc => h _ (List.mem_getLast?_append_of_mem_getLast? hc)

/-- Texts spell what each of them spells, unless they meet within a literal. -/
theorem Spells.append {t u : Text} {ks ls : List LexemeKind} (ht : Spells t ks) (hu : Spells u ls)
    (hapart : Apart t u) : Spells (t ++ u) (ks ++ ls) := by
  induction ht with
  | nil => exact hu
  | @blank c t ks hd _ ih => exact .blank hd (ih (hapart.of_append (s := [c])))
  | @mark c t ks hd hdlit _ ih => exact .mark hd hdlit (ih (hapart.of_append (s := [c])))
  | @literal run t ks hne hrun hstop _ ih =>
      rw [List.append_assoc]
      refine .literal hne hrun (fun d hd => ?_) (ih hapart.of_append)
      cases t with
      | cons e t => exact hstop d (by simpa using hd)
      | nil =>
          rcases hapart with hlast | hhead
          · -- the literal would be the end of the first text
            have hend := hlast (run.getLast hne) (by simp [List.getLast?_eq_some_getLast hne])
            rw [← isFigure_eq_isLiteralChar, hrun _ (List.getLast_mem hne)] at hend
            cases hend
          · exact hhead d hd

/-- A mark separates what is spelled before it from what is spelled after it. -/
theorem Spells.append_mark {t u : Text} {ks ls : List LexemeKind} {c : Char} (ht : Spells t ks)
    (hblank : Text.isBlank c = false) (hlit : isLiteralChar c = false) (hu : Spells u ls) :
    Spells (t ++ c :: u) (ks ++ .mark c :: ls) :=
  ht.append (.mark hblank hlit hu) (.inr (by simp [hlit]))

theorem literalValue?_of_step {s t : State} {run : Text} (h : step s (.literal run) = .ok t) :
    ∃ v, literalValue? run = some v := by
  have hread {outer : List Pending} {here : Pending}
      (h : readLiteral outer here run = .ok t) : ∃ v, literalValue? run = some v := by
    rw [readLiteral] at h
    cases hv : literalValue? run with
    | none => rw [hv] at h; cases h
    | some v => exact ⟨v, rfl⟩
  cases s with
  | operand outer here => exact hread h
  | operator outer sum term group =>
      rw [step, stepOperator] at h
      split at h
      · exact hread h
      · cases h

/-- In an expression that has a value every literal is a number. -/
theorem isNumber_of_evaluate {expression run : Text} {v : Float}
    (h : evaluate expression = .ok v)
    (hmem : .literal run ∈ (lexemes 0 expression).map Lexeme.kind) : IsNumber run := by
  have hrun {ls : List Lexeme} {s t : State} (h : Arithmetic.run s ls = .ok t)
      (hmem : .literal run ∈ ls.map Lexeme.kind) : ∃ v, literalValue? run = some v := by
    induction ls generalizing s with
    | nil => cases hmem
    | cons l ls ih =>
        rw [Arithmetic.run] at h
        split at h
        · next u hstep =>
            rcases List.mem_cons.1 hmem with hl | hmem
            · exact literalValue?_of_step (hl ▸ hstep)
            · exact ih h hmem
        · cases h
  rw [evaluate] at h
  split at h
  · next hok =>
      obtain ⟨v, hv⟩ := hrun hok hmem
      have hchars := isLiteralChar_of_spells (spells_lexemes 0 expression) run hmem
      exact ((literalValue?_eq_some_iff hchars).mp hv).1
  · cases h

end FormulaPad.Arithmetic
