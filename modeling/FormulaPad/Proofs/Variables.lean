import FormulaPad.Formula.Variable
import FormulaPad.Proofs.Replacing
import Mathlib

/-!
# FormulaPad.Proofs.Variables

The variables of a formula as places in it.

A variable ends where no word character follows (`separated_pieces`). An
occurrence of a variable therefore never crosses the edge of another one, so
that replacing it acts on each place by itself (`replaceAll_fill`).
-/

namespace FormulaPad.Formula

/-! ## Variables in a formula -/

/-- The text has the shape of a variable: a letter and at least one more word character. -/
structure IsVariable (run : Text) : Prop where
  startsWithLetter : ∃ c t, run = c :: t ∧ c.isAlpha = true
  isWord : ∀ c ∈ run, isWordChar c = true
  one_lt_length : 1 < run.length

theorem isWordChar_of_isAlpha {c : Char} (h : c.isAlpha = true) : isWordChar c = true := by
  simp [isWordChar, Char.isAlphanum, h]

theorem isBlank_of_isAlpha {c : Char} (h : c.isAlpha = true) : Text.isBlank c = false := by
  simp only [Char.isAlpha, Char.isUpper, Char.isLower, Bool.or_eq_true, Bool.and_eq_true,
    decide_eq_true_eq, UInt32.le_iff_toNat_le, ge_iff_le] at h
  have hn : c.toNat = c.val.toNat := rfl
  have hA : 'A'.val.toNat = 65 := rfl
  have hz : 'z'.val.toNat = 122 := rfl
  have hZ : 'Z'.val.toNat = 90 := rfl
  have ha : 'a'.val.toNat = 97 := rfl
  simp [Text.isBlank]
  omega

theorem not_isAlpha_of_isDigit {c : Char} (h : c.isDigit = true) : c.isAlpha = false := by
  simp only [Char.isDigit, Bool.and_eq_true, decide_eq_true_eq, UInt32.le_iff_toNat_le,
    ge_iff_le] at h
  have hn : c.toNat = c.val.toNat := rfl
  have h9 : '9'.val.toNat = 57 := rfl
  have hA : 'A'.val.toNat = 65 := rfl
  have ha : 'a'.val.toNat = 97 := rfl
  simp [Char.isAlpha, Char.isUpper, Char.isLower, UInt32.le_iff_toNat_le]
  omega

theorem not_isAlpha_of_isBlank {c : Char} (h : Text.isBlank c = true) : c.isAlpha = false := by
  cases ha : c.isAlpha with
  | false => rfl
  | true => rw [isBlank_of_isAlpha ha] at h; cases h

theorem IsVariable.ne_nil {run : Text} (h : IsVariable run) : run ≠ [] := by
  obtain ⟨c, t, rfl, -⟩ := h.startsWithLetter
  exact List.cons_ne_nil c t

/-- Blanks after a variable belong to it. -/
theorem IsVariable.append {run u : Text} (h : IsVariable run) (hu : Text.strip u = []) :
    IsVariable (run ++ u) := by
  obtain ⟨c, t, rfl, hc⟩ := h.startsWithLetter
  refine ⟨⟨c, t ++ u, rfl, hc⟩, fun d hd => ?_, ?_⟩
  · rcases List.mem_append.mp hd with hd | hd
    · exact h.isWord d hd
    · simp [isWordChar, Text.strip_eq_nil_iff.mp hu d hd]
  · have hlong := h.one_lt_length
    rw [List.length_append]
    omega

/-- No word character follows: the pieces are at an end, or the next one is another character. -/
def EndsWord : List Piece → Prop
  | [] => True
  | .other c :: _ => isWordChar c = false
  | .name _ :: _ => False

/-- After a variable, and after a letter that is none, there is an end of the word. -/
def Separated : List Piece → Prop
  | [] => True
  | .other c :: ps => (c.isAlpha = true → EndsWord ps) ∧ Separated ps
  | .name run :: ps => IsVariable run ∧ EndsWord ps ∧ Separated ps

theorem endsWord_pieces {t : Text} (h : ∀ c ∈ t.head?, isWordChar c = false) :
    EndsWord (pieces t) := by
  cases t with
  | nil => rw [pieces]; trivial
  | cons c t =>
      have hc : isWordChar c = false := h c rfl
      have ha : ¬ c.isAlpha = true := fun ha => by simp [isWordChar_of_isAlpha ha] at hc
      rw [pieces, if_neg (by simp [startsVariable, ha])]
      exact hc

/-- Where a variable starts, it reaches as far as there are word characters. -/
theorem isVariable_of_startsVariable {c : Char} {t : Text} (h : startsVariable c t = true) :
    IsVariable (c :: t.takeWhile isWordChar) := by
  simp only [startsVariable, Bool.and_eq_true] at h
  refine ⟨⟨c, _, rfl, h.1⟩, fun d hd => ?_, ?_⟩
  · cases List.mem_cons.mp hd with
    | inl hd => rw [hd, isWordChar_of_isAlpha h.1]
    | inr hd => exact List.mem_takeWhile_imp hd
  · cases t with
    | nil => simp at h
    | cons d t => simp only [List.head?_cons, Option.any_some] at h; simp [h.2]

theorem separated_pieces (t : Text) : Separated (pieces t) := by
  fun_induction pieces t with
  | case1 => trivial
  | case2 c t h ih =>
      exact ⟨isVariable_of_startsVariable h, endsWord_pieces (Text.head?_dropWhile t), ih⟩
  | case3 c t h ih =>
      refine ⟨fun ha => endsWord_pieces fun d hd => ?_, ih⟩
      simp only [startsVariable, ha, Bool.true_and] at h
      cases t with
      | nil => simp at hd
      | cons e t => simp at hd h; rw [← hd]; exact h

/-- The variables among the pieces. -/
def namesOf (ps : List Piece) : List Text := ps.filterMap Piece.name?

theorem isVariable_of_mem_namesOf {ps : List Piece} (hs : Separated ps) {run : Text}
    (h : run ∈ namesOf ps) : IsVariable run := by
  induction ps with
  | nil => simp [namesOf] at h
  | cons p ps ih =>
      cases p with
      | other c => exact ih hs.2 h
      | name r =>
          cases List.mem_cons.mp h with
          | inl h => exact h ▸ hs.1
          | inr h => exact ih hs.2.2 h

theorem isVariable_of_mem_variableRuns {formula run : Text} (h : run ∈ variableRuns formula) :
    IsVariable run :=
  isVariable_of_mem_namesOf (separated_pieces formula) h

/-- Every character of a text stands by itself or belongs to a variable. -/
theorem other_mem_pieces_or {t : Text} {c : Char} (hc : c ∈ t) :
    .other c ∈ pieces t ∨ ∃ run ∈ variableRuns t, c ∈ run := by
  rw [← flatMap_text_pieces t] at hc
  obtain ⟨piece, hpiece, hmem⟩ := List.mem_flatMap.1 hc
  cases piece with
  | other d =>
      obtain rfl : c = d := List.mem_singleton.1 hmem
      exact .inl hpiece
  | name run => exact .inr ⟨run, List.mem_filterMap.2 ⟨.name run, hpiece, rfl⟩, hmem⟩

/-- A variable is a formula of one piece. -/
theorem pieces_of_isVariable {run : Text} (h : IsVariable run) : pieces run = [.name run] := by
  obtain ⟨c, t, rfl, hc⟩ := h.startsWithLetter
  have hword : ∀ d ∈ t, isWordChar d = true := fun d hd =>
    h.isWord d (List.mem_cons_of_mem c hd)
  have hne : t ≠ [] := by
    rintro rfl
    exact absurd h.one_lt_length (by simp)
  obtain ⟨d, u, rfl⟩ := List.exists_cons_of_ne_nil hne
  have hstart : startsVariable c (d :: u) = true := by
    simp [startsVariable, hc, hword d List.mem_cons_self]
  rw [pieces, if_pos hstart, List.takeWhile_eq_self_iff.2 hword, List.dropWhile_eq_nil_iff.2 hword,
    pieces]

/-- Before the first letter there is nothing but other characters. -/
theorem pieces_append_of_not_isAlpha {t : Text} (h : ∀ c ∈ t, c.isAlpha = false) (u : Text) :
    pieces (t ++ u) = t.map .other ++ pieces u := by
  induction t with
  | nil => rfl
  | cons c t ih =>
      rw [List.forall_mem_cons] at h
      rw [List.cons_append, pieces, if_neg (by simp [startsVariable, h.1]), ih h.2]
      rfl

theorem variableRuns_append_of_not_isAlpha {t : Text} (h : ∀ c ∈ t, c.isAlpha = false) (u : Text) :
    variableRuns (t ++ u) = variableRuns u := by
  have hnone : (t.map Piece.other).filterMap Piece.name? = [] := by simp [Piece.name?]
  rw [variableRuns, pieces_append_of_not_isAlpha h, List.filterMap_append, hnone]
  rfl

theorem variableRuns_of_not_isAlpha {t : Text} (h : ∀ c ∈ t, c.isAlpha = false) :
    variableRuns t = [] := by
  rw [← List.append_nil t, variableRuns_append_of_not_isAlpha h, variableRuns, pieces]
  rfl

/-! ## Rewriting every variable by itself -/

/-- The pieces as text, with `f` of its text for every variable. -/
def fill (f : Text → Text) (ps : List Piece) : Text :=
  ps.flatMap fun
    | .other c => [c]
    | .name run => f run

/-- The formula with every variable, at its own place, rewritten by `f`. -/
def replaceEach (f : Text → Text) (formula : Text) : Text := fill f (pieces formula)

/-- Rewriting the variables keeps what stands outside of them. -/
theorem mem_replaceEach {f : Text → Text} {formula : Text} {c : Char}
    (h : .other c ∈ pieces formula) : c ∈ replaceEach f formula :=
  List.mem_flatMap.2 ⟨.other c, h, List.mem_cons_self⟩

theorem fill_other (f : Text → Text) (c : Char) (ps : List Piece) :
    fill f (.other c :: ps) = c :: fill f ps := rfl

theorem fill_name (f : Text → Text) (run : Text) (ps : List Piece) :
    fill f (.name run :: ps) = f run ++ fill f ps := rfl

theorem fill_id_pieces (formula : Text) : fill id (pieces formula) = formula := by
  have h : fill id (pieces formula) = (pieces formula).flatMap Piece.text := rfl
  rw [h, flatMap_text_pieces]

theorem head?_fill {f : Text → Text} {ps : List Piece} (h : EndsWord ps) :
    ∀ c ∈ (fill f ps).head?, isWordChar c = false := by
  intro c hc
  match ps, h with
  | .other d :: ps, h =>
      obtain rfl : d = c := by simpa [fill_other] using hc
      exact h

/-- An occurrence of a variable does not cross an end of a word. -/
theorem not_crosses_of_head? {run t u : Text} (hrun : IsVariable run)
    (hu : ∀ c ∈ u.head?, isWordChar c = false) :
    ∀ s p, s ≠ [] → p ≠ [] → s <:+ t → p <+: u → run ≠ s ++ p := by
  rintro s p - hp - ⟨q, rfl⟩ rfl
  obtain ⟨c, p, rfl⟩ := List.exists_cons_of_ne_nil hp
  have hw := hrun.isWord c (by simp)
  have := hu c rfl
  simp [hw] at this

/-- A variable is not replaced where there is no letter. -/
theorem replaceAll_cons_of_not_isAlpha {run : Text} (hrun : IsVariable run) {c : Char}
    (hc : c.isAlpha ≠ true) (value t : Text) :
    Text.replaceAll run value (c :: t) = c :: Text.replaceAll run value t := by
  apply Text.replaceAll_cons_of_no_match
  rintro ⟨q, hq⟩
  obtain ⟨d, r, rfl, ha⟩ := hrun.startsWithLetter
  obtain rfl : d = c := by simpa using congrArg List.head? hq
  exact hc ha

/-- A variable is not replaced at the last character of a word. -/
theorem replaceAll_cons_of_head? {run : Text} (hrun : IsVariable run) (c : Char) (value : Text)
    {t : Text} (ht : ∀ d ∈ t.head?, isWordChar d = false) :
    Text.replaceAll run value (c :: t) = c :: Text.replaceAll run value t := by
  apply Text.replaceAll_cons_of_no_match
  rintro ⟨q, hq⟩
  match run, hrun with
  | d :: e :: r, hrun =>
      obtain ⟨-, rfl⟩ : d = c ∧ e :: (r ++ q) = t := by simpa using hq
      have := ht e rfl
      simp [hrun.isWord e (by simp)] at this
  | [_], hrun => exact absurd hrun.one_lt_length (by simp)
  | [], hrun => exact absurd rfl hrun.ne_nil

/-! ## What stands between the variables -/

/-- The texts before, between and after the variables, in order. -/
def gaps : List Piece → List Text
  | [] => [[]]
  | .other c :: ps => (gaps ps).modifyHead (c :: ·)
  | .name _ :: ps => [] :: gaps ps

/-- Gaps and the texts between them in turn: `t₀ r₁ t₁ ⋯ rₖ tₖ`. -/
def weave : (gaps texts : List Text) → Text
  | g :: gs, r :: rs => g ++ (r ++ weave gs rs)
  | gs, _ => gs.flatten

theorem length_gaps (ps : List Piece) : (gaps ps).length = (namesOf ps).length + 1 := by
  induction ps with
  | nil => rfl
  | cons p ps ih =>
      cases p with
      | other c => rw [gaps, List.length_modifyHead, ih]; rfl
      | name run => rw [gaps, List.length_cons, ih]; rfl

theorem weave_modifyHead (c : Char) {gs : List Text} (h : gs ≠ []) (rs : List Text) :
    weave (gs.modifyHead (c :: ·)) rs = c :: weave gs rs := by
  obtain ⟨g, gs, rfl⟩ := List.exists_cons_of_ne_nil h
  cases rs <;> rfl

/-- Rewriting every variable by itself changes nothing between them. -/
theorem fill_eq_weave (f : Text → Text) (ps : List Piece) :
    fill f ps = weave (gaps ps) ((namesOf ps).map f) := by
  induction ps with
  | nil => rfl
  | cons p ps ih =>
      cases p with
      | other c =>
          have hne : gaps ps ≠ [] := List.ne_nil_of_length_pos (length_gaps ps ▸ Nat.succ_pos _)
          rw [fill_other, ih, gaps, weave_modifyHead c hne]
          rfl
      | name run => rw [fill_name, ih]; rfl

/-- A formula is its variables with its gaps around them. -/
theorem weave_variableRuns (formula : Text) :
    weave (gaps (pieces formula)) (variableRuns formula) = formula := by
  have h := fill_eq_weave id (pieces formula)
  rwa [fill_id_pieces, List.map_id, eq_comm] at h

/-! ## Comparing two ways of rewriting, blanks aside -/

theorem strip_fill_other (f : Text → Text) (c : Char) (ps : List Piece) :
    Text.strip (fill f (.other c :: ps)) = Text.strip [c] ++ Text.strip (fill f ps) := by
  rw [fill_other, ← List.singleton_append, Text.strip_append]

theorem strip_fill_name (f : Text → Text) (run : Text) (ps : List Piece) :
    Text.strip (fill f (.name run :: ps)) = Text.strip (f run) ++ Text.strip (fill f ps) := by
  rw [fill_name, Text.strip_append]

theorem namesOf_name (run : Text) (ps : List Piece) :
    namesOf (.name run :: ps) = run :: namesOf ps := rfl

theorem namesOf_append_name (ps : List Piece) (run : Text) (qs : List Piece) :
    namesOf (ps ++ .name run :: qs) = namesOf ps ++ run :: namesOf qs := List.filterMap_append

theorem strip_fill_congr {f g : Text → Text} {ps : List Piece}
    (h : ∀ run ∈ namesOf ps, Text.strip (f run) = Text.strip (g run)) :
    Text.strip (fill f ps) = Text.strip (fill g ps) := by
  induction ps with
  | nil => rfl
  | cons p ps ih =>
      cases p with
      | other c => rw [strip_fill_other, strip_fill_other, ih h]
      | name r =>
          rw [namesOf_name, List.forall_mem_cons] at h
          rw [strip_fill_name, strip_fill_name, h.1, ih h.2]

theorem length_strip_fill_le {f g : Text → Text} {ps : List Piece}
    (h : ∀ run ∈ namesOf ps, (Text.strip (f run)).length ≤ (Text.strip (g run)).length) :
    (Text.strip (fill f ps)).length ≤ (Text.strip (fill g ps)).length := by
  induction ps with
  | nil => exact Nat.le_refl _
  | cons p ps ih =>
      cases p with
      | other c =>
          rw [strip_fill_other, strip_fill_other, List.length_append, List.length_append]
          exact Nat.add_le_add_left (ih h) _
      | name r =>
          rw [namesOf_name, List.forall_mem_cons] at h
          rw [strip_fill_name, strip_fill_name, List.length_append, List.length_append]
          exact Nat.add_le_add h.1 (ih h.2)

/-- One variable that becomes longer shows in the whole. -/
theorem length_strip_fill_lt {f g : Text → Text} {ps : List Piece}
    (h : ∀ run ∈ namesOf ps, (Text.strip (f run)).length ≤ (Text.strip (g run)).length)
    {run : Text} (hrun : run ∈ namesOf ps)
    (hlt : (Text.strip (f run)).length < (Text.strip (g run)).length) :
    (Text.strip (fill f ps)).length < (Text.strip (fill g ps)).length := by
  induction ps with
  | nil => simp [namesOf] at hrun
  | cons p ps ih =>
      cases p with
      | other c =>
          rw [strip_fill_other, strip_fill_other, List.length_append, List.length_append]
          exact Nat.add_lt_add_left (ih h hrun) _
      | name r =>
          rw [namesOf_name, List.forall_mem_cons] at h
          rw [strip_fill_name, strip_fill_name, List.length_append, List.length_append]
          rcases List.mem_cons.mp hrun with rfl | hrun
          · exact Nat.add_lt_add_of_lt_of_le hlt (length_strip_fill_le h.2)
          · exact Nat.add_lt_add_of_le_of_lt h.1 (ih h.2 hrun)

/-! ## Replacing one variable -/

/-- Replacing one variable acts on each variable of the formula by itself, and on nothing else. -/
theorem replaceAll_fill {run : Text} (hrun : IsVariable run) (value : Text) (f : Text → Text)
    {ps : List Piece} (hs : Separated ps) :
    Text.replaceAll run value (fill f ps) = fill (fun r => Text.replaceAll run value (f r)) ps := by
  induction ps with
  | nil => simp only [fill, List.flatMap_nil]; rw [Text.replaceAll]
  | cons p ps ih =>
      cases p with
      | other c =>
          rw [fill_other, fill_other, ← ih hs.2]
          by_cases ha : c.isAlpha = true
          · exact replaceAll_cons_of_head? hrun c value (head?_fill (hs.1 ha))
          · exact replaceAll_cons_of_not_isAlpha hrun ha value _
      | name r =>
          rw [fill_name, fill_name,
            Text.replaceAll_append (not_crosses_of_head? hrun (head?_fill hs.2.1)), ih hs.2.2]

end FormulaPad.Formula
