import FormulaPad.Proofs.Variables

/-!
# FormulaPad.Proofs.Scan

The variables of a formula as a scan that misses none.

What a scan is gets said of places in the formula, without a way to find it: its
occurrences follow one after another, each is a variable up to the end of its
word, and no place where a variable can start is left out. This fixes the scan:
there is one only, which goes through the formula piece by piece.

Main statements: `isScan_append` (a scan goes on where its first occurrences have
ended), `isScan_iff_eq_occurrences` and `isScan_variableRuns`.
-/

namespace FormulaPad.Formula

/-! ## Places in a formula -/

/-- A text together with the place in the formula where it starts. -/
structure Occurrence where
  start : Nat
  text : Text
  deriving DecidableEq, Repr

namespace Occurrence

/-- The place behind the last character. -/
def stop (o : Occurrence) : Nat := o.start + o.text.length

/-- The character at this place belongs to the occurrence. -/
def Covers (o : Occurrence) (place : Nat) : Prop := o.start ≤ place ∧ place < o.stop

/-- The other occurrence starts when this one has ended. -/
def Precedes (o later : Occurrence) : Prop := o.stop ≤ later.start

/-- The occurrence as one that starts `k` places further on. -/
def shift (k : Nat) (o : Occurrence) : Occurrence := { o with start := o.start + k }

variable {k place : Nat} {o later : Occurrence}

theorem stop_shift (k : Nat) (o : Occurrence) : (o.shift k).stop = o.stop + k := by
  simp only [stop, shift]
  omega

theorem covers_shift : (o.shift k).Covers (place + k) ↔ o.Covers place := by
  rw [Covers, Covers, stop_shift]
  simp only [shift]
  omega

theorem precedes_shift : (o.shift k).Precedes (later.shift k) ↔ o.Precedes later := by
  rw [Precedes, Precedes, stop_shift]
  simp only [shift]
  omega

/-- What starts behind the first `k` places has been shifted by as many. -/
theorem exists_map_shift {os : List Occurrence} (h : ∀ o ∈ os, k ≤ o.start) :
    ∃ rest : List Occurrence, os = rest.map (shift k) := by
  refine ⟨os.map fun o => { o with start := o.start - k }, ?_⟩
  rw [List.map_map]
  refine (List.map_id os).symm.trans (List.map_congr_left fun o ho => ?_)
  simp [shift, Nat.sub_add_cancel (h o ho)]

end Occurrence

open Occurrence

/-- There is a letter at this place, and a word character right after it. -/
def CanStart (formula : Text) (place : Nat) : Prop :=
  ∃ c d, formula[place]? = some c ∧ formula[place + 1]? = some d ∧
    c.isAlpha = true ∧ isWordChar d = true

/-- A variable where it occurs, up to the end of its word. -/
structure IsMatch (formula : Text) (o : Occurrence) : Prop where
  inPlace : o.text <+: formula.drop o.start
  isVariable : IsVariable o.text
  /-- The formula has ended, or a character follows that belongs to no word. -/
  endsWord : ∀ c ∈ formula[o.stop]?, isWordChar c = false

/-- The occurrences are all that there are in the formula, from left to right. -/
structure IsScan (formula : Text) (os : List Occurrence) : Prop where
  isMatch : ∀ o ∈ os, IsMatch formula o
  ordered : os.Pairwise Precedes
  /-- No letter is left out that a word character follows. -/
  covers : ∀ place, CanStart formula place → ∃ o ∈ os, o.Covers place

section Scan

variable {formula lead run t : Text} {os : List Occurrence} {o other : Occurrence} {c : Char}
  {place : Nat}

/-! ## Single matches -/

theorem IsMatch.start_lt_stop (h : IsMatch formula o) : o.start < o.stop := by
  have hlong := h.isVariable.one_lt_length
  rw [stop]
  omega

theorem IsMatch.canStart (h : IsMatch formula o) : CanStart formula o.start := by
  obtain ⟨c, t, htext, hc⟩ := h.isVariable.startsWithLetter
  have hlong := h.isVariable.one_lt_length
  have hword := h.isVariable.isWord
  obtain ⟨u, hu⟩ := h.inPlace
  rw [htext] at hlong hword hu
  obtain ⟨d, t, rfl⟩ := List.exists_cons_of_length_pos (Nat.lt_of_succ_lt_succ hlong)
  refine ⟨c, d, ?_, ?_, hc, hword d (by simp)⟩
  · have hget := congrArg (·[0]?) hu
    simpa using hget.symm
  · have hget := congrArg (·[1]?) hu
    simpa using hget.symm

/-- A match takes as many word characters as there are. -/
theorem IsMatch.text_eq (h : IsMatch formula o) :
    o.text = (formula.drop o.start).takeWhile isWordChar := by
  obtain ⟨u, hu⟩ := h.inPlace
  have hnext : formula[o.stop]? = u.head? := by
    rw [stop, ← List.getElem?_drop, ← hu, List.getElem?_append_right le_rfl, Nat.sub_self,
      List.head?_eq_getElem?]
  rw [← hu, Text.takeWhile_append_of_head? h.isVariable.isWord (hnext ▸ h.endsWord)]

/-- At one place there is one match only. -/
theorem IsMatch.eq_of_start_eq (h : IsMatch formula o) (hother : IsMatch formula other)
    (hstart : o.start = other.start) : o = other := by
  have htext : o.text = other.text := by rw [h.text_eq, hother.text_eq, hstart]
  cases o
  cases other
  simp_all

/-! ## Behind the first part of a formula -/

theorem canStart_zero : CanStart (c :: t) 0 ↔ startsVariable c t = true := by
  cases t <;> simp [CanStart, startsVariable]

theorem canStart_append : CanStart (lead ++ t) (place + lead.length) ↔ CanStart t place := by
  have hnext : place + lead.length + 1 = place + 1 + lead.length := by omega
  simp only [CanStart, hnext, List.getElem?_append_right (Nat.le_add_left _ _),
    Nat.add_sub_cancel]

theorem isMatch_append : IsMatch (lead ++ t) (o.shift lead.length) ↔ IsMatch t o := by
  have hdrop : (lead ++ t).drop (o.shift lead.length).start = t.drop o.start := by
    rw [shift, Nat.add_comm, List.drop_length_add_append]
  have hget : (lead ++ t)[(o.shift lead.length).stop]? = t[o.stop]? := by
    rw [stop_shift, List.getElem?_append_right (Nat.le_add_left _ _), Nat.add_sub_cancel]
  constructor
  · rintro ⟨hplace, hvariable, hend⟩
    exact ⟨hdrop ▸ hplace, hvariable, hget ▸ hend⟩
  · rintro ⟨hplace, hvariable, hend⟩
    exact ⟨hdrop ▸ hplace, hvariable, hget ▸ hend⟩

/-- Once its first occurrences have taken all that there is in the lead, a scan is one of the text
behind the lead. -/
theorem isScan_append (lead t : Text) (first rest : List Occurrence)
    (hmatch : ∀ o ∈ first, IsMatch (lead ++ t) o ∧ o.stop ≤ lead.length)
    (hordered : first.Pairwise Precedes)
    (hcovers : ∀ place < lead.length, CanStart (lead ++ t) place → ∃ o ∈ first, o.Covers place) :
    IsScan (lead ++ t) (first ++ rest.map (shift lead.length)) ↔ IsScan t rest := by
  constructor
  · intro h
    constructor
    case isMatch =>
      exact fun o ho =>
        isMatch_append.1 (h.isMatch _ (List.mem_append_right _ (List.mem_map_of_mem ho)))
    case ordered =>
      have hrest := (List.pairwise_append.1 h.ordered).2.1
      exact (List.pairwise_map.1 hrest).imp precedes_shift.1
    case covers =>
      intro place hstart
      obtain ⟨o, ho, hcov⟩ := h.covers _ (canStart_append.2 hstart)
      rcases List.mem_append.1 ho with ho | ho
      · -- the first occurrences have ended before this place
        have hstop := (hmatch o ho).2
        have hlt := hcov.2
        omega
      · obtain ⟨o, hrest, rfl⟩ := List.mem_map.1 ho
        exact ⟨o, hrest, covers_shift.1 hcov⟩
  · intro h
    constructor
    case isMatch =>
      intro o ho
      rcases List.mem_append.1 ho with ho | ho
      · exact (hmatch o ho).1
      · obtain ⟨o, hrest, rfl⟩ := List.mem_map.1 ho
        exact isMatch_append.2 (h.isMatch o hrest)
    case ordered =>
      refine List.pairwise_append.2 ⟨hordered, ?_, fun o ho later hlater => ?_⟩
      · exact List.pairwise_map.2 (h.ordered.imp precedes_shift.2)
      · obtain ⟨later, -, rfl⟩ := List.mem_map.1 hlater
        exact (hmatch o ho).2.trans (Nat.le_add_left _ _)
    case covers =>
      intro place hstart
      rcases Nat.lt_or_ge place lead.length with hlt | hge
      · obtain ⟨o, ho, hcov⟩ := hcovers place hlt hstart
        exact ⟨o, List.mem_append_left _ ho, hcov⟩
      · obtain ⟨place, rfl⟩ : ∃ k, place = k + lead.length := ⟨_, (Nat.sub_add_cancel hge).symm⟩
        obtain ⟨o, ho, hcov⟩ := h.covers place (canStart_append.1 hstart)
        exact ⟨_, List.mem_append_right _ (List.mem_map_of_mem ho), covers_shift.2 hcov⟩

/-! ## Scans piece by piece -/

theorem isScan_nil : IsScan [] os ↔ os = [] := by
  constructor
  · intro h
    refine List.eq_nil_iff_forall_not_mem.2 fun o ho => ?_
    obtain ⟨c, d, hc, -⟩ := (h.isMatch o ho).canStart
    cases hc
  · rintro rfl
    exact ⟨by simp, .nil, fun place ⟨c, d, hc, _⟩ => nomatch hc⟩

/-- Where no variable starts, a scan is one of the text behind. -/
theorem isScan_cons (hc : ¬ startsVariable c t = true) :
    IsScan (c :: t) os ↔ ∃ rest, os = rest.map (shift 1) ∧ IsScan t rest := by
  have hnone : ¬ CanStart (c :: t) 0 := fun h => hc (canStart_zero.1 h)
  have hbehind (rest : List Occurrence) :
      IsScan (c :: t) (rest.map (shift 1)) ↔ IsScan t rest := by
    refine isScan_append [c] t [] rest (by simp) .nil fun place hlt hstart => ?_
    obtain rfl : place = 0 := Nat.lt_one_iff.1 hlt
    exact absurd hstart hnone
  constructor
  · intro h
    have hstart : ∀ o ∈ os, 1 ≤ o.start := by
      intro o ho
      refine Nat.one_le_iff_ne_zero.2 fun hzero => hnone ?_
      rw [← hzero]
      exact (h.isMatch o ho).canStart
    obtain ⟨rest, rfl⟩ := exists_map_shift hstart
    exact ⟨rest, rfl, (hbehind rest).1 h⟩
  · rintro ⟨rest, rfl, hrest⟩
    exact (hbehind rest).2 hrest

/-- What matches at the first place is the first occurrence of a scan. -/
theorem IsScan.exists_eq_cons (h : IsScan formula os) (hmatch : IsMatch formula o)
    (hzero : o.start = 0) : ∃ rest, os = o :: rest ∧ ∀ later ∈ rest, o.stop ≤ later.start := by
  obtain ⟨other, hother, hle, -⟩ := h.covers o.start hmatch.canStart
  obtain rfl : other = o :=
    (h.isMatch other hother).eq_of_start_eq hmatch (by omega)
  cases os with
  | nil => cases hother
  | cons head rest =>
      have hordered := List.pairwise_cons.1 h.ordered
      rcases List.mem_cons.1 hother with rfl | hrest
      · exact ⟨rest, rfl, hordered.1⟩
      · -- nothing comes before what starts at the first place
        have hbefore : head.stop ≤ other.start := hordered.1 other hrest
        have hlt := (h.isMatch head List.mem_cons_self).start_lt_stop
        omega

/-- Where a variable starts, a scan takes it, and is one of the text behind. -/
theorem isScan_variable (hrun : IsVariable run) (ht : ∀ c ∈ t.head?, isWordChar c = false) :
    IsScan (run ++ t) os ↔ ∃ rest, os = ⟨0, run⟩ :: rest.map (shift run.length) ∧ IsScan t rest := by
  have hstop : (⟨0, run⟩ : Occurrence).stop = run.length := Nat.zero_add _
  have hmatch : IsMatch (run ++ t) ⟨0, run⟩ := by
    refine ⟨List.prefix_append run t, hrun, fun c hc => ht c ?_⟩
    rwa [hstop, List.getElem?_append_right le_rfl, Nat.sub_self, ← List.head?_eq_getElem?] at hc
  have hbehind (rest : List Occurrence) :
      IsScan (run ++ t) (⟨0, run⟩ :: rest.map (shift run.length)) ↔ IsScan t rest := by
    refine isScan_append run t [⟨0, run⟩] rest ?_ (List.pairwise_singleton _ _) ?_
    · simp [hmatch, hstop]
    · exact fun place hlt _ => ⟨_, List.mem_singleton_self _, Nat.zero_le _, hstop ▸ hlt⟩
  constructor
  · intro h
    obtain ⟨rest, rfl, hlater⟩ := h.exists_eq_cons hmatch rfl
    rw [hstop] at hlater
    obtain ⟨rest, rfl⟩ := exists_map_shift hlater
    exact ⟨rest, rfl, (hbehind rest).1 h⟩
  · rintro ⟨rest, rfl, hrest⟩
    exact (hbehind rest).2 hrest

/-! ## Main statements -/

/-- The variables among the pieces, each with the place where it starts. -/
def occurrences : List Piece → List Occurrence
  | [] => []
  | .other _ :: ps => (occurrences ps).map (shift 1)
  | .name run :: ps => ⟨0, run⟩ :: (occurrences ps).map (shift run.length)

theorem map_text_occurrences (ps : List Piece) : (occurrences ps).map (·.text) = namesOf ps := by
  induction ps with
  | nil => rfl
  | cons p ps ih =>
      cases p with
      | other c =>
          rw [occurrences, List.map_map]
          exact ih
      | name run =>
          rw [occurrences, List.map_cons, List.map_map, namesOf_name, ← ih]
          rfl

/-- There is one scan of a formula, and its pieces give it. -/
theorem isScan_iff_eq_occurrences : IsScan formula os ↔ os = occurrences (pieces formula) := by
  fun_induction pieces formula generalizing os with
  | case1 => exact isScan_nil
  | case2 c t h ih =>
      have hsplit : c :: t = (c :: t.takeWhile isWordChar) ++ t.dropWhile isWordChar := by simp
      rw [hsplit, isScan_variable (isVariable_of_startsVariable h) (Text.head?_dropWhile t)]
      simp only [ih, exists_eq_right, occurrences]
  | case3 c t h ih =>
      rw [isScan_cons h]
      simp only [ih, exists_eq_right, occurrences]

/-- **The variables of a formula are those of a scan that misses none**, and no other scan does the
same. -/
theorem isScan_variableRuns (formula : Text) :
    ∃ os, os.map Occurrence.text = variableRuns formula ∧ IsScan formula os ∧
      ∀ other, IsScan formula other → other = os :=
  ⟨occurrences (pieces formula), map_text_occurrences _, isScan_iff_eq_occurrences.2 rfl,
    fun _ => isScan_iff_eq_occurrences.1⟩

/-- A letter by itself is none, and digits before the first letter do not belong to it. -/
example : occurrences (pieces "x*2net price +e1".toList) =
    [⟨3, "net price ".toList⟩, ⟨14, "e1".toList⟩] := by decide +kernel

end Scan
end FormulaPad.Formula
