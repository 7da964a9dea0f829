/-!
# FormulaPad.Proofs.Runs

What holds all along a run.

A run does one operation after another. Most operations keep what is to hold;
main statement is `holdsAlong_iff`, by which it comes down to what single
operations do.
-/

namespace FormulaPad

variable {State Op : Type} (perform : State → Op → State)

/-- The statement holds at the start and after each of the operations. -/
def HoldsAlong (P : State → Prop) (s : State) : List Op → Prop
  | [] => P s
  | op :: ops => P s ∧ HoldsAlong P (perform s op) ops

/-- The statement holds of each of the operations and the state that it is performed in. -/
def EveryStep (R : State → Op → Prop) (s : State) : List Op → Prop
  | [] => True
  | op :: ops => R s op ∧ EveryStep R (perform s op) ops

variable {perform} {P : State → Prop} {s : State} {ops : List Op}

theorem HoldsAlong.head (h : HoldsAlong perform P s ops) : P s := by
  cases ops with
  | nil => exact h
  | cons op ops => exact h.1

theorem HoldsAlong.last (h : HoldsAlong perform P s ops) : P (ops.foldl perform s) := by
  induction ops generalizing s with
  | nil => exact h
  | cons op ops ih => exact ih h.2

theorem everyStep_of_forall {R : State → Op → Prop} (h : ∀ s op, R s op) :
    EveryStep perform R s ops := by
  induction ops generalizing s with
  | nil => trivial
  | cons op ops ih => exact ⟨h s op, ih⟩

/-- If `R` says which of the operations that are possible keep `P`, then `P` holds all along a run
of possible operations exactly if `R` holds of every step. -/
theorem holdsAlong_iff {Possible R : State → Op → Prop}
    (hstep : ∀ {s op}, P s → Possible s op → (P (perform s op) ↔ R s op)) (hs : P s)
    (hpossible : EveryStep perform Possible s ops) :
    HoldsAlong perform P s ops ↔ EveryStep perform R s ops := by
  induction ops generalizing s with
  | nil => exact ⟨fun _ => trivial, fun _ => hs⟩
  | cons op ops ih =>
      have hkeep : P (perform s op) ↔ R s op := hstep hs hpossible.1
      constructor
      · intro h
        have hnext : P (perform s op) := h.2.head
        exact ⟨hkeep.1 hnext, (ih hnext hpossible.2).1 h.2⟩
      · intro h
        have hnext : P (perform s op) := hkeep.2 h.1
        exact ⟨hs, (ih hnext hpossible.2).2 h.2⟩

end FormulaPad
