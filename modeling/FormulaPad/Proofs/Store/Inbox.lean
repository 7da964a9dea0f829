import FormulaPad.Proofs.Store.History
import Mathlib.Data.List.TakeWhile

/-!
# FormulaPad.Proofs.Store.Inbox

Stores that are written to while a follower empties its inbox from time to time.

What writes alter depends on the snapshot alone, so it is the same for all stores
that hold the same. A follower that takes out what it has received does not change
what the store holds, nor who follows it, and finds in its inbox what has been
altered since: main statement is `exists_log_collect`.
-/

namespace FormulaPad.Store

variable {s t : Store} {id : Nat} {op : Operation} {writes more : List Operation}
  {log : List Change}

/-! ## Writes -/

/-- The operation writes to the store, and leaves alone who follows it. -/
def Operation.isWrite (op : Operation) : Bool := op.change?.isSome

/-- A write makes of the snapshot what its change does, whether or not that is anything new. -/
theorem snapshot_perform {change : Change} (h : op.change? = some change) :
    (s.perform op).snapshot = s.snapshot.replay change := by
  rcases perform_of_change? h s with ⟨hsame, hperform⟩ | ⟨-, hperform⟩
  · rw [hperform, hsame]
  · rw [hperform, snapshot_commit]

/-- What a write makes of the snapshot depends on nothing else. -/
theorem snapshot_perform_congr (h : op.isWrite = true) (hst : s.snapshot = t.snapshot) :
    (s.perform op).snapshot = (t.perform op).snapshot := by
  obtain ⟨change, hchange⟩ := Option.isSome_iff_exists.1 h
  rw [snapshot_perform hchange, snapshot_perform hchange, hst]

theorem snapshot_run_congr (h : ∀ op ∈ writes, op.isWrite = true) (hst : s.snapshot = t.snapshot) :
    (s.run writes).snapshot = (t.run writes).snapshot := by
  induction writes generalizing s t with
  | nil => exact hst
  | cons op ops ih =>
      obtain ⟨hop, hops⟩ := List.forall_mem_cons.1 h
      exact ih hops (snapshot_perform_congr hop hst)

theorem Alters.congr {change? : Option Change} (h : Alters s op change?) (hop : op.isWrite = true)
    (hst : s.snapshot = t.snapshot) : Alters t op change? := by
  have hnext := snapshot_perform_congr hop hst
  cases h with
  | kept hkept => exact .kept (by rw [← hnext, hkept, hst])
  | changed hchanged hchange => exact .changed (by rwa [← hnext, ← hst]) hchange

/-- Stores that hold the same are altered in the same way. -/
theorem Altered.congr (h : Altered s writes log) (hwrites : ∀ op ∈ writes, op.isWrite = true)
    (hst : s.snapshot = t.snapshot) : Altered t writes log := by
  induction h generalizing t with
  | nil s => exact .nil t
  | cons halters haltered ih =>
      obtain ⟨hop, hops⟩ := List.forall_mem_cons.1 hwrites
      exact .cons (halters.congr hop hst) (ih hops (snapshot_perform_congr hop hst))

theorem Altered.append {log' : List Change} (h : Altered s writes log)
    (hmore : Altered (s.run writes) more log') : Altered s (writes ++ more) (log ++ log') := by
  induction h with
  | nil s => exact hmore
  | cons halters haltered ih =>
      rw [List.append_assoc]
      exact .cons halters (ih hmore)

/-- Where each operation by itself would change nothing, all of them together change nothing. -/
theorem run_eq_self (h : ∀ op ∈ writes, s.perform op = s) : s.run writes = s := by
  induction writes with
  | nil => rfl
  | cons op ops ih =>
      obtain ⟨hop, hops⟩ := List.forall_mem_cons.1 h
      exact (congrArg (run · ops) hop).trans (ih hops)

theorem altered_nil (h : ∀ op ∈ writes, s.perform op = s) : Altered s writes [] := by
  induction writes with
  | nil => exact .nil s
  | cons op ops ih =>
      obtain ⟨hop, hops⟩ := List.forall_mem_cons.1 h
      have hrest : Altered (s.perform op) ops [] := hop.symm ▸ ih hops
      exact .cons (.kept (by rw [hop])) hrest

theorem follows_run (h : ∀ op ∈ writes, op.isWrite = true) :
    (s.run writes).follows id = s.follows id := by
  induction writes generalizing s with
  | nil => rfl
  | cons op ops ih =>
      obtain ⟨hop, hops⟩ := List.forall_mem_cons.1 h
      obtain ⟨change, hchange⟩ := Option.isSome_iff_exists.1 hop
      exact (ih hops).trans (follows_of_change? hchange s id)

/-! ## Taking out what has been received -/

theorem getElem?_collect (s : Store) (id other : Nat) :
    (s.collect id).2.subscriptions[other]? =
      (s.subscriptions[other]?).map fun sub =>
        if other = id then { sub with received := [] } else sub := by
  unfold collect
  split
  case h_1 sub hsub =>
      show (s.subscriptions.set id { sub with received := [] })[other]? = _
      rw [List.getElem?_set]
      by_cases hother : other = id
      · subst hother
        have hlt : other < s.subscriptions.length := (List.getElem?_eq_some_iff.1 hsub).1
        rw [if_pos rfl, if_pos hlt, hsub, Option.map_some, if_pos rfl]
      · simp [hother, Ne.symm hother]
  case h_2 hnone =>
      by_cases hother : other = id
      · subst hother; simp [hnone]
      · simp [hother]

theorem collect_fst (s : Store) (id : Nat) : (s.collect id).1 = s.received id := by
  unfold collect received
  split
  · next sub hsub => rw [hsub]; rfl
  · next hnone => rw [hnone]; rfl

theorem received_collect (s : Store) (id : Nat) : (s.collect id).2.received id = [] := by
  rw [received, getElem?_collect]
  cases s.subscriptions[id]? <;> simp

theorem follows_collect (s : Store) (id other : Nat) :
    (s.collect id).2.follows other = s.follows other := by
  rw [follows, follows, getElem?_collect]
  cases s.subscriptions[other]? with
  | none => rfl
  | some sub => by_cases hother : other = id <;> simp [hother]

theorem snapshot_collect (s : Store) (id : Nat) : (s.collect id).2.snapshot = s.snapshot := by
  rw [snapshot, snapshot, formula, tags, content_collect]
  rfl

/-- Who follows a store and has emptied the inbox finds in it, after some writes, what these have
altered. -/
theorem exists_log_collect (hfollows : s.follows id = true) (hempty : s.received id = [])
    (h : ∀ op ∈ writes, op.isWrite = true) :
    ∃ log, Altered s writes log ∧ ((s.run writes).collect id).1 = log := by
  obtain ⟨log, haltered, hlog, -⟩ := exists_log_of_follows hfollows writes
  have hwhole : writes.takeWhile (· ≠ .unsubscribe id) = writes := by
    refine List.takeWhile_eq_self_iff.2 fun op hop => ?_
    have hwrite := h op hop
    cases op with
    | unsubscribe => cases hwrite
    | _ => simp
  rw [hwhole] at haltered
  refine ⟨log, haltered, ?_⟩
  rw [collect_fst, hlog, hempty, List.nil_append]

end FormulaPad.Store
