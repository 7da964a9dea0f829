import FormulaPad.Store

/-!
# FormulaPad.Proofs.Store.History

What those who follow a store learn of it.

A `Snapshot` is all that can be read of a store, and `Snapshot.replay` what one
who has a snapshot and is told of a change makes of it. Whoever follows the
store from some moment on is told of just those operations that alter the
snapshot, so that replaying them keeps up with the store.

Main statements: `emits_received` (what one operation sends, and to whom) and
`altered_received_run` (the log of a follower over a whole history, with the
numbers that subscriptions are known by).
-/

namespace FormulaPad

/-! ## Snapshots -/

/-- All that can be read of a store: the formula, and the value of every tag. -/
@[ext]
structure Snapshot where
  formula : Text
  value? : Text → Option Text

namespace Snapshot

/-- Give a tag another value, or none. -/
def setValue (s : Snapshot) (name : Text) (value? : Option Text) : Snapshot :=
  { s with value? := fun other => if other = name then value? else s.value? other }

/-- The snapshot after a change. -/
def replay (s : Snapshot) : Change → Snapshot
  | .formula text => { s with formula := text }
  | .tag name value => s.setValue name (some value)
  | .deleted name => s.setValue name none

/-- The snapshot after one change after another. -/
def replayAll (s : Snapshot) (log : List Change) : Snapshot := log.foldl replay s

/-- Only the value of a tag that has another value makes a difference. -/
theorem setValue_eq_self_iff {s : Snapshot} {name : Text} {v : Option Text} :
    s.setValue name v = s ↔ s.value? name = v := by
  constructor
  · intro h
    have := congrFun (congrArg Snapshot.value? h) name
    simpa [setValue] using this.symm
  · rintro rfl
    ext1
    · rfl
    · funext other
      by_cases hother : other = name <;> simp [setValue, hother]

end Snapshot

namespace Store

def snapshot (s : Store) : Snapshot := ⟨s.formula, s.tags.get?⟩

/-- Replaying a change is what the store does with it. -/
theorem snapshot_commit (s : Store) (change : Change) :
    (s.commit change).snapshot = s.snapshot.replay change := by
  cases change with
  | formula text => rfl
  | tag name value =>
      ext1
      · rfl
      · funext other
        exact Bindings.get?_insert s.tags name value other
  | deleted name =>
      ext1
      · rfl
      · funext other
        exact Bindings.get?_erase s.tags name other

/-! ## Histories -/

/-- What can be done with a store. -/
inductive Operation where
  | setFormula (text : Text)
  | setTag (name value : Text)
  | deleteTag (name : Text)
  | subscribe
  | unsubscribe (id : Nat)
  deriving DecidableEq

/-- The store after an operation. -/
def perform (s : Store) : Operation → Store
  | .setFormula text => s.setFormula text
  | .setTag name value => s.setTag name value
  | .deleteTag name => (s.deleteTag name).2
  | .subscribe => s.subscribe.2
  | .unsubscribe id => (s.unsubscribe id).2

/-- The store after one operation after another. -/
def run (s : Store) (ops : List Operation) : Store := ops.foldl perform s

/-- What an operation writes, if it writes at all. -/
def Operation.change? : Operation → Option Change
  | setFormula text => some (.formula text)
  | setTag name value => some (.tag name value)
  | deleteTag name => some (.deleted name)
  | subscribe | unsubscribe _ => none

/-- The change that an operation makes to the snapshot, if it makes one. -/
inductive Alters (s : Store) (op : Operation) : Option Change → Prop where
  | kept (h : (s.perform op).snapshot = s.snapshot) : Alters s op none
  | changed {change : Change} (h : (s.perform op).snapshot ≠ s.snapshot)
      (hop : op.change? = some change) : Alters s op (some change)

/-- The changes that operations make to the snapshot, in their order. -/
inductive Altered : Store → List Operation → List Change → Prop where
  | nil (s : Store) : Altered s [] []
  | cons {s : Store} {op : Operation} {ops : List Operation} {change? : Option Change}
      {log : List Change} (hop : Alters s op change?) (hops : Altered (s.perform op) ops log) :
      Altered s (op :: ops) (change?.toList ++ log)

/-- The numbers given to the subscriptions of a history. -/
def issued (s : Store) : List Operation → List Nat
  | [] => []
  | .subscribe :: ops => s.subscribe.1 :: issued (s.perform .subscribe) ops
  | op :: ops => issued (s.perform op) ops

/-- The numbers that are registered after a history: a subscription adds its number to those at the
start, and its end takes it away. -/
def registered (s : Store) (ids : List Nat) : List Operation → List Nat
  | [] => ids
  | .subscribe :: ops => registered (s.perform .subscribe) (ids ++ [s.subscribe.1]) ops
  | .unsubscribe id :: ops => registered (s.perform (.unsubscribe id)) (ids.filter (· ≠ id)) ops
  | op :: ops => registered (s.perform op) ids ops

/-! ## Who follows -/

/-- The subscription of this number exists and has not ended. -/
def follows (s : Store) (id : Nat) : Bool := s.subscriptions[id]?.any (·.active)

theorem follows_commit (s : Store) (change : Change) (id : Nat) :
    (s.commit change).follows id = s.follows id := by
  rw [follows, follows, commit, List.getElem?_map]
  cases s.subscriptions[id]? with
  | none => rfl
  | some sub =>
      show (sub.deliver change).active = sub.active
      rw [Subscription.deliver]
      split <;> rfl

theorem follows_subscribe (s : Store) (id : Nat) :
    s.subscribe.2.follows id = (s.follows id || id == s.subscribe.1) := by
  show (s.subscriptions ++ [({} : Subscription)])[id]?.any (·.active) = _
  rw [follows, subscribe]
  rcases Nat.lt_trichotomy id s.subscriptions.length with h | rfl | h
  · have hne : (id == s.subscriptions.length) = false := beq_false_of_ne (Nat.ne_of_lt h)
    rw [List.getElem?_append_left h, hne, Bool.or_false]
  · simp
  · have hne : (id == s.subscriptions.length) = false := beq_false_of_ne (Nat.ne_of_gt h)
    rw [List.getElem?_eq_none (by simp; omega), List.getElem?_eq_none (Nat.le_of_lt h), hne]
    rfl

/-- Ending a subscription tells whether it was active. -/
theorem unsubscribe_fst (s : Store) (id : Nat) : (s.unsubscribe id).1 = s.follows id := by
  rw [unsubscribe, follows]
  split
  case h_1 sub hsub =>
      rw [hsub, Option.any_some]
      split
      · next hactive => exact hactive.symm
      · next hactive => simpa using hactive
  case h_2 hnone => rw [hnone]; rfl

/-- What ending a subscription leaves of another one, and of itself. -/
theorem getElem?_unsubscribe (s : Store) (id other : Nat) :
    (s.unsubscribe id).2.subscriptions[other]? =
      (s.subscriptions[other]?).map fun sub =>
        if other = id then { sub with active := false } else sub := by
  rw [unsubscribe]
  split
  case h_1 sub hsub =>
      split
      case isTrue hactive =>
          show (s.subscriptions.set id { sub with active := false })[other]? = _
          rw [List.getElem?_set]
          by_cases hother : other = id
          · subst hother
            have hlt : other < s.subscriptions.length := (List.getElem?_eq_some_iff.1 hsub).1
            rw [if_pos rfl, if_pos hlt, hsub, Option.map_some, if_pos rfl]
          · simp [hother, Ne.symm hother]
      case isFalse hactive =>
          by_cases hother : other = id
          · subst hother
            obtain ⟨received, active⟩ := sub
            simp_all
          · simp [hother]
  case h_2 hnone =>
      by_cases hother : other = id
      · subst hother; simp [hnone]
      · simp [hother]

theorem follows_unsubscribe (s : Store) (id other : Nat) :
    (s.unsubscribe id).2.follows other = (s.follows other && other != id) := by
  rw [follows, follows, getElem?_unsubscribe]
  cases s.subscriptions[other]? with
  | none => rfl
  | some sub => by_cases hother : other = id <;> simp [hother]

/-! ## Who receives what -/

theorem received_commit (s : Store) (change : Change) (id : Nat) :
    (s.commit change).received id = s.received id ++ if s.follows id then [change] else [] := by
  rw [received, received, follows, commit, List.getElem?_map]
  cases s.subscriptions[id]? with
  | none => rfl
  | some sub =>
      show (sub.deliver change).received = sub.received ++ if sub.active then [change] else []
      rw [Subscription.deliver]
      split <;> simp

theorem received_subscribe (s : Store) (id : Nat) : s.subscribe.2.received id = s.received id := by
  show ((s.subscriptions ++ [({} : Subscription)])[id]?.map (·.received)).getD [] = _
  rw [received]
  rcases Nat.lt_trichotomy id s.subscriptions.length with h | rfl | h
  · rw [List.getElem?_append_left h]
  · simp
  · rw [List.getElem?_eq_none (by simp; omega), List.getElem?_eq_none (Nat.le_of_lt h)]

theorem received_unsubscribe (s : Store) (id other : Nat) :
    (s.unsubscribe id).2.received other = s.received other := by
  rw [received, received, getElem?_unsubscribe]
  cases s.subscriptions[other]? with
  | none => rfl
  | some sub => by_cases hother : other = id <;> simp [hother]

/-! ## One operation -/

/-- A write that would make no difference does nothing, any other one is committed. -/
theorem perform_of_change? {op : Operation} {change : Change} (h : op.change? = some change)
    (s : Store) :
    (s.snapshot.replay change = s.snapshot ∧ s.perform op = s) ∨
      (s.snapshot.replay change ≠ s.snapshot ∧ s.perform op = s.commit change) := by
  cases op with
  | setFormula text =>
      obtain rfl := Option.some.inj h
      by_cases hsame : text = s.formula
      · refine .inl ⟨by rw [hsame]; rfl, if_pos hsame⟩
      · exact .inr ⟨fun he => hsame (congrArg Snapshot.formula he), if_neg hsame⟩
  | setTag name value =>
      obtain rfl := Option.some.inj h
      have hsame : s.snapshot.replay (.tag name value) = s.snapshot ↔
          s.tags.get? name = some value := Snapshot.setValue_eq_self_iff
      rw [hsame, ne_eq, hsame]
      by_cases hvalue : s.tags.get? name = some value
      · exact .inl ⟨hvalue, if_pos hvalue⟩
      · exact .inr ⟨hvalue, if_neg hvalue⟩
  | deleteTag name =>
      obtain rfl := Option.some.inj h
      have hsame : s.snapshot.replay (.deleted name) = s.snapshot ↔ s.tags.get? name = none :=
        Snapshot.setValue_eq_self_iff
      rw [hsame, ne_eq, hsame, perform, deleteTag]
      cases s.tags.get? name with
      | none => exact .inl ⟨rfl, rfl⟩
      | some value => exact .inr ⟨by simp, rfl⟩
  | subscribe => cases h
  | unsubscribe id => cases h

theorem snapshot_unsubscribe (s : Store) (id : Nat) :
    (s.unsubscribe id).2.snapshot = s.snapshot := by
  rw [unsubscribe]
  split
  · split <;> rfl
  · rfl

/-- An operation that writes nothing alters nothing and sends nothing. -/
theorem kept_of_change?_eq_none {op : Operation} (h : op.change? = none) (s : Store) :
    (s.perform op).snapshot = s.snapshot ∧
      ∀ id, (s.perform op).received id = s.received id := by
  cases op with
  | setFormula text => cases h
  | setTag name value => cases h
  | deleteTag name => cases h
  | subscribe => exact ⟨rfl, received_subscribe s⟩
  | unsubscribe id => exact ⟨snapshot_unsubscribe s id, received_unsubscribe s id⟩

/-- An operation sends the change that it makes to the snapshot, if it makes one, to those who
follow the store, and the snapshot after it is what they make of this change. -/
theorem emits_received (s : Store) (op : Operation) :
    ∃ change?, Alters s op change? ∧
      (s.perform op).snapshot = s.snapshot.replayAll change?.toList ∧
      ∀ id, (s.perform op).received id =
        s.received id ++ if s.follows id then change?.toList else [] := by
  cases hchange : op.change? with
  | none =>
      obtain ⟨hsame, hreceived⟩ := kept_of_change?_eq_none hchange s
      exact ⟨none, .kept hsame, hsame, fun id => by simp [hreceived]⟩
  | some change =>
      rcases perform_of_change? hchange s with ⟨hsame, hperform⟩ | ⟨hne, hperform⟩
      · exact ⟨none, .kept (by rw [hperform]), by rw [hperform]; rfl, fun id => by simp [hperform]⟩
      · have hsnap : (s.perform op).snapshot = s.snapshot.replay change := by
          rw [hperform, snapshot_commit]
        refine ⟨some change, .changed (by rwa [hsnap]) hchange, hsnap, fun id => ?_⟩
        rw [hperform, received_commit]
        rfl

/-! ## Who is registered -/

theorem follows_of_change? {op : Operation} {change : Change} (h : op.change? = some change)
    (s : Store) (id : Nat) : (s.perform op).follows id = s.follows id := by
  rcases perform_of_change? h s with ⟨-, hperform⟩ | ⟨-, hperform⟩
  · rw [hperform]
  · rw [hperform, follows_commit]

theorem follows_perform (s : Store) (op : Operation) (id : Nat) :
    (s.perform op).follows id =
      match op with
      | .subscribe => s.follows id || id == s.subscribe.1
      | .unsubscribe ended => s.follows id && id != ended
      | _ => s.follows id := by
  cases op with
  | subscribe => exact follows_subscribe s id
  | unsubscribe ended => exact follows_unsubscribe s ended id
  | setFormula | setTag | deleteTag => exact follows_of_change? rfl s id

/-- Those who follow the store are those who are registered. -/
theorem follows_run_iff (s : Store) (ids : List Nat) (h : ∀ id, s.follows id = true ↔ id ∈ ids)
    (ops : List Operation) (id : Nat) :
    (s.run ops).follows id = true ↔ id ∈ registered s ids ops := by
  induction ops generalizing s ids with
  | nil => exact h id
  | cons op ops ih =>
      have hstep := follows_perform s op
      cases op with
      | subscribe | unsubscribe | setFormula | setTag | deleteTag =>
          exact ih _ _ fun other => by simp [hstep, h]

/-- A subscription that there has been has a number below that of the next one. -/
theorem lt_of_follows {s : Store} {id : Nat} (h : s.follows id = true) : id < s.subscribe.1 := by
  refine Nat.lt_of_not_le fun hle => ?_
  rw [follows, List.getElem?_eq_none hle] at h
  cases h

/-- The number of the next subscription only grows. -/
theorem subscribe_fst_perform (s : Store) (op : Operation) :
    (s.perform op).subscribe.1 = if op = .subscribe then s.subscribe.1 + 1 else s.subscribe.1 := by
  have hwrite {op : Operation} {change : Change} (h : op.change? = some change) :
      (s.perform op).subscribe.1 = s.subscribe.1 := by
    rcases perform_of_change? h s with ⟨-, hperform⟩ | ⟨-, hperform⟩ <;> rw [hperform]
    exact List.length_map _
  cases op with
  | subscribe => exact List.length_append
  | unsubscribe id =>
      show (s.unsubscribe id).2.subscriptions.length = s.subscriptions.length
      rw [unsubscribe]
      split
      · split
        · exact List.length_set
        · rfl
      · rfl
  | setFormula | setTag | deleteTag => exact hwrite rfl

theorem subscribe_fst_le_perform (s : Store) (op : Operation) :
    s.subscribe.1 ≤ (s.perform op).subscribe.1 := by
  rw [subscribe_fst_perform]
  split <;> omega

/-- The numbers given are at least that of the next subscription, and all different. -/
theorem nodup_issued (s : Store) (ops : List Operation) :
    (∀ id ∈ issued s ops, s.subscribe.1 ≤ id) ∧ (issued s ops).Nodup := by
  induction ops generalizing s with
  | nil => exact ⟨fun _ h => absurd h List.not_mem_nil, List.nodup_nil⟩
  | cons op ops ih =>
      obtain ⟨hle, hnodup⟩ := ih (s.perform op)
      have hnext := subscribe_fst_perform s op
      cases op with
      | subscribe =>
          rw [if_pos rfl] at hnext
          refine ⟨fun id hid => ?_, List.nodup_cons.2 ⟨fun hmem => ?_, hnodup⟩⟩
          · rcases List.mem_cons.1 hid with rfl | hid
            · exact Nat.le_refl _
            · have := hle id hid
              omega
          · have := hle _ hmem
            omega
      | unsubscribe | setFormula | setTag | deleteTag =>
          rw [if_neg (by simp)] at hnext
          exact ⟨fun id hid => hnext ▸ hle id hid, hnodup⟩

/-! ## Whole histories -/

theorem replayAll_append (s : Snapshot) (log more : List Change) :
    s.replayAll (log ++ more) = (s.replayAll log).replayAll more := List.foldl_append

/-- A subscription that has ended receives nothing more, and its number is not given again. -/
theorem received_run_of_ended {s : Store} {id : Nat} (hid : id < s.subscribe.1)
    (h : s.follows id = false) (ops : List Operation) : (s.run ops).received id = s.received id := by
  induction ops generalizing s with
  | nil => rfl
  | cons op ops ih =>
      obtain ⟨change?, -, -, hreceived⟩ := emits_received s op
      have hkept : (s.perform op).received id = s.received id := by simp [hreceived, h]
      have hended : (s.perform op).follows id = false := by
        rw [follows_perform]
        cases op with
        | subscribe => simpa [h] using Nat.ne_of_lt hid
        | unsubscribe | setFormula | setTag | deleteTag => simp [h]
      exact (ih (Nat.lt_of_lt_of_le hid (subscribe_fst_le_perform s op)) hended).trans hkept

/-- Until its end, a subscription receives the changes made to the snapshot, and replaying them
keeps up with the store. -/
theorem exists_log_of_follows {s : Store} {id : Nat} (h : s.follows id = true)
    (ops : List Operation) :
    ∃ log, Altered s (ops.takeWhile (· ≠ .unsubscribe id)) log ∧
      (s.run ops).received id = s.received id ++ log ∧
      (s.run (ops.takeWhile (· ≠ .unsubscribe id))).snapshot = s.snapshot.replayAll log := by
  induction ops generalizing s with
  | nil => exact ⟨[], .nil s, (List.append_nil _).symm, rfl⟩
  | cons op ops ih =>
      obtain ⟨change?, halters, hsnapshot, hreceived⟩ := emits_received s op
      by_cases hop : op = .unsubscribe id
      · -- here the interval ends; nothing is received from now on
        have hended : (s.perform op).follows id = false := by simp [hop, follows_perform]
        have hlt := Nat.lt_of_lt_of_le (lt_of_follows h) (subscribe_fst_le_perform s op)
        refine ⟨[], ?_, ?_, ?_⟩
        · rw [List.takeWhile_cons, if_neg (by simpa using hop)]
          exact .nil s
        · refine (received_run_of_ended hlt hended ops).trans ?_
          rw [hop, List.append_nil]
          exact received_unsubscribe s id id
        · rw [List.takeWhile_cons, if_neg (by simpa using hop)]
          rfl
      · have hgoes : (s.perform op).follows id = true := by
          rw [follows_perform]
          cases op with
          | unsubscribe ended =>
              have hne : id ≠ ended := fun he => hop (by rw [he])
              simp [h, hne]
          | subscribe | setFormula | setTag | deleteTag => simp [h]
        obtain ⟨log, haltered, hlog, hrest⟩ := ih hgoes
        refine ⟨change?.toList ++ log, ?_, ?_, ?_⟩
        · rw [List.takeWhile_cons, if_pos (by simpa using hop)]
          exact .cons halters haltered
        · refine hlog.trans ?_
          rw [hreceived, if_pos h, List.append_assoc]
        · rw [List.takeWhile_cons, if_pos (by simpa using hop), replayAll_append, ← hsnapshot]
          exact hrest

theorem run_append (s : Store) (ops more : List Operation) :
    s.run (ops ++ more) = (s.run ops).run more := List.foldl_append

/-- Whoever subscribes after some history receives, until the subscription ends, exactly the changes
that alter the store, in their order; replaying them on what the store was leads to what it is
then. An operation that alters nothing sends nothing to anybody. The numbers of subscriptions are
all different, and a number ends a subscription, just this one, exactly while it is registered. -/
theorem altered_received_run (before ops : List Operation) :
    let s := run {} before
    let id := s.subscribe.1
    let interval := ops.takeWhile (· ≠ .unsubscribe id)
    let log := (run {} (before ++ .subscribe :: ops)).received id
    (Altered (s.perform .subscribe) interval log ∧
      s.snapshot.replayAll log = (run {} (before ++ .subscribe :: interval)).snapshot) ∧
    (∀ op, (s.perform op).snapshot = s.snapshot →
      ∀ other, (s.perform op).received other = s.received other) ∧
    (issued {} (before ++ ops)).Nodup ∧
    ∀ ended, ((s.unsubscribe ended).1 = true ↔ ended ∈ registered {} [] before) ∧
      ∀ other, (s.unsubscribe ended).2.follows other = (s.follows other && other != ended) := by
  intro s id interval log
  have hrun (more : List Operation) :
      run {} (before ++ .subscribe :: more) = (s.perform .subscribe).run more := run_append _ _ _
  have hfollows : (s.perform .subscribe).follows id = true := by simp [follows_perform, id]
  have hfresh : (s.perform .subscribe).received id = [] := by
    refine (received_subscribe s id).trans ?_
    show (s.subscriptions[s.subscriptions.length]?.map (·.received)).getD [] = []
    rw [List.getElem?_eq_none (Nat.le_refl _)]
    rfl
  refine ⟨?_, fun op hop other => ?_, (nodup_issued {} _).2, fun ended => ⟨?_, fun other => ?_⟩⟩
  · obtain ⟨log', haltered, hlog, hsnapshot⟩ := exists_log_of_follows hfollows ops
    have hlog' : log = log' := by
      show (run {} (before ++ .subscribe :: ops)).received id = log'
      rw [hrun, hlog, hfresh, List.nil_append]
    rw [hlog', hrun]
    exact ⟨haltered, hsnapshot.symm⟩
  · obtain ⟨change?, halters, -, hreceived⟩ := emits_received s op
    cases halters with
    | kept => simp [hreceived]
    | changed hne => exact absurd hop hne
  · rw [unsubscribe_fst]
    exact follows_run_iff {} [] (fun id => by simp [follows]) before ended
  · exact follows_unsubscribe s ended other

end Store
end FormulaPad
