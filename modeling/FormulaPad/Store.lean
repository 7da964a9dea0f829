import FormulaPad.Bindings

/-!
# FormulaPad.Store

The formula and the values bound to its tags, and those who follow their
changes.

Every write that changes the content is delivered to all active subscriptions;
a write that leaves the content as it is is delivered to none. A subscription
is known by its number, counted from zero, and keeps what it has received also
after it has ended. `Change.apply` says what a change does to the content, so
that the changes received can be replayed.
-/

namespace FormulaPad

/-! ## Content and changes -/

/-- What the store holds. -/
structure Content where
  formula : Text := []
  tags : Bindings := {}
  deriving DecidableEq, Repr

inductive Change where
  | formula (text : Text)
  | tag (name value : Text)
  | deleted (name : Text)
  deriving DecidableEq, Repr

/-- The content after a change. -/
def Change.apply (c : Content) : Change → Content
  | formula text => { c with formula := text }
  | tag name value => { c with tags := c.tags.insert name value }
  | deleted name => { c with tags := c.tags.erase name }

/-! ## Stores -/

/-- A follower of the store. -/
structure Subscription where
  received : List Change := []
  active : Bool := true
  deriving DecidableEq, Repr

structure Store where
  content : Content := {}
  /-- All subscriptions there have been; the place is the number. -/
  subscriptions : List Subscription := []
  deriving DecidableEq, Repr

/-- Active subscriptions receive the change. -/
def Subscription.deliver (change : Change) (s : Subscription) : Subscription :=
  if s.active then { s with received := s.received ++ [change] } else s

namespace Store

def formula (s : Store) : Text := s.content.formula

def tags (s : Store) : Bindings := s.content.tags

/-- A store with this content, and nobody to follow it. -/
def ofContent (formula : Text) (tags : Bindings) : Store := ⟨⟨formula, tags⟩, []⟩

/-! ## Writing -/

/-- Change the content and tell all subscriptions. -/
def commit (s : Store) (change : Change) : Store :=
  ⟨change.apply s.content, s.subscriptions.map (·.deliver change)⟩

def setFormula (s : Store) (text : Text) : Store :=
  if text = s.formula then s else s.commit (.formula text)

def setTag (s : Store) (name value : Text) : Store :=
  if s.tags.get? name = some value then s else s.commit (.tag name value)

/-- Remove a binding; the first component is the value it had. -/
def deleteTag (s : Store) (name : Text) : Option Text × Store :=
  match s.tags.get? name with
  | none => (none, s)
  | some value => (some value, s.commit (.deleted name))

/-! ## Following -/

/-- A new subscription; the first component is its number. -/
def subscribe (s : Store) : Nat × Store :=
  (s.subscriptions.length, { s with subscriptions := s.subscriptions ++ [{}] })

/-- End a subscription; the first component tells whether it was active. -/
def unsubscribe (s : Store) (id : Nat) : Bool × Store :=
  match s.subscriptions[id]? with
  | some sub =>
      if sub.active then
        (true, { s with subscriptions := s.subscriptions.set id { sub with active := false } })
      else (false, s)
  | none => (false, s)

/-- The number of active subscriptions. -/
def observerCount (s : Store) : Nat := s.subscriptions.countP (·.active)

/-- What a subscription has received. -/
def received (s : Store) (id : Nat) : List Change := (s.subscriptions[id]?.map (·.received)).getD []

/-- Take what a subscription has received out of its inbox. -/
def collect (s : Store) (id : Nat) : List Change × Store :=
  match s.subscriptions[id]? with
  | some sub => (sub.received, { s with subscriptions := s.subscriptions.set id { sub with received := [] } })
  | none => ([], s)

theorem content_setFormula (s : Store) (text : Text) :
    (s.setFormula text).content = { s.content with formula := text } := by
  by_cases h : text = s.formula
  · rw [setFormula, if_pos h, h]; rfl
  · rw [setFormula, if_neg h]; rfl

theorem formula_setFormula (s : Store) (text : Text) : (s.setFormula text).formula = text := by
  rw [formula, content_setFormula]

theorem tags_setFormula (s : Store) (text : Text) : (s.setFormula text).tags = s.tags := by
  rw [tags, content_setFormula, tags]

/-- A write that is not needed because the tag has this value already makes no difference. -/
theorem content_setTag (s : Store) (name value : Text) :
    (s.setTag name value).content = { s.content with tags := s.tags.insert name value } := by
  rw [setTag]
  split
  · next h => rw [Bindings.insert_of_get? h]; rfl
  · rfl

theorem formula_setTag (s : Store) (name value : Text) :
    (s.setTag name value).formula = s.formula := by
  rw [setTag]
  split <;> rfl

theorem get?_setTag (s : Store) (name value other : Text) :
    (s.setTag name value).tags.get? other =
      if other = name then some value else s.tags.get? other := by
  rw [setTag]
  split
  · next hsame =>
      split
      · next hother => rw [hother, hsame]
      · rfl
  · exact Bindings.get?_insert s.tags name value other

/-- Taking changes out of an inbox leaves the content as it is. -/
theorem content_collect (s : Store) (id : Nat) : (s.collect id).2.content = s.content := by
  rw [collect]
  split <;> rfl

end Store
end FormulaPad
