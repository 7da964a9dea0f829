import FormulaPad.Duration

/-!
# FormulaPad.Proofs.Durations

Which texts are durations, and which duration each of them is.

A duration is written as a count and a unit. The letters of the units overlap,
`m` and `s` each being a part of `ms`; but a count ends with a digit, so there is
only one way to tell the two apart, and looking for the units in the order `ms`,
`m`, `h`, `s` finds it. The count has to fit 64 bits, and minutes and hours also
as seconds. Nothing else is rejected, and the duration is the exact product.

Main statements: `readCount?_eq_some_iff` (counts), `splitUnit_append` (a count
and its unit are told apart) and `read?_eq_some_iff`.
-/

namespace FormulaPad.Duration

open Text

variable {t count suffix : Text} {n : Nat} {d : Duration}

/-! ## Counts -/

/-- The text is this number in decimal digits, with a plus sign before them or without. -/
def IsCount (t : Text) (n : Nat) : Prop :=
  ∃ sign digits, (sign = [] ∨ sign = ['+']) ∧ digits ≠ [] ∧ (∀ c ∈ digits, c.isDigit = true) ∧
    t = sign ++ digits ∧ n = natOfDigits digits

/-- A count without its sign. -/
def unsigned : Text → Text
  | '+' :: u => u
  | u => u

theorem exists_sign (t : Text) : ∃ sign, (sign = [] ∨ sign = ['+']) ∧ t = sign ++ unsigned t := by
  unfold unsigned
  split
  · exact ⟨['+'], .inr rfl, rfl⟩
  · exact ⟨[], .inl rfl, rfl⟩

theorem unsigned_append {sign digits : Text} (hsign : sign = [] ∨ sign = ['+'])
    (hdigits : ∀ c ∈ digits, c.isDigit = true) : unsigned (sign ++ digits) = digits := by
  rcases hsign with rfl | rfl
  · show unsigned digits = digits
    unfold unsigned
    split
    · next u => cases hdigits '+' List.mem_cons_self
    · rfl
  · rfl

theorem readCount?_eq (t : Text) :
    readCount? t =
      if unsigned t ≠ [] ∧ (unsigned t).all Char.isDigit ∧ natOfDigits (unsigned t) < countLimit then
        some (natOfDigits (unsigned t))
      else none := rfl

/-- A count is read exactly if it fits 64 bits. -/
theorem readCount?_eq_some_iff : readCount? t = some n ↔ IsCount t n ∧ n < countLimit := by
  rw [readCount?_eq, Option.ite_none_right_eq_some, List.all_eq_true]
  constructor
  · rintro ⟨⟨hne, hdigits, hlimit⟩, hn⟩
    obtain ⟨sign, hsign, ht⟩ := exists_sign t
    rw [← Option.some.inj hn]
    exact ⟨⟨sign, unsigned t, hsign, hne, hdigits, ht, rfl⟩, hlimit⟩
  · rintro ⟨⟨sign, digits, hsign, hne, hdigits, rfl, rfl⟩, hlimit⟩
    rw [unsigned_append hsign hdigits]
    exact ⟨⟨hne, hdigits, hlimit⟩, rfl⟩

/-- A count ends with a digit, and so with no letter of a unit. -/
theorem IsCount.exists_last (h : IsCount t n) :
    ∃ lead c, t = lead ++ [c] ∧ 'm' ≠ c ∧ 's' ≠ c ∧ 'h' ≠ c := by
  obtain ⟨sign, digits, -, hne, hdigits, rfl, -⟩ := h
  have hlast := hdigits _ (List.getLast_mem hne)
  refine ⟨sign ++ digits.dropLast, digits.getLast hne, ?_, ?_⟩
  · rw [List.append_assoc, List.dropLast_concat_getLast]
  · refine ⟨?_, ?_, ?_⟩ <;> (intro hletter; rw [← hletter] at hlast; cases hlast)

/-! ## Units -/

/-- The units in which a duration can be given. -/
inductive TimeUnit where
  | milliseconds
  | seconds
  | minutes
  | hours

namespace TimeUnit

/-- What stands behind the count; for seconds there may be nothing. -/
def suffixes : TimeUnit → List Text
  | milliseconds => ["ms".toList]
  | seconds => ["s".toList, []]
  | minutes => ["m".toList]
  | hours => ["h".toList]

/-- The length of the unit in milliseconds. -/
def length : TimeUnit → Nat
  | milliseconds => 1
  | seconds => 1000
  | minutes => 60 * 1000
  | hours => 3600 * 1000

/-- Minutes and hours are turned into so many seconds; the other units are kept as they are. -/
def factor : TimeUnit → Nat
  | milliseconds | seconds => 1
  | minutes => 60
  | hours => 3600

/-- The duration of so many units, unless they are too many. -/
def amount? (u : TimeUnit) (n : Nat) : Option Duration :=
  if n * u.factor < countLimit then some ⟨n * u.length⟩ else none

theorem amount?_milliseconds (h : n < countLimit) : milliseconds.amount? n = some ⟨n⟩ := by
  rw [amount?, factor, length, Nat.mul_one, if_pos h]

theorem amount?_seconds (h : n < countLimit) : seconds.amount? n = some (ofSeconds n) := by
  rw [amount?, factor, Nat.mul_one, if_pos h, length, Nat.mul_comm]
  rfl

/-- Of units that are turned into seconds, the seconds are limited. -/
theorem amount?_eq_ofUnits? (u : TimeUnit) (h : u.length = u.factor * 1000) :
    u.amount? = ofUnits? u.factor := by
  funext n
  rw [amount?, ofUnits?, ofSeconds, h, ← Nat.mul_assoc, Nat.mul_comm n, Nat.mul_comm 1000]

end TimeUnit

/-- A text taken apart into what should be a count, and the unit behind it. -/
def splitUnit (t : Text) : Text × TimeUnit :=
  match dropTail? "ms".toList t with
  | some count => (count, .milliseconds)
  | none =>
      match dropTail? "m".toList t with
      | some count => (count, .minutes)
      | none =>
          match dropTail? "h".toList t with
          | some count => (count, .hours)
          | none =>
              match dropTail? "s".toList t with
              | some count => (count, .seconds)
              | none => (t, .seconds)

theorem exists_suffix (t : Text) :
    ∃ suffix ∈ (splitUnit t).2.suffixes, t = (splitUnit t).1 ++ suffix := by
  unfold splitUnit
  split
  · next hms => exact ⟨_, List.mem_cons_self, eq_append_of_dropTail? hms⟩
  · split
    · next hm => exact ⟨_, List.mem_cons_self, eq_append_of_dropTail? hm⟩
    · split
      · next hh => exact ⟨_, List.mem_cons_self, eq_append_of_dropTail? hh⟩
      · split
        · next hs => exact ⟨_, List.mem_cons_self, eq_append_of_dropTail? hs⟩
        · exact ⟨[], List.mem_cons_of_mem _ List.mem_cons_self, (List.append_nil t).symm⟩

/-- A count and the unit behind it are told apart. -/
theorem splitUnit_append {u : TimeUnit} (hcount : IsCount count n) (hsuffix : suffix ∈ u.suffixes) :
    splitUnit (count ++ suffix) = (count, u) := by
  obtain ⟨lead, c, rfl, hm, hs, hh⟩ := hcount.exists_last
  cases u with
  | milliseconds =>
      obtain rfl := List.mem_singleton.1 hsuffix
      rw [splitUnit, dropTail?_append]
  | minutes =>
      obtain rfl := List.mem_singleton.1 hsuffix
      simp [splitUnit, dropTail?, dropLead?]
  | hours =>
      obtain rfl := List.mem_singleton.1 hsuffix
      simp [splitUnit, dropTail?, dropLead?]
  | seconds =>
      rcases List.mem_cons.1 hsuffix with rfl | hnone
      · simp [splitUnit, dropTail?, dropLead?, hm]
      · obtain rfl := List.mem_singleton.1 hnone
        simp [splitUnit, dropTail?, dropLead?, hm, hs, hh]

/-! ## Durations -/

/-- A count that is read is small enough for a unit that keeps it as it is. -/
theorem map_readCount? {u : TimeUnit} {f : Nat → Duration}
    (h : ∀ n < countLimit, u.amount? n = some (f n)) (t : Text) :
    (readCount? t).map f = (readCount? t).bind u.amount? := by
  cases hread : readCount? t with
  | none => rfl
  | some n => exact (h n (readCount?_eq_some_iff.1 hread).2).symm

/-- A duration is a count of the unit that stands behind it. -/
theorem read?_eq (t : Text) :
    read? t = (readCount? (splitUnit (trim t)).1).bind (splitUnit (trim t)).2.amount? := by
  rw [read?, splitUnit]
  cases dropTail? "ms".toList (trim t) with
  | some count => exact map_readCount? (fun _ => TimeUnit.amount?_milliseconds) count
  | none =>
      cases dropTail? "m".toList (trim t) with
      | some count => rw [TimeUnit.amount?_eq_ofUnits? .minutes rfl]; rfl
      | none =>
          cases dropTail? "h".toList (trim t) with
          | some count => rw [TimeUnit.amount?_eq_ofUnits? .hours rfl]; rfl
          | none =>
              cases dropTail? "s".toList (trim t) with
              | some count => exact map_readCount? (fun _ => TimeUnit.amount?_seconds) count
              | none => exact map_readCount? (fun _ => TimeUnit.amount?_seconds) (trim t)

/-- Blanks around it aside, the text is a count of units that is not too large. -/
structure IsGiven (t : Text) (n : Nat) (u : TimeUnit) : Prop where
  written : ∃ count suffix, trim t = count ++ suffix ∧ IsCount count n ∧ suffix ∈ u.suffixes
  count_lt : n < countLimit
  /-- So many minutes or hours fit 64 bits as seconds, too. -/
  seconds_lt : n * u.factor < countLimit

/-- The text is a duration. -/
def IsDuration (t : Text) : Prop := ∃ n u, IsGiven t n u

theorem read?_of_isGiven {u : TimeUnit} (h : IsGiven t n u) : read? t = some ⟨n * u.length⟩ := by
  obtain ⟨count, suffix, htrim, hcount, hsuffix⟩ := h.written
  rw [read?_eq, htrim, splitUnit_append hcount hsuffix,
    readCount?_eq_some_iff.2 ⟨hcount, h.count_lt⟩]
  exact if_pos h.seconds_lt

theorem exists_isGiven_of_read? (h : read? t = some d) :
    ∃ n u, IsGiven t n u ∧ d = ⟨n * u.length⟩ := by
  rw [read?_eq] at h
  obtain ⟨n, hread, hamount⟩ := Option.bind_eq_some_iff.1 h
  obtain ⟨hcount, hlimit⟩ := readCount?_eq_some_iff.1 hread
  obtain ⟨hseconds, hd⟩ := Option.ite_none_right_eq_some.1 hamount
  obtain ⟨suffix, hsuffix, htrim⟩ := exists_suffix (trim t)
  exact ⟨n, _, ⟨⟨_, suffix, htrim, hcount, hsuffix⟩, hlimit, hseconds⟩,
    (Option.some.inj hd).symm⟩

/-- A text is read as a duration exactly if it is one. -/
theorem exists_read?_iff : (∃ d, read? t = some d) ↔ IsDuration t := by
  constructor
  · rintro ⟨d, hd⟩
    obtain ⟨n, u, hgiven, -⟩ := exists_isGiven_of_read? hd
    exact ⟨n, u, hgiven⟩
  · rintro ⟨n, u, hgiven⟩
    exact ⟨_, read?_of_isGiven hgiven⟩

/-- **A duration is read exactly or rejected**: the text is a count of units that fits 64 bits, and
the duration is the count times the length of the unit. -/
theorem read?_eq_some_iff :
    read? t = some d ↔ ∃ n u, IsGiven t n u ∧ d.milliseconds = n * u.length := by
  constructor
  · intro h
    obtain ⟨n, u, hgiven, rfl⟩ := exists_isGiven_of_read? h
    exact ⟨n, u, hgiven, rfl⟩
  · rintro ⟨n, u, hgiven, hd⟩
    rw [read?_of_isGiven hgiven, ← hd]

/-- The last number of minutes whose seconds fit 64 bits, and the first whose seconds do not. -/
example :
    read? " +307445734561825860m\t".toList = some ⟨307445734561825860 * 60000⟩ ∧
      read? "307445734561825861m".toList = none := by decide

end FormulaPad.Duration
