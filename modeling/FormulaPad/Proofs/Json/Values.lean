import FormulaPad.Proofs.Json.Numbers
import FormulaPad.Proofs.Json.Strings

/-!
# FormulaPad.Proofs.Json.Values

Compact text of JSON values, and reading it back.

A value whose numbers and strings are written as such comes back as it is
(`read?_write`). The text of a value tells where the value ends, except for a
number, which the next character must not go on with; and reading it takes at
most two steps for a character (`takeValue?_write`), for which the fuel of
`read?` is enough.
-/

namespace FormulaPad.Json

/-! ## Values that are written as such -/

/-- The text is a number as it is written. -/
def IsNumberText (literal : Text) : Prop := ∃ p : NumberParts, p.WellFormed ∧ p.text = literal

/-- The text is a string as it is written. -/
def IsStringText (raw : Text) : Prop := ∃ t, encodeString t = raw

mutual

/-- All numbers and strings of the value, the keys among them, are written as such. -/
def IsWritten : Json → Prop
  | .null => True
  | .bool _ => True
  | .number literal => IsNumberText literal
  | .string raw => IsStringText raw
  | .array items => AreWritten items
  | .object members => MembersAreWritten members

def AreWritten : List Json → Prop
  | [] => True
  | item :: rest => IsWritten item ∧ AreWritten rest

def MembersAreWritten : List (Text × Json) → Prop
  | [] => True
  | (key, value) :: rest => IsStringText key ∧ IsWritten value ∧ MembersAreWritten rest

end

/-! ## Where a value starts and ends -/

theorem skipGap_cons {c : Char} (h : isGap c = false) (t : Text) : skipGap (c :: t) = c :: t := by
  simp [skipGap, h]

theorem endsNumber_cons {c : Char} (h : continuesNumber c = false) (t : Text) :
    EndsNumber (c :: t) := by
  rintro _ ⟨⟩
  exact h

/-- A number starts with its sign or a digit. -/
theorem exists_cons_of_isNumberText {literal : Text} (h : IsNumberText literal) :
    ∃ c t, literal = c :: t ∧ (c = '-' ∨ c.isDigit = true) := by
  obtain ⟨⟨negative, whole, part, power⟩, hp, rfl⟩ := h
  obtain ⟨c, t, rfl⟩ := List.exists_cons_of_ne_nil hp.whole.1
  cases negative with
  | true => exact ⟨_, _, rfl, .inl rfl⟩
  | false => exact ⟨_, _, rfl, .inr (hp.whole.2 c List.mem_cons_self)⟩

/-- What starts a number is no other character than the sign and the digits. -/
theorem ne_of_startsNumber {c d : Char} (h : c = '-' ∨ c.isDigit = true) (hsign : '-' ≠ d)
    (hdigit : d.isDigit = false) : c ≠ d := by
  rintro rfl
  rcases h with rfl | h
  · exact hsign rfl
  · rw [hdigit] at h
    cases h

theorem isGap_of_startsNumber {c : Char} (h : c = '-' ∨ c.isDigit = true) : isGap c = false := by
  have hblank : c ≠ ' ' := ne_of_startsNumber h (by decide) rfl
  have htab : c ≠ '\t' := ne_of_startsNumber h (by decide) rfl
  have hfeed : c ≠ '\n' := ne_of_startsNumber h (by decide) rfl
  have hreturn : c ≠ '\r' := ne_of_startsNumber h (by decide) rfl
  simp [isGap, hblank, htab, hfeed, hreturn]

/-- A value starts neither with a blank nor with the bracket that ends an array. -/
theorem exists_cons_of_isWritten {v : Json} (h : v.IsWritten) :
    ∃ c t, v.write = c :: t ∧ isGap c = false ∧ c ≠ ']' := by
  cases v with
  | null => exact ⟨_, _, rfl, rfl, by decide⟩
  | bool b => cases b <;> exact ⟨_, _, rfl, rfl, by decide⟩
  | string raw => exact ⟨_, _, rfl, rfl, by decide⟩
  | array items => exact ⟨_, _, rfl, rfl, by decide⟩
  | object members => exact ⟨_, _, rfl, rfl, by decide⟩
  | number literal =>
      obtain ⟨c, t, hc, hstart⟩ := exists_cons_of_isNumberText h
      exact ⟨c, t, hc, isGap_of_startsNumber hstart, ne_of_startsNumber hstart (by decide) rfl⟩

/-! ## One step of reading -/

section Step

variable {v : Json} {literal raw key rest : Text} {items : List Json}
  {members : List (Text × Json)} {fuel : Nat}

theorem takeValue?_number (h : IsNumberText literal) (hrest : EndsNumber rest) :
    takeValue? (fuel + 1) (literal ++ rest) = some (.number literal, rest) := by
  obtain ⟨c, t, hc, hstart⟩ := exists_cons_of_isNumberText h
  obtain ⟨p, hp, rfl⟩ := h
  have htake := takeNumber?_text hp hrest
  have hlength : t.length + rest.length + 1 - rest.length = t.length + 1 := by omega
  -- the reader looks for all other values first
  have hmark : c ≠ '"' := ne_of_startsNumber hstart (by decide) rfl
  have hbracket : c ≠ '[' := ne_of_startsNumber hstart (by decide) rfl
  have hbrace : c ≠ '\x7b' := ne_of_startsNumber hstart (by decide) rfl
  have hnull : c ≠ 'n' := ne_of_startsNumber hstart (by decide) rfl
  have htrue : c ≠ 't' := ne_of_startsNumber hstart (by decide) rfl
  have hfalse : c ≠ 'f' := ne_of_startsNumber hstart (by decide) rfl
  rw [hc, List.cons_append] at htake ⊢
  simp [takeValue?, skipGap_cons (isGap_of_startsNumber hstart), Text.dropLead?, htake, hlength,
    hmark, hbracket, hbrace, hnull.symm, htrue.symm, hfalse.symm]

theorem takeValue?_string (h : IsStringText raw) :
    takeValue? (fuel + 1) ((Json.string raw).write ++ rest) = some (.string raw, rest) := by
  obtain ⟨t, rfl⟩ := h
  simp [write, takeValue?, skipGap, isGap, takeString?_encodeString]

theorem takeValue?_array (hhead : ∃ c t, writeItems items = c :: t ∧ isGap c = false ∧ c ≠ ']')
    (h : takeItems? fuel (writeItems items ++ ']' :: rest) = some (items, rest)) :
    takeValue? (fuel + 1) ((Json.array items).write ++ rest) = some (.array items, rest) := by
  obtain ⟨c, t, hc, hgap, hne⟩ := hhead
  have hskip : skipGap (c :: (t ++ ']' :: rest)) = c :: (t ++ ']' :: rest) := skipGap_cons hgap _
  rw [hc, List.cons_append] at h
  simp [write, takeValue?, skipGap_cons (c := '[') rfl, hc, hskip, hne, h]

theorem takeItems?_last (h : takeValue? fuel (v.write ++ ']' :: rest) = some (v, ']' :: rest)) :
    takeItems? (fuel + 1) (v.write ++ ']' :: rest) = some ([v], rest) := by
  simp [takeItems?, h, skipGap_cons, isGap]

theorem takeItems?_cons {t : Text}
    (h : takeValue? fuel (v.write ++ ',' :: t) = some (v, ',' :: t))
    (hrest : takeItems? fuel t = some (items, rest)) :
    takeItems? (fuel + 1) (v.write ++ ',' :: t) = some (v :: items, rest) := by
  simp [takeItems?, h, hrest, skipGap_cons, isGap]

theorem takeValue?_object (hhead : ∃ t, writeMembers members = '"' :: t)
    (h : takeMembers? fuel (writeMembers members ++ '\x7d' :: rest) = some (members, rest)) :
    takeValue? (fuel + 1) ((Json.object members).write ++ rest) = some (.object members, rest) := by
  obtain ⟨t, ht⟩ := hhead
  rw [ht, List.cons_append] at h
  simp [write, takeValue?, skipGap_cons, isGap, ht, h]

theorem takeMembers?_last (hkey : IsStringText key)
    (h : takeValue? fuel (v.write ++ '\x7d' :: rest) = some (v, '\x7d' :: rest)) :
    takeMembers? (fuel + 1) ('"' :: (key ++ '"' :: ':' :: (v.write ++ '\x7d' :: rest))) =
      some ([(key, v)], rest) := by
  obtain ⟨k, rfl⟩ := hkey
  simp [takeMembers?, skipGap_cons, isGap, takeString?_encodeString, h]

theorem takeMembers?_cons {t : Text} (hkey : IsStringText key)
    (h : takeValue? fuel (v.write ++ ',' :: t) = some (v, ',' :: t))
    (hrest : takeMembers? fuel t = some (members, rest)) :
    takeMembers? (fuel + 1) ('"' :: (key ++ '"' :: ':' :: (v.write ++ ',' :: t))) =
      some ((key, v) :: members, rest) := by
  obtain ⟨k, rfl⟩ := hkey
  simp [takeMembers?, skipGap_cons, isGap, takeString?_encodeString, h, hrest]

end Step

/-! ## Whole values -/

theorem writeItems_cons_cons (item next : Json) (items : List Json) :
    writeItems (item :: next :: items) = item.write ++ ',' :: writeItems (next :: items) := by
  simp [writeItems]

theorem writeMembers_cons_cons (key : Text) (value : Json) (next : Text × Json)
    (members : List (Text × Json)) :
    writeMembers ((key, value) :: next :: members) =
      '"' :: key ++ '"' :: ':' :: value.write ++ ',' :: writeMembers (next :: members) := by
  simp [writeMembers]

theorem exists_cons_of_areWritten {item : Json} (h : item.IsWritten) (items : List Json) :
    ∃ c t, writeItems (item :: items) = c :: t ∧ isGap c = false ∧ c ≠ ']' := by
  obtain ⟨c, t, hc, hstart⟩ := exists_cons_of_isWritten h
  cases items with
  | nil => exact ⟨c, t, by rw [writeItems, hc], hstart⟩
  | cons next items =>
      exact ⟨c, _, by rw [writeItems_cons_cons, hc, List.cons_append], hstart⟩

theorem exists_cons_writeMembers (member : Text × Json) (members : List (Text × Json)) :
    ∃ t, writeMembers (member :: members) = '"' :: t := by
  cases members with
  | nil => exact ⟨_, rfl⟩
  | cons next members => exact ⟨_, writeMembers_cons_cons ..⟩

mutual

/-- A value is read back from the start of a text, in two steps for each of its characters. -/
theorem takeValue?_write : ∀ (v : Json) {fuel : Nat} {rest : Text}, v.IsWritten →
    2 * v.write.length ≤ fuel → EndsNumber rest →
      takeValue? fuel (v.write ++ rest) = some (v, rest)
  | v, 0, _, h, hfuel, _ => by
      obtain ⟨c, t, hc, -⟩ := exists_cons_of_isWritten h
      simp [hc] at hfuel
  | .null, _ + 1, _, _, _, _ => by
      simp [write, takeValue?, skipGap_cons, isGap, Text.dropLead?]
  | .bool true, _ + 1, _, _, _, _ => by
      simp [write, takeValue?, skipGap_cons, isGap, Text.dropLead?]
  | .bool false, _ + 1, _, _, _, _ => by
      simp [write, takeValue?, skipGap_cons, isGap, Text.dropLead?]
  | .number _, _ + 1, _, h, _, hrest => takeValue?_number h hrest
  | .string _, _ + 1, _, h, _, _ => takeValue?_string h
  | .array [], _ + 1, _, _, _, _ => by
      simp [write, writeItems, takeValue?, skipGap_cons, isGap]
  | .array (item :: items), fuel + 1, rest, h, hfuel, _ => by
      simp only [write, List.length_append, List.length_cons, List.length_nil] at hfuel
      refine takeValue?_array (exists_cons_of_areWritten h.1 items) ?_
      exact takeItems?_write (item :: items) h (List.cons_ne_nil _ _) (by omega)
  | .object [], _ + 1, _, _, _, _ => by
      simp [write, writeMembers, takeValue?, skipGap_cons, isGap]
  | .object (member :: members), fuel + 1, rest, h, hfuel, _ => by
      simp only [write, List.length_append, List.length_cons, List.length_nil] at hfuel
      refine takeValue?_object (exists_cons_writeMembers member members) ?_
      exact takeMembers?_write (member :: members) h (List.cons_ne_nil _ _) (by omega)

theorem takeItems?_write : ∀ (items : List Json) {fuel : Nat} {rest : Text}, AreWritten items →
    items ≠ [] → 2 * (writeItems items).length + 1 ≤ fuel →
      takeItems? fuel (writeItems items ++ ']' :: rest) = some (items, rest)
  | [], _, _, _, hne, _ => absurd rfl hne
  | [item], fuel + 1, rest, h, _, hfuel => by
      rw [writeItems] at hfuel ⊢
      exact takeItems?_last (takeValue?_write item h.1 (by omega) (endsNumber_cons rfl rest))
  | item :: next :: items, fuel + 1, rest, h, _, hfuel => by
      simp only [writeItems_cons_cons, List.length_append, List.length_cons] at hfuel
      have hitems : takeItems? fuel (writeItems (next :: items) ++ ']' :: rest) =
          some (next :: items, rest) :=
        takeItems?_write (next :: items) h.2 (List.cons_ne_nil _ _) (by omega)
      rw [writeItems_cons_cons, List.append_assoc, List.cons_append]
      exact takeItems?_cons (takeValue?_write item h.1 (by omega) (endsNumber_cons rfl _)) hitems

theorem takeMembers?_write : ∀ (members : List (Text × Json)) {fuel : Nat} {rest : Text},
    MembersAreWritten members → members ≠ [] → 2 * (writeMembers members).length + 1 ≤ fuel →
      takeMembers? fuel (writeMembers members ++ '\x7d' :: rest) = some (members, rest)
  | [], _, _, _, hne, _ => absurd rfl hne
  | [(key, value)], fuel + 1, rest, h, _, hfuel => by
      simp only [writeMembers, List.length_append, List.length_cons] at hfuel
      simp only [writeMembers, List.cons_append, List.append_assoc]
      exact takeMembers?_last h.1
        (takeValue?_write value h.2.1 (by omega) (endsNumber_cons rfl rest))
  | (key, value) :: next :: members, fuel + 1, rest, h, _, hfuel => by
      simp only [writeMembers_cons_cons, List.length_append, List.length_cons] at hfuel
      have hmembers : takeMembers? fuel (writeMembers (next :: members) ++ '\x7d' :: rest) =
          some (next :: members, rest) :=
        takeMembers?_write (next :: members) h.2.2 (List.cons_ne_nil _ _) (by omega)
      simp only [writeMembers_cons_cons, List.cons_append, List.append_assoc]
      exact takeMembers?_cons h.1
        (takeValue?_write value h.2.1 (by omega) (endsNumber_cons rfl _)) hmembers

end

/-- A value whose numbers and strings are written as such is read back from its compact text. -/
theorem read?_write {v : Json} (h : v.IsWritten) : read? v.write = some v := by
  have hfuel : 2 * v.write.length ≤ fuelFor v.write := by
    rw [fuelFor]
    omega
  have htake : takeValue? (fuelFor v.write) (v.write ++ []) = some (v, []) :=
    takeValue?_write v h hfuel (by simp [EndsNumber])
  rw [List.append_nil] at htake
  simp [read?, htake, skipGap]

end FormulaPad.Json
