import FormulaPad.Proofs.Decimal.Layout

/-!
# FormulaPad.Proofs.Json.Numbers

Numbers of JSON text, put together from their parts.

A number with well-formed parts is read back as these parts, up to a character
that does not go on with it (`takeNumber?_text`). Integers of 64 bits and finite
doubles are all written as such numbers: an integer as digits alone, which stand
for it again (`read?_ofInt`), a double with a point or a power of ten
(`isFraction_writeDouble`), so that it is never taken for an integer
(`read?_writeDouble_ne_integer`).
-/

namespace FormulaPad.Json

open Arithmetic Text

/-! ## Parts -/

/-- One digit or more. -/
def IsDigits (t : Text) : Prop := t ≠ [] ∧ ∀ c ∈ t, c.isDigit = true

/-- A number may go on with this character. -/
def continuesNumber (c : Char) : Bool := c.isDigit || c == '.' || c == 'e' || c == 'E'

/-- A number right before this text ends there. -/
def EndsNumber (rest : Text) : Prop := ∀ c ∈ rest.head?, continuesNumber c = false

theorem EndsNumber.apart {rest : Text} (h : EndsNumber rest) {c : Char} (hc : c ∈ rest.head?) :
    c.isDigit = false ∧ c ≠ '.' ∧ c ≠ 'e' ∧ c ≠ 'E' := by
  simpa [continuesNumber, and_assoc] using h c hc

namespace NumberParts

def signText (negative : Bool) : Text := if negative then ['-'] else []

def partText : Option Text → Text
  | none => []
  | some digits => '.' :: digits

def powerText : Option (Bool × Text) → Text
  | none => []
  | some (negative, digits) => 'e' :: (if negative then '-' else '+') :: digits

/-- The number that has these parts, with a sign before every power of ten. -/
def text (p : NumberParts) : Text :=
  signText p.negative ++ (p.whole ++ (partText p.part ++ powerText p.power))

/-- The parts are those of a number. -/
structure WellFormed (p : NumberParts) : Prop where
  whole : IsDigits p.whole
  /-- No zero leads other digits. -/
  leading : p.whole.head? = some '0' → p.whole = ['0']
  part : ∀ digits ∈ p.part, IsDigits digits
  power : ∀ power ∈ p.power, IsDigits power.2

/-- There is more to the number than an integer. -/
def IsFractional (p : NumberParts) : Prop := p.part ≠ none ∨ p.power ≠ none

end NumberParts

/-! ## Reading the parts -/

section Take

open NumberParts

variable {digits whole rest : Text} {part : Option Text} {power : Option (Bool × Text)}

theorem takeDigits?_append (h : IsDigits digits) (hrest : ∀ c ∈ rest.head?, c.isDigit = false) :
    takeDigits? (digits ++ rest) = some (digits, rest) := by
  rw [takeDigits?, takeWhile_append_of_head? h.2 hrest, dropWhile_append_of_head? h.2 hrest]
  split
  · exact absurd rfl h.1
  · rfl

theorem takeWhole?_append (h : IsDigits whole) (hlead : whole.head? = some '0' → whole = ['0'])
    (hrest : ∀ c ∈ rest.head?, c.isDigit = false) :
    takeWhole? (whole ++ rest) = some (whole, rest) := by
  by_cases hzero : whole.head? = some '0'
  · rw [hlead hzero]
    cases rest with
    | nil => rfl
    | cons c rest => simp [takeWhole?, hrest c rfl]
  · rw [← takeDigits?_append h hrest]
    obtain ⟨c, t, rfl⟩ := List.exists_cons_of_ne_nil h.1
    have hc : c ≠ '0' := by simpa using hzero
    simp [takeWhole?, hc]

theorem takePart?_append (h : ∀ digits ∈ part, IsDigits digits)
    (hrest : ∀ c ∈ rest.head?, c.isDigit = false) (hpoint : rest.head? ≠ some '.') :
    takePart? (partText part ++ rest) = some (part, rest) := by
  cases part with
  | none =>
      cases rest with
      | nil => rfl
      | cons c rest =>
          have hc : c ≠ '.' := by simpa using hpoint
          simp [partText, takePart?, hc]
  | some digits =>
      simp [partText, takePart?, takeDigits?_append (h digits rfl) hrest]

theorem takePower?_append (h : ∀ p ∈ power, IsDigits p.2) (hrest : EndsNumber rest) :
    takePower? (powerText power ++ rest) = some (power, rest) := by
  cases power with
  | none =>
      cases rest with
      | nil => rfl
      | cons c rest =>
          simp [powerText, takePower?, hrest.apart rfl]
  | some p =>
      obtain ⟨negative, digits⟩ := p
      have hdigits : takeDigits? (digits ++ rest) = some (digits, rest) :=
        takeDigits?_append (h _ rfl) fun _ hc => (hrest.apart hc).1
      cases negative <;> simp [powerText, takePower?, hdigits]

theorem head?_powerText_append (power : Option (Bool × Text)) (hrest : EndsNumber rest) :
    ∀ c ∈ (powerText power ++ rest).head?, c.isDigit = false ∧ c ≠ '.' := by
  cases power with
  | none => exact fun _ hc => ⟨(hrest.apart hc).1, (hrest.apart hc).2.1⟩
  | some p => simp [powerText]

theorem head?_partText_append (part : Option Text) (power : Option (Bool × Text))
    (hrest : EndsNumber rest) :
    ∀ c ∈ (partText part ++ (powerText power ++ rest)).head?,
      c.isDigit = false := by
  cases part with
  | none => exact fun c hc => (head?_powerText_append power hrest c hc).1
  | some digits => simp [partText]

/-- A number with well-formed parts is taken as a whole, and read as these parts. -/
theorem takeNumber?_text {p : NumberParts} (h : p.WellFormed) (hrest : EndsNumber rest) :
    takeNumber? (p.text ++ rest) = some (p, rest) := by
  obtain ⟨negative, whole, part, power⟩ := p
  have hwhole := takeWhole?_append h.whole h.leading (head?_partText_append part power hrest)
  have hpart := takePart?_append h.part
    (fun c hc => (head?_powerText_append power hrest c hc).1)
    (fun hc => (head?_powerText_append power hrest _ hc).2 rfl)
  have hpower := takePower?_append h.power hrest
  dsimp only at hwhole hpart hpower
  cases negative with
  | true => simp [takeNumber?, NumberParts.text, signText, hwhole, hpart, hpower]
  | false =>
      obtain ⟨c, t, rfl⟩ := List.exists_cons_of_ne_nil h.whole.1
      have hc : c ≠ '-' := by
        rintro rfl
        exact absurd (h.whole.2 '-' (by simp)) (by decide)
      rw [List.cons_append] at hwhole
      simp [takeNumber?, NumberParts.text, signText, hc, hwhole, hpart, hpower]

end Take

namespace Number

/-! ## Integers -/

theorem read?_text {p : NumberParts} (h : p.WellFormed) : read? p.text = ofParts? p := by
  have htake : takeNumber? (p.text ++ []) = some (p, []) :=
    takeNumber?_text h (by simp [EndsNumber])
  rw [List.append_nil] at htake
  rw [read?, htake]

/-- Digits that 64 bits hold are taken in as a whole. -/
theorem absorb_eq {n : Nat} {digits : Text}
    (h : Nat.pow 10 digits.length * n + Text.natOfDigits digits < Nat.pow 2 64) :
    absorb n digits = (Nat.pow 10 digits.length * n + Text.natOfDigits digits, []) := by
  induction digits generalizing n with
  | nil => simp [absorb, Text.natOfDigits]
  | cons c t ih =>
      have hstep : Nat.pow 10 (c :: t).length * n + Text.natOfDigits (c :: t) =
          Nat.pow 10 t.length * (10 * n + Text.digitValue c) + Text.natOfDigits t := by
        rw [Text.natOfDigits_cons, List.length_cons, Nat.pow_eq, Nat.pow_eq]
        ring
      rw [hstep] at h ⊢
      have hone : 1 ≤ Nat.pow 10 t.length := Nat.pow_pos (by decide)
      have hle : 10 * n + Text.digitValue c ≤ Nat.pow 10 t.length * (10 * n + Text.digitValue c) :=
        Nat.le_mul_of_pos_left _ hone
      rw [absorb, if_pos (by omega), ih h]

/-- The parts of an integer. -/
def intParts (i : Int) : NumberParts := ⟨decide (i < 0), Text.ofNat i.natAbs, none, none⟩

theorem text_intParts (i : Int) : (intParts i).text = Text.ofInt i := by
  by_cases h : i < 0 <;>
    simp [intParts, NumberParts.text, NumberParts.signText, NumberParts.partText,
      NumberParts.powerText, Text.ofInt, h]

theorem isDigits_ofNat (n : Nat) : IsDigits (Text.ofNat n) :=
  ⟨Text.ofNat_ne_nil n, fun _ => Text.isDigit_of_mem_ofNat⟩

theorem wellFormed_intParts (i : Int) : (intParts i).WellFormed where
  whole := isDigits_ofNat _
  leading := Text.head?_ofNat _
  part := nofun
  power := nofun

/-- An integer of 64 bits is read back. -/
theorem read?_ofInt {i : Int} (hlow : -2 ^ 63 ≤ i) (hhigh : i < 2 ^ 64) :
    read? (Text.ofInt i) = some (.integer i) := by
  have habsorb : absorb 0 (Text.ofNat i.natAbs) = (i.natAbs, []) := by
    have h := @absorb_eq 0 (Text.ofNat i.natAbs)
    rw [Nat.mul_zero, Nat.zero_add, Text.natOfDigits_ofNat, Nat.pow_eq] at h
    exact h (by omega)
  rw [← text_intParts, read?_text (wellFormed_intParts i)]
  by_cases hneg : i < 0
  · have hrange : 0 < i.natAbs ∧ i.natAbs ≤ Nat.pow 2 63 := by
      rw [Nat.pow_eq]
      omega
    have hback : -(i.natAbs : Int) = i := by omega
    simp only [ofParts?, intParts, habsorb, hneg, decide_true, and_self, not_true_eq_false,
      if_true, if_false, hrange, hback]
  · have hback : (i.natAbs : Int) = i := by omega
    simp only [ofParts?, intParts, habsorb, hneg, decide_false, and_self, Bool.false_eq_true,
      not_false_eq_true, if_true, hback]

/-! ## Doubles -/

theorem isDouble_of_ofParts? {p : NumberParts} (h : p.IsFractional) {n : Number}
    (hn : ofParts? p = some n) : ∃ x, n = .double x := by
  rw [ofParts?] at hn
  split at hn
  dsimp only at hn
  rw [if_neg fun hinteger => h.elim (· hinteger.2.1) (· hinteger.2.2)] at hn
  obtain ⟨x, -, rfl⟩ := Option.map_eq_some_iff.1 hn
  exact ⟨_, rfl⟩

section Layout

open NumberParts

variable {d : Digits} {n places : Nat} {whole part : Text} (negative : Bool)

/-- The text is a number with a point or a power of ten. -/
def IsFraction (t : Text) : Prop := ∃ p : NumberParts, p.WellFormed ∧ p.IsFractional ∧ p.text = t

theorem isFraction_point (hwhole : IsDigits whole)
    (hleading : whole.head? = some '0' → whole = ['0']) (hpart : IsDigits part) :
    IsFraction (signText negative ++ (whole ++ '.' :: part)) := by
  refine ⟨⟨negative, whole, some part, none⟩, ⟨hwhole, hleading, ?_, nofun⟩,
    .inl (Option.some_ne_none _), ?_⟩
  · rintro _ ⟨⟩
    exact hpart
  · simp [text, partText, powerText]

theorem isDigits_zero : IsDigits ['0'] := ⟨List.cons_ne_nil _ _, Digits.isDigit_of_mem_zero⟩

theorem head?_ofNat_ne (h : 0 < n) : (Text.ofNat n).head? ≠ some '0' := by
  intro hzero
  have hn := congrArg Text.natOfDigits (Text.head?_ofNat n hzero)
  rw [Text.natOfDigits_ofNat] at hn
  exact h.ne' hn

/-- Zeros and a point may stand behind the digits. -/
theorem isFraction_whole (hpos : 0 < n) (k : Nat) :
    IsFraction (signText negative ++ (Text.ofNat n ++ List.replicate k '0' ++ ".0".toList)) := by
  refine isFraction_point negative ⟨?_, fun _ => Digits.isDigit_of_mem_whole⟩ ?_ isDigits_zero
  · exact List.append_ne_nil_of_left_ne_nil (Text.ofNat_ne_nil n) _
  · intro hzero
    rw [List.head?_append_of_ne_nil _ (Text.ofNat_ne_nil n)] at hzero
    exact absurd hzero (head?_ofNat_ne hpos)

/-- The point may fall between two digits. -/
theorem isFraction_between (hpos : 0 < n) (hplaces : 0 < places)
    (h : places < (Text.ofNat n).length) :
    IsFraction (signText negative ++ ((Text.ofNat n).take ((Text.ofNat n).length - places) ++
      '.' :: (Text.ofNat n).drop ((Text.ofNat n).length - places))) := by
  have hdigit : ∀ c ∈ Text.ofNat n, c.isDigit = true := fun _ => Text.isDigit_of_mem_ofNat
  have htake : (Text.ofNat n).length - places ≠ 0 := by omega
  refine isFraction_point negative ⟨?_, fun c hc => hdigit c (List.mem_of_mem_take hc)⟩ ?_
    ⟨?_, fun c hc => hdigit c (List.mem_of_mem_drop hc)⟩
  · simp [htake, Text.ofNat_ne_nil]
  · intro hzero
    rw [List.head?_take, if_neg htake] at hzero
    exact absurd hzero (head?_ofNat_ne hpos)
  · rw [Ne, List.drop_eq_nil_iff]
    omega

/-- Between the point and the digits there may be zeros. -/
theorem isFraction_below (k : Nat) :
    IsFraction (signText negative ++ ('0' :: '.' :: List.replicate k '0' ++ Text.ofNat n)) := by
  show IsFraction (signText negative ++ (['0'] ++ '.' :: (List.replicate k '0' ++ Text.ofNat n)))
  refine isFraction_point negative isDigits_zero (fun _ => rfl) ⟨?_, fun c hc => ?_⟩
  · exact List.append_ne_nil_of_right_ne_nil _ (Text.ofNat_ne_nil n)
  · exact (List.mem_append.1 hc).elim Digits.isDigit_of_mem_zeros Text.isDigit_of_mem_ofNat

/-- Digits in positional notation, with `.0` behind a whole number. -/
theorem isFraction_positional (hpos : 0 < d.digits) :
    IsFraction (signText negative ++
      (Digits.positional d ++ if 0 ≤ d.exponent then ".0".toList else [])) := by
  rw [Digits.positional]
  dsimp only
  split
  · exact isFraction_whole negative hpos _
  · rw [List.append_nil]
    split
    · next hlt => exact isFraction_between negative hpos (by omega) hlt
    · exact isFraction_below negative _

theorem isFraction_power {digit : Char} {power : Text} (part : Option Text) (down : Bool)
    (hdigit : digit.isDigit = true) (hpart : ∀ digits ∈ part, IsDigits digits)
    (hpower : IsDigits power) :
    IsFraction (signText negative ++
      (digit :: partText part ++ 'e' :: (if down then '-' else '+') :: power)) := by
  refine ⟨⟨negative, [digit], part, some (down, power)⟩, ⟨⟨?_, ?_⟩, ?_, hpart, ?_⟩,
    .inr (Option.some_ne_none _), ?_⟩
  · exact List.cons_ne_nil _ _
  · simpa using hdigit
  · simp
  · rintro _ ⟨⟩
    exact hpower
  · simp [text, powerText]

/-- A power of ten is written with its sign. -/
theorem signed_lead_eq (lead : Int) :
    (if 0 ≤ lead then '+' :: Text.ofInt lead else Text.ofInt lead) =
      (if decide (lead < 0) then '-' else '+') :: Text.ofNat lead.natAbs := by
  by_cases h : 0 ≤ lead
  · simp [Text.ofInt, h, Int.not_lt.2 h]
  · simp [Text.ofInt, h, Int.not_le.1 h]

/-- One digit, a point before any others, and a power of ten. -/
theorem isFraction_scientific (d : Digits) :
    IsFraction (signText negative ++ Digits.scientific d) := by
  have hdigit : ∀ c ∈ Text.ofNat d.digits, c.isDigit = true := fun _ => Text.isDigit_of_mem_ofNat
  have hpower := isDigits_ofNat d.lead.natAbs
  rw [Digits.scientific, signed_lead_eq]
  cases hdigits : Text.ofNat d.digits with
  | nil => exact absurd hdigits (Text.ofNat_ne_nil _)
  | cons first rest =>
      rw [hdigits, List.forall_mem_cons] at hdigit
      cases rest with
      | nil => exact isFraction_power negative none _ hdigit.1 nofun hpower
      | cons second rest =>
          refine isFraction_power negative (some (second :: rest)) _ hdigit.1 ?_ hpower
          rintro _ ⟨⟩
          exact ⟨List.cons_ne_nil _ _, hdigit.2⟩

end Layout

/-- Finite doubles are written as numbers with a point or a power of ten. -/
theorem isFraction_writeDouble {x : Float} (h : x.isFinite = true) : IsFraction (writeDouble x) := by
  have hsign : Digits.signOf x = NumberParts.signText (Binary64.ofFloat x).isNegative := rfl
  rw [writeDouble, hsign]
  split
  · exact isFraction_point _ isDigits_zero (fun _ => rfl) isDigits_zero
  · next hzero =>
    have hbits : 0 < Digits.magnitudeBits x :=
      Nat.pos_of_ne_zero fun hbits => hzero (Binary64.beq_zero hbits rfl)
    have hpos : 0 < (Digits.ofFloat .toEven x).digits :=
      (Digits.shortest_spec .toEven hbits (Binary64.lt_infinityBits h)).1
    dsimp only
    split
    · rw [List.append_assoc]
      exact isFraction_positional _ hpos
    · exact isFraction_scientific _ _

/-- A finite double is never read back as an integer. -/
theorem read?_writeDouble_ne_integer {x : Float} (h : x.isFinite = true) (i : Int) :
    read? (writeDouble x) ≠ some (.integer i) := by
  obtain ⟨p, hp, hfractional, htext⟩ := isFraction_writeDouble h
  rw [← htext, read?_text hp]
  intro hread
  obtain ⟨y, hy⟩ := isDouble_of_ofParts? hfractional hread
  cases hy

end Number

end FormulaPad.Json
