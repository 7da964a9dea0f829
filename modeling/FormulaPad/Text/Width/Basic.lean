import FormulaPad.Text.Width.Ligature

/-!
# FormulaPad.Text.Width.Basic

The number of columns that a text takes on a terminal.

It is the sum of the widths of the characters, but for those that are drawn as
one with what follows: ligatures, flags, pictures with a skin tone, pictures
that a joiner makes one of, and characters that a selector gives another look.
So the text is measured from its end, and the `Context` is what a character has
to know of the text after it. Main statement: `width_of_printable`, a text of
printable ASCII characters is as wide as it is long.
-/

namespace FormulaPad.Text

/-! ## What follows a character -/

/-- The look that a selector asks for. -/
inductive Look where
  | text
  | emoji
  deriving DecidableEq, Repr

/-- What a text begins with, as far as the character before it may be drawn as one with it. -/
inductive Tail where
  | plain
  | lineFeed
  | ligature (letters : Ligature) (joined : Bool)
  | picture
  | skinTone
  | flagLetters (count : Nat)
  /-- A joiner and a picture. -/
  | joinedPicture
  /-- A frame around a key, joined to a picture. -/
  | joinedKey
  /-- Flag letters, joined to a picture. -/
  | joinedFlagLetters (count : Nat)
  /-- Tag letters to the end of a region, joined to a picture. -/
  | tagLetters (count : Nat)
  /-- Tag digits and letters to the end of a region, joined to a picture. -/
  | tagDigits (count : Nat)
  deriving DecidableEq, Repr

namespace Tail

/-- What is left of it before a selector that had no use. -/
def pastSelector : Tail → Tail
  | .ligature l joined => .ligature l joined
  | _ => .plain

/-- A picture, or what takes its place, joined to another. -/
def isJoined (t : Tail) : Bool := t == .joinedPicture || t == .joinedKey

/-- What begins with a character that is not joined to anything. -/
def of (c : Char) : Tail :=
  match Ligature.of? c with
  | some l => .ligature l false
  | none =>
      if c = '\n' then .lineFeed
      else if isFlagLetter c then .flagLetters 1
      else if isSkinTone c then .skinTone
      else if isColoured c then .picture
      else .plain

/-- How a character is drawn as one with what follows: the columns that it adds, and what the two
are together. -/
def join? (c : Char) : Tail → Option (Int × Tail)
  | .plain | .joinedKey => none
  | .lineFeed => if c = '\r' then some (0, .plain) else none
  | .ligature l joined =>
      if l ≠ .alef ∧ c = joiner then some (0, .ligature l true)
      else if l ≠ .alef ∧ isVariationMark c then some (0, .ligature l joined)
      else (l.merge? joined c).map fun (w, m?) => (w, m?.elim .plain (.ligature · false))
  | .picture => if c = joiner then some (0, .joinedPicture) else none
  | .skinTone =>
      if takesSkinTone c then some (0, .picture)
      else if c = joiner then some (0, .joinedPicture)
      else none
  | .flagLetters n =>
      if isFlagLetter c then some (1, .flagLetters (n + 1))
      else if 2 ≤ n ∧ c = joiner then some (0, .joinedPicture)
      else none
  | .joinedPicture =>
      if c = keycapFrame then some (0, .joinedKey)
      else if isFlagLetter c then some (1, .joinedFlagLetters 1)
      else if isSkinTone c then some (0, .skinTone)
      else if c = tagEnd then some (0, .tagLetters 0)
      else if isColoured c then some (0, .picture)
      else none
  | .joinedFlagLetters n =>
      if isFlagLetter c then some (if n % 2 = 0 then 3 else -1, .joinedFlagLetters (n + 1))
      else if 2 ≤ n ∧ c = joiner then some (0, .joinedPicture)
      else none
  | .tagLetters n =>
      if n < 6 ∧ isTagLetter c then some (0, .tagLetters (n + 1))
      else if n < 5 ∧ isTagDigit c then some (0, .tagDigits 1)
      else if 3 ≤ n ∧ c = blackFlag then some (0, .picture)
      else none
  | .tagDigits n =>
      if n < 3 ∧ isTagDigit c then some (0, .tagDigits (n + 1))
      else if n = 3 ∧ c = blackFlag then some (0, .picture)
      else none

/-- The columns that a character adds to what follows, and what the two are together. -/
def join (c : Char) (t : Tail) : Int × Tail := (t.join? c).getD (charWidth c, of c)

end Tail

/-! ## Measuring -/

/-- What a character has to know of the text after it. -/
structure Context where
  tail : Tail := .plain
  /-- The look that a selector right after the character asks for. -/
  look : Option Look := none
  deriving DecidableEq, Repr

/-- The columns that a character adds to what follows. -/
def step (c : Char) (s : Context) : Int × Context :=
  if s.look = some .emoji ∧ takesEmojiSelector c then
    (if s.tail.isJoined then 0 else 2, ⟨.picture, none⟩)
  else
    let tail := if s.look = some .emoji then s.tail.pastSelector else s.tail
    if c = emojiSelector then
      (0, ⟨if tail.isJoined then tail else tail.pastSelector, some .emoji⟩)
    else if c = textSelector then (0, ⟨tail.pastSelector, some .text⟩)
    else if s.look = some .text ∧ takesTextSelector c then (1, ⟨.plain, none⟩)
    else
      let (w, tail) := tail.join c
      (w, ⟨tail, none⟩)

/-- The columns of a text, and what a character before it has to know. -/
def scan : Text → Int × Context
  | [] => (0, ⟨.plain, none⟩)
  | c :: t =>
      let (n, s) := scan t
      let (w, s) := step c s
      (n + w, s)

/-- The number of columns of a text. -/
def width (t : Text) : Nat := (scan t).1.toNat

/-! ## Text of printable ASCII characters -/

/-- Printable ASCII characters add one column, and nothing before them depends on them. -/
theorem step_of_printable {c : Char} (h : isBetween 0x20 0x7E c = true) :
    step c ⟨.plain, none⟩ = (1, ⟨.plain, none⟩) := by
  have all : ∀ n, n < 0x7F → 0x20 ≤ n →
      step (Char.ofNat n) ⟨.plain, none⟩ = (1, ⟨.plain, none⟩) := by decide +kernel
  simp only [isBetween, Bool.and_eq_true, decide_eq_true_eq] at h
  simpa using all c.toNat (by omega) h.1

theorem scan_of_printable {t : Text} (h : ∀ c ∈ t, isBetween 0x20 0x7E c = true) :
    scan t = ((t.length : Int), ⟨.plain, none⟩) := by
  induction t with
  | nil => rfl
  | cons c t ih =>
      simp [scan, ih fun d hd => h d (by simp [hd]), step_of_printable (h c (by simp))]

/-- A text of printable ASCII characters is as wide as it is long. -/
theorem width_of_printable {t : Text} (h : ∀ c ∈ t, isBetween 0x20 0x7E c = true) :
    width t = t.length := by
  simp [width, scan_of_printable h]

end FormulaPad.Text
