import FormulaPad.Text.Emoji
import FormulaPad.Text.Width.Character

/-!
# FormulaPad.Text.Width.Ligature

Letters that are drawn as one with the letters before them, and then take no
columns of their own.

A text is measured from its end, so a `Ligature` is the last letter of such a
group, with what has been joined to it so far.
-/

namespace FormulaPad.Text

/-! ## Letters -/

/-- The Arabic letters that are formed like lam. -/
def lamRanges : List (Nat × Nat) :=
  [(0x644, 0x644), (0x6B5, 0x6B8), (0x76A, 0x76A), (0x8A6, 0x8A6), (0x8C7, 0x8C7)]

/-- The Arabic letters that are formed like alef. -/
def alefRanges : List (Nat × Nat) :=
  [(0x622, 0x623), (0x625, 0x625), (0x627, 0x627), (0x671, 0x673), (0x675, 0x675), (0x773, 0x774),
   (0x870, 0x882)]

/-- Characters without width that keep a lam and an alef apart. -/
def opaqueRanges : List (Nat × Nat) :=
  [(0x605, 0x605), (0x890, 0x891), (0x8E2, 0x8E2), (0x9BE, 0x9BE), (0x9D7, 0x9D7), (0xB3E, 0xB3E),
   (0xB57, 0xB57), (0xBBE, 0xBBE), (0xBD7, 0xBD7), (0xCC0, 0xCC0), (0xCC2, 0xCC2), (0xCC7, 0xCC8),
   (0xCCA, 0xCCB), (0xCD5, 0xCD6), (0xD3E, 0xD3E), (0xD4E, 0xD4E), (0xD57, 0xD57), (0xDCF, 0xDCF),
   (0xDDF, 0xDDF), (0x1160, 0x11FF), (0x180E, 0x180E), (0x1B35, 0x1B35), (0x1B3B, 0x1B3B),
   (0x1B3D, 0x1B3D), (0x1B43, 0x1B43), (0x200C, 0x200D), (0x2065, 0x2069), (0x302E, 0x302F),
   (0x3164, 0x3164), (0xA8FA, 0xA8FA), (0xD7B0, 0xD7C6), (0xD7CB, 0xD7FB), (0xFF9E, 0xFFA0),
   (0xFFF0, 0xFFF8), (0x111C2, 0x111C3), (0x1133E, 0x1133E), (0x11357, 0x11357),
   (0x114B0, 0x114B0), (0x114BD, 0x114BD), (0x115AF, 0x115AF), (0x11930, 0x11930),
   (0x1193F, 0x1193F), (0x11941, 0x11941), (0x11A3A, 0x11A3A), (0x11A84, 0x11A89),
   (0x11D46, 0x11D46), (0x11F02, 0x11F02), (0x1D165, 0x1D165), (0x1D16E, 0x1D172),
   (0xE0000, 0xE0000), (0xE0002, 0xE001F), (0xE0080, 0xE00FF), (0xE01F0, 0xE0FFF)]

/-- The letters of Khmer that are written below another. -/
def khmerLetterRanges : List (Nat × Nat) :=
  [(0x1780, 0x1782), (0x1784, 0x1787), (0x1789, 0x178C), (0x178E, 0x1793), (0x1795, 0x1798),
   (0x179B, 0x179D), (0x17A0, 0x17A0), (0x17A2, 0x17A2), (0x17A7, 0x17A7), (0x17AB, 0x17AC),
   (0x17AF, 0x17AF)]

/-- The letters of Tifinagh. -/
def tifinaghRanges : List (Nat × Nat) :=
  [(0x2D31, 0x2D65), (0x2D6F, 0x2D6F)]

/-- Marks that choose a form of the character before them and may be left out. -/
def variationMarkRanges : List (Nat × Nat) :=
  [(0x34F, 0x34F), (0x17B4, 0x17B5), (0x180B, 0x180D), (0x180F, 0x180F), (0xFE00, 0xFE0F),
   (0xE0100, 0xE01EF)]

/-- The character does not come between a lam and an alef. -/
def isTransparent (c : Char) : Bool := isWidthless c && !inRanges opaqueRanges c.toNat

/-- The character chooses a form of the one before it. -/
def isVariationMark (c : Char) : Bool := inRanges variationMarkRanges c.toNat

def isTifinagh (c : Char) : Bool := inRanges tifinaghRanges c.toNat

/-- Bonds two letters of Tifinagh. -/
def tifinaghBond : Char := '\u2D7F'

/-! ## Groups -/

/-- What stands at the end of a group of letters. -/
inductive Ligature where
  /-- An Arabic alef, which a lam takes in. -/
  | alef
  /-- A Hebrew lamed, which an alef and a joiner take in. -/
  | lamed
  /-- A Khmer letter, which goes below another after the sign for it. -/
  | subscript
  /-- A Buginese ya, before which a vowel sign and a joiner may stand. -/
  | ya
  /-- A Buginese ya with its vowel sign. -/
  | yaVowel
  /-- A letter of Tifinagh, which a bond or a joiner ties to another. -/
  | tifinagh
  /-- A letter of Tifinagh with its bond. -/
  | bonded
  /-- The second of two Lisu tone marks. -/
  | tone
  /-- An Old Turkic i, which an ec and a joiner take in. -/
  | orkhon
  deriving DecidableEq, Repr

namespace Ligature

/-- The group that a letter may be the end of. -/
def of? (c : Char) : Option Ligature :=
  if inRanges alefRanges c.toNat then some .alef
  else if c = '\u05DC' then some .lamed
  else if inRanges khmerLetterRanges c.toNat then some .subscript
  else if c = '\u1A10' then some .ya
  else if isTifinagh c then some .tifinagh
  else if isBetween 0xA4FC 0xA4FD c then some .tone
  else if c = Char.ofNat 0x10C03 then some .orkhon
  else none

/-- How a character joins the group after it: the columns that it adds, and the group that it makes
if that may still grow. `joined` says that a joiner stands between. -/
def merge? (l : Ligature) (joined : Bool) (c : Char) : Option (Int × Option Ligature) :=
  match l with
  | .alef =>
      if inRanges lamRanges c.toNat then some (0, none)
      else if isTransparent c then some (0, some .alef)
      else none
  | .lamed => if joined && c == '\u05D0' then some (0, none) else none
  | .subscript => if c = '\u17D2' then some (-1, none) else none
  | .ya => if joined && c == '\u1A17' then some (0, some .yaVowel) else none
  | .yaVowel => if c = '\u1A15' then some (0, none) else none
  | .tifinagh =>
      if c = tifinaghBond then some (1, some .bonded)
      else if joined && isTifinagh c then some (0, none)
      else none
  | .bonded => if isTifinagh c then some (-1, none) else none
  | .tone => if isBetween 0xA4F8 0xA4FB c then some (0, none) else none
  | .orkhon => if joined && c == Char.ofNat 0x10C32 then some (0, none) else none

end Ligature
end FormulaPad.Text
