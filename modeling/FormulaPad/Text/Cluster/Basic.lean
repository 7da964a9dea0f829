import FormulaPad.Text.Cluster.Role

/-!
# FormulaPad.Text.Cluster.Basic

The units that a reader takes for single characters: a letter with its marks, a
Hangul syllable, a conjunct letter, a picture, a flag.

A text is cut from the left. Whether a character goes on with the unit before it
is decided by `continues` from that unit alone. Main statements:
`flatten_clusters` and `ne_nil_of_mem_clusters`: the units make up the text, and
none is empty; and `clusters_of_printable`: each printable ASCII character is one.
-/

namespace FormulaPad.Text

/-! ## Looking back -/

/-- The text, given in reverse, ends with a consonant and a linker after it, perhaps with marks. -/
def endsInLinkedConsonant (seen : Text) : Bool :=
  let signs := seen.takeWhile fun c => isInsideConjunct c
  (seen.drop signs.length).head?.any isConjunctConsonant && signs.any isConjunctLinker

/-- The text, given in reverse, ends with a picture, perhaps with marks, and a joiner. -/
def endsInJoinedPicture : Text → Bool
  | [] => false
  | c :: seen =>
      c == joiner && (seen.dropWhile fun d => role d == .extend).head?.any isPictographic

/-- The text, given in reverse, ends with a flag letter that has no second one. -/
def endsInHalfFlag (seen : Text) : Bool :=
  (seen.takeWhile isFlagLetter).length % 2 == 1

/-! ## Cutting -/

/-- Whether `c` goes on with the unit `seen`, which is given in reverse. -/
def continues (seen : Text) (c : Char) : Bool :=
  match seen.head?.map role, role c with
  | none, _ => true
  | some .carriageReturn, .lineFeed => true
  | some a, b =>
      if a.standsAlone || b.standsAlone then false
      else
        match a, b with
        | _, .extend | _, .joiner | _, .spacingMark | .leading, _ => true
        | .hangul p, .hangul q => p.goesOn q
        | .flagLetter, .flagLetter => endsInHalfFlag seen
        | _, _ =>
            (isConjunctConsonant c && endsInLinkedConsonant seen) ||
              (isPictographic c && endsInJoinedPicture seen)

/-- The units of a text whose first unit has begun with `seen`, which is given in reverse. -/
def clustersFrom (seen : Text) : Text → List Text
  | [] => [seen.reverse]
  | c :: t =>
      if continues seen c then clustersFrom (c :: seen) t
      else seen.reverse :: clustersFrom [c] t

/-- The units of a text. -/
def clusters : Text → List Text
  | [] => []
  | c :: t => clustersFrom [c] t

/-! ## Nothing is lost -/

theorem flatten_clustersFrom (seen t : Text) :
    (clustersFrom seen t).flatten = seen.reverse ++ t := by
  induction t generalizing seen with
  | nil => simp [clustersFrom]
  | cons c t ih =>
      by_cases h : continues seen c <;> simp [clustersFrom, h, ih]

theorem flatten_clusters (t : Text) : (clusters t).flatten = t := by
  cases t with
  | nil => rfl
  | cons c t => simp [clusters, flatten_clustersFrom]

theorem ne_nil_of_mem_clustersFrom {seen t u : Text} (hs : seen ≠ [])
    (h : u ∈ clustersFrom seen t) : u ≠ [] := by
  induction t generalizing seen with
  | nil => simp_all [clustersFrom]
  | cons c t ih =>
      by_cases hc : continues seen c
      · simp only [clustersFrom, hc, if_true] at h
        exact ih (by simp) h
      · simp only [clustersFrom, hc] at h
        rcases List.mem_cons.1 h with rfl | h
        · simpa using hs
        · exact ih (by simp) h

/-- No unit is empty. -/
theorem ne_nil_of_mem_clusters {t u : Text} (h : u ∈ clusters t) : u ≠ [] := by
  cases t with
  | nil => simp [clusters] at h
  | cons c t => exact ne_nil_of_mem_clustersFrom (by simp) h

/-! ## Text of printable ASCII characters -/

/-- A printable ASCII character does not go on with a unit that ends in another. -/
theorem continues_of_printable {c d : Char} (hc : isBetween 0x20 0x7E c = true)
    (hd : isBetween 0x20 0x7E d = true) (seen : Text) : continues (d :: seen) c = false := by
  have all : ∀ n, n < 0x7F → 0x20 ≤ n → role (Char.ofNat n) = .other ∧
      isConjunctConsonant (Char.ofNat n) = false ∧ isPictographic (Char.ofNat n) = false := by
    decide +kernel
  have plain {c : Char} (h : isBetween 0x20 0x7E c = true) :
      role c = .other ∧ isConjunctConsonant c = false ∧ isPictographic c = false := by
    simp only [isBetween, Bool.and_eq_true, decide_eq_true_eq] at h
    simpa using all c.toNat (by omega) h.1
  obtain ⟨hrole, hconjunct, hpicture⟩ := plain hc
  rw [continues, List.head?_cons, Option.map_some, (plain hd).1, hrole, hconjunct, hpicture]
  rfl

/-- In a text of printable ASCII characters each character is a unit. -/
theorem clusters_of_printable {t : Text} (h : ∀ c ∈ t, isBetween 0x20 0x7E c = true) :
    clusters t = t.map ([·]) := by
  have hfrom (c : Char) (t : Text) (h : ∀ d ∈ c :: t, isBetween 0x20 0x7E d = true) :
      clustersFrom [c] t = (c :: t).map ([·]) := by
    induction t generalizing c with
    | nil => rfl
    | cons d t ih =>
        obtain ⟨hc, hrest⟩ := List.forall_mem_cons.1 h
        have hcut : continues [c] d = false :=
          continues_of_printable (hrest d List.mem_cons_self) hc []
        rw [clustersFrom, hcut, if_neg Bool.false_ne_true, ih d hrest]
        rfl
  cases t with
  | nil => rfl
  | cons c t => exact hfrom c t h

end FormulaPad.Text
