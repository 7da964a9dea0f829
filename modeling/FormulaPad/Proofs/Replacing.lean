import FormulaPad.Text.Blank

/-!
# FormulaPad.Proofs.Replacing

Laws of `Text.replaceAll`: when the replacement of a text can be read off its
parts.

* `replaceAll_append` — a text falls apart at every place that no occurrence
  of the pattern crosses;
* `replaceAll_of_absent` — text in which the pattern does not occur is kept;
* `exists_replaceAll_eq_of_occurs` — otherwise the first occurrence becomes the
  value, and what stands before it is kept.
-/

namespace FormulaPad.Text

/-! ## One step -/

/-- A pattern at the start of the text becomes the value. -/
theorem replaceAll_pattern_append {pattern : Text} (hp : pattern ≠ []) (value u : Text) :
    replaceAll pattern value (pattern ++ u) = value ++ replaceAll pattern value u := by
  obtain ⟨c, p, rfl⟩ := List.exists_cons_of_ne_nil hp
  have hpre : c :: p <+: c :: (p ++ u) := ⟨u, rfl⟩
  rw [List.cons_append, replaceAll, if_pos ⟨hp, hpre⟩]
  simp

/-- A character at which the pattern does not start is kept. -/
theorem replaceAll_cons_of_no_match {pattern : Text} {c : Char} {t : Text}
    (h : ¬ pattern <+: c :: t) (value : Text) :
    replaceAll pattern value (c :: t) = c :: replaceAll pattern value t := by
  rw [replaceAll, if_neg fun hp => h hp.2]

/-- An empty pattern occurs nowhere. -/
theorem replaceAll_nil_pattern (value t : Text) : replaceAll [] value t = t := by
  induction t with
  | nil => rw [replaceAll]
  | cons c t ih => rw [replaceAll, if_neg (by simp), ih]

/-! ## Texts in parts -/

/-- An occurrence at the start of `t ++ u` that does not cross into `u` lies in `t`. -/
theorem prefix_of_prefix_append {pattern t u : Text} (h : pattern <+: t ++ u)
    (hcross : ∀ p, p ≠ [] → p <+: u → pattern ≠ t ++ p) : pattern <+: t := by
  cases List.prefix_or_prefix_of_prefix h (List.prefix_append t u) with
  | inl ht => exact ht
  | inr ht =>
      obtain ⟨p, rfl⟩ := ht
      have hpu : p <+: u := (List.prefix_append_right_inj t).mp h
      have hp : p = [] := Decidable.byContradiction fun hne => hcross p hne hpu rfl
      simp [hp]

/-- Replacing goes on separately on the two sides of a place that no occurrence of the pattern
crosses. -/
theorem replaceAll_append {pattern value t u : Text}
    (hcross : ∀ s p, s ≠ [] → p ≠ [] → s <:+ t → p <+: u → pattern ≠ s ++ p) :
    replaceAll pattern value (t ++ u) =
      replaceAll pattern value t ++ replaceAll pattern value u := by
  fun_induction replaceAll pattern value t with
  | case1 => rfl
  | case2 c t h ih =>
      obtain ⟨hne, q, hq⟩ := h
      obtain ⟨d, p, rfl⟩ := List.exists_cons_of_ne_nil hne
      obtain ⟨rfl, rfl⟩ : d = c ∧ p ++ q = t := by simpa using hq
      rw [show d :: (p ++ q) ++ u = (d :: p) ++ (q ++ u) by simp,
        replaceAll_pattern_append hne, List.append_assoc]
      simp only [List.length_cons, Nat.add_sub_cancel, List.drop_left] at ih ⊢
      rw [ih fun s r hs hr hsuf hpre => hcross s r hs hr (hsuf.trans ⟨d :: p, by simp⟩) hpre]
  | case3 c t h ih =>
      by_cases hne : pattern = []
      · subst hne; simp only [replaceAll_nil_pattern]
      · have hnot : ¬ pattern <+: c :: (t ++ u) := fun hpre =>
          h ⟨hne, prefix_of_prefix_append (t := c :: t) hpre fun p hp hpu =>
            hcross (c :: t) p (by simp) hp List.suffix_rfl hpu⟩
        rw [List.cons_append, replaceAll_cons_of_no_match hnot,
          ih fun s p hs hp hsuf hpre => hcross s p hs hp (hsuf.trans (List.suffix_cons c t)) hpre]
        rfl

/-- Text in which the pattern does not occur is kept. -/
theorem replaceAll_of_absent {pattern value t : Text} (h : ¬ pattern <:+: t) :
    replaceAll pattern value t = t := by
  induction t with
  | nil => rw [replaceAll]
  | cons c t ih =>
      rw [replaceAll_cons_of_no_match fun hp => h hp.isInfix,
        ih fun hi => h (hi.trans (List.suffix_cons c t).isInfix)]

/-- The first occurrence of the pattern becomes the value, and what stands before it is kept. -/
theorem exists_replaceAll_eq_of_occurs {pattern t : Text} (hp : pattern ≠ []) (h : pattern <:+: t)
    (value : Text) :
    ∃ s u, t = s ++ (pattern ++ u) ∧
      replaceAll pattern value t = s ++ (value ++ replaceAll pattern value u) := by
  induction t with
  | nil => exact absurd (List.infix_nil.mp h) hp
  | cons c t ih =>
      by_cases hpre : pattern <+: c :: t
      · obtain ⟨u, hu⟩ := hpre
        refine ⟨[], u, by simp [hu], ?_⟩
        rw [← hu, replaceAll_pattern_append hp, List.nil_append]
      · have hi : pattern <:+: t := (List.infix_cons_iff.mp h).resolve_left hpre
        obtain ⟨s, u, hs, hr⟩ := ih hi
        refine ⟨c :: s, u, by rw [hs, List.cons_append], ?_⟩
        rw [replaceAll_cons_of_no_match hpre, hr, List.cons_append]

/-! ## What remains -/

/-- A text that is not empty does not become empty, unless by an empty value. -/
theorem replaceAll_ne_nil {value t : Text} (pattern : Text) (hv : value ≠ []) (ht : t ≠ []) :
    replaceAll pattern value t ≠ [] := by
  obtain ⟨c, t, rfl⟩ := List.exists_cons_of_ne_nil ht
  rw [replaceAll]
  split
  · exact List.append_ne_nil_of_left_ne_nil hv _
  · exact List.cons_ne_nil _ _

/-- Where a value is more than blanks, replacing leaves a text that is more than blanks so. -/
theorem strip_replaceAll_ne_nil {value t : Text} (pattern : Text) (hv : strip value ≠ [])
    (ht : strip t ≠ []) : strip (replaceAll pattern value t) ≠ [] := by
  fun_induction replaceAll pattern value t with
  | case1 => exact ht
  | case2 c t h ih => rw [strip_append]; exact List.append_ne_nil_of_left_ne_nil hv _
  | case3 c t h ih =>
      by_cases hc : isBlank c
      · rw [strip, List.filter_cons_of_neg (by simp [hc])] at ht ⊢
        exact ih ht
      · rw [strip, List.filter_cons_of_pos (by simp [hc])]
        exact List.cons_ne_nil _ _

end FormulaPad.Text
