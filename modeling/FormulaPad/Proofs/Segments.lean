import FormulaPad.Formula.Token
import FormulaPad.Proofs.Variables

/-!
# FormulaPad.Proofs.Segments

The segments of a formula and what stands in them.

A formula is a text without operators, or such a text followed by an operator
and a formula; `operatorInduction` is induction along this. Main statements:
`segments_append_operator` (cutting at an operator), `exists_around_segment`
and `segments_around` (a segment reaches from one operator to the next),
`pieces_append_operator` and `trailingWord_append` (no variable and no word
crosses an operator) and `mem_tokenize_iff` (the tokens are the segments that
are not blank, each with its place).
-/

namespace FormulaPad.Formula

open Text

/-! ## Cutting at operators -/

/-- The text has no operator, so that it is one segment. -/
def IsPlain (t : Text) : Prop := ∀ c ∈ t, isOperator c = false

instance (t : Text) : Decidable (IsPlain t) :=
  decidable_of_iff (t.all (!isOperator ·) = true) (by simp [IsPlain])

/-- Induction along the operators of a formula. -/
@[elab_as_elim]
theorem operatorInduction {motive : Text → Prop} (plain : ∀ t, IsPlain t → motive t)
    (cut : ∀ t c u, IsPlain t → isOperator c = true → motive u → motive (t ++ c :: u)) (t : Text) :
    motive t := by
  have hall : ∀ lead, IsPlain lead → motive (lead ++ t) := by
    induction t with
    | nil => exact fun lead hlead => by rw [List.append_nil]; exact plain lead hlead
    | cons c t ih =>
        intro lead hlead
        cases hc : isOperator c with
        | true => exact cut lead c t hlead hc (ih [] (by simp [IsPlain]))
        | false =>
            have hmore : IsPlain (lead ++ [c]) := by
              intro d hd
              rcases List.mem_append.1 hd with hd | hd
              · exact hlead d hd
              · rw [List.mem_singleton.1 hd, hc]
            have := ih (lead ++ [c]) hmore
            rwa [List.append_assoc] at this
  exact hall [] (by simp [IsPlain])

theorem segments_of_isPlain {t : Text} (h : IsPlain t) : segments t = [t] := by
  induction t with
  | nil => rfl
  | cons c t ih =>
      have hc : isOperator c = false := h c List.mem_cons_self
      simp [segments, hc, ih fun d hd => h d (List.mem_cons_of_mem c hd)]

/-- The segments before an operator, the operator, and the segments after it. -/
theorem segments_append_operator (t : Text) {c : Char} (hc : isOperator c = true) (u : Text) :
    segments (t ++ c :: u) = segments t ++ [c] :: segments u := by
  induction t with
  | nil => simp [segments, hc]
  | cons d t ih =>
      rw [List.cons_append, segments, segments, ih]
      cases hd : isOperator d with
      | true => rfl
      | false =>
          obtain ⟨s, rest, hs⟩ := List.exists_cons_of_ne_nil (segments_ne_nil t)
          rw [hs]
          rfl

/-- The text is empty or ends with an operator. -/
def EndsAtOperator (t : Text) : Prop := t = [] ∨ ∃ u c, t = u ++ [c] ∧ isOperator c = true

/-- The text is empty or starts with an operator. -/
def StartsAtOperator (t : Text) : Prop := t = [] ∨ ∃ c u, t = c :: u ∧ isOperator c = true

instance : (t : Text) → Decidable (StartsAtOperator t)
  | [] => isTrue (.inl rfl)
  | c :: u => decidable_of_iff (isOperator c = true) (by simp [StartsAtOperator])

/-- A segment that is no operator reaches from one operator, or the start, to the next, or the
end. -/
theorem exists_around_segment {formula segment : Text} (h : segment ∈ segments formula)
    (hplain : IsPlain segment) :
    ∃ lead rest, formula = lead ++ (segment ++ rest) ∧ EndsAtOperator lead ∧
      StartsAtOperator rest := by
  induction formula using operatorInduction with
  | plain t ht =>
      rw [segments_of_isPlain ht] at h
      exact ⟨[], [], by simp [List.mem_singleton.1 h], .inl rfl, .inl rfl⟩
  | cut t c u ht hc ih =>
      rw [segments_append_operator t hc u, segments_of_isPlain ht] at h
      rcases List.mem_cons.1 h with rfl | h
      · exact ⟨[], c :: u, rfl, .inl rfl, .inr ⟨c, u, rfl, hc⟩⟩
      · rcases List.mem_cons.1 h with rfl | h
        · rw [hplain c List.mem_cons_self] at hc
          cases hc
        · obtain ⟨lead, rest, rfl, hlead, hrest⟩ := ih h
          refine ⟨t ++ c :: lead, rest, by simp, .inr ?_, hrest⟩
          rcases hlead with rfl | ⟨v, d, rfl, hd⟩
          · exact ⟨t, c, rfl, hc⟩
          · exact ⟨t ++ c :: v, d, by simp, hd⟩

/-- The segments of a formula around one of them that is no operator: those before it and those
after it do not depend on it. -/
theorem segments_around {lead segment rest : Text} (hlead : EndsAtOperator lead)
    (hsegment : IsPlain segment) (hrest : StartsAtOperator rest) :
    segments (lead ++ (segment ++ rest)) =
      (segments lead).dropLast ++ segment :: (segments rest).tail := by
  have hend : segments (segment ++ rest) = segment :: (segments rest).tail := by
    rcases hrest with rfl | ⟨c, u, rfl, hc⟩
    · rw [List.append_nil, segments_of_isPlain hsegment]
      rfl
    · rw [segments_append_operator segment hc, segments_of_isPlain hsegment, segments, if_pos hc]
      rfl
  rcases hlead with rfl | ⟨u, c, rfl, hc⟩
  · exact hend
  · rw [List.append_assoc, List.singleton_append, segments_append_operator u hc, hend,
      segments_append_operator u hc []]
    simp [segments]

/-- Before the empty segment at its end, a text that ends with an operator is all there is. -/
theorem flatten_dropLast_segments {lead : Text} (h : EndsAtOperator lead) :
    (segments lead).dropLast.flatten = lead := by
  rcases h with rfl | ⟨u, c, rfl, hc⟩
  · rfl
  · rw [segments_append_operator u hc []]
    simp [segments, flatten_segments]

/-- The last segment is what follows the last operator. -/
theorem exists_before_last_segment {formula segment : Text}
    (h : (segments formula).getLast? = some segment) :
    ∃ lead, formula = lead ++ segment ∧ EndsAtOperator lead ∧ IsPlain segment := by
  induction formula using operatorInduction with
  | plain t ht =>
      rw [segments_of_isPlain ht] at h
      obtain rfl : t = segment := Option.some.inj h
      exact ⟨[], rfl, .inl rfl, ht⟩
  | cut t c u ht hc ih =>
      have hlast : (segments (t ++ c :: u)).getLast? = (segments u).getLast? := by
        obtain ⟨s, ss, hs⟩ := List.exists_cons_of_ne_nil (segments_ne_nil u)
        rw [segments_append_operator t hc, hs]
        simp [List.getLast?_append, List.getLast?_cons]
      obtain ⟨lead, rfl, hlead, hplain⟩ := ih (hlast ▸ h)
      refine ⟨t ++ c :: lead, by simp, .inr ?_, hplain⟩
      rcases hlead with rfl | ⟨v, d, rfl, hd⟩
      · exact ⟨t, c, rfl, hc⟩
      · exact ⟨t ++ c :: v, d, by simp, hd⟩

/-! ## Words at the end of a text -/

theorem isWordChar_of_mem_trailingWord {t : Text} {c : Char} (h : c ∈ trailingWord t) :
    isWordChar c = true := List.mem_takeWhile_imp (List.mem_reverse.1 h)

theorem isPlain_trailingWord (t : Text) : IsPlain (trailingWord t) := by
  intro c hc
  have hword := isWordChar_of_mem_trailingWord hc
  cases hop : isOperator c with
  | false => rfl
  | true => rw [isWordChar_of_isOperator hop] at hword; cases hword

theorem trailingWord_of_isWord {t : Text} (h : ∀ c ∈ t, isWordChar c = true) :
    trailingWord t = t := by
  have hall : ∀ c ∈ t.reverse, isWordChar c = true := fun c hc => h c (List.mem_reverse.1 hc)
  rw [trailingWord, List.takeWhile_eq_self_iff.2 hall, List.reverse_reverse]

/-- Before the last word of a text, no word ends. -/
theorem trailingWord_beforeWord (t : Text) : trailingWord (beforeWord t) = [] := by
  rw [trailingWord, beforeWord, List.reverse_reverse, List.reverse_eq_nil_iff]
  have hhead := List.head?_dropWhile_not isWordChar t.reverse
  generalize t.reverse.dropWhile isWordChar = u at hhead
  cases u with
  | nil => rfl
  | cons c u => simpa using hhead

/-- Where no word ends, a word starts anew. -/
theorem trailingWord_append_of_eq_nil {lead : Text} (h : trailingWord lead = []) (t : Text) :
    trailingWord (lead ++ t) = trailingWord t := by
  rw [trailingWord, List.reverse_eq_nil_iff] at h
  rw [trailingWord, trailingWord, List.reverse_append, List.takeWhile_append, h, List.append_nil]
  split
  · next hall => rw [(List.takeWhile_prefix _).eq_of_length hall]
  · rfl

theorem beforeWord_append_of_eq_nil {lead : Text} (h : trailingWord lead = []) (t : Text) :
    beforeWord (lead ++ t) = lead ++ beforeWord t := by
  have hsplit := beforeWord_append_trailingWord (lead ++ t)
  rw [trailingWord_append_of_eq_nil h] at hsplit
  refine List.append_cancel_right (hsplit.trans ?_)
  rw [List.append_assoc, beforeWord_append_trailingWord]

theorem trailingWord_of_endsAtOperator {t : Text} (h : EndsAtOperator t) : trailingWord t = [] := by
  rcases h with rfl | ⟨u, c, rfl, hc⟩
  · rfl
  · simp [trailingWord, isWordChar_of_isOperator hc]

/-- No word reaches over an operator. -/
theorem trailingWord_append {lead : Text} (h : EndsAtOperator lead) (t : Text) :
    trailingWord (lead ++ t) = trailingWord t :=
  trailingWord_append_of_eq_nil (trailingWord_of_endsAtOperator h) t

theorem beforeWord_append {lead : Text} (h : EndsAtOperator lead) (t : Text) :
    beforeWord (lead ++ t) = lead ++ beforeWord t :=
  beforeWord_append_of_eq_nil (trailingWord_of_endsAtOperator h) t

theorem beforeWord_of_endsAtOperator {t : Text} (h : EndsAtOperator t) : beforeWord t = t := by
  have hend := beforeWord_append h []
  rw [List.append_nil] at hend
  exact hend.trans (List.append_nil t)

theorem endsAtOperator_iff {t : Text} : EndsAtOperator t ↔ t = [] ∨ endsWithOperator t = true := by
  have hlast : endsWithOperator t = true ↔ ∃ u c, t = u ++ [c] ∧ isOperator c = true := by
    simp only [endsWithOperator, Option.any_eq_true, List.getLast?_eq_some_iff]
    constructor
    · rintro ⟨c, ⟨u, hu⟩, hc⟩
      exact ⟨u, c, hu, hc⟩
    · rintro ⟨u, c, hu, hc⟩
      exact ⟨c, ⟨u, hu⟩, hc⟩
  rw [EndsAtOperator, hlast]

instance (t : Text) : Decidable (EndsAtOperator t) := decidable_of_iff _ endsAtOperator_iff.symm

/-! ## Variables in segments -/

theorem isAlpha_of_isOperator {c : Char} (h : isOperator c = true) : c.isAlpha = false := by
  cases ha : c.isAlpha with
  | false => rfl
  | true =>
      have hword := isWordChar_of_isOperator h
      rw [isWordChar_of_isAlpha ha] at hword
      cases hword

/-- A text falls apart into its variables and other characters before each character that belongs
to no word. -/
theorem pieces_append {t u : Text} (hu : ∀ c ∈ u.head?, isWordChar c = false) :
    pieces (t ++ u) = pieces t ++ pieces u := by
  have hcut (t : Text) : (t ++ u).takeWhile isWordChar = t.takeWhile isWordChar ∧
      (t ++ u).dropWhile isWordChar = t.dropWhile isWordChar ++ u := by
    induction t with
    | nil =>
        cases u with
        | nil => exact ⟨rfl, rfl⟩
        | cons c u => simp [hu c rfl]
    | cons c t ih => cases hc : isWordChar c <;> simp [hc, ih]
  have hstarts (c : Char) (t : Text) : startsVariable c (t ++ u) = startsVariable c t := by
    cases t with
    | cons d t => rfl
    | nil =>
        cases u with
        | nil => rfl
        | cons d u => simp [startsVariable, hu d rfl]
  fun_induction pieces t with
  | case1 => rfl
  | case2 c t h ih =>
      rw [List.cons_append, pieces, if_pos (by rw [hstarts, h]), (hcut t).1, (hcut t).2, ih]
      rfl
  | case3 c t h ih =>
      rw [List.cons_append, pieces, if_neg (by rw [hstarts]; exact h), ih]
      rfl

theorem pieces_append_operator (t : Text) {c : Char} (hc : isOperator c = true) (u : Text) :
    pieces (t ++ c :: u) = pieces t ++ .other c :: pieces u := by
  have hhead : ∀ d ∈ (c :: u).head?, isWordChar d = false := by
    intro d hd
    obtain rfl : c = d := by simpa using hd
    exact isWordChar_of_isOperator hc
  rw [pieces_append hhead, pieces.eq_def (c :: u)]
  simp [startsVariable, isAlpha_of_isOperator hc]

theorem variableRuns_append_operator (t : Text) {c : Char} (hc : isOperator c = true) (u : Text) :
    variableRuns (t ++ c :: u) = variableRuns t ++ variableRuns u := by
  rw [variableRuns, pieces_append_operator t hc, List.filterMap_append]
  rfl

/-- No variable crosses the ends of a segment. -/
theorem pieces_around {lead segment rest : Text} (hlead : EndsAtOperator lead)
    (hrest : StartsAtOperator rest) :
    pieces (lead ++ (segment ++ rest)) = pieces lead ++ (pieces segment ++ pieces rest) := by
  have hsegment : pieces (segment ++ rest) = pieces segment ++ pieces rest := by
    refine pieces_append fun c hc => ?_
    rcases hrest with rfl | ⟨d, u, rfl, hd⟩
    · cases hc
    · obtain rfl : d = c := by simpa using hc
      exact isWordChar_of_isOperator hd
  rw [← hsegment]
  rcases hlead with rfl | ⟨v, d, rfl, hd⟩
  · rw [pieces.eq_def []]; rfl
  · rw [List.append_assoc, List.singleton_append, pieces_append_operator v hd,
      pieces_append_operator v hd []]
    simp [pieces.eq_def []]

/-- The variables of a formula are those of its segments. -/
theorem exists_segment_of_mem_variableRuns {formula run : Text} (h : run ∈ variableRuns formula) :
    ∃ segment ∈ segments formula, IsPlain segment ∧ run ∈ variableRuns segment := by
  induction formula using operatorInduction with
  | plain t ht => exact ⟨t, by simp [segments_of_isPlain ht], ht, h⟩
  | cut t c u ht hc ih =>
      rw [variableRuns_append_operator t hc, List.mem_append] at h
      rw [segments_append_operator t hc, segments_of_isPlain ht]
      rcases h with h | h
      · exact ⟨t, List.mem_cons_self, ht, h⟩
      · obtain ⟨segment, hmem, hplain, hrun⟩ := ih h
        exact ⟨segment, by simp [hmem], hplain, hrun⟩

/-- A variable of a text stands in it. -/
theorem infix_of_mem_variableRuns {t run : Text} (h : run ∈ variableRuns t) : run <:+: t := by
  obtain ⟨piece, hmem, hname⟩ := List.mem_filterMap.1 h
  obtain ⟨before, after, hsplit⟩ := List.append_of_mem hmem
  have htext := flatMap_text_pieces t
  rw [hsplit, List.flatMap_append, List.flatMap_cons] at htext
  cases piece with
  | other c => cases hname
  | name text =>
      obtain rfl : text = run := Option.some.inj hname
      exact ⟨before.flatMap Piece.text, after.flatMap Piece.text, by
        rw [List.append_assoc]; exact htext⟩

/-! ## Tokens -/

theorem mem_tokensFrom_iff {start : Nat} {segments : List Text} {token : Token} :
    token ∈ tokensFrom start segments ↔
      ∃ n segment, token.index = start + n ∧ segments[n]? = some segment ∧
        classify? segment = some token.kind := by
  induction segments generalizing start with
  | nil => simp [tokensFrom]
  | cons s rest ih =>
      have hrest : (∃ n segment, token.index = start + n ∧ (s :: rest)[n]? = some segment ∧
          classify? segment = some token.kind) ↔
          (token.index = start ∧ classify? s = some token.kind) ∨
            token ∈ tokensFrom (start + 1) rest := by
        rw [ih]
        constructor
        · rintro ⟨n, segment, hindex, hget, hkind⟩
          cases n with
          | zero =>
              obtain rfl : s = segment := by simpa using hget
              exact .inl ⟨hindex, hkind⟩
          | succ n => exact .inr ⟨n, segment, by omega, by simpa using hget, hkind⟩
        · rintro (⟨hindex, hkind⟩ | ⟨n, segment, hindex, hget, hkind⟩)
          · exact ⟨0, s, hindex, rfl, hkind⟩
          · exact ⟨n + 1, segment, by omega, by simpa using hget, hkind⟩
      rw [hrest, tokensFrom]
      cases hkind : classify? s with
      | none => simp
      | some kind =>
          obtain ⟨index, kind'⟩ := token
          simp [eq_comm]

/-- The tokens of a formula are its segments that are not blank, each at its place. -/
theorem mem_tokenize_iff {formula : Text} {token : Token} :
    token ∈ tokenize formula ↔
      ∃ segment, (segments formula)[token.index]? = some segment ∧
        classify? segment = some token.kind := by
  rw [tokenize, mem_tokensFrom_iff]
  constructor
  · rintro ⟨n, segment, hindex, hget, hkind⟩
    rw [Nat.zero_add] at hindex
    exact ⟨segment, hindex ▸ hget, hkind⟩
  · rintro ⟨segment, hget, hkind⟩
    exact ⟨token.index, segment, (Nat.zero_add _).symm, hget, hkind⟩

/-- The text of a token is what is left of its segment without the blanks around it. -/
theorem text_of_classify? {segment : Text} {kind : TokenKind} (h : classify? segment = some kind) :
    kind.text = trim segment := by
  rw [classify?] at h
  split at h
  case h_1 => cases h
  case h_2 c hc =>
      rw [hc]
      split at h
      · cases h; rfl
      · split at h <;> cases h <;> rfl
  case h_3 => split at h <;> cases h <;> rfl

/-- A token is more than blanks. -/
theorem strip_ne_nil_of_classify? {segment : Text} {kind : TokenKind}
    (h : classify? segment = some kind) : strip segment ≠ [] := by
  intro hnil
  rw [classify?, trim_of_strip_eq_nil hnil] at h
  cases h

/-- A segment that is more than blanks is a token. -/
theorem exists_classify? {segment : Text} (h : trim segment ≠ []) :
    ∃ kind, classify? segment = some kind := by
  rw [classify?]
  split
  case h_1 hnil => exact absurd hnil h
  case h_2 =>
      split
      · exact ⟨_, rfl⟩
      · split <;> exact ⟨_, rfl⟩
  case h_3 => split <;> exact ⟨_, rfl⟩

/-- What is no token is nothing but blanks. -/
theorem trim_eq_nil_of_classify? {segment : Text} (h : classify? segment = none) :
    trim segment = [] := by
  by_contra hne
  obtain ⟨kind, hkind⟩ := exists_classify? hne
  rw [h] at hkind
  cases hkind

/-! ## Names and operators among the tokens -/

theorem isBlank_of_isOperator {c : Char} (h : isOperator c = true) : isBlank c = false := by
  have hword := isWordChar_of_isOperator h
  simp only [isWordChar, Bool.or_eq_false_iff] at hword
  exact hword.2

/-- An operator is a token by itself. -/
theorem classify?_operator {c : Char} (h : isOperator c = true) :
    classify? [c] = some (.operator c) := by
  have htrim : trim [c] = [c] := by
    rw [trim_cons (isBlank_of_isOperator h)]
    rfl
  rw [classify?, htrim]
  exact if_pos h

theorem isOperator_of_classify? {segment : Text} {c : Char}
    (h : classify? segment = some (.operator c)) : isOperator c = true := by
  rw [classify?] at h
  split at h
  · cases h
  · split at h
    · next hop =>
        cases h
        exact hop
    · split at h <;> cases h
  · split at h <;> cases h

/-- A segment without operators is no operator. -/
theorem classify?_ne_operator {segment : Text} (h : IsPlain segment) (c : Char) :
    classify? segment ≠ some (.operator c) := by
  intro hkind
  have htext : [c] = trim segment := text_of_classify? hkind
  have hmem : c ∈ segment := (isWithin_trim segment).subset (htext ▸ List.mem_cons_self)
  have hnot := h c hmem
  rw [isOperator_of_classify? hkind] at hnot
  cases hnot

/-- A segment that is no operator token has no operator. -/
theorem isPlain_of_classify? {formula segment : Text} {kind : TokenKind}
    (hmem : segment ∈ segments formula) (h : classify? segment = some kind)
    (hkind : ∀ c, kind ≠ .operator c) : IsPlain segment := by
  induction formula using operatorInduction with
  | plain t ht =>
      rw [segments_of_isPlain ht] at hmem
      exact List.mem_singleton.1 hmem ▸ ht
  | cut t c u ht hc ih =>
      rw [segments_append_operator t hc u, segments_of_isPlain ht] at hmem
      rcases List.mem_cons.1 hmem with rfl | hmem
      · exact ht
      · rcases List.mem_cons.1 hmem with rfl | hmem
        · rw [classify?_operator hc] at h
          exact absurd (Option.some.inj h).symm (hkind c)
        · exact ih hmem

/-- What starts with a letter is no numeral. -/
theorem isNumeric_cons {c : Char} (hc : c.isAlpha = true) (t : Text) :
    isNumeric (c :: t) = false := by
  have hdigit : c.isDigit = false := by
    cases hd : c.isDigit with
    | false => rfl
    | true => rw [not_isAlpha_of_isDigit hd] at hc; cases hc
  have hsign : Numeral.takeSign (c :: t) = (false, c :: t) := by
    unfold Numeral.takeSign
    split
    · next h => cases h; cases hc
    · next h => cases h; cases hc
    · rfl
  have hmantissa : Numeral.mantissa (c :: t) = ([], [], c :: t) := by
    unfold Numeral.mantissa
    simp only [List.takeWhile_cons, List.dropWhile_cons, hdigit, Bool.false_eq_true, if_false]
    split
    · next h => cases h; cases hc
    · rfl
  rw [isNumeric, Numeral.read?, hsign]
  simp [hmantissa]

/-- A segment that starts with a letter, blanks aside, is a name. -/
theorem classify?_of_isAlpha {segment t : Text} {c : Char} (h : trim segment = c :: t)
    (hc : c.isAlpha = true) : classify? segment = some (.name (c :: t)) := by
  have hop : isOperator c = false := by
    cases ho : isOperator c with
    | false => rfl
    | true => rw [isAlpha_of_isOperator ho] at hc; cases hc
  rw [classify?, h]
  cases t with
  | nil => simp [hop, isNumeric_cons hc]
  | cons d t => simp [isNumeric_cons hc]

end FormulaPad.Formula
