import FormulaPad.Proofs.Segments

/-!
# FormulaPad.Proofs.Tokens

The tokens of a formula as its canonical form.

Nothing but blanks is lost when a formula is cut into tokens: written one after
another, they are the formula without the blanks around its segments, and that
text has the same tokens at the same places. Operators stand at the odd places
and everything else at the even ones, also where a segment is blank and yields
no token. What stands behind an operator has no part in what stands before it.

Main statements: `tokenize_append_operator` (cutting at an operator),
`segments_joinTokens` (the canonical form), and from these
`isLossless_tokenize` and `tokens_before_operator`.
-/

namespace FormulaPad.Formula

open Text

/-! ## Places of segments -/

/-- Operators stand at the odd places, and what is between them at the even ones. -/
theorem segments_parity {formula segment : Text} {n : Nat}
    (h : (segments formula)[n]? = some segment) :
    (n % 2 = 1 → ∃ c, isOperator c = true ∧ segment = [c]) ∧ (n % 2 = 0 → IsPlain segment) := by
  induction formula using operatorInduction generalizing n with
  | plain t ht =>
      rw [segments_of_isPlain ht] at h
      match n, h with
      | 0, h =>
          obtain rfl : t = segment := Option.some.inj h
          exact ⟨fun hodd => (nomatch hodd), fun _ => ht⟩
  | cut t c u ht hc ih =>
      rw [segments_append_operator t hc, segments_of_isPlain ht] at h
      match n, h with
      | 0, h =>
          obtain rfl : t = segment := Option.some.inj h
          exact ⟨fun hodd => (nomatch hodd), fun _ => ht⟩
      | 1, h =>
          obtain rfl : [c] = segment := Option.some.inj h
          exact ⟨fun _ => ⟨c, hc, rfl⟩, fun heven => (nomatch heven)⟩
      | n + 2, h =>
          rw [Nat.add_mod_right]
          exact ih h

/-! ## Tokens of lists of segments -/

/-- The token as one whose segment stands `k` places further on. -/
def Token.shift (k : Nat) (t : Token) : Token := { t with index := t.index + k }

theorem tokensFrom_append (start : Nat) (ss more : List Text) :
    tokensFrom start (ss ++ more) = tokensFrom start ss ++ tokensFrom (start + ss.length) more := by
  induction ss generalizing start with
  | nil => rfl
  | cons s rest ih =>
      have hlen : start + 1 + rest.length = start + (s :: rest).length := by
        rw [List.length_cons]; omega
      rw [List.cons_append, tokensFrom, tokensFrom, ih, hlen]
      cases classify? s <;> rfl

theorem tokensFrom_add (start k : Nat) (ss : List Text) :
    tokensFrom (start + k) ss = (tokensFrom start ss).map (Token.shift k) := by
  induction ss generalizing start with
  | nil => rfl
  | cons s rest ih =>
      have hnext : start + k + 1 = start + 1 + k := by omega
      rw [tokensFrom, tokensFrom, hnext, ih]
      cases classify? s <;> rfl

/-- The tokens before an operator, the operator, and the tokens after it, at places that count on
from the operator. -/
theorem tokenize_append_operator (t : Text) {c : Char} (hc : isOperator c = true) (u : Text) :
    tokenize (t ++ c :: u) =
      tokenize t ++ ⟨(segments t).length, .operator c⟩ ::
        (tokenize u).map (Token.shift ((segments t).length + 1)) := by
  rw [tokenize, segments_append_operator t hc, tokensFrom_append, Nat.zero_add, tokensFrom,
    classify?_operator hc, tokenize, tokenize, ← tokensFrom_add, Nat.zero_add]

/-- The places of tokens go up. -/
theorem pairwise_tokensFrom (start : Nat) (ss : List Text) :
    (tokensFrom start ss).Pairwise (·.index < ·.index) := by
  induction ss generalizing start with
  | nil => exact .nil
  | cons s rest ih =>
      rw [tokensFrom]
      cases classify? s with
      | none => exact ih (start + 1)
      | some kind =>
          refine List.pairwise_cons.2 ⟨fun token htoken => ?_, ih (start + 1)⟩
          obtain ⟨n, -, hindex, -⟩ := mem_tokensFrom_iff.1 htoken
          show start < token.index
          omega

/-! ## Tokens by their places -/

/-- The token at a place, if the segment there is one. -/
def tokenAt? (formula : Text) (place : Nat) : Option Token :=
  (tokenize formula).find? (·.index = place)

/-- The identifier of the dropdown at a place, if the segment there is a variable. -/
def dropdownIdAt? (formula : Text) (place : Nat) : Option Text :=
  (tokenAt? formula place).bind Token.dropdownId?

theorem find?_tokensFrom (start n : Nat) (ss : List Text) :
    (tokensFrom start ss).find? (·.index = start + n) =
      (ss[n]?.bind classify?).map (Token.mk (start + n)) := by
  induction ss generalizing start n with
  | nil => rfl
  | cons s rest ih =>
      cases n with
      | zero =>
          rw [tokensFrom, List.getElem?_cons_zero, Option.bind_some]
          cases hkind : classify? s with
          | some kind => simp
          | none =>
              -- the tokens of the rest stand further on
              refine List.find?_eq_none.2 fun token htoken => ?_
              obtain ⟨m, -, hindex, -⟩ := mem_tokensFrom_iff.1 htoken
              rw [decide_eq_true_iff]
              omega
      | succ n =>
          have hplace : start + (n + 1) = start + 1 + n := by omega
          rw [tokensFrom, List.getElem?_cons_succ, hplace, ← ih]
          cases hkind : classify? s with
          | none => rfl
          | some kind => rw [List.find?_cons_of_neg (by simp; omega)]

/-- The token at a place comes from the segment there. -/
theorem tokenAt?_eq (formula : Text) (place : Nat) :
    tokenAt? formula place = ((segments formula)[place]?.bind classify?).map (Token.mk place) := by
  have h := find?_tokensFrom 0 place (segments formula)
  rwa [Nat.zero_add] at h

/-- Formulas with the same segment at a place have the same token there, and the same dropdown. -/
theorem tokenAt?_congr {formula other : Text} {place : Nat}
    (h : (segments formula)[place]? = (segments other)[place]?) :
    tokenAt? formula place = tokenAt? other place ∧
      dropdownIdAt? formula place = dropdownIdAt? other place := by
  have htoken : tokenAt? formula place = tokenAt? other place := by
    rw [tokenAt?_eq, tokenAt?_eq, h]
  exact ⟨htoken, congrArg (·.bind Token.dropdownId?) htoken⟩

/-! ## The text of the tokens -/

/-- The texts of tokens one after another. -/
def joinTokens (tokens : List Token) : Text := tokens.flatMap (·.kind.text)

/-- A blank segment, which yields no token, would add nothing to the text. -/
theorem joinTokens_tokensFrom (start : Nat) (ss : List Text) :
    joinTokens (tokensFrom start ss) = (ss.map trim).flatten := by
  induction ss generalizing start with
  | nil => rfl
  | cons s rest ih =>
      rw [tokensFrom, List.map_cons, List.flatten_cons]
      cases hkind : classify? s with
      | none =>
          rw [trim_eq_nil_of_classify? hkind]
          exact ih (start + 1)
      | some kind =>
          rw [← text_of_classify? hkind, ← ih (start + 1)]
          rfl

theorem strip_flatten_map_trim (ss : List Text) :
    strip (ss.map trim).flatten = strip ss.flatten := by
  induction ss with
  | nil => rfl
  | cons s rest ih =>
      rw [List.map_cons, List.flatten_cons, List.flatten_cons, strip_append, strip_append,
        strip_trim, ih]

/-- Without the blanks around them, the segments are still those of what they are together. -/
theorem segments_flatten_map_trim (formula : Text) :
    segments ((segments formula).map trim).flatten = (segments formula).map trim := by
  induction formula using operatorInduction with
  | plain t ht =>
      have hplain : IsPlain (trim t) := fun c hc => ht c ((isWithin_trim t).subset hc)
      rw [segments_of_isPlain ht]
      simp [segments_of_isPlain hplain]
  | cut t c u ht hc ih =>
      have hplain : IsPlain (trim t) := fun d hd => ht d ((isWithin_trim t).subset hd)
      have hop : trim [c] = [c] := trim_cons (isBlank_of_isOperator hc) []
      rw [segments_append_operator t hc, segments_of_isPlain ht]
      have htext : ([t] ++ [c] :: segments u).map trim =
          trim t :: [c] :: (segments u).map trim := by simp [hop]
      rw [htext]
      calc segments (trim t :: [c] :: (segments u).map trim).flatten
          = segments (trim t ++ c :: ((segments u).map trim).flatten) := by simp
        _ = [trim t] ++ [c] :: (segments u).map trim := by
            rw [segments_append_operator _ hc, segments_of_isPlain hplain, ih]

/-- The segments of the text of the tokens are those of the formula without the blanks around
them. -/
theorem segments_joinTokens (formula : Text) :
    segments (joinTokens (tokenize formula)) = (segments formula).map trim := by
  rw [tokenize, joinTokens_tokensFrom, segments_flatten_map_trim]

theorem classify?_trim (segment : Text) : classify? (trim segment) = classify? segment := by
  rw [classify?, classify?, trim_trim]

theorem tokensFrom_map_trim (start : Nat) (ss : List Text) :
    tokensFrom start (ss.map trim) = tokensFrom start ss := by
  induction ss generalizing start with
  | nil => rfl
  | cons s rest ih => rw [List.map_cons, tokensFrom, tokensFrom, classify?_trim, ih]

/-! ## Main statements -/

/-- Cutting the formula into segments and tokens loses nothing but blanks, and what is left is cut
the same way. -/
structure IsLossless (formula : Text) : Prop where
  length_odd : (segments formula).length % 2 = 1
  flatten_eq : (segments formula).flatten = formula
  /-- At every odd place there is exactly one operator. -/
  operator_of_odd : ∀ n segment, (segments formula)[n]? = some segment → n % 2 = 1 →
    ∃ c, isOperator c = true ∧ segment = [c]
  isPlain_of_even : ∀ n segment, (segments formula)[n]? = some segment → n % 2 = 0 →
    IsPlain segment
  index_increasing : (tokenize formula).Pairwise (·.index < ·.index)
  /-- Numbers and names are at even places. -/
  index_odd_iff : ∀ token ∈ tokenize formula,
    token.index % 2 = 1 ↔ ∃ c, token.kind = .operator c
  text_trimmed : ∀ token ∈ tokenize formula,
    trim token.kind.text = token.kind.text ∧ strip token.kind.text ≠ []
  strip_eq : strip formula = strip (joinTokens (tokenize formula))
  /-- The text of the tokens has the same tokens at the same places. -/
  tokenize_eq : tokenize (joinTokens (tokenize formula)) = tokenize formula

/-- **Cutting a formula into tokens loses nothing but blanks**, and the tokens are those of their
own text. -/
theorem isLossless_tokenize (formula : Text) : IsLossless formula where
  length_odd := by
    rw [length_segments]
    omega
  flatten_eq := flatten_segments formula
  operator_of_odd := fun _ _ h => (segments_parity h).1
  isPlain_of_even := fun _ _ h => (segments_parity h).2
  index_increasing := pairwise_tokensFrom 0 (segments formula)
  index_odd_iff := by
    intro token htoken
    obtain ⟨segment, hget, hkind⟩ := mem_tokenize_iff.1 htoken
    obtain ⟨hodd, heven⟩ := segments_parity hget
    constructor
    · intro h
      obtain ⟨c, hc, rfl⟩ := hodd h
      rw [classify?_operator hc] at hkind
      exact ⟨c, (Option.some.inj hkind).symm⟩
    · rintro ⟨c, hc⟩
      by_contra h
      exact classify?_ne_operator (heven (by omega)) c (hc ▸ hkind)
  text_trimmed := by
    intro token htoken
    obtain ⟨segment, -, hkind⟩ := mem_tokenize_iff.1 htoken
    rw [text_of_classify? hkind, trim_trim, strip_trim]
    exact ⟨rfl, strip_ne_nil_of_classify? hkind⟩
  strip_eq := by
    rw [tokenize, joinTokens_tokensFrom, strip_flatten_map_trim, flatten_segments]
  tokenize_eq := by
    rw [tokenize, segments_joinTokens, tokensFrom_map_trim, tokenize]

example : joinTokens (tokenize " net  price* +2 )".toList) = "net  price*+2)".toList := by
  decide +kernel

/-- **An operator parts the tokens of a formula**: those before it are as if there was nothing more,
and those after it as if there was nothing before, but for their places. So no change of what
follows the operator changes a token before it, or its dropdown. -/
theorem tokens_before_operator {c : Char} (hc : isOperator c = true) (before after : Text) :
    tokenize (before ++ c :: after) =
        tokenize before ++ ⟨(segments before).length, .operator c⟩ ::
          (tokenize after).map (Token.shift ((segments before).length + 1)) ∧
      ∀ (changed : Text) (place : Nat), place ≤ (segments before).length →
        tokenAt? (before ++ c :: changed) place = tokenAt? (before ++ c :: after) place ∧
          dropdownIdAt? (before ++ c :: changed) place =
            dropdownIdAt? (before ++ c :: after) place := by
  refine ⟨tokenize_append_operator before hc after, fun changed place hplace => ?_⟩
  apply tokenAt?_congr
  rw [segments_append_operator before hc, segments_append_operator before hc]
  -- the operator is the first segment that comes after those of `before`
  rcases hplace.lt_or_eq with hlt | rfl
  · rw [List.getElem?_append_left hlt, List.getElem?_append_left hlt]
  · rw [List.getElem?_append_right le_rfl, List.getElem?_append_right le_rfl, Nat.sub_self]
    rfl

/-- A name before the operator and a blank segment behind it, whatever the operator is followed by
instead. -/
theorem tokens_before_operator_spaced :
    isOperator '-' = true ∧
      tokenize ("( net price *2".toList ++ '-' :: " +tax".toList) =
        tokenize "( net price *2".toList ++
          ⟨(segments "( net price *2".toList).length, .operator '-'⟩ ::
            (tokenize " +tax".toList).map
              (Token.shift ((segments "( net price *2".toList).length + 1)) ∧
      ∀ (changed : Text) (place : Nat), place ≤ (segments "( net price *2".toList).length →
        tokenAt? ("( net price *2".toList ++ '-' :: changed) place =
            tokenAt? ("( net price *2".toList ++ '-' :: " +tax".toList) place ∧
          dropdownIdAt? ("( net price *2".toList ++ '-' :: changed) place =
            dropdownIdAt? ("( net price *2".toList ++ '-' :: " +tax".toList) place := by
  have hop : isOperator '-' = true := by decide
  exact ⟨hop, tokens_before_operator hop "( net price *2".toList " +tax".toList⟩

end FormulaPad.Formula
