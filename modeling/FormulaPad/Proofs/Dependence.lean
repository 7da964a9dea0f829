import FormulaPad.Proofs.Editor.Clearing
import FormulaPad.Proofs.Substitution

/-!
# FormulaPad.Proofs.Dependence

Which bindings the result of a formula and its view depend on.

Both look names up with `resolve?` only, for which an empty value is no value. The
result depends on the names of the variables that are found when the formula is
evaluated, also in the list of those that have no value; the view depends on the
names of its chips. So the empty values that deleting backwards leaves behind make
a difference to formulas only that have these very names.

Main statements: `evaluate_eq_of_agree`, `build_eq_of_agree`, `agree_backspace`
(which names keep their values while one deletes backwards), and
`dependsOnNames`.
-/

namespace FormulaPad

open Formula Text

/-! ## Maps that agree -/

namespace Bindings

/-- The maps give these names the same values; an empty value is none. -/
def Agree (tags tags' : Bindings) (names : List Text) : Prop :=
  ∀ name ∈ names, tags.resolve? name = tags'.resolve? name

variable {tags tags' : Bindings} {names : List Text}

/-- An empty value is the same as none. -/
theorem agree_insert_erase (tags : Bindings) (tag : Text) (names : List Text) :
    (tags.insert tag []).Agree (tags.erase tag) names := by
  intro name _
  rw [resolve?_insert, resolve?_erase]
  split <;> rfl

/-- What the names are bound to decides. -/
theorem agree_of_get? (h : ∀ name ∈ names, tags.get? name = tags'.get? name) :
    tags.Agree tags' names := fun name hname => by
  rw [resolve?, resolve?, h name hname]

end Bindings

/-! ## Results -/

namespace Evaluation

variable {tags tags' : Bindings} {formula : Text}

theorem unresolvedNames_eq_of_agree (h : tags.Agree tags' ((variableRuns formula).map trim)) :
    unresolvedNames formula tags = unresolvedNames formula tags' :=
  List.filter_congr fun name hname => by rw [h name hname]

/-- Only the values of the variables that are replaced matter. -/
theorem replaceVariables_eq_of_agree {runs : List Text} (h : tags.Agree tags' (runs.map trim))
    (expression : Text) :
    replaceVariables tags runs expression = replaceVariables tags' runs expression := by
  rw [Bindings.Agree, List.forall_mem_map] at h
  induction runs generalizing expression with
  | nil => rfl
  | cons run runs ih =>
      obtain ⟨hrun, hruns⟩ := List.forall_mem_cons.1 h
      have hvalue : replacement tags run = replacement tags' run := by
        rw [replacement, replacement, valueOf?, valueOf?, hrun]
      rw [replaceVariables_cons, replaceVariables_cons, hvalue]
      exact ih hruns _

theorem evaluate_eq_of_agree (h : tags.Agree tags' ((variableRuns formula).map trim)) :
    evaluate formula tags = evaluate formula tags' := by
  have hsubstitute : substitute formula tags = substitute formula tags' := by
    rw [substitute, substitute, unresolvedNames_eq_of_agree h, replaceVariables_eq_of_agree h]
  rw [evaluate, evaluate, hsubstitute]

end Evaluation

/-! ## Views -/

namespace View

variable {tags tags' : Bindings} {formula : Text}

/-- A chip shows the value of its name, and marks the option with this value. -/
theorem chipOf_eq {name : Text} (h : tags.resolve? name = tags'.resolve? name)
    (suggestions : Option (List Suggestion)) (openId : Option Text) (index : Nat) :
    chipOf tags suggestions openId index name = chipOf tags' suggestions openId index name := by
  rw [chipOf, chipOf, h]

theorem itemOf_eq {t : Token} (h : ∀ name, t.name? = some name →
      tags.resolve? name = tags'.resolve? name)
    (suggestions : Option (List Suggestion)) (openId : Option Text) :
    itemOf tags suggestions openId t = itemOf tags' suggestions openId t := by
  obtain ⟨index, kind⟩ := t
  cases kind with
  | operator c => rfl
  | number n => rfl
  | name name => exact congrArg ViewItem.chip (chipOf_eq (h name rfl) suggestions openId index)

theorem build_eq_of_agree (h : tags.Agree tags' ((tokenize formula).filterMap Token.name?))
    (suggestions : Option (List Suggestion)) (openId : Option Text) :
    build formula tags suggestions openId = build formula tags' suggestions openId := by
  refine congrArg View.mk (List.map_congr_left fun t ht => itemOf_eq (fun name hname => ?_) _ _)
  exact h name (List.mem_filterMap.2 ⟨t, ht, hname⟩)

end View

/-! ## Deleting backwards -/

namespace Editor

variable {e : Editor}

/-- On an empty line no value is bound. -/
theorem tags_backspace_of_text_eq_nil (h : e.line.text = []) :
    e.backspace.store.tags = e.store.tags := by
  rw [store_backspace, backspaceWrites, if_pos h]
  split
  · rfl
  · exact Store.tags_setFormula e.store _

/-- All names but the word that is deleted keep their values. -/
theorem agree_backspace {names : List Text} (h : trailingWord e.line.before ∉ names) :
    e.backspace.store.tags.Agree e.store.tags names := by
  refine Bindings.agree_of_get? fun name hname => ?_
  by_cases hline : e.line.text = []
  · rw [tags_backspace_of_text_eq_nil hline]
  · rw [get?_backspace hline, if_neg]
    rintro ⟨rfl, -⟩
    exact h hname

end Editor

/-! ## Only the names of the formula matter -/

/-- Maps that agree on the variables of a formula give it the same result or the same error, and
maps that agree on the names of its tokens the same view. So it makes no difference whether a
name is bound to the empty value or not at all, and deleting a word backwards changes neither the
result nor the view of a formula that does not have this word, as it was typed, as a name. -/
theorem dependsOnNames (formula : Text) (tags tags' : Bindings) :
    (tags.Agree tags' ((variableRuns formula).map trim) →
      Evaluation.evaluate formula tags = Evaluation.evaluate formula tags') ∧
    (tags.Agree tags' ((tokenize formula).filterMap Token.name?) →
      ∀ suggestions openId, View.build formula tags suggestions openId =
        View.build formula tags' suggestions openId) ∧
    (∀ tag, Evaluation.evaluate formula (tags.insert tag []) =
        Evaluation.evaluate formula (tags.erase tag) ∧
      ∀ suggestions openId, View.build formula (tags.insert tag []) suggestions openId =
        View.build formula (tags.erase tag) suggestions openId) ∧
    ∀ e : Editor,
      (trailingWord e.line.before ∉ (variableRuns formula).map trim →
        Evaluation.evaluate formula e.backspace.store.tags =
          Evaluation.evaluate formula e.store.tags) ∧
      (trailingWord e.line.before ∉ (tokenize formula).filterMap Token.name? →
        ∀ suggestions openId, View.build formula e.backspace.store.tags suggestions openId =
          View.build formula e.store.tags suggestions openId) :=
  ⟨Evaluation.evaluate_eq_of_agree, View.build_eq_of_agree,
    fun tag => ⟨Evaluation.evaluate_eq_of_agree (tags.agree_insert_erase tag _),
      View.build_eq_of_agree (tags.agree_insert_erase tag _)⟩,
    fun _ => ⟨fun h => Evaluation.evaluate_eq_of_agree (Editor.agree_backspace h),
      fun h => View.build_eq_of_agree (Editor.agree_backspace h)⟩⟩

/-- The maps differ in an empty value, in the value of another name, and in the entry that deleting
` tax` backwards has left behind. -/
theorem dependsOnNames_leftBehind :
    let formula := "2*tax+rate2".toList
    let tags := Bindings.ofList [("tax".toList, "9".toList)]
    let tags' := Bindings.ofList
      [("rate".toList, "5".toList), ("tax".toList, "9".toList), ("rate2".toList, []),
        (" tax".toList, [])]
    let e : Editor := ({ store := .ofContent [] tags } : Editor).insertText "2* tax".toList
    (tags.Agree tags' ((variableRuns formula).map trim) ∧
      tags.Agree tags' ((tokenize formula).filterMap Token.name?)) ∧
      (e.backspace.store.tags.get? " tax".toList = some [] ∧
        trailingWord e.line.before ∉ (variableRuns formula).map trim) ∧
      Evaluation.evaluate formula tags = Evaluation.evaluate formula tags' ∧
      View.build formula tags none none = View.build formula tags' none none ∧
      Evaluation.evaluate formula e.backspace.store.tags =
        Evaluation.evaluate formula e.store.tags := by
  intro formula tags tags' e
  have hruns : tags.Agree tags' ((variableRuns formula).map trim) := by
    unfold Bindings.Agree
    decide +kernel
  have hnames : tags.Agree tags' ((tokenize formula).filterMap Token.name?) := by
    unfold Bindings.Agree
    decide +kernel
  have hword : trailingWord e.line.before ∉ (variableRuns formula).map trim := by decide +kernel
  obtain ⟨hevaluate, hbuild, -, hbackspace⟩ := dependsOnNames formula tags tags'
  exact ⟨⟨hruns, hnames⟩, ⟨by decide +kernel, hword⟩, hevaluate hruns, hbuild hnames none none,
    (hbackspace e).1 hword⟩

end FormulaPad
