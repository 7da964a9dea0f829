import FormulaPad.CommandLine.Run
import FormulaPad.Proofs.Amounts
import FormulaPad.Proofs.Editor.AutoBind

/-!
# FormulaPad.Proofs.CommandLine.Result

The result that a run prints, and the bindings that it shows with it.

The bindings are shown as a list: those of the command line, then those that
auto-binding has added. The formula is evaluated with the map that an editor has
built up meanwhile. Main statements:

* `content_prepare`, `content_shown` — that map is the list, later pairs
  overwriting earlier ones;
* `isDollars_display_iff` — what is displayed is an amount of dollars exactly if
  there is a value;
* `explains_present` — a report has a line for its bindings and one for the
  result of the formula with them;
* `run_explains` — so the printed result is that of the formula with the printed
  bindings, and the exit code tells which kind of result it is.
-/

namespace FormulaPad

/-! ## Amounts and the message for none -/

namespace Money

open Text

/-- The text is an amount of dollars: a sign if it is negative, the dollar sign, the dollars in groups
of three digits, a point, and two digits of cents. -/
def IsDollars (t : Text) : Prop :=
  ∃ (negative : Bool) (dollars cents : Nat), cents < 100 ∧
    t = (if negative then ['-'] else []) ++
      '$' :: (groupThousands (ofNat dollars) ++
        ['.', (cents / 10).digitChar, (cents % 10).digitChar])

theorem isDollars_format {x : Float} (h : x.isFinite = true) : IsDollars (format (.ofFloat x)) := by
  obtain ⟨whole, fraction, hprint, hdigits, hlength, -⟩ := natOfDigits_expansion h
  have hthree : 3 ≤ fraction.length := by rw [hlength]; decide
  obtain ⟨amount, hround⟩ : ∃ amount, roundCents (ofNat whole ++ '.' :: fraction) =
      (ofNat (amount / 100), [(amount / 10 % 10).digitChar, (amount % 10).digitChar]) :=
    ⟨_, roundCents_digits whole hdigits hthree rfl⟩
  have htens : amount % 100 / 10 = amount / 10 % 10 := by omega
  have hones : amount % 100 % 10 = amount % 10 := by omega
  refine ⟨(Binary64.ofFloat x).isNegative, amount / 100, amount % 100,
    Nat.mod_lt _ (by decide), ?_⟩
  rw [format, hprint, hround, htens, hones]

/-- An amount starts with a sign of one kind or the other, and the message for none with a letter. -/
theorem not_isDollars_invalidMessage : ¬ IsDollars Evaluation.invalidMessage := by
  rintro ⟨negative, dollars, cents, -, h⟩
  cases negative <;> cases h

end Money

namespace Evaluation

variable {formula : Text} {tags : Bindings}

/-- The value of a formula is finite. -/
theorem isFinite_of_evaluate {x : Float} (h : evaluate formula tags = .ok x) :
    x.isFinite = true := by
  rw [evaluate] at h
  split at h
  · cases h
  · rw [evaluateExpression] at h
    repeat' split at h
    all_goals cases h
    assumption

/-- What is displayed is an amount exactly if there is a value, and else it is the message. -/
theorem isDollars_display_iff (formula : Text) (tags : Bindings) :
    (Money.IsDollars (display formula tags) ↔ ∃ x, evaluate formula tags = .ok x) ∧
      (display formula tags = invalidMessage ↔ ∃ e, evaluate formula tags = .error e) := by
  rw [display]
  cases h : evaluate formula tags with
  | ok x =>
      have hamount := Money.isDollars_format (isFinite_of_evaluate h)
      have hne : Money.format (.ofFloat x) ≠ invalidMessage := fun heq =>
        Money.not_isDollars_invalidMessage (heq ▸ hamount)
      simp [hamount, hne]
  | error e => simp [Money.not_isDollars_invalidMessage]

end Evaluation

/-! ## What a report tells -/

namespace Report

/-- What stands before and after a result on a terminal: where colours are wanted, the sequences that
turn on bold red for the message or bold green for an amount, and the one that turns both off. -/
def marks (colour : Bool) (result : Text) : Text × Text :=
  if colour then
    (if result = Evaluation.invalidMessage then "\x1b[31m\x1b[1m".toList
      else "\x1b[32m\x1b[1m".toList, "\x1b[0m".toList)
  else ([], [])

/-- The report shows the bindings `shown` and tells what the formula gives with them. -/
structure Explains (report : Text) (o : Options) (formula : Text) (shown : List (Text × Text)) :
    Prop where
  /-- A quiet report is the result and nothing else. -/
  quiet : o.quiet = true → report = Evaluation.quick formula shown ++ ['\n']
  /-- Any other has a line for the formula, one for the bindings if there are any, where it is wanted
  one line more about the value or the failure, and at last the one for the result. -/
  full : o.quiet = false → ∃ detail,
    report = Text.lines (["Formula: ".toList ++ formula] ++
      (if shown = [] then []
        else ["Tags: ".toList ++
          ", ".toList.intercalate (shown.map fun b => b.1 ++ " = ".toList ++ b.2)]) ++
      detail ++
      ["Result: ".toList ++ (marks o.colour (Evaluation.quick formula shown)).1 ++
        Evaluation.quick formula shown ++ (marks o.colour (Evaluation.quick formula shown)).2]) ∧
    detail.length = (if o.verbose then 1 else 0) ∧
    ∀ line ∈ detail, "Value: ".toList <+: line ∨ "Reason: ".toList <+: line

theorem display_eq_quick (formula : Text) (shown : List (Text × Text)) :
    display (Evaluation.evaluate formula (.ofList shown)) = Evaluation.quick formula shown := by
  rw [Evaluation.quick, Evaluation.display]
  cases Evaluation.evaluate formula (.ofList shown) <;> rfl

/-- A result is red exactly if it is the message for none. -/
theorem failed_iff_quick_eq (formula : Text) (shown : List (Text × Text)) :
    failed (Evaluation.evaluate formula (.ofList shown)) = true ↔
      Evaluation.quick formula shown = Evaluation.invalidMessage := by
  rw [Evaluation.quick, (Evaluation.isDollars_display_iff formula _).2]
  cases Evaluation.evaluate formula (.ofList shown) <;> simp [failed]

theorem styledResult_eq_marks (colour : Bool) (formula : Text) (shown : List (Text × Text)) :
    styledResult (Evaluation.quick formula shown)
        (failed (Evaluation.evaluate formula (.ofList shown))) colour =
      (marks colour (Evaluation.quick formula shown)).1 ++ Evaluation.quick formula shown ++
        (marks colour (Evaluation.quick formula shown)).2 := by
  have hred := failed_iff_quick_eq formula shown
  cases colour with
  | false => simp [styledResult, marks]
  | true =>
      cases hfailed : failed (Evaluation.evaluate formula (.ofList shown)) with
      | true =>
          rw [marks, if_pos rfl, if_pos (hred.1 hfailed)]
          rfl
      | false =>
          rw [marks, if_pos rfl, if_neg fun h => by simp [hred.2 h] at hfailed]
          rfl

/-- A report of the formula with these bindings tells them, and the result with them. -/
theorem explains_present (o : Options) (formula : Text) (shown : List (Text × Text)) :
    Explains (present o formula shown (Evaluation.evaluate formula (.ofList shown))) o formula
      shown := by
  constructor
  case quiet =>
    intro hquiet
    rw [present, if_pos hquiet, display_eq_quick]
    simp [Text.lines]
  case full =>
    intro hquiet
    refine ⟨if o.verbose then [detail (Evaluation.evaluate formula (.ofList shown))] else [],
      ?_, ?_, fun line hline => ?_⟩
    · rw [present, if_neg (by simp [hquiet]), display_eq_quick, styledResult_eq_marks, bindingsText,
        Text.joinWith_eq_intercalate]
      simp only [List.append_assoc]
    · split <;> rfl
    · split at hline
      case isFalse => cases hline
      case isTrue =>
        rw [List.mem_singleton.1 hline]
        cases Evaluation.evaluate formula (.ofList shown) with
        | ok x => exact .inl (List.prefix_append _ _)
        | error e => exact .inr (List.prefix_append _ _)

end Report

namespace CommandLine

/-! ## The map that is evaluated -/

/-- An editor that has been given bindings one by one holds them all, later ones over earlier ones. -/
theorem content_prepare (formula : Text) (bindings : List (Text × Text)) :
    (prepare formula bindings).store.content = ⟨formula, .ofList bindings⟩ := by
  have hfold : ∀ e : Editor,
      (bindings.foldl (fun e b => e.selectTagValue b.1 b.2) e).store.content =
        { e.store.content with tags := e.store.tags.insertAll bindings } := by
    induction bindings with
    | nil => exact fun _ => rfl
    | cons b bindings ih =>
        intro e
        rw [List.foldl_cons, ih, Store.tags, Editor.content_selectTagValue]
        rfl
  have hload : (({} : Editor).load formula).store.content = ⟨formula, {}⟩ :=
    Store.content_setFormula ..
  rw [prepare, hfold, Store.tags, hload]
  rfl

/-- The bindings that a run shows: those that are given, then those that are added to them. -/
def shownBindings (formula : Text) (bindings : List (Text × Text))
    (suggestions : List Suggestion) : List (Text × Text) :=
  bindings ++ ((prepare formula bindings).autoBind suggestions).2

/-- What is shown is what is evaluated. -/
theorem content_shown (formula : Text) (bindings : List (Text × Text))
    (suggestions : List Suggestion) :
    ((prepare formula bindings).autoBind suggestions).1.store.content =
      ⟨formula, .ofList (shownBindings formula bindings suggestions)⟩ := by
  rw [Editor.content_autoBind, Store.tags, content_prepare, shownBindings, Bindings.ofList,
    Bindings.ofList, Bindings.insertAll_append]

/-- Without auto-binding there are no suggestions to bind, and the given bindings are shown. -/
theorem shownBindings_of_given {c : Config} {outcome : Source → FetchOutcome}
    {suggestions : List Suggestion} (hgiven : c.autoBind = false)
    (hfetch : bindingSuggestions c outcome = .ok suggestions) (formula : Text)
    (bindings : List (Text × Text)) : shownBindings formula bindings suggestions = bindings := by
  obtain rfl : [] = suggestions := by simpa [bindingSuggestions, hgiven] using hfetch
  rw [shownBindings, Editor.autoBind_nil, List.append_nil]

/-! ## The run -/

variable {c : Config} {outcome : Source → FetchOutcome} {colour : Bool} {formula : Text}
  {bindings : List (Text × Text)} {suggestions : List Suggestion}

theorem run_evaluation (hmode : c.mode = .evaluation) (hbindings : c.bindings = .ok bindings) :
    run c outcome colour = runEvaluation c bindings outcome colour := by
  have hcompletion : c.completion = none := by
    rw [Config.mode] at hmode
    split at hmode
    · cases hmode
    · assumption
  simp [run, hcompletion, hbindings, hmode]

/-- An evaluating run prints the report of the formula with the bindings that it shows. -/
theorem runEvaluation_eq (hformula : c.formula = some formula) (hne : formula ≠ [])
    (hfetch : bindingSuggestions c outcome = .ok suggestions) :
    runEvaluation c bindings outcome colour =
      { output :=
          Report.present ⟨c.verbose, c.quiet, colour⟩ formula
            (shownBindings formula bindings suggestions)
            (Evaluation.evaluate formula (.ofList (shownBindings formula bindings suggestions)))
        error :=
          match Evaluation.evaluate formula
            (.ofList (shownBindings formula bindings suggestions)) with
          | .ok _ => none
          | .error e => some (.evaluation e) } := by
  have hcontent := content_shown formula bindings suggestions
  rw [runEvaluation, hformula, Option.getD_some, if_neg hne, hfetch]
  dsimp only
  rw [Store.formula, Store.tags, hcontent]
  rfl

/-- The exit code of an evaluating run tells whether there is a value. -/
theorem exitCode_runEvaluation (hformula : c.formula = some formula) (hne : formula ≠ [])
    (hfetch : bindingSuggestions c outcome = .ok suggestions) :
    (runEvaluation c bindings outcome colour).exitCode =
      if Report.failed (Evaluation.evaluate formula
        (.ofList (shownBindings formula bindings suggestions))) then 2 else 0 := by
  rw [runEvaluation_eq hformula hne hfetch, RunResult.exitCode]
  cases Evaluation.evaluate formula (.ofList (shownBindings formula bindings suggestions)) <;> rfl

/-- **The printed bindings explain the printed result.** The report shows a list of bindings, those
that are given and with auto-binding those that are added, and tells the result of the formula with
exactly these, later ones overwriting earlier ones; the exit code is 0 if the result is an amount, and
2 if it is the message for none. -/
theorem run_explains (hmode : c.mode = .evaluation) (hformula : c.formula = some formula)
    (hne : formula ≠ []) (hbindings : c.bindings = .ok bindings)
    (hfetch : bindingSuggestions c outcome = .ok suggestions) :
    let shown := shownBindings formula bindings suggestions
    (c.autoBind = false → shown = bindings) ∧
      Report.Explains (run c outcome colour).output ⟨c.verbose, c.quiet, colour⟩ formula shown ∧
      (Money.IsDollars (Evaluation.quick formula shown) ∧ (run c outcome colour).exitCode = 0 ∨
        Evaluation.quick formula shown = Evaluation.invalidMessage ∧
          (run c outcome colour).exitCode = 2) := by
  intro shown
  rw [run_evaluation hmode hbindings]
  refine ⟨fun hgiven => shownBindings_of_given hgiven hfetch formula bindings, ?_, ?_⟩
  · rw [runEvaluation_eq hformula hne hfetch]
    exact Report.explains_present _ formula shown
  · have hexit : (runEvaluation c bindings outcome colour).exitCode =
        if Report.failed (Evaluation.evaluate formula (.ofList shown)) then 2 else 0 :=
      exitCode_runEvaluation hformula hne hfetch
    obtain ⟨hdollars, hmessage⟩ := Evaluation.isDollars_display_iff formula (.ofList shown)
    rw [hexit]
    cases hresult : Evaluation.evaluate formula (.ofList shown) with
    | ok x => exact .inl ⟨hdollars.2 ⟨x, hresult⟩, rfl⟩
    | error e => exact .inr ⟨hmessage.2 ⟨e, hresult⟩, rfl⟩

/-- A tag that is given twice, the second time without a value. -/
def emptiedTag : Config :=
  { formula := some "ab*2+cd".toList
    tags := ["ab=5".toList, "ab=".toList, "cd = 3".toList]
    autoBind := true
    suggestionsFile := some "tags.json".toList }

/-- A value for it. -/
def emptiedTagSuggestions : List Suggestion :=
  [⟨['1'], "ab".toList, "rates".toList, .number (.integer 7)⟩]

/-- The value that is found for the tag is shown behind those that are given, and counts. -/
theorem run_explains_emptiedTag :
    emptiedTag.mode = .evaluation ∧ emptiedTag.formula = some "ab*2+cd".toList ∧
    "ab*2+cd".toList ≠ [] ∧
    emptiedTag.bindings = .ok [("ab".toList, ['5']), ("ab".toList, []), ("cd".toList, " 3".toList)] ∧
    bindingSuggestions emptiedTag (fun _ => .ok emptiedTagSuggestions) = .ok emptiedTagSuggestions ∧
    (let shown := shownBindings "ab*2+cd".toList
      [("ab".toList, ['5']), ("ab".toList, []), ("cd".toList, " 3".toList)] emptiedTagSuggestions
    let printed := run emptiedTag (fun _ => .ok emptiedTagSuggestions) false
    (emptiedTag.autoBind = false → shown =
        [("ab".toList, ['5']), ("ab".toList, []), ("cd".toList, " 3".toList)]) ∧
      Report.Explains printed.output ⟨false, false, false⟩ "ab*2+cd".toList shown ∧
      (Money.IsDollars (Evaluation.quick "ab*2+cd".toList shown) ∧ printed.exitCode = 0 ∨
        Evaluation.quick "ab*2+cd".toList shown = Evaluation.invalidMessage ∧
          printed.exitCode = 2)) ∧
    (run emptiedTag (fun _ => .ok emptiedTagSuggestions) false).output =
      Text.lines ["Formula: ab*2+cd".toList, "Tags: ab = 5, ab = , cd =  3, ab = 7".toList,
        "Result: $17.00".toList] := by
  refine ⟨rfl, rfl, by decide, rfl, rfl, ?_, by decide +kernel⟩
  exact run_explains rfl rfl (by decide) rfl rfl

end CommandLine
end FormulaPad
