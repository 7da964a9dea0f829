import FormulaPad.CommandLine.Arguments
import FormulaPad.Proofs.CommandLine.Result
import FormulaPad.Proofs.Durations

/-!
# FormulaPad.Proofs.CommandLine.Settings

Settings that cannot be read, and how runs end.

A setting is read only by a run that needs it: the bindings by every run, the
durations by those that fetch suggestions. Each is read before anything is
printed. So a run with a malformed setting that it needs prints nothing and ends
with the exit code 4, and any other evaluating run of a formula prints one
result, whether the fetch has failed or not. The log level is read before a run
begins, and is no part of it.

Main statements: `exists_readTags_iff` and `fetch_cases` (what is read),
`run_of_isMalformed`, `run_congr` (a run depends on what is fetched only), and
`endsAsSettled_of_mode`.
-/

namespace FormulaPad

/-! ## The result in a report -/

namespace Report

/-- The line of a report that tells the result. -/
def resultLine (o : Options) (result : Except EvaluationError Float) : Text :=
  if o.quiet then display result
  else "Result: ".toList ++ styledResult (display result) (failed result) o.colour

/-- A line with another label is no result. -/
theorem not_result_of_label {label : Text}
    (h : ¬ ("Result: ".toList <+: label ∨ label <+: "Result: ".toList)) (t : Text) :
    ¬ "Result: ".toList <+: label ++ t := fun hresult =>
  h (List.prefix_or_prefix_of_prefix hresult (List.prefix_append label t))

/-- A report ends with the result, and nothing before it is a result. -/
theorem exists_present_eq (o : Options) (formula : Text) (bindings : List (Text × Text))
    (result : Except EvaluationError Float) :
    ∃ before, present o formula bindings result = Text.lines (before ++ [resultLine o result]) ∧
      ∀ line ∈ before, o.quiet = false ∧ ¬ "Result: ".toList <+: line := by
  cases hquiet : o.quiet with
  | true =>
      refine ⟨[], ?_, fun line hline => nomatch hline⟩
      rw [present, resultLine, hquiet]
      rfl
  | false =>
      refine ⟨["Formula: ".toList ++ formula] ++
        (if bindings = [] then [] else ["Tags: ".toList ++ bindingsText bindings]) ++
        (if o.verbose then [detail result] else []), ?_, fun line hline => ⟨rfl, ?_⟩⟩
      · rw [present, resultLine, hquiet]
        rfl
      · simp only [List.mem_append, List.mem_singleton] at hline
        rcases hline with (rfl | htags) | hdetail
        · exact not_result_of_label (by decide) formula
        · split at htags
          · cases htags
          · rw [List.mem_singleton.1 htags]
            exact not_result_of_label (by decide) _
        · split at hdetail
          · rw [List.mem_singleton.1 hdetail]
            cases result with
            | ok value => exact not_result_of_label (by decide) _
            | error e => exact not_result_of_label (by decide) _
          · cases hdetail

end Report

namespace CommandLine

open Duration (IsDuration)

variable {c : Config} {outcome outcome' : Source → FetchOutcome} {colour : Bool} {t : Text}
  {tags : List Text} {formula : Text}

/-! ## Bindings -/

/-- A binding as it must be given: a name, which is more than blanks, the first mark, and a value. -/
def IsTagSetting (t : Text) : Prop :=
  ∃ name value, t = name ++ '=' :: value ∧ '=' ∉ name ∧ Text.trim name ≠ []

theorem exists_readTag_iff : (∃ b, readTag t = .ok b) ↔ IsTagSetting t := by
  unfold readTag
  constructor
  · rintro ⟨b, h⟩
    cases hsplit : Text.splitAt? '=' t with
    | none => rw [hsplit] at h; cases h
    | some sides =>
        rw [hsplit] at h
        dsimp only at h
        split at h
        case isTrue => cases h
        case isFalse hname =>
          obtain ⟨ht, hmark⟩ := Text.eq_append_of_splitAt? hsplit
          exact ⟨sides.1, sides.2, ht, hmark, hname⟩
  · rintro ⟨name, value, rfl, hmark, hname⟩
    rw [Text.splitAt?_append hmark]
    exact ⟨_, if_neg hname⟩

/-- The bindings are read exactly if each of them can be. -/
theorem exists_readTags_iff : (∃ bs, readTags tags = .ok bs) ↔ ∀ t ∈ tags, IsTagSetting t := by
  induction tags with
  | nil => exact iff_of_true ⟨[], rfl⟩ (fun t ht => nomatch ht)
  | cons t tags ih =>
      rw [List.forall_mem_cons, ← exists_readTag_iff, ← ih, readTags]
      cases readTag t with
      | error e => simp
      | ok b =>
          cases readTags tags with
          | error e => simp
          | ok bs => simp

/-! ## Suggestions -/

/-- A setting that is a duration is read, and any other text is an error. -/
theorem readDuration_cases (setting : DurationSetting) (t : Text) :
    IsDuration t ∧ (∃ d, readDuration setting t = .ok d) ∨
      ¬ IsDuration t ∧ ∃ e, readDuration setting t = .error e := by
  rw [← Duration.exists_read?_iff, readDuration]
  cases Duration.read? t with
  | some d => exact .inl ⟨⟨d, rfl⟩, d, rfl⟩
  | none => exact .inr ⟨(nomatch ·), _, rfl⟩

/-- A setting of the cache of suggestions is malformed: how long they stay fresh or, unless they are
in a file, the timeout. -/
def Config.HasMalformedDuration (c : Config) : Prop :=
  ¬ IsDuration c.cacheTtl ∨ c.suggestionsFile = none ∧ ¬ IsDuration c.timeout

/-- The source is known unless the timeout, which only the network has, is malformed. -/
theorem source_cases (c : Config) :
    (c.suggestionsFile = none → IsDuration c.timeout) ∧ (∃ source, c.source = .ok source) ∨
      (c.suggestionsFile = none ∧ ¬ IsDuration c.timeout) ∧ ∃ e, c.source = .error e := by
  rw [Config.source, Config.readTimeout]
  cases c.suggestionsFile with
  | some path => exact .inl ⟨(nomatch ·), _, rfl⟩
  | none =>
      rcases readDuration_cases .timeout c.timeout with ⟨htimeout, d, hread⟩ | ⟨htimeout, e, hread⟩
      · rw [hread]
        exact .inl ⟨fun _ => htimeout, _, rfl⟩
      · rw [hread]
        exact .inr ⟨⟨rfl, htimeout⟩, e, rfl⟩

/-- The suggestions are fetched, a failure counting as none, unless a setting is malformed. -/
theorem fetch_cases (c : Config) :
    ¬ c.HasMalformedDuration ∧ (∃ source, c.source = .ok source ∧
        ∀ outcome, fetch c outcome = .ok (outcome source).suggestions) ∨
      c.HasMalformedDuration ∧ ∃ e, ∀ outcome, fetch c outcome = .error e := by
  unfold fetch cacheOf Config.readCacheTtl Config.HasMalformedDuration
  rcases source_cases c with ⟨htimeout, source, hsource⟩ | ⟨htimeout, e, hsource⟩
  · rw [hsource]
    rcases readDuration_cases .cacheTtl c.cacheTtl with ⟨httl, d, hread⟩ | ⟨httl, e, hread⟩
    · rw [hread]
      refine .inl ⟨?_, source, rfl, fun outcome => rfl⟩
      rintro (hbad | ⟨hfile, hbad⟩)
      · exact hbad httl
      · exact hbad (htimeout hfile)
    · rw [hread]
      exact .inr ⟨.inl httl, e, fun outcome => rfl⟩
  · rw [hsource]
    exact .inr ⟨.inr htimeout, e, fun outcome => rfl⟩

/-! ## Runs -/

/-- The run fetches suggestions: to list them, or to bind the tags of a formula from them. -/
def Config.NeedsSuggestions (c : Config) : Prop :=
  c.mode = .listing ∨ c.mode = .evaluation ∧ c.autoBind = true ∧ c.formula.getD [] ≠ []

/-- A setting that the run needs is malformed. -/
def Config.IsMalformed (c : Config) : Prop :=
  (∃ t ∈ c.tags, ¬ IsTagSetting t) ∨ c.NeedsSuggestions ∧ c.HasMalformedDuration

theorem completion_eq_none (hmode : c.mode = .evaluation ∨ c.mode = .listing) :
    c.completion = none := by
  cases hcompletion : c.completion with
  | none => rfl
  | some shell => simp [Config.mode, hcompletion] at hmode

/-- The run that a configuration without malformed bindings selects. -/
theorem run_of_mode (hmode : c.mode = .evaluation ∨ c.mode = .listing) {bindings}
    (hbindings : c.bindings = .ok bindings) :
    run c outcome colour =
      if c.mode = .listing then runListing c outcome colour
      else runEvaluation c bindings outcome colour := by
  rw [run, completion_eq_none hmode, hbindings]
  rcases hmode with h | h <;> rw [h] <;> rfl

theorem run_of_bindings_error (hmode : c.mode = .evaluation ∨ c.mode = .listing) {e}
    (hbindings : c.bindings = .error e) :
    run c outcome colour = { error := some (.config e) } := by
  rw [run, completion_eq_none hmode, hbindings]

/-- A malformed setting is all that a run tells, and it is told as an error. -/
theorem run_of_isMalformed (outcome : Source → FetchOutcome) (colour : Bool)
    (hmode : c.mode = .evaluation ∨ c.mode = .listing) (h : c.IsMalformed) :
    ∃ e, run c outcome colour = { error := some (.config e) } := by
  cases hbindings : c.bindings with
  | error e => exact ⟨e, run_of_bindings_error hmode hbindings⟩
  | ok bindings =>
      have htags : ∀ t ∈ c.tags, IsTagSetting t := exists_readTags_iff.1 ⟨bindings, hbindings⟩
      obtain ⟨hneeds, hduration⟩ := h.resolve_left fun ⟨t, ht, hbad⟩ => hbad (htags t ht)
      obtain ⟨e, hfetch⟩ := ((fetch_cases c).resolve_left fun hgood => hgood.1 hduration).2
      refine ⟨e, ?_⟩
      rw [run_of_mode hmode hbindings]
      rcases hneeds with hlisting | ⟨hevaluation, hauto, hformula⟩
      · rw [if_pos hlisting, runListing, hfetch]
      · rw [if_neg (by rw [hevaluation]; decide), runEvaluation, if_neg hformula,
          bindingSuggestions, if_pos hauto, hfetch]

/-- A run depends on how the fetch ends only through the suggestions it is given. -/
theorem run_congr (hmode : c.mode = .evaluation ∨ c.mode = .listing)
    (hfetch : fetch c outcome = fetch c outcome') : run c outcome colour = run c outcome' colour := by
  cases hbindings : c.bindings with
  | error e => rw [run_of_bindings_error hmode hbindings, run_of_bindings_error hmode hbindings]
  | ok bindings =>
      rw [run_of_mode hmode hbindings, run_of_mode hmode hbindings, runListing, runListing,
        runEvaluation, runEvaluation, bindingSuggestions, bindingSuggestions, hfetch]

/-- A fetch that fails yields what a fetch of no suggestions yields. -/
theorem fetch_of_failed (h : ∀ source, c.source = .ok source → ∃ e, outcome source = .error e) :
    fetch c outcome = fetch c fun _ => .ok [] := by
  rcases fetch_cases c with ⟨-, source, hsource, hfetch⟩ | ⟨-, e, hfetch⟩
  · obtain ⟨e, hfailed⟩ := h source hsource
    rw [hfetch, hfetch, hfailed]
    rfl
  · rw [hfetch, hfetch]

theorem exists_bindings (h : ¬ c.IsMalformed) : ∃ bindings, c.bindings = .ok bindings :=
  exists_readTags_iff.2 fun t ht => not_not.1 fun hbad => h (.inl ⟨t, ht, hbad⟩)

theorem exists_fetch (h : ¬ c.IsMalformed) (hneeds : c.NeedsSuggestions)
    (outcome : Source → FetchOutcome) : ∃ suggestions, fetch c outcome = .ok suggestions := by
  obtain ⟨-, source, -, hfetch⟩ :=
    (fetch_cases c).resolve_right fun hbad => h (.inr ⟨hneeds, hbad.1⟩)
  exact ⟨_, hfetch outcome⟩

/-- There are suggestions to bind tags from, none unless that is wanted. -/
theorem exists_bindingSuggestions (h : ¬ c.IsMalformed) (hmode : c.mode = .evaluation)
    (hne : c.formula.getD [] ≠ []) (outcome : Source → FetchOutcome) :
    ∃ suggestions, bindingSuggestions c outcome = .ok suggestions := by
  rw [bindingSuggestions]
  split
  case isTrue hauto => exact exists_fetch h (.inr ⟨hmode, hauto, hne⟩) outcome
  case isFalse => exact ⟨[], rfl⟩

/-! ## Results -/

/-- A run tells one result: its report ends with it and has no other, and the exit code says whether
it is a value. -/
structure TellsResult (r : RunResult) (o : Report.Options)
    (result : Except EvaluationError Float) : Prop where
  exists_output_eq : ∃ before, r.output = Text.lines (before ++ [Report.resultLine o result]) ∧
    ∀ line ∈ before, o.quiet = false ∧ ¬ "Result: ".toList <+: line
  exitCode_eq_two_iff : r.exitCode = 2 ↔ ∃ e, result = .error e
  exitCode_eq_zero_iff : r.exitCode = 0 ↔ ∃ x, result = .ok x

theorem tellsResult_runEvaluation {bindings : List (Text × Text)} {suggestions : List Suggestion}
    (hformula : c.formula = some formula) (hne : formula ≠ [])
    (hfetch : bindingSuggestions c outcome = .ok suggestions) :
    TellsResult (runEvaluation c bindings outcome colour) ⟨c.verbose, c.quiet, colour⟩
      (Evaluation.evaluate formula (.ofList (shownBindings formula bindings suggestions))) := by
  rw [runEvaluation_eq hformula hne hfetch]
  generalize Evaluation.evaluate formula
    (.ofList (shownBindings formula bindings suggestions)) = result
  constructor
  case exists_output_eq => exact Report.exists_present_eq _ _ _ _
  case exitCode_eq_two_iff =>
    cases result <;> simp [RunResult.exitCode, RunError.exitCode]
  case exitCode_eq_zero_iff =>
    cases result <;> simp [RunResult.exitCode, RunError.exitCode]

theorem TellsResult.exitCode_ne_four {r : RunResult} {o : Report.Options}
    {result : Except EvaluationError Float} (h : TellsResult r o result) : r.exitCode ≠ 4 := by
  cases result with
  | ok x => rw [h.exitCode_eq_zero_iff.2 ⟨x, rfl⟩]; decide
  | error e => rw [h.exitCode_eq_two_iff.2 ⟨e, rfl⟩]; decide

/-- Without malformed settings no run ends with their exit code. -/
theorem exitCode_ne_four (hmode : c.mode = .evaluation ∨ c.mode = .listing)
    (h : ¬ c.IsMalformed) : (run c outcome colour).exitCode ≠ 4 := by
  obtain ⟨bindings, hbindings⟩ := exists_bindings h
  rw [run_of_mode hmode hbindings]
  split
  case isTrue hlisting =>
    obtain ⟨suggestions, hfetch⟩ := exists_fetch h (.inl hlisting) outcome
    rw [runListing, hfetch]
    exact Nat.zero_ne_add_one 3
  case isFalse hlisting =>
    have hevaluation := hmode.resolve_right hlisting
    by_cases hne : c.formula.getD [] = []
    · rw [runEvaluation, if_pos hne]
      decide
    · obtain ⟨suggestions, hfetch⟩ := exists_bindingSuggestions h hevaluation hne outcome
      cases hformula : c.formula with
      | none => exact absurd (by rw [hformula]; rfl) hne
      | some formula =>
          rw [hformula] at hne
          exact (tellsResult_runEvaluation hformula hne hfetch).exitCode_ne_four

/-! ## Main statement -/

/-- How a run ends, whatever the fetch of suggestions yields. -/
structure EndsAsSettled (c : Config) (outcome : Source → FetchOutcome) (colour : Bool) : Prop where
  /-- A malformed setting that the run needs gives it its exit code, and nothing else does. -/
  exitCode_eq_four_iff : (run c outcome colour).exitCode = 4 ↔ c.IsMalformed
  output_eq_nil : c.IsMalformed → (run c outcome colour).output = []
  /-- Else the result of the formula is told, with the bindings that are given and those that are
  added to them. -/
  evaluated : ∀ formula, c.mode = .evaluation → c.formula = some formula → formula ≠ [] →
    ¬ c.IsMalformed → ∃ bindings suggestions, c.bindings = .ok bindings ∧
      bindingSuggestions c outcome = .ok suggestions ∧
      TellsResult (run c outcome colour) ⟨c.verbose, c.quiet, colour⟩
        (Evaluation.evaluate formula (.ofList (shownBindings formula bindings suggestions)))
  /-- A fetch that fails makes no difference to one that yields no suggestions. -/
  failed : (∀ source, c.source = .ok source → ∃ e, outcome source = .error e) →
    run c outcome colour = run c (fun _ => .ok []) colour

/-- **Malformed settings leave no partial output**: a run that evaluates or lists reads all settings
that it needs before it prints, and a formula that it evaluates then has one result. -/
theorem endsAsSettled_of_mode (hmode : c.mode = .evaluation ∨ c.mode = .listing) :
    EndsAsSettled c outcome colour := by
  constructor
  case exitCode_eq_four_iff =>
    constructor
    · intro hexit
      by_contra hgood
      exact exitCode_ne_four hmode hgood hexit
    · intro hbad
      obtain ⟨e, hrun⟩ := run_of_isMalformed outcome colour hmode hbad
      rw [hrun]
      rfl
  case output_eq_nil =>
    intro hbad
    obtain ⟨e, hrun⟩ := run_of_isMalformed outcome colour hmode hbad
    rw [hrun]
  case evaluated =>
    intro formula hevaluation hformula hne hgood
    obtain ⟨bindings, hbindings⟩ := exists_bindings hgood
    have hsome : c.formula.getD [] ≠ [] := by rwa [hformula]
    obtain ⟨suggestions, hfetch⟩ := exists_bindingSuggestions hgood hevaluation hsome outcome
    refine ⟨bindings, suggestions, hbindings, hfetch, ?_⟩
    rw [run_evaluation hevaluation hbindings]
    exact tellsResult_runEvaluation hformula hne hfetch
  case failed => exact fun hfailed => run_congr hmode (fetch_of_failed hfailed)

/-- A line with a duration that says nothing, which only an evaluation that binds tags reads. -/
def endlessCache : Config :=
  { formula := some "ab*2".toList
    tags := ["ab=3".toList]
    cacheTtl := "never".toList }

theorem not_isDuration_never : ¬ IsDuration "never".toList := by
  intro h
  have hread : Duration.read? "never".toList = none := by decide
  obtain ⟨d, hd⟩ := Duration.exists_read?_iff.2 h
  cases hread.symm.trans hd

theorem not_isMalformed_endlessCache : ¬ endlessCache.IsMalformed := by
  rintro (⟨t, ht, hbad⟩ | ⟨hmode | ⟨-, hauto, -⟩, -⟩)
  · rw [List.mem_singleton.1 ht] at hbad
    exact hbad (exists_readTag_iff.1 ⟨_, rfl⟩)
  · exact absurd hmode (by decide)
  · exact absurd hauto (by decide)

theorem isMalformed_endlessCache_autoBind : { endlessCache with autoBind := true }.IsMalformed :=
  .inr ⟨.inr ⟨rfl, rfl, by decide⟩, .inl not_isDuration_never⟩

/-- The network fails throughout: the first line has its result all the same, the second writes
nothing. -/
theorem endsAsSettled_endlessCache :
    readArguments ["-f".toList, "ab*2".toList, "-t".toList, "ab=3".toList, "--cache-ttl".toList,
      "never".toList] = .ok endlessCache ∧
    (endlessCache.mode = .evaluation ∨ endlessCache.mode = .listing) ∧
    ¬ endlessCache.IsMalformed ∧
    EndsAsSettled endlessCache (fun _ => .error .network) false ∧
    (run endlessCache (fun _ => .error .network) false).output =
      Text.lines ["Formula: ab*2".toList, "Tags: ab = 3".toList, "Result: $6.00".toList] ∧
    (run endlessCache (fun _ => .error .network) false).exitCode = 0 ∧
    { endlessCache with autoBind := true }.IsMalformed ∧
    EndsAsSettled { endlessCache with autoBind := true } (fun _ => .error .network) false ∧
    (run { endlessCache with autoBind := true } (fun _ => .error .network) false).output = [] ∧
    (run { endlessCache with autoBind := true } (fun _ => .error .network) false).exitCode = 4 :=
  ⟨rfl, .inl rfl, not_isMalformed_endlessCache, endsAsSettled_of_mode (.inl rfl),
    by decide +kernel, by decide +kernel, isMalformed_endlessCache_autoBind,
    endsAsSettled_of_mode (.inl rfl), rfl, rfl⟩

end CommandLine
end FormulaPad
