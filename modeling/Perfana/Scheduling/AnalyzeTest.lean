import Perfana.Scheduling.SequentialPipeline

/-!
# The analysis of a test run

An analysis runs the sequential pipeline, which it tells to stop where a stage fails, and then
checks the data for sanity, whatever has become of the stages. In the end it says how it went: to
the reporter, and to the queue, which tries an analysis again that throws.

* `analysis_reported`: whatever the stages, the mutex and Redis do, the percentages that an
  analysis publishes never fall, and the record that says that it is over is the last one, and says
  how it went;
* `retried_iff`: an analysis is tried again exactly if a pipeline has said that it may be; one that
  is refused the mutex is not, although it is recorded as one that may be.
-/

namespace Perfana.SequentialPipeline

/-- What the sanity check says of the data. -/
structure DataSanity where
  valid : Option Bool := none
  reasons : List String := []
deriving DecidableEq

inductive AnalysisStatus
  | success
  | partially
deriving DecidableEq

/-- What becomes of the job. -/
inductive AnalysisOutcome
  | resolved (status : AnalysisStatus) (message : String) (stages : ℕ)
    (dataSanity : Option DataSanity) (pipeline : SequentialResult)
  /-- The queue tries it again. -/
  | thrown (message : String)
deriving DecidableEq

def analysisStages (adapt : Bool) : List String :=
  ["dynatrace-collection", "panels-processing", "performance-test-metrics",
    "transaction-stats-rollup", "metrics-collection", "statistics-calculation", "checks-evaluation",
    "control-groups-creation", "control-group-statistics"] ++
    if adapt then ["adapt-analysis"] else []

/-- What is shown of it. -/
def reportedStages (adapt : Bool) : List String := analysisStages adapt ++ ["data-sanity-check"]

def analysisConfig (adapt : Bool) : SequentialConfig where
  stages := analysisStages adapt
  errorHandling := .abort
  heavyStageMutex := true
  finalizeProgress := false
  progressReporter := true

/-- What a pipeline reports of its stages, if it does. -/
def SequentialResult.stageResults : SequentialResult → List StageResult
  | .finished _ stages _ _ _ => stages
  | .failed _ _ => []

def PipelineResult.isRetryable (result : PipelineResult) : Bool :=
  result.error.any fun error => error.code = "RETRYABLE"

/-- The check of the data is reported as a stage, which may throw. -/
def sanityActions (sanity : Except Thrown DataSanity) : List PipelineAction :=
  .report (.startStage "data-sanity-check") ::
    match sanity with
    | .ok _ => [.report .completeStage]
    | .error _ => []

def analyzeTest (testRunId : String) (adapt : Bool) (gaps : Bool × List String)
    (answers : ℕ → StageAnswers) (sanity : Except Thrown DataSanity) :
    List PipelineAction × AnalysisOutcome :=
  let run := executeSequentialPipeline (analysisConfig adapt) gaps answers
  let ended := fun call : ReporterCall =>
    run.1 ++ (sanityActions sanity ++ [.report call, .report .cleanup])
  match run.2.stageResults.find? fun r => r.result.isRetryable with
  | some retryable =>
    let reason := (retryable.result.error.map PipelineError.message).getD "unknown"
    let message := s!"Retryable stage failure for {testRunId}: {reason}"
    (ended (.fail message), .thrown message)
  | none =>
    let stages := (reportedStages adapt).length
    if run.2.success then
      (ended .complete, .resolved .success
        s!"Analysis completed for test run {testRunId}" stages sanity.toOption run.2)
    else
      (ended (.fail s!"Analysis completed with failures for {testRunId}"), .resolved .partially
        s!"Analysis completed with some failures for test run {testRunId}" stages sanity.toOption
          run.2)

def AnalysisOutcome.isSuccess : AnalysisOutcome → Bool
  | .resolved status _ _ _ _ => status = .success
  | .thrown _ => false

section

variable {testRunId : String} {adapt : Bool} {gaps : Bool × List String}
  {answers : ℕ → StageAnswers} {sanity : Except Thrown DataSanity}

/-- The check of the data is reported as a stage. -/
theorem exists_checked (sanity : Except Thrown DataSanity) : ∃ checked,
    (sanityActions sanity).filterMap PipelineAction.report? =
      .startStage "data-sanity-check" :: checked ∧
    ∀ k ∈ checked, ReporterCall.isQuiet k = true := by
  cases sanity with
  | ok data => exact ⟨[.completeStage], rfl, fun k hk => by rw [List.mem_singleton.1 hk]; rfl⟩
  | error thrown => exact ⟨[], rfl, List.forall_mem_nil _⟩

/-- What an analysis reports at the end. -/
theorem exists_last_call : ∃ checked call,
    (analyzeTest testRunId adapt gaps answers sanity).1.filterMap PipelineAction.report? =
      (executeSequentialPipeline (analysisConfig adapt) gaps answers).1.filterMap
        PipelineAction.report? ++ (.startStage "data-sanity-check" :: (checked ++ [call, .cleanup])) ∧
    (∀ k ∈ checked, ReporterCall.isQuiet k = true) ∧
    (if (analyzeTest testRunId adapt gaps answers sanity).2.isSuccess then call = .complete
      else ∃ error, call = .fail error) := by
  obtain ⟨checked, hchecked, hquiet⟩ := exists_checked sanity
  have hreported : ∀ (actions : List PipelineAction) (call : ReporterCall),
      (actions ++ (sanityActions sanity ++
        [PipelineAction.report call, .report .cleanup])).filterMap PipelineAction.report? =
      actions.filterMap PipelineAction.report? ++
        (.startStage "data-sanity-check" :: (checked ++ [call, .cleanup])) := by
    intro actions call
    rw [List.filterMap_append, List.filterMap_append, hchecked]
    rfl
  rw [analyzeTest]
  dsimp only
  split
  · exact ⟨checked, _, hreported _ _, hquiet, _, rfl⟩
  · split
    · exact ⟨checked, _, hreported _ _, hquiet, rfl⟩
    · exact ⟨checked, _, hreported _ _, hquiet, _, rfl⟩

/-- The pipeline reports nothing of its own at the end. -/
theorem report_pipeline :
    (executeSequentialPipeline (analysisConfig adapt) gaps answers).1.filterMap
        PipelineAction.report? =
      ((pipelineStagesReached (analysisConfig adapt) gaps answers).flatMap
        (actionsOf (analysisConfig adapt) answers)).filterMap PipelineAction.report? := by
  obtain ⟨before, after, hactions, hbefore, hafter⟩ :=
    @exists_actions (analysisConfig adapt) gaps answers
  have hbefore : before.filterMap PipelineAction.report? = [] := by
    rw [List.filterMap_eq_nil_iff]
    intro a ha
    rcases hbefore a ha with rfl | rfl <;> rfl
  have hafter : after.filterMap PipelineAction.report? = [] := by
    rw [List.filterMap_eq_nil_iff]
    intro a ha
    rcases hafter a ha with ⟨annotations, rfl⟩ | ⟨hfinalize, -⟩
    · rfl
    · cases hfinalize
  rw [hactions, List.filterMap_append, List.filterMap_append, hbefore, hafter, List.append_nil,
    List.nil_append]

theorem idxOf?_of_getElem? {stages : List String} (hnodup : stages.Nodup) {stageName : String}
    {i : ℕ} (h : stages[i]? = some stageName) : stages.idxOf? stageName = some i := by
  obtain ⟨hlt, hget⟩ := List.getElem?_eq_some_iff.1 h
  rw [List.idxOf?_eq_some_iff]
  refine ⟨hlt, hget, fun j hj hsame => ?_⟩
  have := (hnodup.getElem_inj_iff).1 (hsame.trans hget.symm)
  omega

/-- The stages that an analysis comes to, in their places. -/
theorem places_of_reached :
    let reached := pipelineStagesReached (analysisConfig adapt) gaps answers
    (∀ x ∈ reached, (analysisStages adapt)[x.2]? = some x.1) ∧
      reached.Pairwise fun x y => x.2 < y.2 := by
  intro reached
  have hsublist : reached.Sublist (analysisStages adapt).zipIdx :=
    (stagesReached_sublist _).trans List.filter_sublist
  constructor
  · exact fun x hx => List.mem_zipIdx_iff_getElem?.1 (hsublist.subset hx)
  · refine List.Pairwise.sublist hsublist (List.Pairwise.of_map Prod.snd (fun _ _ => id) ?_)
    rw [List.zipIdx_map_snd]
    exact List.pairwise_lt_range'

/-- What an analysis reports may be reported. -/
theorem allowsAll_analysis : ReportedPhase.AllowsAll (reportedStages adapt) {}
    ((analyzeTest testRunId adapt gaps answers sanity).1.filterMap PipelineAction.report?) := by
  obtain ⟨checked, call, hcalls, hquiet, hlast⟩ :=
    @exists_last_call testRunId adapt gaps answers sanity
  obtain ⟨hplaces, hordered⟩ := @places_of_reached adapt gaps answers
  have hnodup : (reportedStages adapt).Nodup := by cases adapt <;> decide
  have hlt : ∀ x ∈ pipelineStagesReached (analysisConfig adapt) gaps answers,
      x.2 < (analysisStages adapt).length :=
    fun x hx => (List.getElem?_eq_some_iff.1 (hplaces x hx)).1
  obtain ⟨hall, hgoing, hindex⟩ := @allowsAll_stages (analysisConfig adapt) answers rfl
    (reportedStages adapt) _ {} rfl
    (fun x hx => idxOf?_of_getElem? hnodup
      ((List.getElem?_append_left (hlt x hx)).trans (hplaces x hx)))
    (fun x _ => Nat.zero_le x.2) hordered _ hlt (Nat.zero_le _)
  -- The check of the data is the last stage.
  have hsanity : (reportedStages adapt).idxOf? "data-sanity-check" =
      some (analysisStages adapt).length := by cases adapt <;> decide
  rw [hcalls, report_pipeline, ReportedPhase.allowsAll_append]
  generalize ((pipelineStagesReached (analysisConfig adapt) gaps answers).flatMap
    (actionsOf (analysisConfig adapt) answers)).filterMap PipelineAction.report? = ks at *
  generalize ks.foldl (ReportedPhase.after (reportedStages adapt)) {} = phase at *
  have hstarted : (phase.after (reportedStages adapt) (.startStage "data-sanity-check")).index =
      (analysisStages adapt).length + 1 ∧
      (phase.after (reportedStages adapt)
        (.startStage "data-sanity-check")).status.isTerminal = false := by
    rw [ReportedPhase.after, hsanity]
    refine ⟨rfl, ?_⟩
    dsimp only
    split
    · rfl
    · exact hgoing
  refine ⟨hall, ⟨hgoing, fun i hi => ?_⟩, ?_⟩
  · rw [hsanity] at hi
    cases hi
    exact hindex
  · obtain ⟨hchecked, hcheckedIndex, hcheckedGoing⟩ :=
      @allowsAll_of_quiet (reportedStages adapt) _ _
        (hstarted.1 ▸ Nat.succ_pos _) hstarted.2 hquiet
    rw [ReportedPhase.allowsAll_append]
    refine ⟨hchecked, ?_⟩
    have hallowed : ∀ call : ReporterCall, (call = .complete ∨ ∃ error, call = .fail error) →
        ∀ phase : ReportedPhase, phase.status.isTerminal = false → 0 < phase.index →
          ReportedPhase.AllowsAll (reportedStages adapt) phase [call, .cleanup] := by
      rintro call (rfl | ⟨error, rfl⟩) phase hgoing hstarted
      · exact ⟨⟨hgoing, hstarted⟩, rfl, trivial⟩
      · exact ⟨⟨hgoing, hstarted⟩, rfl, trivial⟩
    refine hallowed call ?_ _ hcheckedGoing (hcheckedIndex ▸ hstarted.1 ▸ Nat.succ_pos _)
    split at hlast
    · exact .inl hlast
    · exact .inr hlast

/-- In every run in which an analysis makes its calls in turn, as far as it has come, while time
    passes, the timer fires and Redis executes or loses commands: the published percentages never
    fall; when the job is over the last publication says so, and no earlier one; and when all calls
    are made the job is over, and completed exactly if the analysis is a success. -/
theorem analysis_reported {job : ReportedJob} (hjob : job.stages = reportedStages adapt)
    {redis : ExpiringStore String PublishedProgress} {es : List ProgressStep}
    {st : ProgressTracking}
    (h : Run ProgressTracking.step (fun _ _ => True) (.create job redis) es st)
    (hcalls : es.filterMap ProgressStep.call? <+:
      (analyzeTest testRunId adapt gaps answers sanity).1.filterMap PipelineAction.report?) :
    st.publications.Pairwise (fun p q => p.overallProgress ≤ q.overallProgress) ∧
      (∀ p ∈ st.publications, 0 ≤ p.overallProgress ∧ p.overallProgress ≤ 100) ∧
      (st.reporter.status.isTerminal = true → st.reporter.debounceTimer = none ∧
        ∃ before, st.publications = before ++ [st.reporter.buildProgressObject] ∧
          ∀ p ∈ before, p.status.isTerminal = false) ∧
      (es.filterMap ProgressStep.call? =
          (analyzeTest testRunId adapt gaps answers sanity).1.filterMap PipelineAction.report? →
        st.reporter.status =
          if (analyzeTest testRunId adapt gaps answers sanity).2.isSuccess then .completed
          else .failed) := by
  have hrun := ProgressTracking.run_of_calls h hcalls (hjob ▸ allowsAll_analysis)
  have hascended := ProgressTracking.ascended_of_run (hrun.mono fun _ _ hok => hok.2)
  have hinv := ProgressTracking.inv_of_run (hrun.mono fun _ _ hok => hok.1)
  refine ⟨hascended.ordered, fun p hp => ⟨(hascended.bounded p hp).1, ?_⟩, hinv.ended,
    fun hall => ?_⟩
  · exact (hascended.bounded p hp).2.trans (calculateOverallProgress_le _ _ _)
  · obtain ⟨checked, call, hlist, -, hlast⟩ :=
      @exists_last_call testRunId adapt gaps answers sanity
    obtain ⟨hphase, -⟩ := ProgressTracking.phase_of_run h
    have hstatus : st.reporter.status = st.reporter.phase.status := rfl
    rw [hstatus, hphase, hall, hlist, List.foldl_append, List.foldl_cons, List.foldl_append]
    split at hlast
    · rename_i hsuccess
      rw [hlast, if_pos hsuccess]
      rfl
    · rename_i hfailure
      obtain ⟨error, rfl⟩ := hlast
      rw [if_neg hfailure]
      rfl

/-- An analysis of which the metrics have been collected, and whose last stage fails. -/
def lastStageFails (i : ℕ) : StageAnswers where
  execution := if i = 8 then .error { message := "statement timeout" } else .ok { success := true }

/-- What it calls its reporter for. -/
def callsOfLastStageFails : List ReporterCall :=
  (analyzeTest "run-1" false (true, []) lastStageFails (.ok {})).1.filterMap PipelineAction.report?

def analysisJob : ReportedJob :=
  { ProgressTracking.jobOfTwo with stages := reportedStages false }

theorem analysis_reported_lastStageFails : ∃ st,
    Run ProgressTracking.step (fun _ _ => True) (.create analysisJob {})
      (callsOfLastStageFails.map .call) st ∧ st.reporter.status = .failed := by
  obtain ⟨st, hrun, -⟩ := @Run.exists_of_checked _ _ ProgressTracking.step (fun _ _ => True)
    (.create analysisJob {}) _ (callsOfLastStageFails.map .call) (fun _ => true) (by decide +kernel)
  have hcalls : (callsOfLastStageFails.map ProgressStep.call).filterMap ProgressStep.call? =
      callsOfLastStageFails := by
    rw [List.filterMap_map]
    exact List.filterMap_some
  have hreported := @analysis_reported "run-1" false (true, []) lastStageFails (.ok {}) _ rfl _ _ _ hrun
    (by rw [hcalls]; exact List.prefix_refl _)
  exact ⟨st, hrun, hreported.2.2.2 hcalls⟩

/-! ## What is tried again -/

/-- What the pipeline reports of the stages that it has come to, unless a stage throws. -/
theorem stageResults_eq (config : SequentialConfig) :
    (executeSequentialPipeline config gaps answers).2.stageResults =
      match (pipelineStagesReached config gaps answers).findSome? (thrownBy config answers) with
      | some _ => []
      | none => (pipelineStagesReached config gaps answers).flatMap fun x =>
          (afterOf config answers x).1 := by
  rw [executeSequentialPipeline]
  dsimp only
  rw [runStages_eq, pipelineStagesReached, pipelineStagesToRun]
  dsimp only
  generalize stagesReached config answers _ = reached
  cases reached.findSome? (thrownBy config answers) with
  | none => rfl
  | some thrown => rfl

/-- A stage that throws is one that is refused the mutex. -/
theorem retryable_of_error {config : SequentialConfig} {x : String × ℕ} {thrown : Thrown}
    (h : outcomeOf config answers x = .error thrown) : thrown.retryable = true := by
  rw [outcomeOf, runStage] at h
  dsimp only at h
  split at h
  · split at h
    · split at h
      · cases h
        rfl
      · cases h
    · cases h
  · cases h

/-- Where the pipeline stops at a stage that fails, a stage that throws ends it with its error, and
    another is reported. -/
theorem afterOf_abort {config : SequentialConfig} (hmode : config.errorHandling = .abort)
    (x : String × ℕ) :
    (∃ thrown, outcomeOf config answers x = .error thrown ∧
      thrownBy config answers x = some thrown) ∨
    ∃ result, outcomeOf config answers x = .ok result ∧ thrownBy config answers x = none ∧
      (afterOf config answers x).1 = [⟨x.1, result⟩] := by
  rw [thrownBy, afterOf, hmode]
  cases outcomeOf config answers x with
  | error thrown => exact .inl ⟨thrown, rfl, rfl⟩
  | ok result =>
    refine .inr ⟨result, rfl, ?_⟩
    simp only [afterStage]
    cases result.success with
    | true => exact ⟨rfl, rfl⟩
    | false => exact ⟨rfl, rfl⟩

/-- An analysis is tried again exactly if its stages have all got the mutex where they need it, and
    a pipeline says that it may be. One that is refused the mutex ends as a partial analysis,
    although what is thrown then says that it may be tried again. -/
theorem retried_iff (testRunId : String) (adapt : Bool) (gaps : Bool × List String)
    (answers : ℕ → StageAnswers) (sanity : Except Thrown DataSanity) :
    let config := analysisConfig adapt
    let reached := pipelineStagesReached config gaps answers
    let outcome := (analyzeTest testRunId adapt gaps answers sanity).2
    ((∃ message, outcome = .thrown message) ↔
      (∀ x ∈ reached, ∃ result, outcomeOf config answers x = .ok result) ∧
        ∃ x ∈ reached, ∃ result, outcomeOf config answers x = .ok result ∧
          result.isRetryable = true) ∧
    ∀ x ∈ reached, ∀ thrown, outcomeOf config answers x = .error thrown →
      thrown.retryable = true ∧
        ∃ message stages data pipeline, outcome = .resolved .partially message stages data pipeline := by
  intro config reached outcome
  have hmode : config.errorHandling = .abort := rfl
  have hresults := @stageResults_eq gaps answers config
  cases hthrown : reached.findSome? (thrownBy config answers) with
  | some thrown =>
    -- A stage is refused the mutex: the error of the pipeline has no stages.
    obtain ⟨x, hx, hthrownBy⟩ := List.exists_of_findSome?_eq_some hthrown
    have hfailed : (executeSequentialPipeline config gaps answers).2.success = false := by
      rw [← Bool.not_eq_true, success_iff]
      intro hall
      have hsucceeds := hall x ((stagesReached_sublist _).subset hx)
      rw [fails_of_thrownBy hthrownBy] at hsucceeds
      cases hsucceeds
    have hnil : (executeSequentialPipeline config gaps answers).2.stageResults = [] := by
      rw [hresults, hthrown]
    have houtcome : ∃ message stages data pipeline,
        outcome = .resolved .partially message stages data pipeline := by
      change ∃ message stages data pipeline,
        (analyzeTest testRunId adapt gaps answers sanity).2 = _
      rw [analyzeTest]
      dsimp only
      rw [hnil, List.find?_nil]
      dsimp only
      rw [hfailed, if_neg Bool.false_ne_true]
      exact ⟨_, _, _, _, rfl⟩
    refine ⟨⟨?_, ?_⟩, fun y hy thrown herror => ⟨retryable_of_error herror, houtcome⟩⟩
    · rintro ⟨message, hmessage⟩
      obtain ⟨_, _, _, _, hresolved⟩ := houtcome
      rw [hmessage] at hresolved
      cases hresolved
    · rintro ⟨hall, -⟩
      rcases @afterOf_abort answers _ hmode x with ⟨_, herror, -⟩ | ⟨_, -, hnone, -⟩
      · obtain ⟨result, hresult⟩ := hall x hx
        rw [herror] at hresult
        cases hresult
      · rw [hthrownBy] at hnone
        cases hnone
  | none =>
    have hok : ∀ x ∈ reached, ∃ result, outcomeOf config answers x = .ok result ∧
        (afterOf config answers x).1 = [⟨x.1, result⟩] := by
      intro x hx
      rcases @afterOf_abort answers _ hmode x with ⟨thrown, -, hsome⟩ | ⟨result, h⟩
      · rw [List.findSome?_eq_none_iff.1 hthrown x hx] at hsome
        cases hsome
      · exact ⟨result, h.1, h.2.2⟩
    have hmem : ∀ r, r ∈ (executeSequentialPipeline config gaps answers).2.stageResults ↔
        ∃ x ∈ reached, ∃ result, outcomeOf config answers x = .ok result ∧ r = ⟨x.1, result⟩ := by
      intro r
      rw [hresults, hthrown, List.mem_flatMap]
      refine exists_congr fun x => and_congr_right fun hx => ?_
      obtain ⟨result, hresult, hafter⟩ := hok x hx
      rw [hafter, List.mem_singleton, hresult]
      constructor
      · exact fun h => ⟨result, rfl, h⟩
      · rintro ⟨_, hsame, rfl⟩
        cases hsame
        rfl
    refine ⟨?_, fun x hx thrown herror => ?_⟩
    · have hthrows : (∃ message, outcome = .thrown message) ↔
          ∃ r ∈ (executeSequentialPipeline config gaps answers).2.stageResults,
            r.result.isRetryable = true := by
        change (∃ message, (analyzeTest testRunId adapt gaps answers sanity).2 = _) ↔ _
        rw [analyzeTest, ← List.find?_isSome]
        dsimp only
        change _ ↔ ((executeSequentialPipeline (analysisConfig adapt) gaps
          answers).2.stageResults.find? _).isSome = true
        cases (executeSequentialPipeline (analysisConfig adapt) gaps
          answers).2.stageResults.find? fun r => r.result.isRetryable with
        | some retryable => exact ⟨fun _ => rfl, fun _ => ⟨_, rfl⟩⟩
        | none =>
          refine ⟨?_, fun h => (by cases h)⟩
          rintro ⟨message, hmessage⟩
          dsimp only at hmessage
          split at hmessage <;> cases hmessage
      rw [hthrows, and_iff_right fun x hx => (hok x hx).imp fun _ h => h.1]
      constructor
      · rintro ⟨r, hr, hretryable⟩
        obtain ⟨x, hx, result, hresult, rfl⟩ := (hmem r).1 hr
        exact ⟨x, hx, result, hresult, hretryable⟩
      · rintro ⟨x, hx, result, hresult, hretryable⟩
        exact ⟨_, (hmem _).2 ⟨x, hx, result, hresult, rfl⟩, hretryable⟩
    · obtain ⟨result, hresult, -⟩ := hok x hx
      rw [herror] at hresult
      cases hresult

end

end Perfana.SequentialPipeline
