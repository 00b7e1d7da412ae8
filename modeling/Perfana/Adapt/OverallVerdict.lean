import Perfana.Adapt.Pipeline
import Perfana.Checks.Verdict
import Perfana.Lib.Run

/-!
# The overall verdict of a run

The overall verdict of a run is to combine what the latest evaluation of its checks
found with what the latest analysis did, or the former alone where the differences
were accepted. Both write the consolidated result of the run: the checks replace it,
and the analysis merges its outcome into it. So a verdict of the checks forgets the
outcome of the analysis; and an analysis that fails records that, but leaves the
overall verdict as it was.

* `inv_checks`, `inv_adapt`: what one step of either leaves;
* `run_combined`: along the runs in which the checks find no verdict after an outcome,
  and no analysis fails that would have to change the overall verdict, the verdicts
  are combined.
-/

namespace Perfana

open Table

/-- Whether ADAPT found no regression in a run, as far as that is known. -/
def TestRun.adaptTestRunOK (run : TestRun) : Option Bool :=
  run.consolidatedResult.bind ConsolidatedResult.adaptTestRunOK

/-- The overall verdict of a run, as far as it is known. -/
def TestRun.overall (run : TestRun) : Option Bool :=
  run.consolidatedResult.bind ConsolidatedResult.overall

/-! ## The checks -/

namespace ChecksStage

variable (stage : ChecksStage) (state : CheckedRun)

/-- The stage goes through, and finds a verdict. -/
def Judges : Prop := (runCheckPipeline stage state).2 = true ∧ stage.RewritesVerdict state

instance : Decidable (stage.Judges state) := inferInstanceAs (Decidable (_ ∧ _))

/-- The verdict that the stage finds, if it finds one. -/
def verdict : Option Bool :=
  if stage.Judges state then
    some (if hasBenchmarkFailure stage.outcomes then false
      else allMeetRequirements (runCheckPipeline stage state).1.checkResults)
  else none

end ChecksStage

section Checks

variable {stage : ChecksStage} {state : CheckedRun}

/-- A stage that does not go through leaves the consolidated result alone. -/
theorem runCheckPipeline_not_committed (h : (runCheckPipeline stage state).2 = false) :
    (runCheckPipeline stage state).1.run.consolidatedResult = state.run.consolidatedResult := by
  obtain ⟨metricFilter, started, found, benchmarks, committed⟩ := stage
  cases started
  · rfl
  cases found
  · rfl
  match benchmarks with
  | .error .benchmarkNotFound | .ok [] | .error (.failed _) => cases committed <;> rfl
  | .ok (o :: os) =>
    cases committed
    · rfl
    · cases h

/-- The stage leaves the configuration of the analysis alone. -/
theorem runCheckPipeline_adaptConfig :
    (runCheckPipeline stage state).1.run.adaptConfig = state.run.adaptConfig := by
  obtain ⟨metricFilter, started, found, benchmarks, committed⟩ := stage
  cases started
  · rfl
  cases found
  · rfl
  match benchmarks with
  | .error .benchmarkNotFound | .ok [] | .error (.failed _) => cases committed <;> rfl
  | .ok (o :: os) => cases committed <;> rfl

/-- A verdict that the stage finds replaces the consolidated result. -/
theorem consolidatedResult_of_verdict {m : Bool} (h : stage.verdict state = some m) :
    ∃ error, (runCheckPipeline stage state).1.run.consolidatedResult =
      some { meetsRequirement := some m, overall := some m, error } := by
  rw [ChecksStage.verdict] at h
  split at h
  · rename_i hjudges
    obtain rfl := Option.some.inj h
    obtain ⟨hresults, hconsolidated⟩ := runCheckPipeline_committed hjudges.1
    rw [hresults, hconsolidated]
    rcases hjudges.2 with hfailure | ⟨hsome, hleft⟩
    · have hsome : stage.outcomes ≠ [] := by
        rintro hnone
        rw [hnone] at hfailure
        cases hfailure
      rw [if_neg hsome, updateConsolidatedResult, if_pos hfailure, if_pos hfailure]
      exact ⟨_, rfl⟩
    · rw [if_neg hsome, updateConsolidatedResult]
      cases hfailure : hasBenchmarkFailure stage.outcomes with
      | true => exact ⟨_, rfl⟩
      | false =>
        have hne : stage.kept state ++ stage.produced ≠ [] := by
          rwa [Ne, List.append_eq_nil_iff, Decidable.not_and_iff_or_not]
        rw [if_neg Bool.false_ne_true, if_neg hne]
        exact ⟨none, rfl⟩
  · cases h

/-- Without a verdict the stage leaves the consolidated result alone. -/
theorem consolidatedResult_of_no_verdict (h : stage.verdict state = none) :
    (runCheckPipeline stage state).1.run.consolidatedResult = state.run.consolidatedResult := by
  rw [ChecksStage.verdict] at h
  split at h
  · cases h
  · rename_i hjudges
    cases hcommits : (runCheckPipeline stage state).2 with
    | false => exact runCheckPipeline_not_committed hcommits
    | true =>
      obtain ⟨-, hconsolidated⟩ := runCheckPipeline_committed hcommits
      rw [hconsolidated]
      split
      · rfl
      · rename_i hsome
        have hrewrites : ¬stage.RewritesVerdict state := fun h => hjudges ⟨hcommits, h⟩
        rw [ChecksStage.RewritesVerdict, not_or, not_and, not_or, not_not, not_not] at hrewrites
        obtain ⟨hkept, hproduced⟩ := hrewrites.2 hsome
        rw [updateConsolidatedResult, if_neg hrewrites.1, hkept, hproduced]
        exact if_pos rfl

end Checks

/-! ## The analysis -/

namespace AdaptDatabase

variable {K Sk : Type} [Field K] [LinearOrder K]

section

omit [Field K] [LinearOrder K]

variable {db : AdaptDatabase K Sk} {testRunIds : List String} {testRunId : String}

/-- Setting the status changes nothing else of a run. -/
theorem updateEvaluationStatus_testRun {ids : List String} {status : EvaluationStatus}
    {run : TestRun} {before : Option EvaluationStatus}
    (h : db.testRuns.get testRunId = some { run with evaluatingAdapt := before }) :
    ∃ after, (db.updateEvaluationStatus ids status).testRuns.get testRunId =
      some { run with evaluatingAdapt := after } := by
  rw [get_updateEvaluationStatus, h, Option.map_some]
  split
  · exact ⟨some status, rfl⟩
  · exact ⟨before, rfl⟩

/-- Neither does setting runs aside. -/
theorem validation_testRun {run : TestRun} (hrun : db.testRuns.get testRunId = some run) :
    ∃ after, (db.validation testRunIds).2.testRuns.get testRunId =
      some { run with evaluatingAdapt := after } := by
  simp only [validation, runPreProcessingValidation]
  have hbefore : db.testRuns.get testRunId =
      some { run with evaluatingAdapt := run.evaluatingAdapt } := hrun
  obtain ⟨_, h⟩ := updateEvaluationStatus_testRun hbefore
  obtain ⟨_, h⟩ := updateEvaluationStatus_testRun h
  obtain ⟨_, h⟩ := updateEvaluationStatus_testRun h
  exact updateEvaluationStatus_testRun h

end

variable (env : AdaptEnvironment) (now : ℤ) (db : AdaptDatabase K Sk) (testRunIds : List String)
  (testRunId : String)

/-- The outcome that the analysis of a list of runs has for a run: none if the run is not
    among them or all of them are set aside, and that of a failure or of the conclusion
    about the run otherwise. -/
def outcome : Option Bool :=
  if testRunId ∉ testRunIds then none
  else if (db.execute env now testRunIds).1 then
    if (db.validation testRunIds).1.processableTestRuns = [] then none
    else (db.testRuns.get testRunId).map fun run =>
      run.isBaseline || !((db.execute env now testRunIds).2.conclusions.get testRunId).any
        fun c => c.conclusion = .REGRESSION
  else some false

/-- The consolidated result of a run with the outcome of an analysis merged into it: the
    overall verdict is combined with that of the checks if the analysis succeeds, and
    the differences are not accepted. -/
def mergeOutcome (run : TestRun) (success : Bool) : Option Bool → Option ConsolidatedResult
  | none => run.consolidatedResult
  | some ok =>
    let result := run.consolidatedResult.getD {}
    some
      { result with
        adaptTestRunOK := some ok
        overall :=
          if !success || run.isAccepted then result.overall
          else some (result.meetsRequirement.getD true && ok) }

variable {env now db testRunIds testRunId}

/-- A failure is recorded with the runs of the list. -/
theorem execute_eq_false {db' : AdaptDatabase K Sk}
    (h : db.execute env now testRunIds = (false, db')) :
    db'.testRuns.get testRunId = (db.testRuns.get testRunId).map fun run =>
      if testRunId ∈ testRunIds then
        { run with
          evaluatingAdapt := some .FAILED
          consolidatedResult :=
            some { run.consolidatedResult.getD {} with adaptTestRunOK := some false } }
      else run := by
  rw [execute] at h
  split at h
  · rename_i hnil
    obtain rfl := (Prod.mk.inj h).2
    rw [hnil]
    cases db.testRuns.get testRunId <;> rfl
  · split at h
    · exact absurd (Prod.mk.inj h).1.symm Bool.false_ne_true
    · rw [← (Prod.mk.inj h).2]
      exact get_update _ _ _

/-- The analysis merges its outcome into the consolidated result of a run, and leaves
    its configuration alone. -/
theorem execute_merged {run : TestRun} (hrun : db.testRuns.get testRunId = some run) :
    ∃ after, (db.execute env now testRunIds).2.testRuns.get testRunId = some after ∧
      after.adaptConfig = run.adaptConfig ∧
      after.consolidatedResult = mergeOutcome run (db.execute env now testRunIds).1
        (db.outcome env now testRunIds testRunId) := by
  cases hexecute : db.execute env now testRunIds with
  | mk success db' =>
    rw [outcome, hexecute]
    dsimp only
    cases success with
    | false =>
      rw [execute_eq_false hexecute, hrun, Option.map_some]
      refine ⟨_, rfl, ?_⟩
      by_cases hid : testRunId ∈ testRunIds
      · rw [if_pos hid, if_neg (not_not.2 hid)]
        exact ⟨rfl, rfl⟩
      · rw [if_neg hid, if_pos hid]
        exact ⟨rfl, rfl⟩
    | true =>
      obtain ⟨status, hvalidated⟩ : ∃ after,
          (db.validation testRunIds).2.testRuns.get testRunId =
            some { run with evaluatingAdapt := after } := validation_testRun hrun
      obtain ⟨-, ⟨hnone, rfl⟩ | ⟨hsome, h⟩⟩ := transaction_eq_some (execute_eq_true hexecute).2
      · rw [if_pos rfl, if_pos hnone, ite_self]
        exact ⟨_, hvalidated, rfl, rfl⟩
      · obtain ⟨db₁, trackedResults, new, h₁, -, -, rfl⟩ := analyse_eq_some h
        obtain ⟨scope, rows, -, -, rfl⟩ := processAdaptResults_eq_some h₁
        rw [if_pos rfl, if_neg hsome, hrun]
        refine ⟨_, get_updateFinalStatus.trans (congrArg (Option.map _) hvalidated), ?_⟩
        dsimp only
        by_cases hid : testRunId ∈ testRunIds
        · rw [if_pos hid, if_neg (not_not.2 hid)]
          exact ⟨rfl, rfl⟩
        · rw [if_neg hid, if_pos hid]
          exact ⟨rfl, rfl⟩

end AdaptDatabase

/-! ## Evaluations and analyses in any order -/

/-- A run with its check results, among the other runs, and what was found last. -/
structure JudgedRun where
  testRuns : Table String TestRun
  checkResults : List CheckResult
  /-- The latest verdict of the checks, if there was one. -/
  latestMeets : Option Bool
  /-- The latest outcome of the analysis, if there was one. -/
  latestAdapt : Option Bool

/-- What happens to the run. -/
inductive Judgement (K Sk : Type)
  /-- Its checks are evaluated. -/
  | checks (stage : ChecksStage)
  /-- A list of runs is analysed, the tables being as they are then. -/
  | adapt (now : ℤ) (testRunIds : List String) (tables : AdaptDatabase K Sk)

namespace JudgedRun

variable {K Sk : Type} [Field K] [LinearOrder K] (env : AdaptEnvironment) (testRunId : String)

/-- The state with the row of the run, if it is there. -/
def checkedRun (s : JudgedRun) : Option CheckedRun :=
  (s.testRuns.get testRunId).map fun run => ⟨run, s.checkResults⟩

/-- The tables that an analysis finds. -/
def tablesFor (s : JudgedRun) (tables : AdaptDatabase K Sk) : AdaptDatabase K Sk :=
  { tables with testRuns := s.testRuns }

/-- One evaluation or analysis; what it finds is the latest. -/
def judge (s : JudgedRun) : Judgement K Sk → Option JudgedRun
  | .checks stage => do
    let state ← s.checkedRun testRunId
    let after := (runCheckPipeline stage state).1
    return { s with
      testRuns := s.testRuns.set testRunId after.run
      checkResults := after.checkResults
      latestMeets := (stage.verdict state).or s.latestMeets }
  | .adapt now testRunIds tables =>
    let db := s.tablesFor tables
    some { s with
      testRuns := (db.execute env now testRunIds).2.testRuns
      latestAdapt := (db.outcome env now testRunIds testRunId).or s.latestAdapt }

/-- The checks find a verdict only while no outcome is recorded, and an analysis of the
    run fails only if the overall verdict is not positive, or the differences are
    accepted. -/
def KeepsVerdicts (s : JudgedRun) : Judgement K Sk → Prop
  | .checks stage => ∀ state ∈ s.checkedRun testRunId, stage.Judges state →
      state.run.adaptTestRunOK = none
  | .adapt now testRunIds tables => testRunId ∈ testRunIds →
      ((s.tablesFor tables).execute env now testRunIds).1 = false →
        ∀ run ∈ s.testRuns.get testRunId, run.overall ≠ some true ∨ run.isAccepted

/-- The latest verdict of the checks and the latest outcome of the analysis are on
    record, and the overall verdict combines them: it is that of the checks alone
    where the differences are accepted. -/
structure Combined (s : JudgedRun) (run : TestRun) : Prop where
  /-- The verdict of the checks. -/
  meets : ∀ m ∈ s.latestMeets, run.meetsRequirement = some m
  /-- The outcome of the analysis. -/
  adapt : ∀ a ∈ s.latestAdapt, run.adaptTestRunOK = some a
  /-- The overall verdict. -/
  overall : ∀ m ∈ s.latestMeets, ∀ a ∈ s.latestAdapt,
    run.overall = some (m && (run.isAccepted || a))

/-- The verdicts of the run are combined, and its overall verdict is that of the checks
    until it is analysed. -/
structure Inv (s : JudgedRun) : Prop where
  /-- The run is there, and its verdicts are combined. -/
  combined : ∃ run, s.testRuns.get testRunId = some run ∧ Combined s run
  /-- Before the analysis the overall verdict is that of the checks. -/
  pending : s.latestAdapt = none → ∀ m ∈ s.latestMeets, ∀ run ∈ s.testRuns.get testRunId,
    run.overall = some m

variable {env testRunId} {s s' : JudgedRun}

omit [Field K] [LinearOrder K] in
theorem getD_overall (run : TestRun) : (run.consolidatedResult.getD {}).overall = run.overall := by
  rw [TestRun.overall]
  cases run.consolidatedResult <;> rfl

omit [Field K] [LinearOrder K] in
theorem getD_meetsRequirement (run : TestRun) :
    (run.consolidatedResult.getD {}).meetsRequirement = run.meetsRequirement := by
  rw [TestRun.meetsRequirement]
  cases run.consolidatedResult <;> rfl

omit [Field K] [LinearOrder K] in
/-- A run with the same configuration and consolidated result is judged alike. -/
theorem Combined.congr {run after : TestRun} (h : Combined s run)
    (hconfig : after.adaptConfig = run.adaptConfig)
    (hresult : after.consolidatedResult = run.consolidatedResult) : Combined s after where
  meets := by rw [TestRun.meetsRequirement, hresult]; exact h.meets
  adapt := by rw [TestRun.adaptTestRunOK, hresult]; exact h.adapt
  overall := by rw [TestRun.overall, hresult, TestRun.isAccepted, hconfig]; exact h.overall

omit [Field K] [LinearOrder K] in
/-- What an evaluation of the checks leaves. -/
theorem inv_checks {stage : ChecksStage} {run : TestRun} (hinv : s.Inv testRunId)
    (hrun : s.testRuns.get testRunId = some run)
    (hok : stage.Judges ⟨run, s.checkResults⟩ → run.adaptTestRunOK = none) :
    Inv testRunId { s with
      testRuns := s.testRuns.set testRunId (runCheckPipeline stage ⟨run, s.checkResults⟩).1.run
      checkResults := (runCheckPipeline stage ⟨run, s.checkResults⟩).1.checkResults
      latestMeets := (stage.verdict ⟨run, s.checkResults⟩).or s.latestMeets } := by
  obtain ⟨⟨_, hrun', hcombined⟩, hpending⟩ := hinv
  obtain rfl := Option.some.inj (hrun.symm.trans hrun')
  have hget : ∀ after, (s.testRuns.set testRunId after).get testRunId = some after :=
    fun after => (get_set _ _ _ _).trans (if_pos rfl)
  have hconfig : (runCheckPipeline stage ⟨run, s.checkResults⟩).1.run.adaptConfig =
      run.adaptConfig := runCheckPipeline_adaptConfig
  cases hverdict : stage.verdict ⟨run, s.checkResults⟩ with
  | none =>
    -- Nothing is found, and nothing is written.
    have hresult := consolidatedResult_of_no_verdict hverdict
    have hafter := hcombined.congr hconfig hresult
    refine ⟨⟨_, hget _, hafter.meets, hafter.adapt, hafter.overall⟩, ?_⟩
    intro hnone m hm after hafter
    obtain rfl := Option.some.inj ((hget _).symm.trans hafter)
    rw [TestRun.overall, hresult]
    exact hpending hnone m hm run hrun
  | some m =>
    -- The verdict replaces the result, which has no outcome yet.
    obtain ⟨error, hresult⟩ := consolidatedResult_of_verdict hverdict
    have hjudges : stage.Judges ⟨run, s.checkResults⟩ := by
      by_contra hnot
      rw [ChecksStage.verdict, if_neg hnot] at hverdict
      cases hverdict
    have hnone : s.latestAdapt = none := by
      by_contra hsome
      obtain ⟨a, ha⟩ := Option.ne_none_iff_exists'.1 hsome
      have hrecorded := hcombined.adapt a ha
      rw [hok hjudges] at hrecorded
      cases hrecorded
    refine ⟨⟨_, hget _, ?_, ?_, ?_⟩, fun _ m' hm' after hafter => ?_⟩
    · rintro m' hm'
      obtain rfl := Option.some.inj hm'
      rw [TestRun.meetsRequirement, hresult]
      rfl
    · intro a ha
      rw [Option.mem_def, hnone] at ha
      cases ha
    · intro _ _ a ha
      rw [Option.mem_def, hnone] at ha
      cases ha
    · obtain rfl := Option.some.inj hm'
      obtain rfl := Option.some.inj ((hget _).symm.trans hafter)
      rw [TestRun.overall, hresult]
      rfl

/-- What an analysis leaves. -/
theorem inv_adapt {now : ℤ} {testRunIds : List String} {tables : AdaptDatabase K Sk}
    {run : TestRun} (hinv : s.Inv testRunId) (hrun : s.testRuns.get testRunId = some run)
    (hok : testRunId ∈ testRunIds →
      ((s.tablesFor tables).execute env now testRunIds).1 = false →
        run.overall ≠ some true ∨ run.isAccepted) :
    Inv testRunId { s with
      testRuns := ((s.tablesFor tables).execute env now testRunIds).2.testRuns
      latestAdapt :=
        ((s.tablesFor tables).outcome env now testRunIds testRunId).or s.latestAdapt } := by
  obtain ⟨⟨_, hrun', hcombined⟩, hpending⟩ := hinv
  obtain rfl := Option.some.inj (hrun.symm.trans hrun')
  have hrunTables : (s.tablesFor tables).testRuns.get testRunId = some run := hrun
  obtain ⟨after, hget, hconfig, hresult⟩ : ∃ after,
      ((s.tablesFor tables).execute env now testRunIds).2.testRuns.get testRunId = some after ∧
        after.adaptConfig = run.adaptConfig ∧
        after.consolidatedResult =
          AdaptDatabase.mergeOutcome run ((s.tablesFor tables).execute env now testRunIds).1
            ((s.tablesFor tables).outcome env now testRunIds testRunId) :=
    AdaptDatabase.execute_merged hrunTables
  have hmem : ∀ ok, (s.tablesFor tables).outcome env now testRunIds testRunId = some ok →
      testRunId ∈ testRunIds := by
    intro ok houtcome
    by_contra hid
    rw [AdaptDatabase.outcome, if_pos hid] at houtcome
    cases houtcome
  cases houtcome : (s.tablesFor tables).outcome env now testRunIds testRunId with
  | none =>
    rw [houtcome] at hresult
    have hafter := hcombined.congr hconfig hresult
    refine ⟨⟨after, hget, hafter.meets, hafter.adapt, hafter.overall⟩, ?_⟩
    intro hnone m hm run' hrun'
    obtain rfl := Option.some.inj (hget.symm.trans hrun')
    rw [TestRun.overall, hresult]
    exact hpending hnone m hm run hrun
  | some ok =>
    rw [houtcome] at hresult
    -- Until now the overall verdict was that of the checks, or combined with an outcome.
    have hbefore : ∀ m ∈ s.latestMeets, ∃ a, run.overall = some (m && (run.isAccepted || a)) := by
      intro m hm
      cases hlatest : s.latestAdapt with
      | none => exact ⟨true, by rw [hpending hlatest m hm run hrun]; simp⟩
      | some a => exact ⟨a, hcombined.overall m hm a hlatest⟩
    refine ⟨⟨after, hget, ?_, ?_, ?_⟩, fun hnone => by cases hnone⟩
    · intro m hm
      have hmeets := hcombined.meets m hm
      rw [TestRun.meetsRequirement] at hmeets ⊢
      rw [hresult, AdaptDatabase.mergeOutcome]
      cases hc : run.consolidatedResult with
      | none =>
        rw [hc] at hmeets
        cases hmeets
      | some c =>
        rw [hc] at hmeets
        exact hmeets
    · intro a ha
      obtain rfl := Option.some.inj ha
      rw [TestRun.adaptTestRunOK, hresult]
      rfl
    · intro m hm a ha
      obtain rfl := Option.some.inj ha
      obtain ⟨a', ha'⟩ := hbefore m hm
      have hmeets := hcombined.meets m hm
      have haccepted : after.isAccepted = run.isAccepted := by
        rw [TestRun.isAccepted, TestRun.isAccepted, hconfig]
      rw [TestRun.overall, hresult, AdaptDatabase.mergeOutcome, Option.bind_some, haccepted,
        getD_overall, getD_meetsRequirement, hmeets, ha']
      cases hsuccess : ((s.tablesFor tables).execute env now testRunIds).1 with
      | true => cases run.isAccepted <;> simp
      | false =>
        -- A failure: the overall verdict stays, and was not positive or is accepted.
        have hfalse : ok = false := by
          rw [AdaptDatabase.outcome, if_neg (not_not.2 (hmem ok houtcome)), hsuccess] at houtcome
          exact (Option.some.inj houtcome).symm
        have hpositive := hok (hmem ok houtcome) hsuccess
        rw [ha'] at hpositive
        cases hacc : run.isAccepted <;> cases m <;> cases a' <;> simp_all

/-- Each step that keeps the verdicts keeps the invariant. -/
theorem inv_judge {e : Judgement K Sk} (hinv : s.Inv testRunId)
    (hok : s.KeepsVerdicts env testRunId e) (h : s.judge env testRunId e = some s') :
    s'.Inv testRunId := by
  obtain ⟨run, hrun, -⟩ := hinv.combined
  cases e with
  | checks stage =>
    have hstate : s.checkedRun testRunId = some ⟨run, s.checkResults⟩ := by
      rw [checkedRun, hrun]
      rfl
    rw [judge, hstate] at h
    rw [← Option.some.inj h]
    exact inv_checks hinv hrun (hok _ hstate)
  | adapt now testRunIds tables =>
    rw [← Option.some.inj h]
    exact inv_adapt hinv hrun fun hid hfails => hok hid hfails run hrun

/-- Along every run of evaluations and analyses that keep the verdicts, those that were
    found last are combined. -/
theorem run_combined {es : List (Judgement K Sk)} {init : JudgedRun}
    (hsome : (init.testRuns.get testRunId).isSome) (hmeets : init.latestMeets = none)
    (hadapt : init.latestAdapt = none)
    (h : Run (judge env testRunId) (KeepsVerdicts env testRunId) init es s) :
    ∃ run, s.testRuns.get testRunId = some run ∧ Combined s run := by
  obtain ⟨run, hrun⟩ := Option.isSome_iff_exists.1 hsome
  have hinit : init.Inv testRunId := by
    refine ⟨⟨run, hrun, ?_, ?_, ?_⟩, fun _ m hm => ?_⟩
    · intro m hm
      rw [hmeets] at hm
      cases hm
    · intro a ha
      rw [hadapt] at ha
      cases ha
    · intro m hm
      rw [hmeets] at hm
      cases hm
    · rw [hmeets] at hm
      cases hm
  exact (h.state_invariant hinit fun _ _ _ => inv_judge).combined

instance (s : JudgedRun) (e : Judgement K Sk) : Decidable (s.KeepsVerdicts env testRunId e) :=
  match e with
  | .checks stage => inferInstanceAs (Decidable (∀ state ∈ s.checkedRun testRunId,
      stage.Judges state → state.run.adaptTestRunOK = none))
  | .adapt now testRunIds tables => inferInstanceAs (Decidable (testRunId ∈ testRunIds →
      ((s.tablesFor tables).execute env now testRunIds).1 = false →
        ∀ run ∈ s.testRuns.get testRunId, run.overall ≠ some true ∨ run.isAccepted))

/-! ### A slow run -/

/-- The slow run, before it is evaluated. -/
def slowUnjudged : JudgedRun := ⟨slowRun.testRuns, [], none, none⟩

/-- Its checks pass, and the analysis finds a regression. -/
def checksThenAdapt : List (Judgement ℚ (Multiset ℚ)) :=
  [.checks passingStage, .adapt 0 ["slow"] slowRun]

theorem run_combined_slow :
    ∃ s, Run (judge adaptEnvironment "slow") (KeepsVerdicts adaptEnvironment "slow") slowUnjudged
        checksThenAdapt s ∧
      (s.latestMeets = some true ∧ s.latestAdapt = some false) ∧
      ∃ run, s.testRuns.get "slow" = some run ∧ Combined s run := by
  have htest : (checksThenAdapt.foldlM
      (Run.checked (judge adaptEnvironment "slow") (KeepsVerdicts adaptEnvironment "slow"))
      slowUnjudged).any (fun s => s.latestMeets = some true ∧ s.latestAdapt = some false) =
        true := by
    decide +kernel
  obtain ⟨s, hrun, hfound⟩ := Run.exists_of_checked htest
  exact ⟨s, hrun, of_decide_eq_true hfound, run_combined (by decide) rfl rfl hrun⟩

/-- Its checks are evaluated again after the analysis. -/
def checksAgain : List (Judgement ℚ (Multiset ℚ)) := checksThenAdapt ++ [.checks passingStage]

/-- Then the run passes, and its regression is forgotten. -/
theorem checks_forget_regression :
    ∃ s, Run (judge adaptEnvironment "slow") (fun _ _ => True) slowUnjudged
        checksAgain s ∧
      (s.latestMeets = some true ∧ s.latestAdapt = some false ∧
        (s.testRuns.get "slow").map (fun run => (run.adaptTestRunOK, run.overall)) =
          some (none, some true)) ∧
      ¬∃ run, s.testRuns.get "slow" = some run ∧ Combined s run := by
  have htest : (checksAgain.foldlM
      (Run.checked (judge adaptEnvironment "slow") fun _ _ => True) slowUnjudged).any
        (fun s => s.latestMeets = some true ∧ s.latestAdapt = some false ∧
          (s.testRuns.get "slow").map (fun run => (run.adaptTestRunOK, run.overall)) =
            some (none, some true)) = true := by
    decide +kernel
  obtain ⟨s, hrun, hfound⟩ := Run.exists_of_checked htest
  obtain ⟨hmeets, hadapt, hresult⟩ := of_decide_eq_true hfound
  refine ⟨s, hrun, ⟨hmeets, hadapt, hresult⟩, ?_⟩
  rintro ⟨run, hget, h⟩
  rw [hget, Option.map_some, h.adapt false hadapt] at hresult
  cases hresult

end JudgedRun

end Perfana
