import Mathlib.Tactic.SplitIfs
import Perfana.Checks.Pipeline

/-!
# The consolidated verdict of a run

The verdict that the checks stage stores with a run is to be that of the check
results the run then has: met if every one that was judged is, and not met if a
benchmark failed to process. It is written by an update that joins the results,
and so writes nothing for a run that is left without any; and not at all for a
run without benchmarks.

* `runCheckPipeline_committed`: what a stage that commits leaves behind;
* `runCheckPipeline_reflects_iff`: the stored verdict is that of the results if and
  only if the stage rewrites it, or it was so already.
-/

namespace Perfana

/-- Every check result that was judged meets its requirement. -/
def allMeetRequirements (results : List CheckResult) : Bool :=
  results.all fun cr => cr.meetsRequirement.getD true

@[simp] theorem allMeetRequirements_nil : allMeetRequirements [] = true := rfl

/-- The verdict stored with a run. -/
def CheckedRun.storedVerdict (state : CheckedRun) : Option Bool :=
  state.run.consolidatedResult.bind ConsolidatedResult.meetsRequirement

theorem updateConsolidatedResult_meetsRequirement (results : List CheckResult)
    (benchmarkFailure : Bool) (old : Option ConsolidatedResult) :
    (updateConsolidatedResult results benchmarkFailure old).bind
        ConsolidatedResult.meetsRequirement =
      if benchmarkFailure then some false
      else if results = [] then old.bind ConsolidatedResult.meetsRequirement
      else some (allMeetRequirements results) := by
  rw [updateConsolidatedResult]
  split_ifs <;> rfl

namespace ChecksStage

variable (stage : ChecksStage) (state : CheckedRun)

/-- The check results of the run that the stage does not delete. -/
def kept : List CheckResult :=
  deleteExistingCheckResults stage.metricFilter state.checkResults

/-- The check results that the benchmarks of the stage produce. -/
def produced : List CheckResult := stage.outcomes.filterMap BenchmarkOutcome.checkResult?

/-- The stage has a benchmark, and one failed to process or the run has a check
    result after it. -/
def RewritesVerdict : Prop :=
  hasBenchmarkFailure stage.outcomes = true ∨
    (stage.outcomes ≠ [] ∧ (stage.kept state ≠ [] ∨ stage.produced ≠ []))

instance : Decidable (stage.RewritesVerdict state) := inferInstanceAs (Decidable (_ ∨ _))

end ChecksStage

/-- The stored verdict is false if a benchmark of the stage failed to process, and
    that of the check results the run has otherwise. -/
def VerdictReflects (stage : ChecksStage) (state : CheckedRun) : Prop :=
  state.storedVerdict =
    some (if hasBenchmarkFailure stage.outcomes then false
      else allMeetRequirements state.checkResults)

instance (stage : ChecksStage) (state : CheckedRun) : Decidable (VerdictReflects stage state) :=
  inferInstanceAs (Decidable (_ = _))

/-- A stage that commits leaves the results it keeps and those it produces, and
    updates the consolidated result if it has a benchmark. -/
theorem runCheckPipeline_committed {stage : ChecksStage} {state : CheckedRun}
    (h : (runCheckPipeline stage state).2 = true) :
    (runCheckPipeline stage state).1.checkResults = stage.kept state ++ stage.produced ∧
      (runCheckPipeline stage state).1.run.consolidatedResult =
        if stage.outcomes = [] then state.run.consolidatedResult
        else updateConsolidatedResult (stage.kept state ++ stage.produced)
          (hasBenchmarkFailure stage.outcomes) state.run.consolidatedResult := by
  obtain ⟨metricFilter, started, found, benchmarks, committed⟩ := stage
  cases started
  · cases h
  cases found
  · cases h
  match benchmarks with
  | .error .benchmarkNotFound | .ok [] =>
    cases committed
    · cases h
    · exact ⟨(List.append_nil _).symm, rfl⟩
  | .error (.failed _) => cases h
  | .ok (o :: os) =>
    cases committed
    · cases h
    · exact ⟨rfl, rfl⟩

/-- When the stage commits, the stored verdict is that of the check results the run
    then has if and only if the stage rewrites it, or it already was that of the
    results the stage keeps. -/
theorem runCheckPipeline_reflects_iff (stage : ChecksStage) (state : CheckedRun)
    (h : (runCheckPipeline stage state).2 = true) :
    VerdictReflects stage (runCheckPipeline stage state).1 ↔
      stage.RewritesVerdict state ∨
        state.storedVerdict = some (allMeetRequirements (stage.kept state)) := by
  obtain ⟨hresults, hconsolidated⟩ := runCheckPipeline_committed h
  rw [VerdictReflects, CheckedRun.storedVerdict, hresults, hconsolidated]
  by_cases hnone : stage.outcomes = []
  · -- Without benchmarks nothing is written, and nothing is produced.
    have hproduced : stage.produced = [] := by rw [ChecksStage.produced, hnone]; rfl
    simp [hnone, hproduced, ChecksStage.RewritesVerdict, CheckedRun.storedVerdict,
      hasBenchmarkFailure]
  · rw [if_neg hnone, updateConsolidatedResult_meetsRequirement]
    cases hfailure : hasBenchmarkFailure stage.outcomes with
    | true => simp [ChecksStage.RewritesVerdict, hfailure]
    | false =>
      by_cases hleft : stage.kept state = [] ∧ stage.produced = []
      · simp [ChecksStage.RewritesVerdict, hfailure, hleft, CheckedRun.storedVerdict]
      · have hrewrites : stage.RewritesVerdict state := .inr ⟨hnone, Decidable.not_and_iff_or_not.1 hleft⟩
        simp [hrewrites, hleft]

/-- A run that did not meet its requirements. -/
def failedRun : CheckedRun where
  run :=
    { testRunId := "R", systemUnderTestId := "shop", testEnvironment := "test"
      workload := "load", organizationId := some "org", teamId := none
      startTime := some 0, endTime := some 60000, duration := some 60
      analysisStartOffset := none, analysisEndOffset := none, adaptConfig := none
      evaluatingChecks := some .COMPLETED, evaluatingAdapt := none
      consolidatedResult := some { meetsRequirement := some false, overall := some false }
      valid := some true, reasonsNotValid := none, dataWarnings := none }
  checkResults := [⟨"b1", none, some "d1", some 1, .COMPLETE, some false⟩]

/-- A re-evaluation in which the benchmark has no data, and so passes. -/
def passingStage : ChecksStage :=
  ⟨{}, true, true, .ok [.result ⟨"b1", none, some "d1", some 1, .NO_DATA, none⟩], true⟩

theorem runCheckPipeline_reflects_failedRun :
    VerdictReflects passingStage (runCheckPipeline passingStage failedRun).1 ↔
      passingStage.RewritesVerdict failedRun ∨
        failedRun.storedVerdict = some (allMeetRequirements (passingStage.kept failedRun)) :=
  runCheckPipeline_reflects_iff passingStage failedRun rfl

/-- A re-evaluation after the only benchmark of the run was removed. -/
def removedStage : ChecksStage := ⟨{}, true, true, .error .benchmarkNotFound, true⟩

/-- The re-evaluation deletes the result that failed, and keeps its verdict. -/
theorem removed_benchmark_keeps_verdict :
    (runCheckPipeline removedStage failedRun).2 = true ∧
      (runCheckPipeline removedStage failedRun).1.checkResults = [] ∧
      (runCheckPipeline removedStage failedRun).1.storedVerdict = some false ∧
      ¬VerdictReflects removedStage (runCheckPipeline removedStage failedRun).1 := by
  decide

end Perfana
