import Perfana.TestRun

/-!
# The checks stage

The checks of a run are evaluated benchmark by benchmark, in a transaction of
the run. A benchmark that fails is counted and skipped; what fails outside the
benchmarks rolls the run back.
-/

namespace Perfana

/-- The characters that trimming removes. -/
def isSpace (c : Char) : Bool :=
  let n := c.toNat
  9 ≤ n && n ≤ 13 || 0x2000 ≤ n && n ≤ 0x200A ||
    [0x20, 0xA0, 0x1680, 0x2028, 0x2029, 0x202F, 0x205F, 0x3000, 0xFEFF].contains n

/-- A text without the white space around it. -/
def trim (text : String) : List Char :=
  ((text.toList.dropWhile isSpace).reverse.dropWhile isSpace).reverse

/-- The status of a check result. -/
inductive CheckStatus
  | COMPLETE
  | ERROR
  | NO_DATA
  deriving DecidableEq, Repr

/-- A row of `check_results`. -/
structure CheckResult where
  benchmarkId : String
  metricsSourceId : Option String
  applicationDashboardId : Option String
  panelId : Option ℤ
  /-- How the evaluation went. -/
  status : CheckStatus
  /-- Whether the requirement is met; none if it was not judged. -/
  meetsRequirement : Option Bool
  deriving DecidableEq, Repr

/-- The filter of a re-evaluation of some metrics only. -/
structure MetricFilter where
  metricsSourceId : Option String := none
  /-- The dashboard, if no source is given. -/
  applicationDashboardId : Option String := none
  panelId : Option ℤ := none
  deriving DecidableEq, Repr

/-- How a benchmark of the run ends. -/
inductive BenchmarkOutcome
  /-- With a result, which is saved. -/
  | result (checkResult : CheckResult)
  /-- Without a result, for lack of a requirement. -/
  | noResult
  /-- It failed, and its writes were rolled back. -/
  | failed (error : String)
  deriving DecidableEq, Repr

/-- What looking for the benchmarks of a run throws. -/
inductive MatchError
  /-- No benchmark is configured. -/
  | benchmarkNotFound
  /-- Anything else. -/
  | failed (error : String)
  deriving DecidableEq, Repr

/-- What the checks stage meets at a run. -/
structure ChecksStage where
  metricFilter : MetricFilter
  /-- Whether the status could be set to in progress, in a transaction of its own. -/
  started : Bool
  /-- Whether the run was found. -/
  found : Bool
  /-- The benchmarks of the run, each with its outcome. -/
  benchmarks : Except MatchError (List BenchmarkOutcome)
  /-- Whether the writes after the benchmarks, and the transaction, went through. -/
  committed : Bool

/-- A run with its check results. -/
structure CheckedRun where
  /-- The row of the run. -/
  run : TestRun
  checkResults : List CheckResult
  deriving DecidableEq, Repr

namespace BenchmarkOutcome

/-- The result of a benchmark, if it has one. -/
def checkResult? : BenchmarkOutcome → Option CheckResult
  | result checkResult => some checkResult
  | noResult => none
  | failed _ => none

/-- The benchmark failed to process. -/
def isFailure : BenchmarkOutcome → Bool
  | failed _ => true
  | _ => false

end BenchmarkOutcome

/-- Some check result has an error. -/
def hasCheckError (outcomes : List BenchmarkOutcome) : Bool :=
  (outcomes.filterMap BenchmarkOutcome.checkResult?).any fun cr => cr.status = .ERROR

/-- Some benchmark failed to process. -/
def hasBenchmarkFailure (outcomes : List BenchmarkOutcome) : Bool :=
  outcomes.any BenchmarkOutcome.isFailure

/-- Some check result has an error, or some benchmark failed to process. -/
def hasError (outcomes : List BenchmarkOutcome) : Bool :=
  hasCheckError outcomes || hasBenchmarkFailure outcomes

/-- The check results that a re-evaluation under a filter leaves alone. -/
def deleteExistingCheckResults (metricFilter : MetricFilter) (results : List CheckResult) :
    List CheckResult :=
  let source := fun cr : CheckResult =>
    match metricFilter.metricsSourceId, metricFilter.applicationDashboardId with
    | some id, _ => cr.metricsSourceId = some id
    | none, some id => cr.applicationDashboardId = some id
    | none, none => true
  let panel := fun cr : CheckResult =>
    match metricFilter.panelId with
    | some id => cr.panelId = some id
    | none => true
  results.filter fun cr => !(source cr && panel cr)

/-- The consolidated result of the check results of a run; that of a run without
    any is left alone. -/
def updateConsolidatedResult (results : List CheckResult) (benchmarkFailure : Bool)
    (old : Option ConsolidatedResult) : Option ConsolidatedResult :=
  if benchmarkFailure then
    some
      { meetsRequirement := some false, overall := some false
        error := some "Some benchmarks failed to process" }
  else if results = [] then old
  else
    let allMeetRequirements := results.all fun cr => cr.meetsRequirement.getD true
    some { meetsRequirement := some allMeetRequirements, overall := some allMeetRequirements }

/-- The evaluation of a run whose old results are deleted; none if it throws, and
    its transaction is rolled back. -/
def processSingleTestRun (stage : ChecksStage) (state : CheckedRun) : Option CheckedRun :=
  match stage.benchmarks with
  | .error .benchmarkNotFound | .ok [] =>
    if stage.committed then
      some { state with run := { state.run with evaluatingChecks := some .NOT_CONFIGURED } }
    else none
  | .error (.failed _) => none
  | .ok outcomes =>
    let checkResults := state.checkResults ++ outcomes.filterMap BenchmarkOutcome.checkResult?
    let error := hasError outcomes
    let consolidatedResult := updateConsolidatedResult checkResults
      (hasBenchmarkFailure outcomes) state.run.consolidatedResult
    if stage.committed then
      some
        { run :=
            { state.run with
              evaluatingChecks := some (if error then .ERROR else .COMPLETED)
              -- Valid or not is decided by these checks alone.
              valid := some (!error)
              consolidatedResult }
          checkResults }
    else none

/-- The checks stage at a run, and whether the run was processed. -/
def runCheckPipeline (stage : ChecksStage) (state : CheckedRun) : CheckedRun × Bool :=
  if stage.started then
    let inProgress : CheckedRun :=
      { state with run := { state.run with evaluatingChecks := some .IN_PROGRESS } }
    if stage.found then
      let cleared : CheckedRun :=
        { inProgress with
          checkResults :=
            deleteExistingCheckResults stage.metricFilter inProgress.checkResults }
      match processSingleTestRun stage cleared with
      | some processed => (processed, true)
      | none => (inProgress, false)
    else (inProgress, false)
  else (state, false)

/-! ## What the stage does to the validity of a run -/

namespace ChecksStage

variable (stage : ChecksStage)

/-- The outcomes of the benchmarks that the stage evaluates. -/
def outcomes : List BenchmarkOutcome :=
  match stage.started, stage.found, stage.benchmarks with
  | true, true, .ok outcomes => outcomes
  | _, _, _ => []

/-- The checks of the stage had an error result, or a benchmark that failed to process. -/
def HadError : Prop := hasError stage.outcomes = true

instance : Decidable stage.HadError := inferInstanceAs (Decidable (_ = true))

/-- The stage decides the validity of the run: it has benchmarks, and its writes go
    through. -/
def Decides : Prop := stage.outcomes ≠ [] ∧ stage.committed = true

instance : Decidable stage.Decides := inferInstanceAs (Decidable (_ ∧ _))

end ChecksStage

/-- The stage leaves the run valid if its checks had no error, and invalid if they
    had; it leaves the validity alone if it decides nothing. -/
theorem runCheckPipeline_valid (stage : ChecksStage) (state : CheckedRun) :
    (runCheckPipeline stage state).1.run.valid =
      if stage.Decides then some (!hasError stage.outcomes) else state.run.valid := by
  obtain ⟨metricFilter, started, found, benchmarks, committed⟩ := stage
  cases started
  · rfl
  cases found
  · rfl
  match benchmarks with
  | .error .benchmarkNotFound =>
    cases committed <;> rfl
  | .error (.failed _) =>
    cases committed <;> rfl
  | .ok [] =>
    cases committed <;> rfl
  | .ok (o :: os) =>
    cases committed
    · rfl
    · simp [runCheckPipeline, processSingleTestRun, ChecksStage.Decides, ChecksStage.outcomes]

end Perfana
