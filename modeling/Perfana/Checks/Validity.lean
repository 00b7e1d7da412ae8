import Mathlib.Data.Rat.Floor
import Perfana.Checks.Pipeline
import Perfana.Lib.Run

/-!
# Whether a run is valid

A pass over a run evaluates its checks, and then the sanity of its data. Each of
the two stages decides on its own whether the run is valid, and the last one to
write has its way: data that looks sane makes a run valid again whose checks
failed.

* `runPass_reflects_iff`: a pass leaves the run valid only if neither stage found
  anything wrong, exactly if the stage that wrote last did not overlook what the
  other one found;
* `run_validityReflects`: so it is along every run of such passes;
* `checks_error_overwritten`: a run whose checks failed is made valid by the
  sanity check.
-/

namespace Perfana

/-! ## The data sanity check -/

/-- A metric with few data points. -/
structure SparseMetric where
  metricName : String
  dashboardLabel : String
  panelTitle : String
  /-- The number of data points. -/
  dataPoints : ℕ
  deriving DecidableEq, Repr

/-- A metric that may be sparse. -/
structure SparseExclusion where
  dashboardLabel : String
  metricName : String
  deriving DecidableEq, Repr

/-- The collection of the data of a run. -/
structure CollectionSummary where
  /-- The number of sources. -/
  totalSources : ℕ
  /-- The coverage, in percent. -/
  coverage : ℚ
  /-- The number of failed ranges. -/
  failedRanges : ℕ
  deriving DecidableEq, Repr

/-- The number of rows that ADAPT left for a run. -/
structure AdaptCounts where
  /-- The results. -/
  adaptCount : ℕ
  /-- The statistics of the control group. -/
  baselineCount : ℕ
  /-- The change points at the run. -/
  isChangepoint : ℕ
  deriving DecidableEq, Repr

/-- What the queries of the sanity check return, or the error they throw. -/
structure SanityData where
  /-- The panels of the run, and the dashboards that have panels. -/
  panels : Except String (ℕ × ℕ)
  hasMetrics : Except String Bool
  /-- The metrics with fewer data points than the limit. -/
  sparse : Except String (List SparseMetric)
  /-- The metrics that are allowed to be sparse. -/
  userExclusions : Except String (List SparseExclusion)
  /-- The statistics of the run, and those of them that miss all data. -/
  statistics : Except String (ℕ × ℕ)
  /-- Whether a sample is outside the ramp-up period. -/
  hasSteadyState : Except String Bool
  /-- The collection of its data. -/
  collection : Except String CollectionSummary
  /-- The number of sources with failed ranges. -/
  sourcesWithFailures : Except String ℕ
  /-- The rows of ADAPT. -/
  adapt : Except String AdaptCounts
  /-- Whether the verdict is written. -/
  updated : Except String Unit

/-- The limits of the sanity check. -/
structure SanityLimits where
  /-- The least number of data points, `SANITY_CHECK_MIN_DATA_POINTS`. -/
  minDataPoints : ℕ := 5
  /-- The least coverage in percent, `SANITY_CHECK_MIN_COVERAGE`. -/
  minCoverage : ℕ := 80

/-- What the sanity check found so far. -/
structure Findings where
  /-- The reasons why the run is not valid. -/
  reasons : List String := []
  warnings : List String := []
  deriving DecidableEq, Repr

/-- The sanity check notes its findings until a query throws. -/
abbrev Sanity := ExceptT String (StateM Findings)

namespace Sanity

/-- A reason why the run is not valid. -/
def reason (text : String) : Sanity Unit :=
  modify fun found => { found with reasons := found.reasons ++ [text] }

def warning (text : String) : Sanity Unit :=
  modify fun found => { found with warnings := found.warnings ++ [text] }

/-- What a query returns. -/
def query {α : Type} (result : Except String α) : Sanity α := ExceptT.mk (pure result)

end Sanity

/-- The nearest integer. -/
def roundHalfUp (q : ℚ) : ℤ := ⌊q + 1 / 2⌋

/-- The panels that hold a single point by construction. -/
def SCENARIO_LEVEL_PANEL_TITLES : List String :=
  ["Error Count", "Avg Active Threads", "Max Active Threads"]

/-- Metrics that are sparse by nature, or whose sparseness the user accepts, are
    left out. -/
def reportedSparseMetrics (sparse : List SparseMetric) (userExclusions : List SparseExclusion) :
    List SparseMetric :=
  let threadMetrics := ["avg_active_threads", "max_active_threads", "total", "error_count"]
  let perScenario := fun m : SparseMetric =>
    "Performance test metrics".toList.isPrefixOf m.dashboardLabel.toList &&
      ("Request ".toList.isPrefixOf m.panelTitle.toList ||
        "Transaction ".toList.isPrefixOf m.panelTitle.toList ||
        SCENARIO_LEVEL_PANEL_TITLES.contains m.panelTitle)
  let excluded := fun m : SparseMetric => userExclusions.any fun e =>
    trim e.dashboardLabel == trim m.dashboardLabel && trim e.metricName == trim m.metricName
  sparse.filter fun m => !threadMetrics.contains m.metricName && !perScenario m && !excluded m

/-- The sanity check of a run that was found, in the order of its queries. -/
def sanityCheck (limits : SanityLimits) (run : TestRun) (data : SanityData) : Sanity Unit := do
  match run.startTime, run.endTime with
  | some startTime, some endTime =>
    if endTime ≤ startTime then Sanity.reason "Test run has no start/end time"
  | _, _ => Sanity.reason "Test run has no start/end time"
  let (panelCount, dashboardsWithPanels) ← Sanity.query data.panels
  if dashboardsWithPanels > 0 ∧ panelCount = 0 then
    Sanity.reason
      s!"No dashboard panels found ({dashboardsWithPanels} dashboards with panels configured)"
  let hasMetrics ← Sanity.query data.hasMetrics
  if !hasMetrics then Sanity.reason "No metrics data collected"
  let duration : Option ℚ := do return ((← run.endTime) - (← run.startTime) : ℚ) / 1000
  let seconds := roundHalfUp (duration.getD 0)
  let startOffset := run.analysisStartOffset.getD 0
  let endOffset := run.analysisEndOffset.getD 0
  if let some durationSec := duration then
    if hasMetrics ∧ durationSec > 60 then
      let sparse ← Sanity.query data.sparse
      -- The exclusions of the user are only read if a sparse metric is left.
      let userExclusions ←
        if reportedSparseMetrics sparse [] = [] then pure [] else Sanity.query data.userExclusions
      let reported := reportedSparseMetrics sparse userExclusions
      if reported ≠ [] then
        let examples := (reported.take 3).map fun m =>
          s!"{m.dashboardLabel} / {m.metricName}: {m.dataPoints} points across a {seconds}s run"
        let shown := String.intercalate "; " examples
        let suffix := if reported.length > 3 then s!" and {reported.length - 3} more" else ""
        Sanity.warning (s!"Sparse data: {reported.length} metric(s) have fewer than " ++
          s!"{limits.minDataPoints} data points — {shown}{suffix}")
    if startOffset + endOffset ≥ durationSec then
      Sanity.warning ("Analysis window is zero or negative: " ++
        s!"start offset ({startOffset}s) + end offset ({endOffset}s) " ++
        s!">= total duration ({seconds}s). No data will be included in analysis.")
  if hasMetrics then
    let (totalStats, allMissing) ← Sanity.query data.statistics
    if totalStats = 0 then
      if ← Sanity.query data.hasSteadyState then
        Sanity.reason "Statistics not calculated (metrics exist but no statistics)"
      else
        Sanity.reason ("No steady-state data: every data point falls within the configured " ++
          s!"ramp-up period ({startOffset}s ramp-up, {seconds}s actual duration). " ++
          "Reduce the ramp-up value to include data for analysis.")
    else if (allMissing : ℚ) / totalStats > 1 / 2 then
      let pct := roundHalfUp ((allMissing : ℚ) / totalStats * 100)
      Sanity.reason
        s!"{pct}% of statistics have all-missing data ({allMissing} of {totalStats} metrics)"
  match data.collection with
  -- An error of the collection check is logged, and the check goes on.
  | .error _ => pure ()
  | .ok summary =>
    if summary.totalSources > 0 ∧ summary.coverage < limits.minCoverage then
      Sanity.reason (s!"Data collection coverage is {roundHalfUp summary.coverage}% " ++
        s!"(threshold: {limits.minCoverage}%)")
    if summary.failedRanges > 0 then
      match data.sourcesWithFailures with
      | .error _ => pure ()
      | .ok sources =>
        Sanity.reason s!"{summary.failedRanges} failed collection ranges across {sources} sources"
  if run.adaptConfig.isSome ∧ run.evaluatingAdapt = some .COMPLETED then
    let counts ← Sanity.query data.adapt
    if counts.adaptCount = 0 ∧ counts.baselineCount > 0 ∧ counts.isChangepoint = 0 then
      Sanity.reason "ADAPT analysis completed but no results found"

/-- The sanity check of a run, and what it meets. -/
structure SanityStage where
  /-- Whether the run was found; the check is over if the query throws. -/
  found : Except String Bool
  limits : SanityLimits
  /-- What the queries return. -/
  data : SanityData

namespace SanityStage

variable (stage : SanityStage) (run : TestRun)

/-- The check of a run: how it ends, and what it found until then. -/
def check : Except String Unit × Findings :=
  match stage.found with
  | .error error => (.error error, {})
  | .ok false => (.error "Test run not found", {})
  | .ok true => (sanityCheck stage.limits run stage.data).run.run {}

/-- The reasons that the check of a run finds, until it ends. -/
def reasons : List String := (stage.check run).2.reasons

/-- The check decides the validity of a run: no query throws, and the verdict is
    written. -/
def Decides : Prop := (stage.check run).1.isOk = true ∧ stage.data.updated.isOk = true

instance : Decidable (stage.Decides run) := inferInstanceAs (Decidable (_ ∧ _))

/-- The data sanity check, which never throws. -/
def execute : TestRun :=
  match stage.check run with
  | (.error _, _) => run
  | (.ok _, found) =>
    match stage.data.updated with
    | .error _ => run
    | .ok _ =>
      let valid := found.reasons.isEmpty
      { run with
        valid := some valid
        reasonsNotValid := if valid then none else some found.reasons
        dataWarnings := if found.warnings.isEmpty then none else some found.warnings }

/-- The check leaves the run valid if it found no reason, and invalid if it found
    one; it leaves the validity alone if it decides nothing. -/
theorem execute_valid : (stage.execute run).valid =
    if stage.Decides run then some (stage.reasons run).isEmpty else run.valid := by
  rcases h : stage.check run with ⟨result, found⟩
  cases result with
  | error => simp [execute, Decides, h, Except.isOk, Except.toBool]
  | ok =>
    cases hupdated : stage.data.updated <;>
      simp [execute, Decides, reasons, h, hupdated, Except.isOk, Except.toBool]

end SanityStage

/-! ## Passes -/

/-- A pass over a run: the checks, the stages in between, and the sanity check. A
    stage that is not reached is one that does not start, or does not find the run. -/
structure Pass where
  checks : ChecksStage
  /-- The stages in between. -/
  between : TestRun → TestRun
  /-- They leave the validity alone. -/
  between_valid : ∀ run, (between run).valid = run.valid
  sanity : SanityStage

/-- What a pass found wrong. -/
structure PassReport where
  /-- Whether a check result had an error, or a benchmark failed to process. -/
  checksError : Bool
  /-- The reasons that the sanity check found. -/
  reasons : List String
  deriving DecidableEq, Repr

/-- A run, and what the last pass over it found wrong. -/
structure PassedRun where
  /-- The run. -/
  checked : CheckedRun
  /-- The report of the last pass, if any. -/
  lastPass : Option PassReport
  deriving DecidableEq, Repr

/-- The run is valid only if the last pass found nothing wrong. -/
def ValidityReflects (state : PassedRun) : Prop :=
  ∀ report ∈ state.lastPass, state.checked.run.valid = some true →
    report.checksError = false ∧ report.reasons = []

namespace Pass

variable (pass : Pass) (checked : CheckedRun)

/-- The run as the sanity check finds it. -/
def beforeSanity : TestRun := pass.between (runCheckPipeline pass.checks checked).1.run

/-- The run after the pass. -/
def runPass : PassedRun where
  checked :=
    { (runCheckPipeline pass.checks checked).1 with
      run := pass.sanity.execute (pass.beforeSanity checked) }
  lastPass := some
    { checksError := hasError pass.checks.outcomes
      reasons := pass.sanity.reasons (pass.beforeSanity checked) }

/-- The stage that decides last does not overlook what the other one finds. If the
    sanity check decides, it finds a reason where the checks had an error; if only
    the checks decide, they had an error where the sanity check finds a reason; if
    neither does, a valid run has nothing wrong. -/
def Heeds : Prop :=
  let reasons := pass.sanity.reasons (pass.beforeSanity checked)
  if pass.sanity.Decides (pass.beforeSanity checked) then pass.checks.HadError → reasons ≠ []
  else if pass.checks.Decides then reasons ≠ [] → pass.checks.HadError
  else checked.run.valid = some true → ¬pass.checks.HadError ∧ reasons = []

instance : Decidable (pass.Heeds checked) := by
  unfold Heeds
  infer_instance

/-- A pass leaves the run valid only if it found nothing wrong, exactly if the stage
    that decides last does not overlook what the other one finds. -/
theorem runPass_reflects_iff : ValidityReflects (pass.runPass checked) ↔ pass.Heeds checked := by
  have hchecks : (pass.beforeSanity checked).valid =
      if pass.checks.Decides then some (!hasError pass.checks.outcomes)
      else checked.run.valid := by
    rw [beforeSanity, pass.between_valid, runCheckPipeline_valid]
  simp only [ValidityReflects, runPass, Option.mem_some_iff, forall_eq', Heeds,
    SanityStage.execute_valid, hchecks, ChecksStage.HadError]
  generalize pass.sanity.reasons (pass.beforeSanity checked) = reasons
  generalize hasError pass.checks.outcomes = error
  split
  · cases error <;> cases reasons <;> simp
  · split
    · cases error <;> cases reasons <;> simp
    · cases error <;> simp

end Pass

/-- A pass over a run. -/
def stepPass (state : PassedRun) (pass : Pass) : Option PassedRun :=
  some (pass.runPass state.checked)

/-- Along every run of passes of which the stage that decides last never overlooks
    what the other one finds, the run is valid only if the last pass found nothing
    wrong. -/
theorem run_validityReflects {checked : CheckedRun} {passes : List Pass} {state : PassedRun}
    (h : Run stepPass (fun state pass => pass.Heeds state.checked) ⟨checked, none⟩ passes state) :
    ValidityReflects state := by
  let Inv := fun (_ : List Pass) (state : PassedRun) => ValidityReflects state
  have hinit : Inv [] ⟨checked, none⟩ := by
    intro report hreport
    cases hreport
  refine h.invariant hinit ?_
  intro _ state pass after _ hok hstep
  obtain rfl : pass.runPass state.checked = after := Option.some.inj hstep
  exact (pass.runPass_reflects_iff state.checked).2 hok

/-! ## A run whose checks failed -/

/-- A run of ten minutes that was not analysed yet. -/
def plainRun : TestRun where
  testRunId := "run"
  systemUnderTestId := "system"
  testEnvironment := "environment"
  workload := "workload"
  organizationId := some "organization"
  teamId := none
  startTime := some 0
  endTime := some 600000
  duration := some 600
  analysisStartOffset := none
  analysisEndOffset := none
  adaptConfig := none
  evaluatingChecks := none
  evaluatingAdapt := none
  consolidatedResult := none
  valid := none
  reasonsNotValid := none
  dataWarnings := none

/-- A check of one benchmark, ending with the status given. -/
def checksOf (status : CheckStatus) : ChecksStage where
  metricFilter := {}
  started := true
  found := true
  benchmarks := .ok [.result ⟨"benchmark", none, none, none, status, none⟩]
  committed := true

/-- A sanity check of complete data, but for the metrics if there are none. -/
def sanityOf (hasMetrics : Bool) : SanityStage where
  found := .ok true
  limits := {}
  data :=
    { panels := .ok (1, 1)
      hasMetrics := .ok hasMetrics
      sparse := .ok []
      userExclusions := .ok []
      statistics := .ok (1, 0)
      hasSteadyState := .ok true
      collection := .ok ⟨1, 100, 0⟩
      sourcesWithFailures := .ok 0
      adapt := .ok ⟨0, 0, 0⟩
      updated := .ok () }

/-- A pass of such a check and such a sanity check. -/
def passOf (status : CheckStatus) (hasMetrics : Bool) : Pass :=
  ⟨checksOf status, id, fun _ => rfl, sanityOf hasMetrics⟩

/-- The sanity check makes a run valid whose checks had an error. -/
theorem checks_error_overwritten :
    (runCheckPipeline (checksOf .ERROR) ⟨plainRun, []⟩).1.run.valid = some false ∧
      ((passOf .ERROR true).runPass ⟨plainRun, []⟩).checked.run.valid = some true ∧
      ¬ValidityReflects ((passOf .ERROR true).runPass ⟨plainRun, []⟩) := by
  have hvalid : ((passOf .ERROR true).runPass ⟨plainRun, []⟩).checked.run.valid = some true := by
    decide +kernel
  refine ⟨by decide, hvalid, fun h => ?_⟩
  have hreport := (h _ rfl hvalid).1
  exact absurd hreport (by decide)

/-- A pass without errors, and one whose errors come with a lack of metrics. -/
theorem run_validityReflects_twoPasses :
    ∃ state, Run stepPass (fun state pass => pass.Heeds state.checked) ⟨⟨plainRun, []⟩, none⟩
        [passOf .COMPLETE true, passOf .ERROR false] state ∧ ValidityReflects state := by
  have hfirst : Run stepPass (fun state pass => pass.Heeds state.checked)
      ⟨⟨plainRun, []⟩, none⟩ [passOf .COMPLETE true] _ :=
    .snoc .start (by decide +kernel) rfl
  have hsecond := Run.snoc (e := passOf .ERROR false) hfirst (by decide +kernel) rfl
  exact ⟨_, hsecond, run_validityReflects hsecond⟩

end Perfana
