import Perfana.Adapt.Pipeline

/-!
# The control group of a run

A run is compared with the ten runs before it, of the same system, environment and
workload, that met their requirements and were not denied, back to the last change
point (`findDefaultControlTestRuns`).

`mem_findDefaultControlTestRuns`: a run is in the control group of a later one as
long as at most ten such runs started since.
-/

namespace Perfana

open Table

/-- Of the organization of a run, or of none; of any if the run has none. -/
def ofOrganization (organizationId other : Option String) : Bool :=
  organizationId = none ∨ other = organizationId ∨ other = none

/-- A time is known to lie before another. -/
def before : Option ℤ → Option ℤ → Bool
  | some a, some b => a < b
  | _, _ => false

namespace TestRun

variable (run : TestRun)

/-- The differences of the run were denied. -/
def isDenied : Bool := run.adaptConfig.bind AdaptConfig.differencesAccepted = some .DENIED

/-- The run may be compared with, as far as its verdict goes. -/
def isControl : Bool :=
  !run.isDenied &&
    (run.meetsRequirement = some true || run.meetsRequirement = none || run.isBaseline)

end TestRun

namespace AdaptDatabase

variable {K Sk : Type} (db : AdaptDatabase K Sk) (testRunId : String) (run : TestRun)

/-- The last change point up to a run, with its start. -/
def detectChangePoint : Option (String × ℤ) :=
  let found := db.changePoints.filterMap fun cp => do
    let startTime ← (← db.testRuns.get cp.testRunId).startTime
    let own ← run.startTime
    if (⟨cp.systemUnderTestId, cp.testEnvironment, cp.workload⟩ : CompareScope) =
        run.compareScope ∧ startTime ≤ own ∧ ofOrganization run.organizationId cp.organizationId
    then some (cp.testRunId, startTime) else none
  (newest Prod.snd 1 found).head?

/-- The runs that a run may be compared with. -/
def controlCandidates (changePoint : Option (String × ℤ)) : List (String × TestRun) :=
  db.testRuns.rows.filter fun row => row.2.compareScope = run.compareScope ∧
    row.1 ≠ testRunId ∧ before row.2.startTime run.startTime ∧ row.2.endTime.isSome ∧
    (∀ cp ∈ changePoint, cp.2 ≤ row.2.startTime.getD 0) ∧
    ofOrganization run.organizationId row.2.organizationId ∧ row.2.isControl

/-- The last ten of them, none if the run is a change point itself. -/
def findDefaultControlTestRuns (changePoint : Option (String × ℤ)) : List String :=
  let result := newest (fun row => row.2.startTime.getD 0) 10
    (db.controlCandidates testRunId run changePoint)
  if changePoint.map Prod.fst = some testRunId then [] else result.map Prod.fst

/-- The control group of a run. -/
def controlGroupOf : ControlGroup where
  controlGroupId := testRunId
  testRuns := some (db.findDefaultControlTestRuns testRunId run (db.detectChangePoint run))
  organizationId := run.organizationId
  teamId := run.teamId

/-- Creates the control group of a run, if there is the run. -/
def createControlGroupForTestRun : Option (AdaptDatabase K Sk) := do
  let run ← db.testRuns.get testRunId
  return { db with
    controlGroups := db.controlGroups.insert (fun _ new => new) testRunId
      (db.controlGroupOf testRunId run) }

/-- The tables that say which dashboards and runs an organization has. -/
def organizationTables : OrganizationTables where
  applicationDashboards := db.applicationDashboards
  dynatraceQueries := db.dynatraceQueries
  testRuns := db.testRuns.rows.map fun row => (row.1, row.2.organizationId)

/-- What the statistics of a control group are computed from. -/
def aggregationInput (functions : Database K Sk) : AggregationInput K Sk where
  db := functions
  tables := db.organizationTables
  metricStatistics := db.metricStatistics
  samples := db.samples

/-- Computes the statistics of the control group of a run. -/
def calculateControlGroupStatistics [Field K] [LinearOrder K] (functions : Database K Sk) :
    AdaptDatabase K Sk :=
  { db with
    controlGroupStatistics := ((db.aggregationInput functions).calculateStatisticsForControlGroup
      (db.controlGroups.get testRunId) db.controlGroupStatistics).1 }

/-! ## The window -/

variable {db testRunId run}

/-- Without change points, none is detected. -/
theorem detectChangePoint_eq_none (h : db.changePoints = []) : db.detectChangePoint run = none := by
  rw [detectChangePoint, h]
  rfl

/-- A run that may be compared with is in the control group of a later run if at most
    ten such runs, itself included, started no earlier. -/
theorem mem_findDefaultControlTestRuns {id : String} {control : TestRun}
    (hcontrol : (id, control) ∈ db.controlCandidates testRunId run none)
    (hwindow : ((db.controlCandidates testRunId run none).filter fun row =>
      control.startTime.getD 0 ≤ row.2.startTime.getD 0).length ≤ 10) :
    id ∈ db.findDefaultControlTestRuns testRunId run none :=
  List.mem_map.2 ⟨(id, control), mem_newest hcontrol hwindow, rfl⟩

end AdaptDatabase

end Perfana
