import Perfana.Adapt.Comparison
import Perfana.Adapt.ControlGroupStatistics

/-!
# The results of a run

The statistics of a run are compared, metric by metric, with those of its control
group, and the results stored (`processAdaptResults`); results of metrics that are
gone are deleted (`deleteOrphanedResults`). The regressions of its control runs are
compared again, with the control groups they were found against
(`storeTrackedResults`), and all of it is drawn together in the conclusion of the
run (`generateConclusions`).

A statement that inserts two rows with one key fails, and with it the analysis.
-/

namespace Perfana

open Table

/-! ## The tables -/

/-- A row of `ds_change_points`. -/
structure ChangePoint where
  testRunId : String
  systemUnderTestId : String
  testEnvironment : String
  workload : String
  organizationId : Option String
  deriving DecidableEq, Repr

/-- What identifies a result. -/
structure ResultKey where
  testRunId : String
  /-- The control group it was compared with. -/
  controlGroupId : String
  /-- The metric. -/
  key : MetricKey
  deriving DecidableEq, Repr

/-- A row of `ds_adapt_results`, its keys aside. -/
structure AdaptResult (K : Type*) where
  id : String
  metricsSourceId : Option String
  /-- How it was compared. -/
  compareConfig : CompareConfig K
  comparison : Comparison K
  deriving DecidableEq, Repr

/-- What identifies a tracked result. -/
structure TrackedKey where
  testRunId : String
  /-- The metric. -/
  key : MetricKey
  trackedTestRunId : String
  deriving DecidableEq, Repr

/-- A row of `ds_adapt_tracked_results`, its keys aside. -/
structure TrackedResult (K : Type*) where
  id : String
  /-- The control group of the run that is tracked. -/
  controlGroupId : String
  /-- The result that is tracked. -/
  trackedDifferenceId : String
  trackedConclusion : MetricConclusion
  metricsSourceId : Option String
  /-- How it was compared. -/
  compareConfig : CompareConfig K
  comparison : Comparison K
  deriving DecidableEq, Repr

/-- The conclusion about a run. -/
inductive AdaptVerdict
  | SKIPPED
  | REGRESSION
  | PASSED
  | INSUFFICIENT_DATA
  deriving DecidableEq, Repr

/-- The details of a conclusion. -/
inductive ConclusionDetails
  /-- How many results there are, of each kind. -/
  | counts (totalResults regressionCount improvementCount differenceCount noDifferenceCount
      incomparableCount trackedRegressionCount : ℕ)
  /-- Why the run was excluded. -/
  | excluded (message cause : String) (controlRuns : List String)
  deriving DecidableEq, Repr

/-- A row of `ds_adapt_conclusion`, its key aside. -/
structure AdaptConclusion where
  controlGroupId : String
  regressions : List String
  improvements : List String
  /-- The results that are other differences. -/
  differences : List String
  trackedRegressions : List String
  conclusion : AdaptVerdict
  details : ConclusionDetails
  /-- When it was written. -/
  updatedAt : ℤ
  deriving DecidableEq, Repr

/-- The tables that the analysis reads and writes. -/
structure AdaptDatabase (K Sk : Type) where
  testRuns : Table String TestRun
  changePoints : List ChangePoint
  /-- The Grafana dashboards, each with its organization. -/
  applicationDashboards : List (String × String)
  /-- The dashboards of the Dynatrace queries, if any, each with its organization. -/
  dynatraceQueries : List (Option String × String)
  /-- How metrics are compared. -/
  compareConfigs : List (CompareConfigRow K)
  samples : List (MetricSample K)
  /-- The statistics of the runs. -/
  metricStatistics : List (MetricStatistics K Sk)
  controlGroups : Table String ControlGroup
  /-- Their statistics. -/
  controlGroupStatistics : StoredStatistics K
  results : Table ResultKey (AdaptResult K)
  trackedResults : Table TrackedKey (TrackedResult K)
  conclusions : Table String AdaptConclusion

/-- What the deployment provides. -/
structure AdaptEnvironment where
  /-- The least number of samples, as configured. -/
  ADAPT_MIN_SAMPLE_COUNT : Option ℚ
  newResultId : ResultKey → String
  newTrackedId : TrackedKey → String

namespace AdaptDatabase

variable {K Sk : Type} [Field K] [LinearOrder K]

section

omit [Field K] [LinearOrder K]

variable (db : AdaptDatabase K Sk)

def validDashboards : List String :=
  db.applicationDashboards.map Prod.fst ++ db.dynatraceQueries.filterMap Prod.fst

/-- The run has statistics. -/
def hasStatistics (testRunId : String) : Bool :=
  db.metricStatistics.any fun ms => ms.testRunId = testRunId

/-- The run has statistics of a metric. -/
def hasMetric (testRunId : String) (key : MetricKey) : Bool :=
  db.metricStatistics.any fun ms => ms.testRunId = testRunId ∧ ms.key = key

/-- The results of a run. -/
def resultsOf (testRunId : String) : List (ResultKey × AdaptResult K) :=
  db.results.rows.filter fun row => row.1.testRunId = testRunId

/-- The scope of the first of some runs. -/
def testRunInfo (testRunIds : List String) : Option CompareScope :=
  (db.testRuns.rows.find? fun row => row.1 ∈ testRunIds).map fun row => row.2.compareScope

/-- The rows of a control group that statistics are joined with: those of the metric's
    name and panel, on whatever dashboard, whose metrics sources meet a condition. -/
def withControl (controlGroupId : String) (ms : MetricStatistics K Sk)
    (sameSource : Option String → Option String → Bool) : List (Option (ControlGroupStatistics K)) :=
  (leftJoin db.controlGroupStatistics.rows fun row => row.1.1 = controlGroupId ∧
    sameSource row.2.metricsSourceId ms.metadata.metricsSourceId ∧
    row.1.2.panelId = ms.key.panelId ∧ row.1.2.metricName = ms.key.metricName).map
      (Option.map Prod.snd)

theorem some_mem_withControl {db : AdaptDatabase K Sk} {controlGroupId : String}
    {ms : MetricStatistics K Sk} {sameSource : Option String → Option String → Bool}
    {row : ControlGroupStatistics K} :
    some row ∈ db.withControl controlGroupId ms sameSource ↔
      ∃ key, db.controlGroupStatistics.get (controlGroupId, key) = some row ∧
        sameSource row.metricsSourceId ms.metadata.metricsSourceId ∧
        key.panelId = ms.key.panelId ∧ key.metricName = ms.key.metricName := by
  rw [withControl, List.mem_map]
  constructor
  · rintro ⟨joined, hjoined, heq⟩
    obtain ⟨⟨⟨group, key⟩, row'⟩, rfl, rfl⟩ := Option.map_eq_some_iff.1 heq
    obtain ⟨hrow, hcond⟩ := some_mem_leftJoin.1 hjoined
    obtain ⟨rfl, hsource, hpanel, hname⟩ := of_decide_eq_true hcond
    exact ⟨key, mem_rows.1 hrow, hsource, hpanel, hname⟩
  · rintro ⟨key, hrow, hsource, hpanel, hname⟩
    refine ⟨some ((controlGroupId, key), row), some_mem_leftJoin.2 ⟨mem_rows.2 hrow, ?_⟩, rfl⟩
    exact decide_eq_true ⟨rfl, hsource, hpanel, hname⟩

/-- Statistics are kept if no row is joined. -/
theorem withControl_ne_nil (db : AdaptDatabase K Sk) (controlGroupId : String)
    (ms : MetricStatistics K Sk) (sameSource : Option String → Option String → Bool) :
    db.withControl controlGroupId ms sameSource ≠ [] :=
  mt List.map_eq_nil_iff.1 (leftJoin_ne_nil _ _)

/-- Runs of one scope have that scope. -/
theorem testRunInfo_eq_some {db : AdaptDatabase K Sk} {testRunIds : List String}
    {scope : CompareScope} {testRunId : String} {run : TestRun} (hid : testRunId ∈ testRunIds)
    (hrun : db.testRuns.get testRunId = some run)
    (hscope : ∀ id ∈ testRunIds, ∀ run ∈ db.testRuns.get id, run.compareScope = scope) :
    db.testRunInfo testRunIds = some scope := by
  rw [testRunInfo]
  cases hfind : db.testRuns.rows.find? fun row => row.1 ∈ testRunIds with
  | none =>
    have := List.find?_eq_none.1 hfind _ (mem_rows.2 hrun)
    exact absurd (decide_eq_true hid) this
  | some row =>
    have hmem : row.1 ∈ testRunIds := by simpa using List.find?_some hfind
    have hrow := mem_rows.1 (List.mem_of_find?_eq_some hfind)
    exact congrArg some (hscope row.1 hmem row.2 hrow)

end

/-- Two sources are equal, or both absent. -/
def notDistinct (a b : Option String) : Bool := a = b

/-- Two sources are known and equal. -/
def sqlEq (a b : Option String) : Bool := a.isSome ∧ a = b

variable (env : AdaptEnvironment) (db : AdaptDatabase K Sk) (testRunIds : List String)

/-! ## The results -/

/-- The statistics of the runs that are compared. -/
def testMetrics : List (MetricStatistics K Sk) :=
  db.metricStatistics.filter fun ms =>
    ms.testRunId ∈ testRunIds ∧ ms.key.applicationDashboardId ∈ db.validDashboards

/-- The results that are inserted. -/
def finalResults (scope : CompareScope) : List (ResultKey × AdaptResult K) := do
  let ms ← db.testMetrics testRunIds
  let control ← db.withControl ms.testRunId ms notDistinct
  let compareConfig ← resolve db.compareConfigs scope ms.key
  -- The control group is named after the run.
  let key : ResultKey := ⟨ms.testRunId, ms.testRunId, ms.key⟩
  let minSampleCount := adaptMinSampleCount env.ADAPT_MIN_SAMPLE_COUNT
  return (key,
    { id := env.newResultId key
      metricsSourceId := ms.metadata.metricsSourceId
      compareConfig
      comparison := compareMetric compareConfig minSampleCount ms control })

/-- Updating a result in conflict keeps its identifier, and its metrics source if
    the new one is not known. -/
def updateResult (old new : AdaptResult K) : AdaptResult K :=
  { new with id := old.id, metricsSourceId := new.metricsSourceId.or old.metricsSourceId }

/-- Compares the metrics of the runs with their control groups. -/
def processAdaptResults : Option (AdaptDatabase K Sk) := do
  let scope ← db.testRunInfo testRunIds
  let new ← ofRows (db.finalResults env testRunIds scope)
  return { db with results := upsert updateResult new db.results }

/-- Deletes the results of metrics that a run has no statistics of, unless it has none
    at all. -/
def deleteOrphanedResults : AdaptDatabase K Sk :=
  { db with
    results := db.results.filter fun key _ => !(key.testRunId ∈ testRunIds ∧
      db.hasStatistics key.testRunId ∧ ¬db.hasMetric key.testRunId key.key) }

/-! ## The tracked results -/

/-- The labels of the results that are tracked. -/
def trackedLabels : List AdaptLabel := [.increase, .decrease, .regression, .improvement]

/-- The control runs of the runs, as far as their differences are not accepted. -/
def filteredTrackedTestRuns : List (String × String) := do
  let group ← db.controlGroups.rows.filter fun group => group.1 ∈ testRunIds
  let trackedTestRunId ← (group.2.testRuns.getD []).dedup
  let run ← (db.testRuns.get trackedTestRunId).toList
  if (run.adaptConfig.bind AdaptConfig.differencesAccepted) ≠ some .ACCEPTED ∧
      (run.adaptConfig.bind AdaptConfig.mode) ≠ some .DEBUG then
    return (group.1, trackedTestRunId)
  else []

/-- The full differences of a run. -/
def historicalRegressions (trackedTestRunId : String) : List (ResultKey × AdaptResult K) :=
  (db.resultsOf trackedTestRunId).filter fun row =>
    row.2.comparison.conclusion.label ∈ trackedLabels ∧ ¬row.2.comparison.conclusion.ignore

/-- The tracked results that are inserted. -/
def finalTrackedResults (scope : CompareScope) : List (TrackedKey × TrackedResult K) := do
  let (currentTestRunId, trackedTestRunId) ← db.filteredTrackedTestRuns testRunIds
  let (historical, result) ← db.historicalRegressions trackedTestRunId
  let ms ← db.metricStatistics.filter fun ms => ms.testRunId = currentTestRunId ∧
    sqlEq ms.metadata.metricsSourceId result.metricsSourceId ∧
    ms.key.panelId = historical.key.panelId ∧ ms.key.metricName = historical.key.metricName
  -- Compared with the control group that the difference was found against.
  let control ← db.withControl historical.controlGroupId ms sqlEq
  let compareConfig ← resolve db.compareConfigs scope ms.key
  let key : TrackedKey := ⟨ms.testRunId, ms.key, trackedTestRunId⟩
  let minSampleCount := adaptMinSampleCount env.ADAPT_MIN_SAMPLE_COUNT
  return (key,
    { id := env.newTrackedId key
      controlGroupId := historical.controlGroupId
      trackedDifferenceId := result.id
      trackedConclusion := result.comparison.conclusion
      metricsSourceId := ms.metadata.metricsSourceId
      compareConfig
      comparison := compareMetric compareConfig minSampleCount ms control })

/-- Updating a tracked result in conflict keeps its identifier, its control group and
    the result it tracks, and its metrics source if the new one is not known. -/
def updateTrackedResult (old new : TrackedResult K) : TrackedResult K :=
  { new with
    id := old.id
    controlGroupId := old.controlGroupId
    trackedDifferenceId := old.trackedDifferenceId
    metricsSourceId := new.metricsSourceId.or old.metricsSourceId }

/-- Deletes the tracked results of the runs. -/
def deleteTrackedResults : AdaptDatabase K Sk :=
  { db with trackedResults := db.trackedResults.filter fun key _ => !(key.testRunId ∈ testRunIds) }

/-- Compares the metrics of the runs with the control groups of the control runs that
    had differences. -/
def storeTrackedResults : Option (AdaptDatabase K Sk) :=
  match db.testRunInfo testRunIds with
  | none => some db
  | some scope => do
    let new ← ofRows (db.finalTrackedResults env testRunIds scope)
    return { db with trackedResults := upsert updateTrackedResult new db.trackedResults }

/-! ## The conclusions -/

/-- The identifiers of the results with some labels that are not ignored. -/
def idsOf (results : List (ResultKey × AdaptResult K)) (labels : List AdaptLabel) : List String :=
  (results.filter fun row => row.2.comparison.conclusion.label ∈ labels ∧
    ¬row.2.comparison.conclusion.ignore).map fun row => row.2.id

/-- The labels of the differences that are neither regressions nor improvements. -/
def differenceLabels : List AdaptLabel :=
  [.increase, .decrease, .partialIncrease, .partialDecrease, .partialImprovement,
    .partialRegression]

/-- The identifiers of the tracked results of a run that are regressions. -/
def trackedRegressionsOf (testRunId : String) : List String :=
  (db.trackedResults.rows.filter fun row => row.1.testRunId = testRunId ∧
    row.2.comparison.conclusion.label = .regression ∧
    ¬row.2.comparison.conclusion.ignore).map fun row => row.2.id

/-- The conclusion about some results of a run. -/
def conclude (now : ℤ) (testRunId controlGroupId : String)
    (results : List (ResultKey × AdaptResult K)) : AdaptConclusion :=
  let regressions := idsOf results [.regression]
  let improvements := idsOf results [.improvement]
  let differences := idsOf results differenceLabels
  let trackedRegressions := db.trackedRegressionsOf testRunId
  let totalComparableResults :=
    results.countP fun row => ¬row.2.comparison.conclusion.ignore
  { controlGroupId, regressions, improvements, differences, trackedRegressions
    conclusion :=
      if totalComparableResults = 0 then .SKIPPED
      else if 0 < regressions.length ∨ 0 < trackedRegressions.length then .REGRESSION
      else .PASSED
    details := .counts totalComparableResults regressions.length improvements.length
      differences.length (idsOf results [.noDifference]).length
      (idsOf results [.incomparable]).length trackedRegressions.length
    updatedAt := now }

/-- The conclusions that are inserted: one for each run and control group with results. -/
def conclusionRows (now : ℤ) : List (String × AdaptConclusion) :=
  let results := db.results.rows.filter fun row => row.1.testRunId ∈ testRunIds
  let groups := (results.map fun row => (row.1.testRunId, row.1.controlGroupId)).dedup
  groups.map fun group => (group.1, db.conclude now group.1 group.2 (results.filter fun row =>
    (row.1.testRunId, row.1.controlGroupId) = group))

/-- Draws the results of the runs together. -/
def generateConclusions (now : ℤ) : Option (AdaptDatabase K Sk) := do
  let new ← ofRows (db.conclusionRows testRunIds now)
  return { db with conclusions := upsert (fun _ new => new) new db.conclusions }

/-! ## What the statements leave -/

variable {env db testRunIds} {db' : AdaptDatabase K Sk} {testRunId : String}

theorem processAdaptResults_eq_some (h : db.processAdaptResults env testRunIds = some db') :
    ∃ scope new, db.testRunInfo testRunIds = some scope ∧
      ofRows (db.finalResults env testRunIds scope) = some new ∧
      db' = { db with results := upsert updateResult new db.results } := by
  obtain ⟨scope, hscope, h⟩ := Option.bind_eq_some_iff.1 h
  obtain ⟨new, hnew, h⟩ := Option.bind_eq_some_iff.1 h
  exact ⟨scope, new, hscope, hnew, (Option.some.inj h).symm⟩

theorem storeTrackedResults_eq_some (h : db.storeTrackedResults env testRunIds = some db') :
    ∃ trackedResults, db' = { db with trackedResults } := by
  rw [storeTrackedResults] at h
  split at h
  · exact ⟨db.trackedResults, (Option.some.inj h).symm⟩
  · obtain ⟨new, -, h⟩ := Option.bind_eq_some_iff.1 h
    exact ⟨_, (Option.some.inj h).symm⟩

/-- What is found is what is stored, once the tracked results of the runs are deleted. -/
theorem get_storeTrackedResults {scope : CompareScope} {k : TrackedKey} {r : TrackedResult K}
    (h : (db.deleteTrackedResults testRunIds).storeTrackedResults env testRunIds = some db')
    (hscope : db.testRunInfo testRunIds = some scope) (hid : k.testRunId ∈ testRunIds)
    (hr : (k, r) ∈ db.finalTrackedResults env testRunIds scope) :
    db'.trackedResults.get k = some r := by
  have hscope' : (db.deleteTrackedResults testRunIds).testRunInfo testRunIds = some scope := hscope
  rw [storeTrackedResults, hscope'] at h
  obtain ⟨new, hnew, h⟩ := Option.bind_eq_some_iff.1 h
  rw [← Option.some.inj h]
  have hdeleted : (db.deleteTrackedResults testRunIds).trackedResults.get k = none := by
    rw [deleteTrackedResults]
    dsimp only
    rw [get_filter]
    simp [hid]
  dsimp only
  rw [get_upsert, hdeleted, (mem_of_ofRows hnew k r).2 hr]

omit [Field K] [LinearOrder K] in
theorem generateConclusions_eq_some {now : ℤ}
    (h : db.generateConclusions testRunIds now = some db') :
    ∃ new, ofRows (db.conclusionRows testRunIds now) = some new ∧
      db' = { db with conclusions := upsert (fun _ new => new) new db.conclusions } := by
  obtain ⟨new, hnew, h⟩ := Option.bind_eq_some_iff.1 h
  exact ⟨new, hnew, (Option.some.inj h).symm⟩

theorem mem_finalResults {scope : CompareScope} {k : ResultKey} {r : AdaptResult K} :
    (k, r) ∈ db.finalResults env testRunIds scope ↔
      ∃ ms ∈ db.testMetrics testRunIds, ∃ control ∈ db.withControl ms.testRunId ms notDistinct,
        ∃ compareConfig ∈ resolve db.compareConfigs scope ms.key,
          k = ⟨ms.testRunId, ms.testRunId, ms.key⟩ ∧
          r = ⟨env.newResultId k, ms.metadata.metricsSourceId, compareConfig,
            compareMetric compareConfig (adaptMinSampleCount env.ADAPT_MIN_SAMPLE_COUNT) ms
              control⟩ := by
  simp only [finalResults, List.bind_eq_flatMap, List.mem_flatMap, List.pure_def,
    List.mem_singleton, Prod.mk.injEq]
  constructor
  · rintro ⟨ms, hms, control, hcontrol, config, hconfig, rfl, rfl⟩
    exact ⟨ms, hms, control, hcontrol, config, hconfig, rfl, rfl⟩
  · rintro ⟨ms, hms, control, hcontrol, config, hconfig, rfl, rfl⟩
    exact ⟨ms, hms, control, hcontrol, config, hconfig, rfl, rfl⟩

/-- The metrics of a run are compared with the control groups of its control runs whose
    differences are not accepted, for each full difference of them. -/
theorem mem_finalTrackedResults {scope : CompareScope} {group : ControlGroup}
    {run : TestRun} {trackedTestRunId : String} {historical : ResultKey} {result : AdaptResult K}
    {ms : MetricStatistics K Sk} {control : Option (ControlGroupStatistics K)}
    {compareConfig : CompareConfig K}
    (hgroup : db.controlGroups.get ms.testRunId = some group) (hid : ms.testRunId ∈ testRunIds)
    (htracked : trackedTestRunId ∈ group.testRuns.getD [])
    (hrun : db.testRuns.get trackedTestRunId = some run)
    (haccepted : run.adaptConfig.bind AdaptConfig.differencesAccepted ≠ some .ACCEPTED)
    (hdebug : run.adaptConfig.bind AdaptConfig.mode ≠ some .DEBUG)
    (hresult : (historical, result) ∈ db.historicalRegressions trackedTestRunId)
    (hms : ms ∈ db.metricStatistics)
    (hsource : sqlEq ms.metadata.metricsSourceId result.metricsSourceId)
    (hpanel : ms.key.panelId = historical.key.panelId)
    (hname : ms.key.metricName = historical.key.metricName)
    (hcontrol : control ∈ db.withControl historical.controlGroupId ms sqlEq)
    (hconfig : compareConfig ∈ resolve db.compareConfigs scope ms.key) :
    ∃ r : TrackedResult K, (⟨ms.testRunId, ms.key, trackedTestRunId⟩, r) ∈
        db.finalTrackedResults env testRunIds scope ∧
      r.comparison = compareMetric compareConfig
        (adaptMinSampleCount env.ADAPT_MIN_SAMPLE_COUNT) ms control := by
  have hpair : (ms.testRunId, trackedTestRunId) ∈ db.filteredTrackedTestRuns testRunIds := by
    simp only [filteredTrackedTestRuns, List.bind_eq_flatMap, List.mem_flatMap, List.pure_def]
    refine ⟨(ms.testRunId, group), List.mem_filter.2 ⟨mem_rows.2 hgroup, decide_eq_true hid⟩,
      trackedTestRunId, List.mem_dedup.2 htracked, run, by rw [hrun]; exact List.mem_cons_self, ?_⟩
    rw [if_pos ⟨haccepted, hdebug⟩]
    exact List.mem_singleton_self _
  refine ⟨
    { id := env.newTrackedId ⟨ms.testRunId, ms.key, trackedTestRunId⟩
      controlGroupId := historical.controlGroupId
      trackedDifferenceId := result.id
      trackedConclusion := result.comparison.conclusion
      metricsSourceId := ms.metadata.metricsSourceId
      compareConfig
      comparison := compareMetric compareConfig
        (adaptMinSampleCount env.ADAPT_MIN_SAMPLE_COUNT) ms control }, ?_, rfl⟩
  simp only [finalTrackedResults, List.bind_eq_flatMap, List.mem_flatMap, List.pure_def]
  exact ⟨_, hpair, _, hresult, ms,
    List.mem_filter.2 ⟨hms, decide_eq_true ⟨rfl, hsource, hpanel, hname⟩⟩, control, hcontrol,
    compareConfig, hconfig, List.mem_singleton_self _⟩

variable (env) in
/-- Every metric that is compared has a result. -/
theorem exists_finalResults (scope : CompareScope) {ms : MetricStatistics K Sk}
    (hms : ms ∈ db.testMetrics testRunIds) :
    ∃ r, (⟨ms.testRunId, ms.testRunId, ms.key⟩, r) ∈ db.finalResults env testRunIds scope := by
  obtain ⟨control, hcontrol⟩ :=
    List.exists_mem_of_ne_nil _ (db.withControl_ne_nil ms.testRunId ms notDistinct)
  obtain ⟨config, hconfig⟩ :=
    List.exists_mem_of_ne_nil _ (resolve_ne_nil db.compareConfigs scope ms.key)
  exact ⟨_, mem_finalResults.2 ⟨ms, hms, control, hcontrol, config, hconfig, rfl, rfl⟩⟩

omit [Field K] [LinearOrder K] in
theorem hasMetric_iff {key : MetricKey} : db.hasMetric testRunId key ↔
    ∃ ms ∈ db.metricStatistics, ms.testRunId = testRunId ∧ ms.key = key := by
  simp [hasMetric]

variable (db testRunId) in
/-- The analysis leaves a result of the run: it has statistics on a dashboard that
    there is, or a result of a metric that it still has statistics of, or results but
    no statistics at all. -/
def KeepsResult : Prop :=
  (∃ ms ∈ db.metricStatistics, ms.testRunId = testRunId ∧
    ms.key.applicationDashboardId ∈ db.validDashboards) ∨
  ∃ row ∈ db.results.rows, row.1.testRunId = testRunId ∧
    (db.hasStatistics testRunId → db.hasMetric testRunId row.1.key)

omit [Field K] [LinearOrder K] in
theorem mem_deleteOrphanedResults {row : ResultKey × AdaptResult K} :
    row ∈ (db.deleteOrphanedResults testRunIds).results.rows ↔ row ∈ db.results.rows ∧
      (row.1.testRunId ∈ testRunIds → db.hasStatistics row.1.testRunId →
        db.hasMetric row.1.testRunId row.1.key) := by
  rw [deleteOrphanedResults, Table.filter, List.mem_filter]
  simp only [Bool.not_eq_true', decide_eq_false_iff_not, not_and, Bool.not_eq_true]
  grind

/-- What is left of the results of the runs. -/
theorem exists_result_iff (hid : testRunId ∈ testRunIds)
    (h : db.processAdaptResults env testRunIds = some db') :
    (∃ row ∈ (db'.deleteOrphanedResults testRunIds).results.rows, row.1.testRunId = testRunId) ↔
      db.KeepsResult testRunId := by
  obtain ⟨scope, new, -, hnew, rfl⟩ := processAdaptResults_eq_some h
  constructor
  · rintro ⟨⟨k, r⟩, hrow, rfl⟩
    obtain ⟨hrow, horphan⟩ := mem_deleteOrphanedResults.1 hrow
    have hsome : ((upsert updateResult new db.results).get k).isSome :=
      Option.isSome_iff_exists.2 ⟨r, mem_rows.1 hrow⟩
    rcases upsert_isSome.1 hsome with hsome | hsome
    · -- A new result, of statistics on a dashboard that there is.
      obtain ⟨r', hr'⟩ := Option.isSome_iff_exists.1 hsome
      obtain ⟨ms, hms, -, -, -, -, rfl, -⟩ := mem_finalResults.1 ((mem_of_ofRows hnew _ _).1 hr')
      obtain ⟨hms, hrun⟩ := List.mem_filter.1 hms
      exact .inl ⟨ms, hms, rfl, (of_decide_eq_true hrun).2⟩
    · -- An old one, unless it is an orphan.
      obtain ⟨r', hr'⟩ := Option.isSome_iff_exists.1 hsome
      exact .inr ⟨(k, r'), mem_rows.2 hr', rfl, horphan hid⟩
  · intro hkeeps
    have hleft : ∀ k : ResultKey, k.testRunId = testRunId →
        (db.hasStatistics testRunId → db.hasMetric testRunId k.key) →
        (new.get k).isSome ∨ (db.results.get k).isSome →
        ∃ row ∈ (deleteOrphanedResults { db with results := upsert updateResult new db.results }
          testRunIds).results.rows, row.1.testRunId = testRunId := by
      rintro k rfl hmetric hsome
      have hsome' : ((upsert updateResult new db.results).get k).isSome := upsert_isSome.2 hsome
      obtain ⟨r, hr⟩ := Option.isSome_iff_exists.1 hsome'
      exact ⟨(k, r), mem_deleteOrphanedResults.2 ⟨mem_rows.2 hr, fun _ => hmetric⟩, rfl⟩
    rcases hkeeps with ⟨ms, hms, rfl, hdash⟩ | ⟨⟨k, r⟩, hrow, hrun, hmetric⟩
    · obtain ⟨r, hr⟩ := exists_finalResults env scope
        (List.mem_filter.2 ⟨hms, decide_eq_true ⟨hid, hdash⟩⟩)
      refine hleft ⟨ms.testRunId, ms.testRunId, ms.key⟩ rfl
        (fun _ => hasMetric_iff.2 ⟨ms, hms, rfl, rfl⟩) (.inl ?_)
      exact Option.isSome_iff_exists.2 ⟨r, (mem_of_ofRows hnew _ _).2 hr⟩
    · exact hleft k hrun hmetric (.inr (Option.isSome_iff_exists.2 ⟨r, mem_rows.1 hrow⟩))

/-- The analysis leaves a result of every metric that is compared, of the comparison
    with whatever configuration it has. -/
theorem exists_result_of_metric {scope : CompareScope} {ms : MetricStatistics K Sk}
    {compareConfig : CompareConfig K} (h : db.processAdaptResults env testRunIds = some db')
    (hscope : db.testRunInfo testRunIds = some scope) (hms : ms ∈ db.testMetrics testRunIds)
    (hconfig : compareConfig ∈ resolve db.compareConfigs scope ms.key) :
    ∃ r control, (⟨ms.testRunId, ms.testRunId, ms.key⟩, r) ∈
        (db'.deleteOrphanedResults testRunIds).results.rows ∧
      r.comparison = compareMetric compareConfig
        (adaptMinSampleCount env.ADAPT_MIN_SAMPLE_COUNT) ms control := by
  obtain ⟨scope', new, hscope', hnew, rfl⟩ := processAdaptResults_eq_some h
  obtain rfl := Option.some.inj (hscope.symm.trans hscope')
  obtain ⟨control, hcontrol⟩ :=
    List.exists_mem_of_ne_nil _ (db.withControl_ne_nil ms.testRunId ms notDistinct)
  have hin := (mem_of_ofRows hnew _ _).2
    (mem_finalResults.2 ⟨ms, hms, control, hcontrol, compareConfig, hconfig, rfl, rfl⟩)
  have hmetric : db.hasMetric ms.testRunId ms.key :=
    hasMetric_iff.2 ⟨ms, (List.mem_filter.1 hms).1, rfl, rfl⟩
  -- Updating a result in conflict takes the new comparison.
  have hget : ∃ r, (upsert updateResult new db.results).get
        ⟨ms.testRunId, ms.testRunId, ms.key⟩ = some r ∧
      r.comparison = compareMetric compareConfig
        (adaptMinSampleCount env.ADAPT_MIN_SAMPLE_COUNT) ms control := by
    rw [get_upsert, hin]
    cases db.results.get ⟨ms.testRunId, ms.testRunId, ms.key⟩ <;> exact ⟨_, rfl, rfl⟩
  obtain ⟨r, hr, hcomparison⟩ := hget
  exact ⟨r, control, mem_deleteOrphanedResults.2 ⟨mem_rows.2 hr, fun _ _ => hmetric⟩, hcomparison⟩

section Conclusions

omit [Field K] [LinearOrder K]

variable {now : ℤ} {new : Table String AdaptConclusion}

/-- The conclusions group the results of the runs. -/
theorem conclusionRows_eq_groupRows (db : AdaptDatabase K Sk) (testRunIds : List String)
    (now : ℤ) : db.conclusionRows testRunIds now =
      groupRows (fun row => row.1.testRunId) (fun row => row.1.controlGroupId) (db.conclude now)
        (db.results.rows.filter fun row => row.1.testRunId ∈ testRunIds) :=
  rfl

/-- A run with results gets a conclusion about all of them, as they are of one control
    group if the statement succeeds. -/
theorem conclusion_of_results (hnew : ofRows (db.conclusionRows testRunIds now) = some new)
    (hid : testRunId ∈ testRunIds) (hresults : ∃ row ∈ db.results.rows, row.1.testRunId = testRunId) :
    ∃ controlGroupId, new.get testRunId =
      some (db.conclude now testRunId controlGroupId (db.resultsOf testRunId)) := by
  obtain ⟨row, hrow, rfl⟩ := hresults
  rw [conclusionRows_eq_groupRows] at hnew
  refine ⟨row.1.controlGroupId, ?_⟩
  rw [get_groupRows hnew (List.mem_filter.2 ⟨hrow, decide_eq_true hid⟩), resultsOf,
    List.filter_filter]
  congr 2
  refine List.filter_congr fun row' _ => ?_
  grind

/-- The other runs get none. -/
theorem conclusion_eq_none (hnew : ofRows (db.conclusionRows testRunIds now) = some new)
    (hresults : testRunId ∈ testRunIds → ∀ row ∈ db.results.rows, row.1.testRunId ≠ testRunId) :
    new.get testRunId = none := by
  rw [conclusionRows_eq_groupRows] at hnew
  refine get_groupRows_eq_none hnew fun row hrow heq => ?_
  obtain ⟨hrow, hid⟩ := List.mem_filter.1 hrow
  exact hresults (heq ▸ of_decide_eq_true hid) row hrow heq

end Conclusions

end AdaptDatabase

end Perfana
