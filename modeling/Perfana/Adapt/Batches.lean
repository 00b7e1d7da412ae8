import Perfana.Adapt.Tracking
import Perfana.Lib.Batch

/-!
# Runs analysed together

The results and the tracked results of a list of runs are inserted by one statement
each, with the configurations of one scope: that of the first run that is found. Both
are statements over a batch (`resultsQuery`, `trackedQuery`), and leave a run what they
leave it alone if the scopes make no difference.

* `processAdaptResults_eq`, `storeTrackedResults_eq`: the statements as such;
* `batch_eq_alone_iff`: when every run of a list is left what it is left alone.
-/

namespace Perfana

open Table

namespace AdaptDatabase

variable {K Sk : Type} [Field K] [LinearOrder K] (env : AdaptEnvironment)
  (db : AdaptDatabase K Sk)

/-- The statement for the results: a row for every metric with a row of its control group,
    and every configuration. -/
def resultsQuery : BatchQuery String CompareScope
    (MetricStatistics K Sk × Option (ControlGroupStatistics K)) (CompareConfig K) ResultKey
    (AdaptResult K) where
  sources := do
    let ms ← db.metricStatistics.filter fun ms =>
      ms.key.applicationDashboardId ∈ db.validDashboards
    let control ← db.withControl ms.testRunId ms notDistinct
    return (ms, control)
  key a := ⟨a.1.testRunId, a.1.testRunId, a.1.key⟩
  run k := k.testRunId
  choices scope a := resolve db.compareConfigs scope a.1.key
  choices_ne_nil _ _ := resolve_ne_nil _ _ _
  row a compareConfig :=
    { id := env.newResultId ⟨a.1.testRunId, a.1.testRunId, a.1.key⟩
      metricsSourceId := a.1.metadata.metricsSourceId
      compareConfig
      comparison := compareMetric compareConfig (adaptMinSampleCount env.ADAPT_MIN_SAMPLE_COUNT)
        a.1 a.2 }
  onConflict := updateResult
  row_injective _ _ _ h := congrArg AdaptResult.compareConfig h
  update_injective _ _ _ _ h := congrArg AdaptResult.compareConfig h

/-- The control runs of the runs, as far as their differences are not accepted. -/
def trackedTestRuns : List (String × String) := do
  let group ← db.controlGroups.rows
  let trackedTestRunId ← (group.2.testRuns.getD []).dedup
  let run ← (db.testRuns.get trackedTestRunId).toList
  if (run.adaptConfig.bind AdaptConfig.differencesAccepted) ≠ some .ACCEPTED ∧
      (run.adaptConfig.bind AdaptConfig.mode) ≠ some .DEBUG then
    return (group.1, trackedTestRunId)
  else []

/-- What a tracked result is made of. -/
structure TrackedSource (K Sk : Type) where
  trackedTestRunId : String
  /-- Its difference. -/
  historical : ResultKey × AdaptResult K
  /-- The metric of the run. -/
  ms : MetricStatistics K Sk
  /-- The row of the control group that the difference was found against. -/
  control : Option (ControlGroupStatistics K)

/-- The statement for the tracked results: a row for every difference of a control run with
    a metric of the run, a row of the control group, and every configuration. -/
def trackedQuery : BatchQuery String CompareScope (TrackedSource K Sk) (CompareConfig K) TrackedKey
    (TrackedResult K) where
  sources := do
    let (currentTestRunId, trackedTestRunId) ← db.trackedTestRuns
    let historical ← db.historicalRegressions trackedTestRunId
    let ms ← db.metricStatistics.filter fun ms => ms.testRunId = currentTestRunId ∧
      sqlEq ms.metadata.metricsSourceId historical.2.metricsSourceId ∧
      ms.key.panelId = historical.1.key.panelId ∧ ms.key.metricName = historical.1.key.metricName
    let control ← db.withControl historical.1.controlGroupId ms sqlEq
    return { trackedTestRunId, historical, ms, control }
  key a := ⟨a.ms.testRunId, a.ms.key, a.trackedTestRunId⟩
  run k := k.testRunId
  choices scope a := resolve db.compareConfigs scope a.ms.key
  choices_ne_nil _ _ := resolve_ne_nil _ _ _
  row a compareConfig :=
    { id := env.newTrackedId ⟨a.ms.testRunId, a.ms.key, a.trackedTestRunId⟩
      controlGroupId := a.historical.1.controlGroupId
      trackedDifferenceId := a.historical.2.id
      trackedConclusion := a.historical.2.comparison.conclusion
      metricsSourceId := a.ms.metadata.metricsSourceId
      compareConfig
      comparison := compareMetric compareConfig (adaptMinSampleCount env.ADAPT_MIN_SAMPLE_COUNT)
        a.ms a.control }
  onConflict := updateTrackedResult
  row_injective _ _ _ h := congrArg TrackedResult.compareConfig h
  update_injective _ _ _ _ h := congrArg TrackedResult.compareConfig h

variable {env db} {testRunIds : List String} {scope : CompareScope}

theorem finalResults_eq_rows :
    db.finalResults env testRunIds scope = (db.resultsQuery env).rows testRunIds scope := by
  simp only [finalResults, testMetrics, BatchQuery.rows, BatchQuery.sourcesOf, resultsQuery,
    List.bind_eq_flatMap, List.pure_def, flatMap_filter, List.flatMap_assoc, List.map_eq_flatMap]
  refine List.flatMap_congr fun ms _ => ?_
  by_cases hid : ms.testRunId ∈ testRunIds <;>
    by_cases hvalid : ms.key.applicationDashboardId ∈ db.validDashboards <;>
    simp [hid, hvalid, List.flatMap_assoc]

omit [Field K] [LinearOrder K] in
theorem filteredTrackedTestRuns_eq : db.filteredTrackedTestRuns testRunIds =
    db.trackedTestRuns.filter fun runs => runs.1 ∈ testRunIds := by
  simp only [filteredTrackedTestRuns, trackedTestRuns, List.bind_eq_flatMap, List.pure_def,
    flatMap_filter, List.filter_flatMap]
  refine List.flatMap_congr fun group _ => ?_
  by_cases hid : group.1 ∈ testRunIds
  · rw [if_pos (decide_eq_true hid)]
    refine List.flatMap_congr fun id _ => List.flatMap_congr fun run _ => ?_
    split <;> simp [hid]
  · rw [if_neg (by simpa using hid)]
    refine (List.flatMap_eq_nil_iff.2 fun id _ => List.flatMap_eq_nil_iff.2 fun run _ => ?_).symm
    split <;> simp [hid]

theorem finalTrackedResults_eq_rows :
    db.finalTrackedResults env testRunIds scope =
      (db.trackedQuery env).rows testRunIds scope := by
  simp only [finalTrackedResults, filteredTrackedTestRuns_eq, BatchQuery.rows,
    BatchQuery.sourcesOf, trackedQuery, List.bind_eq_flatMap, List.pure_def, flatMap_filter,
    List.flatMap_assoc, List.map_eq_flatMap]
  refine List.flatMap_congr fun runs _ => ?_
  by_cases hid : runs.1 ∈ testRunIds
  · rw [if_pos (decide_eq_true hid)]
    refine List.flatMap_congr fun historical _ => List.flatMap_congr fun ms _ => ?_
    split
    · rename_i hms
      have hrun : ms.testRunId = runs.1 := (of_decide_eq_true hms).1
      simp [hrun, hid, List.flatMap_assoc]
    · rfl
  · rw [if_neg (by simpa using hid)]
    refine (List.flatMap_eq_nil_iff.2 fun historical _ =>
      List.flatMap_eq_nil_iff.2 fun ms _ => ?_).symm
    split
    · rename_i hms
      have hrun : ms.testRunId = runs.1 := (of_decide_eq_true hms).1
      have hnone : ms.testRunId ∉ testRunIds := hrun ▸ hid
      simp only [List.flatMap_eq_nil_iff, List.mem_flatMap, List.mem_singleton]
      rintro _ ⟨control, -, rfl⟩
      exact if_neg (by simpa using hnone)
    · rfl

theorem processAdaptResults_eq (hscope : db.testRunInfo testRunIds = some scope) :
    db.processAdaptResults env testRunIds =
      ((db.resultsQuery env).insert testRunIds scope db.results).map fun results =>
        { db with results } := by
  rw [processAdaptResults, hscope, BatchQuery.insert, ← finalResults_eq_rows]
  cases hnew : ofRows (db.finalResults env testRunIds scope) <;> simp [hnew, resultsQuery]

theorem storeTrackedResults_eq (hscope : db.testRunInfo testRunIds = some scope) :
    db.storeTrackedResults env testRunIds =
      ((db.trackedQuery env).insert testRunIds scope db.trackedResults).map fun trackedResults =>
        { db with trackedResults } := by
  rw [storeTrackedResults, hscope, BatchQuery.insert, ← finalTrackedResults_eq_rows]
  cases hnew : ofRows (db.finalTrackedResults env testRunIds scope) <;> simp [hnew, trackedQuery]

variable (db) in
/-- The scope of a run. -/
def ownScope (testRunId : String) : CompareScope :=
  ((db.testRuns.get testRunId).map TestRun.compareScope).getD ⟨"", "", ""⟩

omit [Field K] [LinearOrder K] in
/-- The scope found for a single run is its own. -/
theorem testRunInfo_singleton {testRunId : String}
    (hrun : (db.testRuns.get testRunId).isSome) :
    db.testRunInfo [testRunId] = some (db.ownScope testRunId) := by
  obtain ⟨run, hrun⟩ := Option.isSome_iff_exists.1 hrun
  have hown : db.ownScope testRunId = run.compareScope := by
    rw [ownScope, hrun]
    rfl
  refine testRunInfo_eq_some (List.mem_singleton_self _) hrun fun id hid run' hrun' => ?_
  obtain rfl := List.mem_singleton.1 hid
  obtain rfl := Option.some.inj (hrun.symm.trans hrun')
  exact hown.symm

variable (db) in
/-- The results of a run. -/
def resultsLeft (testRunId : String) (key : ResultKey) : Option (AdaptResult K) :=
  if key.testRunId = testRunId then db.results.get key else none

variable (db) in
/-- The tracked results of a run. -/
def trackedResultsLeft (testRunId : String) (key : TrackedKey) : Option (TrackedResult K) :=
  if key.testRunId = testRunId then db.trackedResults.get key else none

/-- Every run of a list is left the results and the tracked results that it is left alone
    if and only if its scope and that of the list make no difference to either. -/
theorem batch_eq_alone_iff (hexist : ∀ id ∈ testRunIds, (db.testRuns.get id).isSome)
    (hscope : db.testRunInfo testRunIds = some scope) :
    (∀ id ∈ testRunIds,
      (db.processAdaptResults env testRunIds).map (fun db' => db'.resultsLeft id) =
          (db.processAdaptResults env [id]).map (fun db' => db'.resultsLeft id) ∧
        (db.storeTrackedResults env testRunIds).map (fun db' => db'.trackedResultsLeft id) =
          (db.storeTrackedResults env [id]).map (fun db' => db'.trackedResultsLeft id)) ↔
      (db.resultsQuery env).Independent testRunIds scope db.ownScope ∧
        (db.trackedQuery env).Independent testRunIds scope db.ownScope := by
  rw [← BatchQuery.insert_batch_iff db.results, ← BatchQuery.insert_batch_iff db.trackedResults,
    ← forall₂_and]
  refine forall₂_congr fun id hid => ?_
  have hown := testRunInfo_singleton (hexist id hid)
  rw [processAdaptResults_eq hscope, processAdaptResults_eq hown, storeTrackedResults_eq hscope,
    storeTrackedResults_eq hown]
  simp only [Option.map_map]
  rfl

/-! ## Two runs -/

/-- Two runs that are slower than their control groups, the second under some workload. -/
def twoRuns (workload : String) : AdaptDatabase ℚ (Multiset ℚ) :=
  { slowRun with
    testRuns :=
      ⟨[("slow", adaptRun "slow" 1000000), ("second", { adaptRun "second" 1000000 with workload })],
        show ["slow", "second"].Nodup by decide⟩
    metricStatistics := [adaptStatistics "slow" 200, adaptStatistics "second" 120]
    controlGroupStatistics :=
      ⟨[(("slow", metricOf "latency"),
          { leftoverRow 100 with count := 2, metricsSourceId := some "source" }),
        (("second", metricOf "latency"),
          { leftoverRow 100 with count := 2, metricsSourceId := some "source" })],
        show [("slow", metricOf "latency"), ("second", metricOf "latency")].Nodup by decide⟩ }

theorem batch_eq_alone_twoRuns :
    (∀ id ∈ ["slow", "second"],
      ((twoRuns "load").processAdaptResults adaptEnvironment ["slow", "second"]).map
          (fun db' => db'.resultsLeft id) =
        ((twoRuns "load").processAdaptResults adaptEnvironment [id]).map
          (fun db' => db'.resultsLeft id) ∧
      ((twoRuns "load").storeTrackedResults adaptEnvironment ["slow", "second"]).map
          (fun db' => db'.trackedResultsLeft id) =
        ((twoRuns "load").storeTrackedResults adaptEnvironment [id]).map
          (fun db' => db'.trackedResultsLeft id)) ↔
    ((twoRuns "load").resultsQuery adaptEnvironment).Independent ["slow", "second"]
        ⟨"shop", "test", "load"⟩ (twoRuns "load").ownScope ∧
      ((twoRuns "load").trackedQuery adaptEnvironment).Independent ["slow", "second"]
        ⟨"shop", "test", "load"⟩ (twoRuns "load").ownScope :=
  batch_eq_alone_iff (by decide) (by decide)

/-- The result of the second run. -/
def secondKey : ResultKey := ⟨"second", "second", metricOf "latency"⟩

/-- A run under another workload is compared by the thresholds of the first run. -/
theorem batch_borrows_config :
    let label := fun db' : AdaptDatabase ℚ (Multiset ℚ) =>
      (db'.resultsLeft "second" secondKey).map fun r => r.comparison.conclusion.label
    (((twoRuns "stress").processAdaptResults adaptEnvironment ["slow", "second"]).map label =
        some (some .noDifference) ∧
      ((twoRuns "stress").processAdaptResults adaptEnvironment ["second"]).map label =
        some (some .increase)) ∧
    ¬∀ id ∈ ["slow", "second"],
      ((twoRuns "stress").processAdaptResults adaptEnvironment ["slow", "second"]).map
          (fun db' => db'.resultsLeft id) =
        ((twoRuns "stress").processAdaptResults adaptEnvironment [id]).map
          (fun db' => db'.resultsLeft id) ∧
      ((twoRuns "stress").storeTrackedResults adaptEnvironment ["slow", "second"]).map
          (fun db' => db'.trackedResultsLeft id) =
        ((twoRuns "stress").storeTrackedResults adaptEnvironment [id]).map
          (fun db' => db'.trackedResultsLeft id) := by
  intro label
  have hbatch : ((twoRuns "stress").processAdaptResults adaptEnvironment ["slow", "second"]).map
      label = some (some .noDifference) := by
    decide +kernel
  have halone : ((twoRuns "stress").processAdaptResults adaptEnvironment ["second"]).map label =
      some (some .increase) := by
    decide +kernel
  refine ⟨⟨hbatch, halone⟩, fun h => ?_⟩
  have hsame := (h "second" (by decide)).1
  have hlabel := congrArg (Option.map fun results : ResultKey → Option (AdaptResult ℚ) =>
    (results secondKey).map fun r => r.comparison.conclusion.label) hsame
  rw [Option.map_map, Option.map_map] at hlabel
  have hlabels : some (some AdaptLabel.noDifference) = some (some AdaptLabel.increase) :=
    hbatch.symm.trans (hlabel.trans halone)
  cases hlabels

end AdaptDatabase

end Perfana
