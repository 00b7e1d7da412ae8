import Mathlib.Data.List.Sort
import Mathlib.Data.Multiset.Sort
import Mathlib.Data.Rat.Floor
import Mathlib.Data.Rat.Sqrt
import Perfana.Adapt.Statistics

/-!
# Pooled statistics of a control group

The statistics of a control group are those of the samples of all its runs
together. They are computed in one of two ways: the fast path pools the rows that
the statistics of the runs left behind, the legacy path scans the samples again.

Where the rows are those the statistics of the runs computed, the two give the
same (`statisticsQuery_fast_eq_legacy`): the moments pool run by run
(`pooled_perm`), and the deviation recombined from the moments is the deviation
of the union.
-/

namespace Perfana

open Aggregate

/-- A row of `ds_control_groups`. -/
structure ControlGroup where
  /-- The group, named after the run it is the control of. -/
  controlGroupId : String
  /-- The control runs, if any. -/
  testRuns : Option (List String)
  organizationId : Option String
  teamId : Option String
  deriving DecidableEq, Repr

/-- A row of `ds_control_group_statistics`, its keys aside. -/
structure ControlGroupStatistics (K : Type*) where
  /-- The group, under the name of a run. -/
  testRunId : String
  metricsSourceId : Option String
  /-- The identifier of the dashboard at the source. -/
  dashboardUid : String
  dashboardLabel : String
  panelTitle : String
  unit : String
  /-- The benchmarks that refer to the metric. -/
  benchmarkIds : List String
  /-- The statistics runs are compared to. -/
  columns : StatisticColumns K
  /-- The interdecile range. -/
  idr : Option K
  /-- The typical number of samples of a control run. -/
  count : ℕ
  /-- The typical number of missing samples. -/
  nMissing : ℕ
  /-- The typical number of positive samples. -/
  nNonZero : ℕ
  /-- Whether the metric hardly varies. -/
  isConstant : Bool
  /-- Whether there is no sample. -/
  allMissing : Bool
  /-- The typical share of missing samples, in percent. -/
  pctMissing : Option K
  organizationId : Option String
  teamId : Option String
  deriving DecidableEq, Repr

/-- A row of `raw_metrics_aggregated`. -/
structure RawMetric (K Sk : Type*) where
  mean : Option K
  minValue : Option K
  maxValue : Option K
  stdDev : Option K
  pctAgg : Option Sk
  isConstant : Option Bool
  allMissing : Option Bool
  deriving DecidableEq, Repr

section

variable {K Sk : Type} [Field K] [LinearOrder K]

/-! ## The two paths -/

/-- The deviation below which a metric is constant. -/
def constantThreshold : K := 1 / 10000

/-- Sketches of a column combined, none of no sketch. -/
def rollup (db : Database K Sk) (sketches : List Sk) : Option Sk :=
  if sketches = [] then none else some (db.rollup sketches)

/-- A conjunction that is unknown if a side is, unless the other is false. -/
def sqlAnd : Option Bool → Option Bool → Option Bool
  | some a, some b => some (a && b)
  | some false, none => some false
  | none, some false => some false
  | _, _ => none

/-- The statistics of the rows of a metric: mean and deviation recombined from the
    pooled moments. -/
def recombine (db : Database K Sk) (rows : List (PooledColumns K Sk)) : RawMetric K Sk :=
  let pooledSum := sum (rows.filterMap PooledColumns.sumValue)
  let pooledSumSq := sum (rows.filterMap PooledColumns.sumSqValue)
  let pooledCount := sum (rows.filterMap PooledColumns.count)
  let variance : Option K := do
    let count : K := ← pooledCount
    return (← pooledSumSq) / count - ((← pooledSum) / count) ^ 2
  -- The greatest of a missing value and zero is zero.
  let deviation := db.sqrt (max (variance.getD 0) 0)
  { mean := do if 0 < (← pooledCount) then return (← pooledSum) / (← pooledCount) else none
    minValue := (rows.filterMap PooledColumns.minValue).min?
    maxValue := (rows.filterMap PooledColumns.maxValue).max?
    stdDev := some (if 0 < pooledCount.getD 0 then deviation else 0)
    pctAgg := rollup db (rows.filterMap PooledColumns.pctAgg)
    isConstant := sqlAnd (pooledCount.map (0 < ·)) (some (deviation < constantThreshold))
    allMissing := pooledCount.map (· = 0) }

/-- The fast path: the rows of the control runs with a sketch, pooled by metric. -/
def fastPath (db : Database K Sk) (table : List (MetricStatistics K Sk)) (testRuns : List String)
    (dashboards : List String) (key : MetricKey) : Option (RawMetric K Sk) :=
  let rows := table.filter fun ms => ms.testRunId ∈ testRuns ∧ ms.pctAgg.isSome ∧
    ms.key.applicationDashboardId ∈ dashboards ∧ ms.key = key
  if rows = [] then none else some (recombine db (rows.map MetricStatistics.pooled))

/-- The statistics of the values of a metric. -/
def scan (db : Database K Sk) (xs : List K) : RawMetric K Sk where
  mean := avg xs
  minValue := xs.min?
  maxValue := xs.max?
  stdDev := stddevPop db.sqrt xs
  pctAgg := percentileAgg db xs
  isConstant := (stddevPop db.sqrt xs).map (· < constantThreshold)
  allMissing := some (xs.length = 0)

/-- The legacy path: the samples of the control runs in the analysis window, by
    metric. -/
def legacyPath (db : Database K Sk) (samples : List (MetricSample K)) (testRuns : List String)
    (dashboards : List String) (key : MetricKey) : Option (RawMetric K Sk) :=
  let group := inWindow samples fun m => m.testRunId ∈ testRuns ∧
    m.key.applicationDashboardId ∈ dashboards ∧ m.key = key
  if group = [] then none else some (scan db (group.filterMap MetricSample.value))

/-! ## The shared tail -/

/-- The rows of the control runs for a metric, on the dashboards of the group. -/
def controlRows (table : List (MetricStatistics K Sk)) (testRuns : List String)
    (dashboards : List String) (key : MetricKey) : List (MetricStatistics K Sk) :=
  table.filter fun ms => ms.testRunId ∈ testRuns ∧
    ms.key.applicationDashboardId ∈ dashboards ∧ ms.key = key

/-- Missing values come last. -/
def nullsLast (a b : Option String) : Bool :=
  match a, b with
  | some a, some b => a ≤ b
  | none, some _ => false
  | _, none => true

/-- One row of metadata for a metric: the first in the order of dashboard and source. -/
def controlMetricsMetadata (rows : List (MetricStatistics K Sk)) : Option MetricMetadata :=
  let earlier := fun a b : MetricMetadata =>
    if a.dashboardUid = b.dashboardUid then nullsLast a.metricsSourceId b.metricsSourceId
    else nullsLast a.dashboardUid b.dashboardUid
  ((rows.map MetricStatistics.metadata).insertionSort fun a b => earlier a b).head?

/-- An average assigned to an integer column. -/
def roundedAvg (ns : List ℕ) : ℕ :=
  ((avg (ns.map fun n => (n : ℚ))).map fun q => ⌊q + 1 / 2⌋₊).getD 0

/-- The share of missing samples of a row, in percent. -/
def missingPercentage (row : MetricStatistics K Sk) : Option K := do
  let count ← row.count
  if count = 0 then none else return (← row.nMissing) / count * 100

/-- The row that is written for a metric, `final_stats` in the shape of the table. -/
def finalStats (db : Database K Sk) (group : ControlGroup) (rows : List (MetricStatistics K Sk))
    (raw : RawMetric K Sk) (metadata : MetricMetadata) : Option (ControlGroupStatistics K) :=
  raw.pctAgg.map fun pctAgg =>
    let percentile := fun p => db.approxPercentile p pctAgg
    { testRunId := group.controlGroupId
      metricsSourceId := metadata.metricsSourceId
      dashboardUid := metadata.dashboardUid.getD ""
      dashboardLabel := metadata.dashboardLabel.getD ""
      panelTitle := metadata.panelTitle.getD ""
      unit := metadata.unit.getD ""
      benchmarkIds := (rows.filterMap fun ms => ms.metadata.benchmarkId).dedup
      columns :=
        { mean := some (raw.mean.getD 0)
          median := some (percentile (1 / 2))
          minValue := some (raw.minValue.getD 0)
          maxValue := some (raw.maxValue.getD 0)
          stdDev := some (raw.stdDev.getD 0)
          lastValue := avg (rows.filterMap fun ms => ms.columns.lastValue)
          q10 := some (percentile (1 / 10))
          q25 := some (percentile (1 / 4))
          q75 := some (percentile (3 / 4))
          q90 := some (percentile (9 / 10))
          q95 := some (percentile (19 / 20))
          q99 := some (percentile (99 / 100))
          iqr := some (percentile (3 / 4) - percentile (1 / 4)) }
      idr := some (percentile (9 / 10) - percentile (1 / 10))
      count := roundedAvg (rows.filterMap MetricStatistics.count)
      nMissing := roundedAvg (rows.filterMap MetricStatistics.nMissing)
      nNonZero := roundedAvg (rows.filterMap MetricStatistics.nNonZero)
      isConstant := raw.isConstant.getD false
      allMissing := raw.allMissing.getD false
      pctMissing := some ((avg (rows.filterMap missingPercentage)).getD 0)
      organizationId := group.organizationId
      teamId := group.teamId }

/-- The rows that an aggregation writes for a group, by metric: those of the raw
    metrics that have rows of metadata, and a sketch. -/
def statisticsQuery (db : Database K Sk) (table : List (MetricStatistics K Sk))
    (group : ControlGroup) (testRuns : List String) (dashboards : List String)
    (rawMetricsAggregated : MetricKey → Option (RawMetric K Sk)) (key : MetricKey) :
    Option (ControlGroupStatistics K) := do
  let raw ← rawMetricsAggregated key
  let rows := controlRows table testRuns dashboards key
  let metadata ← controlMetricsMetadata rows
  finalStats db group rows raw metadata

/-! ## Pooling the groups -/

section Pooled

variable {db : Database K Sk} {gs : List (List K)}

theorem pooledOf_of_ne_nil {g : List K} (h : g ≠ []) : pooledOf db g =
    some ⟨some g.length, g.min?, g.max?, sum g, sumSq g, percentileAgg db g⟩ := if_neg h

/-- A column of the rows of the groups is an aggregate of the groups. -/
theorem filterMap_pooledOf {α : Type*} (column : PooledColumns K Sk → Option α)
    (aggregate : List K → Option α) (hnil : aggregate [] = none)
    (h : ∀ g ≠ [], (pooledOf db g).bind column = aggregate g) :
    (gs.filterMap (pooledOf db)).filterMap column = gs.filterMap aggregate := by
  rw [List.filterMap_filterMap]
  congr 1
  funext g
  by_cases hg : g = []
  · rw [hg, hnil]
    rfl
  · exact h g hg

/-- The values of the groups are counted group by group. -/
theorem count_pooled : sum ((gs.filterMap (pooledOf db)).filterMap PooledColumns.count) =
    if gs.flatten = [] then none else some gs.flatten.length := by
  have hcount : ∀ g : List K, sum (g.map fun _ => 1) = if g = [] then none else some g.length := by
    intro g
    simp [sum]
  rw [filterMap_pooledOf _ (fun g => sum (g.map fun _ => 1)) rfl]
  · have h := sum_pooled (gs.map fun g => g.map fun _ => 1)
    rw [List.filterMap_map, ← List.map_flatten, hcount] at h
    exact h
  · intro g hg
    rw [hcount, pooledOf_of_ne_nil hg, if_neg hg]
    rfl

omit [Field K] [LinearOrder K] in
/-- The sketches of the groups combine to the sketch of all values. -/
theorem rollup_pooled (hdb : db.RollupOfUnion) :
    rollup db (gs.filterMap (percentileAgg db)) = percentileAgg db gs.flatten := by
  have hsome : gs.filterMap (percentileAgg db) =
      (gs.filter fun g => g ≠ []).map fun g : List K => db.percentileAgg g := by
    clear hdb
    induction gs with
    | nil => rfl
    | cons g gs ih =>
      by_cases hg : g = []
      · rw [List.filterMap_cons_none (by rw [percentileAgg, if_pos hg]), ih,
          List.filter_cons_of_neg (by simpa using hg)]
      · rw [List.filterMap_cons_some (by rw [percentileAgg, if_neg hg]), ih,
          List.filter_cons_of_pos (by simpa using hg), List.map_cons]
  have hflatten : (gs.filter fun g => g ≠ []).flatten = gs.flatten := by
    clear hdb hsome
    induction gs with
    | nil => rfl
    | cons g gs ih =>
      by_cases hg : g = []
      · rw [List.filter_cons_of_neg (by simpa using hg), ih, hg, List.flatten_cons,
          List.nil_append]
      · rw [List.filter_cons_of_pos (by simpa using hg), List.flatten_cons, ih, List.flatten_cons]
  rw [hsome, ← hflatten]
  set ne := gs.filter fun g => g ≠ [] with hne
  by_cases hnil : ne = []
  · rw [hnil]
    rfl
  · have hmem : ∀ g ∈ ne, g ≠ [] := fun g hg => by simpa [hne] using (List.mem_filter.1 hg).2
    have hfl : ne.flatten ≠ [] := by
      intro h
      obtain ⟨g, hg⟩ := List.exists_mem_of_ne_nil _ hnil
      exact hmem g hg (List.flatten_eq_nil_iff.1 h g hg)
    have hroll := hdb (ne.map fun g : List K => (g : Multiset K)) (by simpa using hnil) (by
      intro g hg
      obtain ⟨l, hl, rfl⟩ := List.mem_map.1 (Multiset.mem_coe.1 hg)
      simpa using hmem l hl)
    rw [Multiset.coe_join, Multiset.map_coe, List.map_map] at hroll
    rw [rollup, if_neg (by simpa using hnil), percentileAgg, if_neg hfl]
    exact congrArg some hroll

/-- The deviation recombined from the moments is the deviation of the values, and so
    is the rest of the row. -/
theorem recombine_pooled [IsStrictOrderedRing K] (hdb : db.RollupOfUnion)
    (hne : gs.flatten ≠ []) : recombine db (gs.filterMap (pooledOf db)) = scan db gs.flatten := by
  have hsum : (gs.filterMap (pooledOf db)).filterMap PooledColumns.sumValue =
      gs.filterMap sum :=
    filterMap_pooledOf _ _ rfl fun g hg => by rw [pooledOf_of_ne_nil hg]; rfl
  have hsumSq : (gs.filterMap (pooledOf db)).filterMap PooledColumns.sumSqValue =
      gs.filterMap sumSq :=
    filterMap_pooledOf _ _ rfl fun g hg => by rw [pooledOf_of_ne_nil hg]; rfl
  have hmin : (gs.filterMap (pooledOf db)).filterMap PooledColumns.minValue =
      gs.filterMap List.min? :=
    filterMap_pooledOf _ _ rfl fun g hg => by rw [pooledOf_of_ne_nil hg]; rfl
  have hmax : (gs.filterMap (pooledOf db)).filterMap PooledColumns.maxValue =
      gs.filterMap List.max? :=
    filterMap_pooledOf _ _ rfl fun g hg => by rw [pooledOf_of_ne_nil hg]; rfl
  have hpct : (gs.filterMap (pooledOf db)).filterMap PooledColumns.pctAgg =
      gs.filterMap (percentileAgg db) :=
    filterMap_pooledOf _ _ rfl fun g hg => by rw [pooledOf_of_ne_nil hg]; rfl
  have hpos : 0 < gs.flatten.length := List.length_pos_of_ne_nil hne
  have hvar := varPop_eq hne
  have hnonneg := varPop_nonneg hvar
  rw [recombine, scan, hsum, hsumSq, hmin, hmax, hpct, count_pooled, if_neg hne, sum_pooled,
    sumSq_pooled, min_pooled, max_pooled, rollup_pooled hdb, avg_of_ne_nil hne, stddevPop, hvar,
    sum_of_ne_nil hne, sumSq, sum_of_ne_nil (by simpa using hne)]
  generalize gs.flatten = xs at hpos hnonneg ⊢
  simp [hpos, hpos.ne', max_eq_left hnonneg, sqlAnd]

end Pooled

/-- The bag of the rows decides what they recombine to. -/
theorem recombine_perm (db : Database K Sk) {rows rows' : List (PooledColumns K Sk)}
    (h : rows.Perm rows') : recombine db rows = recombine db rows' := by
  have hsum : ∀ {M : Type} [AddCommMonoid M] (column : PooledColumns K Sk → Option M),
      sum (rows.filterMap column) = sum (rows'.filterMap column) :=
    fun column => sum_perm (h.filterMap column)
  have hmin := min?_congr fun x => (h.filterMap PooledColumns.minValue).mem_iff (a := x)
  have hmax := max?_congr fun x => (h.filterMap PooledColumns.maxValue).mem_iff (a := x)
  have hpct : rollup db (rows.filterMap PooledColumns.pctAgg) =
      rollup db (rows'.filterMap PooledColumns.pctAgg) := by
    have hp := h.filterMap PooledColumns.pctAgg
    by_cases hnil : rows.filterMap PooledColumns.pctAgg = []
    · rw [hnil] at hp ⊢
      rw [hp.nil_eq]
    · have hnil' : rows'.filterMap PooledColumns.pctAgg ≠ [] := fun h' => hnil (by
        rw [h'] at hp
        exact hp.eq_nil)
      rw [rollup, rollup, if_neg hnil, if_neg hnil', Multiset.coe_eq_coe.2 hp]
  simp only [recombine, hsum, hmin, hmax, hpct]

/-- The bag of the values decides their statistics. -/
theorem scan_perm (db : Database K Sk) {xs ys : List K} (h : xs.Perm ys) :
    scan db xs = scan db ys := by
  have havg : avg xs = avg ys := by rw [avg, avg, sum_perm h, h.length_eq]
  have hvar : varPop xs = varPop ys := by
    rw [varPop, varPop, havg, h.length_eq]
    congr 1
    funext μ
    rw [(h.map fun x => (x - μ) * (x - μ)).sum_eq]
  have hpct : percentileAgg db xs = percentileAgg db ys := by
    by_cases hnil : xs = []
    · subst hnil
      rw [h.nil_eq]
    · have hnil' : ys ≠ [] := fun h' => hnil (by subst h'; exact h.eq_nil)
      rw [percentileAgg, percentileAgg, if_neg hnil, if_neg hnil', Multiset.coe_eq_coe.2 h]
  simp only [scan, havg, stddevPop, hvar, hpct, h.length_eq, min?_congr fun x => h.mem_iff (a := x),
    max?_congr fun x => h.mem_iff (a := x)]

/-! ## The paths agree -/

section Agree

variable {db : Database K Sk} {table : List (MetricStatistics K Sk)}
  {samples : List (MetricSample K)} {testRuns dashboards : List String} {key : MetricKey}

/-- The values of a metric, control run by control run. -/
def groups (samples : List (MetricSample K)) (testRuns : List String) (key : MetricKey) :
    List (List K) :=
  testRuns.dedup.map fun run => values samples run key

/-- The columns to pool are those of the values, control run by control run. -/
theorem pooled_perm (hdash : key.applicationDashboardId ∈ dashboards)
    (htable : ∀ run ∈ testRuns, HoldsStatistics db samples table dashboards run) :
    List.Perm ((controlRows table testRuns dashboards key).map MetricStatistics.pooled)
      ((groups samples testRuns key).filterMap (pooledOf db)) := by
  have hrows : controlRows table testRuns dashboards key =
      (table.filter fun ms => ms.key = key).filter fun ms => ms.testRunId ∈ testRuns.dedup := by
    rw [controlRows, List.filter_filter]
    exact List.filter_congr fun ms _ => by grind [List.mem_dedup]
  rw [hrows]
  refine ((filter_mem_perm_flatMap _ _ (List.nodup_dedup testRuns)).map _).trans ?_
  rw [List.map_flatMap, groups, List.filterMap_map, List.filterMap_eq_flatMap_toList]
  refine List.Perm.of_eq (List.flatMap_congr fun run hrun => ?_)
  have hholds := htable run (List.mem_dedup.1 hrun) key hdash
  rw [finalStatistics_pooled] at hholds
  rw [Function.comp_apply, ← hholds, List.filter_filter]
  congr 1
  exact List.filter_congr fun ms _ => by simp

variable (samples testRuns) in
omit [Field K] [LinearOrder K] in
/-- The values that the legacy path scans, control run by control run. -/
theorem values_perm (hdash : key.applicationDashboardId ∈ dashboards) :
    List.Perm ((inWindow samples fun m => m.testRunId ∈ testRuns ∧
        m.key.applicationDashboardId ∈ dashboards ∧ m.key = key).filterMap MetricSample.value)
      (groups samples testRuns key).flatten := by
  have hrows : (inWindow samples fun m => m.testRunId ∈ testRuns ∧
      m.key.applicationDashboardId ∈ dashboards ∧ m.key = key) =
      (inWindow samples fun m => m.key = key).filter fun m => m.testRunId ∈ testRuns.dedup := by
    rw [inWindow, inWindow, List.filter_filter]
    exact List.filter_congr fun m _ => by grind [List.mem_dedup]
  rw [hrows]
  refine ((filter_mem_perm_flatMap _ _ (List.nodup_dedup testRuns)).filterMap _).trans ?_
  rw [List.filterMap_flatMap, groups, ← List.flatMap_def]
  refine List.Perm.of_eq (List.flatMap_congr fun run _ => ?_)
  rw [values, inWindow, inWindow, List.filter_filter]
  congr 1
  exact List.filter_congr fun m _ => by grind

/-- A pooled row has a sketch. -/
theorem pctAgg_isSome {gs : List (List K)} {row : PooledColumns K Sk}
    (h : row ∈ gs.filterMap (pooledOf db)) : row.pctAgg.isSome := by
  obtain ⟨g, -, hg⟩ := List.mem_filterMap.1 h
  by_cases hnil : g = []
  · rw [hnil] at hg
    cases hg
  · rw [pooledOf_of_ne_nil hnil] at hg
    cases hg
    simp [percentileAgg, hnil]

variable [IsStrictOrderedRing K]

/-- For every metric, the fast path and the legacy path have the same statistics,
    or both none. -/
theorem fastPath_eq_legacyPath (hdb : db.RollupOfUnion)
    (htable : ∀ run ∈ testRuns, HoldsStatistics db samples table dashboards run) :
    fastPath db table testRuns dashboards = legacyPath db samples testRuns dashboards := by
  funext key
  by_cases hdash : key.applicationDashboardId ∈ dashboards
  · have hpooled := pooled_perm hdash htable
    have hvalues := values_perm samples testRuns hdash
    -- No row of the control runs is left out for want of a sketch.
    have hrows : (table.filter fun ms => ms.testRunId ∈ testRuns ∧ ms.pctAgg.isSome ∧
        ms.key.applicationDashboardId ∈ dashboards ∧ ms.key = key) =
        controlRows table testRuns dashboards key := by
      refine List.filter_congr fun ms hms => ?_
      have hsketch : ms ∈ controlRows table testRuns dashboards key → ms.pctAgg.isSome :=
        fun h => pctAgg_isSome (hpooled.mem_iff.1 (List.mem_map_of_mem (f := MetricStatistics.pooled) h))
      simp only [controlRows, List.mem_filter] at hsketch
      grind
    rw [fastPath, legacyPath, hrows]
    by_cases hnil : (groups samples testRuns key).flatten = []
    · have hall : (groups samples testRuns key).filterMap (pooledOf db) = [] :=
        List.filterMap_eq_nil_iff.2 fun g hg => if_pos (List.flatten_eq_nil_iff.1 hnil g hg)
      rw [hall] at hpooled
      rw [hnil] at hvalues
      rw [if_pos (List.map_eq_nil_iff.1 hpooled.eq_nil),
        if_pos ((filterMap_value_eq_nil _).1 hvalues.eq_nil)]
    · have hrow : controlRows table testRuns dashboards key ≠ [] := by
        intro h
        rw [h, List.map_nil] at hpooled
        refine hnil (List.flatten_eq_nil_iff.2 fun g hg => ?_)
        have hg := List.filterMap_eq_nil_iff.1 hpooled.nil_eq.symm g hg
        by_contra hne
        rw [pooledOf_of_ne_nil hne] at hg
        cases hg
      have hgroup : (inWindow samples fun m => m.testRunId ∈ testRuns ∧
          m.key.applicationDashboardId ∈ dashboards ∧ m.key = key) ≠ [] := by
        intro h
        rw [h] at hvalues
        exact hnil hvalues.nil_eq.symm
      rw [if_neg hrow, if_neg hgroup, recombine_perm db hpooled, scan_perm db hvalues,
        recombine_pooled hdb hnil]
  · rw [fastPath, legacyPath, inWindow, if_pos (List.filter_eq_nil_iff.2 fun ms _ h => hdash (by grind)),
      if_pos (List.filter_eq_nil_iff.2 fun m _ h => hdash (by grind))]

/-- Where the table holds the statistics of the control runs, the fast path and the
    legacy path write the same rows: for the same metrics, and with the same mean,
    deviation, extrema, percentiles and flags. -/
theorem statisticsQuery_fast_eq_legacy (group : ControlGroup) (hdb : db.RollupOfUnion)
    (htable : ∀ run ∈ testRuns, HoldsStatistics db samples table dashboards run) :
    fastPath db table testRuns dashboards = legacyPath db samples testRuns dashboards ∧
      statisticsQuery db table group testRuns dashboards (fastPath db table testRuns dashboards) =
        statisticsQuery db table group testRuns dashboards
          (legacyPath db samples testRuns dashboards) := by
  have h := fastPath_eq_legacyPath hdb htable
  exact ⟨h, by rw [h]⟩

end Agree

end

/-! ## Two control runs -/

/-- A database whose sketches keep every value, and whose percentiles are the
    nearest ranks. -/
def exactDatabase : Database ℚ (Multiset ℚ) where
  sqrt := Rat.sqrt
  percentileAgg := id
  rollup := Multiset.join
  approxPercentile p sketch :=
    let ranked := sketch.filter fun v => p * sketch.card ≤ sketch.countP (· ≤ v)
    ranked.fold min (sketch.fold max 0)

theorem exactDatabase_rollupOfUnion : exactDatabase.RollupOfUnion := by
  intro gs _ _
  change (gs.map id).join = gs.join
  rw [Multiset.map_id]

/-- A metric of the only dashboard of an organization. -/
def metricOf (name : String) : MetricKey := ⟨"dashboard", 1, name⟩

/-- A sample without metadata. -/
def sampleOf (run name : String) (time : ℤ) (value : ℚ) : MetricSample ℚ :=
  ⟨run, metricOf name, time, some value, some false, ⟨none, none, none, none, none, none⟩⟩

/-- A run with a single sample, and a longer one with a metric of its own. -/
def controlSamples : List (MetricSample ℚ) :=
  [sampleOf "short" "latency" 0 0, sampleOf "long" "latency" 0 5, sampleOf "long" "latency" 1 5,
    sampleOf "long" "latency" 2 5, sampleOf "long" "latency" 3 5, sampleOf "long" "errors" 0 7]

/-- Their organization. -/
def controlOrganization : OrganizationTables where
  applicationDashboards := [("dashboard", "organization")]
  dynatraceQueries := []
  testRuns := [("short", some "organization"), ("long", some "organization")]

/-- Their control group. -/
def controlGroupOfTwo : ControlGroup :=
  ⟨"current", some ["short", "long"], some "organization", none⟩

/-- The two paths agree on the control group of the two runs. -/
theorem statisticsQuery_fast_eq_legacy_ofTwo :
    let runs := ["short", "long"]
    let dashboards := controlOrganization.scopedDashboards (some "organization") runs
    let table := aggregateMetricStatistics exactDatabase controlOrganization controlSamples runs
    fastPath exactDatabase table runs dashboards =
        legacyPath exactDatabase controlSamples runs dashboards ∧
      statisticsQuery exactDatabase table controlGroupOfTwo runs dashboards
          (fastPath exactDatabase table runs dashboards) =
        statisticsQuery exactDatabase table controlGroupOfTwo runs dashboards
          (legacyPath exactDatabase controlSamples runs dashboards) :=
  statisticsQuery_fast_eq_legacy controlGroupOfTwo exactDatabase_rollupOfUnion
    fun _ hrun => (holdsStatistics_aggregate hrun rfl).mono
      (OrganizationTables.scopedDashboards_subset
        (List.mem_cons_self : "short" ∈ ["short", "long"]) (by decide))

end Perfana
