import Mathlib.Algebra.Order.Floor.Ring
import Mathlib.Data.List.MinMax
import Mathlib.Data.Multiset.Bind
import Mathlib.Data.String.Basic
import Mathlib.Order.Lattice
import Perfana.Lib.Aggregate

/-!
# Statistics of the metrics of a run

The samples of a run are aggregated once, per metric of a dashboard panel, into
the rows of `ds_metric_statistics`. A row keeps the moments and the percentile
sketch of its samples, from which the statistics of a group of runs are pooled.

Arithmetic is exact, in any ordered field; the square root and the percentile
sketches are those of the database (`Database`).
-/

namespace Perfana

open Aggregate

/-- A metric of a panel of a dashboard. -/
structure MetricKey where
  applicationDashboardId : String
  panelId : ℤ
  metricName : String
  deriving DecidableEq, Repr

/-- What identifies a metric to a reader, and the source it comes from. -/
structure MetricMetadata where
  /-- The identifier of the dashboard at the source. -/
  dashboardUid : Option String
  dashboardLabel : Option String
  panelTitle : Option String
  unit : Option String
  /-- The benchmark that refers to the panel. -/
  benchmarkId : Option String
  metricsSourceId : Option String
  deriving DecidableEq, Repr

/-- A row of `ds_metrics`: a sample of a metric. -/
structure MetricSample (K : Type*) where
  testRunId : String
  /-- The metric. -/
  key : MetricKey
  /-- When it was taken. -/
  time : ℤ
  value : Option K
  /-- Whether it lies outside the analysis window. -/
  rampUp : Option Bool
  /-- Its metadata, the benchmark being the first of those of the sample. -/
  metadata : MetricMetadata

/-- The statistics of a metric that runs are compared by. -/
structure StatisticColumns (K : Type*) where
  mean : Option K
  median : Option K
  minValue : Option K
  maxValue : Option K
  stdDev : Option K
  lastValue : Option K
  q10 : Option K
  q25 : Option K
  q75 : Option K
  q90 : Option K
  q95 : Option K
  q99 : Option K
  iqr : Option K
  deriving DecidableEq, Repr

/-- What the statistics of a group of runs are pooled from. -/
structure PooledColumns (K Sk : Type*) where
  /-- The number of samples. -/
  count : Option ℕ
  /-- The least value. -/
  minValue : Option K
  /-- The greatest value. -/
  maxValue : Option K
  sumValue : Option K
  /-- The sum of their squares. -/
  sumSqValue : Option K
  /-- The percentile sketch. -/
  pctAgg : Option Sk
  deriving DecidableEq, Repr

/-- A row of `ds_metric_statistics`: the statistics of a metric of a run. -/
structure MetricStatistics (K Sk : Type*) where
  testRunId : String
  /-- The metric. -/
  key : MetricKey
  /-- The statistics the run is compared by. -/
  columns : StatisticColumns K
  /-- The number of samples. -/
  count : Option ℕ
  /-- The number of samples without a value. -/
  nMissing : Option ℕ
  /-- The number of positive samples. -/
  nNonZero : Option ℕ
  sumValue : Option K
  /-- The sum of their squares. -/
  sumSqValue : Option K
  /-- The percentile sketch; none on rows written before sketches were kept. -/
  pctAgg : Option Sk
  metadata : MetricMetadata

/-- The columns of a row that are pooled. -/
def MetricStatistics.pooled {K Sk : Type*} (row : MetricStatistics K Sk) : PooledColumns K Sk where
  count := row.count
  minValue := row.columns.minValue
  maxValue := row.columns.maxValue
  sumValue := row.sumValue
  sumSqValue := row.sumSqValue
  pctAgg := row.pctAgg

/-- The functions of the database. -/
structure Database (K Sk : Type*) where
  /-- The square root. -/
  sqrt : K → K
  /-- The percentile sketch of some values. -/
  percentileAgg : Multiset K → Sk
  /-- Sketches combined. -/
  rollup : Multiset Sk → Sk
  /-- The percentile of a sketch. -/
  approxPercentile : ℚ → Sk → K

/-- Combining the sketches of groups gives the sketch of their union. -/
def Database.RollupOfUnion {K Sk : Type*} (db : Database K Sk) : Prop :=
  ∀ gs : Multiset (Multiset K), gs ≠ 0 → (∀ g ∈ gs, g ≠ 0) →
    db.rollup (gs.map db.percentileAgg) = db.percentileAgg gs.join

/-! ## The dashboards of an organization -/

/-- The tables that say which dashboards and runs an organization has. -/
structure OrganizationTables where
  /-- The Grafana dashboards, each with its organization. -/
  applicationDashboards : List (String × String)
  /-- The dashboards of the Dynatrace queries, if any, each with its organization. -/
  dynatraceQueries : List (Option String × String)
  /-- The runs, each with its organization, if any. -/
  testRuns : List (String × Option String)

namespace OrganizationTables

variable (tables : OrganizationTables)

/-- The dashboards of the organizations that meet a condition. -/
def dashboardsOf (p : String → Bool) : List String :=
  (tables.applicationDashboards.filter fun ad => p ad.2).map Prod.fst ++
    (tables.dynatraceQueries.filter fun dq => p dq.2).filterMap Prod.fst

/-- The dashboards that count for the statistics of some runs, `allowed_dashboards`. -/
def allowedDashboards (testRunIds : List String) : List String :=
  let runOrgs := (tables.testRuns.filter fun tr => tr.1 ∈ testRunIds).map Prod.snd
  tables.dashboardsOf fun org => some org ∈ runOrgs

/-- The organization of a control group: its own, or that of one of its runs. -/
def scope (organizationId : Option String) (testRuns : List String) : Option String :=
  match organizationId with
  | some org => some org
  | none => (tables.testRuns.find? fun tr => tr.1 ∈ testRuns).bind Prod.snd

/-- The dashboards that count for a control group, `scoped_dashboards`. -/
def scopedDashboards (organizationId : Option String) (testRuns : List String) : List String :=
  tables.dashboardsOf fun org => some org = tables.scope organizationId testRuns

variable {tables}

theorem dashboardsOf_subset {p q : String → Bool} (h : ∀ org, p org → q org) :
    tables.dashboardsOf p ⊆ tables.dashboardsOf q := by
  intro d hd
  simp only [dashboardsOf, List.mem_append, List.mem_map, List.mem_filterMap,
    List.mem_filter] at hd ⊢
  rcases hd with ⟨ad, ⟨hm, hp⟩, rfl⟩ | ⟨dq, ⟨hm, hp⟩, hd⟩
  · exact .inl ⟨ad, ⟨hm, h _ hp⟩, rfl⟩
  · exact .inr ⟨dq, ⟨hm, h _ hp⟩, hd⟩

/-- The dashboards of a control group count for the statistics of any runs with a
    run of its organization. -/
theorem scopedDashboards_subset {organizationId : Option String} {testRuns runs : List String}
    {run : String} (hrun : run ∈ runs)
    (horg : (run, tables.scope organizationId testRuns) ∈ tables.testRuns) :
    tables.scopedDashboards organizationId testRuns ⊆ tables.allowedDashboards runs := by
  rw [scopedDashboards, allowedDashboards]
  refine dashboardsOf_subset fun org hp => ?_
  rw [decide_eq_true_eq] at hp ⊢
  refine List.mem_map.2 ⟨_, List.mem_filter.2 ⟨horg, decide_eq_true hrun⟩, ?_⟩
  exact hp.symm

end OrganizationTables

/-! ## The statistics of a run -/

section Aggregation

variable {K Sk : Type*}

/-- The samples of the analysis window that have a value, with it: of a run, a
    metric, or both. -/
def inWindow (samples : List (MetricSample K)) (p : MetricSample K → Bool) :
    List (MetricSample K) :=
  samples.filter fun m => m.rampUp = some false ∧ m.value.isSome ∧ p m

/-- The values of a metric of a run in the analysis window. -/
def values (samples : List (MetricSample K)) (testRunId : String) (key : MetricKey) : List K :=
  (inWindow samples fun m => m.testRunId = testRunId ∧ m.key = key).filterMap MetricSample.value

variable [Field K] [LinearOrder K]

/-- The percentile sketch of a column, none of no value. -/
def percentileAgg (db : Database K Sk) (xs : List K) : Option Sk :=
  if xs = [] then none else some (db.percentileAgg xs)

-- The order of the integers by which the last of some samples can be found.
local instance sampleOrder : Preorder ℤ := Int.instLinearOrder.toPreorder

/-- A row of `final_statistics`: the statistics of a group of samples of the window. -/
def statisticsRow (db : Database K Sk) (testRunId : String) (key : MetricKey)
    (group : List (MetricSample K)) : MetricStatistics K Sk :=
  let xs := group.filterMap MetricSample.value
  let pctAgg := percentileAgg db xs
  let percentile := fun p => pctAgg.map (db.approxPercentile p)
  let text := fun column : MetricMetadata → Option String =>
    (group.filterMap fun m => column m.metadata).min?
  { testRunId, key
    columns :=
      { mean := avg xs
        median := percentile (1 / 2)
        minValue := xs.min?
        maxValue := xs.max?
        stdDev := stddevPop db.sqrt xs
        lastValue := (group.argmax MetricSample.time).bind MetricSample.value
        q10 := percentile (1 / 10)
        q25 := percentile (1 / 4)
        q75 := percentile (3 / 4)
        q90 := percentile (9 / 10)
        q95 := percentile (19 / 20)
        q99 := percentile (99 / 100)
        iqr := do return (← percentile (3 / 4)) - (← percentile (1 / 4)) }
    count := some xs.length
    -- The samples without a value are left out before they are counted.
    nMissing := some 0
    nNonZero := some (xs.countP (0 < ·))
    sumValue := sum xs
    sumSqValue := sumSq xs
    pctAgg
    metadata :=
      { dashboardUid := text MetricMetadata.dashboardUid
        dashboardLabel := some ((text MetricMetadata.dashboardLabel).getD "missing")
        panelTitle := some ((text MetricMetadata.panelTitle).getD "missing")
        unit := text MetricMetadata.unit
        benchmarkId := text MetricMetadata.benchmarkId
        metricsSourceId := text MetricMetadata.metricsSourceId } }

/-- The statistics of a metric of a run, if it has samples in the window. -/
def finalStatistics (db : Database K Sk) (samples : List (MetricSample K)) (testRunId : String)
    (key : MetricKey) : Option (MetricStatistics K Sk) :=
  let group := inWindow samples fun m => m.testRunId = testRunId ∧ m.key = key
  if group = [] then none else some (statisticsRow db testRunId key group)

/-- The statistics of some runs: a row for each metric of each run with samples on
    an allowed dashboard. -/
def aggregateMetricStatistics (db : Database K Sk) (tables : OrganizationTables)
    (samples : List (MetricSample K)) (testRunIds : List String) : List (MetricStatistics K Sk) :=
  let metricsFiltered := inWindow samples fun m =>
    m.testRunId ∈ testRunIds ∧ m.key.applicationDashboardId ∈ tables.allowedDashboards testRunIds
  let groups := (metricsFiltered.map fun m => (m.testRunId, m.key)).dedup
  groups.filterMap fun g => finalStatistics db metricsFiltered g.1 g.2

/-- The columns to pool, from the values alone. -/
def pooledOf (db : Database K Sk) (xs : List K) : Option (PooledColumns K Sk) :=
  if xs = [] then none
  else some
    { count := some xs.length
      minValue := xs.min?
      maxValue := xs.max?
      sumValue := sum xs
      sumSqValue := sumSq xs
      pctAgg := percentileAgg db xs }

/-- A table holds the statistics of a run, as far as they are pooled: for each
    metric on some dashboards, the row computed from its samples. -/
def HoldsStatistics (db : Database K Sk) (samples : List (MetricSample K))
    (table : List (MetricStatistics K Sk)) (dashboards : List String) (testRunId : String) :
    Prop :=
  ∀ key : MetricKey, key.applicationDashboardId ∈ dashboards →
    (table.filter fun row => row.testRunId = testRunId ∧ row.key = key).map
        MetricStatistics.pooled =
      ((finalStatistics db samples testRunId key).map MetricStatistics.pooled).toList

variable {db : Database K Sk} {samples : List (MetricSample K)} {testRunId : String}
  {key : MetricKey}

omit [Field K] [LinearOrder K] in
theorem filterMap_value_eq_nil (p : MetricSample K → Bool) :
    (inWindow samples p).filterMap MetricSample.value = [] ↔ inWindow samples p = [] := by
  constructor
  · intro h
    by_contra hne
    obtain ⟨m, hm⟩ := List.exists_mem_of_ne_nil _ hne
    have hval := (of_decide_eq_true (List.mem_filter.1 hm).2).2.1
    rw [List.filterMap_eq_nil_iff.1 h m hm] at hval
    cases hval
  · rintro h
    rw [h]
    rfl

/-- The columns to pool depend on the values of the metric in the window only. -/
theorem finalStatistics_pooled : (finalStatistics db samples testRunId key).map
    MetricStatistics.pooled = pooledOf db (values samples testRunId key) := by
  by_cases h : (inWindow samples fun m => m.testRunId = testRunId ∧ m.key = key) = []
  · rw [finalStatistics, if_pos h, pooledOf, values, if_pos ((filterMap_value_eq_nil _).2 h)]
    rfl
  · rw [finalStatistics, if_neg h, pooledOf, values, if_neg (mt (filterMap_value_eq_nil _).1 h)]
    rfl

theorem finalStatistics_key {row : MetricStatistics K Sk}
    (h : finalStatistics db samples testRunId key = some row) :
    (row.testRunId, row.key) = (testRunId, key) := by
  rw [finalStatistics] at h
  split at h
  · cases h
  · cases h
    rfl

/-- Of distinct keys, the only one that gives a row with a key is the key itself. -/
theorem filterMap_filter_key {κ ρ : Type*} [DecidableEq κ] (row : κ → Option ρ) (keyOf : ρ → κ)
    (hkey : ∀ k r, row k = some r → keyOf r = k) {ks : List κ} (hks : ks.Nodup) (k : κ) :
    (ks.filterMap row).filter (fun r => keyOf r = k) = if k ∈ ks then (row k).toList else [] := by
  induction ks with
  | nil => rfl
  | cons k' ks ih =>
    obtain ⟨hk', hks⟩ := List.nodup_cons.1 hks
    cases hrow : row k' with
    | none =>
      rw [List.filterMap_cons_none hrow, ih hks]
      by_cases hk : k = k'
      · subst hk
        simp [hrow, hk']
      · simp [hk]
    | some r =>
      rw [List.filterMap_cons_some hrow, List.filter_cons, ih hks, hkey k' r hrow]
      by_cases hk : k = k'
      · subst hk
        simp [hrow, hk']
      · simp [hk, Ne.symm hk]

theorem HoldsStatistics.mono {table : List (MetricStatistics K Sk)}
    {dashboards dashboards' : List String} (hsub : dashboards ⊆ dashboards')
    (h : HoldsStatistics db samples table dashboards' testRunId) :
    HoldsStatistics db samples table dashboards testRunId :=
  fun key hkey => h key (hsub hkey)

/-- What the statistics of some runs leave behind holds the statistics of each of
    them, on the dashboards that count. -/
theorem holdsStatistics_aggregate {tables : OrganizationTables} {testRunIds : List String}
    {table : List (MetricStatistics K Sk)} (hrun : testRunId ∈ testRunIds)
    (htable : (table.filter fun row => row.testRunId = testRunId) =
      (aggregateMetricStatistics db tables samples testRunIds).filter
        fun row => row.testRunId = testRunId) :
    HoldsStatistics db samples table (tables.allowedDashboards testRunIds) testRunId := by
  intro key hkey
  have hrows : ∀ rows : List (MetricStatistics K Sk),
      (rows.filter fun row => row.testRunId = testRunId ∧ row.key = key) =
        (rows.filter fun row => row.testRunId = testRunId).filter fun row =>
          (row.testRunId, row.key) = (testRunId, key) := by
    intro rows
    rw [List.filter_filter]
    exact List.filter_congr fun row _ => by grind
  rw [hrows, htable, ← hrows]
  have hpair : (fun row : MetricStatistics K Sk =>
      decide (row.testRunId = testRunId ∧ row.key = key)) =
      fun row => decide ((row.testRunId, row.key) = (testRunId, key)) := by
    funext row
    simp
  rw [hpair, aggregateMetricStatistics]
  -- The samples of the metric pass the filter on runs and dashboards.
  set filtered := inWindow samples fun m => m.testRunId ∈ testRunIds ∧
    m.key.applicationDashboardId ∈ tables.allowedDashboards testRunIds with hfiltered
  have hgroup : (inWindow filtered fun m => m.testRunId = testRunId ∧ m.key = key) =
      inWindow samples fun m => m.testRunId = testRunId ∧ m.key = key := by
    rw [hfiltered, inWindow, inWindow, inWindow, List.filter_filter]
    exact List.filter_congr fun m _ => by grind
  have hfinal : finalStatistics db filtered testRunId key =
      finalStatistics db samples testRunId key := by
    rw [finalStatistics, finalStatistics, hgroup]
  rw [filterMap_filter_key (fun g : String × MetricKey => finalStatistics db filtered g.1 g.2)
    (fun row => (row.testRunId, row.key)) (fun g row h => finalStatistics_key h)
    (List.nodup_dedup _), hfinal]
  by_cases hmem : (testRunId, key) ∈
      (filtered.map fun m => (m.testRunId, m.key)).dedup
  · rw [if_pos hmem, Option.toList_map]
  · rw [if_neg hmem, finalStatistics, if_pos ?_]
    · rfl
    · rw [← hgroup, inWindow, List.filter_eq_nil_iff]
      intro m hm h
      refine hmem (List.mem_dedup.2 (List.mem_map.2 ⟨m, hm, ?_⟩))
      have := of_decide_eq_true h
      grind

end Aggregation

end Perfana
