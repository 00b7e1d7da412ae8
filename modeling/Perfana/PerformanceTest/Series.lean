import Perfana.Checks.Apdex
import Perfana.Lib.Aggregate
import Perfana.PerformanceTest.Writer

/-!
# Series of performance-test metrics

The requests and the transactions of a run are aggregated into buckets of time: a
series for every name in a scenario, a total for every scenario, and a roll-up of
them all, written to panels of their dashboards. Both processors are the same
aggregate (`SeriesAggregate`) of other rows, names and columns.

* `SeriesAggregate.mem_aggregated`: what is aggregated;
* `SeriesAggregate.storedApart_iff`: no two rows that are written have the same
  key, and no two series are written as one, exactly when the names of the series
  stay apart.
-/

namespace Perfana.PerformanceTest

open Aggregate

/-- A row of a `GROUPING SETS`, by the columns that it is grouped by. -/
inductive GroupingKey (γ : Type)
  /-- A series of a scenario, with the thresholds that are joined to it. -/
  | series (scenarioName : String) (series : γ) (thresholds : List (Option ℚ)) (bucketTime : ℤ)
  /-- All scenarios. -/
  | rollUp (bucketTime : ℤ)
  /-- A scenario. -/
  | total (scenarioName : String) (bucketTime : ℤ)
  deriving DecidableEq, Repr

/-- The bucket of a row of a `GROUPING SETS`. -/
def GroupingKey.bucketTime {γ : Type} : GroupingKey γ → ℤ
  | .series _ _ _ bucketTime => bucketTime
  | .rollUp bucketTime => bucketTime
  | .total _ bucketTime => bucketTime

/-- A column of the aggregate: the value of some rows, none if they have none. More
    rows have a value if fewer have. -/
structure Column (ρ : Type) where
  value : List ρ → Option ℚ
  /-- More rows have a value if fewer have. -/
  isSome_of_sublist : ∀ rows rows', rows.Sublist rows' → (value rows).isSome →
    (value rows').isSome

/-! ## Columns -/

section Columns

variable {ρ : Type}

/-- The values of a column of the raw rows. -/
def values (get : ρ → Option ℤ) (rows : List ρ) : List ℚ :=
  rows.filterMap fun row => (get row).map Int.cast

theorem values_sublist (get : ρ → Option ℤ) {rows rows' : List ρ} (h : rows.Sublist rows') :
    (values get rows).Sublist (values get rows') := h.filterMap _

/-- A column that has a value exactly if the raw rows have one in some column. -/
def Column.ofValues (get : ρ → Option ℤ) (value : List ρ → Option ℚ)
    (h : ∀ rows, (value rows).isSome ↔ values get rows ≠ []) : Column ρ where
  value
  isSome_of_sublist rows rows' hrows hvalue := by
    rw [h] at hvalue ⊢
    exact fun hnil => hvalue (List.sublist_nil.1 (hnil ▸ values_sublist get hrows))

/-- A column that always has a value. -/
def Column.always (value : List ρ → ℚ) : Column ρ where
  value rows := some (value rows)
  isSome_of_sublist _ _ _ _ := rfl

variable (get : ρ → Option ℤ) (bucketSizeSeconds : ℕ) (isError : ρ → Bool)

/-- `AVG(…) FILTER (WHERE … IS NOT NULL)`. -/
def avg : Column ρ := .ofValues get (fun rows => Aggregate.avg (values get rows)) fun rows => by
  by_cases h : values get rows = []
  · simp [h, Aggregate.avg]
  · simp [h, Aggregate.avg_of_ne_nil]

/-- `PERCENTILE_CONT(p) WITHIN GROUP (ORDER BY …) FILTER (WHERE … IS NOT NULL)`. -/
def percentile (p : ℚ) (hp : p ≤ 1) : Column ρ :=
  .ofValues get (fun rows => percentileCont p (values get rows)) fun _ => percentileCont_isSome hp _

/-- `SUM(…)::double precision / 1000 / bucketSizeSeconds`. -/
def concurrency : Column ρ :=
  .ofValues get
    (fun rows => (Aggregate.sum (values get rows)).map fun sum => sum / 1000 / bucketSizeSeconds)
    fun rows => by
      by_cases h : values get rows = []
      · simp [h]
      · simp [h, Aggregate.sum_of_ne_nil]

/-- The errors per hundred rows, to two decimals. -/
def errorRate : Column ρ where
  value rows :=
    if rows.length = 0 then none
    else some (roundTo 100 ((rows.countP isError : ℚ) / rows.length * 100))
  isSome_of_sublist rows rows' hrows hvalue := by
    have := hrows.length_le
    split at hvalue
    · cases hvalue
    · rw [if_neg (by omega)]
      rfl

def errorCountPerSecond : Column ρ :=
  .always fun rows => (rows.countP isError : ℚ) / bucketSizeSeconds

/-- The rows per second, to two decimals. -/
def throughput : Column ρ :=
  .always fun rows => roundTo 100 ((rows.length : ℚ) / bucketSizeSeconds)

/-- The Apdex score, unrounded: the fraction of the values up to the threshold of
    their rows, those up to four times the threshold counting half. -/
def apdexScore (threshold : ρ → ℚ) : Column ρ :=
  .ofValues get
    (fun rows =>
      let total := (values get rows).length
      let satisfied := rows.countP fun row => (get row).any fun t => (t : ℚ) ≤ threshold row
      let tolerating := rows.countP fun row => (get row).any fun t =>
        threshold row < t ∧ t ≤ threshold row * 4
      if 0 < total then some (((satisfied : ℚ) + tolerating * (1 / 2)) / total) else none)
    fun rows => by simp [List.length_pos_iff]

/-- A column to some decimals: to multiples of `1 / scale`. -/
def Column.rounded (scale : ℕ) (column : Column ρ) : Column ρ where
  value rows := (column.value rows).map (roundTo scale)
  isSome_of_sublist rows rows' hrows hvalue := by
    rw [Option.isSome_map] at hvalue ⊢
    exact column.isSome_of_sublist rows rows' hrows hvalue

end Columns

/-- What the aggregate of rows `ρ` into series `γ` is made of. -/
structure SeriesAggregate (ρ γ : Type) where
  /-- The time of a row, in milliseconds. -/
  time : ρ → ℤ
  scenarioName : ρ → String
  series : ρ → γ
  /-- The thresholds that are joined to the rows of a series. -/
  thresholds : γ → List (Option ℚ)
  /-- The name of the metric of a series. -/
  metricName : γ → String
  /-- The panels, each with the column of its values. -/
  panelValues : List (ℕ × Column ρ)
  /-- The panel that the totals are written to. -/
  throughputPanel : ℕ
  /-- The column of the totals. -/
  throughput : Column ρ
  /-- The panels are different. -/
  nodup_panels : (panelValues.map Prod.fst).Nodup
  /-- The totals are written to one of them. -/
  throughput_mem : (throughputPanel, throughput) ∈ panelValues
  /-- There always is a throughput. -/
  throughput_isSome : ∀ rows, (throughput.value rows).isSome

/-- The buckets of a run. -/
structure Buckets where
  /-- The start of the run, in milliseconds: that of the first bucket. -/
  startTime : ℤ
  /-- The length of a bucket, in seconds. -/
  bucketSizeSeconds : ℕ

namespace Buckets

variable (buckets : Buckets)

/-- The length of a bucket, in milliseconds. -/
def width : ℤ := buckets.bucketSizeSeconds * 1000

/-- The bucket of a time: `time_bucket` from the start of the run. -/
def bucketTime (time : ℤ) : ℤ :=
  buckets.startTime + (time - buckets.startTime) / buckets.width * buckets.width

/-- The number of a bucket. -/
def timestep (bucketTime : ℤ) : ℤ := (bucketTime - buckets.startTime) / buckets.width

end Buckets

namespace SeriesAggregate

variable {ρ γ : Type} [DecidableEq γ] (A : SeriesAggregate ρ γ) (buckets : Buckets)

/-! ## The aggregate -/

/-- The columns of the grouping set of the series. -/
def seriesKey (row : ρ) : GroupingKey γ :=
  .series (A.scenarioName row) (A.series row) (A.thresholds (A.series row))
    (buckets.bucketTime (A.time row))

/-- The columns of the grouping set of the roll-up. -/
def rollUpKey (row : ρ) : GroupingKey γ := .rollUp (buckets.bucketTime (A.time row))

/-- The columns of the grouping set of the totals. -/
def totalKey (row : ρ) : GroupingKey γ :=
  .total (A.scenarioName row) (buckets.bucketTime (A.time row))

def groupingSets : List (ρ → GroupingKey γ) :=
  [A.seriesKey buckets, A.rollUpKey buckets, A.totalKey buckets]

/-- The groups that a row is in. -/
def keysOf (row : ρ) : List (GroupingKey γ) := (A.groupingSets buckets).map fun key => key row

/-- `GROUP BY GROUPING SETS`: the groups of every set, each with its rows. -/
def aggregated (rows : List ρ) : List (GroupingKey γ × List ρ) :=
  (A.groupingSets buckets).flatMap fun key => groupBy key rows

/-- The panels of a group, with the column that is written to each: a total is only
    written as throughput. -/
def panels : GroupingKey γ → List (ℕ × Column ρ)
  | .series _ _ _ _ => A.panelValues
  | .rollUp _ => A.panelValues
  | .total _ _ => [(A.throughputPanel, A.throughput)]

/-- The groups joined to their panels. -/
def computed (rows : List ρ) : List ((GroupingKey γ × List ρ) × (ℕ × Column ρ)) :=
  (A.aggregated buckets rows).flatMap fun c => (A.panels c.1).map fun v => (c, v)

/-- The scenario of a group. -/
def scenarioOf : GroupingKey γ → String
  | .series scenarioName _ _ _ => scenarioName
  | .rollUp _ => ALL_AGGREGATED_SCENARIO
  | .total scenarioName _ => scenarioName

/-- The metric of a group. -/
def metricOf : GroupingKey γ → String
  | .series _ series _ _ => A.metricName series
  | .rollUp _ => ALL_AGGREGATED_METRIC
  | .total _ _ => "total"

/-- The row that is emitted for a group in a panel. -/
def emittedRow (c : GroupingKey γ × List ρ) (v : ℕ × Column ρ) : EmittedRow where
  scenarioName := scenarioOf c.1
  metricName := A.metricOf c.1
  panelId := v.1
  value := v.2.value c.2
  bucketTime := c.1.bucketTime
  timestep := buckets.timestep c.1.bucketTime

/-- The rows that are emitted. -/
def rowsSelect (rows : List ρ) : List EmittedRow :=
  (A.computed buckets rows).map fun x => A.emittedRow buckets x.1 x.2

/-- The rows of a window. -/
def filterRows (filterFromTime : ℤ) (filterToTime : Option ℤ) (rows : List ρ) : List ρ :=
  rows.filter fun row =>
    filterFromTime ≤ A.time row ∧ filterToTime.all fun filterTo => A.time row ≤ filterTo

/-! ## Rows that are stored -/

variable (times : RunTimes) (dashboards : ScenarioDashboards)

/-- The key of the row that is written for a group in a panel, if one is. -/
def storedKey (x : (GroupingKey γ × List ρ) × (ℕ × Column ρ)) : Option DsMetricKey :=
  (dsMetric times dashboards (A.emittedRow buckets x.1 x.2)).map Prod.fst

/-- A row is written for the series of a raw row, under a key. -/
def StoredFor (rows : List ρ) (row : ρ) (k : DsMetricKey) : Prop :=
  ∃ x ∈ A.computed buckets rows, x.1.1 = A.seriesKey buckets row ∧
    A.storedKey buckets times dashboards x = some k

/-- The rows that are written for some raw rows do not collide. -/
structure StoredApart (rows : List ρ) : Prop where
  /-- No two rows have the same key. -/
  keys : (((A.rowsSelect buckets rows).filterMap (dsMetric times dashboards)).map Prod.fst).Nodup
  /-- So the statement that inserts them does not fail. -/
  inserted : ∀ isIncremental, (insertDsMetricsFromAggregate times dashboards
    (A.rowsSelect buckets rows) isIncremental Table.empty).isSome
  /-- No two series are stored as one. -/
  series : ∀ row ∈ rows, ∀ row' ∈ rows, ∀ k k',
    A.StoredFor buckets times dashboards rows row k →
    A.StoredFor buckets times dashboards rows row' k' →
    k.applicationDashboardId = k'.applicationDashboardId → k.panelId = k'.panelId →
    k.metricName = k'.metricName →
    A.scenarioName row = A.scenarioName row' ∧ A.series row = A.series row'

/-- The name that the metric of a raw row is stored under. -/
def storedName (row : ρ) : String := left (A.metricName (A.series row)) 255

/-- The names of the series of some raw rows stay apart. -/
structure NamesApart (rows : List ρ) : Prop where
  /-- Two series of a scenario have different names. -/
  series : ∀ row ∈ rows, ∀ row' ∈ rows, A.scenarioName row = A.scenarioName row' →
    (dashboards.dashboardId (A.scenarioName row)).isSome →
    A.storedName row = A.storedName row' → A.series row = A.series row'
  /-- None has the name of the total. -/
  total : ∀ row ∈ rows, (dashboards.dashboardId (A.scenarioName row)).isSome →
    A.storedName row ≠ "total"
  /-- And none, in the scenario of the roll-up, that of the roll-up. -/
  rollUp : ∀ row ∈ rows, A.scenarioName row = ALL_AGGREGATED_SCENARIO →
    (dashboards.dashboardId ALL_AGGREGATED_SCENARIO).isSome →
    A.storedName row ≠ ALL_AGGREGATED_METRIC

instance (rows : List ρ) : Decidable (A.NamesApart dashboards rows) :=
  decidable_of_iff
    ((∀ row ∈ rows, ∀ row' ∈ rows, A.scenarioName row = A.scenarioName row' →
      (dashboards.dashboardId (A.scenarioName row)).isSome →
      A.storedName row = A.storedName row' → A.series row = A.series row') ∧
      (∀ row ∈ rows, (dashboards.dashboardId (A.scenarioName row)).isSome →
        A.storedName row ≠ "total") ∧
      ∀ row ∈ rows, A.scenarioName row = ALL_AGGREGATED_SCENARIO →
        (dashboards.dashboardId ALL_AGGREGATED_SCENARIO).isSome →
        A.storedName row ≠ ALL_AGGREGATED_METRIC)
    ⟨fun h => ⟨h.1, h.2.1, h.2.2⟩, fun h => ⟨h.series, h.total, h.rollUp⟩⟩

variable {A buckets times dashboards} {rows : List ρ}

omit [DecidableEq γ] in
/-- The names of fewer rows stay apart. -/
theorem NamesApart.subset (h : A.NamesApart dashboards rows) {rows' : List ρ}
    (hsub : rows' ⊆ rows) : A.NamesApart dashboards rows' where
  series row hrow row' hrow' := h.series row (hsub hrow) row' (hsub hrow')
  total row hrow := h.total row (hsub hrow)
  rollUp row hrow := h.rollUp row (hsub hrow)

omit [DecidableEq γ] in
theorem namesApart_nil : A.NamesApart dashboards [] where
  series _ hrow := absurd hrow List.not_mem_nil
  total _ hrow := absurd hrow List.not_mem_nil
  rollUp _ hrow := absurd hrow List.not_mem_nil

omit [DecidableEq γ] in
/-- Whether the names stay apart is a matter of the names. -/
theorem NamesApart.of_names {A' : SeriesAggregate ρ γ} (h : A.NamesApart dashboards rows)
    (hscenario : A'.scenarioName = A.scenarioName) (hseries : A'.series = A.series)
    (hname : A'.metricName = A.metricName) : A'.NamesApart dashboards rows := by
  have hstored : A'.storedName = A.storedName := by
    funext row
    rw [storedName, storedName, hseries, hname]
  refine ⟨?_, ?_, ?_⟩
  · rw [hscenario, hstored, hseries]
    exact h.series
  · rw [hscenario, hstored]
    exact h.total
  · rw [hscenario, hstored]
    exact h.rollUp

/-- The groups of the rows, each with all rows that are in it. -/
theorem mem_aggregated {k : GroupingKey γ} {g : List ρ} : (k, g) ∈ A.aggregated buckets rows ↔
    (∃ row ∈ rows, k ∈ A.keysOf buckets row) ∧ g = rows.filter (k ∈ A.keysOf buckets ·) := by
  -- A group is of the set whose columns it has.
  have hset : ∀ key ∈ A.groupingSets buckets, ∀ row row',
      key row ∈ A.keysOf buckets row' ↔ key row' = key row := by
    intro key hkey row row'
    simp only [groupingSets, List.mem_cons, List.not_mem_nil, or_false] at hkey
    rcases hkey with rfl | rfl | rfl <;>
      simp [keysOf, groupingSets, seriesKey, rollUpKey, totalKey, eq_comm]
  simp only [aggregated, List.mem_flatMap, mem_groupBy]
  constructor
  · rintro ⟨key, hkey, ⟨row, hrow, rfl⟩, rfl⟩
    refine ⟨⟨row, hrow, List.mem_map.2 ⟨key, hkey, rfl⟩⟩, List.filter_congr fun row' _ => ?_⟩
    rw [decide_eq_decide]
    exact (hset key hkey row row').symm
  · rintro ⟨⟨row, hrow, hk⟩, rfl⟩
    obtain ⟨key, hkey, rfl⟩ := List.mem_map.1 hk
    refine ⟨key, hkey, ⟨row, hrow, rfl⟩, List.filter_congr fun row' _ => ?_⟩
    rw [decide_eq_decide]
    exact hset key hkey row row'

theorem nodup_aggregated (rows : List ρ) : (A.aggregated buckets rows).Nodup := by
  refine List.nodup_flatMap.2 ⟨fun key _ => nodup_groupBy key rows, ?_⟩
  have hdisjoint : ∀ key key' : ρ → GroupingKey γ, (∀ row row', key row ≠ key' row') →
      List.Disjoint (groupBy key rows) (groupBy key' rows) := by
    rintro key key' hne ⟨k, g⟩ h h'
    obtain ⟨⟨row, -, rfl⟩, -⟩ := mem_groupBy.1 h
    obtain ⟨⟨row', -, hrow'⟩, -⟩ := mem_groupBy.1 h'
    exact hne row row' hrow'.symm
  simp only [groupingSets, List.pairwise_cons, List.mem_cons, List.not_mem_nil, or_false,
    forall_eq_or_imp, forall_eq, Function.onFun]
  exact ⟨⟨hdisjoint _ _ nofun, hdisjoint _ _ nofun⟩, hdisjoint _ _ nofun, nofun, .nil⟩

omit [DecidableEq γ] in
theorem nodup_panels_of (k : GroupingKey γ) : ((A.panels k).map Prod.fst).Nodup := by
  cases k with
  | series => exact A.nodup_panels
  | rollUp => exact A.nodup_panels
  | total => exact List.nodup_singleton _

theorem mem_computed {c : GroupingKey γ × List ρ} {v : ℕ × Column ρ} :
    (c, v) ∈ A.computed buckets rows ↔ c ∈ A.aggregated buckets rows ∧ v ∈ A.panels c.1 := by
  simp only [computed, List.mem_flatMap, List.mem_map, Prod.mk.injEq]
  constructor
  · rintro ⟨c', hc', v', hv', rfl, rfl⟩
    exact ⟨hc', hv'⟩
  · rintro ⟨hc, hv⟩
    exact ⟨c, hc, v, hv, rfl, rfl⟩

theorem nodup_computed (rows : List ρ) : (A.computed buckets rows).Nodup := by
  refine List.nodup_flatMap.2 ⟨fun c _ => ?_, ?_⟩
  · exact ((nodup_panels_of c.1).of_map).map fun _ _ h => congrArg Prod.snd h
  · refine (nodup_aggregated rows).pairwise_of_forall_ne fun c _ c' _ hne => ?_
    rintro ⟨d, v⟩ h h'
    obtain ⟨_, -, h⟩ := List.mem_map.1 h
    obtain ⟨_, -, h'⟩ := List.mem_map.1 h'
    exact hne ((congrArg Prod.fst h).trans (congrArg Prod.fst h').symm)

/-- A group and a panel make one row. -/
theorem computed_ext {x y : (GroupingKey γ × List ρ) × (ℕ × Column ρ)}
    (hx : x ∈ A.computed buckets rows) (hy : y ∈ A.computed buckets rows)
    (hkey : x.1.1 = y.1.1) (hpanel : x.2.1 = y.2.1) : x = y := by
  obtain ⟨⟨k, g⟩, v⟩ := x
  obtain ⟨⟨k', g'⟩, v'⟩ := y
  obtain rfl : k = k' := hkey
  obtain ⟨hg, hv⟩ := mem_computed.1 hx
  obtain ⟨hg', hv'⟩ := mem_computed.1 hy
  obtain rfl := (mem_aggregated.1 hg).2
  obtain rfl := (mem_aggregated.1 hg').2
  obtain rfl : v = v' := List.inj_on_of_nodup_map (nodup_panels_of k) hv hv' hpanel
  rfl

omit [DecidableEq γ] in
theorem storedKey_eq_some {x : (GroupingKey γ × List ρ) × (ℕ × Column ρ)} {k : DsMetricKey} :
    A.storedKey buckets times dashboards x = some k ↔
      dashboards.dashboardId (scenarioOf x.1.1) = some k.applicationDashboardId ∧
        k.panelId = x.2.1 ∧ k.metricName = left (A.metricOf x.1.1) 255 ∧
        k.time = x.1.1.bucketTime ∧ (x.2.2.value x.1.2).isSome := by
  obtain ⟨dashboard, panel, name, time⟩ := k
  rw [storedKey, dsMetric, emittedRow]
  cases dashboards.dashboardId (scenarioOf x.1.1) with
  | none => simp
  | some d =>
    cases x.2.2.value x.1.2 with
    | none => simp
    | some v =>
      simp only [Option.map_some, Option.some.injEq, DsMetricKey.mk.injEq, Option.isSome_some]
      tauto

/-- The keys of the rows that are written. -/
theorem keys_rowsSelect (rows : List ρ) :
    ((A.rowsSelect buckets rows).filterMap (dsMetric times dashboards)).map Prod.fst =
      (A.computed buckets rows).filterMap (A.storedKey buckets times dashboards) := by
  rw [rowsSelect, List.filterMap_map, List.map_filterMap]
  rfl

variable (times) in
/-- The throughput of a group is written if its scenario has a dashboard. -/
theorem exists_stored {row : ρ} (hrow : row ∈ rows) {k : GroupingKey γ}
    (hk : k ∈ A.keysOf buckets row) {d : String}
    (hd : dashboards.dashboardId (scenarioOf k) = some d) :
    ∃ x ∈ A.computed buckets rows, x.1.1 = k ∧ A.storedKey buckets times dashboards x =
      some ⟨d, A.throughputPanel, left (A.metricOf k) 255, k.bucketTime⟩ := by
  have hpanel : (A.throughputPanel, A.throughput) ∈ A.panels k := by
    cases k with
    | series => exact A.throughput_mem
    | rollUp => exact A.throughput_mem
    | total => exact List.mem_singleton_self _
  refine ⟨((k, _), (A.throughputPanel, A.throughput)),
    mem_computed.2 ⟨mem_aggregated.2 ⟨⟨row, hrow, hk⟩, rfl⟩, hpanel⟩, rfl, ?_⟩
  exact storedKey_eq_some.2 ⟨hd, rfl, rfl, rfl, A.throughput_isSome _⟩

omit [DecidableEq γ] in
theorem mem_keysOf {row : ρ} {k : GroupingKey γ} : k ∈ A.keysOf buckets row ↔
    k = A.seriesKey buckets row ∨ k = A.rollUpKey buckets row ∨ k = A.totalKey buckets row := by
  simp [keysOf, groupingSets]

theorem left_total : left "total" 255 = "total" := by decide +kernel

theorem left_rollUp : left ALL_AGGREGATED_METRIC 255 = ALL_AGGREGATED_METRIC := by decide +kernel

omit [DecidableEq γ] in
/-- If the names stay apart, groups of a bucket that are stored under the same name are
    the same. -/
theorem NamesApart.key_eq (h : A.NamesApart dashboards rows) {row row' : ρ} (hrow : row ∈ rows)
    (hrow' : row' ∈ rows) {k k' : GroupingKey γ} (hk : k ∈ A.keysOf buckets row)
    (hk' : k' ∈ A.keysOf buckets row') (hd : (dashboards.dashboardId (scenarioOf k)).isSome)
    (hscenario : scenarioOf k = scenarioOf k')
    (hname : left (A.metricOf k) 255 = left (A.metricOf k') 255)
    (htime : k.bucketTime = k'.bucketTime) : k = k' := by
  have hne : ALL_AGGREGATED_METRIC ≠ "total" := by decide +kernel
  have hd' : (dashboards.dashboardId (scenarioOf k')).isSome := hscenario ▸ hd
  rcases mem_keysOf.1 hk with rfl | rfl | rfl <;> rcases mem_keysOf.1 hk' with rfl | rfl | rfl
  · -- Two series.
    obtain hseries := h.series row hrow row' hrow' hscenario hd hname
    have hscenario' : A.scenarioName row = A.scenarioName row' := hscenario
    have htime' : buckets.bucketTime (A.time row) = buckets.bucketTime (A.time row') := htime
    rw [seriesKey, seriesKey, hscenario', hseries, htime']
  · exact absurd (hname.trans left_rollUp) (h.rollUp row hrow hscenario hd')
  · exact absurd (hname.trans left_total) (h.total row hrow hd)
  · exact absurd (hname.symm.trans left_rollUp) (h.rollUp row' hrow' hscenario.symm hd)
  · exact congrArg GroupingKey.rollUp htime
  · exact absurd (left_rollUp.symm.trans (hname.trans left_total)) hne
  · exact absurd (hname.symm.trans left_total) (h.total row' hrow' hd')
  · exact absurd (left_rollUp.symm.trans (hname.symm.trans left_total)) hne
  · exact congrArg₂ GroupingKey.total hscenario htime

/-- Rows that are written under one key are one if the names stay apart. -/
theorem NamesApart.nodup_keys (h : A.NamesApart dashboards rows) :
    ((A.computed buckets rows).filterMap (A.storedKey buckets times dashboards)).Nodup := by
  refine (Table.nodup_filterMap_iff (nodup_computed rows)).2 fun x hx y hy k hkx hky => ?_
  obtain ⟨hdx, hpx, hnx, htx, -⟩ := storedKey_eq_some.1 hkx
  obtain ⟨hdy, hpy, hny, hty, -⟩ := storedKey_eq_some.1 hky
  obtain ⟨row, hrow, hxrow⟩ := (mem_aggregated.1 (mem_computed.1 hx).1).1
  obtain ⟨row', hrow', hyrow⟩ := (mem_aggregated.1 (mem_computed.1 hy).1).1
  refine computed_ext hx hy ?_ (hpx.symm.trans hpy)
  exact h.key_eq hrow hrow' hxrow hyrow (Option.isSome_of_eq_some hdx)
    (dashboards.injective _ _ _ hdx hdy) (hnx.symm.trans hny) (htx.symm.trans hty)

variable (times) in
/-- Conversely, if no two rows that are written have the same key. -/
theorem key_eq_of_nodup
    (h : ((A.computed buckets rows).filterMap (A.storedKey buckets times dashboards)).Nodup)
    {row row' : ρ} (hrow : row ∈ rows) (hrow' : row' ∈ rows) {k k' : GroupingKey γ}
    (hk : k ∈ A.keysOf buckets row) (hk' : k' ∈ A.keysOf buckets row')
    (hd : (dashboards.dashboardId (scenarioOf k)).isSome)
    (hscenario : scenarioOf k = scenarioOf k')
    (hname : left (A.metricOf k) 255 = left (A.metricOf k') 255)
    (htime : k.bucketTime = k'.bucketTime) : k = k' := by
  obtain ⟨d, hd⟩ := Option.isSome_iff_exists.1 hd
  obtain ⟨x, hx, rfl, hxs⟩ := exists_stored times hrow hk hd
  obtain ⟨y, hy, rfl, hys⟩ := exists_stored times hrow' hk' (hscenario ▸ hd)
  rw [hname, htime] at hxs
  exact congrArg (fun x => x.1.1)
    ((Table.nodup_filterMap_iff (nodup_computed rows)).1 h x hx y hy _ hxs hys)

/-- The rows that are written do not collide exactly if the names stay apart. -/
theorem storedApart_iff :
    A.StoredApart buckets times dashboards rows ↔ A.NamesApart dashboards rows := by
  constructor
  · intro h
    have hkeys := h.keys
    rw [keys_rowsSelect] at hkeys
    have hseries : ∀ row, A.seriesKey buckets row ∈ A.keysOf buckets row :=
      fun row => mem_keysOf.2 (.inl rfl)
    refine ⟨fun row hrow row' hrow' hscenario hd hname => ?_, fun row hrow hd hname => ?_,
      fun row hrow hscenario hd hname => ?_⟩
    · obtain ⟨d, hd⟩ := Option.isSome_iff_exists.1 hd
      have hd' : dashboards.dashboardId (A.scenarioName row') = some d := hscenario ▸ hd
      obtain ⟨x, hx, hxk, hxs⟩ := exists_stored times hrow (hseries row) hd
      obtain ⟨y, hy, hyk, hys⟩ := exists_stored times hrow' (hseries row') hd'
      exact (h.series row hrow row' hrow' _ _ ⟨x, hx, hxk, hxs⟩ ⟨y, hy, hyk, hys⟩ rfl rfl hname).2
    · -- The total of the scenario is written in the same bucket.
      have htotal : A.totalKey buckets row ∈ A.keysOf buckets row := mem_keysOf.2 (.inr (.inr rfl))
      cases key_eq_of_nodup times hkeys hrow hrow (hseries row) htotal hd rfl
        (hname.trans left_total.symm) rfl
    · -- So is the roll-up.
      have hrollUp : A.rollUpKey buckets row ∈ A.keysOf buckets row :=
        mem_keysOf.2 (.inr (.inl rfl))
      have hd' : (dashboards.dashboardId (A.scenarioName row)).isSome := hscenario ▸ hd
      cases key_eq_of_nodup times hkeys hrow hrow (hseries row) hrollUp hd' hscenario
        (hname.trans left_rollUp.symm) rfl
  · intro h
    refine ⟨?_, fun isIncremental => ?_, fun row hrow row' hrow' k k' hk hk' hd hp hn => ?_⟩
    · rw [keys_rowsSelect]
      exact h.nodup_keys
    · rw [insertDsMetricsFromAggregate_isSome, keys_rowsSelect]
      exact h.nodup_keys
    · obtain ⟨x, hx, hxk, hxs⟩ := hk
      obtain ⟨y, hy, hyk, hys⟩ := hk'
      obtain ⟨hdx, hpx, hnx, htx, -⟩ := storedKey_eq_some.1 hxs
      obtain ⟨hdy, hpy, hny, hty, -⟩ := storedKey_eq_some.1 hys
      rw [hxk] at hdx hnx
      rw [hyk, ← hd] at hdy
      rw [hyk, ← hn] at hny
      have hscenario := dashboards.injective _ _ _ hdx hdy
      exact ⟨hscenario, h.series row hrow row' hrow' hscenario (Option.isSome_of_eq_some hdx)
        (hnx.symm.trans hny)⟩

end SeriesAggregate

/-! ## The processors -/

/-- The threshold of a transaction. -/
structure TransactionThreshold where
  /-- The threshold, in milliseconds. -/
  apdexThreshold : ℚ
  organizationId : Option String

/-- The threshold of a transaction without one, in milliseconds. -/
def DEFAULT_APDEX_THRESHOLD_MS : ℚ := 500

/-- A row of `requests_raw`. -/
structure RequestRaw where
  /-- The time, in milliseconds. -/
  time : ℤ
  scenarioName : Option String
  transactionName : Option String
  samplerName : Option String
  /-- The response time, in milliseconds. -/
  responseTime : Option ℤ
  /-- The latency, in milliseconds. -/
  responseLatency : Option ℤ
  /-- The connect time, in milliseconds. -/
  responseConnectTime : Option ℤ
  /-- Whether it succeeded. -/
  success : Bool
  deriving DecidableEq, Repr

/-- The requests of a sampler in a transaction. -/
structure RequestSeries where
  transactionName : String
  samplerName : String
  deriving DecidableEq, Repr

/-- The name of the metric of a sampler: without the transaction where it adds
    nothing. -/
def samplerMetricName (txn sampler : String) : String :=
  if txn ∈ ["", "overall"] ∨ txn = sampler then sampler else txn ++ "." ++ sampler

def buildRequestsAggregate (thresholds : Table String TransactionThreshold)
    (workloadThreshold : Option ℚ) (bucketSizeSeconds : ℕ) :
    SeriesAggregate RequestRaw RequestSeries :=
  let transactionName := fun row : RequestRaw => row.transactionName.getD "overall"
  let txThreshold := fun transactionName : String =>
    if transactionName = "overall" then none
    else (thresholds.get transactionName).map TransactionThreshold.apdexThreshold
  let threshold := fun row =>
    ((txThreshold (transactionName row)).or workloadThreshold).getD DEFAULT_APDEX_THRESHOLD_MS
  let isError := fun row : RequestRaw => !row.success
  { time := RequestRaw.time
    scenarioName row := row.scenarioName.getD "default"
    series row :=
      { transactionName := transactionName row
        samplerName := row.samplerName.getD "unknown" }
    thresholds series := [txThreshold series.transactionName, workloadThreshold]
    metricName series := samplerMetricName series.transactionName series.samplerName
    panelValues :=
      [(201, avg RequestRaw.responseTime),
       (202, percentile RequestRaw.responseTime (90 / 100) (by norm_num)),
       (203, percentile RequestRaw.responseTime (95 / 100) (by norm_num)),
       (204, percentile RequestRaw.responseTime (99 / 100) (by norm_num)),
       (205, errorRate isError),
       (220, errorCountPerSecond bucketSizeSeconds isError),
       (206, throughput bucketSizeSeconds),
       (207, (apdexScore RequestRaw.responseTime threshold).rounded 10000),
       (208, avg RequestRaw.responseLatency),
       (209, avg RequestRaw.responseConnectTime),
       (219, concurrency RequestRaw.responseTime bucketSizeSeconds)]
    throughputPanel := 206
    throughput := throughput bucketSizeSeconds
    nodup_panels := by simp
    throughput_mem := by simp
    throughput_isSome _ := rfl }

/-- A row of `transactions`. -/
structure TransactionRaw where
  /-- The time, in milliseconds. -/
  time : ℤ
  scenarioName : Option String
  transactionName : String
  /-- The response time, in milliseconds. -/
  responseTime : Option ℤ
  /-- Whether it succeeded. -/
  success : Bool
  deriving DecidableEq, Repr

/-- The aggregate of the transactions. Thresholds of other organizations than that of
    the run are left out. -/
def buildTransactionsAggregate (thresholds : Table String TransactionThreshold)
    (organizationId : Option String) (workloadThreshold benchmarkThreshold : Option ℚ)
    (bucketSizeSeconds : ℕ) : SeriesAggregate TransactionRaw String :=
  let fallbackThreshold := (workloadThreshold.or benchmarkThreshold).getD DEFAULT_APDEX_THRESHOLD_MS
  let perTxnThresholds := thresholds.filter fun _ threshold =>
    organizationId.all fun organizationId =>
      threshold.organizationId = some organizationId ∨ threshold.organizationId = none
  let threshold := fun transactionName : String =>
    ((perTxnThresholds.get transactionName).map TransactionThreshold.apdexThreshold).getD
      fallbackThreshold
  let isError := fun row : TransactionRaw => !row.success
  { time := TransactionRaw.time
    scenarioName row := row.scenarioName.getD "default"
    series := TransactionRaw.transactionName
    thresholds transactionName := [some (threshold transactionName)]
    metricName transactionName := transactionName
    panelValues :=
      [(101, avg TransactionRaw.responseTime),
       (102, percentile TransactionRaw.responseTime (90 / 100) (by norm_num)),
       (103, percentile TransactionRaw.responseTime (95 / 100) (by norm_num)),
       (104, percentile TransactionRaw.responseTime (99 / 100) (by norm_num)),
       (105, errorRate isError),
       (109, errorCountPerSecond bucketSizeSeconds isError),
       (107, throughput bucketSizeSeconds),
       (106, apdexScore TransactionRaw.responseTime fun row => threshold row.transactionName),
       (108, concurrency TransactionRaw.responseTime bucketSizeSeconds)]
    throughputPanel := 107
    throughput := throughput bucketSizeSeconds
    nodup_panels := by simp
    throughput_mem := by simp
    throughput_isSome _ := rfl }

/-- The rows that the processors write for a window do not collide, and each is inserted
    by one statement, exactly if the names of the series in the window stay apart. -/
theorem processors_storedApart_iff (times : RunTimes) (dashboards : ScenarioDashboards)
    (buckets : Buckets) (filterFromTime : ℤ) (filterToTime : Option ℤ)
    (thresholds : Table String TransactionThreshold) (organizationId : Option String)
    (requestsThreshold workloadThreshold benchmarkThreshold : Option ℚ)
    (requestsRaw : List RequestRaw) (transactions : List TransactionRaw) :
    let R := buildRequestsAggregate thresholds requestsThreshold buckets.bucketSizeSeconds
    let T := buildTransactionsAggregate thresholds organizationId workloadThreshold
      benchmarkThreshold buckets.bucketSizeSeconds
    let requestsRaw' := R.filterRows filterFromTime filterToTime requestsRaw
    let transactions' := T.filterRows filterFromTime filterToTime transactions
    (R.StoredApart buckets times dashboards requestsRaw' ↔ R.NamesApart dashboards requestsRaw') ∧
      (T.StoredApart buckets times dashboards transactions' ↔
        T.NamesApart dashboards transactions') :=
  ⟨SeriesAggregate.storedApart_iff, SeriesAggregate.storedApart_iff⟩

/-! ## Colliding names -/

/-- Every scenario with a dashboard of its own. -/
def allDashboards : ScenarioDashboards where
  dashboardId := some
  injective _ _ _ h h' := Option.some.inj (h.trans h'.symm)

def request (time : ℤ) (transactionName : Option String) (samplerName : String) : RequestRaw where
  time
  scenarioName := none
  transactionName
  samplerName := some samplerName
  responseTime := some 100
  responseLatency := none
  responseConnectTime := none
  success := true

/-- A sampler that is called both in a transaction of its name and outside of any fails
    the statement that inserts the requests of the run. -/
theorem login_collides :
    let R := buildRequestsAggregate Table.empty none 60
    let rows := [request 0 none "login", request 0 (some "login") "login"]
    ¬R.StoredApart ⟨0, 60⟩ ⟨0, none⟩ allDashboards (R.filterRows 0 none rows) := by
  intro R rows h
  have hinserted : (insertDsMetricsFromAggregate ⟨0, none⟩ allDashboards
      (R.rowsSelect ⟨0, 60⟩ (R.filterRows 0 none rows)) false Table.empty).isSome = false := by
    decide +kernel
  rw [h.inserted false] at hinserted
  cases hinserted

end Perfana.PerformanceTest
