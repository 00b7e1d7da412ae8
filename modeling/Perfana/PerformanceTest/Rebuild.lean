import Perfana.Lib.BucketView
import Perfana.PerformanceTest.Series

/-!
# The rows of a performance test

The rows that the requests and the transactions of a run are aggregated to, as one
query of its raw rows (`PerfTest.query`): bucket by bucket, since a group is of one
bucket, and with a row where fewer samples have one.

* `SeriesAggregate.mem_storedRows_filter`, `SeriesAggregate.storedRows_mono`: so for
  either aggregate;
* `PerfTest.runProcessors_upsert`, `PerfTest.runProcessors_insert`: what the statements
  of the processors leave, one after the other;
* `PerfTest.nodup_keys`: they have no two rows of the same key if the names of the
  series stay apart.
-/

namespace Perfana.PerformanceTest

namespace SeriesAggregate

variable {ρ γ : Type} [DecidableEq γ] (A : SeriesAggregate ρ γ) (buckets : Buckets)
  (times : RunTimes) (dashboards : ScenarioDashboards)

/-- The rows that are written for some raw rows. -/
def storedRows (rows : List ρ) : List (DsMetricKey × DsMetric) :=
  (A.rowsSelect buckets rows).filterMap (dsMetric times dashboards)

variable {A buckets times dashboards} {rows rows' : List ρ} {k : DsMetricKey} {m : DsMetric}

theorem mem_storedRows : (k, m) ∈ A.storedRows buckets times dashboards rows ↔
    ∃ x ∈ A.computed buckets rows,
      dsMetric times dashboards (A.emittedRow buckets x.1 x.2) = some (k, m) := by
  rw [storedRows, rowsSelect, List.filterMap_map, List.mem_filterMap]
  rfl

omit [DecidableEq γ] in
/-- A group is of the bucket of its rows. -/
theorem bucketTime_of_mem_keysOf {row : ρ} {c : GroupingKey γ} (h : c ∈ A.keysOf buckets row) :
    c.bucketTime = buckets.bucketTime (A.time row) := by
  rcases mem_keysOf.1 h with rfl | rfl | rfl <;> rfl

/-- The groups of a bucket are those of the rows of the bucket. -/
theorem mem_computed_filter {x : (GroupingKey γ × List ρ) × (ℕ × Column ρ)} :
    x ∈ A.computed buckets
        (rows.filter fun row => buckets.bucketTime (A.time row) = x.1.1.bucketTime) ↔
      x ∈ A.computed buckets rows := by
  obtain ⟨⟨c, g⟩, v⟩ := x
  have hfilter : (rows.filter fun row => buckets.bucketTime (A.time row) = c.bucketTime).filter
      (c ∈ A.keysOf buckets ·) = rows.filter (c ∈ A.keysOf buckets ·) := by
    rw [List.filter_filter]
    refine List.filter_congr fun row _ => ?_
    by_cases hc : c ∈ A.keysOf buckets row
    · simp [hc, (bucketTime_of_mem_keysOf hc).symm]
    · simp [hc]
  simp only [mem_computed, mem_aggregated, hfilter, List.mem_filter, decide_eq_true_eq]
  constructor
  · rintro ⟨⟨⟨row, hrow, hc⟩, hg⟩, hv⟩
    exact ⟨⟨⟨row, hrow.1, hc⟩, hg⟩, hv⟩
  · rintro ⟨⟨⟨row, hrow, hc⟩, hg⟩, hv⟩
    exact ⟨⟨⟨row, ⟨hrow, (bucketTime_of_mem_keysOf hc).symm⟩, hc⟩, hg⟩, hv⟩

/-- The rows of a bucket are those for the raw rows of the bucket. -/
theorem mem_storedRows_filter : (k, m) ∈ A.storedRows buckets times dashboards
      (rows.filter fun row => buckets.bucketTime (A.time row) = k.time) ↔
    (k, m) ∈ A.storedRows buckets times dashboards rows := by
  simp only [mem_storedRows]
  refine exists_congr fun x => and_congr_left fun hx => ?_
  have hkey : A.storedKey buckets times dashboards x = some k :=
    congrArg (Option.map Prod.fst) hx
  rw [(storedKey_eq_some.1 hkey).2.2.2.1, mem_computed_filter]

/-- More raw rows have a row where fewer have. -/
theorem storedRows_mono (hrows : rows.Sublist rows')
    (h : (k, m) ∈ A.storedRows buckets times dashboards rows) :
    ∃ m', (k, m') ∈ A.storedRows buckets times dashboards rows' := by
  obtain ⟨⟨⟨c, g⟩, v⟩, hx, hm⟩ := mem_storedRows.1 h
  have hkey : A.storedKey buckets times dashboards ((c, g), v) = some k :=
    congrArg (Option.map Prod.fst) hm
  obtain ⟨hd, hpanel, hname, htime, hvalue⟩ := storedKey_eq_some.1 hkey
  obtain ⟨hc, hv⟩ := mem_computed.1 hx
  obtain ⟨⟨row, hrow, hrowc⟩, rfl⟩ := mem_aggregated.1 hc
  let g' := rows'.filter (c ∈ A.keysOf buckets ·)
  have hx' : ((c, g'), v) ∈ A.computed buckets rows' :=
    mem_computed.2 ⟨mem_aggregated.2 ⟨⟨row, hrows.subset hrow, hrowc⟩, rfl⟩, hv⟩
  have hkey' : A.storedKey buckets times dashboards ((c, g'), v) = some k :=
    storedKey_eq_some.2
      ⟨hd, hpanel, hname, htime, v.2.isSome_of_sublist _ _ (hrows.filter _) hvalue⟩
  obtain ⟨⟨k', m'⟩, hm', rfl⟩ := Option.map_eq_some_iff.1 hkey'
  exact ⟨m', mem_storedRows.2 ⟨_, hx', hm'⟩⟩

/-- The columns of a row that follow from its key. -/
theorem columns_of_mem_storedRows (h : (k, m) ∈ A.storedRows buckets times dashboards rows) :
    k.panelId ∈ A.panelValues.map Prod.fst ∧ m.timestep = buckets.timestep k.time ∧
      m.rampUp = times.isRampUp k.time := by
  obtain ⟨⟨⟨c, g⟩, v⟩, hx, hm⟩ := mem_storedRows.1 h
  have hv : v ∈ A.panelValues := by
    have hv := (mem_computed.1 hx).2
    cases c with
    | series => exact hv
    | rollUp => exact hv
    | total =>
      obtain rfl := List.mem_singleton.1 hv
      exact A.throughput_mem
  simp only [dsMetric, emittedRow] at hm
  split at hm
  · cases hm
    exact ⟨List.mem_map.2 ⟨v, hv, rfl⟩, rfl, rfl⟩
  · cases hm

end SeriesAggregate

/-! ## The statements of the processors -/

section Processors

variable {times : RunTimes} {dashboards : ScenarioDashboards}

/-- The metrics after the statements that insert the emitted rows, up to the first that
    fails, and whether none does. -/
def runProcessors (times : RunTimes) (dashboards : ScenarioDashboards) (isIncremental : Bool) :
    List (List EmittedRow) → Table DsMetricKey DsMetric → Table DsMetricKey DsMetric × Bool
  | [], dsMetrics => (dsMetrics, true)
  | emitted :: statements, dsMetrics =>
    match insertDsMetricsFromAggregate times dashboards emitted isIncremental dsMetrics with
    | some dsMetrics' => runProcessors times dashboards isIncremental statements dsMetrics'
    | none => (dsMetrics, false)

/-- The rows that are inserted by some statements. -/
def insertedRows (times : RunTimes) (dashboards : ScenarioDashboards)
    (statements : List (List EmittedRow)) : List (DsMetricKey × DsMetric) :=
  statements.flatMap fun emitted => emitted.filterMap (dsMetric times dashboards)

/-- Statements that update the rows in conflict insert their rows together, if no two of
    them have the same key. -/
theorem runProcessors_upsert {statements : List (List EmittedRow)}
    (h : ((insertedRows times dashboards statements).map Prod.fst).Nodup)
    (dsMetrics : Table DsMetricKey DsMetric) :
    (runProcessors times dashboards true statements dsMetrics).2 = true ∧
      ∀ k, (runProcessors times dashboards true statements dsMetrics).1.get k =
        (Table.upsert onConflict ⟨insertedRows times dashboards statements, h⟩
          dsMetrics).get k := by
  induction statements generalizing dsMetrics with
  | nil => exact ⟨rfl, fun k => (Table.upsert_of_none rfl).symm⟩
  | cons emitted statements ih =>
    have hcons : insertedRows times dashboards (emitted :: statements) =
        emitted.filterMap (dsMetric times dashboards) ++
          insertedRows times dashboards statements := List.flatMap_cons
    have hnodup := h
    rw [hcons] at hnodup
    have hhead := List.Nodup.of_append_left (List.map_append ▸ hnodup)
    have htail := List.Nodup.of_append_right (List.map_append ▸ hnodup)
    have hinsert : insertDsMetricsFromAggregate times dashboards emitted true dsMetrics =
        some (Table.upsert onConflict ⟨_, hhead⟩ dsMetrics) := by
      simp [insertDsMetricsFromAggregate, Table.ofRows_of_nodup hhead]
    rw [runProcessors, hinsert]
    obtain ⟨hok, hget⟩ := ih htail (Table.upsert onConflict ⟨_, hhead⟩ dsMetrics)
    refine ⟨hok, fun k => (hget k).trans ?_⟩
    rw [Table.get_upsert_upsert hnodup]
    rfl

/-- Plain statements do, if no two rows, those there are included, have the same key. -/
theorem runProcessors_insert {statements : List (List EmittedRow)}
    {dsMetrics : Table DsMetricKey DsMetric}
    (h : ((dsMetrics.rows ++ insertedRows times dashboards statements).map Prod.fst).Nodup) :
    runProcessors times dashboards false statements dsMetrics =
      (⟨dsMetrics.rows ++ insertedRows times dashboards statements, h⟩, true) := by
  induction statements generalizing dsMetrics with
  | nil =>
    obtain ⟨rows, nodup⟩ := dsMetrics
    simp [runProcessors, insertedRows]
  | cons emitted statements ih =>
    have hcons : dsMetrics.rows ++ insertedRows times dashboards (emitted :: statements) =
        (dsMetrics.rows ++ emitted.filterMap (dsMetric times dashboards)) ++
          insertedRows times dashboards statements := by
      rw [insertedRows, List.flatMap_cons, List.append_assoc]
      rfl
    have hnodup := h
    rw [hcons] at hnodup
    have hhead := List.Nodup.of_append_left (List.map_append ▸ hnodup)
    have hinsert : insertDsMetricsFromAggregate times dashboards emitted false dsMetrics =
        some ⟨_, hhead⟩ := by
      simp [insertDsMetricsFromAggregate, Table.ofRows_of_nodup hhead]
    rw [runProcessors, hinsert]
    refine (ih hnodup).trans ?_
    simp only [hcons]

/-- Plain statements insert their rows where there are none. -/
theorem runProcessors_empty {statements : List (List EmittedRow)}
    (h : ((insertedRows times dashboards statements).map Prod.fst).Nodup) :
    runProcessors times dashboards false statements Table.empty =
      (⟨insertedRows times dashboards statements, h⟩, true) :=
  @runProcessors_insert times dashboards statements Table.empty h

/-- The rows of some first statements are among those of all. -/
theorem insertedRows_take_sublist (times : RunTimes) (dashboards : ScenarioDashboards) (n : ℕ)
    (statements : List (List EmittedRow)) :
    (insertedRows times dashboards (statements.take n)).Sublist
      (insertedRows times dashboards statements) := by
  have hsplit : insertedRows times dashboards statements =
      insertedRows times dashboards (statements.take n) ++
        insertedRows times dashboards (statements.drop n) := by
    rw [insertedRows, insertedRows, insertedRows, ← List.flatMap_append, List.take_append_drop]
  rw [hsplit]
  exact List.sublist_append_left _ _

end Processors

/-! ## The rows of a run -/

/-- A raw row of a run. -/
inductive RawRow
  | request (row : RequestRaw)
  | transaction (row : TransactionRaw)
  deriving DecidableEq, Repr

namespace RawRow

/-- The time of a raw row, in milliseconds. -/
def time : RawRow → ℤ
  | request row => row.time
  | transaction row => row.time

/-- The row of `requests_raw`. -/
def request? : RawRow → Option RequestRaw
  | request row => some row
  | transaction _ => none

/-- The row of `transactions`. -/
def transaction? : RawRow → Option TransactionRaw
  | request _ => none
  | transaction row => some row

end RawRow

/-- The rows of `requests_raw` and of `transactions` among some raw rows. -/
def requestsRaw (raw : List RawRow) : List RequestRaw := raw.filterMap RawRow.request?
def transactionsRaw (raw : List RawRow) : List TransactionRaw := raw.filterMap RawRow.transaction?

/-- Rows are selected by what is read off them. -/
theorem filterMap_filter_comm {α β : Type} {f : α → Option β} {p : α → Bool} {q : β → Bool}
    (h : ∀ a b, f a = some b → p a = q b) (l : List α) :
    (l.filter p).filterMap f = (l.filterMap f).filter q := by
  rw [List.filterMap_filter, List.filter_filterMap]
  refine List.filterMap_congr fun a _ => ?_
  cases hf : f a with
  | none => simp
  | some b => cases hq : q b <;> simp [h a b hf, hq, Option.filter]

theorem requestsRaw_filter {p : RawRow → Bool} {q : RequestRaw → Bool}
    (h : ∀ row, p (.request row) = q row) (raw : List RawRow) :
    requestsRaw (raw.filter p) = (requestsRaw raw).filter q := by
  refine filterMap_filter_comm (fun row r hr => ?_) raw
  cases row <;> cases hr
  exact h r

theorem transactionsRaw_filter {p : RawRow → Bool} {q : TransactionRaw → Bool}
    (h : ∀ row, p (.transaction row) = q row) (raw : List RawRow) :
    transactionsRaw (raw.filter p) = (transactionsRaw raw).filter q := by
  refine filterMap_filter_comm (fun row r hr => ?_) raw
  cases row <;> cases hr
  exact h r

/-- The run that is measured, and what its metrics depend on besides its raw rows. -/
structure PerfTest where
  /-- The start, in milliseconds. -/
  startTime : ℤ
  /-- The end that it is completed with, in milliseconds. -/
  endTime : ℤ
  /-- The duration that was planned, in seconds, if it was. -/
  plannedDuration : Option ℤ
  /-- The ramp-up, in seconds. -/
  rampUpTime : Option ℚ
  dashboards : ScenarioDashboards
  organizationId : Option String
  thresholds : Table String TransactionThreshold
  /-- The threshold of its workload, as the requests are judged by. -/
  requestsThreshold : Option ℚ
  /-- That as the transactions are judged by. -/
  workloadThreshold : Option ℚ
  benchmarkThreshold : Option ℚ

namespace PerfTest

variable (run : PerfTest) (bucketSizeSeconds : ℕ)

/-- The times of the run. -/
def times : RunTimes := ⟨run.startTime, run.rampUpTime⟩

/-- The buckets of the run. -/
def buckets : Buckets := ⟨run.startTime, bucketSizeSeconds⟩

/-- The aggregate of the requests of the run. -/
def requestsAggregate : SeriesAggregate RequestRaw RequestSeries :=
  buildRequestsAggregate run.thresholds run.requestsThreshold bucketSizeSeconds

/-- The aggregate of the transactions of the run. -/
def transactionsAggregate : SeriesAggregate TransactionRaw String :=
  buildTransactionsAggregate run.thresholds run.organizationId run.workloadThreshold
    run.benchmarkThreshold bucketSizeSeconds

/-- The statements that insert the metrics of a window, one for each processor. -/
def statements (raw : List RawRow) (filterFromTime filterToTime : ℤ) : List (List EmittedRow) :=
  let R := run.requestsAggregate bucketSizeSeconds
  let T := run.transactionsAggregate bucketSizeSeconds
  let buckets := run.buckets bucketSizeSeconds
  [R.rowsSelect buckets (R.filterRows filterFromTime (some filterToTime) (requestsRaw raw)),
   T.rowsSelect buckets (T.filterRows filterFromTime (some filterToTime) (transactionsRaw raw))]

/-- The rows of some raw rows. -/
def rows (raw : List RawRow) : List (DsMetricKey × DsMetric) :=
  (run.requestsAggregate bucketSizeSeconds).storedRows (run.buckets bucketSizeSeconds) run.times
      run.dashboards (requestsRaw raw) ++
    (run.transactionsAggregate bucketSizeSeconds).storedRows (run.buckets bucketSizeSeconds)
      run.times run.dashboards (transactionsRaw raw)

/-- The raw rows of a window. -/
def window (filterFromTime filterToTime : ℤ) (raw : List RawRow) : List RawRow :=
  raw.filter fun row => filterFromTime ≤ row.time ∧ row.time ≤ filterToTime

/-- The raw rows between the start and the end of the run. -/
def measured (raw : List RawRow) : List RawRow := window run.startTime run.endTime raw

/-- The names of the series of some raw rows stay apart. -/
def NamesApart (raw : List RawRow) : Prop :=
  (run.requestsAggregate bucketSizeSeconds).NamesApart run.dashboards (requestsRaw raw) ∧
    (run.transactionsAggregate bucketSizeSeconds).NamesApart run.dashboards (transactionsRaw raw)

instance (raw : List RawRow) : Decidable (run.NamesApart bucketSizeSeconds raw) :=
  inferInstanceAs (Decidable (_ ∧ _))

variable {run bucketSizeSeconds} {raw : List RawRow}

/-- The statements insert the rows of the window. -/
theorem insertedRows_statements (filterFromTime filterToTime : ℤ) :
    insertedRows run.times run.dashboards
        (run.statements bucketSizeSeconds raw filterFromTime filterToTime) =
      run.rows bucketSizeSeconds (window filterFromTime filterToTime raw) := by
  have hrequests : (run.requestsAggregate bucketSizeSeconds).filterRows filterFromTime
      (some filterToTime) (requestsRaw raw) =
      requestsRaw (window filterFromTime filterToTime raw) := by
    rw [window, requestsRaw_filter fun row => rfl, SeriesAggregate.filterRows]
    simp only [Option.all_some, decide_eq_true_eq]
    rfl
  have htransactions : (run.transactionsAggregate bucketSizeSeconds).filterRows filterFromTime
      (some filterToTime) (transactionsRaw raw) =
      transactionsRaw (window filterFromTime filterToTime raw) := by
    rw [window, transactionsRaw_filter fun row => rfl, SeriesAggregate.filterRows]
    simp only [Option.all_some, decide_eq_true_eq]
    rfl
  simp only [insertedRows, statements, hrequests, htransactions, List.flatMap_cons,
    List.flatMap_nil, List.append_nil]
  rfl

/-- The columns of a row that follow from its key. -/
theorem columns_of_mem_rows {k : DsMetricKey} {m : DsMetric}
    (h : (k, m) ∈ run.rows bucketSizeSeconds raw) :
    m.timestep = (run.buckets bucketSizeSeconds).timestep k.time ∧
      m.rampUp = run.times.isRampUp k.time := by
  rcases List.mem_append.1 h with h | h
  · exact (SeriesAggregate.columns_of_mem_storedRows h).2
  · exact (SeriesAggregate.columns_of_mem_storedRows h).2

/-- The two processors write to different panels. -/
theorem panels_disjoint : List.Disjoint
    ((run.requestsAggregate bucketSizeSeconds).panelValues.map Prod.fst)
    ((run.transactionsAggregate bucketSizeSeconds).panelValues.map Prod.fst) := by
  change List.Disjoint [201, 202, 203, 204, 205, 220, 206, 207, 208, 209, 219]
    [101, 102, 103, 104, 105, 109, 107, 106, 108]
  exact List.disjoint_left.2 (by decide)

/-- No two rows have the same key if the names of the series stay apart. -/
theorem nodup_keys (h : run.NamesApart bucketSizeSeconds raw) :
    ((run.rows bucketSizeSeconds raw).map Prod.fst).Nodup := by
  rw [rows, List.map_append]
  refine (SeriesAggregate.storedApart_iff.2 h.1).keys.append
    (SeriesAggregate.storedApart_iff.2 h.2).keys ?_
  intro k hrequests htransactions
  obtain ⟨⟨k, m⟩, hm, rfl⟩ := List.mem_map.1 hrequests
  obtain ⟨⟨k', m'⟩, hm', hk⟩ := List.mem_map.1 htransactions
  obtain rfl : k' = k := hk
  exact panels_disjoint (SeriesAggregate.columns_of_mem_storedRows hm).1
    (SeriesAggregate.columns_of_mem_storedRows hm').1

variable (run bucketSizeSeconds) in
/-- The query of the rows of the run, bucket by bucket. -/
def query : BucketQuery RawRow DsMetricKey DsMetric where
  rows := run.rows bucketSizeSeconds
  bucket row := (run.buckets bucketSizeSeconds).bucketTime row.time
  time := DsMetricKey.time
  mem_rows_filter raw k m := by
    simp only [rows, List.mem_append]
    rw [requestsRaw_filter fun row => rfl, transactionsRaw_filter fun row => rfl]
    exact or_congr SeriesAggregate.mem_storedRows_filter SeriesAggregate.mem_storedRows_filter
  exists_of_sublist raw raw' k m hraw h := by
    rcases List.mem_append.1 h with h | h
    · obtain ⟨m', hm'⟩ := SeriesAggregate.storedRows_mono (hraw.filterMap RawRow.request?) h
      exact ⟨m', List.mem_append_left _ hm'⟩
    · obtain ⟨m', hm'⟩ := SeriesAggregate.storedRows_mono (hraw.filterMap RawRow.transaction?) h
      exact ⟨m', List.mem_append_right _ hm'⟩
  rows_nil := rfl

/-- The rows that are inserted for a window, as a table. -/
theorem exact_insertedRows {filterFromTime filterToTime : ℤ}
    (h : ((insertedRows run.times run.dashboards
      (run.statements bucketSizeSeconds raw filterFromTime filterToTime)).map Prod.fst).Nodup) :
    (run.query bucketSizeSeconds).Exact (window filterFromTime filterToTime raw) ⟨_, h⟩ := by
  intro k m
  rw [← Table.mem_rows]
  change _ ∈ insertedRows _ _ _ ↔ _
  rw [insertedRows_statements]
  rfl

variable (run bucketSizeSeconds) in
/-- The metrics that a full rebuild writes, unless it fails. -/
def rebuild (raw : List RawRow) : Option (Table DsMetricKey DsMetric) :=
  match runProcessors run.times run.dashboards false
    (run.statements bucketSizeSeconds raw run.startTime run.endTime) Table.empty with
  | (dsMetrics, true) => some dsMetrics
  | (_, false) => none

/-- A rebuild has exactly the rows between the start and the end of the run. -/
theorem rebuild_exact (h : run.NamesApart bucketSizeSeconds (run.measured raw)) :
    ∃ dsMetrics, run.rebuild bucketSizeSeconds raw = some dsMetrics ∧
      (run.query bucketSizeSeconds).Exact (run.measured raw) dsMetrics := by
  have hnodup := nodup_keys h
  rw [measured, ← insertedRows_statements] at hnodup
  rw [rebuild, runProcessors_empty hnodup]
  exact ⟨_, rfl, exact_insertedRows hnodup⟩

end PerfTest

end Perfana.PerformanceTest
