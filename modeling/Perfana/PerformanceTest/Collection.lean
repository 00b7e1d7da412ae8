import Mathlib.Algebra.Order.Floor.Ring
import Mathlib.Data.Rat.Floor
import Perfana.Analysis.Window
import Perfana.Lib.Run
import Perfana.PerformanceTest.Rebuild

/-!
# Collecting the metrics of a performance test

While a test runs, *ticks* aggregate its raw rows into metrics, each from a minute
before where the last one ended, aligned to a bucket. When it is completed, the
analysis finishes their work: it skips a run that is final, aggregates the tail of
one that is not, or deletes all and rebuilds.

* `Inv`: what ticks and passes keep, along every run whose ticks read no raw row of
  after the end (`run_inv`);
* `run_collect_eq_rebuild`: so a pass leaves the rows of a rebuild;
* `late_row_stays`: but a tick that reads a raw row of after the end leaves rows that
  no pass removes.
-/

namespace Perfana.PerformanceTest

/-! ## Buckets -/

/-- Target data points for bucket sizing. -/
def FULL_COLLECTION_TARGET_DATA_POINTS : ℕ := 250

/-- The bucket size of the ticks of a run without a planned duration. -/
def TICK_BUCKET_FALLBACK_SECONDS : ℕ := 60

/-- How much of the previous window a tick aggregates again. -/
def PERF_TEST_OVERLAP_SECONDS : ℤ := 60

/-- The bucket size for a duration; none if it throws. -/
def calculateBucketSize (testDurationSeconds : ℚ) (targetDataPoints : ℕ) : Option ℕ :=
  if testDurationSeconds ≤ 0 then none
  else
    let idealBucketSize := ⌈testDurationSeconds / targetDataPoints⌉.toNat
    some
      (if idealBucketSize ≤ 1 then 1
      else if idealBucketSize ≤ 5 then 5
      else if idealBucketSize ≤ 10 then 10
      else if idealBucketSize ≤ 15 then 15
      else if idealBucketSize ≤ 30 then 30
      else if idealBucketSize ≤ 60 then 60
      else (idealBucketSize + 59) / 60 * 60)

/-- The two sizes that a run can be written at. -/
structure BucketSizes where
  /-- That of the ticks. -/
  tick : ℕ
  /-- That of a completed run, if it has a length. -/
  final : Option ℕ
  deriving DecidableEq, Repr

/-- The bucket sizes of a run. -/
def perfTestBucketSizes (run : PerfTest) (completed : Bool) : BucketSizes :=
  let planned := run.plannedDuration.getD 0
  let elapsed : ℚ := if completed then ((run.endTime - run.startTime : ℤ) : ℚ) / 1000 else 0
  { tick :=
      if 0 < planned then
        (calculateBucketSize planned FULL_COLLECTION_TARGET_DATA_POINTS).getD
          TICK_BUCKET_FALLBACK_SECONDS
      else TICK_BUCKET_FALLBACK_SECONDS
    final :=
      if 0 < elapsed then calculateBucketSize elapsed FULL_COLLECTION_TARGET_DATA_POINTS
      else none }

/-- A time aligned down to a bucket, not before the first. -/
def Buckets.alignToBucket (buckets : Buckets) (time : ℤ) : ℤ :=
  buckets.startTime + max 0 ((time - buckets.startTime) / buckets.width * buckets.width)

/-! ## The state -/

/-- The row of `ds_metric_collection_status` of the performance test of a run. -/
structure TickStatus where
  collectedRanges : List (ℤ × ℤ)
  /-- Whether a full pass made the metrics final. -/
  isComplete : Bool
  deriving DecidableEq, Repr

/-- What is stored of a run. -/
structure PerfTestState where
  /-- The raw rows that have arrived, oldest first. -/
  raw : List RawRow
  /-- The metrics in buckets. -/
  dsMetrics : Table DsMetricKey DsMetric
  /-- The status of their collection, once there is one. -/
  status : Option TickStatus
  completed : Bool

namespace PerfTestState

/-- Nothing is stored yet. -/
def init : PerfTestState := ⟨[], Table.empty, none, false⟩

variable (s : PerfTestState)

/-- The end of the last range that was collected. -/
def getLastCollectedTime : Option ℤ :=
  s.status.bind fun status => (status.collectedRanges.map Prod.snd).max?

/-- The metrics are final. -/
def isComplete : Bool := s.status.any TickStatus.isComplete

/-- A range is recorded as collected, in a new row if there is none. -/
def updateCollectedRanges (range : ℤ × ℤ) : PerfTestState :=
  let status := s.status.getD ⟨[], false⟩
  { s with status := some { status with collectedRanges := status.collectedRanges ++ [range] } }

/-- The row after a failure: a new one if there is none. -/
def recordFailedRange : PerfTestState := { s with status := some (s.status.getD ⟨[], false⟩) }

/-- The metrics become final. -/
def markCollectionComplete : PerfTestState :=
  { s with status := s.status.map fun status => { status with isComplete := true } }

/-- The row is reset. -/
def resetCollectionStatus : PerfTestState :=
  { s with status := s.status.map fun _ => ⟨[], false⟩ }

end PerfTestState

/-! ## Ticks and passes -/

/-- How a collection ends. -/
inductive Ending
  /-- With a number of scenario-level metrics. -/
  | finished (scenarioMetrics : ℕ)
  /-- With an error, after some statements. -/
  | failed (statements : ℕ)
  deriving DecidableEq, Repr

namespace PerfTest

variable (run : PerfTest)

/-- The metrics that the processors leave for a window, and how many they created,
    unless a statement fails. -/
def process (bucketSizeSeconds : ℕ) (upsert : Bool) (raw : List RawRow)
    (filterFromTime filterToTime : ℤ) (ending : Ending) (dsMetrics : Table DsMetricKey DsMetric) :
    Table DsMetricKey DsMetric × Option ℕ :=
  let statements := run.statements bucketSizeSeconds raw filterFromTime filterToTime
  match ending with
  | .finished scenarioMetrics =>
    match runProcessors run.times run.dashboards upsert statements dsMetrics with
    | (dsMetrics, true) =>
      (dsMetrics,
        some ((insertedRows run.times run.dashboards statements).length + scenarioMetrics))
    | (dsMetrics, false) => (dsMetrics, none)
  | .failed n =>
    ((runProcessors run.times run.dashboards upsert (statements.take n) dsMetrics).1, none)

/-- A time as far back as a window that starts there reaches. -/
def windowStart (bucketSizeSeconds : ℕ) (fromTime : ℤ) : ℤ :=
  (run.buckets bucketSizeSeconds).alignToBucket (fromTime - PERF_TEST_OVERLAP_SECONDS * 1000)

/-- A tick: a window up to some time is collected. The range is recorded; it is empty if
    nothing was created. A completed run is left to the analysis. -/
def tick (s : PerfTestState) (toTime : ℤ) (ending : Ending) : PerfTestState :=
  if s.completed then s
  else
    let sizes := perfTestBucketSizes run s.completed
    let bucketSizeSeconds := sizes.final.getD sizes.tick
    let fromTime := s.getLastCollectedTime.getD run.startTime
    let filterFromTime := run.windowStart bucketSizeSeconds fromTime
    match run.process bucketSizeSeconds true s.raw filterFromTime toTime ending s.dsMetrics with
    | (dsMetrics, some metricsCreated) =>
      { s with dsMetrics }.updateCollectedRanges
        (fromTime, if metricsCreated = 0 then fromTime else toTime)
    | (dsMetrics, none) => { s with dsMetrics }.recordFailedRange

/-- What a full collection does. -/
inductive Plan
  /-- Nothing: the metrics are final. -/
  | skip
  /-- It aggregates from a time on. -/
  | tail (fromTime : ℤ)
  /-- It deletes the metrics and writes them anew; the run may have been ticked. -/
  | rebuild (ticked : Bool)
  deriving DecidableEq, Repr

/-- There are metrics, all at a multiple of the bucket size, in seconds, from the start. -/
def perfTestRowsOnGrid (s : PerfTestState) (bucketSizeSeconds : ℕ) : Bool :=
  !s.dsMetrics.rows.isEmpty && s.dsMetrics.rows.all fun row =>
    decide ((row.1.time - run.startTime + 500) / 1000 % bucketSizeSeconds = 0)

/-- The plan of a full collection; none if it throws. -/
def planFullCollection (s : PerfTestState) (tick : ℕ) (final : Option ℕ) : Option Plan :=
  if !s.completed then some (.rebuild false)
  else
    match final with
    | none => none
    | some final =>
      match s.status with
      | none => some (.rebuild false)
      | some status =>
        if !status.isComplete && tick != final then some (.rebuild true)
        else if !run.perfTestRowsOnGrid s final then some (.rebuild true)
        else if status.isComplete then some .skip
        else
          some (.tail
            (match s.getLastCollectedTime with
            | some lastTo => min lastTo run.endTime
            | none => run.startTime))

/-- There are raw rows within an hour of the run. -/
def hasRawRows (raw : List RawRow) : Bool :=
  raw.any fun row => decide (run.startTime - RUN_WINDOW_PAD_MS ≤ row.time ∧
    row.time ≤ run.endTime + RUN_WINDOW_PAD_MS)

/-- The tail from a time on is aggregated, and the metrics become final if any are. -/
def collectTail (bucketSizeSeconds : ℕ) (s : PerfTestState) (fromTime : ℤ) (ending : Ending) :
    PerfTestState × Bool :=
  let filterFromTime := run.windowStart bucketSizeSeconds fromTime
  match run.process bucketSizeSeconds true s.raw filterFromTime run.endTime ending s.dsMetrics with
  | (dsMetrics, some metricsCreated) =>
    if 0 < metricsCreated then
      (({ s with dsMetrics }.updateCollectedRanges
        (filterFromTime, run.endTime)).markCollectionComplete, true)
    else ({ s with dsMetrics }, true)
  | (dsMetrics, none) => ({ s with dsMetrics }, false)

/-- The metrics are deleted and written anew, unless there are no raw rows. They become
    final if the run was ticked and any are written. -/
def collectRebuild (bucketSizeSeconds : ℕ) (s : PerfTestState) (ticked : Bool)
    (ending : Ending) : PerfTestState × Bool :=
  if !run.hasRawRows s.raw then (s, true)
  else
    let s := if ticked then s.resetCollectionStatus else s
    match run.process bucketSizeSeconds false s.raw run.startTime run.endTime ending
        Table.empty with
    | (dsMetrics, some metricsCreated) =>
      if ticked && decide (0 < metricsCreated) then
        (({ s with dsMetrics }.updateCollectedRanges
          (run.startTime, run.endTime)).markCollectionComplete, true)
      else ({ s with dsMetrics }, true)
    | (dsMetrics, none) => ({ s with dsMetrics }, false)

/-- The full collection of a completed run, and whether it succeeds. -/
def collect (s : PerfTestState) (ending : Ending) : PerfTestState × Bool :=
  let sizes := perfTestBucketSizes run s.completed
  let bucketSizeSeconds := sizes.final.getD sizes.tick
  match run.planFullCollection s sizes.tick sizes.final with
  | none => (s, false)
  | some .skip => (s, true)
  | some (.tail fromTime) => run.collectTail bucketSizeSeconds s fromTime ending
  | some (.rebuild ticked) => run.collectRebuild bucketSizeSeconds s ticked ending

/-- What happens to a run. -/
inductive Event
  /-- A raw row becomes visible. -/
  | arrive (row : RawRow)
  /-- A tick collects up to a time. -/
  | tick (toTime : ℤ) (ending : Ending)
  /-- The run is completed. -/
  | complete
  /-- The analysis of the completed run collects all. -/
  | analyse (ending : Ending)
  deriving DecidableEq, Repr

/-- A step of a run. -/
def step (s : PerfTestState) : Event → Option PerfTestState
  | .arrive row => some { s with raw := s.raw ++ [row] }
  | .tick toTime ending => some (run.tick s toTime ending)
  | .complete => some { s with completed := true }
  | .analyse ending => if s.completed then some (run.collect s ending).1 else none

/-! ## Bucket sizes and windows -/

/-- The bucket size of the ticks. -/
def tickSize : ℕ := (perfTestBucketSizes run false).tick

/-- The bucket size that the length of the run calls for, if it has a length. -/
def finalSize : Option ℕ := (perfTestBucketSizes run true).final

/-- Where the next tick takes up. -/
def cursor (s : PerfTestState) : ℤ := s.getLastCollectedTime.getD run.startTime

/-- The first time that the next window, of a tick or of the tail, reaches. -/
def reach (s : PerfTestState) : ℤ :=
  run.windowStart run.tickSize (min (run.cursor s) run.endTime)

variable {run}

theorem calculateBucketSize_pos {testDurationSeconds : ℚ} {targetDataPoints n : ℕ}
    (h : calculateBucketSize testDurationSeconds targetDataPoints = some n) : 0 < n := by
  rw [calculateBucketSize] at h
  split at h
  · cases h
  · rw [Option.some.injEq] at h
    split_ifs at h <;> omega

theorem tickSize_pos : 0 < run.tickSize := by
  rw [tickSize, perfTestBucketSizes]
  dsimp only
  split
  · cases h : calculateBucketSize (run.plannedDuration.getD 0)
      FULL_COLLECTION_TARGET_DATA_POINTS with
    | none => decide
    | some n => exact calculateBucketSize_pos h
  · decide

/-- A run that is not completed is written at the size of the ticks. -/
theorem sizes_not_completed :
    (perfTestBucketSizes run false).final.getD (perfTestBucketSizes run false).tick =
      run.tickSize := by
  simp [perfTestBucketSizes, tickSize]

theorem sizes_completed {n : ℕ} (h : run.finalSize = some n) :
    (perfTestBucketSizes run true).final.getD (perfTestBucketSizes run true).tick = n := by
  rw [finalSize] at h
  rw [h]
  rfl

section Align

variable {buckets : Buckets} (hsize : 0 < buckets.bucketSizeSeconds)

include hsize

theorem width_pos : 0 < buckets.width := by
  rw [Buckets.width]
  omega

/-- A time is in its bucket. -/
theorem bucketTime_le (time : ℤ) : buckets.bucketTime time ≤ time := by
  have := Int.ediv_mul_le (time - buckets.startTime) (width_pos hsize).ne'
  rw [Buckets.bucketTime]
  omega

/-- An aligned time is the start of a bucket: one of a later time is not before it. -/
theorem le_bucketTime {time time' : ℤ} (h : buckets.alignToBucket time ≤ time') :
    buckets.alignToBucket time ≤ buckets.bucketTime time' := by
  have hwidth := width_pos hsize
  obtain ⟨n, hn⟩ : ∃ n, max 0 ((time - buckets.startTime) / buckets.width * buckets.width) =
      n * buckets.width := by
    rcases le_total 0 ((time - buckets.startTime) / buckets.width * buckets.width) with hle | hle
    · exact ⟨_, max_eq_right hle⟩
    · exact ⟨0, by rw [max_eq_left hle, zero_mul]⟩
  rw [Buckets.alignToBucket, hn] at h ⊢
  have hle : n ≤ (time' - buckets.startTime) / buckets.width := by
    rw [Int.le_ediv_iff_mul_le hwidth]
    omega
  have := Int.mul_le_mul_of_nonneg_right hle hwidth.le
  rw [Buckets.bucketTime]
  omega

/-- A bucket before an aligned time ends there at the latest. -/
theorem lt_of_bucketTime_lt {time time' : ℤ}
    (h : buckets.bucketTime time' < buckets.alignToBucket time) :
    time' < buckets.alignToBucket time := by
  by_contra hle
  exact absurd (le_bucketTime hsize (not_lt.1 hle)) (by omega)

end Align

/-! ## What the processors leave -/

variable {bucketSizeSeconds : ℕ} {raw : List RawRow} {filterFromTime filterToTime : ℤ}
  {ending : Ending} {dsMetrics dsMetrics' : Table DsMetricKey DsMetric} {created : Option ℕ}

/-- The processors update the metrics with rows of the window: all of them, if none fails. -/
theorem process_upsert
    (hapart : run.NamesApart bucketSizeSeconds (window filterFromTime filterToTime raw))
    (h : run.process bucketSizeSeconds true raw filterFromTime filterToTime ending dsMetrics =
      (dsMetrics', created)) :
    ∃ new : Table DsMetricKey DsMetric,
      (∀ k, dsMetrics'.get k = (Table.upsert onConflict new dsMetrics).get k) ∧
        (∀ k m, new.get k = some m →
          (k, m) ∈ run.rows bucketSizeSeconds (window filterFromTime filterToTime raw)) ∧
        (created.isSome → (run.query bucketSizeSeconds).Exact
          (window filterFromTime filterToTime raw) new) := by
  have hnodup := nodup_keys hapart
  rw [← insertedRows_statements] at hnodup
  cases ending with
  | finished scenarioMetrics =>
    obtain ⟨hok, hget⟩ := runProcessors_upsert hnodup dsMetrics
    have hexact := exact_insertedRows hnodup
    simp only [process] at h
    split at h
    · rename_i dsMetrics'' hrun
      cases h
      rw [hrun] at hget
      exact ⟨_, hget, fun k m => (hexact k m).1, fun _ => hexact⟩
    · rename_i dsMetrics'' hrun
      rw [hrun] at hok
      cases hok
  | failed n =>
    have hsublist := insertedRows_take_sublist run.times run.dashboards n
      (run.statements bucketSizeSeconds raw filterFromTime filterToTime)
    obtain ⟨-, hget⟩ := runProcessors_upsert (hnodup.sublist (hsublist.map _)) dsMetrics
    cases h
    refine ⟨_, hget, fun k m hm => ?_, fun hcreated => absurd hcreated Bool.false_ne_true⟩
    rw [← insertedRows_statements]
    exact hsublist.subset (Table.mem_rows.2 hm)

/-- Into no metrics, the processors insert rows of the window: all of them, if none fails. -/
theorem process_insert
    (hapart : run.NamesApart bucketSizeSeconds (window filterFromTime filterToTime raw))
    (h : run.process bucketSizeSeconds false raw filterFromTime filterToTime ending Table.empty =
      (dsMetrics', created)) :
    (∀ k m, dsMetrics'.get k = some m →
        (k, m) ∈ run.rows bucketSizeSeconds (window filterFromTime filterToTime raw)) ∧
      (created.isSome → (run.query bucketSizeSeconds).Exact
        (window filterFromTime filterToTime raw) dsMetrics') := by
  have hnodup := nodup_keys hapart
  rw [← insertedRows_statements] at hnodup
  cases ending with
  | finished scenarioMetrics =>
    simp only [process, runProcessors_empty hnodup] at h
    cases h
    have hexact := exact_insertedRows hnodup
    exact ⟨fun k m => (hexact k m).1, fun _ => hexact⟩
  | failed n =>
    have hsublist := insertedRows_take_sublist run.times run.dashboards n
      (run.statements bucketSizeSeconds raw filterFromTime filterToTime)
    simp only [process, runProcessors_empty (hnodup.sublist (hsublist.map _))] at h
    cases h
    refine ⟨fun k m hm => ?_, fun hcreated => absurd hcreated Bool.false_ne_true⟩
    rw [← insertedRows_statements]
    exact hsublist.subset (Table.mem_rows.2 hm)

/-! ## The invariant -/

variable (run) in
/-- What is asked of a step: a raw row of the run arrives while the next window reaches
    it and the metrics are not final, and its name stays apart from those there are; no
    tick reads a raw row of after the end of the run. -/
def Admissible (s : PerfTestState) : Event → Prop
  | .arrive row => run.startTime ≤ row.time → row.time ≤ run.endTime →
      s.isComplete = false ∧ run.reach s ≤ row.time ∧
        run.NamesApart run.tickSize (run.measured (s.raw ++ [row]))
  | .tick toTime _ => s.completed = false →
      ∀ row ∈ s.raw, row.time ≤ toTime → row.time ≤ run.endTime
  | .complete => True
  | .analyse _ => True

variable (run) in
/-- What holds in every state of a run whose steps are admissible. -/
structure Inv (s : PerfTestState) : Prop where
  /-- The names of the series stay apart. -/
  apart : run.NamesApart run.tickSize (run.measured s.raw)
  /-- There are metrics only if there are raw rows. -/
  measured : ∀ k m, s.dsMetrics.get k = some m → run.measured s.raw ≠ []
  /-- The ticks maintain the metrics of a run of their bucket size. -/
  maintained : run.finalSize = some run.tickSize →
    (run.query run.tickSize).Maintained (run.reach s) (run.measured s.raw) s.dsMetrics
  /-- And their columns follow from the keys. -/
  columns : run.finalSize = some run.tickSize → ∀ k m, s.dsMetrics.get k = some m →
    m.timestep = (run.buckets run.tickSize).timestep k.time ∧ m.rampUp = run.times.isRampUp k.time
  /-- Final metrics are those of the run. -/
  exact : s.isComplete = true → ∃ size, run.finalSize = some size ∧
    (run.query size).Exact (run.measured s.raw) s.dsMetrics
  /-- Only a completed run has final metrics. -/
  completed : s.isComplete = true → s.completed = true

theorem NamesApart.size {size size' : ℕ} (h : run.NamesApart size raw) :
    run.NamesApart size' raw :=
  ⟨h.1.of_names rfl rfl rfl, h.2.of_names rfl rfl rfl⟩

theorem NamesApart.sublist {size : ℕ} {raw' : List RawRow} (h : run.NamesApart size raw')
    (hraw : raw.Sublist raw') : run.NamesApart size raw :=
  ⟨h.1.subset (hraw.filterMap _).subset, h.2.subset (hraw.filterMap _).subset⟩

theorem mem_window {row : RawRow} : row ∈ window filterFromTime filterToTime raw ↔
    row ∈ raw ∧ filterFromTime ≤ row.time ∧ row.time ≤ filterToTime := by
  simp [window]

theorem alignToBucket_mono (buckets : Buckets) (hsize : 0 < buckets.bucketSizeSeconds)
    {time time' : ℤ} (h : time ≤ time') :
    buckets.alignToBucket time ≤ buckets.alignToBucket time' := by
  have hwidth := width_pos hsize
  have hdiv : (time - buckets.startTime) / buckets.width ≤
      (time' - buckets.startTime) / buckets.width :=
    Int.ediv_le_ediv hwidth (by omega)
  have := Int.mul_le_mul_of_nonneg_right hdiv hwidth.le
  rw [Buckets.alignToBucket, Buckets.alignToBucket]
  omega

theorem startTime_le_alignToBucket (buckets : Buckets) (time : ℤ) :
    buckets.startTime ≤ buckets.alignToBucket time := by
  rw [Buckets.alignToBucket]
  omega

theorem startTime_le_bucketTime (buckets : Buckets) (hsize : 0 < buckets.bucketSizeSeconds)
    {time : ℤ} (h : buckets.startTime ≤ time) : buckets.startTime ≤ buckets.bucketTime time := by
  have hwidth := width_pos hsize
  have hdiv : 0 ≤ (time - buckets.startTime) / buckets.width :=
    Int.ediv_nonneg (by omega) hwidth.le
  have := Int.mul_nonneg hdiv hwidth.le
  rw [Buckets.bucketTime]
  omega

theorem alignToBucket_le (buckets : Buckets) (hsize : 0 < buckets.bucketSizeSeconds) (time : ℤ) :
    buckets.alignToBucket time ≤ max buckets.startTime time := by
  have := Int.ediv_mul_le (time - buckets.startTime) (width_pos hsize).ne'
  rw [Buckets.alignToBucket]
  omega

/-- A window of the run is part of what is measured. -/
theorem window_eq_filter_measured (hfrom : run.startTime ≤ filterFromTime)
    (hto : ∀ row ∈ raw, row.time ≤ filterToTime → row.time ≤ run.endTime) :
    window filterFromTime filterToTime raw = (run.measured raw).filter fun row =>
      filterFromTime ≤ row.time ∧ row.time ≤ filterToTime := by
  rw [measured, window, window, List.filter_filter]
  refine List.filter_congr fun row hrow => ?_
  have := hto row hrow
  grind

theorem inv_init : run.Inv .init where
  apart := ⟨SeriesAggregate.namesApart_nil, SeriesAggregate.namesApart_nil⟩
  measured _ _ := nofun
  maintained _ := ⟨fun _ _ => nofun, fun _ _ _ => ⟨nofun, nofun⟩⟩
  columns _ _ _ := nofun
  exact := nofun
  completed := nofun

/-- What an update of the metrics for a window leaves. -/
theorem Inv.process {s : PerfTestState} (h : run.Inv s) {size : ℕ}
    (hfrom : run.startTime ≤ filterFromTime)
    (hto : ∀ row ∈ s.raw, row.time ≤ filterToTime → row.time ≤ run.endTime)
    (hprocess : run.process size true s.raw filterFromTime filterToTime ending s.dsMetrics =
      (dsMetrics', created)) :
    (∀ k m, dsMetrics'.get k = some m → run.measured s.raw ≠ []) := by
  have hwindow := window_eq_filter_measured hfrom hto
  have hsublist : (window filterFromTime filterToTime s.raw).Sublist (run.measured s.raw) := by
    rw [hwindow]
    exact List.filter_sublist
  obtain ⟨new, hget, hnew, -⟩ := process_upsert (h.apart.size.sublist hsublist) hprocess
  intro k m hm hnil
  rw [hget] at hm
  rcases Table.upsert_isSome.1 (Option.isSome_of_eq_some hm) with hs | hs
  · obtain ⟨m', hm'⟩ := Option.isSome_iff_exists.1 hs
    have hempty : window filterFromTime filterToTime s.raw = [] :=
      List.sublist_nil.1 (hnil ▸ hsublist)
    have hmem := hnew k m' hm'
    rw [hempty] at hmem
    exact List.not_mem_nil hmem
  · obtain ⟨m', hm'⟩ := Option.isSome_iff_exists.1 hs
    exact h.measured k m' hm' hnil

/-- What it leaves of the metrics of a run of the bucket size of the ticks. -/
theorem Inv.process_maintained {s : PerfTestState} (h : run.Inv s)
    (hsize : run.finalSize = some run.tickSize)
    (hfrom : run.startTime ≤ filterFromTime)
    (hto : ∀ row ∈ s.raw, row.time ≤ filterToTime → row.time ≤ run.endTime)
    (hreach : ∀ row ∈ s.raw, filterFromTime ≤ row.time →
      run.reach s ≤ (run.query run.tickSize).bucket row)
    (hprocess : run.process run.tickSize true s.raw filterFromTime filterToTime ending
      s.dsMetrics = (dsMetrics', created)) :
    (run.query run.tickSize).Maintained (run.reach s) (run.measured s.raw) dsMetrics' ∧
      (∀ k m, dsMetrics'.get k = some m →
        m.timestep = (run.buckets run.tickSize).timestep k.time ∧
          m.rampUp = run.times.isRampUp k.time) ∧
      (created.isSome → ∀ front,
        (∀ row ∈ run.measured s.raw, run.reach s ≤ (run.query run.tickSize).bucket row →
          (run.query run.tickSize).bucket row < front →
          filterFromTime ≤ row.time ∧ row.time ≤ filterToTime) →
        (run.query run.tickSize).Maintained front (run.measured s.raw) dsMetrics') := by
  have hwindow := window_eq_filter_measured hfrom hto
  have hsublist : (window filterFromTime filterToTime s.raw).Sublist (run.measured s.raw) := by
    rw [hwindow]
    exact List.filter_sublist
  have hmaintained := h.maintained hsize
  have hcolumns := h.columns hsize
  obtain ⟨new, hget, hnew, hexact⟩ := process_upsert (h.apart.sublist hsublist) hprocess
  have hconflict : ∀ k o r, s.dsMetrics.get k = some o → new.get k = some r →
      onConflict o r = r := by
    intro k o r ho hr
    obtain ⟨hto, hro⟩ := hcolumns k o ho
    obtain ⟨htr, hrr⟩ := columns_of_mem_rows (hnew k r hr)
    obtain ⟨timestep, rampUp, value⟩ := r
    rw [onConflict, hto, hro, ← htr, ← hrr]
  refine ⟨?_, ?_, fun hcreated front hall => ?_⟩
  · refine (hmaintained.upsert hsublist (fun row hrow => ?_) hnew).congr hget
    obtain ⟨hrow, hle, -⟩ := mem_window.1 hrow
    exact hreach row hrow hle
  · intro k m hm
    rw [hget, Table.get_upsert] at hm
    cases hn : new.get k with
    | none =>
      rw [hn] at hm
      exact hcolumns k m hm
    | some r =>
      have hr := columns_of_mem_rows (hnew k r hn)
      rw [hn] at hm
      cases ho : s.dsMetrics.get k with
      | none =>
        rw [ho] at hm
        cases hm
        exact hr
      | some o =>
        rw [ho] at hm
        cases hm
        rwa [hconflict k o r ho hn]
  · have hexact' := hexact hcreated
    rw [hwindow] at hexact'
    refine (hmaintained.advance hexact' hconflict (fun row hrow hp => ?_)
      fun row hrow hge hlt => ?_).congr hget
    · exact hreach row (List.mem_filter.1 hrow).1 (of_decide_eq_true hp).1
    · exact decide_eq_true (hall row hrow hge hlt)

/-! ## Ticks -/

@[simp] theorem isComplete_updateCollectedRanges (s : PerfTestState) (range : ℤ × ℤ) :
    (s.updateCollectedRanges range).isComplete = s.isComplete := by
  obtain ⟨raw, dsMetrics, status, completed⟩ := s
  cases status <;> rfl

@[simp] theorem isComplete_recordFailedRange (s : PerfTestState) :
    s.recordFailedRange.isComplete = s.isComplete := by
  obtain ⟨raw, dsMetrics, status, completed⟩ := s
  cases status <;> rfl

theorem cursor_recordFailedRange (s : PerfTestState) :
    run.cursor s.recordFailedRange = run.cursor s := by
  obtain ⟨raw, dsMetrics, status, completed⟩ := s
  cases status <;> rfl

/-- A range moves the cursor to its end at most. -/
theorem cursor_updateCollectedRanges_le (s : PerfTestState) (fromTime toTime : ℤ) :
    run.cursor (s.updateCollectedRanges (fromTime, toTime)) ≤ max (run.cursor s) toTime := by
  obtain ⟨raw, dsMetrics, status, completed⟩ := s
  cases status with
  | none => exact le_max_right _ _
  | some status =>
    obtain ⟨ranges, isComplete⟩ := status
    have hnone : ((ranges ++ [(fromTime, toTime)]).map Prod.snd).max? ≠ none := by simp
    obtain ⟨c, hc⟩ := Option.ne_none_iff_exists'.1 hnone
    have hcursor : run.cursor ⟨raw, dsMetrics, some ⟨ranges ++ [(fromTime, toTime)], isComplete⟩,
        completed⟩ = c := by
      rw [cursor, PerfTestState.getLastCollectedTime]
      simp only [Option.bind_some, hc, Option.getD_some]
    refine hcursor.trans_le ?_
    have hmem := (List.max?_eq_some_iff.1 hc).1
    rw [List.map_append, List.mem_append] at hmem
    rcases hmem with hmem | hmem
    · obtain ⟨c', hc'⟩ := Option.isSome_iff_exists.1 (List.isSome_max?_of_mem hmem)
      refine le_max_of_le_left (((List.max?_eq_some_iff.1 hc').2 c hmem).trans_eq ?_)
      rw [cursor, PerfTestState.getLastCollectedTime]
      simp only [Option.bind_some, hc', Option.getD_some]
    · obtain rfl : c = toTime := by simpa using hmem
      exact le_max_right _ _

/-- What a tick does. -/
theorem tick_cases (s : PerfTestState) (toTime : ℤ) (ending : Ending) :
    (s.completed = true ∧ run.tick s toTime ending = s) ∨
      s.completed = false ∧ ∃ dsMetrics created,
        run.process run.tickSize true s.raw (run.windowStart run.tickSize (run.cursor s)) toTime
            ending s.dsMetrics = (dsMetrics, created) ∧
          ((created = none ∧ run.tick s toTime ending = { s with dsMetrics }.recordFailedRange) ∨
            ∃ rangeTo, created.isSome ∧ (rangeTo = run.cursor s ∨ rangeTo = toTime) ∧
              run.tick s toTime ending =
                { s with dsMetrics }.updateCollectedRanges (run.cursor s, rangeTo)) := by
  obtain ⟨raw, dsMetrics, status, completed⟩ := s
  cases completed with
  | true => exact .inl ⟨rfl, rfl⟩
  | false =>
    refine .inr ⟨rfl, ?_⟩
    simp only [tick, Bool.false_eq_true, if_false, sizes_not_completed]
    split
    · rename_i dsMetrics' metricsCreated hprocess
      refine ⟨dsMetrics', _, hprocess, .inr ⟨_, rfl, ?_, rfl⟩⟩
      split
      · exact .inl rfl
      · exact .inr rfl
    · rename_i dsMetrics' hprocess
      exact ⟨dsMetrics', _, hprocess, .inl ⟨rfl, rfl⟩⟩

theorem startTime_le_windowStart (size : ℕ) (fromTime : ℤ) :
    run.startTime ≤ run.windowStart size fromTime :=
  startTime_le_alignToBucket (run.buckets size) _

theorem windowStart_mono {size : ℕ} (hsize : 0 < size) {fromTime fromTime' : ℤ}
    (h : fromTime ≤ fromTime') : run.windowStart size fromTime ≤ run.windowStart size fromTime' :=
  alignToBucket_mono (run.buckets size) hsize (by omega)

/-- A raw row that a window reaches is in a bucket that it reaches. -/
theorem windowStart_le_bucket {size : ℕ} (hsize : 0 < size) {fromTime : ℤ} {row : RawRow}
    (h : run.windowStart size fromTime ≤ row.time) :
    run.windowStart size fromTime ≤ (run.query size).bucket row :=
  @le_bucketTime (run.buckets size) hsize _ _ h

/-- What is between the start of a tick's window and that of the next is in the window. -/
theorem mem_window_of_lt_reach {s s' : PerfTestState} {toTime rangeTo : ℤ}
    (hcursor : run.cursor s' ≤ max (run.cursor s) rangeTo)
    (hrange : rangeTo = run.cursor s ∨ rangeTo = toTime) {row : RawRow}
    (hstart : run.startTime ≤ row.time)
    (hge : run.reach s ≤ (run.query run.tickSize).bucket row)
    (hlt : (run.query run.tickSize).bucket row < run.reach s') :
    run.windowStart run.tickSize (run.cursor s) ≤ row.time ∧ row.time ≤ toTime := by
  have hsize : 0 < (run.buckets run.tickSize).bucketSizeSeconds := tickSize_pos
  have hmoved : min (run.cursor s) run.endTime < min (run.cursor s') run.endTime := by
    by_contra hle
    have hback : run.reach s' ≤ run.reach s := windowStart_mono tickSize_pos (not_lt.1 hle)
    exact absurd hback (not_le.2 (hge.trans_lt hlt))
  have hmin : min (run.cursor s) run.endTime = run.cursor s := by omega
  have htime : row.time < run.reach s' := lt_of_bucketTime_lt hsize hlt
  have hnext := alignToBucket_le (run.buckets run.tickSize) hsize
    (min (run.cursor s') run.endTime - PERF_TEST_OVERLAP_SECONDS * 1000)
  have hbucket : (run.query run.tickSize).bucket row ≤ row.time := bucketTime_le hsize _
  have hoverlap : PERF_TEST_OVERLAP_SECONDS = 60 := rfl
  rw [reach, hmin] at hge
  refine ⟨hge.trans hbucket, ?_⟩
  rw [reach, windowStart] at htime
  have hstart' : (run.buckets run.tickSize).startTime = run.startTime := rfl
  omega

theorem inv_tick {s : PerfTestState} (h : run.Inv s) {toTime : ℤ} {ending : Ending}
    (hok : run.Admissible s (.tick toTime ending)) : run.Inv (run.tick s toTime ending) := by
  rcases tick_cases s toTime ending with ⟨-, htick⟩ | ⟨hnot, dsMetrics', created, hprocess, hend⟩
  · rw [htick]
    exact h
  · have hincomplete : s.isComplete = false := by
      by_contra hcomplete
      rw [h.completed (by simpa using hcomplete)] at hnot
      cases hnot
    have hto := hok hnot
    have hfrom : run.startTime ≤ run.windowStart run.tickSize (run.cursor s) :=
      startTime_le_windowStart _ _
    have hreach : ∀ row ∈ s.raw, run.windowStart run.tickSize (run.cursor s) ≤ row.time →
        run.reach s ≤ (run.query run.tickSize).bucket row := fun row _ hrow =>
      (windowStart_mono tickSize_pos (min_le_left _ _)).trans
        (windowStart_le_bucket tickSize_pos hrow)
    have hmeasured := h.process hfrom hto hprocess
    have hmaintained := fun hsize => h.process_maintained hsize hfrom hto hreach hprocess
    rcases hend with ⟨-, htick⟩ | ⟨rangeTo, hcreated, hrange, htick⟩
    · rw [htick]
      have hsame :
          run.reach { s with dsMetrics := dsMetrics' }.recordFailedRange = run.reach s := by
        rw [reach, cursor_recordFailedRange]
        rfl
      refine ⟨h.apart, hmeasured, fun hsize => ?_, fun hsize => (hmaintained hsize).2.1,
        fun hcomplete => ?_, fun hcomplete => ?_⟩
      · rw [hsame]
        exact (hmaintained hsize).1
      · rw [isComplete_recordFailedRange] at hcomplete
        cases hincomplete.symm.trans hcomplete
      · rw [isComplete_recordFailedRange] at hcomplete
        cases hincomplete.symm.trans hcomplete
    · rw [htick]
      refine ⟨h.apart, hmeasured, fun hsize => ?_, fun hsize => (hmaintained hsize).2.1,
        fun hcomplete => ?_, fun hcomplete => ?_⟩
      · refine (hmaintained hsize).2.2 hcreated _ fun row hrow hge hlt => ?_
        exact mem_window_of_lt_reach (cursor_updateCollectedRanges_le _ _ _) hrange
          (mem_window.1 hrow).2.1 hge hlt
      · rw [isComplete_updateCollectedRanges] at hcomplete
        cases hincomplete.symm.trans hcomplete
      · rw [isComplete_updateCollectedRanges] at hcomplete
        cases hincomplete.symm.trans hcomplete

/-! ## Raw rows and completion -/

theorem inv_arrive {s : PerfTestState} (h : run.Inv s) {row : RawRow}
    (hok : run.Admissible s (.arrive row)) : run.Inv { s with raw := s.raw ++ [row] } := by
  by_cases hin : run.startTime ≤ row.time ∧ row.time ≤ run.endTime
  · obtain ⟨hincomplete, hreach, hapart⟩ := hok hin.1 hin.2
    have happend : run.measured (s.raw ++ [row]) = run.measured s.raw ++ [row] := by
      simp [PerfTest.measured, window, hin]
    refine ⟨hapart, fun k m hm => ?_, fun hsize => ?_, h.columns, fun hcomplete => ?_, h.completed⟩
    · rw [happend]
      simp
    · rw [happend]
      exact (h.maintained hsize).append (windowStart_le_bucket tickSize_pos hreach)
    · cases hincomplete.symm.trans hcomplete
  · have hsame : run.measured (s.raw ++ [row]) = run.measured s.raw := by
      simp [PerfTest.measured, window, hin]
    refine ⟨?_, fun k m hm => ?_, fun hsize => ?_, h.columns, fun hcomplete => ?_, h.completed⟩
    · rw [hsame]
      exact h.apart
    · rw [hsame]
      exact h.measured k m hm
    · rw [hsame]
      exact h.maintained hsize
    · rw [hsame]
      exact h.exact hcomplete

theorem inv_complete {s : PerfTestState} (h : run.Inv s) :
    run.Inv { s with completed := true } :=
  { h with completed := fun _ => rfl }

/-! ## Passes -/

/-- A table of the rows of the run, as far as it goes, is maintained from the start. -/
theorem maintained_startTime {size : ℕ} (hsize : 0 < size)
    (hrows : ∀ k m, dsMetrics.get k = some m → (k, m) ∈ run.rows size (run.measured raw)) :
    (run.query size).Maintained run.startTime (run.measured raw) dsMetrics := by
  have hbucket : ∀ k m, (k, m) ∈ run.rows size (run.measured raw) → run.startTime ≤ k.time := by
    intro k m hm
    obtain ⟨row, hrow, hk⟩ := (run.query size).exists_sample hm
    have hstart := startTime_le_bucketTime (run.buckets size) hsize (mem_window.1 hrow).2.1
    exact hstart.trans_eq hk
  refine ⟨fun k m hm => ⟨m, hrows k m hm⟩, fun k m hk => ⟨hrows k m, fun hm => ?_⟩⟩
  exact absurd (hbucket k m hm) (not_le.2 hk)

theorem startTime_lt_endTime {size : ℕ} (h : run.finalSize = some size) :
    run.startTime < run.endTime := by
  simp only [finalSize, perfTestBucketSizes, if_true] at h
  split at h
  · rename_i hpos
    have : (0 : ℚ) < ((run.endTime - run.startTime : ℤ) : ℚ) := by linarith
    have := Int.cast_pos.1 this
    omega
  · cases h

/-- The plan for a completed run, by what it finds. -/
theorem planFullCollection_cases {s : PerfTestState} (hcompleted : s.completed = true) {tick : ℕ}
    {final : Option ℕ} {plan : Plan} (h : run.planFullCollection s tick final = some plan) :
    ∃ size, final = some size ∧
      ((plan = .skip ∧ s.isComplete = true) ∨
        (∃ fromTime, plan = .tail fromTime ∧ s.isComplete = false ∧ tick = size ∧
          (fromTime = min (run.cursor s) run.endTime ∨
            fromTime = run.startTime ∧ run.cursor s = run.startTime)) ∨
        (plan = .rebuild true) ∨ (plan = .rebuild false ∧ s.status = none)) := by
  obtain ⟨raw, dsMetrics, status, completed⟩ := s
  obtain rfl : completed = true := hcompleted
  cases final with
  | none => cases h
  | some size =>
    refine ⟨size, rfl, ?_⟩
    cases status with
    | none =>
      cases h
      exact .inr (.inr (.inr ⟨rfl, rfl⟩))
    | some status =>
      simp only [planFullCollection, Bool.not_true, Bool.false_eq_true, if_false] at h
      split_ifs at h with htick hgrid hcomplete
      · cases h
        exact .inr (.inr (.inl rfl))
      · cases h
        exact .inr (.inr (.inl rfl))
      · cases h
        exact .inl ⟨rfl, hcomplete⟩
      · have hincomplete : status.isComplete = false := by simpa using hcomplete
        have hsize : tick = size := by simpa [hincomplete] using htick
        cases h
        refine .inr (.inl ⟨_, rfl, hincomplete, hsize, ?_⟩)
        split
        · rename_i lastTo hlast
          left
          rw [cursor, hlast]
          rfl
        · rename_i hlast
          right
          rw [cursor, hlast]
          exact ⟨rfl, rfl⟩

/-- Metrics that are those of the run are so in every state that has them. -/
theorem Inv.of_exact {s s' : PerfTestState} (h : run.Inv s) (hraw : s'.raw = s.raw)
    (hcompleted : s'.completed = true) {size : ℕ} (hsize : run.finalSize = some size)
    (hexact : (run.query size).Exact (run.measured s.raw) s'.dsMetrics) : run.Inv s' := by
  obtain ⟨raw, dsMetrics, status, completed⟩ := s'
  obtain rfl : raw = s.raw := hraw
  refine ⟨h.apart, fun k m hm hnil => ?_, fun hsize' => ?_, fun hsize' k m hm => ?_,
    fun _ => ⟨size, hsize, hexact⟩, fun _ => hcompleted⟩
  · have hmem := (hexact k m).1 hm
    change run.measured s.raw = [] at hnil
    rw [hnil, (run.query size).rows_nil] at hmem
    exact List.not_mem_nil hmem
  · obtain rfl := Option.some.inj (hsize.symm.trans hsize')
    exact hexact.maintained _
  · obtain rfl := Option.some.inj (hsize.symm.trans hsize')
    exact columns_of_mem_rows ((hexact k m).1 hm)

/-- The metrics after the tail is aggregated; all of it, if nothing fails. -/
theorem tail_sound {s : PerfTestState} (h : run.Inv s) (hincomplete : s.isComplete = false)
    (hsize : run.finalSize = some run.tickSize) {fromTime : ℤ}
    (hfromTime : run.windowStart run.tickSize fromTime = run.reach s)
    (hprocess : run.process run.tickSize true s.raw (run.windowStart run.tickSize fromTime)
      run.endTime ending s.dsMetrics = (dsMetrics', created)) :
    run.Inv { s with dsMetrics := dsMetrics' } ∧
      (created.isSome → (run.query run.tickSize).Exact (run.measured s.raw) dsMetrics') := by
  have hfrom : run.startTime ≤ run.windowStart run.tickSize fromTime :=
    startTime_le_windowStart _ _
  have hto : ∀ row ∈ s.raw, row.time ≤ run.endTime → row.time ≤ run.endTime := fun _ _ h => h
  have hreach : ∀ row ∈ s.raw, run.windowStart run.tickSize fromTime ≤ row.time →
      run.reach s ≤ (run.query run.tickSize).bucket row := by
    intro row _ hrow
    rw [← hfromTime]
    exact windowStart_le_bucket tickSize_pos hrow
  obtain ⟨hmaintained, hcolumns, hadvance⟩ :=
    h.process_maintained hsize hfrom hto hreach hprocess
  refine ⟨⟨h.apart, h.process hfrom hto hprocess, fun _ => hmaintained, fun _ => hcolumns,
    fun hcomplete => ?_, fun hcomplete => ?_⟩, fun hcreated => ?_⟩
  · cases hincomplete.symm.trans hcomplete
  · cases hincomplete.symm.trans hcomplete
  · -- Behind what the window reaches, all is aggregated again.
    refine .of_maintained fun front => hadvance hcreated front fun row hrow hge _ => ?_
    have hbucket : (run.query run.tickSize).bucket row ≤ row.time :=
      @bucketTime_le (run.buckets run.tickSize) tickSize_pos _
    exact ⟨(hfromTime.trans_le hge).trans hbucket, (mem_window.1 hrow).2.2⟩

/-- The metrics after those there were are deleted and written anew; all of them, if nothing
    fails. -/
theorem rebuild_sound {s : PerfTestState}
    (hapart : run.NamesApart run.tickSize (run.measured s.raw))
    (hincomplete : s.isComplete = false) (hcursor : run.cursor s = run.startTime) {size : ℕ}
    (hsize : run.finalSize = some size)
    (hprocess : run.process size false s.raw run.startTime run.endTime ending Table.empty =
      (dsMetrics', created)) :
    run.Inv { s with dsMetrics := dsMetrics' } ∧
      (created.isSome → (run.query size).Exact (run.measured s.raw) dsMetrics') := by
  have hapart' : run.NamesApart size (window run.startTime run.endTime s.raw) := hapart.size
  obtain ⟨hrows, hexact⟩ := process_insert hapart' hprocess
  refine ⟨⟨hapart, fun k m hm hnil => ?_, fun hticks => ?_, fun hticks k m hm => ?_,
    fun hcomplete => ?_, fun hcomplete => ?_⟩, hexact⟩
  · have hmem := hrows k m hm
    change run.measured s.raw = [] at hnil
    rw [PerfTest.measured] at hnil
    rw [hnil] at hmem
    exact List.not_mem_nil hmem
  · obtain rfl := Option.some.inj (hsize.symm.trans hticks)
    have hreach : run.reach { s with dsMetrics := dsMetrics' } ≤ run.startTime := by
      have hle := alignToBucket_le (run.buckets run.tickSize) tickSize_pos
        (min run.startTime run.endTime - PERF_TEST_OVERLAP_SECONDS * 1000)
      have hoverlap : PERF_TEST_OVERLAP_SECONDS = 60 := rfl
      have hstart : (run.buckets run.tickSize).startTime = run.startTime := rfl
      have hsame : run.cursor { s with dsMetrics := dsMetrics' } = run.startTime := hcursor
      rw [reach, hsame, windowStart]
      omega
    exact (maintained_startTime tickSize_pos hrows).mono hreach
  · obtain rfl := Option.some.inj (hsize.symm.trans hticks)
    exact columns_of_mem_rows (hrows k m hm)
  · cases hincomplete.symm.trans hcomplete
  · cases hincomplete.symm.trans hcomplete

/-- Without raw rows within an hour of the run there are no rows of the run. -/
theorem exact_of_hasRawRows {s : PerfTestState} (h : run.Inv s) {size : ℕ}
    (hraw : run.hasRawRows s.raw = false) :
    (run.query size).Exact (run.measured s.raw) s.dsMetrics := by
  have hnil : run.measured s.raw = [] := by
    refine List.filter_eq_nil_iff.2 fun row hrow => ?_
    have hout := List.any_eq_false.1 hraw row hrow
    rw [decide_eq_true_eq] at hout ⊢
    have hpad : RUN_WINDOW_PAD_MS = 3600000 := rfl
    omega
  intro k m
  rw [hnil, (run.query size).rows_nil]
  exact ⟨fun hm => absurd hnil (h.measured k m hm), nofun⟩

/-- The pass over the tail keeps what ticks and passes keep; if it succeeds, it leaves the
    rows of the run. -/
theorem collect_tail {s s' : PerfTestState} (h : run.Inv s) (hcompleted : s.completed = true)
    (hincomplete : s.isComplete = false) (hsize : run.finalSize = some run.tickSize)
    {fromTime : ℤ} (hfromTime : fromTime = min (run.cursor s) run.endTime ∨
      fromTime = run.startTime ∧ run.cursor s = run.startTime) {ok : Bool}
    (hcollect : run.collectTail run.tickSize s fromTime ending = (s', ok)) :
    run.Inv s' ∧
      (ok = true → (run.query run.tickSize).Exact (run.measured s.raw) s'.dsMetrics) := by
  have hreach : run.windowStart run.tickSize fromTime = run.reach s := by
    rcases hfromTime with rfl | ⟨rfl, hcursor⟩
    · rfl
    · rw [reach, hcursor, min_eq_left (startTime_lt_endTime hsize).le]
  simp only [collectTail] at hcollect
  split at hcollect
  · rename_i dsMetrics' metricsCreated hprocess
    obtain ⟨hinv, hexact⟩ := tail_sound h hincomplete hsize hreach hprocess
    have hexact' := hexact rfl
    split at hcollect
    · cases hcollect
      exact ⟨h.of_exact rfl hcompleted hsize hexact', fun _ => hexact'⟩
    · cases hcollect
      exact ⟨hinv, fun _ => hexact'⟩
  · rename_i dsMetrics' hprocess
    cases hcollect
    exact ⟨(tail_sound h hincomplete hsize hreach hprocess).1, nofun⟩

/-- So does the pass that rebuilds all. -/
theorem collect_rebuild {s s' : PerfTestState} (h : run.Inv s) (hcompleted : s.completed = true)
    {size : ℕ} (hsize : run.finalSize = some size) {ticked : Bool}
    (hticked : ticked = true ∨ s.status = none) {ok : Bool}
    (hcollect : run.collectRebuild size s ticked ending = (s', ok)) :
    run.Inv s' ∧ (ok = true → (run.query size).Exact (run.measured s.raw) s'.dsMetrics) := by
  -- Before the metrics are deleted, the ranges of the ticks are.
  have hreset : run.cursor (if ticked then s.resetCollectionStatus else s) = run.startTime ∧
      (if ticked then s.resetCollectionStatus else s).isComplete = false ∧
      (if ticked then s.resetCollectionStatus else s).raw = s.raw ∧
      (if ticked then s.resetCollectionStatus else s).completed = true := by
    obtain ⟨raw, dsMetrics, status, completed⟩ := s
    cases ticked with
    | true => cases status <;> exact ⟨rfl, rfl, rfl, hcompleted⟩
    | false =>
      obtain rfl : status = none := hticked.resolve_left Bool.false_ne_true
      exact ⟨rfl, rfl, rfl, hcompleted⟩
  simp only [collectRebuild] at hcollect
  split at hcollect
  · rename_i hraw
    cases hcollect
    exact ⟨h, fun _ => exact_of_hasRawRows h (by simpa using hraw)⟩
  · generalize (if ticked then s.resetCollectionStatus else s) = s₀ at hreset hcollect
    obtain ⟨hcursor, hincomplete, hraw, hcompleted₀⟩ := hreset
    rw [← hraw]
    have hapart : run.NamesApart run.tickSize (run.measured s₀.raw) := hraw ▸ h.apart
    split at hcollect
    · rename_i dsMetrics' metricsCreated hprocess
      obtain ⟨hinv, hexact⟩ := rebuild_sound hapart hincomplete hcursor hsize hprocess
      have hexact' := hexact rfl
      split at hcollect
      · cases hcollect
        exact ⟨hinv.of_exact rfl hcompleted₀ hsize hexact', fun _ => hexact'⟩
      · cases hcollect
        exact ⟨hinv, fun _ => hexact'⟩
    · rename_i dsMetrics' hprocess
      cases hcollect
      exact ⟨(rebuild_sound hapart hincomplete hcursor hsize hprocess).1, nofun⟩

/-- And so does every pass. -/
theorem collect_sound {s s' : PerfTestState} (h : run.Inv s) (hcompleted : s.completed = true)
    {ok : Bool} (hcollect : run.collect s ending = (s', ok)) :
    run.Inv s' ∧ (ok = true → ∃ size, run.finalSize = some size ∧
      (run.query size).Exact (run.measured s.raw) s'.dsMetrics) := by
  simp only [collect, hcompleted] at hcollect
  cases hplan : run.planFullCollection s (perfTestBucketSizes run true).tick
      (perfTestBucketSizes run true).final with
  | none =>
    rw [hplan] at hcollect
    cases hcollect
    exact ⟨h, nofun⟩
  | some plan =>
    obtain ⟨size, hfinal, hcases⟩ := planFullCollection_cases hcompleted hplan
    have hsize : run.finalSize = some size := hfinal
    rw [hplan, sizes_completed hsize] at hcollect
    rcases hcases with ⟨rfl, hcomplete⟩ | ⟨fromTime, rfl, hincomplete, htick, hfromTime⟩ | rfl |
      ⟨rfl, hstatus⟩
    · cases hcollect
      exact ⟨h, fun _ => h.exact hcomplete⟩
    · obtain rfl : run.tickSize = size := htick
      obtain ⟨hinv, hexact⟩ := collect_tail h hcompleted hincomplete hsize hfromTime hcollect
      exact ⟨hinv, fun hok => ⟨_, hsize, hexact hok⟩⟩
    · obtain ⟨hinv, hexact⟩ := collect_rebuild h hcompleted hsize (.inl rfl) hcollect
      exact ⟨hinv, fun hok => ⟨_, hsize, hexact hok⟩⟩
    · obtain ⟨hinv, hexact⟩ := collect_rebuild h hcompleted hsize (.inr hstatus) hcollect
      exact ⟨hinv, fun hok => ⟨_, hsize, hexact hok⟩⟩

theorem inv_step {s s' : PerfTestState} {e : Event} (h : run.Inv s) (hok : run.Admissible s e)
    (hstep : run.step s e = some s') : run.Inv s' := by
  cases e with
  | arrive row =>
    cases hstep
    exact inv_arrive h hok
  | tick toTime ending =>
    cases hstep
    exact inv_tick h hok
  | complete =>
    cases hstep
    exact inv_complete h
  | analyse ending =>
    simp only [step] at hstep
    split at hstep
    · rename_i hcompleted
      cases hstep
      exact (collect_sound h hcompleted rfl).1
    · cases hstep

/-- What ticks and passes keep holds along every run whose steps are admissible. -/
theorem run_inv {es : List Event} {s : PerfTestState}
    (h : Run run.step run.Admissible .init es s) : run.Inv s :=
  h.state_invariant inv_init fun _ _ _ => inv_step

/-- After any run whose steps are admissible, ticks and earlier passes included, a pass that
    succeeds leaves exactly the rows that a rebuild writes. -/
theorem run_collect_eq_rebuild {es : List Event} {s s' : PerfTestState}
    (h : Run run.step run.Admissible .init es s) (hcompleted : s.completed = true)
    (hcollect : run.collect s ending = (s', true)) :
    ∃ size dsMetrics, run.finalSize = some size ∧ run.rebuild size s.raw = some dsMetrics ∧
      ∀ k, s'.dsMetrics.get k = dsMetrics.get k := by
  have hinv := run_inv h
  obtain ⟨size, hsize, hexact⟩ := (collect_sound hinv hcompleted hcollect).2 rfl
  have hapart : run.NamesApart size (run.measured s.raw) := hinv.apart.size
  obtain ⟨dsMetrics, hrebuild, hrows⟩ := rebuild_exact hapart
  exact ⟨size, dsMetrics, hsize, hrebuild, fun k => Option.ext fun m =>
    (hexact k m).trans (hrows k m).symm⟩

instance (s : PerfTestState) (e : Event) : Decidable (run.Admissible s e) :=
  match e with
  | .arrive row => inferInstanceAs (Decidable (run.startTime ≤ row.time → row.time ≤ run.endTime →
      s.isComplete = false ∧ run.reach s ≤ row.time ∧
        run.NamesApart run.tickSize (run.measured (s.raw ++ [row]))))
  | .tick toTime _ => inferInstanceAs (Decidable (s.completed = false →
      ∀ row ∈ s.raw, row.time ≤ toTime → row.time ≤ run.endTime))
  | .complete => inferInstanceAs (Decidable True)
  | .analyse _ => inferInstanceAs (Decidable True)

theorem eq_fst_true {α : Type} {x : α × Bool} (h : x.2 = true) : x = (x.1, true) :=
  Prod.ext rfl h

/-! ## Rows of after the end -/

/-- A run of four minutes, as planned. -/
def fourMinutes : PerfTest where
  startTime := 0
  endTime := 240000
  plannedDuration := some 240
  rampUpTime := none
  dashboards := allDashboards
  organizationId := none
  thresholds := Table.empty
  requestsThreshold := none
  workloadThreshold := none
  benchmarkThreshold := none

/-- Two ticks and a raw row that arrives late, but is reached by the second. -/
def lateArrival : List Event :=
  [.arrive (.request (request 100000 none "login")), .tick 150000 (.finished 0),
   .arrive (.request (request 120000 none "login")), .tick 200000 (.finished 1), .complete]

theorem run_collect_eq_rebuild_lateArrival : ∃ s s',
    Run fourMinutes.step fourMinutes.Admissible .init lateArrival s ∧
      fourMinutes.collect s (.finished 0) = (s', true) ∧
      ∃ size dsMetrics, fourMinutes.finalSize = some size ∧
        fourMinutes.rebuild size s.raw = some dsMetrics ∧
        ∀ k, s'.dsMetrics.get k = dsMetrics.get k := by
  have htest : (lateArrival.foldlM (Run.checked fourMinutes.step fourMinutes.Admissible)
      .init).any (fun s => s.completed && (fourMinutes.collect s (.finished 0)).2) = true := by
    decide +kernel
  obtain ⟨s, hrun, hs⟩ := Run.exists_of_checked htest
  obtain ⟨hcompleted, hok⟩ := Bool.and_eq_true_iff.1 hs
  exact ⟨s, _, hrun, eq_fst_true hok, run_collect_eq_rebuild hrun hcompleted (eq_fst_true hok)⟩

/-- A tick reads a raw row of ten seconds after the end of the run. -/
def afterTheEnd : List Event :=
  [.arrive (.request (request 100000 none "login")),
   .arrive (.request (request 250000 none "login")), .tick 260000 (.finished 0), .complete]

/-- The key of a metric of after the end. -/
def lateKey : DsMetricKey := ⟨"default", 206, "login", 250000⟩

/-- Its metrics stay: the pass over the tail neither deletes nor overwrites them, and a
    rebuild would not write them. -/
theorem late_row_stays : ∃ s s',
    Run fourMinutes.step (fun _ _ => True) .init afterTheEnd s ∧ s.completed = true ∧
      fourMinutes.collect s (.finished 0) = (s', true) ∧
      ¬∃ size dsMetrics, fourMinutes.finalSize = some size ∧
        fourMinutes.rebuild size s.raw = some dsMetrics ∧
        ∀ k, s'.dsMetrics.get k = dsMetrics.get k := by
  have htest : (afterTheEnd.foldlM (Run.checked fourMinutes.step fun _ _ => True) .init).any
      (fun s => s.completed && (fourMinutes.collect s (.finished 0)).2 &&
        ((fourMinutes.collect s (.finished 0)).1.dsMetrics.get lateKey).isSome &&
        (fourMinutes.finalSize.bind fun size => fourMinutes.rebuild size s.raw).all
          fun dsMetrics => (dsMetrics.get lateKey).isNone) = true := by
    decide +kernel
  obtain ⟨s, hrun, hs⟩ := Run.exists_of_checked htest
  simp only [Bool.and_eq_true] at hs
  obtain ⟨⟨⟨hcompleted, hok⟩, hstays⟩, hrebuild⟩ := hs
  refine ⟨s, _, hrun, hcompleted, eq_fst_true hok, ?_⟩
  rintro ⟨size, dsMetrics, hsize, hdsMetrics, hget⟩
  rw [hsize, Option.bind_some, hdsMetrics, Option.all_some, Option.isNone_iff_eq_none,
    ← hget] at hrebuild
  rw [hrebuild] at hstays
  cases hstays

end PerfTest

end Perfana.PerformanceTest
