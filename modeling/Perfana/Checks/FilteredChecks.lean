import Mathlib.Data.List.Nodup
import Perfana.Checks.Requirement

/-!
# The benchmarks of a run under a filter

A filter narrows the evaluation of a run to a dashboard, a panel or a series. The
results that it is about are deleted, its benchmarks are looked up, and each of them
reads its series: three readings of the filter, one statement each. A panel without data
is given a default row on the way, which the benchmarks after it read.

* `map_benchmarkId_evaluateBenchmarks`: whatever the statistics, the same benchmarks leave
  a row, and each leaves one;
* `evaluateBenchmarks_filter`: the benchmarks of some panels leave what they leave among
  all benchmarks.
-/

namespace Perfana

namespace Reevaluation

/-- The filter of a re-evaluation, with its series. -/
structure Filter extends MetricFilter where
  /-- The series. -/
  metricName : Option String := none
  deriving DecidableEq, Repr

/-- What a benchmark judges. -/
inductive BenchmarkType
  | metric
  | apdex
  | aggregated
  deriving DecidableEq, Repr

/-- A row of `benchmarks`. -/
structure Benchmark extends MetricBenchmark where
  /-- The benchmark. -/
  id : String
  systemUnderTestId : String
  testEnvironment : String
  workload : String
  organizationId : Option String
  dashboardLabel : Option String
  applicationDashboardId : Option String
  /-- The pattern outside the configuration. -/
  columnMatchPattern : Option String
  valid : Bool
  enabled : Bool
  /-- What it judges. -/
  benchmarkType : BenchmarkType
  /-- The least Apdex score. -/
  minApdexScore : Option ℚ
  /-- The metric that is aggregated. -/
  aggregateMetric : Option String

/-- The table of the benchmarks. -/
structure Benchmarks where
  rows : List Benchmark
  /-- The primary key. -/
  nodup : (rows.map Benchmark.id).Nodup

/-- The run whose checks are evaluated. -/
structure CheckedTestRun where
  systemUnderTestId : String
  testEnvironment : String
  workload : String
  organizationId : Option String

/-- A row of `check_results`. There is no column for the metrics source. -/
structure CheckResultRow extends CheckResultDocument where
  benchmarkId : String
  applicationDashboardId : Option String
  panelId : Option ℤ
  deriving DecidableEq, Repr

/-- The statistics of the panels of a run, by dashboard and panel. -/
abbrev Statistics := String → ℤ → List MetricStatistic

/-- What the benchmarks of a run read. -/
structure EvaluationData where
  statistics : Statistics
  /-- The error rates of whole runs, of the panel that a benchmark is about. -/
  pooledErrorRates : Benchmark → String → Except String (String → Option ℚ)
  /-- The organizations of a dashboard, one for each row that has it. -/
  organizations : String → List (Option String)
  /-- The outcome of a benchmark that judges the transactions. -/
  transactionResult : Benchmark → Except String CheckResultDocument

/-! ## The three readings of a filter -/

/-- A value that is not empty. -/
def nonempty (text : Option String) : Option String := text.filter fun s => s ≠ ""

/-- A result is about what a filter without a metrics source is about. -/
def deletes (filter : Filter) (applicationDashboardId : Option String) (panelId : Option ℤ) :
    Bool :=
  ((nonempty filter.applicationDashboardId).all fun id => applicationDashboardId = some id) &&
    filter.panelId.all fun id => panelId = some id

/-- The results that a re-evaluation leaves alone; none if its statement fails, for it
    names a column that the table does not have. -/
def deleteExistingCheckResults (filter : Filter) (rows : List CheckResultRow) :
    Option (List CheckResultRow) :=
  match nonempty filter.metricsSourceId with
  | some _ => none
  | none => some (rows.filter fun row => !deletes filter row.applicationDashboardId row.panelId)

namespace Benchmark

variable (b : Benchmark)

/-- The benchmark with the pattern that is in force. -/
def withColumnMatchPattern : MetricBenchmark :=
  match nonempty b.matchPattern, nonempty b.columnMatchPattern with
  | none, some pattern => { b.toMetricBenchmark with matchPattern := some pattern }
  | _, _ => b.toMetricBenchmark

/-- The benchmark has what its type asks for, as far as the query tells. -/
def hasRequirementColumns : Bool :=
  match b.benchmarkType with
  | .metric => b.requirementOperator.isSome || b.requirementValue.isSome
  | .apdex => b.minApdexScore.isSome
  | .aggregated => b.aggregateMetric.isSome && b.requirementValue.isSome

/-- The benchmark has what its type asks for. -/
def isBenchmarkValid : Bool :=
  match b.benchmarkType with
  | .metric => (nonempty b.requirementOperator).isSome || b.requirementValue.isSome
  | .apdex => b.minApdexScore.isSome
  | .aggregated => (nonempty b.aggregateMetric).isSome

/-- The benchmark is one of the run. -/
def isOf (run : CheckedTestRun) : Bool :=
  b.systemUnderTestId = run.systemUnderTestId ∧ b.testEnvironment = run.testEnvironment ∧
    b.workload = run.workload ∧ b.valid ∧ b.enabled ∧ b.hasRequirementColumns ∧
    (nonempty run.organizationId).all fun id =>
      b.organizationId = some id ∨ b.organizationId = none

/-- The benchmark is on the dashboard and the panel of a filter. -/
def matchesFilter (filter : Filter) : Bool :=
  ((nonempty filter.applicationDashboardId).all fun id => b.applicationDashboardId = some id) &&
    filter.panelId.all fun id => b.panelId = some id

end Benchmark

/-- The benchmarks of a run under a filter. -/
def findMatchingBenchmarks (run : CheckedTestRun) (benchmarks : Benchmarks) (filter : Filter) :
    Except MatchError (List Benchmark) :=
  let result := benchmarks.rows.filter fun b => b.isOf run && b.matchesFilter filter
  if result = [] then .error .benchmarkNotFound else .ok (result.filter Benchmark.isBenchmarkValid)

/-! ## The evaluation -/

section Evaluation

-- The tests of the patterns that are safe and valid.
variable (validateRegexPattern : String → Option (String → Bool)) (run : CheckedTestRun)
  (data : EvaluationData)

/-- The statistics of a dashboard are visible to the organization of the run. -/
def visible (applicationDashboardId : String) : Bool :=
  match nonempty run.organizationId with
  | none => data.organizations applicationDashboardId ≠ []
  | some id =>
    (data.organizations applicationDashboardId).any fun organizationId =>
      organizationId = some id ∨ organizationId = none

/-- The rows that the query of a benchmark finds. -/
def metricStatistics (metricName : Option String) (b : Benchmark) (statistics : Statistics) :
    List MetricStatistic :=
  match b.applicationDashboardId, b.panelId with
  | some id, some panelId =>
    if visible run data id then
      (statistics id panelId).filter fun stat =>
        (nonempty metricName).all fun name => stat.metricName = name
    else []
  | _, _ => []

/-- A row with a default value; the columns of its trend stay as they are. -/
def artificialStatistic (dashboardLabel : Option String) (value : ℚ) (old : MetricStatistic) :
    MetricStatistic :=
  { old with
    columns :=
      { old.columns with
        mean := some value, median := some value, minValue := some value, maxValue := some value
        stdDev := some 0, lastValue := some value, q10 := some value, q25 := some value
        q75 := some value, q90 := some value, q95 := some value, q99 := some value }
    count := some 1
    isConstant := true
    dashboardLabel }

/-- The row of the default value, before its columns are given. -/
def newDefault : MetricStatistic where
  metricName := "default"
  columns := ⟨none, none, none, none, none, none, none, none, none, none, none, none, none⟩
  trendPctPerHour := none
  trendCorr := none
  count := none
  isConstant := false
  dashboardLabel := none

/-- The rows of a panel with that of a default value. -/
def upsertArtificial (dashboardLabel : Option String) (value : ℚ) (stats : List MetricStatistic) :
    List MetricStatistic :=
  if stats.any fun stat => stat.metricName = "default" then
    stats.map fun stat =>
      if stat.metricName = "default" then artificialStatistic dashboardLabel value stat else stat
  else stats ++ [artificialStatistic dashboardLabel value newDefault]

/-- The statistics with the row of a default value in the panel of a benchmark. -/
def createArtificialMetricStatistic (b : Benchmark) (statistics : Statistics) :
    Except String Statistics :=
  let value := b.validateWithDefaultIfNoDataValue.getD 0
  match b.applicationDashboardId with
  | none => .error "null value in column application_dashboard_id"
  | some id =>
    .ok fun id' panelId =>
      if id' = id ∧ b.panelId = some panelId then
        upsertArtificial b.dashboardLabel value (statistics id' panelId)
      else statistics id' panelId

namespace Benchmark

/-- The dashboard of the result of a benchmark: one on transactions has none. -/
def resultDashboard (b : Benchmark) : Option String :=
  if b.benchmarkType = .metric then b.applicationDashboardId else none

/-- The panel of the result of a benchmark: one on transactions has none. -/
def resultPanel (b : Benchmark) : Option ℤ :=
  if b.benchmarkType = .metric then b.panelId else none

/-- The row of the result of a benchmark. -/
def row (b : Benchmark) (document : CheckResultDocument) : CheckResultRow where
  toCheckResultDocument := document
  benchmarkId := b.id
  applicationDashboardId := b.resultDashboard
  panelId := b.resultPanel

end Benchmark

/-- The evaluation of a metric benchmark. -/
def evaluateMetric (metricName : Option String) (b : Benchmark) (statistics : Statistics) :
    Except String (Option CheckResultRow × Statistics) := do
  let benchmark := b.withColumnMatchPattern
  let stats := metricStatistics run data metricName b statistics
  let aggregation ← aggregateMetricsForBenchmark benchmark ⟨stats, data.pooledErrorRates b⟩
  let statistics ←
    if stats = [] ∧ b.validateWithDefaultIfNoData then createArtificialMetricStatistic b statistics
    else .ok statistics
  let document ← createCheckResult validateRegexPattern run.organizationId benchmark aggregation
  return (document.map b.row, statistics)

/-- The evaluation of a benchmark on the transactions of the run. -/
def evaluateTransactions (b : Benchmark) (statistics : Statistics) :
    Except String (Option CheckResultRow × Statistics) := do
  let document ← data.transactionResult b
  if (nonempty run.organizationId).isSome then return (some (b.row document), statistics)
  else throw "null value in column organization_id"

/-- What an evaluation in a savepoint leaves: one that fails is rolled back. -/
def inSavepoint (statistics : Statistics) :
    Except String (Option CheckResultRow × Statistics) → Option CheckResultRow × Statistics
  | .ok result => result
  | .error _ => (none, statistics)

/-- A benchmark in its savepoint: the row that it leaves, and the statistics. -/
def processBenchmark (metricName : Option String) (b : Benchmark) (statistics : Statistics) :
    Option CheckResultRow × Statistics :=
  inSavepoint statistics <|
    match b.benchmarkType with
    | .metric => evaluateMetric validateRegexPattern run data metricName b statistics
    | .apdex | .aggregated => evaluateTransactions run data b statistics

/-- The rows that some benchmarks leave, one after the other. -/
def evaluateBenchmarks (metricName : Option String) :
    List Benchmark → Statistics → List CheckResultRow
  | [], _ => []
  | b :: bs, statistics =>
    let (row, statistics) := processBenchmark validateRegexPattern run data metricName b statistics
    row.toList ++ evaluateBenchmarks metricName bs statistics

/-- The re-evaluation of a run: the rows that it leaves, if it goes through. -/
def reevaluate (benchmarks : Benchmarks) (filter : Filter) (rows : List CheckResultRow) :
    Option (List CheckResultRow) :=
  (deleteExistingCheckResults filter rows).map fun kept =>
    match findMatchingBenchmarks run benchmarks filter with
    | .ok matched =>
      kept ++ evaluateBenchmarks validateRegexPattern run data filter.metricName matched
        data.statistics
    | .error _ => kept

/-- The benchmarks of a run that a filter matches. -/
def matching (benchmarks : Benchmarks) (filter : Filter) : List Benchmark :=
  match findMatchingBenchmarks run benchmarks filter with
  | .ok matched => matched
  | .error _ => []

/-- The rows that a full evaluation leaves. -/
def fullEvaluation (benchmarks : Benchmarks) : List CheckResultRow :=
  evaluateBenchmarks validateRegexPattern run data none (matching run benchmarks {}) data.statistics

end Evaluation

/-! ## What a benchmark leaves -/

section Leaves

variable {validateRegexPattern : String → Option (String → Bool)} {run : CheckedTestRun}
  {data : EvaluationData} {metricName : Option String} {b : Benchmark}
  {statistics statistics' : Statistics}

/-- A benchmark on a panel leaves a row: there is an organization to store it for, and a
    panel, and a dashboard to store a default row in if that is asked for. -/
def Benchmark.LeavesMetric (b : Benchmark) : Prop :=
  b.panelId.getD 0 ≠ 0 ∧
    (b.applicationDashboardId.isSome = true ∨ b.validateWithDefaultIfNoData = false)

instance : Decidable b.LeavesMetric := inferInstanceAs (Decidable (_ ∧ _))

/-- A benchmark leaves a row on some data. -/
def Benchmark.MayLeave (run : CheckedTestRun) (b : Benchmark) : Prop :=
  (nonempty run.organizationId).isSome = true ∧ (b.benchmarkType = .metric → b.LeavesMetric)

instance : Decidable (b.MayLeave run) := inferInstanceAs (Decidable (_ ∧ _))

/-- A benchmark leaves a row. -/
def Benchmark.leaves (run : CheckedTestRun) (data : EvaluationData) (b : Benchmark) : Bool :=
  b.MayLeave run ∧ (b.benchmarkType ≠ .metric → (data.transactionResult b).isOk)

/-- Two states of the statistics agree on the panel of a benchmark. -/
def AgreeOn (b : Benchmark) (statistics statistics' : Statistics) : Prop :=
  ∀ id panelId, b.applicationDashboardId = some id → b.panelId = some panelId →
    statistics id panelId = statistics' id panelId

theorem ok_bind {α β : Type} (a : α) (f : α → Except String β) : (Except.ok a >>= f) = f a := rfl

theorem error_bind {α β : Type} (e : String) (f : α → Except String β) :
    (Except.error e >>= f) = .error e := rfl

theorem Benchmark.LeavesMetric.exists_panelId (h : b.LeavesMetric) :
    ∃ panelId, b.panelId = some panelId ∧ panelId ≠ 0 := by
  have hpanel := h.1
  cases hsome : b.panelId with
  | none => exact absurd (by rw [hsome]; rfl) hpanel
  | some panelId =>
    rw [hsome, Option.getD_some] at hpanel
    exact ⟨panelId, rfl, hpanel⟩

theorem nonempty_isSome_iff {text : Option String} :
    (nonempty text).isSome = true ↔ text.getD "" ≠ "" := by
  cases text <;> simp [nonempty, Option.filter]

theorem metricStatistics_congr (h : AgreeOn b statistics statistics') :
    metricStatistics run data metricName b statistics =
      metricStatistics run data metricName b statistics' := by
  rw [metricStatistics, metricStatistics]
  cases hid : b.applicationDashboardId with
  | none => rfl
  | some id =>
    cases hpanel : b.panelId with
    | none => rfl
    | some panelId => simp only [h id panelId hid hpanel]

theorem metricStatistics_none (h : b.applicationDashboardId = none) :
    metricStatistics run data metricName b statistics = [] := by
  rw [metricStatistics, h]

@[simp] theorem withColumnMatchPattern_panelId :
    b.withColumnMatchPattern.panelId = b.panelId := by
  rw [Benchmark.withColumnMatchPattern]
  split <;> rfl

@[simp] theorem withColumnMatchPattern_hasValidRequirement :
    b.withColumnMatchPattern.hasValidRequirement = b.hasValidRequirement := by
  rw [Benchmark.withColumnMatchPattern]
  split <;> rfl

/-- Two evaluations of a benchmark end alike. -/
def EndAlike (b : Benchmark) (r r' : Except String (Option CheckResultRow × Statistics)) : Prop :=
  (∃ e, r = .error e ∧ r' = .error e) ∨
    ∃ row s s', r = .ok (row, s) ∧ r' = .ok (row, s') ∧ AgreeOn b s s'

theorem EndAlike.inSavepoint {r r' : Except String (Option CheckResultRow × Statistics)}
    (hr : EndAlike b r r') (h : AgreeOn b statistics statistics') :
    (inSavepoint statistics r).1 = (inSavepoint statistics' r').1 ∧
      AgreeOn b (inSavepoint statistics r).2 (inSavepoint statistics' r').2 := by
  rcases hr with ⟨e, rfl, rfl⟩ | ⟨row, s, s', rfl, rfl, hagree⟩
  · exact ⟨rfl, h⟩
  · exact ⟨rfl, hagree⟩

theorem endAlike_save (h : AgreeOn b statistics statistics')
    (document : Except String (Option CheckResultDocument)) :
    EndAlike b (do return ((← document).map b.row, statistics))
      (do return ((← document).map b.row, statistics')) := by
  cases document with
  | error e => exact .inl ⟨e, rfl, rfl⟩
  | ok document => exact .inr ⟨document.map b.row, statistics, statistics', rfl, rfl, h⟩

theorem evaluateMetric_congr (h : AgreeOn b statistics statistics') :
    EndAlike b (evaluateMetric validateRegexPattern run data metricName b statistics)
      (evaluateMetric validateRegexPattern run data metricName b statistics') := by
  simp only [evaluateMetric, metricStatistics_congr h]
  generalize aggregateMetricsForBenchmark _ _ = aggregation
  cases aggregation with
  | error e => exact .inl ⟨e, rfl, rfl⟩
  | ok aggregation =>
    split_ifs
    · rw [createArtificialMetricStatistic, createArtificialMetricStatistic]
      cases hid : b.applicationDashboardId with
      | none => exact .inl ⟨_, rfl, rfl⟩
      | some id =>
        refine endAlike_save (fun id' panelId hid' hpanel => ?_) _
        simp only [h id' panelId hid' hpanel]
    · exact endAlike_save h _

theorem evaluateTransactions_congr (h : AgreeOn b statistics statistics') :
    EndAlike b (evaluateTransactions run data b statistics)
      (evaluateTransactions run data b statistics') := by
  rw [evaluateTransactions, evaluateTransactions]
  cases data.transactionResult b with
  | error e => exact .inl ⟨e, rfl, rfl⟩
  | ok document =>
    cases (nonempty run.organizationId).isSome with
    | true => exact .inr ⟨some (b.row document), statistics, statistics', rfl, rfl, h⟩
    | false => exact .inl ⟨_, rfl, rfl⟩

/-- A benchmark leaves the same row if the statistics agree on its panel, and they
    agree there after it. -/
theorem processBenchmark_congr (h : AgreeOn b statistics statistics') :
    (processBenchmark validateRegexPattern run data metricName b statistics).1 =
        (processBenchmark validateRegexPattern run data metricName b statistics').1 ∧
      AgreeOn b (processBenchmark validateRegexPattern run data metricName b statistics).2
        (processBenchmark validateRegexPattern run data metricName b statistics').2 := by
  rw [processBenchmark, processBenchmark]
  cases b.benchmarkType with
  | metric => exact (evaluateMetric_congr h).inSavepoint h
  | apdex | aggregated => exact (evaluateTransactions_congr h).inSavepoint h

/-- A state of the statistics differs from another one on the panel of a benchmark at
    most. -/
def DiffersOnPanel (b : Benchmark) (statistics statistics' : Statistics) : Prop :=
  ∀ id panelId, ¬(b.applicationDashboardId = some id ∧ b.panelId = some panelId) →
    statistics' id panelId = statistics id panelId

/-- The evaluation of a benchmark that goes through saves its row, and writes to its
    panel at most. -/
def Saves (b : Benchmark) (statistics : Statistics)
    (r : Except String (Option CheckResultRow × Statistics)) : Prop :=
  ∀ result, r = .ok result →
    (∃ document, result.1 = Option.map b.row document) ∧ DiffersOnPanel b statistics result.2

theorem Saves.inSavepoint {r : Except String (Option CheckResultRow × Statistics)}
    (h : Saves b statistics r) :
    (∃ document, (inSavepoint statistics r).1 = Option.map b.row document) ∧
      DiffersOnPanel b statistics (inSavepoint statistics r).2 := by
  cases r with
  | error e => exact ⟨⟨none, rfl⟩, fun _ _ _ => rfl⟩
  | ok result => exact h result rfl

theorem saves_save (h : DiffersOnPanel b statistics statistics')
    (document : Except String (Option CheckResultDocument)) :
    Saves b statistics (do return ((← document).map b.row, statistics')) := by
  intro result hresult
  cases document with
  | error e => cases hresult
  | ok document =>
    cases hresult
    exact ⟨⟨document, rfl⟩, h⟩

theorem evaluateMetric_saves :
    Saves b statistics
      (evaluateMetric validateRegexPattern run data metricName b statistics) := by
  have hsame : DiffersOnPanel b statistics statistics := fun _ _ _ => rfl
  simp only [evaluateMetric]
  generalize aggregateMetricsForBenchmark _ _ = aggregation
  cases aggregation with
  | error e => exact fun result hresult => by cases hresult
  | ok aggregation =>
    split_ifs
    · rw [createArtificialMetricStatistic]
      cases hid : b.applicationDashboardId with
      | none => exact fun result hresult => by cases hresult
      | some id =>
        refine saves_save (fun id' panelId hpanel => if_neg fun hkey => hpanel ?_) _
        exact ⟨hid.trans (congrArg some hkey.1.symm), hkey.2⟩
    · exact saves_save hsame _

theorem evaluateTransactions_saves :
    Saves b statistics (evaluateTransactions run data b statistics) := by
  intro result hresult
  rw [evaluateTransactions] at hresult
  cases htransactions : data.transactionResult b with
  | error e =>
    rw [htransactions] at hresult
    cases hresult
  | ok document =>
    rw [htransactions] at hresult
    cases horganization : (nonempty run.organizationId).isSome with
    | false =>
      rw [horganization] at hresult
      cases hresult
    | true =>
      rw [horganization] at hresult
      cases hresult
      exact ⟨⟨some document, rfl⟩, fun _ _ _ => rfl⟩

variable (validateRegexPattern run data metricName b statistics) in
/-- What a benchmark saves is its row, and it writes to its panel at most. -/
theorem processBenchmark_saves :
    (∃ document, (processBenchmark validateRegexPattern run data metricName b statistics).1 =
        Option.map b.row document) ∧
      DiffersOnPanel b statistics
        (processBenchmark validateRegexPattern run data metricName b statistics).2 := by
  rw [processBenchmark]
  cases b.benchmarkType with
  | metric => exact evaluateMetric_saves.inSavepoint
  | apdex | aggregated => exact evaluateTransactions_saves.inSavepoint

theorem createCheckResult_valid (validateRegexPattern : String → Option (String → Bool))
    {organizationId : Option String} {benchmark : MetricBenchmark}
    (hvalid : benchmark.hasValidRequirement = true)
    (horganization : (nonempty organizationId).isSome = true) (aggregation : AggregationResult) :
    ∃ document : CheckResultDocument,
      createCheckResult validateRegexPattern organizationId benchmark aggregation =
        .ok (some document) ∧
      document.targets = aggregation.targets.map (judgeTarget validateRegexPattern benchmark) := by
  simp only [createCheckResult, hvalid, if_true, if_neg (nonempty_isSome_iff.1 horganization)]
  exact ⟨_, rfl, rfl⟩

theorem createCheckResult_invalid (validateRegexPattern : String → Option (String → Bool))
    {organizationId : Option String} {benchmark : MetricBenchmark}
    (hvalid : benchmark.hasValidRequirement = true)
    (horganization : ¬(nonempty organizationId).isSome = true) (aggregation : AggregationResult) :
    ∃ e, createCheckResult validateRegexPattern organizationId benchmark aggregation =
      .error e := by
  rw [nonempty_isSome_iff, not_not] at horganization
  simp only [createCheckResult, hvalid, if_true, if_pos horganization]
  exact ⟨_, rfl⟩

theorem aggregateMetricsForBenchmark_panel {benchmark : MetricBenchmark} {panelId : ℤ}
    (hpanel : benchmark.panelId = some panelId) (hzero : panelId ≠ 0) (panel : PanelStatistics) :
    aggregateMetricsForBenchmark benchmark panel =
      .ok (aggregateStatistics benchmark (readStatistics benchmark panelId panel)) := by
  rw [aggregateMetricsForBenchmark, hpanel]
  split
  · contradiction
  · rename_i hsome
    exact absurd (Option.some_inj.1 hsome) hzero
  · rename_i hsome
    rw [Option.some_inj.1 hsome]

theorem aggregateMetricsForBenchmark_noPanel {benchmark : MetricBenchmark}
    (h : benchmark.panelId.getD 0 = 0) (panel : PanelStatistics) :
    ∃ e, aggregateMetricsForBenchmark benchmark panel = .error e := by
  rw [aggregateMetricsForBenchmark]
  cases hpanel : benchmark.panelId with
  | none => exact ⟨_, rfl⟩
  | some panelId =>
    rw [hpanel, Option.getD_some] at h
    rw [h]
    exact ⟨_, rfl⟩

variable (validateRegexPattern data metricName statistics) in
/-- A metric benchmark that may leave a row does, whatever the data: it is judged on
    the rows that its query finds. -/
theorem evaluateMetric_mayLeave {panelId : ℤ} (hvalid : b.hasValidRequirement = true)
    (horganization : (nonempty run.organizationId).isSome = true)
    (hpanel : b.panelId = some panelId) (hzero : panelId ≠ 0)
    (hdashboard : b.applicationDashboardId.isSome = true ∨ b.validateWithDefaultIfNoData = false) :
    ∃ (document : CheckResultDocument) (s : Statistics),
      evaluateMetric validateRegexPattern run data metricName b statistics =
        .ok (some (b.row document), s) ∧
      createCheckResult validateRegexPattern run.organizationId b.withColumnMatchPattern
        (aggregateStatistics b.withColumnMatchPattern
          (readStatistics b.withColumnMatchPattern panelId
            ⟨metricStatistics run data metricName b statistics, data.pooledErrorRates b⟩)) =
        .ok (some document) ∧
      (¬(metricStatistics run data metricName b statistics = [] ∧
        b.validateWithDefaultIfNoData = true) → s = statistics) := by
  have haggregation := aggregateMetricsForBenchmark_panel
    (withColumnMatchPattern_panelId.trans hpanel) hzero
    ⟨metricStatistics run data metricName b statistics, data.pooledErrorRates b⟩
  obtain ⟨document, hdocument, -⟩ := createCheckResult_valid validateRegexPattern
    (withColumnMatchPattern_hasValidRequirement.trans hvalid) horganization
    (aggregateStatistics b.withColumnMatchPattern
      (readStatistics b.withColumnMatchPattern panelId
        ⟨metricStatistics run data metricName b statistics, data.pooledErrorRates b⟩))
  have hsave : ∀ s : Statistics, (do
      return ((← createCheckResult validateRegexPattern run.organizationId
        b.withColumnMatchPattern (aggregateStatistics b.withColumnMatchPattern
          (readStatistics b.withColumnMatchPattern panelId
            ⟨metricStatistics run data metricName b statistics, data.pooledErrorRates b⟩))).map
              b.row, s)) = (.ok (some (b.row document), s) : Except String _) := by
    intro s
    rw [hdocument]
    rfl
  refine ⟨document, ?_⟩
  rw [evaluateMetric]
  dsimp only
  rw [haggregation, ok_bind]
  by_cases hempty : metricStatistics run data metricName b statistics = [] ∧
      b.validateWithDefaultIfNoData = true
  · rw [if_pos hempty, createArtificialMetricStatistic]
    cases hid : b.applicationDashboardId with
    | none =>
      rw [hid, hempty.2] at hdashboard
      simp at hdashboard
    | some id => exact ⟨_, hsave _, hdocument, fun hne => absurd hempty hne⟩
  · rw [if_neg hempty]
    exact ⟨statistics, hsave statistics, hdocument, fun _ => rfl⟩

variable (validateRegexPattern data metricName statistics) in
/-- A metric benchmark that leaves no row fails, whatever the data. -/
theorem evaluateMetric_not_mayLeave (hvalid : b.hasValidRequirement = true)
    (h : ¬((nonempty run.organizationId).isSome = true ∧ b.LeavesMetric)) :
    ∃ e, evaluateMetric validateRegexPattern run data metricName b statistics = .error e := by
  rw [evaluateMetric]
  dsimp only
  by_cases hpanel : b.panelId.getD 0 = 0
  · obtain ⟨e, he⟩ := aggregateMetricsForBenchmark_noPanel
      ((congrArg (Option.getD · 0) withColumnMatchPattern_panelId).trans hpanel)
      ⟨metricStatistics run data metricName b statistics, data.pooledErrorRates b⟩
    exact ⟨e, by rw [he, error_bind]⟩
  · obtain ⟨panelId, hsome⟩ : ∃ panelId, b.panelId = some panelId := by
      cases hsome : b.panelId with
      | none => exact absurd (by rw [hsome]; rfl) hpanel
      | some panelId => exact ⟨panelId, rfl⟩
    have hzero : panelId ≠ 0 := by rwa [hsome, Option.getD_some] at hpanel
    rw [aggregateMetricsForBenchmark_panel (withColumnMatchPattern_panelId.trans hsome) hzero,
      ok_bind]
    by_cases hdashboard : b.applicationDashboardId = none ∧ b.validateWithDefaultIfNoData = true
    · rw [if_pos ⟨metricStatistics_none hdashboard.1, hdashboard.2⟩,
        createArtificialMetricStatistic, hdashboard.1]
      exact ⟨_, rfl⟩
    · have horganization : ¬(nonempty run.organizationId).isSome = true := by
        refine fun horganization => h ⟨horganization, hpanel, ?_⟩
        cases hid : b.applicationDashboardId with
        | none => exact .inr (Bool.eq_false_iff.2 fun hdefault => hdashboard ⟨hid, hdefault⟩)
        | some id => exact .inl rfl
      obtain ⟨e, he⟩ := createCheckResult_invalid validateRegexPattern
        (withColumnMatchPattern_hasValidRequirement.trans hvalid) horganization
        (aggregateStatistics b.withColumnMatchPattern
          (readStatistics b.withColumnMatchPattern panelId
            ⟨metricStatistics run data metricName b statistics, data.pooledErrorRates b⟩))
      rw [he]
      split_ifs
      · cases createArtificialMetricStatistic b statistics with
        | error e' => exact ⟨e', rfl⟩
        | ok s => exact ⟨e, rfl⟩
      · exact ⟨e, rfl⟩

theorem leaves_metric (h : b.benchmarkType = .metric) :
    b.leaves run data = decide ((nonempty run.organizationId).isSome = true ∧ b.LeavesMetric) := by
  simp [Benchmark.leaves, Benchmark.MayLeave, h]

theorem leaves_transactions (h : b.benchmarkType ≠ .metric) :
    b.leaves run data =
      ((nonempty run.organizationId).isSome && (data.transactionResult b).isOk) := by
  simp [Benchmark.leaves, Benchmark.MayLeave, h]

/-- Whether a benchmark leaves a row does not depend on the statistics. -/
theorem processBenchmark_isSome
    (hvalid : b.benchmarkType = .metric → b.hasValidRequirement = true) :
    (processBenchmark validateRegexPattern run data metricName b statistics).1.isSome =
      b.leaves run data := by
  have htransactions : b.benchmarkType ≠ .metric →
      (inSavepoint statistics (evaluateTransactions run data b statistics)).1.isSome =
        b.leaves run data := by
    intro hkind
    rw [evaluateTransactions, leaves_transactions hkind]
    cases data.transactionResult b with
    | error e => exact (Bool.and_false _).symm
    | ok document => cases (nonempty run.organizationId).isSome <;> rfl
  rw [processBenchmark]
  cases hkind : b.benchmarkType with
  | apdex => exact htransactions (by rw [hkind]; decide)
  | aggregated => exact htransactions (by rw [hkind]; decide)
  | metric =>
    rw [leaves_metric hkind]
    by_cases hleaves : (nonempty run.organizationId).isSome = true ∧ b.LeavesMetric
    · obtain ⟨panelId, hsome, hzero⟩ := hleaves.2.exists_panelId
      obtain ⟨document, s, heval, -⟩ := evaluateMetric_mayLeave validateRegexPattern data
        metricName statistics (hvalid hkind) hleaves.1 hsome hzero hleaves.2.2
      rw [decide_eq_true hleaves]
      dsimp only
      rw [heval]
      rfl
    · obtain ⟨e, he⟩ := evaluateMetric_not_mayLeave validateRegexPattern data metricName
        statistics (hvalid hkind) hleaves
      rw [decide_eq_false hleaves]
      dsimp only
      rw [he]
      rfl

end Leaves

/-! ## What some benchmarks leave -/

section Rows

variable {validateRegexPattern : String → Option (String → Bool)} {run : CheckedTestRun}
  {data : EvaluationData} {metricName metricName' : Option String} {bs : List Benchmark}
  {statistics statistics' : Statistics}

theorem evaluateBenchmarks_cons {b : Benchmark} :
    evaluateBenchmarks validateRegexPattern run data metricName (b :: bs) statistics =
      (processBenchmark validateRegexPattern run data metricName b statistics).1.toList ++
        evaluateBenchmarks validateRegexPattern run data metricName bs
          (processBenchmark validateRegexPattern run data metricName b statistics).2 := rfl

/-- The rows of some benchmarks are theirs, one after the other. -/
theorem exists_of_mem_evaluateBenchmarks
    (hvalid : ∀ b ∈ bs, b.benchmarkType = .metric → b.hasValidRequirement = true)
    {row : CheckResultRow}
    (h : row ∈ evaluateBenchmarks validateRegexPattern run data metricName bs statistics) :
    ∃ b ∈ bs, ∃ statistics,
      (processBenchmark validateRegexPattern run data metricName b statistics).1 = some row ∧
        b.MayLeave run ∧ ∃ document, row = b.row document := by
  induction bs generalizing statistics with
  | nil => cases h
  | cons b bs ih =>
    rw [List.forall_mem_cons] at hvalid
    rw [evaluateBenchmarks_cons, List.mem_append] at h
    rcases h with h | h
    · have hrow : (processBenchmark validateRegexPattern run data metricName b statistics).1 =
          some row := Option.mem_toList.1 h
      have hleaves : b.leaves run data = true := by
        rw [← processBenchmark_isSome hvalid.1, hrow]
        rfl
      obtain ⟨⟨document, hdocument⟩, -⟩ := processBenchmark_saves validateRegexPattern run data
        metricName b statistics
      rw [hrow, eq_comm, Option.map_eq_some_iff] at hdocument
      obtain ⟨document, -, rfl⟩ := hdocument
      exact ⟨b, List.mem_cons_self, statistics, hrow, (of_decide_eq_true hleaves).1, document, rfl⟩
    · obtain ⟨b', hb', hrow⟩ := ih hvalid.2 h
      exact ⟨b', List.mem_cons_of_mem b hb', hrow⟩

/-- Whatever the statistics, the same benchmarks leave a row, and each leaves one. -/
theorem map_benchmarkId_evaluateBenchmarks
    (hvalid : ∀ b ∈ bs, b.benchmarkType = .metric → b.hasValidRequirement = true) :
    (evaluateBenchmarks validateRegexPattern run data metricName bs statistics).map
        CheckResultRow.benchmarkId =
      (bs.filter fun b => b.leaves run data).map Benchmark.id := by
  induction bs generalizing statistics with
  | nil => rfl
  | cons b bs ih =>
    rw [List.forall_mem_cons] at hvalid
    have hsome : (processBenchmark validateRegexPattern run data metricName b
        statistics).1.isSome = b.leaves run data := processBenchmark_isSome hvalid.1
    obtain ⟨⟨document, hdocument⟩, -⟩ := processBenchmark_saves validateRegexPattern run data
      metricName b statistics
    rw [hdocument] at hsome
    rw [evaluateBenchmarks_cons, List.map_append, ih hvalid.2, hdocument]
    cases document with
    | none =>
      rw [List.filter_cons_of_neg (by rw [← hsome]; exact Bool.false_ne_true)]
      rfl
    | some document =>
      rw [List.filter_cons_of_pos hsome.symm]
      rfl

/-- The benchmarks of some panels leave what they leave among all benchmarks. -/
theorem evaluateBenchmarks_filter {onPanel : Option String → Option ℤ → Bool}
    {kept : CheckResultRow → Bool}
    (hkept : ∀ b ∈ bs, ∀ document,
      kept (b.row document) = onPanel b.applicationDashboardId b.panelId)
    (hagree : ∀ b ∈ bs, onPanel b.applicationDashboardId b.panelId = true →
      AgreeOn b statistics statistics') :
    evaluateBenchmarks validateRegexPattern run data metricName
        (bs.filter fun b => onPanel b.applicationDashboardId b.panelId) statistics' =
      (evaluateBenchmarks validateRegexPattern run data metricName bs statistics).filter kept := by
  induction bs generalizing statistics statistics' with
  | nil => rfl
  | cons b bs ih =>
    rw [List.forall_mem_cons] at hkept hagree
    obtain ⟨⟨document, hdocument⟩, hpanel⟩ := processBenchmark_saves validateRegexPattern run data
      metricName b statistics
    rw [evaluateBenchmarks_cons, List.filter_append]
    cases hon : onPanel b.applicationDashboardId b.panelId with
    | true =>
      have hcongr : (processBenchmark validateRegexPattern run data metricName b statistics).1 =
          (processBenchmark validateRegexPattern run data metricName b statistics').1 ∧ _ :=
        processBenchmark_congr (hagree.1 hon)
      obtain ⟨hsame, hafter⟩ := hcongr
      obtain ⟨-, hpanel'⟩ := processBenchmark_saves validateRegexPattern run data metricName b
        statistics'
      rw [List.filter_cons_of_pos (by simpa using hon), evaluateBenchmarks_cons, ← hsame,
        ih hkept.2 (fun b' hb' hon' id panelId hid hpanelId => ?_)]
      · congr 1
        rw [hdocument]
        cases document with
        | none => rfl
        | some document =>
          rw [Option.map_some, Option.toList_some,
            List.filter_cons_of_pos ((hkept.1 document).trans hon), List.filter_nil]
      · by_cases hkey : b.applicationDashboardId = some id ∧ b.panelId = some panelId
        · exact hafter id panelId hkey.1 hkey.2
        · rw [hpanel id panelId hkey, hpanel' id panelId hkey]
          exact hagree.2 b' hb' hon' id panelId hid hpanelId
    | false =>
      rw [List.filter_cons_of_neg (by simpa using hon),
        ih hkept.2 (fun b' hb' hon' id panelId hid hpanelId => ?_)]
      · rw [hdocument]
        cases document with
        | none => rfl
        | some document =>
          have hdropped : ¬kept (b.row document) = true := by
            rw [hkept.1 document, hon]
            exact Bool.false_ne_true
          rw [Option.map_some, Option.toList_some, List.filter_cons_of_neg hdropped,
            List.filter_nil, List.nil_append]
      · rw [hpanel id panelId ?_]
        · exact hagree.2 b' hb' hon' id panelId hid hpanelId
        · rintro ⟨hid', hpanelId'⟩
          rw [hid, hpanelId, ← hid', ← hpanelId', hon] at hon'
          cases hon'

/-- The series that are read have no say if they have none at each benchmark. -/
theorem evaluateBenchmarks_congr (h : ∀ b ∈ bs, ∀ statistics,
      processBenchmark validateRegexPattern run data metricName b statistics =
        processBenchmark validateRegexPattern run data metricName' b statistics) :
    evaluateBenchmarks validateRegexPattern run data metricName bs statistics =
      evaluateBenchmarks validateRegexPattern run data metricName' bs statistics := by
  induction bs generalizing statistics with
  | nil => rfl
  | cons b bs ih =>
    rw [List.forall_mem_cons] at h
    rw [evaluateBenchmarks_cons, evaluateBenchmarks_cons, h.1, ih h.2]

end Rows

end Reevaluation

end Perfana
