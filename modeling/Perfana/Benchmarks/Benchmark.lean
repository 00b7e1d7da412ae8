import Mathlib.Data.Rat.Init
import Perfana.Lib.UniqueIndex

/-!
# Service level objectives

A benchmark is a service level objective (SLO) of the runs of a system, an environment and a
workload: on a panel of a dashboard, on the Apdex score of a transaction or of all of them, or
on an aggregate of the performance test. Two unique indexes guard the table of the benchmarks:
one on the generic check that a benchmark was made for, and one on the panel, the series and
the statistic that an enabled benchmark evaluates.

* `BenchmarkTable.get_of_save`: a row that is saved is the only one that is different;
* `BenchmarkTable.save_error`: a save is refused if and only if another row has the generic
  check, or the target, of the row.
-/

namespace Perfana

/-- The runs that a benchmark is for. -/
structure BenchmarkScope where
  systemUnderTestId : String
  testEnvironment : String
  workload : String
deriving DecidableEq

/-- What a benchmark is about. -/
inductive BenchmarkType
  | metric
  | apdex
  | aggregated
deriving DecidableEq

/-- What an aggregated benchmark is about. -/
inductive AggregateMetric
  | transactionResponseTime
  | requestResponseTime
  | errorPercentage
deriving DecidableEq

/-- How it is aggregated. -/
inductive AggregateStat
  | avg
  | p50
  | p90
  | p95
  | p99
  | max
deriving DecidableEq

/-- A JSON object: its keys, each with the text of its value, none for a null. -/
abbrev JsonObject := List (String × Option String)

namespace JsonObject

/-- The text at a key (`->>`), null if there is none. -/
def text (j : JsonObject) (key : String) : Option String := (j.lookup key).join

/-- There is a value at a key (`?`), if only a null. -/
def hasKey (j : JsonObject) (key : String) : Bool := (j.lookup key).isSome

end JsonObject

/-- The columns of a benchmark that a copy of it has, too. -/
structure BenchmarkColumns where
  source : String
  grafanaInstance : Option String
  dashboardLabel : Option String
  dashboardId : Option ℤ
  dashboardUid : Option String
  applicationDashboardId : Option String
  metricsSourceId : Option String
  genericCheckId : Option String
  panelTitle : Option String
  configTitle : Option String
  configId : Option String
  configType : Option String
  metricUnit : Option String
  evaluateType : Option String
  requirementOperator : Option String
  requirementValue : Option ℚ
  description : Option String
  tags : List String
  configuration : JsonObject
  benchmarkType : BenchmarkType
  transactionName : Option String
  apdexThresholdMs : Option ℤ
  minApdexScore : Option ℚ
  includeFailedRequests : Bool
  excludeRampUpTime : Bool
  apdexMinSamples : Option ℤ
  aggregateMetric : Option AggregateMetric
  aggregateStat : Option AggregateStat
  averageAll : Bool
  matchPattern : Option String
  validateWithDefaultIfNoData : Bool
  validateWithDefaultIfNoDataValue : Option ℚ
  alertOnBreach : Bool
  alertChannels : List String
  metadata : JsonObject
  enabled : Bool
  valid : Bool

/-- A benchmark. -/
structure Benchmark where
  /-- The runs it is for. -/
  scope : BenchmarkScope
  /-- What a copy of it has, too. -/
  columns : BenchmarkColumns
  organizationId : String
  teamId : Option String
  createdBy : Option String
  updatedBy : Option String
  baselineTestRunId : Option String

/-! ## What a benchmark evaluates -/

/-- The pattern of the series that a benchmark is about: that of the configuration, or else
    that of the column, empty strings aside. -/
def BenchmarkColumns.seriesPattern (c : BenchmarkColumns) : String :=
  (((c.configuration.text "matchPattern").filter (· ≠ "")).or
    (c.matchPattern.filter (· ≠ ""))).getD ""

/-- The series are those that do not match it. -/
def BenchmarkColumns.invertPattern (c : BenchmarkColumns) : String :=
  (c.configuration.text "invertMatchPattern").getD "false"

/-- What the index on the targets tells enabled benchmarks by. -/
structure ActiveTarget where
  scope : BenchmarkScope
  applicationDashboardId : String
  panelId : String
  seriesPattern : String
  invertPattern : String
  averageAll : Bool
  evaluateType : String
deriving DecidableEq

/-- The key of `uq_benchmarks_active_metric_target`: a benchmark that is not enabled, is not on
    a panel, or has no panel, has none. -/
def Benchmark.activeMetricTarget (b : Benchmark) : Option ActiveTarget :=
  if b.columns.valid ∧ b.columns.enabled ∧ b.columns.benchmarkType = .metric ∧
      b.columns.configuration.hasKey "id" then do
    let applicationDashboardId ← b.columns.applicationDashboardId
    let panelId ← b.columns.configuration.text "id"
    some {
      scope := b.scope
      applicationDashboardId
      panelId
      seriesPattern := b.columns.seriesPattern
      invertPattern := b.columns.invertPattern
      averageAll := b.columns.averageAll
      evaluateType := b.columns.evaluateType.getD "" }
  else none

/-- The key of `uq_benchmarks_unique`: a benchmark that was made for no generic check, or for
    none on a dashboard, has none. -/
def Benchmark.genericCheck (b : Benchmark) : Option (BenchmarkScope × String × String) := do
  let applicationDashboardId ← b.columns.applicationDashboardId
  let genericCheckId ← b.columns.genericCheckId
  some (b.scope, applicationDashboardId, genericCheckId)

/-! ## The table -/

/-- The error of a query that the database refused, as the driver and the mapper report it. -/
structure QueryFailedError where
  code : Option String
  constraint : Option String
  /-- The code and the constraint of the error of the driver, if it is nested. -/
  driverError : Option (Option String × Option String)
deriving DecidableEq

/-- The error of a row that a unique index refused. -/
def QueryFailedError.uniqueViolation (index : String) : QueryFailedError :=
  ⟨some "23505", some index, none⟩

def duplicateTargetIndex : String := "uq_benchmarks_active_metric_target"

/-- The database refused a benchmark with the target of another one. -/
def isDuplicateSloTargetError (error : QueryFailedError) : Bool :=
  error.code.or (error.driverError.bind Prod.fst) = some "23505" ∧
    error.constraint.or (error.driverError.bind Prod.snd) = some duplicateTargetIndex

/-- The table of the benchmarks, by their ids. -/
structure BenchmarkTable where
  rows : Table String Benchmark
  /-- `uq_benchmarks_unique` -/
  uniqueGenericCheck : rows.UniqueOn Benchmark.genericCheck
  /-- `uq_benchmarks_active_metric_target` -/
  uniqueTarget : rows.UniqueOn Benchmark.activeMetricTarget

namespace BenchmarkTable

/-- The table with a row written, unless an index refuses it. -/
def save (t : BenchmarkTable) (id : String) (b : Benchmark) :
    Except QueryFailedError BenchmarkTable :=
  if hcheck : t.rows.conflicts Benchmark.genericCheck id b = false then
    if htarget : t.rows.conflicts Benchmark.activeMetricTarget id b = false then
      .ok ⟨t.rows.set id b, t.uniqueGenericCheck.set hcheck, t.uniqueTarget.set htarget⟩
    else .error (.uniqueViolation duplicateTargetIndex)
  else .error (.uniqueViolation "uq_benchmarks_unique")

/-- The table with a row updated, if there is one. -/
def update (t : BenchmarkTable) (id : String) (f : Benchmark → Benchmark) :
    Except QueryFailedError BenchmarkTable :=
  match t.rows.get id with
  | none => .ok t
  | some b => t.save id (f b)

variable {t t' : BenchmarkTable} {id : String} {b : Benchmark}

/-- A row that is saved is the only one that is different. -/
theorem get_of_save (h : t.save id b = .ok t') (id' : String) :
    t'.rows.get id' = if id' = id then some b else t.rows.get id' := by
  rw [save] at h
  split at h
  · split at h
    · cases h
      exact Table.get_set id b t.rows id'
    · cases h
  · cases h

theorem get_self_of_save (h : t.save id b = .ok t') : t'.rows.get id = some b := by
  rw [get_of_save h, if_pos rfl]

theorem get_ne_of_save (h : t.save id b = .ok t') {id' : String} (hne : id' ≠ id) :
    t'.rows.get id' = t.rows.get id' := by
  rw [get_of_save h, if_neg hne]

/-- A save is refused if and only if another row has the generic check, or the target, of the
    row; the generic check is looked at first. -/
theorem save_error {error : QueryFailedError} : t.save id b = .error error ↔
    (t.rows.conflicts Benchmark.genericCheck id b = true ∧
        error = .uniqueViolation "uq_benchmarks_unique") ∨
      (t.rows.conflicts Benchmark.genericCheck id b = false ∧
        t.rows.conflicts Benchmark.activeMetricTarget id b = true ∧
          error = .uniqueViolation duplicateTargetIndex) := by
  rw [save]
  split
  · rename_i hcheck
    split
    · rename_i htarget
      simp [hcheck, htarget]
    · rename_i htarget
      constructor
      · rintro ⟨⟩
        exact .inr ⟨hcheck, Bool.eq_true_of_not_eq_false htarget, rfl⟩
      · rintro (⟨htrue, -⟩ | ⟨-, -, rfl⟩)
        · rw [hcheck] at htrue
          cases htrue
        · rfl
  · rename_i hcheck
    constructor
    · rintro ⟨⟩
      exact .inl ⟨Bool.eq_true_of_not_eq_false hcheck, rfl⟩
    · rintro (⟨-, rfl⟩ | ⟨hfalse, -⟩)
      · rfl
      · exact absurd hfalse hcheck

theorem update_of_get (h : t.rows.get id = some b) (f : Benchmark → Benchmark) :
    t.update id f = t.save id (f b) := by
  rw [update, h]

end BenchmarkTable

end Perfana
