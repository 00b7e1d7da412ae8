import Mathlib.Data.Rat.Defs
import Perfana.Lib.Table

/-!
# Writing performance-test metrics

The processors of a performance test write rows of `ds_metrics` from SQL: each
gives the rows it emits, by scenario, panel and metric name, and the writer joins
them to the dashboards of the scenarios and inserts them in one statement, which
fails if two rows have the same key.

* `insertDsMetricsFromAggregate_isSome`: when the statement fails.
-/

namespace Perfana.PerformanceTest

/-- The roll-up of all scenarios. -/
def ALL_AGGREGATED_SCENARIO : String := "all aggregated"

/-- The metric on the dashboard of the roll-up. -/
def ALL_AGGREGATED_METRIC : String := "All aggregated"

/-- The first characters of a text. -/
def left (text : String) (length : ℕ) : String := String.ofList (text.toList.take length)

/-- The dashboards of scenarios, as far as they could be created. The id of a
    dashboard is a hash of the scenario. -/
structure ScenarioDashboards where
  dashboardId : String → Option String
  /-- Two scenarios have different dashboards. -/
  injective : ∀ s s' d, dashboardId s = some d → dashboardId s' = some d → s = s'

/-- The unique key of the metrics of a run. -/
structure DsMetricKey where
  applicationDashboardId : String
  panelId : ℕ
  /-- The series. -/
  metricName : String
  /-- The time, in milliseconds. -/
  time : ℤ
  deriving DecidableEq, Repr

/-- The columns of a metric that are not of its key. -/
structure DsMetric where
  /-- The number of buckets between the start of the run and the metric. -/
  timestep : ℤ
  rampUp : Bool
  value : ℚ
  deriving DecidableEq, Repr

/-- A row of the `rowsSelect` of a processor. -/
structure EmittedRow where
  scenarioName : String
  metricName : String
  panelId : ℕ
  value : Option ℚ
  bucketTime : ℤ
  /-- The number of buckets before it. -/
  timestep : ℤ
  deriving DecidableEq, Repr

/-- The time of a run that its metrics are relative to. -/
structure RunTimes where
  /-- The start, in milliseconds. -/
  startTime : ℤ
  /-- The ramp-up, in seconds. -/
  rampUpTime : Option ℚ
  deriving DecidableEq, Repr

/-- A time is in the ramp-up. -/
def RunTimes.isRampUp (times : RunTimes) (time : ℤ) : Bool :=
  times.rampUpTime.any fun rampUp => ((time - times.startTime : ℤ) : ℚ) / 1000 < rampUp

variable (times : RunTimes) (dashboards : ScenarioDashboards)

/-- The row of `ds_metrics` for an emitted row: none without a dashboard or a value. -/
def dsMetric (row : EmittedRow) : Option (DsMetricKey × DsMetric) :=
  match dashboards.dashboardId row.scenarioName, row.value with
  | some applicationDashboardId, some value =>
    some
      ({ applicationDashboardId
         panelId := row.panelId
         metricName := left row.metricName 255
         time := row.bucketTime },
       { timestep := row.timestep
         rampUp := times.isRampUp row.bucketTime
         value })
  | _, _ => none

/-- What `ON CONFLICT` leaves of a row and the one inserted: the value is updated. -/
def onConflict (old new : DsMetric) : DsMetric := { old with value := new.value }

/-- The metrics after the statement that inserts the emitted rows; none if it fails. -/
def insertDsMetricsFromAggregate (emitted : List EmittedRow) (isIncremental : Bool)
    (dsMetrics : Table DsMetricKey DsMetric) : Option (Table DsMetricKey DsMetric) :=
  let rows := emitted.filterMap (dsMetric times dashboards)
  if isIncremental then (Table.ofRows rows).map fun new => Table.upsert onConflict new dsMetrics
  else Table.ofRows (dsMetrics.rows ++ rows)

variable {times dashboards}

/-- Into a table without rows, either statement inserts the rows unless two have the
    same key. -/
theorem insertDsMetricsFromAggregate_isSome (emitted : List EmittedRow) (isIncremental : Bool) :
    (insertDsMetricsFromAggregate times dashboards emitted isIncremental Table.empty).isSome ↔
      ((emitted.filterMap (dsMetric times dashboards)).map Prod.fst).Nodup := by
  rw [← Table.ofRows_isSome]
  cases isIncremental with
  | false => rfl
  | true => exact Bool.eq_iff_iff.1 Option.isSome_map

end Perfana.PerformanceTest
