import Mathlib.Data.List.ReduceOption
import Mathlib.Logic.Function.Basic

/-!
# Bundles of a system under test

A system under test is carried from one environment to another in a bundle, a file of lines of
JSON: a manifest, and then the rows of one table after another, each table announced by a line of
its own. The tables that are carried, in the order in which they depend on each other, and how
their rows are found, are listed in `SUT_RESOURCES`.
-/

namespace Perfana.SutTransfer

/-! ## JSON -/

/-- A value, as `JSON.parse` returns it. -/
inductive Json where
  | null
  | bool (b : Bool)
  /-- A number, in the digits in which JavaScript writes it. -/
  | num (digits : String)
  | str (s : String)
  | arr (items : List Json)
  /-- An object, with its properties. -/
  | obj (fields : List (String × Json))
  deriving Repr

namespace Json

/-- Reading a property: `null` also stands for one that is not there. -/
def field (v : Json) (name : String) : Json :=
  match v with
  | obj fields => (fields.lookup name).getD null
  | _ => null

/-- `v == null`. -/
def isNull : Json → Bool
  | null => true
  | _ => false

@[simp] theorem isNull_eq_true {v : Json} : v.isNull = true ↔ v = null := by
  cases v <;> simp [isNull]

/-- What a condition takes for true. -/
def truthy : Json → Bool
  | null => false
  | bool b => b
  | num digits => digits ≠ "0"
  | str s => s ≠ ""
  | arr _ => true
  | obj _ => true

/-- Whether it is an object or an array, of which one may ask whether it has a property. -/
def isObject : Json → Bool
  | arr _ => true
  | obj _ => true
  | _ => false

/-- Sets a property if it is there. -/
def setExisting (v : Json) (name : String) (x : Json) : Json :=
  match v with
  | obj fields => obj (fields.map fun f => if f.1 = name then (f.1, x) else f)
  | v => v

/-- `{ ...v, [name]: x }`, for a property that is there. -/
abbrev spreadWith (v : Json) (name : String) (x : Json) : Json := v.setExisting name x

mutual

/-- `String(v)`, or nothing if it throws: that of an object with a property that takes the place of
    its method. The items of an array are written with commas between them. -/
def toJsString : Json → Option String
  | null => some "null"
  | bool b => some (if b then "true" else "false")
  | num digits => some digits
  | str s => some s
  | arr items => (itemStrings items).map (String.intercalate ",")
  | obj fields => if (fields.lookup "toString").isSome then none else some "[object Object]"

/-- The items of an array: nothing is written for `null`. -/
def itemStrings : List Json → Option (List String)
  | [] => some []
  | v :: rest =>
    (toJsString v).bind fun s =>
      (itemStrings rest).map fun strings => (if v.isNull then "" else s) :: strings

end

end Json

/-! ## Tables -/

/-- How the rows of a table that are carried are found. -/
inductive SutFilter where
  | bySut
  | byTestRunVarchar
  | byTestRunUuid
  | byAppDashboard
  | byTestEnvironment
  | byReference
  deriving DecidableEq, Repr

/-- Whether a table is always carried. -/
inductive SutGroup where
  | core
  | optional
  | raw
  | shared
  deriving DecidableEq, Repr

/-- A table that is carried. -/
structure SutResource where
  /-- Its name. -/
  table : String
  /-- How its rows are found. -/
  filter : SutFilter
  /-- Whether it is always carried. -/
  group : SutGroup
  deriving DecidableEq, Repr

/-- The tables that are carried, those that others refer to first. -/
def SUT_RESOURCES : List SutResource := [
  ⟨"pyroscope_instances", .byReference, .shared⟩,
  ⟨"grafana_instances", .byReference, .shared⟩,
  ⟨"grafana_dashboards", .byReference, .shared⟩,
  ⟨"dynatrace_configs", .byReference, .shared⟩,
  ⟨"report_templates", .byReference, .shared⟩,
  ⟨"systems_under_test", .bySut, .core⟩,
  ⟨"metrics_sources", .bySut, .core⟩,
  ⟨"test_runs", .bySut, .core⟩,
  ⟨"application_dashboards", .bySut, .core⟩,
  ⟨"benchmarks", .bySut, .core⟩,
  ⟨"expected_config_changes", .bySut, .optional⟩,
  ⟨"events", .bySut, .optional⟩,
  ⟨"tracing_services", .bySut, .optional⟩,
  ⟨"deep_links", .bySut, .optional⟩,
  ⟨"notification_channels", .bySut, .optional⟩,
  ⟨"dynatrace_entity_mappings", .bySut, .optional⟩,
  ⟨"dynatrace_queries", .bySut, .optional⟩,
  ⟨"workload_apdex_thresholds", .bySut, .optional⟩,
  ⟨"workload_transaction_apdex_thresholds", .bySut, .optional⟩,
  ⟨"system_under_test_test_environments", .bySut, .optional⟩,
  ⟨"system_under_test_workloads", .byTestEnvironment, .optional⟩,
  ⟨"scaling_sessions", .bySut, .optional⟩,
  ⟨"sparse_metric_exclusions", .bySut, .optional⟩,
  ⟨"alert_tag_filters", .bySut, .optional⟩,
  ⟨"trends_filter_presets", .byAppDashboard, .optional⟩,
  ⟨"compare_filter_presets", .byAppDashboard, .optional⟩,
  ⟨"ds_compare_config", .bySut, .core⟩,
  ⟨"series_grouping_rules", .bySut, .core⟩,
  ⟨"provisioned_template_ds_compare_configs", .bySut, .core⟩,
  ⟨"ds_control_groups", .bySut, .core⟩,
  ⟨"ds_control_group_statistics", .byAppDashboard, .core⟩,
  ⟨"ds_metrics", .byTestRunVarchar, .core⟩,
  ⟨"test_run_configs", .byTestRunUuid, .core⟩,
  ⟨"awr_reports", .byTestRunUuid, .optional⟩,
  ⟨"generated_reports", .byTestRunUuid, .optional⟩,
  ⟨"test_run_alerts", .byTestRunUuid, .optional⟩,
  ⟨"test_run_events", .byTestRunUuid, .optional⟩,
  ⟨"graph_presets", .byTestRunVarchar, .optional⟩,
  ⟨"requests_raw", .byTestRunVarchar, .raw⟩,
  ⟨"requests_error", .byTestRunVarchar, .raw⟩,
  ⟨"transactions", .byTestRunVarchar, .raw⟩,
  ⟨"virtual_users", .byTestRunVarchar, .raw⟩,
  ⟨"ds_adapt_results", .byTestRunVarchar, .core⟩,
  ⟨"ds_adapt_conclusion", .byTestRunVarchar, .core⟩,
  ⟨"ds_adapt_tracked_results", .byTestRunVarchar, .core⟩,
  ⟨"ds_change_points", .byTestRunVarchar, .core⟩,
  ⟨"check_results", .byTestRunVarchar, .core⟩,
  ⟨"ds_metric_statistics", .byTestRunVarchar, .core⟩,
  ⟨"ds_metric_series_groups", .byTestRunVarchar, .core⟩,
  ⟨"test_run_transaction_stats", .byTestRunVarchar, .core⟩,
  ⟨"ds_metric_collection_status", .byTestRunVarchar, .core⟩,
  ⟨"ds_panels", .byTestRunVarchar, .core⟩,
  ⟨"ds_query_executions", .byTestRunUuid, .core⟩,
  ⟨"ds_tracked_differences", .byTestRunUuid, .core⟩]

/-- The tables that a bundle may write to. -/
def VALID_TABLES : List String := SUT_RESOURCES.map SutResource.table

/-- The tables with numbers for ids, which each environment counts on its own. -/
def SERIAL_ID_TABLES : List String :=
  ["ds_panels", "ds_change_points", "ds_control_groups", "ds_control_group_statistics"]

/-- The tables in which rows cannot be told from those that are there, so that the rows of a run are
    deleted before they are written. -/
def PURGE_BY_RUN_TABLES : List String :=
  ["ds_panels", "ds_change_points", "requests_raw", "requests_error", "transactions",
    "virtual_users"]

/-- The column with the run of a row. -/
def PURGE_SCOPE_COLUMN : String := "test_run_id"

/-- The number of rows that are written at once. -/
def BATCH_SIZE : ℕ := 1000

/-! ## The target -/

/-- A row of a table: its columns that are not null, in text form. -/
abbrev Stored := List (String × String)

/-- A column of a row, nothing if it is null. -/
def cell (row : Stored) (column : String) : Option String := row.lookup column

/-- The rows of each table. -/
abbrev Database := String → List Stored

/-- What the database knows of its tables. -/
structure Schema where
  columns : String → List String
  /-- What a column of a table reads from a value other than `null`, nothing if it refuses it. -/
  read : String → String → Json → Option String
  /-- What a parameter is read as that is compared with a column. -/
  param : String → String → Json → Option String
  /-- Whether two rows of a table have the same key in one of its unique indexes. -/
  clash : String → Stored → Stored → Bool
  /-- Whether a row meets the constraints of its table, as on columns that must not be null. -/
  rowOk : String → Stored → Bool
  /-- Whether the references between tables are met. -/
  admits : Database → Bool
  /-- Panels and change points have no key but their number, and samples have none at all. -/
  clash_of_purged : ∀ table ∈ PURGE_BY_RUN_TABLES, ∀ row row', clash table row row' = false
  /-- A report has a template. -/
  template_of_rowOk : ∀ row, rowOk "generated_reports" row = true →
    (cell row "template_id").isSome = true

namespace Schema

variable (s : Schema)

/-- The row that `json_populate_recordset` reads from an object, nothing if it refuses it. -/
def populate (table : String) : Json → Option Stored
  | .obj fields => ((s.columns table).mapM fun column =>
      match (fields.lookup column).getD .null with
      | .null => some none
      | v => (s.read table column v).map fun text => some (column, text)).map List.reduceOption
  | _ => none

end Schema

/-- The columns that are written: the number of a row is left to the target, which counts on. -/
def nonSerialColumns (table : String) (row : Stored) : Stored :=
  if table ∈ SERIAL_ID_TABLES then row.filter fun c => c.1 ≠ "id" else row

end Perfana.SutTransfer
