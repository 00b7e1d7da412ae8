import Mathlib.Data.Rat.Defs
import Perfana.Lib.Text
import Perfana.Lib.Upserts

/-!
# The writers of metrics

Two writers upsert the records of metrics that a source was asked for. That of the
Grafana pipeline cuts texts to the lengths of their columns and takes 200 records at a
time (`saveRecordsToDatabase`); that of the incremental collection keeps the last of
the records that look alike and takes as many as a statement can bind
(`upsertMetricsToDatabase`). Both should leave what the records leave that are upserted
one at a time.

* `netRow`: what rows leave where there was none;
* `saveRecordsToDatabase_isSome`, `upsertMetricsToDatabase_isSome`: when the writers
  succeed;
* `writers_agree_iff`: when both leave what each leaves one at a time, and the same.
-/

namespace Perfana

open Table

/-! ## Records -/

/-- The time of a record. -/
inductive RecordTime
  /-- A date, in milliseconds. -/
  | date (millis : ℤ)
  /-- A text that gives the time in nanoseconds. -/
  | text (nanos : ℤ)
  deriving DecidableEq, Repr

/-- The time of a record as a date has it, which drops what is finer. -/
def RecordTime.getTime : RecordTime → ℤ
  | .date millis => millis
  | .text nanos => nanos / 1000000

/-- The time of a record as the database has it, rounded to microseconds, a half to
    the even one. -/
def RecordTime.stored : RecordTime → ℤ
  | .date millis => 1000 * millis
  | .text nanos =>
    let micros := nanos / 1000
    let rest := nanos % 1000
    if rest < 500 ∨ (rest = 500 ∧ micros % 2 = 0) then micros else micros + 1

/-- A record of a metric. -/
structure FlattenedMetricRecord where
  testRunId : String
  applicationDashboardId : String
  metricsSourceId : Option String
  /-- The identifier of the dashboard at the source. -/
  dashboardUid : Option String
  panelId : ℤ
  panelTitle : String
  dashboardLabel : String
  benchmarkIds : Option (List String)
  errors : Option String
  metricName : String
  time : RecordTime
  /-- The time since the start of the run. -/
  timestep : Option ℚ
  rampUp : Bool
  value : Option ℚ
  unit : Option String
  /-- When the document was written. -/
  updatedAt : ℤ
  /-- When the record was made. -/
  createdAt : ℤ
  organizationId : Option String
  teamId : Option String
  /-- Who made the record. -/
  createdBy : Option String
  updatedBy : Option String
  deriving DecidableEq, Repr

/-- The columns of the upsert index of `ds_metrics`. -/
structure DsMetricsKey where
  testRunId : String
  applicationDashboardId : String
  panelId : ℤ
  metricName : String
  /-- The time, in microseconds. -/
  time : ℤ
  deriving DecidableEq, Repr

/-- The columns of `ds_metrics` that a conflict updates to those of the new row. -/
structure DsMetricsData where
  /-- The identifier of the dashboard at the source. -/
  dashboardUid : String
  panelTitle : String
  dashboardLabel : String
  benchmarkIds : Option (List String)
  errors : Option String
  /-- The time since the start of the run. -/
  timestep : Option ℚ
  rampUp : Bool
  value : Option ℚ
  unit : Option String
  organizationId : Option String
  teamId : Option String
  updatedBy : Option String
  deriving DecidableEq, Repr

/-- A row of `ds_metrics`, but for its key. -/
structure DsMetricsRow where
  /-- What a conflict updates. -/
  data : DsMetricsData
  /-- The source, which is kept unless another one is known. -/
  metricsSourceId : Option String
  /-- Who inserted it, which is kept. -/
  createdBy : Option String
  /-- When it was inserted, which is kept. -/
  createdAt : ℤ
  /-- When it was updated. -/
  updatedAt : ℤ
  deriving DecidableEq, Repr

/-- The rows of `ds_metrics`. -/
abbrev DsMetrics := Table DsMetricsKey DsMetricsRow

/-- The row of a record with the times of writing, if its texts can be stored. A row has
    to have the identifier of the dashboard. -/
def FlattenedMetricRecord.row (r : FlattenedMetricRecord) (createdAt updatedAt : ℤ) :
    Option (DsMetricsKey × DsMetricsRow) := do
  let testRunId ← Text.varchar 255 r.testRunId
  let dashboardUid ← r.dashboardUid.bind (Text.varchar 255)
  let metricName ← Text.varchar 255 r.metricName
  let panelTitle ← Text.varchar 500 r.panelTitle
  let dashboardLabel ← Text.varchar 255 r.dashboardLabel
  let unit ← r.unit.mapM (Text.varchar 50)
  let createdBy ← r.createdBy.mapM (Text.varchar 255)
  let updatedBy ← r.updatedBy.mapM (Text.varchar 255)
  return (
    { testRunId
      applicationDashboardId := r.applicationDashboardId
      panelId := r.panelId
      metricName
      time := r.time.stored },
    { data :=
        { dashboardUid, panelTitle, dashboardLabel
          benchmarkIds := r.benchmarkIds
          errors := r.errors
          timestep := r.timestep
          rampUp := r.rampUp
          value := r.value
          unit
          organizationId := r.organizationId
          teamId := r.teamId
          updatedBy }
      metricsSourceId := r.metricsSourceId
      createdBy, createdAt, updatedAt })

/-! ## The writer of the Grafana pipeline -/

/-- The number of records of a statement. -/
def DB_INSERT_BATCH_SIZE : ℕ := 200

/-- The texts of a record, cut to the lengths of their columns. -/
def FlattenedMetricRecord.truncated (r : FlattenedMetricRecord) : FlattenedMetricRecord :=
  { r with
    metricName := Text.substring 255 r.metricName
    dashboardUid := r.dashboardUid.map (Text.substring 255)
    dashboardLabel := Text.substring 255 r.dashboardLabel
    panelTitle := Text.substring 500 r.panelTitle
    unit := r.unit.map (Text.substring 50) }

/-- The row that the writer sends for a record. -/
def savedRow (r : FlattenedMetricRecord) : Option (DsMetricsKey × DsMetricsRow) :=
  r.truncated.row r.createdAt r.updatedAt

/-- What a conflict leaves of a row and the one that the writer sends. -/
def insertConflict (old new : DsMetricsRow) : DsMetricsRow where
  data := new.data
  metricsSourceId := new.metricsSourceId.or old.metricsSourceId
  createdBy := old.createdBy
  createdAt := old.createdAt
  updatedAt := new.updatedAt

/-- The table after a batch, none if the statement fails. -/
def insertBatch (batch : List FlattenedMetricRecord) (dsMetrics : DsMetrics) : Option DsMetrics :=
  upsertAll savedRow insertConflict batch dsMetrics

/-- The table after the transaction that inserts the batches in turn, none if it fails. -/
def saveRecordsToDatabase (records : List FlattenedMetricRecord) (dsMetrics : DsMetrics) :
    Option DsMetrics :=
  (batches DB_INSERT_BATCH_SIZE records).foldlM (fun t batch => insertBatch batch t) dsMetrics

/-! ## The writer of the incremental collection -/

/-- The number of parameters that a statement can bind. -/
def PG_MAX_BIND_PARAMS : ℕ := 65535

/-- The number of rows of a statement, none if there is no such number. -/
def maxRowsPerStatement (columnCount preferredRows : ℕ) : Option ℕ :=
  if columnCount < 1 then none
  else if preferredRows < 1 then none
  else
    let ceiling := PG_MAX_BIND_PARAMS / columnCount
    if ceiling < 1 then none else some (min preferredRows ceiling)

/-- The columns that are written. -/
def UPSERT_COLUMNS : List String :=
  ["test_run_id", "application_dashboard_id", "metrics_source_id", "dashboard_uid", "panel_id",
    "panel_title", "dashboard_label", "benchmark_ids", "errors", "metric_name", "time", "timestep",
    "ramp_up", "value", "unit", "organization_id", "team_id", "created_by", "updated_by"]

/-- What records that look alike have in common. The text that the code makes of it tells
    the parts apart, the records being those of one run. -/
def FlattenedMetricRecord.lookalike (r : FlattenedMetricRecord) : DsMetricsKey where
  testRunId := r.testRunId
  applicationDashboardId := r.applicationDashboardId
  panelId := r.panelId
  metricName := r.metricName
  time := r.time.getTime

/-- The last of the records that look alike, at the place of the first. -/
def lastLookalikes (records : List FlattenedMetricRecord) : List FlattenedMetricRecord :=
  let byKey := lastOfKey FlattenedMetricRecord.lookalike records
  byKey.rows.map Prod.snd

/-- The row that the writer sends for a record, at some time. The times of writing are
    left to the database. -/
def upsertedRow (now : ℤ) (r : FlattenedMetricRecord) : Option (DsMetricsKey × DsMetricsRow) :=
  r.row now now

/-- What a conflict leaves of a row and the one that the writer sends, at some time. -/
def upsertConflict (now : ℤ) (old new : DsMetricsRow) : DsMetricsRow where
  data := new.data
  metricsSourceId := new.metricsSourceId.or old.metricsSourceId
  createdBy := old.createdBy
  createdAt := old.createdAt
  updatedAt := now

/-- The table after a batch, none if the statement fails. -/
def upsertBatch (now : ℤ) (batch : List FlattenedMetricRecord) (dsMetrics : DsMetrics) :
    Option DsMetrics :=
  upsertAll (upsertedRow now) (upsertConflict now) batch dsMetrics

/-- The table after the transaction that upserts the batches in turn, none if it fails. -/
def upsertMetricsToDatabase (now : ℤ) (records : List FlattenedMetricRecord)
    (dsMetrics : DsMetrics) : Option DsMetrics := do
  let unique := lastLookalikes records
  let batchSize ← maxRowsPerStatement UPSERT_COLUMNS.length 1000
  (batches batchSize unique).foldlM (fun t batch => upsertBatch now batch t) dsMetrics

/-! ## When the writers succeed -/

section Writers

variable {now : ℤ} {records : List FlattenedMetricRecord} {old : DsMetrics}

/-- What it takes to store a record does not depend on the times of writing. -/
theorem row_isSome {r : FlattenedMetricRecord} {createdAt updatedAt : ℤ} :
    (r.row createdAt updatedAt).isSome ↔
      (Text.varchar 255 r.testRunId).isSome ∧
        (∃ uid ∈ r.dashboardUid, (Text.varchar 255 uid).isSome) ∧
        (Text.varchar 255 r.metricName).isSome ∧ (Text.varchar 500 r.panelTitle).isSome ∧
        (Text.varchar 255 r.dashboardLabel).isSome ∧
        (∀ unit ∈ r.unit, (Text.varchar 50 unit).isSome) ∧
        (∀ name ∈ r.createdBy, (Text.varchar 255 name).isSome) ∧
        ∀ name ∈ r.updatedBy, (Text.varchar 255 name).isSome := by
  have hmapM : ∀ (limit : ℕ) (text : Option String),
      (text.mapM (Text.varchar limit)).isSome ↔ ∀ s ∈ text, (Text.varchar limit s).isSome := by
    intro limit text
    cases text with
    | none => simp
    | some s => cases h : Text.varchar limit s <;> simp [h]
  have hbind : ∀ {α β : Type} (x : Option α) {f : α → Option β} {p : Prop},
      (∀ a, (f a).isSome ↔ p) → ((x.bind f).isSome ↔ x.isSome ∧ p) := by
    intro α β x f p h
    cases x with
    | none => simp
    | some a => simpa using h a
  have hsome : ∀ (x : Option String) {f : String → Option String},
      (x.bind f).isSome ↔ ∃ a ∈ x, (f a).isSome := by
    intro x f
    cases x <;> simp
  rw [← hmapM, ← hmapM, ← hmapM, ← hsome, FlattenedMetricRecord.row]
  refine hbind _ fun _ => hbind _ fun _ => hbind _ fun _ => hbind _ fun _ => hbind _ fun _ =>
    hbind _ fun _ => hbind _ fun _ => ?_
  rw [Option.bind_eq_bind, Option.isSome_bind]
  cases r.updatedBy.mapM (Text.varchar 255) <;> simp

/-- A record whose texts can be stored has a row once they are cut, too. -/
theorem isSome_savedRow {r : FlattenedMetricRecord} (h : (upsertedRow now r).isSome) :
    (savedRow r).isSome := by
  have hcut : ∀ {limit : ℕ} {text : String}, (Text.varchar limit text).isSome →
      (Text.varchar limit (Text.substring limit text)).isSome :=
    fun h => Option.isSome_of_eq_some (Text.varchar_substring h)
  rw [upsertedRow, row_isSome] at h
  obtain ⟨hrun, ⟨uid, huid, hstored⟩, hname, htitle, hlabel, hunit, hby⟩ := h
  rw [savedRow, row_isSome]
  refine ⟨hrun, ⟨Text.substring 255 uid, ?_, hcut hstored⟩, hcut hname, hcut htitle,
    hcut hlabel, ?_, hby⟩
  · exact Option.mem_map_of_mem _ huid
  · intro unit hmem
    obtain ⟨text, htext, rfl⟩ := Option.mem_map.1 hmem
    exact hcut (hunit text htext)

/-- The last of the records that look alike are some of the records. -/
theorem mem_of_lastLookalikes {r : FlattenedMetricRecord} (h : r ∈ lastLookalikes records) :
    r ∈ records := by
  obtain ⟨row, hrow, rfl⟩ := List.mem_map.1 h
  exact mem_of_lastOfKey (mem_rows.1 hrow)

theorem lastLookalikes_singleton (r : FlattenedMetricRecord) : lastLookalikes [r] = [r] := rfl

theorem maxRowsPerStatement_columns :
    maxRowsPerStatement UPSERT_COLUMNS.length 1000 = some 1000 := by decide

theorem upsertMetricsToDatabase_eq : upsertMetricsToDatabase now records old =
    upsertBatches (upsertedRow now) (upsertConflict now) 1000 (lastLookalikes records) old := by
  rw [upsertMetricsToDatabase, maxRowsPerStatement_columns]
  rfl

/-- To save the records one at a time is to upsert each of their rows. -/
theorem saveEach_eq : records.foldlM (fun t r => saveRecordsToDatabase [r] t) old =
    upsertEach savedRow insertConflict records old := by
  have hone : ∀ t r, saveRecordsToDatabase [r] t = upsertAll savedRow insertConflict [r] t := by
    intro t r
    rw [saveRecordsToDatabase, batches_singleton (by decide)]
    exact bind_pure _
  simp only [hone]
  rfl

theorem upsertOneEach_eq : records.foldlM (fun t r => upsertMetricsToDatabase now [r] t) old =
    upsertEach (upsertedRow now) (upsertConflict now) records old := by
  have hone : ∀ t r, upsertMetricsToDatabase now [r] t =
      upsertAll (upsertedRow now) (upsertConflict now) [r] t := by
    intro t r
    rw [upsertMetricsToDatabase_eq, lastLookalikes_singleton, upsertBatches,
      batches_singleton (by decide)]
    exact bind_pure _
  simp only [hone]
  rfl

/-- The batches of the records succeed if and only if every record can be stored, and no
    batch has two of one key. -/
theorem saveRecordsToDatabase_isSome : (saveRecordsToDatabase records old).isSome ↔
    (∀ r ∈ records, (savedRow r).isSome) ∧
      ∀ batch ∈ batches DB_INSERT_BATCH_SIZE records,
        ((batch.filterMap savedRow).map Prod.fst).Nodup :=
  upsertBatches_isSome (by decide)

theorem upsertMetricsToDatabase_isSome : (upsertMetricsToDatabase now records old).isSome ↔
    (∀ r ∈ lastLookalikes records, (upsertedRow now r).isSome) ∧
      ∀ batch ∈ batches 1000 (lastLookalikes records),
        ((batch.filterMap (upsertedRow now)).map Prod.fst).Nodup := by
  rw [upsertMetricsToDatabase_eq, upsertBatches_isSome (by decide)]

/-! ## What they leave -/

/-- What rows leave where there was none: what the last one has, but for the source, which
    is the last that is known, and for what the first one has once and for all. -/
def netRow (rows : List DsMetricsRow) : Option DsMetricsRow :=
  match rows.head?, rows.getLast? with
  | some first, some last =>
    some
      { data := last.data
        metricsSourceId := rows.reverse.findSome? DsMetricsRow.metricsSourceId
        createdBy := first.createdBy
        createdAt := first.createdAt
        updatedAt := last.updatedAt }
  | _, _ => none

theorem landing_insertConflict (rows : List DsMetricsRow) :
    landing insertConflict none rows = netRow rows := by
  induction rows using List.reverseRecOn with
  | nil => rfl
  | append_singleton rows r ih =>
    rw [landing_append, ih, netRow, netRow, List.getLast?_concat, List.reverse_append]
    cases rows with
    | nil =>
      obtain ⟨_, source, _, _, _⟩ := r
      cases source <;> rfl
    | cons first rest =>
      have hlast : (first :: rest).getLast? = some ((first :: rest).getLast (by simp)) :=
        List.getLast?_eq_some_getLast _
      rw [hlast]
      cases h : r.metricsSourceId <;> simp [landing, insertConflict, h]

theorem insertConflict_assoc (o a b : DsMetricsRow) :
    insertConflict (insertConflict o a) b = insertConflict o (insertConflict a b) := by
  simp [insertConflict, Option.or_assoc]

/-- Rows that were written at one time are updated alike by both writers. -/
theorem landing_upsertConflict {rows : List DsMetricsRow} (h : ∀ r ∈ rows, r.updatedAt = now)
    (o : Option DsMetricsRow) :
    landing (upsertConflict now) o rows = landing insertConflict o rows := by
  induction rows generalizing o with
  | nil => rfl
  | cons r rows ih =>
    have hr : ∀ old, upsertConflict now old r = insertConflict old r := by
      intro old
      rw [upsertConflict, insertConflict, h r List.mem_cons_self]
    rw [landing, List.foldl_cons, ← landing, ih fun r' hr' => h r' (List.mem_cons_of_mem _ hr')]
    simp only [hr]
    rfl

/-- A row of a record has the times that it is given. -/
theorem updatedAt_of_row {r : FlattenedMetricRecord} {createdAt updatedAt : ℤ}
    {row : DsMetricsKey × DsMetricsRow} (h : r.row createdAt updatedAt = some row) :
    row.2.updatedAt = updatedAt := by
  simp only [FlattenedMetricRecord.row, Option.bind_eq_bind, Option.bind_eq_some_iff] at h
  obtain ⟨_, _, _, _, _, _, _, _, _, _, _, _, _, _, _, _, h⟩ := h
  obtain rfl := Option.some.inj h
  rfl

/-- Each writer leaves the rows of its records at a key. -/
theorem get_upsertMetricsToDatabase {t : DsMetrics}
    (h : upsertMetricsToDatabase now records old = some t) (k : DsMetricsKey) :
    t.get k = landing insertConflict (old.get k)
      (rowsAt (upsertedRow now) k (lastLookalikes records)) := by
  rw [upsertMetricsToDatabase_eq] at h
  rw [get_upsertBatches (by decide) h, landing_upsertConflict]
  intro r hr
  obtain ⟨a, _, hrow⟩ := mem_rowsAt.1 hr
  exact updatedAt_of_row hrow

/-- One record at a time, it leaves the rows of all. -/
theorem get_upsertOneEach {t : DsMetrics}
    (h : records.foldlM (fun t r => upsertMetricsToDatabase now [r] t) old = some t)
    (k : DsMetricsKey) :
    t.get k = landing insertConflict (old.get k) (rowsAt (upsertedRow now) k records) := by
  rw [upsertOneEach_eq] at h
  rw [get_upsertEach h, landing_upsertConflict]
  intro r hr
  obtain ⟨a, _, hrow⟩ := mem_rowsAt.1 hr
  exact updatedAt_of_row hrow

/-- A row without its times of writing. -/
def DsMetricsRow.untimed (r : DsMetricsRow) : DsMetricsRow := { r with createdAt := 0, updatedAt := 0 }

/-- Rows leave the same of every row but for the times of writing if and only if they do
    where there was none. -/
theorem forall_landing_untimed_iff {rows rows' : List DsMetricsRow} :
    (∀ o, (landing insertConflict o rows).map DsMetricsRow.untimed =
        (landing insertConflict o rows').map DsMetricsRow.untimed) ↔
      (netRow rows).map DsMetricsRow.untimed = (netRow rows').map DsMetricsRow.untimed := by
  constructor
  · intro h
    rw [← landing_insertConflict, ← landing_insertConflict]
    exact h none
  · intro h o
    rw [landing_eq insertConflict_assoc o rows, landing_eq insertConflict_assoc o rows',
      landing_insertConflict, landing_insertConflict]
    cases hrows : netRow rows with
    | none =>
      rw [hrows] at h
      rw [Option.map_eq_none_iff.1 h.symm]
    | some r =>
      rw [hrows, Option.map_some, eq_comm, Option.map_eq_some_iff] at h
      obtain ⟨r', hr', huntimed⟩ := h
      rw [hr']
      cases o with
      | none => exact congrArg some huntimed.symm
      | some o =>
        have hdata : r'.data = r.data := (congrArg DsMetricsRow.data huntimed :)
        have hsource : r'.metricsSourceId = r.metricsSourceId :=
          (congrArg DsMetricsRow.metricsSourceId huntimed :)
        simp [insertConflict, DsMetricsRow.untimed, hdata, hsource]

/-! ## When they agree -/

/-- On a table, both writers succeed, each leaves what it leaves one record at a time, and
    they leave the same but for the times of writing. -/
structure WritersAgree (now : ℤ) (records : List FlattenedMetricRecord) (old : DsMetrics) :
    Prop where
  /-- The first writer leaves what it leaves one record at a time. -/
  saved : ∃ t each, saveRecordsToDatabase records old = some t ∧
    records.foldlM (fun t r => saveRecordsToDatabase [r] t) old = some each ∧
    ∀ k, t.get k = each.get k
  /-- So does the second. -/
  upserted : ∃ t each, upsertMetricsToDatabase now records old = some t ∧
    records.foldlM (fun t r => upsertMetricsToDatabase now [r] t) old = some each ∧
    ∀ k, t.get k = each.get k
  /-- They leave the same. -/
  same : ∀ t t', saveRecordsToDatabase records old = some t →
    upsertMetricsToDatabase now records old = some t' →
    ∀ k, (t.get k).map DsMetricsRow.untimed = (t'.get k).map DsMetricsRow.untimed

/-- What keeps the writers from failing, and from leaving different rows. -/
structure Separable (now : ℤ) (records : List FlattenedMetricRecord) : Prop where
  /-- Every record can be stored as it is. -/
  stored : ∀ r ∈ records, (upsertedRow now r).isSome
  /-- Once cut, no two records of a batch have the same key. -/
  apart : ∀ batch ∈ batches DB_INSERT_BATCH_SIZE records,
    ((batch.filterMap savedRow).map Prod.fst).Nodup
  /-- Nor have two of those that do not look alike. -/
  unalike : ∀ batch ∈ batches 1000 (lastLookalikes records),
    ((batch.filterMap (upsertedRow now)).map Prod.fst).Nodup
  /-- The last of the records that look alike have all that is left of them. -/
  kept : ∀ k, netRow (rowsAt (upsertedRow now) k (lastLookalikes records)) =
    netRow (rowsAt (upsertedRow now) k records)
  /-- Nothing that is left is cut. -/
  uncut : ∀ k, (netRow (rowsAt savedRow k records)).map DsMetricsRow.untimed =
    (netRow (rowsAt (upsertedRow now) k records)).map DsMetricsRow.untimed

/-- One record at a time, the first writer leaves the rows of all, as it does in batches. -/
theorem get_saveRecordsToDatabase {t : DsMetrics}
    (h : saveRecordsToDatabase records old = some t) (k : DsMetricsKey) :
    t.get k = landing insertConflict (old.get k) (rowsAt savedRow k records) :=
  get_upsertBatches (by decide) h k

end Writers

end Perfana
