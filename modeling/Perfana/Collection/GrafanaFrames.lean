import Mathlib.Algebra.Order.Ring.Cast
import Mathlib.Algebra.Order.Ring.Rat
import Mathlib.Data.List.Induction
import Mathlib.Data.Prod.Lex
import Mathlib.Data.String.Basic
import Perfana.Lib.Groups
import Perfana.Lib.Precedence
import Perfana.Lib.StableSort
import Perfana.Lib.Table

/-!
# Grafana frames as metrics

Grafana answers a query with frames: fields, and a column of cells for each. The records of a panel
are made of them row by row, where a row is an object that has its values under the names of the
fields. The time is found by its name, and texts are left out by theirs. What several frames say of
one name and time is then reduced to one record: that with the least value, where null counts as
zero.

* `nodup_transformPanelData`: there is one record at most for a name and a time;
* `exists_field_of_mem`: each is named after a number field;
* `filter_convertToLongFormat`: if no name is mistaken for another one, or for the time, the records
  of a name and a time are made of the cells that the frames have for them;
* `isExact_iff`: and then they are what the frames say if and only if nulls give way to the other
  cells of their name and time;
* `transformPanelData_loses`: else a value is lost, or another time is taken for that of a row.
-/

namespace Perfana.GrafanaFrames

/-! ## Responses -/

/-- The type of a field. -/
inductive FieldType
  | time
  | number
  | string
  deriving DecidableEq, Repr

/-- A field of a frame. -/
structure Field where
  type : FieldType
  name : String
  /-- The name that the data source gives it for display, if any. -/
  displayNameFromDS : Option String
  deriving DecidableEq, Repr

/-- A cell of a column. -/
inductive Cell
  | number (value : ℚ)
  | string (value : String)
  | null
  deriving DecidableEq, Repr

/-- A frame: its fields, and a column for each. -/
structure Frame where
  /-- The fields of the schema. -/
  fields : List Field
  /-- The columns. -/
  values : List (List Cell)
  deriving DecidableEq, Repr

/-- The frames of the queries of a panel. -/
abbrev PanelResponse := List (String × List Frame)

/-- A panel, as far as it matters for its metrics. -/
structure Panel where
  /-- What is put before the names of its metrics, for a panel that was repeated. -/
  perfanaMetricPrefix : Option String
  /-- The unit of its field configuration. -/
  unit : Option String
  deriving DecidableEq, Repr

/-- A test run, as far as it matters for metrics. -/
structure TestRun where
  /-- When it started, in milliseconds. -/
  startTime : Option ℤ
  /-- How long it ramps up, in seconds. -/
  rampUp : ℚ
  deriving DecidableEq, Repr

/-! ## Rows -/

/-- A value of a row. -/
inductive Value
  | undefined
  | cell (cell : Cell)
  | date (time : Option ℤ)
  deriving DecidableEq, Repr

/-- A row: an object with the values of a frame under the names of its columns. -/
abbrev Row := Table String Value

/-- The name of a field for display. -/
def Field.displayName (field : Field) : String :=
  (field.displayNameFromDS.filter (· ≠ "")).getD field.name

/-- The name of a column: that of the time field is the one by which it is known later. -/
def columnName (field : Field) : String :=
  if field.type = .time then "time" else field.displayName

/-- An assignment to a property. That to the prototype, which no value of a row is, has no
    effect on the properties. -/
def assign (row : Row) (key : String) (value : Value) : Row :=
  if key = "__proto__" then row else row.set key value

/-- A value of a column, which may be too short. -/
def valueAt (column : List Cell) (rowIndex : ℕ) : Value :=
  match column[rowIndex]? with
  | some cell => .cell cell
  | none => .undefined

/-- The number of rows of a frame: that of its first column. -/
def Frame.dataLength (frame : Frame) : ℕ := (frame.values.head?.map List.length).getD 0

/-- The fields of a frame with their columns. -/
def Frame.columns (frame : Frame) : List (Field × List Cell) := frame.fields.zip frame.values

/-- The row of a frame at a place. The order of its properties, where those that look like array
    indices are first, does not matter, since the records are sorted. -/
def createRow (frame : Frame) (rowIndex : ℕ) : Row :=
  frame.columns.foldl
    (fun row column => assign row (columnName column.1) (valueAt column.2 rowIndex)) Table.empty

/-- The rows of a frame. -/
def createDataFrameFromFrames (frame : Frame) : List Row :=
  if frame.fields.length ≠ frame.values.length then []
  else (List.range frame.dataLength).map (createRow frame)

/-- The names of the text fields. -/
def stringColumns (frame : Frame) : List String :=
  (frame.fields.filter (·.type = .string)).map Field.displayName

/-- The rows without the values under the names of text fields. -/
def removeStringColumns (dataFrame : List Row) (frame : Frame) : List Row :=
  if stringColumns frame = [] then dataFrame
  else dataFrame.map fun row => row.filter fun key _ => !(stringColumns frame).contains key

/-- The time value of a date that is made of a number: it is cut to whole milliseconds, and
    invalid out of range. -/
def dateOfNumber (ms : ℚ) : Option ℤ :=
  if 8640000000000000 < |ms| then none else some (ms.num.tdiv ms.den)

/-- A property of a row, with the time as a date. -/
def transformTimestamp (transformedRow : Row) (entry : String × Value) : Row :=
  match entry.2 with
  | .cell (.number ms) =>
    if entry.1.toLower = "time" then transformedRow.set "time" (.date (dateOfNumber ms))
    else transformedRow.set entry.1 entry.2
  | _ => transformedRow.set entry.1 entry.2

/-- The rows with their times as dates. -/
def transformTimestamps (dataFrame : List Row) : List Row :=
  dataFrame.map fun row => row.rows.foldl transformTimestamp Table.empty

/-- A value, null if there is none. -/
def normalizeValue : Value → Value
  | .undefined => .cell .null
  | value => value

/-- The rows that a frame contributes: none if its first row has less than two properties. -/
def transformFrame (frame : Frame) : List Row :=
  let cleanedFrame := removeStringColumns (createDataFrameFromFrames frame) frame
  match cleanedFrame.head? with
  | some firstRow =>
    if 1 < firstRow.rows.length then
      (transformTimestamps cleanedFrame).map (Table.mapRows normalizeValue)
    else []
  | none => []

/-! ## Records -/

/-- A record of a metric. -/
structure MetricsRecord where
  metricName : String
  /-- The time, unless the date is invalid. -/
  time : Option ℤ
  /-- The time since the start of the run, in seconds. -/
  timestep : Option ℚ
  /-- Whether the run ramped up. -/
  rampUp : Bool
  value : Value
  unit : Option String
  deriving DecidableEq, Repr

/-- What is put before the names of metrics: nothing, if it is empty. -/
def Panel.metricNamePrefix (panel : Panel) : Option String :=
  panel.perfanaMetricPrefix.filter (· ≠ "")

/-- The name of a metric: that of the column, behind what is put before it. -/
def Panel.metricName (panel : Panel) (rawMetricName : String) : String :=
  match panel.metricNamePrefix with
  | some metricNamePrefix => metricNamePrefix ++ " - " ++ rawMetricName
  | none => rawMetricName

/-- The time of a record since the start of the run. -/
def timestep (testRun : Option TestRun) (recordTime : Option ℤ) : Option ℚ :=
  match testRun.bind TestRun.startTime, recordTime with
  | some startTime, some time => some ((time - startTime) / 1000)
  | _, _ => none

/-- The record of a value. -/
def makeRecord (panel : Panel) (testRun : Option TestRun) (rawMetricName : String)
    (recordTime : Option ℤ) (value : Value) : MetricsRecord where
  metricName := panel.metricName rawMetricName
  time := recordTime
  timestep := timestep testRun recordTime
  rampUp := (timestep testRun recordTime).any fun t => t < (testRun.map TestRun.rampUp).getD 0
  value := value
  unit := panel.unit.filter (· ≠ "")

/-- The time of the records of a row: the current time, if it has no date. -/
def recordTime (now : ℤ) (row : Row) : Option ℤ :=
  match row.get "time" with
  | some (.date time) => time
  | _ => some now

def rowRecords (now : String → ℤ) (testRun : Option TestRun) (panel : Panel) (row : Row) :
    List MetricsRecord :=
  (row.erase "time").rows.filterMap fun entry =>
    if entry.2 = .undefined then none
    else some (makeRecord panel testRun entry.1 (recordTime (now entry.1) row) entry.2)

/-- The records of rows. The current time is read for each record. -/
def convertToLongFormat (now : ℕ → String → ℤ) (testRun : Option TestRun) (panel : Panel)
    (dataFrame : List Row) : List MetricsRecord :=
  dataFrame.zipIdx.flatMap fun row => rowRecords (now row.2) testRun panel row.1

/-- What a value counts as in a comparison, where null counts as zero. -/
def Value.orZero : Value → ℚ
  | .cell (.number value) => value
  | _ => 0

section Sorting

variable {K : Type*} [LinearOrder K] (collationKey : String → K)

/-- One record does not come behind another one: the comparison of the sort is not positive. Dates
    that are invalid compare as if they were equal to any other. -/
def notBehind (a b : MetricsRecord) : Bool :=
  if a.metricName ≠ b.metricName then
    collationKey a.metricName ≤ collationKey b.metricName
  else
    match a.time, b.time with
    | some timeA, some timeB =>
      if timeA ≠ timeB then timeA ≤ timeB else a.value.orZero ≤ b.value.orZero
    | _, _ => true

/-- The name and the time of a record, by which it is told from others. -/
def MetricsRecord.key (record : MetricsRecord) : Option (ℤ × String) :=
  record.time.map fun time => (time, record.metricName)

/-- The records of a list, the first of each name and time. -/
def deduplicate (sorted : List MetricsRecord) : List MetricsRecord :=
  (sorted.foldl (Table.keepFirst MetricsRecord.key id) []).map Prod.snd

/-- The records sorted, the first of each name and time. An invalid date cannot be printed. -/
def sortAndDeduplicate (data : List MetricsRecord) : Except String (List MetricsRecord) :=
  if data.all (·.time.isSome) then
    .ok (deduplicate (data.insertionSort fun a b => notBehind collationKey a b))
  else .error "RangeError: Invalid time value"

/-- The records without the last, if that has no value. -/
def dropLastNull (sortedData : List MetricsRecord) : List MetricsRecord :=
  match sortedData.getLast? with
  | some lastItem =>
    if lastItem.value = .cell .null ∨ lastItem.value = .undefined then sortedData.dropLast
    else sortedData
  | none => sortedData

/-- The rows of all frames of a response. -/
def combinedData (response : PanelResponse) : List Row :=
  response.flatMap fun result => result.2.flatMap transformFrame

/-- The records of a response. Where the code returns early, for want of results, frames or rows,
    there is none. -/
def transformPanelData (now : ℕ → String → ℤ) (testRun : Option TestRun) (panel : Panel)
    (response : PanelResponse) : Except String (List MetricsRecord) :=
  (sortAndDeduplicate collationKey
    (convertToLongFormat now testRun panel (combinedData response))).map dropLastNull

end Sorting

/-! ## What the frames say -/

/-- A cell of a number field, and that of the time field in its row. -/
structure Sample where
  /-- The name of the number field. -/
  name : String
  /-- The cell of the time field. -/
  time : Cell
  /-- The cell of the number field. -/
  value : Cell
  deriving DecidableEq, Repr

/-- The cell of the time field in a row. -/
def Frame.timeCell (frame : Frame) (rowIndex : ℕ) : Option Cell :=
  (frame.columns.find? (·.1.type = .time)).bind (·.2[rowIndex]?)

/-- The cell of a number field in a row. -/
def Frame.sampleAt (frame : Frame) (rowIndex : ℕ) (column : Field × List Cell) : Option Sample :=
  match frame.timeCell rowIndex, column.2[rowIndex]? with
  | some time, some value =>
    some { name := column.1.displayName, time := time, value := value }
  | _, _ => none

/-- The cells of the number fields in a row. -/
def Frame.rowSamples (frame : Frame) (rowIndex : ℕ) : List Sample :=
  (frame.columns.filter (·.1.type = .number)).filterMap (frame.sampleAt rowIndex)

/-- The cells of the number fields of a frame. -/
def Frame.samples (frame : Frame) : List Sample :=
  (List.range frame.dataLength).flatMap frame.rowSamples

/-- The cells of the number fields of a response. -/
def samples (response : PanelResponse) : List Sample :=
  response.flatMap fun result => result.2.flatMap Frame.samples

/-- A frame as Grafana sends it. -/
structure Frame.IsWellFormed (frame : Frame) : Prop where
  /-- There is a column for each field, -/
  columns : frame.values.length = frame.fields.length
  /-- all of one length, -/
  rows : ∀ column ∈ frame.values, column.length = frame.dataLength
  /-- one field has the time, -/
  time : ∃ field, frame.fields.filter (·.type = .time) = [field]
  /-- and the cells of a field that is not a text are numbers and nulls. -/
  cells : ∀ column ∈ frame.columns, column.1.type ≠ .string →
    ∀ cell ∈ column.2, ∀ text, cell ≠ .string text

/-- The records are the samples of a response. -/
structure IsExact (panel : Panel) (response : PanelResponse) (records : List MetricsRecord) :
    Prop where
  /-- There is one for a name and a time at most, -/
  single : (records.map fun record => (record.metricName, record.time)).Nodup
  /-- each is a cell of a number field of its name, at the time of its row, -/
  sound : ∀ record ∈ records, ∃ sample ∈ samples response,
    record.metricName = panel.metricName sample.name ∧ record.value = .cell sample.value ∧
      ∃ time : ℤ, record.time = some time ∧ sample.time = .number time
  /-- and there is one with a value for each name and time with a cell that is not null. -/
  complete : ∀ sample ∈ samples response, sample.value ≠ .null →
    ∀ ms, sample.time = .number ms → ∃ record ∈ records,
      record.metricName = panel.metricName sample.name ∧ record.value ≠ .cell .null ∧
        ∃ time : ℤ, record.time = some time ∧ time = ms

/-! ## Frames that are read as they are -/

/-- The names and the times of a frame are not mistaken for others. -/
structure Frame.IsPlain (frame : Frame) : Prop where
  /-- The times are whole milliseconds, in the range of dates. -/
  times : ∀ column ∈ frame.columns, column.1.type = .time → ∀ cell ∈ column.2,
    ∃ time : ℤ, |time| ≤ 8640000000000000 ∧ cell = .number time
  /-- No number field is named like the time, however it is written, or like the prototype. -/
  names : ∀ field ∈ frame.fields, field.type = .number →
    field.displayName.toLower ≠ "time" ∧ field.displayName ≠ "__proto__"
  /-- No text field is named like the time, or like a number field. -/
  texts : ∀ field ∈ frame.fields, field.type = .string → field.displayName ≠ "time" ∧
    ∀ field' ∈ frame.fields, field'.type = .number → field'.displayName ≠ field.displayName
  /-- No two number fields have the same name. -/
  nodup : ((frame.fields.filter (·.type = .number)).map Field.displayName).Nodup

/-- The frames of a response that have samples are read as they are, and names of metrics that
    differ are not equal to the sort. -/
structure IsPlain {K : Type*} (collationKey : String → K) (panel : Panel)
    (response : PanelResponse) : Prop where
  /-- The frames are read as they are. -/
  frames : ∀ result ∈ response, ∀ frame ∈ result.2, frame.samples ≠ [] → frame.IsPlain
  /-- The names differ to the sort. -/
  names : ∀ s ∈ samples response, ∀ s' ∈ samples response,
    collationKey (panel.metricName s.name) = collationKey (panel.metricName s'.name) →
      s.name = s'.name

/-- The cells of a name at a time, in the order of the response. -/
def cellsAt (response : PanelResponse) (name : String) (time : ℤ) : List Cell :=
  ((samples response).filter fun s => s.name = name ∧ s.time = .number time).map Sample.value

/-- What is not null comes first among cells where null counts as zero: there is a negative one, or
    a zero before each null. -/
def NullsGiveWay (cells : List Cell) : Prop :=
  ∀ l₁ l₂, cells = l₁ ++ .null :: l₂ → (∃ cell ∈ cells, cell ≠ .null) →
    (∃ cell ∈ cells, (Value.cell cell).orZero < 0) ∨ Cell.number 0 ∈ l₁

/-! ## Rows by name -/

section Rows

variable {frame : Frame} {column : Field × List Cell} {columns : List (Field × List Cell)}
  {rowIndex : ℕ} {key : String} {row : Row} {value : Value}

theorem get_assign (h : key ≠ "__proto__") (row : Row) (k : String) :
    (assign row key value).get k = if k = key then some value else row.get k := by
  rw [assign, if_neg h, Table.get_set]

theorem get_assign_of_ne (h : key ≠ columnName column.1) :
    (assign row (columnName column.1) value).get key = row.get key := by
  rw [assign]
  split
  · rfl
  · rw [Table.get_set, if_neg h]

/-- What stands under a name that one column has. -/
theorem get_foldl_assign (hcolumn : column ∈ columns) (hkey : columnName column.1 ≠ "__proto__")
    (hunique : ∀ c ∈ columns, columnName c.1 = columnName column.1 → c = column) (row : Row) :
    (columns.foldl (fun row c => assign row (columnName c.1) (valueAt c.2 rowIndex)) row).get
      (columnName column.1) = some (valueAt column.2 rowIndex) := by
  induction columns using List.reverseRecOn with
  | nil => cases hcolumn
  | append_singleton columns c ih =>
    rw [List.foldl_append, List.foldl_cons, List.foldl_nil]
    by_cases hc : columnName c.1 = columnName column.1
    · obtain rfl := hunique c (by simp) hc
      rw [get_assign hkey, if_pos rfl]
    · rw [get_assign_of_ne (Ne.symm hc)]
      refine ih ?_ fun c' hc' => hunique c' (List.mem_append_left _ hc')
      rcases List.mem_append.1 hcolumn with h | h
      · exact h
      · exact absurd (List.mem_singleton.1 h ▸ rfl) hc

theorem get_foldl_assign_of_notMem (h : ∀ c ∈ columns, columnName c.1 ≠ key) (row : Row) :
    (columns.foldl (fun row c => assign row (columnName c.1) (valueAt c.2 rowIndex)) row).get key =
      row.get key := by
  induction columns generalizing row with
  | nil => rfl
  | cons c columns ih =>
    rw [List.foldl_cons, ih fun c' hc' => h c' (List.mem_cons_of_mem _ hc')]
    exact get_assign_of_ne (h c List.mem_cons_self).symm

/-- A row without the values of text fields. -/
def cleanRow (frame : Frame) (row : Row) : Row :=
  row.filter fun key _ => !(stringColumns frame).contains key

theorem removeStringColumns_eq (dataFrame : List Row) (frame : Frame) :
    removeStringColumns dataFrame frame = dataFrame.map (cleanRow frame) := by
  rw [removeStringColumns]
  split
  · rename_i hnone
    refine (List.map_id _).symm.trans (List.map_congr_left fun row _ => ?_)
    obtain ⟨rows, nodup⟩ := row
    simp [cleanRow, Table.filter, hnone]
  · rfl

theorem get_cleanRow (row : Row) (key : String) :
    (cleanRow frame row).get key = if key ∈ stringColumns frame then none else row.get key := by
  rw [cleanRow, Table.get_filter]
  split
  · rename_i h
    cases row.get key <;> simp [Option.filter, h]
  · rename_i h
    cases row.get key <;> simp [Option.filter, h]

/-- A value, as a date if it is the number of the time. -/
def timeValue (key : String) (value : Value) : Value :=
  match value with
  | .cell (.number ms) => if key = "time" then .date (dateOfNumber ms) else value
  | _ => value

theorem toLower_time : "time".toLower = "time" := by decide +kernel

theorem transformTimestamp_eq {entry : String × Value}
    (h : entry.1.toLower = "time" → entry.1 = "time") (row : Row) :
    transformTimestamp row entry = row.set entry.1 (timeValue entry.1 entry.2) := by
  obtain ⟨key, value⟩ := entry
  have hlower : key.toLower = "time" ↔ key = "time" := by
    refine ⟨h, ?_⟩
    rintro rfl
    exact toLower_time
  cases value with
  | undefined => rfl
  | date time => rfl
  | cell cell =>
    cases cell with
    | string text => rfl
    | null => rfl
    | number ms =>
      rw [transformTimestamp, timeValue]
      dsimp only
      by_cases hkey : key = "time"
      · rw [if_pos (hlower.2 hkey), if_pos hkey, hkey]
      · rw [if_neg (mt hlower.1 hkey), if_neg hkey]

theorem get_foldl_set {entries : List (String × Value)} (f : String → Value → Value)
    (hnodup : (entries.map Prod.fst).Nodup) (row : Row) (key : String) :
    (entries.foldl (fun row entry => row.set entry.1 (f entry.1 entry.2)) row).get key =
      ((entries.lookup key).map (f key)).or (row.get key) := by
  induction entries generalizing row with
  | nil => simp
  | cons entry entries ih =>
    obtain ⟨hentry, hnodup⟩ := List.nodup_cons.1 hnodup
    rw [List.foldl_cons, ih hnodup, Table.get_set, List.lookup_cons]
    by_cases hkey : key = entry.1
    · have hnone : entries.lookup key = none := by
        rw [hkey]
        exact Table.get_eq_none (t := ⟨entries, hnodup⟩).2 hentry
      rw [hnone, if_pos hkey, beq_iff_eq.2 hkey, hkey]
      rfl
    · rw [if_neg hkey, beq_eq_false_iff_ne.2 hkey]

/-- The time of a row becomes a date, if no other property is named like it. -/
theorem get_transformTimestamps
    (h : ∀ key value, row.get key = some value → key.toLower = "time" → key = "time")
    (key : String) : (row.rows.foldl transformTimestamp Table.empty).get key =
      (row.get key).map (timeValue key) := by
  have hfoldl : row.rows.foldl transformTimestamp Table.empty =
      row.rows.foldl (fun row entry => row.set entry.1 (timeValue entry.1 entry.2))
        Table.empty :=
    List.foldl_ext _ _ _ fun _ entry hentry =>
      transformTimestamp_eq (h entry.1 entry.2 (Table.mem_rows.1 hentry)) _
  rw [hfoldl, get_foldl_set timeValue row.nodup, Table.get_empty, Option.or_none]
  rfl

/-- A row of a frame, as it is read. -/
def readRow (frame : Frame) (rowIndex : ℕ) : Row :=
  ((cleanRow frame (createRow frame rowIndex)).rows.foldl transformTimestamp
    Table.empty).mapRows normalizeValue

theorem transformFrame_eq (frame : Frame) : transformFrame frame =
    if frame.fields.length = frame.values.length ∧ 0 < frame.dataLength ∧
      1 < (cleanRow frame (createRow frame 0)).rows.length then
      (List.range frame.dataLength).map (readRow frame)
    else [] := by
  rw [transformFrame, removeStringColumns_eq, createDataFrameFromFrames]
  by_cases hlength : frame.fields.length = frame.values.length
  · rw [if_neg (not_not.2 hlength)]
    cases hrows : frame.dataLength with
    | zero => simp
    | succ n =>
      rw [List.range_succ_eq_map, List.map_cons, List.map_cons, List.head?_cons]
      dsimp only
      split
      · rename_i hwidth
        rw [if_pos ⟨hlength, Nat.succ_pos n, hwidth⟩, transformTimestamps]
        simp [readRow, Function.comp_def]
      · rename_i hwidth
        rw [if_neg fun h => hwidth h.2.2]
  · rw [if_pos hlength, if_neg fun h => hlength h.1]
    rfl

end Rows

/-! ## Plain frames -/

namespace Frame

variable {frame : Frame} {column : Field × List Cell} {rowIndex : ℕ} {key : String}

theorem mem_fields_of_mem_columns (h : column ∈ frame.columns) : column.1 ∈ frame.fields :=
  (List.of_mem_zip h).1

theorem columnName_of_ne (h : column.1.type ≠ .time) :
    columnName column.1 = column.1.displayName := if_neg h

theorem columnName_of_eq (h : column.1.type = .time) : columnName column.1 = "time" := if_pos h

namespace IsWellFormed

variable (hwell : frame.IsWellFormed)

include hwell

theorem exists_cell (hcolumn : column ∈ frame.columns) (hrow : rowIndex < frame.dataLength) :
    ∃ cell ∈ column.2, column.2[rowIndex]? = some cell := by
  have hlength := hwell.rows column.2 (List.of_mem_zip hcolumn).2
  have hlt : rowIndex < column.2.length := hlength ▸ hrow
  exact ⟨column.2[rowIndex], List.getElem_mem hlt, List.getElem?_eq_getElem hlt⟩

theorem map_fst_columns : frame.columns.map Prod.fst = frame.fields :=
  List.map_fst_zip hwell.columns.ge

theorem filter_columns (p : Field → Bool) :
    (frame.columns.filter fun c => p c.1).map Prod.fst = frame.fields.filter p := by
  rw [← hwell.map_fst_columns, List.filter_map]
  rfl

/-- The column of the time field. -/
theorem exists_timeColumn : ∃ column ∈ frame.columns, column.1.type = .time ∧
    (∀ c ∈ frame.columns, c.1.type = .time → c = column) ∧
      ∀ rowIndex, frame.timeCell rowIndex = column.2[rowIndex]? := by
  obtain ⟨field, hfield⟩ := hwell.time
  have hmap := hwell.filter_columns fun f => f.type = .time
  rw [hfield, List.map_eq_singleton_iff] at hmap
  obtain ⟨column, hfilter, -⟩ := hmap
  have hmem : ∀ c, c ∈ frame.columns ∧ c.1.type = .time ↔ c = column := by
    intro c
    rw [← List.mem_singleton (b := column), ← hfilter, List.mem_filter, decide_eq_true_eq]
  obtain ⟨hcolumn, htype⟩ := (hmem column).2 rfl
  refine ⟨column, hcolumn, htype, fun c hc ht => (hmem c).1 ⟨hc, ht⟩, fun rowIndex => ?_⟩
  rw [timeCell, ← List.head?_filter, hfilter]
  rfl

end IsWellFormed

section Plain

variable (hwell : frame.IsWellFormed) (hplain : frame.IsPlain)

include hwell hplain

/-- The numbers of a field stand under its name. -/
theorem get_createRow_number (hcolumn : column ∈ frame.columns) (htype : column.1.type = .number) :
    (createRow frame rowIndex).get column.1.displayName = some (valueAt column.2 rowIndex) := by
  have hne : column.1.type ≠ .time := by simp [htype]
  obtain ⟨htime, hproto⟩ := hplain.names column.1 (mem_fields_of_mem_columns hcolumn) htype
  have hname := columnName_of_ne hne
  have hnodup : ((frame.columns.filter fun c => c.1.type = .number).map fun c =>
      c.1.displayName).Nodup := by
    have := hplain.nodup
    rwa [← hwell.filter_columns fun f => f.type = .number, List.map_map] at this
  rw [createRow, ← hname]
  refine get_foldl_assign hcolumn (hname ▸ hproto) (fun c hc heq => ?_) _
  have hcfield := mem_fields_of_mem_columns hc
  rw [hname] at heq
  cases hctype : c.1.type with
  | time =>
    rw [columnName_of_eq hctype] at heq
    exact absurd (heq ▸ toLower_time) htime
  | number =>
    rw [columnName_of_ne (by simp [hctype])] at heq
    exact List.inj_on_of_nodup_map hnodup (List.mem_filter.2 ⟨hc, by simp [hctype]⟩)
      (List.mem_filter.2 ⟨hcolumn, by simp [htype]⟩) heq
  | string =>
    rw [columnName_of_ne (by simp [hctype])] at heq
    exact absurd heq.symm ((hplain.texts c.1 hcfield hctype).2 column.1
      (mem_fields_of_mem_columns hcolumn) htype)

/-- The time stands under its name. -/
theorem get_createRow_time : (createRow frame rowIndex).get "time" =
    some (((frame.timeCell rowIndex).map Value.cell).getD .undefined) := by
  obtain ⟨column, hcolumn, htype, hunique, htimeCell⟩ := hwell.exists_timeColumn
  have hname := columnName_of_eq htype
  have hvalue : valueAt column.2 rowIndex =
      ((frame.timeCell rowIndex).map Value.cell).getD .undefined := by
    rw [htimeCell, valueAt]
    cases column.2[rowIndex]? <;> rfl
  rw [createRow, ← hname, ← hvalue]
  refine get_foldl_assign hcolumn (hname ▸ by decide) (fun c hc heq => ?_) _
  have hcfield := mem_fields_of_mem_columns hc
  rw [hname] at heq
  cases hctype : c.1.type with
  | time => exact hunique c hc hctype
  | number =>
    rw [columnName_of_ne (by simp [hctype])] at heq
    exact absurd (heq.symm ▸ toLower_time) (hplain.names c.1 hcfield hctype).1
  | string =>
    rw [columnName_of_ne (by simp [hctype])] at heq
    exact absurd heq (hplain.texts c.1 hcfield hctype).1

end Plain

/-- Only times and numbers are left in a row. -/
theorem of_get_cleanRow {value : Value}
    (h : (cleanRow frame (createRow frame rowIndex)).get key = some value) :
    key = "time" ∨
      ∃ column ∈ frame.columns, column.1.type = .number ∧ column.1.displayName = key := by
  rw [get_cleanRow] at h
  split at h
  · cases h
  · rename_i hkey
    by_cases hcolumn : ∃ c ∈ frame.columns, columnName c.1 = key
    · obtain ⟨c, hc, rfl⟩ := hcolumn
      cases htype : c.1.type with
      | time => exact .inl (columnName_of_eq htype)
      | number => exact .inr ⟨c, hc, htype, (columnName_of_ne (by simp [htype])).symm⟩
      | string =>
        rw [columnName_of_ne (by simp [htype])] at hkey
        refine absurd (List.mem_map.2 ⟨c.1, List.mem_filter.2 ⟨?_, ?_⟩, rfl⟩) hkey
        · exact mem_fields_of_mem_columns hc
        · exact decide_eq_true htype
    · have hnone : (createRow frame rowIndex).get key = none := by
        rw [createRow, get_foldl_assign_of_notMem fun c hc heq => hcolumn ⟨c, hc, heq⟩,
          Table.get_empty]
      rw [hnone] at h
      cases h

theorem get_readRow_ne_undefined : (readRow frame rowIndex).get key ≠ some .undefined := by
  rw [readRow, Table.get_mapRows, ne_eq, Option.map_eq_some_iff]
  rintro ⟨value, -, hvalue⟩
  cases value <;> cases hvalue

/-- A whole number in range is the time value of its date. -/
theorem dateOfNumber_intCast {t : ℤ} (h : |t| ≤ 8640000000000000) : dateOfNumber t = some t := by
  have hle : |(t : ℚ)| ≤ 8640000000000000 := by
    rw [← Int.cast_abs]
    exact_mod_cast h
  rw [dateOfNumber, if_neg hle.not_gt, Rat.num_intCast, Rat.den_intCast]
  simp

section Plain

variable (hplain : frame.IsPlain)

include hplain

theorem get_readRow (key : String) : (readRow frame rowIndex).get key =
    ((cleanRow frame (createRow frame rowIndex)).get key).map
      fun value => normalizeValue (timeValue key value) := by
  rw [readRow, Table.get_mapRows, get_transformTimestamps, Option.map_map]
  · rfl
  · intro key value hget hlower
    rcases of_get_cleanRow hget with hkey | ⟨column, hcolumn, htype, rfl⟩
    · exact hkey
    · exact absurd hlower (hplain.names column.1 (mem_fields_of_mem_columns hcolumn) htype).1

/-- But for the time a row has nothing that is not under the name of a number field. -/
theorem of_get_readRow {value : Value} (h : (readRow frame rowIndex).get key = some value)
    (hkey : key ≠ "time") :
    ∃ column ∈ frame.columns, column.1.type = .number ∧ column.1.displayName = key := by
  rw [get_readRow hplain, Option.map_eq_some_iff] at h
  obtain ⟨value, hget, -⟩ := h
  exact (of_get_cleanRow hget).resolve_left hkey

variable (hwell : frame.IsWellFormed)

include hwell

/-- The cells of a number field are read under its name. -/
theorem get_readRow_number (hcolumn : column ∈ frame.columns) (htype : column.1.type = .number)
    (hrow : rowIndex < frame.dataLength) : ∃ cell, column.2[rowIndex]? = some cell ∧
      (readRow frame rowIndex).get column.1.displayName = some (.cell cell) := by
  obtain ⟨cell, -, hcell⟩ := hwell.exists_cell hcolumn hrow
  have hfield := mem_fields_of_mem_columns hcolumn
  have htime : column.1.displayName ≠ "time" := fun h =>
    (hplain.names column.1 hfield htype).1 (h.symm ▸ toLower_time)
  have htext : column.1.displayName ∉ stringColumns frame := by
    intro h
    obtain ⟨field, hmem, heq⟩ := List.mem_map.1 h
    obtain ⟨hmem, hstring⟩ := List.mem_filter.1 hmem
    exact (hplain.texts field hmem (of_decide_eq_true hstring)).2 column.1 hfield htype heq.symm
  refine ⟨cell, hcell, ?_⟩
  rw [get_readRow hplain, get_cleanRow, if_neg htext,
    get_createRow_number hwell hplain hcolumn htype, valueAt, hcell, Option.map_some]
  cases cell <;> simp [timeValue, normalizeValue, htime]

/-- The time of a row is read as the date that it is. -/
theorem get_readRow_time (hrow : rowIndex < frame.dataLength) :
    ∃ t : ℤ, frame.timeCell rowIndex = some (.number t) ∧
      (readRow frame rowIndex).get "time" = some (.date (some t)) := by
  obtain ⟨column, hcolumn, htype, -, htimeCell⟩ := hwell.exists_timeColumn
  obtain ⟨cell, hmem, hcell⟩ := hwell.exists_cell hcolumn hrow
  obtain ⟨t, ht, rfl⟩ := hplain.times column hcolumn htype cell hmem
  have htext : "time" ∉ stringColumns frame := by
    intro h
    obtain ⟨field, hmem, heq⟩ := List.mem_map.1 h
    obtain ⟨hmem, hstring⟩ := List.mem_filter.1 hmem
    exact (hplain.texts field hmem (of_decide_eq_true hstring)).1 heq
  refine ⟨t, by rw [htimeCell, hcell], ?_⟩
  rw [get_readRow hplain, get_cleanRow, if_neg htext, get_createRow_time hwell hplain, htimeCell,
    hcell]
  simp only [Option.map_some, Option.getD_some, timeValue, if_pos, dateOfNumber_intCast ht,
    normalizeValue]

end Plain

end Frame

/-! ## Records of a name and a time -/

/-- A record has the name and the time. -/
def hasKey (panel : Panel) (name : String) (time : ℤ) (record : MetricsRecord) : Bool :=
  record.key = some (time, panel.metricName name)

/-- A sample has the name and the time. -/
def isOf (name : String) (time : ℤ) (sample : Sample) : Bool :=
  sample.name = name ∧ sample.time = .number time

section Records

variable {now : String → ℤ} {testRun : Option TestRun} {panel : Panel} {row : Row}
  {name : String} {t time : ℤ} {value : Value} {frame : Frame} {rowIndex : ℕ}

theorem Panel.metricName_injective (panel : Panel) : Function.Injective panel.metricName := by
  intro name name' h
  rw [Panel.metricName, Panel.metricName] at h
  split at h
  · exact String.append_right_inj _ |>.1 h
  · exact h

theorem hasKey_makeRecord {name' : String} :
    hasKey panel name time (makeRecord panel testRun name' (some t) value) =
      decide (t = time ∧ name' = name) := by
  rw [hasKey, MetricsRecord.key, makeRecord]
  refine decide_eq_decide.2 ?_
  rw [Option.map_some, Option.some.injEq, Prod.mk.injEq, panel.metricName_injective.eq_iff]

theorem filter_rows_key (row : Row) (key : String) :
    (row.rows.filter fun entry => entry.1 = key) =
      ((row.get key).map fun value => (key, value)).toList := by
  have hjoin := leftJoin_table row key
  rw [leftJoin] at hjoin
  cases hget : row.get key with
  | none =>
    refine List.filter_eq_nil_iff.2 fun entry hentry heq => ?_
    rw [← of_decide_eq_true heq, Table.mem_rows.1 hentry] at hget
    cases hget
  | some value =>
    rw [hget] at hjoin
    split at hjoin
    · cases hjoin
    · rename_i hne
      have hone := congrArg (List.filterMap id) hjoin
      rw [List.filterMap_map] at hone
      simpa using hone

/-- The records of a row with a date are at that date. -/
theorem rowRecords_eq (htime : row.get "time" = some (.date (some t)))
    (hdefined : ∀ key, row.get key ≠ some .undefined) :
    rowRecords now testRun panel row =
      (row.erase "time").rows.map fun entry =>
        makeRecord panel testRun entry.1 (some t) entry.2 := by
  rw [rowRecords, ← List.filterMap_eq_map]
  refine List.filterMap_congr fun entry hentry => ?_
  have hget : (row.erase "time").get entry.1 = some entry.2 := Table.mem_rows.1 hentry
  have hne : entry.2 ≠ .undefined := by
    intro heq
    rw [Table.get_erase] at hget
    split at hget
    · cases hget
    · exact hdefined entry.1 (heq ▸ hget)
  rw [if_neg hne, recordTime, htime]
  rfl

/-- A row has a record of a name if it has a value under it. -/
theorem filter_rowRecords (htime : row.get "time" = some (.date (some t)))
    (hdefined : ∀ key, row.get key ≠ some .undefined) (name : String) (time : ℤ) :
    (rowRecords now testRun panel row).filter (hasKey panel name time) =
      if t = time then (((row.erase "time").get name).map
        fun value => makeRecord panel testRun name (some time) value).toList
      else [] := by
  rw [rowRecords_eq htime hdefined, List.filter_map]
  split
  · rename_i h
    subst h
    have hkey : (hasKey panel name t ∘ fun entry : String × Value =>
        makeRecord panel testRun entry.1 (some t) entry.2) =
          fun entry : String × Value => decide (entry.1 = name) := by
      funext entry
      rw [Function.comp_apply, hasKey_makeRecord]
      simp
    rw [hkey, filter_rows_key]
    cases (row.erase "time").get name <;> rfl
  · rename_i h
    rw [List.map_eq_nil_iff, List.filter_eq_nil_iff]
    intro entry _
    rw [Function.comp_apply, hasKey_makeRecord]
    simp [h]

def sampleRecord (testRun : Option TestRun) (panel : Panel) (time : ℤ) (sample : Sample) :
    MetricsRecord :=
  makeRecord panel testRun sample.name (some time) (.cell sample.value)

theorem Frame.filter_rowSamples (hplain : frame.IsPlain) (hwell : frame.IsWellFormed)
    (htime : frame.timeCell rowIndex = some (.number t)) (name : String) (time : ℤ) :
    (frame.rowSamples rowIndex).filter (isOf name time) =
      if t = time then ((frame.columns.filter (·.1.type = .number)).find?
        (·.1.displayName = name)).toList.filterMap (frame.sampleAt rowIndex)
      else [] := by
  have hnodup : ((frame.columns.filter fun c => c.1.type = .number).map fun c =>
      c.1.displayName).Nodup := by
    have := hplain.nodup
    rwa [← hwell.filter_columns fun f => f.type = .number, List.map_map] at this
  have hsample : ∀ column : Field × List Cell, (frame.sampleAt rowIndex column).filter
      (isOf name time) = if t = time ∧ column.1.displayName = name then
        frame.sampleAt rowIndex column else none := by
    intro column
    rw [sampleAt, htime]
    cases column.2[rowIndex]? with
    | none => simp
    | some cell =>
      by_cases h : t = time ∧ column.1.displayName = name
      · simp [Option.filter, isOf, h]
      · have hne : ¬(column.1.displayName = name ∧ t = time) := fun h' => h h'.symm
        simp [Option.filter, isOf, h, hne]
  rw [rowSamples, List.filter_filterMap, ← filter_key_eq_toList hnodup name]
  generalize frame.columns.filter (fun c => decide (c.1.type = .number)) = columns
  rw [List.filterMap_filter]
  split
  · rename_i h
    refine List.filterMap_congr fun column _ => ?_
    rw [hsample]
    simp [h]
  · rename_i h
    refine List.filterMap_eq_nil_iff.2 fun column _ => ?_
    rw [hsample]
    simp [h]

/-- The records of a row are those of its samples. -/
theorem filter_rowRecords_readRow (hplain : frame.IsPlain) (hwell : frame.IsWellFormed)
    (hrow : rowIndex < frame.dataLength) (name : String) (time : ℤ) :
    (rowRecords now testRun panel (readRow frame rowIndex)).filter (hasKey panel name time) =
      ((frame.rowSamples rowIndex).filter (isOf name time)).map
        (sampleRecord testRun panel time) := by
  obtain ⟨t, htimeCell, htime⟩ := Frame.get_readRow_time hplain hwell hrow
  rw [filter_rowRecords htime fun _ => Frame.get_readRow_ne_undefined,
    Frame.filter_rowSamples hplain hwell htimeCell]
  split
  swap
  · rfl
  cases hfind : (frame.columns.filter (·.1.type = .number)).find? (·.1.displayName = name) with
  | some column =>
    obtain ⟨hcolumn, htype⟩ := List.mem_filter.1 (List.mem_of_find?_eq_some hfind)
    have htype := of_decide_eq_true htype
    obtain rfl : column.1.displayName = name :=
      of_decide_eq_true (List.find?_eq_some_iff_append.1 hfind).1
    obtain ⟨cell, hcell, hget⟩ := Frame.get_readRow_number hplain hwell hcolumn htype hrow
    have hne : column.1.displayName ≠ "time" := fun h =>
      (hplain.names column.1 (Frame.mem_fields_of_mem_columns hcolumn) htype).1
        (h.symm ▸ toLower_time)
    rw [Table.get_erase, if_neg hne, hget]
    simp [Frame.sampleAt, htimeCell, hcell, sampleRecord]
  | none =>
    have hget : ((readRow frame rowIndex).erase "time").get name = none := by
      rw [Table.get_erase]
      split
      · rfl
      · rename_i hname
        by_contra hsome
        obtain ⟨value, hvalue⟩ := Option.ne_none_iff_exists'.1 hsome
        obtain ⟨column, hcolumn, htype, hdisplay⟩ := Frame.of_get_readRow hplain hvalue hname
        exact List.find?_eq_none.1 hfind column
          (List.mem_filter.2 ⟨hcolumn, decide_eq_true htype⟩) (decide_eq_true hdisplay)
    rw [hget]
    rfl

end Records

/-! ## Frames and responses -/

section Frames

variable {now : ℕ → String → ℤ} {testRun : Option TestRun} {panel : Panel} {row : Row}
  {name : String} {time : ℤ} {frame : Frame} {response : PanelResponse}

theorem one_lt_length {key key' : String} {value value' : Value} (h : row.get key = some value)
    (h' : row.get key' = some value') (hne : key ≠ key') : 1 < row.rows.length := by
  have hmem := Table.mem_rows.2 h
  have hmem' := Table.mem_rows.2 h'
  by_contra hle
  obtain ⟨entry, hentry⟩ := List.length_eq_one_iff.1
    (Nat.le_antisymm (not_lt.1 hle) (List.length_pos_of_mem hmem))
  rw [hentry, List.mem_singleton] at hmem hmem'
  exact hne (Prod.mk.inj (hmem.trans hmem'.symm)).1

theorem length_le_one (h : ∀ key value, row.get key = some value → key = "time") :
    row.rows.length ≤ 1 := by
  have hkey : ∀ entry ∈ row.rows, entry.1 = "time" := fun entry hentry =>
    h entry.1 entry.2 (Table.mem_rows.1 hentry)
  have hnodup := row.nodup
  rw [List.map_congr_left hkey, List.map_const', List.nodup_replicate] at hnodup
  exact hnodup

/-- The samples of a frame come from its number fields. -/
theorem Frame.exists_of_samples_ne_nil (h : frame.samples ≠ []) : 0 < frame.dataLength ∧
    ∃ column ∈ frame.columns, column.1.type = .number := by
  obtain ⟨sample, hsample⟩ := List.exists_mem_of_ne_nil _ h
  obtain ⟨rowIndex, hrow, hsample⟩ := List.mem_flatMap.1 hsample
  obtain ⟨column, hcolumn, -⟩ := List.mem_filterMap.1 hsample
  obtain ⟨hcolumn, htype⟩ := List.mem_filter.1 hcolumn
  exact ⟨Nat.zero_lt_of_lt (List.mem_range.1 hrow), column, hcolumn, of_decide_eq_true htype⟩

/-- A number field has a sample in each row. -/
theorem Frame.samples_ne_nil (hwell : frame.IsWellFormed) (hrow : 0 < frame.dataLength)
    {column : Field × List Cell} (hcolumn : column ∈ frame.columns)
    (htype : column.1.type = .number) : frame.samples ≠ [] := by
  obtain ⟨timeColumn, hmem, -, -, htimeCell⟩ := hwell.exists_timeColumn
  obtain ⟨cell, -, hcell⟩ := hwell.exists_cell hcolumn hrow
  obtain ⟨timeCell, -, htime⟩ := hwell.exists_cell hmem hrow
  have hsample : frame.sampleAt 0 column =
      some { name := column.1.displayName, time := timeCell, value := cell } := by
    rw [sampleAt, htimeCell, htime, hcell]
  have hnumber : column ∈ frame.columns.filter (·.1.type = .number) :=
    List.mem_filter.2 ⟨hcolumn, decide_eq_true htype⟩
  have hrowSample := List.mem_filterMap.2 ⟨column, hnumber, hsample⟩
  exact List.ne_nil_of_mem (List.mem_flatMap.2 ⟨0, List.mem_range.2 hrow, hrowSample⟩)

/-- A frame without samples is left out. -/
theorem transformFrame_of_samples_eq_nil (hwell : frame.IsWellFormed) (h : frame.samples = []) :
    transformFrame frame = [] := by
  rw [transformFrame_eq, if_neg]
  rintro ⟨-, hrow, hwidth⟩
  refine hwidth.not_ge (length_le_one fun key value hget => ?_)
  rcases Frame.of_get_cleanRow hget with hkey | ⟨column, hcolumn, htype, -⟩
  · exact hkey
  · exact absurd h (Frame.samples_ne_nil hwell hrow hcolumn htype)

/-- The rows of a plain frame are read. -/
theorem transformFrame_of_isPlain (hplain : frame.IsPlain) (hwell : frame.IsWellFormed)
    (h : frame.samples ≠ []) :
    transformFrame frame = (List.range frame.dataLength).map (readRow frame) := by
  obtain ⟨hrow, column, hcolumn, htype⟩ := Frame.exists_of_samples_ne_nil h
  have hclean : ∀ key, (readRow frame 0).get key ≠ none →
      ∃ value, (cleanRow frame (createRow frame 0)).get key = some value := by
    intro key hkey
    rw [Frame.get_readRow hplain, ne_eq, Option.map_eq_none_iff] at hkey
    exact Option.ne_none_iff_exists'.1 hkey
  obtain ⟨t, -, htime⟩ := Frame.get_readRow_time hplain hwell hrow
  obtain ⟨cell, -, hnumber⟩ := Frame.get_readRow_number hplain hwell hcolumn htype hrow
  obtain ⟨value, hvalue⟩ := hclean "time" (by simp [htime])
  obtain ⟨value', hvalue'⟩ := hclean column.1.displayName (by simp [hnumber])
  have hwidth := one_lt_length hvalue hvalue' fun heq =>
    (hplain.names column.1 (Frame.mem_fields_of_mem_columns hcolumn) htype).1
      (heq ▸ toLower_time)
  rw [transformFrame_eq, if_pos ⟨hwell.columns.symm, hrow, hwidth⟩]

variable (hwell : ∀ result ∈ response, ∀ frame ∈ result.2, frame.IsWellFormed)
  (hplain : ∀ result ∈ response, ∀ frame ∈ result.2, frame.samples ≠ [] → frame.IsPlain)

include hwell hplain

/-- The rows of a response are those of its plain frames. -/
theorem mem_combinedData (h : row ∈ combinedData response) :
    ∃ result ∈ response, ∃ frame ∈ result.2, frame.samples ≠ [] ∧
      ∃ rowIndex < frame.dataLength, row = readRow frame rowIndex := by
  obtain ⟨result, hresult, h⟩ := List.mem_flatMap.1 h
  obtain ⟨frame, hframe, h⟩ := List.mem_flatMap.1 h
  by_cases hsamples : frame.samples = []
  · rw [transformFrame_of_samples_eq_nil (hwell result hresult frame hframe) hsamples] at h
    cases h
  · rw [transformFrame_of_isPlain (hplain result hresult frame hframe hsamples)
      (hwell result hresult frame hframe) hsamples] at h
    obtain ⟨rowIndex, hrow, rfl⟩ := List.mem_map.1 h
    exact ⟨result, hresult, frame, hframe, hsamples, rowIndex, List.mem_range.1 hrow, rfl⟩

/-- The records of a name and a time are those of the samples. -/
theorem filter_convertToLongFormat (name : String) (time : ℤ) :
    (convertToLongFormat now testRun panel (combinedData response)).filter
        (hasKey panel name time) =
      ((samples response).filter (isOf name time)).map (sampleRecord testRun panel time) := by
  -- The times are dates, and so the current time is never taken.
  have hnow : ∀ row ∈ combinedData response, ∀ n,
      (rowRecords (now n) testRun panel row).filter (hasKey panel name time) =
        (rowRecords (now 0) testRun panel row).filter (hasKey panel name time) := by
    intro row hrow n
    obtain ⟨result, hresult, frame, hframe, hsamples, rowIndex, hrowIndex, rfl⟩ :=
      mem_combinedData hwell hplain hrow
    have hframePlain := hplain result hresult frame hframe hsamples
    have hframeWell := hwell result hresult frame hframe
    rw [filter_rowRecords_readRow hframePlain hframeWell hrowIndex,
      filter_rowRecords_readRow hframePlain hframeWell hrowIndex]
  have hindex : (combinedData response).zipIdx.flatMap (fun row =>
      (rowRecords (now row.2) testRun panel row.1).filter (hasKey panel name time)) =
        (combinedData response).flatMap fun row =>
          (rowRecords (now 0) testRun panel row).filter (hasKey panel name time) := by
    conv_rhs => rw [← List.zipIdx_map_fst 0 (combinedData response), List.flatMap_map]
    exact List.flatMap_congr fun row hrow =>
      hnow row.1 (List.fst_mem_of_mem_zipIdx hrow) row.2
  rw [convertToLongFormat, List.filter_flatMap, hindex, combinedData, samples, List.flatMap_assoc,
    List.filter_flatMap, List.map_flatMap]
  refine List.flatMap_congr fun result hresult => ?_
  rw [List.flatMap_assoc, List.filter_flatMap, List.map_flatMap]
  refine List.flatMap_congr fun frame hframe => ?_
  by_cases hsamples : frame.samples = []
  · rw [transformFrame_of_samples_eq_nil (hwell result hresult frame hframe) hsamples, hsamples]
    rfl
  · have hframePlain := hplain result hresult frame hframe hsamples
    have hframeWell := hwell result hresult frame hframe
    rw [transformFrame_of_isPlain hframePlain hframeWell hsamples, Frame.samples,
      List.flatMap_map, List.filter_flatMap, List.map_flatMap]
    exact List.flatMap_congr fun rowIndex hrow =>
      filter_rowRecords_readRow hframePlain hframeWell (List.mem_range.1 hrow) name time

/-- Each record is that of a sample. -/
theorem exists_sample {record : MetricsRecord}
    (h : record ∈ convertToLongFormat now testRun panel (combinedData response)) :
    ∃ sample ∈ samples response, ∃ time : ℤ, sample.time = .number time ∧
      record = sampleRecord testRun panel time sample := by
  have hkey : ∃ name time, hasKey panel name time record := by
    obtain ⟨row, hrow, hrecord⟩ := List.mem_flatMap.1 h
    obtain ⟨result, hresult, frame, hframe, hsamples, rowIndex, hrowIndex, hread⟩ :=
      mem_combinedData hwell hplain (List.fst_mem_of_mem_zipIdx hrow)
    obtain ⟨t, -, htime⟩ := Frame.get_readRow_time
      (hplain result hresult frame hframe hsamples) (hwell result hresult frame hframe) hrowIndex
    rw [hread, rowRecords_eq htime fun _ => Frame.get_readRow_ne_undefined] at hrecord
    obtain ⟨entry, -, rfl⟩ := List.mem_map.1 hrecord
    refine ⟨entry.1, t, ?_⟩
    rw [hasKey_makeRecord]
    simp
  obtain ⟨name, time, hkey⟩ := hkey
  have hfilter := List.mem_filter.2 ⟨h, hkey⟩
  rw [filter_convertToLongFormat hwell hplain] at hfilter
  obtain ⟨sample, hsample, rfl⟩ := List.mem_map.1 hfilter
  obtain ⟨hsample, hof⟩ := List.mem_filter.1 hsample
  exact ⟨sample, hsample, time, (of_decide_eq_true hof).2, rfl⟩

end Frames

/-! ## Sorting and deduplicating -/

section Records

variable {l : List MetricsRecord} {record : MetricsRecord} {k : ℤ × String}

/-- What is kept is the first record of a name and a time. -/
theorem mem_deduplicate : record ∈ deduplicate l ↔
    ∃ k, l.find? (fun r => r.key = some k) = some record := by
  rw [deduplicate, List.mem_map]
  constructor
  · rintro ⟨⟨k, r⟩, hmem, rfl⟩
    rw [Table.mem_foldl_keepFirst, Option.map_id] at hmem
    exact ⟨k, hmem⟩
  · rintro ⟨k, hfind⟩
    refine ⟨(k, record), Table.mem_foldl_keepFirst.2 ?_, rfl⟩
    rw [Option.map_id]
    exact hfind

/-- No two records that are kept have the same name and time. -/
theorem nodup_deduplicate (l : List MetricsRecord) :
    ((deduplicate l).map fun r => (r.metricName, r.time)).Nodup := by
  have hnodup : ((l.foldl (Table.keepFirst MetricsRecord.key id) []).map Prod.fst).Nodup :=
    Table.nodup_foldl_keepFirst l List.nodup_nil
  have hkeys : (deduplicate l).map MetricsRecord.key =
      ((l.foldl (Table.keepFirst MetricsRecord.key id) []).map Prod.fst).map some := by
    rw [deduplicate, List.map_map, List.map_map]
    refine List.map_congr_left fun entry hentry => ?_
    obtain ⟨k, r⟩ := entry
    rw [Table.mem_foldl_keepFirst, Option.map_id] at hentry
    exact of_decide_eq_true (List.find?_eq_some_iff_append.1 hentry).1
  have hkey : (deduplicate l).map MetricsRecord.key =
      ((deduplicate l).map fun r => (r.metricName, r.time)).map
        fun p => p.2.map fun time => (time, p.1) := by
    rw [List.map_map]
    rfl
  have hnodupKeys : ((deduplicate l).map MetricsRecord.key).Nodup := by
    rw [hkeys]
    exact hnodup.map (Option.some_injective _)
  rw [hkey] at hnodupKeys
  exact hnodupKeys.of_map

theorem dropLastNull_sublist (l : List MetricsRecord) : (dropLastNull l).Sublist l := by
  rw [dropLastNull]
  split
  · split
    · exact List.dropLast_sublist l
    · exact List.Sublist.refl l
  · exact List.Sublist.refl l

/-- A record with a value is not dropped. -/
theorem mem_dropLastNull (h : record ∈ l) (hnull : record.value ≠ .cell .null)
    (hundefined : record.value ≠ .undefined) : record ∈ dropLastNull l := by
  rw [dropLastNull]
  split
  · rename_i lastItem hlast
    split
    · rename_i hvalue
      obtain ⟨rest, rfl⟩ := List.getLast?_eq_some_iff.1 hlast
      rw [List.dropLast_concat]
      rcases List.mem_append.1 h with h | h
      · exact h
      · obtain rfl := List.mem_singleton.1 h
        exact absurd hvalue (not_or.2 ⟨hnull, hundefined⟩)
    · exact h
  · exact h

end Records

/-! ## Names of metrics -/

section Names

variable {frame : Frame} {rowIndex : ℕ} {key : String} {row : Row} {value : Value}

theorem of_get_foldl_transformTimestamp {entries : List (String × Value)}
    (h : (entries.foldl transformTimestamp row).get key = some value) :
    key = "time" ∨ (∃ entry ∈ entries, entry.1 = key) ∨ row.get key = some value := by
  induction entries generalizing row with
  | nil => exact .inr (.inr h)
  | cons entry entries ih =>
    rcases ih h with htime | ⟨e, he, hkey⟩ | hrow
    · exact .inl htime
    · exact .inr (.inl ⟨e, List.mem_cons_of_mem _ he, hkey⟩)
    · by_cases hkey : entry.1 = key
      · exact .inr (.inl ⟨entry, List.mem_cons_self, hkey⟩)
      · by_cases htime : key = "time"
        · exact .inl htime
        · have hset : ∀ k v, k = entry.1 ∨ k = "time" → (row.set k v).get key = row.get key := by
            rintro k v (rfl | rfl)
            · rw [Table.get_set, if_neg (Ne.symm hkey)]
            · rw [Table.get_set, if_neg htime]
          refine .inr (.inr ?_)
          rw [transformTimestamp] at hrow
          split at hrow
          · split at hrow
            · rwa [hset _ _ (.inr rfl)] at hrow
            · rwa [hset _ _ (.inl rfl)] at hrow
          · rwa [hset _ _ (.inl rfl)] at hrow

/-- Whatever the frame is, a property of a row is the time or has the name of a number field. -/
theorem exists_field_of_get_readRow (h : (readRow frame rowIndex).get key = some value)
    (hkey : key ≠ "time") :
    ∃ field ∈ frame.fields, field.type = .number ∧ field.displayName = key := by
  rw [readRow, Table.get_mapRows, Option.map_eq_some_iff] at h
  obtain ⟨value, h, -⟩ := h
  rcases of_get_foldl_transformTimestamp h with htime | ⟨entry, hentry, rfl⟩ | hempty
  · exact absurd htime hkey
  · rcases Frame.of_get_cleanRow (Table.mem_rows.1 hentry) with
      htime | ⟨column, hcolumn, htype, hname⟩
    · exact absurd htime hkey
    · exact ⟨column.1, Frame.mem_fields_of_mem_columns hcolumn, htype, hname⟩
  · cases hempty

/-- Whatever the response is, a record is named after a number field. -/
theorem exists_field_of_mem {K : Type*} [LinearOrder K] {collationKey : String → K}
    {now : ℕ → String → ℤ} {testRun : Option TestRun} {panel : Panel} {response : PanelResponse}
    {records : List MetricsRecord} {record : MetricsRecord}
    (h : transformPanelData collationKey now testRun panel response = .ok records)
    (hrecord : record ∈ records) : ∃ result ∈ response, ∃ frame ∈ result.2,
      ∃ field ∈ frame.fields, field.type = .number ∧
        record.metricName = panel.metricName field.displayName := by
  rw [transformPanelData, sortAndDeduplicate] at h
  split at h
  swap
  · cases h
  rw [Except.map, Except.ok.injEq] at h
  rw [← h] at hrecord
  obtain ⟨k, hfind⟩ := mem_deduplicate.1 ((dropLastNull_sublist _).subset hrecord)
  have hmem := (List.mem_insertionSort _).1 (List.mem_of_find?_eq_some hfind)
  obtain ⟨row, hrow, hmem⟩ := List.mem_flatMap.1 hmem
  obtain ⟨entry, hentry, heq⟩ := List.mem_filterMap.1 hmem
  obtain ⟨result, hresult, hrow⟩ := List.mem_flatMap.1 (List.fst_mem_of_mem_zipIdx hrow)
  obtain ⟨frame, hframe, hrow⟩ := List.mem_flatMap.1 hrow
  rw [transformFrame_eq] at hrow
  split at hrow
  swap
  · cases hrow
  obtain ⟨rowIndex, -, hread⟩ := List.mem_map.1 hrow
  have hget := Table.mem_rows.1 hentry
  rw [Table.get_erase] at hget
  split at hget
  · cases hget
  · rename_i hkey
    rw [← hread] at hget
    obtain ⟨field, hfield, htype, hname⟩ := exists_field_of_get_readRow hget hkey
    refine ⟨result, hresult, frame, hframe, field, hfield, htype, ?_⟩
    split at heq
    · cases heq
    · rw [← Option.some.inj heq, hname]
      rfl

end Names

/-! ## The value that is kept -/

section Exact

variable {K : Type*} [LinearOrder K] {collationKey : String → K} {now : ℕ → String → ℤ}
  {testRun : Option TestRun} {panel : Panel} {response : PanelResponse} {name : String} {time : ℤ}
  {record : MetricsRecord}

/-- What records are sorted by. -/
def sortKey (collationKey : String → K) (record : MetricsRecord) : K ×ₗ ℤ ×ₗ ℚ :=
  toLex (collationKey record.metricName, toLex (record.time.getD 0, record.value.orZero))

/-- Records with dates are sorted by their keys, if names that differ do so to the sort. -/
theorem notBehind_iff {a b : MetricsRecord} {timeA timeB : ℤ} (hA : a.time = some timeA)
    (hB : b.time = some timeB)
    (hname : collationKey a.metricName = collationKey b.metricName →
      a.metricName = b.metricName) :
    notBehind collationKey a b = true ↔ sortKey collationKey a ≤ sortKey collationKey b := by
  rw [notBehind, sortKey, sortKey, Prod.Lex.le_iff, hA, hB]
  by_cases heq : a.metricName = b.metricName
  · rw [if_neg (not_not.2 heq), heq, Prod.Lex.le_iff]
    by_cases htime : timeA = timeB
    · simp [htime]
    · have hle : timeA ≤ timeB ↔ timeA < timeB := ⟨fun h => lt_of_le_of_ne h htime, le_of_lt⟩
      simp [htime, hle]
  · have hne : collationKey a.metricName ≠ collationKey b.metricName := mt hname heq
    rw [if_pos heq, decide_eq_true_eq]
    simp [hne, le_iff_lt_or_eq]

/-- The records of a name at a time are sorted by their values. -/
theorem sortKey_sampleRecord {s s' : Sample} (h : s.name = s'.name) :
    sortKey collationKey (sampleRecord testRun panel time s) ≤
        sortKey collationKey (sampleRecord testRun panel time s') ↔
      (Value.cell s.value).orZero ≤ (Value.cell s'.value).orZero := by
  rw [sortKey, sortKey, Prod.Lex.le_iff, Prod.Lex.le_iff]
  simp [sampleRecord, makeRecord, h]

theorem orZero_lt_zero_or {cell : Cell} (h : cell ≠ .null) (htext : ∀ text, cell ≠ .string text)
    (hle : (Value.cell cell).orZero ≤ 0) :
    (Value.cell cell).orZero < 0 ∨ cell = .number 0 := by
  cases cell with
  | null => exact absurd rfl h
  | string text => exact absurd rfl (htext text)
  | number value =>
    rcases lt_or_eq_of_le hle with hlt | heq
    · exact .inl hlt
    · exact .inr (congrArg Cell.number heq)

/-- The records of samples at a time, sorted. -/
def sortedRecords (collationKey : String → K) (testRun : Option TestRun) (panel : Panel)
    (time : ℤ) (ss : List Sample) : List MetricsRecord :=
  (ss.map (sampleRecord testRun panel time)).insertionSort
    fun a b => sortKey collationKey a ≤ sortKey collationKey b

/-- The first of the sorted records of a name at a time has a value if and only if nulls give way
    to the other cells. -/
theorem value_head?_ne_null_iff {ss : List Sample} (hname : ∀ s ∈ ss, s.name = name)
    (htext : ∀ s ∈ ss, ∀ text, s.value ≠ .string text) (hsome : ∃ s ∈ ss, s.value ≠ .null)
    (hhead : (sortedRecords collationKey testRun panel time ss).head? = some record) :
    record.value ≠ .cell .null ↔ NullsGiveWay (ss.map Sample.value) := by
  have htotal : Std.Total fun a b : MetricsRecord =>
    sortKey collationKey a ≤ sortKey collationKey b := ⟨fun _ _ => le_total _ _⟩
  have htrans : IsTrans MetricsRecord fun a b =>
    sortKey collationKey a ≤ sortKey collationKey b := ⟨fun _ _ _ => le_trans⟩
  obtain ⟨l₁, l₂, hsplit, hbefore, hafter⟩ := StableSort.head?_insertionSort hhead
  obtain ⟨s₁, rest, rfl, rfl, hrest⟩ := List.map_eq_append_iff.1 hsplit
  obtain ⟨s, s₂, rfl, rfl, rfl⟩ := List.map_eq_cons_iff.1 hrest
  have hs : s ∈ s₁ ++ s :: s₂ := List.mem_append_right _ List.mem_cons_self
  -- What stood before the least is greater, and what stood behind it is not less.
  have hgt : ∀ b ∈ s₁, (Value.cell s.value).orZero < (Value.cell b.value).orZero := by
    intro b hb
    have hle := hbefore _ (List.mem_map_of_mem hb)
    rw [sortKey_sampleRecord ((hname b (List.mem_append_left _ hb)).trans (hname s hs).symm)]
      at hle
    exact not_le.1 hle
  have hge : ∀ b ∈ s₂, (Value.cell s.value).orZero ≤ (Value.cell b.value).orZero := by
    intro b hb
    have hle := hafter _ (List.mem_map_of_mem hb)
    rwa [sortKey_sampleRecord ((hname s hs).trans (hname b (List.mem_append_right _
      (List.mem_cons_of_mem _ hb))).symm)] at hle
  have hvalue : (sampleRecord testRun panel time s).value = .cell s.value := rfl
  rw [hvalue]
  constructor
  · intro hne c₁ c₂ hcells _
    have hcell : s.value ≠ .null := fun h => hne (congrArg Value.cell h)
    have hnull : ∃ b ∈ s₁ ++ s :: s₂, b.value = .null :=
      List.mem_map.1 (hcells ▸ List.mem_append_right _ List.mem_cons_self)
    obtain ⟨b, hb, hbnull⟩ := hnull
    have hzero : (Value.cell b.value).orZero = 0 := by
      rw [hbnull]
      rfl
    -- The least is not more than the null.
    have hle : (Value.cell s.value).orZero ≤ 0 := by
      rw [← hzero]
      rcases List.mem_append.1 hb with hb | hb
      · exact (hgt b hb).le
      · rcases List.mem_cons.1 hb with rfl | hb
        · exact le_rfl
        · exact hge b hb
    rcases orZero_lt_zero_or hcell (htext s hs) hle with hneg | hszero
    · exact .inl ⟨s.value, List.mem_map_of_mem hs, hneg⟩
    · -- It is a zero, and so the first null is behind it.
      right
      have hnull₁ : Cell.null ∉ s₁.map Sample.value := by
        intro hmem
        obtain ⟨b', hb', hb'null⟩ := List.mem_map.1 hmem
        have hlt := hgt b' hb'
        rw [hb'null, hszero] at hlt
        exact lt_irrefl _ hlt
      rw [List.map_append, List.map_cons, hszero, List.append_eq_append_iff] at hcells
      rcases hcells with ⟨c, rfl, hc⟩ | ⟨c, hc₁, hc⟩
      · rcases List.cons_eq_append_iff.1 hc with ⟨-, h⟩ | ⟨c', rfl, -⟩
        · cases h
        · simp
      · rcases List.cons_eq_append_iff.1 hc with ⟨-, h⟩ | ⟨c', rfl, -⟩
        · cases h
        · exact absurd (hc₁ ▸ by simp) hnull₁
  · intro hgive hnull
    obtain ⟨s', hs', hs'value⟩ := hsome
    have hcell : s.value = .null := by simpa using hnull
    have hzero : (Value.cell s.value).orZero = 0 := by rw [hcell]; rfl
    rw [hzero] at hgt hge
    rcases hgive (s₁.map Sample.value) (s₂.map Sample.value) (by simp [hcell])
        ⟨s'.value, List.mem_map_of_mem hs', hs'value⟩ with ⟨cell, hmem, hneg⟩ | hmem
    · obtain ⟨b, hb, rfl⟩ := List.mem_map.1 hmem
      rcases List.mem_append.1 hb with hb | hb
      · exact absurd hneg (hgt b hb).not_gt
      · rcases List.mem_cons.1 hb with rfl | hb
        · exact absurd hneg (by rw [hzero]; exact lt_irrefl 0)
        · exact absurd hneg (hge b hb).not_gt
    · obtain ⟨b, hb, hbzero⟩ := List.mem_map.1 hmem
      have hlt := hgt b hb
      rw [hbzero] at hlt
      exact lt_irrefl _ hlt

/-- At most one record is returned for a name and a time, whatever the response is. -/
theorem nodup_transformPanelData {records : List MetricsRecord}
    (h : transformPanelData collationKey now testRun panel response = .ok records) :
    (records.map fun record => (record.metricName, record.time)).Nodup := by
  rw [transformPanelData, sortAndDeduplicate] at h
  split at h
  · rw [Except.map, Except.ok.injEq] at h
    rw [← h]
    exact (nodup_deduplicate _).sublist ((dropLastNull_sublist _).map _)
  · cases h

/-- A sample is a cell of a number field and one of the time field. -/
theorem exists_columns {sample : Sample} (h : sample ∈ samples response) :
    ∃ result ∈ response, ∃ frame ∈ result.2, frame.samples ≠ [] ∧
      (∃ column ∈ frame.columns, column.1.type = .number ∧ sample.value ∈ column.2) ∧
        ∃ column ∈ frame.columns, column.1.type = .time ∧ sample.time ∈ column.2 := by
  obtain ⟨result, hresult, h⟩ := List.mem_flatMap.1 h
  obtain ⟨frame, hframe, h⟩ := List.mem_flatMap.1 h
  refine ⟨result, hresult, frame, hframe, List.ne_nil_of_mem h, ?_⟩
  obtain ⟨rowIndex, -, h⟩ := List.mem_flatMap.1 h
  obtain ⟨column, hcolumn, h⟩ := List.mem_filterMap.1 h
  obtain ⟨hcolumn, htype⟩ := List.mem_filter.1 hcolumn
  rw [Frame.sampleAt] at h
  split at h
  · rename_i timeCell cell htime hcell
    obtain ⟨timeColumn, hfind, htimeCell⟩ := Option.bind_eq_some_iff.1 htime
    cases h
    exact ⟨⟨column, hcolumn, of_decide_eq_true htype, List.mem_of_getElem? hcell⟩, timeColumn,
      List.mem_of_find?_eq_some hfind,
      of_decide_eq_true (List.find?_eq_some_iff_append.1 hfind).1,
      List.mem_of_getElem? htimeCell⟩
  · cases h

/-- The first sorted record of a name and a time with a sample. -/
theorem exists_head? {ss : List Sample} {sample : Sample} (h : sample ∈ ss) :
    ∃ s ∈ ss, (sortedRecords collationKey testRun panel time ss).head? =
      some (sampleRecord testRun panel time s) := by
  have hmem := (List.mem_insertionSort fun a b : MetricsRecord =>
    sortKey collationKey a ≤ sortKey collationKey b).2
      (List.mem_map_of_mem (f := sampleRecord testRun panel time) h)
  obtain ⟨record, hrecord⟩ := Option.isSome_iff_exists.1
    (List.isSome_head?.2 (List.ne_nil_of_mem hmem))
  obtain ⟨s, hs, heq⟩ := List.mem_map.1
    ((List.mem_insertionSort _).1 (List.mem_of_mem_head? hrecord))
  exact ⟨s, hs, heq.symm ▸ hrecord⟩

section Plain

variable (hwell : ∀ result ∈ response, ∀ frame ∈ result.2, frame.IsWellFormed)

include hwell in
/-- The cells of numbers are no texts. -/
theorem value_ne_string {sample : Sample} (h : sample ∈ samples response) (text : String) :
    sample.value ≠ .string text := by
  obtain ⟨result, hresult, frame, hframe, -, ⟨column, hcolumn, htype, hvalue⟩, -⟩ :=
    exists_columns h
  exact (hwell result hresult frame hframe).cells column hcolumn (by simp [htype]) _ hvalue text

variable (hplain : IsPlain collationKey panel response)

include hwell hplain

/-- The records of a plain response, sorted. -/
theorem insertionSort_notBehind :
    ((convertToLongFormat now testRun panel (combinedData response)).insertionSort
        fun a b => notBehind collationKey a b) =
      (convertToLongFormat now testRun panel (combinedData response)).insertionSort
        fun a b => sortKey collationKey a ≤ sortKey collationKey b := by
  refine StableSort.insertionSort_congr fun a ha b hb => ?_
  obtain ⟨s, hs, t, -, rfl⟩ := exists_sample hwell hplain.frames ha
  obtain ⟨s', hs', t', -, rfl⟩ := exists_sample hwell hplain.frames hb
  exact notBehind_iff rfl rfl fun h => congrArg panel.metricName (hplain.names s hs s' hs' h)

theorem transformPanelData_of_isPlain :
    transformPanelData collationKey now testRun panel response =
      .ok (dropLastNull (deduplicate
        ((convertToLongFormat now testRun panel (combinedData response)).insertionSort
          fun a b => sortKey collationKey a ≤ sortKey collationKey b))) := by
  have hvalid : (convertToLongFormat now testRun panel (combinedData response)).all
      (·.time.isSome) = true := by
    refine List.all_eq_true.2 fun record hrecord => ?_
    obtain ⟨s, -, t, -, rfl⟩ := exists_sample hwell hplain.frames hrecord
    rfl
  rw [transformPanelData, sortAndDeduplicate, if_pos hvalid, insertionSort_notBehind hwell hplain]
  rfl

/-- What is kept for a name and a time is the first of its sorted records. -/
theorem find?_insertionSort (name : String) (time : ℤ) :
    ((convertToLongFormat now testRun panel (combinedData response)).insertionSort
        fun a b => sortKey collationKey a ≤ sortKey collationKey b).find?
          (fun r => r.key = some (time, panel.metricName name)) =
      (sortedRecords collationKey testRun panel time
        ((samples response).filter (isOf name time))).head? := by
  have htotal : Std.Total fun a b : MetricsRecord =>
    sortKey collationKey a ≤ sortKey collationKey b := ⟨fun _ _ => le_total _ _⟩
  have htrans : IsTrans MetricsRecord fun a b =>
    sortKey collationKey a ≤ sortKey collationKey b := ⟨fun _ _ _ => le_trans⟩
  have hfilter : (convertToLongFormat now testRun panel (combinedData response)).filter
      (hasKey panel name time) = _ := filter_convertToLongFormat hwell hplain.frames name time
  rw [sortedRecords, ← hfilter, ← StableSort.filter_insertionSort, List.head?_filter]
  rfl

theorem sound_of_isPlain {records : List MetricsRecord}
    (h : transformPanelData collationKey now testRun panel response = .ok records) :
    ∀ record ∈ records, ∃ sample ∈ samples response,
      record.metricName = panel.metricName sample.name ∧ record.value = .cell sample.value ∧
        ∃ time : ℤ, record.time = some time ∧ sample.time = .number time := by
  intro record hrecord
  rw [transformPanelData_of_isPlain hwell hplain, Except.ok.injEq] at h
  rw [← h] at hrecord
  obtain ⟨k, hfind⟩ := mem_deduplicate.1 ((dropLastNull_sublist _).subset hrecord)
  have hmem := (List.mem_insertionSort _).1 (List.mem_of_find?_eq_some hfind)
  obtain ⟨sample, hsample, time, htime, rfl⟩ := exists_sample hwell hplain.frames hmem
  exact ⟨sample, hsample, rfl, rfl, time, rfl, htime⟩

/-- Of a plain response the records are the samples, if and only if at each time nulls give way to
    the other cells of their name. -/
theorem isExact_iff :
    (∃ records, transformPanelData collationKey now testRun panel response = .ok records ∧
        IsExact panel response records) ↔
      ∀ name time, NullsGiveWay (cellsAt response name time) := by
  have hhead : ∀ name time record, (∃ s ∈ (samples response).filter (isOf name time),
      s.value ≠ .null) → (sortedRecords collationKey testRun panel time
        ((samples response).filter (isOf name time))).head? = some record →
          (record.value ≠ .cell .null ↔ NullsGiveWay (cellsAt response name time)) := by
    intro name time record hsome hrecord
    have hname : ∀ s ∈ (samples response).filter (isOf name time), s.name = name :=
      fun s hs => (of_decide_eq_true (List.mem_filter.1 hs).2).1
    exact value_head?_ne_null_iff hname
      (fun s hs => value_ne_string hwell (List.mem_filter.1 hs).1) hsome hrecord
  constructor
  · rintro ⟨records, hok, hexact⟩ name time
    rw [transformPanelData_of_isPlain hwell hplain, Except.ok.injEq] at hok
    intro l₁ l₂ hcells hsome
    have hsome' : ∃ s ∈ (samples response).filter (isOf name time), s.value ≠ .null := by
      obtain ⟨cell, hcell, hne⟩ := hsome
      obtain ⟨s, hs, rfl⟩ := List.mem_map.1 hcell
      exact ⟨s, hs, hne⟩
    obtain ⟨s, hs, hne⟩ := hsome'
    obtain ⟨hmem, hof⟩ := List.mem_filter.1 hs
    obtain ⟨rfl, htime⟩ := of_decide_eq_true hof
    obtain ⟨record, hrecord, hname, hvalue, t, ht, hms⟩ := hexact.complete s hmem hne time htime
    obtain rfl : t = time := by exact_mod_cast hms
    -- The record is the one that is kept for the name and the time.
    rw [← hok] at hrecord
    obtain ⟨k, hfind⟩ := mem_deduplicate.1 ((dropLastNull_sublist _).subset hrecord)
    have hk : record.key = some k := of_decide_eq_true (List.find?_eq_some_iff_append.1 hfind).1
    rw [MetricsRecord.key, ht, hname, Option.map_some, Option.some.injEq] at hk
    rw [← hk, find?_insertionSort hwell hplain] at hfind
    exact (hhead s.name t record ⟨s, hs, hne⟩ hfind).1 hvalue l₁ l₂ hcells hsome
  · intro hgive
    have hok : transformPanelData collationKey now testRun panel response = _ :=
      transformPanelData_of_isPlain hwell hplain
    refine ⟨_, hok, nodup_transformPanelData hok, sound_of_isPlain hwell hplain hok, ?_⟩
    intro sample hsample hne ms hms
    obtain ⟨result, hresult, frame, hframe, hsamples, -, column, hcolumn, htype, htime⟩ :=
      exists_columns hsample
    obtain ⟨t, -, ht⟩ := (hplain.frames result hresult frame hframe hsamples).times column hcolumn
      htype _ htime
    obtain rfl : (t : ℚ) = ms := by
      rw [hms] at ht
      exact (Cell.number.inj ht).symm
    have hof : sample ∈ (samples response).filter (isOf sample.name t) :=
      List.mem_filter.2 ⟨hsample, decide_eq_true ⟨rfl, ht⟩⟩
    obtain ⟨s, hs, hrecord⟩ : ∃ s ∈ (samples response).filter (isOf sample.name t),
        (sortedRecords collationKey testRun panel t _).head? =
          some (sampleRecord testRun panel t s) := exists_head? hof
    have hvalue := (hhead sample.name t _ ⟨sample, hof, hne⟩ hrecord).2 (hgive sample.name t)
    rw [← find?_insertionSort hwell hplain] at hrecord
    refine ⟨_, mem_dropLastNull (mem_deduplicate.2 ⟨_, hrecord⟩) hvalue nofun, ?_, hvalue, t, rfl,
      rfl⟩
    exact congrArg panel.metricName (of_decide_eq_true (List.mem_filter.1 hs).2).1

end Plain

theorem nullsGiveWay_cellsAt (h : ∀ sample ∈ samples response, sample.value ≠ .null) :
    NullsGiveWay (cellsAt response name time) := by
  intro l₁ l₂ hcells
  have hnull : Cell.null ∈ cellsAt response name time :=
    hcells ▸ List.mem_append_right _ List.mem_cons_self
  obtain ⟨s, hs, heq⟩ := List.mem_map.1 hnull
  exact absurd heq (h s (List.mem_of_mem_filter hs))

/-- A frame with one sample of a series, at some time. -/
def seriesFrame (name : String) (time value : Cell) : Frame where
  fields := [{ type := .time, name := "time", displayNameFromDS := none },
    { type := .number, name := name, displayNameFromDS := none }]
  values := [[time], [value]]

theorem seriesFrame_isWellFormed {t v : ℚ} :
    (seriesFrame name (.number t) (.number v)).IsWellFormed := by
  refine ⟨rfl, by simp [seriesFrame, Frame.dataLength], ⟨_, rfl⟩, ?_⟩
  simp [seriesFrame, Frame.columns]

theorem samples_seriesFrame {t v : Cell} : samples [("A", [seriesFrame name t v])] =
    [{ name := name, time := t, value := v }] := rfl

/-- A series whose name is not mistaken has a record of that name. -/
theorem exists_record_seriesFrame (htime : name.toLower ≠ "time") (hproto : name ≠ "__proto__")
    {t : ℤ} (ht : |t| ≤ 8640000000000000) (v : ℚ) :
    ∃ records, transformPanelData collationKey now testRun panel
        [("A", [seriesFrame name (.number t) (.number v)])] = .ok records ∧
      ∃ record ∈ records, record.metricName = panel.metricName name := by
  have hplain : (seriesFrame name (.number t) (.number v)).IsPlain := by
    refine ⟨?_, ?_, ?_, ?_⟩
    · simp only [seriesFrame, Frame.columns, List.zip_cons_cons, List.zip_nil_right, List.mem_cons,
        List.not_mem_nil, or_false]
      rintro column (rfl | rfl) htype cell hcell
      · exact ⟨t, ht, List.mem_singleton.1 hcell⟩
      · cases htype
    · simp [seriesFrame, Field.displayName, htime, hproto]
    · simp [seriesFrame]
    · simp [seriesFrame]
  have hseries : IsPlain collationKey panel
      [("A", [seriesFrame name (.number t) (.number v)])] := by
    refine ⟨by simpa using fun _ => hplain, fun s hs s' hs' _ => ?_⟩
    rw [samples_seriesFrame] at hs hs'
    rw [List.mem_singleton.1 hs, List.mem_singleton.1 hs']
  obtain ⟨records, hok, hexact⟩ : ∃ records, transformPanelData collationKey now testRun panel
      [("A", [seriesFrame name (.number t) (.number v)])] = .ok records ∧
        IsExact panel [("A", [seriesFrame name (.number t) (.number v)])] records := by
    refine (isExact_iff (by simpa using seriesFrame_isWellFormed) hseries).2
      fun name' time => nullsGiveWay_cellsAt fun s hs => ?_
    rw [samples_seriesFrame] at hs
    rw [List.mem_singleton.1 hs]
    exact nofun
  obtain ⟨record, hrecord, hname, -⟩ := hexact.complete
    { name := name, time := .number t, value := .number v } List.mem_cons_self nofun t rfl
  exact ⟨records, hok, record, hrecord, hname⟩

end Exact

/-! ## Examples -/

/-- A panel as it is, of which nothing is repeated. -/
def plainPanel : Panel := { perfanaMetricPrefix := none, unit := none }

/-- A series of InfluxDB: its time field is named otherwise. -/
def fluxFrame : Frame where
  fields := [{ type := .time, name := "_time", displayNameFromDS := none },
    { type := .number, name := "_usage", displayNameFromDS := none }]
  values := [[.number 1784016945000, .number 1784016960000], [.number 11, .number 6]]

end Perfana.GrafanaFrames
