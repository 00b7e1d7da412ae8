import Perfana.Lib.UniqueIndex
import Perfana.SutTransfer.Arrivals

/-!
# Exporting a bundle

An export writes the rows of a system under test to a bundle, one table after another: the rows of
its tables, of the runs that are selected, and those that they refer to. Whether the optional tables
and the samples are in it is up to the options. The rows of a table come in any order.

* `entries_exportBundle`: the rows that an import takes from a bundle are those that were exported;
* `arrival_sent`: what is written for one of them, which is handed over to the organization, without
  its team.
-/

namespace Perfana.SutTransfer

/-- What is to be exported. -/
structure ExportOptions where
  /-- The ids of the runs. -/
  testRunIds : List String
  /-- Whether optional tables are included. -/
  includeOptional : Bool
  /-- Whether samples are included. -/
  includeRaw : Bool
  deriving DecidableEq

/-- The tables of a bundle. -/
def selectResources (opts : ExportOptions) : List SutResource :=
  SUT_RESOURCES.filter fun r =>
    match r.group with
    | .core => true
    | .shared => true
    | .optional => opts.includeOptional
    | .raw => opts.includeRaw

/-! ## The rows that are selected -/

section Selected

variable (source : Database) (sutId : String)

/-- Whether a column of a row is one of some values. -/
def cellIn (row : Stored) (column : String) (values : List String) : Bool :=
  values.any fun value => cell row column = some value

/-- The values of a column. -/
def columnOf (rows : List Stored) (column : String) : List String :=
  rows.filterMap fun row => cell row column

/-- The rows of a table that belong to the system. -/
def ofSut (table : String) : List Stored :=
  (source table).filter fun row => cell row "system_under_test_id" = some sutId

/-- What the queries of an export are given. -/
structure ExportContext where
  sutId : String
  testRunUuids : List String
  testRunKeys : List String
  appDashboardIds : List String

/-- The selected runs that belong to the system, and its dashboards. -/
def exportContext (opts : ExportOptions) : ExportContext where
  sutId := sutId
  testRunUuids := columnOf ((ofSut source sutId "test_runs").filter fun run =>
    cellIn run "id" opts.testRunIds) "id"
  testRunKeys := columnOf ((ofSut source sutId "test_runs").filter fun run =>
    cellIn run "id" opts.testRunIds) "test_run_id"
  appDashboardIds := columnOf (ofSut source sutId "application_dashboards") "id"

/-- The rows of the shared tables that the system refers to. -/
def isReferenced (table : String) (row : Stored) : Bool :=
  match table with
  | "pyroscope_instances" =>
    cellIn row "id" (columnOf ((source "systems_under_test").filter fun sut =>
      cell sut "id" = some sutId) "pyroscope_instance_id")
  | "grafana_instances" =>
    let dashboards := ofSut source sutId "application_dashboards"
    cellIn row "id" (columnOf dashboards "grafana_instance_id") ||
      cellIn row "id" (columnOf ((source "grafana_dashboards").filter fun dashboard =>
        cellIn dashboard "id" (columnOf dashboards "grafana_dashboard_id")) "grafana_instance_id")
  | "grafana_dashboards" =>
    cellIn row "id" (columnOf (ofSut source sutId "application_dashboards") "grafana_dashboard_id")
  | "dynatrace_configs" =>
    cellIn row "id" (columnOf (ofSut source sutId "dynatrace_entity_mappings")
      "dynatrace_config_id") ||
    cellIn row "id" (columnOf (ofSut source sutId "dynatrace_queries") "dynatrace_config_id")
  | "report_templates" =>
    cellIn row "id" (columnOf ((source "generated_reports").filter fun report =>
      cellIn report "test_run_id" (columnOf (ofSut source sutId "test_runs") "id")) "template_id")
  | _ => false

/-- Whether the query for a table selects a row. -/
def buildQuery (resource : SutResource) (ctx : ExportContext) (row : Stored) : Bool :=
  match resource.filter with
  | .byReference => isReferenced source ctx.sutId resource.table row
  | .bySut =>
    if resource.table = "systems_under_test" then cell row "id" = some ctx.sutId
    else if resource.table = "test_runs" then cellIn row "id" ctx.testRunUuids
    else cell row "system_under_test_id" = some ctx.sutId
  | .byTestRunVarchar => cellIn row "test_run_id" ctx.testRunKeys
  | .byTestRunUuid => cellIn row "test_run_id" ctx.testRunUuids
  | .byAppDashboard => cellIn row "application_dashboard_id" ctx.appDashboardIds
  | .byTestEnvironment =>
    cellIn row "system_under_test_test_environment_id"
      (columnOf (ofSut source ctx.sutId "system_under_test_test_environments") "id")

/-- The rows of a table that are selected. -/
def selectedRows (opts : ExportOptions) (resource : SutResource) : List Stored :=
  (source resource.table).filter (buildQuery source resource (exportContext source sutId opts))

end Selected

/-! ## The lines that are written -/

section Lines

variable (s : Schema) (render : String → String → String → Json)

/-- `row_to_json`, with a value for each column. -/
def rowToJson (table : String) (row : Stored) : Json :=
  .obj ((s.columns table).map fun column =>
    (column, match cell row column with
      | some text => render table column text
      | none => .null))

/-- The lines of a table, with its rows. -/
def tableLines (table : String) (rows : List Stored) : List Line :=
  .json (.obj [("__table__", .str table)]) ::
    rows.map fun row => .json (rowToJson s render table row)

/-- What a bundle says of itself. -/
structure Stamp where
  appVersion : String
  exportedAt : String

/-- The first line of a bundle. -/
def manifestLine (stamp : Stamp) (ctx : ExportContext) (sutName : Json) (opts : ExportOptions) :
    Line :=
  .json (.obj [("__manifest__", .obj [
    ("schemaVersion", .num "1"),
    ("appVersion", .str stamp.appVersion),
    ("sourceSutId", .str ctx.sutId),
    ("sutName", sutName),
    ("testRunIds", .arr (ctx.testRunUuids.map .str)),
    ("includeOptional", .bool opts.includeOptional),
    ("includeRaw", .bool opts.includeRaw),
    ("exportedAt", .str stamp.exportedAt)])])

/-- The last line of a bundle. -/
def summaryLine (counts : List (String × ℕ)) : Line :=
  .json (.obj [("__summary__", .obj [("counts",
    .obj (counts.map fun count => (count.1, .num (toString count.2))))])])

/-- The order in which the rows of each table are read. -/
abbrev TableOrder := String → RowOrder Stored

/-- The rows of a table, as they are read. -/
def exportedRows (source : Database) (sutId : String) (order : TableOrder) (opts : ExportOptions)
    (resource : SutResource) : List Stored :=
  (order resource.table).read (selectedRows source sutId opts resource)

/-- A bundle of a system, if it is there. -/
def exportBundle (source : Database) (sutId : String) (order : TableOrder) (stamp : Stamp)
    (opts : ExportOptions) : Option (List Line) :=
  match (source "systems_under_test").find? fun sut => cell sut "id" = some sutId with
  | none => none
  | some sut =>
    let ctx := exportContext source sutId opts
    let sutName := match cell sut "name" with
      | some name => render "systems_under_test" "name" name
      | none => .null
    let rows := exportedRows source sutId order opts
    some (manifestLine stamp ctx sutName opts ::
      (selectResources opts).flatMap (fun r => tableLines s render r.table (rows r)) ++
      [summaryLine ((selectResources opts).map fun r => (r.table, (rows r).length))])

end Lines

/-! ## What an import takes -/

/-- What is relied on between two environments: the columns of the rows are read as they were
    written, and none has the name of a mark. -/
structure Transfers (s : Schema) (render : String → String → String → Json) (organization : String)
    (source : Database) : Prop where
  /-- A value is not written as `null`, and it is read as it was, -/
  read_render : ∀ table, ∀ row ∈ source table, ∀ column ∈ s.columns table, ∀ text,
    cell row column = some text → render table column text ≠ .null ∧
      s.read table column (render table column text) = some text
  /-- so is an organization, -/
  read_organization : ∀ table, "organization_id" ∈ s.columns table →
    s.read table "organization_id" (.str organization) = some organization
  /-- and keys are written as strings. -/
  render_key : ∀ table column, column ∈ ["test_run_id", "template_id", "rule_id"] →
    ∀ text, render table column text = .str text
  unmarked : ∀ table, ∀ column ∈ s.columns table,
    column ∉ ["__table__", "__summary__", "__manifest__"]
  /-- The tables that are purged have the column that they are purged by. -/
  run_column : ∀ table ∈ PURGE_BY_RUN_TABLES, PURGE_SCOPE_COLUMN ∈ s.columns table

/-- A row that is handed over to an organization, without its team; some columns are cleared. -/
def handedOver (s : Schema) (organization : String) (cleared : List String) (table : String)
    (row : Stored) : Stored :=
  (s.columns table).filterMap fun column =>
    (if column = "team_id" ∨ column ∈ cleared then none
      else if column = "organization_id" then some organization
      else cell row column).map fun text => (column, text)

section Entries

variable {s : Schema} {render : String → String → String → Json} {organization : String}
  {source : Database} {table sutId : String} {row : Stored}

/-- The row of a bundle, as it is written by an import. -/
abbrev sent (s : Schema) (render : String → String → String → Json) (organization : String)
    (table : String) (row : Stored) : Json := remap organization (rowToJson s render table row)

theorem lookup_map_pair {α : Type*} (f : String → α) {columns : List String} {column : String} :
    (columns.map fun c => (c, f c)).lookup column =
      if column ∈ columns then some (f column) else none := by
  induction columns with
  | nil => rfl
  | cons c columns ih =>
    rw [List.map_cons]
    by_cases h : column = c
    · subst h
      rw [List.lookup_cons_self, if_pos List.mem_cons_self]
    · rw [List.lookup_cons, beq_false_of_ne h, ih]
      simp [h]

theorem lookup_filterMap_pair {α : Type*} (f : String → Option α) {columns : List String}
    {column : String} :
    (columns.filterMap fun c => (f c).map fun a => (c, a)).lookup column =
      if column ∈ columns then f column else none := by
  induction columns with
  | nil => rfl
  | cons c columns ih =>
    rw [List.filterMap_cons]
    by_cases h : column = c
    · subst h
      rw [if_pos List.mem_cons_self]
      cases hf : f column with
      | some a => exact List.lookup_cons_self
      | none =>
        refine ih.trans ?_
        rw [hf, ite_self]
    · have hmem : column ∈ c :: columns ↔ column ∈ columns := by simp [h]
      rw [if_congr hmem rfl rfl, ← ih]
      cases f c with
      | none => rfl
      | some a => exact (List.lookup_cons ..).trans (by rw [beq_false_of_ne h])

/-- The values of a row in a bundle. -/
def sentValue (render : String → String → String → Json) (organization : String)
    (cleared : List String) (table : String) (row : Stored) (column : String) : Json :=
  if column = "team_id" ∨ column ∈ cleared then .null
  else if column = "organization_id" then .str organization
  else match cell row column with
    | some text => render table column text
    | none => .null

theorem sent_eq : sent s render organization table row = .obj ((s.columns table).map fun column =>
    (column, sentValue render organization [] table row column)) := by
  rw [sent, remap, rowToJson, Json.setExisting, Json.setExisting, List.map_map, List.map_map]
  refine congrArg Json.obj (List.map_congr_left fun column _ => ?_)
  simp only [Function.comp_apply, sentValue, List.not_mem_nil, or_false]
  by_cases horg : column = "organization_id"
  · subst horg
    rfl
  · rw [if_neg horg]
    by_cases hteam : column = "team_id" <;> simp [horg, hteam]

/-- A row in a bundle, with some of its columns cleared. -/
abbrev sentWithout (s : Schema) (render : String → String → String → Json) (organization : String)
    (cleared : List String) (table : String) (row : Stored) : Json :=
  .obj ((s.columns table).map fun column =>
    (column, sentValue render organization cleared table row column))

theorem field_sentWithout {cleared : List String} {column : String} :
    (sentWithout s render organization cleared table row).field column =
      if column ∈ s.columns table then sentValue render organization cleared table row column
      else .null := by
  rw [sentWithout, Json.field, lookup_map_pair]
  split <;> rfl

theorem spreadWith_sent {column : String} :
    (sentWithout s render organization [] table row).spreadWith column .null =
      sentWithout s render organization [column] table row := by
  rw [sentWithout, Json.spreadWith, Json.setExisting, List.map_map]
  refine congrArg Json.obj (List.map_congr_left fun c _ => ?_)
  simp only [Function.comp_apply, sentValue, List.not_mem_nil, or_false, List.mem_singleton]
  by_cases h : c = column <;> simp [h]

/-- What an import reads from a row. -/
theorem populate_sentWithout (h : Transfers s render organization source)
    (hrow : row ∈ source table) (cleared : List String) :
    s.populate table (sentWithout s render organization cleared table row) =
      some (handedOver s organization cleared table row) := by
  rw [sentWithout, Schema.populate, Option.map_eq_some_iff]
  refine ⟨(s.columns table).map fun column =>
    (if column = "team_id" ∨ column ∈ cleared then none
      else if column = "organization_id" then some organization
      else cell row column).map fun text => (column, text), mapM_eq_some_iff.2 ?_, ?_⟩
  · rw [List.map_map]
    refine List.map_congr_left fun column hcolumn => ?_
    rw [lookup_map_pair, if_pos hcolumn, Option.getD_some, Function.comp_apply, sentValue]
    by_cases hclear : column = "team_id" ∨ column ∈ cleared
    · rw [if_pos hclear, if_pos hclear]
      rfl
    · rw [if_neg hclear, if_neg hclear]
      by_cases horg : column = "organization_id"
      · subst horg
        rw [if_pos rfl, if_pos rfl]
        change (s.read table "organization_id" (.str organization)).map _ = _
        rw [h.read_organization table hcolumn]
        rfl
      · rw [if_neg horg, if_neg horg]
        cases hcell : cell row column with
        | none => rfl
        | some text =>
          obtain ⟨hnull, htext⟩ := h.read_render table row hrow column hcolumn text hcell
          dsimp only
          split
          · exact absurd ‹_› hnull
          · rw [htext]
            rfl
  · rw [List.reduceOption, List.filterMap_map]
    rfl

theorem cell_handedOver {cleared : List String} {column : String} :
    cell (handedOver s organization cleared table row) column =
      if column ∈ s.columns table then
        if column = "team_id" ∨ column ∈ cleared then none
        else if column = "organization_id" then some organization
        else cell row column
      else none := by
  rw [handedOver, cell, lookup_filterMap_pair]

/-- The number of a row is its id. -/
theorem cell_nonSerialColumns {column : String} (h : column ≠ "id") :
    cell (nonSerialColumns table row) column = cell row column := by
  rw [nonSerialColumns]
  split
  · rw [cell, cell]
    induction row with
    | nil => rfl
    | cons c row ih =>
      by_cases hid : c.1 = "id"
      · rw [List.filter_cons_of_neg (by simpa using hid), ih]
        exact (List.lookup_cons ..).trans (by rw [hid, beq_false_of_ne h]) |>.symm
      · rw [List.filter_cons_of_pos (by simpa using hid)]
        exact (List.lookup_cons ..).trans ((by rw [ih] : _ = _).trans (List.lookup_cons ..).symm)
  · rfl

/-! ## The lines of a table -/

theorem content_table (h : table ≠ "") :
    content (.obj [("__table__", .str table)]) = .table (.str table) := by
  have htruthy : (Json.str table).truthy = true := by simpa [Json.truthy] using h
  have hfield : (Json.obj [("__table__", .str table)]).field "__table__" = .str table := rfl
  rw [content, hfield, htruthy]
  rfl

theorem content_summary (counts : List (String × ℕ)) :
    ∃ v, summaryLine counts = .json v ∧ content v = .note := ⟨_, rfl, rfl⟩

/-- A row is not taken for the mark of anything else. -/
theorem content_rowToJson (h : Transfers s render organization source) :
    content (rowToJson s render table row) = .row (rowToJson s render table row) := by
  have hfield : ∀ mark ∈ ["__table__", "__summary__", "__manifest__"],
      (rowToJson s render table row).field mark = .null := by
    intro mark hmark
    rw [rowToJson, Json.field, lookup_map_pair, if_neg fun hmem => h.unmarked table mark hmem hmark]
    rfl
  rw [content, hfield _ (by simp), hfield _ (by simp), hfield _ (by simp)]
  rfl

theorem entriesFrom_rows (h : Transfers s render organization source) (rows : List Stored)
    (batch : List Json) (lines : List Line) :
    entriesFrom organization (some table) batch
        (rows.map (fun row => Line.json (rowToJson s render table row)) ++ lines) =
      entriesFrom organization (some table)
        (batch ++ rows.map (sent s render organization table)) lines := by
  induction rows generalizing batch with
  | nil => rw [List.map_nil, List.map_nil, List.nil_append, List.append_nil]
  | cons row rows ih =>
    rw [List.map_cons, List.cons_append, entriesFrom, content_rowToJson h]
    dsimp only
    rw [ih, List.map_cons, List.append_assoc, List.singleton_append]

/-- The rows of a table in a bundle. -/
def sentRows (s : Schema) (render : String → String → String → Json) (organization : String)
    (table : String) (rows : List Stored) : List (String × Json) :=
  rows.map fun row => (table, sent s render organization table row)

theorem entriesFrom_tableLines (h : Transfers s render organization source) (ht : table ≠ "")
    (rows : List Stored) (current : Option String) (lines : List Line) :
    entriesFrom organization current [] (tableLines s render table rows ++ lines) =
      sentRows s render organization table rows ++
        entriesFrom organization (some table) [] lines := by
  have htagged : tagged current [] = [] := by cases current <;> rfl
  have hbatch : (if current.isNone then ([] : List Json) else []) = [] := ite_self _
  rw [tableLines, List.cons_append, entriesFrom, content_table ht]
  dsimp only
  rw [htagged, hbatch, List.nil_append, entriesFrom_rows h, List.nil_append, entriesFrom_some,
    List.map_map]
  rfl

theorem entriesFrom_tables (h : Transfers s render organization source) {rs : List SutResource}
    (hrs : ∀ r ∈ rs, r.table ≠ "") (rows : SutResource → List Stored) (current : Option String)
    (counts : List (String × ℕ)) :
    entriesFrom organization current []
        (rs.flatMap (fun r => tableLines s render r.table (rows r)) ++ [summaryLine counts]) =
      rs.flatMap fun r => sentRows s render organization r.table (rows r) := by
  induction rs generalizing current with
  | nil =>
    obtain ⟨v, hv, hnote⟩ := content_summary counts
    rw [List.flatMap_nil, List.nil_append, hv, entriesFrom, hnote]
    cases current <;> rfl
  | cons r rs ih =>
    rw [List.flatMap_cons, List.flatMap_cons, List.append_assoc,
      entriesFrom_tableLines h (hrs r List.mem_cons_self),
      ih fun r hr => hrs r (List.mem_cons_of_mem _ hr)]

/-- The rows that an import takes from a bundle are those that were exported. -/
theorem entries_exportBundle (h : Transfers s render organization source) {order : TableOrder}
    {stamp : Stamp} {opts : ExportOptions} {file : List Line}
    (hfile : exportBundle s render source sutId order stamp opts = some file) :
    entries organization file = (selectResources opts).flatMap fun r =>
      sentRows s render organization r.table (exportedRows source sutId order opts r) := by
  rw [exportBundle] at hfile
  split at hfile
  · cases hfile
  · obtain rfl := Option.some.inj hfile
    rw [entries, List.cons_append, List.tail_cons]
    refine entriesFrom_tables h (fun r hr => ?_) _ _ _
    have hnames : ∀ r ∈ SUT_RESOURCES, r.table ≠ "" := by decide
    exact hnames r (List.mem_of_mem_filter hr)

/-! ## What arrives -/

/-- A row of the source as it arrives where `parents` are there. -/
def transferred (s : Schema) (organization : String) (parents : Database) (table : String)
    (row : Stored) : Option Stored :=
  let whole := handedOver s organization [] table row
  if table = "generated_reports" then
    if (cell whole "template_id").any (hasId parents "report_templates") then some whole else none
  else if table = "ds_metric_series_groups" then
    if (cell whole "rule_id").all (hasId parents "series_grouping_rules") then some whole
    else some (handedOver s organization ["rule_id"] table row)
  else some (nonSerialColumns table whole)

/-- Keys are there as strings. -/
theorem field_sent (h : Transfers s render organization source) {column : String}
    (hcolumn : column ∈ ["test_run_id", "template_id", "rule_id"]) :
    (sent s render organization table row).field column =
      match cell (handedOver s organization [] table row) column with
      | some text => .str text
      | none => .null := by
  have hclear : ¬(column = "team_id" ∨ column ∈ ([] : List String)) := by
    rintro (rfl | h)
    · revert hcolumn
      decide
    · cases h
  have horg : column ≠ "organization_id" := by rintro rfl; revert hcolumn; decide
  rw [sent_eq, field_sentWithout, cell_handedOver, sentValue]
  by_cases hmem : column ∈ s.columns table
  · rw [if_pos hmem, if_pos hmem, if_neg hclear, if_neg hclear, if_neg horg, if_neg horg]
    cases cell row column with
    | none => rfl
    | some text => exact h.render_key table column hcolumn text
  · rw [if_neg hmem, if_neg hmem]

/-- The row that is written for one of a bundle. -/
theorem arrival_sent (h : Transfers s render organization source) (hrow : row ∈ source table)
    (db : Database) : arrival s db table (sent s render organization table row) =
      transferred s organization db table row := by
  have hpopulate := populate_sentWithout h hrow
  have hserial : ∀ t ∈ ["generated_reports", "ds_metric_series_groups"], ∀ row,
      nonSerialColumns t row = row := fun t ht row => if_neg (by revert t; decide)
  rw [arrival, prepare, transferred]
  by_cases hreports : table = "generated_reports"
  · rw [if_pos hreports, if_pos hreports, parentPresent, field_sent h (by simp)]
    cases cell (handedOver s organization [] table row) "template_id" with
    | none => rfl
    | some id =>
      simp only [Json.isNull, Json.toJsString, Option.any_some, Bool.not_false, Bool.true_and]
      split
      · rw [Option.bind_some, sent_eq, hpopulate, Option.map_some,
          hserial table (by simp [hreports])]
      · rfl
  · rw [if_neg hreports, if_neg hreports]
    by_cases hgroups : table = "ds_metric_series_groups"
    · have hserial := hserial table (by simp [hgroups])
      rw [if_pos hgroups, if_pos hgroups, parentPresent, field_sent h (by simp), Option.bind_some]
      cases cell (handedOver s organization [] table row) "rule_id" with
      | none =>
        simp only [Json.isNull, Bool.true_or, if_true, Option.all_none]
        rw [sent_eq, hpopulate, Option.map_some, hserial]
      | some id =>
        simp only [Json.isNull, Json.toJsString, Option.all_some, Bool.false_or]
        split
        · rw [sent_eq, hpopulate, Option.map_some, hserial]
        · rw [sent_eq, spreadWith_sent, hpopulate, Option.map_some, hserial]
    · rw [if_neg hgroups, if_neg hgroups, Option.bind_some, sent_eq, hpopulate, Option.map_some]

end Entries

end Perfana.SutTransfer
