import Perfana.SutTransfer.Export
import Perfana.SutTransfer.Samples

/-!
# Topping up

What an import of a bundle makes of a target, table by table. Exports of one system differ in the
runs that they carry, and in whether optional tables and samples are in them; what several of them
make of a target (`topUp`) is built up bundle by bundle.

* `rowsOf_new`: what a bundle writes to a table;
* `newRows_step`: what a further bundle adds to a table with keys;
* `topUp_step`: what it replaces in a table of samples.
-/

namespace Perfana.SutTransfer

variable {s : Schema} {render : String → String → String → Json} {organization : String}
  {source db : Database} {sutId table : String} {row : Stored}

/-! ## One bundle -/

/-- A table is not before the one that its rows refer to. -/
def InOrder (rs : List SutResource) : Prop :=
  rs.Pairwise fun r r' => r.table ≠ r'.table ∧
    (r.table = "generated_reports" → r'.table ≠ "report_templates") ∧
    (r.table = "ds_metric_series_groups" → r'.table ≠ "series_grouping_rules")

theorem inOrder_selectResources (opts : ExportOptions) : InOrder (selectResources opts) := by
  have hall : InOrder SUT_RESOURCES := by
    unfold InOrder
    decide
  exact hall.sublist List.filter_sublist

theorem rowsOf_arrivals_sentRows (h : Transfers s render organization source) {rows : List Stored}
    (hrows : ∀ row ∈ rows, row ∈ source table) :
    arrivals s db (sentRows s render organization table rows) =
      (skipping (s.clash table) (db table)
        (rows.filterMap (transferred s organization db table))).map fun row => (table, row) := by
  have hsent : sentRows s render organization table rows =
      (rows.map (sent s render organization table)).map fun row => (table, row) := by
    rw [sentRows, List.map_map]
    rfl
  rw [hsent, arrivals_batch, List.filterMap_map]
  refine congrArg _ (congrArg _ (List.filterMap_congr fun row hrow => ?_))
  exact arrival_sent h (hrows row hrow) db

theorem hasId_congr {db' : Database} (h : db table = db' table) (id : String) :
    hasId db table id = hasId db' table id := by
  rw [hasId, hasId, h]

/-- Only the tables of its parents matter to a row. -/
theorem transferred_congr {db' : Database}
    (hreports : table = "generated_reports" →
      ∀ id, hasId db "report_templates" id = hasId db' "report_templates" id)
    (hgroups : table = "ds_metric_series_groups" →
      ∀ id, hasId db "series_grouping_rules" id = hasId db' "series_grouping_rules" id) :
    transferred s organization db table row = transferred s organization db' table row := by
  rw [transferred, transferred]
  by_cases ht : table = "generated_reports"
  · rw [if_pos ht, if_pos ht, funext (hreports ht)]
  · rw [if_neg ht, if_neg ht]
    by_cases hg : table = "ds_metric_series_groups"
    · rw [if_pos hg, if_pos hg, funext (hgroups hg)]
    · rw [if_neg hg, if_neg hg]

theorem rowsOf_arrivals_of_not_mem {rs : List SutResource} {rows : SutResource → List Stored}
    (h : Transfers s render organization source)
    (hrows : ∀ r ∈ rs, ∀ row ∈ rows r, row ∈ source r.table) (ht : ∀ r ∈ rs, r.table ≠ table) :
    rowsOf table (arrivals s db (rs.flatMap fun r =>
      sentRows s render organization r.table (rows r))) = [] := by
  induction rs generalizing db with
  | nil => rfl
  | cons r rs ih =>
    rw [List.flatMap_cons, arrivals_append, rowsOf_append,
      rowsOf_arrivals_sentRows h (hrows r List.mem_cons_self),
      rowsOf_tagged_of_ne (ht r List.mem_cons_self), List.nil_append]
    exact ih (fun r hr => hrows r (List.mem_cons_of_mem _ hr)) fun r hr =>
      ht r (List.mem_cons_of_mem _ hr)

/-- What a bundle writes to a table: its rows as they arrive where all of the bundle is there, but
    for those that clash. -/
theorem rowsOf_arrivals {rs : List SutResource} {rows : SutResource → List Stored}
    (h : Transfers s render organization source)
    (hrows : ∀ r ∈ rs, ∀ row ∈ rows r, row ∈ source r.table) (horder : InOrder rs)
    {r : SutResource} (hr : r ∈ rs) :
    let new := arrivals s db (rs.flatMap fun r => sentRows s render organization r.table (rows r))
    rowsOf r.table new = skipping (s.clash r.table) (db r.table)
      ((rows r).filterMap (transferred s organization (extend db new) r.table)) := by
  induction rs generalizing db with
  | nil => cases hr
  | cons r' rs ih =>
    obtain ⟨hlater, horder⟩ := List.pairwise_cons.1 horder
    have hhead := hrows r' List.mem_cons_self
    have htail : ∀ r ∈ rs, ∀ row ∈ rows r, row ∈ source r.table := fun r hr =>
      hrows r (List.mem_cons_of_mem _ hr)
    dsimp only
    rw [List.flatMap_cons, arrivals_append, rowsOf_append]
    rcases List.mem_cons.1 hr with rfl | hr
    · -- The rest of the bundle is of other tables, and none is that of a parent.
      rw [rowsOf_arrivals_of_not_mem h htail fun r' hr' => (hlater r' hr').1.symm,
        rowsOf_arrivals_sentRows h hhead, rowsOf_tagged, List.append_nil]
      have hparent : ∀ p, r.table ≠ p → (∀ r' ∈ rs, r'.table ≠ p) →
          db p = extend db ((skipping (s.clash r.table) (db r.table)
            ((rows r).filterMap (transferred s organization db r.table))).map
              (fun row => (r.table, row)) ++
            arrivals s (extend db (arrivals s db
              (sentRows s render organization r.table (rows r))))
              (rs.flatMap fun r => sentRows s render organization r.table (rows r))) p := by
        intro p hp hrs
        rw [extend, rowsOf_append, rowsOf_tagged_of_ne hp, rowsOf_arrivals_of_not_mem h htail hrs,
          List.append_nil, List.append_nil]
      rw [rowsOf_arrivals_sentRows h hhead] at hparent
      refine congrArg _ (List.filterMap_congr fun row _ => transferred_congr ?_ ?_)
      · exact fun ht => hasId_congr (hparent _ (by rw [ht]; decide) fun r' hr' =>
          (hlater r' hr').2.1 ht)
      · exact fun ht => hasId_congr (hparent _ (by rw [ht]; decide) fun r' hr' =>
          (hlater r' hr').2.2 ht)
    · have hne : r'.table ≠ r.table := (hlater r hr).1
      have hrest := @ih (extend db (arrivals s db
        (sentRows s render organization r'.table (rows r')))) htail horder hr
      have hnone : rowsOf r.table (arrivals s db
          (sentRows s render organization r'.table (rows r'))) = [] := by
        rw [rowsOf_arrivals_sentRows h hhead, rowsOf_tagged_of_ne hne]
      dsimp only at hrest
      rw [hnone, List.nil_append, hrest, extend_extend, extend, hnone, List.append_nil]

/-! ## What is carried -/

section Carried

variable (s : Schema) (organization : String) (source : Database) (sutId : String)

/-- Whether an export has a row of a table. -/
def selects (opts : ExportOptions) (table : String) (row : Stored) : Bool :=
  (selectResources opts).any fun r =>
    r.table = table && buildQuery source r (exportContext source sutId opts) row

/-- The rows of a table that are in one of some exports. -/
def carried (done : List ExportOptions) (table : String) : List Stored :=
  (source table).filter fun row => done.any fun opts => selects source sutId opts table row

/-- The rows of some exports that are written to a table. -/
def newRows (prior parents : Database) (done : List ExportOptions) (table : String) :
    List Stored :=
  ((carried source sutId done table).filterMap (transferred s organization parents table)).filter
    fun row => !(prior table).any (s.clash table row)

/-- What any export has is there for the rows that refer to it. -/
def parentsAfter (prior : Database) : Database := fun table =>
  prior table ++ newRows s organization source sutId prior prior
    [{ testRunIds := [], includeOptional := false, includeRaw := false }] table

/-- What some exports make of a target. -/
def topUp (prior : Database) (done : List ExportOptions) : Database := fun table =>
  if table ∈ PURGE_BY_RUN_TABLES then
    (prior table).filter (fun row => !(carried source sutId done table).any fun r =>
        (cell r PURGE_SCOPE_COLUMN).isSome &&
          cell r PURGE_SCOPE_COLUMN = cell row PURGE_SCOPE_COLUMN) ++
      (carried source sutId done table).filterMap (transferred s organization prior table)
  else prior table ++ newRows s organization source sutId prior
    (parentsAfter s organization source sutId prior) done table

/-- The rows of some exports are told apart by the unique keys that they have in the target. -/
structure KeysSurvive (all : List ExportOptions) : Prop where
  nodup : ∀ table ∉ PURGE_BY_RUN_TABLES, (carried source sutId all table).Nodup
  clash_iff : ∀ table ∉ PURGE_BY_RUN_TABLES, ∀ row ∈ carried source sutId all table,
    ∀ row' ∈ carried source sutId all table, ∀ parents x x',
      transferred s organization parents table row = some x →
      transferred s organization parents table row' = some x' →
        (s.clash table x x' = true ↔ row = row')

end Carried

variable {s : Schema} {render : String → String → String → Json} {organization : String}
  {source prior db : Database} {sutId table : String} {row : Stored}
  {done all : List ExportOptions} {opts : ExportOptions}

theorem mem_carried : row ∈ carried source sutId done table ↔
    row ∈ source table ∧ ∃ opts ∈ done, selects source sutId opts table row = true := by
  rw [carried, List.mem_filter, List.any_eq_true]

theorem mem_newRows {parents : Database} {x : Stored} :
    x ∈ newRows s organization source sutId prior parents done table ↔
      (∃ row ∈ carried source sutId done table,
        transferred s organization parents table row = some x) ∧
      (prior table).any (s.clash table x) = false := by
  rw [newRows, List.mem_filter, List.mem_filterMap, Bool.not_eq_true']

/-! ## What is selected -/

/-- A table is that of one resource. -/
theorem eq_of_table {r r' : SutResource} (hr : r ∈ selectResources opts)
    (hr' : r' ∈ selectResources opts) (h : r.table = r'.table) : r = r' := by
  have hunique : ∀ r ∈ SUT_RESOURCES, ∀ r' ∈ SUT_RESOURCES, r.table = r'.table → r = r' := by
    decide +kernel
  exact hunique r (List.mem_of_mem_filter hr) r' (List.mem_of_mem_filter hr') h

theorem selects_of_mem {r : SutResource} (hr : r ∈ selectResources opts) :
    selects source sutId opts r.table row =
      buildQuery source r (exportContext source sutId opts) row := by
  rw [Bool.eq_iff_iff, selects, List.any_eq_true]
  constructor
  · rintro ⟨r', hr', h⟩
    rw [Bool.and_eq_true, decide_eq_true_eq] at h
    rw [← eq_of_table hr' hr h.1]
    exact h.2
  · exact fun h => ⟨r, hr, by rw [h, decide_eq_true rfl]; rfl⟩

theorem selects_of_not_mem (h : ∀ r ∈ selectResources opts, r.table ≠ table) :
    selects source sutId opts table row = false := by
  rw [selects, List.any_eq_false]
  intro r hr
  rw [decide_eq_false (h r hr)]
  exact Bool.false_ne_true

/-- The rows of samples are selected by their runs. -/
theorem selects_of_purged (ht : table ∈ PURGE_BY_RUN_TABLES) (row : Stored) :
    selects source sutId opts table row = (((selectResources opts).any fun r => r.table = table) &&
      cellIn row PURGE_SCOPE_COLUMN (exportContext source sutId opts).testRunKeys) := by
  have hfilter : ∀ r ∈ SUT_RESOURCES, r.table ∈ PURGE_BY_RUN_TABLES →
      r.filter = .byTestRunVarchar := by decide
  by_cases h : ∃ r ∈ selectResources opts, r.table = table
  · obtain ⟨r, hr, rfl⟩ := h
    have hany : ((selectResources opts).any fun r' => r'.table = r.table) = true :=
      List.any_eq_true.2 ⟨r, hr, decide_eq_true rfl⟩
    rw [selects_of_mem hr, buildQuery, hfilter r (List.mem_of_mem_filter hr) ht, hany]
    rfl
  · have hnone : ∀ r ∈ selectResources opts, r.table ≠ table := fun r hr heq => h ⟨r, hr, heq⟩
    have hany : ((selectResources opts).any fun r => r.table = table) = false :=
      List.any_eq_false.2 fun r hr => by simpa using hnone r hr
    rw [selects_of_not_mem hnone, hany]
    rfl

/-- The rows that others refer to are in each export. -/
theorem selects_parent {opts' : ExportOptions}
    (hp : table ∈ ["report_templates", "series_grouping_rules"])
    (h : selects source sutId opts table row = true) :
    selects source sutId opts' table row = true := by
  have hparent : ∀ r ∈ SUT_RESOURCES, r.table ∈ ["report_templates", "series_grouping_rules"] →
      (r.group = .core ∨ r.group = .shared) ∧ (r.filter = .byReference ∨ r.filter = .bySut) ∧
        r.table ≠ "systems_under_test" ∧ r.table ≠ "test_runs" := by decide
  rw [selects, List.any_eq_true] at h ⊢
  obtain ⟨r, hr, h⟩ := h
  rw [Bool.and_eq_true, decide_eq_true_eq] at h
  obtain ⟨rfl, hquery⟩ := h
  obtain ⟨hgroup, hfilter, hsut, hruns⟩ := hparent r (List.mem_of_mem_filter hr) hp
  refine ⟨r, List.mem_filter.2 ⟨List.mem_of_mem_filter hr, ?_⟩, ?_⟩
  · rcases hgroup with hgroup | hgroup <;> rw [hgroup]
  · rw [decide_eq_true rfl, Bool.true_and]
    rcases hfilter with hfilter | hfilter
    · rw [buildQuery, hfilter] at hquery ⊢
      exact hquery
    · rw [buildQuery, hfilter] at hquery ⊢
      dsimp only at hquery ⊢
      rw [if_neg hsut, if_neg hruns] at hquery ⊢
      exact hquery

/-- What a bundle writes to a table: the rows that are selected, as they arrive where all of the
    bundle is there, but for those that clash. -/
theorem rowsOf_new (h : Transfers s render organization source) {order : TableOrder}
    {stamp : Stamp} {file : List Line}
    (hfile : exportBundle s render source sutId order stamp opts = some file) (table : String) :
    let new := arrivals s db (entries organization file)
    ∃ rows : List Stored, rows.Perm ((source table).filter (selects source sutId opts table)) ∧
      rowsOf table new = skipping (s.clash table) (db table)
        (rows.filterMap (transferred s organization (extend db new) table)) := by
  rw [entries_exportBundle h hfile]
  have hperm : ∀ r, (exportedRows source sutId order opts r).Perm
      (selectedRows source sutId opts r) := fun r => (order r.table).perm _
  have hrows : ∀ r ∈ selectResources opts, ∀ row ∈ exportedRows source sutId order opts r,
      row ∈ source r.table := fun r _ row hrow =>
    List.mem_of_mem_filter ((hperm r).mem_iff.1 hrow)
  by_cases ht : ∃ r ∈ selectResources opts, r.table = table
  · obtain ⟨r, hr, rfl⟩ := ht
    refine ⟨exportedRows source sutId order opts r, ?_,
      rowsOf_arrivals h hrows (inOrder_selectResources opts) hr⟩
    refine (hperm r).trans (.of_eq (List.filter_congr fun row _ => ?_))
    exact (selects_of_mem hr).symm
  · have hnone : ∀ r ∈ selectResources opts, r.table ≠ table := fun r hr heq => ht ⟨r, hr, heq⟩
    refine ⟨[], ?_, rowsOf_arrivals_of_not_mem h hrows hnone⟩
    rw [List.filter_eq_nil_iff.2 fun row _ => by rw [selects_of_not_mem hnone]; simp]

/-! ## Tables with keys -/

section Keys

variable {parents : Database} {new rows : List Stored}

theorem carried_subset (h : ∀ opts ∈ done, opts ∈ all)
    (hrow : row ∈ carried source sutId done table) : row ∈ carried source sutId all table := by
  obtain ⟨hsource, opts, hopts, hselects⟩ := mem_carried.1 hrow
  exact mem_carried.2 ⟨hsource, opts, h opts hopts, hselects⟩

/-- The rows of a further bundle are added, but for those that are there. -/
theorem newRows_step (hkeys : KeysSurvive s organization source sutId all)
    (ht : table ∉ PURGE_BY_RUN_TABLES) (hall : ∀ o ∈ done ++ [opts], o ∈ all)
    (hnew : new.Nodup)
    (hmem : ∀ x, x ∈ new ↔ x ∈ newRows s organization source sutId prior parents done table)
    (hrows : rows.Perm ((source table).filter (selects source sutId opts table))) :
    let written := skipping (s.clash table) (prior table ++ new)
      (rows.filterMap (transferred s organization parents table))
    (new ++ written).Nodup ∧ ∀ x, x ∈ new ++ written ↔
      x ∈ newRows s organization source sutId prior parents (done ++ [opts]) table := by
  have hdone : ∀ row ∈ carried source sutId done table, row ∈ carried source sutId all table :=
    fun row => carried_subset fun o ho => hall o (List.mem_append_left _ ho)
  have hopts : ∀ row ∈ rows, row ∈ carried source sutId all table := by
    intro row hrow
    obtain ⟨hsource, hselects⟩ := List.mem_filter.1 (hrows.mem_iff.1 hrow)
    exact mem_carried.2 ⟨hsource, opts, hall opts (by simp), hselects⟩
  have hclash : ∀ {x x' : Stored} {row row' : Stored}, row ∈ carried source sutId all table →
      row' ∈ carried source sutId all table →
      transferred s organization parents table row = some x →
      transferred s organization parents table row' = some x' →
        (s.clash table x x' = true ↔ x = x') := by
    intro x x' row row' hrow hrow' hx hx'
    have hiff := hkeys.clash_iff table ht row hrow row' hrow' parents x x' hx hx'
    constructor
    · intro h
      obtain rfl := hiff.1 h
      exact Option.some.inj (hx.symm.trans hx')
    · rintro rfl
      exact (hkeys.clash_iff table ht row hrow row hrow parents x x hx hx).2 rfl
  have hwritten : ∀ a ∈ rows.filterMap (transferred s organization parents table),
      ∀ b ∈ rows.filterMap (transferred s organization parents table),
        s.clash table a b = true ↔ a = b := by
    intro a ha b hb
    obtain ⟨row, hrow, hx⟩ := List.mem_filterMap.1 ha
    obtain ⟨row', hrow', hx'⟩ := List.mem_filterMap.1 hb
    exact hclash (hopts row hrow) (hopts row' hrow') hx hx'
  dsimp only
  refine ⟨List.nodup_append.2 ⟨hnew, nodup_skipping hwritten, ?_⟩, fun x => ?_⟩
  · rintro x hx y hy rfl
    obtain ⟨hrow, hfree⟩ := (mem_skipping hwritten).1 hy
    obtain ⟨row, hrow, hx'⟩ := List.mem_filterMap.1 hrow
    rw [List.any_append, Bool.or_eq_false_iff] at hfree
    exact List.any_eq_false.1 hfree.2 x hx
      ((hclash (hopts row hrow) (hopts row hrow) hx' hx').2 rfl)
  · rw [List.mem_append, hmem, mem_skipping hwritten, List.any_append, Bool.or_eq_false_iff,
      mem_newRows, mem_newRows, List.mem_filterMap]
    constructor
    · rintro (⟨⟨row, hrow, hx⟩, hfree⟩ | ⟨⟨row, hrow, hx⟩, hfree, -⟩)
      · exact ⟨⟨row, carried_subset (fun o ho => List.mem_append_left _ ho) hrow, hx⟩, hfree⟩
      · obtain ⟨hsource, hselects⟩ := List.mem_filter.1 (hrows.mem_iff.1 hrow)
        exact ⟨⟨row, mem_carried.2 ⟨hsource, opts, by simp, hselects⟩, hx⟩, hfree⟩
    · rintro ⟨⟨row, hrow, hx⟩, hfree⟩
      obtain ⟨hsource, o, ho, hselects⟩ := mem_carried.1 hrow
      rcases List.mem_append.1 ho with ho | ho
      · exact .inl ⟨⟨row, mem_carried.2 ⟨hsource, o, ho, hselects⟩, hx⟩, hfree⟩
      · rw [List.mem_singleton.1 ho] at hselects
        have hin : row ∈ rows := hrows.mem_iff.2 (List.mem_filter.2 ⟨hsource, hselects⟩)
        by_cases hold : new.any (s.clash table x) = true
        · -- A row that clashes with it is the same, and it is there already.
          obtain ⟨y, hy, hxy⟩ := List.any_eq_true.1 hold
          obtain ⟨⟨row', hrow', hy'⟩, -⟩ := mem_newRows.1 ((hmem y).1 hy)
          obtain rfl := (hclash (hopts row hin) (hdone row' hrow') hx hy').1 hxy
          exact .inl ⟨⟨row', hrow', hy'⟩, hfree⟩
        · exact .inr ⟨⟨row, hin, hx⟩, hfree, by simpa using hold⟩

end Keys

/-! ## Tables of samples -/

section Runs

/-- What is written for a sample is of its run. -/
theorem cell_run_of_transferred (h : Transfers s render organization source)
    (ht : table ∈ PURGE_BY_RUN_TABLES) {parents : Database} {x : Stored}
    (hx : transferred s organization parents table row = some x) :
    cell x PURGE_SCOPE_COLUMN = cell row PURGE_SCOPE_COLUMN := by
  have hparents : ∀ t ∈ PURGE_BY_RUN_TABLES, t ≠ "generated_reports" ∧
      t ≠ "ds_metric_series_groups" := by decide
  rw [transferred, if_neg (hparents table ht).1, if_neg (hparents table ht).2] at hx
  obtain rfl := Option.some.inj hx
  rw [cell_nonSerialColumns (by decide), cell_handedOver, if_pos (h.run_column table ht),
    if_neg (by decide), if_neg (by decide)]

theorem field_run (h : Transfers s render organization source) (ht : table ∈ PURGE_BY_RUN_TABLES) :
    (sent s render organization table row).field PURGE_SCOPE_COLUMN =
      match cell row PURGE_SCOPE_COLUMN with
      | some run => .str run
      | none => .null := by
  have hcell : cell (handedOver s organization [] table row) PURGE_SCOPE_COLUMN =
      cell row PURGE_SCOPE_COLUMN := by
    rw [cell_handedOver, if_pos (h.run_column table ht), if_neg (by decide), if_neg (by decide)]
  have hfield := @field_sent s render organization source table row h PURGE_SCOPE_COLUMN (by decide)
  rw [hcell] at hfield
  exact hfield

/-- The rows that an import takes from a bundle are those that are selected. -/
theorem mem_entries (h : Transfers s render organization source) {order : TableOrder}
    {stamp : Stamp} {file : List Line}
    (hfile : exportBundle s render source sutId order stamp opts = some file) {json : Json} :
    (table, json) ∈ entries organization file ↔ ∃ row ∈ source table,
      selects source sutId opts table row = true ∧ json = sent s render organization table row := by
  rw [entries_exportBundle h hfile, List.mem_flatMap]
  constructor
  · rintro ⟨r, hr, hmem⟩
    obtain ⟨row, hrow, heq⟩ := List.mem_map.1 hmem
    cases heq
    obtain ⟨hsource, hquery⟩ := List.mem_filter.1 (((order r.table).perm _).mem_iff.1 hrow)
    exact ⟨row, hsource, (selects_of_mem hr).trans hquery, rfl⟩
  · rintro ⟨row, hrow, hselects, rfl⟩
    obtain ⟨r, hr, htable⟩ := List.any_eq_true.1 hselects
    rw [Bool.and_eq_true, decide_eq_true_eq] at htable
    obtain ⟨rfl, hquery⟩ := htable
    refine ⟨r, hr, List.mem_map_of_mem (((order r.table).perm _).mem_iff.2 ?_)⟩
    exact List.mem_filter.2 ⟨hrow, hquery⟩

/-- A row is of the run of one that is selected. -/
def ofSelected (source : Database) (sutId : String) (opts : ExportOptions) (table : String)
    (row : Stored) : Prop :=
  ∃ row' ∈ source table, selects source sutId opts table row' = true ∧
    ∃ run, cell row' PURGE_SCOPE_COLUMN = some run ∧ cell row PURGE_SCOPE_COLUMN = some run

/-- The runs that are purged are those of the rows that are selected. -/
theorem isPurged_entries (h : Transfers s render organization source)
    (ht : table ∈ PURGE_BY_RUN_TABLES) {order : TableOrder} {stamp : Stamp} {file : List Line}
    (hfile : exportBundle s render source sutId order stamp opts = some file) (row : Stored) :
    isPurged (purgeScopes (entries organization file)) table row = true ↔
      ofSelected source sutId opts table row := by
  rw [isPurged_iff]
  constructor
  · rintro ⟨run, hscope, hcell⟩
    obtain ⟨json, hmem, -, hnull, hrun⟩ := mem_purgeScopes.1 hscope
    obtain ⟨row', hrow', hselects, rfl⟩ := (mem_entries h hfile).1 hmem
    rw [field_run h ht] at hnull hrun
    cases hcell' : cell row' PURGE_SCOPE_COLUMN with
    | none =>
      rw [hcell'] at hnull
      cases hnull
    | some run' =>
      rw [hcell'] at hrun
      obtain rfl := Option.some.inj hrun
      exact ⟨row', hrow', hselects, run', hcell', hcell⟩
  · rintro ⟨row', hrow', hselects, run, hcell', hcell⟩
    refine ⟨run, mem_purgeScopes.2 ⟨_, (mem_entries h hfile).2 ⟨row', hrow', hselects, rfl⟩, ht,
      ?_, ?_⟩, hcell⟩ <;>
    · rw [field_run h ht, hcell']
      rfl

/-- Whether a sample is selected is up to its run. -/
theorem selects_iff_ofSelected (ht : table ∈ PURGE_BY_RUN_TABLES) (hrow : row ∈ source table) :
    selects source sutId opts table row = true ↔ ofSelected source sutId opts table row := by
  have hcells : selects source sutId opts table row = true →
      ∃ run, cell row PURGE_SCOPE_COLUMN = some run := by
    intro h
    rw [selects_of_purged ht, Bool.and_eq_true, cellIn] at h
    obtain ⟨run, -, hrun⟩ := List.any_eq_true.1 h.2
    exact ⟨run, of_decide_eq_true hrun⟩
  constructor
  · intro h
    obtain ⟨run, hrun⟩ := hcells h
    exact ⟨row, hrow, h, run, hrun, hrun⟩
  · rintro ⟨row', -, hselects, run, hrun', hrun⟩
    rw [selects_of_purged ht, cellIn] at hselects ⊢
    rwa [hrun, ← hrun']

/-- Samples name their runs in a bundle. -/
theorem nameTheirRuns (h : Transfers s render organization source) {order : TableOrder}
    {stamp : Stamp} {file : List Line}
    (hfile : exportBundle s render source sutId order stamp opts = some file) :
    NameTheirRuns s (entries organization file) := by
  rintro ⟨t, json⟩ hentry ht parents stored harrival
  obtain ⟨row, hrow, hselects, rfl⟩ := (mem_entries h hfile).1 hentry
  obtain ⟨-, -, -, run, -, hrun⟩ := (selects_iff_ofSelected ht hrow).1 hselects
  rw [arrival_sent h hrow] at harrival
  refine isPurged_iff.2 ⟨run, mem_purgeScopes.2 ⟨_, List.mem_singleton_self _, ht, ?_, ?_⟩,
    (cell_run_of_transferred h ht harrival).trans hrun⟩ <;>
  · rw [field_run h ht, hrun]
    rfl

theorem any_carried_iff : ((carried source sutId done table).any fun r =>
    (cell r PURGE_SCOPE_COLUMN).isSome && cell r PURGE_SCOPE_COLUMN = cell row PURGE_SCOPE_COLUMN) =
      true ↔ ∃ opts ∈ done, ofSelected source sutId opts table row := by
  rw [List.any_eq_true]
  constructor
  · rintro ⟨r, hr, h⟩
    obtain ⟨hsource, opts, hopts, hselects⟩ := mem_carried.1 hr
    rw [Bool.and_eq_true, decide_eq_true_eq] at h
    obtain ⟨run, hrun⟩ := Option.isSome_iff_exists.1 h.1
    exact ⟨opts, hopts, r, hsource, hselects, run, hrun, h.2.symm.trans hrun⟩
  · rintro ⟨opts, hopts, r, hsource, hselects, run, hrun, hcell⟩
    refine ⟨r, mem_carried.2 ⟨hsource, opts, hopts, hselects⟩, ?_⟩
    rw [hrun, hcell]
    simp

/-- What samples become with a further bundle: those of its runs are replaced. -/
theorem topUp_step (h : Transfers s render organization source) (ht : table ∈ PURGE_BY_RUN_TABLES)
    {rows : List Stored}
    (hrows : rows.Perm ((source table).filter (selects source sutId opts table)))
    {purged : Stored → Bool}
    (hpurged : ∀ row, purged row = true ↔ ofSelected source sutId opts table row) :
    ((topUp s organization source sutId prior done table).filter (fun row => !purged row) ++
      rows.filterMap (transferred s organization prior table)).Perm
        (topUp s organization source sutId prior (done ++ [opts]) table) := by
  have hcarried : ∀ row, (done ++ [opts]).any (fun o => selects source sutId o table row) =
      (done.any (fun o => selects source sutId o table row) ||
        selects source sutId opts table row) :=
    fun row => by rw [List.any_append, List.any_cons, List.any_nil, Bool.or_false]
  -- The rows that are carried are those of the bundle, and the others.
  have hsplit : (carried source sutId (done ++ [opts]) table).Perm
      ((carried source sutId done table).filter (fun row => !selects source sutId opts table row) ++
        rows) := by
    have hparts := List.filter_append_perm (selects source sutId opts table)
      (carried source sutId (done ++ [opts]) table)
    refine hparts.symm.trans (List.perm_append_comm.trans (.append (.of_eq ?_) ?_))
    · rw [carried, carried, List.filter_filter, List.filter_filter]
      refine List.filter_congr fun row _ => ?_
      rw [hcarried]
      cases selects source sutId opts table row <;> simp
    · refine .trans (.of_eq ?_) hrows.symm
      rw [carried, List.filter_filter]
      refine List.filter_congr fun row _ => ?_
      rw [hcarried]
      cases selects source sutId opts table row <;> simp
  rw [topUp, topUp, if_pos ht, if_pos ht, List.filter_append, List.filter_filter, List.append_assoc]
  refine .append (.of_eq (List.filter_congr fun row _ => ?_)) ?_
  · rw [Bool.eq_iff_iff, Bool.and_eq_true, Bool.not_eq_true', Bool.not_eq_true', Bool.not_eq_true',
      ← Bool.not_eq_true, ← Bool.not_eq_true, ← Bool.not_eq_true, hpurged, any_carried_iff,
      any_carried_iff]
    simp [and_comm]
  · refine .trans ?_ (hsplit.filterMap _).symm
    rw [List.filterMap_append]
    refine .append_right _ (.of_eq ?_)
    rw [List.filter_filterMap, List.filterMap_filter]
    refine List.filterMap_congr fun row hrow => ?_
    cases hx : transferred s organization prior table row with
    | none => simp
    | some x =>
      -- It is deleted if the bundle has it, too.
      have hsame : purged x = selects source sutId opts table row := by
        rw [Bool.eq_iff_iff, hpurged, selects_iff_ofSelected ht (mem_carried.1 hrow).1, ofSelected,
          ofSelected, cell_run_of_transferred h ht hx]
      rw [Option.filter_some, hsame]

end Runs

end Perfana.SutTransfer
