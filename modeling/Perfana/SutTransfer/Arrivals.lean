import Perfana.Lib.MapM
import Perfana.SutTransfer.Import

/-!
# The rows that an import writes and deletes

Row by row, an import writes those of the bundle that have a place (`arrivals`), and deletes the
rows of the runs that it has samples, panels or change points of (`purgeScopes`).

* `arrivals_batch`: it does not matter how the rows are cut into batches;
* `Inv.insertBatch`: what a batch writes and deletes, and that it keeps the rest;
* `of_importLines`: what batches keep holds when all lines have been read.
-/

namespace Perfana.SutTransfer

/-! ## Row by row -/

/-- The rows of a table among those written. -/
def rowsOf (table : String) (log : List (String × Stored)) : List Stored :=
  log.filterMap fun write => if write.1 = table then some write.2 else none

/-- A database with rows written to it. -/
def extend (db : Database) (log : List (String × Stored)) : Database :=
  fun table => db table ++ rowsOf table log

section Arrivals

variable (s : Schema)

/-- The row of a bundle that is proposed to a table: a report without its template is dropped, and
    a rule that is not there is cleared. -/
def prepare (db : Database) (table : String) (row : Json) : Option Json :=
  if table = "generated_reports" then
    if !(row.field "template_id").isNull && parentPresent db "template_id" "report_templates" row
    then some row else none
  else if table = "ds_metric_series_groups" then
    some (if (row.field "rule_id").isNull || parentPresent db "rule_id" "series_grouping_rules" row
      then row else row.spreadWith "rule_id" .null)
  else some row

/-- The row that is written if nothing clashes with it. -/
def arrival (db : Database) (table : String) (row : Json) : Option Stored :=
  ((prepare db table row).bind (s.populate table)).map (nonSerialColumns table)

/-- The rows of a bundle that are written. -/
def arrivals (present : Database) : List (String × Json) → List (String × Stored)
  | [] => []
  | entry :: entries =>
    match arrival s present entry.1 entry.2 with
    | none => arrivals present entries
    | some row =>
      if (present entry.1).any (s.clash entry.1 row) then arrivals present entries
      else (entry.1, row) :: arrivals (extend present [(entry.1, row)]) entries

/-- The tables and the runs whose rows are deleted for those of a bundle. -/
def purgeScopes (entries : List (String × Json)) : List (String × String) :=
  entries.filterMap fun entry =>
    if entry.1 ∈ PURGE_BY_RUN_TABLES ∧ (entry.2.field PURGE_SCOPE_COLUMN).isNull = false then
      (entry.2.field PURGE_SCOPE_COLUMN).toJsString.map fun scope => (entry.1, scope)
    else none

end Arrivals

variable {s : Schema} {db : Database} {table : String} {row : Stored} {rows : List Json}

theorem rowsOf_append {log log' : List (String × Stored)} :
    rowsOf table (log ++ log') = rowsOf table log ++ rowsOf table log' :=
  List.filterMap_append

theorem mem_rowsOf {log : List (String × Stored)} :
    row ∈ rowsOf table log ↔ (table, row) ∈ log := by
  rw [rowsOf, List.mem_filterMap]
  constructor
  · rintro ⟨⟨t, r⟩, hmem, h⟩
    dsimp only at h
    split at h
    · rename_i ht
      obtain rfl := Option.some.inj h
      exact ht ▸ hmem
    · cases h
  · exact fun h => ⟨(table, row), h, if_pos rfl⟩

theorem rowsOf_tagged (rows : List Stored) :
    rowsOf table (rows.map fun row => (table, row)) = rows := by
  rw [rowsOf, List.filterMap_map]
  exact (List.filterMap_congr fun row _ => if_pos rfl).trans List.filterMap_some

theorem rowsOf_tagged_of_ne {table' : String} (h : table' ≠ table) (rows : List Stored) :
    rowsOf table (rows.map fun row => (table', row)) = [] := by
  rw [rowsOf, List.filterMap_map, List.filterMap_eq_nil_iff]
  exact fun row _ => if_neg h

@[simp] theorem extend_nil : extend db [] = db := funext fun _ => List.append_nil _

theorem extend_extend {log log' : List (String × Stored)} :
    extend (extend db log) log' = extend db (log ++ log') := by
  funext table
  rw [extend, extend, extend, rowsOf_append, List.append_assoc]

/-- Only the table of the parents matters to a row, and that table is another one. -/
theorem prepare_congr {db' : Database} {row : Json}
    (h : ∀ t, t ≠ table → t ∉ PURGE_BY_RUN_TABLES → db t = db' t) :
    prepare db table row = prepare db' table row := by
  have hpresent : ∀ column parentTable, parentTable ≠ table → parentTable ∉ PURGE_BY_RUN_TABLES →
      parentPresent db column parentTable row = parentPresent db' column parentTable row := by
    intro column parentTable hne hmem
    rw [parentPresent, parentPresent]
    cases (row.field column).toJsString with
    | none => rfl
    | some id =>
      dsimp only
      rw [hasId, hasId, h parentTable hne hmem]
  rw [prepare, prepare]
  split
  · rename_i ht
    rw [hpresent "template_id" "report_templates" (by rw [ht]; decide) (by decide)]
  · split
    · rename_i ht
      rw [hpresent "rule_id" "series_grouping_rules" (by rw [ht]; decide) (by decide)]
    · rfl

theorem arrival_congr {db' : Database} {row : Json}
    (h : ∀ t, t ≠ table → t ∉ PURGE_BY_RUN_TABLES → db t = db' t) :
    arrival s db table row = arrival s db' table row := by
  rw [arrival, arrival, prepare_congr h]

theorem arrivals_append {entries entries' : List (String × Json)} :
    arrivals s db (entries ++ entries') =
      arrivals s db entries ++ arrivals s (extend db (arrivals s db entries)) entries' := by
  induction entries generalizing db with
  | nil => rw [List.nil_append, arrivals, extend_nil, List.nil_append]
  | cons entry entries ih =>
    rw [List.cons_append, arrivals, arrivals]
    cases harrival : arrival s db entry.1 entry.2 with
    | none => exact ih
    | some row =>
      dsimp only
      split
      · exact ih
      · rw [ih, List.cons_append, extend_extend, List.singleton_append]

/-- The rows of a batch are written as one statement would. -/
theorem arrivals_batch : arrivals s db (rows.map fun row => (table, row)) =
    (skipping (s.clash table) (db table) (rows.filterMap (arrival s db table))).map
      fun row => (table, row) := by
  induction rows generalizing db with
  | nil => rfl
  | cons row rows ih =>
    rw [List.map_cons, arrivals]
    cases harrival : arrival s db table row with
    | none => rw [List.filterMap_cons_none harrival]; exact ih
    | some stored =>
      rw [List.filterMap_cons_some harrival]
      dsimp only
      cases hclash : (db table).any (s.clash table stored) with
      | true => rw [if_pos rfl, skipping_cons_of_clash hclash, ih]
      | false =>
        -- The rows that follow see the same parents as before.
        have hsame : ∀ row', arrival s (extend db [(table, stored)]) table row' =
            arrival s db table row' := by
          intro row'
          refine arrival_congr fun t ht _ => ?_
          rw [extend, show rowsOf t [(table, stored)] = [] from
            rowsOf_tagged_of_ne (Ne.symm ht) [stored], List.append_nil]
        have hrows : extend db [(table, stored)] table = db table ++ [stored] := by
          rw [extend, show rowsOf table [(table, stored)] = [stored] from rowsOf_tagged [stored]]
        rw [if_neg (by simp), skipping_cons_of_free hclash, List.map_cons, ih, hrows,
          List.filterMap_congr fun row' _ => hsame row']

/-! ## Statements -/

/-- A column that is null in an object is null in the row that is read from it. -/
theorem cell_populate {json : Json} {column : String} (h : s.populate table json = some row)
    (hnull : (json.field column).isNull = true) : cell row column = none := by
  cases json with
  | obj fields =>
    obtain ⟨cells, hcells, rfl⟩ := Option.map_eq_some_iff.1 h
    rw [cell, List.lookup_eq_none_iff]
    rintro ⟨column', text⟩ hmem
    obtain ⟨c, -, hc⟩ := (mem_of_mapM hcells).1 (List.reduceOption_mem_iff.1 hmem)
    rw [bne_iff_ne]
    rintro rfl
    have hfield : (fields.lookup column).getD .null = .null := Json.isNull_eq_true.1 hnull
    split at hc
    · cases hc
    · rename_i hv
      obtain ⟨x, -, hx⟩ := Option.map_eq_some_iff.1 hc
      cases hx
      exact hv hfield
  | _ => cases h

theorem rowsToInsert_ok {toInsert : List Json} (h : rowsToInsert db table rows = .ok toInsert) :
    toInsert = rows.filterMap (prepare db table) ∨ (table = "generated_reports" ∧
      toInsert = rows ∧ ∀ row ∈ rows, (row.field "template_id").isNull = true) := by
  rw [rowsToInsert] at h
  split at h
  · rename_i htable
    rw [dropRowsMissingParent] at h
    split at h
    · split at h
      · rename_i hnull
        exact .inr ⟨htable, (Except.ok.inj h).symm, List.all_eq_true.1 hnull⟩
      · obtain rfl := Except.ok.inj h
        refine .inl ?_
        rw [← List.filterMap_eq_filter]
        refine List.filterMap_congr fun row _ => ?_
        rw [prepare, if_pos htable]
        rfl
    · cases h
  · rename_i hreports
    refine .inl ?_
    split at h
    · rename_i htable
      rw [nullRowsMissingParent] at h
      split at h
      · obtain rfl := Except.ok.inj h
        rw [← List.filterMap_eq_map]
        refine List.filterMap_congr fun row _ => ?_
        rw [prepare, if_neg hreports, if_pos htable]
        rfl
      · cases h
    · rename_i hgroups
      obtain rfl := Except.ok.inj h
      have hprepare : ∀ row ∈ rows, prepare db table row = some row := by
        intro row _
        rw [prepare, if_neg hreports, if_neg hgroups]
      rw [List.filterMap_congr hprepare, List.filterMap_some]

/-- What a batch proposes are the rows that arrive: without a template, a report is refused. -/
theorem proposed_eq {toInsert : List Json} {read : List Stored}
    (h : rowsToInsert db table rows = .ok toInsert)
    (hread : toInsert.mapM (s.populate table) = some read)
    (hok : ∀ row ∈ read.map (nonSerialColumns table), s.rowOk table row = true) :
    read.map (nonSerialColumns table) = rows.filterMap (arrival s db table) := by
  rcases rowsToInsert_ok h with rfl | ⟨rfl, rfl, hnull⟩
  · rw [← filterMap_of_mapM hread, List.filterMap_filterMap, List.map_filterMap]
    rfl
  · cases toInsert with
    | nil =>
      obtain rfl := Option.some.inj hread
      rfl
    | cons row rows =>
      -- A report that has no template does not meet the constraints.
      have hmap := mapM_eq_some_iff.1 hread
      cases read with
      | nil => cases hmap
      | cons r read =>
        rw [List.map_cons, List.map_cons, List.cons.injEq] at hmap
        have hserial : nonSerialColumns "generated_reports" r = r := if_neg (by decide)
        have htemplate := s.template_of_rowOk r
          (hserial ▸ hok _ (List.mem_map_of_mem List.mem_cons_self))
        rw [cell_populate hmap.1 (hnull row List.mem_cons_self)] at htemplate
        cases htemplate

/-- The session in which a batch is written. -/
def beforeInsert (ses : Session) (table : String) (rows : List Json) : Session :=
  if table ∈ PURGE_BY_RUN_TABLES then ses.purge table (freshScopes ses table rows) else ses

theorem insertRows_ok {ses ses' : Session} {n : ℕ}
    (h : insertRows s ses table rows = .ok (ses', n)) :
    ∃ read, rows.mapM (s.populate table) = some read ∧
      (∀ row ∈ read.map (nonSerialColumns table), s.rowOk table row = true) ∧
      ses' = ses.write table
        (skipping (s.clash table) (ses.db table) (read.map (nonSerialColumns table))) := by
  rw [insertRows] at h
  split at h
  · cases h
  · rename_i read hread
    dsimp only at h
    split at h
    · rename_i hok
      cases h
      rw [Bool.and_eq_true, List.all_eq_true] at hok
      exact ⟨read, hread, hok.1, rfl⟩
    · cases h

theorem prepareTable_ok {ses ses' : Session} {toInsert : List Json}
    (hrows : table ∈ PURGE_BY_RUN_TABLES → toInsert = rows)
    (h : prepareTable ses table toInsert = .ok ses') : ses' = beforeInsert ses table rows := by
  rw [prepareTable] at h
  rw [beforeInsert]
  split at h
  · rename_i htable
    rw [if_neg (by rw [htable]; decide)]
    cases hguard : assertNoForeignRunKey ses.db toInsert with
    | error e => rw [hguard] at h; cases h
    | ok u => rw [hguard] at h; exact (Except.ok.inj h).symm
  · split at h
    · rename_i hmem
      rw [if_pos hmem, ← hrows hmem]
      rw [purgeRunScopes] at h
      split at h
      · exact (Except.ok.inj h).symm
      · cases h
    · rename_i hmem
      rw [if_neg hmem]
      exact (Except.ok.inj h).symm

/-- A batch that goes through writes the rows that arrive and clash with none that is there. -/
theorem insertBatch_ok {ses ses' : Session} {n d : ℕ} (hrows : rows ≠ [])
    (h : insertBatch s ses table rows = .ok (ses', n, d)) :
    ses' = (beforeInsert ses table rows).write table
      (skipping (s.clash table) ((beforeInsert ses table rows).db table)
        (rows.filterMap (arrival s ses.db table))) := by
  obtain ⟨toInsert, hto, h⟩ := bind_eq_ok_iff.1 h
  have hpurged : table ∈ PURGE_BY_RUN_TABLES → toInsert = rows := by
    intro hmem
    rw [rowsToInsert, if_neg (by rintro rfl; revert hmem; decide),
      if_neg (by rintro rfl; revert hmem; decide)] at hto
    exact (Except.ok.inj hto).symm
  dsimp only at h
  split at h
  · -- Nothing is left of the batch, and its table is not one that is purged.
    rename_i hempty
    cases h
    rw [List.isEmpty_iff] at hempty
    have hread : toInsert.mapM (s.populate table) = some [] := by rw [hempty]; rfl
    have hproposed := proposed_eq hto hread fun _ hmem => absurd hmem List.not_mem_nil
    rw [← hproposed, beforeInsert, if_neg fun hmem => hrows ((hpurged hmem).symm.trans hempty)]
    exact Session.write_nil.symm
  · obtain ⟨ses₁, hbefore, h⟩ := bind_eq_ok_iff.1 h
    obtain ⟨⟨ses₂, inserted⟩, hinsert, h⟩ := bind_eq_ok_iff.1 h
    cases h
    have hses₁ : ses₁ = beforeInsert ses table rows := prepareTable_ok hpurged hbefore
    obtain ⟨read, hread, hok, rfl⟩ := insertRows_ok hinsert
    rw [proposed_eq hto hread hok, hses₁]

/-! ## What an import has done so far -/

/-- The rows of a bundle that have been taken have been written if they arrive, and the rows of the
    runs that they have samples of have been deleted. -/
structure Inv (s : Schema) (db : Database) (entries : List (String × Json)) (ses : Session) :
    Prop where
  added : ses.added = arrivals s db entries
  rows : ∀ t, t ∉ PURGE_BY_RUN_TABLES → ses.db t = extend db ses.added t
  purged : ∀ scope, scope ∈ ses.purgedScopes ↔ scope ∈ purgeScopes entries
  deleted : ∀ write ∈ ses.deleted, (write.2 ∈ db write.1 ∨ write ∈ ses.added) ∧
    ∃ run, (write.1, run) ∈ purgeScopes entries ∧ cell write.2 PURGE_SCOPE_COLUMN = some run
  gone : ∀ t run, (t, run) ∈ purgeScopes entries →
    ∀ row ∈ db t, cell row PURGE_SCOPE_COLUMN = some run → (t, row) ∈ ses.deleted
  kept : ∀ t, ∀ row ∈ db t, row ∈ ses.db t ∨ (t, row) ∈ ses.deleted
  present : ∀ t, ∀ row ∈ ses.db t, row ∈ db t ∨ (t, row) ∈ ses.added

theorem mem_purgeScopes {entries : List (String × Json)} {t run : String} :
    (t, run) ∈ purgeScopes entries ↔ ∃ row, (t, row) ∈ entries ∧ t ∈ PURGE_BY_RUN_TABLES ∧
      (row.field PURGE_SCOPE_COLUMN).isNull = false ∧
      (row.field PURGE_SCOPE_COLUMN).toJsString = some run := by
  rw [purgeScopes, List.mem_filterMap]
  constructor
  · rintro ⟨⟨t', row⟩, hmem, h⟩
    dsimp only at h
    split at h
    · rename_i hpurge
      obtain ⟨run', hrun, heq⟩ := Option.map_eq_some_iff.1 h
      cases heq
      exact ⟨row, hmem, hpurge.1, hpurge.2, hrun⟩
    · cases h
  · rintro ⟨row, hmem, ht, hnull, hrun⟩
    refine ⟨(t, row), hmem, ?_⟩
    rw [if_pos ⟨ht, hnull⟩, hrun]
    rfl

theorem mem_scopes {run : String} : run ∈ scopes rows ↔ ∃ row ∈ rows,
    (row.field PURGE_SCOPE_COLUMN).isNull = false ∧
      (row.field PURGE_SCOPE_COLUMN).toJsString = some run := by
  simp only [scopes, List.mem_filterMap, List.mem_filter, List.mem_map, Bool.not_eq_true']
  constructor
  · rintro ⟨_, ⟨⟨row, hrow, rfl⟩, hnull⟩, hrun⟩
    exact ⟨row, hrow, hnull, hrun⟩
  · rintro ⟨row, hrow, hnull, hrun⟩
    exact ⟨_, ⟨⟨row, hrow, rfl⟩, hnull⟩, hrun⟩

theorem purgeScopes_append {entries entries' : List (String × Json)} :
    purgeScopes (entries ++ entries') = purgeScopes entries ++ purgeScopes entries' :=
  List.filterMap_append

/-- The runs of a batch, in a table that is purged. -/
theorem mem_purgeScopes_batch {t run : String} :
    (t, run) ∈ purgeScopes (rows.map fun row => (table, row)) ↔
      t = table ∧ table ∈ PURGE_BY_RUN_TABLES ∧ run ∈ scopes rows := by
  rw [mem_purgeScopes, mem_scopes]
  constructor
  · rintro ⟨row, hmem, ht, hnull, hrun⟩
    obtain ⟨row', hrow', heq⟩ := List.mem_map.1 hmem
    cases heq
    exact ⟨rfl, ht, row, hrow', hnull, hrun⟩
  · rintro ⟨rfl, ht, row, hrow, hnull, hrun⟩
    exact ⟨row, List.mem_map_of_mem hrow, ht, hnull, hrun⟩

theorem ofRuns_iff {runs : List String} :
    ofRuns runs row = true ↔ ∃ run ∈ runs, cell row PURGE_SCOPE_COLUMN = some run := by
  rw [ofRuns, List.any_eq_true]
  exact exists_congr fun run => and_congr_right fun _ => decide_eq_true_iff

/-- A batch deletes a row of its table: it is of one of its runs, whose rows have not been deleted
    before. -/
def Hit (ses : Session) (table : String) (rows : List Json) (t : String) (row : Stored) : Prop :=
  ∃ run, (t, run) ∈ purgeScopes (rows.map fun row => (table, row)) ∧ (t, run) ∉ ses.purgedScopes ∧
    cell row PURGE_SCOPE_COLUMN = some run

variable {ses : Session}

theorem hit_iff {t : String} : Hit ses table rows t row ↔
    t = table ∧ table ∈ PURGE_BY_RUN_TABLES ∧ ofRuns (freshScopes ses table rows) row = true := by
  rw [ofRuns_iff]
  constructor
  · rintro ⟨run, hrun, hfresh, hcell⟩
    obtain ⟨rfl, hpurge, hscope⟩ := mem_purgeScopes_batch.1 hrun
    refine ⟨rfl, hpurge, run, ?_, hcell⟩
    rw [freshScopes, List.mem_filter, decide_eq_true_eq]
    exact ⟨hscope, hfresh⟩
  · rintro ⟨rfl, hpurge, run, hrun, hcell⟩
    rw [freshScopes, List.mem_filter, decide_eq_true_eq] at hrun
    exact ⟨run, mem_purgeScopes_batch.2 ⟨rfl, hpurge, hrun.1⟩, hrun.2, hcell⟩

theorem deleted_beforeInsert {write : String × Stored} :
    write ∈ (beforeInsert ses table rows).deleted ↔
      write ∈ ses.deleted ∨ write.2 ∈ ses.db write.1 ∧ Hit ses table rows write.1 write.2 := by
  obtain ⟨t, row⟩ := write
  rw [hit_iff, beforeInsert]
  split
  · rename_i hpurge
    rw [Session.purge, List.mem_append, List.mem_map]
    refine or_congr_right ⟨?_, ?_⟩
    · rintro ⟨row', hrow', heq⟩
      cases heq
      rw [List.mem_filter] at hrow'
      exact ⟨hrow'.1, rfl, hpurge, hrow'.2⟩
    · rintro ⟨hmem, rfl, -, hof⟩
      exact ⟨row, List.mem_filter.2 ⟨hmem, hof⟩, rfl⟩
  · rename_i hpurge
    rw [or_iff_left fun h => hpurge h.2.2.1]

theorem mem_db_beforeInsert {t : String} : row ∈ (beforeInsert ses table rows).db t ↔
    row ∈ ses.db t ∧ ¬Hit ses table rows t row := by
  rw [hit_iff, beforeInsert]
  split
  · rename_i hpurge
    by_cases ht : t = table
    · subst ht
      rw [Session.purge_db_self, List.mem_filter, Bool.not_eq_true']
      refine and_congr_right fun _ => ?_
      rw [← Bool.not_eq_true]
      exact not_congr ⟨fun h => ⟨rfl, hpurge, h⟩, fun h => h.2.2⟩
    · rw [Session.purge_db_of_ne ht, and_iff_left fun h => ht h.1]
  · rename_i hpurge
    rw [and_iff_left fun h => hpurge h.2.1]

theorem db_beforeInsert {t : String} (h : t ∉ PURGE_BY_RUN_TABLES) :
    (beforeInsert ses table rows).db t = ses.db t := by
  rw [beforeInsert]
  split
  · rename_i hpurge
    exact Session.purge_db_of_ne fun ht => h (by rw [ht]; exact hpurge)
  · rfl

theorem added_beforeInsert : (beforeInsert ses table rows).added = ses.added := by
  rw [beforeInsert]
  split <;> rfl

theorem purged_beforeInsert {scope : String × String} :
    scope ∈ (beforeInsert ses table rows).purgedScopes ↔
      scope ∈ ses.purgedScopes ∨ scope ∈ purgeScopes (rows.map fun row => (table, row)) := by
  obtain ⟨t, run⟩ := scope
  rw [mem_purgeScopes_batch, beforeInsert]
  split
  · rename_i hpurge
    rw [Session.purge, List.mem_append, List.mem_map]
    constructor
    · rintro (h | ⟨run', hrun', heq⟩)
      · exact .inl h
      · cases heq
        rw [freshScopes, List.mem_filter] at hrun'
        exact .inr ⟨rfl, hpurge, hrun'.1⟩
    · rintro (h | ⟨rfl, -, hscope⟩)
      · exact .inl h
      · by_cases hmem : (t, run) ∈ ses.purgedScopes
        · exact .inl hmem
        · exact .inr ⟨run, List.mem_filter.2 ⟨hscope, decide_eq_true hmem⟩, rfl⟩
  · rename_i hpurge
    rw [or_iff_left fun h => hpurge h.2.1]

namespace Inv

variable {entries : List (String × Json)} {ses' : Session}

theorem start : Inv s db [] { db := db } where
  added := rfl
  rows _ _ := by rw [extend_nil]
  purged scope := iff_of_false List.not_mem_nil List.not_mem_nil
  deleted _ h := absurd h List.not_mem_nil
  gone _ _ h := absurd h List.not_mem_nil
  kept _ _ h := .inl h
  present _ _ h := .inl h

/-- A batch writes what arrives. -/
theorem written_eq (h : Inv s db entries ses) :
    (skipping (s.clash table) ((Perfana.SutTransfer.beforeInsert ses table rows).db table)
      (rows.filterMap (arrival s ses.db table))).map (fun row => (table, row)) =
    arrivals s (extend db ses.added) (rows.map fun row => (table, row)) := by
  have harrival : ∀ row ∈ rows, arrival s ses.db table row =
      arrival s (extend db ses.added) table row :=
    fun row _ => arrival_congr fun t _ ht => h.rows t ht
  rw [arrivals_batch, List.filterMap_congr harrival]
  by_cases hpurge : table ∈ PURGE_BY_RUN_TABLES
  · have hfree := s.clash_of_purged table hpurge
    rw [skipping_eq_self hfree, skipping_eq_self hfree]
  · rw [db_beforeInsert hpurge, h.rows table hpurge]

/-- A batch that goes through keeps the invariant. -/
theorem insertBatch (h : Inv s db entries ses) {n d : ℕ} (hrows : rows ≠ [])
    (hbatch : insertBatch s ses table rows = .ok (ses', n, d)) :
    Inv s db (entries ++ rows.map fun row => (table, row)) ses' := by
  obtain rfl := insertBatch_ok hrows hbatch
  have hwritten := @written_eq s db table rows ses entries h
  have hadded : ∀ write, write ∈ ses.added → write ∈ ((beforeInsert ses table rows).write table
      (skipping (s.clash table) ((beforeInsert ses table rows).db table)
        (rows.filterMap (arrival s ses.db table)))).added := by
    intro write hmem
    rw [Session.write_added, added_beforeInsert]
    exact List.mem_append_left _ hmem
  constructor
  case added =>
    rw [Session.write_added, added_beforeInsert, hwritten, h.added, arrivals_append]
  case rows =>
    intro t ht
    rw [Session.write_added, added_beforeInsert]
    by_cases htable : t = table
    · subst htable
      rw [Session.write_db_self, db_beforeInsert ht, h.rows t ht, extend, extend, rowsOf_append,
        rowsOf_tagged, List.append_assoc]
    · rw [Session.write_db_of_ne htable, db_beforeInsert ht, h.rows t ht, extend, extend,
        rowsOf_append, rowsOf_tagged_of_ne (Ne.symm htable), List.append_nil]
  case purged =>
    intro scope
    rw [purgeScopes_append, List.mem_append, ← h.purged]
    exact purged_beforeInsert
  case deleted =>
    intro write hwrite
    rcases deleted_beforeInsert.1 hwrite with hold | ⟨hmem, run, hrun, -, hcell⟩
    · obtain ⟨hfrom, run, hrun, hcell⟩ := h.deleted write hold
      refine ⟨hfrom.imp_right (hadded write), run, ?_, hcell⟩
      rw [purgeScopes_append]
      exact List.mem_append_left _ hrun
    · refine ⟨(h.present write.1 write.2 hmem).imp_right (hadded write), run, ?_, hcell⟩
      rw [purgeScopes_append]
      exact List.mem_append_right _ hrun
  case gone =>
    intro t run hrun row hrow hcell
    refine deleted_beforeInsert.2 ?_
    rw [purgeScopes_append, List.mem_append] at hrun
    by_cases hold : (t, run) ∈ purgeScopes entries
    · exact .inl (h.gone t run hold row hrow hcell)
    · -- The run is a new one, so a row that is still there is deleted now.
      rcases h.kept t row hrow with hmem | hmem
      · exact .inr ⟨hmem, run, hrun.resolve_left hold, fun hp => hold ((h.purged _).1 hp), hcell⟩
      · exact .inl hmem
  case kept =>
    intro t row hrow
    rcases h.kept t row hrow with hmem | hmem
    · by_cases hhit : Hit ses table rows t row
      · exact .inr (deleted_beforeInsert.2 (.inr ⟨hmem, hhit⟩))
      · refine .inl ?_
        have hin := mem_db_beforeInsert.2 ⟨hmem, hhit⟩
        by_cases htable : t = table
        · subst htable
          rw [Session.write_db_self]
          exact List.mem_append_left _ hin
        · rwa [Session.write_db_of_ne htable]
    · exact .inr (deleted_beforeInsert.2 (.inl hmem))
  case present =>
    intro t row hrow
    by_cases htable : t = table
    · subst htable
      rw [Session.write_db_self, List.mem_append] at hrow
      rcases hrow with hrow | hrow
      · exact (h.present t row (mem_db_beforeInsert.1 hrow).1).imp_right (hadded _)
      · refine .inr ?_
        rw [Session.write_added]
        exact List.mem_append_right _ (List.mem_map_of_mem hrow)
    · rw [Session.write_db_of_ne htable] at hrow
      exact (h.present t row (mem_db_beforeInsert.1 hrow).1).imp_right (hadded _)

end Inv

/-! ## The rows of a bundle -/

/-- The rows that are read, with their table once it is known. -/
def tagged (currentTable : Option String) (batch : List Json) : List (String × Json) :=
  match currentTable with
  | some table => batch.map fun row => (table, row)
  | none => []

/-- The rows that are written from here on, with their tables, in the order of the lines. Those that
    come before the first table go to it. -/
def entriesFrom (organization : String) :
    Option String → List Json → List Line → List (String × Json)
  | currentTable, batch, [] => tagged currentTable batch
  | currentTable, batch, .json v :: lines =>
    match content v with
    | .table (.str table) => tagged currentTable batch ++
        entriesFrom organization (some table) (if currentTable.isNone then batch else []) lines
    | .row row => entriesFrom organization currentTable (batch ++ [remap organization row]) lines
    | _ => entriesFrom organization currentTable batch lines
  | currentTable, batch, _ :: lines => entriesFrom organization currentTable batch lines

/-- The rows of a bundle, with their tables, after its manifest. -/
def entries (organization : String) (file : List Line) : List (String × Json) :=
  entriesFrom organization none [] file.tail

section Lines

variable {organization : String} {es : List (String × Json)} {p p' : Progress}

/-- Once its table is known, it does not matter when a batch is written. -/
theorem entriesFrom_some {batch : List Json} {lines : List Line} :
    entriesFrom organization (some table) batch lines =
      batch.map (fun row => (table, row)) ++ entriesFrom organization (some table) [] lines := by
  induction lines generalizing table batch with
  | nil => rw [entriesFrom, entriesFrom, tagged, tagged, List.map_nil, List.append_nil]
  | cons line lines ih =>
    cases line with
    | json v =>
      rw [entriesFrom, entriesFrom]
      split
      · rfl
      · rename_i row _
        rw [ih, @ih table ([] ++ [remap organization row]), List.map_append, List.append_assoc]
        rfl
      · exact ih
    | _ => exact ih

/-- What every batch keeps, if the counts do not matter to it. -/
structure IsKept (s : Schema) (P : List (String × Json) → Session → Prop) : Prop where
  batch : ∀ {es ses ses' table rows n d}, rows ≠ [] → P es ses →
    insertBatch s ses table rows = .ok (ses', n, d) →
      P (es ++ rows.map fun row => (table, row)) ses'
  counts : ∀ {es ses}, P es ses → ∀ rowCounts skippedCounts droppedCounts,
    P es { ses with rowCounts, skippedCounts, droppedCounts }

theorem Inv.isKept : IsKept s (Inv s db) where
  batch hrows hinv := hinv.insertBatch hrows
  counts hinv _ _ _ := ⟨hinv.added, hinv.rows, hinv.purged, hinv.deleted, hinv.gone, hinv.kept,
    hinv.present⟩

variable {P : List (String × Json) → Session → Prop} (hP : IsKept s P)

include hP

theorem flush_ok (hes : P es p.session) (h : flush s p = .ok p') :
    P (es ++ tagged p.currentTable p.batch) p'.session ∧ p'.currentTable = p.currentTable ∧
      p'.batch = if p.currentTable.isNone then p.batch else [] := by
  rw [flush] at h
  cases hcurrent : p.currentTable with
  | none =>
    rw [hcurrent] at h
    obtain rfl := Except.ok.inj h
    refine ⟨?_, hcurrent, rfl⟩
    rw [tagged, List.append_nil]
    exact hes
  | some table =>
    rw [hcurrent] at h
    dsimp only at h
    split at h
    · rename_i hempty
      obtain rfl := Except.ok.inj h
      rw [List.isEmpty_iff] at hempty
      refine ⟨?_, hcurrent, hempty⟩
      rw [hempty, tagged, List.map_nil, List.append_nil]
      exact hes
    · rename_i hbatch
      obtain ⟨⟨ses, inserted, dropped⟩, hinsert, h⟩ := bind_eq_ok_iff.1 h
      cases h
      refine ⟨hP.counts (hP.batch ?_ hes hinsert) _ _ _, rfl, rfl⟩
      rwa [List.isEmpty_iff] at hbatch

/-- Reading a line: what has been taken, and what will be, are the rows of the lines. -/
theorem readLine_ok {line : Line} (hes : P es p.session)
    (h : readLine s organization p line = .ok p') :
    ∃ es', P (es ++ es') p'.session ∧ ∀ lines,
      entriesFrom organization p.currentTable p.batch (line :: lines) =
        es' ++ entriesFrom organization p'.currentTable p'.batch lines := by
  have hskip : p' = p → (∀ lines, entriesFrom organization p.currentTable p.batch (line :: lines) =
      entriesFrom organization p.currentTable p.batch lines) →
      ∃ es', P (es ++ es') p'.session ∧ ∀ lines,
        entriesFrom organization p.currentTable p.batch (line :: lines) =
          es' ++ entriesFrom organization p'.currentTable p'.batch lines := by
    rintro rfl hlines
    exact ⟨[], by rwa [List.append_nil], hlines⟩
  cases line with
  | blank => exact hskip (Except.ok.inj h).symm fun _ => rfl
  | malformed => cases h
  | json v =>
    rw [readLine] at h
    cases hcontent : content v with
    | bad => rw [hcontent] at h; cases h
    | note =>
      rw [hcontent] at h
      exact hskip (Except.ok.inj h).symm fun _ => by rw [entriesFrom, hcontent]
    | table name =>
      -- What is left of the table before is written.
      rw [hcontent] at h
      obtain ⟨p₁, hflush, h⟩ := bind_eq_ok_iff.1 h
      obtain ⟨table, hvalid, h⟩ := bind_eq_ok_iff.1 h
      cases h
      obtain ⟨hes₁, -, hbatch⟩ := flush_ok hP hes hflush
      have hname : name = .str table := by
        rw [validTable.eq_def] at hvalid
        split at hvalid
        · split at hvalid
          · rw [Except.ok.inj hvalid]
          · cases hvalid
        · cases hvalid
      refine ⟨tagged p.currentTable p.batch, ?_, fun lines => ?_⟩
      · exact hP.counts hes₁ _ p₁.session.skippedCounts p₁.session.droppedCounts
      · rw [entriesFrom, hcontent, hname, hbatch]
    | row row =>
      rw [hcontent] at h
      dsimp only at h
      split at h
      · -- The batch is full.
        obtain ⟨hes₁, hcurrent, hbatch⟩ := flush_ok hP
          (p := { p with batch := p.batch ++ [remap organization row] }) hes h
        refine ⟨_, hes₁, fun lines => ?_⟩
        rw [entriesFrom, hcontent, hcurrent, hbatch]
        dsimp only
        cases hp : p.currentTable with
        | none => rfl
        | some table => exact entriesFrom_some
      · obtain rfl := Except.ok.inj h
        refine ⟨[], by rwa [List.append_nil], fun lines => ?_⟩
        rw [entriesFrom, hcontent, List.nil_append]

theorem readLines_ok {lines : List Line} (hes : P es p.session)
    (h : lines.foldlM (readLine s organization) p = .ok p') :
    ∃ es', P (es ++ es') p'.session ∧
      entriesFrom organization p.currentTable p.batch lines =
        es' ++ tagged p'.currentTable p'.batch := by
  induction lines generalizing es p with
  | nil =>
    obtain rfl := Except.ok.inj h
    exact ⟨[], by rwa [List.append_nil], by rw [entriesFrom, List.nil_append]⟩
  | cons line lines ih =>
    rw [List.foldlM_cons] at h
    obtain ⟨p₁, hline, h⟩ := bind_eq_ok_iff.1 h
    obtain ⟨es₁, hes₁, hlines₁⟩ := readLine_ok hP hes hline
    obtain ⟨es₂, hes₂, hlines₂⟩ := ih hes₁ h
    refine ⟨es₁ ++ es₂, ?_, ?_⟩
    · rwa [← List.append_assoc]
    · rw [hlines₁, hlines₂, List.append_assoc]

/-- What batches keep holds of an import that goes through, and of all its rows. -/
theorem of_importLines (hstart : P [] { db := db }) {lines : List Line} {ses : Session}
    (h : importLines s organization db lines = .ok ses) :
    P (entriesFrom organization none [] lines) ses := by
  obtain ⟨p, hlines, h⟩ := bind_eq_ok_iff.1 h
  obtain ⟨p', hflush, h⟩ := bind_eq_ok_iff.1 h
  cases h
  obtain ⟨es, hes, htaken⟩ := readLines_ok hP (p := { session := { db := db } }) hstart hlines
  dsimp only at htaken
  rw [htaken]
  exact (flush_ok hP hes hflush).1

omit hP

/-- An import that goes through has taken all rows. -/
theorem Inv.of_importLines {lines : List Line} {ses : Session}
    (h : importLines s organization db lines = .ok ses) :
    Inv s db (entriesFrom organization none [] lines) ses :=
  Perfana.SutTransfer.of_importLines Inv.isKept Inv.start h

end Lines

end Perfana.SutTransfer
