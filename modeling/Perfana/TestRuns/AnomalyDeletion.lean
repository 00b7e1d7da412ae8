import Perfana.Lib.Transaction
import Mathlib.Data.Int.Notation
import Mathlib.Data.List.Basic
import Mathlib.Data.Nat.Notation
import Mathlib.Logic.Function.Basic

/-!
# Deleting the anomaly data of runs

The anomaly data of a panel or of one of its metrics is deleted for a run, or for all the runs of
its kind, from six tables in one transaction. Five of the tables have a column for the run, and
the statistics of the control groups have one for the group, which is called like its run.

* `exec_cascadeDeleteAnomalyData`: a deletion that goes through deletes from each table the rows
  that meet the predicate of its statement, and any other leaves the tables as they were;
* `deletesOnlyItsRuns_iff`: it deletes the rows of its runs and no others, if and only if no
  control group of another run has statistics of the panel or the metric;
* `deleteAnomalyData_cases`: a request deletes all of it or nothing.
-/

namespace Perfana.AnomalyDeletion

/-! ## Tables -/

/-- The tables that are deleted from. -/
inductive AnomalyTable
  | dsAdaptResults
  | dsControlGroupStatistics
  | dsAdaptTrackedResults
  | dsMetrics
  | dsMetricStatistics
  | dsPanels
  deriving DecidableEq

/-- A row of one of the tables. -/
structure Row (δ : Type) where
  /-- The run, or the control group. -/
  owner : String
  applicationDashboardId : String
  panelId : Option ℤ
  metricName : Option String
  /-- The other columns. -/
  data : δ
  deriving DecidableEq

/-- The rows of the tables. -/
abbrev Tables (δ : Type) := AnomalyTable → List (Row δ)

/-- What is deleted: a metric of a panel, or all of it. -/
inductive Scope
  | metric
  | panel
  deriving DecidableEq

inductive Range
  | currentTestRun
  | allTestRuns
  deriving DecidableEq

/-- The request. -/
structure DeleteAnomalyDto where
  metricName : Option String
  panelId : String
  applicationDashboardId : String
  scope : Scope
  range : Range

/-- The name of a metric is given. -/
def DeleteAnomalyDto.hasMetricName (dto : DeleteAnomalyDto) : Bool := dto.metricName.any (· ≠ "")

/-! ## The deletion -/

/-- The statements of the transaction, and the end of it. -/
inductive Statement
  | count
  | delete (t : AnomalyTable)
  | commit
  deriving DecidableEq

section Cascade

variable {δ : Type} (castUuid : String → Option String) (castInteger : String → Option ℤ)
  (fault : Statement → Option String)

/-- The parameters of a statement that can not be cast are an error, and so are no runs. -/
def statementFault (testRunIds : List String) (dto : DeleteAnomalyDto) (s : Statement) :
    Option String :=
  if testRunIds = [] then some "syntax error at or near \")\""
  else if castUuid dto.applicationDashboardId = none then
    some "invalid input syntax for type uuid"
  else if castInteger dto.panelId = none then
    some "invalid input syntax for type integer"
  else fault s

/-- The predicate on the dashboard and the panel, and on the metric where its name counts. -/
def inSeries (dto : DeleteAnomalyDto) (row : Row δ) : Bool :=
  castUuid dto.applicationDashboardId = some row.applicationDashboardId &&
    row.panelId.any (fun p => castInteger dto.panelId = some p) &&
    (!(dto.scope = .metric && dto.hasMetricName) || row.metricName = dto.metricName)

/-- The predicate on the runs. -/
def ofRuns (testRunIds : List String) (row : Row δ) : Bool := testRunIds.contains row.owner

/-- The predicate of the statement for a table. -/
def deletes (testRunIds : List String) (dto : DeleteAnomalyDto) : AnomalyTable → Row δ → Bool
  | .dsControlGroupStatistics, row => inSeries castUuid castInteger dto row
  | _, row => ofRuns testRunIds row && inSeries castUuid castInteger dto row

/-- Delete the rows of a table that meet its predicate, and count them. -/
def deleteFrom (testRunIds : List String) (dto : DeleteAnomalyDto) (t : AnomalyTable) :
    Tx (Tables δ) String ℕ := do
  let db ← get
  let p := deletes castUuid castInteger testRunIds dto t
  Tx.write (statementFault castUuid castInteger fault testRunIds dto (.delete t)) fun db =>
    Function.update db t ((db t).filter fun row => !p row)
  pure ((db t).countP p)

/-- The tables after the results, in order; the panels go only with all of their metrics. -/
def cascadeTables (dto : DeleteAnomalyDto) : List AnomalyTable :=
  [.dsControlGroupStatistics, .dsAdaptTrackedResults, .dsMetrics, .dsMetricStatistics] ++
    if dto.scope = .panel then [.dsPanels] else []

/-- Delete from some tables, one after the other. -/
def deleteFromAll (testRunIds : List String) (dto : DeleteAnomalyDto) :
    List AnomalyTable → Tx (Tables δ) String PUnit
  | [] => pure ⟨⟩
  | t :: ts => do
    let _ ← deleteFrom castUuid castInteger fault testRunIds dto t
    deleteFromAll testRunIds dto ts

/-- Delete from all tables, or from none, and count the results. -/
def cascadeDeleteAnomalyData (testRunIds : List String) (dto : DeleteAnomalyDto) :
    Tx (Tables δ) String ℕ :=
  Tx.withTransaction do
    Tx.write (statementFault castUuid castInteger fault testRunIds dto .count) id
    let totalDeletedCount ← deleteFrom castUuid castInteger fault testRunIds dto .dsAdaptResults
    deleteFromAll castUuid castInteger fault testRunIds dto (cascadeTables dto)
    Tx.write (fault .commit) id
    pure totalDeletedCount

/-! ## The request -/

/-- A run, as it is looked up. -/
structure TestRunRow where
  testRunId : String
  systemUnderTestId : String
  testEnvironment : String
  workload : String
  deriving DecidableEq

/-- What a request throws. -/
inductive DeleteError
  | validation (message : String)
  | notFound (testRunId : String)
  | database (message : String)

/-- The runs of the kind of a run. -/
def runsLike (testRuns : List TestRunRow) (testRun : TestRunRow) : List String :=
  (testRuns.filter fun r => r.systemUnderTestId = testRun.systemUnderTestId &&
    r.testEnvironment = testRun.testEnvironment && r.workload = testRun.workload).map
    TestRunRow.testRunId

/-- The runs that are deleted from. -/
def affectedTestRunIds (testRuns : List TestRunRow) (testRunId : String) (dto : DeleteAnomalyDto) :
    Except DeleteError (List String) :=
  match dto.range with
  | .currentTestRun => .ok [testRunId]
  | .allTestRuns =>
    match testRuns.find? fun r => r.testRunId = testRunId with
    | none => .error (.notFound testRunId)
    | some testRun => .ok (runsLike testRuns testRun)

/-- What a request is answered, with the tables; `jobFault` is what adding the job throws. -/
def deleteAnomalyData (testRuns : List TestRunRow) (jobFault : Option String) (testRunId : String)
    (dto : DeleteAnomalyDto) (db : Tables δ) : Except DeleteError ℕ × Tables δ :=
  if dto.scope = .metric && !dto.hasMetricName then
    (.error (.validation "Metric name is required when scope is \"metric\""), db)
  else
    match affectedTestRunIds testRuns testRunId dto with
    | .error e => (.error e, db)
    | .ok [] => (.ok 0, db)
    | .ok (id :: ids) =>
      match (cascadeDeleteAnomalyData castUuid castInteger fault (id :: ids) dto).exec db with
      | (.error e, db) => (.error (.database e), db)
      | (.ok n, db) =>
        match jobFault with
        | some e => (.error (.database e), db)
        | none => (.ok n, db)

end Cascade

/-! ## What is deleted -/

section Deleted

variable {δ : Type} {castUuid : String → Option String} {castInteger : String → Option ℤ}
  {fault : Statement → Option String} {testRunIds : List String} {dto : DeleteAnomalyDto}
  {db : Tables δ}

@[simp] theorem exec_deleteFrom (t : AnomalyTable) (db : Tables δ) :
    (deleteFrom castUuid castInteger fault testRunIds dto t).exec db =
      match statementFault castUuid castInteger fault testRunIds dto (.delete t) with
      | none => (.ok ((db t).countP (deletes castUuid castInteger testRunIds dto t)),
          Function.update db t ((db t).filter fun row =>
            !deletes castUuid castInteger testRunIds dto t row))
      | some e => (.error e, db) := by
  rw [deleteFrom]
  cases statementFault castUuid castInteger fault testRunIds dto (.delete t) <;> simp

/-- The statements that are executed. -/
def statements (dto : DeleteAnomalyDto) : List Statement :=
  [.count, .delete .dsAdaptResults] ++ (cascadeTables dto).map .delete ++ [.commit]

/-- A deletion fails: there are no runs, a parameter can not be cast, or a statement has a fault. -/
def Fails (castUuid : String → Option String) (castInteger : String → Option ℤ)
    (fault : Statement → Option String) (testRunIds : List String) (dto : DeleteAnomalyDto) : Prop :=
  testRunIds = [] ∨ castUuid dto.applicationDashboardId = none ∨ castInteger dto.panelId = none ∨
    ∃ s ∈ statements dto, fault s ≠ none

/-- Some tables after the rows of a deletion are gone from them. -/
def without (castUuid : String → Option String) (castInteger : String → Option ℤ)
    (testRunIds : List String) (dto : DeleteAnomalyDto) (ts : List AnomalyTable) (db : Tables δ) :
    Tables δ := fun t =>
  if t ∈ ts then (db t).filter fun row => !deletes castUuid castInteger testRunIds dto t row
  else db t

/-- The deletions from some tables go through, or end with the first one that has a fault. -/
theorem exec_deleteFromAll (ts : List AnomalyTable) (hts : ts.Nodup) (db : Tables δ) :
    (∃ t ∈ ts, statementFault castUuid castInteger fault testRunIds dto (.delete t) ≠ none ∧
      ∃ e db', (deleteFromAll castUuid castInteger fault testRunIds dto ts).exec db =
        (.error e, db')) ∨
    (∀ t ∈ ts, statementFault castUuid castInteger fault testRunIds dto (.delete t) = none) ∧
      (deleteFromAll castUuid castInteger fault testRunIds dto ts).exec db =
        (.ok ⟨⟩, without castUuid castInteger testRunIds dto ts db) := by
  induction ts generalizing db with
  | nil =>
    refine .inr ⟨fun t ht => absurd ht List.not_mem_nil, ?_⟩
    rw [deleteFromAll, Tx.exec_pure]
    rfl
  | cons t ts ih =>
    obtain ⟨ht, hts⟩ := List.nodup_cons.1 hts
    rw [deleteFromAll, Tx.exec_bind, exec_deleteFrom]
    rcases hfault : statementFault castUuid castInteger fault testRunIds dto (.delete t) with _ | e
    · rcases ih hts (Function.update db t ((db t).filter fun row =>
        !deletes castUuid castInteger testRunIds dto t row)) with ⟨t', ht', hne, herror⟩ | ⟨hall, hok⟩
      · exact .inl ⟨t', List.mem_cons_of_mem _ ht', hne, herror⟩
      · refine .inr ⟨fun t' ht' => ?_, ?_⟩
        · rcases List.mem_cons.1 ht' with rfl | ht'
          · exact hfault
          · exact hall t' ht'
        · refine hok.trans (congrArg (Prod.mk _) (funext fun t' => ?_))
          -- The table itself is not deleted from again.
          by_cases heq : t' = t
          · subst heq
            simp [without, ht]
          · simp [without, heq]
    · exact .inl ⟨t, List.mem_cons_self, by simp [hfault], e, db, rfl⟩

/-- A deletion fails and leaves the tables as they were, or goes through. -/
theorem exec_cascadeDeleteAnomalyData (db : Tables δ) :
    (Fails castUuid castInteger fault testRunIds dto ∧
      ∃ e, (cascadeDeleteAnomalyData castUuid castInteger fault testRunIds dto).exec db =
        (.error e, db)) ∨
    ¬Fails castUuid castInteger fault testRunIds dto ∧
      ∃ n, (cascadeDeleteAnomalyData castUuid castInteger fault testRunIds dto).exec db =
        (.ok n, without castUuid castInteger testRunIds dto (.dsAdaptResults :: cascadeTables dto)
          db) := by
  have hfirst : ∀ e, statementFault castUuid castInteger fault testRunIds dto .count = some e →
      (cascadeDeleteAnomalyData castUuid castInteger fault testRunIds dto).exec db =
        (.error e, db) := fun e he => by
    rw [cascadeDeleteAnomalyData, Tx.exec_withTransaction, Tx.exec_bind, he, Tx.exec_write_some]
  by_cases hids : testRunIds = []
  · exact .inl ⟨.inl hids, _, hfirst _ (by rw [statementFault, if_pos hids])⟩
  by_cases huuid : castUuid dto.applicationDashboardId = none
  · exact .inl ⟨.inr (.inl huuid), _, hfirst _ (by rw [statementFault, if_neg hids, if_pos huuid])⟩
  by_cases hinteger : castInteger dto.panelId = none
  · exact .inl ⟨.inr (.inr (.inl hinteger)), _,
      hfirst _ (by rw [statementFault, if_neg hids, if_neg huuid, if_pos hinteger])⟩
  have hfault : ∀ s, statementFault castUuid castInteger fault testRunIds dto s = fault s :=
    fun s => by rw [statementFault, if_neg hids, if_neg huuid, if_neg hinteger]
  -- From here on a statement fails by its own fault.
  have hfails : Fails castUuid castInteger fault testRunIds dto ↔
      ∃ s ∈ statements dto, fault s ≠ none := by
    simp [Fails, hids, huuid, hinteger]
  rw [hfails]
  rcases hcount : fault .count with _ | e
  swap
  · exact .inl ⟨⟨.count, by simp [statements], by simp [hcount]⟩, e,
      hfirst e (by rw [hfault, hcount])⟩
  rcases hresults : fault (.delete .dsAdaptResults) with _ | e
  swap
  · refine .inl ⟨⟨.delete .dsAdaptResults, by simp [statements], by simp [hresults]⟩, e, ?_⟩
    simp [cascadeDeleteAnomalyData, hfault, hcount, hresults]
  have hnodup : (cascadeTables dto).Nodup := by
    rw [cascadeTables]
    split <;> decide
  rcases exec_deleteFromAll (cascadeTables dto) hnodup
      (Function.update db .dsAdaptResults ((db .dsAdaptResults).filter fun row =>
        !deletes castUuid castInteger testRunIds dto .dsAdaptResults row)) with
    ⟨t, ht, hne, e, db', hexec⟩ | ⟨hall, hexec⟩
  · rw [hfault] at hne
    refine .inl ⟨⟨.delete t, by simp [statements, ht], hne⟩, e, ?_⟩
    simp [cascadeDeleteAnomalyData, hfault, hcount, hresults, hexec]
  rcases hcommit : fault .commit with _ | e
  swap
  · refine .inl ⟨⟨.commit, by simp [statements], by simp [hcommit]⟩, e, ?_⟩
    simp [cascadeDeleteAnomalyData, hfault, hcount, hresults, hexec, hcommit]
  refine .inr ⟨?_, (db .dsAdaptResults).countP
    (deletes castUuid castInteger testRunIds dto .dsAdaptResults), ?_⟩
  · rintro ⟨s, hs, hne⟩
    simp only [statements, List.cons_append, List.nil_append, List.mem_cons, List.mem_append,
      List.mem_map, List.not_mem_nil, or_false] at hs
    rcases hs with rfl | rfl | ⟨t, ht, rfl⟩ | rfl
    · exact hne hcount
    · exact hne hresults
    · exact hne (hfault _ ▸ hall t ht)
    · exact hne hcommit
  · have hwithout : without castUuid castInteger testRunIds dto (cascadeTables dto)
        (Function.update db .dsAdaptResults ((db .dsAdaptResults).filter fun row =>
          !deletes castUuid castInteger testRunIds dto .dsAdaptResults row)) =
        without castUuid castInteger testRunIds dto (.dsAdaptResults :: cascadeTables dto) db := by
      funext t
      by_cases heq : t = .dsAdaptResults
      · subst heq
        have hnot : AnomalyTable.dsAdaptResults ∉ cascadeTables dto := by
          rw [cascadeTables]
          split <;> decide
        simp [without, hnot]
      · simp [without, heq]
    rw [← hwithout]
    simp [cascadeDeleteAnomalyData, hfault, hcount, hresults, hexec, hcommit]

/-! ## What is to be deleted -/

/-- The row is of the dashboard and the panel, and of the metric if only that is deleted. -/
def InScope (castUuid : String → Option String) (castInteger : String → Option ℤ)
    (dto : DeleteAnomalyDto) (row : Row δ) : Prop :=
  castUuid dto.applicationDashboardId = some row.applicationDashboardId ∧
    row.panelId ≠ none ∧ castInteger dto.panelId = row.panelId ∧
    (dto.scope = .metric → row.metricName = dto.metricName)

instance (row : Row δ) : Decidable (InScope castUuid castInteger dto row) :=
  inferInstanceAs (Decidable (_ ∧ _ ∧ _ ∧ (_ → _)))

/-- The statements look for the rows in scope, if the name of a metric is given. -/
theorem inSeries_iff (hmetric : dto.scope = .metric → dto.hasMetricName = true) (row : Row δ) :
    inSeries castUuid castInteger dto row = true ↔ InScope castUuid castInteger dto row := by
  obtain ⟨owner, dashboard, panelId, metricName, data⟩ := row
  have hname : (!(decide (dto.scope = .metric) && dto.hasMetricName) ||
      decide (metricName = dto.metricName)) = true ↔
      (dto.scope = .metric → metricName = dto.metricName) := by
    by_cases hscope : dto.scope = .metric
    · simp [hscope, hmetric hscope]
    · simp [hscope]
  rw [inSeries, InScope, Bool.and_eq_true, Bool.and_eq_true, hname, decide_eq_true_eq, and_assoc]
  cases panelId <;> simp

/-- The deletion goes through and deletes the rows of its runs that are in scope, of all tables but
    the panels if only a metric is deleted, or it fails and deletes nothing. -/
def DeletesOnlyItsRuns (castUuid : String → Option String) (castInteger : String → Option ℤ)
    (fault : Statement → Option String) (testRunIds : List String) (dto : DeleteAnomalyDto)
    (db : Tables δ) : Prop :=
  match (cascadeDeleteAnomalyData castUuid castInteger fault testRunIds dto).exec db with
  | (.ok _, db') => ∀ t, db' t = (db t).filter fun row =>
      decide (¬(row.owner ∈ testRunIds ∧ InScope castUuid castInteger dto row ∧
        (t = .dsPanels → dto.scope = .panel)))
  | (.error _, db') => db' = db

/-- The tables that have a column for the run are deleted from as they are to be. -/
theorem without_of_ne (hmetric : dto.scope = .metric → dto.hasMetricName = true)
    {t : AnomalyTable} (ht : t ≠ .dsControlGroupStatistics) (db : Tables δ) :
    without castUuid castInteger testRunIds dto (.dsAdaptResults :: cascadeTables dto) db t =
      (db t).filter fun row => decide (¬(row.owner ∈ testRunIds ∧
        InScope castUuid castInteger dto row ∧ (t = .dsPanels → dto.scope = .panel))) := by
  have hdeletes : ∀ row : Row δ, (!deletes castUuid castInteger testRunIds dto t row) =
      decide (¬(row.owner ∈ testRunIds ∧ InScope castUuid castInteger dto row)) := fun row => by
    have hscope : inSeries castUuid castInteger dto row =
        decide (InScope castUuid castInteger dto row) :=
      Bool.eq_iff_iff.2 (by rw [inSeries_iff hmetric, decide_eq_true_iff])
    have hruns : deletes castUuid castInteger testRunIds dto t row =
        (ofRuns testRunIds row && inSeries castUuid castInteger dto row) := by
      cases t <;> first | rfl | exact absurd rfl ht
    rw [hruns, ofRuns, hscope]
    simp
  by_cases hpanels : t = .dsPanels ∧ dto.scope ≠ .panel
  · -- The panels stay.
    obtain ⟨rfl, hscope⟩ := hpanels
    have hnot : AnomalyTable.dsPanels ∉ .dsAdaptResults :: cascadeTables dto := by
      rw [cascadeTables, if_neg hscope]
      decide
    simp [without, hnot, hscope]
  · have hmem : t ∈ .dsAdaptResults :: cascadeTables dto := by
      rw [cascadeTables]
      cases t with
      | dsControlGroupStatistics => exact absurd rfl ht
      | dsPanels => simp [not_not.1 fun hscope => hpanels ⟨rfl, hscope⟩]
      | _ => simp
    have hpanel : t = .dsPanels → dto.scope = .panel := fun heq =>
      not_not.1 fun hscope => hpanels ⟨heq, hscope⟩
    rw [without, if_pos hmem]
    refine List.filter_congr fun row _ => ?_
    rw [hdeletes]
    simp only [iff_true_intro hpanel, and_true]

/-- A deletion is confined to its runs if and only if it fails, or the control groups of other runs
    have no statistics that are in scope. -/
theorem deletesOnlyItsRuns_iff (hmetric : dto.scope = .metric → dto.hasMetricName = true) :
    DeletesOnlyItsRuns castUuid castInteger fault testRunIds dto db ↔
      Fails castUuid castInteger fault testRunIds dto ∨
        ∀ row ∈ db .dsControlGroupStatistics, InScope castUuid castInteger dto row →
          row.owner ∈ testRunIds := by
  rw [DeletesOnlyItsRuns]
  rcases @exec_cascadeDeleteAnomalyData δ castUuid castInteger fault testRunIds dto db with
    ⟨hfails, e, hexec⟩ | ⟨hfails, n, hexec⟩
  · rw [hexec]
    exact iff_of_true rfl (.inl hfails)
  rw [hexec, or_iff_right hfails]
  have hmem : AnomalyTable.dsControlGroupStatistics ∈ .dsAdaptResults :: cascadeTables dto := by
    simp [cascadeTables]
  have hdeletes : ∀ row : Row δ,
      deletes castUuid castInteger testRunIds dto .dsControlGroupStatistics row = true ↔
        InScope castUuid castInteger dto row := inSeries_iff hmetric
  constructor
  · -- A row of another group is deleted.
    intro h row hrow hscope
    by_contra hnot
    have hkept : row ∈ without castUuid castInteger testRunIds dto
        (.dsAdaptResults :: cascadeTables dto) db .dsControlGroupStatistics := by
      rw [h .dsControlGroupStatistics, List.mem_filter]
      exact ⟨hrow, decide_eq_true fun ⟨hin, _⟩ => hnot hin⟩
    rw [without, if_pos hmem, List.mem_filter, (hdeletes row).2 hscope] at hkept
    exact absurd hkept.2 (by decide)
  · intro h t
    by_cases ht : t = .dsControlGroupStatistics
    · subst ht
      rw [without, if_pos hmem]
      refine List.filter_congr fun row hrow => ?_
      by_cases hscope : InScope castUuid castInteger dto row
      · simp [(hdeletes row).2 hscope, hscope, h row hrow hscope]
      · simp [Bool.eq_false_iff.2 fun hd => hscope ((hdeletes row).1 hd), hscope]
    · exact without_of_ne hmetric ht db

/-- The request leaves the tables as they were, and then says that nothing was deleted, or deletes
    all that a deletion for some runs deletes, and then fails only if no job can be added. -/
theorem deleteAnomalyData_cases (testRuns : List TestRunRow) (jobFault : Option String)
    (testRunId : String) (dto : DeleteAnomalyDto) (db : Tables δ) :
    let result := deleteAnomalyData castUuid castInteger fault testRuns jobFault testRunId dto db
    result.2 = db ∧ (∀ n, result.1 = .ok n → n = 0) ∨
      (dto.scope = .metric → dto.hasMetricName = true) ∧ ∃ testRunIds ≠ [],
        affectedTestRunIds testRuns testRunId dto = .ok testRunIds ∧
        result.2 = without castUuid castInteger testRunIds dto
          (.dsAdaptResults :: cascadeTables dto) db ∧
        ∀ e, result.1 = .error e → jobFault.isSome := by
  dsimp only
  rw [deleteAnomalyData]
  split
  · exact .inl ⟨rfl, fun n hn => by cases hn⟩
  · rename_i hname
    have hmetric : dto.scope = .metric → dto.hasMetricName = true := fun hscope => by
      simpa [hscope] using hname
    split
    · exact .inl ⟨rfl, fun n hn => by cases hn⟩
    · exact .inl ⟨rfl, fun n hn => by cases hn; rfl⟩
    · rename_i id ids hids
      rcases @exec_cascadeDeleteAnomalyData _ castUuid castInteger fault (id :: ids) dto db with
        ⟨-, e, hexec⟩ | ⟨-, n, hexec⟩
      · rw [hexec]
        exact .inl ⟨rfl, fun n hn => by cases hn⟩
      · refine .inr ⟨hmetric, id :: ids, List.cons_ne_nil _ _, hids, ?_⟩
        rw [hexec]
        cases jobFault with
        | none => exact ⟨rfl, fun e he => by cases he⟩
        | some fault => exact ⟨rfl, fun _ _ => rfl⟩

end Deleted

/-! ## Two workloads on one dashboard -/

/-- The number of the panel is read. -/
def readInteger (s : String) : Option ℤ := if s = "42" then some 42 else none

/-- The deletion of a panel for one run. -/
def panelOfRun : DeleteAnomalyDto where
  metricName := none
  panelId := "42"
  applicationDashboardId := "dashboard"
  scope := .panel
  range := .currentTestRun

/-- What two runs have of the panel: each its results, and each its control group. -/
def twoWorkloads : Tables Unit
  | .dsAdaptResults => [⟨"load-1", "dashboard", some 42, some "p90", ()⟩,
      ⟨"stress-1", "dashboard", some 42, some "p90", ()⟩]
  | .dsControlGroupStatistics => [⟨"load-1", "dashboard", some 42, some "p90", ()⟩,
      ⟨"stress-1", "dashboard", some 42, some "p90", ()⟩]
  | _ => []

/-- The statistics of the other workload are deleted. -/
theorem not_deletesOnlyItsRuns_twoWorkloads :
    ¬DeletesOnlyItsRuns some readInteger (fun _ => none) ["load-1"] panelOfRun twoWorkloads := by
  intro h
  rcases @exec_cascadeDeleteAnomalyData Unit some readInteger (fun _ => none) ["load-1"] panelOfRun
    twoWorkloads with ⟨hfails, -⟩ | ⟨-, n, hexec⟩
  · simp [Fails, panelOfRun, readInteger] at hfails
  · rw [DeletesOnlyItsRuns, hexec] at h
    have hstatistics := h .dsControlGroupStatistics
    revert hstatistics
    decide +kernel

/-- Both are confined to the runs of both workloads. -/
theorem deletesOnlyItsRuns_bothWorkloads :
    DeletesOnlyItsRuns some readInteger (fun _ => none) ["load-1", "stress-1"] panelOfRun
      twoWorkloads :=
  (deletesOnlyItsRuns_iff (fun h => absurd h (by decide))).2 (.inr (by decide +kernel))

end Perfana.AnomalyDeletion
