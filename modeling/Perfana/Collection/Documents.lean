import Perfana.Collection.MetricWriters
import Perfana.Lib.Transaction

/-!
# Writing documents of metrics

What a source answers is made into documents, one for a panel, with the samples of its
metrics or with its errors. The documents are written some at a time: those with errors
and those without samples are skipped, the records of the others are upserted in one
transaction (`processSingleBatch`). If that fails nothing of the batch is written, nor
of those after it.

* `exec_processDocuments_ok`: if all batches can be upserted, every document with
  samples and without errors is written, and the errors of the others are reported;
* `exec_processDocuments_error`: otherwise some such document is not written.
-/

namespace Perfana

open Tx

/-- An error of a panel. -/
structure PanelError where
  /-- The target that it is about. -/
  targetIndex : ℕ
  /-- The status that the source returned, if any. -/
  statusCode : Option ℕ
  message : String
  /-- The kind of error. -/
  type : String
  /-- What the source says about it. -/
  detail : Option String
  deriving DecidableEq, Repr

/-- A sample of a metric. -/
structure MetricsRecord where
  metricName : String
  time : RecordTime
  /-- The time since the start of the window. -/
  timestep : Option ℚ
  value : Option ℚ
  unit : Option String
  deriving DecidableEq, Repr

/-- A document of the metrics of a panel. -/
structure MetricsDocument where
  testRunId : String
  applicationDashboardId : String
  metricsSourceId : Option String
  /-- The identifier of the dashboard at the source. -/
  dashboardUid : Option String
  panelId : ℤ
  panelTitle : String
  dashboardLabel : String
  benchmarkIds : Option (List String)
  errors : Option (List PanelError)
  /-- The samples. -/
  data : List MetricsRecord
  deriving DecidableEq, Repr

/-- The run that metrics are collected for. -/
structure TestRunContext where
  /-- The start, in milliseconds. -/
  startTime : Option ℤ
  /-- The end, in milliseconds. -/
  endTime : Option ℤ
  /-- The seconds at the start that are not analysed. -/
  analysisStartOffset : Option ℚ
  /-- The seconds at the end that are not analysed. -/
  analysisEndOffset : Option ℚ
  organizationId : Option String
  teamId : Option String
  deriving DecidableEq, Repr

/-- What the collection of metrics depends on. -/
structure CollectionEnvironment where
  /-- The time. -/
  now : ℤ
  testRun : TestRunContext
  /-- The text of errors. -/
  stringify : List PanelError → String
  /-- The text of an error. -/
  stringifyError : PanelError → String
  /-- The message of a statement that fails. -/
  databaseError : String

/-- What has been collected. -/
structure Collected where
  /-- The rows of `ds_metrics`. -/
  dsMetrics : DsMetrics
  /-- The documents whose records have been upserted, for the statements. -/
  written : List MetricsDocument := []
  /-- The errors that are reported so far. -/
  errors : List String := []

/-- Report errors. -/
def pushErrors (errors : List String) : Tx Collected String PUnit := fun s =>
  (.ok ⟨⟩, { s with errors := s.errors ++ errors })

@[simp] theorem exec_pushErrors (errors : List String) (s : Collected) :
    exec (pushErrors errors) s = (.ok ⟨⟩, { s with errors := s.errors ++ errors }) := rfl

/-- What a collection gives. -/
structure CollectionResult where
  /-- It succeeded. -/
  success : Bool
  /-- The number of records. -/
  dataPoints : ℕ
  errors : List String
  /-- The latest time of a record, if it is reported. -/
  maxDataTimestamp : Option ℤ := none
  deriving DecidableEq, Repr

/-- A collection reports success. -/
def Succeeds (run : Except String CollectionResult × Collected) : Prop :=
  ∃ result, run.1 = .ok result ∧ result.success = true

/-- What a batch of documents gives. -/
structure BatchProcessResult where
  /-- The number of records. -/
  totalRecords : ℕ := 0
  /-- The number of documents that were processed. -/
  documentsProcessed : ℕ := 0
  /-- The number of documents that were skipped. -/
  documentsSkipped : ℕ := 0
  errors : List String := []
  /-- The latest time of a record. -/
  maxDataTimestamp : Option ℤ := none
  deriving DecidableEq, Repr

section Documents

variable (env : CollectionEnvironment)

namespace TestRunContext

variable (testRun : TestRunContext)

/-- The seconds from the start of the run to a time. -/
def elapsedSeconds (time : ℤ) : Option ℚ :=
  testRun.startTime.map fun start => ((time - start : ℤ) : ℚ) / 1000

/-- A time is among those at the start or the end that are not analysed. -/
def isRampUp (time : ℤ) : Bool :=
  match testRun.startTime, testRun.elapsedSeconds time with
  | some start, some elapsed =>
    let startOffset := testRun.analysisStartOffset.getD 0
    let endOffset := testRun.analysisEndOffset.getD 0
    elapsed < startOffset ∨
      endOffset > 0 ∧
        ∃ end_ ∈ testRun.endTime, elapsed > ((end_ - start : ℤ) : ℚ) / 1000 - endOffset
  | _, _ => false

end TestRunContext

namespace MetricsDocument

variable (doc : MetricsDocument)

/-- The records of a document of either source. -/
def flatten : List FlattenedMetricRecord :=
  doc.data.map fun record =>
    { testRunId := doc.testRunId
      applicationDashboardId := doc.applicationDashboardId
      metricsSourceId := doc.metricsSourceId.filter (· ≠ "")
      dashboardUid := doc.dashboardUid
      panelId := doc.panelId
      panelTitle := doc.panelTitle
      dashboardLabel := doc.dashboardLabel
      benchmarkIds := doc.benchmarkIds
      errors := doc.errors.map env.stringify
      metricName := record.metricName
      time := record.time
      timestep := (env.testRun.elapsedSeconds record.time.getTime).or record.timestep
      rampUp := env.testRun.isRampUp record.time.getTime
      value := record.value
      unit := record.unit.filter (· ≠ "")
      -- The times of writing are left to the database.
      updatedAt := 0
      createdAt := 0
      organizationId := env.testRun.organizationId.filter (· ≠ "")
      teamId := env.testRun.teamId.filter (· ≠ "")
      createdBy := some "worker-pipeline"
      updatedBy := some "worker-pipeline" }

/-- What is reported of a document with errors. -/
def processDocumentErrors : Option String :=
  match doc.errors with
  | some (e :: es) =>
    let errorMessages := (e :: es).map fun e =>
      if e.message = "" then env.stringifyError e else e.message
    some ("Panel " ++ toString doc.panelId ++ ": " ++ "; ".intercalate errorMessages)
  | _ => none

/-- A document has no samples. -/
def isEmptyDocument : Bool := doc.data.isEmpty

/-- A document is not skipped. -/
def Kept : Prop := (doc.errors.getD []).isEmpty ∧ doc.isEmptyDocument = false

instance : Decidable doc.Kept := inferInstanceAs (Decidable (_ ∧ _))

end MetricsDocument

/-- Upsert the records of documents, or throw. -/
def upsertDocuments (docs : List MetricsDocument) : Tx Collected String PUnit := fun s =>
  match upsertMetricsToDatabase env.now (docs.flatMap (·.flatten env)) s.dsMetrics with
  | some dsMetrics => (.ok ⟨⟩, { s with dsMetrics, written := s.written ++ docs })
  | none => (.error env.databaseError, s)

/-- What a batch of documents gives: the counts, and what is reported of the documents
    with errors. -/
def batchResult (batch : List MetricsDocument) : BatchProcessResult :=
  let kept := batch.filter (·.Kept)
  let flattenedRecords := kept.flatMap (·.flatten env)
  { totalRecords := flattenedRecords.length
    documentsProcessed := kept.length
    documentsSkipped := batch.length - kept.length
    errors := batch.filterMap (·.processDocumentErrors env)
    maxDataTimestamp := (flattenedRecords.map (·.time.getTime)).max? }

/-- A batch of documents: the records of those that are not skipped are upserted, if
    there are any. Flattening a document does not throw. -/
def processSingleBatch (batch : List MetricsDocument) : Tx Collected String BatchProcessResult := do
  let kept := batch.filter (·.Kept)
  if (kept.flatMap (·.flatten env)).length > 0 then
    upsertDocuments env kept
  return batchResult env batch

/-- The later of two times, if there are any. -/
def latest : Option ℤ → Option ℤ → Option ℤ
  | some a, some b => some (max a b)
  | a, b => a.or b

/-- The results of two batches together. -/
def BatchProcessResult.add (result batchResult : BatchProcessResult) : BatchProcessResult where
  totalRecords := result.totalRecords + batchResult.totalRecords
  documentsProcessed := result.documentsProcessed + batchResult.documentsProcessed
  documentsSkipped := result.documentsSkipped + batchResult.documentsSkipped
  errors := result.errors ++ batchResult.errors
  maxDataTimestamp := latest result.maxDataTimestamp batchResult.maxDataTimestamp

/-- The number of documents of a batch. -/
def documentBatchSize : ℕ := 50

/-- The documents of a source, batch by batch. It continues on errors of documents. -/
def processDocuments (docs : List MetricsDocument) : Tx Collected String BatchProcessResult :=
  (batches documentBatchSize docs).foldlM
    (fun result batch => result.add <$> processSingleBatch env batch) {}

/-! ## What is written -/

/-- The records of the documents of a batch can be upserted. -/
def Upsertable (batch : List MetricsDocument) : Prop :=
  (upsertMetricsToDatabase env.now ((batch.filter (·.Kept)).flatMap (·.flatten env))
    Table.empty).isSome

variable {env}

/-- Whether records can be upserted does not depend on the table. -/
theorem upsert_isSome_iff {records : List FlattenedMetricRecord} (t t' : DsMetrics) :
    (upsertMetricsToDatabase env.now records t).isSome ↔
      (upsertMetricsToDatabase env.now records t').isSome := by
  rw [upsertMetricsToDatabase_isSome, upsertMetricsToDatabase_isSome]

/-- Documents that are not skipped have records. -/
theorem flatten_eq_nil {docs : List MetricsDocument} :
    (docs.filter (·.Kept)).flatMap (·.flatten env) = [] ↔ docs.filter (·.Kept) = [] := by
  rw [List.flatMap_eq_nil_iff]
  constructor
  · intro h
    refine List.eq_nil_iff_forall_not_mem.2 fun doc hdoc => ?_
    have hkept : doc.Kept := of_decide_eq_true (List.mem_filter.1 hdoc).2
    have hdata := List.map_eq_nil_iff.1 (h doc hdoc)
    rw [MetricsDocument.Kept, MetricsDocument.isEmptyDocument, hdata] at hkept
    exact absurd hkept.2.symm Bool.false_ne_true
  · intro h doc hdoc
    rw [h] at hdoc
    exact absurd hdoc List.not_mem_nil

/-- A batch whose records can be upserted is written. -/
theorem exec_processSingleBatch_ok {batch : List MetricsDocument} (h : Upsertable env batch)
    (s : Collected) : ∃ result s', exec (processSingleBatch env batch) s = (.ok result, s') ∧
      s'.written = s.written ++ batch.filter (·.Kept) ∧ s'.errors = s.errors ∧
      result.errors = batch.filterMap (·.processDocumentErrors env) := by
  rw [processSingleBatch]
  by_cases hnil : batch.filter (·.Kept) = []
  · exact ⟨batchResult env batch, s, by simp [hnil], by simp [hnil], rfl, rfl⟩
  · have hpos : 0 < ((batch.filter (·.Kept)).flatMap (·.flatten env)).length :=
      List.length_pos_iff.2 (mt flatten_eq_nil.1 hnil)
    obtain ⟨t, ht⟩ := Option.isSome_iff_exists.1 ((upsert_isSome_iff _ s.dsMetrics).1 h)
    have hupsert : exec (upsertDocuments env (batch.filter (·.Kept))) s =
        (.ok ⟨⟩, ⟨t, s.written ++ batch.filter (·.Kept), s.errors⟩) := by
      simp only [exec, ExceptT.run, StateT.run, upsertDocuments, ht]
    refine ⟨batchResult env batch, ⟨t, s.written ++ batch.filter (·.Kept), s.errors⟩, ?_, rfl,
      rfl, rfl⟩
    simp only [gt_iff_lt, hpos, reduceIte, exec_bind, hupsert, exec_pure]

/-- A batch whose records cannot be upserted is not, and has some. -/
theorem exec_processSingleBatch_error {batch : List MetricsDocument} (h : ¬Upsertable env batch)
    (s : Collected) : exec (processSingleBatch env batch) s = (.error env.databaseError, s) ∧
      batch.filter (·.Kept) ≠ [] := by
  have hnil : batch.filter (·.Kept) ≠ [] := by
    intro hnil
    rw [Upsertable, hnil] at h
    exact h (upsertMetricsToDatabase_isSome.2
      ⟨fun _ => by simp [lastLookalikes, Table.lastOfKey_nil],
        fun _ => by simp [lastLookalikes, Table.lastOfKey_nil, batches]⟩)
  have hpos : 0 < ((batch.filter (·.Kept)).flatMap (·.flatten env)).length :=
    List.length_pos_iff.2 (mt flatten_eq_nil.1 hnil)
  have hnone : upsertMetricsToDatabase env.now
      ((batch.filter (·.Kept)).flatMap (·.flatten env)) s.dsMetrics = none :=
    Option.not_isSome_iff_eq_none.1 (mt (upsert_isSome_iff _ _).1 h)
  have hupsert : exec (upsertDocuments env (batch.filter (·.Kept))) s =
      (.error env.databaseError, s) := by
    simp only [exec, ExceptT.run, StateT.run, upsertDocuments, hnone]
  refine ⟨?_, hnil⟩
  rw [processSingleBatch]
  simp only [gt_iff_lt, hpos, reduceIte, exec_bind, hupsert]

/-- Batches whose records can all be upserted are written, and their errors reported. -/
theorem exec_foldlM_ok {bs : List (List MetricsDocument)} (h : ∀ b ∈ bs, Upsertable env b)
    (result : BatchProcessResult) (s : Collected) :
    ∃ result' s', exec (bs.foldlM (fun result batch =>
        result.add <$> processSingleBatch env batch) result) s = (.ok result', s') ∧
      s'.written = s.written ++ bs.flatten.filter (·.Kept) ∧ s'.errors = s.errors ∧
      result'.errors = result.errors ++ bs.flatten.filterMap (·.processDocumentErrors env) := by
  induction bs generalizing result s with
  | nil => exact ⟨result, s, rfl, by simp, rfl, by simp⟩
  | cons b bs ih =>
    obtain ⟨rb, sb, hexec, hwritten, hsame, herrors⟩ :=
      exec_processSingleBatch_ok (h b List.mem_cons_self) s
    obtain ⟨r, s', hrest, hwritten', hsame', herrors'⟩ :=
      ih (fun b' hb' => h b' (List.mem_cons_of_mem _ hb')) (result.add rb) sb
    refine ⟨r, s', ?_, ?_, hsame'.trans hsame, ?_⟩
    · rw [List.foldlM_cons, exec_bind, exec_map, hexec]
      exact hrest
    · rw [hwritten', hwritten, List.flatten_cons, List.filter_append, List.append_assoc]
    · rw [herrors', BatchProcessResult.add, herrors, List.flatten_cons, List.filterMap_append,
        List.append_assoc]

/-- If the records of some batch cannot be upserted, they and those of the batches after
    it are not. -/
theorem exec_foldlM_error {bs : List (List MetricsDocument)} (h : ¬∀ b ∈ bs, Upsertable env b)
    (result : BatchProcessResult) (s : Collected) :
    ∃ s' lost, exec (bs.foldlM (fun result batch =>
        result.add <$> processSingleBatch env batch) result) s = (.error env.databaseError, s') ∧
      lost ≠ [] ∧ s'.written ++ lost = s.written ++ bs.flatten.filter (·.Kept) ∧
      s'.errors = s.errors := by
  induction bs generalizing result s with
  | nil => exact absurd (fun b hb => absurd hb List.not_mem_nil) h
  | cons b bs ih =>
    rw [List.flatten_cons, List.filter_append]
    by_cases hb : Upsertable env b
    · obtain ⟨rb, sb, hexec, hwritten, hsame, _⟩ := exec_processSingleBatch_ok hb s
      have hrest : ¬∀ b ∈ bs, Upsertable env b := fun hbs => h (List.forall_mem_cons.2 ⟨hb, hbs⟩)
      obtain ⟨s', lost, hexec', hlost, hwritten', hsame'⟩ := ih hrest (result.add rb) sb
      refine ⟨s', lost, ?_, hlost, ?_, hsame'.trans hsame⟩
      · rw [List.foldlM_cons, exec_bind, exec_map, hexec]
        exact hexec'
      · rw [hwritten', hwritten, List.append_assoc]
    · obtain ⟨hexec, hnil⟩ := exec_processSingleBatch_error hb s
      refine ⟨s, _, ?_, List.append_ne_nil_of_left_ne_nil hnil _, rfl, rfl⟩
      rw [List.foldlM_cons, exec_bind, exec_map, hexec]

/-- The records of the documents, taken some at a time, can be upserted. -/
def AllUpsertable (env : CollectionEnvironment) (docs : List MetricsDocument) : Prop :=
  ∀ batch ∈ batches documentBatchSize docs, Upsertable env batch

/-- If the records of documents can be upserted, they are, and the errors are reported. -/
theorem exec_processDocuments_ok {docs : List MetricsDocument} (h : AllUpsertable env docs)
    (s : Collected) : ∃ result s', exec (processDocuments env docs) s = (.ok result, s') ∧
      s'.written = s.written ++ docs.filter (·.Kept) ∧ s'.errors = s.errors ∧
      result.errors = docs.filterMap (·.processDocumentErrors env) := by
  obtain ⟨result, s', hexec, hwritten, hsame, herrors⟩ := exec_foldlM_ok h {} s
  rw [flatten_batches (by decide)] at hwritten herrors
  exact ⟨result, s', hexec, hwritten, hsame, herrors⟩

/-- If they cannot, some document with records is not written. -/
theorem exec_processDocuments_error {docs : List MetricsDocument} (h : ¬AllUpsertable env docs)
    (s : Collected) : ∃ s' lost,
      exec (processDocuments env docs) s = (.error env.databaseError, s') ∧ lost ≠ [] ∧
        s'.written ++ lost = s.written ++ docs.filter (·.Kept) ∧ s'.errors = s.errors := by
  obtain ⟨s', lost, hexec, hlost, hwritten, hsame⟩ := exec_foldlM_error h {} s
  rw [flatten_batches (by decide)] at hwritten
  exact ⟨s', lost, hexec, hlost, hwritten, hsame⟩

end Documents

end Perfana
