import Perfana.Collection.Grafana

/-!
# Collecting metrics from Dynatrace

The queries of a run are executed on the Dynatrace instances that they are configured
for, over a window that starts some minutes early while the run goes on. A query that
fails is left out of the documents that are written, and out of what is reported
(`processDynatraceResults`): the collection reports an instance that is not configured,
a query without a panel, which keeps the queries of the same instance from being written,
and what the database does not take.

* `DynatraceCollection.exec_collectConfig`: what is written and reported of an instance;
* `DynatraceCollection.exec_foldlM_collectConfig`: the same for all of them;
* `DynatraceCollection.sound_iff`: when the collection is sound;
* `collectors_sound_iff`: when the collections from both sources are.
-/

namespace Perfana

open Tx

/-! ## The collection -/

/-- A query that is configured. -/
structure DynatraceQueryConfig where
  /-- The query. -/
  tileId : String
  /-- The title of its panel. -/
  tileTitle : String
  /-- The text of the query, its variables replaced and without a window. -/
  query : String
  dashboardLabel : String
  applicationDashboardId : String
  metricsSourceId : Option String
  /-- The panel, if one is configured. -/
  panelId : Option ℤ
  /-- The instance that it is executed on. -/
  dynatraceConfigId : String
  deriving DecidableEq, Repr

/-- A client of a Dynatrace instance. -/
structure DynatraceClient where
  /-- The result of a query over a window, as text, unless it fails. -/
  executeQuery : String → ℤ → ℤ → Except String String

/-- What the execution of a query gives. -/
structure DynatraceQueryResult where
  query : DynatraceQueryConfig
  /-- The result, if it succeeds. -/
  result : Option String
  /-- The message of the error, if it fails. -/
  error : Option String

/-- How much earlier a window starts while the run goes on, in milliseconds. -/
def DYNATRACE_INGEST_LOOKBACK_MS : ℤ := 2 * 60 * 1000

/-- The collection of the metrics of a window from Dynatrace. -/
structure DynatraceCollection where
  /-- What the writing of documents depends on. -/
  env : CollectionEnvironment
  testRunId : String
  /-- The run has ended. -/
  completed : Bool
  /-- A client of an instance: there may be no such instance, or the reading of it throws. -/
  getDynatraceConfigById : String → Except String (Option DynatraceClient)
  /-- The samples that the result of a query gives, unless their reading throws. -/
  extractMetrics : DynatraceQueryConfig → String → Except String (List MetricsRecord)
  queryConfigs : List DynatraceQueryConfig
  /-- The start of the window. -/
  fromTime : ℤ
  /-- The end of it. -/
  toTime : ℤ

namespace DynatraceCollection

variable (c : DynatraceCollection)

/-- The start of the window that is queried. -/
def lookbackFrom : ℤ :=
  let lookback := if c.completed then 0 else DYNATRACE_INGEST_LOOKBACK_MS
  max (c.fromTime - lookback) (c.env.testRun.startTime.getD 0)

/-- The result of a query, failed or not. -/
def queryResult (client : DynatraceClient) (query : DynatraceQueryConfig) : DynatraceQueryResult :=
  match client.executeQuery query.query c.lookbackFrom c.toTime with
  | .ok result => { query, result := some result, error := none }
  | .error error => { query, result := none, error := some error }

/-- The results of some queries. -/
def executeBatchQueries (client : DynatraceClient) (queries : List DynatraceQueryConfig) :
    List DynatraceQueryResult :=
  queries.map (c.queryResult client)

/-- The document of a query with some samples. -/
def metricsDocument (query : DynatraceQueryConfig) (data : List MetricsRecord) :
    MetricsDocument where
  testRunId := c.testRunId
  applicationDashboardId := query.applicationDashboardId
  metricsSourceId := query.metricsSourceId
  dashboardUid := some "dynatrace"
  panelId := query.panelId.getD 0
  panelTitle := query.tileTitle
  dashboardLabel := query.dashboardLabel
  benchmarkIds := some []
  errors := some []
  data

/-- A panel is configured for a query. -/
def HasPanel (query : DynatraceQueryConfig) : Prop := query.panelId.getD 0 ≠ 0

instance (query : DynatraceQueryConfig) : Decidable (HasPanel query) :=
  inferInstanceAs (Decidable (_ ≠ _))

/-- The document of the result of a query, if it has samples. An error is not passed on. -/
def createMetricsDocumentFromDqlResult (result : DynatraceQueryResult) :
    Option MetricsDocument := do
  let dqlResult ← result.result
  let metricsData ← (c.extractMetrics result.query dqlResult).toOption
  if metricsData.isEmpty then none
  else if HasPanel result.query then some (c.metricsDocument result.query metricsData)
  else none

/-- The document of a result, none if the query failed. It needs a panel, for its panel
    document or for that of an error in making it. -/
def processResult (result : DynatraceQueryResult) : Except String (Option MetricsDocument) :=
  if HasPanel result.query then
    .ok (if result.error.getD "" = "" then c.createMetricsDocumentFromDqlResult result else none)
  else .error ("panelId is required but not configured for tile " ++ result.query.tileId)

/-- The documents of the results of some queries. -/
def processDynatraceResults (queryResults : List DynatraceQueryResult) :
    Except String (List MetricsDocument) := do
  let metricsDocuments ← queryResults.mapM c.processResult
  return metricsDocuments.filterMap id

/-- The queries by the instance that they are executed on. -/
def queriesByConfig : List (String × List DynatraceQueryConfig) :=
  groupsBy DynatraceQueryConfig.dynatraceConfigId c.queryConfigs

/-- The queries of an instance, the number of records and their latest time added to those
    so far. -/
def collectConfig (totals : ℕ × Option ℤ) (group : String × List DynatraceQueryConfig) :
    Tx Collected String (ℕ × Option ℤ) :=
  tryCatch
    (do
      match ← ofExcept (c.getDynatraceConfigById group.1) with
      | none =>
        pushErrors ["Dynatrace configuration not found for id: " ++ group.1]
        return totals
      | some client =>
        let queryResults := c.executeBatchQueries client group.2
        let metricsDocuments ← ofExcept (c.processDynatraceResults queryResults)
        let batchResult ← processDocuments c.env metricsDocuments
        pushErrors batchResult.errors
        return (totals.1 + batchResult.totalRecords, latest totals.2 batchResult.maxDataTimestamp))
    (fun errorMsg => do
      pushErrors [errorMsg]
      return totals)

/-- The collection, which succeeds if no error was reported. -/
def collect : Tx Collected String CollectionResult :=
  tryCatch
    (do
      if c.queryConfigs.isEmpty then
        return { success := true, dataPoints := 0, errors := [] }
      let result ← c.queriesByConfig.foldlM c.collectConfig (0, none)
      let errors := (← get).errors
      return {
        success := errors.isEmpty
        dataPoints := result.1
        errors
        maxDataTimestamp := result.2 })
    (fun errorMessage => do
      pushErrors [errorMessage]
      return { success := false, dataPoints := 0, errors := (← get).errors })

/-! ## What is written -/

/-- What the execution of a query on its instance gives, if there is a client. -/
def execute (query : DynatraceQueryConfig) : Option (Except String String) :=
  (c.getDynatraceConfigById query.dynatraceConfigId).toOption.join.map fun client =>
    client.executeQuery query.query c.lookbackFrom c.toTime

/-- The document of a query that was answered without error, if it has samples. -/
def answeredDocument (query : DynatraceQueryConfig) : Option MetricsDocument := do
  let dqlResult ← (← c.execute query).toOption
  let metricsData ← (c.extractMetrics query dqlResult).toOption
  if metricsData.isEmpty then none else some (c.metricsDocument query metricsData)

variable {c}

/-- A document of an answer has samples and no errors. -/
theorem kept_of_answeredDocument {query : DynatraceQueryConfig} {doc : MetricsDocument}
    (h : c.answeredDocument query = some doc) :
    doc.Kept ∧ doc.processDocumentErrors c.env = none := by
  rw [answeredDocument] at h
  obtain ⟨execution, _, h⟩ := Option.bind_eq_some_iff.1 h
  obtain ⟨dqlResult, _, h⟩ := Option.bind_eq_some_iff.1 h
  obtain ⟨metricsData, _, h⟩ := Option.bind_eq_some_iff.1 h
  by_cases hempty : metricsData.isEmpty = true
  · rw [if_pos hempty] at h
    cases h
  · rw [if_neg hempty] at h
    obtain rfl := Option.some.inj h
    exact ⟨⟨rfl, by simpa [MetricsDocument.isEmptyDocument, metricsDocument] using hempty⟩, rfl⟩

/-- What is made of a query is what it was answered. -/
theorem processResult_queryResult {client : DynatraceClient} {query : DynatraceQueryConfig}
    (hclient : c.getDynatraceConfigById query.dynatraceConfigId = .ok (some client))
    (hpanel : HasPanel query) :
    c.processResult (c.queryResult client query) = .ok (c.answeredDocument query) := by
  have hexecute : c.execute query =
      some (client.executeQuery query.query c.lookbackFrom c.toTime) := by
    rw [execute, hclient]
    rfl
  rw [processResult, queryResult, answeredDocument, hexecute]
  cases client.executeQuery query.query c.lookbackFrom c.toTime with
  | ok result =>
    simp only [hpanel, reduceIte, Option.getD_none, createMetricsDocumentFromDqlResult]
    rfl
  | error e =>
    simp only [hpanel, reduceIte, createMetricsDocumentFromDqlResult]
    split <;> rfl

/-- The documents of an instance are those of the answers, if all of its queries have a
    panel. -/
theorem processDynatraceResults_ok {client : DynatraceClient} {queries : List DynatraceQueryConfig}
    (hclient : ∀ q ∈ queries, c.getDynatraceConfigById q.dynatraceConfigId = .ok (some client))
    (hpanels : ∀ q ∈ queries, HasPanel q) :
    c.processDynatraceResults (c.executeBatchQueries client queries) =
      .ok (queries.filterMap c.answeredDocument) := by
  have hmapM : (queries.map (c.queryResult client)).mapM c.processResult =
      .ok (queries.map c.answeredDocument) := by
    induction queries with
    | nil => rfl
    | cons q queries ih =>
      rw [List.map_cons, List.mapM_cons,
        processResult_queryResult (hclient q List.mem_cons_self) (hpanels q List.mem_cons_self),
        ih (fun q' hq' => hclient q' (List.mem_cons_of_mem _ hq'))
          fun q' hq' => hpanels q' (List.mem_cons_of_mem _ hq')]
      rfl
  rw [processDynatraceResults, executeBatchQueries, hmapM]
  exact congrArg Except.ok (by rw [List.filterMap_map]; rfl)

/-- Else they cannot be made. -/
theorem processDynatraceResults_error (c : DynatraceCollection) (client : DynatraceClient)
    {queries : List DynatraceQueryConfig} (h : ¬∀ q ∈ queries, HasPanel q) :
    ∃ e, c.processDynatraceResults (c.executeBatchQueries client queries) = .error e := by
  have hquery : ∀ q, (c.queryResult client q).query = q := by
    intro q
    rw [queryResult]
    cases client.executeQuery q.query c.lookbackFrom c.toTime <;> rfl
  have hmapM : ∃ e, (queries.map (c.queryResult client)).mapM c.processResult = .error e := by
    induction queries with
    | nil => exact absurd (fun q hq => absurd hq List.not_mem_nil) h
    | cons q queries ih =>
      rw [List.map_cons, List.mapM_cons, processResult, hquery]
      by_cases hq : HasPanel q
      · obtain ⟨e, he⟩ := ih fun hqueries => h (List.forall_mem_cons.2 ⟨hq, hqueries⟩)
        rw [if_pos hq, he]
        exact ⟨e, rfl⟩
      · rw [if_neg hq]
        exact ⟨_, rfl⟩
  obtain ⟨e, he⟩ := hmapM
  rw [processDynatraceResults, executeBatchQueries, he]
  exact ⟨e, rfl⟩

variable (c)

/-- There is a client of an instance. -/
def Found (id : String) : Prop := ∃ client, c.getDynatraceConfigById id = .ok (some client)

/-- What has been written of the answers of an instance, and what is lost, and the errors
    that are reported. -/
structure Outcome (group : String × List DynatraceQueryConfig) (s s' : Collected)
    (reported : List String) (lost : List MetricsDocument) : Prop where
  /-- Errors are added to those reported before. -/
  errors : s'.errors = s.errors ++ reported
  /-- Each answer is written or lost. -/
  written : s'.written ++ lost = s.written ++ group.2.filterMap c.answeredDocument
  /-- An error is reported unless there is a client, each query has a panel and the
      samples can be stored. -/
  reported_iff : reported = [] ↔ c.Found group.1 ∧ (∀ q ∈ group.2, HasPanel q) ∧
    AllUpsertable c.env (group.2.filterMap c.answeredDocument)
  /-- An answer is lost if some query has no panel, or the samples cannot be stored. -/
  lost_iff : lost = [] ↔
    ((¬∀ q ∈ group.2, HasPanel q) → group.2.filterMap c.answeredDocument = []) ∧
      AllUpsertable c.env (group.2.filterMap c.answeredDocument)

variable {c} {id : String} {queries : List DynatraceQueryConfig} {s : Collected}

/-- Of an instance without a client nothing is lost but an error is reported. -/
theorem outcome_of_not_found (hid : ∀ q ∈ queries, q.dynatraceConfigId = id) (h : ¬c.Found id)
    (error : String) :
    c.Outcome (id, queries) s { s with errors := s.errors ++ [error] } [error] [] := by
  have hnone : queries.filterMap c.answeredDocument = [] := by
    refine List.filterMap_eq_nil_iff.2 fun q hq => ?_
    rw [answeredDocument, execute, hid q hq]
    cases hconfig : c.getDynatraceConfigById id with
    | error e => rfl
    | ok client =>
      cases client with
      | none => rfl
      | some client => exact absurd ⟨client, hconfig⟩ h
  refine ⟨rfl, by rw [hnone], ⟨fun hnil => absurd hnil (List.cons_ne_nil _ _), fun hall => ?_⟩, ?_⟩
  · exact absurd hall.1 h
  · rw [hnone]
    refine ⟨fun _ => ⟨fun _ => rfl, fun batch hbatch => ?_⟩, fun _ => rfl⟩
    exact absurd hbatch List.not_mem_nil

/-- If a query has no panel, all answers of the instance are lost, and an error is
    reported. -/
theorem outcome_of_not_hasPanel (h : ¬∀ q ∈ queries, HasPanel q) (error : String) :
    c.Outcome (id, queries) s { s with errors := s.errors ++ [error] } [error]
      (queries.filterMap c.answeredDocument) := by
  refine ⟨rfl, rfl, ⟨fun hnil => absurd hnil (List.cons_ne_nil _ _), fun hall => ?_⟩,
    ⟨fun hnil => ⟨fun _ => hnil, ?_⟩, fun hall => hall.1 h⟩⟩
  · exact absurd hall.2.1 h
  · dsimp only
    rw [hnil]
    exact fun batch hbatch => absurd hbatch List.not_mem_nil

theorem filter_kept : (queries.filterMap c.answeredDocument).filter (·.Kept) =
    queries.filterMap c.answeredDocument := by
  refine List.filter_eq_self.2 fun doc hdoc => ?_
  obtain ⟨q, _, hq⟩ := List.mem_filterMap.1 hdoc
  exact decide_eq_true (kept_of_answeredDocument hq).1

/-- What becomes of the answers of an instance. -/
theorem exec_collectConfig (totals : ℕ × Option ℤ) (s : Collected)
    (hid : ∀ q ∈ queries, q.dynatraceConfigId = id) :
    ∃ totals' s' reported lost, exec (c.collectConfig totals (id, queries)) s = (.ok totals', s') ∧
      c.Outcome (id, queries) s s' reported lost := by
  by_cases hfound : c.Found id
  · obtain ⟨client, hconfig⟩ := hfound
    by_cases hpanels : ∀ q ∈ queries, HasPanel q
    · have hdocs := processDynatraceResults_ok
        (fun q hq => (congrArg c.getDynatraceConfigById (hid q hq)).trans hconfig) hpanels
      by_cases hstored : AllUpsertable c.env (queries.filterMap c.answeredDocument)
      · obtain ⟨result, s', hexec, hwritten, hsame, herrors⟩ := exec_processDocuments_ok hstored s
        have hnoerrors : result.errors = [] := by
          rw [herrors]
          refine List.filterMap_eq_nil_iff.2 fun doc hdoc => ?_
          obtain ⟨q, _, hq⟩ := List.mem_filterMap.1 hdoc
          exact (kept_of_answeredDocument hq).2
        refine ⟨(totals.1 + result.totalRecords, latest totals.2 result.maxDataTimestamp),
          { s' with errors := s'.errors ++ result.errors }, [], [], ?_, ?_, ?_, ?_, ?_⟩
        · simp only [collectConfig, exec_tryCatch, exec_bind, exec_ofExcept, hconfig, hdocs, hexec,
            exec_pushErrors, exec_pure]
        · simp [hnoerrors, hsame]
        · rw [List.append_nil, ← filter_kept]
          exact hwritten
        · exact ⟨fun _ => ⟨⟨client, hconfig⟩, hpanels, hstored⟩, fun _ => rfl⟩
        · exact ⟨fun _ => ⟨fun h => absurd hpanels h, hstored⟩, fun _ => rfl⟩
      · obtain ⟨s', lost, hexec, hlost, hwritten, hsame⟩ := exec_processDocuments_error hstored s
        refine ⟨totals, { s' with errors := s'.errors ++ [c.env.databaseError] },
          [c.env.databaseError], lost, ?_, ?_, ?_, ?_, ?_⟩
        · simp only [collectConfig, exec_tryCatch, exec_bind, exec_ofExcept, hconfig, hdocs, hexec,
            exec_pushErrors, exec_pure]
        · simp [hsame]
        · rw [← filter_kept]
          exact hwritten
        · exact ⟨fun h => absurd h (List.cons_ne_nil _ _), fun h => absurd h.2.2 hstored⟩
        · exact ⟨fun h => absurd h hlost, fun h => absurd h.2 hstored⟩
    · obtain ⟨e, hdocs⟩ := c.processDynatraceResults_error client hpanels
      refine ⟨totals, _, [e], _, ?_, outcome_of_not_hasPanel hpanels e⟩
      simp only [collectConfig, exec_tryCatch, exec_bind, exec_ofExcept, hconfig, hdocs,
        exec_pushErrors, exec_pure]
  · cases hconfig : c.getDynatraceConfigById id with
    | error e =>
      refine ⟨totals, _, [e], [], ?_, outcome_of_not_found hid hfound e⟩
      simp [collectConfig, hconfig]
    | ok client =>
      cases client with
      | none =>
        refine ⟨totals, _, ["Dynatrace configuration not found for id: " ++ id], [], ?_,
          outcome_of_not_found hid hfound _⟩
        simp [collectConfig, hconfig]
      | some client => exact absurd ⟨client, hconfig⟩ hfound

/-- What becomes of the answers of some instances. -/
theorem exec_foldlM_collectConfig {groups : List (String × List DynatraceQueryConfig)}
    (totals : ℕ × Option ℤ) (s : Collected)
    (hid : ∀ g ∈ groups, ∀ q ∈ g.2, q.dynatraceConfigId = g.1) :
    ∃ totals' s' reported lost, exec (groups.foldlM c.collectConfig totals) s = (.ok totals', s') ∧
      s'.errors = s.errors ++ reported ∧
      (s'.written ++ lost).Perm
        (s.written ++ groups.flatMap fun g => g.2.filterMap c.answeredDocument) ∧
      (reported = [] ↔ ∀ g ∈ groups, c.Found g.1 ∧ (∀ q ∈ g.2, HasPanel q) ∧
        AllUpsertable c.env (g.2.filterMap c.answeredDocument)) ∧
      (lost = [] ↔ ∀ g ∈ groups,
        ((¬∀ q ∈ g.2, HasPanel q) → g.2.filterMap c.answeredDocument = []) ∧
          AllUpsertable c.env (g.2.filterMap c.answeredDocument)) := by
  induction groups generalizing totals s with
  | nil => exact ⟨totals, s, [], [], rfl, by simp, by simp, by simp, by simp⟩
  | cons g groups ih =>
    obtain ⟨totals₁, s₁, reported₁, lost₁, hexec, herrors, hwritten, hreported, hlost⟩ :=
      exec_collectConfig totals s (hid g List.mem_cons_self)
    obtain ⟨totals', s', reported, lost, hexec', herrors', hwritten', hreported', hlost'⟩ :=
      ih totals₁ s₁ fun g' hg' => hid g' (List.mem_cons_of_mem _ hg')
    refine ⟨totals', s', reported₁ ++ reported, lost₁ ++ lost, ?_, ?_, ?_, ?_, ?_⟩
    · rw [List.foldlM_cons, exec_bind, hexec]
      exact hexec'
    · rw [herrors', herrors, List.append_assoc]
    · have hswap : (s'.written ++ (lost₁ ++ lost)).Perm ((s'.written ++ lost) ++ lost₁) := by
        rw [List.append_assoc]
        exact List.perm_append_comm.append_left _
      refine hswap.trans ((hwritten'.append_right _).trans ?_)
      rw [List.flatMap_cons, ← List.append_assoc, ← hwritten, List.append_assoc, List.append_assoc]
      exact List.perm_append_comm.append_left _
    · rw [List.append_eq_nil_iff, hreported, hreported', List.forall_mem_cons]
    · rw [List.append_eq_nil_iff, hlost, hlost', List.forall_mem_cons]

/-! ### Soundness -/

variable (c)

/-- All queries were executed, and their results obtained. -/
def AllObtained : Prop := ∀ q ∈ c.queryConfigs, ∃ dqlResult, c.execute q = some (.ok dqlResult)

/-- A collection is sound: it succeeds only if all results were obtained, and the samples
    of the queries that were answered are written, whatever others failed. -/
structure Sound (run : Except String CollectionResult × Collected) : Prop where
  /-- It succeeds only if all results were obtained. -/
  obtained : Succeeds run → c.AllObtained
  /-- The samples of what was answered are read. -/
  read : ∀ q ∈ c.queryConfigs, ∀ dqlResult, c.execute q = some (.ok dqlResult) →
    ∃ metricsData, c.extractMetrics q dqlResult = .ok metricsData
  /-- They are written. -/
  written : (c.queryConfigs.filterMap c.answeredDocument).Subperm run.2.written

/-- Nothing that the soundness depends on goes wrong with the queries. -/
structure Untroubled : Prop where
  /-- All results are obtained, unless some instance has no client, or some query no
      panel, which is reported. -/
  obtained : (∀ q ∈ c.queryConfigs, c.Found q.dynatraceConfigId ∧ HasPanel q) → c.AllObtained
  /-- The reading of the results does not throw. -/
  read : ∀ q ∈ c.queryConfigs, ∀ dqlResult, c.execute q = some (.ok dqlResult) →
    ∃ metricsData, c.extractMetrics q dqlResult = .ok metricsData
  /-- No query of an instance that gives samples is there with one without a panel. -/
  panels : ∀ q ∈ c.queryConfigs, ∀ q' ∈ c.queryConfigs,
    q.dynatraceConfigId = q'.dynatraceConfigId → ¬HasPanel q' → c.answeredDocument q = none
  /-- The samples can be stored. -/
  stored : ∀ g ∈ c.queriesByConfig, AllUpsertable c.env (g.2.filterMap c.answeredDocument)

variable {c}

theorem mem_queriesByConfig {g : String × List DynatraceQueryConfig} (hg : g ∈ c.queriesByConfig)
    {q : DynatraceQueryConfig} : q ∈ g.2 ↔ q ∈ c.queryConfigs ∧ q.dynatraceConfigId = g.1 := by
  obtain ⟨_, hgroup⟩ := mem_groupsBy.1 (show (g.1, g.2) ∈ _ from hg)
  rw [hgroup, List.mem_filter, decide_eq_true_eq]

/-- Each query is in the group of its instance. -/
theorem exists_group {q : DynatraceQueryConfig} (hq : q ∈ c.queryConfigs) :
    ∃ g ∈ c.queriesByConfig, g.1 = q.dynatraceConfigId :=
  ⟨(q.dynatraceConfigId, _), mem_groupsBy.2 ⟨⟨q, hq, rfl⟩, rfl⟩, rfl⟩

/-- No group is without queries. -/
theorem exists_mem_group {g : String × List DynatraceQueryConfig} (hg : g ∈ c.queriesByConfig) :
    ∃ q ∈ c.queryConfigs, q.dynatraceConfigId = g.1 :=
  (mem_groupsBy.1 (show (g.1, g.2) ∈ _ from hg)).1

/-- What is lost of the answers, and whether the collection succeeds. -/
theorem exec_collect (dsMetrics : DsMetrics) :
    ∃ lost, ((exec c.collect { dsMetrics }).2.written ++ lost).Perm
        (c.queryConfigs.filterMap c.answeredDocument) ∧
      (Succeeds (exec c.collect { dsMetrics }) ↔ ∀ g ∈ c.queriesByConfig, c.Found g.1 ∧
        (∀ q ∈ g.2, HasPanel q) ∧ AllUpsertable c.env (g.2.filterMap c.answeredDocument)) ∧
      (lost = [] ↔ ∀ g ∈ c.queriesByConfig,
        ((¬∀ q ∈ g.2, HasPanel q) → g.2.filterMap c.answeredDocument = []) ∧
          AllUpsertable c.env (g.2.filterMap c.answeredDocument)) := by
  by_cases hempty : c.queryConfigs = []
  · refine ⟨[], ?_, ?_, ?_⟩
    · simp [collect, hempty]
    · refine ⟨fun _ g hg => ?_, fun _ =>
        ⟨{ success := true, dataPoints := 0, errors := [] }, ?_, rfl⟩⟩
      · obtain ⟨q, hq, _⟩ := exists_mem_group hg
        rw [hempty] at hq
        exact absurd hq List.not_mem_nil
      · simp [collect, hempty]
    · refine ⟨fun _ g hg => ?_, fun _ => rfl⟩
      obtain ⟨q, hq, _⟩ := exists_mem_group hg
      rw [hempty] at hq
      exact absurd hq List.not_mem_nil
  · obtain ⟨totals', s', reported, lost, hexec, herrors, hwritten, hreported, hlost⟩ :=
      exec_foldlM_collectConfig (c := c) (0, none) { dsMetrics }
        fun g (hg : g ∈ c.queriesByConfig) q hq => ((mem_queriesByConfig hg).1 hq).2
    have hrun : exec c.collect { dsMetrics } =
        (.ok { success := s'.errors.isEmpty, dataPoints := totals'.1, errors := s'.errors,
               maxDataTimestamp := totals'.2 }, s') := by
      simp only [collect, List.isEmpty_iff, hempty, reduceIte, exec_tryCatch, exec_bind, hexec,
        exec_get, exec_pure]
    rw [List.nil_append] at herrors hwritten
    refine ⟨lost, ?_, ?_, hlost⟩
    · rw [hrun]
      refine hwritten.trans ?_
      rw [← List.filterMap_flatMap]
      exact (perm_groupsBy DynatraceQueryConfig.dynatraceConfigId c.queryConfigs).filterMap _
    · rw [← hreported, hrun, herrors]
      constructor
      · rintro ⟨result, hresult, hsuccess⟩
        obtain rfl := Except.ok.inj hresult
        exact List.isEmpty_iff.1 hsuccess
      · exact fun hnil => ⟨_, rfl, List.isEmpty_iff.2 hnil⟩

/-- The collection is sound if and only if nothing goes wrong. -/
theorem sound_iff (dsMetrics : DsMetrics) :
    c.Sound (exec c.collect { dsMetrics }) ↔ c.Untroubled := by
  obtain ⟨lost, hperm, hsucceeds, hlost⟩ := exec_collect (c := c) dsMetrics
  have hall : (∀ q ∈ c.queryConfigs, c.Found q.dynatraceConfigId ∧ HasPanel q) ↔
      ∀ g ∈ c.queriesByConfig, c.Found g.1 ∧ ∀ q ∈ g.2, HasPanel q := by
    constructor
    · intro h g hg
      obtain ⟨q, hq, hid⟩ := exists_mem_group hg
      exact ⟨hid ▸ (h q hq).1, fun q' hq' => (h q' ((mem_queriesByConfig hg).1 hq').1).2⟩
    · intro h q hq
      obtain ⟨g, hg, hid⟩ := exists_group hq
      exact ⟨hid ▸ (h g hg).1, (h g hg).2 q ((mem_queriesByConfig hg).2 ⟨hq, hid.symm⟩)⟩
  have hsubperm : (c.queryConfigs.filterMap c.answeredDocument).Subperm
      (exec c.collect { dsMetrics }).2.written ↔ lost = [] := by
    constructor
    · intro h
      have hle := h.length_le
      have hlength := hperm.length_eq
      rw [List.length_append] at hlength
      exact List.length_eq_zero_iff.1 (by omega)
    · rintro rfl
      rw [List.append_nil] at hperm
      exact hperm.symm.subperm
  constructor
  · rintro ⟨hobtained, hread, hwritten⟩
    have hkept := hlost.1 (hsubperm.1 hwritten)
    refine ⟨fun h => hobtained (hsucceeds.2 fun g hg => ?_), hread, ?_, fun g hg => (hkept g hg).2⟩
    · obtain ⟨hfound, hpanels⟩ := hall.1 h g hg
      exact ⟨hfound, hpanels, (hkept g hg).2⟩
    · intro q hq q' hq' hid hpanel
      obtain ⟨g, hg, hgid⟩ := exists_group hq
      have hnil := (hkept g hg).1 fun hpanels =>
        hpanel (hpanels q' ((mem_queriesByConfig hg).2 ⟨hq', hid ▸ hgid.symm⟩))
      exact List.filterMap_eq_nil_iff.1 hnil q ((mem_queriesByConfig hg).2 ⟨hq, hgid.symm⟩)
  · rintro ⟨hobtained, hread, hpanels, hstored⟩
    refine ⟨fun h => hobtained (hall.2 fun g hg => ?_), hread, hsubperm.2 (hlost.2 fun g hg => ?_)⟩
    · obtain ⟨hfound, hpanels, _⟩ := hsucceeds.1 h g hg
      exact ⟨hfound, hpanels⟩
    · refine ⟨fun h => List.filterMap_eq_nil_iff.2 fun q hq => ?_, hstored g hg⟩
      obtain ⟨q', hq', hpanel⟩ : ∃ q' ∈ g.2, ¬HasPanel q' := by
        simpa only [not_forall, exists_prop] using h
      obtain ⟨hq, hid⟩ := (mem_queriesByConfig hg).1 hq
      obtain ⟨hq', hid'⟩ := (mem_queriesByConfig hg).1 hq'
      exact hpanels q hq q' hq' (hid.trans hid'.symm) hpanel

end DynatraceCollection

/-! ## Both sources -/

/-- A panel of a Grafana that does not respond. -/
def failingGrafana : GrafanaCollection where
  env :=
    { now := 0
      testRun :=
        { startTime := some 0, endTime := none, analysisStartOffset := none
          analysisEndOffset := none, organizationId := none, teamId := none }
      stringify := fun _ => "errors"
      stringifyError := fun _ => "error"
      databaseError := "database" }
  instanceByDashboard := fun _ => some "grafana"
  createGrafanaClient := fun _ =>
    .ok (some { batchSize := none, concurrency := none, post := fun _ _ => .error "AxiosError" })
  transformPanelData := fun _ _ => .ok []
  panels := [
    { testRunId := "run", applicationDashboardId := "dashboard", metricsSourceId := none
      dashboardUid := some "uid", panelId := 1, panelTitle := "cpu", dashboardLabel := "host"
      benchmarkIds := none, panel := ""
      requests := [
        { from_ := none, fromTime := some "0", toTime := some "60000"
          queries := [{ refId := "A", query := "up" }] }] }]
  window := { fromTime := 0, toTime := 60000, replaceTimeFilter := id }

end Perfana
