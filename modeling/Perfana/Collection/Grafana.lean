import Perfana.Collection.Documents
import Perfana.Lib.Groups

/-!
# Collecting metrics from Grafana

The panels of a run are queried some at a time: a request has the queries of a batch of
panels, each with a name that tells it from those of the other panels, and is tried
three times. What Grafana answers is taken apart again, panel by panel, and made into
documents that are written. What fails on the way, a request, a query or the reading of
a response, becomes an error of the document of the panel, which is reported but does
not make the collection fail: `collect` fails only if it cannot make a client or if the
database fails.

* `filter_flatMap_panels`: the panels that have queries are in the batches, in order;
* `processBatchedResponses_eq`: if no two of them have the same key, the response to a
  batch gives a result for each;
* `nodup_processBatchedResponses`: otherwise only one of those with a key has a result;
* `exec_collectGroups_ok`, `exec_collectGroups_error`: what is written;
* `GrafanaCollection.sound_iff`: the collection is sound if and only if nothing fails
  and no two panels with queries have the same key.
-/

namespace Perfana

open Tx

/-! ## Panels and their queries -/

/-- A query of a panel. -/
structure GrafanaQuery where
  /-- Its name. -/
  refId : String
  /-- What it asks, as text. -/
  query : String
  deriving DecidableEq, Repr

/-- A request for data of a panel, as it was prepared. -/
structure GrafanaRequest where
  /-- The start of the window, under the name that is preferred. -/
  from_ : Option String
  /-- The start of the window, under the other name. -/
  fromTime : Option String
  /-- The end of the window. -/
  toTime : Option String
  queries : List GrafanaQuery
  deriving DecidableEq, Repr

/-- A panel of a dashboard. -/
structure GrafanaPanel where
  testRunId : String
  applicationDashboardId : String
  metricsSourceId : Option String
  /-- The identifier of the dashboard at Grafana. -/
  dashboardUid : Option String
  panelId : ℤ
  panelTitle : String
  dashboardLabel : String
  benchmarkIds : Option (List String)
  /-- The panel at Grafana, as text. -/
  panel : String
  /-- The requests for its data. -/
  requests : List GrafanaRequest
  deriving DecidableEq, Repr

/-- What the code tells panels apart by. -/
structure PanelKey where
  testRunId : String
  applicationDashboardId : String
  panelId : ℤ
  deriving DecidableEq, Repr

/-- The key of a panel. The text that the code makes of it tells the parts apart, the
    panels being those of one run. -/
def GrafanaPanel.panelKey (panel : GrafanaPanel) : PanelKey where
  testRunId := panel.testRunId
  applicationDashboardId := panel.applicationDashboardId
  panelId := panel.panelId

/-- A query of a request, and where it comes from. -/
structure RefIdMapping where
  panel : GrafanaPanel
  /-- The place of the panel among those that are queried. -/
  index : ℕ
  /-- The place of the request among those of the panel. -/
  targetIndex : ℕ
  /-- The query, as it is prepared. -/
  query : String
  /-- The name of the query in the request. -/
  refId : String
  deriving DecidableEq, Repr

/-- The queries of the panel at a place, the place added to their names. -/
def refIdMappings (panel : GrafanaPanel × ℕ) : List RefIdMapping :=
  panel.1.requests.zipIdx.flatMap fun request => request.1.queries.map fun query =>
    { panel := panel.1
      index := panel.2
      targetIndex := request.2
      query := query.query
      refId := query.refId ++ toString panel.2 }

/-- A window that takes the place of those of the requests. -/
structure TimeRangeOverride where
  /-- The start, in milliseconds. -/
  fromTime : ℤ
  /-- The end. -/
  toTime : ℤ
  /-- A query, with the window in the place of the one in its text. -/
  replaceTimeFilter : String → String

/-- The window of a request for the data of a panel: that of its first request, if none
    takes its place. -/
def timeRange (timeRangeOverride : Option TimeRangeOverride) (panel : GrafanaPanel) :
    Option String × Option String :=
  match timeRangeOverride, panel.requests with
  | some window, _ => (some (toString window.fromTime), some (toString window.toTime))
  | none, firstRequest :: _ =>
    ((firstRequest.from_.filter (· ≠ "")).or firstRequest.fromTime, firstRequest.toTime)
  | none, [] => (none, none)

/-- A request for the data of some panels. -/
structure RequestBatch where
  /-- The window. -/
  timeRange : Option String × Option String
  /-- The panels, with their places. -/
  panels : List (GrafanaPanel × ℕ)
  deriving DecidableEq, Repr

/-- The queries of a request, and where they come from. -/
def RequestBatch.refIdMapping (batch : RequestBatch) : List RefIdMapping :=
  batch.panels.flatMap refIdMappings

/-- The queries of a request as they are sent. -/
def RequestBatch.queries (timeRangeOverride : Option TimeRangeOverride) (batch : RequestBatch) :
    List GrafanaQuery :=
  batch.refIdMapping.map fun mapping =>
    { refId := mapping.refId
      query := (timeRangeOverride.elim id TimeRangeOverride.replaceTimeFilter) mapping.query }

/-- The batches that have been made of some panels. -/
structure Batching where
  /-- The batches that are full. -/
  requestBatches : List RequestBatch
  /-- The batch that is being made, if any. -/
  currentBatch : Option RequestBatch
  /-- The number of panels that have been added. -/
  processedPanelCount : ℕ

section Batching

variable (batchSize : ℕ) (timeRangeOverride : Option TimeRangeOverride)

/-- Add a panel to a batch, unless it has no requests. -/
def Batching.add (s : Batching) (panel : GrafanaPanel × ℕ) : Batching :=
  if panel.1.requests.isEmpty then s
  else
    let processedPanelCount := s.processedPanelCount + 1
    match s.currentBatch with
    | none =>
      { s with
        currentBatch := some ⟨timeRange timeRangeOverride panel.1, [panel]⟩
        processedPanelCount }
    | some batch =>
      if s.processedPanelCount % batchSize = 0 then
        { requestBatches := s.requestBatches ++ [batch]
          currentBatch := some ⟨timeRange timeRangeOverride panel.1, [panel]⟩
          processedPanelCount }
      else
        { s with
          currentBatch := some { batch with panels := batch.panels ++ [panel] }
          processedPanelCount }

/-- The requests for the data of panels. The last one is left out if it has no queries. -/
def batchPanelQueries (panels : List GrafanaPanel) : List RequestBatch :=
  let s := panels.zipIdx.foldl (Batching.add batchSize timeRangeOverride) ⟨[], none, 0⟩
  s.requestBatches ++ s.currentBatch.toList.filter fun batch => !batch.refIdMapping.isEmpty

/-- The panels in batches. -/
def Batching.panels (s : Batching) : List (GrafanaPanel × ℕ) :=
  (s.requestBatches ++ s.currentBatch.toList).flatMap RequestBatch.panels

/-- A panel has queries. -/
def HasQueries (panel : GrafanaPanel × ℕ) : Bool := !(refIdMappings panel).isEmpty

theorem refIdMappings_eq_nil {panel : GrafanaPanel × ℕ} (h : HasQueries panel = false) :
    refIdMappings panel = [] := by
  simpa [HasQueries] using h

/-- A panel that is added comes last, and one that is not has no queries. -/
theorem Batching.filter_panels_add (s : Batching) (panel : GrafanaPanel × ℕ) :
    (s.add batchSize timeRangeOverride panel).panels.filter HasQueries =
      (s.panels ++ [panel]).filter HasQueries := by
  rw [Batching.add]
  split
  · rename_i hempty
    have hnone : HasQueries panel = false := by
      rw [HasQueries, refIdMappings, List.isEmpty_iff.1 hempty]
      rfl
    simp [hnone]
  · congr 1
    cases h : s.currentBatch with
    | none => simp [Batching.panels, h]
    | some batch =>
      by_cases hfull : s.processedPanelCount % batchSize = 0 <;>
        simp [Batching.panels, h, hfull]

theorem nodup_zipIdx_filter (panels : List GrafanaPanel) :
    (panels.zipIdx.filter HasQueries).Nodup := by
  refine List.Nodup.filter _ (List.Nodup.of_map Prod.snd ?_)
  rw [List.zipIdx_map_snd]
  exact List.nodup_range'

/-- The panels that have queries are in the batches, in order. -/
theorem filter_flatMap_panels (panels : List GrafanaPanel) :
    ((batchPanelQueries batchSize timeRangeOverride panels).flatMap RequestBatch.panels).filter
      HasQueries = panels.zipIdx.filter HasQueries := by
  have hfold : ∀ (l : List (GrafanaPanel × ℕ)) (s : Batching),
      (l.foldl (Batching.add batchSize timeRangeOverride) s).panels.filter HasQueries =
        (s.panels ++ l).filter HasQueries := by
    intro l
    induction l with
    | nil => simp
    | cons panel l ih =>
      intro s
      rw [List.foldl_cons, ih, List.filter_append, Batching.filter_panels_add,
        ← List.filter_append, List.append_assoc]
      rfl
  have hlast := hfold panels.zipIdx ⟨[], none, 0⟩
  rw [batchPanelQueries]
  generalize
    panels.zipIdx.foldl (Batching.add batchSize timeRangeOverride) ⟨[], none, 0⟩ = s at hlast
  rw [← List.nil_append (panels.zipIdx)]
  refine Eq.trans ?_ hlast
  rw [Batching.panels, List.flatMap_append, List.flatMap_append, List.filter_append,
    List.filter_append]
  congr 1
  cases s.currentBatch with
  | none => rfl
  | some batch =>
    by_cases hbatch : batch.refIdMapping = []
    · have hnone : batch.panels.filter HasQueries = [] := by
        refine List.filter_eq_nil_iff.2 fun panel hpanel => ?_
        have hnil := List.flatMap_eq_nil_iff.1 hbatch panel hpanel
        simp [HasQueries, hnil]
      simp [hbatch, hnone]
    · simp [hbatch]

end Batching

/-! ## Requests and responses -/

/-- The result of a query. -/
structure GrafanaQueryResult where
  status : Option ℕ
  /-- What Grafana says about an error. -/
  error : Option String
  /-- The data, as text. -/
  frames : String
  deriving DecidableEq, Repr

/-- The results of queries, by the names of these. -/
abbrev GrafanaResults := List (String × GrafanaQueryResult)

/-- What a request gives: a response, which may be without a body, or the class of the
    error that is thrown. Every status is a response. -/
abbrev GrafanaResponse := Except String (Option GrafanaResults)

/-- A client of a Grafana instance. -/
structure GrafanaClient where
  /-- The number of panels of a batch. -/
  batchSize : Option ℕ
  /-- The number of batches that are requested at the same time. -/
  concurrency : Option ℕ
  /-- What Grafana responds to a batch, at an attempt. -/
  post : RequestBatch → ℕ → GrafanaResponse

namespace GrafanaClient

variable (client : GrafanaClient)

/-- A request is tried three times. -/
def executeRequestWithRetry (batch : RequestBatch) : GrafanaResponse :=
  client.post batch 1 <|> client.post batch 2 <|> client.post batch 3

/-- The responses to some requests, a chunk of them at a time. -/
def executeBatchedRequests (requestBatches : List RequestBatch) : List GrafanaResponse :=
  let concurrencyLimit := (client.concurrency.filter (· ≠ 0)).getD 30
  (batches concurrencyLimit requestBatches).flatMap fun chunk =>
    chunk.map client.executeRequestWithRetry

theorem executeBatchedRequests_eq (requestBatches : List RequestBatch) :
    client.executeBatchedRequests requestBatches =
      requestBatches.map client.executeRequestWithRetry := by
  have hlimit : 0 < (client.concurrency.filter (· ≠ 0)).getD 30 := by
    cases client.concurrency with
    | none => decide
    | some n => by_cases hn : n = 0 <;> simp [Option.filter, hn, Nat.pos_iff_ne_zero]
  rw [executeBatchedRequests]
  conv_rhs => rw [← flatten_batches hlimit requestBatches]
  rw [List.map_flatten, List.flatMap_def]

end GrafanaClient

/-- The result of a query, or what is wrong with it. -/
def RefIdMapping.checkResult (mapping : RefIdMapping) :
    Option GrafanaQueryResult → Except PanelError GrafanaQueryResult
  | none => .error
    { targetIndex := mapping.targetIndex
      statusCode := none
      message := "No result found for query " ++ mapping.refId
      type := "missingResult"
      detail := none }
  | some result =>
    match result.status.filter (· ≠ 0) with
    | none => .ok result
    | some status =>
      if status ≠ 200 then .error
        { targetIndex := mapping.targetIndex
          statusCode := some status
          message := "Grafana request returned error status."
          type := "requestError"
          detail := some ((result.error.filter (· ≠ "")).getD "No error details") }
      else .ok result

/-- The result of a query of a response, or what is wrong with it. -/
def RefIdMapping.queryResult (mapping : RefIdMapping) (results : GrafanaResults) :
    Except PanelError GrafanaQueryResult :=
  mapping.checkResult (results.lookup mapping.refId)

/-- The result of a query was obtained by a response. -/
def RefIdMapping.Obtained (response : GrafanaResponse) (mapping : RefIdMapping) : Bool :=
  match response with
  | .ok (some results) => (mapping.queryResult results).isOk
  | _ => false

/-- What the response to a batch gives for a panel. -/
structure ProcessedPanelResult where
  panel : GrafanaPanel
  /-- The queries that the results are of, for the statements. -/
  mappings : List RefIdMapping
  /-- The results of the queries that have one, if any. -/
  data : Option GrafanaResults
  errors : Option (List PanelError)
  deriving DecidableEq, Repr

/-- A list, if it has elements. -/
def nonempty {α : Type} (l : List α) : Option (List α) := if l.isEmpty then none else some l

/-- What the response to a batch gives for a panel that has some of its queries. -/
def processPanel (response : GrafanaResponse) (mappings : List RefIdMapping) :
    Option ProcessedPanelResult :=
  mappings.head?.map fun first =>
    let clientError (type : String) : ProcessedPanelResult :=
      { panel := first.panel
        mappings
        data := none
        errors := some [
          { targetIndex := first.targetIndex
            statusCode := none
            message := "Internal client error when making request to Grafana."
            type
            detail := none }] }
    match response with
    | .error name => clientError (if name = "" then "ClientError" else name)
    | .ok none => clientError "Error"
    | .ok (some results) =>
      let answers := mappings.map fun mapping => (mapping.refId, mapping.queryResult results)
      let panelData := answers.filterMap fun answer =>
        answer.2.toOption.map fun queryResult => (answer.1, queryResult)
      let panelErrors := answers.filterMap fun answer =>
        match answer.2 with
        | .ok _ => none
        | .error e => some e
      { panel := first.panel
        mappings
        -- A name that occurs again has the same result.
        data := nonempty panelData.eraseDups
        errors := nonempty panelErrors }

/-- The results for the panels of the batches, of each of which the first batch that has
    it is taken. -/
def processBatchedResponses (processedPanels : List PanelKey) :
    List (RequestBatch × GrafanaResponse) → List ProcessedPanelResult
  | [] => []
  | (requestBatch, response) :: rest =>
    let panelGroups := (groupsBy (·.panel.panelKey) requestBatch.refIdMapping).filter
      fun group => group.1 ∉ processedPanels
    panelGroups.filterMap (fun group => processPanel response group.2) ++
      processBatchedResponses (processedPanels ++ panelGroups.map Prod.fst) rest

/-! ### The results of a panel -/

section Results

variable {response : GrafanaResponse} {mappings : List RefIdMapping} {r : ProcessedPanelResult}

theorem processPanel_panel (h : processPanel response mappings = some r) :
    ∃ m ∈ mappings, r.panel = m.panel := by
  obtain ⟨first, hfirst, rfl⟩ := Option.map_eq_some_iff.1 h
  refine ⟨first, List.mem_of_mem_head? hfirst, ?_⟩
  cases response with
  | error name => rfl
  | ok results => cases results <;> rfl

theorem processPanel_mappings (h : processPanel response mappings = some r) :
    r.mappings = mappings := by
  obtain ⟨first, _, rfl⟩ := Option.map_eq_some_iff.1 h
  cases response with
  | error name => rfl
  | ok results => cases results <;> rfl

theorem processPanel_isSome : (processPanel response mappings).isSome ↔ mappings ≠ [] := by
  rw [processPanel, Option.isSome_map]
  cases mappings <;> simp

theorem RefIdMapping.obtained_iff {m : RefIdMapping} : m.Obtained response = true ↔
    ∃ results queryResult,
      response = .ok (some results) ∧ m.queryResult results = .ok queryResult := by
  rw [Obtained.eq_def]
  split
  · rename_i results
    constructor
    · intro h
      cases hresult : m.queryResult results with
      | error e => rw [hresult] at h; cases h
      | ok queryResult => exact ⟨results, queryResult, rfl, hresult⟩
    · rintro ⟨results', queryResult, hresponse, hresult⟩
      obtain rfl := Option.some.inj (Except.ok.inj hresponse)
      rw [hresult]
      rfl
  · rename_i hno
    exact ⟨fun h => absurd h Bool.false_ne_true,
      fun ⟨results, _, hresponse, _⟩ => absurd hresponse (hno results)⟩

theorem nonempty_eq_none {α : Type} {l : List α} : nonempty l = none ↔ l = [] := by
  rw [nonempty]
  cases l <;> simp

/-- A panel has no errors if and only if all of its queries were obtained. -/
theorem processPanel_errors (h : processPanel response mappings = some r) :
    r.errors = none ↔ ∀ m ∈ mappings, m.Obtained response = true := by
  obtain ⟨first, hfirst, rfl⟩ := Option.map_eq_some_iff.1 h
  have hmem : first ∈ mappings := List.mem_of_mem_head? hfirst
  cases response with
  | error name =>
    exact ⟨fun hnone => absurd hnone (Option.some_ne_none _),
      fun hall => absurd (hall first hmem) Bool.false_ne_true⟩
  | ok results =>
    cases results with
    | none =>
      exact ⟨fun hnone => absurd hnone (Option.some_ne_none _),
        fun hall => absurd (hall first hmem) Bool.false_ne_true⟩
    | some results =>
      dsimp only
      rw [nonempty_eq_none, List.filterMap_map, List.filterMap_eq_nil_iff]
      refine forall₂_congr fun m _ => ?_
      rw [RefIdMapping.Obtained]
      dsimp only [Function.comp_apply]
      cases m.queryResult results <;> simp [Except.isOk, Except.toBool]

end Results

/-! ### The results of the batches -/

theorem mem_refIdMappings {panel : GrafanaPanel × ℕ} {m : RefIdMapping}
    (h : m ∈ refIdMappings panel) : m.panel = panel.1 ∧ m.index = panel.2 := by
  obtain ⟨request, _, hm⟩ := List.mem_flatMap.1 h
  obtain ⟨query, _, rfl⟩ := List.mem_map.1 hm
  exact ⟨rfl, rfl⟩

/-- A query is of one panel. -/
theorem eq_of_mem_refIdMappings {p q : GrafanaPanel × ℕ} {m : RefIdMapping}
    (hp : m ∈ refIdMappings p) (hq : m ∈ refIdMappings q) : p = q := by
  obtain ⟨hpanel, hindex⟩ := mem_refIdMappings hp
  obtain ⟨hpanel', hindex'⟩ := mem_refIdMappings hq
  exact Prod.ext (hpanel.symm.trans hpanel') (hindex.symm.trans hindex')

theorem hasQueries_iff {panel : GrafanaPanel × ℕ} :
    HasQueries panel = true ↔ ∃ m, m ∈ refIdMappings panel := by
  rw [HasQueries]
  cases refIdMappings panel with
  | nil => simp
  | cons m ms => simp

/-- The queries of panels are those of the panels that have queries. -/
theorem flatMap_refIdMappings (panels : List (GrafanaPanel × ℕ)) :
    panels.flatMap refIdMappings = (panels.filter HasQueries).flatMap refIdMappings := by
  induction panels with
  | nil => rfl
  | cons panel panels ih =>
    cases hpanel : HasQueries panel with
    | true => rw [List.flatMap_cons, List.filter_cons_of_pos hpanel, List.flatMap_cons, ih]
    | false =>
      rw [List.flatMap_cons, List.filter_cons_of_neg (by simp [hpanel]),
        refIdMappings_eq_nil hpanel, List.nil_append, ih]

/-- The key of a panel that has a place. -/
def keyAt (panel : GrafanaPanel × ℕ) : PanelKey := panel.1.panelKey

/-- Groups of queries give a result each, of a panel with their key. -/
theorem map_panelKey_filterMap {response : GrafanaResponse}
    {panelGroups : List (PanelKey × List RefIdMapping)}
    (h : ∀ group ∈ panelGroups, group.2 ≠ [] ∧ ∀ m ∈ group.2, m.panel.panelKey = group.1) :
    (panelGroups.filterMap fun group => processPanel response group.2).map (·.panel.panelKey) =
      panelGroups.map Prod.fst := by
  induction panelGroups with
  | nil => rfl
  | cons group panelGroups ih =>
    obtain ⟨hne, hkey⟩ := h group List.mem_cons_self
    obtain ⟨r, hr⟩ := Option.isSome_iff_exists.1 (processPanel_isSome.2 hne)
    obtain ⟨m, hm, hpanel⟩ := processPanel_panel hr
    rw [List.filterMap_cons, hr, List.map_cons, List.map_cons, hpanel, hkey m hm,
      ih fun group' hgroup' => h group' (List.mem_cons_of_mem _ hgroup')]

/-- The groups of the queries of a batch are of the panels with their keys. -/
theorem groupsBy_panelKey {mappings : List RefIdMapping} {p : PanelKey × List RefIdMapping → Bool} :
    ∀ group ∈ (groupsBy (·.panel.panelKey) mappings).filter p,
      group.2 ≠ [] ∧ ∀ m ∈ group.2, m.panel.panelKey = group.1 := by
  rintro ⟨k, group⟩ hgroup
  obtain ⟨⟨m, hm, hk⟩, rfl⟩ := mem_groupsBy.1 (List.mem_filter.1 hgroup).1
  refine ⟨List.ne_nil_of_mem (List.mem_filter.2 ⟨hm, decide_eq_true hk⟩), fun m' hm' => ?_⟩
  exact of_decide_eq_true (List.mem_filter.1 hm').2

/-- A result is what the response to a batch gives for the queries of all panels of the
    batch that have its key. -/
theorem mem_processBatchedResponses {processedPanels : List PanelKey}
    {l : List (RequestBatch × GrafanaResponse)} {r : ProcessedPanelResult}
    (h : r ∈ processBatchedResponses processedPanels l) :
    r.panel.panelKey ∉ processedPanels ∧ ∃ b ∈ l, processPanel b.2
      (b.1.refIdMapping.filter fun m => m.panel.panelKey = r.panel.panelKey) = some r := by
  induction l generalizing processedPanels with
  | nil => exact absurd h List.not_mem_nil
  | cons b l ih =>
    rw [processBatchedResponses, List.mem_append] at h
    rcases h with h | h
    · obtain ⟨⟨k, group⟩, hgroup, hr⟩ := List.mem_filterMap.1 h
      obtain ⟨m, hm, hpanel⟩ := processPanel_panel hr
      obtain ⟨_, hkeys⟩ := groupsBy_panelKey _ hgroup
      have hk : r.panel.panelKey = k := by rw [hpanel, hkeys m hm]
      obtain ⟨hmem, hnew⟩ := List.mem_filter.1 hgroup
      obtain ⟨_, rfl⟩ := mem_groupsBy.1 hmem
      rw [hk]
      exact ⟨of_decide_eq_true hnew, b, List.mem_cons_self, hr⟩
    · obtain ⟨hnew, b', hb', hr⟩ := ih h
      exact ⟨fun hmem => hnew (List.mem_append_left _ hmem), b', List.mem_cons_of_mem _ hb', hr⟩

/-- No two results are of panels with the same key. -/
theorem nodup_processBatchedResponses (processedPanels : List PanelKey)
    (l : List (RequestBatch × GrafanaResponse)) :
    ((processBatchedResponses processedPanels l).map (·.panel.panelKey)).Nodup := by
  induction l generalizing processedPanels with
  | nil => exact List.nodup_nil
  | cons b l ih =>
    rw [processBatchedResponses, List.map_append, map_panelKey_filterMap groupsBy_panelKey]
    refine List.nodup_append.2 ⟨nodup_groupsBy.sublist (List.filter_sublist.map _), ih _, ?_⟩
    intro k hk k' hk' heq
    obtain ⟨r, hr, hrk⟩ := List.mem_map.1 hk'
    refine (mem_processBatchedResponses hr).1 (List.mem_append_right _ ?_)
    rw [hrk, ← heq]
    exact hk

/-- Results of panels with the same key are the same. -/
theorem eq_of_panelKey {l : List (RequestBatch × GrafanaResponse)} {r r' : ProcessedPanelResult}
    (hr : r ∈ processBatchedResponses [] l) (hr' : r' ∈ processBatchedResponses [] l)
    (h : r.panel.panelKey = r'.panel.panelKey) : r = r' :=
  List.inj_on_of_nodup_map (nodup_processBatchedResponses [] l) hr hr' h

/-- If no two panels with queries have the same key, there is a result for each. -/
theorem processBatchedResponses_eq {processedPanels : List PanelKey}
    {l : List (RequestBatch × GrafanaResponse)}
    (hnodup : (((l.flatMap fun b => b.1.panels).filter HasQueries).map keyAt).Nodup)
    (hnew : ∀ panel ∈ (l.flatMap fun b => b.1.panels).filter HasQueries,
      keyAt panel ∉ processedPanels) :
    processBatchedResponses processedPanels l =
      l.flatMap fun b =>
        b.1.panels.filterMap fun panel => processPanel b.2 (refIdMappings panel) := by
  induction l generalizing processedPanels with
  | nil => rfl
  | cons b l ih =>
    rw [List.flatMap_cons, List.filter_append] at hnodup hnew
    rw [List.map_append, List.nodup_append] at hnodup
    obtain ⟨hb, hl, hdisjoint⟩ := hnodup
    have hgroups : groupsBy (·.panel.panelKey) b.1.refIdMapping =
        (b.1.panels.filter HasQueries).map fun panel => (keyAt panel, refIdMappings panel) := by
      rw [RequestBatch.refIdMapping, flatMap_refIdMappings]
      refine groupsBy_flatMap ?_ ?_ hb
      · intro panel _ m hm
        rw [(mem_refIdMappings hm).1, keyAt]
      · intro panel hpanel hnil
        have hhas := (List.mem_filter.1 hpanel).2
        rw [HasQueries, hnil] at hhas
        exact absurd hhas Bool.false_ne_true
    have hall : (groupsBy (·.panel.panelKey) b.1.refIdMapping).filter
        (fun group => group.1 ∉ processedPanels) =
          groupsBy (·.panel.panelKey) b.1.refIdMapping := by
      refine List.filter_eq_self.2 fun group hgroup => ?_
      rw [hgroups] at hgroup
      obtain ⟨panel, hpanel, rfl⟩ := List.mem_map.1 hgroup
      exact decide_eq_true (hnew panel (List.mem_append_left _ hpanel))
    rw [processBatchedResponses, hall, hgroups, ih hl]
    · rw [List.flatMap_cons, List.filterMap_map, List.filterMap_filter]
      congr 1
      refine List.filterMap_congr fun panel _ => ?_
      cases hpanel : HasQueries panel with
      | true => rfl
      | false =>
        rw [refIdMappings_eq_nil hpanel]
        rfl
    · intro panel hpanel hmem
      rcases List.mem_append.1 hmem with hmem | hmem
      · exact hnew panel (List.mem_append_right _ hpanel) hmem
      · rw [List.map_map] at hmem
        exact hdisjoint _ hmem _ (List.mem_map_of_mem hpanel) rfl

/-! ## The collection -/

/-- A document without samples. -/
def createEmptyMetricsDocument (panel : GrafanaPanel) (errors : Option (List PanelError)) :
    MetricsDocument where
  testRunId := panel.testRunId
  applicationDashboardId := panel.applicationDashboardId
  metricsSourceId := panel.metricsSourceId
  dashboardUid := panel.dashboardUid
  panelId := panel.panelId
  panelTitle := panel.panelTitle
  dashboardLabel := panel.dashboardLabel
  benchmarkIds := panel.benchmarkIds
  errors
  data := []

/-- The panels of a Grafana instance, with a client of it. -/
structure GrafanaPanelGroup where
  /-- The instance, none for the default one. -/
  instanceId : Option String
  client : GrafanaClient
  panels : List GrafanaPanel

/-- The collection of the metrics of a window from Grafana. -/
structure GrafanaCollection where
  /-- What the writing of documents depends on. -/
  env : CollectionEnvironment
  /-- The instance of a dashboard, if one is known. -/
  instanceByDashboard : String → Option String
  /-- The client of an instance: there may be none, or the making of it throws. -/
  createGrafanaClient : Option String → Except String (Option GrafanaClient)
  /-- The samples that the results of a panel give, unless their reading throws. -/
  transformPanelData : GrafanaPanel → GrafanaResults → Except String (List MetricsRecord)
  panels : List GrafanaPanel
  window : TimeRangeOverride

namespace GrafanaCollection

variable (c : GrafanaCollection)

/-- The document of a panel. -/
def document (queryResult : ProcessedPanelResult) : MetricsDocument :=
  match queryResult.errors, queryResult.data with
  | none, some data =>
    match c.transformPanelData queryResult.panel data with
    | .ok metricsData =>
      { createEmptyMetricsDocument queryResult.panel none with data := metricsData }
    | .error error => createEmptyMetricsDocument queryResult.panel (some [
        { targetIndex := 0
          statusCode := none
          message := "Transformation error: " ++ error
          type := "transformationError"
          detail := none }])
  | errors, _ => createEmptyMetricsDocument queryResult.panel errors

/-- The requests for the data of the panels of an instance. -/
def requestBatches (client : GrafanaClient) (panels : List GrafanaPanel) : List RequestBatch :=
  batchPanelQueries ((client.batchSize.filter (· ≠ 0)).getD 20) (some c.window) panels

/-- The results for the panels of an instance. -/
def processedResults (client : GrafanaClient) (panels : List GrafanaPanel) :
    List ProcessedPanelResult :=
  let requestBatches := c.requestBatches client panels
  processBatchedResponses [] (requestBatches.zip (client.executeBatchedRequests requestBatches))

/-- The documents of the panels of an instance. -/
def queryPanelData (client : GrafanaClient) (panels : List GrafanaPanel) : List MetricsDocument :=
  (c.processedResults client panels).map c.document

/-- The panels of the run by the instance of their dashboard. -/
def panelsByInstance : List (Option String × List GrafanaPanel) :=
  groupsBy (fun panel => c.instanceByDashboard panel.applicationDashboardId) c.panels

/-- The panels of the run by instance, without those of instances that have no client. -/
def groupPanelsByGrafanaInstance : Except String (List GrafanaPanelGroup) := do
  let groups ← c.panelsByInstance.mapM fun group => do
    let client ← c.createGrafanaClient group.1
    return client.map fun client => (⟨group.1, client, group.2⟩ : GrafanaPanelGroup)
  return groups.filterMap id

/-- The metrics of the panels, instance by instance. -/
def collectGroups (groups : List GrafanaPanelGroup) : Tx Collected String ℕ :=
  groups.foldlM (fun totalRecords group => do
    let batchResult ← processDocuments c.env (c.queryPanelData group.client group.panels)
    pushErrors batchResult.errors
    return totalRecords + batchResult.totalRecords) 0

/-- The collection, which fails only if something throws. -/
def collect : Tx Collected String CollectionResult :=
  tryCatch
    (do
      if c.panels.isEmpty then
        return { success := true, dataPoints := 0, errors := [] }
      let groups ← ofExcept c.groupPanelsByGrafanaInstance
      let totalRecords ← c.collectGroups groups
      return { success := true, dataPoints := totalRecords, errors := (← get).errors })
    (fun errorMessage => do
      pushErrors [errorMessage]
      return { success := false, dataPoints := 0, errors := (← get).errors })

/-! ### What is written -/

variable {c}

/-- If the documents of all instances can be written, they are. -/
theorem exec_collectGroups_ok {groups : List GrafanaPanelGroup}
    (h : ∀ g ∈ groups, AllUpsertable c.env (c.queryPanelData g.client g.panels)) (s : Collected) :
    ∃ totalRecords s', exec (c.collectGroups groups) s = (.ok totalRecords, s') ∧
      s'.written = s.written ++
        groups.flatMap fun g => (c.queryPanelData g.client g.panels).filter (·.Kept) := by
  rw [collectGroups]
  generalize 0 = n
  induction groups generalizing n s with
  | nil => exact ⟨n, s, rfl, by simp⟩
  | cons g groups ih =>
    obtain ⟨result, s₁, hexec, hwritten, _, _⟩ :=
      exec_processDocuments_ok (h g List.mem_cons_self) s
    obtain ⟨total, s', hrest, hwritten'⟩ := ih (fun g' hg' => h g' (List.mem_cons_of_mem _ hg'))
      { s₁ with errors := s₁.errors ++ result.errors } (n + result.totalRecords)
    refine ⟨total, s', ?_, ?_⟩
    · simp only [List.foldlM_cons, exec_bind, hexec, exec_pushErrors, exec_pure]
      exact hrest
    · rw [hwritten', List.flatMap_cons, ← List.append_assoc]
      exact congrArg (· ++ _) hwritten

/-- Otherwise some document is not written. -/
theorem exec_collectGroups_error {groups : List GrafanaPanelGroup}
    (h : ¬∀ g ∈ groups, AllUpsertable c.env (c.queryPanelData g.client g.panels)) (s : Collected) :
    ∃ s' lost, exec (c.collectGroups groups) s = (.error c.env.databaseError, s') ∧ lost ≠ [] ∧
      s'.written ++ lost = s.written ++
        groups.flatMap fun g => (c.queryPanelData g.client g.panels).filter (·.Kept) := by
  rw [collectGroups]
  generalize 0 = n
  induction groups generalizing n s with
  | nil => exact absurd (fun g hg => absurd hg List.not_mem_nil) h
  | cons g groups ih =>
    rw [List.flatMap_cons]
    by_cases hg : AllUpsertable c.env (c.queryPanelData g.client g.panels)
    · obtain ⟨result, s₁, hexec, hwritten, _, _⟩ := exec_processDocuments_ok hg s
      obtain ⟨s', lost, hrest, hlost, hwritten'⟩ :=
        ih (fun hrest => h (List.forall_mem_cons.2 ⟨hg, hrest⟩))
          { s₁ with errors := s₁.errors ++ result.errors } (n + result.totalRecords)
      refine ⟨s', lost, ?_, hlost, ?_⟩
      · simp only [List.foldlM_cons, exec_bind, hexec, exec_pushErrors, exec_pure]
        exact hrest
      · rw [hwritten', ← List.append_assoc]
        exact congrArg (· ++ _) hwritten
    · obtain ⟨s', lost, hexec, hlost, hwritten, _⟩ := exec_processDocuments_error hg s
      refine ⟨s', lost ++ groups.flatMap fun g =>
        (c.queryPanelData g.client g.panels).filter (·.Kept), ?_,
        List.append_ne_nil_of_left_ne_nil hlost _, ?_⟩
      · simp only [List.foldlM_cons, exec_bind, hexec]
      · rw [← List.append_assoc, hwritten, List.append_assoc]

/-! ### Soundness -/

variable (c)

/-- The result of a query of a panel of an instance was obtained: it is in the response
    to the batch of the panel. -/
def Obtained (client : GrafanaClient) (panels : List GrafanaPanel) (m : RefIdMapping) : Prop :=
  ∃ batch ∈ c.requestBatches client panels, m ∈ batch.refIdMapping ∧
    m.Obtained (client.executeRequestWithRetry batch) = true

/-- The results of all queries of the panels of the run were obtained. -/
def AllObtained : Prop :=
  ∀ group ∈ c.panelsByInstance, ∀ panel ∈ group.2.zipIdx, ∀ m ∈ refIdMappings panel,
    ∃ client, c.createGrafanaClient group.1 = .ok (some client) ∧ c.Obtained client group.2 m

/-- What the responses give for the queries of each panel of an instance. -/
def ownResults (client : GrafanaClient) (panels : List GrafanaPanel) : List ProcessedPanelResult :=
  (c.requestBatches client panels).flatMap fun batch => batch.panels.filterMap fun panel =>
    processPanel (client.executeRequestWithRetry batch) (refIdMappings panel)

/-- What they give for the panels that were answered without error. -/
def answered (client : GrafanaClient) (panels : List GrafanaPanel) : List ProcessedPanelResult :=
  (c.ownResults client panels).filter fun r => r.errors.isNone

/-- A collection is sound: it succeeds only if all results were obtained, and the panels
    that were answered are written, whatever others failed. -/
structure Sound (run : Except String CollectionResult × Collected) : Prop where
  /-- It succeeds only if all results were obtained. -/
  obtained : Succeeds run → c.AllObtained
  /-- What was answered for a panel is processed as such, without error. -/
  processed : ∀ groups, c.groupPanelsByGrafanaInstance = .ok groups → ∀ g ∈ groups,
    ∀ r ∈ c.answered g.client g.panels,
      r ∈ c.processedResults g.client g.panels ∧ (c.document r).errors = none
  /-- The documents of these panels are written, but for those without samples. -/
  written : ∀ groups, c.groupPanelsByGrafanaInstance = .ok groups →
    (groups.flatMap fun g => ((c.answered g.client g.panels).map c.document).filter
      (·.Kept)).Subperm run.2.written

/-- Nothing that the soundness depends on goes wrong with the panels of some instances. -/
structure Untroubled (groups : List GrafanaPanelGroup) : Prop where
  /-- All results are obtained. -/
  obtained : c.AllObtained
  /-- No two panels of an instance that have queries have the same key. -/
  distinct : ∀ g ∈ groups, ((g.panels.zipIdx.filter HasQueries).map keyAt).Nodup
  /-- The reading of the results does not throw. -/
  read : ∀ g ∈ groups, ∀ r ∈ c.ownResults g.client g.panels, (c.document r).errors = none
  /-- The samples can be stored. -/
  stored : ∀ g ∈ groups, AllUpsertable c.env ((c.ownResults g.client g.panels).map c.document)

variable {c} {client : GrafanaClient} {panels : List GrafanaPanel}

theorem processedResults_eq_map : c.processedResults client panels =
    processBatchedResponses [] ((c.requestBatches client panels).map fun batch =>
      (batch, client.executeRequestWithRetry batch)) := by
  have hzip := List.zip_map' (f := id) (g := client.executeRequestWithRetry)
    (l := c.requestBatches client panels)
  rw [List.map_id] at hzip
  rw [processedResults, GrafanaClient.executeBatchedRequests_eq]
  exact congrArg _ hzip

/-- The panels of an instance that have queries are in its batches, in order. -/
theorem filter_panels_requestBatches (c : GrafanaCollection) (client : GrafanaClient)
    (panels : List GrafanaPanel) :
    ((c.requestBatches client panels).flatMap RequestBatch.panels).filter HasQueries =
      panels.zipIdx.filter HasQueries :=
  filter_flatMap_panels _ _ panels

/-- A panel that has queries is in one batch. -/
theorem eq_of_mem_panels {b b' : RequestBatch} (hb : b ∈ c.requestBatches client panels)
    (hb' : b' ∈ c.requestBatches client panels) {panel : GrafanaPanel × ℕ}
    (hpanel : panel ∈ b.panels) (hpanel' : panel ∈ b'.panels) (h : HasQueries panel = true) :
    b = b' := by
  have hnodup := nodup_zipIdx_filter panels
  rw [← filter_panels_requestBatches c client panels, List.filter_flatMap,
    List.nodup_flatMap] at hnodup
  by_contra hne
  have hsymm : Std.Symm (Function.onFun List.Disjoint fun b : RequestBatch =>
      b.panels.filter HasQueries) := ⟨fun _ _ h => List.Disjoint.symm h⟩
  have hdisjoint := hnodup.2.forall hb hb' hne
  exact hdisjoint (List.mem_filter.2 ⟨hpanel, h⟩) (List.mem_filter.2 ⟨hpanel', h⟩)

/-- If the results of its panels were obtained, the instance has none with errors. -/
theorem errors_of_obtained
    (h : ∀ panel ∈ panels.zipIdx, ∀ m ∈ refIdMappings panel, c.Obtained client panels m)
    {r : ProcessedPanelResult} (hr : r ∈ c.ownResults client panels) : r.errors = none := by
  obtain ⟨batch, hbatch, hr⟩ := List.mem_flatMap.1 hr
  obtain ⟨panel, hpanel, hr⟩ := List.mem_filterMap.1 hr
  refine (processPanel_errors hr).2 fun m hm => ?_
  have hqueries := hasQueries_iff.2 ⟨m, hm⟩
  have hplace : panel ∈ panels.zipIdx.filter HasQueries := by
    rw [← filter_panels_requestBatches c client panels]
    exact List.mem_filter.2 ⟨List.mem_flatMap.2 ⟨batch, hbatch, hpanel⟩, hqueries⟩
  obtain ⟨batch', hbatch', hm', hobtained⟩ := h panel (List.mem_filter.1 hplace).1 m hm
  obtain ⟨panel', hpanel', hm'⟩ := List.mem_flatMap.1 hm'
  obtain rfl := eq_of_mem_refIdMappings hm' hm
  rw [eq_of_mem_panels hbatch hbatch' hpanel hpanel' hqueries]
  exact hobtained

/-- If no two panels with queries have the same key, each is given its own results. -/
theorem processedResults_eq (h : ((panels.zipIdx.filter HasQueries).map keyAt).Nodup) :
    c.processedResults client panels = c.ownResults client panels := by
  rw [processedResults_eq_map, processBatchedResponses_eq, ownResults, List.flatMap_map]
  · rw [List.flatMap_map]
    exact (filter_panels_requestBatches c client panels).symm ▸ h
  · exact fun _ _ => List.not_mem_nil

/-- If each panel answered is given its own results, the others are given errors. -/
theorem mem_answered (hown : ∀ r ∈ c.answered client panels, r ∈ c.processedResults client panels)
    {r : ProcessedPanelResult} (hr : r ∈ c.processedResults client panels)
    (herrors : r.errors = none) : r ∈ c.answered client panels := by
  have hr' := hr
  rw [processedResults_eq_map] at hr'
  obtain ⟨_, b, hb, hpanel⟩ := mem_processBatchedResponses hr'
  obtain ⟨batch, hbatch, rfl⟩ := List.mem_map.1 hb
  obtain ⟨m, hm, hkey⟩ := processPanel_panel hpanel
  obtain ⟨panel, hmem, hpm⟩ := List.mem_flatMap.1 (List.mem_filter.1 hm).1
  -- the queries of the panel are among those that the result is of, so it was answered
  obtain ⟨r', hr'⟩ := Option.isSome_iff_exists.1 (processPanel_isSome.2 (List.ne_nil_of_mem hpm))
  have hown' : r' ∈ c.answered client panels := by
    refine List.mem_filter.2 ⟨List.mem_flatMap.2 ⟨batch, hbatch,
      List.mem_filterMap.2 ⟨panel, hmem, hr'⟩⟩, Option.isNone_iff_eq_none.2 ?_⟩
    refine (processPanel_errors hr').2 fun m' hm' => (processPanel_errors hpanel).1 herrors m' ?_
    refine List.mem_filter.2 ⟨List.mem_flatMap.2 ⟨panel, hmem, hm'⟩, decide_eq_true ?_⟩
    rw [hkey, (mem_refIdMappings hm').1, (mem_refIdMappings hpm).1]
  obtain ⟨m', hm', hkey'⟩ := processPanel_panel hr'
  have hsame : r' = r := by
    have hprocessed := hown r' hown'
    rw [processedResults_eq_map] at hprocessed hr
    refine eq_of_panelKey hprocessed hr ?_
    rw [hkey, hkey', (mem_refIdMappings hm').1, (mem_refIdMappings hpm).1]
  exact hsame ▸ hown'

/-- If each panel answered is given its own results, no two with queries that are all
    answered have the same key. -/
theorem nodup_keyAt
    (hown : ∀ r ∈ c.ownResults client panels, r ∈ c.processedResults client panels) :
    ((panels.zipIdx.filter HasQueries).map keyAt).Nodup := by
  have hresult : ∀ panel ∈ panels.zipIdx.filter HasQueries,
      ∃ r ∈ c.processedResults client panels, r.mappings = refIdMappings panel ∧
        r.panel = panel.1 := by
    intro panel hpanel
    rw [← filter_panels_requestBatches c client panels] at hpanel
    obtain ⟨hpanel, hqueries⟩ := List.mem_filter.1 hpanel
    obtain ⟨batch, hbatch, hpanel⟩ := List.mem_flatMap.1 hpanel
    obtain ⟨m, hm⟩ := hasQueries_iff.1 hqueries
    obtain ⟨r, hr⟩ := Option.isSome_iff_exists.1 (processPanel_isSome.2 (List.ne_nil_of_mem hm))
    obtain ⟨m, hm, hmpanel⟩ := processPanel_panel hr
    have hmem : r ∈ c.ownResults client panels :=
      List.mem_flatMap.2 ⟨batch, hbatch, List.mem_filterMap.2 ⟨panel, hpanel, hr⟩⟩
    refine ⟨r, hown r hmem, processPanel_mappings hr, ?_⟩
    rw [hmpanel, (mem_refIdMappings hm).1]
  refine (nodup_zipIdx_filter panels).map_on fun p hp q hq hkey => ?_
  obtain ⟨r, hr, hmappings, hpanel⟩ := hresult p hp
  obtain ⟨r', hr', hmappings', hpanel'⟩ := hresult q hq
  have hsame : r = r' := by
    rw [processedResults_eq_map] at hr hr'
    refine eq_of_panelKey hr hr' ?_
    rw [hpanel, hpanel']
    exact hkey
  obtain ⟨m, hm⟩ := hasQueries_iff.1 (List.mem_filter.1 hp).2
  have hm' : m ∈ refIdMappings q := by rwa [← hmappings', ← hsame, hmappings]
  exact eq_of_mem_refIdMappings hm hm'

/-- A document that is written has no errors, and samples. -/
theorem errors_of_kept {r : ProcessedPanelResult} (h : (c.document r).Kept) : r.errors = none := by
  by_contra herrors
  obtain ⟨errors, herrors⟩ := Option.ne_none_iff_exists'.1 herrors
  have hempty : (c.document r).isEmptyDocument = true := by
    rw [document, herrors]
    rfl
  rw [MetricsDocument.Kept, hempty] at h
  exact absurd h.2.symm Bool.false_ne_true

/-- If each panel answered is given its own results, there are no other documents to be
    written. -/
theorem length_kept_le
    (hown : ∀ r ∈ c.answered client panels, r ∈ c.processedResults client panels) :
    ((c.queryPanelData client panels).filter (·.Kept)).length ≤
      (((c.answered client panels).map c.document).filter (·.Kept)).length := by
  have hkept : (c.queryPanelData client panels).filter (·.Kept) =
      (((c.processedResults client panels).filter fun r => r.errors.isNone).map
        c.document).filter (·.Kept) := by
    rw [queryPanelData, List.filter_map, List.filter_map, List.filter_filter]
    congr 1
    refine List.filter_congr fun r _ => ?_
    by_cases hr : (c.document r).Kept
    · simp [hr, errors_of_kept hr]
    · simp [hr]
  have hnodup : ((c.processedResults client panels).filter fun r => r.errors.isNone).Nodup := by
    refine List.Nodup.filter _ (List.Nodup.of_map (·.panel.panelKey) ?_)
    rw [processedResults_eq_map]
    exact nodup_processBatchedResponses _ _
  have hsubset : (c.processedResults client panels).filter (fun r => r.errors.isNone) ⊆
      c.answered client panels := by
    intro r hr
    obtain ⟨hr, herrors⟩ := List.mem_filter.1 hr
    exact mem_answered hown hr (Option.isNone_iff_eq_none.1 herrors)
  obtain ⟨l, hperm, hsublist⟩ := List.subperm_of_subset hnodup hsubset
  rw [hkept, ← ((hperm.map c.document).filter _).length_eq]
  exact ((hsublist.map c.document).filter _).length_le

/-- The groups are those of the instances that have a client. -/
theorem mem_groups {groups : List GrafanaPanelGroup}
    (h : c.groupPanelsByGrafanaInstance = .ok groups) {g : GrafanaPanelGroup} (hg : g ∈ groups) :
    (g.instanceId, g.panels) ∈ c.panelsByInstance ∧
      c.createGrafanaClient g.instanceId = .ok (some g.client) := by
  rw [groupPanelsByGrafanaInstance] at h
  generalize c.panelsByInstance = byInstance at h
  induction byInstance generalizing groups with
  | nil =>
    obtain rfl := Except.ok.inj h
    exact absurd hg List.not_mem_nil
  | cons group byInstance ih =>
    rw [List.mapM_cons] at h
    cases hclient : c.createGrafanaClient group.1 with
    | error e => rw [hclient] at h; cases h
    | ok client =>
      rw [hclient] at h
      cases hrest : byInstance.mapM fun group => do
          let client ← c.createGrafanaClient group.1
          return client.map fun client => (⟨group.1, client, group.2⟩ : GrafanaPanelGroup) with
      | error e => rw [hrest] at h; cases h
      | ok rest =>
        rw [hrest] at h ih
        obtain rfl := Except.ok.inj h
        cases client with
        | none =>
          obtain ⟨hmem, hcreate⟩ := ih hg rfl
          exact ⟨List.mem_cons_of_mem _ hmem, hcreate⟩
        | some client =>
          rcases List.mem_cons.1 hg with rfl | hg
          · exact ⟨List.mem_cons_self, hclient⟩
          · obtain ⟨hmem, hcreate⟩ := ih hg rfl
            exact ⟨List.mem_cons_of_mem _ hmem, hcreate⟩

/-- If all results were obtained, all panels of an instance were answered. -/
theorem answered_eq {groups : List GrafanaPanelGroup}
    (h : c.groupPanelsByGrafanaInstance = .ok groups) (hall : c.AllObtained)
    {g : GrafanaPanelGroup} (hg : g ∈ groups) :
    c.answered g.client g.panels = c.ownResults g.client g.panels := by
  obtain ⟨hmem, hclient⟩ := mem_groups h hg
  refine List.filter_eq_self.2 fun r hr => Option.isNone_iff_eq_none.2 ?_
  refine errors_of_obtained (fun panel hpanel m hm => ?_) hr
  obtain ⟨client, hclient', hobtained⟩ := hall _ hmem panel hpanel m hm
  obtain rfl := Option.some.inj (Except.ok.inj (hclient.symm.trans hclient'))
  exact hobtained

/-- What the collection gives, if clients can be made. -/
theorem exec_collect {groups : List GrafanaPanelGroup}
    (hgroups : c.groupPanelsByGrafanaInstance = .ok groups) {s : Collected} (hs : s.errors = []) :
    exec c.collect s =
      match exec (c.collectGroups groups) s with
      | (.ok n, s') => (.ok { success := true, dataPoints := n, errors := s'.errors }, s')
      | (.error e, s') =>
        (.ok { success := false, dataPoints := 0, errors := s'.errors ++ [e] },
          { s' with errors := s'.errors ++ [e] }) := by
  by_cases hempty : c.panels = []
  · have hnil : c.groupPanelsByGrafanaInstance = .ok [] := by
      rw [groupPanelsByGrafanaInstance, panelsByInstance, hempty]
      rfl
    obtain rfl := Except.ok.inj (hnil.symm.trans hgroups)
    rw [collect, hempty]
    simp only [List.isEmpty_nil, reduceIte, exec_tryCatch, exec_pure, collectGroups,
      List.foldlM_nil, hs]
  · simp only [collect, List.isEmpty_iff, hempty, reduceIte, exec_tryCatch, exec_bind,
      exec_ofExcept, hgroups]
    rcases exec (c.collectGroups groups) s with ⟨r, s'⟩
    cases r <;> simp

/-- If the making of a client throws, the collection fails. -/
theorem sound_of_error {e : String} (h : c.groupPanelsByGrafanaInstance = .error e)
    (dsMetrics : DsMetrics) : c.Sound (exec c.collect { dsMetrics }) := by
  refine ⟨?_, fun groups hgroups => ?_, fun groups hgroups => ?_⟩
  · rintro ⟨result, hresult, hsuccess⟩
    have hempty : c.panels ≠ [] := by
      intro hempty
      rw [groupPanelsByGrafanaInstance, panelsByInstance, hempty] at h
      cases h
    rw [collect] at hresult
    simp only [List.isEmpty_iff, hempty, reduceIte, exec_tryCatch, exec_bind, exec_ofExcept, h,
      exec_pushErrors, exec_get, exec_pure] at hresult
    obtain rfl := Except.ok.inj hresult
    exact absurd hsuccess Bool.false_ne_true
  · rw [h] at hgroups
    cases hgroups
  · rw [h] at hgroups
    cases hgroups

variable {groups : List GrafanaPanelGroup} {dsMetrics : DsMetrics}

/-- A collection that is sound can write its documents: it would else lose one of a panel
    that was answered. -/
theorem stored_of_sound (hgroups : c.groupPanelsByGrafanaInstance = .ok groups)
    (h : c.Sound (exec c.collect { dsMetrics })) :
    ∀ g ∈ groups, AllUpsertable c.env (c.queryPanelData g.client g.panels) := by
  by_contra hstored
  obtain ⟨s', lost, hexec, hlost, hwritten⟩ := exec_collectGroups_error hstored { dsMetrics }
  have hlength := (h.written groups hgroups).length_le
  rw [exec_collect hgroups rfl, hexec] at hlength
  have hkept : (groups.flatMap fun g =>
      (c.queryPanelData g.client g.panels).filter (·.Kept)).length ≤
        (groups.flatMap fun g =>
          ((c.answered g.client g.panels).map c.document).filter (·.Kept)).length := by
    rw [List.length_flatMap, List.length_flatMap]
    refine List.sum_le_sum fun g hg => length_kept_le fun r hr => ?_
    exact (h.processed groups hgroups g hg r hr).1
  rw [List.nil_append] at hwritten
  rw [← hwritten, List.length_append] at hkept
  have hpos := List.length_pos_iff.2 hlost
  dsimp only at hlength
  omega

theorem untroubled_of_sound (hgroups : c.groupPanelsByGrafanaInstance = .ok groups)
    (h : c.Sound (exec c.collect { dsMetrics })) : c.Untroubled groups := by
  have hstored := stored_of_sound hgroups h
  obtain ⟨n, s', hexec, _⟩ := exec_collectGroups_ok hstored { dsMetrics }
  have hall : c.AllObtained := by
    refine h.obtained ⟨{ success := true, dataPoints := n, errors := s'.errors }, ?_, rfl⟩
    rw [exec_collect hgroups rfl, hexec]
  have hown : ∀ g ∈ groups, ∀ r ∈ c.ownResults g.client g.panels,
      r ∈ c.processedResults g.client g.panels ∧ (c.document r).errors = none := by
    intro g hg
    rw [← answered_eq hgroups hall hg]
    exact h.processed groups hgroups g hg
  have hdistinct : ∀ g ∈ groups, ((g.panels.zipIdx.filter HasQueries).map keyAt).Nodup :=
    fun g hg => nodup_keyAt fun r hr => (hown g hg r hr).1
  refine ⟨hall, hdistinct, fun g hg r hr => (hown g hg r hr).2, fun g hg => ?_⟩
  rw [← processedResults_eq (hdistinct g hg)]
  exact hstored g hg

theorem sound_of_untroubled (hgroups : c.groupPanelsByGrafanaInstance = .ok groups)
    (h : c.Untroubled groups) : c.Sound (exec c.collect { dsMetrics }) := by
  obtain ⟨hall, hdistinct, hread, hstored⟩ := h
  have hprocessed : ∀ g ∈ groups, c.answered g.client g.panels =
      c.processedResults g.client g.panels := by
    intro g hg
    rw [answered_eq hgroups hall hg, processedResults_eq (hdistinct g hg)]
  have hquery : ∀ g ∈ groups, AllUpsertable c.env (c.queryPanelData g.client g.panels) := by
    intro g hg
    rw [queryPanelData, processedResults_eq (hdistinct g hg)]
    exact hstored g hg
  obtain ⟨n, s', hexec, hwritten⟩ := exec_collectGroups_ok hquery { dsMetrics }
  rw [exec_collect hgroups rfl, hexec]
  refine ⟨fun _ => hall, fun groups' hgroups' g hg r hr => ?_, fun groups' hgroups' => ?_⟩
  · obtain rfl := Except.ok.inj (hgroups.symm.trans hgroups')
    refine ⟨hprocessed g hg ▸ hr, hread g hg r ?_⟩
    rwa [answered_eq hgroups hall hg] at hr
  · obtain rfl := Except.ok.inj (hgroups.symm.trans hgroups')
    dsimp only
    rw [hwritten]
    refine List.Perm.subperm (List.Perm.of_eq (List.flatMap_congr fun g hg => ?_))
    rw [hprocessed g hg]
    rfl

/-- The collection is sound if and only if nothing goes wrong, or the making of a client
    throws. -/
theorem sound_iff (dsMetrics : DsMetrics) : c.Sound (exec c.collect { dsMetrics }) ↔
    ∀ groups, c.groupPanelsByGrafanaInstance = .ok groups → c.Untroubled groups := by
  refine ⟨fun h groups hgroups => untroubled_of_sound hgroups h, fun h => ?_⟩
  cases hgroups : c.groupPanelsByGrafanaInstance with
  | error e => exact sound_of_error hgroups dsMetrics
  | ok groups => exact sound_of_untroubled hgroups (h groups hgroups)

end GrafanaCollection

end Perfana
