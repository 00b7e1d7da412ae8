import Perfana.Collection.Grafana

/-!
# Panels queried together and alone

The queries of several panels are sent in one request, so the place of the panel is
added to the name of each, and the results are taken apart again by panel. A Grafana
that answers each query by itself (`IndependentGrafana`) should give each panel what it
gives the panel alone, but for the names of the queries (`AsAlone`).

* `nodup_queries_iff`: the names of the queries of a request are distinct unless one place ends
  with another, and a name with the digits in between;
* `outcome_eq`: a panel of a request gives what it gives alone over the same window;
* `asAlone_iff`: when every panel gives what it gives alone.
-/

namespace Perfana

/-- A Grafana that answers each query by itself: its answer to a query over a window, if
    there is one. -/
abbrev IndependentGrafana := Option String × Option String → String → Option GrafanaQueryResult

section PanelQueries

variable (batchSize : ℕ) (timeRangeOverride : Option TimeRangeOverride)
  (grafana : IndependentGrafana)

/-- The answers to the queries of a request. -/
def answers (batch : RequestBatch) : GrafanaResults :=
  (batch.queries timeRangeOverride).filterMap fun query =>
    (grafana batch.timeRange query.query).map fun result => (query.refId, result)

/-- The response to a request. -/
def respond (batch : RequestBatch) : GrafanaResponse :=
  .ok (some (answers timeRangeOverride grafana batch))

/-- The results for some panels. -/
def queryPanels (panels : List GrafanaPanel) : List ProcessedPanelResult :=
  processBatchedResponses [] ((batchPanelQueries batchSize timeRangeOverride panels).map
    fun batch => (batch, respond timeRangeOverride grafana batch))

/-- A text that ends with the place of a panel that is queried alone, with another one
    instead. -/
def renamed (index : ℕ) (text : String) : String :=
  String.ofList text.toList.dropLast ++ toString index

/-- What a result says. -/
structure PanelOutcome where
  panel : GrafanaPanel
  /-- The results of its queries. -/
  data : Option GrafanaResults
  errors : Option (List PanelError)
  deriving DecidableEq, Repr

/-- What a result says. -/
def ProcessedPanelResult.outcome (r : ProcessedPanelResult) : PanelOutcome :=
  ⟨r.panel, r.data, r.errors⟩

/-- An error, with the query that it names, if any, named as at another place. -/
def PanelError.renamed (index : ℕ) (e : PanelError) : PanelError :=
  if e.type = "missingResult" then { e with message := Perfana.renamed index e.message } else e

/-- What a result says, with the queries named as at another place. -/
def PanelOutcome.renamed (index : ℕ) (o : PanelOutcome) : PanelOutcome where
  panel := o.panel
  data := o.data.map fun data => data.map fun result => (Perfana.renamed index result.1, result.2)
  errors := o.errors.map fun errors => errors.map (PanelError.renamed index)

/-- Panels that are queried together give what they give alone. -/
structure AsAlone (panels : List GrafanaPanel) : Prop where
  /-- The names of the queries of a request are distinct. -/
  distinct : ∀ batch ∈ batchPanelQueries batchSize timeRangeOverride panels,
    ((batch.queries timeRangeOverride).map GrafanaQuery.refId).Nodup
  /-- There is one result for each panel that has queries: what it gives alone. -/
  outcomes : ∀ grafana : IndependentGrafana,
    ((queryPanels batchSize timeRangeOverride grafana panels).map
      ProcessedPanelResult.outcome).Perm
        ((panels.zipIdx.filter HasQueries).flatMap fun panel =>
          (queryPanels batchSize timeRangeOverride grafana [panel.1]).map fun r =>
            r.outcome.renamed panel.2)

/-- The names of the queries of a panel. -/
def GrafanaPanel.refIds (panel : GrafanaPanel) : List String :=
  panel.requests.flatMap fun request => request.queries.map GrafanaQuery.refId

/-- The panels can be queried together. -/
structure Unmixed (panels : List GrafanaPanel) : Prop where
  /-- No two panels with queries have the same key. -/
  keys : ((panels.zipIdx.filter HasQueries).map keyAt).Nodup
  /-- The names of the queries of a panel are distinct. -/
  refIds : ∀ panel ∈ panels, panel.refIds.Nodup
  /-- Of two panels of a batch, the place of one of which ends with that of the other, no
      name of a query of the latter is one of the former with the digits in between. -/
  places : ∀ batch ∈ batchPanelQueries batchSize timeRangeOverride panels,
    ∀ p ∈ batch.panels, ∀ q ∈ batch.panels, p ≠ q → ∀ refId ∈ q.1.refIds, ∀ digits : String,
      toString q.2 = digits ++ toString p.2 → refId ++ digits ∉ p.1.refIds
  /-- Each panel with queries would be queried alone over the window of its batch. -/
  windows : ∀ batch ∈ batchPanelQueries batchSize timeRangeOverride panels,
    ∀ panel ∈ batch.panels, HasQueries panel = true →
      timeRange timeRangeOverride panel.1 = batch.timeRange

/-! ## Names -/

variable {batchSize timeRangeOverride grafana}

/-- When names at two places are the same. -/
theorem append_eq_append_iff {r s i j : String} : r ++ i = s ++ j ↔
    (∃ digits, j = digits ++ i ∧ r = s ++ digits) ∨
      ∃ digits, i = digits ++ j ∧ s = r ++ digits := by
  rw [← String.toList_inj, String.toList_append, String.toList_append, List.append_eq_append_iff]
  constructor
  · rintro (⟨l, hs, hi⟩ | ⟨l, hr, hj⟩)
    · right
      refine ⟨String.ofList l, ?_, ?_⟩
      · rw [← String.toList_inj, String.toList_append, String.toList_ofList, hi]
      · rw [← String.toList_inj, String.toList_append, String.toList_ofList, hs]
    · left
      refine ⟨String.ofList l, ?_, ?_⟩
      · rw [← String.toList_inj, String.toList_append, String.toList_ofList, hj]
      · rw [← String.toList_inj, String.toList_append, String.toList_ofList, hr]
  · rintro (⟨digits, rfl, rfl⟩ | ⟨digits, rfl, rfl⟩)
    · exact Or.inr ⟨digits.toList, String.toList_append, String.toList_append⟩
    · exact Or.inl ⟨digits.toList, String.toList_append, String.toList_append⟩

@[simp] theorem renamed_append_zero (index : ℕ) (text : String) :
    renamed index (text ++ toString 0) = text ++ toString index := by
  rw [renamed]
  congr 1
  rw [← String.toList_inj, String.toList_ofList, String.toList_append]
  exact List.dropLast_concat

theorem map_refId_refIdMappings (panel : GrafanaPanel × ℕ) :
    (refIdMappings panel).map RefIdMapping.refId =
      panel.1.refIds.map (· ++ toString panel.2) := by
  rw [refIdMappings, GrafanaPanel.refIds, List.map_flatMap, List.map_flatMap]
  simp only [List.map_map]
  conv_rhs => rw [← List.zipIdx_map_fst 0 panel.1.requests, List.flatMap_map]
  rfl

theorem refIds_eq_nil {panel : GrafanaPanel × ℕ} (h : HasQueries panel = false) :
    panel.1.refIds = [] := by
  have hnil := map_refId_refIdMappings panel
  rw [refIdMappings_eq_nil h] at hnil
  exact List.map_eq_nil_iff.1 hnil.symm

theorem map_refId_queries (batch : RequestBatch) :
    (batch.queries timeRangeOverride).map GrafanaQuery.refId =
      batch.refIdMapping.map RefIdMapping.refId := by
  rw [RequestBatch.queries, List.map_map]
  rfl

/-- The panels of a batch that have queries are those of some of the places. -/
theorem sublist_zipIdx {panels : List GrafanaPanel} {batch : RequestBatch}
    (hbatch : batch ∈ batchPanelQueries batchSize timeRangeOverride panels) :
    (batch.panels.filter HasQueries).Sublist (panels.zipIdx.filter HasQueries) := by
  rw [← filter_flatMap_panels batchSize timeRangeOverride panels]
  exact (List.sublist_flatten_of_mem (List.mem_map_of_mem hbatch)).filter _

/-- When the names of the queries of a batch are distinct. -/
theorem nodup_queries_iff {panels : List GrafanaPanel} {batch : RequestBatch}
    (hbatch : batch ∈ batchPanelQueries batchSize timeRangeOverride panels) :
    ((batch.queries timeRangeOverride).map GrafanaQuery.refId).Nodup ↔
      (∀ panel ∈ batch.panels, panel.1.refIds.Nodup) ∧
        ∀ p ∈ batch.panels, ∀ q ∈ batch.panels, p ≠ q → ∀ refId ∈ q.1.refIds, ∀ digits : String,
          toString q.2 = digits ++ toString p.2 → refId ++ digits ∉ p.1.refIds := by
  have hnodup := (nodup_zipIdx_filter panels).sublist (sublist_zipIdx hbatch)
  have hnames : ∀ panel : GrafanaPanel × ℕ, ((refIdMappings panel).map RefIdMapping.refId).Nodup ↔
      panel.1.refIds.Nodup := by
    intro panel
    rw [map_refId_refIdMappings]
    exact List.nodup_map_iff fun r s h => (String.append_left_inj _).1 h
  have hqueries : ∀ {panel : GrafanaPanel × ℕ} {refId : String}, refId ∈ panel.1.refIds →
      HasQueries panel = true := by
    intro panel refId h
    have hmem := List.mem_map_of_mem (f := (· ++ toString panel.2)) h
    rw [← map_refId_refIdMappings] at hmem
    obtain ⟨m, hm, _⟩ := List.mem_map.1 hmem
    exact hasQueries_iff.2 ⟨m, hm⟩
  rw [map_refId_queries, RequestBatch.refIdMapping, flatMap_refIdMappings, List.map_flatMap,
    List.nodup_flatMap]
  constructor
  · rintro ⟨heach, hpairwise⟩
    have hsymm : Std.Symm (Function.onFun List.Disjoint fun panel : GrafanaPanel × ℕ =>
        (refIdMappings panel).map RefIdMapping.refId) := ⟨fun _ _ h => List.Disjoint.symm h⟩
    refine ⟨fun panel hpanel => ?_, fun p hp q hq hne refId hrefId digits hplace hmem => ?_⟩
    · cases hhas : HasQueries panel with
      | true => exact (hnames panel).1 (heach panel (List.mem_filter.2 ⟨hpanel, hhas⟩))
      | false =>
        rw [refIds_eq_nil hhas]
        exact List.nodup_nil
    · have hdisjoint := hpairwise.forall (List.mem_filter.2 ⟨hp, hqueries hmem⟩)
        (List.mem_filter.2 ⟨hq, hqueries hrefId⟩) hne
      change List.Disjoint ((refIdMappings p).map RefIdMapping.refId)
        ((refIdMappings q).map RefIdMapping.refId) at hdisjoint
      rw [map_refId_refIdMappings, map_refId_refIdMappings] at hdisjoint
      refine hdisjoint (List.mem_map_of_mem hmem) (List.mem_map.2 ⟨refId, hrefId, ?_⟩)
      rw [hplace, String.append_assoc]
  · rintro ⟨heach, hplaces⟩
    refine ⟨fun panel hpanel => (hnames panel).2 (heach panel (List.mem_filter.1 hpanel).1), ?_⟩
    refine hnodup.pairwise_of_forall_ne fun p hp q hq hne => ?_
    have hp := (List.mem_filter.1 hp).1
    have hq := (List.mem_filter.1 hq).1
    change List.Disjoint ((refIdMappings p).map RefIdMapping.refId)
      ((refIdMappings q).map RefIdMapping.refId)
    rw [map_refId_refIdMappings, map_refId_refIdMappings]
    intro name hname hname'
    obtain ⟨r, hr, rfl⟩ := List.mem_map.1 hname
    obtain ⟨r', hr', heq⟩ := List.mem_map.1 hname'
    rcases append_eq_append_iff.1 heq with ⟨digits, hplace, rfl⟩ | ⟨digits, hplace, rfl⟩
    · exact hplaces q hq p hp hne.symm r hr digits hplace hr'
    · exact hplaces p hp q hq hne r' hr' digits hplace hr

/-! ## Results -/

/-- The query of a panel that is queried alone, with the name of another place. -/
def RefIdMapping.atPlace (index : ℕ) (m : RefIdMapping) : RefIdMapping :=
  { m with index, refId := renamed index m.refId }

theorem refIdMappings_eq_map (panel : GrafanaPanel) (index : ℕ) :
    refIdMappings (panel, index) =
      (refIdMappings (panel, 0)).map (RefIdMapping.atPlace index) := by
  rw [refIdMappings, refIdMappings, List.map_flatMap]
  refine List.flatMap_congr fun request _ => ?_
  rw [List.map_map]
  refine List.map_congr_left fun query _ => ?_
  simp only [Function.comp_apply, RefIdMapping.atPlace, renamed_append_zero]

/-- A query has the answer to it in a response whose names are distinct. -/
theorem lookup_answers {batch : RequestBatch}
    (h : (batch.refIdMapping.map RefIdMapping.refId).Nodup) {m : RefIdMapping}
    (hm : m ∈ batch.refIdMapping) :
    (answers timeRangeOverride grafana batch).lookup m.refId =
      grafana batch.timeRange
        ((timeRangeOverride.elim id TimeRangeOverride.replaceTimeFilter) m.query) := by
  rw [answers, RequestBatch.queries, List.filterMap_map]
  generalize batch.refIdMapping = mappings at h hm
  induction mappings with
  | nil => exact absurd hm List.not_mem_nil
  | cons m' mappings ih =>
    obtain ⟨hm', hmappings⟩ := List.nodup_cons.1 h
    have hnone : ∀ k, k ∉ mappings.map RefIdMapping.refId → (mappings.filterMap fun m =>
        (grafana batch.timeRange
          ((timeRangeOverride.elim id TimeRangeOverride.replaceTimeFilter) m.query)).map
            fun result => (m.refId, result)).lookup k = none := by
      intro k hk
      refine List.lookup_eq_none_iff.2 fun result hresult => ?_
      obtain ⟨m'', hmem, hsome⟩ := List.mem_filterMap.1 hresult
      obtain ⟨_, _, rfl⟩ := Option.map_eq_some_iff.1 hsome
      exact bne_iff_ne.2 fun heq => hk (List.mem_map.2 ⟨m'', hmem, heq.symm⟩)
    rw [List.filterMap_cons]
    dsimp only [Function.comp_apply]
    rcases List.mem_cons.1 hm with rfl | hm
    · cases grafana batch.timeRange
          ((timeRangeOverride.elim id TimeRangeOverride.replaceTimeFilter) m.query) with
      | none => exact hnone _ hm'
      | some result => exact List.lookup_cons_self
    · have hne : m.refId ≠ m'.refId := fun heq => hm' (heq ▸ List.mem_map_of_mem hm)
      have ih := ih hmappings hm
      cases grafana batch.timeRange
          ((timeRangeOverride.elim id TimeRangeOverride.replaceTimeFilter) m'.query) with
      | none => exact ih
      | some result =>
        refine Eq.trans ?_ ih
        rw [Option.map_some, List.lookup_cons, beq_eq_false_iff_ne.2 hne]

/-- What is said of an answer at another place. -/
theorem checkResult_atPlace {panel : GrafanaPanel} {m : RefIdMapping}
    (hm : m ∈ refIdMappings (panel, 0)) (index : ℕ) (answer : Option GrafanaQueryResult) :
    (m.atPlace index).checkResult answer =
      (m.checkResult answer).mapError (PanelError.renamed index) := by
  obtain ⟨request, _, hm⟩ := List.mem_flatMap.1 hm
  obtain ⟨query, _, rfl⟩ := List.mem_map.1 hm
  cases answer with
  | none =>
    simp only [RefIdMapping.checkResult, RefIdMapping.atPlace, Except.mapError, PanelError.renamed,
      reduceIte, renamed_append_zero, ← String.append_assoc]
  | some result =>
    rw [RefIdMapping.checkResult, RefIdMapping.checkResult]
    cases result.status.filter (· ≠ 0) with
    | none => rfl
    | some status =>
      by_cases hstatus : status ≠ 200
      · simp only [hstatus, ne_eq, not_false_eq_true, reduceIte, Except.mapError,
          PanelError.renamed, RefIdMapping.atPlace]
        rfl
      · simp only [hstatus, reduceIte, Except.mapError]

/-- What the response to a batch says for some of its queries, if their names are
    distinct. -/
theorem processPanel_outcome {results : GrafanaResults} {ms : List RefIdMapping}
    (h : (ms.map RefIdMapping.refId).Nodup) :
    (processPanel (.ok (some results)) ms).map ProcessedPanelResult.outcome =
      ms.head?.map fun first =>
        { panel := first.panel
          data := nonempty (ms.filterMap fun m =>
            (m.queryResult results).toOption.map fun result => (m.refId, result))
          errors := nonempty (ms.filterMap fun m =>
            match m.queryResult results with
            | .ok _ => none
            | .error e => some e) } := by
  have hnodup : ((ms.map fun m => (m.refId, m.queryResult results)).filterMap fun answer =>
      answer.2.toOption.map fun result => (answer.1, result)).Nodup := by
    rw [List.filterMap_map]
    refine List.Nodup.of_map Prod.fst (h.sublist ?_)
    induction ms with
    | nil => exact List.Sublist.slnil
    | cons m ms ih =>
      rw [List.filterMap_cons]
      dsimp only [Function.comp_apply]
      have ih := ih (List.nodup_cons.1 h).2
      cases (m.queryResult results).toOption with
      | none => exact ih.cons _
      | some result => exact ih.cons_cons _
  rw [processPanel, Option.map_map]
  cases ms with
  | nil => rfl
  | cons m ms =>
    simp only [List.head?_cons, Option.map_some, Function.comp_apply,
      ProcessedPanelResult.outcome]
    rw [eraseDups_eq_self hnodup, List.filterMap_map, List.filterMap_map]
    rfl

theorem nonempty_map {α β : Type} (f : α → β) (l : List α) :
    nonempty (l.map f) = (nonempty l).map (List.map f) := by
  cases l <;> rfl

/-- A panel of a batch gives what it gives alone over the window of the batch, but for the
    names of its queries. -/
theorem outcome_eq {batch : RequestBatch} (h : (batch.refIdMapping.map RefIdMapping.refId).Nodup)
    {panel : GrafanaPanel × ℕ} (hpanel : panel ∈ batch.panels) :
    (processPanel (respond timeRangeOverride grafana batch) (refIdMappings panel)).map
        ProcessedPanelResult.outcome =
      (processPanel (respond timeRangeOverride grafana ⟨batch.timeRange, [(panel.1, 0)]⟩)
        (refIdMappings (panel.1, 0))).map fun r => r.outcome.renamed panel.2 := by
  obtain ⟨panel, index⟩ := panel
  have hsublist : (refIdMappings (panel, index)).Sublist batch.refIdMapping :=
    List.sublist_flatten_of_mem (List.mem_map_of_mem hpanel)
  have hnames := h.sublist (hsublist.map RefIdMapping.refId)
  have halone : ((refIdMappings (panel, 0)).map RefIdMapping.refId).Nodup := by
    rw [map_refId_refIdMappings] at hnames ⊢
    exact hnames.of_map.map fun r s h => (String.append_left_inj _).1 h
  obtain ⟨single, hsingle⟩ : ∃ single : RequestBatch, single = ⟨batch.timeRange, [(panel, 0)]⟩ :=
    ⟨_, rfl⟩
  have hmappings : single.refIdMapping = refIdMappings (panel, 0) := by
    rw [hsingle]
    exact List.flatMap_singleton _ _
  have hrange : single.timeRange = batch.timeRange := by rw [hsingle]
  rw [← hsingle]
  have hresult : ∀ m ∈ refIdMappings (panel, 0),
      (m.atPlace index).queryResult (answers timeRangeOverride grafana batch) =
        (m.queryResult (answers timeRangeOverride grafana single)).mapError
          (PanelError.renamed index) := by
    intro m hm
    have hplace : m.atPlace index ∈ batch.refIdMapping := by
      refine hsublist.subset ?_
      rw [refIdMappings_eq_map]
      exact List.mem_map_of_mem hm
    have hsame : (answers timeRangeOverride grafana single).lookup m.refId =
        grafana batch.timeRange
          ((timeRangeOverride.elim id TimeRangeOverride.replaceTimeFilter) m.query) := by
      rw [← hrange]
      exact lookup_answers (hmappings ▸ halone) (hmappings ▸ hm)
    rw [RefIdMapping.queryResult, RefIdMapping.queryResult, lookup_answers h hplace,
      checkResult_atPlace hm, hsame]
    rfl
  have hdata : (refIdMappings (panel, index)).filterMap (fun m =>
        (m.queryResult (answers timeRangeOverride grafana batch)).toOption.map fun result =>
          (m.refId, result)) =
      ((refIdMappings (panel, 0)).filterMap fun m =>
        (m.queryResult (answers timeRangeOverride grafana single)).toOption.map fun result =>
          (m.refId, result)).map fun result => (renamed index result.1, result.2) := by
    rw [refIdMappings_eq_map panel index, List.filterMap_map, List.map_filterMap]
    refine List.filterMap_congr fun m hm => ?_
    rw [Function.comp_apply, hresult m hm]
    cases m.queryResult (answers timeRangeOverride grafana single) <;> rfl
  have herrors : (refIdMappings (panel, index)).filterMap (fun m =>
        match m.queryResult (answers timeRangeOverride grafana batch) with
        | .ok _ => none
        | .error e => some e) =
      ((refIdMappings (panel, 0)).filterMap fun m =>
        match m.queryResult (answers timeRangeOverride grafana single) with
        | .ok _ => none
        | .error e => some e).map (PanelError.renamed index) := by
    rw [refIdMappings_eq_map panel index, List.filterMap_map, List.map_filterMap]
    refine List.filterMap_congr fun m hm => ?_
    rw [Function.comp_apply, hresult m hm]
    cases m.queryResult (answers timeRangeOverride grafana single) <;> rfl
  show _ = Option.map (PanelOutcome.renamed index ∘ ProcessedPanelResult.outcome) _
  rw [respond, respond, ← Option.map_map, processPanel_outcome hnames, processPanel_outcome halone,
    hdata, herrors, nonempty_map, nonempty_map, Option.map_map, refIdMappings_eq_map panel index,
    List.head?_map, Option.map_map]
  rfl

/-! ## Together and alone -/

/-- What a panel that has queries gives alone. -/
theorem queryPanels_singleton {panel : GrafanaPanel × ℕ} (h : HasQueries panel = true) :
    queryPanels batchSize timeRangeOverride grafana [panel.1] =
      (processPanel (respond timeRangeOverride grafana
        ⟨timeRange timeRangeOverride panel.1, [(panel.1, 0)]⟩)
        (refIdMappings (panel.1, 0))).toList := by
  have hzero : HasQueries (panel.1, 0) = true := by
    obtain ⟨m, hm⟩ := hasQueries_iff.1 h
    rw [show panel = (panel.1, panel.2) from rfl, refIdMappings_eq_map] at hm
    obtain ⟨m, hm, _⟩ := List.mem_map.1 hm
    exact hasQueries_iff.2 ⟨m, hm⟩
  have hrequests : panel.1.requests.isEmpty = false := by
    cases hrequests : panel.1.requests with
    | nil =>
      rw [HasQueries, refIdMappings, hrequests] at h
      exact absurd h Bool.false_ne_true
    | cons request requests => rfl
  have hbatches : batchPanelQueries batchSize timeRangeOverride [panel.1] =
      [⟨timeRange timeRangeOverride panel.1, [(panel.1, 0)]⟩] := by
    have hmappings : (⟨timeRange timeRangeOverride panel.1, [(panel.1, 0)]⟩ :
        RequestBatch).refIdMapping.isEmpty = false := by
      rw [RequestBatch.refIdMapping, List.flatMap_singleton]
      simpa [HasQueries] using hzero
    simp [batchPanelQueries, Batching.add, hrequests, hmappings]
  rw [queryPanels, hbatches, processBatchedResponses_eq]
  · simp only [List.map_cons, List.map_nil, List.flatMap_singleton, List.filterMap_cons,
      List.filterMap_nil]
    cases processPanel (respond timeRangeOverride grafana
      ⟨timeRange timeRangeOverride panel.1, [(panel.1, 0)]⟩) (refIdMappings (panel.1, 0)) <;> rfl
  · simp [hzero]
  · simp

variable {panels : List GrafanaPanel}

/-- The panels of a batch give results one by one. -/
theorem filterMap_processPanel {response : GrafanaResponse} (l : List (GrafanaPanel × ℕ)) :
    l.filterMap (fun panel => processPanel response (refIdMappings panel)) =
      (l.filter HasQueries).flatMap fun panel =>
        (processPanel response (refIdMappings panel)).toList := by
  induction l with
  | nil => rfl
  | cons panel l ih =>
    cases hpanel : HasQueries panel with
    | true =>
      rw [List.filterMap_cons, List.filter_cons_of_pos hpanel, List.flatMap_cons, ← ih]
      cases processPanel response (refIdMappings panel) <;> rfl
    | false =>
      rw [List.filterMap_cons, List.filter_cons_of_neg (by simp [hpanel]), ← ih,
        refIdMappings_eq_nil hpanel]
      rfl

/-- If no two panels with queries have the same key, each gives its results. -/
theorem queryPanels_eq (h : ((panels.zipIdx.filter HasQueries).map keyAt).Nodup) :
    queryPanels batchSize timeRangeOverride grafana panels =
      (batchPanelQueries batchSize timeRangeOverride panels).flatMap fun batch =>
        (batch.panels.filter HasQueries).flatMap fun panel =>
          (processPanel (respond timeRangeOverride grafana batch)
            (refIdMappings panel)).toList := by
  rw [queryPanels, processBatchedResponses_eq, List.flatMap_map]
  · exact List.flatMap_congr fun batch _ => filterMap_processPanel batch.panels
  · rw [List.flatMap_map]
    exact (filter_flatMap_panels batchSize timeRangeOverride panels).symm ▸ h
  · exact fun _ _ => List.not_mem_nil

/-- A place of a batch is that of a panel. -/
theorem mem_zipIdx_of_mem_panels {batch : RequestBatch}
    (hbatch : batch ∈ batchPanelQueries batchSize timeRangeOverride panels)
    {panel : GrafanaPanel × ℕ} (hpanel : panel ∈ batch.panels) (h : HasQueries panel = true) :
    panel ∈ panels.zipIdx.filter HasQueries :=
  (sublist_zipIdx hbatch).subset (List.mem_filter.2 ⟨hpanel, h⟩)

/-- Panels that do not mix give what they give alone. -/
theorem asAlone_of_unmixed (h : Unmixed batchSize timeRangeOverride panels) :
    AsAlone batchSize timeRangeOverride panels := by
  have hdistinct : ∀ batch ∈ batchPanelQueries batchSize timeRangeOverride panels,
      ((batch.queries timeRangeOverride).map GrafanaQuery.refId).Nodup := by
    intro batch hbatch
    refine (nodup_queries_iff hbatch).2 ⟨fun panel hpanel => ?_, h.places batch hbatch⟩
    cases hhas : HasQueries panel with
    | true =>
      have hmem := (List.mem_filter.1 (mem_zipIdx_of_mem_panels hbatch hpanel hhas)).1
      exact h.refIds _ (List.fst_mem_of_mem_zipIdx hmem)
    | false =>
      rw [refIds_eq_nil hhas]
      exact List.nodup_nil
  refine ⟨hdistinct, fun grafana => List.Perm.of_eq ?_⟩
  rw [queryPanels_eq h.keys, List.map_flatMap,
    ← filter_flatMap_panels batchSize timeRangeOverride panels, List.filter_flatMap,
    List.flatMap_assoc]
  refine List.flatMap_congr fun batch hbatch => ?_
  rw [List.map_flatMap]
  refine List.flatMap_congr fun panel hpanel => ?_
  obtain ⟨hpanel, hhas⟩ := List.mem_filter.1 hpanel
  have hnames := hdistinct batch hbatch
  rw [map_refId_queries] at hnames
  rw [queryPanels_singleton hhas, h.windows batch hbatch panel hpanel hhas, ← Option.toList_map,
    ← Option.toList_map, outcome_eq hnames hpanel]

/-- If each panel gives what it gives alone, no two with queries have the same key. -/
theorem nodup_keyAt_of_asAlone (h : AsAlone batchSize timeRangeOverride panels) :
    ((panels.zipIdx.filter HasQueries).map keyAt).Nodup := by
  have hperm := (h.outcomes fun _ _ => none).map fun o => o.panel.panelKey
  have hkeys : (((panels.zipIdx.filter HasQueries).flatMap fun panel =>
      (queryPanels batchSize timeRangeOverride (fun _ _ => none) [panel.1]).map fun r =>
        r.outcome.renamed panel.2).map fun o => o.panel.panelKey) =
          (panels.zipIdx.filter HasQueries).map keyAt := by
    rw [List.map_flatMap, ← List.flatMap_pure_eq_map]
    refine List.flatMap_congr fun panel hpanel => ?_
    rw [queryPanels_singleton (List.mem_filter.1 hpanel).2]
    obtain ⟨m, hm⟩ := hasQueries_iff.1 (List.mem_filter.1 hpanel).2
    rw [show panel = (panel.1, panel.2) from rfl, refIdMappings_eq_map] at hm
    obtain ⟨m, hm, _⟩ := List.mem_map.1 hm
    obtain ⟨r, hr⟩ := Option.isSome_iff_exists.1 (processPanel_isSome.2 (List.ne_nil_of_mem hm))
    obtain ⟨m', hm', hpanel⟩ := processPanel_panel hr
    rw [hr]
    show [r.panel.panelKey] = [panel.1.panelKey]
    rw [hpanel, (mem_refIdMappings hm').1]
  rw [hkeys, List.map_map] at hperm
  exact hperm.nodup (nodup_processBatchedResponses _ _)

/-- A Grafana that answers over one window only. -/
def onlyOver (window : Option String × Option String) : IndependentGrafana := fun timeRange _ =>
  if timeRange = window then some { status := none, error := none, frames := "" } else none

/-- Over its window, it answers all queries of a batch. -/
theorem errors_of_onlyOver {batch : RequestBatch}
    (hnames : (batch.refIdMapping.map RefIdMapping.refId).Nodup) {panel : GrafanaPanel × ℕ}
    (hpanel : panel ∈ batch.panels) {r : ProcessedPanelResult}
    (hr : processPanel (respond timeRangeOverride (onlyOver batch.timeRange) batch)
      (refIdMappings panel) = some r) : r.errors = none := by
  refine (processPanel_errors hr).2 fun m hm => RefIdMapping.obtained_iff.2 ?_
  refine ⟨_, { status := none, error := none, frames := "" }, rfl, ?_⟩
  rw [RefIdMapping.queryResult, lookup_answers hnames (List.mem_flatMap.2 ⟨panel, hpanel, hm⟩),
    onlyOver, if_pos rfl]
  rfl

/-- It answers a query over its window only. -/
theorem timeRange_of_onlyOver {window : Option String × Option String} {batch : RequestBatch}
    {ms : List RefIdMapping} {r : ProcessedPanelResult}
    (hr : processPanel (respond timeRangeOverride (onlyOver window) batch) ms = some r)
    (herrors : r.errors = none) : batch.timeRange = window := by
  by_contra hwindow
  obtain ⟨m, hm, _⟩ := processPanel_panel hr
  obtain ⟨results, result, hresponse, hresult⟩ :=
    RefIdMapping.obtained_iff.1 ((processPanel_errors hr).1 herrors m hm)
  have hresults : results = [] := by
    rw [← Option.some.inj (Except.ok.inj hresponse), answers]
    refine List.filterMap_eq_nil_iff.2 fun query _ => ?_
    rw [onlyOver, if_neg hwindow]
    rfl
  rw [hresults] at hresult
  cases hresult

/-- Panels that give what they give alone do not mix. -/
theorem unmixed_of_asAlone (h : AsAlone batchSize timeRangeOverride panels) :
    Unmixed batchSize timeRangeOverride panels := by
  have hkeys := nodup_keyAt_of_asAlone h
  refine ⟨hkeys, fun panel hpanel => ?_, fun batch hbatch => ?_, fun batch hbatch p hp hhas => ?_⟩
  · by_cases hnil : panel.refIds = []
    · rw [hnil]
      exact List.nodup_nil
    · obtain ⟨i, hi⟩ := List.mem_iff_getElem?.1 hpanel
      have hhas : HasQueries (panel, i) = true := by
        by_contra hhas
        have hfalse : HasQueries (panel, i) = false := Bool.eq_false_iff.2 hhas
        exact hnil (refIds_eq_nil hfalse)
      have hplace : (panel, i) ∈ panels.zipIdx.filter HasQueries :=
        List.mem_filter.2 ⟨List.mk_mem_zipIdx_iff_getElem?.2 hi, hhas⟩
      rw [← filter_flatMap_panels batchSize timeRangeOverride panels] at hplace
      obtain ⟨batch, hbatch, hmem⟩ := List.mem_flatMap.1 (List.mem_filter.1 hplace).1
      exact ((nodup_queries_iff hbatch).1 (h.distinct batch hbatch)).1 _ hmem
  · exact ((nodup_queries_iff hbatch).1 (h.distinct batch hbatch)).2
  · have hnames := h.distinct batch hbatch
    rw [map_refId_queries] at hnames
    obtain ⟨m, hm⟩ := hasQueries_iff.1 hhas
    obtain ⟨r, hr⟩ : ∃ r, processPanel (respond timeRangeOverride (onlyOver batch.timeRange) batch)
        (refIdMappings p) = some r :=
      Option.isSome_iff_exists.1 (processPanel_isSome.2 (List.ne_nil_of_mem hm))
    have hmem : r ∈ queryPanels batchSize timeRangeOverride (onlyOver batch.timeRange) panels := by
      rw [queryPanels_eq hkeys]
      refine List.mem_flatMap.2 ⟨batch, hbatch, List.mem_flatMap.2 ⟨p, ?_, ?_⟩⟩
      · exact List.mem_filter.2 ⟨hp, hhas⟩
      rw [hr]
      exact List.mem_cons_self
    obtain ⟨q, hq, hsame⟩ := List.mem_flatMap.1
      ((h.outcomes (onlyOver batch.timeRange)).subset (List.mem_map_of_mem hmem))
    obtain ⟨r', hr', hsame⟩ := List.mem_map.1 hsame
    rw [queryPanels_singleton (List.mem_filter.1 hq).2] at hr'
    have hr' := Option.mem_toList.1 hr'
    obtain ⟨m₁, hm₁, hpanel⟩ := processPanel_panel hr
    obtain ⟨m₂, hm₂, hpanel'⟩ := processPanel_panel hr'
    have hpanels : r'.panel = r.panel := congrArg PanelOutcome.panel hsame
    obtain rfl : p = q := by
      refine List.inj_on_of_nodup_map hkeys (mem_zipIdx_of_mem_panels hbatch hp hhas) hq ?_
      rw [keyAt, keyAt, ← (mem_refIdMappings hm₁).1, ← hpanel, ← hpanels, hpanel',
        (mem_refIdMappings hm₂).1]
    have hnone : r'.errors.map (List.map (PanelError.renamed p.2)) = r.errors :=
      congrArg PanelOutcome.errors hsame
    rw [errors_of_onlyOver hnames hp hr] at hnone
    exact timeRange_of_onlyOver hr' (Option.map_eq_none_iff.1 hnone)

/-- Panels that are queried together give what they give alone if and only if they do
    not mix. -/
theorem asAlone_iff (batchSize : ℕ) (timeRangeOverride : Option TimeRangeOverride)
    (panels : List GrafanaPanel) : AsAlone batchSize timeRangeOverride panels ↔
      Unmixed batchSize timeRangeOverride panels :=
  ⟨unmixed_of_asAlone, asAlone_of_unmixed⟩

/-- A panel that is repeated for a value of a variable. -/
def repeatedPanel (value : String) : GrafanaPanel where
  testRunId := "run"
  applicationDashboardId := "dashboard"
  metricsSourceId := none
  dashboardUid := some "uid"
  panelId := 4
  panelTitle := "cpu " ++ value
  dashboardLabel := "hosts"
  benchmarkIds := none
  panel := value
  requests := [
    { from_ := none, fromTime := some "0", toTime := some "60000"
      queries := [{ refId := "A", query := "cpu of " ++ value }] }]

/-- Of two repetitions in different requests, only the first gives a result. -/
theorem not_asAlone_repeatedPanel :
    ¬AsAlone 1 none [repeatedPanel "web", repeatedPanel "database"] := by
  intro h
  have hlength := (h.outcomes fun _ _ => none).length_eq
  revert hlength
  decide +kernel

end PanelQueries

end Perfana
