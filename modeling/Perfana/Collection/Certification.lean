import Mathlib.Data.List.Dedup
import Perfana.Collection.GapFilling

/-!
# What the collection status certifies

Four writers keep the status row of a source: the incremental ticks during the
run, the gap filling before an analysis, the metrics stage of an analysis, and
the batch re-evaluation, which fills missing data or fetches everything again.
A range in the row, and the mark that the source is complete, stand for data
that was fetched.

The ticks and the gap filling look at the result of a fetch. The batch
re-evaluation only looks whether it threw, and the metrics stage marks the
default Grafana instance whichever instances it queried:

* `run_certified`: along every run of steps whose fetches do not fail unseen
  (`FetchesSeen`), every instant of the window in a collected range was asked for
  in a fetch that succeeded, and a source is only marked complete by a step all
  of whose fetches succeeded;
* `forceRefetch_uncertified`: a forced re-fetch that fails certifies the whole
  window all the same.
-/

namespace Perfana

open Perfana.Span CollectionStatus

/-! ## The steps -/

/-- How a fetch of a pipeline ends: its result says success or failure, or it throws. -/
inductive FetchResult
  | success
  | failed
  | thrown
  deriving DecidableEq, Repr

/-- How an incremental tick ends. -/
inductive TickResult
  /-- The performance test had completed: left to the analysis. -/
  | runCompleted
  /-- Another tick held the lock: reported as a success without data. -/
  | lockNotAcquired
  /-- Fetched, with the number of data points and the time of the last one, if known. -/
  | collected (dataPoints : ℕ) (maxDataTimestamp : Option ℤ)
  /-- Failed with an error. -/
  | failed (error : String)
  deriving DecidableEq, Repr

/-- A Grafana panel as the metrics stage finds it. -/
structure Panel where
  /-- The instance of its dashboard; none stands for the default one. -/
  instanceId : Option String
  /-- Whether a benchmark refers to it. -/
  inBenchmark : Bool
  /-- Whether it has errors, in which case it is not queried. -/
  hasErrors : Bool
  deriving DecidableEq, Repr

/-- What the metrics stage runs on. -/
structure MetricsStage where
  hasUsableGrafana : Bool
  /-- The instance cached for the process. -/
  grafanaInstanceId : Option String
  /-- Whether only panels of benchmarks are collected. -/
  benchmarksOnly : Bool
  panels : List Panel
  /-- The instances that a client could be made for. -/
  hasClient : Option String → Bool
  /-- Whether the queries to an instance succeeded. -/
  query : Option String → Bool
  /-- Whether the records were saved. -/
  saved : Bool

/-- A step on the row of a source. -/
inductive CollectionStep
  /-- An incremental tick for a time range. -/
  | tick (fromTime toTime : ℤ) (result : TickResult)
  /-- The gap filling of an analysis: whether the source is still configured, and
      every source complete. -/
  | gapRetry (configured allComplete : Bool) (outcome : ℕ → Bool)
  /-- The batch re-evaluation fills missing data, if the source was selected. -/
  | missingData (selected : Bool) (result : ℕ → FetchResult)
  /-- The batch re-evaluation fetches everything again; the Dynatrace pipeline
      may track the collection itself. -/
  | forceRefetch (result : FetchResult) (tracked : Bool)
  /-- The metrics stage of an analysis. -/
  | metricsStage (stage : MetricsStage)

/-- What a step does: the row it leaves, what it fetched for the source, and
    whether it marked the source complete. -/
structure StepEffect where
  /-- The row, if it exists. -/
  row : Option CollectionStatus
  /-- The fetches for the source. -/
  fetches : List Fetch
  /-- Whether the source was marked complete. -/
  marked : Bool

section Steps

variable (sourceType : SourceType) (sourceId : String) (startTime endTime : ℤ)

def runWindow : RunWindow := ⟨some startTime, some endTime⟩

def sourceFetch (range : TimeRange) (success : Bool) : Fetch :=
  ⟨sourceType, sourceId, range, success⟩

/-- An incremental tick: a success advances the collected range as far as there
    is data, a failure is recorded. -/
def incrementalTick (row : Option CollectionStatus) (fromTime toTime : ℤ) :
    TickResult → StepEffect
  | .runCompleted => ⟨row, [], false⟩
  | .lockNotAcquired =>
    ⟨some ((row.getD (.fresh sourceType sourceId)).updateCollectedRanges ⟨fromTime, fromTime⟩),
      [], false⟩
  | .collected dataPoints maxDataTimestamp =>
    let effectiveToTime :=
      if dataPoints = 0 then fromTime
      else match maxDataTimestamp with
        | some maxDataTimestamp => max maxDataTimestamp fromTime
        | none => toTime
    ⟨some ((row.getD (.fresh sourceType sourceId)).updateCollectedRanges
        ⟨fromTime, effectiveToTime⟩),
      [sourceFetch sourceType sourceId ⟨fromTime, toTime⟩ true], false⟩
  | .failed error =>
    ⟨some ((row.getD (.fresh sourceType sourceId)).recordFailedRange ⟨fromTime, toTime⟩ error),
      [sourceFetch sourceType sourceId ⟨fromTime, toTime⟩ false], false⟩

/-- The gap filling of an analysis, on the row of the source. -/
def gapRetry (row : Option CollectionStatus) (configured allComplete : Bool)
    (outcome : ℕ → Bool) : StepEffect :=
  match row with
  | none => ⟨none, [], false⟩
  | some status =>
    if !configured then ⟨none, [], false⟩
    else if allComplete then ⟨some status, [], false⟩
    else
      let pass := fillSource (runWindow startTime endTime) outcome status
      ⟨some pass.after, pass.fetches, pass.marked⟩

/-- The missing-data fill of the batch re-evaluation: every range of the gap is
    fetched, and unless one threw the source is marked complete. The collected
    ranges are not updated. -/
def fillMissingData (row : Option CollectionStatus) (selected : Bool)
    (result : ℕ → FetchResult) : StepEffect :=
  match row with
  | none => ⟨none, [], false⟩
  | some status =>
    match detectGap (runWindow startTime endTime) status with
    | none => ⟨some status, [], false⟩
    | some gap =>
      if !selected then ⟨some status, [], false⟩
      else
        let allRanges := gap.missingRanges ++ gap.failedRanges.map FailedRange.range
        let fetches := allRanges.mapIdx fun n range =>
          sourceFetch sourceType sourceId range (result n = .success)
        let allSucceeded := (List.range allRanges.length).all fun n => result n ≠ .thrown
        if allSucceeded then
          ⟨some (status.markCollectionComplete (runWindow startTime endTime)), fetches, true⟩
        else ⟨some status, fetches, false⟩

/-- The forced re-fetch of the batch re-evaluation: the row is reset, the window
    fetched, and unless the fetch threw the source is marked complete, which fails
    if there is no row. -/
def forceRefetch (row : Option CollectionStatus) (result : FetchResult) (tracked : Bool) :
    StepEffect :=
  let fetches := [sourceFetch sourceType sourceId ⟨startTime, endTime⟩ (result = .success)]
  let reset := row.map CollectionStatus.resetCollectionStatus
  let collected :=
    if sourceType = .dynatrace ∧ result = .success ∧ tracked then
      some (((reset.getD (.fresh sourceType sourceId)).updateCollectedRanges
        ⟨startTime, endTime⟩).markCollectionComplete (runWindow startTime endTime))
    else reset
  if result = .thrown then ⟨collected, fetches, false⟩
  else ⟨collected.map (CollectionStatus.markCollectionComplete (runWindow startTime endTime)),
    fetches, collected.isSome⟩

/-- The panels the metrics stage processes. -/
def MetricsStage.panelsToProcess (stage : MetricsStage) : List Panel :=
  if stage.benchmarksOnly then stage.panels.filter Panel.inBenchmark else stage.panels

/-- The instances it queries. -/
def MetricsStage.groups (stage : MetricsStage) : List (Option String) :=
  (((stage.panelsToProcess.filter fun p => !p.hasErrors).map Panel.instanceId).dedup).filter
    stage.hasClient

/-- The metrics stage: it queries the instances of its panels, and then marks the
    default instance as collected in full. Failed queries are only logged. -/
def metricsStage (row : Option CollectionStatus) (stage : MetricsStage) : StepEffect :=
  if !stage.hasUsableGrafana || stage.panels.isEmpty || stage.panelsToProcess.isEmpty then
    ⟨row, [], false⟩
  else
    let defaultId := stage.grafanaInstanceId.getD ""
    let fetches := (stage.groups.filter fun g => sourceType = .grafana ∧ g.getD defaultId = sourceId).map
      fun g => sourceFetch sourceType sourceId ⟨startTime, endTime⟩ (stage.query g)
    if stage.saved ∧ sourceType = .grafana ∧ sourceId = defaultId then
      ⟨some (((row.getD (.fresh sourceType sourceId)).updateCollectedRanges
        ⟨startTime, endTime⟩).markCollectionComplete (runWindow startTime endTime)), fetches, true⟩
    else ⟨row, fetches, false⟩

/-- What a step does to the row of the source. -/
def stepEffect (row : Option CollectionStatus) : CollectionStep → StepEffect
  | .tick fromTime toTime result => incrementalTick sourceType sourceId row fromTime toTime result
  | .gapRetry configured allComplete outcome =>
    gapRetry startTime endTime row configured allComplete outcome
  | .missingData selected result =>
    fillMissingData sourceType sourceId startTime endTime row selected result
  | .forceRefetch result tracked =>
    forceRefetch sourceType sourceId startTime endTime row result tracked
  | .metricsStage stage => metricsStage sourceType sourceId startTime endTime row stage

end Steps

/-! ## What a step certifies -/

/-- The instants a row holds as collected. -/
def CollectedIn (row : Option CollectionStatus) (t : ℤ) : Prop :=
  ∃ status, row = some status ∧ Covered status.collectedRanges t

/-- An instant asked for in a fetch that succeeded. -/
def FetchedIn (fetches : List Fetch) (t : ℤ) : Prop :=
  ∃ f ∈ fetches, f.success = true ∧ f.range.Contains t

@[simp] theorem collectedIn_some (status : CollectionStatus) (t : ℤ) :
    CollectedIn (some status) t ↔ Covered status.collectedRanges t := by simp [CollectedIn]

@[simp] theorem collectedIn_none (t : ℤ) : ¬CollectedIn none t := by simp [CollectedIn]

theorem collectedIn_getD {row : Option CollectionStatus} {sourceType : SourceType}
    {sourceId : String} {t : ℤ}
    (h : Covered (row.getD (.fresh sourceType sourceId)).collectedRanges t) :
    CollectedIn row t := by
  cases row with
  | none => simp [CollectionStatus.fresh] at h
  | some status => simpa using h

theorem covered_updateCollectedRanges (status : CollectionStatus) (r : TimeRange) (t : ℤ) :
    Covered (status.updateCollectedRanges r).collectedRanges t ↔
      Covered status.collectedRanges t ∨ r.Contains t := by
  simp [CollectionStatus.updateCollectedRanges]

section Certify

variable {sourceType : SourceType} {sourceId : String} {startTime endTime : ℤ}

/-- Marking a row complete changes its collected ranges only if there are none. -/
theorem covered_markCollectionComplete {status : CollectionStatus} {t : ℤ}
    (h : Covered (status.markCollectionComplete (runWindow startTime endTime)).collectedRanges t) :
    Covered status.collectedRanges t ∨
      status.collectedRanges = [] ∧ startTime ≤ t ∧ t < endTime := by
  cases hread : status.collectedRanges with
  | nil =>
    simp only [CollectionStatus.markCollectionComplete, completeFrom, hread, runWindow] at h
    exact .inr ⟨rfl, by simpa [Contains] using h⟩
  | cons c cs =>
    simp only [CollectionStatus.markCollectionComplete, completeFrom, hread] at h
    exact .inl (hread ▸ h)

/-- Fetching ranges in turn collects what the successful fetches asked for. -/
theorem covered_foldl_retry (outcome : ℕ → Bool) (ranges : List TimeRange) (filling : Filling)
    {t : ℤ}
    (h : Covered (ranges.foldl (retryCollectionForRange outcome)
      filling).status.collectedRanges t) :
    Covered filling.status.collectedRanges t ∨
      FetchedIn (ranges.foldl (retryCollectionForRange outcome) filling).fetches t := by
  have hlog : ∀ (ranges : List TimeRange) (filling : Filling), ∀ f ∈ filling.fetches,
      f ∈ (ranges.foldl (retryCollectionForRange outcome) filling).fetches := by
    intro ranges
    induction ranges with
    | nil => exact fun _ _ hf => hf
    | cons r ranges ih =>
      exact fun filling f hf => ih _ f (by simp [retryCollectionForRange, hf])
  induction ranges generalizing filling with
  | nil => exact .inl h
  | cons r ranges ih =>
    rcases ih _ h with hcov | hfetched
    · cases hout : outcome filling.fetches.length with
      | false =>
        simp only [retryCollectionForRange, hout] at hcov
        exact .inl hcov
      | true =>
        simp only [retryCollectionForRange, hout, if_true, covered_updateCollectedRanges] at hcov
        refine hcov.imp_right fun hr =>
          ⟨⟨filling.status.sourceType, filling.status.sourceId, r, true⟩,
            hlog ranges _ _ ?_, rfl, hr⟩
        simp [retryCollectionForRange, hout]
    · exact .inr hfetched

theorem collectedRanges_foldl_retry (outcome : ℕ → Bool) (ranges : List TimeRange)
    (filling : Filling)
    (h : (ranges.foldl (retryCollectionForRange outcome) filling).status.collectedRanges = []) :
    filling.status.collectedRanges = [] := by
  induction ranges generalizing filling with
  | nil => exact h
  | cons r ranges ih =>
    have hnone := ih _ h
    rw [retryCollectionForRange] at hnone
    dsimp only at hnone
    split at hnone
    · simp [CollectionStatus.updateCollectedRanges] at hnone
    · exact hnone

variable (startTime endTime) in
/-- A source from which nothing was collected has its whole window reported. -/
theorem reported_of_empty {status : CollectionStatus} (h : status.collectedRanges = [])
    (hsource : status.sourceType ≠ .performanceTest) :
    (⟨startTime, endTime⟩ : TimeRange) ∈ reported (runWindow startTime endTime) status := by
  rw [runWindow, reported_eq hsource, findMissingRanges, if_pos h]
  simp

theorem detectGap_source {run : RunWindow} {status : CollectionStatus} {gap : CollectionGap}
    (h : detectGap run status = some gap) : status.sourceType ≠ .performanceTest := by
  rintro hsource
  rw [detectGap] at h
  split at h
  · rw [if_pos hsource] at h
    cases h
  · cases h

theorem detectGap_of_empty {status : CollectionStatus} (h : status.collectedRanges = [])
    (hsource : status.sourceType ≠ .performanceTest) :
    detectGap (runWindow startTime endTime) status ≠ none := by
  simp [detectGap, runWindow, hsource, findMissingRanges, h]

theorem covered_fillGap {outcome : ℕ → Bool} {status : CollectionStatus} {gap : CollectionGap}
    (hgap : detectGap (runWindow startTime endTime) status = some gap) {t : ℤ}
    (h : Covered (fillGap (runWindow startTime endTime) outcome status gap).after.collectedRanges t) :
    Covered status.collectedRanges t ∨
      FetchedIn (fillGap (runWindow startTime endTime) outcome status gap).fetches t := by
  have hfilled := fillGap_filled (runWindow startTime endTime) outcome hgap
  have hcollected := @covered_foldl_retry outcome
    (gap.failedRanges.map FailedRange.range ++ gap.missingRanges) ⟨status, [], false⟩ t
  have hempty := collectedRanges_foldl_retry outcome
    (gap.failedRanges.map FailedRange.range ++ gap.missingRanges) ⟨status, [], false⟩
  simp only [fillGap, foldl_retryFailedRange (detectGap_attempts hgap), ← List.foldl_append]
    at h hfilled ⊢
  generalize (gap.failedRanges.map FailedRange.range ++ gap.missingRanges).foldl
    (retryCollectionForRange outcome) ⟨status, [], false⟩ = filling at *
  cases herror : filling.sourceHasErrors with
  | true =>
    simp only [herror, if_true] at h ⊢
    exact hcollected h
  | false =>
    simp only [herror, Bool.false_eq_true, if_false] at h hfilled ⊢
    rcases covered_markCollectionComplete h with hcov | ⟨hnone, ht⟩
    · exact hcollected hcov
    · -- Nothing was collected before: the whole window was fetched.
      have hwindow := reported_of_empty startTime endTime
        (hempty hnone) (detectGap_source hgap)
      rw [← hfilled.ranges] at hwindow
      obtain ⟨f, hf, hrange⟩ := List.mem_map.1 hwindow
      exact .inr ⟨f, hf, hfilled.marked rfl f hf, hrange ▸ ht⟩

/-- The gap filling of an analysis only certifies what it fetched. -/
theorem covered_fillSource {outcome : ℕ → Bool} {status : CollectionStatus} {t : ℤ}
    (h : Covered (fillSource (runWindow startTime endTime) outcome
      status).after.collectedRanges t) :
    Covered status.collectedRanges t ∨
      FetchedIn (fillSource (runWindow startTime endTime) outcome status).fetches t := by
  cases hgap : detectGap (runWindow startTime endTime) status with
  | some gap =>
    simp only [fillSource, hgap] at h ⊢
    exact covered_fillGap hgap h
  | none =>
    simp only [fillSource, hgap] at h
    split at h
    · exact .inl h
    · rename_i hopen
      rw [not_or] at hopen
      rcases covered_markCollectionComplete h with hcov | ⟨hempty, -⟩
      · exact .inl hcov
      · exact absurd hgap (detectGap_of_empty hempty hopen.2)

/-! ## Steps whose fetches do not fail unseen -/

/-- The fetches that the metrics stage makes for the source. -/
def MetricsStage.sourceGroups (sourceId : String) (stage : MetricsStage) : List (Option String) :=
  stage.groups.filter fun g => g.getD (stage.grafanaInstanceId.getD "") = sourceId

/-- The metrics stage marks the source as collected. -/
def MetricsStage.Tracks (sourceType : SourceType) (sourceId : String) (stage : MetricsStage) :
    Prop :=
  stage.hasUsableGrafana = true ∧ stage.panels ≠ [] ∧ stage.panelsToProcess ≠ [] ∧
    stage.saved = true ∧ sourceType = .grafana ∧ sourceId = stage.grafanaInstanceId.getD ""

variable (sourceType sourceId startTime endTime)

/-- No fetch of the step fails unseen: the data of a tick is no later than asked
    for; when the batch re-evaluation marks a source, its fetches did not end in a
    failure that does not throw; and when the metrics stage marks a source, it was
    queried with success. -/
def FetchesSeen (row : Option CollectionStatus) : CollectionStep → Prop
  | .tick _ toTime (.collected dataPoints (some maxDataTimestamp)) =>
    dataPoints ≠ 0 → maxDataTimestamp ≤ toTime
  | .missingData selected result => ∀ status, row = some status → selected = true →
    (∃ n < (reported (runWindow startTime endTime) status).length, result n = .thrown) ∨
      ∀ n < (reported (runWindow startTime endTime) status).length, result n = .success
  | .forceRefetch result _ => row ≠ none → result ≠ .failed
  | .metricsStage stage => stage.Tracks sourceType sourceId →
    stage.sourceGroups sourceId ≠ [] ∧ ∀ g ∈ stage.sourceGroups sourceId, stage.query g = true
  | _ => True

/-- A step is sound: an instant of the window that it adds to the collected ranges
    was asked for in one of its fetches that succeeded, and it marks the source
    complete only if all its fetches succeeded. -/
structure StepSound (row : Option CollectionStatus) (effect : StepEffect) : Prop where
  certified : ∀ t, startTime ≤ t → t < endTime → CollectedIn effect.row t →
    CollectedIn row t ∨ FetchedIn effect.fetches t
  marked : effect.marked = true → ∀ f ∈ effect.fetches, f.success = true

variable {sourceType sourceId startTime endTime}

theorem tick_sound {row : Option CollectionStatus} {fromTime toTime : ℤ} {result : TickResult}
    (hseen : FetchesSeen sourceType sourceId startTime endTime row (.tick fromTime toTime result)) :
    StepSound startTime endTime row
      (incrementalTick sourceType sourceId row fromTime toTime result) := by
  cases result with
  | runCompleted => exact ⟨fun _ _ _ h => .inl h, by simp [incrementalTick]⟩
  | lockNotAcquired =>
    refine ⟨fun t _ _ h => ?_, by simp [incrementalTick]⟩
    simp only [incrementalTick, collectedIn_some, covered_updateCollectedRanges] at h
    rcases h with h | ⟨h₁, h₂⟩
    · exact .inl (collectedIn_getD h)
    · exact absurd h₂ (not_lt.2 h₁)
  | collected dataPoints maxDataTimestamp =>
    refine ⟨fun t _ _ h => ?_, by simp [incrementalTick]⟩
    simp only [incrementalTick, collectedIn_some, covered_updateCollectedRanges] at h
    rcases h with h | ⟨h₁, h₂⟩
    · exact .inl (collectedIn_getD h)
    · refine .inr ⟨_, List.mem_singleton.2 rfl, rfl, h₁, ?_⟩
      dsimp only at h₁ h₂ ⊢
      split at h₂
      · omega
      · rename_i hdata
        cases maxDataTimestamp with
        | none => exact h₂
        | some m =>
          have hle := hseen hdata
          simp only at h₂
          simp only [sourceFetch]
          omega
  | failed error =>
    refine ⟨fun t _ _ h => .inl ?_, by simp [incrementalTick]⟩
    simp only [incrementalTick, collectedIn_some] at h
    exact collectedIn_getD h

theorem gapRetry_sound (row : Option CollectionStatus) (configured allComplete : Bool)
    (outcome : ℕ → Bool) :
    StepSound startTime endTime row (gapRetry startTime endTime row configured allComplete outcome) := by
  cases row with
  | none => exact ⟨fun _ _ _ h => by simp [gapRetry] at h, by simp [gapRetry]⟩
  | some status =>
    rw [gapRetry]
    split
    · exact ⟨fun _ _ _ h => by simp at h, by simp⟩
    split
    · exact ⟨fun _ _ _ h => .inl h, by simp⟩
    · refine ⟨fun t _ _ h => ?_, ?_⟩
      · rw [collectedIn_some] at h ⊢
        exact covered_fillSource h
      · exact (fillSource_filled _ _ _).marked

theorem missingData_sound {row : Option CollectionStatus} {selected : Bool}
    {result : ℕ → FetchResult}
    (hseen : FetchesSeen sourceType sourceId startTime endTime row (.missingData selected result)) :
    StepSound startTime endTime row
      (fillMissingData sourceType sourceId startTime endTime row selected result) := by
  cases row with
  | none => exact ⟨fun _ _ _ h => by simp [fillMissingData] at h, by simp [fillMissingData]⟩
  | some status =>
    cases hgap : detectGap (runWindow startTime endTime) status with
    | none =>
      simp only [fillMissingData, hgap]
      exact ⟨fun _ _ _ h => .inl h, by simp⟩
    | some gap =>
      cases hselected : selected with
      | false =>
        simp only [fillMissingData, hgap, Bool.not_false, if_true]
        exact ⟨fun _ _ _ h => .inl h, by simp⟩
      | true =>
        have hlength : (reported (runWindow startTime endTime) status).length =
            (gap.missingRanges ++ gap.failedRanges.map FailedRange.range).length := by
          simp [reported, hgap, Nat.add_comm]
        have hcases := hseen status rfl hselected
        rw [hlength] at hcases
        simp only [fillMissingData, hgap, Bool.not_true, Bool.false_eq_true, if_false]
        split
        · rename_i hall
          -- No fetch threw, hence they all succeeded.
          have hsuccess : ∀ n < (gap.missingRanges ++
              gap.failedRanges.map FailedRange.range).length, result n = .success := by
            refine hcases.resolve_left ?_
            rintro ⟨n, hn, hthrown⟩
            have hne := List.all_eq_true.1 hall n (List.mem_range.2 hn)
            simp [hthrown] at hne
          refine ⟨fun t h₁ h₂ h => ?_, fun _ f hf => ?_⟩
          · rw [collectedIn_some] at h ⊢
            refine (covered_markCollectionComplete h).imp_right ?_
            rintro ⟨hempty, ht⟩
            have hwindow := reported_of_empty startTime endTime hempty (detectGap_source hgap)
            rw [reported, hgap, List.mem_append, or_comm, ← List.mem_append] at hwindow
            obtain ⟨n, hn, hrange⟩ := List.getElem_of_mem hwindow
            refine ⟨_, List.mem_mapIdx.2 ⟨n, hn, rfl⟩, ?_, ?_⟩
            · simp [sourceFetch, hsuccess n hn]
            · simpa [sourceFetch, hrange, Contains] using ht
          · obtain ⟨n, hn, rfl⟩ := List.mem_mapIdx.1 hf
            simp [sourceFetch, hsuccess n hn]
        · exact ⟨fun _ _ _ h => .inl h, by simp⟩

theorem forceRefetch_sound {row : Option CollectionStatus} {result : FetchResult} {tracked : Bool}
    (hseen : FetchesSeen sourceType sourceId startTime endTime row (.forceRefetch result tracked)) :
    StepSound startTime endTime row
      (forceRefetch sourceType sourceId startTime endTime row result tracked) := by
  -- The row is reset: what it holds afterwards lies in the window fetched.
  cases result with
  | success =>
    refine ⟨fun t h₁ h₂ _ => .inr ⟨sourceFetch sourceType sourceId ⟨startTime, endTime⟩ true,
      by simp [forceRefetch], rfl, h₁, h₂⟩, ?_⟩
    simp [forceRefetch, sourceFetch]
  | thrown =>
    refine ⟨fun t _ _ h => ?_, by simp [forceRefetch]⟩
    cases row with
    | none => simp [forceRefetch] at h
    | some status => simp [forceRefetch, resetCollectionStatus] at h
  | failed =>
    cases row with
    | none => exact ⟨fun _ _ _ h => by simp [forceRefetch] at h, by simp [forceRefetch]⟩
    | some status => exact absurd rfl (hseen (by simp))

theorem metricsStage_sound {row : Option CollectionStatus} {stage : MetricsStage}
    (hseen : FetchesSeen sourceType sourceId startTime endTime row (.metricsStage stage)) :
    StepSound startTime endTime row
      (metricsStage sourceType sourceId startTime endTime row stage) := by
  rw [metricsStage]
  split
  · exact ⟨fun _ _ _ h => .inl h, by simp⟩
  · rename_i hrun
    simp only [Bool.or_eq_true, Bool.not_eq_true', List.isEmpty_iff, not_or,
      Bool.not_eq_false] at hrun
    dsimp only
    split
    · rename_i htracks
      obtain ⟨hne, hquery⟩ :=
        hseen ⟨hrun.1.1, hrun.1.2, hrun.2, htracks.1, htracks.2.1, htracks.2.2⟩
      have hgroups : (stage.groups.filter fun g =>
          sourceType = .grafana ∧ g.getD (stage.grafanaInstanceId.getD "") = sourceId) =
          stage.sourceGroups sourceId := by
        simp [MetricsStage.sourceGroups, htracks.2.1]
      rw [hgroups]
      refine ⟨fun t h₁ h₂ _ => .inr ?_, fun _ f hf => ?_⟩
      · obtain ⟨g, hg⟩ := List.exists_mem_of_ne_nil _ hne
        exact ⟨_, List.mem_map_of_mem hg, hquery g hg, h₁, h₂⟩
      · obtain ⟨g, hg, rfl⟩ := List.mem_map.1 hf
        exact hquery g hg
    · exact ⟨fun _ _ _ h => .inl h, by simp⟩

/-- A step whose fetches do not fail unseen is sound. -/
theorem step_sound {row : Option CollectionStatus} {e : CollectionStep}
    (hseen : FetchesSeen sourceType sourceId startTime endTime row e) :
    StepSound startTime endTime row (stepEffect sourceType sourceId startTime endTime row e) := by
  cases e with
  | tick fromTime toTime result => exact tick_sound hseen
  | gapRetry configured allComplete outcome => exact gapRetry_sound row configured allComplete outcome
  | missingData selected result => exact missingData_sound hseen
  | forceRefetch result tracked => exact forceRefetch_sound hseen
  | metricsStage stage => exact metricsStage_sound hseen

/-! ## Runs -/

/-- The row of a source, and everything fetched for it. -/
structure Collecting where
  row : Option CollectionStatus
  /-- The fetches so far. -/
  fetches : List Fetch
  deriving DecidableEq

variable (sourceType sourceId startTime endTime)

/-- A step on the row, its fetches logged. -/
def collect (s : Collecting) (e : CollectionStep) : Option Collecting :=
  let effect := stepEffect sourceType sourceId startTime endTime s.row e
  some ⟨effect.row, s.fetches ++ effect.fetches⟩

/-- Along every run of steps whose fetches do not fail unseen, an instant of the
    window is only in the collected ranges if it was asked for in a fetch that
    succeeded, and the next such step only marks the source complete if every
    fetch it makes succeeds. -/
theorem run_certified {es : List CollectionStep} {s : Collecting}
    (h : Run (collect sourceType sourceId startTime endTime)
      (fun s e => FetchesSeen sourceType sourceId startTime endTime s.row e) ⟨none, []⟩ es s) :
    (∀ t, startTime ≤ t → t < endTime → CollectedIn s.row t → FetchedIn s.fetches t) ∧
      ∀ e, FetchesSeen sourceType sourceId startTime endTime s.row e →
        (stepEffect sourceType sourceId startTime endTime s.row e).marked = true →
        ∀ f ∈ (stepEffect sourceType sourceId startTime endTime s.row e).fetches,
          f.success = true := by
  refine ⟨?_, fun e hseen => (step_sound hseen).marked⟩
  let Inv := fun (_ : List CollectionStep) (s : Collecting) =>
    ∀ t, startTime ≤ t → t < endTime → CollectedIn s.row t → FetchedIn s.fetches t
  have hinit : Inv [] ⟨none, []⟩ := fun t _ _ h => absurd h (collectedIn_none t)
  refine h.invariant hinit ?_
  intro es s e s' hs hseen hstep t h₁ h₂ hcollected
  obtain rfl := Option.some.inj hstep
  have hlogged : ∀ fetches, FetchedIn fetches t →
      (∀ f ∈ fetches, f ∈ s.fetches ++
        (stepEffect sourceType sourceId startTime endTime s.row e).fetches) →
      FetchedIn (s.fetches ++
        (stepEffect sourceType sourceId startTime endTime s.row e).fetches) t :=
    fun fetches ⟨f, hf, hsuccess, ht⟩ hsub => ⟨f, hsub f hf, hsuccess, ht⟩
  rcases (step_sound hseen).certified t h₁ h₂ hcollected with hbefore | hfetched
  · exact hlogged _ (hs t h₁ h₂ hbefore) fun f hf => List.mem_append_left _ hf
  · exact hlogged _ hfetched fun f hf => List.mem_append_right _ hf

/-- A row with a minute collected. -/
def minuteCollected : CollectionStatus :=
  { CollectionStatus.fresh .grafana "default" with collectedRanges := [⟨0, 60000⟩] }

/-- Half a minute into the run, what is certified was fetched. -/
theorem run_certified_minuteCollected :
    FetchedIn [⟨.grafana, "default", ⟨0, 60000⟩, true⟩,
      ⟨.grafana, "default", ⟨60000, 120000⟩, false⟩] 30000 := by
  -- A tick, and a gap that cannot be filled.
  have htick : Run (collect .grafana "default" 0 120000)
      (fun s e => FetchesSeen .grafana "default" 0 120000 s.row e) ⟨none, []⟩
      ([] ++ [.tick 0 60000 (.collected 12 none)])
      ⟨some minuteCollected, [⟨.grafana, "default", ⟨0, 60000⟩, true⟩]⟩ :=
    .snoc .start trivial (by decide)
  have hretry : Run (collect .grafana "default" 0 120000)
      (fun s e => FetchesSeen .grafana "default" 0 120000 s.row e) ⟨none, []⟩
      (([] ++ [.tick 0 60000 (.collected 12 none)]) ++ [.gapRetry true false fun _ => false])
      ⟨some minuteCollected, [⟨.grafana, "default", ⟨0, 60000⟩, true⟩,
        ⟨.grafana, "default", ⟨60000, 120000⟩, false⟩]⟩ :=
    .snoc htick trivial (by decide)
  have hcollected : CollectedIn (some minuteCollected) 30000 :=
    ⟨minuteCollected, rfl, ⟨0, 60000⟩, by simp [minuteCollected], by decide⟩
  exact (run_certified .grafana "default" 0 120000 hretry).1 30000 (by decide) (by decide) hcollected

/-- A run that is fetched again by force, with a failure. -/
def forcedRun : List CollectionStep :=
  [.tick 0 60000 (.collected 12 none), .forceRefetch .failed false]

/-- A forced re-fetch that fails certifies the whole window, and marks the source
    complete. -/
theorem forceRefetch_uncertified : ∃ s : Collecting,
    Run (collect .grafana "default" 0 120000) (fun _ _ => True) ⟨none, []⟩ forcedRun s ∧
      CollectedIn s.row 90000 ∧ ¬FetchedIn s.fetches 90000 ∧
      s.row.map CollectionStatus.isComplete = some true := by
  refine ⟨⟨some { CollectionStatus.fresh .grafana "default" with
      collectedRanges := [⟨0, 120000⟩], isComplete := true },
    [⟨.grafana, "default", ⟨0, 60000⟩, true⟩, ⟨.grafana, "default", ⟨0, 120000⟩, false⟩]⟩,
    Run.of_checked (by decide), ?_, ?_, rfl⟩
  · exact ⟨_, rfl, by decide⟩
  · simp [FetchedIn, Contains]

end Certify

end Perfana
