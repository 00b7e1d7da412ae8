import Perfana.Collection.Gaps
import Perfana.Lib.Run

/-!
# Gap filling

Before an analysis, the orchestrator checks the status rows of a run and
re-fetches what is missing: for each source the failed ranges with fewer than
five attempts, then the ranges of the window that were not collected. A range
that is fetched is appended to the row; a source all of whose ranges were
fetched is marked complete.

The orchestrator never records a failed re-fetch, and looks for failed and
missing ranges apart from one another, so the retry cap of the source holds only
in part:

* `retryCapKept_iff`: a pass over a row keeps the cap if and only if its
  re-fetches succeed and the ranges it reports lie apart (`FillsCleanly`);
* `run_retryCap`: along a run of passes that fill cleanly, no instant of a source
  is fetched twice.
-/

namespace Perfana

open Perfana.Span CollectionStatus

/-! ## Detecting gaps -/

/-- The number of attempts at which a failed range is given up. -/
def maxRetries : ℕ := 5

/-- What is to be fetched for a source. -/
structure CollectionGap where
  /-- The ranges of the window that were not collected. -/
  missingRanges : List TimeRange
  /-- The failed ranges with attempts left. -/
  failedRanges : List FailedRange

/-- The failed ranges with attempts left. -/
def retriableFailedRanges (status : CollectionStatus) : List FailedRange :=
  status.failedRanges.filter fun fr => fr.attempts < maxRetries

/-- The gap of a source, if it has one. The performance test is left out. -/
def detectGap (run : RunWindow) (status : CollectionStatus) : Option CollectionGap :=
  match run.startTime, run.endTime with
  | some startTime, some endTime =>
    if status.sourceType = .performanceTest then none
    else
      let missingRanges := findMissingRanges startTime endTime status.collectedRanges
      let failedRanges := retriableFailedRanges status
      if missingRanges.length > 0 ∨ failedRanges.length > 0 then
        some ⟨missingRanges, failedRanges⟩
      else none
  | _, _ => none

/-- Whether every source that counts is complete; no status means that the
    collection has not started. -/
def isCollectionComplete (statuses : List CollectionStatus) : Bool :=
  statuses ≠ [] && (collectable statuses).all fun s => s.isComplete

/-! ## Filling a gap -/

/-- A re-fetch of a range and whether it succeeded. -/
structure Fetch where
  sourceType : SourceType
  /-- Its instance or configuration. -/
  sourceId : String
  /-- The range asked for. -/
  range : TimeRange
  /-- The outcome. -/
  success : Bool
  deriving DecidableEq, Repr

/-- The filling of a gap in progress. -/
structure Filling where
  /-- The row. -/
  status : CollectionStatus
  /-- The fetches so far. -/
  fetches : List Fetch
  /-- Whether something went wrong for the source. -/
  sourceHasErrors : Bool

/-- Fetches a range, the `n`th of the pass with outcome `outcome n`. A success is
    recorded as collected; a failure throws, and the caller notes the error. -/
def retryCollectionForRange (outcome : ℕ → Bool) (filling : Filling) (range : TimeRange) :
    Filling :=
  let success := outcome filling.fetches.length
  { status := if success then filling.status.updateCollectedRanges range else filling.status
    fetches := filling.fetches ++
      [⟨filling.status.sourceType, filling.status.sourceId, range, success⟩]
    sourceHasErrors := filling.sourceHasErrors || !success }

/-- Retries a failed range unless it has used up its attempts. -/
def retryFailedRange (outcome : ℕ → Bool) (filling : Filling) (failedRange : FailedRange) :
    Filling :=
  if failedRange.attempts ≥ maxRetries then { filling with sourceHasErrors := true }
  else retryCollectionForRange outcome filling failedRange.range

/-- What a pass did for a source. -/
structure SourcePass where
  /-- The row as the pass found it. -/
  before : CollectionStatus
  /-- The row it left. -/
  after : CollectionStatus
  /-- What it fetched. -/
  fetches : List Fetch
  /-- Whether it marked the source complete. -/
  marked : Bool

/-- Fills the gap of a source: the failed ranges, then the missing ones. -/
def fillGap (run : RunWindow) (outcome : ℕ → Bool) (status : CollectionStatus)
    (gap : CollectionGap) : SourcePass :=
  let failedDone := gap.failedRanges.foldl (retryFailedRange outcome) ⟨status, [], false⟩
  let filling := gap.missingRanges.foldl (retryCollectionForRange outcome) failedDone
  if filling.sourceHasErrors then ⟨status, filling.status, filling.fetches, false⟩
  else ⟨status, filling.status.markCollectionComplete run, filling.fetches, true⟩

/-- A pass over a source: a source without a gap is marked complete as it is,
    except for the performance test. -/
def fillSource (run : RunWindow) (outcome : ℕ → Bool) (status : CollectionStatus) : SourcePass :=
  match detectGap run status with
  | some gap => fillGap run outcome status gap
  | none =>
    if status.isComplete ∨ status.sourceType = .performanceTest then ⟨status, status, [], false⟩
    else ⟨status, status.markCollectionComplete run, [], true⟩

/-- An analysis that checks the gaps of a run: the sources configured by then, and
    what becomes of the fetches for each source. -/
structure Analysis where
  /-- Whether a source is still configured. -/
  configured : SourceType → String → Bool
  /-- The outcome of the `n`th fetch for a source. -/
  outcome : SourceType → String → ℕ → Bool

/-- Drops the rows of sources no longer configured. -/
def removeOrphanedCollectionSources (analysis : Analysis) (statuses : List CollectionStatus) :
    List CollectionStatus :=
  statuses.filter fun s => analysis.configured s.sourceType s.sourceId

/-- Checks the rows of a run and fills their gaps. The rows of different sources
    do not depend on one another past the check that all are complete. -/
def checkAndFillMetricGaps (run : RunWindow) (analysis : Analysis)
    (statuses : List CollectionStatus) : List SourcePass :=
  let remaining := removeOrphanedCollectionSources analysis statuses
  if isCollectionComplete remaining then remaining.map fun s => ⟨s, s, [], false⟩
  else remaining.map fun s => fillSource run (analysis.outcome s.sourceType s.sourceId) s

/-! ## What filling a gap does -/

/-- What filling keeps: it is about the same source, logs the outcomes in turn and
    notes an error just when one failed. -/
structure Filling.Valid (outcome : ℕ → Bool) (status : CollectionStatus) (filling : Filling) :
    Prop where
  sourceType : filling.status.sourceType = status.sourceType
  sourceId : filling.status.sourceId = status.sourceId
  source : ∀ f ∈ filling.fetches, f.sourceType = status.sourceType ∧ f.sourceId = status.sourceId
  outcomes : filling.fetches.map Fetch.success = (List.range filling.fetches.length).map outcome
  errors : filling.sourceHasErrors = filling.fetches.any fun f => !f.success

theorem Filling.Valid.retry {outcome : ℕ → Bool} {status : CollectionStatus} {filling : Filling}
    (h : filling.Valid outcome status) (range : TimeRange) :
    (retryCollectionForRange outcome filling range).Valid outcome status where
  sourceType := by
    rw [retryCollectionForRange]
    dsimp only
    split <;> exact h.sourceType
  sourceId := by
    rw [retryCollectionForRange]
    dsimp only
    split <;> exact h.sourceId
  source f hf := by
    simp only [retryCollectionForRange, List.mem_append, List.mem_singleton] at hf
    rcases hf with hf | rfl
    · exact h.source f hf
    · exact ⟨h.sourceType, h.sourceId⟩
  outcomes := by
    simp [retryCollectionForRange, h.outcomes, List.range_succ]
  errors := by
    simp [retryCollectionForRange, h.errors]

/-- The attempts counted for a range. -/
def attemptsFor (range : TimeRange) (failed : List FailedRange) : ℕ :=
  ((failed.find? fun fr => fr.range = range).map FailedRange.attempts).getD 0

theorem attemptsFor_pruneCovered_le (range : TimeRange) (collected : List TimeRange)
    (failed : List FailedRange) :
    attemptsFor range (pruneCovered collected failed) ≤ attemptsFor range failed := by
  induction failed with
  | nil => simp [pruneCovered]
  | cons fr failed ih =>
    by_cases hr : fr.range = range
    · -- The entries of one range are pruned together.
      by_cases hcov : ∃ cr ∈ collected, cr.Includes range
      · have hnone : ∀ g ∈ pruneCovered collected (fr :: failed), g.range ≠ range := by
          intro g hg hgr
          simp only [pruneCovered, List.mem_filter, decide_eq_true_eq] at hg
          exact hg.2 (hgr ▸ hcov)
        have hfind : (pruneCovered collected (fr :: failed)).find? (fun g => g.range = range) =
            none := by simpa using hnone
        simp [attemptsFor, hfind]
      · have hkeep : pruneCovered collected (fr :: failed) =
            fr :: pruneCovered collected failed :=
          List.filter_cons_of_pos (by simpa [hr] using hcov)
        simp [hkeep, attemptsFor, hr]
    · have hsame : attemptsFor range (fr :: failed) = attemptsFor range failed := by
        simp [attemptsFor, hr]
      rw [hsame]
      refine le_trans (le_of_eq ?_) ih
      simp only [pruneCovered, List.filter_cons]
      split
      · simp [attemptsFor, hr]
      · rfl

theorem Filling.attempts_retry_le (outcome : ℕ → Bool) (filling : Filling)
    (range range' : TimeRange) :
    attemptsFor range' (retryCollectionForRange outcome filling range).status.failedRanges ≤
      attemptsFor range' filling.status.failedRanges := by
  rw [retryCollectionForRange]
  dsimp only
  split
  · exact attemptsFor_pruneCovered_le _ _ _
  · exact le_rfl

/-- Fetching ranges in turn: each is logged, and no attempt is ever counted. -/
theorem foldl_retry {outcome : ℕ → Bool} {status : CollectionStatus} (ranges : List TimeRange)
    {filling : Filling} (h : filling.Valid outcome status) :
    (ranges.foldl (retryCollectionForRange outcome) filling).Valid outcome status ∧
      (ranges.foldl (retryCollectionForRange outcome) filling).fetches.map Fetch.range =
        filling.fetches.map Fetch.range ++ ranges ∧
      ∀ range, attemptsFor range
          (ranges.foldl (retryCollectionForRange outcome) filling).status.failedRanges ≤
        attemptsFor range filling.status.failedRanges := by
  induction ranges generalizing filling with
  | nil => exact ⟨h, by simp, fun _ => le_rfl⟩
  | cons r ranges ih =>
    obtain ⟨hvalid, hlog, hattempts⟩ := ih (h.retry r)
    rw [List.foldl_cons]
    refine ⟨hvalid, ?_, fun range => (hattempts range).trans (filling.attempts_retry_le _ _ _)⟩
    rw [hlog]
    simp [retryCollectionForRange]

/-- Retrying failed ranges with attempts left is fetching them. -/
theorem foldl_retryFailedRange {outcome : ℕ → Bool} {failed : List FailedRange}
    (h : ∀ fr ∈ failed, fr.attempts < maxRetries) (filling : Filling) :
    failed.foldl (retryFailedRange outcome) filling =
      (failed.map FailedRange.range).foldl (retryCollectionForRange outcome) filling := by
  induction failed generalizing filling with
  | nil => rfl
  | cons fr failed ih =>
    rw [List.forall_mem_cons] at h
    rw [List.foldl_cons, List.map_cons, List.foldl_cons, ih h.2, retryFailedRange,
      if_neg (not_le.2 h.1)]

/-- The ranges a pass reports for a source. -/
def reported (run : RunWindow) (status : CollectionStatus) : List TimeRange :=
  match detectGap run status with
  | some gap => gap.failedRanges.map FailedRange.range ++ gap.missingRanges
  | none => []

/-- What a pass over a source does: it fetches the ranges it reports, in turn; no
    attempt is counted; and it marks the source complete unless a fetch failed. -/
structure SourcePass.Filled (run : RunWindow) (outcome : ℕ → Bool) (pass : SourcePass) : Prop where
  ranges : pass.fetches.map Fetch.range = reported run pass.before
  outcomes : pass.fetches.map Fetch.success = (List.range pass.fetches.length).map outcome
  source : ∀ f ∈ pass.fetches,
    f.sourceType = pass.before.sourceType ∧ f.sourceId = pass.before.sourceId
  attempts : ∀ range, attemptsFor range pass.after.failedRanges ≤
    attemptsFor range pass.before.failedRanges
  marked : pass.marked = true → ∀ f ∈ pass.fetches, f.success = true
  sameSource : pass.after.sourceType = pass.before.sourceType ∧
    pass.after.sourceId = pass.before.sourceId
  complete : (∀ f ∈ pass.fetches, f.success = true) →
    pass.before.sourceType ≠ .performanceTest → pass.after.isComplete = true

theorem attemptsFor_complete (range : TimeRange) (run : RunWindow) (status : CollectionStatus) :
    attemptsFor range (status.markCollectionComplete run).failedRanges = 0 := rfl

theorem fillSource_before (run : RunWindow) (outcome : ℕ → Bool) (status : CollectionStatus) :
    (fillSource run outcome status).before = status := by
  rw [fillSource]
  split
  · rw [fillGap]
    split <;> rfl
  · split <;> rfl

/-- The failed ranges of a gap have attempts left. -/
theorem detectGap_attempts {run : RunWindow} {status : CollectionStatus} {gap : CollectionGap}
    (hgap : detectGap run status = some gap) :
    ∀ fr ∈ gap.failedRanges, fr.attempts < maxRetries := by
  intro fr hfr
  rw [detectGap] at hgap
  split at hgap
  · split at hgap
    · cases hgap
    · dsimp only at hgap
      split at hgap
      · obtain rfl := Option.some.inj hgap
        simpa using (List.mem_filter.1 hfr).2
      · cases hgap
  · cases hgap

theorem fillGap_filled (run : RunWindow) (outcome : ℕ → Bool) {status : CollectionStatus}
    {gap : CollectionGap} (hgap : detectGap run status = some gap) :
    (fillGap run outcome status gap).Filled run outcome := by
  have hretriable := detectGap_attempts hgap
  have hstart : Filling.Valid outcome status ⟨status, [], false⟩ :=
    ⟨rfl, rfl, by simp, by simp, by simp⟩
  obtain ⟨hvalid, hlog, hattempts⟩ := foldl_retry
    (gap.failedRanges.map FailedRange.range ++ gap.missingRanges) hstart
  rw [List.foldl_append, ← foldl_retryFailedRange hretriable] at hvalid hlog hattempts
  rw [fillGap]
  split
  · rename_i herror
    refine ⟨by simp [hlog, reported, hgap], hvalid.outcomes, hvalid.source, hattempts, by simp,
      ⟨hvalid.sourceType, hvalid.sourceId⟩, fun hall => ?_⟩
    rw [hvalid.errors, List.any_eq_true] at herror
    obtain ⟨f, hf, hfailed⟩ := herror
    simp [hall f hf] at hfailed
  · rename_i hnone
    refine ⟨by simp [hlog, reported, hgap], hvalid.outcomes, hvalid.source, ?_, fun _ f hf => ?_,
      ⟨hvalid.sourceType, hvalid.sourceId⟩, fun _ _ => rfl⟩
    · intro range
      rw [attemptsFor_complete]
      exact Nat.zero_le _
    · rw [hvalid.errors] at hnone
      by_contra hfailed
      exact hnone (List.any_eq_true.2 ⟨f, hf, by simpa using hfailed⟩)

/-- A pass over a source fills its gap. -/
theorem fillSource_filled (run : RunWindow) (outcome : ℕ → Bool) (status : CollectionStatus) :
    (fillSource run outcome status).Filled run outcome := by
  rw [fillSource]
  split
  · rename_i gap hgap
    exact fillGap_filled run outcome hgap
  · rename_i hgap
    have hnone : reported run status = [] := by simp [reported, hgap]
    split
    · rename_i hdone
      exact ⟨by simp [hnone], by simp, by simp, fun _ => le_rfl, by simp, ⟨rfl, rfl⟩,
        fun _ hsource => hdone.resolve_right hsource⟩
    · exact ⟨by simp [hnone], by simp, by simp, fun _ => Nat.zero_le _, by simp, ⟨rfl, rfl⟩,
        fun _ _ => rfl⟩

/-! ## The retry cap -/

/-- The retry cap on a pass over a source: a failed range that used up its
    attempts is not fetched, a failed re-fetch counts an attempt, no instant is
    fetched twice, and the source is only marked complete if every range reported
    was fetched. -/
structure RetryCapKept (run : RunWindow) (pass : SourcePass) : Prop where
  exhausted : ∀ fr ∈ pass.before.failedRanges, maxRetries ≤ fr.attempts →
    ∀ f ∈ pass.fetches, fr.range.NoOverlap f.range
  counted : ∀ f ∈ pass.fetches, f.success = false →
    attemptsFor f.range pass.after.failedRanges = attemptsFor f.range pass.before.failedRanges +
      (pass.fetches.filter fun g => g.range = f.range ∧ g.success = false).length
  once : pass.fetches.Pairwise fun f g => f.range.NoOverlap g.range
  complete : pass.marked = true → ∀ r ∈ reported run pass.before,
    ∃ f ∈ pass.fetches, f.range = r ∧ f.success = true

/-- A row that a pass fills cleanly: its failed ranges hold no instant of the
    window that is missing, those with attempts left share none with another
    failed range, and its re-fetches succeed. -/
structure FillsCleanly (startTime endTime : ℤ) (outcome : ℕ → Bool) (status : CollectionStatus) :
    Prop where
  succeeds : ∀ n < (retriableFailedRanges status).length +
    (findMissingRanges startTime endTime status.collectedRanges).length, outcome n = true
  collected : ∀ fr ∈ status.failedRanges, ∀ t, startTime ≤ t → t < endTime →
    fr.range.Contains t → Accounted status.collectedRanges t
  apart : status.failedRanges.Pairwise fun a b =>
    a.attempts < maxRetries ∨ b.attempts < maxRetries → a.range.NoOverlap b.range

theorem reported_eq {startTime endTime : ℤ} {status : CollectionStatus}
    (hsource : status.sourceType ≠ .performanceTest) :
    reported ⟨some startTime, some endTime⟩ status =
      (retriableFailedRanges status).map FailedRange.range ++
        findMissingRanges startTime endTime status.collectedRanges := by
  rw [reported, detectGap]
  simp only [if_neg hsource]
  by_cases hgap : (findMissingRanges startTime endTime status.collectedRanges).length > 0 ∨
      (retriableFailedRanges status).length > 0
  · simp [if_pos hgap]
  · simp only [if_neg hgap]
    simp only [gt_iff_lt, List.length_pos_iff, not_or, not_not] at hgap
    simp [hgap.1, hgap.2]

/-- A fetch of a pass succeeded if its outcome was to. -/
theorem SourcePass.Filled.success_iff {run : RunWindow} {outcome : ℕ → Bool} {pass : SourcePass}
    (h : pass.Filled run outcome) :
    (∀ f ∈ pass.fetches, f.success = true) ↔
      ∀ n < (reported run pass.before).length, outcome n = true := by
  have hlen : (reported run pass.before).length = pass.fetches.length := by
    rw [← h.ranges, List.length_map]
  rw [hlen, ← List.forall_mem_map (f := Fetch.success) (P := fun b => b = true), h.outcomes,
    List.forall_mem_map]
  simp

/-- A failed re-fetch is never counted. -/
theorem SourcePass.Filled.not_counted {run : RunWindow} {outcome : ℕ → Bool} {pass : SourcePass}
    (h : pass.Filled run outcome) {f : Fetch} (hf : f ∈ pass.fetches) (hfailed : f.success = false) :
    attemptsFor f.range pass.after.failedRanges ≠ attemptsFor f.range pass.before.failedRanges +
      (pass.fetches.filter fun g => g.range = f.range ∧ g.success = false).length := by
  have hpos : 0 < (pass.fetches.filter fun g => g.range = f.range ∧ g.success = false).length :=
    List.length_pos_of_mem (List.mem_filter.2 ⟨hf, by simp [hfailed]⟩)
  have hle := h.attempts f.range
  omega

section Cap

variable {startTime endTime : ℤ} (hwindow : startTime < endTime)
include hwindow

/-- The ranges reported for a row that is filled cleanly do not overlap one
    another, nor a failed range that used up its attempts. -/
theorem FillsCleanly.reported_apart {outcome : ℕ → Bool} {status : CollectionStatus}
    (h : FillsCleanly startTime endTime outcome status)
    (hord : ∀ r ∈ status.collectedRanges, r.Ordered)
    (hsource : status.sourceType ≠ .performanceTest) :
    (reported ⟨some startTime, some endTime⟩ status).Pairwise NoOverlap ∧
      ∀ fr ∈ status.failedRanges, maxRetries ≤ fr.attempts →
        ∀ r ∈ reported ⟨some startTime, some endTime⟩ status, fr.range.NoOverlap r := by
  -- A failed range holds no missing instant, whatever its attempts.
  have hmissing : ∀ fr ∈ status.failedRanges,
      ∀ r ∈ findMissingRanges startTime endTime status.collectedRanges, fr.range.NoOverlap r := by
    rintro fr hfr r hr t ⟨hfrt, hrt⟩
    obtain ⟨h₁, h₂, h₃⟩ := (covered_findMissingRanges hord t).1 ⟨r, hr, hrt⟩
    exact h₃ (h.collected fr hfr t h₁ h₂ hfrt)
  rw [reported_eq hsource]
  refine ⟨List.pairwise_append.2 ⟨?_, ?_, ?_⟩, fun fr hfr hattempts r hr => ?_⟩
  · rw [List.pairwise_map, retriableFailedRanges, List.pairwise_filter]
    exact h.apart.imp fun hab ha _ => hab (.inl (by simpa using ha))
  · exact (findMissingRanges_inOrder hwindow hord).1.imp noOverlap_of_inOrder
  · intro a ha r hr
    obtain ⟨fr, hfr, rfl⟩ := List.mem_map.1 ha
    exact hmissing fr (List.mem_filter.1 hfr).1 r hr
  · rcases List.mem_append.1 hr with hr | hr
    · obtain ⟨fr', hfr', rfl⟩ := List.mem_map.1 hr
      obtain ⟨hmem, hleft⟩ := List.mem_filter.1 hfr'
      have hleft : fr'.attempts < maxRetries := by simpa using hleft
      have hne : fr ≠ fr' := fun heq => absurd hattempts (not_le.2 (heq ▸ hleft))
      have hsymm : Std.Symm fun a b : FailedRange =>
          a.attempts < maxRetries ∨ b.attempts < maxRetries → a.range.NoOverlap b.range :=
        ⟨fun _ _ hab hor => (hab hor.symm).symm⟩
      exact h.apart.forall hfr hmem hne (.inr hleft)
    · exact hmissing fr hfr r hr

/-- A pass over a row keeps the retry cap if and only if it fills the row cleanly. -/
theorem retryCapKept_iff (outcome : ℕ → Bool) {status : CollectionStatus}
    (hord : ∀ r ∈ status.collectedRanges, r.Ordered)
    (hsource : status.sourceType ≠ .performanceTest) :
    RetryCapKept ⟨some startTime, some endTime⟩
        (fillSource ⟨some startTime, some endTime⟩ outcome status) ↔
      FillsCleanly startTime endTime outcome status := by
  have hfilled := fillSource_filled ⟨some startTime, some endTime⟩ outcome status
  have hbefore := fillSource_before ⟨some startTime, some endTime⟩ outcome status
  have hranges := hfilled.ranges
  have hsuccess := hfilled.success_iff
  rw [hbefore] at hranges hsuccess
  have hlength : (reported ⟨some startTime, some endTime⟩ status).length =
      (retriableFailedRanges status).length +
        (findMissingRanges startTime endTime status.collectedRanges).length := by
    simp [reported_eq hsource]
  have hfetched : ∀ r ∈ reported ⟨some startTime, some endTime⟩ status,
      ∃ f ∈ (fillSource ⟨some startTime, some endTime⟩ outcome status).fetches, f.range = r :=
    fun r hr => by
      rw [← hranges] at hr
      obtain ⟨f, hf, rfl⟩ := List.mem_map.1 hr
      exact ⟨f, hf, rfl⟩
  constructor
  · intro hkept
    have honce : (reported ⟨some startTime, some endTime⟩ status).Pairwise NoOverlap := by
      rw [← hranges, List.pairwise_map]
      exact hkept.once
    have hexhausted : ∀ fr ∈ status.failedRanges, maxRetries ≤ fr.attempts →
        ∀ r ∈ reported ⟨some startTime, some endTime⟩ status, fr.range.NoOverlap r := by
      intro fr hfr hattempts r hr
      obtain ⟨f, hf, rfl⟩ := hfetched r hr
      exact hkept.exhausted fr (by rwa [hbefore]) hattempts f hf
    rw [reported_eq hsource] at honce hexhausted
    obtain ⟨hretriable, -, hacross⟩ := List.pairwise_append.1 honce
    rw [List.pairwise_map, retriableFailedRanges, List.pairwise_filter] at hretriable
    refine ⟨?_, fun fr hfr t h₁ h₂ hfrt => ?_, ?_⟩
    · rw [← hlength]
      refine hsuccess.1 fun f hf => ?_
      by_contra hfailed
      rw [Bool.not_eq_true] at hfailed
      exact hfilled.not_counted hf hfailed (hkept.counted f hf hfailed)
    · -- A missing instant of a failed range is fetched with it, or in spite of it.
      by_contra hnot
      obtain ⟨r, hr, hrt⟩ := (covered_findMissingRanges hord t).2 ⟨h₁, h₂, hnot⟩
      by_cases hattempts : fr.attempts < maxRetries
      · have hmem : fr ∈ retriableFailedRanges status :=
          List.mem_filter.2 ⟨hfr, by simpa using hattempts⟩
        exact hacross _ (List.mem_map_of_mem hmem) r hr t ⟨hfrt, hrt⟩
      · exact hexhausted fr hfr (not_lt.1 hattempts) r (List.mem_append_right _ hr) t ⟨hfrt, hrt⟩
    · have hmem : ∀ fr ∈ status.failedRanges, fr.attempts < maxRetries → fr.range ∈
          (retriableFailedRanges status).map FailedRange.range ++
            findMissingRanges startTime endTime status.collectedRanges :=
        fun fr hfr hattempts => List.mem_append_left _
          (List.mem_map_of_mem (List.mem_filter.2 ⟨hfr, by simpa using hattempts⟩))
      refine hretriable.imp_of_mem fun {a b} ha hb hab hor => ?_
      by_cases haa : a.attempts < maxRetries
      · by_cases hbb : b.attempts < maxRetries
        · exact hab (by simpa using haa) (by simpa using hbb)
        · exact (hexhausted b hb (not_lt.1 hbb) _ (hmem a ha haa)).symm
      · exact hexhausted a ha (not_lt.1 haa) _ (hmem b hb (hor.resolve_left haa))
  · intro hclean
    obtain ⟨hpair, hexhausted⟩ := hclean.reported_apart hwindow hord hsource
    have hall := hsuccess.2 fun n hn => hclean.succeeds n (hlength ▸ hn)
    refine ⟨?_, fun f hf hfailed => ?_, ?_, fun _ r hr => ?_⟩
    · intro fr hfr hattempts f hf
      rw [hbefore] at hfr
      refine hexhausted fr hfr hattempts f.range ?_
      rw [← hranges]
      exact List.mem_map_of_mem hf
    · rw [hall f hf] at hfailed
      cases hfailed
    · rw [← hranges, List.pairwise_map] at hpair
      exact hpair
    · rw [hbefore] at hr
      obtain ⟨f, hf, hfr⟩ := hfetched r hr
      exact ⟨f, hf, hfr, hall f hf⟩

end Cap

/-! ## Successive passes -/

/-- The source of a row, unique among the rows of a run. -/
def CollectionStatus.source (status : CollectionStatus) : SourceType × String :=
  (status.sourceType, status.sourceId)

/-- The ranges of a row run forward. -/
structure RowOrdered (status : CollectionStatus) : Prop where
  collected : ∀ r ∈ status.collectedRanges, r.Ordered
  failed : ∀ fr ∈ status.failedRanges, fr.range.Ordered

instance (status : CollectionStatus) : Decidable (RowOrdered status) :=
  decidable_of_iff ((∀ r ∈ status.collectedRanges, r.Ordered) ∧
    ∀ fr ∈ status.failedRanges, fr.range.Ordered)
    ⟨fun ⟨h₁, h₂⟩ => ⟨h₁, h₂⟩, fun ⟨h₁, h₂⟩ => ⟨h₁, h₂⟩⟩

/-- The rows of a run: one a source, with ranges that run forward. -/
structure WellFormed (statuses : List CollectionStatus) : Prop where
  ordered : ∀ s ∈ statuses, RowOrdered s
  unique : (statuses.map CollectionStatus.source).Nodup

theorem RowOrdered.updateCollectedRanges {status : CollectionStatus} (h : RowOrdered status)
    {range : TimeRange} (hrange : range.Ordered) :
    RowOrdered (status.updateCollectedRanges range) where
  collected r hr := by
    rcases List.mem_append.1 hr with hr | hr
    · exact h.collected r hr
    · exact List.mem_singleton.1 hr ▸ hrange
  failed fr hfr := h.failed fr (List.mem_filter.1 hfr).1

theorem RowOrdered.foldl_retry {outcome : ℕ → Bool} {ranges : List TimeRange} {filling : Filling}
    (h : RowOrdered filling.status) (hranges : ∀ r ∈ ranges, r.Ordered) :
    RowOrdered (ranges.foldl (retryCollectionForRange outcome) filling).status := by
  induction ranges generalizing filling with
  | nil => exact h
  | cons r ranges ih =>
    rw [List.forall_mem_cons] at hranges
    refine ih ?_ hranges.2
    rw [retryCollectionForRange]
    dsimp only
    split
    · exact h.updateCollectedRanges hranges.1
    · exact h

section Runs

variable {startTime endTime : ℤ} (hwindow : startTime < endTime)
include hwindow

theorem RowOrdered.markCollectionComplete {status : CollectionStatus} (h : RowOrdered status) :
    RowOrdered (status.markCollectionComplete ⟨some startTime, some endTime⟩) where
  collected r hr := by
    cases hread : status.collectedRanges with
    | nil =>
      simp only [CollectionStatus.markCollectionComplete, completeFrom, hread,
        List.mem_singleton] at hr
      exact hr ▸ hwindow.le
    | cons c cs =>
      simp only [CollectionStatus.markCollectionComplete, completeFrom, hread] at hr
      exact h.collected r (hread ▸ hr)
  failed fr hfr := by cases hfr

theorem detectGap_ordered {status : CollectionStatus} (h : RowOrdered status)
    {gap : CollectionGap} (hgap : detectGap ⟨some startTime, some endTime⟩ status = some gap) :
    (∀ fr ∈ gap.failedRanges, fr.range.Ordered) ∧ ∀ r ∈ gap.missingRanges, r.Ordered := by
  simp only [detectGap] at hgap
  split at hgap
  · cases hgap
  split at hgap
  · obtain rfl := Option.some.inj hgap
    refine ⟨fun fr hfr => ?_, fun r hr => ?_⟩
    · exact h.failed fr (List.mem_filter.1 hfr).1
    · exact ((findMissingRanges_inOrder hwindow h.collected).2 r hr).2.1.le
  · cases hgap

theorem RowOrdered.fillSource {outcome : ℕ → Bool} {status : CollectionStatus}
    (h : RowOrdered status) :
    RowOrdered (fillSource ⟨some startTime, some endTime⟩ outcome status).after := by
  rw [Perfana.fillSource]
  split
  · rename_i gap hgap
    obtain ⟨hfailed, hmissing⟩ := detectGap_ordered hwindow h hgap
    have hdone : RowOrdered (gap.missingRanges.foldl (retryCollectionForRange outcome)
        (gap.failedRanges.foldl (retryFailedRange outcome) ⟨status, [], false⟩)).status := by
      rw [foldl_retryFailedRange (detectGap_attempts hgap)]
      refine RowOrdered.foldl_retry (RowOrdered.foldl_retry h fun r hr => ?_) hmissing
      obtain ⟨fr, hfr, rfl⟩ := List.mem_map.1 hr
      exact hfailed fr hfr
    rw [fillGap]
    split
    · exact hdone
    · exact hdone.markCollectionComplete hwindow
  · split
    · exact h
    · exact h.markCollectionComplete hwindow

end Runs

/-- The rows of a run, and everything fetched to fill their gaps. -/
structure GapFilling where
  /-- The rows. -/
  statuses : List CollectionStatus
  /-- The fetches so far. -/
  fetches : List Fetch

/-- An analysis checks and fills the gaps of the run. -/
def analyse (run : RunWindow) (s : GapFilling) (analysis : Analysis) : Option GapFilling :=
  let passes := checkAndFillMetricGaps run analysis s.statuses
  some ⟨passes.map SourcePass.after, s.fetches ++ passes.flatMap SourcePass.fetches⟩

/-- An analysis fills the gaps cleanly: either there is nothing to do, or every
    row it looks at is filled cleanly. -/
def CleanAnalysis (startTime endTime : ℤ) (s : GapFilling) (analysis : Analysis) : Prop :=
  isCollectionComplete (removeOrphanedCollectionSources analysis s.statuses) = true ∨
    ∀ status ∈ removeOrphanedCollectionSources analysis s.statuses,
      status.sourceType ≠ .performanceTest →
      FillsCleanly startTime endTime (analysis.outcome status.sourceType status.sourceId) status

/-- Two fetches for one source share no instant. -/
def Fetch.Apart (f g : Fetch) : Prop :=
  f.sourceType = g.sourceType → f.sourceId = g.sourceId → f.range.NoOverlap g.range

/-- A pass over the performance test does nothing. -/
theorem fillSource_performanceTest (run : RunWindow) (outcome : ℕ → Bool)
    {status : CollectionStatus} (h : status.sourceType = .performanceTest) :
    fillSource run outcome status = ⟨status, status, [], false⟩ := by
  have hgap : detectGap run status = none := by
    rw [detectGap]
    split
    · rw [if_pos h]
    · rfl
  rw [fillSource, hgap]
  simp [h]

/-- A pass that does nothing keeps the cap. -/
theorem retryCapKept_skipped (run : RunWindow) (status : CollectionStatus) :
    RetryCapKept run ⟨status, status, [], false⟩ :=
  ⟨by simp, by simp, by simp, by simp⟩

/-- The passes of an analysis keep the cap if and only if it fills the gaps cleanly. -/
theorem analysis_retryCapKept_iff {startTime endTime : ℤ} (hwindow : startTime < endTime)
    {s : GapFilling} (hwf : WellFormed s.statuses) (analysis : Analysis) :
    (∀ pass ∈ checkAndFillMetricGaps ⟨some startTime, some endTime⟩ analysis s.statuses,
        RetryCapKept ⟨some startTime, some endTime⟩ pass) ↔
      CleanAnalysis startTime endTime s analysis := by
  rw [checkAndFillMetricGaps, CleanAnalysis]
  split
  · rename_i hcomplete
    simp only [hcomplete, true_or, iff_true, List.forall_mem_map]
    exact fun status _ => retryCapKept_skipped _ _
  · rename_i hcomplete
    simp only [hcomplete, Bool.false_eq_true, false_or, List.forall_mem_map]
    refine forall₂_congr fun status hstatus => ?_
    by_cases hsource : status.sourceType = .performanceTest
    · simp [hsource, fillSource_performanceTest, retryCapKept_skipped]
    · rw [retryCapKept_iff hwindow _ (hwf.ordered status (List.mem_filter.1 hstatus).1).collected
        hsource]
      simp [hsource]

/-- Along a run of analyses, the rows stay well formed. -/
theorem wellFormed_analyse {startTime endTime : ℤ} (hwindow : startTime < endTime)
    {s s' : GapFilling} {analysis : Analysis} (hwf : WellFormed s.statuses)
    (hstep : analyse ⟨some startTime, some endTime⟩ s analysis = some s') :
    WellFormed s'.statuses := by
  obtain rfl := Option.some.inj hstep
  have hkeep : WellFormed (removeOrphanedCollectionSources analysis s.statuses) :=
    ⟨fun status hstatus => hwf.ordered status (List.mem_filter.1 hstatus).1,
      hwf.unique.sublist (List.filter_sublist.map _)⟩
  rw [checkAndFillMetricGaps]
  split
  · simpa [Function.comp_def] using hkeep
  · refine ⟨?_, ?_⟩
    · simp only [List.map_map, List.forall_mem_map, Function.comp_apply]
      exact fun status hstatus => (hkeep.ordered status hstatus).fillSource hwindow
    · have hsame : ∀ status : CollectionStatus, (fillSource ⟨some startTime, some endTime⟩
          (analysis.outcome status.sourceType status.sourceId) status).after.source =
          status.source := fun status => by
        have hfilled := fillSource_filled ⟨some startTime, some endTime⟩
          (analysis.outcome status.sourceType status.sourceId) status
        rw [CollectionStatus.source, hfilled.sameSource.1, hfilled.sameSource.2,
          fillSource_before]
        rfl
      simpa [Function.comp_def, hsame] using hkeep.unique

/-- Every source that counts is complete. -/
def AllComplete (statuses : List CollectionStatus) : Prop :=
  ∀ s ∈ statuses, s.sourceType ≠ .performanceTest → s.isComplete = true

/-- An analysis with nothing to complete fetches nothing. -/
theorem fetches_of_allComplete {run : RunWindow} {analysis : Analysis}
    {statuses : List CollectionStatus} (h : AllComplete statuses) :
    checkAndFillMetricGaps run analysis statuses =
      (removeOrphanedCollectionSources analysis statuses).map fun s => ⟨s, s, [], false⟩ := by
  rw [checkAndFillMetricGaps]
  split
  · rfl
  · rename_i hcomplete
    -- Nothing left to complete, and yet not complete: no row is left.
    have hnone : removeOrphanedCollectionSources analysis statuses = [] := by
      by_contra hne
      refine hcomplete ?_
      simp only [isCollectionComplete, hne, ne_eq, not_false_eq_true, decide_true, Bool.true_and,
        List.all_eq_true]
      intro s hs
      obtain ⟨hs, hsource⟩ := List.mem_filter.1 hs
      exact h s (List.mem_filter.1 hs).1 (by simpa using hsource)
    simp [hnone]

/-- The fetches of a clean analysis lie apart, and leave every source complete. -/
theorem cleanAnalysis_once {startTime endTime : ℤ} (hwindow : startTime < endTime)
    {s : GapFilling} (hwf : WellFormed s.statuses) {analysis : Analysis}
    (hclean : CleanAnalysis startTime endTime s analysis) :
    ((checkAndFillMetricGaps ⟨some startTime, some endTime⟩ analysis s.statuses).flatMap
        SourcePass.fetches).Pairwise Fetch.Apart ∧
      AllComplete ((checkAndFillMetricGaps ⟨some startTime, some endTime⟩ analysis
        s.statuses).map SourcePass.after) := by
  have hkept := (analysis_retryCapKept_iff hwindow hwf analysis).2 hclean
  rw [checkAndFillMetricGaps] at hkept ⊢
  split
  · rename_i hcomplete
    refine ⟨by rw [List.flatMap_map, List.flatMap_eq_nil_iff.2 fun _ _ => rfl]; exact .nil, ?_⟩
    simp only [isCollectionComplete, Bool.and_eq_true, List.all_eq_true] at hcomplete
    simp only [AllComplete, List.map_map, List.forall_mem_map, Function.comp_apply]
    exact fun status hstatus hsource =>
      hcomplete.2 status (List.mem_filter.2 ⟨hstatus, by simpa using hsource⟩)
  · rename_i hcomplete
    rw [if_neg hcomplete] at hkept
    have hfilled : ∀ status : CollectionStatus,
        (fillSource ⟨some startTime, some endTime⟩
          (analysis.outcome status.sourceType status.sourceId) status).Filled
            ⟨some startTime, some endTime⟩ (analysis.outcome status.sourceType status.sourceId) :=
      fun status => fillSource_filled _ _ status
    refine ⟨?_, ?_⟩
    · -- Within a source the cap keeps fetches apart; across sources there is nothing to show.
      rw [List.flatMap_map, List.pairwise_flatMap]
      refine ⟨fun status hstatus => ?_, ?_⟩
      · exact (hkept _ (List.mem_map_of_mem hstatus)).once.imp fun hfg _ _ => hfg
      · have hunique : (removeOrphanedCollectionSources analysis s.statuses).Pairwise
            fun a b => a.source ≠ b.source :=
          List.pairwise_map.1 (hwf.unique.sublist (List.filter_sublist.map _))
        refine hunique.imp fun {a b} hab f hf g hg htype hid => absurd ?_ hab
        have hfa := (hfilled a).source f hf
        have hgb := (hfilled b).source g hg
        rw [fillSource_before] at hfa hgb
        rw [CollectionStatus.source, CollectionStatus.source, ← hfa.1, ← hfa.2, ← hgb.1, ← hgb.2,
          htype, hid]
    · simp only [AllComplete, List.map_map, List.forall_mem_map, Function.comp_apply]
      intro status hstatus hsource
      rw [(hfilled status).sameSource.1, fillSource_before] at hsource
      refine (hfilled status).complete ?_ (by rwa [fillSource_before])
      have hrows := (hclean.resolve_left hcomplete) status hstatus hsource
      refine (hfilled status).success_iff.2 fun n hn => hrows.succeeds n ?_
      rwa [fillSource_before, reported_eq hsource, List.length_append, List.length_map] at hn

/-- The retry cap over any number of analyses of a run: each analysis keeps it if
    and only if it fills the gaps cleanly, whatever the analyses before it; and
    if all did, no instant of a source was fetched twice. -/
theorem run_retryCap {startTime endTime : ℤ} (hwindow : startTime < endTime)
    {statuses : List CollectionStatus} (hwf : WellFormed statuses) :
    (∀ es s, Run (analyse ⟨some startTime, some endTime⟩) (fun _ _ => True) ⟨statuses, []⟩ es s →
      ∀ analysis : Analysis,
        (∀ pass ∈ checkAndFillMetricGaps ⟨some startTime, some endTime⟩ analysis s.statuses,
          RetryCapKept ⟨some startTime, some endTime⟩ pass) ↔
        CleanAnalysis startTime endTime s analysis) ∧
    ∀ es s, Run (analyse ⟨some startTime, some endTime⟩) (CleanAnalysis startTime endTime)
        ⟨statuses, []⟩ es s → s.fetches.Pairwise Fetch.Apart := by
  refine ⟨fun es s hrun => ?_, fun es s hrun => ?_⟩
  · let Inv := fun (_ : List Analysis) (s : GapFilling) => WellFormed s.statuses
    have hinit : Inv [] ⟨statuses, []⟩ := hwf
    have hwf' : Inv es s := hrun.invariant hinit
      fun _ _ _ _ hs _ hstep => wellFormed_analyse hwindow hs hstep
    exact analysis_retryCapKept_iff hwindow hwf'
  · -- Once something was fetched, every source is complete, and nothing is fetched again.
    let Inv := fun (_ : List Analysis) (s : GapFilling) => WellFormed s.statuses ∧
      s.fetches.Pairwise Fetch.Apart ∧ (s.fetches = [] ∨ AllComplete s.statuses)
    have hinit : Inv [] ⟨statuses, []⟩ := ⟨hwf, .nil, .inl rfl⟩
    have hinv : Inv es s := by
      refine hrun.invariant hinit ?_
      rintro es s analysis s' ⟨hs, hapart, hdone⟩ hclean hstep
      refine ⟨wellFormed_analyse hwindow hs hstep, ?_⟩
      obtain rfl := Option.some.inj hstep
      rcases hdone with hnone | hcomplete
      · obtain ⟨honce, hafter⟩ := cleanAnalysis_once hwindow hs hclean
        simp only [hnone, List.nil_append]
        exact ⟨honce, .inr hafter⟩
      · simp only [fetches_of_allComplete hcomplete, List.flatMap_map, List.map_map]
        rw [List.flatMap_eq_nil_iff.2 fun _ _ => rfl, List.append_nil]
        refine ⟨hapart, .inr ?_⟩
        simp only [AllComplete, List.forall_mem_map, Function.comp_apply]
        exact fun status hstatus => hcomplete status (List.mem_filter.1 hstatus).1
    exact hinv.2.1

/-- A source of which the second minute was never collected. -/
def halfCollected : CollectionStatus :=
  { CollectionStatus.fresh .grafana "default" with collectedRanges := [⟨0, 60000⟩] }

/-- An analysis that fetches the second minute keeps the retry cap if it fills the
    gap cleanly. -/
theorem run_retryCap_halfCollected :
    (∀ pass ∈ checkAndFillMetricGaps ⟨some 0, some 120000⟩ ⟨fun _ _ => true, fun _ _ _ => true⟩
        [halfCollected], RetryCapKept ⟨some 0, some 120000⟩ pass) ↔
      CleanAnalysis 0 120000 ⟨[halfCollected], []⟩ ⟨fun _ _ => true, fun _ _ _ => true⟩ :=
  have hwf : WellFormed [halfCollected] := ⟨by decide, by decide⟩
  (run_retryCap (by decide) hwf).1 [] _ .start _

/-- The same source, its second minute having failed five times. -/
def givenUp : CollectionStatus :=
  { halfCollected with failedRanges := [⟨⟨60000, 120000⟩, 5, "timeout"⟩] }

/-- An analysis all of whose fetches fail. -/
def failingAnalysis : Analysis where
  configured _ _ := true
  outcome _ _ _ := false

/-- A range that failed five times is fetched again as a missing range, and its
    failure is not counted. -/
theorem checkAndFillMetricGaps_refetches :
    ∃ pass ∈ checkAndFillMetricGaps ⟨some 0, some 120000⟩ failingAnalysis [givenUp],
      (⟨.grafana, "default", ⟨60000, 120000⟩, false⟩ : Fetch) ∈ pass.fetches ∧
      pass.after.failedRanges = givenUp.failedRanges ∧
      ¬RetryCapKept ⟨some 0, some 120000⟩ pass := by
  refine ⟨_, List.mem_cons_self, by decide, by decide, fun hkept => ?_⟩
  have hapart := hkept.exhausted ⟨⟨60000, 120000⟩, 5, "timeout"⟩ (by decide) (by decide)
    ⟨.grafana, "default", ⟨60000, 120000⟩, false⟩ (by decide)
  exact hapart 60000 (by decide)

end Perfana
