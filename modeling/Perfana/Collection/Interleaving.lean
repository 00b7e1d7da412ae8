import Perfana.Collection.Status
import Perfana.Lib.Run

/-!
# Concurrent bookkeeping of a collection

The incremental worker and the gap filler update the status row of a source at
the same time. Appending a collected range is one statement; recording a failure
and marking the collection complete read the row and write it back later, and
other statements may come in between. The system below interleaves any number of
such calls, a statement a step.

* `BookkeepingKept`: what the row should say, given the statements so far;
* `run_bookkeepingKept`: it says so along every run in which no write-back is
  based on a stale read, and no failure is recorded for a range that is covered
  (`Undisturbed`);
* `writeBack_resurrects`: a stale write-back brings back a failed range that was
  pruned in between.
-/

namespace Perfana

/-- A range lies in one of the collected ranges: the test of `updateCollectedRanges`. -/
def CoveredBy (collected : List TimeRange) (range : TimeRange) : Prop :=
  ∃ cr ∈ collected, cr.Includes range

instance (collected : List TimeRange) (range : TimeRange) :
    Decidable (CoveredBy collected range) := inferInstanceAs (Decidable (∃ cr ∈ collected, _))

theorem CoveredBy.mono {collected collected' : List TimeRange} {range : TimeRange}
    (hsub : ∀ cr ∈ collected, cr ∈ collected') (h : CoveredBy collected range) :
    CoveredBy collected' range := by
  obtain ⟨cr, hcr, hrange⟩ := h
  exact ⟨cr, hsub cr hcr, hrange⟩

theorem mem_pruneCovered {collected : List TimeRange} {failed : List FailedRange}
    {fr : FailedRange} : fr ∈ CollectionStatus.pruneCovered collected failed ↔
      fr ∈ failed ∧ ¬CoveredBy collected fr.range := by
  simp [CollectionStatus.pruneCovered, CoveredBy]

/-! ## Merging a failure -/

section Merge

variable {range : TimeRange} {error : String} {failed : List FailedRange}

/-- An entry after merging a failure of `range`: an entry for another range, or
    the entry for `range` with one more attempt. -/
theorem mem_mergeFailedRange (hnodup : (failed.map FailedRange.range).Nodup) {fr : FailedRange}
    (h : fr ∈ CollectionStatus.mergeFailedRange range error failed) :
    (fr ∈ failed ∧ fr.range ≠ range) ∨ (fr.range = range ∧
      ((∃ old ∈ failed, old.range = range ∧ fr.attempts = old.attempts + 1) ∨
        ((∀ old ∈ failed, old.range ≠ range) ∧ fr.attempts = 1))) := by
  induction failed with
  | nil =>
    obtain rfl := List.mem_singleton.1 h
    exact .inr ⟨rfl, .inr ⟨by simp, rfl⟩⟩
  | cons a failed ih =>
    rw [List.map_cons, List.nodup_cons] at hnodup
    rw [CollectionStatus.mergeFailedRange] at h
    split at h
    · rename_i ha
      rcases List.mem_cons.1 h with rfl | h
      · exact .inr ⟨rfl, .inl ⟨a, by simp, ha, rfl⟩⟩
      · -- The entries are distinct: the others are for other ranges.
        refine .inl ⟨by simp [h], fun hfr => hnodup.1 ?_⟩
        rw [ha, ← hfr]
        exact List.mem_map_of_mem h
    · rename_i ha
      rcases List.mem_cons.1 h with rfl | h
      · exact .inl ⟨by simp, ha⟩
      · rcases ih hnodup.2 h with ⟨hmem, hne⟩ | ⟨hfr, ⟨old, hold, hr⟩ | ⟨hnone, hone⟩⟩
        · exact .inl ⟨by simp [hmem], hne⟩
        · exact .inr ⟨hfr, .inl ⟨old, by simp [hold], hr⟩⟩
        · exact .inr ⟨hfr, .inr ⟨by simpa [ha] using hnone, hone⟩⟩

/-- The entries for other ranges are kept. -/
theorem mem_mergeFailedRange_of_ne {fr : FailedRange} (hfr : fr ∈ failed)
    (hne : fr.range ≠ range) : fr ∈ CollectionStatus.mergeFailedRange range error failed := by
  induction failed with
  | nil => cases hfr
  | cons a failed ih =>
    rw [CollectionStatus.mergeFailedRange]
    split
    · rename_i ha
      rcases List.mem_cons.1 hfr with rfl | hfr
      · exact absurd ha hne
      · simp [hfr]
    · rcases List.mem_cons.1 hfr with rfl | hfr
      · simp
      · simp [ih hfr]

/-- There is an entry for the range. -/
theorem exists_mem_mergeFailedRange (range : TimeRange) (error : String)
    (failed : List FailedRange) :
    ∃ fr ∈ CollectionStatus.mergeFailedRange range error failed, fr.range = range := by
  induction failed with
  | nil => exact ⟨_, List.mem_singleton.2 rfl, rfl⟩
  | cons a failed ih =>
    rw [CollectionStatus.mergeFailedRange]
    split
    · exact ⟨_, List.mem_cons_self, rfl⟩
    · obtain ⟨fr, hfr, hrange⟩ := ih
      exact ⟨fr, by simp [hfr], hrange⟩

theorem nodup_mergeFailedRange (hnodup : (failed.map FailedRange.range).Nodup) :
    ((CollectionStatus.mergeFailedRange range error failed).map FailedRange.range).Nodup := by
  induction failed with
  | nil => simp [CollectionStatus.mergeFailedRange]
  | cons a failed ih =>
    have hcons := hnodup
    rw [List.map_cons, List.nodup_cons] at hcons
    rw [CollectionStatus.mergeFailedRange]
    split
    · rename_i ha
      rw [List.map_cons, ← ha, List.nodup_cons]
      exact hcons
    · rename_i ha
      rw [List.map_cons, List.nodup_cons]
      refine ⟨fun hmem => ?_, ih hcons.2⟩
      obtain ⟨fr, hfr, hrange⟩ := List.mem_map.1 hmem
      rcases mem_mergeFailedRange hcons.2 hfr with ⟨hfr, -⟩ | ⟨hfr, -⟩
      · exact hcons.1 (hrange ▸ List.mem_map_of_mem hfr)
      · exact ha (hrange.symm.trans hfr)

end Merge

/-! ## The system -/

/-- A call in flight, with what it read. -/
inductive Call
  /-- `recordFailedRange` that has made sure that the row exists. -/
  | recordInserted (range : TimeRange) (error : String)
  /-- `recordFailedRange` that has read the failed ranges. -/
  | recordRead (range : TimeRange) (error : String) (failed : List FailedRange)
  /-- `markCollectionComplete` that has read the row. -/
  | completeRead (collected : List TimeRange)
  deriving DecidableEq

/-- The row of the source, if it exists, and the calls in flight. -/
structure Bookkeeping where
  row : Option CollectionStatus
  /-- The calls in flight. -/
  calls : List Call
  deriving DecidableEq

/-- A statement sent to the database. -/
inductive Statement
  /-- `updateCollectedRanges`: append and prune. -/
  | updateCollectedRanges (newRange : TimeRange)
  /-- `recordFailedRange`: insert the row unless it exists. -/
  | recordInsert (range : TimeRange) (error : String)
  /-- `recordFailedRange`: read the row. -/
  | recordRead (range : TimeRange) (error : String)
  /-- `recordFailedRange`: write the failed ranges back, merged with those read. -/
  | recordWrite (range : TimeRange) (error : String) (failed : List FailedRange)
  /-- `markCollectionComplete`: read the row. -/
  | completeRead
  /-- `markCollectionComplete`: write. -/
  | completeWrite (collected : List TimeRange)
  deriving DecidableEq

namespace Bookkeeping

variable (sourceType : SourceType) (sourceId : String) (run : RunWindow)

/-- The row, inserted if need be. -/
def status (s : Bookkeeping) : CollectionStatus :=
  s.row.getD (.fresh sourceType sourceId)

/-- A statement of one of the calls on the row. Statements of a call come in
    order; a read of a missing row throws, and ends its call. -/
def step (s : Bookkeeping) : Statement → Option Bookkeeping
  | .updateCollectedRanges newRange =>
    some { s with row := some ((s.status sourceType sourceId).updateCollectedRanges newRange) }
  | .recordInsert range error =>
    some { row := some (s.status sourceType sourceId)
           calls := .recordInserted range error :: s.calls }
  | .recordRead range error =>
    if .recordInserted range error ∈ s.calls then
      let calls := s.calls.erase (.recordInserted range error)
      match s.row with
      | some status => some { s with calls := .recordRead range error status.failedRanges :: calls }
      | none => some { s with calls := calls }
    else none
  | .recordWrite range error failed =>
    if .recordRead range error failed ∈ s.calls then
      some { row := s.row.map fun status =>
               status.writeFailedRanges (CollectionStatus.mergeFailedRange range error failed)
             calls := s.calls.erase (.recordRead range error failed) }
    else none
  | .completeRead =>
    match s.row with
    | some status => some { s with calls := .completeRead status.collectedRanges :: s.calls }
    | none => some s
  | .completeWrite collected =>
    if .completeRead collected ∈ s.calls then
      some { row := s.row.map (CollectionStatus.completeFrom collected run)
             calls := s.calls.erase (.completeRead collected) }
    else none

/-! ## What the row should say -/

/-- The ranges passed to `updateCollectedRanges`. -/
def collectedIn (es : List Statement) : List TimeRange :=
  es.filterMap fun
    | .updateCollectedRanges newRange => some newRange
    | _ => none

/-- The failures of `range` counted before a statement, counted after it. -/
def countRecorded (range : TimeRange) (n : ℕ) : Statement → ℕ
  | .recordWrite range' _ _ => if range' = range then n + 1 else n
  | .completeWrite _ => 0
  | _ => n

/-- How often a failure of `range` was recorded since the collection was last
    marked complete, which drops the failed ranges. -/
def recordedSince (range : TimeRange) (es : List Statement) : ℕ :=
  es.foldl (countRecorded range) 0

@[simp] theorem recordedSince_snoc (range : TimeRange) (es : List Statement) (e : Statement) :
    recordedSince range (es ++ [e]) = countRecorded range (recordedSince range es) e := by
  simp [recordedSince]

/-- The row says what was collected and what failed: no range passed to
    `updateCollectedRanges` is lost, a failure not covered since is there with
    the number of times it was recorded, and no failed range is covered. -/
structure BookkeepingKept (es : List Statement) (status : CollectionStatus) : Prop where
  collected : ∀ r ∈ collectedIn es, r ∈ status.collectedRanges
  failed : ∀ range, ¬CoveredBy status.collectedRanges range → 0 < recordedSince range es →
    ∃ fr ∈ status.failedRanges, fr.range = range ∧ fr.attempts = recordedSince range es
  attempts : ∀ fr ∈ status.failedRanges, fr.attempts = recordedSince fr.range es
  pruned : ∀ fr ∈ status.failedRanges, ¬CoveredBy status.collectedRanges fr.range

/-- A write-back finds the row as its call read it, as far as it depends on it,
    and a failure is only recorded for a range that is not covered. -/
def Undisturbed (s : Bookkeeping) : Statement → Prop
  | .recordWrite range _ failed =>
    failed = (s.status sourceType sourceId).failedRanges ∧
      ¬CoveredBy (s.status sourceType sourceId).collectedRanges range
  | .completeWrite collected =>
    collected = [] → (s.status sourceType sourceId).collectedRanges = []
  | _ => True

instance (s : Bookkeeping) (e : Statement) : Decidable (Undisturbed sourceType sourceId s e) := by
  cases e <;> unfold Undisturbed <;> infer_instance

/-- The invariant of the row: what it should say, one entry a range. -/
structure Inv (es : List Statement) (status : CollectionStatus) : Prop
    extends BookkeepingKept es status where
  nodup : (status.failedRanges.map FailedRange.range).Nodup

/-- A statement that neither collects, records nor completes leaves the invariant alone. -/
theorem Inv.of_quiet {es : List Statement} {status : CollectionStatus} {e : Statement}
    (h : Inv es status) (hcollected : collectedIn (es ++ [e]) = collectedIn es)
    (hrecorded : ∀ range, recordedSince range (es ++ [e]) = recordedSince range es) :
    Inv (es ++ [e]) status where
  collected := by simpa [hcollected] using h.collected
  failed := by simpa [hrecorded] using h.failed
  attempts := by simpa [hrecorded] using h.attempts
  pruned := h.pruned
  nodup := h.nodup

theorem Inv.updateCollectedRanges {es : List Statement} {status : CollectionStatus}
    (h : Inv es status) (newRange : TimeRange) :
    Inv (es ++ [.updateCollectedRanges newRange]) (status.updateCollectedRanges newRange) where
  collected r hr := by
    simp only [collectedIn, List.filterMap_append, List.mem_append] at hr
    rcases hr with hr | hr
    · exact List.mem_append_left _ (h.collected r hr)
    · exact List.mem_append_right _ (by simpa using hr)
  failed range hrange hpos := by
    simp only [recordedSince_snoc, countRecorded] at hpos ⊢
    have hbefore : ¬CoveredBy status.collectedRanges range := fun hcov =>
      hrange (hcov.mono fun cr hcr => List.mem_append_left _ hcr)
    obtain ⟨fr, hfr, rfl, hattempts⟩ := h.failed range hbefore hpos
    exact ⟨fr, mem_pruneCovered.2 ⟨hfr, hrange⟩, rfl, hattempts⟩
  attempts fr hfr := by
    simp only [recordedSince_snoc, countRecorded]
    exact h.attempts fr (mem_pruneCovered.1 hfr).1
  pruned fr hfr := (mem_pruneCovered.1 hfr).2
  nodup := h.nodup.sublist (List.filter_sublist.map _)

theorem Inv.recordFailedRange {es : List Statement} {status : CollectionStatus}
    (h : Inv es status) {range : TimeRange} {error : String}
    (hrange : ¬CoveredBy status.collectedRanges range) :
    Inv (es ++ [.recordWrite range error status.failedRanges])
      (status.recordFailedRange range error) where
  collected r hr := h.collected r (by simpa [collectedIn] using hr)
  failed range' hrange' hpos := by
    rw [recordedSince_snoc, countRecorded] at hpos ⊢
    split
    · -- The entry of the range recorded.
      rename_i hr
      subst hr
      obtain ⟨fr, hfr, hfrange⟩ := exists_mem_mergeFailedRange range error status.failedRanges
      refine ⟨fr, hfr, hfrange, ?_⟩
      rcases mem_mergeFailedRange h.nodup hfr with ⟨-, hne⟩ | ⟨-, ⟨old, hold, hr, hn⟩ | ⟨hnone, hn⟩⟩
      · exact absurd hfrange hne
      · rw [hn, h.attempts old hold, hr]
      · by_contra hcount
        obtain ⟨old, hold, hr, -⟩ := h.failed range hrange (by omega)
        exact hnone old hold hr
    · rename_i hr
      rw [if_neg hr] at hpos
      obtain ⟨fr, hfr, rfl, hattempts⟩ := h.failed range' hrange' hpos
      exact ⟨fr, mem_mergeFailedRange_of_ne hfr (Ne.symm hr), rfl, hattempts⟩
  attempts fr hfr := by
    rw [recordedSince_snoc, countRecorded]
    rcases mem_mergeFailedRange h.nodup hfr with ⟨hmem, hne⟩ | ⟨rfl, ⟨old, hold, hr, hn⟩ | ⟨hnone, hn⟩⟩
    · rw [if_neg (Ne.symm hne), h.attempts fr hmem]
    · rw [if_pos rfl, hn, h.attempts old hold, hr]
    · rw [if_pos rfl, hn]
      by_contra hcount
      obtain ⟨old, hold, hr, -⟩ := h.failed fr.range hrange (by omega)
      exact hnone old hold hr
  pruned fr hfr := by
    rcases mem_mergeFailedRange h.nodup hfr with ⟨hmem, -⟩ | ⟨hr, -⟩
    · exact h.pruned fr hmem
    · exact hr ▸ hrange
  nodup := nodup_mergeFailedRange h.nodup

theorem Inv.completeFrom {es : List Statement} {status : CollectionStatus} (h : Inv es status)
    {collected : List TimeRange} (hread : collected = [] → status.collectedRanges = []) :
    Inv (es ++ [.completeWrite collected]) (status.completeFrom collected run) where
  collected r hr := by
    have hmem : r ∈ status.collectedRanges := h.collected r (by simpa [collectedIn] using hr)
    cases collected with
    | nil => simp [hread rfl] at hmem
    | cons c cs => exact hmem
  failed range _ hpos := by simp [countRecorded] at hpos
  attempts fr hfr := by simp [CollectionStatus.completeFrom] at hfr
  pruned fr hfr := by simp [CollectionStatus.completeFrom] at hfr
  nodup := by simp [CollectionStatus.completeFrom]

/-- The invariant of the system: only an existing row has calls in flight. -/
structure SysInv (es : List Statement) (s : Bookkeeping) : Prop where
  inv : Inv es (s.status sourceType sourceId)
  row_of_calls : s.calls ≠ [] → s.row = some (s.status sourceType sourceId)

theorem inv_fresh : Inv [] (.fresh sourceType sourceId) where
  collected := by simp [collectedIn]
  failed := by simp [recordedSince]
  attempts := by simp [CollectionStatus.fresh]
  pruned := by simp [CollectionStatus.fresh]
  nodup := by simp [CollectionStatus.fresh]

/-- An undisturbed statement keeps the invariant. -/
theorem sysInv_of_step {es : List Statement} {s s' : Bookkeeping} {e : Statement}
    (h : SysInv sourceType sourceId es s) (hok : Undisturbed sourceType sourceId s e)
    (hstep : s.step sourceType sourceId run e = some s') :
    SysInv sourceType sourceId (es ++ [e]) s' := by
  cases e with
  | updateCollectedRanges newRange =>
    obtain rfl := Option.some.inj hstep
    exact ⟨h.inv.updateCollectedRanges newRange, fun _ => rfl⟩
  | recordInsert range error =>
    obtain rfl := Option.some.inj hstep
    exact ⟨h.inv.of_quiet (by simp [collectedIn]) (by simp [countRecorded]), fun _ => rfl⟩
  | recordRead range error =>
    rw [step] at hstep
    split at hstep
    · rename_i hcall
      rw [h.row_of_calls (List.ne_nil_of_mem hcall)] at hstep
      obtain rfl := Option.some.inj hstep
      exact ⟨h.inv.of_quiet (by simp [collectedIn]) (by simp [countRecorded]), fun _ => rfl⟩
    · cases hstep
  | recordWrite range error failed =>
    obtain ⟨rfl, hrange⟩ := hok
    rw [step] at hstep
    split at hstep
    · rename_i hcall
      rw [h.row_of_calls (List.ne_nil_of_mem hcall)] at hstep
      obtain rfl := Option.some.inj hstep
      exact ⟨h.inv.recordFailedRange hrange, fun _ => rfl⟩
    · cases hstep
  | completeRead =>
    have hquiet := h.inv.of_quiet (e := .completeRead) (by simp [collectedIn])
      (by simp [countRecorded])
    cases hrow : s.row with
    | none =>
      simp only [step, hrow] at hstep
      obtain rfl := Option.some.inj hstep
      exact ⟨hquiet, h.row_of_calls⟩
    | some status =>
      simp only [step, hrow] at hstep
      obtain rfl := Option.some.inj hstep
      rw [Bookkeeping.status, hrow] at hquiet
      exact ⟨hquiet, fun _ => rfl⟩
  | completeWrite collected =>
    rw [step] at hstep
    split at hstep
    · rename_i hcall
      rw [h.row_of_calls (List.ne_nil_of_mem hcall)] at hstep
      obtain rfl := Option.some.inj hstep
      exact ⟨h.inv.completeFrom run hok, fun _ => rfl⟩
    · cases hstep

/-- No row, and no call in flight. -/
def init : Bookkeeping := ⟨none, []⟩

/-- Along every run whose statements are undisturbed, the row says what was
    collected and what failed. -/
theorem run_bookkeepingKept {es : List Statement} {s : Bookkeeping}
    (h : Run (step sourceType sourceId run) (Undisturbed sourceType sourceId) init es s) :
    BookkeepingKept es (s.status sourceType sourceId) := by
  have hinv : SysInv sourceType sourceId es s :=
    h.invariant ⟨inv_fresh sourceType sourceId, fun hcalls => absurd rfl hcalls⟩
      fun _ _ _ _ hs hok hstep => sysInv_of_step sourceType sourceId run hs hok hstep
  exact hinv.inv.toBookkeepingKept

/-- A failure recorded and retried with success, another recorded meanwhile. -/
def undisturbedRun : List Statement :=
  [.recordInsert ⟨0, 60⟩ "timeout", .recordRead ⟨0, 60⟩ "timeout",
    .recordWrite ⟨0, 60⟩ "timeout" [], .updateCollectedRanges ⟨0, 60⟩,
    .recordInsert ⟨60, 120⟩ "timeout", .recordRead ⟨60, 120⟩ "timeout",
    .recordWrite ⟨60, 120⟩ "timeout" []]

theorem run_bookkeepingKept_undisturbedRun :
    BookkeepingKept undisturbedRun
      { CollectionStatus.fresh .grafana "default" with
        collectedRanges := [⟨0, 60⟩]
        failedRanges := [⟨⟨60, 120⟩, 1, "timeout"⟩] } :=
  run_bookkeepingKept .grafana "default" ⟨some 0, some 120⟩
    (s := ⟨some { CollectionStatus.fresh .grafana "default" with
      collectedRanges := [⟨0, 60⟩]
      failedRanges := [⟨⟨60, 120⟩, 1, "timeout"⟩] }, []⟩)
    (Run.of_checked (by decide))

/-- The incremental worker reads the failed range `[0, 60)`, which the gap filler
    then collects, and writes it back with its own failure of `[60, 120)`. -/
def resurrectingRun : List Statement :=
  [.recordInsert ⟨0, 60⟩ "timeout", .recordRead ⟨0, 60⟩ "timeout",
    .recordWrite ⟨0, 60⟩ "timeout" [],
    .recordInsert ⟨60, 120⟩ "timeout", .recordRead ⟨60, 120⟩ "timeout",
    .updateCollectedRanges ⟨0, 60⟩,
    .recordWrite ⟨60, 120⟩ "timeout" [⟨⟨0, 60⟩, 1, "timeout"⟩]]

/-- A stale write-back brings back a failed range that was pruned in between. -/
theorem writeBack_resurrects : ∃ s : Bookkeeping,
    Run (step .grafana "default" ⟨some 0, some 120⟩) (fun _ _ => True) init resurrectingRun s ∧
      s.calls = [] ∧ ¬BookkeepingKept resurrectingRun (s.status .grafana "default") := by
  refine ⟨⟨some { CollectionStatus.fresh .grafana "default" with
    collectedRanges := [⟨0, 60⟩]
    failedRanges := [⟨⟨0, 60⟩, 1, "timeout"⟩, ⟨⟨60, 120⟩, 1, "timeout"⟩] }, []⟩,
    Run.of_checked (by decide), rfl, fun hkept => ?_⟩
  have hcovered := hkept.pruned ⟨⟨0, 60⟩, 1, "timeout"⟩ (by decide)
  exact hcovered (by decide)

end Bookkeeping

end Perfana
