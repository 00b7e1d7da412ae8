import Perfana.Lib.Span

/-!
# The analysis window of a run

A run is analysed from its start plus a ramp-up offset to its end minus a
ramp-down offset. Three places decide on their own whether a sample counts: the
flag that the statistics of metrics bake into each sample, the filter of the
transaction rollup, and the bounds that the raw scans bind.

Where the offsets fit in the run, each keeps the samples of the window strictly
before its end (`counted_of_window`). They part at the end of the window, past
the recorded run, and where the offsets do not fit: `places_agree_iff` says
exactly when they give the same answer.

Run times are milliseconds, offsets seconds, sample times microseconds.
-/

namespace Perfana

open Perfana.Span

/-- The times of a run as read from its row. -/
structure TestRunTimesRow where
  /-- The start, in milliseconds. -/
  startTime : Option ℤ
  /-- The end, in milliseconds. -/
  endTime : Option ℤ
  /-- The ramp-up offset, in seconds. -/
  rampUp : Option ℤ
  /-- The ramp-down offset, in seconds. -/
  rampDown : Option ℤ
  deriving DecidableEq, Repr

/-- A completed run, its offsets not negative. -/
structure CompletedRun where
  /-- The start, in milliseconds. -/
  startTime : ℤ
  /-- The end, in milliseconds. -/
  endTime : ℤ
  /-- The ramp-up offset, in seconds. -/
  rampUp : Option ℕ
  /-- The ramp-down offset, in seconds. -/
  rampDown : Option ℕ
  /-- It ended after it started. -/
  start_lt_end : startTime < endTime

namespace CompletedRun

variable (run : CompletedRun)

/-- The row of the run. -/
def row : TestRunTimesRow where
  startTime := some run.startTime
  endTime := some run.endTime
  rampUp := run.rampUp.map fun n => (n : ℤ)
  rampDown := run.rampDown.map fun n => (n : ℤ)

/-- The ramp-up offset, zero if there is none. -/
def startOffset : ℤ := run.rampUp.getD 0

/-- The ramp-down offset, zero if there is none. -/
def endOffset : ℤ := run.rampDown.getD 0

theorem startOffset_nonneg : 0 ≤ run.startOffset := Int.natCast_nonneg _

theorem endOffset_nonneg : 0 ≤ run.endOffset := Int.natCast_nonneg _

end CompletedRun

/-- A time in milliseconds, in microseconds. -/
def micros (milliseconds : ℤ) : ℤ := milliseconds * 1000

/-- A number of seconds, in microseconds. -/
def secondMicros (seconds : ℤ) : ℤ := seconds * 1000000

/-- The slack either side of the recorded run, an hour in milliseconds. -/
def RUN_WINDOW_PAD_MS : ℤ := 60 * 60 * 1000

/-! ## The three places -/

/-- The flag of a sample outside the window, `RAMP_UP_EXPR` of the statistics:
    none is flagged unless the offsets fit in the run. -/
def rampUpExpr (run : CompletedRun) (time : ℤ) : Prop :=
  micros run.endTime - micros run.startTime >
      secondMicros run.startOffset + secondMicros run.endOffset ∧
    (time - micros run.startTime < secondMicros run.startOffset ∨
      run.endOffset > 0 ∧
        time - micros run.startTime >
          micros run.endTime - micros run.startTime - secondMicros run.endOffset)

/-- The statistics of a metric count the samples that are not flagged. -/
def countedByStatistics (run : CompletedRun) (time : ℤ) : Prop := ¬rampUpExpr run time

/-- The ramp-up excluding aggregates of the transaction rollup: of the samples in
    the padded run, those from the start cutoff to before the end cutoff. -/
def countedByRollup (run : CompletedRun) (time : ℤ) : Prop :=
  let startCutoff := run.startTime + run.startOffset * 1000
  let endCutoff := run.endTime - run.endOffset * 1000
  let windowStart := run.startTime - RUN_WINDOW_PAD_MS
  let windowEnd := run.endTime + RUN_WINDOW_PAD_MS
  micros windowStart ≤ time ∧ time ≤ micros windowEnd ∧
    micros startCutoff ≤ time ∧ time < micros endCutoff

/-- The bounds of a raw scan, in milliseconds; none for no bound. -/
structure AnalysisBounds where
  /-- The first time included. -/
  startCutoff : Option ℤ
  /-- The last time included. -/
  endCutoff : Option ℤ
  deriving DecidableEq, Repr

/-- An offset in seconds, if positive. -/
def seconds (v : Option ℤ) : ℤ :=
  match v with
  | some n => if n > 0 then n else 0
  | none => 0

/-- The time bounds of a run: the padded run, narrowed to the analysis window by
    the offsets there are. -/
def analysisBoundsFromRow (row : Option TestRunTimesRow) (excludeRampUp : Bool) :
    AnalysisBounds :=
  let startTime := row.bind TestRunTimesRow.startTime
  let endTime := row.bind TestRunTimesRow.endTime
  let startCutoff := startTime.map fun s => s - RUN_WINDOW_PAD_MS
  let endCutoff := endTime.map fun e => e + RUN_WINDOW_PAD_MS
  if excludeRampUp then
    let rampUp := seconds (row.bind TestRunTimesRow.rampUp)
    let rampDown := seconds (row.bind TestRunTimesRow.rampDown)
    { startCutoff := if rampUp > 0 then startTime.map fun s => s + rampUp * 1000 else startCutoff
      endCutoff := if rampDown > 0 then endTime.map fun e => e - rampDown * 1000 else endCutoff }
  else { startCutoff, endCutoff }

/-- The predicate on sample times that the bounds make, both ends included. -/
def timeBounds (bounds : AnalysisBounds) (time : ℤ) : Prop :=
  (∀ s ∈ bounds.startCutoff, micros s ≤ time) ∧ ∀ e ∈ bounds.endCutoff, time ≤ micros e

/-- The raw scans of the analysis window. -/
def countedByBounds (run : CompletedRun) (time : ℤ) : Prop :=
  timeBounds (analysisBoundsFromRow (some run.row) true) time

/-- The three places give the same answer for a sample. -/
def PlacesAgree (run : CompletedRun) (time : ℤ) : Prop :=
  (countedByStatistics run time ↔ countedByRollup run time) ∧
    (countedByRollup run time ↔ countedByBounds run time)

/-! ## What each place counts -/

section Places

variable (run : CompletedRun) (time : ℤ)

/-- The offsets fit in the run, leaving a window. -/
def OffsetsFit : Prop := run.startOffset * 1000 + run.endOffset * 1000 < run.endTime - run.startTime

/-- The window between the offsets, in microseconds. -/
def window : Span ℤ :=
  ⟨micros (run.startTime + run.startOffset * 1000), micros (run.endTime - run.endOffset * 1000)⟩

theorem countedByStatistics_iff : countedByStatistics run time ↔
    (OffsetsFit run → (window run).lo ≤ time ∧ (run.endOffset = 0 ∨ time ≤ (window run).hi)) := by
  have := run.endOffset_nonneg
  simp only [countedByStatistics, rampUpExpr, OffsetsFit, window, micros, secondMicros]
  omega

theorem countedByRollup_iff : countedByRollup run time ↔ (window run).Contains time := by
  have := run.startOffset_nonneg
  have := run.endOffset_nonneg
  simp only [countedByRollup, window, Contains, micros, RUN_WINDOW_PAD_MS]
  omega

theorem seconds_natCast (n : Option ℕ) :
    seconds (n.map fun n => (n : ℤ)) = (n.getD 0 : ℕ) := by
  cases n with
  | none => rfl
  | some n =>
    change (if (n : ℤ) > 0 then (n : ℤ) else 0) = n
    split <;> omega

theorem countedByBounds_iff : countedByBounds run time ↔
    (if run.startOffset = 0 then micros (run.startTime - RUN_WINDOW_PAD_MS) else (window run).lo) ≤
        time ∧
      time ≤ if run.endOffset = 0 then micros (run.endTime + RUN_WINDOW_PAD_MS)
        else (window run).hi := by
  have hup : seconds run.row.rampUp = run.startOffset := seconds_natCast _
  have hdown : seconds run.row.rampDown = run.endOffset := seconds_natCast _
  have h₁ := run.startOffset_nonneg
  have h₂ := run.endOffset_nonneg
  simp only [countedByBounds, analysisBoundsFromRow, timeBounds, Option.bind_some, hup, hdown,
    if_true]
  by_cases hstart : run.startOffset = 0 <;> by_cases hend : run.endOffset = 0
  · simp [hstart, hend, CompletedRun.row]
  · have hpos : 0 < run.endOffset := by omega
    simp [hstart, hend, hpos, CompletedRun.row, window]
  · have hpos : 0 < run.startOffset := by omega
    simp [hstart, hend, hpos, CompletedRun.row, window]
  · have hpos₁ : 0 < run.startOffset := by omega
    have hpos₂ : 0 < run.endOffset := by omega
    simp [hstart, hend, hpos₁, hpos₂, CompletedRun.row, window]

/-- Where the offsets fit, every place counts the samples of the window. -/
theorem counted_of_window (h : (window run).Contains time) :
    countedByStatistics run time ∧ countedByRollup run time ∧ countedByBounds run time := by
  have := run.startOffset_nonneg
  have := run.endOffset_nonneg
  rw [countedByStatistics_iff, countedByRollup_iff, countedByBounds_iff]
  refine ⟨fun _ => ⟨h.1, .inr h.2.le⟩, h, ?_⟩
  simp only [Contains, window, micros, RUN_WINDOW_PAD_MS] at h ⊢
  split <;> split <;> omega

/-- The three places agree on a sample if and only if the offsets fit in the run,
    and the sample is in the window, or before it if there is a ramp-up offset (or
    more than an hour before the start), or after it if there is a ramp-down
    offset. -/
theorem places_agree_iff : PlacesAgree run time ↔
    OffsetsFit run ∧
      ((window run).Contains time ∨
        (time < (window run).lo ∧
          (0 < run.startOffset ∨ time < micros (run.startTime - RUN_WINDOW_PAD_MS))) ∨
        ((window run).hi < time ∧ 0 < run.endOffset)) := by
  have := run.startOffset_nonneg
  have := run.endOffset_nonneg
  have := run.start_lt_end
  rw [PlacesAgree, countedByStatistics_iff, countedByRollup_iff, countedByBounds_iff]
  simp only [OffsetsFit, window, Contains, micros, RUN_WINDOW_PAD_MS]
  split <;> split <;> omega

end Places

/-- A run of ten minutes without offsets. -/
def untrimmedRun : CompletedRun := ⟨0, 600000, none, none, by decide⟩

/-- The last sample of a run without offsets counts for the statistics and the raw
    scans, but not for the rollup. -/
theorem places_disagree_at_end :
    countedByStatistics untrimmedRun (micros 600000) ∧
      ¬countedByRollup untrimmedRun (micros 600000) ∧
      countedByBounds untrimmedRun (micros 600000) ∧
      ¬PlacesAgree untrimmedRun (micros 600000) := by
  have hrollup : ¬countedByRollup untrimmedRun (micros 600000) := by
    rw [countedByRollup_iff]
    decide
  have hstatistics : countedByStatistics untrimmedRun (micros 600000) := by
    rw [countedByStatistics_iff]
    exact fun _ => ⟨by decide, .inl rfl⟩
  refine ⟨hstatistics, hrollup, ?_, fun h => hrollup (h.1.1 hstatistics)⟩
  rw [countedByBounds_iff]
  decide

end Perfana
