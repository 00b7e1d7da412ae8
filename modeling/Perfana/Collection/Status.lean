import Perfana.Lib.Span

/-!
# Collection status

A test run keeps one row per metric source saying which time ranges were
collected and which failed (`ds_metric_collection_status`). Times are
milliseconds, ranges half-open. This file holds the row and the operations of
the database service on it:

* `updateCollectedRanges` appends a range and, in the same statement, prunes the
  failed ranges now covered by a single collected range;
* `recordFailedRange` counts an attempt for a range, in two statements: it reads
  the failed ranges, and writes them all back (`mergeFailedRange`);
* `markCollectionComplete` drops the failed ranges, and fills in the window of
  the run when it read no collected range;
* `resetCollectionStatus` starts over.
-/

namespace Perfana

/-- A time range in milliseconds: `lo` is the source's `from`, `hi` its `to`. -/
abbrev TimeRange := Span ℤ

/-- What metrics are collected from. -/
inductive SourceType
  | grafana
  | dynatrace
  | performanceTest
  deriving DecidableEq, Repr

/-- A time range whose collection failed, and how often. -/
structure FailedRange where
  range : TimeRange
  /-- The number of failures recorded. -/
  attempts : ℕ
  /-- The message of the last one. -/
  lastError : String
  deriving DecidableEq, Repr

/-- The row of a metric source of a test run. -/
structure CollectionStatus where
  /-- What the source is. -/
  sourceType : SourceType
  /-- The instance or configuration (empty for the performance test). -/
  sourceId : String
  /-- The ranges collected, in the order they were appended. -/
  collectedRanges : List TimeRange
  failedRanges : List FailedRange
  /-- Whether the collection of the source is closed. -/
  isComplete : Bool
  deriving DecidableEq, Repr

/-- The columns of a test run that the collection reads. -/
structure RunWindow where
  /-- When the run started, if recorded. -/
  startTime : Option ℤ
  /-- When the run ended, if recorded. -/
  endTime : Option ℤ
  deriving DecidableEq, Repr

namespace CollectionStatus

/-- The row as first inserted. -/
def fresh (sourceType : SourceType) (sourceId : String) : CollectionStatus where
  sourceType := sourceType
  sourceId := sourceId
  collectedRanges := []
  failedRanges := []
  isComplete := false

/-- The failed ranges that no collected range covers by itself. -/
def pruneCovered (collected : List TimeRange) (failed : List FailedRange) : List FailedRange :=
  failed.filter fun fr => ¬∃ cr ∈ collected, cr.Includes fr.range

/-- Appends a range to a row, and prunes the failed ranges (one statement). -/
def updateCollectedRanges (status : CollectionStatus) (newRange : TimeRange) : CollectionStatus :=
  { status with
    collectedRanges := status.collectedRanges ++ [newRange]
    failedRanges :=
      pruneCovered (status.collectedRanges ++ [newRange]) status.failedRanges }

/-- The failed ranges with one more failure of `range`: the first entry with the
    same bounds counts it, or a new entry is pushed. -/
def mergeFailedRange (range : TimeRange) (error : String) : List FailedRange → List FailedRange
  | [] => [⟨range, 1, error⟩]
  | fr :: frs =>
    if fr.range = range then ⟨range, fr.attempts + 1, error⟩ :: frs
    else fr :: mergeFailedRange range error frs

/-- Writes back failed ranges read earlier: the last statement of `recordFailedRange`. -/
def writeFailedRanges (status : CollectionStatus) (failed : List FailedRange) :
    CollectionStatus :=
  { status with failedRanges := failed }

/-- Counts a failure, its read and its write taken together. -/
def recordFailedRange (status : CollectionStatus) (range : TimeRange) (error : String) :
    CollectionStatus :=
  status.writeFailedRanges (mergeFailedRange range error status.failedRanges)

/-- Closes the collection of a row, given the collected ranges as they were read:
    had there been none, the window of the run is filled in. -/
def completeFrom (read : List TimeRange) (run : RunWindow) (status : CollectionStatus) :
    CollectionStatus :=
  { status with
    isComplete := true
    failedRanges := []
    collectedRanges :=
      match read, run.startTime, run.endTime with
      | [], some startTime, some endTime => [⟨startTime, endTime⟩]
      | _, _, _ => status.collectedRanges }

/-- Closes the collection of a row, its read and its write taken together. -/
def markCollectionComplete (run : RunWindow) (status : CollectionStatus) : CollectionStatus :=
  status.completeFrom status.collectedRanges run

/-- Clears a row for a collection from scratch. -/
def resetCollectionStatus (status : CollectionStatus) : CollectionStatus :=
  { status with collectedRanges := [], failedRanges := [], isComplete := false }

end CollectionStatus

end Perfana
