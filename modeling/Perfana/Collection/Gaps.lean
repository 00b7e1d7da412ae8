import Mathlib
import Perfana.Collection.Status

/-!
# Gaps and coverage of a collection

The gap service compares the ranges collected from a source with the window of
the run, in two ways: `findMissingRanges` sorts the ranges, merges them and
lists what they leave of the window; `calculateCoverage` merges them in the
order they were appended and adds up the lengths of the blocks. Merging also
joins ranges less than a second apart.

* `mergeOverlappingRanges_eq`: the merge loop is the coalescing of
  `Perfana.Lib.Span`, with a tolerance of a second;
* `covered_findMissingRanges`: the missing ranges are the points of the window
  neither collected nor bridged; they are disjoint (`findMissingRanges_inOrder`);
* `findMissingRanges_complement`: so they are the complement of the collected
  ranges, but for gaps of at most a second;
* `total_findMissingRanges`: they span what the others leave of the window;
* `calculateCoverage_agrees`: so does the coverage.
-/

namespace Perfana

open Perfana.Span

/-! ## Merging -/

/-- How far past its end a range still joins the next one: a second. -/
def withinSecond (t : ℤ) : ℤ := t + 1000

theorem le_withinSecond (t : ℤ) : t ≤ withinSecond t := by simp [withinSecond]

theorem withinSecond_mono : Monotone withinSecond := fun a b h => by
  simp only [withinSecond]
  omega

/-- A turn of the merge loop: the merged ranges and the current one. -/
def mergeStep : List TimeRange × TimeRange → TimeRange → List TimeRange × TimeRange
  | (merged, current), next =>
    if next.lo ≤ current.hi + 1000 then (merged, ⟨current.lo, max current.hi next.hi⟩)
    else (merged ++ [current], next)

/-- Merges ranges that overlap or are adjacent (within 1 second), in the order
    they come. The source assumes them sorted by start time. -/
def mergeOverlappingRanges : List TimeRange → List TimeRange
  | [] => []
  | first :: rest =>
    let (merged, current) := rest.foldl mergeStep ([], first)
    merged ++ [current]

theorem foldl_mergeStep (rest : List TimeRange) (merged : List TimeRange) (current : TimeRange) :
    (rest.foldl mergeStep (merged, current)).1 ++ [(rest.foldl mergeStep (merged, current)).2] =
      merged ++ coalesceInto withinSecond current rest := by
  induction rest generalizing merged current with
  | nil => simp [coalesceInto]
  | cons next rest ih =>
    rw [List.foldl_cons, coalesceInto, mergeStep, withinSecond]
    split
    · exact ih _ _
    · rw [ih, List.append_assoc, List.singleton_append]

/-- The merge loop coalesces the ranges. -/
theorem mergeOverlappingRanges_eq (ranges : List TimeRange) :
    mergeOverlappingRanges ranges = coalesce withinSecond ranges := by
  cases ranges with
  | nil => rfl
  | cons first rest =>
    rw [mergeOverlappingRanges, coalesce]
    exact foldl_mergeStep rest [] first

/-! ## Missing ranges -/

/-- Comparison by start time. -/
def startsBy (a b : TimeRange) : Prop := a.lo ≤ b.lo

instance : DecidableRel startsBy := fun a b => inferInstanceAs (Decidable (a.lo ≤ b.lo))

instance : Std.Total startsBy := ⟨fun a b => le_total a.lo b.lo⟩

instance : IsTrans TimeRange startsBy := ⟨fun _ _ _ => le_trans⟩

/-- The collected ranges sorted by start time (a stable sort). -/
def sortByFrom (ranges : List TimeRange) : List TimeRange := ranges.insertionSort startsBy

/-- The gaps between consecutive merged ranges, clipped to the window. -/
def gapsBetween (expectedStart expectedEnd : ℤ) : List TimeRange → List TimeRange
  | current :: next :: rest =>
    (if current.hi < next.lo then
      [⟨max current.hi expectedStart, min next.lo expectedEnd⟩] else []) ++
    gapsBetween expectedStart expectedEnd (next :: rest)
  | _ => []

/-- The gap before the first merged range. -/
def gapBefore (expectedStart expectedEnd : ℤ) : List TimeRange → List TimeRange
  | first :: _ =>
    if first.lo > expectedStart then [⟨expectedStart, min first.lo expectedEnd⟩] else []
  | [] => []

/-- The gap after the last merged range. -/
def gapAfter (expectedStart expectedEnd : ℤ) (merged : List TimeRange) : List TimeRange :=
  match merged.getLast? with
  | some last => if last.hi < expectedEnd then [⟨max last.hi expectedStart, expectedEnd⟩] else []
  | none => []

/-- The check that drops empty ranges and ranges outside the window. -/
def validMissing (expectedStart expectedEnd : ℤ) (range : TimeRange) : Bool :=
  range.lo < range.hi && range.lo < expectedEnd && range.hi > expectedStart

/-- The ranges of the window that were not collected. -/
def findMissingRanges (expectedStart expectedEnd : ℤ) (collectedRanges : List TimeRange) :
    List TimeRange :=
  if collectedRanges = [] then [⟨expectedStart, expectedEnd⟩]
  else
    let mergedRanges := mergeOverlappingRanges (sortByFrom collectedRanges)
    let missingRanges := gapBefore expectedStart expectedEnd mergedRanges ++
      gapsBetween expectedStart expectedEnd mergedRanges ++
      gapAfter expectedStart expectedEnd mergedRanges
    missingRanges.filter (validMissing expectedStart expectedEnd)

theorem sortByFrom_perm (ranges : List TimeRange) : (sortByFrom ranges).Perm ranges :=
  List.perm_insertionSort _ _

theorem sortByFrom_sorted (ranges : List TimeRange) : Sorted (sortByFrom ranges) :=
  List.pairwise_insertionSort startsBy ranges

/-- The gaps past the first merged range are those of the library, less the
    empty ones: the source only pushes a gap where there is space. -/
theorem filter_gapsBetween (expectedStart expectedEnd : ℤ) (first : TimeRange)
    (rest : List TimeRange) :
    (gapsBetween expectedStart expectedEnd (first :: rest) ++
        gapAfter expectedStart expectedEnd (first :: rest)).filter
        (validMissing expectedStart expectedEnd) =
      (gaps expectedStart expectedEnd (max first.hi expectedStart) rest).filter
        (validMissing expectedStart expectedEnd) := by
  induction rest generalizing first with
  | nil =>
    by_cases h : first.hi < expectedEnd
    · simp [gapsBetween, gapAfter, gaps, h]
    · have hempty : ¬max first.hi expectedStart < expectedEnd := by omega
      simp [gapsBetween, gapAfter, gaps, h, validMissing, hempty]
  | cons next rest ih =>
    have hlast : gapAfter expectedStart expectedEnd (first :: next :: rest) =
        gapAfter expectedStart expectedEnd (next :: rest) := by
      simp [gapAfter, List.getLast?_cons_cons]
    rw [gapsBetween, hlast, gaps, List.append_assoc, List.filter_append, ih, List.filter_cons]
    by_cases h : first.hi < next.lo
    · simp only [if_pos h, List.filter_cons, List.filter_nil]
      split <;> simp
    · have hempty : ¬max first.hi expectedStart < min next.lo expectedEnd := by omega
      simp [h, validMissing, hempty]

/-- The missing ranges are the gaps between the merged ranges, less the empty ones. -/
theorem findMissingRanges_eq {expectedStart expectedEnd : ℤ} {ranges : List TimeRange}
    (hne : ranges ≠ []) : findMissingRanges expectedStart expectedEnd ranges =
      (gaps expectedStart expectedEnd expectedStart
        (coalesce withinSecond (sortByFrom ranges))).filter
        (validMissing expectedStart expectedEnd) := by
  have hsort : sortByFrom ranges ≠ [] := fun h => by
    have hperm := sortByFrom_perm ranges
    rw [h] at hperm
    exact hne hperm.symm.eq_nil
  simp only [findMissingRanges, if_neg hne, mergeOverlappingRanges_eq]
  cases hm : coalesce withinSecond (sortByFrom ranges) with
  | nil =>
    obtain ⟨r, l, hrl⟩ := List.exists_cons_of_ne_nil hsort
    rw [hrl, coalesce] at hm
    exact absurd hm (coalesceInto_ne_nil _ _ _)
  | cons first rest =>
    rw [List.append_assoc, List.filter_append, filter_gapsBetween, gaps, List.filter_cons,
      gapBefore]
    by_cases h : first.lo > expectedStart
    · simp only [if_pos h, List.filter_cons, List.filter_nil]
      split <;> simp
    · have hempty : ¬expectedStart < min first.lo expectedEnd := by omega
      simp [h, validMissing, hempty]

/-- The merged ranges of a sorted list lie ahead of the start of the window. -/
theorem ahead_coalesce (expectedStart : ℤ) {ranges : List TimeRange}
    (hord : ∀ r ∈ ranges, r.Ordered) :
    Ahead expectedStart expectedStart (coalesce withinSecond (sortByFrom ranges)) where
  ordered := coalesce_ordered _ fun r hr => hord r ((sortByFrom_perm ranges).mem_iff.1 hr)
  inOrder := (coalesce_separated le_withinSecond fun r hr =>
    hord r ((sortByFrom_perm ranges).mem_iff.1 hr)).imp (Apart.le le_withinSecond)
  le_cursor := le_rfl
  cursor_le _ _ := le_max_right _ _

/-- What is not missing: collected, or in a gap of at most a second. -/
def Accounted (ranges : List TimeRange) (t : ℤ) : Prop :=
  Covered ranges t ∨ Bridged withinSecond ranges t

instance (ranges : List TimeRange) : DecidablePred (Accounted ranges) := fun _ =>
  inferInstanceAs (Decidable (_ ∨ _))

theorem accounted_perm {ranges ranges' : List TimeRange} (h : ranges.Perm ranges') (t : ℤ) :
    Accounted ranges t ↔ Accounted ranges' t := by
  simp [Accounted, Covered, Bridged, h.mem_iff]

theorem covered_merge_sorted {ranges : List TimeRange} (hord : ∀ r ∈ ranges, r.Ordered)
    (hsort : Sorted ranges) (t : ℤ) :
    Covered (mergeOverlappingRanges ranges) t ↔ Accounted ranges t := by
  rw [mergeOverlappingRanges_eq]
  exact covered_coalesce withinSecond_mono hord hsort t

/-- The missing ranges are the points of the window that are neither collected
    nor in a gap of at most a second, in whatever order the ranges are stored. -/
theorem covered_findMissingRanges {expectedStart expectedEnd : ℤ} {ranges : List TimeRange}
    (hord : ∀ r ∈ ranges, r.Ordered) (t : ℤ) :
    Covered (findMissingRanges expectedStart expectedEnd ranges) t ↔
      expectedStart ≤ t ∧ t < expectedEnd ∧ ¬Accounted ranges t := by
  by_cases hne : ranges = []
  · simp [findMissingRanges, hne, Accounted, Contains, Bridged]
  have hgaps := covered_gaps expectedEnd (ahead_coalesce expectedStart hord) t
  have hsorted : Covered (coalesce withinSecond (sortByFrom ranges)) t ↔ Accounted ranges t := by
    rw [← accounted_perm (sortByFrom_perm ranges), ← mergeOverlappingRanges_eq]
    exact covered_merge_sorted (fun r hr => hord r ((sortByFrom_perm ranges).mem_iff.1 hr))
      (sortByFrom_sorted ranges) t
  rw [findMissingRanges_eq hne, ← hsorted, ← hgaps]
  constructor
  · rintro ⟨r, hr, hrt⟩
    exact ⟨r, (List.mem_filter.1 hr).1, hrt⟩
  · intro hcov
    obtain ⟨hstart, hend, -⟩ := hgaps.1 hcov
    obtain ⟨r, hr, hrt⟩ := hcov
    refine ⟨r, List.mem_filter.2 ⟨hr, ?_⟩, hrt⟩
    -- A range that holds a point of the window passes the check.
    simp only [Contains] at hrt
    simp only [validMissing, Bool.and_eq_true, decide_eq_true_eq]
    omega

/-- The missing ranges are disjoint, in order and inside the window. -/
theorem findMissingRanges_inOrder {expectedStart expectedEnd : ℤ} {ranges : List TimeRange}
    (hwindow : expectedStart < expectedEnd) (hord : ∀ r ∈ ranges, r.Ordered) :
    (findMissingRanges expectedStart expectedEnd ranges).Pairwise (fun a b => a.hi ≤ b.lo) ∧
      ∀ r ∈ findMissingRanges expectedStart expectedEnd ranges,
        expectedStart ≤ r.lo ∧ r.lo < r.hi ∧ r.hi ≤ expectedEnd := by
  by_cases hne : ranges = []
  · simp [findMissingRanges, hne, hwindow]
  obtain ⟨hpair, hlo⟩ :=
    gaps_inOrder expectedEnd (ahead_coalesce expectedStart hord)
  rw [findMissingRanges_eq hne]
  refine ⟨hpair.sublist List.filter_sublist, fun r hr => ?_⟩
  obtain ⟨hr, hvalid⟩ := List.mem_filter.1 hr
  simp only [validMissing, Bool.and_eq_true, decide_eq_true_eq] at hvalid
  exact ⟨hlo r hr, hvalid.1.1, gaps_hi_le r hr⟩

/-- The missing ranges are the complement of the collected ones in the window, but for the gaps of
    at most a second between two of them. -/
theorem findMissingRanges_complement {expectedStart expectedEnd : ℤ} {ranges : List TimeRange}
    (hwindow : expectedStart < expectedEnd) (hord : ∀ r ∈ ranges, r.Ordered) :
    (findMissingRanges expectedStart expectedEnd ranges).Pairwise
        (fun a b => a.lo < b.lo ∧ a.NoOverlap b) ∧
      (∀ r ∈ findMissingRanges expectedStart expectedEnd ranges,
        expectedStart ≤ r.lo ∧ r.lo < r.hi ∧ r.hi ≤ expectedEnd ∧
          ∀ collected ∈ ranges, r.NoOverlap collected) ∧
      ∀ t, expectedStart ≤ t → t < expectedEnd → ¬Covered ranges t →
        (Covered (findMissingRanges expectedStart expectedEnd ranges) t ↔
          ¬∃ a ∈ ranges, ∃ b ∈ ranges, a.hi ≤ t ∧ t < b.lo ∧ b.lo - a.hi ≤ 1000) := by
  obtain ⟨hpair, hin⟩ := findMissingRanges_inOrder hwindow hord
  have hcov := @covered_findMissingRanges expectedStart expectedEnd ranges hord
  refine ⟨?_, fun r hr => ?_, fun t hstart hend hmiss => ?_⟩
  · refine hpair.imp_of_mem fun {a b} ha _ hab => ?_
    exact ⟨lt_of_lt_of_le (hin a ha).2.1 hab, noOverlap_of_inOrder hab⟩
  · obtain ⟨hlo, hne, hhi⟩ := hin r hr
    refine ⟨hlo, hne, hhi, fun collected hc t ⟨ht, htc⟩ => ?_⟩
    have hnot := ((hcov t).1 ⟨r, hr, ht⟩).2.2
    exact hnot (.inl ⟨collected, hc, htc⟩)
  · -- What is not collected is missing unless it is bridged.
    have hgap : Bridged withinSecond ranges t ↔
        ∃ a ∈ ranges, ∃ b ∈ ranges, a.hi ≤ t ∧ t < b.lo ∧ b.lo - a.hi ≤ 1000 := by
      simp only [Bridged, withinSecond, sub_le_iff_le_add']
    rw [hcov t, Accounted, ← hgap]
    simp [hstart, hend, hmiss]

/-- Ranges that reach past both ends of the window, of which one is empty and two almost meet. -/
theorem findMissingRanges_complement_nested :
    let ranges : List TimeRange := [⟨5000, 5000⟩, ⟨-500, 1000⟩, ⟨9000, 12000⟩, ⟨1900, 3000⟩,
      ⟨2000, 2500⟩]
    (findMissingRanges 0 10000 ranges).Pairwise (fun a b => a.lo < b.lo ∧ a.NoOverlap b) ∧
      findMissingRanges 0 10000 ranges = [⟨3000, 5000⟩, ⟨5000, 9000⟩] :=
  ⟨(findMissingRanges_complement (by decide) (by decide)).1, by decide⟩

/-- What is fetched is not missing any more, nothing else becomes missing, and nothing is left when
    all that was missing is fetched, in whatever pieces. -/
theorem findMissingRanges_append {expectedStart expectedEnd : ℤ} {ranges fetched : List TimeRange}
    (hwindow : expectedStart < expectedEnd) (hord : ∀ r ∈ ranges ++ fetched, r.Ordered) :
    (∀ t, Covered (findMissingRanges expectedStart expectedEnd (ranges ++ fetched)) t →
      Covered (findMissingRanges expectedStart expectedEnd ranges) t ∧ ¬Covered fetched t) ∧
    ((∀ t, Covered (findMissingRanges expectedStart expectedEnd ranges) t → Covered fetched t) →
      findMissingRanges expectedStart expectedEnd (ranges ++ fetched) = []) := by
  have hranges : ∀ r ∈ ranges, r.Ordered := (List.forall_mem_append.1 hord).1
  have hshrinks : ∀ t, Covered (findMissingRanges expectedStart expectedEnd (ranges ++ fetched)) t →
      Covered (findMissingRanges expectedStart expectedEnd ranges) t ∧ ¬Covered fetched t := by
    intro t ht
    obtain ⟨hstart, hend, hnot⟩ := (covered_findMissingRanges hord t).1 ht
    constructor
    · refine (covered_findMissingRanges hranges t).2 ⟨hstart, hend, fun haccounted => hnot ?_⟩
      rcases haccounted with ⟨r, hr, hrt⟩ | ⟨a, ha, b, hb, hab⟩
      · exact .inl ⟨r, List.mem_append_left _ hr, hrt⟩
      · exact .inr ⟨a, List.mem_append_left _ ha, b, List.mem_append_left _ hb, hab⟩
    · rintro ⟨r, hr, hrt⟩
      exact hnot (.inl ⟨r, List.mem_append_right _ hr, hrt⟩)
  refine ⟨hshrinks, fun hall => List.eq_nil_iff_forall_not_mem.2 fun r hr => ?_⟩
  -- The start of a range that is left was missing, and is fetched.
  have hlo := ((findMissingRanges_inOrder hwindow hord).2 r hr).2.1
  obtain ⟨hmissing, hnot⟩ := hshrinks r.lo ⟨r, hr, le_rfl, hlo⟩
  exact hnot (hall r.lo hmissing)

theorem findMissingRanges_append_fetched :
    let ranges : List TimeRange := [⟨-500, 1000⟩, ⟨9000, 12000⟩, ⟨1900, 3000⟩]
    findMissingRanges 0 10000 (ranges ++ findMissingRanges 0 10000 ranges) = [] :=
  (findMissingRanges_append (by decide) (by decide)).2 fun _ ht => ht

/-! ## Coverage -/

/-- The sources that were collected from: the performance test is rebuilt by the
    analysis, and does not count. -/
def collectable (statuses : List CollectionStatus) : List CollectionStatus :=
  statuses.filter fun status => status.sourceType ≠ .performanceTest

/-- The milliseconds the merged ranges of a source span, in stored order. -/
def coveredDuration (status : CollectionStatus) : ℤ :=
  total (mergeOverlappingRanges status.collectedRanges)

/-- The coverage of a run, as a percentage averaged over its sources. -/
def calculateCoverage (testRun : Option RunWindow) (allStatuses : List CollectionStatus) : ℚ :=
  match testRun with
  | some ⟨some startTime, some endTime⟩ =>
    if allStatuses = [] then 0
    else
      let statuses := collectable allStatuses
      if statuses = [] then 100
      else
        let expectedDuration := endTime - startTime
        let totalCoveredDuration := (statuses.map coveredDuration).sum
        let averageCoverage : ℚ :=
          totalCoveredDuration / (expectedDuration * statuses.length : ℚ)
        min 100 (averageCoverage * 100)
  | _ => 0

/-- The part of the window where `p` holds. -/
def fraction (startTime endTime : ℤ) (p : ℤ → Prop) [DecidablePred p] : ℚ :=
  count startTime endTime p / (endTime - startTime : ℤ)

/-- The mean of a list of numbers. -/
def mean (l : List ℚ) : ℚ := l.sum / l.length

/-- Ranges as `mergeOverlappingRanges` assumes them, sorted by start time, and
    inside the window. -/
structure StoredInOrder (startTime endTime : ℤ) (ranges : List TimeRange) : Prop where
  ordered : ∀ r ∈ ranges, r.Ordered
  sorted : Sorted ranges
  within : ∀ r ∈ ranges, startTime ≤ r.lo ∧ r.hi ≤ endTime

instance (startTime endTime : ℤ) (ranges : List TimeRange) :
    Decidable (StoredInOrder startTime endTime ranges) :=
  decidable_of_iff ((∀ r ∈ ranges, r.Ordered) ∧ Sorted ranges ∧
    ∀ r ∈ ranges, startTime ≤ r.lo ∧ r.hi ≤ endTime)
    ⟨fun ⟨h₁, h₂, h₃⟩ => ⟨h₁, h₂, h₃⟩, fun ⟨h₁, h₂, h₃⟩ => ⟨h₁, h₂, h₃⟩⟩

/-- The blocks merged from ranges in order span what is collected or bridged. -/
theorem coveredDuration_of_inOrder {startTime endTime : ℤ} {status : CollectionStatus}
    (h : StoredInOrder startTime endTime status.collectedRanges) :
    coveredDuration status = count startTime endTime (Accounted status.collectedRanges) := by
  have hsep := coalesce_separated le_withinSecond h.ordered
  rw [coveredDuration, mergeOverlappingRanges_eq,
    card_covered (coalesce_ordered _ h.ordered) (coalesce_within _ h.within)
      (hsep.imp (Apart.le le_withinSecond))]
  refine count_congr fun t _ _ => ?_
  rw [← mergeOverlappingRanges_eq]
  exact covered_merge_sorted h.ordered h.sorted t

/-- The missing ranges span the rest of the window. -/
theorem total_findMissingRanges {startTime endTime : ℤ} {ranges : List TimeRange}
    (hwindow : startTime < endTime) (hord : ∀ r ∈ ranges, r.Ordered) :
    total (findMissingRanges startTime endTime ranges) =
      endTime - startTime - count startTime endTime (Accounted ranges) := by
  obtain ⟨hpair, hin⟩ := findMissingRanges_inOrder hwindow hord
  have hcount : count startTime endTime (Covered (findMissingRanges startTime endTime ranges)) =
      count startTime endTime fun t => ¬Accounted ranges t :=
    count_congr fun t h₁ h₂ => by simp [covered_findMissingRanges hord, h₁, h₂]
  have hsplit := count_add_count_not hwindow.le (Accounted ranges)
  rw [card_covered (fun r hr => (hin r hr).2.1.le) (fun r hr => ⟨(hin r hr).1, (hin r hr).2.2⟩)
    hpair, hcount]
  omega

theorem fraction_le_one {startTime endTime : ℤ} (hwindow : startTime < endTime)
    (p : ℤ → Prop) [DecidablePred p] : fraction startTime endTime p ≤ 1 := by
  have hpos : (0 : ℚ) < (endTime - startTime : ℤ) := by exact_mod_cast sub_pos.2 hwindow
  rw [fraction, div_le_one hpos]
  exact_mod_cast count_le hwindow.le p

theorem mean_le_one {l : List ℚ} (h : ∀ x ∈ l, x ≤ 1) : mean l ≤ 1 := by
  have hsum : l.sum ≤ l.length • (1 : ℚ) := List.sum_le_card_nsmul l 1 h
  rw [nsmul_one] at hsum
  exact div_le_one_of_le₀ hsum (by positivity)

/-- The coverage of a run with a source to collect from. -/
theorem calculateCoverage_eq {startTime endTime : ℤ} {statuses : List CollectionStatus}
    (hne : collectable statuses ≠ []) :
    calculateCoverage (some ⟨some startTime, some endTime⟩) statuses =
      min 100 ((((collectable statuses).map coveredDuration).sum : ℚ) /
        ((endTime - startTime : ℤ) * (collectable statuses).length) * 100) := by
  have hstatuses : statuses ≠ [] := fun h => hne (by simp [h, collectable])
  simp [calculateCoverage, hstatuses, hne]

/-- For ranges in order, the coverage is the mean of the parts of the window
    that are collected or bridged. -/
theorem calculateCoverage_of_inOrder {startTime endTime : ℤ} (hwindow : startTime < endTime)
    {statuses : List CollectionStatus} (hne : collectable statuses ≠ [])
    (h : ∀ s ∈ collectable statuses, StoredInOrder startTime endTime s.collectedRanges) :
    calculateCoverage (some ⟨some startTime, some endTime⟩) statuses =
      100 * mean ((collectable statuses).map fun s =>
        fraction startTime endTime (Accounted s.collectedRanges)) := by
  have hsum : (((collectable statuses).map coveredDuration).sum : ℚ) /
      ((endTime - startTime : ℤ) * (collectable statuses).length) =
      mean ((collectable statuses).map fun s =>
        fraction startTime endTime (Accounted s.collectedRanges)) := by
    have hmap : (collectable statuses).map coveredDuration = (collectable statuses).map fun s =>
        count startTime endTime (Accounted s.collectedRanges) :=
      List.map_congr_left fun s hs => coveredDuration_of_inOrder (h s hs)
    rw [hmap, mean, List.length_map, ← div_div, Int.cast_list_sum, List.map_map]
    simp only [fraction, div_eq_mul_inv, List.sum_map_mul_right]
    rfl
  have hle := mean_le_one (l := (collectable statuses).map fun s =>
    fraction startTime endTime (Accounted s.collectedRanges)) fun x hx => by
      obtain ⟨s, -, rfl⟩ := List.mem_map.1 hx
      exact fraction_le_one hwindow _
  rw [calculateCoverage_eq hne, hsum, min_eq_right (by linarith), mul_comm]

/-- The part of the window that is collected or bridged is what the missing
    ranges leave of it. -/
theorem fraction_accounted {startTime endTime : ℤ} (hwindow : startTime < endTime)
    {ranges : List TimeRange} (hord : ∀ r ∈ ranges, r.Ordered) :
    fraction startTime endTime (Accounted ranges) =
      1 - total (findMissingRanges startTime endTime ranges) / (endTime - startTime : ℤ) := by
  have hpos : ((endTime - startTime : ℤ) : ℚ) ≠ 0 := by
    exact_mod_cast (sub_pos.2 hwindow).ne'
  rw [total_findMissingRanges hwindow hord, fraction]
  field_simp
  push_cast
  ring

/-- Appending a range to a source never lowers the coverage, in whatever order
    its ranges are stored. -/
theorem calculateCoverage_append {startTime endTime : ℤ} (hwindow : startTime < endTime)
    (before after : List CollectionStatus) (status : CollectionStatus) {newRange : TimeRange}
    (hrange : newRange.Ordered) :
    calculateCoverage (some ⟨some startTime, some endTime⟩) (before ++ status :: after) ≤
      calculateCoverage (some ⟨some startTime, some endTime⟩)
        (before ++ status.updateCollectedRanges newRange :: after) := by
  have htype : (status.updateCollectedRanges newRange).sourceType = status.sourceType := rfl
  by_cases hsource : status.sourceType = .performanceTest
  · -- The performance test is left out either way.
    simp [calculateCoverage, collectable, hsource, htype]
  have hcollect : ∀ s : CollectionStatus, s.sourceType = status.sourceType →
      collectable (before ++ s :: after) = collectable before ++ s :: collectable after :=
    fun s hs => by simp [collectable, hs, hsource]
  have hdur : coveredDuration status ≤ coveredDuration (status.updateCollectedRanges newRange) := by
    simp only [coveredDuration, mergeOverlappingRanges_eq]
    exact total_coalesce_append _ _ hrange
  have hpos : (0 : ℚ) < (endTime - startTime : ℤ) := by exact_mod_cast sub_pos.2 hwindow
  rw [calculateCoverage_eq (by simp [hcollect status rfl]),
    calculateCoverage_eq (by simp [hcollect _ htype]), hcollect _ rfl, hcollect _ htype]
  simp only [List.map_append, List.map_cons, List.sum_append, List.sum_cons, List.length_append,
    List.length_cons]
  have hdur' : (coveredDuration status : ℚ) ≤
      coveredDuration (status.updateCollectedRanges newRange) := by exact_mod_cast hdur
  have hden : (0 : ℚ) ≤ (endTime - startTime : ℤ) *
      ((collectable before).length + ((collectable after).length + 1) : ℕ) := by positivity
  push_cast at hden ⊢
  gcongr

theorem collectable_insert (before after : List CollectionStatus) (status : CollectionStatus) :
    collectable (before ++ status :: after) =
      collectable before ++ collectable [status] ++ collectable after := by
  rw [List.append_cons]
  simp only [collectable, List.filter_append]

/-- Rearranging the ranges of a source keeps the coverage, as long as they stay
    in order. -/
theorem calculateCoverage_perm {startTime endTime : ℤ} (hwindow : startTime < endTime)
    {before after : List CollectionStatus} {status : CollectionStatus} {ranges : List TimeRange}
    (h : ∀ s ∈ collectable (before ++ status :: after),
      StoredInOrder startTime endTime s.collectedRanges)
    (hperm : status.collectedRanges.Perm ranges)
    (hranges : StoredInOrder startTime endTime ranges) :
    calculateCoverage (some ⟨some startTime, some endTime⟩)
        (before ++ { status with collectedRanges := ranges } :: after) =
      calculateCoverage (some ⟨some startTime, some endTime⟩) (before ++ status :: after) := by
  by_cases hsource : status.sourceType = .performanceTest
  · simp [calculateCoverage, collectable, hsource]
  have hone : ∀ s : CollectionStatus, s.sourceType = status.sourceType → collectable [s] = [s] :=
    fun s hs => by simp [collectable, hs, hsource]
  have hfraction : fraction startTime endTime (Accounted ranges) =
      fraction startTime endTime (Accounted status.collectedRanges) := by
    rw [fraction, fraction, count_congr fun t _ _ => accounted_perm hperm.symm t]
  simp only [collectable_insert, hone _ rfl] at h
  rw [calculateCoverage_of_inOrder hwindow, calculateCoverage_of_inOrder hwindow]
  · simp [collectable_insert, hone, hfraction]
  · simp [collectable_insert, hone]
  · simpa [collectable_insert, hone] using h
  · simp [collectable_insert, hone]
  · intro s hs
    rw [collectable_insert, hone { status with collectedRanges := ranges } rfl] at hs
    simp only [List.mem_append, List.mem_singleton] at hs
    rcases hs with (hs | rfl) | hs
    · exact h s (by simp [hs])
    · exact hranges
    · exact h s (by simp [hs])

/-- The coverage agrees with the missing ranges, for sources whose ranges are
    stored in order inside the window: it is the mean of the parts of the window
    that are collected or in a gap of at most a second, which is what the missing
    ranges leave; a source with no missing range counts in full; rearranging the
    ranges of a source in order changes nothing. In whatever order the ranges
    are stored, appending one never lowers the coverage. -/
theorem calculateCoverage_agrees {startTime endTime : ℤ} (hwindow : startTime < endTime)
    (statuses : List CollectionStatus) (hne : collectable statuses ≠ []) :
    ((∀ s ∈ collectable statuses, StoredInOrder startTime endTime s.collectedRanges) →
      calculateCoverage (some ⟨some startTime, some endTime⟩) statuses =
        100 * mean ((collectable statuses).map fun s =>
          fraction startTime endTime (Accounted s.collectedRanges)) ∧
      calculateCoverage (some ⟨some startTime, some endTime⟩) statuses =
        100 * mean ((collectable statuses).map fun s =>
          1 - total (findMissingRanges startTime endTime s.collectedRanges) /
            (endTime - startTime : ℤ)) ∧
      (∀ s ∈ collectable statuses, findMissingRanges startTime endTime s.collectedRanges = [] →
        fraction startTime endTime (Accounted s.collectedRanges) = 1) ∧
      ∀ before status after ranges, statuses = before ++ status :: after →
        status.collectedRanges.Perm ranges → StoredInOrder startTime endTime ranges →
        calculateCoverage (some ⟨some startTime, some endTime⟩)
            (before ++ { status with collectedRanges := ranges } :: after) =
          calculateCoverage (some ⟨some startTime, some endTime⟩) statuses) ∧
    ∀ before status after, statuses = before ++ status :: after →
      ∀ newRange : TimeRange, newRange.Ordered →
        calculateCoverage (some ⟨some startTime, some endTime⟩) statuses ≤
          calculateCoverage (some ⟨some startTime, some endTime⟩)
            (before ++ status.updateCollectedRanges newRange :: after) := by
  refine ⟨fun h => ?_, ?_⟩
  · have hmean := calculateCoverage_of_inOrder hwindow hne h
    have hfraction : ∀ s ∈ collectable statuses,
        fraction startTime endTime (Accounted s.collectedRanges) =
          1 - total (findMissingRanges startTime endTime s.collectedRanges) /
            (endTime - startTime : ℤ) :=
      fun s hs => fraction_accounted hwindow (h s hs).ordered
    refine ⟨hmean, ?_, fun s hs hnone => ?_, ?_⟩
    · rw [hmean, List.map_congr_left hfraction]
    · rw [hfraction s hs, hnone, total_nil]
      simp
    · rintro before status after ranges rfl hperm hranges
      exact calculateCoverage_perm hwindow h hperm hranges
  · rintro before status after rfl newRange hrange
    exact calculateCoverage_append hwindow before after status hrange

/-- A source that was collected, but for the millisecond from `4` to `5`. -/
def almostCollected : CollectionStatus :=
  { CollectionStatus.fresh .grafana "default" with collectedRanges := [⟨0, 4⟩, ⟨5, 10⟩] }

/-- The same source, its gap retried first and last. -/
def collectedOutOfOrder : CollectionStatus :=
  { CollectionStatus.fresh .grafana "default" with collectedRanges := [⟨5, 10⟩, ⟨0, 5⟩] }

theorem calculateCoverage_agrees_almostCollected :
    calculateCoverage (some ⟨some 0, some 10⟩) [almostCollected] =
      100 * mean ([almostCollected].map fun s => fraction 0 10 (Accounted s.collectedRanges)) :=
  ((calculateCoverage_agrees (by decide) [almostCollected] (by decide)).1 (by decide)).1

/-- The coverage is not the part of the window inside the union of the ranges: a
    gap under a second is bridged, and ranges stored out of order lose what the
    block in progress does not reach back to. -/
theorem calculateCoverage_not_union :
    (calculateCoverage (some ⟨some 0, some 10⟩) [almostCollected] = 100 ∧
      100 * mean ([almostCollected].map fun s => fraction 0 10 (Covered s.collectedRanges)) = 90) ∧
    (calculateCoverage (some ⟨some 0, some 10⟩) [collectedOutOfOrder] = 50 ∧
      100 * mean ([collectedOutOfOrder].map fun s => fraction 0 10 (Covered s.collectedRanges)) =
        100) := by
  have h₁ : count 0 10 (Covered almostCollected.collectedRanges) = 9 := by decide
  have h₂ : count 0 10 (Covered collectedOutOfOrder.collectedRanges) = 10 := by decide
  have h₃ : coveredDuration almostCollected = 10 := by decide
  have h₄ : coveredDuration collectedOutOfOrder = 5 := by decide
  have h₅ : collectable [almostCollected] = [almostCollected] := by decide
  have h₆ : collectable [collectedOutOfOrder] = [collectedOutOfOrder] := by decide
  refine ⟨⟨?_, ?_⟩, ?_, ?_⟩
  · norm_num [calculateCoverage, h₅, h₃]
  · norm_num [mean, fraction, h₁]
  · norm_num [calculateCoverage, h₆, h₄]
  · norm_num [mean, fraction, h₂]

end Perfana
