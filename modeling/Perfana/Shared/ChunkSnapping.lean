import Perfana.Lib.Table
import Mathlib.Algebra.Order.Ring.Int
import Mathlib.Data.List.Induction

/-!
# Time bounds on the boundaries of chunks

A query for the samples of a run is bounded in time. One for several runs takes the span of their
bounds (`spanBounds`), and one that reads a whole run takes bounds that are widened to those of the
chunks of the table (`snapBoundsToChunks`), which are kept in memory for a minute. As a chunk does
not contain its end, a bound that was widened to it is exclusive.

* `keeps_timeBoundsSql`: the clause keeps the instants that the bounds allow;
* `allows_spanBounds`: the span of some bounds allows what one of them allows;
* `snapping_iff`: so do the bounds that were widened, if and only if the end is not lost: it is
  unless the last chunk that is known ends where the bounds do (`LosesEnd`).
-/

namespace Perfana.ChunkSnapping

/-! ## Bounds -/

/-- The bounds of a query, where there are any. -/
structure AnalysisBounds where
  startCutoff : Option ℤ
  /-- Inclusive unless `endExclusive`. -/
  endCutoff : Option ℤ
  endExclusive : Bool := false
  deriving DecidableEq

/-- The bounds allow an instant. -/
def AnalysisBounds.Allows (b : AnalysisBounds) (t : ℤ) : Prop :=
  (∀ s ∈ b.startCutoff, s ≤ t) ∧ ∀ e ∈ b.endCutoff, if b.endExclusive then t < e else t ≤ e

/-- A turn of the loops over the bounds: the cutoff that is beyond the best one replaces it. -/
def furthest (beyond : ℤ → ℤ → Bool) (cutoff : AnalysisBounds → Option ℤ) (best : Option ℤ)
    (b : AnalysisBounds) : Option (Option ℤ) :=
  (cutoff b).map fun t => some (if best.all (beyond t) then t else best.getD t)

/-- The cutoff beyond all others, unless one of them is missing. -/
def outermost (beyond : ℤ → ℤ → Bool) (cutoff : AnalysisBounds → Option ℤ)
    (all : List AnalysisBounds) : Option (Option ℤ) :=
  all.foldlM (furthest beyond cutoff) none

/-- One window that covers several runs: the earliest start and the latest end. -/
def spanBounds (all : List AnalysisBounds) : AnalysisBounds :=
  if all = [] then { startCutoff := none, endCutoff := none }
  else
    match outermost (fun t best => t < best) AnalysisBounds.startCutoff all with
    | none => { startCutoff := none, endCutoff := none }
    | some startCutoff =>
      match outermost (fun t best => t > best) AnalysisBounds.endCutoff all with
      | none => { startCutoff := startCutoff, endCutoff := none }
      | some endCutoff => { startCutoff := startCutoff, endCutoff := endCutoff }

/-! ## The clause -/

/-- How the time of a row is compared with a parameter. -/
inductive Comparison
  | atLeast
  | less
  | atMost
  deriving DecidableEq

def Comparison.text : Comparison → String
  | atLeast => ">="
  | less => "<"
  | atMost => "<="

/-- A comparison holds of the time of a row. -/
def Comparison.Holds : Comparison → ℤ → ℤ → Prop
  | atLeast, t, p => p ≤ t
  | less, t, p => t < p
  | atMost, t, p => t ≤ p

/-- A comparison with the parameter of a number. -/
structure Condition where
  comparison : Comparison
  index : ℕ
  deriving DecidableEq

def Condition.text (column : String) (c : Condition) : String :=
  column ++ " " ++ c.comparison.text ++ " $" ++ toString c.index ++ "::timestamptz"

/-- The predicates on the time, the values of their parameters, and the next number. -/
structure TimeClause where
  conditions : List Condition
  params : List ℤ
  nextIndex : ℕ

/-- The text of the clause. -/
def TimeClause.clause (column : String) (c : TimeClause) : String :=
  if c.conditions = [] then ""
  else "AND " ++ " AND ".intercalate (c.conditions.map (Condition.text column))

/-- The clause keeps a row, its parameters being numbered from `startIndex`. -/
def TimeClause.Keeps (c : TimeClause) (startIndex : ℕ) (t : ℤ) : Prop :=
  ∀ condition ∈ c.conditions,
    ∃ p, c.params[condition.index - startIndex]? = some p ∧ condition.comparison.Holds t p

/-- Add a predicate, if there is a value for it. -/
def TimeClause.push (c : TimeClause) (comparison : Comparison) : Option ℤ → TimeClause
  | some p =>
    { conditions := c.conditions ++ [{ comparison := comparison, index := c.nextIndex }]
      params := c.params ++ [p]
      nextIndex := c.nextIndex + 1 }
  | none => c

/-- The predicates for the bounds that there are, numbered from `startIndex`. -/
def timeBoundsSql (bounds : AnalysisBounds) (startIndex : ℕ) : TimeClause :=
  (({ conditions := [], params := [], nextIndex := startIndex } : TimeClause).push .atLeast
    bounds.startCutoff).push (if bounds.endExclusive then .less else .atMost) bounds.endCutoff

/-! ## Chunks -/

/-- The range of a chunk, which does not contain its end. -/
structure ChunkRange where
  start : ℤ
  stop : ℤ
  deriving DecidableEq

/-- The ranges that were read from the catalog, and when. -/
structure CacheEntry where
  time : ℤ
  ranges : List ChunkRange

def CHUNK_CACHE_TTL_MS : ℤ := 60000

/-- What is in memory, for each table. -/
abbrev ChunkCache := Table String CacheEntry

/-- What the catalog answers: the rows, which may lack a bound, or an error. -/
abbrev Catalog := String → Except String (Option (List (Option ℤ × Option ℤ)))

/-- The ranges of the rows that have both bounds. -/
def chunkRanges (rows : Option (List (Option ℤ × Option ℤ))) : List ChunkRange :=
  (rows.getD []).filterMap fun
    | (some start, some stop) => some { start := start, stop := stop }
    | _ => none

/-- The ranges that are in memory, or else those that are read and then kept; none if that fails. -/
def resolveChunks (query : Catalog) (hypertable : String) (now : ℤ) (cache : ChunkCache) :
    Option (List ChunkRange) × ChunkCache :=
  match (cache.get hypertable).filter fun entry => ¬now - entry.time > CHUNK_CACHE_TTL_MS with
  | some entry => (some entry.ranges, cache)
  | none =>
    match query hypertable with
    | .ok rows =>
      (some (chunkRanges rows),
        cache.set hypertable { time := now, ranges := chunkRanges rows })
    | .error _ => (none, cache)

/-- The window overlaps the chunk. -/
def touches (bounds : AnalysisBounds) (c : ChunkRange) : Bool :=
  bounds.endCutoff.all (fun hi => c.start ≤ hi) && bounds.startCutoff.all fun lo => c.stop > lo

/-- The last end of some chunks and the first start, which are widened to from others. -/
def maxEnd (first : ChunkRange) (rest : List ChunkRange) : ℤ :=
  rest.foldl (fun m c => max m c.stop) first.stop

def minStart (lo : ℤ) (touched : List ChunkRange) : ℤ :=
  touched.foldl (fun m c => min m c.start) lo

/-- The bounds that are widened to the chunks they touch. -/
def widen (bounds : AnalysisBounds) (ranges : List ChunkRange) : AnalysisBounds :=
  match ranges.filter (touches bounds) with
  | [] => bounds
  | first :: rest =>
    let maxChunkEnd := maxEnd first rest
    let snappedEnd := bounds.endCutoff.map fun hi => max hi maxChunkEnd
    { startCutoff := bounds.startCutoff.map fun lo => minStart lo (first :: rest)
      endCutoff := snappedEnd
      endExclusive := decide (snappedEnd = some maxChunkEnd) }

/-- Widen the bounds to the boundaries of the chunks they overlap, and never fail. -/
def snapBoundsToChunks (query : Catalog) (hypertable : String) (bounds : AnalysisBounds) (now : ℤ)
    (cache : ChunkCache) : AnalysisBounds × ChunkCache :=
  if bounds.startCutoff = none ∧ bounds.endCutoff = none then (bounds, cache)
  else
    match resolveChunks query hypertable now cache with
    | (none, cache) => (bounds, cache)
    | (some ranges, cache) => (widen bounds ranges, cache)

/-! ## What the clause keeps -/

/-- The clause keeps the instants that the bounds allow. -/
theorem keeps_timeBoundsSql (bounds : AnalysisBounds) (startIndex : ℕ) (t : ℤ) :
    (timeBoundsSql bounds startIndex).Keeps startIndex t ↔ bounds.Allows t := by
  obtain ⟨start, stop, exclusive⟩ := bounds
  cases start <;> cases stop <;> cases exclusive <;>
    simp [timeBoundsSql, TimeClause.push, TimeClause.Keeps, AnalysisBounds.Allows,
      Comparison.Holds]

/-! ## Spans -/

section Outermost

variable {beyond : ℤ → ℤ → Bool} {cutoff : AnalysisBounds → Option ℤ} {le : ℤ → ℤ → Prop}

theorem foldlM_furthest (hrefl : ∀ a, le a a) (htrans : ∀ a b c, le a b → le b c → le a c)
    (hbeyond : ∀ t best, if beyond t best then le t best else le best t)
    {all : List AnalysisBounds} {best r : Option ℤ}
    (h : all.foldlM (furthest beyond cutoff) best = some r) :
    (∀ b ∈ all, ∃ a ∈ r, ∃ t ∈ cutoff b, le a t) ∧ ∀ a₀ ∈ best, ∃ a ∈ r, le a a₀ := by
  induction all generalizing best with
  | nil =>
    obtain rfl := Option.some.inj h
    exact ⟨fun b hb => absurd hb List.not_mem_nil, fun a₀ ha₀ => ⟨a₀, ha₀, hrefl a₀⟩⟩
  | cons b all ih =>
    rw [List.foldlM_cons, furthest] at h
    cases ht : cutoff b with
    | none =>
      rw [ht] at h
      cases h
    | some t =>
      rw [ht] at h
      obtain ⟨hall, hbest⟩ := ih h
      -- The new best is not behind the cutoff, and not behind the old best.
      obtain ⟨a, har, hle⟩ := hbest _ rfl
      have hnew : le a t ∧ ∀ a₀ ∈ best, le a a₀ := by
        cases best with
        | none => exact ⟨hle, fun a₀ ha₀ => absurd ha₀ (Option.not_mem_none a₀)⟩
        | some best =>
          have hstep := hbeyond t best
          rw [Option.all_some, Option.getD_some] at hle
          split at hle
          · rename_i hb
            rw [if_pos hb] at hstep
            exact ⟨hle, fun a₀ ha₀ => Option.some.inj ha₀ ▸ htrans _ _ _ hle hstep⟩
          · rename_i hb
            rw [if_neg hb] at hstep
            exact ⟨htrans _ _ _ hle hstep, fun a₀ ha₀ => Option.some.inj ha₀ ▸ hle⟩
      refine ⟨fun b' hb' => ?_, fun a₀ ha₀ => ⟨a, har, hnew.2 a₀ ha₀⟩⟩
      rcases List.mem_cons.1 hb' with rfl | hb'
      · exact ⟨a, har, t, ht, hnew.1⟩
      · exact hall b' hb'

/-- No cutoff is beyond the outermost one. -/
theorem le_outermost (le : ℤ → ℤ → Prop) (hrefl : ∀ a, le a a) (htrans : ∀ a b c, le a b → le b c → le a c)
    (hbeyond : ∀ t best, if beyond t best then le t best else le best t)
    {all : List AnalysisBounds} {r : Option ℤ} (h : outermost beyond cutoff all = some r)
    {b : AnalysisBounds} (hb : b ∈ all) : ∃ a ∈ r, ∃ t ∈ cutoff b, le a t :=
  (foldlM_furthest hrefl htrans hbeyond h).1 b hb

end Outermost

/-- The span of some bounds allows what one of them allows. -/
theorem allows_spanBounds {all : List AnalysisBounds} {b : AnalysisBounds} (hb : b ∈ all) {t : ℤ}
    (h : b.Allows t) : (spanBounds all).Allows t := by
  have hstart : ∀ r, outermost (fun t best => t < best) AnalysisBounds.startCutoff all = some r →
      ∀ s ∈ r, s ≤ t := by
    intro r hr s hs
    have hbeyond : ∀ t best : ℤ, if decide (t < best) = true then t ≤ best else best ≤ t :=
      fun t best => by
        simp only [decide_eq_true_eq]
        split <;> omega
    obtain ⟨a, ha, t', ht', hle⟩ := le_outermost (fun a t => a ≤ t) le_refl
      (fun _ _ _ => le_trans) hbeyond hr hb
    obtain rfl := Option.mem_unique ha hs
    exact hle.trans (h.1 t' ht')
  have hstop : ∀ r, outermost (fun t best => t > best) AnalysisBounds.endCutoff all = some r →
      ∀ e ∈ r, t ≤ e := by
    intro r hr e he
    have hbeyond : ∀ t best : ℤ, if decide (t > best) = true then best ≤ t else t ≤ best :=
      fun t best => by
        simp only [decide_eq_true_eq]
        split <;> omega
    obtain ⟨a, ha, t', ht', hle⟩ := le_outermost (fun a t => t ≤ a) le_refl
      (fun _ _ _ h h' => h'.trans h) hbeyond hr hb
    obtain rfl := Option.mem_unique ha he
    have hend := h.2 t' ht'
    split at hend
    · exact hend.le.trans hle
    · exact hend.trans hle
  rw [spanBounds, if_neg (List.ne_nil_of_mem hb)]
  split
  · exact ⟨fun s hs => absurd hs (Option.not_mem_none s),
      fun e he => absurd he (Option.not_mem_none e)⟩
  · rename_i startCutoff hr
    split
    · exact ⟨hstart _ hr, fun e he => absurd he (Option.not_mem_none e)⟩
    · rename_i endCutoff hr'
      exact ⟨hstart _ hr, hstop _ hr'⟩

/-! ## Snapping -/

theorem le_maxEnd (first : ChunkRange) (rest : List ChunkRange) :
    (∀ c ∈ first :: rest, c.stop ≤ maxEnd first rest) ∧
      ∃ c ∈ first :: rest, c.stop = maxEnd first rest := by
  induction rest using List.reverseRecOn with
  | nil => simp [maxEnd]
  | append_singleton rest c ih =>
    obtain ⟨hle, c', hc', heq⟩ := ih
    have hstep : maxEnd first (rest ++ [c]) = max (maxEnd first rest) c.stop := by
      rw [maxEnd, List.foldl_append]
      rfl
    rw [hstep]
    refine ⟨fun d hd => ?_, ?_⟩
    · rw [← List.cons_append, List.mem_append] at hd
      rcases hd with hd | hd
      · exact (hle d hd).trans (le_max_left _ _)
      · rw [List.mem_singleton.1 hd]
        exact le_max_right _ _
    · rcases le_total c.stop (maxEnd first rest) with hc | hc
      · exact ⟨c', by simp at hc' ⊢; tauto, by rw [heq, max_eq_left hc]⟩
      · exact ⟨c, by simp, by rw [max_eq_right hc]⟩

theorem minStart_le (lo : ℤ) (touched : List ChunkRange) : minStart lo touched ≤ lo := by
  induction touched using List.reverseRecOn with
  | nil => exact le_rfl
  | append_singleton touched c ih =>
    rw [minStart, List.foldl_append]
    exact (min_le_left _ _).trans ih

/-- The end of the bounds is lost: it is inclusive, and the last of the chunks that the window
    overlaps ends there. -/
def LosesEnd (bounds : AnalysisBounds) (ranges : List ChunkRange) : Prop :=
  ∃ hi ∈ bounds.endCutoff, bounds.endExclusive = false ∧
    (∃ c ∈ ranges, touches bounds c = true ∧ c.stop = hi) ∧
    ∀ c ∈ ranges, touches bounds c = true → c.stop ≤ hi

/-- The bounds that were widened allow what the bounds did, unless the end is lost. -/
theorem allows_widen_iff (bounds : AnalysisBounds) (ranges : List ChunkRange) :
    (∀ t, bounds.Allows t → (widen bounds ranges).Allows t) ↔ ¬LosesEnd bounds ranges := by
  have hmem : ∀ c, c ∈ ranges.filter (touches bounds) ↔ c ∈ ranges ∧ touches bounds c = true :=
    fun c => List.mem_filter
  rw [widen]
  split
  · rename_i hnil
    refine iff_of_true (fun t h => h) ?_
    rintro ⟨hi, -, -, ⟨c, hc, htouches, -⟩, -⟩
    exact absurd ((hmem c).2 ⟨hc, htouches⟩) (by simp [hnil])
  · rename_i first rest htouched
    rw [htouched] at hmem
    obtain ⟨hle, last, hlast, hstop⟩ := le_maxEnd first rest
    have hlosesEnd : LosesEnd bounds ranges ↔
        bounds.endCutoff = some (maxEnd first rest) ∧ bounds.endExclusive = false := by
      constructor
      · rintro ⟨hi, hhi, hinclusive, ⟨c, hc, htouches, rfl⟩, hall⟩
        have hcle := hle c ((hmem c).2 ⟨hc, htouches⟩)
        have hlastle := hall last ((hmem last).1 hlast).1 ((hmem last).1 hlast).2
        rw [← le_antisymm hcle (hstop ▸ hlastle)]
        exact ⟨hhi, hinclusive⟩
      · rintro ⟨hhi, hinclusive⟩
        exact ⟨_, hhi, hinclusive, ⟨last, ((hmem last).1 hlast).1, ((hmem last).1 hlast).2, hstop⟩,
          fun c hc htouches => hle c ((hmem c).2 ⟨hc, htouches⟩)⟩
    rw [hlosesEnd]
    constructor
    · -- The end is allowed, and the chunk that ends there does not contain it.
      rintro h ⟨hhi, hinclusive⟩
      have htouches := ((hmem last).1 hlast).2
      rw [touches, Bool.and_eq_true, Option.all_eq_true, Option.all_eq_true] at htouches
      have hend : bounds.Allows (maxEnd first rest) := by
        refine ⟨fun s hs => ?_, fun e he => ?_⟩
        · exact hstop ▸ (of_decide_eq_true (htouches.2 s hs)).le
        · rw [hhi] at he
          simp [hinclusive, Option.some.inj he]
      have hlost := (h _ hend).2 (maxEnd first rest) (by simp [hhi])
      simp [hhi] at hlost
    · intro h t ⟨hstart, hend⟩
      refine ⟨fun s hs => ?_, fun e he => ?_⟩
      · obtain ⟨lo, hlo, rfl⟩ := Option.map_eq_some_iff.1 hs
        exact (minStart_le lo _).trans (hstart lo hlo)
      · obtain ⟨hi, hhi, rfl⟩ := Option.map_eq_some_iff.1 he
        have hle := hend hi hhi
        by_cases heq : hi ≤ maxEnd first rest
        · simp only [hhi, Option.map_some, max_eq_right heq, decide_true, if_true]
          split at hle
          · exact lt_of_lt_of_le hle heq
          · rename_i hinclusive
            have hne : hi ≠ maxEnd first rest := fun hne =>
              h ⟨hne ▸ hhi, by simpa using hinclusive⟩
            omega
        · have hne : max hi (maxEnd first rest) ≠ maxEnd first rest := by omega
          simp only [hhi, Option.map_some, Option.some.injEq, hne, decide_false]
          split at hle
          · exact le_max_of_le_left hle.le
          · exact le_max_of_le_left hle

/-- The end of the bounds is lost to a query that finds the chunks in memory or reads them. -/
def EndIsLost (query : Catalog) (hypertable : String) (bounds : AnalysisBounds) (now : ℤ)
    (cache : ChunkCache) : Prop :=
  ∃ ranges, (resolveChunks query hypertable now cache).1 = some ranges ∧ LosesEnd bounds ranges

/-- Whatever is in memory and whatever the catalog answers, the clause for the bounds that were
    widened keeps the rows that the clause for the bounds keeps, if and only if the end is not lost;
    and the clause for the span of some bounds keeps the rows that one of theirs keeps. -/
theorem snapping_iff (startIndex : ℕ) :
    (∀ query hypertable bounds now cache,
      (∀ t, (timeBoundsSql bounds startIndex).Keeps startIndex t →
        (timeBoundsSql (snapBoundsToChunks query hypertable bounds now cache).1 startIndex).Keeps
          startIndex t) ↔
      ¬EndIsLost query hypertable bounds now cache) ∧
    ∀ all, ∀ b ∈ all, ∀ t, (timeBoundsSql b startIndex).Keeps startIndex t →
      (timeBoundsSql (spanBounds all) startIndex).Keeps startIndex t := by
  simp only [keeps_timeBoundsSql]
  refine ⟨fun query hypertable bounds now cache => ?_, fun all b hb t => allows_spanBounds hb⟩
  rw [snapBoundsToChunks, EndIsLost]
  split
  · -- There is no end to lose.
    rename_i hnone
    refine iff_of_true (fun t h => h) ?_
    rintro ⟨ranges, -, hi, hhi, -⟩
    rw [hnone.2] at hhi
    cases hhi
  · rcases resolveChunks query hypertable now cache with ⟨_ | ranges, cache'⟩
    · refine iff_of_true (fun t h => h) ?_
      rintro ⟨ranges, hranges, -⟩
      cases hranges
    · simp only [Option.some.injEq, exists_eq_left']
      exact allows_widen_iff bounds ranges

/-- A run that ends where the last chunk in memory does, while the table has a later one. -/
theorem not_snapping_stale :
    ¬∀ (query : Catalog) (hypertable : String) (bounds : AnalysisBounds) (now : ℤ)
      (cache : ChunkCache) (t : ℤ), (timeBoundsSql bounds 1).Keeps 1 t →
        (timeBoundsSql (snapBoundsToChunks query hypertable bounds now cache).1 1).Keeps 1 t := by
  intro h
  have hkeeps := h (fun _ => .ok (some [(some 0, some 1000), (some 1000, some 2000)]))
    "requests_raw" { startCutoff := some 200, endCutoff := some 1000 } 30000
    (Table.empty.set "requests_raw" { time := 0, ranges := [{ start := 0, stop := 1000 }] }) 1000
  simp only [keeps_timeBoundsSql] at hkeeps
  have hlost := (hkeeps ⟨by simp, by simp⟩).2 1000 (by decide)
  exact absurd hlost (by decide)

end Perfana.ChunkSnapping
