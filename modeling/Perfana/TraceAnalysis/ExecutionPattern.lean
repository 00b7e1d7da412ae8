import Perfana.Lib.StableSort
import Perfana.TraceAnalysis.SpanAggregation
import Mathlib.Data.List.Induction
import Mathlib.Data.Rat.Floor
import Mathlib.Order.Bounds.Basic

/-!
# Execution patterns

How many spans of a trace are open is counted along its starts and ends, sorted by their times; at
one time they are in the order in which the spans came. So when a span ends where another one
starts, it depends on that order whether both are counted.

* `timeline_eq`: the starts and ends come in the same order, whatever the order of the spans is, if
  no span ends where another one starts;
* `isGreatest_maxConcurrent`: then the spans of a trace that are open at the same time are counted.
-/

namespace Perfana.TraceAnalysis

inductive EventType
  | start
  | stop
  deriving DecidableEq

structure Event where
  time : ℤ
  type : EventType
  deriving DecidableEq

/-- What is counted along the events. -/
structure Counts where
  concurrent : ℤ := 0
  maxConcurrent : ℤ := 0
  totalConcurrent : ℤ := 0
  samples : ℕ := 0
  deriving DecidableEq

structure ExecutionPattern where
  isSequential : Bool
  parallelismRatio : ℚ
  maxConcurrentSpans : ℚ
  avgConcurrentSpans : ℚ
  deriving DecidableEq

structure ExecutionPatternComparison where
  current : ExecutionPattern
  baseline : ExecutionPattern
  patternChanged : Bool
  parallelismChange : ℚ
  deriving DecidableEq

/-- The event comes before another one, or at the same time. -/
def Event.NotAfter (a b : Event) : Prop := a.time ≤ b.time

instance : DecidableRel Event.NotAfter := fun a b => inferInstanceAs (Decidable (a.time ≤ b.time))

instance : Std.Total Event.NotAfter := ⟨fun a b => le_total a.time b.time⟩

instance : IsTrans Event Event.NotAfter := ⟨fun _ _ _ => le_trans (α := ℤ)⟩

def OTelSpan.events (s : OTelSpan) : List Event :=
  [⟨s.startTimeUnixNano, .start⟩, ⟨s.endTimeUnixNano, .stop⟩]

/-- The starts and ends of the spans of a trace, sorted by their times. -/
def OTelTrace.timeline (t : OTelTrace) : List Event :=
  (t.spans.flatMap OTelSpan.events).insertionSort Event.NotAfter

def Counts.count (c : Counts) (e : Event) : Counts :=
  match e.type with
  | .start =>
    { c with
      concurrent := c.concurrent + 1
      maxConcurrent := max c.maxConcurrent (c.concurrent + 1) }
  | .stop =>
    { c with
      totalConcurrent := c.totalConcurrent + c.concurrent
      samples := c.samples + 1
      concurrent := c.concurrent - 1 }

def OTelTrace.counts (t : OTelTrace) : Counts := t.timeline.foldl Counts.count {}

/-- How many spans are open when one ends, on average. -/
def Counts.avgConcurrent (c : Counts) : ℚ :=
  if 0 < c.samples then c.totalConcurrent / c.samples else 0

def mathRound (x : ℚ) : ℤ := ⌊x + 1 / 2⌋

def calculateExecutionPattern (traces : List OTelTrace) : ExecutionPattern :=
  if traces.isEmpty then
    { isSequential := true, parallelismRatio := 0, maxConcurrentSpans := 0,
      avgConcurrentSpans := 0 }
  else
    let totalMaxConcurrent : ℚ := (traces.map fun t => (t.counts.maxConcurrent : ℚ)).sum
    let totalAvgConcurrent : ℚ := (traces.map fun t => t.counts.avgConcurrent).sum
    let avgMaxConcurrent := totalMaxConcurrent / traces.length
    let avgConcurrent := totalAvgConcurrent / traces.length
    let avgSpans : ℚ := (traces.map fun t => (t.spanCount : ℚ)).sum / traces.length
    let parallelismRatio := if 0 < avgSpans then avgMaxConcurrent / avgSpans else 0
    { isSequential := avgMaxConcurrent ≤ 2
      parallelismRatio := mathRound (parallelismRatio * 100) / 100
      maxConcurrentSpans := mathRound (avgMaxConcurrent * 10) / 10
      avgConcurrentSpans := mathRound (avgConcurrent * 10) / 10 }

def analyzeExecutionPatterns (currentTraces baselineTraces : List OTelTrace) :
    ExecutionPatternComparison :=
  let currentPattern := calculateExecutionPattern currentTraces
  let baselinePattern := calculateExecutionPattern baselineTraces
  { current := currentPattern
    baseline := baselinePattern
    patternChanged := currentPattern.isSequential ≠ baselinePattern.isSequential
    parallelismChange := mathRound
      ((currentPattern.parallelismRatio - baselinePattern.parallelismRatio) * 100) / 100 }

/-! ## The order of the events -/

/-- A span ends where another one starts only if both are empty. -/
def OTelTrace.HasApartSpans (t : OTelTrace) : Prop :=
  ∀ s ∈ t.spans, ∀ s' ∈ t.spans, s.endTimeUnixNano = s'.startTimeUnixNano →
    s.startTimeUnixNano = s.endTimeUnixNano ∧ s'.startTimeUnixNano = s'.endTimeUnixNano

/-- Lists that are sorted by time are the same if they are at each time. -/
theorem eq_of_filter_time {l l' : List Event} (hl : l.Pairwise Event.NotAfter)
    (hl' : l'.Pairwise Event.NotAfter)
    (h : ∀ x, l.filter (·.time = x) = l'.filter (·.time = x)) : l = l' := by
  induction l generalizing l' with
  | nil =>
    cases l' with
    | nil => rfl
    | cons b l' =>
      have hb := h b.time
      rw [List.filter_cons_of_pos (by simp)] at hb
      cases hb
  | cons a l ih =>
    cases l' with
    | nil =>
      have ha := h a.time
      rw [List.filter_cons_of_pos (by simp)] at ha
      cases ha
    | cons b l' =>
      obtain ⟨ha, htail⟩ := List.pairwise_cons.1 hl
      obtain ⟨hb, htail'⟩ := List.pairwise_cons.1 hl'
      -- Each of the first events is in the other list, too.
      have hfirst : ∀ {a b : Event} {l l' : List Event}, (∀ e ∈ l', b.NotAfter e) →
          (a :: l).filter (·.time = a.time) = (b :: l').filter (·.time = a.time) →
          b.time ≤ a.time := by
        intro a b l l' hb heq
        have hmem : a ∈ (b :: l').filter (·.time = a.time) := by
          rw [← heq, List.filter_cons_of_pos (by simp)]
          exact List.mem_cons_self
        rcases List.mem_cons.1 (List.mem_of_mem_filter hmem) with rfl | hmem
        · exact le_rfl
        · exact hb a hmem
      have htime : a.time = b.time :=
        le_antisymm (hfirst ha (h b.time).symm) (hfirst hb (h a.time))
      have hhead := h a.time
      rw [List.filter_cons_of_pos (by simp), List.filter_cons_of_pos (by simp [htime])] at hhead
      obtain ⟨rfl, hrest⟩ := List.cons.inj hhead
      refine congrArg (a :: ·) (ih htail htail' fun x => ?_)
      by_cases hx : a.time = x
      · subst hx
        exact hrest
      · have hall := h x
        rwa [List.filter_cons_of_neg (by simpa using hx),
          List.filter_cons_of_neg (by simpa using hx)] at hall

/-- If the pieces are the same, unless they are empty, their order does not matter. -/
theorem flatMap_eq_of_perm {α β : Type*} {f : α → List β} {l l' : List α} (h : l.Perm l')
    (hf : ∀ a ∈ l, ∀ b ∈ l, f a = [] ∨ f b = [] ∨ f a = f b) : l.flatMap f = l'.flatMap f := by
  induction h with
  | nil => rfl
  | cons a _ ih =>
    rw [List.flatMap_cons, List.flatMap_cons, ih fun b hb c hc =>
      hf b (List.mem_cons_of_mem _ hb) c (List.mem_cons_of_mem _ hc)]
  | swap a b l =>
    have hswap : f b ++ f a = f a ++ f b := by
      rcases hf a (List.mem_cons_of_mem _ List.mem_cons_self) b List.mem_cons_self with
        ha | hb | hab
      · rw [ha, List.append_nil, List.nil_append]
      · rw [hb, List.append_nil, List.nil_append]
      · rw [hab]
    simp only [List.flatMap_cons]
    rw [← List.append_assoc, hswap, List.append_assoc]
  | trans hab _ ihab ihbc =>
    rw [ihab hf, ihbc fun b hb c hc => hf b (hab.mem_iff.2 hb) c (hab.mem_iff.2 hc)]

/-- The events of a time are those of one kind of spans. -/
theorem filter_events {t : OTelTrace} (h : t.HasApartSpans) {s s' : OTelSpan} (hs : s ∈ t.spans)
    (hs' : s' ∈ t.spans) (x : ℤ) :
    s.events.filter (·.time = x) = [] ∨ s'.events.filter (·.time = x) = [] ∨
      s.events.filter (·.time = x) = s'.events.filter (·.time = x) := by
  have hself := h s hs s' hs'
  have hother := h s' hs' s hs
  by_cases hstart : s.startTimeUnixNano = x <;> by_cases hend : s.endTimeUnixNano = x <;>
    by_cases hstart' : s'.startTimeUnixNano = x <;> by_cases hend' : s'.endTimeUnixNano = x <;>
      simp_all [OTelSpan.events]

theorem timeline_eq {t t' : OTelTrace} (h : SameTrace t t') (hapart : t.HasApartSpans) :
    t'.timeline = t.timeline := by
  refine (eq_of_filter_time (List.pairwise_insertionSort _ _) (List.pairwise_insertionSort _ _)
    fun x => ?_).symm
  rw [StableSort.filter_insertionSort, StableSort.filter_insertionSort, List.filter_flatMap,
    List.filter_flatMap]
  exact congrArg _ (flatMap_eq_of_perm h.spans fun s hs s' hs' => filter_events hapart hs hs' x)

/-- The pattern does not depend on the order of the traces, nor of their spans. -/
theorem calculateExecutionPattern_reordered {traces traces' : List OTelTrace}
    (h : Reordered traces traces') (hapart : ∀ t ∈ traces, t.HasApartSpans) :
    calculateExecutionPattern traces' = calculateExecutionPattern traces := by
  obtain ⟨l, hperm, hsame⟩ := h
  have hl : ∀ t ∈ l, t.HasApartSpans := fun t ht => hapart t (hperm.mem_iff.2 ht)
  have hmap : ∀ {β : Type} (f : Counts → ℕ → β),
      traces'.map (fun t => f t.counts t.spanCount) = l.map fun t => f t.counts t.spanCount := by
    intro β f
    clear hperm hapart
    induction hsame with
    | nil => rfl
    | @cons t t' l traces' h _ ih =>
      rw [List.map_cons, List.map_cons, ih fun u hu => hl u (List.mem_cons_of_mem _ hu),
        OTelTrace.counts, timeline_eq h (hl t List.mem_cons_self), h.spanCount]
      rfl
  have hsum : ∀ f : Counts → ℕ → ℚ, (traces'.map fun t => f t.counts t.spanCount).sum =
      (traces.map fun t => f t.counts t.spanCount).sum := fun f => by
    rw [hmap f]
    exact (hperm.map _).sum_eq.symm
  have hlength : traces'.length = traces.length :=
    hsame.length_eq.symm.trans hperm.length_eq.symm
  have hempty : traces'.isEmpty = traces.isEmpty := by
    rw [Bool.eq_iff_iff, List.isEmpty_iff_length_eq_zero, List.isEmpty_iff_length_eq_zero, hlength]
  have hmax := hsum fun c _ => (c.maxConcurrent : ℚ)
  have havg := hsum fun c _ => c.avgConcurrent
  have hcount := hsum fun _ n => (n : ℚ)
  rw [calculateExecutionPattern, calculateExecutionPattern, hempty]
  dsimp only at hmax havg hcount ⊢
  rw [hmax, havg, hcount, hlength]

/-! ## The largest number of open spans -/

/-- How many events are of a type. -/
def countType (type : EventType) (l : List Event) : ℤ := l.countP (·.type = type)

/-- The spans that are open after some events. -/
def openAfter (l : List Event) : ℤ := countType .start l - countType .stop l

theorem countType_append (type : EventType) (l l' : List Event) :
    countType type (l ++ l') = countType type l + countType type l' := by
  rw [countType, List.countP_append, Nat.cast_add]
  rfl

theorem countType_nonneg (type : EventType) (l : List Event) : 0 ≤ countType type l :=
  Int.natCast_nonneg _

/-- What is counted: the spans that are open, and the most that were after any of the events. -/
theorem counts_spec (l : List Event) :
    (l.foldl Counts.count {}).concurrent = openAfter l ∧
    (∀ p, p <+: l → openAfter p ≤ (l.foldl Counts.count {}).maxConcurrent) ∧
    ((l.foldl Counts.count {}).maxConcurrent = 0 ∨ ∃ p e, p ++ [e] <+: l ∧ e.type = .start ∧
      (l.foldl Counts.count {}).maxConcurrent = openAfter (p ++ [e])) := by
  induction l using List.reverseRecOn with
  | nil =>
    refine ⟨rfl, fun p hp => ?_, .inl rfl⟩
    rw [List.prefix_nil.1 hp]
    exact le_rfl
  | append_singleton l e ih =>
    obtain ⟨hconcurrent, hmax, hreached⟩ := ih
    have hkeep : ∀ {p e'}, p ++ [e'] <+: l → p ++ [e'] <+: l ++ [e] := fun h =>
      h.trans (List.prefix_append l [e])
    have hsnoc : openAfter (l ++ [e]) = openAfter l + match e.type with
        | .start => 1
        | .stop => -1 := by
      rw [openAfter, countType_append, countType_append, openAfter]
      cases htype : e.type <;> simp [countType, htype] <;> ring
    rw [List.foldl_append, List.foldl_cons, List.foldl_nil, Counts.count]
    cases htype : e.type with
    | start =>
      rw [htype] at hsnoc
      dsimp only at hsnoc ⊢
      refine ⟨by rw [hconcurrent, hsnoc], fun p hp => ?_, ?_⟩
      · rcases List.prefix_concat_iff.1 hp with rfl | hp
        · rw [hsnoc, hconcurrent]
          exact le_max_right _ _
        · exact (hmax p hp).trans (le_max_left _ _)
      · rcases le_total (l.foldl Counts.count {}).maxConcurrent
          ((l.foldl Counts.count {}).concurrent + 1) with hle | hle
        · refine .inr ⟨l, e, List.prefix_rfl, htype, ?_⟩
          rw [max_eq_right hle, hsnoc, hconcurrent]
        · rw [max_eq_left hle]
          refine hreached.imp_right ?_
          rintro ⟨p, e', hp, htype', heq⟩
          exact ⟨p, e', hkeep hp, htype', heq⟩
    | stop =>
      rw [htype] at hsnoc
      dsimp only at hsnoc ⊢
      refine ⟨by rw [hconcurrent, hsnoc]; rfl, fun p hp => ?_, ?_⟩
      · rcases List.prefix_concat_iff.1 hp with rfl | hp
        · have hle := hmax l List.prefix_rfl
          rw [hsnoc]
          omega
        · exact hmax p hp
      · refine hreached.imp_right ?_
        rintro ⟨p, e', hp, htype', heq⟩
        exact ⟨p, e', hkeep hp, htype', heq⟩

/-- The spans that are open at a time. -/
def OTelTrace.openAt (t : OTelTrace) (x : ℤ) : ℤ :=
  t.spans.countP fun s => s.startTimeUnixNano ≤ x ∧ x < s.endTimeUnixNano

/-- The spans take time. -/
def OTelTrace.HasPositiveDurations (t : OTelTrace) : Prop :=
  ∀ s ∈ t.spans, s.startTimeUnixNano < s.endTimeUnixNano

/-- In a sorted list, what is not after a time comes first. -/
theorem filter_time_le {l : List Event} (hl : l.Pairwise Event.NotAfter) (x : ℤ) :
    l.filter (·.time ≤ x) <+: l := by
  induction l with
  | nil => exact List.prefix_rfl
  | cons e l ih =>
    obtain ⟨he, hl⟩ := List.pairwise_cons.1 hl
    by_cases hx : e.time ≤ x
    · rw [List.filter_cons_of_pos (by simpa using hx)]
      exact List.prefix_cons_inj e |>.2 (ih hl)
    · have hnil : l.filter (·.time ≤ x) = [] := by
        rw [List.filter_eq_nil_iff]
        intro e' he'
        have hle : e.time ≤ e'.time := he e' he'
        simp only [decide_eq_true_eq]
        omega
      rw [List.filter_cons_of_neg (by simpa using hx), hnil]
      exact ⟨e :: l, rfl⟩

/-- The spans that are open at a time are those that have started until then and not ended. -/
theorem openAfter_filter {t : OTelTrace} (h : t.HasPositiveDurations) (x : ℤ) :
    openAfter (t.timeline.filter (·.time ≤ x)) = t.openAt x := by
  have hperm : ∀ type, countType type (t.timeline.filter (·.time ≤ x)) =
      countType type ((t.spans.flatMap OTelSpan.events).filter (·.time ≤ x)) := fun type =>
    congrArg Nat.cast (((List.perm_insertionSort _ _).filter _).countP_eq _)
  rw [openAfter, hperm, hperm, OTelTrace.openAt]
  obtain ⟨spans, n⟩ := t
  dsimp only [OTelTrace.HasPositiveDurations] at h ⊢
  clear hperm
  induction spans with
  | nil => rfl
  | cons s spans ih =>
    have hrest := ih fun s' hs' => h s' (List.mem_cons_of_mem _ hs')
    have hs := h s List.mem_cons_self
    rw [List.flatMap_cons, List.filter_append, countType_append, countType_append,
      List.countP_cons]
    have hone : countType .start (s.events.filter (·.time ≤ x)) -
        countType .stop (s.events.filter (·.time ≤ x)) =
        if s.startTimeUnixNano ≤ x ∧ x < s.endTimeUnixNano then 1 else 0 := by
      by_cases hstart : s.startTimeUnixNano ≤ x
      · by_cases hend : s.endTimeUnixNano ≤ x
        · simp [OTelSpan.events, countType, hstart, hend, not_lt.2 hend]
        · simp [OTelSpan.events, countType, hstart, hend, not_le.1 hend]
      · have hend : ¬ s.endTimeUnixNano ≤ x := by omega
        simp [OTelSpan.events, countType, hstart, hend]
    by_cases hopen : s.startTimeUnixNano ≤ x ∧ x < s.endTimeUnixNano
    · rw [if_pos hopen] at hone
      rw [if_pos (decide_eq_true hopen)]
      push_cast
      omega
    · rw [if_neg hopen] at hone
      rw [if_neg (by simpa using hopen)]
      push_cast
      omega

theorem mem_timeline {t : OTelTrace} {e : Event} :
    e ∈ t.timeline ↔ ∃ s ∈ t.spans, e ∈ s.events := by
  rw [OTelTrace.timeline, List.mem_insertionSort, List.mem_flatMap]

/-- No span ends where one starts. -/
theorem time_ne {t : OTelTrace} (hpositive : t.HasPositiveDurations) (hapart : t.HasApartSpans)
    {e e' : Event} (he : e ∈ t.timeline) (he' : e' ∈ t.timeline) (hstart : e.type = .start)
    (hstop : e'.type = .stop) : e'.time ≠ e.time := by
  obtain ⟨s, hs, hmem⟩ := mem_timeline.1 he
  obtain ⟨s', hs', hmem'⟩ := mem_timeline.1 he'
  rw [OTelSpan.events, List.mem_pair] at hmem hmem'
  obtain rfl : e = ⟨s.startTimeUnixNano, .start⟩ := hmem.resolve_right fun h => by
    rw [h] at hstart
    cases hstart
  obtain rfl : e' = ⟨s'.endTimeUnixNano, .stop⟩ := hmem'.resolve_left fun h => by
    rw [h] at hstop
    cases hstop
  exact fun htime => (hpositive s hs).ne (hapart s' hs' s hs htime).2

/-- The most spans that are open at the same time are counted. -/
theorem isGreatest_maxConcurrent {t : OTelTrace} (hpositive : t.HasPositiveDurations)
    (hapart : t.HasApartSpans) :
    IsGreatest {n | ∃ x, t.openAt x = n} t.counts.maxConcurrent := by
  obtain ⟨-, hmax, hreached⟩ := counts_spec t.timeline
  have hsorted : t.timeline.Pairwise Event.NotAfter := List.pairwise_insertionSort _ _
  have hle : ∀ x, t.openAt x ≤ t.counts.maxConcurrent := fun x => by
    rw [← openAfter_filter hpositive]
    exact hmax _ (filter_time_le hsorted x)
  refine ⟨?_, ?_⟩
  · rcases hreached with hzero | ⟨p, e, hp, hstart, heq⟩
    · refine ⟨0, le_antisymm (hle 0) ?_⟩
      rw [OTelTrace.counts, hzero]
      exact Int.natCast_nonneg _
    · refine ⟨e.time, le_antisymm (hle _) ?_⟩
      rw [OTelTrace.counts, heq, ← openAfter_filter hpositive, openAfter, openAfter]
      obtain ⟨rest, hrest⟩ := hp
      rw [← hrest] at hsorted
      obtain ⟨-, -, hbetween⟩ := List.pairwise_append.1 hsorted
      obtain ⟨hbefore, -, hlast⟩ := List.pairwise_append.1
        (List.pairwise_append.1 hsorted).1
      have hkept : (p ++ [e]).filter (·.time ≤ e.time) = p ++ [e] := by
        rw [List.filter_eq_self]
        intro e' he'
        rcases List.mem_append.1 he' with he' | he'
        · exact decide_eq_true (hlast e' he' e List.mem_cons_self)
        · rw [List.mem_singleton.1 he']
          exact decide_eq_true le_rfl
      -- Where a span starts no other one ends.
      have hstops : countType .stop (rest.filter (·.time ≤ e.time)) = 0 := by
        rw [countType, Nat.cast_eq_zero, List.countP_eq_zero]
        intro e' he' hstop
        obtain ⟨hrest', htime⟩ := List.mem_filter.1 he'
        have hafter : e.time ≤ e'.time :=
          hbetween e (List.mem_append_right p List.mem_cons_self) e' hrest'
        refine time_ne hpositive hapart ?_ ?_ hstart (of_decide_eq_true hstop)
          (le_antisymm (of_decide_eq_true htime) hafter)
        · rw [← hrest]
          exact List.mem_append_left rest (List.mem_append_right p List.mem_cons_self)
        · rw [← hrest]
          exact List.mem_append_right (p ++ [e]) hrest'
      have hstarts := countType_nonneg .start (rest.filter (·.time ≤ e.time))
      rw [← hrest, List.filter_append, hkept, countType_append .start (p ++ [e]),
        countType_append .stop (p ++ [e])]
      omega
  · rintro n ⟨x, rfl⟩
    exact hle x

end Perfana.TraceAnalysis
