import Perfana.Lib.Table
import Mathlib.Algebra.BigOperators.Group.List.Basic
import Mathlib.Algebra.Order.Field.Rat
import Mathlib.Tactic.FieldSimp
import Mathlib.Tactic.Ring

/-!
# Spans of traces

The spans of some traces are aggregated by their service and operation. Sums, bounds and means do
not depend on the order of the spans, but the names of an aggregate are those of the first of its
spans, and a parent is looked up by an id that several spans may have.

`hasOrderFreeAggregates`: the aggregates do not depend on the order if the spans of each of them
have the same names, and the spans that have the id of a parent are alike.
-/

namespace Perfana.TraceAnalysis

/-- A span; its times are in nanoseconds. -/
structure OTelSpan where
  spanId : String
  parentSpanId : Option String
  operationName : String
  serviceName : String
  startTimeUnixNano : ℤ
  endTimeUnixNano : ℤ
  durationNanos : ℚ
  statusCode : Option ℕ
  deriving DecidableEq

structure OTelTrace where
  spans : List OTelSpan
  spanCount : ℕ
  deriving DecidableEq

structure SpanAggregation where
  spanName : String
  serviceName : String
  totalDuration : ℚ
  selfDuration : ℚ
  callCount : ℕ
  errorCount : ℕ
  minDuration : ℚ
  maxDuration : ℚ
  avgStartDelay : ℚ
  parentSpanName : Option String
  deriving DecidableEq

/-! ## Spans -/

/-- What a span is aggregated by. -/
def OTelSpan.key (s : OTelSpan) : String := s.serviceName ++ "::" ++ s.operationName

def OTelSpan.durationMs (s : OTelSpan) : ℚ := s.durationNanos / 1000000

/-- The span has no parent if the id of it is missing or empty. -/
def OTelSpan.parentId (s : OTelSpan) : Option String := s.parentSpanId.filter (· ≠ "")

namespace OTelTrace

variable (t : OTelTrace) (s : OTelSpan)

/-- The last span with an id. -/
def spanMap (spanId : String) : Option OTelSpan := t.spans.reverse.find? (·.spanId = spanId)

def parent : Option OTelSpan := s.parentId.bind t.spanMap

/-- The durations of the spans that have a span as their parent. -/
def childDuration : ℚ :=
  ((t.spans.filter (·.parentSpanId = some s.spanId)).map OTelSpan.durationMs).sum

def startDelay : ℚ :=
  match t.parent s with
  | some parent => ((s.startTimeUnixNano - parent.startTimeUnixNano : ℤ) : ℚ) / 1000000
  | none => 0

/-- The aggregate of a single span. -/
def single : SpanAggregation where
  spanName := s.operationName
  serviceName := s.serviceName
  totalDuration := s.durationMs
  selfDuration := max 0 (s.durationMs - t.childDuration s)
  callCount := 1
  errorCount := if s.statusCode = some 2 then 1 else 0
  minDuration := s.durationMs
  maxDuration := s.durationMs
  avgStartDelay := t.startDelay s
  parentSpanName := (t.parent s).map OTelSpan.operationName

end OTelTrace

/-- An aggregate with a span added to it. -/
def SpanAggregation.add (existing one : SpanAggregation) : SpanAggregation :=
  let callCount := existing.callCount + 1
  { existing with
    totalDuration := existing.totalDuration + one.totalDuration
    selfDuration := existing.selfDuration + one.selfDuration
    callCount
    errorCount := existing.errorCount + one.errorCount
    minDuration := min existing.minDuration one.minDuration
    maxDuration := max existing.maxDuration one.maxDuration
    avgStartDelay :=
      (existing.avgStartDelay * ((callCount : ℚ) - 1) + one.avgStartDelay) / callCount }

/-- The spans of the traces, each with its trace, in their order. -/
def spansOf (traces : List OTelTrace) : List (OTelTrace × OTelSpan) :=
  traces.flatMap fun t => t.spans.map fun s => (t, s)

/-- The aggregates, by the keys of the spans. -/
def aggregateSpans (traces : List OTelTrace) : Table String SpanAggregation :=
  (spansOf traces).foldl
    (fun aggregations p => aggregations.insert SpanAggregation.add p.2.key (p.1.single p.2)) .empty

/-! ## Aggregates -/

theorem mem_spansOf {traces : List OTelTrace} {t : OTelTrace} {s : OTelSpan} :
    (t, s) ∈ spansOf traces ↔ t ∈ traces ∧ s ∈ t.spans := by
  simp only [spansOf, List.mem_flatMap, List.mem_map, Prod.mk.injEq]
  constructor
  · rintro ⟨t', ht, s', hs, rfl, rfl⟩
    exact ⟨ht, hs⟩
  · rintro ⟨ht, hs⟩
    exact ⟨t, ht, s, hs, rfl, rfl⟩

/-- The single aggregates that an aggregate is made of. -/
def singlesOf (traces : List OTelTrace) (key : String) : List SpanAggregation :=
  ((spansOf traces).filter (·.2.key = key)).map fun p => p.1.single p.2

/-- Singles put together. -/
def combine (rows : List SpanAggregation) : Option SpanAggregation :=
  rows.foldl (fun acc row => some (acc.elim row (·.add row))) none

/-- An aggregate is put together of its own spans. -/
theorem get_aggregateSpans (traces : List OTelTrace) (key : String) :
    (aggregateSpans traces).get key = combine (singlesOf traces key) := by
  rw [aggregateSpans, combine, singlesOf]
  suffices hall : ∀ (ps : List (OTelTrace × OTelSpan)) (m : Table String SpanAggregation),
      (ps.foldl (fun aggregations p =>
        aggregations.insert SpanAggregation.add p.2.key (p.1.single p.2)) m).get key =
      ((ps.filter (·.2.key = key)).map fun p => p.1.single p.2).foldl
        (fun acc row => some (acc.elim row (·.add row))) (m.get key) from hall _ .empty
  intro ps
  induction ps with
  | nil => exact fun _ => rfl
  | cons p ps ih =>
    intro m
    rw [List.foldl_cons, ih, Table.get_insert, List.filter_cons]
    by_cases hkey : p.2.key = key
    · subst hkey
      rw [if_pos rfl, if_pos (by simp), List.map_cons, List.foldl_cons]
      cases m.get p.2.key <;> rfl
    · rw [if_neg (Ne.symm hkey), if_neg (by simpa using hkey)]

/-! ## Order -/

/-- Two singles of the same names. -/
structure SameNames (a b : SpanAggregation) : Prop where
  spanName : a.spanName = b.spanName
  serviceName : a.serviceName = b.serviceName
  parentSpanName : a.parentSpanName = b.parentSpanName

/-- Two spans may be added to an aggregate in any order, -/
theorem SpanAggregation.add_swap (a b c : SpanAggregation) :
    (a.add b).add c = (a.add c).add b := by
  have hone : ((a.callCount + 1 : ℕ) : ℚ) ≠ 0 := Nat.cast_ne_zero.2 (Nat.succ_ne_zero _)
  have hmean : ∀ x y z : ℚ, ((x * (((a.callCount + 1 : ℕ) : ℚ) - 1) + y) /
      ((a.callCount + 1 : ℕ) : ℚ) * (((a.callCount + 1 + 1 : ℕ) : ℚ) - 1) + z) =
      x * a.callCount + y + z := by
    intro x y z
    have htwo : ((a.callCount + 1 + 1 : ℕ) : ℚ) - 1 = ((a.callCount + 1 : ℕ) : ℚ) := by
      push_cast
      ring
    rw [htwo, div_mul_cancel₀ _ hone]
    push_cast
    ring
  simp only [add, SpanAggregation.mk.injEq, hmean, true_and, and_true]
  refine ⟨by ring, by ring, by ring, min_right_comm _ _ _, max_right_comm _ _ _, ?_⟩
  ring

/-- and so may the first two, if their names are the same. -/
theorem SpanAggregation.add_symm {a b : SpanAggregation} (h : SameNames a b)
    (ha : a.callCount = 1) (hb : b.callCount = 1) : a.add b = b.add a := by
  simp only [add, SpanAggregation.mk.injEq, ha, hb, h.spanName, h.serviceName, h.parentSpanName,
    true_and, and_true]
  refine ⟨add_comm _ _, add_comm _ _, add_comm _ _, min_comm _ _, max_comm _ _, ?_⟩
  push_cast
  ring

/-- Singles of the same names are put together in any order. -/
theorem combine_perm {rows rows' : List SpanAggregation} (h : rows.Perm rows')
    (hcount : ∀ row ∈ rows, row.callCount = 1)
    (hnames : ∀ row ∈ rows, ∀ row' ∈ rows, SameNames row row') : combine rows = combine rows' := by
  refine h.foldl_eq' (fun a ha b hb acc => ?_) none
  cases acc with
  | none =>
    exact congrArg some
      (SpanAggregation.add_symm (hnames a ha b hb) (hcount a ha) (hcount b hb))
  | some acc => exact congrArg some (SpanAggregation.add_swap acc a b)

/-- The spans that have the id of a parent are alike. -/
def OTelTrace.HasUniqueParents (t : OTelTrace) : Prop :=
  ∀ s ∈ t.spans, ∀ p ∈ t.spans, ∀ q ∈ t.spans, s.parentId = some p.spanId →
    q.spanId = p.spanId → q.startTimeUnixNano = p.startTimeUnixNano ∧
      q.operationName = p.operationName

/-- The name of the parent of a span, if there is one that has a name. -/
def OTelTrace.parentName (t : OTelTrace) (s : OTelSpan) : Option String :=
  (t.parent s).map OTelSpan.operationName

/-- The spans of a key have the same names. -/
def HaveSameNames (traces : List OTelTrace) : Prop :=
  ∀ p ∈ spansOf traces, ∀ q ∈ spansOf traces, p.2.key = q.2.key →
    p.2.operationName = q.2.operationName ∧ p.2.serviceName = q.2.serviceName ∧
      p.1.parentName p.2 = q.1.parentName q.2

/-- The same trace, with its spans in another order. -/
structure SameTrace (t t' : OTelTrace) : Prop where
  spans : t.spans.Perm t'.spans
  spanCount : t'.spanCount = t.spanCount

/-- The same traces in another order, and their spans too. -/
def Reordered (traces traces' : List OTelTrace) : Prop :=
  ∃ l, traces.Perm l ∧ List.Forall₂ SameTrace l traces'

/-- In another order of the spans a parent may be another one, but not unlike it. -/
theorem SameTrace.parent {t t' : OTelTrace} (h : SameTrace t t') (hunique : t.HasUniqueParents)
    {s : OTelSpan} (hs : s ∈ t.spans) :
    (t'.parent s = none ∧ t.parent s = none) ∨ ∃ p p', t.parent s = some p ∧ t'.parent s = some p' ∧
      p'.startTimeUnixNano = p.startTimeUnixNano ∧ p'.operationName = p.operationName := by
  rw [OTelTrace.parent, OTelTrace.parent]
  cases hid : s.parentId with
  | none => exact .inl ⟨rfl, rfl⟩
  | some id =>
    rw [Option.bind_some, Option.bind_some, OTelTrace.spanMap, OTelTrace.spanMap]
    have hmem : ∀ p, p ∈ t'.spans.reverse ↔ p ∈ t.spans := fun p =>
      List.mem_reverse.trans h.spans.symm.mem_iff
    cases hfound : t.spans.reverse.find? (fun p => p.spanId = id) with
    | none =>
      refine .inl ⟨?_, rfl⟩
      rw [List.find?_eq_none] at hfound ⊢
      exact fun p hp => hfound p (List.mem_reverse.2 ((hmem p).1 hp))
    | some p =>
      cases hfound' : t'.spans.reverse.find? (fun p => p.spanId = id) with
      | none =>
        rw [List.find?_eq_none] at hfound'
        have hp := List.mem_of_find?_eq_some hfound
        exact absurd (List.find?_some hfound) (hfound' p ((hmem p).2 (List.mem_reverse.1 hp)))
      | some p' =>
        have hp : p ∈ t.spans := List.mem_reverse.1 (List.mem_of_find?_eq_some hfound)
        have hp' : p' ∈ t.spans := (hmem p').1 (List.mem_of_find?_eq_some hfound')
        have hpid : p.spanId = id := by simpa using List.find?_some hfound
        have hpid' : p'.spanId = id := by simpa using List.find?_some hfound'
        refine .inr ⟨p, p', rfl, rfl, ?_⟩
        exact hunique s hs p hp p' hp' (hid.trans (congrArg some hpid.symm))
          (hpid'.trans hpid.symm)

/-- So its aggregate is the same. -/
theorem SameTrace.single {t t' : OTelTrace} (h : SameTrace t t') (hunique : t.HasUniqueParents)
    {s : OTelSpan} (hs : s ∈ t.spans) : t'.single s = t.single s := by
  have hchildren : t'.childDuration s = t.childDuration s :=
    ((h.spans.symm.filter _).map _).sum_eq
  have hparent : t'.startDelay s = t.startDelay s ∧
      (t'.parent s).map OTelSpan.operationName = (t.parent s).map OTelSpan.operationName := by
    rw [OTelTrace.startDelay, OTelTrace.startDelay]
    rcases h.parent hunique hs with ⟨hnone', hnone⟩ | ⟨p, p', hp, hp', hstart, hname⟩
    · rw [hnone, hnone']
      exact ⟨rfl, rfl⟩
    · rw [hp, hp']
      dsimp only
      rw [hstart]
      exact ⟨rfl, congrArg some hname⟩
  rw [OTelTrace.single, OTelTrace.single, hchildren, hparent.1, hparent.2]

theorem singlesOf_eq (traces : List OTelTrace) (key : String) : singlesOf traces key =
    traces.flatMap fun t => (t.spans.filter (·.key = key)).map t.single := by
  rw [singlesOf, spansOf, List.filter_flatMap, List.map_flatMap]
  refine List.flatMap_congr fun t _ => ?_
  rw [List.filter_map, List.map_map]
  rfl

/-- The singles of reordered traces are those of the traces. -/
theorem singlesOf_perm {traces traces' : List OTelTrace} (h : Reordered traces traces')
    (hunique : ∀ t ∈ traces, t.HasUniqueParents) (key : String) :
    (singlesOf traces key).Perm (singlesOf traces' key) := by
  obtain ⟨l, hperm, hsame⟩ := h
  rw [singlesOf_eq, singlesOf_eq]
  refine (hperm.flatMap_right _).trans ?_
  have hl : ∀ t ∈ l, t.HasUniqueParents := fun t ht => hunique t (hperm.mem_iff.2 ht)
  clear hperm hunique
  induction hsame with
  | nil => exact .refl _
  | @cons t t' l traces' h _ ih =>
    rw [List.flatMap_cons, List.flatMap_cons]
    refine List.Perm.append ?_ (ih fun u hu => hl u (List.mem_cons_of_mem _ hu))
    have heq : (t.spans.filter (·.key = key)).map t.single =
        (t.spans.filter (·.key = key)).map t'.single :=
      List.map_congr_left fun s hs =>
        (h.single (hl t List.mem_cons_self) (List.mem_of_mem_filter hs)).symm
    rw [heq]
    exact (h.spans.filter _).map _

/-- The aggregates do not depend on the order of the traces, nor of their spans. -/
def HasOrderFreeAggregates (traces : List OTelTrace) : Prop :=
  ∀ traces', Reordered traces traces' →
    ∀ key, (aggregateSpans traces').get key = (aggregateSpans traces).get key

/-- They do not if spans of a key have the same names, and no id of a parent is that of unlike
    spans. -/
theorem hasOrderFreeAggregates {traces : List OTelTrace}
    (hunique : ∀ t ∈ traces, t.HasUniqueParents) (hnames : HaveSameNames traces) :
    HasOrderFreeAggregates traces := by
  intro traces' h key
  rw [get_aggregateSpans, get_aggregateSpans]
  refine (combine_perm (singlesOf_perm h hunique key) (fun row hrow => ?_)
    fun row hrow row' hrow' => ?_).symm
  · obtain ⟨p, -, rfl⟩ := List.mem_map.1 hrow
    rfl
  · obtain ⟨p, hp, rfl⟩ := List.mem_map.1 hrow
    obtain ⟨q, hq, rfl⟩ := List.mem_map.1 hrow'
    rw [List.mem_filter, decide_eq_true_eq] at hp hq
    obtain ⟨hname, hservice, hparent⟩ := hnames p hp.1 q hq.1 (hp.2.trans hq.2.symm)
    exact ⟨hname, hservice, hparent⟩

end Perfana.TraceAnalysis
