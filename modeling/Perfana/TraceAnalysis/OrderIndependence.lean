import Perfana.TraceAnalysis.ExecutionPattern
import Perfana.TraceAnalysis.OrderDependence

/-!
# The order of traces

Traces are compared by their aggregates, the hierarchy of these and the execution patterns. When
none of it depends on the order of the traces and spans is a condition on the spans.

`independentOfOrder`: the comparison is that of the traces in any order if the spans of an aggregate
have the same names, no id of a parent is that of unlike spans, no aggregate may have two parents,
no cycle has several aggregates, and no span ends where another one starts. Without the first three
it is not.
-/

namespace Perfana.TraceAnalysis

variable {current baseline : List OTelTrace}

/-- No two keys may be the parent of a key. -/
def HaveOneParent (current baseline : List OTelTrace) : Prop :=
  ∀ key p q, ParentOf current baseline key p → ParentOf current baseline key q → p = q

/-- When the order of the traces and spans does not matter. -/
structure OrderFree (current baseline : List OTelTrace) : Prop where
  /-- The spans of an aggregate have the same names, -/
  current_names : HaveSameNames current
  baseline_names : HaveSameNames baseline
  /-- no id of a parent is that of unlike spans, -/
  unique : ∀ t ∈ current ++ baseline, t.HasUniqueParents
  /-- no aggregate may have two parents, -/
  oneParent : HaveOneParent current baseline
  /-- no cycle of parents has several aggregates, -/
  ranked : ∃ rank : String → ℕ, ∀ key p, ParentOf current baseline key p → p ≠ key →
    rank p < rank key
  /-- and no span ends where another one starts. -/
  apart : ∀ t ∈ current ++ baseline, t.HasApartSpans

/-- The hierarchy of the aggregates of traces. -/
def hierarchyOf (current baseline : List OTelTrace) : HierarchyInfo :=
  buildHierarchyMaps (aggregateSpans current) (aggregateSpans baseline)

/-- A key is a child of another one. -/
def IsChild (h : HierarchyInfo) (p key : String) : Prop := key ∈ (h.childrenMap.get p).getD []

/-- The comparison does not depend on the order of the traces and spans, the spans that are open at
    the same time are counted, and the depths are those of the hierarchy. -/
structure IndependentOfOrder (current baseline : List OTelTrace) : Prop where
  current_aggregates : HasOrderFreeAggregates current
  baseline_aggregates : HasOrderFreeAggregates baseline
  hierarchy : ∀ current' baseline', Reordered current current' → Reordered baseline baseline' →
    SameHierarchy (hierarchyOf current baseline) (hierarchyOf current' baseline')
  patterns : ∀ current' baseline', Reordered current current' → Reordered baseline baseline' →
    analyzeExecutionPatterns current' baseline' = analyzeExecutionPatterns current baseline
  /-- The most spans that are open at the same time are counted. -/
  concurrency : ∀ t ∈ current ++ baseline, t.HasPositiveDurations →
    IsGreatest {n | ∃ x, t.openAt x = n} t.counts.maxConcurrent
  /-- If the parents make no cycle, a depth is one more than that of the parent. -/
  depth : (∃ rank : String → ℕ, ∀ p key, IsChild (hierarchyOf current baseline) p key →
      rank p < rank key) →
    ∀ p key, IsChild (hierarchyOf current baseline) p key →
      ∃ d, (hierarchyOf current baseline).depthMap.get p = some d ∧
        (hierarchyOf current baseline).depthMap.get key = some (d + 1)

theorem isChild_iff {p key : String} : IsChild (hierarchyOf current baseline) p key ↔
    parentKey (aggregateSpans current) (aggregateSpans baseline) key = some p :=
  mem_childrenMap.trans ⟨And.right, fun h => ⟨mem_allKeys_of_parentKey h, h⟩⟩

theorem hasOneParent_iff (hcurrent : HaveSameNames current)
    (hbaseline : HaveSameNames baseline) :
    HasOneParent (aggregateSpans current) (aggregateSpans baseline) ↔
      HaveOneParent current baseline := by
  simp only [HasOneParent, HaveOneParent, isParent_iff hcurrent hbaseline]

/-- The depths are those of the hierarchy, whatever the order is. -/
theorem depth_of_isChild (hranked : ∃ rank : String → ℕ, ∀ p key,
      IsChild (hierarchyOf current baseline) p key → rank p < rank key) {p key : String}
    (h : IsChild (hierarchyOf current baseline) p key) :
    ∃ d, (hierarchyOf current baseline).depthMap.get p = some d ∧
      (hierarchyOf current baseline).depthMap.get key = some (d + 1) := by
  obtain ⟨rank, hrank⟩ := hranked
  have hp := isChild_iff.1 h
  exact depth_eq (fun key p hp => hrank p key (isChild_iff.2 hp)) hp (mem_allKeys_of_parentKey hp)

theorem independent_of_orderFree (h : OrderFree current baseline) :
    IndependentOfOrder current baseline := by
  have hcurrent : ∀ t ∈ current, t ∈ current ++ baseline := fun t => List.mem_append_left baseline
  have hbaseline : ∀ t ∈ baseline, t ∈ current ++ baseline := fun t => List.mem_append_right current
  have hgetC := hasOrderFreeAggregates (fun t ht => h.unique t (hcurrent t ht)) h.current_names
  have hgetB := hasOrderFreeAggregates (fun t ht => h.unique t (hbaseline t ht)) h.baseline_names
  refine ⟨hgetC, hgetB, fun current' baseline' hc hb => ?_, fun current' baseline' hc hb => ?_,
    fun t ht hpositive => isGreatest_maxConcurrent hpositive (h.apart t ht),
    fun hranked p key => depth_of_isChild hranked⟩
  · obtain ⟨rank, hrank⟩ := h.ranked
    refine sameHierarchy (hgetC _ hc) (hgetB _ hb)
      ((hasOneParent_iff h.current_names h.baseline_names).2 h.oneParent)
      fun key p hp hne => hrank key p ?_ hne
    exact (isParent_iff h.current_names h.baseline_names).1 hp
  · rw [analyzeExecutionPatterns, analyzeExecutionPatterns,
      calculateExecutionPattern_reordered hc fun t ht => h.apart t (hcurrent t ht),
      calculateExecutionPattern_reordered hb fun t ht => h.apart t (hbaseline t ht)]

/-- A key that may be a parent is one in each order. -/
theorem IndependentOfOrder.parentKey_eq (h : IndependentOfOrder current baseline)
    {key p : String} (hp : IsParent (aggregateSpans current) (aggregateSpans baseline) key p) :
    parentKey (aggregateSpans current) (aggregateSpans baseline) key = some p := by
  obtain ⟨current', baseline', hc, hb, hfirst⟩ :=
    exists_parentKey_eq h.current_aggregates h.baseline_aggregates hp
  exact isChild_iff.1 (((h.hierarchy current' baseline' hc hb).children p key).1
    (isChild_iff.2 hfirst))

/-- The order of the traces and spans does not matter if `OrderFree` says so; if it does not matter,
    names and parents are as `OrderFree` says. -/
theorem independentOfOrder : (OrderFree current baseline → IndependentOfOrder current baseline) ∧
    (IndependentOfOrder current baseline → HaveSameNames current ∧ HaveSameNames baseline ∧
      (∀ t ∈ current ++ baseline, t.HasUniqueParents) ∧ HaveOneParent current baseline) := by
  refine ⟨independent_of_orderFree, fun h => ?_⟩
  have hcurrent := hasOrderFreeAggregates_iff.1 h.current_aggregates
  have hbaseline := hasOrderFreeAggregates_iff.1 h.baseline_aggregates
  refine ⟨hcurrent.1, hbaseline.1, fun t ht => ?_, ?_⟩
  · exact (List.mem_append.1 ht).elim (hcurrent.2 t) (hbaseline.2 t)
  · refine (hasOneParent_iff hcurrent.1 hbaseline.1).1 fun key p q hp hq => ?_
    have hp := h.parentKey_eq hp
    rw [h.parentKey_eq hq] at hp
    exact (Option.some.inj hp).symm

/-! ## Traces -/

/-- A span without an error. -/
def spanAt (spanId : String) (parentSpanId : Option String) (operationName : String)
    (start stop : ℕ) : OTelSpan where
  spanId
  parentSpanId
  operationName
  serviceName := "shop"
  startTimeUnixNano := start
  endTimeUnixNano := stop
  durationNanos := stop - start
  statusCode := none

/-- A request with a query. -/
def request : OTelTrace where
  spans := [spanAt "1" none "GET" 0 100, spanAt "2" (some "1") "query" 10 40]
  spanCount := 2

theorem parentOf_request {key p : String} (h : ParentOf [request] [] key p) :
    key = "shop::query" ∧ p = "shop::GET" := by
  have hempty : ∀ {q}, q ∉ spansOf [] := fun h => by cases h
  have hspans : ∀ q ∈ spansOf [request], q.2.key = "shop::GET" ∧ q.2.operationName = "GET" ∧
      q.1.parentName q.2 = none ∨ q.2.key = "shop::query" ∧ q.2.operationName = "query" ∧
      q.1.parentName q.2 = some "GET" := by decide +kernel
  obtain ⟨name, hparent, hname⟩ := h
  rcases hparent with ⟨q, hq, rfl, hparent, -⟩ | ⟨-, q, hq, -⟩
  · rcases hname with ⟨r, hr, rfl, hname⟩ | ⟨-, -, r, hr, -⟩
    · rcases hspans q hq with ⟨-, -, hnone⟩ | ⟨hkey, -, hsome⟩
      · rw [hnone] at hparent
        cases hparent
      · rw [hsome] at hparent
        obtain rfl := Option.some.inj hparent
        rcases hspans r hr with ⟨hkey', -⟩ | ⟨-, hquery, -⟩
        · exact ⟨hkey, hkey'⟩
        · rw [hquery] at hname
          exact absurd hname (by decide)
    · exact absurd hr hempty
  · exact absurd hq hempty

theorem independentOfOrder_request : IndependentOfOrder [request] [] := by
  refine independentOfOrder.1 ⟨?_, ?_, ?_, fun key p q hp hq => ?_, ?_, ?_⟩
  · unfold HaveSameNames
    decide +kernel
  · unfold HaveSameNames
    decide +kernel
  · unfold OTelTrace.HasUniqueParents
    decide +kernel
  · rw [(parentOf_request hp).2, (parentOf_request hq).2]
  · refine ⟨fun key => if key = "shop::query" then 1 else 0, fun key p h _ => ?_⟩
    obtain ⟨rfl, rfl⟩ := parentOf_request h
    decide
  · unfold OTelTrace.HasApartSpans
    decide +kernel

/-- Two calls, and one that starts when they end. -/
def touching : OTelTrace where
  spans := [spanAt "3" none "third" 10 20, spanAt "1" none "first" 0 10,
    spanAt "2" none "second" 0 10]
  spanCount := 3

/-- If the third call comes first, it is counted as open at the same time as the others. -/
theorem not_independentOfOrder_touching : ¬ IndependentOfOrder [touching] [] := by
  intro h
  have hreordered : Reordered [touching] [⟨[spanAt "1" none "first" 0 10,
      spanAt "2" none "second" 0 10, spanAt "3" none "third" 10 20], 3⟩] :=
    ⟨[touching], .refl _, .cons ⟨by decide +kernel, rfl⟩ .nil⟩
  have hsame := h.patterns _ [] hreordered (.refl [])
  revert hsame
  decide +kernel

end Perfana.TraceAnalysis
