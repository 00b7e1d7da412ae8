import Perfana.TraceAnalysis.Hierarchy

/-!
# Names of spans

An aggregate has the names of one of its spans, so its parents are read off the spans if they all
have the same names.

`isParent_iff`: the keys that may be the parent of another one, by the names of the spans.
-/

namespace Perfana.TraceAnalysis

variable {traces current baseline : List OTelTrace} {key p name : String}

/-! ## Names of aggregates -/

/-- A span of a key has a name, -/
def HasName (traces : List OTelTrace) (key name : String) : Prop :=
  ∃ q ∈ spansOf traces, q.2.key = key ∧ q.2.operationName = name

/-- or its parent has, and it is not empty. -/
def HasParentName (traces : List OTelTrace) (key name : String) : Prop :=
  ∃ q ∈ spansOf traces, q.2.key = key ∧ q.1.parentName q.2 = some name ∧ name ≠ ""

/-- The name of the parent is that of the current spans, or of the baseline if they have none. -/
def ParentName (current baseline : List OTelTrace) (key name : String) : Prop :=
  HasParentName current key name ∨
    (∀ n, ¬ HasParentName current key n) ∧ HasParentName baseline key name

/-- The keys that may be the parent of a key: the current ones of the name, or those of the baseline
    that are not current if no current one has it. -/
def ParentOf (current baseline : List OTelTrace) (key p : String) : Prop :=
  ∃ name, ParentName current baseline key name ∧ (HasName current p name ∨
    (∀ q, ¬ HasName current q name) ∧ (∀ n, ¬ HasName current p n) ∧ HasName baseline p name)

/-- The names of an aggregate are those of its first span. -/
theorem combine_cons (a : SpanAggregation) (rows : List SpanAggregation) :
    ∃ row, combine (a :: rows) = some row ∧ SameNames row a := by
  rw [combine, List.foldl_cons]
  suffices hall : ∀ acc : SpanAggregation, SameNames acc a →
      ∃ row, rows.foldl (fun acc row => some (acc.elim row (·.add row))) (some acc) = some row ∧
        SameNames row a from hall a ⟨rfl, rfl, rfl⟩
  induction rows with
  | nil => exact fun acc h => ⟨acc, rfl, h⟩
  | cons b rows ih =>
    exact fun acc h => ih (acc.add b) ⟨h.spanName, h.serviceName, h.parentSpanName⟩

/-- An aggregate has the names of one of its spans, -/
theorem exists_span {row : SpanAggregation} (h : (aggregateSpans traces).get key = some row) :
    ∃ q ∈ spansOf traces, q.2.key = key ∧ SameNames row (q.1.single q.2) := by
  rw [get_aggregateSpans] at h
  cases hrows : singlesOf traces key with
  | nil =>
    rw [hrows] at h
    cases h
  | cons a rows =>
    obtain ⟨row', hrow', hnames⟩ := combine_cons a rows
    rw [hrows, hrow'] at h
    obtain rfl := Option.some.inj h
    have hmem : a ∈ singlesOf traces key := hrows ▸ List.mem_cons_self
    obtain ⟨q, hq, rfl⟩ := List.mem_map.1 hmem
    rw [List.mem_filter, decide_eq_true_eq] at hq
    exact ⟨q, hq.1, hq.2, hnames⟩

/-- and there is one for each span. -/
theorem exists_row {q : OTelTrace × OTelSpan} (hq : q ∈ spansOf traces) :
    ∃ row, (aggregateSpans traces).get q.2.key = some row := by
  have hmem : q.1.single q.2 ∈ singlesOf traces q.2.key :=
    List.mem_map_of_mem (List.mem_filter.2 ⟨hq, decide_eq_true rfl⟩)
  rw [get_aggregateSpans]
  cases hrows : singlesOf traces q.2.key with
  | nil =>
    rw [hrows] at hmem
    cases hmem
  | cons a rows =>
    obtain ⟨row, hrow, -⟩ := combine_cons a rows
    exact ⟨row, hrow⟩

theorem get_aggregateSpans_eq_none :
    (aggregateSpans traces).get key = none ↔ ∀ n, ¬ HasName traces key n := by
  constructor
  · rintro h n ⟨q, hq, rfl, -⟩
    obtain ⟨row, hrow⟩ := exists_row hq
    rw [h] at hrow
    cases hrow
  · intro h
    cases hrow : (aggregateSpans traces).get key with
    | none => rfl
    | some row =>
      obtain ⟨q, hq, hkey, -⟩ := exists_span hrow
      exact absurd ⟨q, hq, hkey, rfl⟩ (h q.2.operationName)

/-- If the spans of a key have the same names, it is those that the aggregate has. -/
theorem spanName_iff (h : HaveSameNames traces) :
    (∃ row, (aggregateSpans traces).get key = some row ∧ row.spanName = name) ↔
      HasName traces key name := by
  constructor
  · rintro ⟨row, hrow, rfl⟩
    obtain ⟨q, hq, hkey, hnames⟩ := exists_span hrow
    exact ⟨q, hq, hkey, hnames.spanName.symm⟩
  · rintro ⟨q, hq, rfl, rfl⟩
    obtain ⟨row, hrow⟩ := exists_row hq
    obtain ⟨q', hq', hkey, hnames⟩ := exists_span hrow
    exact ⟨row, hrow, hnames.spanName.trans (h q' hq' q hq hkey).1⟩

theorem parentSpanName_iff (h : HaveSameNames traces) :
    ((aggregateSpans traces).get key).bind SpanAggregation.parentSpanName = some name ∧ name ≠ "" ↔
      HasParentName traces key name := by
  rw [Option.bind_eq_some_iff]
  constructor
  · rintro ⟨⟨row, hrow, hname⟩, hne⟩
    obtain ⟨q, hq, hkey, hnames⟩ := exists_span hrow
    exact ⟨q, hq, hkey, hnames.parentSpanName.symm.trans hname, hne⟩
  · rintro ⟨q, hq, rfl, hname, hne⟩
    obtain ⟨row, hrow⟩ := exists_row hq
    obtain ⟨q', hq', hkey, hnames⟩ := exists_span hrow
    refine ⟨⟨row, hrow, ?_⟩, hne⟩
    exact hnames.parentSpanName.trans ((h q' hq' q hq hkey).2.2.trans hname)

/-! ## Parents -/

variable (hcurrent : HaveSameNames current) (hbaseline : HaveSameNames baseline)

include hcurrent hbaseline

theorem parentName_iff :
    parentSpanName (aggregateSpans current) (aggregateSpans baseline) key = some name ∧ name ≠ "" ↔
      ParentName current baseline key name := by
  rw [ParentName, ← parentSpanName_iff hbaseline, ← parentSpanName_iff hcurrent]
  simp only [← parentSpanName_iff hcurrent]
  rw [parentSpanName]
  cases hname : ((aggregateSpans current).get key).bind SpanAggregation.parentSpanName with
  | none => simp
  | some n =>
    by_cases hn : n = ""
    · subst hn
      rw [Option.filter_some_neg (by simp)]
      constructor
      · exact fun h => .inr ⟨fun n hn => hn.2 (Option.some.inj hn.1).symm, h⟩
      · rintro (⟨h, hne⟩ | ⟨-, h⟩)
        · exact absurd (Option.some.inj h).symm hne
        · exact h
    · rw [Option.filter_some_pos (by simpa using hn)]
      constructor
      · exact .inl
      · rintro (h | ⟨h, -⟩)
        · exact h
        · exact absurd ⟨rfl, hn⟩ (h n)

/-- The parents of an aggregate are read off the spans. -/
theorem isParent_iff :
    IsParent (aggregateSpans current) (aggregateSpans baseline) key p ↔
      ParentOf current baseline key p := by
  rw [IsParent, ParentOf]
  refine exists_congr fun name => ?_
  rw [← and_assoc, parentName_iff hcurrent hbaseline, IsNamed, spanName_iff hcurrent,
    spanName_iff hbaseline, get_aggregateSpans_eq_none]
  refine and_congr_right fun _ => or_congr_right (and_congr_left fun _ => forall_congr' fun q => ?_)
  rw [← spanName_iff hcurrent, not_exists]
  exact forall_congr' fun row => not_and.symm

end Perfana.TraceAnalysis
