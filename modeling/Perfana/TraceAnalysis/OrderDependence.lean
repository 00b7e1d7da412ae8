import Perfana.TraceAnalysis.SpanNames

/-!
# What depends on the order of spans

Any trace and any of its spans may come first. So the names of an aggregate are those of each of its
spans, if they do not depend on the order, and each key that may be a parent may be the first one.

* `hasOrderFreeAggregates_iff`: when the aggregates do not depend on the order;
* `exists_parentKey_eq`: each key that may be the parent of another one is, in some order.
-/

namespace Perfana.TraceAnalysis

variable {traces current baseline : List OTelTrace} {t : OTelTrace} {s p q : OTelSpan}
  {key name : String}

/-! ## What comes first -/

theorem SameTrace.refl (t : OTelTrace) : SameTrace t t := ⟨.refl _, rfl⟩

/-- A trace comes first, with its spans in another order. -/
theorem reordered_first (ht : t ∈ traces) {spans : List OTelSpan} (h : t.spans.Perm spans) :
    Reordered traces (⟨spans, t.spanCount⟩ :: traces.erase t) :=
  ⟨t :: traces.erase t, List.perm_cons_erase ht,
    .cons ⟨h, rfl⟩ (List.forall₂_same.2 fun t _ => .refl t)⟩

/-- An aggregate has the names of its first span. -/
theorem sameNames_first {rest : List OTelTrace} {a b : List OTelSpan} {row : SpanAggregation}
    (ha : ∀ x ∈ a, x.key ≠ s.key) (hspans : t.spans = a ++ s :: b)
    (hrow : (aggregateSpans (t :: rest)).get s.key = some row) : SameNames row (t.single s) := by
  have hfirst : a.filter (·.key = s.key) = [] := by
    rw [List.filter_eq_nil_iff]
    exact fun x hx => by simpa using ha x hx
  rw [get_aggregateSpans, singlesOf_eq, List.flatMap_cons, hspans, List.filter_append, hfirst,
    List.nil_append, List.filter_cons_of_pos (by simp), List.map_cons, List.cons_append] at hrow
  obtain ⟨row', hrow', hnames⟩ := combine_cons (t.single s) _
  rw [hrow'] at hrow
  exact Option.some.inj hrow ▸ hnames

section

variable (h : HasOrderFreeAggregates traces)

include h

/-- So its names are those of each of its spans, in the orders where that is the first one. -/
theorem HasOrderFreeAggregates.sameNames (ht : t ∈ traces) {a b : List OTelSpan}
    {row : SpanAggregation} (hperm : t.spans.Perm (a ++ s :: b)) (ha : ∀ x ∈ a, x.key ≠ s.key)
    (hrow : (aggregateSpans traces).get s.key = some row) :
    SameNames row ((⟨a ++ s :: b, t.spanCount⟩ : OTelTrace).single s) := by
  have hrow' : (aggregateSpans (⟨a ++ s :: b, t.spanCount⟩ :: traces.erase t)).get s.key =
      some row := (h _ (reordered_first ht hperm) s.key).trans hrow
  exact sameNames_first ha rfl hrow'

theorem HasOrderFreeAggregates.sameNames_cons (ht : t ∈ traces) (hs : s ∈ t.spans)
    {row : SpanAggregation} (hrow : (aggregateSpans traces).get s.key = some row) :
    SameNames row ((⟨s :: t.spans.erase s, t.spanCount⟩ : OTelTrace).single s) := by
  have hperm : t.spans.Perm ([] ++ s :: t.spans.erase s) := List.perm_cons_erase hs
  have hfirst := h.sameNames ht hperm (List.forall_mem_nil _) hrow
  rwa [List.nil_append] at hfirst

/-- Spans of a key have the same operation, -/
theorem HasOrderFreeAggregates.operationName_eq {u : OTelTrace} (ht : t ∈ traces)
    (hs : s ∈ t.spans) (hu : u ∈ traces) (hq : q ∈ u.spans) (hkey : s.key = q.key) :
    s.operationName = q.operationName := by
  obtain ⟨row, hrow⟩ := exists_row (mem_spansOf.2 ⟨ht, hs⟩)
  have hname := (h.sameNames_cons ht hs hrow).spanName
  exact hname.symm.trans (h.sameNames_cons hu hq (hkey ▸ hrow)).spanName

/-- and any span with the id of the parent may be the parent. -/
theorem HasOrderFreeAggregates.exists_parent_order (ht : t ∈ traces) (hs : s ∈ t.spans)
    (hp : p ∈ t.spans) (hid : s.parentId = some p.spanId) :
    ∃ a b, t.spans.Perm (a ++ s :: b) ∧ (∀ x ∈ a, x.key ≠ s.key) ∧
      (⟨a ++ s :: b, t.spanCount⟩ : OTelTrace).parentName s = some p.operationName := by
  have hfound : ∀ {spans p'}, spans.reverse.find? (·.spanId = p.spanId) = some p' →
      (⟨spans, t.spanCount⟩ : OTelTrace).parentName s = some p'.operationName := by
    intro spans p' hfind
    rw [OTelTrace.parentName, OTelTrace.parent, hid, Option.bind_some, OTelTrace.spanMap, hfind]
    rfl
  by_cases heq : p = s
  · -- The span itself is the last one, but for spans of its key.
    subst heq
    refine ⟨(t.spans.erase p).filter (·.key ≠ p.key), (t.spans.erase p).filter (·.key = p.key),
      ?_, fun x hx => of_decide_eq_true (List.mem_filter.1 hx).2, ?_⟩
    · refine (List.perm_cons_erase hp).trans (List.Perm.symm (List.perm_middle.trans (.cons p ?_)))
      simpa using List.perm_append_comm.trans
        (List.filter_append_perm (fun x : OTelSpan => decide (x.key = p.key)) (t.spans.erase p))
    · cases hlast : ((t.spans.erase p).filter (·.key = p.key)).reverse.find?
          (fun x => x.spanId = p.spanId) with
      | none =>
        refine hfound ?_
        rw [List.reverse_append, List.reverse_cons, List.append_assoc, List.find?_append, hlast,
          Option.none_or, List.singleton_append, List.find?_cons_of_pos (by simp)]
      | some x =>
        have hmem := List.mem_reverse.1 (List.mem_of_find?_eq_some hlast)
        obtain ⟨hx, hkey⟩ := List.mem_filter.1 hmem
        rw [h.operationName_eq ht hp ht (List.mem_of_mem_erase hx) (of_decide_eq_true hkey).symm]
        refine hfound ?_
        rw [List.reverse_append, List.reverse_cons, List.append_assoc, List.find?_append, hlast,
          Option.some_or]
  · have hmem : p ∈ t.spans.erase s := (List.mem_erase_of_ne heq).2 hp
    refine ⟨[], (t.spans.erase s).erase p ++ [p], ?_, List.forall_mem_nil _, hfound ?_⟩
    · refine (List.perm_cons_erase hs).trans (.cons s ?_)
      exact (List.perm_cons_erase hmem).trans (List.perm_append_singleton p _).symm
    · rw [List.nil_append, List.reverse_cons, List.reverse_append, List.reverse_singleton,
        List.singleton_append, List.cons_append, List.find?_cons_of_pos (by simp)]

end

/-! ## Delays -/

/-- The mean of the delays of the spans of an aggregate. -/
theorem combine_delay {rows : List SpanAggregation} (hcount : ∀ row ∈ rows, row.callCount = 1)
    {row : SpanAggregation} (h : combine rows = some row) :
    row.avgStartDelay * row.callCount = (rows.map SpanAggregation.avgStartDelay).sum := by
  cases rows with
  | nil => cases h
  | cons a rows =>
    rw [combine, List.foldl_cons] at h
    suffices hall : ∀ acc : SpanAggregation,
        rows.foldl (fun acc row => some (acc.elim row (·.add row))) (some acc) = some row →
        row.avgStartDelay * row.callCount =
          acc.avgStartDelay * acc.callCount + (rows.map SpanAggregation.avgStartDelay).sum by
      rw [hall a h, hcount a List.mem_cons_self, Nat.cast_one, mul_one, List.map_cons,
        List.sum_cons]
    clear h hcount
    induction rows with
    | nil =>
      intro acc h
      obtain rfl := Option.some.inj h
      rw [List.map_nil, List.sum_nil, add_zero]
    | cons b rows ih =>
      intro acc h
      have hadd : (acc.add b).avgStartDelay * (acc.add b).callCount =
          acc.avgStartDelay * acc.callCount + b.avgStartDelay := by
        have hne : ((acc.callCount + 1 : ℕ) : ℚ) ≠ 0 := Nat.cast_ne_zero.2 (Nat.succ_ne_zero _)
        simp only [SpanAggregation.add]
        rw [div_mul_cancel₀ _ hne]
        push_cast
        ring
      rw [ih (acc.add b) h, hadd, List.map_cons, List.sum_cons, add_assoc]

theorem combine_delays {rows rows' : List SpanAggregation}
    (hcount : ∀ row ∈ rows, row.callCount = 1) (hcount' : ∀ row ∈ rows', row.callCount = 1)
    (h : combine rows = combine rows') : (rows.map SpanAggregation.avgStartDelay).sum =
      (rows'.map SpanAggregation.avgStartDelay).sum := by
  have hnil : ∀ {rows}, combine rows = none → rows = [] := by
    intro rows hnone
    cases rows with
    | nil => rfl
    | cons a rows =>
      obtain ⟨row, hrow, -⟩ := combine_cons a rows
      rw [hrow] at hnone
      cases hnone
  cases hrow : combine rows with
  | none => rw [hnil hrow, hnil (h.symm.trans hrow)]
  | some row => rw [← combine_delay hcount hrow, combine_delay hcount' (h.symm.trans hrow)]

/-- The delays of the spans of a key are the same in any order of a trace. -/
theorem HasOrderFreeAggregates.sum_startDelay (h : HasOrderFreeAggregates traces) (ht : t ∈ traces)
    {spans spans' : List OTelSpan} (hperm : t.spans.Perm spans) (hperm' : t.spans.Perm spans')
    (key : String) :
    ((spans.filter (·.key = key)).map (⟨spans, t.spanCount⟩ : OTelTrace).startDelay).sum =
      ((spans'.filter (·.key = key)).map (⟨spans', t.spanCount⟩ : OTelTrace).startDelay).sum := by
  have hones : ∀ traces, ∀ row ∈ singlesOf traces key, row.callCount = 1 := by
    intro traces row hrow
    obtain ⟨p, -, rfl⟩ := List.mem_map.1 hrow
    rfl
  have hcombine : combine (singlesOf (⟨spans, t.spanCount⟩ :: traces.erase t) key) =
      combine (singlesOf (⟨spans', t.spanCount⟩ :: traces.erase t) key) := by
    rw [← get_aggregateSpans, ← get_aggregateSpans, h _ (reordered_first ht hperm),
      h _ (reordered_first ht hperm')]
  have hdelays := combine_delays (hones _) (hones _) hcombine
  rw [singlesOf_eq, singlesOf_eq, List.flatMap_cons, List.flatMap_cons, List.map_append,
    List.map_append, List.sum_append, List.sum_append, add_left_inj, List.map_map,
    List.map_map] at hdelays
  exact hdelays

/-- If the spans of an id come last, the last of them is the parent. -/
theorem startDelay_last (others : List OTelSpan) {same : List OTelSpan}
    (hsame : ∀ y ∈ same, y.spanId = p.spanId) (n : ℕ) (x : OTelSpan) :
    (⟨others ++ (same ++ [p]), n⟩ : OTelTrace).startDelay x =
      if x.parentId = some p.spanId then
        ((x.startTimeUnixNano - p.startTimeUnixNano : ℤ) : ℚ) / 1000000
      else (⟨others, n⟩ : OTelTrace).startDelay x := by
  have hreverse : (others ++ (same ++ [p])).reverse = p :: (same.reverse ++ others.reverse) := by
    rw [List.reverse_append, List.reverse_append, List.reverse_singleton, List.append_assoc,
      List.singleton_append]
  rw [OTelTrace.startDelay, OTelTrace.startDelay, OTelTrace.parent, OTelTrace.parent]
  cases hid : x.parentId with
  | none => rw [if_neg (by simp)]; rfl
  | some id =>
    rw [Option.bind_some, Option.bind_some, OTelTrace.spanMap, OTelTrace.spanMap, hreverse]
    by_cases heq : id = p.spanId
    · rw [if_pos (congrArg some heq), List.find?_cons_of_pos (by simpa using heq.symm)]
    · have hnone : same.reverse.find? (·.spanId = id) = none := by
        rw [List.find?_eq_none]
        intro y hy
        rw [hsame y (List.mem_reverse.1 hy)]
        simpa using Ne.symm heq
      rw [if_neg (by simpa using heq), List.find?_cons_of_neg (by simpa using Ne.symm heq),
        List.find?_append, hnone, Option.none_or]

/-- A sum that is larger by the same amount at some of the items. -/
theorem sum_map_sub_sum_map {α : Type*} {f g : α → ℚ} {c : α → Prop} [DecidablePred c] {d : ℚ}
    (h : ∀ a, f a - g a = if c a then d else 0) (l : List α) :
    (l.map f).sum - (l.map g).sum = l.countP c * d := by
  induction l with
  | nil => simp
  | cons a l ih =>
    rw [List.map_cons, List.map_cons, List.sum_cons, List.sum_cons, add_sub_add_comm, ih, h,
      List.countP_cons]
    split
    · rw [if_pos (decide_eq_true ‹_›)]
      push_cast
      ring
    · rw [if_neg (by simpa using ‹_›)]
      push_cast
      ring

/-- So the spans that have the id of a parent start at the same time. -/
theorem HasOrderFreeAggregates.start_eq (h : HasOrderFreeAggregates traces) (ht : t ∈ traces)
    (hs : s ∈ t.spans) (hp : p ∈ t.spans) (hq : q ∈ t.spans) (hid : s.parentId = some p.spanId)
    (hsame : q.spanId = p.spanId) : q.startTimeUnixNano = p.startTimeUnixNano := by
  have horder : ∀ {r}, r ∈ t.spans → r.spanId = p.spanId →
      ∃ same : List OTelSpan, (∀ y ∈ same, y.spanId = r.spanId) ∧
        t.spans.Perm (t.spans.filter (·.spanId ≠ p.spanId) ++ (same ++ [r])) := by
    intro r hr hrid
    have hmem : r ∈ t.spans.filter (·.spanId = p.spanId) :=
      List.mem_filter.2 ⟨hr, decide_eq_true hrid⟩
    refine ⟨(t.spans.filter (·.spanId = p.spanId)).erase r, fun y hy => ?_, ?_⟩
    · have hyid := (List.mem_filter.1 (List.mem_of_mem_erase hy)).2
      exact (of_decide_eq_true hyid).trans hrid.symm
    · have hsplit := List.filter_append_perm (fun x : OTelSpan => decide (x.spanId = p.spanId))
        t.spans
      refine hsplit.symm.trans (List.perm_append_comm.trans ?_)
      refine List.Perm.append (by simp) ?_
      exact (List.perm_cons_erase hmem).trans (List.perm_append_singleton r _).symm
  obtain ⟨sameP, hsameP, hpermP⟩ := horder hp rfl
  obtain ⟨sameQ, hsameQ, hpermQ⟩ := horder hq hsame
  have hsum := h.sum_startDelay ht hpermP hpermQ s.key
  have hL : ∀ {spans : List OTelSpan} (f : OTelSpan → ℚ), t.spans.Perm spans →
      ((spans.filter (·.key = s.key)).map f).sum =
        ((t.spans.filter (·.key = s.key)).map f).sum := fun f hperm =>
    ((hperm.symm.filter _).map f).sum_eq
  rw [hL _ hpermP, hL _ hpermQ, ← sub_eq_zero] at hsum
  -- The delays of the spans that have this parent differ, by the same amount.
  rw [sum_map_sub_sum_map (c := fun x : OTelSpan => x.parentId = some p.spanId)
    (d := ((q.startTimeUnixNano - p.startTimeUnixNano : ℤ) : ℚ) / 1000000) ?_, mul_eq_zero] at hsum
  · rcases hsum with hcount | hd
    · rw [Nat.cast_eq_zero, List.countP_eq_zero] at hcount
      exact absurd (decide_eq_true hid) (hcount s (List.mem_filter.2 ⟨hs, decide_eq_true rfl⟩))
    · have hzero := (div_eq_zero_iff.1 hd).resolve_right (by norm_num)
      exact sub_eq_zero.1 (Int.cast_eq_zero.1 hzero)
  · intro x
    rw [startDelay_last _ hsameP, startDelay_last _ hsameQ, hsame]
    split
    · push_cast
      ring
    · exact sub_self _

/-! ## When the order matters -/

theorem HasOrderFreeAggregates.hasUniqueParents (h : HasOrderFreeAggregates traces)
    (ht : t ∈ traces) : t.HasUniqueParents := by
  intro s hs p hp q hq hid hsame
  refine ⟨h.start_eq ht hs hp hq hid hsame, ?_⟩
  obtain ⟨row, hrow⟩ := exists_row (mem_spansOf.2 ⟨ht, hs⟩)
  obtain ⟨a, b, hperm, ha, hparent⟩ := h.exists_parent_order ht hs hp hid
  obtain ⟨a', b', hperm', ha', hparent'⟩ :=
    h.exists_parent_order ht hs hq (hid.trans (congrArg some hsame.symm))
  have hname := (h.sameNames ht hperm ha hrow).parentSpanName.trans hparent
  have hname' := (h.sameNames ht hperm' ha' hrow).parentSpanName.trans hparent'
  exact Option.some.inj (hname'.symm.trans hname)

theorem HasOrderFreeAggregates.haveSameNames (h : HasOrderFreeAggregates traces) :
    HaveSameNames traces := by
  have hnames : ∀ {t s row}, t ∈ traces → s ∈ t.spans →
      (aggregateSpans traces).get s.key = some row → SameNames row (t.single s) := by
    intro t s row ht hs hrow
    have hsame : SameTrace t ⟨s :: t.spans.erase s, t.spanCount⟩ := ⟨List.perm_cons_erase hs, rfl⟩
    rw [← hsame.single (h.hasUniqueParents ht) hs]
    exact h.sameNames_cons ht hs hrow
  rintro ⟨t, s⟩ hp ⟨u, q⟩ hq hkey
  obtain ⟨row, hrow⟩ := exists_row hp
  have hs := hnames (mem_spansOf.1 hp).1 (mem_spansOf.1 hp).2 hrow
  rw [hkey] at hrow
  have hq := hnames (mem_spansOf.1 hq).1 (mem_spansOf.1 hq).2 hrow
  exact ⟨hs.spanName.symm.trans hq.spanName, hs.serviceName.symm.trans hq.serviceName,
    hs.parentSpanName.symm.trans hq.parentSpanName⟩

/-- When the aggregates do not depend on the order. -/
theorem hasOrderFreeAggregates_iff : HasOrderFreeAggregates traces ↔
    HaveSameNames traces ∧ ∀ t ∈ traces, t.HasUniqueParents :=
  ⟨fun h => ⟨h.haveSameNames, fun _ ht => h.hasUniqueParents ht⟩,
    fun h => hasOrderFreeAggregates h.2 h.1⟩

/-! ## The first key of a name -/

theorem keys_insert (m : Table String SpanAggregation) (key : String) (row : SpanAggregation) :
    ∃ ks, keys (m.insert SpanAggregation.add key row) = keys m ++ ks := by
  rw [Table.insert, Table.upsert, keys, List.map_append, List.map_map]
  exact ⟨_, rfl⟩

/-- The key of the first span is the first one. -/
theorem exists_keys_eq (t : OTelTrace) (rest : List OTelTrace) {spans : List OTelSpan}
    (hspans : t.spans = s :: spans) : ∃ ks, keys (aggregateSpans (t :: rest)) = s.key :: ks := by
  rw [aggregateSpans, spansOf, List.flatMap_cons, hspans, List.map_cons, List.cons_append,
    List.foldl_cons]
  suffices hall : ∀ (ps : List (OTelTrace × OTelSpan)) (m : Table String SpanAggregation),
      (∃ ks, keys m = s.key :: ks) → ∃ ks, keys (ps.foldl (fun aggregations p =>
        aggregations.insert SpanAggregation.add p.2.key (p.1.single p.2)) m) = s.key :: ks from
    hall _ _ ⟨[], rfl⟩
  intro ps
  induction ps with
  | nil => exact fun _ h => h
  | cons p ps ih =>
    rintro m ⟨ks, hks⟩
    obtain ⟨ks', hks'⟩ := keys_insert m p.2.key (p.1.single p.2)
    exact ih _ ⟨ks ++ ks', by rw [hks', hks, List.cons_append]⟩

/-- A key of an aggregate comes first in some order. -/
theorem exists_first (h : ((aggregateSpans traces).get key).isSome) :
    ∃ traces', Reordered traces traces' ∧ ∃ ks, keys (aggregateSpans traces') = key :: ks := by
  obtain ⟨row, hrow⟩ := Option.isSome_iff_exists.1 h
  obtain ⟨⟨t, s⟩, hmem, rfl, -⟩ := exists_span hrow
  obtain ⟨ht, hs⟩ := mem_spansOf.1 hmem
  exact ⟨_, reordered_first ht (List.perm_cons_erase hs), exists_keys_eq _ _ rfl⟩

theorem Reordered.refl (traces : List OTelTrace) : Reordered traces traces :=
  ⟨traces, .refl _, List.forall₂_same.2 fun t _ => .refl t⟩

/-- Each key that may be the parent of another one is, in some order. -/
theorem exists_parentKey_eq {p : String} (hcurrent : HasOrderFreeAggregates current)
    (hbaseline : HasOrderFreeAggregates baseline)
    (h : IsParent (aggregateSpans current) (aggregateSpans baseline) key p) :
    ∃ current' baseline', Reordered current current' ∧ Reordered baseline baseline' ∧
      parentKey (aggregateSpans current') (aggregateSpans baseline') key = some p := by
  obtain ⟨name, hname, hne, hnamed⟩ := h
  have hfind : ∀ {current' baseline'}, Reordered current current' → Reordered baseline baseline' →
      (allKeys (aggregateSpans current') (aggregateSpans baseline')).find? (fun p =>
        (entry (aggregateSpans current) (aggregateSpans baseline) p).any (·.spanName = name)) =
        some p → parentKey (aggregateSpans current') (aggregateSpans baseline') key = some p := by
    intro current' baseline' hc hb hfind
    rw [parentKey, parentSpanName, hcurrent _ hc, hbaseline _ hb]
    rw [parentSpanName] at hname
    rw [hname, Option.filter_some_pos (by simpa using hne), Option.bind_some]
    simp only [entry, hcurrent _ hc, hbaseline _ hb]
    exact hfind
  rcases hnamed with ⟨row, hrow, heq⟩ | ⟨hno, hnone, row, hrow, heq⟩
  · obtain ⟨current', hc, ks, hks⟩ := exists_first (Option.isSome_of_eq_some hrow)
    refine ⟨current', baseline, hc, .refl baseline, hfind hc (.refl baseline) ?_⟩
    rw [allKeys, hks, List.cons_append, List.find?_cons_of_pos]
    rw [entry, hrow, Option.some_or]
    exact decide_eq_true heq
  · obtain ⟨baseline', hb, ks, hks⟩ := exists_first (Option.isSome_of_eq_some hrow)
    refine ⟨current, baseline', .refl current, hb, hfind (.refl current) hb ?_⟩
    have hcurrent : (keys (aggregateSpans current)).find? (fun p =>
        (entry (aggregateSpans current) (aggregateSpans baseline) p).any (·.spanName = name)) =
        none := by
      rw [List.find?_eq_none]
      intro q hq hany
      obtain ⟨row', hrow'⟩ := Option.isSome_iff_exists.1 (mem_keys.1 hq)
      rw [entry, hrow', Option.some_or] at hany
      exact hno q row' hrow' (of_decide_eq_true hany)
    have hnew : p ∉ keys (aggregateSpans current) := fun hmem => by
      rw [mem_keys, hnone] at hmem
      cases hmem
    rw [allKeys, List.find?_append, hcurrent, Option.none_or, hks,
      List.filter_cons_of_pos (by simpa using hnew), List.find?_cons_of_pos]
    rw [entry, hnone, Option.none_or, hrow]
    exact decide_eq_true heq

end Perfana.TraceAnalysis
