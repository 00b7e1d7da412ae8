import Perfana.TraceAnalysis.SpanAggregation

/-!
# The hierarchy of spans

An aggregate has the name of its parent, and its parent is the first key of that name. The depths
are calculated along the parents, and a cycle is cut where it was entered.

* `depth_eq`: if the parents make no cycle, a depth is one more than that of the parent;
* `sameHierarchy`: the hierarchy does not depend on the order of the keys if a name is that of one
  key, and no cycle has several keys.
-/

namespace Perfana.TraceAnalysis

structure HierarchyInfo where
  parentMap : Table String (Option String)
  childrenMap : Table String (List String)
  depthMap : Table String ℕ
  allKeys : List String

/-- The keys of a map, in their order. -/
def keys (m : Table String SpanAggregation) : List String := m.rows.map Prod.fst

/-- The depth of a key, and the map with it; `visited` are the keys that were come from. There are
    not more keys than `fuel`. -/
def calculateDepth (parentOf : String → Option String) :
    ℕ → String → List String → Table String ℕ → ℕ × Table String ℕ
  | 0, _, _, depthMap => (0, depthMap)
  | fuel + 1, key, visited, depthMap =>
    if key ∈ visited then (0, depthMap)
    else
      match depthMap.get key with
      | some depth => (depth, depthMap)
      | none =>
        match parentOf key with
        | none => (0, depthMap.set key 0)
        | some p =>
          let (parentDepth, depthMap') := calculateDepth parentOf fuel p (key :: visited) depthMap
          (parentDepth + 1, depthMap'.set key (parentDepth + 1))

/-- The depths of all keys, in their order. -/
def depths (parentOf : String → Option String) (allKeys : List String) : Table String ℕ :=
  allKeys.foldl (fun depthMap key =>
    (calculateDepth parentOf (allKeys.length + 1) key [] depthMap).2) .empty

section

variable (current baseline : Table String SpanAggregation)

/-- The keys of both maps, without those that are there already. -/
def allKeys : List String :=
  keys current ++ (keys baseline).filter (· ∉ keys current)

/-- The name of the parent of a key; an empty name is none. -/
def parentSpanName (key : String) : Option String :=
  match ((current.get key).bind SpanAggregation.parentSpanName).filter (· ≠ "") with
  | some name => some name
  | none => (baseline.get key).bind SpanAggregation.parentSpanName

/-- The aggregate of a key. -/
def entry (key : String) : Option SpanAggregation := (current.get key).or (baseline.get key)

/-- The first key with the name of the parent. -/
def parentKey (key : String) : Option String :=
  ((parentSpanName current baseline key).filter (· ≠ "")).bind fun name =>
    (allKeys current baseline).find? fun p => (entry current baseline p).any (·.spanName = name)

/-- A child is added to the children of a key. -/
def addChild (childrenMap : Table String (List String)) (p key : String) :
    Table String (List String) :=
  let children := (childrenMap.get p).getD []
  childrenMap.set p (if key ∈ children then children else children ++ [key])

def buildHierarchyMaps : HierarchyInfo where
  parentMap := .ofKeys (allKeys current baseline) fun key =>
    some (parentSpanName current baseline key)
  childrenMap := (allKeys current baseline).foldl (fun childrenMap key =>
    match parentKey current baseline key with
    | some p => addChild childrenMap p key
    | none => childrenMap) .empty
  depthMap := depths (parentKey current baseline) (allKeys current baseline)
  allKeys := allKeys current baseline

end

variable {current baseline : Table String SpanAggregation} {key p : String}

/-! ## Children -/

theorem mem_addChild {m : Table String (List String)} {q k : String} :
    k ∈ ((addChild m p key).get q).getD [] ↔ k ∈ (m.get q).getD [] ∨ q = p ∧ k = key := by
  rw [addChild, Table.get_set]
  by_cases hq : q = p
  · subst hq
    rw [if_pos rfl, Option.getD_some]
    split
    · rename_i hmem
      constructor
      · exact .inl
      · rintro (h | ⟨-, rfl⟩)
        · exact h
        · exact hmem
    · rw [List.mem_append, List.mem_singleton]
      simp
  · rw [if_neg hq]
    simp [hq]

/-- The children of a key are the keys whose parent it is. -/
theorem mem_childrenMap :
    key ∈ ((buildHierarchyMaps current baseline).childrenMap.get p).getD [] ↔
      key ∈ allKeys current baseline ∧ parentKey current baseline key = some p := by
  suffices hall : ∀ (ks : List String) (m : Table String (List String)),
      key ∈ ((ks.foldl (fun childrenMap key =>
        match parentKey current baseline key with
        | some p => addChild childrenMap p key
        | none => childrenMap) m).get p).getD [] ↔
      key ∈ (m.get p).getD [] ∨ key ∈ ks ∧ parentKey current baseline key = some p by
    refine (hall (allKeys current baseline) .empty).trans (or_iff_right ?_)
    rw [Table.get_empty, Option.getD_none]
    exact List.not_mem_nil
  intro ks
  induction ks with
  | nil => simp
  | cons k ks ih =>
    intro m
    rw [List.foldl_cons, ih, List.mem_cons]
    cases hparent : parentKey current baseline k with
    | none =>
      refine or_congr_right ⟨fun h => ⟨.inr h.1, h.2⟩, fun h => ⟨h.1.resolve_left ?_, h.2⟩⟩
      rintro rfl
      rw [hparent] at h
      cases h.2
    | some q =>
      rw [mem_addChild, or_assoc]
      refine or_congr_right ?_
      constructor
      · rintro (⟨rfl, rfl⟩ | ⟨hk, hp⟩)
        · exact ⟨.inl rfl, hparent⟩
        · exact ⟨.inr hk, hp⟩
      · rintro ⟨rfl | hk, hp⟩
        · rw [hparent] at hp
          exact .inl ⟨(Option.some.inj hp).symm, rfl⟩
        · exact .inr ⟨hk, hp⟩

/-! ## Depths -/

section

variable {parentOf : String → Option String}

/-- What the depth of a key is by that of its parent. A key that is its own parent is cut at
    once. -/
def DepthAt (parentOf : String → Option String) (m : Table String ℕ) (key : String) (d : ℕ) :
    Prop :=
  (parentOf key = none ∧ d = 0) ∨ (parentOf key = some key ∧ d = 1) ∨
    ∃ p d', parentOf key = some p ∧ p ≠ key ∧ m.get p = some d' ∧ d = d' + 1

/-- The depths in a map are right. -/
def IsClosed (parentOf : String → Option String) (m : Table String ℕ) : Prop :=
  ∀ key d, m.get key = some d → DepthAt parentOf m key d

/-- No cycle has several keys: they can be ranked by their parents. -/
def IsRanked (parentOf : String → Option String) (rank : String → ℕ) : Prop :=
  ∀ key p, parentOf key = some p → p ≠ key → rank p < rank key

theorem IsClosed.set {m : Table String ℕ} (h : IsClosed parentOf m) {d : ℕ}
    (hd : DepthAt parentOf m key d) (hkey : ∀ e, m.get key = some e → e = d) :
    IsClosed parentOf (m.set key d) ∧ ∀ k e, m.get k = some e → (m.set key d).get k = some e := by
  have hkeep : ∀ k e, m.get k = some e → (m.set key d).get k = some e := by
    intro k e hk
    rw [Table.get_set]
    split
    · rename_i heq
      subst heq
      rw [hkey e hk]
    · exact hk
  have hmono : ∀ {k e}, DepthAt parentOf m k e → DepthAt parentOf (m.set key d) k e := by
    rintro k e (h | h | ⟨p, d', hp, hne, hget, rfl⟩)
    · exact .inl h
    · exact .inr (.inl h)
    · exact .inr (.inr ⟨p, d', hp, hne, hkeep p d' hget, rfl⟩)
  refine ⟨fun k e hk => hmono ?_, hkeep⟩
  rw [Table.get_set] at hk
  split at hk
  · rename_i heq
    obtain rfl := Option.some.inj hk
    exact heq ▸ hd
  · exact h k e hk

/-- A depth is calculated, and the depths that are there are kept. -/
theorem calculateDepth_spec {ks : List String} (hks : ∀ key p, parentOf key = some p → p ∈ ks)
    {rank : String → ℕ} (hrank : IsRanked parentOf rank) {fuel : ℕ} {visited : List String}
    {m : Table String ℕ} (hkey : key ∈ ks) (hnodup : visited.Nodup) (hvisited : visited ⊆ ks)
    (hbelow : ∀ v ∈ visited, rank key < rank v) (hfuel : ks.length < fuel + visited.length)
    (hm : IsClosed parentOf m) (hdomain : ∀ k, (m.get k).isSome → k ∈ ks) :
    let r := calculateDepth parentOf fuel key visited m
    r.2.get key = some r.1 ∧ IsClosed parentOf r.2 ∧
      (∀ k e, m.get k = some e → r.2.get k = some e) ∧ ∀ k, (r.2.get k).isSome → k ∈ ks := by
  induction fuel generalizing key visited with
  | zero =>
    have hle := (List.subperm_of_subset hnodup hvisited).length_le
    omega
  | succ fuel ih =>
    have hnew : key ∉ visited := fun hmem => lt_irrefl _ (hbelow key hmem)
    dsimp only
    rw [calculateDepth, if_neg hnew]
    have hset : ∀ {m' : Table String ℕ} {d : ℕ}, (∀ k, (m'.get k).isSome → k ∈ ks) →
        ∀ k, ((m'.set key d).get k).isSome → k ∈ ks := by
      intro m' d hdomain k hk
      rw [Table.get_set] at hk
      split at hk
      · rename_i heq
        exact heq ▸ hkey
      · exact hdomain k hk
    cases hget : m.get key with
    | some depth => exact ⟨hget, hm, fun _ _ h => h, hdomain⟩
    | none =>
      have hfresh : ∀ d e, m.get key = some e → e = d := fun d e he => by
        rw [hget] at he
        cases he
      cases hparent : parentOf key with
      | none =>
        obtain ⟨hclosed, hkeep⟩ := hm.set (.inl ⟨hparent, rfl⟩) (hfresh 0)
        exact ⟨by simp, hclosed, hkeep, hset hdomain⟩
      | some p =>
        dsimp only
        by_cases hself : p = key
        · -- The parent is visited at once.
          subst hself
          have hcut : calculateDepth parentOf fuel p (p :: visited) m = (0, m) := by
            cases fuel with
            | zero => rfl
            | succ fuel => rw [calculateDepth, if_pos List.mem_cons_self]
          obtain ⟨hclosed, hkeep⟩ := hm.set (.inr (.inl ⟨hparent, rfl⟩)) (hfresh 1)
          rw [hcut]
          exact ⟨by simp, hclosed, hkeep, hset hdomain⟩
        · have hlt := hrank key p hparent hself
          obtain ⟨hdepth, hclosed, hkeep, hdomain'⟩ := ih (hks key p hparent)
            (List.nodup_cons.2 ⟨hnew, hnodup⟩) (List.cons_subset.2 ⟨hkey, hvisited⟩)
            (List.forall_mem_cons.2 ⟨hlt, fun v hv => hlt.trans (hbelow v hv)⟩)
            (by rw [List.length_cons]; omega)
          have hat : DepthAt parentOf (calculateDepth parentOf fuel p (key :: visited) m).2 key
              ((calculateDepth parentOf fuel p (key :: visited) m).1 + 1) :=
            .inr (.inr ⟨p, _, hparent, hself, hdepth, rfl⟩)
          obtain ⟨hclosed', hkeep'⟩ := hclosed.set hat fun e he => by
            rcases hclosed key e he with ⟨hno, -⟩ | ⟨hno, -⟩ | ⟨q, d', hq, -, hd', rfl⟩
            · rw [hparent] at hno
              cases hno
            · rw [hparent] at hno
              exact absurd (Option.some.inj hno) hself
            · rw [hparent] at hq
              obtain rfl := Option.some.inj hq
              rw [hdepth] at hd'
              rw [Option.some.inj hd']
          exact ⟨by simp, hclosed', fun k e hk => hkeep' k e (hkeep k e hk), hset hdomain'⟩

/-- All keys have a depth, and they are right. -/
theorem depths_spec {ks : List String} (hks : ∀ key p, parentOf key = some p → p ∈ ks)
    {rank : String → ℕ} (hrank : IsRanked parentOf rank) :
    IsClosed parentOf (depths parentOf ks) ∧
      ∀ key, ((depths parentOf ks).get key).isSome ↔ key ∈ ks := by
  suffices hall : ∀ (done todo : List String) (m : Table String ℕ), todo ⊆ ks →
      IsClosed parentOf m → (∀ k, (m.get k).isSome → k ∈ ks) → (∀ k ∈ done, (m.get k).isSome) →
      let m' := todo.foldl (fun depthMap key =>
        (calculateDepth parentOf (ks.length + 1) key [] depthMap).2) m
      IsClosed parentOf m' ∧ (∀ k, (m'.get k).isSome → k ∈ ks) ∧
        ∀ k ∈ done ++ todo, (m'.get k).isSome by
    obtain ⟨hclosed, hdomain, hdone⟩ := hall [] ks .empty (List.Subset.refl ks)
      (fun _ _ h => by cases h) (fun _ h => by cases h) (List.forall_mem_nil _)
    exact ⟨hclosed, fun key => ⟨hdomain key, hdone key⟩⟩
  intro done todo
  induction todo generalizing done with
  | nil =>
    intro m _ hclosed hdomain hdone
    rw [List.append_nil]
    exact ⟨hclosed, hdomain, hdone⟩
  | cons key todo ih =>
    intro m hsub hclosed hdomain hdone
    rw [List.cons_subset] at hsub
    obtain ⟨hdepth, hclosed', hkeep, hdomain'⟩ := calculateDepth_spec hks hrank hsub.1
      List.nodup_nil (List.nil_subset _) (List.forall_mem_nil _) (Nat.lt_succ_self ks.length)
      hclosed hdomain
    have hrest := ih (done ++ [key]) _ hsub.2 hclosed' hdomain' ?_
    · rw [List.append_assoc] at hrest
      exact hrest
    · intro k hk
      rcases List.mem_append.1 hk with hk | hk
      · obtain ⟨d, hd⟩ := Option.isSome_iff_exists.1 (hdone k hk)
        rw [hkeep k d hd]
        rfl
      · rw [List.mem_singleton.1 hk, hdepth]
        rfl

/-- The depths of two closed maps are the same. -/
theorem IsClosed.get_eq {m m' : Table String ℕ} (h : IsClosed parentOf m)
    (h' : IsClosed parentOf m') {rank : String → ℕ} (hrank : IsRanked parentOf rank)
    {d d' : ℕ} (hd : m.get key = some d) (hd' : m'.get key = some d') : d = d' := by
  induction hn : rank key using Nat.strong_induction_on generalizing key d d' with
  | _ n ih =>
    subst hn
    rcases h key d hd with ⟨hnone, rfl⟩ | ⟨hself, rfl⟩ | ⟨p, e, hp, hne, he, rfl⟩
    · rcases h' key d' hd' with ⟨-, rfl⟩ | ⟨hself, rfl⟩ | ⟨p, e, hp, -⟩
      · rfl
      · rw [hnone] at hself
        cases hself
      · rw [hnone] at hp
        cases hp
    · rcases h' key d' hd' with ⟨hnone, -⟩ | ⟨-, rfl⟩ | ⟨p, e, hp, hne, -⟩
      · rw [hself] at hnone
        cases hnone
      · rfl
      · rw [hself] at hp
        exact absurd (Option.some.inj hp).symm hne
    · rcases h' key d' hd' with ⟨hnone, -⟩ | ⟨hself, -⟩ | ⟨q, e', hq, -, he', rfl⟩
      · rw [hp] at hnone
        cases hnone
      · rw [hp] at hself
        exact absurd (Option.some.inj hself) hne
      · rw [hp] at hq
        obtain rfl := Option.some.inj hq
        rw [ih _ (hrank key p hp hne) he he' rfl]

end

/-! ## The order of keys -/

theorem mem_keys {m : Table String SpanAggregation} : key ∈ keys m ↔ (m.get key).isSome := by
  rw [← not_iff_not, Option.not_isSome_iff_eq_none, Table.get_eq_none]
  rfl

theorem mem_allKeys : key ∈ allKeys current baseline ↔
    (current.get key).isSome ∨ (baseline.get key).isSome := by
  rw [allKeys, List.mem_append, List.mem_filter, decide_eq_true_eq, mem_keys, mem_keys]
  by_cases h : (current.get key).isSome = true <;> simp [h]

/-- A key has a name among the current ones, or among the others if no current one has it. -/
def IsNamed (current baseline : Table String SpanAggregation) (p name : String) : Prop :=
  (∃ row, current.get p = some row ∧ row.spanName = name) ∨
    (∀ q row, current.get q = some row → row.spanName ≠ name) ∧ current.get p = none ∧
      ∃ row, baseline.get p = some row ∧ row.spanName = name

/-- A key may be the parent of another one. -/
def IsParent (current baseline : Table String SpanAggregation) (key p : String) : Prop :=
  ∃ name, parentSpanName current baseline key = some name ∧ name ≠ "" ∧
    IsNamed current baseline p name

theorem isParent_of_parentKey (h : parentKey current baseline key = some p) :
    IsParent current baseline key p ∧ p ∈ allKeys current baseline := by
  rw [parentKey, Option.bind_eq_some_iff] at h
  obtain ⟨name, hname, hfind⟩ := h
  obtain ⟨hname, hne⟩ := Option.filter_eq_some_iff.1 hname
  have hmem := List.mem_of_find?_eq_some hfind
  have hsome := List.find?_some hfind
  refine ⟨⟨name, hname, by simpa using hne, ?_⟩, hmem⟩
  rw [entry, Option.any_eq_true] at hsome
  obtain ⟨row, hrow, heq⟩ := hsome
  have heq : row.spanName = name := by simpa using heq
  cases hcurrent : current.get p with
  | some row' =>
    rw [hcurrent, Option.some_or] at hrow
    obtain rfl := Option.some.inj hrow
    exact .inl ⟨row', hcurrent, heq⟩
  | none =>
    rw [hcurrent, Option.none_or] at hrow
    refine .inr ⟨fun q row' hq hq' => ?_, hcurrent, row, hrow, heq⟩
    -- A current key of that name would have come first.
    rw [allKeys, List.find?_append, Option.or_eq_some_iff] at hfind
    rcases hfind with hfind | ⟨hnone, -⟩
    · have hp := mem_keys.1 (List.mem_of_find?_eq_some hfind)
      rw [hcurrent] at hp
      cases hp
    · rw [List.find?_eq_none] at hnone
      refine hnone q (mem_keys.2 (Option.isSome_of_eq_some hq)) ?_
      rw [entry, hq, Option.some_or]
      exact decide_eq_true hq'

theorem mem_allKeys_of_parentKey (h : parentKey current baseline key = some p) :
    key ∈ allKeys current baseline := by
  by_contra hmem
  rw [mem_allKeys, not_or, Option.not_isSome_iff_eq_none, Option.not_isSome_iff_eq_none] at hmem
  rw [parentKey, parentSpanName, hmem.1, hmem.2] at h
  cases h

theorem exists_parentKey (h : IsParent current baseline key p) :
    ∃ q, parentKey current baseline key = some q := by
  obtain ⟨name, hname, hne, hnamed⟩ := h
  rw [← Option.isSome_iff_exists, parentKey, Option.isSome_bind, hname, Option.filter_some,
    if_pos (decide_eq_true hne), Option.any_some, List.find?_isSome]
  rcases hnamed with ⟨row, hrow, heq⟩ | ⟨-, hnone, row, hrow, heq⟩
  · refine ⟨p, mem_allKeys.2 (.inl (Option.isSome_of_eq_some hrow)), ?_⟩
    rw [entry, hrow, Option.some_or]
    exact decide_eq_true heq
  · refine ⟨p, mem_allKeys.2 (.inr (Option.isSome_of_eq_some hrow)), ?_⟩
    rw [entry, hnone, Option.none_or, hrow]
    exact decide_eq_true heq

/-- No key may have two parents. -/
def HasOneParent (current baseline : Table String SpanAggregation) : Prop :=
  ∀ key p q, IsParent current baseline key p → IsParent current baseline key q → p = q

/-- If no key may have two parents, it does not matter which key is the first one. -/
theorem parentKey_eq_some_iff (hone : HasOneParent current baseline) :
    parentKey current baseline key = some p ↔ IsParent current baseline key p := by
  constructor
  · exact fun h => (isParent_of_parentKey h).1
  · intro h
    obtain ⟨q, hq⟩ := exists_parentKey h
    rw [hq, hone key q p (isParent_of_parentKey hq).1 h]

/-- Two hierarchies have the same parents, children and depths. -/
structure SameHierarchy (h h' : HierarchyInfo) : Prop where
  parent : ∀ key, h'.parentMap.get key = h.parentMap.get key
  children : ∀ p key, key ∈ (h'.childrenMap.get p).getD [] ↔ key ∈ (h.childrenMap.get p).getD []
  depth : ∀ key, h'.depthMap.get key = h.depthMap.get key
  keys : ∀ key, key ∈ h'.allKeys ↔ key ∈ h.allKeys

/-- The depth of a key is one more than that of its parent, if the parents make no cycle. -/
theorem depth_eq {rank : String → ℕ}
    (hrank : ∀ key p, parentKey current baseline key = some p → rank p < rank key)
    (hp : parentKey current baseline key = some p) (hkey : key ∈ allKeys current baseline) :
    ∃ d, (buildHierarchyMaps current baseline).depthMap.get p = some d ∧
      (buildHierarchyMaps current baseline).depthMap.get key = some (d + 1) := by
  obtain ⟨hclosed, hdomain⟩ := @depths_spec (parentKey current baseline)
    (allKeys current baseline) (fun key p h => (isParent_of_parentKey h).2) rank
    fun key p h _ => hrank key p h
  obtain ⟨d, hd⟩ := Option.isSome_iff_exists.1 ((hdomain key).2 hkey)
  rcases hclosed key d hd with ⟨hnone, -⟩ | ⟨hself, -⟩ | ⟨q, d', hq, -, hd', rfl⟩
  · rw [hp] at hnone
    cases hnone
  · exact absurd (hrank key key hself) (lt_irrefl _)
  · rw [hp] at hq
    obtain rfl := Option.some.inj hq
    exact ⟨d', hd', hd⟩

/-- The hierarchy is that of the aggregates, whatever their order is. -/
theorem sameHierarchy {current' baseline' : Table String SpanAggregation}
    (hcurrent : ∀ key, current'.get key = current.get key)
    (hbaseline : ∀ key, baseline'.get key = baseline.get key)
    (hone : HasOneParent current baseline) {rank : String → ℕ}
    (hrank : ∀ key p, IsParent current baseline key p → p ≠ key → rank p < rank key) :
    SameHierarchy (buildHierarchyMaps current baseline)
      (buildHierarchyMaps current' baseline') := by
  have hname : ∀ key, parentSpanName current' baseline' key = parentSpanName current baseline key :=
    fun key => by rw [parentSpanName, parentSpanName, hcurrent, hbaseline]
  have hnamed : ∀ p name, IsNamed current' baseline' p name ↔ IsNamed current baseline p name :=
    fun p name => by simp only [IsNamed, hcurrent, hbaseline]
  have hparent : ∀ key p, IsParent current' baseline' key p ↔ IsParent current baseline key p :=
    fun key p => by simp only [IsParent, hname, hnamed]
  have hone' : HasOneParent current' baseline' := fun key p q hp hq =>
    hone key p q ((hparent key p).1 hp) ((hparent key q).1 hq)
  have hkey : parentKey current' baseline' = parentKey current baseline := by
    funext key
    refine Option.ext fun p => ?_
    exact (parentKey_eq_some_iff hone').trans
      ((hparent key p).trans (parentKey_eq_some_iff hone).symm)
  have hkeys : ∀ key, key ∈ allKeys current' baseline' ↔ key ∈ allKeys current baseline :=
    fun key => by rw [mem_allKeys, mem_allKeys, hcurrent, hbaseline]
  have hranked : IsRanked (parentKey current baseline) rank := fun key p h hne =>
    hrank key p (isParent_of_parentKey h).1 hne
  obtain ⟨hclosed, hdomain⟩ := @depths_spec (parentKey current baseline)
    (allKeys current baseline) (fun key p h => (isParent_of_parentKey h).2) rank hranked
  obtain ⟨hclosed', hdomain'⟩ := @depths_spec (parentKey current baseline)
    (allKeys current' baseline') (fun key p h => (hkeys p).2 (isParent_of_parentKey h).2) rank
    hranked
  exact
    { parent := fun key => by
        simp only [buildHierarchyMaps, Table.get_ofKeys, hkeys, hname]
      children := fun p key => by
        rw [mem_childrenMap, mem_childrenMap, hkeys, hkey]
      depth := fun key => by
        change (depths (parentKey current' baseline') (allKeys current' baseline')).get key =
          (depths (parentKey current baseline) (allKeys current baseline)).get key
        rw [hkey]
        cases hd : (depths (parentKey current baseline) (allKeys current baseline)).get key with
        | none =>
          rw [← Option.not_isSome_iff_eq_none, hdomain', hkeys, ← hdomain, hd]
          exact Bool.false_ne_true
        | some d =>
          have hmem := (hdomain key).1 (Option.isSome_of_eq_some hd)
          obtain ⟨d', hd'⟩ := Option.isSome_iff_exists.1 ((hdomain' key).2 ((hkeys key).2 hmem))
          rw [hd', hclosed'.get_eq hclosed hranked hd' hd]
      keys := hkeys }

end Perfana.TraceAnalysis
