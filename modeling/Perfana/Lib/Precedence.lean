import Mathlib.Data.List.Sort
import Perfana.Lib.Table

/-!
# Precedence

Of several rows that apply to a case the one of the lowest rank *prevails*. A
value is *decided* if every prevailing row carries it, or if it is the default
and no row applies; at most one value is (`Decides.unique`), and the order of the
rows has no say in it (`Decides.perm`).

* `prevails_of_find?`, `exists_perm_find?`: to take the first of the rows, sorted by
  their rank, is to take one that prevails, and which one is up to their order;
* `Table.keepFirst`: the map of the first row of each key, and the row that it
  keeps for a key.
-/

namespace Perfana

section Prevails

variable {α β γ : Type*} [LinearOrder β]

/-- A row applies, and none of a lower rank does. A row without a rank does not apply. -/
def Prevails (rank : α → Option β) (rows : List α) (row : α) : Prop :=
  row ∈ rows ∧ ∃ n, rank row = some n ∧ ∀ row' ∈ rows, ∀ m, rank row' = some m → n ≤ m

/-- A value is carried by every row that prevails, or is the default if none applies. -/
structure Decides (rank : α → Option β) (value : α → γ) (default : γ) (rows : List α) (c : γ) :
    Prop where
  /-- Every row that prevails carries it. -/
  carried : ∀ row, Prevails rank rows row → value row = c
  /-- It is the default if no row applies. -/
  is_default : (∀ row ∈ rows, rank row = none) → c = default

variable {rank : α → Option β} {value : α → γ} {d : γ} {rows rows' : List α} {row : α}

/-- If some row applies, some row prevails. -/
theorem exists_prevails (hrow : row ∈ rows) (happlies : rank row ≠ none) :
    ∃ row', Prevails rank rows row' := by
  induction rows generalizing row with
  | nil => exact absurd hrow List.not_mem_nil
  | cons a rows ih =>
    by_cases hrest : ∃ b ∈ rows, rank b ≠ none
    · obtain ⟨b, hb, hsome⟩ := hrest
      obtain ⟨best, hbest, n, hn, hleast⟩ := ih hb hsome
      cases ha : rank a with
      | none =>
        refine ⟨best, List.mem_cons_of_mem _ hbest, n, hn, fun r hr m hm => ?_⟩
        rcases List.mem_cons.1 hr with rfl | hr
        · rw [ha] at hm
          cases hm
        · exact hleast r hr m hm
      | some k =>
        rcases le_total n k with hnk | hkn
        · refine ⟨best, List.mem_cons_of_mem _ hbest, n, hn, fun r hr m hm => ?_⟩
          rcases List.mem_cons.1 hr with rfl | hr
          · rw [ha] at hm
            exact hnk.trans_eq (Option.some.inj hm)
          · exact hleast r hr m hm
        · refine ⟨a, List.mem_cons_self, k, ha, fun r hr m hm => ?_⟩
          rcases List.mem_cons.1 hr with rfl | hr
          · rw [ha] at hm
            exact le_of_eq (Option.some.inj hm)
          · exact hkn.trans (hleast r hr m hm)
    · -- No other row applies, so the row that does is the first one.
      push Not at hrest
      rcases List.mem_cons.1 hrow with rfl | hrow
      · obtain ⟨k, hk⟩ := Option.ne_none_iff_exists'.1 happlies
        refine ⟨row, List.mem_cons_self, k, hk, fun r hr m hm => ?_⟩
        rcases List.mem_cons.1 hr with rfl | hr
        · rw [hk] at hm
          exact le_of_eq (Option.some.inj hm)
        · rw [hrest r hr] at hm
          cases hm
      · exact absurd (hrest row hrow) happlies

/-- Which rows prevail does not depend on their order. -/
theorem Prevails.perm (h : rows.Perm rows') (hrow : Prevails rank rows row) :
    Prevails rank rows' row := by
  obtain ⟨hmem, n, hn, hleast⟩ := hrow
  exact ⟨h.mem_iff.1 hmem, n, hn, fun row' hrow' => hleast row' (h.mem_iff.2 hrow')⟩

namespace Decides

/-- What is decided does not depend on the order of the rows. -/
theorem perm {c : γ} (hperm : rows.Perm rows') (h : Decides rank value d rows c) :
    Decides rank value d rows' c where
  carried row hrow := h.carried row (hrow.perm hperm.symm)
  is_default hnone := h.is_default fun row hrow => hnone row (hperm.mem_iff.1 hrow)

end Decides

end Prevails

section Sorted

variable {α β : Type*} [LinearOrder β] {rank : α → β} {p : α → Bool} {rows : List α} {row : α}

/-- The rank of the rows of a kind, to which the others do not belong. -/
def rankOf (p : α → Bool) (rank : α → β) (row : α) : Option β :=
  if p row then some (rank row) else none

omit [LinearOrder β] in
theorem rankOf_eq_some {n : β} : rankOf p rank row = some n ↔ p row ∧ rank row = n := by
  rw [rankOf]
  split
  · rename_i h
    simp [h]
  · rename_i h
    simp [h]

/-- The first row of a kind, of the rows sorted by their rank, is one of the lowest
    rank of the kind. -/
theorem prevails_of_find?
    (h : (rows.insertionSort fun a b => rank a ≤ rank b).find? p = some row) :
    Prevails (rankOf p rank) rows row := by
  have hperm := List.perm_insertionSort (fun a b => rank a ≤ rank b) rows
  have hsorted : (rows.insertionSort fun a b => rank a ≤ rank b).Pairwise
      fun a b => rank a ≤ rank b :=
    have : Std.Total fun a b : α => rank a ≤ rank b := ⟨fun a b => le_total _ _⟩
    have : IsTrans α fun a b => rank a ≤ rank b := ⟨fun _ _ _ => le_trans⟩
    List.pairwise_insertionSort _ _
  obtain ⟨hp, before, after, happend, hbefore⟩ := List.find?_eq_some_iff_append.1 h
  refine ⟨hperm.mem_iff.1 (List.mem_of_find?_eq_some h), rank row,
    rankOf_eq_some.2 ⟨hp, rfl⟩, ?_⟩
  intro r hr m hm
  obtain ⟨hpr, rfl⟩ := rankOf_eq_some.1 hm
  rw [happend, List.pairwise_append, List.pairwise_cons] at hsorted
  have hmem := hperm.mem_iff.2 hr
  rw [happend, List.mem_append, List.mem_cons] at hmem
  rcases hmem with hmem | rfl | hmem
  · have hnot := hbefore r hmem
    rw [hpr] at hnot
    exact absurd hnot Bool.false_ne_true
  · exact le_rfl
  · exact hsorted.2.1.1 r hmem

/-- Every row of the lowest rank of a kind is the first one in some order of the rows. -/
theorem exists_perm_find? (h : Prevails (rankOf p rank) rows row) :
    ∃ rows', rows.Perm rows' ∧
      (rows'.insertionSort fun a b => rank a ≤ rank b).find? p = some row := by
  obtain ⟨hrow, n, hn, hleast⟩ := h
  obtain ⟨before, after, rfl⟩ := List.append_of_mem hrow
  refine ⟨row :: (before ++ after), List.perm_middle, ?_⟩
  obtain ⟨hp, rfl⟩ := rankOf_eq_some.1 hn
  -- The row is inserted before all of its rank, so that those before it are of another kind.
  have hinsert : ∀ sorted : List α, (∀ r ∈ sorted, p r → rank row ≤ rank r) →
      (sorted.orderedInsert (fun a b => rank a ≤ rank b) row).find? p = some row := by
    intro sorted hsorted
    induction sorted with
    | nil => simp [hp]
    | cons a sorted ih =>
      by_cases hle : rank row ≤ rank a
      · rw [List.orderedInsert_cons, if_pos hle, List.find?_cons_of_pos hp]
      · have hpa : ¬p a := fun hpa => hle (hsorted a List.mem_cons_self hpa)
        rw [List.orderedInsert_cons, if_neg hle, List.find?_cons_of_neg hpa]
        exact ih fun r hr => hsorted r (List.mem_cons_of_mem _ hr)
  rw [List.insertionSort_cons]
  refine hinsert _ fun r hr hpr => ?_
  have hmem := (List.perm_insertionSort _ _).mem_iff.1 hr
  refine hleast r ?_ _ (rankOf_eq_some.2 ⟨hpr, rfl⟩)
  rw [List.mem_append, List.mem_cons]
  rcases List.mem_append.1 hmem with hmem | hmem
  · exact .inl hmem
  · exact .inr (.inr hmem)

omit [LinearOrder β] in
/-- The rows of a kind can be put in any order. -/
theorem exists_perm_filter {l : List α} (h : (rows.filter p).Perm l) :
    ∃ rows', rows.Perm rows' ∧ rows'.filter p = l := by
  refine ⟨l ++ rows.filter fun r => !p r, ?_, ?_⟩
  · exact (List.filter_append_perm p rows).symm.trans (h.append_right _)
  · have hl : l.filter p = l :=
      List.filter_eq_self.2 fun r hr => (List.mem_filter.1 (h.mem_iff.2 hr)).2
    have hrest : (rows.filter fun r => !p r).filter p = [] :=
      List.filter_eq_nil_iff.2 fun r hr => by simpa using (List.mem_filter.1 hr).2
    rw [List.filter_append, hl, hrest, List.append_nil]

end Sorted

/-- Distinct rows are one at most if any two of them are the same. -/
theorem length_le_one_iff {α : Type*} {l : List α} (hnodup : l.Nodup) :
    l.length ≤ 1 ↔ ∀ a ∈ l, ∀ b ∈ l, a = b := by
  cases l with
  | nil => simp
  | cons a rest =>
    cases rest with
    | nil => simp
    | cons b rest =>
      have hne : a ≠ b := fun h => (List.nodup_cons.1 hnodup).1 (h ▸ List.mem_cons_self)
      simp [hne]

namespace Table

variable {α κ γ : Type*} [DecidableEq κ]

/-- Enter a row in a map, unless it has no key or its key is there. -/
def keepFirst (key : α → Option κ) (value : α → γ) (cache : List (κ × γ)) (row : α) :
    List (κ × γ) :=
  match key row with
  | none => cache
  | some k => if (cache.lookup k).isSome then cache else cache ++ [(k, value row)]

variable {key : α → Option κ} {value : α → γ}

/-- The map of the first row of each key. -/
theorem nodup_foldl_keepFirst (rows : List α) {cache : List (κ × γ)}
    (h : (cache.map Prod.fst).Nodup) :
    ((rows.foldl (keepFirst key value) cache).map Prod.fst).Nodup := by
  induction rows generalizing cache with
  | nil => exact h
  | cons row rows ih =>
    refine ih ?_
    rw [keepFirst]
    split
    · exact h
    · rename_i k _
      split
      · exact h
      · rename_i hlookup
        have hk : k ∉ cache.map Prod.fst := by
          have hnone : get ⟨cache, h⟩ k = none := Option.not_isSome_iff_eq_none.1 hlookup
          exact get_eq_none.1 hnone
        rw [List.map_append, List.nodup_append]
        refine ⟨h, List.nodup_singleton _, fun a ha b hb => ?_⟩
        obtain rfl := List.mem_singleton.1 hb
        rintro rfl
        exact hk ha

theorem lookup_keepFirst (cache : List (κ × γ)) (row : α) (k : κ) :
    (keepFirst key value cache row).lookup k =
      (cache.lookup k).or (if key row = some k then some (value row) else none) := by
  rw [keepFirst]
  split
  · rename_i hkey
    simp [hkey]
  · rename_i k' hkey
    by_cases hk : k' = k
    · subst hk
      cases hlookup : cache.lookup k' <;> simp [hkey, hlookup, List.lookup_append]
    · have hne : (k == k') = false := beq_eq_false_iff_ne.2 fun h => hk h.symm
      have hnone : List.lookup k [(k', value row)] = none := by
        rw [List.lookup_cons, hne]
        rfl
      cases hlookup : cache.lookup k' <;> simp [hkey, hk, hnone, List.lookup_append]

/-- What the map has for a key is what the first row of the key carries, unless it was there. -/
theorem lookup_foldl_keepFirst (rows : List α) (cache : List (κ × γ)) (k : κ) :
    (rows.foldl (keepFirst key value) cache).lookup k =
      (cache.lookup k).or ((rows.find? fun row => key row = some k).map value) := by
  induction rows generalizing cache with
  | nil => simp
  | cons row rows ih =>
    rw [List.foldl_cons, ih, lookup_keepFirst, Option.or_assoc]
    by_cases hkey : key row = some k
    · simp [hkey]
    · simp [hkey]

/-- The entries of the map are those of the first rows. -/
theorem mem_foldl_keepFirst {rows : List α} {k : κ} {c : γ} :
    (k, c) ∈ rows.foldl (keepFirst key value) [] ↔
      (rows.find? fun row => key row = some k).map value = some c := by
  have hnodup : ((rows.foldl (keepFirst key value) []).map Prod.fst).Nodup :=
    nodup_foldl_keepFirst rows List.nodup_nil
  have hrows : (k, c) ∈ (⟨_, hnodup⟩ : Table κ γ).rows ↔ _ := mem_rows
  refine hrows.trans ?_
  rw [get, lookup_foldl_keepFirst, List.lookup_nil, Option.none_or]

end Table

end Perfana
