import Mathlib.Data.List.Sort

/-!
# Stable sorting

A sorted list is sorted wherever it is filtered (`filter_insertionSort`): the members that meet a
condition stand in it as if they had been sorted alone. The first of a sorted list is the first of
those that no other comes before (`head?_insertionSort`).
-/

namespace Perfana.StableSort

variable {α : Type*} {r : α → α → Prop} [DecidableRel r] {p : α → Bool} {l : List α} {a : α}

theorem filter_orderedInsert [IsTrans α r] (hl : l.Pairwise r) :
    (l.orderedInsert r a).filter p =
      if p a then (l.filter p).orderedInsert r a else l.filter p := by
  induction l with
  | nil =>
    rw [List.orderedInsert_nil, List.filter_cons]
    rfl
  | cons b l ih =>
    obtain ⟨hb, hl⟩ := List.pairwise_cons.1 hl
    by_cases hab : r a b
    · rw [List.orderedInsert_cons_of_le r l hab, List.filter_cons]
      split
      · -- What is left of the list behind `b` is behind `a` as well.
        cases hrest : (b :: l).filter p with
        | nil => rfl
        | cons c rest =>
          have hc : c ∈ b :: l := List.mem_of_mem_filter (hrest ▸ List.mem_cons_self)
          have hac : r a c := by
            rcases List.mem_cons.1 hc with rfl | hc
            · exact hab
            · exact IsTrans.trans _ _ _ hab (hb c hc)
          rw [List.orderedInsert_cons_of_le r rest hac]
      · rfl
    · rw [List.orderedInsert_of_not_le r l hab, List.filter_cons, List.filter_cons, ih hl]
      by_cases hpa : p a = true
      · by_cases hpb : p b = true
        · rw [if_pos hpb, if_pos hpa, if_pos hpb, if_pos hpa,
            List.orderedInsert_of_not_le r _ hab]
        · rw [if_neg hpb, if_pos hpa, if_neg hpb, if_pos hpa]
      · simp [hpa]

/-- Filtered, a sorted list is what the members that are left are sorted to. -/
theorem filter_insertionSort [Std.Total r] [IsTrans α r] (p : α → Bool) (l : List α) :
    (l.insertionSort r).filter p = (l.filter p).insertionSort r := by
  induction l with
  | nil => rfl
  | cons a l ih =>
    rw [List.insertionSort_cons, filter_orderedInsert (List.pairwise_insertionSort r l), ih,
      List.filter_cons]
    split <;> rfl

theorem head?_orderedInsert :
    (l.orderedInsert r a).head? = some (l.head?.elim a fun b => if r a b then a else b) := by
  cases l with
  | nil => rfl
  | cons b l =>
    rw [List.orderedInsert_cons, List.head?_cons, Option.elim_some]
    split <;> rfl

/-- The first of a sorted list is the one that comes before all others, and before which none stood
    that comes before it. -/
theorem head?_insertionSort [Std.Total r] [IsTrans α r] (h : (l.insertionSort r).head? = some a) :
    ∃ l₁ l₂, l = l₁ ++ a :: l₂ ∧ (∀ b ∈ l₁, ¬r b a) ∧ ∀ b ∈ l₂, r a b := by
  induction l generalizing a with
  | nil => cases h
  | cons b l ih =>
    rw [List.insertionSort_cons, head?_orderedInsert, Option.some.injEq] at h
    cases hhead : (l.insertionSort r).head? with
    | none =>
      have hnil : l.insertionSort r = [] := List.head?_eq_none_iff.1 hhead
      have hl : l = [] := (hnil ▸ (List.perm_insertionSort r l).symm).eq_nil
      rw [hhead, Option.elim_none] at h
      exact ⟨[], [], by rw [hl, h, List.nil_append], by simp, by simp⟩
    | some c =>
      rw [hhead, Option.elim_some] at h
      obtain ⟨l₁, l₂, rfl, hbefore, hafter⟩ := ih hhead
      by_cases hbc : r b c
      · -- It comes before the first of the others, and so before all of them.
        rw [if_pos hbc] at h
        subst h
        refine ⟨[], l₁ ++ c :: l₂, rfl, by simp, fun d hd => ?_⟩
        rcases List.mem_append.1 hd with hd | hd
        · have hcd : r c d := (Std.Total.total c d).resolve_right (hbefore d hd)
          exact IsTrans.trans _ _ _ hbc hcd
        · rcases List.mem_cons.1 hd with rfl | hd
          · exact hbc
          · exact IsTrans.trans _ _ _ hbc (hafter d hd)
      · rw [if_neg hbc] at h
        subst h
        refine ⟨b :: l₁, l₂, rfl, fun d hd => ?_, hafter⟩
        rcases List.mem_cons.1 hd with rfl | hd
        · exact hbc
        · exact hbefore d hd

/-- Lists are sorted alike by orders that agree on their members. -/
theorem insertionSort_congr {s : α → α → Prop} [DecidableRel s]
    (h : ∀ a ∈ l, ∀ b ∈ l, r a b ↔ s a b) : l.insertionSort r = l.insertionSort s := by
  have hmap := List.map_insertionSort r s id l h
  rwa [List.map_id, List.map_id] at hmap

end Perfana.StableSort
