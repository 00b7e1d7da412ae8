import Perfana.Lib.Aggregate
import Perfana.Lib.Table

/-!
# Tallies

A *tally* adds up values by key in one pass over some rows, as a program does with
a map, and is the same as grouping the rows by their key and summing each group.

* `get_tally`: the value of a key;
* `tally_perm`: the rows of a tally are the groups, in some order;
* `get_tallyBy`: so for the tallies of a map of maps.
-/

namespace Perfana

namespace Table

variable {κ M : Type*} [DecidableEq κ] [AddCommMonoid M]

/-- A value is added to that of a key. -/
def add (t : Table κ M) (row : κ × M) : Table κ M := t.insert (· + ·) row.1 row.2

/-- The values of some rows are added to those of their keys. -/
def tally (rows : List (κ × M)) : Table κ M := rows.foldl add empty

theorem get_add (t : Table κ M) (row : κ × M) (k : κ) : (t.add row).get k =
    if k = row.1 then some (((t.get row.1).map fun o => o + row.2).getD row.2) else t.get k :=
  get_insert _ _ _ _ _

theorem get_foldl_add (rows : List (κ × M)) (t : Table κ M) (k : κ) :
    (rows.foldl add t).get k =
      Aggregate.sum ((t.get k).toList ++ (rows.filter (·.1 = k)).map Prod.snd) := by
  induction rows generalizing t with
  | nil =>
    cases h : t.get k with
    | none => simp [h]
    | some m => simp [h, Aggregate.sum]
  | cons row rows ih =>
    rw [List.foldl_cons, ih, get_add]
    by_cases hk : row.1 = k
    · cases h : t.get k with
      | none => simp [hk, h]
      | some m => simp [hk, h, Aggregate.sum, add_assoc]
    · simp [hk, Ne.symm hk]

/-- The value of a key is the sum of those of its rows, if it has any. -/
theorem get_tally (rows : List (κ × M)) (k : κ) :
    (tally rows).get k = Aggregate.sum ((rows.filter (·.1 = k)).map Prod.snd) :=
  get_foldl_add rows empty k

omit [DecidableEq κ] [AddCommMonoid M] in
/-- The rows of a table are different. -/
theorem nodup_rows (t : Table κ M) : t.rows.Nodup := t.nodup.of_map

/-- A tally groups the rows by their key. -/
theorem tally_perm (rows : List (κ × M)) :
    (tally rows).rows.Perm (Aggregate.sumBy Prod.fst Prod.snd rows) := by
  refine (List.perm_ext_iff_of_nodup (nodup_rows _) (Aggregate.nodup_sumBy _ _ rows).of_map).2 ?_
  rintro ⟨k, m⟩
  rw [mem_rows, get_tally, Aggregate.mem_sumBy, Aggregate.sum]
  by_cases hrow : ∃ row ∈ rows, row.1 = k
  · have hne : (rows.filter (·.1 = k)).map Prod.snd ≠ [] := by
      obtain ⟨row, hrow, hk⟩ := hrow
      have hmem : row ∈ rows.filter (·.1 = k) := List.mem_filter.2 ⟨hrow, decide_eq_true hk⟩
      exact List.ne_nil_of_mem (List.mem_map_of_mem hmem)
    rw [if_neg hne, Option.some.injEq]
    exact ⟨fun h => ⟨hrow, h.symm⟩, fun h => h.2.symm⟩
  · have hnil : (rows.filter (·.1 = k)).map Prod.snd = [] := by
      rw [List.map_eq_nil_iff, List.filter_eq_nil_iff]
      exact fun row hmem hk => hrow ⟨row, hmem, of_decide_eq_true hk⟩
    rw [if_pos hnil]
    exact ⟨fun h => absurd h.symm (Option.some_ne_none m), fun h => absurd h.1 hrow⟩

/-- A tally has all that is added up. -/
theorem sum_tally (rows : List (κ × M)) :
    ((tally rows).rows.map Prod.snd).sum = (rows.map Prod.snd).sum := by
  rw [((tally_perm rows).map Prod.snd).sum_eq]
  simpa using Aggregate.sum_sumBy Prod.fst Prod.snd rows fun _ => true

/-! ## Tallies by group -/

variable {σ : Type*} [DecidableEq σ]

/-- A value is added to that of a key in the table of a group. -/
def addBy (t : Table σ (Table κ M)) (row : (σ × κ) × M) : Table σ (Table κ M) :=
  t.set row.1.1 (((t.get row.1.1).getD empty).add (row.1.2, row.2))

/-- The rows of a group, without it. -/
def ofGroup (s : σ) (rows : List ((σ × κ) × M)) : List (κ × M) :=
  (rows.filter (·.1.1 = s)).map fun row => (row.1.2, row.2)

theorem get_foldl_addBy (rows : List ((σ × κ) × M)) (t : Table σ (Table κ M)) (s : σ) :
    (rows.foldl addBy t).get s =
      if ofGroup s rows = [] then t.get s
      else some ((ofGroup s rows).foldl add ((t.get s).getD empty)) := by
  induction rows generalizing t with
  | nil => rfl
  | cons row rows ih =>
    have hget : (t.addBy row).get s =
        if s = row.1.1 then some (((t.get row.1.1).getD empty).add (row.1.2, row.2))
        else t.get s := get_set _ _ _ _
    rw [List.foldl_cons, ih, hget]
    by_cases hs : row.1.1 = s
    · have hcons : ofGroup s (row :: rows) = (row.1.2, row.2) :: ofGroup s rows := by
        simp [ofGroup, hs]
      rw [hcons, if_pos hs.symm, if_neg (List.cons_ne_nil _ _), hs]
      split
      · rename_i hnil
        rw [hnil]
        rfl
      · rfl
    · have hskip : ofGroup s (row :: rows) = ofGroup s rows := by simp [ofGroup, hs]
      rw [hskip, if_neg (Ne.symm hs)]

/-- The table of a group that has rows is their tally. -/
theorem get_tallyBy (rows : List ((σ × κ) × M)) (s : σ) :
    (rows.foldl addBy empty).get s =
      if ofGroup s rows = [] then none else some (tally (ofGroup s rows)) :=
  get_foldl_addBy rows empty s

end Table

end Perfana
