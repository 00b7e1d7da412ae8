import Mathlib.Algebra.BigOperators.Group.List.Basic
import Mathlib.Algebra.Order.BigOperators.Group.List
import Mathlib.Algebra.Order.Field.Basic
import Mathlib.Data.List.Dedup
import Mathlib.Data.List.Sort
import Mathlib.Data.Rat.Floor
import Mathlib.Tactic.FieldSimp
import Mathlib.Tactic.Linarith
import Mathlib.Tactic.Ring

/-!
# Aggregates of columns

The aggregates of a query language over the values of a column: none of no
value. Each is a function of the bag of the values, and the sums, the
least and the greatest of a column split into groups are pooled from those of
the groups (`sum_pooled`, `min_pooled`, `max_pooled`). The mean and the standard
deviation are not, but are recombined from the pooled count, sum and sum of
squares (`varPop_eq`, `varPop_nonneg`).
-/

namespace Perfana.Aggregate

/-- The sum of the values of a column, if any. -/
def sum {M : Type*} [AddCommMonoid M] (xs : List M) : Option M :=
  if xs = [] then none else some xs.sum

section Groups

variable {α β : Type*}

/-- The rows whose attribute is one of some values, value by value. -/
theorem filter_mem_perm_flatMap [DecidableEq β] (f : α → β) (l : List α) {s : List β}
    (hs : s.Nodup) :
    List.Perm (l.filter (f · ∈ s)) (s.flatMap fun b => l.filter (f · = b)) := by
  induction s with
  | nil => simp
  | cons b s ih =>
    obtain ⟨hb, hs⟩ := List.nodup_cons.1 hs
    have hsplit := List.filter_append_perm (f · = b) (l.filter (f · ∈ b :: s))
    have hhead : (l.filter (f · ∈ b :: s)).filter (f · = b) = l.filter (f · = b) := by
      rw [List.filter_filter]
      exact List.filter_congr fun x _ => by grind
    have htail : (l.filter (f · ∈ b :: s)).filter (fun x => !decide (f x = b)) =
        l.filter (f · ∈ s) := by
      rw [List.filter_filter]
      exact List.filter_congr fun x _ => by grind
    rw [hhead, htail] at hsplit
    exact hsplit.symm.trans ((ih hs).append_left _)

/-- Counted class by class, no member in two of them, rows add up to those in some
    class. -/
theorem sum_countP {classes : List (α → Bool)}
    (hdisjoint : classes.Pairwise fun p q => ∀ a, p a = true → q a = false) (rows : List α) :
    (classes.map fun p => rows.countP p).sum = rows.countP fun a => classes.any fun p => p a := by
  induction classes with
  | nil => simp
  | cons p classes ih =>
    obtain ⟨hp, hclasses⟩ := List.pairwise_cons.1 hdisjoint
    have hnone : ∀ a, p a = true → (classes.any fun q => q a) = false := by
      intro a ha
      rw [List.any_eq_false]
      exact fun q hq => Bool.not_eq_true _ ▸ hp q hq a ha
    rw [List.map_cons, List.sum_cons, ih hclasses]
    clear ih
    induction rows with
    | nil => rfl
    | cons a rows ih =>
      simp only [List.countP_cons, List.any_cons] at ih ⊢
      have ha := hnone a
      cases hpa : p a <;> grind

/-- The groups of some rows by a key, each with its rows. -/
def groupBy [DecidableEq β] (key : α → β) (rows : List α) : List (β × List α) :=
  (rows.map key).dedup.map fun b => (b, rows.filter (key · = b))

variable [DecidableEq β] {key : α → β} {rows : List α} {b : β} {g : List α}

theorem mem_groupBy : (b, g) ∈ groupBy key rows ↔
    (∃ r ∈ rows, key r = b) ∧ g = rows.filter (key · = b) := by
  simp only [groupBy, List.mem_map, List.mem_dedup, Prod.mk.injEq]
  constructor
  · rintro ⟨b', hb', rfl, rfl⟩
    exact ⟨hb', rfl⟩
  · rintro ⟨hb, rfl⟩
    exact ⟨b, hb, rfl, rfl⟩

/-- The groups have different keys. -/
theorem nodup_groupBy (key : α → β) (rows : List α) : (groupBy key rows).Nodup :=
  (List.nodup_dedup _).map fun _ _ h => congrArg Prod.fst h

variable {M : Type*} [AddCommMonoid M] {value : α → M} {m : M}

/-- The values of the rows with one of some keys add up key by key. -/
theorem sum_fibers (key : α → β) (value : α → M) (rows : List α) {s : List β} (hs : s.Nodup) :
    (s.map fun b => ((rows.filter (key · = b)).map value).sum).sum =
      ((rows.filter (key · ∈ s)).map value).sum := by
  have hperm := ((filter_mem_perm_flatMap key rows hs).map value).sum_eq
  rw [hperm, List.flatMap_def, List.map_flatten, List.sum_flatten, List.map_map, List.map_map]
  rfl

/-- Rows whose keys are all among some keys are counted key by key. -/
theorem sum_length_fibers (key : α → β) {rows : List α} {s : List β} (hs : s.Nodup)
    (hall : ∀ r ∈ rows, key r ∈ s) :
    (s.map fun b => (rows.filter (key · = b)).length).sum = rows.length := by
  have hperm := (filter_mem_perm_flatMap key rows hs).length_eq
  rw [List.filter_eq_self.2 fun r hr => decide_eq_true (hall r hr), List.length_flatMap] at hperm
  exact hperm.symm

/-- The groups of some rows by a key, each with the sum of its values. -/
def sumBy (key : α → β) (value : α → M) (rows : List α) : List (β × M) :=
  (groupBy key rows).map fun g => (g.1, (g.2.map value).sum)

theorem mem_sumBy : (b, m) ∈ sumBy key value rows ↔
    (∃ r ∈ rows, key r = b) ∧ m = ((rows.filter (key · = b)).map value).sum := by
  simp only [sumBy, List.mem_map, Prod.exists, Prod.mk.injEq]
  constructor
  · rintro ⟨b, g, hg, rfl, rfl⟩
    obtain ⟨hb, rfl⟩ := mem_groupBy.1 hg
    exact ⟨hb, rfl⟩
  · rintro ⟨hb, rfl⟩
    exact ⟨b, _, mem_groupBy.2 ⟨hb, rfl⟩, rfl, rfl⟩

theorem keys_sumBy (key : α → β) (value : α → M) (rows : List α) :
    (sumBy key value rows).map Prod.fst = (rows.map key).dedup := by
  rw [sumBy, groupBy, List.map_map, List.map_map]
  exact List.map_id _

theorem nodup_sumBy (key : α → β) (value : α → M) (rows : List α) :
    ((sumBy key value rows).map Prod.fst).Nodup := by
  rw [keys_sumBy]
  exact List.nodup_dedup _

/-- The sums of some groups are those of their rows. -/
theorem sum_sumBy (key : α → β) (value : α → M) (rows : List α) (p : β → Bool) :
    (((sumBy key value rows).filter fun g => p g.1).map Prod.snd).sum =
      ((rows.filter fun r => p (key r)).map value).sum := by
  have hgroups : ((sumBy key value rows).filter fun g => p g.1).map Prod.snd =
      ((rows.map key).dedup.filter p).map fun b => ((rows.filter (key · = b)).map value).sum := by
    rw [sumBy, groupBy, List.map_map, List.filter_map, List.map_map]
    rfl
  have hrows : rows.filter (key · ∈ (rows.map key).dedup.filter p) =
      rows.filter fun r => p (key r) := by
    refine List.filter_congr fun r hr => ?_
    have hkey : key r ∈ (rows.map key).dedup := List.mem_dedup.2 (List.mem_map_of_mem hr)
    simp [List.mem_filter, hkey]
  rw [hgroups, sum_fibers key value rows ((List.nodup_dedup _).filter _), hrows]

end Groups

section Sum

variable {M : Type*} [AddCommMonoid M]

@[simp] theorem sum_nil : sum ([] : List M) = none := rfl

theorem sum_of_ne_nil {xs : List M} (h : xs ≠ []) : sum xs = some xs.sum := if_neg h

theorem sum_perm {xs ys : List M} (h : xs.Perm ys) : sum xs = sum ys := by
  by_cases hxs : xs = []
  · subst hxs
    rw [h.nil_eq]
  · have hys : ys ≠ [] := fun hys => hxs (by subst hys; exact h.eq_nil)
    rw [sum_of_ne_nil hxs, sum_of_ne_nil hys, h.sum_eq]

/-- A sum is pooled from the sums of the groups that have values. -/
theorem sum_pooled (gs : List (List M)) : sum (gs.filterMap sum) = sum gs.flatten := by
  have hne : gs.filterMap sum = [] ↔ gs.flatten = [] := by
    simp [List.filterMap_eq_nil_iff, List.flatten_eq_nil_iff, sum]
  have hsum : (gs.filterMap sum).sum = gs.flatten.sum := by
    clear hne
    induction gs with
    | nil => rfl
    | cons g gs ih =>
      by_cases hg : g = []
      · subst hg
        rw [List.filterMap_cons_none sum_nil, ih, List.flatten_cons, List.nil_append]
      · rw [List.filterMap_cons_some (sum_of_ne_nil hg), List.flatten_cons, List.sum_append,
          List.sum_cons, ih]
  by_cases h : gs.flatten = []
  · rw [hne.2 h, h]
  · rw [sum_of_ne_nil h, sum_of_ne_nil (mt hne.1 h), hsum]

end Sum

section Extrema

variable {K : Type*} [LinearOrder K]

/-- The least value of a column is a matter of which values are in it. -/
theorem min?_congr {xs ys : List K} (h : ∀ x, x ∈ xs ↔ x ∈ ys) : xs.min? = ys.min? := by
  apply Option.ext
  intro a
  simp only [List.min?_eq_some_iff, h]

/-- The greatest value of a column is a matter of which values are in it. -/
theorem max?_congr {xs ys : List K} (h : ∀ x, x ∈ xs ↔ x ∈ ys) : xs.max? = ys.max? := by
  apply Option.ext
  intro a
  simp only [List.max?_eq_some_iff, h]

/-- The least value is pooled from the least values of the groups. -/
theorem min_pooled (gs : List (List K)) : (gs.filterMap List.min?).min? = gs.flatten.min? := by
  apply Option.ext
  intro a
  simp only [List.min?_eq_some_iff, List.mem_filterMap, List.mem_flatten]
  constructor
  · rintro ⟨⟨g, hg, ha, hle⟩, hall⟩
    refine ⟨⟨g, hg, ha⟩, ?_⟩
    rintro b ⟨g', hg', hb⟩
    obtain ⟨m, hm⟩ := Option.isSome_iff_exists.1 (List.isSome_min?_of_mem hb)
    have hm' := List.min?_eq_some_iff.1 hm
    exact (hall m ⟨g', hg', hm'⟩).trans (hm'.2 b hb)
  · rintro ⟨⟨g, hg, ha⟩, hall⟩
    refine ⟨⟨g, hg, ha, fun b hb => hall b ⟨g, hg, hb⟩⟩, ?_⟩
    rintro b ⟨g', hg', hb, -⟩
    exact hall b ⟨g', hg', hb⟩

/-- The greatest value is pooled from the greatest values of the groups. -/
theorem max_pooled (gs : List (List K)) : (gs.filterMap List.max?).max? = gs.flatten.max? := by
  apply Option.ext
  intro a
  simp only [List.max?_eq_some_iff, List.mem_filterMap, List.mem_flatten]
  constructor
  · rintro ⟨⟨g, hg, ha, hle⟩, hall⟩
    refine ⟨⟨g, hg, ha⟩, ?_⟩
    rintro b ⟨g', hg', hb⟩
    obtain ⟨m, hm⟩ := Option.isSome_iff_exists.1 (List.isSome_max?_of_mem hb)
    have hm' := List.max?_eq_some_iff.1 hm
    exact (hm'.2 b hb).trans (hall m ⟨g', hg', hm'⟩)
  · rintro ⟨⟨g, hg, ha⟩, hall⟩
    refine ⟨⟨g, hg, ha, fun b hb => hall b ⟨g, hg, hb⟩⟩, ?_⟩
    rintro b ⟨g', hg', hb, -⟩
    exact hall b ⟨g', hg', hb⟩

end Extrema

/-! ## Percentiles -/

/-- The continuous percentile of the values, if any: between the two values next to
    the fraction `p` of the way through the sorted values, in proportion. -/
def percentileCont (p : ℚ) (xs : List ℚ) : Option ℚ :=
  let sorted := xs.insertionSort (· ≤ ·)
  let position := p * (xs.length - 1 : ℕ)
  match sorted[⌊position⌋.toNat]?, sorted[⌈position⌉.toNat]? with
  | some lower, some upper => some (lower + (position - ⌊position⌋) * (upper - lower))
  | _, _ => none

/-- A column with values has its percentiles, and only such a column. -/
theorem percentileCont_isSome {p : ℚ} (hp : p ≤ 1) (xs : List ℚ) :
    (percentileCont p xs).isSome ↔ xs ≠ [] := by
  rw [percentileCont]
  constructor
  · rintro h rfl
    simp at h
  · intro h
    have hlen := List.length_pos_of_ne_nil h
    have hle : p * (xs.length - 1 : ℕ) ≤ ((xs.length - 1 : ℕ) : ℤ) := by
      push_cast
      exact mul_le_of_le_one_left (Nat.cast_nonneg _) hp
    have hupper : ⌈p * (xs.length - 1 : ℕ)⌉.toNat < xs.length := by
      have := Int.ceil_le.2 hle
      omega
    have hlower : ⌊p * (xs.length - 1 : ℕ)⌋.toNat < xs.length :=
      (Int.toNat_le_toNat (Int.floor_le_ceil _)).trans_lt hupper
    have hlength : (xs.insertionSort (· ≤ ·)).length = xs.length := List.length_insertionSort _ xs
    rw [List.getElem?_eq_getElem (hlower.trans_eq hlength.symm),
      List.getElem?_eq_getElem (hupper.trans_eq hlength.symm)]
    rfl

/-! ## Mean and deviation -/

section Moments

variable {K : Type*} [Field K]

/-- The sum of the squares of the values. -/
def sumSq (xs : List K) : Option K := sum (xs.map fun x => x * x)

/-- The mean of the values, if any. -/
def avg (xs : List K) : Option K := (sum xs).map fun s => s / xs.length

/-- The population variance of the values, if any: the mean of the squared
    distances to the mean. -/
def varPop (xs : List K) : Option K :=
  (avg xs).map fun μ => (xs.map fun x => (x - μ) * (x - μ)).sum / xs.length

/-- The population standard deviation of the values, if any, for a given square root. -/
def stddevPop (sqrt : K → K) (xs : List K) : Option K := (varPop xs).map sqrt

/-- A sum of squares is pooled from the sums of squares of the groups. -/
theorem sumSq_pooled (gs : List (List K)) : sum (gs.filterMap sumSq) = sumSq gs.flatten := by
  have h := sum_pooled (gs.map fun g => g.map fun x => x * x)
  rw [List.filterMap_map, ← List.map_flatten] at h
  exact h

/-- The distances to a point, from the moments. -/
theorem sum_sub_mul_sub (xs : List K) (c : K) : (xs.map fun x => (x - c) * (x - c)).sum =
    (xs.map fun x => x * x).sum - 2 * c * xs.sum + xs.length * (c * c) := by
  induction xs with
  | nil => simp
  | cons x xs ih =>
    simp only [List.map_cons, List.sum_cons, ih, List.length_cons, Nat.cast_add, Nat.cast_one]
    ring

theorem avg_of_ne_nil {xs : List K} (h : xs ≠ []) : avg xs = some (xs.sum / xs.length) := by
  rw [avg, sum_of_ne_nil h]
  rfl

variable [LinearOrder K] [IsStrictOrderedRing K]

theorem length_pos {xs : List K} (h : xs ≠ []) : (0 : K) < xs.length :=
  Nat.cast_pos.2 (List.length_pos_of_ne_nil h)

/-- The variance is the mean of the squares less the square of the mean. -/
theorem varPop_eq {xs : List K} (h : xs ≠ []) : varPop xs =
    some ((xs.map fun x => x * x).sum / xs.length - (xs.sum / xs.length) ^ 2) := by
  have hpos := length_pos h
  rw [varPop, avg_of_ne_nil h, Option.map_some, sum_sub_mul_sub]
  congr 1
  field_simp
  ring

/-- The variance is not negative. -/
theorem varPop_nonneg {xs : List K} {v : K} (h : varPop xs = some v) : 0 ≤ v := by
  obtain ⟨μ, -, rfl⟩ := Option.map_eq_some_iff.1 h
  refine div_nonneg (List.sum_nonneg ?_) (Nat.cast_nonneg _)
  intro y hy
  obtain ⟨x, -, rfl⟩ := List.mem_map.1 hy
  exact mul_self_nonneg _

end Moments

end Perfana.Aggregate
