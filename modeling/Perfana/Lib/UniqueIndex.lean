import Perfana.Lib.Table

/-!
# Unique indexes

A unique index gives some rows of a table a key, and refuses a row whose key another row has.
Rows that it gives no key, because it leaves them out or because a column of the key is null,
are never refused.

* `Table.conflicts_iff`: a row is refused if and only if another row has its key;
* `Table.UniqueOn.set`: a row that is not refused leaves the keys unique;
* `Table.get_of_findOne`, `Table.not_of_findOne_eq_none`: a query for one row finds one that
  meets its condition, whichever order the rows are read in, unless there is none.
-/

namespace Perfana

/-- An order in which the rows of a table are read: it may be any. -/
structure RowOrder (α : Type*) where
  /-- The rows, as they are read. -/
  read : List α → List α
  /-- They are the same rows. -/
  perm : ∀ l, (read l).Perm l

/-- The order in which the rows were written. -/
def RowOrder.written (α : Type*) : RowOrder α := ⟨id, List.Perm.refl⟩

namespace Table

variable {κ ρ α : Type*} [DecidableEq κ] [DecidableEq α] {key : ρ → Option α} {t : Table κ ρ}
  {k : κ} {r : ρ}

variable (key t) in
/-- No two rows have the same key. -/
def UniqueOn : Prop :=
  ∀ k r k' r' a, t.get k = some r → t.get k' = some r' → key r = some a → key r' = some a → k = k'

variable (key t k r) in
/-- The index refuses a row for a key of the table. -/
def conflicts : Bool :=
  t.rows.any fun row => decide (row.1 ≠ k) && (key r).isSome && decide (key row.2 = key r)

/-- A row is refused if and only if another one has its key in the index. -/
theorem conflicts_iff : t.conflicts key k r = true ↔
    ∃ k' r' a, k' ≠ k ∧ t.get k' = some r' ∧ key r' = some a ∧ key r = some a := by
  rw [conflicts, List.any_eq_true]
  constructor
  · rintro ⟨⟨k', r'⟩, hrow, h⟩
    simp only [Bool.and_eq_true, decide_eq_true_eq] at h
    obtain ⟨⟨hne, hsome⟩, heq⟩ := h
    obtain ⟨a, ha⟩ := Option.isSome_iff_exists.1 hsome
    exact ⟨k', r', a, hne, mem_rows.1 hrow, heq.trans ha, ha⟩
  · rintro ⟨k', r', a, hne, hget, ha', ha⟩
    refine ⟨(k', r'), mem_rows.2 hget, ?_⟩
    simp [hne, ha, ha']

omit [DecidableEq α] in
theorem uniqueOn_iff : t.UniqueOn key ↔ ∀ row ∈ t.rows, ∀ row' ∈ t.rows,
    key row.2 ≠ none → key row.2 = key row'.2 → row.1 = row'.1 := by
  constructor
  · intro h row hrow row' hrow' hsome heq
    obtain ⟨a, ha⟩ := Option.ne_none_iff_exists'.1 hsome
    exact h row.1 row.2 row'.1 row'.2 a (mem_rows.1 hrow) (mem_rows.1 hrow') ha (heq.symm.trans ha)
  · intro h k r k' r' a hget hget' ha ha'
    exact h (k, r) (mem_rows.2 hget) (k', r') (mem_rows.2 hget')
      (Option.ne_none_iff_exists'.2 ⟨a, ha⟩) (ha.trans ha'.symm)

instance : Decidable (t.UniqueOn key) := decidable_of_iff _ uniqueOn_iff.symm

/-- A row that is not refused leaves the keys unique. -/
theorem UniqueOn.set (h : t.UniqueOn key) (hfree : t.conflicts key k r = false) :
    (t.set k r).UniqueOn key := by
  have hother : ∀ k' r' a, k' ≠ k → t.get k' = some r' → key r' = some a → key r ≠ some a := by
    intro k' r' a hne hget ha' ha
    exact ne_true_of_eq_false hfree (conflicts_iff.2 ⟨k', r', a, hne, hget, ha', ha⟩)
  intro k₁ r₁ k₂ r₂ a h₁ h₂ ha₁ ha₂
  rw [get_set] at h₁ h₂
  split at h₁ <;> split at h₂
  · rename_i hk₁ hk₂
    rw [hk₁, hk₂]
  · rename_i hk₂
    obtain rfl := Option.some.inj h₁
    exact absurd ha₁ (hother k₂ r₂ a hk₂ h₂ ha₂)
  · rename_i hk₁ hk₂
    obtain rfl := Option.some.inj h₂
    exact absurd ha₂ (hother k₁ r₁ a hk₁ h₁ ha₁)
  · exact h k₁ r₁ k₂ r₂ a h₁ h₂ ha₁ ha₂

/-! ## Queries for one row -/

variable (t) in
omit [DecidableEq κ] in
/-- The first row that meets a condition, in the order in which they are read. -/
def findOne (order : RowOrder (κ × ρ)) (p : ρ → Bool) : Option (κ × ρ) :=
  (order.read t.rows).find? fun row => p row.2

variable {order : RowOrder (κ × ρ)} {p : ρ → Bool}

theorem get_of_findOne (h : t.findOne order p = some (k, r)) : t.get k = some r ∧ p r = true := by
  rw [findOne] at h
  exact ⟨mem_rows.1 ((order.perm t.rows).subset (List.mem_of_find?_eq_some h)),
    List.find?_some (p := fun row : κ × ρ => p row.2) h⟩

theorem not_of_findOne_eq_none (h : t.findOne order p = none) (hget : t.get k = some r) :
    p r = false := by
  rw [findOne, List.find?_eq_none] at h
  exact Bool.eq_false_iff.2 (h (k, r) ((order.perm t.rows).symm.subset (mem_rows.2 hget)))

end Table

end Perfana
