import Mathlib.Data.List.Basic

/-!
# Inserting the rows that do not clash

An insert that does nothing on a conflict goes through its rows in their order, and writes those
that clash neither with a row that is there nor with one that it has written (`skipping`).

* `skipping_eq_self`: without clashes, all rows are written;
* `mem_skipping`, `nodup_skipping`: which rows are written if each clashes with itself only.
-/

namespace Perfana

variable {ρ : Type*} (clash : ρ → ρ → Bool)

/-- The rows that are written. -/
def skipping : List ρ → List ρ → List ρ
  | _, [] => []
  | present, row :: rows =>
    if present.any (clash row) then skipping present rows
    else row :: skipping (present ++ [row]) rows

variable {clash} {present rows rows' : List ρ} {row : ρ}

@[simp] theorem skipping_nil : skipping clash present [] = [] := rfl

theorem skipping_cons_of_clash (h : present.any (clash row) = true) :
    skipping clash present (row :: rows) = skipping clash present rows := by
  rw [skipping, if_pos h]

theorem skipping_cons_of_free (h : present.any (clash row) = false) :
    skipping clash present (row :: rows) = row :: skipping clash (present ++ [row]) rows := by
  rw [skipping, if_neg (ne_true_of_eq_false h)]

theorem skipping_eq_self (h : ∀ r r', clash r r' = false) : skipping clash present rows = rows := by
  induction rows generalizing present with
  | nil => rfl
  | cons row rows ih =>
    have hfree : present.any (clash row) = false := List.any_eq_false.2 fun r _ => by rw [h]; simp
    rw [skipping_cons_of_free hfree, ih]

/-- If rows clash with themselves and with no others, those are written that clash with none that is
    there, -/
theorem mem_skipping (h : ∀ a ∈ rows, ∀ b ∈ rows, clash a b = true ↔ a = b) :
    row ∈ skipping clash present rows ↔ row ∈ rows ∧ present.any (clash row) = false := by
  induction rows generalizing present with
  | nil => simp
  | cons r rows ih =>
    have hself : clash r r = true := (h r List.mem_cons_self r List.mem_cons_self).2 rfl
    have hrest : ∀ {present}, row ∈ skipping clash present rows ↔
        row ∈ rows ∧ present.any (clash row) = false := ih fun a ha b hb =>
      h a (List.mem_cons_of_mem _ ha) b (List.mem_cons_of_mem _ hb)
    cases hclash : present.any (clash r) with
    | true =>
      rw [skipping_cons_of_clash hclash, hrest, List.mem_cons]
      refine ⟨fun hrow => ⟨.inr hrow.1, hrow.2⟩, fun hrow => ⟨hrow.1.resolve_left ?_, hrow.2⟩⟩
      rintro rfl
      rw [hclash] at hrow
      cases hrow.2
    | false =>
      rw [skipping_cons_of_free hclash, List.mem_cons, List.mem_cons, hrest, List.any_append,
        Bool.or_eq_false_iff]
      constructor
      · rintro (rfl | ⟨hmem, hfree, -⟩)
        · exact ⟨.inl rfl, hclash⟩
        · exact ⟨.inr hmem, hfree⟩
      · rintro ⟨rfl | hmem, hfree⟩
        · exact .inl rfl
        · by_cases heq : row = r
          · exact .inl heq
          · refine .inr ⟨hmem, hfree, ?_⟩
            have hne : clash row r ≠ true := fun hc =>
              heq ((h row (List.mem_cons_of_mem _ hmem) r List.mem_cons_self).1 hc)
            simpa using hne

/-- each of them once. -/
theorem nodup_skipping (h : ∀ a ∈ rows, ∀ b ∈ rows, clash a b = true ↔ a = b) :
    (skipping clash present rows).Nodup := by
  induction rows generalizing present with
  | nil => exact List.nodup_nil
  | cons r rows ih =>
    have hself : clash r r = true := (h r List.mem_cons_self r List.mem_cons_self).2 rfl
    have htail : ∀ a ∈ rows, ∀ b ∈ rows, clash a b = true ↔ a = b := fun a ha b hb =>
      h a (List.mem_cons_of_mem _ ha) b (List.mem_cons_of_mem _ hb)
    cases hclash : present.any (clash r) with
    | true =>
      rw [skipping_cons_of_clash hclash]
      exact ih htail
    | false =>
      rw [skipping_cons_of_free hclash, List.nodup_cons, mem_skipping htail]
      refine ⟨fun hmem => ?_, ih htail⟩
      have hfree := hmem.2
      rw [List.any_append, Bool.or_eq_false_iff] at hfree
      simp [hself] at hfree

end Perfana
