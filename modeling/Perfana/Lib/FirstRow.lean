import Mathlib.Data.List.Basic

/-!
# Tables without a unique key

A table that has no unique index may have several rows of a key. A query for one row finds the
first, and an update by what was found changes that one; the others are not seen.

* `find?_updateFirst`: the row that was updated is found again;
* `find?_updateFirst_of_ne`, `find?_upsertFirst_of_ne`: the rows of another key are left alone;
* `filter_upsertFirst_of_nil`, `filter_upsertFirst_of_singleton`: the one row of a key is inserted,
  or updated.
-/

namespace Perfana

variable {ρ : Type*}

/-- Update the first row that a query finds. -/
def updateFirst (p : ρ → Bool) (f : ρ → ρ) : List ρ → List ρ
  | [] => []
  | r :: rows => if p r then f r :: rows else r :: updateFirst p f rows

/-- Update the first row that a query finds, or insert one. -/
def upsertFirst (p : ρ → Bool) (f : ρ → ρ) (new : ρ) (rows : List ρ) : List ρ :=
  if rows.any p then updateFirst p f rows else rows ++ [new]

variable {p q : ρ → Bool} {f : ρ → ρ} {new r : ρ} {rows : List ρ}

theorem find?_updateFirst (h : rows.find? p = some r) (hf : p (f r) = true) :
    (updateFirst p f rows).find? p = some (f r) := by
  induction rows with
  | nil => cases h
  | cons r' rows ih =>
    rw [updateFirst]
    cases hp : p r' with
    | true =>
      rw [List.find?_cons_of_pos hp] at h
      obtain rfl := Option.some.inj h
      rw [if_pos rfl, List.find?_cons_of_pos hf]
    | false =>
      have hneg : ¬p r' = true := Bool.not_eq_true _ ▸ hp
      rw [List.find?_cons_of_neg hneg] at h
      rw [if_neg Bool.false_ne_true, List.find?_cons_of_neg hneg]
      exact ih h

/-- The rows of another key are left alone. -/
theorem find?_updateFirst_of_ne (hpq : ∀ r, p r = true → q r = false ∧ q (f r) = false) :
    (updateFirst p f rows).find? q = rows.find? q := by
  induction rows with
  | nil => rfl
  | cons r rows ih =>
    rw [updateFirst]
    cases hp : p r with
    | true =>
      obtain ⟨hq, hqf⟩ := hpq r hp
      rw [if_pos rfl, List.find?_cons_of_neg (Bool.eq_false_iff.1 hqf),
        List.find?_cons_of_neg (Bool.eq_false_iff.1 hq)]
    | false =>
      rw [if_neg Bool.false_ne_true, List.find?_cons, List.find?_cons, ih]

/-- An update that keeps what a query asks for keeps what it finds, but for the update. -/
theorem filter_updateFirst (hf : ∀ r, q (f r) = q r) (h : rows.filter q = [r]) :
    ∃ r', (updateFirst p f rows).filter q = [r'] ∧ (r' = r ∨ r' = f r) := by
  have hnil : ∀ rows : List ρ, rows.filter q = [] → (updateFirst p f rows).filter q = [] := by
    intro rows hrows
    induction rows with
    | nil => rfl
    | cons r' rows ih =>
      obtain ⟨hr', hrows⟩ := List.forall_mem_cons.1 (List.filter_eq_nil_iff.1 hrows)
      have hrows := List.filter_eq_nil_iff.2 hrows
      rw [updateFirst]
      split
      · rw [List.filter_cons_of_neg (by rwa [hf]), hrows]
      · rw [List.filter_cons_of_neg hr', ih hrows]
  induction rows with
  | nil => cases h
  | cons r' rows ih =>
    rw [updateFirst]
    by_cases hr' : q r' = true
    · rw [List.filter_cons_of_pos hr', List.cons.injEq] at h
      obtain ⟨rfl, hrows⟩ := h
      split
      · rw [List.filter_cons_of_pos (by rwa [hf]), hrows]
        exact ⟨f r', rfl, .inr rfl⟩
      · rw [List.filter_cons_of_pos hr', hnil rows hrows]
        exact ⟨r', rfl, .inl rfl⟩
    · rw [List.filter_cons_of_neg hr'] at h
      split
      · rw [List.filter_cons_of_neg (by rwa [hf])]
        exact ⟨r, h, .inl rfl⟩
      · rw [List.filter_cons_of_neg hr']
        exact ih h

/-- An update that was made is not made twice. -/
theorem updateFirst_updateFirst (hp : ∀ r, p r = true → p (f r) = true)
    (hf : ∀ r, f (f r) = f r) : updateFirst p f (updateFirst p f rows) = updateFirst p f rows := by
  induction rows with
  | nil => rfl
  | cons r rows ih =>
    rw [updateFirst]
    split
    · rename_i hr
      rw [updateFirst, if_pos (hp r hr), hf]
    · rename_i hr
      rw [updateFirst, if_neg hr, ih]

theorem any_of_find? (h : rows.find? p = some r) : rows.any p = true :=
  List.any_eq_true.2 ⟨r, List.mem_of_find?_eq_some h, List.find?_some h⟩

/-- A row that is found is updated, -/
theorem find?_upsertFirst (h : rows.find? p = some r) (hf : p (f r) = true) :
    (upsertFirst p f new rows).find? p = some (f r) := by
  rw [upsertFirst, if_pos (any_of_find? h)]
  exact find?_updateFirst h hf

/-- and the rows of another key are left alone. -/
theorem find?_upsertFirst_of_ne (hpq : ∀ r, p r = true → q r = false ∧ q (f r) = false)
    (hnew : q new = false) : (upsertFirst p f new rows).find? q = rows.find? q := by
  rw [upsertFirst]
  split
  · exact find?_updateFirst_of_ne hpq
  · rw [List.find?_append, List.find?_cons_of_neg (Bool.eq_false_iff.1 hnew), List.find?_nil,
      Option.or_none]

/-- The row that is updated, or inserted, is found. -/
theorem find?_upsertFirst_self (hf : ∀ r, p r = true → p (f r) = true) (hnew : p new = true) :
    (upsertFirst p f new rows).find? p = some ((rows.find? p).elim new f) := by
  cases hrow : rows.find? p with
  | some r => exact find?_upsertFirst hrow (hf r (List.find?_some hrow))
  | none =>
    have hany : ¬rows.any p = true := fun hany =>
      let ⟨r, hr, hp⟩ := List.any_eq_true.1 hany
      List.find?_eq_none.1 hrow r hr hp
    rw [upsertFirst, if_neg hany, List.find?_append, hrow, List.find?_cons_of_pos hnew]
    rfl

/-- Deleting a row leaves what other queries find. -/
theorem find?_erase_of_neg [BEq ρ] [LawfulBEq ρ] (h : q r = false) :
    (rows.erase r).find? q = rows.find? q := by
  induction rows with
  | nil => rfl
  | cons r' rows ih =>
    rw [List.erase_cons]
    split
    · rename_i heq
      rw [eq_of_beq heq, List.find?_cons_of_neg (Bool.eq_false_iff.1 h)]
    · rw [List.find?_cons, List.find?_cons, ih]

/-- The rows of another key are selected as before. -/
theorem filter_upsertFirst_of_ne (hpq : ∀ r, p r = true → q r = false ∧ q (f r) = false)
    (hnew : q new = false) : (upsertFirst p f new rows).filter q = rows.filter q := by
  rw [upsertFirst]
  split
  · induction rows with
    | nil => rfl
    | cons r rows ih =>
      rw [updateFirst]
      split
      · rename_i hp
        obtain ⟨hr, hfr⟩ := hpq r hp
        rw [List.filter_cons_of_neg (Bool.eq_false_iff.1 hfr),
          List.filter_cons_of_neg (Bool.eq_false_iff.1 hr)]
      · rename_i hany hp
        rw [List.any_cons, Bool.or_eq_true, or_iff_right hp] at hany
        rw [List.filter_cons, List.filter_cons, ih hany]
  · rw [List.filter_append, List.filter_cons_of_neg (Bool.eq_false_iff.1 hnew), List.filter_nil,
      List.append_nil]

/-- Where nothing is selected, the row that is inserted is; -/
theorem filter_upsertFirst_of_nil (h : rows.filter q = []) (hpq : ∀ r, p r = true → q r = true)
    (hnew : q new = true) : (upsertFirst p f new rows).filter q = [new] := by
  have hany : ¬rows.any p = true := by
    rw [List.any_eq_true]
    rintro ⟨r, hr, hp⟩
    exact List.filter_eq_nil_iff.1 h r hr (hpq r hp)
  rw [upsertFirst, if_neg hany, List.filter_append, h, List.filter_cons_of_pos hnew,
    List.filter_nil, List.nil_append]

/-- and where one row is that has the key, it is updated. -/
theorem filter_upsertFirst_of_singleton (h : rows.filter q = [r]) (hr : p r = true)
    (hpq : ∀ r, p r = true → q r = true) (hf : q (f r) = true) :
    (upsertFirst p f new rows).filter q = [f r] := by
  have hmem : r ∈ rows := (List.mem_filter.1 (h ▸ List.mem_singleton_self r)).1
  rw [upsertFirst, if_pos (List.any_eq_true.2 ⟨r, hmem, hr⟩)]
  clear hmem
  induction rows with
  | nil => cases h
  | cons r' rows ih =>
    rw [updateFirst]
    by_cases hq : q r' = true
    · rw [List.filter_cons_of_pos hq, List.cons.injEq] at h
      obtain ⟨rfl, hrows⟩ := h
      rw [if_pos hr, List.filter_cons_of_pos hf, hrows]
    · rw [List.filter_cons_of_neg hq] at h
      rw [if_neg fun hp => hq (hpq r' hp), List.filter_cons_of_neg hq, ih h]

/-- A row is still there, as it was or updated. -/
theorem exists_mem_upsertFirst (h : r ∈ rows) :
    ∃ r' ∈ upsertFirst p f new rows, r' = r ∨ p r = true ∧ r' = f r := by
  rw [upsertFirst]
  split
  · clear * - h
    induction rows with
    | nil => cases h
    | cons r₀ rows ih =>
      rw [updateFirst]
      split
      · rename_i hp
        rcases List.mem_cons.1 h with rfl | h
        · exact ⟨f r, List.mem_cons_self, .inr ⟨hp, rfl⟩⟩
        · exact ⟨r, List.mem_cons_of_mem _ h, .inl rfl⟩
      · rcases List.mem_cons.1 h with rfl | h
        · exact ⟨r, List.mem_cons_self, .inl rfl⟩
        · obtain ⟨r', hr', heq⟩ := ih h
          exact ⟨r', List.mem_cons_of_mem _ hr', heq⟩
  · exact ⟨r, List.mem_append_left _ h, .inl rfl⟩

/-- A row is one that was there, as it was or updated, or the one inserted. -/
theorem mem_upsertFirst (h : r ∈ upsertFirst p f new rows) :
    r ∈ rows ∨ (∃ r' ∈ rows, p r' = true ∧ r = f r') ∨ r = new := by
  rw [upsertFirst] at h
  split at h
  · have hmem : r ∈ rows ∨ ∃ r' ∈ rows, p r' = true ∧ r = f r' := by
      clear * - h
      induction rows with
      | nil => cases h
      | cons r₀ rows ih =>
        rw [updateFirst] at h
        split at h
        · rename_i hp
          rcases List.mem_cons.1 h with rfl | h
          · exact .inr ⟨r₀, List.mem_cons_self, hp, rfl⟩
          · exact .inl (List.mem_cons_of_mem _ h)
        · rcases List.mem_cons.1 h with rfl | h
          · exact .inl List.mem_cons_self
          · rcases ih h with h | ⟨r', hr', heq⟩
            · exact .inl (List.mem_cons_of_mem _ h)
            · exact .inr ⟨r', List.mem_cons_of_mem _ hr', heq⟩
    exact hmem.imp_right .inl
  · rcases List.mem_append.1 h with h | h
    · exact .inl h
    · exact .inr (.inr (List.mem_singleton.1 h))

end Perfana
