import Mathlib.Data.List.Basic

/-!
# Computations that may fail

One that goes through went through in each of its steps (`bind_eq_ok_iff`). A function that
may have no value is mapped over a list if it has one at each element (`mapM_eq_some_iff`), and then
it is filtered through without a loss (`filterMap_of_mapM`).
-/

namespace Perfana

universe u v

theorem bind_eq_ok_iff {ε : Type v} {α β : Type u} {x : Except ε α} {k : α → Except ε β} {b : β} :
    x >>= k = .ok b ↔ ∃ a, x = .ok a ∧ k a = .ok b := by
  cases x with
  | error e =>
    refine iff_of_false (fun h => by cases h) ?_
    rintro ⟨_, h, _⟩
    cases h
  | ok a =>
    refine ⟨fun h => ⟨a, rfl, h⟩, ?_⟩
    rintro ⟨_, h, hk⟩
    cases h
    exact hk

/-- A function that never fails is mapped over a list, -/
theorem mapM_ok {α β ε : Type*} {f : α → Except ε β} {g : α → β} {l : List α}
    (h : ∀ a ∈ l, f a = .ok (g a)) : l.mapM f = .ok (l.map g) := by
  induction l with
  | nil => rfl
  | cons a l ih =>
    rw [List.mapM_cons, h a List.mem_cons_self, ih fun b hb => h b (List.mem_cons_of_mem _ hb)]
    rfl

/-- and one that fails somewhere fails. -/
theorem mapM_error {α β ε : Type*} {f : α → Except ε β} {l : List α} {a : α} (ha : a ∈ l) {e : ε}
    (h : f a = .error e) : ∃ e, l.mapM f = .error e := by
  induction l with
  | nil => cases ha
  | cons b l ih =>
    rw [List.mapM_cons]
    cases hb : f b with
    | error e' => exact ⟨e', rfl⟩
    | ok b' =>
      rcases List.mem_cons.1 ha with rfl | ha
      · rw [hb] at h
        cases h
      · obtain ⟨e, he⟩ := ih ha
        rw [he]
        exact ⟨e, rfl⟩

/-- The values of a function that did not fail are those at the elements. -/
theorem exists_of_mapM_ok {ε : Type v} {α : Type*} {β : Type u} {f : α → Except ε β} {l : List α}
    {l' : List β} (h : l.mapM f = .ok l') {b : β} (hb : b ∈ l') : ∃ a ∈ l, f a = .ok b := by
  induction l generalizing l' with
  | nil =>
    obtain rfl := Except.ok.inj h
    cases hb
  | cons a l ih =>
    rw [List.mapM_cons, bind_eq_ok_iff] at h
    obtain ⟨b', hb', h⟩ := h
    obtain ⟨bs, hbs, h⟩ := bind_eq_ok_iff.1 h
    obtain rfl := Except.ok.inj h
    rcases List.mem_cons.1 hb with rfl | hb
    · exact ⟨a, List.mem_cons_self, hb'⟩
    · obtain ⟨a', ha', h⟩ := ih hbs hb
      exact ⟨a', List.mem_cons_of_mem _ ha', h⟩

variable {α β : Type*} {f : α → Option β} {l : List α} {l' : List β}

/-- The values are those at the elements. -/
theorem mapM_eq_some_iff : l.mapM f = some l' ↔ l.map f = l'.map some := by
  induction l generalizing l' with
  | nil =>
    cases l' with
    | nil => exact iff_of_true rfl rfl
    | cons b l' => exact iff_of_false (fun h => by cases h) (fun h => by cases h)
  | cons a l ih =>
    rw [List.mapM_cons, Option.bind_eq_bind, Option.bind_eq_some_iff, List.map_cons]
    constructor
    · rintro ⟨b, hb, h⟩
      obtain ⟨bs, hbs, h⟩ := Option.bind_eq_some_iff.1 h
      obtain rfl := Option.some.inj h
      rw [hb, ih.1 hbs, List.map_cons]
    · intro h
      cases l' with
      | nil => cases h
      | cons b l' =>
        rw [List.map_cons, List.cons.injEq] at h
        refine ⟨b, h.1, ?_⟩
        rw [ih.2 h.2]
        rfl

/-- A function that has a value at each element is mapped. -/
theorem exists_mapM (h : ∀ a ∈ l, (f a).isSome) : ∃ l', l.mapM f = some l' := by
  induction l with
  | nil => exact ⟨[], rfl⟩
  | cons a l ih =>
    obtain ⟨ha, hl⟩ := List.forall_mem_cons.1 h
    obtain ⟨b, hb⟩ := Option.isSome_iff_exists.1 ha
    obtain ⟨bs, hbs⟩ := ih hl
    exact ⟨b :: bs, by rw [List.mapM_cons, hb, hbs]; rfl⟩

theorem length_of_mapM (h : l.mapM f = some l') : l'.length = l.length := by
  rw [← List.length_map (f := some), ← mapM_eq_some_iff.1 h, List.length_map]

theorem filterMap_of_mapM (h : l.mapM f = some l') : l.filterMap f = l' := by
  have hid : l.filterMap f = (l.map f).filterMap id := by
    rw [List.filterMap_map, Function.id_comp]
  rw [hid, mapM_eq_some_iff.1 h, List.filterMap_map, Function.id_comp, List.filterMap_some]

theorem mem_of_mapM (h : l.mapM f = some l') {b : β} : b ∈ l' ↔ ∃ a ∈ l, f a = some b := by
  rw [← filterMap_of_mapM h, List.mem_filterMap]

end Perfana
