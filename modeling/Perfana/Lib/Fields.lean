import Mathlib.Data.List.Basic
import Mathlib.Data.List.DropRight

/-!
# Fields of a text

A text is told from another one up to its spaces by its fields, the pieces between spaces that are
not empty. Leaving out elements that are no spaces (`Drops`) changes a field, but does not join two
of them.

* `fieldsBy_append_cons`: a space ends a field;
* `flatMap_splitOnP`: so what is gathered field by field is gathered piece by piece;
* `Drops.filter_eq`: what is left out is all that is lost.
-/

namespace Perfana

variable {α : Type*} {p : α → Bool} {a : α}

/-- The pieces between spaces that are not empty. -/
def fieldsBy (p : α → Bool) (l : List α) : List (List α) := (l.splitOnP p).filter (!·.isEmpty)

@[simp]
theorem fieldsBy_nil : fieldsBy p [] = [] := rfl

/-- A space ends a field. -/
theorem fieldsBy_append_cons (ha : p a = true) (l m : List α) :
    fieldsBy p (l ++ a :: m) = fieldsBy p l ++ fieldsBy p m := by
  rw [fieldsBy, List.splitOnP_append_cons l m ha, List.filter_append]
  rfl

theorem fieldsBy_cons_of_pos (ha : p a = true) (l : List α) : fieldsBy p (a :: l) = fieldsBy p l :=
  fieldsBy_append_cons ha [] l

theorem fieldsBy_of_forall {l : List α} (h : ∀ a ∈ l, p a = true) : fieldsBy p l = [] := by
  induction l with
  | nil => rfl
  | cons a l ih =>
    rw [fieldsBy_cons_of_pos (h a List.mem_cons_self)]
    exact ih fun b hb => h b (List.mem_cons_of_mem _ hb)

/-- Spaces at the start, -/
theorem fieldsBy_append_left {m : List α} (h : ∀ a ∈ m, p a = true) (l : List α) :
    fieldsBy p (m ++ l) = fieldsBy p l := by
  induction m with
  | nil => rfl
  | cons a m ih =>
    rw [List.cons_append, fieldsBy_cons_of_pos (h a List.mem_cons_self)]
    exact ih fun b hb => h b (List.mem_cons_of_mem _ hb)

/-- or at the end, change no field. -/
theorem fieldsBy_append_right {m : List α} (h : ∀ a ∈ m, p a = true) (l : List α) :
    fieldsBy p (l ++ m) = fieldsBy p l := by
  cases m with
  | nil => rw [List.append_nil]
  | cons a m =>
    rw [fieldsBy_append_cons (h a List.mem_cons_self),
      fieldsBy_of_forall fun b hb => h b (List.mem_cons_of_mem _ hb), List.append_nil]

/-- What is gathered from a text, its parts at a cut one after the other, is gathered from the
    pieces between cuts. -/
theorem flatMap_splitOnP {β : Type*} {q : α → Bool} {f : List α → List β}
    (h : ∀ a, q a = true → ∀ l m, f (l ++ a :: m) = f l ++ f m) (l : List α) :
    (l.splitOnP q).flatMap f = f l := by
  suffices hpre : ∀ b first rest, l.splitOnP q = first :: rest →
      f (b ++ first) ++ rest.flatMap f = f (b ++ l) by
    obtain ⟨first, rest, heq⟩ := List.exists_cons_of_ne_nil (List.splitOnP_ne_nil q l)
    rw [heq, List.flatMap_cons]
    exact hpre [] first rest heq
  induction l with
  | nil =>
    intro b first rest heq
    rw [List.splitOnP_nil] at heq
    obtain ⟨rfl, rfl⟩ := List.cons.inj heq
    simp
  | cons a l ih =>
    intro b first rest heq
    obtain ⟨first', rest', heq'⟩ := List.exists_cons_of_ne_nil (List.splitOnP_ne_nil q l)
    rw [List.splitOnP_cons_eq_if_modifyHead, heq'] at heq
    split at heq
    · rename_i ha
      obtain ⟨rfl, rfl⟩ := List.cons.inj heq
      rw [h a ha, List.append_nil, List.flatMap_cons]
      exact congrArg (f b ++ ·) (ih [] first' rest' heq')
    · obtain ⟨rfl, rfl⟩ := List.cons.inj heq
      have hl := ih (b ++ [a]) first' rest' heq'
      rwa [List.append_assoc, List.append_assoc] at hl

/-! ## Leaving out -/

/-- The first list is the second one with some elements left out, all of them of this kind. -/
inductive Drops (p : α → Bool) : List α → List α → Prop
  | nil : Drops p [] []
  | keep (a : α) {l l' : List α} (h : Drops p l l') : Drops p (a :: l) (a :: l')
  | drop {a : α} (ha : p a = true) {l l' : List α} (h : Drops p l l') : Drops p l (a :: l')

namespace Drops

variable {l l' m m' : List α}

theorem refl (l : List α) : Drops p l l := by
  induction l with
  | nil => exact .nil
  | cons a l ih => exact .keep a ih

theorem append (h : Drops p l l') (h' : Drops p m m') : Drops p (l ++ m) (l' ++ m') := by
  induction h with
  | nil => exact h'
  | keep a h ih => exact .keep a ih
  | drop ha h ih => exact .drop ha ih

theorem of_forall (h : ∀ a ∈ l, p a = true) : Drops p [] l := by
  induction l with
  | nil => exact .nil
  | cons a l ih =>
    exact .drop (h a List.mem_cons_self) (ih fun b hb => h b (List.mem_cons_of_mem _ hb))

theorem trans (h : Drops p l m) (h' : Drops p m m') : Drops p l m' := by
  induction h' generalizing l with
  | nil => exact h
  | keep a h' ih =>
    cases h with
    | keep _ h => exact .keep a (ih h)
    | drop ha h => exact .drop ha (ih h)
  | drop ha h' ih => exact .drop ha (ih h)

/-- What is left out is all that is lost. -/
theorem filter_eq (h : Drops p l l') : l.filter (!p ·) = l'.filter (!p ·) := by
  induction h with
  | nil => rfl
  | keep a h ih => rw [List.filter_cons, List.filter_cons, ih]
  | drop ha h ih => rw [List.filter_cons_of_neg (by simp [ha]), ih]

/-- What cannot be left out is still there. -/
theorem exists_append (hm : ∀ a ∈ m, p a = false) (h : Drops p l (m ++ m')) :
    ∃ l', l = m ++ l' ∧ Drops p l' m' := by
  induction m generalizing l with
  | nil => exact ⟨l, rfl, h⟩
  | cons a m ih =>
    cases h with
    | keep _ h =>
      obtain ⟨l', rfl, hl'⟩ := ih (fun b hb => hm b (List.mem_cons_of_mem _ hb)) h
      exact ⟨l', rfl, hl'⟩
    | drop ha h =>
      rw [hm a List.mem_cons_self] at ha
      cases ha

end Drops

end Perfana
