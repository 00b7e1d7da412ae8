import Mathlib.Data.List.Basic
import Mathlib.Logic.Function.Basic

/-!
# Marks that are carried forward

In a list some elements have a mark, and a program that reads the list gives each element the last
mark before it that has the key of the element (`carry`). What the elements of one key are given
depends on these elements alone (`filter_carry`), however the list mixes the keys, and a part of the
list that has all elements of its keys is read like the whole list (`carry_filter`).
-/

namespace Perfana.CarryForward

variable {α β κ : Type*} (mark : α → Option β)

/-- Each element with the last mark before it. -/
def carryOne (last : Option β) : List α → List (α × Option β)
  | [] => []
  | a :: l => (a, last) :: carryOne ((mark a).or last) l

variable [DecidableEq κ] (key : α → κ)

/-- The marks after an element. -/
def remember (last : κ → Option β) (a : α) : κ → Option β :=
  Function.update last (key a) ((mark a).or (last (key a)))

/-- Each element with the last mark of its key before it. -/
def carry (last : κ → Option β) : List α → List (α × Option β)
  | [] => []
  | a :: l => (a, last (key a)) :: carry (remember mark key last a) l

variable {mark key} {last : κ → Option β} {l : List α}

theorem remember_self (a : α) : remember mark key last a (key a) = (mark a).or (last (key a)) :=
  Function.update_self ..

theorem remember_of_ne {a : α} {k : κ} (h : k ≠ key a) : remember mark key last a k = last k :=
  Function.update_of_ne h ..

omit [DecidableEq κ] in
theorem map_fst_carryOne {last : Option β} : (carryOne mark last l).map Prod.fst = l := by
  induction l generalizing last with
  | nil => rfl
  | cons a l ih => rw [carryOne, List.map_cons, ih]

theorem map_fst_carry : (carry mark key last l).map Prod.fst = l := by
  induction l generalizing last with
  | nil => rfl
  | cons a l ih => rw [carry, List.map_cons, ih]

/-- The elements of a key are given the marks that they are given without the others. -/
theorem filter_carry (k : κ) :
    ((carry mark key last l).filter fun p => key p.1 = k) =
      carryOne mark (last k) (l.filter fun a => key a = k) := by
  induction l generalizing last with
  | nil => rfl
  | cons a l ih =>
    rw [carry, List.filter_cons, List.filter_cons]
    by_cases h : key a = k
    · subst h
      simp only [decide_true, if_true]
      rw [carryOne, ih, remember_self]
    · simp only [h, decide_false, Bool.false_eq_true, if_false]
      rw [ih, remember_of_ne (Ne.symm h)]

/-- What is remembered of other keys does not count. -/
theorem carry_congr {last' : κ → Option β} (h : ∀ a ∈ l, last (key a) = last' (key a)) :
    carry mark key last l = carry mark key last' l := by
  induction l generalizing last last' with
  | nil => rfl
  | cons a l ih =>
    rw [carry, carry, h a List.mem_cons_self]
    refine congrArg _ (ih fun b hb => ?_)
    by_cases hkey : key b = key a
    · rw [hkey, remember_self, remember_self, h a List.mem_cons_self]
    · rw [remember_of_ne hkey, remember_of_ne hkey, h b (List.mem_cons_of_mem _ hb)]

/-- A part of the list with all elements of its keys is read like the whole list. -/
theorem carry_filter (p : κ → Bool) :
    carry mark key last (l.filter fun a => p (key a)) =
      (carry mark key last l).filter fun x => p (key x.1) := by
  induction l generalizing last with
  | nil => rfl
  | cons a l ih =>
    rw [carry, List.filter_cons, List.filter_cons]
    by_cases h : p (key a) = true
    · rw [if_pos h, if_pos h, carry, ih]
    · rw [if_neg h, if_neg h, ← ih]
      refine carry_congr fun b hb => ?_
      have hb := (List.mem_filter.1 hb).2
      have hne : key b ≠ key a := fun heq => h (heq ▸ hb)
      rw [remember_of_ne hne]

end Perfana.CarryForward
