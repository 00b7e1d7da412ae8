import Mathlib.Data.List.Basic

/-!
# Joined words

Lists that are joined with a separator between them cannot always be told apart afterwards: the
separator may occur in them. What is left of them is the sequence of their words, the pieces
between separators (`intercalate_eq_iff`); lists without separators are words themselves
(`words_of_not_mem`).
-/

namespace Perfana

variable {α : Type*} [DecidableEq α] {x : α} {ls ls' : List (List α)}

/-- The pieces between separators of some lists, one after the other. -/
def words (x : α) (ls : List (List α)) : List (List α) := ls.flatMap fun l => l.splitOn x

theorem words_cons (x : α) (l : List α) (ls : List (List α)) :
    words x (l :: ls) = l.splitOn x ++ words x ls := List.flatMap_cons

theorem words_append (x : α) (ls ls' : List (List α)) :
    words x (ls ++ ls') = words x ls ++ words x ls' := List.flatMap_append

theorem not_mem_of_mem_splitOn {l m : List α} (h : m ∈ l.splitOn x) : x ∉ m := by
  induction l generalizing m with
  | nil =>
    rw [List.splitOn_nil, List.mem_singleton] at h
    rw [h]
    exact List.not_mem_nil
  | cons a l ih =>
    obtain ⟨first, rest, hcons⟩ := List.exists_cons_of_ne_nil (List.splitOn_ne_nil x l)
    rw [List.splitOn_cons_eq_if_modifyHead, hcons] at h
    rw [hcons] at ih
    split at h
    · rcases List.mem_cons.1 h with rfl | h
      · exact List.not_mem_nil
      · exact ih h
    · rename_i hne
      rcases List.mem_cons.1 h with rfl | h
      · rw [List.mem_cons, not_or]
        exact ⟨fun heq => hne (by simp [heq]), ih List.mem_cons_self⟩
      · exact ih (List.mem_cons_of_mem _ h)

/-- The pieces have nothing but what was there. -/
theorem subset_of_mem_splitOn {l m : List α} (h : m ∈ l.splitOn x) : m ⊆ l := by
  induction l generalizing m with
  | nil =>
    rw [List.splitOn_nil, List.mem_singleton] at h
    exact h ▸ List.Subset.refl []
  | cons a l ih =>
    obtain ⟨first, rest, hcons⟩ := List.exists_cons_of_ne_nil (List.splitOn_ne_nil x l)
    rw [List.splitOn_cons_eq_if_modifyHead, hcons] at h
    rw [hcons] at ih
    split at h
    · rcases List.mem_cons.1 h with rfl | h
      · exact List.nil_subset _
      · exact List.subset_cons_of_subset a (ih h)
    · rcases List.mem_cons.1 h with rfl | h
      · exact List.cons_subset_cons a (ih List.mem_cons_self)
      · exact List.subset_cons_of_subset a (ih (List.mem_cons_of_mem _ h))

theorem words_ne_nil (h : ls ≠ []) : words x ls ≠ [] := by
  obtain ⟨l, ls, rfl⟩ := List.exists_cons_of_ne_nil h
  rw [words_cons]
  exact List.append_ne_nil_of_left_ne_nil (List.splitOn_ne_nil x l) _

omit [DecidableEq α] in
theorem intercalate_append (h : ls ≠ []) (h' : ls' ≠ []) :
    [x].intercalate (ls ++ ls') = [x].intercalate ls ++ x :: [x].intercalate ls' := by
  induction ls with
  | nil => exact absurd rfl h
  | cons l ls ih =>
    obtain ⟨l', ls', rfl⟩ := List.exists_cons_of_ne_nil h'
    cases ls with
    | nil =>
      rw [List.singleton_append, List.intercalate_cons_cons, List.intercalate_singleton,
        List.append_assoc, List.singleton_append]
    | cons m ls =>
      rw [List.cons_append, List.cons_append, List.intercalate_cons_cons, ← List.cons_append,
        ih (List.cons_ne_nil _ _), List.intercalate_cons_cons, ← List.append_assoc]

/-- The words joined are the lists joined. -/
theorem intercalate_words (ls : List (List α)) :
    [x].intercalate (words x ls) = [x].intercalate ls := by
  induction ls with
  | nil => rfl
  | cons l ls ih =>
    cases ls with
    | nil =>
      rw [words_cons, words, List.flatMap_nil, List.append_nil, List.intercalate_splitOn,
        List.intercalate_singleton]
    | cons m ls =>
      rw [words_cons, intercalate_append (List.splitOn_ne_nil x l) (words_ne_nil (List.cons_ne_nil m ls)),
        ih, List.intercalate_splitOn, List.intercalate_cons_cons, List.append_assoc,
        List.singleton_append]

/-- Joined lists are cut into their words again. -/
theorem splitOn_intercalate_eq_words (h : ls ≠ []) :
    ([x].intercalate ls).splitOn x = words x ls := by
  have hwords : ∀ l ∈ words x ls, x ∉ l := by
    intro l hl
    obtain ⟨m, -, hl⟩ := List.mem_flatMap.1 hl
    exact not_mem_of_mem_splitOn hl
  rw [← intercalate_words, List.splitOn_intercalate x hwords (words_ne_nil h)]

/-- Joined lists are told apart by their words. -/
theorem intercalate_eq_iff (h : ls ≠ []) (h' : ls' ≠ []) :
    [x].intercalate ls = [x].intercalate ls' ↔ words x ls = words x ls' := by
  constructor
  · intro heq
    rw [← splitOn_intercalate_eq_words h, heq, splitOn_intercalate_eq_words h']
  · intro heq
    rw [← intercalate_words ls, heq, intercalate_words]

/-- Lists without separators are words. -/
theorem words_of_not_mem (h : ∀ l ∈ ls, x ∉ l) : words x ls = ls := by
  induction ls with
  | nil => rfl
  | cons l ls ih =>
    rw [words_cons, List.splitOn_eq_singleton (h l List.mem_cons_self),
      ih fun m hm => h m (List.mem_cons_of_mem _ hm)]
    rfl

end Perfana
