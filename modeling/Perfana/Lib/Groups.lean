import Mathlib.Data.List.Induction
import Mathlib.Data.List.Nodup
import Perfana.Lib.Aggregate

/-!
# Groups of a list

A list in groups by a key, as a loop makes them that adds each element to the group of
its key: the groups are in the order in which their keys occur (`groupsBy`). Together
they have the elements of the list (`perm_groupsBy`), and a list that consists of pieces
with a key each, no two the same, has the pieces as groups (`groupsBy_flatMap`).
-/

namespace Perfana

variable {α β κ : Type*} [DecidableEq κ]

/-- A list in groups by a key. -/
def groupsBy (key : α → κ) (l : List α) : List (κ × List α) :=
  (l.map key).eraseDups.map fun k => (k, l.filter fun a => key a = k)

theorem nodup_eraseDups {γ : Type*} [BEq γ] [LawfulBEq γ] (l : List γ) : l.eraseDups.Nodup := by
  induction l using List.reverseRecOn with
  | nil => exact List.nodup_nil
  | append_singleton l k ih =>
    rw [List.eraseDups_append]
    by_cases hk : k ∈ l
    · simpa [List.removeAll, hk] using ih
    · refine List.nodup_append.2 ⟨ih, by simp [List.removeAll, hk, List.eraseDups_cons], ?_⟩
      intro a ha b hb
      have ha : a ∈ l := by simpa using ha
      have hb : b = k := by simpa [List.removeAll, hk, List.eraseDups_cons] using hb
      rintro rfl
      exact hk (hb ▸ ha)

/-- A list without duplicates is kept as it is. -/
theorem eraseDups_eq_self {γ : Type*} [BEq γ] [LawfulBEq γ] {l : List γ} (h : l.Nodup) :
    l.eraseDups = l := by
  induction l with
  | nil => rfl
  | cons k l ih =>
    obtain ⟨hk, hl⟩ := List.nodup_cons.1 h
    have hself : l.filter (fun b => !b == k) = l := by
      refine List.filter_eq_self.2 fun b hb => ?_
      have hbk : b ≠ k := fun heq => hk (heq ▸ hb)
      simpa using hbk
    rw [List.eraseDups_cons, hself, ih hl]

variable {key : α → κ} {l : List α}

/-- No two groups have the same key. -/
theorem nodup_groupsBy : ((groupsBy key l).map Prod.fst).Nodup := by
  rw [groupsBy, List.map_map]
  exact (List.map_id _).symm ▸ nodup_eraseDups _

theorem mem_groupsBy {k : κ} {group : List α} : (k, group) ∈ groupsBy key l ↔
    (∃ a ∈ l, key a = k) ∧ group = l.filter fun a => key a = k := by
  rw [groupsBy, List.mem_map]
  constructor
  · rintro ⟨k', hk', h⟩
    obtain ⟨rfl, rfl⟩ := Prod.mk.inj h
    exact ⟨List.mem_map.1 (List.mem_eraseDups.1 hk'), rfl⟩
  · rintro ⟨hk, rfl⟩
    exact ⟨k, List.mem_eraseDups.2 (List.mem_map.2 hk), rfl⟩

/-- The groups have the elements of the list. -/
theorem perm_groupsBy (key : α → κ) (l : List α) : ((groupsBy key l).flatMap Prod.snd).Perm l := by
  rw [groupsBy, List.flatMap_map]
  refine (Aggregate.filter_mem_perm_flatMap key l (nodup_eraseDups _)).symm.trans
    (List.Perm.of_eq ?_)
  exact List.filter_eq_self.2 fun a ha =>
    decide_eq_true (List.mem_eraseDups.2 (List.mem_map_of_mem ha))

/-- The groups of a list that consists of pieces, each with a key of its own. -/
theorem groupsBy_flatMap {pieces : List β} {f : β → List α} {k : β → κ}
    (hkey : ∀ p ∈ pieces, ∀ a ∈ f p, key a = k p) (hne : ∀ p ∈ pieces, f p ≠ [])
    (hnodup : (pieces.map k).Nodup) :
    groupsBy key (pieces.flatMap f) = pieces.map fun p => (k p, f p) := by
  have hkeys : ((pieces.flatMap f).map key).eraseDups = pieces.map k := by
    induction pieces with
    | nil => rfl
    | cons p pieces ih =>
      rw [List.map_cons, List.nodup_cons] at hnodup
      obtain ⟨a, rest, hcons⟩ := List.exists_cons_of_ne_nil (hne p List.mem_cons_self)
      have hpiece : ∀ b ∈ f p, key b = k p := hkey p List.mem_cons_self
      have hrest : ∀ q ∈ pieces, ∀ b ∈ f q, key b = k q :=
        fun q hq => hkey q (List.mem_cons_of_mem _ hq)
      have hfilter : ((f p ++ pieces.flatMap f).map key).eraseDups =
          k p :: ((pieces.flatMap f).map key).eraseDups := by
        rw [hcons, List.cons_append, List.map_cons, List.eraseDups_cons,
          hpiece a (hcons ▸ List.mem_cons_self), List.map_append, List.filter_append]
        have hnil : (rest.map key).filter (fun b => !b == k p) = [] := by
          refine List.filter_eq_nil_iff.2 fun b hb => ?_
          obtain ⟨c, hc, rfl⟩ := List.mem_map.1 hb
          simp [hpiece c (hcons ▸ List.mem_cons_of_mem _ hc)]
        have hself : ((pieces.flatMap f).map key).filter (fun b => !b == k p) =
            (pieces.flatMap f).map key := by
          refine List.filter_eq_self.2 fun b hb => ?_
          obtain ⟨c, hc, rfl⟩ := List.mem_map.1 hb
          obtain ⟨q, hq, hcq⟩ := List.mem_flatMap.1 hc
          have hqp : k q ≠ k p := fun h => hnodup.1 (h ▸ List.mem_map_of_mem hq)
          simpa [hrest q hq c hcq] using hqp
        rw [hnil, hself, List.nil_append]
      rw [List.flatMap_cons, hfilter, List.map_cons,
        ih hrest (fun q hq => hne q (List.mem_cons_of_mem _ hq)) hnodup.2]
  have hgroup : ∀ p ∈ pieces, ((pieces.flatMap f).filter fun a => key a = k p) = f p := by
    intro p hp
    obtain ⟨s, t, rfl⟩ := List.append_of_mem hp
    have hother : ∀ qs : List β, (∀ q ∈ qs, q ∈ s ++ p :: t) → k p ∉ qs.map k →
        ((qs.flatMap f).filter fun a => key a = k p) = [] := by
      intro qs hqs hk
      refine List.filter_eq_nil_iff.2 fun a ha => ?_
      obtain ⟨q, hq, haq⟩ := List.mem_flatMap.1 ha
      rw [decide_eq_true_eq, hkey q (hqs q hq) a haq]
      exact fun h => hk (h ▸ List.mem_map_of_mem hq)
    rw [List.map_append, List.map_cons, List.nodup_middle, List.nodup_cons, List.mem_append,
      not_or] at hnodup
    rw [List.flatMap_append, List.flatMap_cons, List.filter_append, List.filter_append,
      hother s (fun q hq => List.mem_append_left _ hq) hnodup.1.1,
      hother t (fun q hq => List.mem_append_right _ (List.mem_cons_of_mem _ hq)) hnodup.1.2,
      List.nil_append, List.append_nil]
    exact List.filter_eq_self.2 fun a ha => decide_eq_true (hkey p hp a ha)
  rw [groupsBy, hkeys, List.map_map]
  exact List.map_congr_left fun p hp => Prod.ext rfl (hgroup p hp)

/-- Of elements with different keys one at most has a key. -/
theorem filter_key_eq_toList (h : (l.map key).Nodup) (k : κ) :
    (l.filter fun a => key a = k) = (l.find? fun a => key a = k).toList := by
  induction l with
  | nil => rfl
  | cons a l ih =>
    obtain ⟨ha, hl⟩ := List.nodup_cons.1 h
    by_cases hkey : key a = k
    · have hnil : (l.filter fun b => key b = k) = [] := by
        refine List.filter_eq_nil_iff.2 fun b hb heq => ha ?_
        exact List.mem_map.2 ⟨b, hb, (of_decide_eq_true heq).trans hkey.symm⟩
      rw [List.filter_cons_of_pos (by simpa using hkey), List.find?_cons_of_pos (by simpa using hkey),
        hnil]
      rfl
    · rw [List.filter_cons_of_neg (by simpa using hkey), List.find?_cons_of_neg (by simpa using hkey),
        ih hl]

end Perfana
