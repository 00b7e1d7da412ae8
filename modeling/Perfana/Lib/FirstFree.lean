import Mathlib.Data.List.Infix
import Mathlib.Data.List.Nodup
import Mathlib.Data.List.Perm.Subperm
import Mathlib.Data.List.Range

/-!
# The first free name

Names that are wanted more than once are numbered: a search takes the first name of a sequence
that is not in use.

* `firstFree_spec`: the name it takes is free, and the ones before it are not;
* `exists_firstFree`: if the names of the sequence differ, it ends;
* `inUse_take`: and what is in use afterwards is said by what was wanted (`InUse`), in order;
* `inUse_iff`: a name is in use because it was wanted, or because it is a number of another one.
-/

namespace Perfana.FirstFree

variable {α : Type*} [DecidableEq α]

/-- The first name from `n` on that is not taken. -/
def firstFree (taken : List α) (name : ℕ → α) : ℕ → ℕ → Option α
  | 0, _ => none
  | fuel + 1, n =>
    if name n ∈ taken then firstFree taken name fuel (n + 1) else some (name n)

/-- The name that is found is free, and those before it are taken. -/
theorem firstFree_spec {taken : List α} {name : ℕ → α} {fuel n : ℕ} {a : α}
    (h : firstFree taken name fuel n = some a) :
    a ∉ taken ∧ ∃ k, n ≤ k ∧ a = name k ∧ ∀ m, n ≤ m → m < k → name m ∈ taken := by
  induction fuel generalizing n with
  | zero => cases h
  | succ fuel ih =>
    rw [firstFree] at h
    split at h
    · rename_i htaken
      obtain ⟨hfree, k, hk, rfl, hbefore⟩ := ih h
      refine ⟨hfree, k, by omega, rfl, fun m hm hmk => ?_⟩
      rcases Nat.lt_or_ge n m with hlt | hge
      · exact hbefore m hlt hmk
      · rwa [Nat.le_antisymm hge hm]
    · rename_i hfree
      obtain rfl := Option.some.inj h
      exact ⟨hfree, n, le_rfl, rfl, fun m hm hmk => absurd hm (by omega)⟩

/-- More turns do not change what is found. -/
theorem firstFree_mono {taken : List α} {name : ℕ → α} {fuel n : ℕ} {a : α}
    (h : firstFree taken name fuel n = some a) (k : ℕ) :
    firstFree taken name (fuel + k) n = some a := by
  induction fuel generalizing n with
  | zero => cases h
  | succ fuel ih =>
    rw [Nat.add_right_comm, firstFree]
    rw [firstFree] at h
    split
    · rename_i htaken
      rw [if_pos htaken] at h
      exact ih h
    · rename_i hfree
      rwa [if_neg hfree] at h

/-- A search that finds nothing has seen that many names that are taken. -/
theorem taken_of_firstFree_eq_none {taken : List α} {name : ℕ → α} {fuel n : ℕ}
    (h : firstFree taken name fuel n = none) : ∀ m, n ≤ m → m < n + fuel → name m ∈ taken := by
  induction fuel generalizing n with
  | zero => exact fun m hm hlt => absurd hm (by omega)
  | succ fuel ih =>
    rw [firstFree] at h
    split at h
    · rename_i htaken
      intro m hm hlt
      rcases Nat.eq_or_lt_of_le hm with rfl | hlt'
      · exact htaken
      · exact ih h m hlt' (by omega)
    · cases h

/-- The search ends: so many names that differ are not all taken. -/
theorem exists_firstFree {taken : List α} {name : ℕ → α} {fuel : ℕ}
    (hname : Function.Injective name) (hfuel : taken.length < fuel) (n : ℕ) :
    ∃ a, firstFree taken name fuel n = some a := by
  rcases h : firstFree taken name fuel n with _ | a
  · have hseen := taken_of_firstFree_eq_none h
    have hnodup : ((List.range' n fuel).map name).Nodup :=
      List.Nodup.map hname (List.nodup_range')
    have hsub : (List.range' n fuel).map name ⊆ taken := fun a ha => by
      obtain ⟨m, hm, rfl⟩ := List.mem_map.1 ha
      obtain ⟨hle, hlt⟩ := List.mem_range'_1.1 hm
      exact hseen m hle hlt
    have hlength := (List.Nodup.subperm hnodup hsub).length_le
    rw [List.length_map, List.length_range'] at hlength
    omega
  · exact ⟨a, rfl⟩

/-! ## Names in use -/

variable (numbered : α → ℕ → α)

/-- A name is in use once `wanted` were named, the last of which is the first of the list. -/
def InUse : List α → α → Prop
  | [], _ => False
  | b :: wanted, a =>
    InUse wanted a ∨ ∃ n, 1 ≤ n ∧ a = numbered b n ∧ ∀ m, 1 ≤ m → m < n → InUse wanted (numbered b m)

/-- A name is in use as a number of one that was wanted, when the lower ones were in use. -/
def InUseAsNumber (wanted : List α) (a : α) : Prop :=
  ∃ b earlier, b :: earlier <:+ wanted ∧ ∃ n, 2 ≤ n ∧ a = numbered b n ∧
    ∀ m, 1 ≤ m → m < n → InUse numbered earlier (numbered b m)

variable {numbered}

/-- What the search takes is in use afterwards, beside what was before. -/
theorem inUse_take {taken wanted : List α} {fuel : ℕ} {b c : α}
    (htaken : ∀ a, a ∈ taken ↔ InUse numbered wanted a)
    (h : firstFree taken (numbered b) fuel 1 = some c) (a : α) :
    a ∈ c :: taken ↔ InUse numbered (b :: wanted) a := by
  obtain ⟨hfree, k, hk, rfl, hbefore⟩ := firstFree_spec h
  rw [List.mem_cons, InUse, htaken]
  constructor
  · rintro (rfl | hin)
    · exact .inr ⟨k, hk, rfl, fun m hm hmk => (htaken _).1 (hbefore m hm hmk)⟩
    · exact .inl hin
  · rintro (hin | ⟨n, hn, rfl, hlower⟩)
    · exact .inr hin
    · -- A number below the one that is taken is in use already, and there is none above it.
      rcases Nat.lt_trichotomy n k with hlt | rfl | hgt
      · exact .inr ((htaken _).1 (hbefore n hn hlt))
      · exact .inl rfl
      · exact absurd ((htaken _).2 (hlower k hk hgt)) hfree

omit [DecidableEq α] in
/-- A name in use was wanted, or is a number of another one. -/
theorem inUse_iff (hone : ∀ b, numbered b 1 = b) (wanted : List α) (a : α) :
    InUse numbered wanted a ↔ a ∈ wanted ∨ InUseAsNumber numbered wanted a := by
  induction wanted with
  | nil => simp [InUse, InUseAsNumber]
  | cons b wanted ih =>
    rw [InUse, ih, List.mem_cons]
    constructor
    · rintro ((hin | ⟨b', earlier, hsuffix, hnumber⟩) | ⟨n, hn, rfl, hlower⟩)
      · exact .inl (.inr hin)
      · exact .inr ⟨b', earlier, hsuffix.trans (List.suffix_cons b wanted), hnumber⟩
      · rcases Nat.eq_or_lt_of_le hn with rfl | hlt
        · exact .inl (.inl (hone b))
        · exact .inr ⟨b, wanted, List.suffix_refl _, n, hlt, rfl, hlower⟩
    · rintro ((rfl | hin) | ⟨b', earlier, hsuffix, n, hn, rfl, hlower⟩)
      · exact .inr ⟨1, le_rfl, (hone _).symm, fun m hm hlt => absurd hm (by omega)⟩
      · exact .inl (.inl hin)
      · rcases List.suffix_cons_iff.1 hsuffix with heq | hsuffix
        · obtain ⟨rfl, rfl⟩ := List.cons.inj heq
          exact .inr ⟨n, by omega, rfl, hlower⟩
        · exact .inl (.inr ⟨b', earlier, hsuffix, n, hn, rfl, hlower⟩)

end Perfana.FirstFree
