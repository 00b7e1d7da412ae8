import Perfana.Lib.Table

/-!
# Keys that expire

A store that holds a value for a key until a time of its clock (`entry`), with the
commands of such a store, each atomic: a key is set, with or without regard to what
is there (`set`, `setNX`), deleted (`del`), and extended or deleted only while what
it holds passes a test (`expireIf`, `delIf`).

* `entry_advance`: as time passes keys expire, and nothing else happens to them;
* `entry_set`, `entry_del`, `entry_setNX`, `entry_expireIf`, `entry_delIf`: what a
  command leaves at any key.
-/

namespace Perfana

/-- A store whose keys expire. -/
structure ExpiringStore (κ ν : Type*) where
  /-- The time that the clock of the store shows. -/
  now : ℕ := 0
  /-- What was stored under each key, and the time from which it is gone. -/
  rows : Table κ (ν × ℕ) := .empty

namespace ExpiringStore

variable {κ ν : Type*} [DecidableEq κ] (s : ExpiringStore κ ν) (k k' : κ) (v : ν) (ttl : ℕ)

/-- What a key holds, and until when, unless it has expired. -/
def entry : Option (ν × ℕ) := (s.rows.get k).filter fun e => s.now < e.2

/-- What a key holds. -/
def get : Option ν := (s.entry k).map Prod.fst

/-- The keys that hold something. -/
def keys : List κ := (s.rows.rows.map Prod.fst).filter fun k => (s.get k).isSome

/-- Time passes. -/
def advance (d : ℕ) : ExpiringStore κ ν := { s with now := s.now + d }

/-- A key is set, for some time. -/
def set : ExpiringStore κ ν := { s with rows := s.rows.set k (v, s.now + ttl) }

/-- A key is set unless it holds something. -/
def setNX : ExpiringStore κ ν := if (s.entry k).isSome then s else s.set k v ttl

/-- A key is deleted. -/
def del : ExpiringStore κ ν := { s with rows := s.rows.erase k }

variable (p : ν → Bool)

/-- A key is given some more time if what it holds passes a test. -/
def expireIf : ExpiringStore κ ν :=
  match s.get k with
  | some v => if p v then s.set k v ttl else s
  | none => s

/-- A key is deleted if what it holds passes a test. -/
def delIf : ExpiringStore κ ν :=
  if (s.get k).any p then s.del k else s

variable {s k k' v ttl p}

@[simp] theorem now_setNX : (s.setNX k v ttl).now = s.now := by
  rw [setNX]
  split <;> rfl

@[simp] theorem now_expireIf : (s.expireIf k ttl p).now = s.now := by
  rw [expireIf]
  split
  · split <;> rfl
  · rfl

@[simp] theorem now_delIf : (s.delIf k p).now = s.now := by
  rw [delIf]
  split <;> rfl

theorem lt_of_entry {e : ν × ℕ} (h : s.entry k = some e) : s.now < e.2 := by
  rw [entry, Option.filter_eq_some_iff] at h
  exact of_decide_eq_true h.2

theorem get_of_entry {e : ν × ℕ} (h : s.entry k = some e) : s.get k = some e.1 := by
  rw [get, h, Option.map_some]

theorem exists_entry (h : s.get k = some v) : ∃ d, s.entry k = some (v, d) := by
  obtain ⟨⟨v, d⟩, he, rfl⟩ := Option.map_eq_some_iff.1 h
  exact ⟨d, he⟩

theorem get_eq_none : s.get k = none ↔ s.entry k = none := Option.map_eq_none_iff

/-- As time passes, a key keeps what it holds until it expires. -/
theorem entry_advance {d : ℕ} :
    (s.advance d).entry k = (s.entry k).filter fun e => s.now + d < e.2 := by
  rw [entry, entry, advance, Option.filter_filter]
  congr 1
  funext e
  rw [← Bool.decide_and]
  refine decide_eq_decide.2 ⟨fun h => ⟨?_, h⟩, And.right⟩
  dsimp only at h
  omega

theorem entry_of_advance {d : ℕ} {e : ν × ℕ} (h : (s.advance d).entry k = some e) :
    s.entry k = some e := by
  rw [entry_advance, Option.filter_eq_some_iff] at h
  exact h.1

theorem entry_set (httl : 0 < ttl) :
    (s.set k v ttl).entry k' = if k' = k then some (v, s.now + ttl) else s.entry k' := by
  rw [entry, entry, set, Table.get_set]
  split
  · exact Option.filter_eq_some_iff.2 ⟨rfl, by simpa using httl⟩
  · rfl

theorem entry_del : (s.del k).entry k' = if k' = k then none else s.entry k' := by
  rw [entry, entry, del, Table.get_erase]
  split <;> rfl

/-- A key that holds something is not set again. -/
theorem entry_setNX (httl : 0 < ttl) : (s.setNX k v ttl).entry k' =
    if k' = k ∧ s.entry k = none then some (v, s.now + ttl) else s.entry k' := by
  rw [setNX]
  cases he : s.entry k with
  | none =>
    rw [if_neg (by simp), entry_set httl]
    simp only [and_true]
  | some e =>
    rw [if_pos (by rw [Option.isSome_some]), if_neg (by simp)]

/-- Only a key that holds what passes the test is given more time. -/
theorem entry_expireIf (httl : 0 < ttl) : (s.expireIf k ttl p).entry k' =
    if k' = k then (s.entry k).map fun e => if p e.1 then (e.1, s.now + ttl) else e
    else s.entry k' := by
  rw [expireIf]
  cases he : s.entry k with
  | none =>
    rw [get_eq_none.2 he]
    dsimp only
    split <;> simp_all
  | some e =>
    rw [get_of_entry he, Option.map_some]
    dsimp only
    by_cases hp : p e.1
    · rw [if_pos hp, if_pos hp, entry_set httl]
    · rw [if_neg hp, if_neg hp]
      split <;> simp_all

/-- A key that is given more time holds what it held. -/
theorem of_entry_expireIf {e : ν × ℕ} (h : (s.expireIf k ttl p).entry k' = some e) :
    ∃ d, s.entry k' = some (e.1, d) := by
  rw [expireIf] at h
  cases hget : s.get k with
  | none =>
    rw [hget] at h
    exact ⟨e.2, h⟩
  | some v =>
    rw [hget] at h
    dsimp only at h
    split at h
    · rw [entry, set, Table.get_set] at h
      split at h
      · obtain ⟨d, hd⟩ := exists_entry hget
        rw [Option.filter_eq_some_iff] at h
        cases h.1
        rename_i heq
        exact ⟨d, heq ▸ hd⟩
      · exact ⟨e.2, h⟩
    · exact ⟨e.2, h⟩

/-- Only a key that holds what passes the test is deleted. -/
theorem entry_delIf : (s.delIf k p).entry k' =
    if k' = k then (s.entry k).filter fun e => !p e.1 else s.entry k' := by
  rw [delIf]
  cases he : s.entry k with
  | none =>
    rw [get_eq_none.2 he, if_neg (by simp), Option.filter_none]
    split <;> simp_all
  | some e =>
    rw [get_of_entry he, Option.any_some, Option.filter_some]
    by_cases hp : p e.1
    · rw [if_pos hp, hp, Bool.not_true, entry_del]
      rfl
    · rw [Bool.not_eq_true] at hp
      rw [hp, Bool.not_false, if_neg Bool.false_ne_true]
      split <;> simp_all

end ExpiringStore

end Perfana
