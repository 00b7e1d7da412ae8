import Mathlib.Data.List.Induction
import Perfana.Lib.Table

/-!
# Upserting in batches

Records are stored as rows of a table, some at a time: a statement for a batch of them
fails if a record cannot be stored, or if two have the same key, as no row is updated
twice by one statement (`upsertAll`). Where no statement fails, it makes no difference
how the records are cut into batches: a row is left that each record of its key has
updated in turn (`landing`, `get_foldlM_upsertAll`).

* `batches`: a list cut into batches of a size;
* `foldlM_upsertAll_isSome`: no statement fails if and only if every record can be
  stored, and no batch has two of the same key;
* `upsertBatches_isSome`, `get_upsertBatches`: the records stored in batches of a size;
* `upsertEach_isSome`, `get_upsertEach`: the records stored one at a time;
* `forall_landing_iff`: two lists of rows leave the same of every row if and only if
  they leave the same where there was none.
-/

namespace Perfana

/-- A list in batches of some size: from every multiple of it the next elements. -/
def batches {α : Type*} (size : ℕ) (l : List α) : List (List α) :=
  (List.range ((l.length + size - 1) / size)).map fun i => (l.drop (i * size)).take size

theorem flatten_batches {α : Type*} {size : ℕ} (h : 0 < size) (l : List α) :
    (batches size l).flatten = l := by
  have htake : ∀ n, ((List.range n).map fun i => (l.drop (i * size)).take size).flatten =
      l.take (n * size) := by
    intro n
    induction n with
    | zero => simp
    | succ n ih =>
      rw [List.range_succ, List.map_append, List.flatten_append, ih, Nat.succ_mul, List.take_add]
      simp
  rw [batches, htake, List.take_of_length_le]
  have hdiv := Nat.div_add_mod (l.length + size - 1) size
  have hmod := Nat.mod_lt (l.length + size - 1) h
  rw [Nat.mul_comm] at hdiv
  omega

/-- A single element is a batch of its own. -/
theorem batches_singleton {α : Type*} {size : ℕ} (h : 0 < size) (a : α) :
    batches size [a] = [[a]] := by
  have hone : (1 + size - 1) / size = 1 := by
    rw [Nat.add_sub_cancel_left, Nat.div_self h]
  obtain ⟨n, rfl⟩ := Nat.exists_eq_succ_of_ne_zero h.ne'
  rw [batches, List.length_singleton, hone]
  simp

namespace Table

variable {α κ ρ : Type*} [DecidableEq κ] (store : α → Option (κ × ρ)) (onConflict : ρ → ρ → ρ)

/-- The statement that inserts the rows of records, updating those in conflict. -/
def upsertAll (records : List α) (old : Table κ ρ) : Option (Table κ ρ) :=
  if ∀ a ∈ records, (store a).isSome then
    (ofRows (records.filterMap store)).map fun new => upsert onConflict new old
  else none

/-- The records inserted one at a time. -/
def upsertEach (records : List α) (old : Table κ ρ) : Option (Table κ ρ) :=
  records.foldlM (fun t a => upsertAll store onConflict [a] t) old

/-- The records inserted in batches of some size. -/
def upsertBatches (size : ℕ) (records : List α) (old : Table κ ρ) : Option (Table κ ρ) :=
  (batches size records).foldlM (fun t batch => upsertAll store onConflict batch t) old

/-- What rows leave of a row that each of them updates in turn. -/
def landing (o : Option ρ) (rows : List ρ) : Option ρ :=
  rows.foldl (fun o r => some ((o.map fun o => onConflict o r).getD r)) o

/-- The rows that records are stored as under a key. -/
def rowsAt (k : κ) (records : List α) : List ρ :=
  (records.filterMap store).filterMap fun row => if row.1 = k then some row.2 else none

variable {store onConflict} {records : List α} {t old : Table κ ρ} {k : κ}

theorem upsertAll_isSome : (upsertAll store onConflict records old).isSome ↔
    (∀ a ∈ records, (store a).isSome) ∧ ((records.filterMap store).map Prod.fst).Nodup := by
  rw [upsertAll]
  split
  · rename_i h
    rw [Option.isSome_map, ofRows_isSome]
    exact ⟨fun hnodup => ⟨h, hnodup⟩, fun hnodup => hnodup.2⟩
  · rename_i h
    exact ⟨fun hsome => absurd hsome Bool.false_ne_true, fun hstored => absurd hstored.1 h⟩

/-- Of a table there is one row at a key, or none. -/
theorem filterMap_rows (t : Table κ ρ) (k : κ) :
    (t.rows.filterMap fun row => if row.1 = k then some row.2 else none) = (t.get k).toList := by
  obtain ⟨rows, nodup⟩ := t
  rw [get]
  dsimp only
  induction rows with
  | nil => rfl
  | cons row rows ih =>
    obtain ⟨k', r⟩ := row
    obtain ⟨hk', hrows⟩ := List.nodup_cons.1 nodup
    rw [List.filterMap_cons, ih hrows, List.lookup_cons]
    by_cases hk : k' = k
    · subst hk
      have hnone : get ⟨rows, hrows⟩ k' = none := get_eq_none.2 hk'
      have hlookup : rows.lookup k' = none := hnone
      simp [hlookup]
    · have hne : (k == k') = false := beq_eq_false_iff_ne.2 fun h => hk h.symm
      simp [hk, hne]

/-- What a statement that does not fail leaves at a key. -/
theorem get_upsertAll (h : upsertAll store onConflict records old = some t) (k : κ) :
    t.get k = landing onConflict (old.get k) (rowsAt store k records) := by
  rw [upsertAll] at h
  split at h
  · obtain ⟨new, hnew, rfl⟩ := Option.map_eq_some_iff.1 h
    rw [ofRows] at hnew
    split at hnew
    · obtain rfl := Option.some.inj hnew
      rename_i hnodup
      rw [rowsAt, filterMap_rows ⟨records.filterMap store, hnodup⟩ k, get_upsert]
      cases get ⟨records.filterMap store, hnodup⟩ k <;> cases old.get k <;> rfl
    · cases hnew
  · cases h

theorem mem_rowsAt {r : ρ} : r ∈ rowsAt store k records ↔ ∃ a ∈ records, store a = some (k, r) := by
  rw [rowsAt, List.mem_filterMap]
  constructor
  · rintro ⟨⟨k', r'⟩, hrow, h⟩
    obtain ⟨a, ha, hstore⟩ := List.mem_filterMap.1 hrow
    split at h
    · rename_i hk
      obtain rfl : k' = k := hk
      obtain rfl := Option.some.inj h
      exact ⟨a, ha, hstore⟩
    · cases h
  · rintro ⟨a, ha, hstore⟩
    exact ⟨(k, r), List.mem_filterMap.2 ⟨a, ha, hstore⟩, if_pos rfl⟩

theorem rowsAt_append (records records' : List α) :
    rowsAt store k (records ++ records') = rowsAt store k records ++ rowsAt store k records' := by
  rw [rowsAt, List.filterMap_append, List.filterMap_append]
  rfl

omit [DecidableEq κ] in
theorem landing_append (o : Option ρ) (rows rows' : List ρ) :
    landing onConflict o (rows ++ rows') =
      landing onConflict (landing onConflict o rows) rows' :=
  List.foldl_append

/-- None of the statements for some batches fails if and only if none would alone. -/
theorem foldlM_upsertAll_isSome {bs : List (List α)} :
    (bs.foldlM (fun t b => upsertAll store onConflict b t) old).isSome ↔
      ∀ b ∈ bs, (∀ a ∈ b, (store a).isSome) ∧ ((b.filterMap store).map Prod.fst).Nodup := by
  induction bs generalizing old with
  | nil => simp
  | cons b bs ih =>
    rw [List.foldlM_cons, Option.bind_eq_bind, List.forall_mem_cons,
      ← @upsertAll_isSome _ _ _ _ store onConflict _ old]
    cases h : upsertAll store onConflict b old with
    | none => simp
    | some t => simpa using ih

/-- What the statements for some batches leave at a key. -/
theorem get_foldlM_upsertAll {bs : List (List α)}
    (h : bs.foldlM (fun t b => upsertAll store onConflict b t) old = some t) (k : κ) :
    t.get k = landing onConflict (old.get k) (rowsAt store k bs.flatten) := by
  induction bs generalizing old with
  | nil =>
    obtain rfl := Option.some.inj h
    rfl
  | cons b bs ih =>
    rw [List.foldlM_cons, Option.bind_eq_bind, Option.bind_eq_some_iff] at h
    obtain ⟨t', hb, hbs⟩ := h
    rw [ih hbs, get_upsertAll hb, List.flatten_cons, rowsAt_append, landing_append]

theorem upsertEach_eq : upsertEach store onConflict records old =
    (records.map fun a => [a]).foldlM (fun t b => upsertAll store onConflict b t) old := by
  rw [List.foldlM_map]
  rfl

/-- Records inserted one at a time are inserted if each of them can be stored. -/
theorem upsertEach_isSome : (upsertEach store onConflict records old).isSome ↔
    ∀ a ∈ records, (store a).isSome := by
  rw [upsertEach_eq, foldlM_upsertAll_isSome, List.forall_mem_map]
  refine forall₂_congr fun a _ => ?_
  cases h : store a <;> simp [h]

/-- What records inserted one at a time leave at a key. -/
theorem get_upsertEach (h : upsertEach store onConflict records old = some t) (k : κ) :
    t.get k = landing onConflict (old.get k) (rowsAt store k records) := by
  rw [upsertEach_eq] at h
  have hflatten : (records.map fun a => [a]).flatten = records := by
    rw [← List.flatMap_def, List.flatMap_singleton']
  rw [get_foldlM_upsertAll h, hflatten]

/-- Records inserted in batches are inserted if each of them can be stored, and no batch
    has two of the same key. -/
theorem upsertBatches_isSome {size : ℕ} (hsize : 0 < size) :
    (upsertBatches store onConflict size records old).isSome ↔
      (∀ a ∈ records, (store a).isSome) ∧
        ∀ batch ∈ batches size records, ((batch.filterMap store).map Prod.fst).Nodup := by
  rw [upsertBatches, foldlM_upsertAll_isSome, forall₂_and]
  refine and_congr_left fun _ => ?_
  conv_rhs => rw [← flatten_batches hsize records]
  simp only [List.mem_flatten]
  grind

/-- What records inserted in batches leave at a key. -/
theorem get_upsertBatches {size : ℕ} (hsize : 0 < size)
    (h : upsertBatches store onConflict size records old = some t) (k : κ) :
    t.get k = landing onConflict (old.get k) (rowsAt store k records) := by
  rw [get_foldlM_upsertAll h, flatten_batches hsize]

omit [DecidableEq κ] in
/-- What rows leave of a row is what they leave where there was none, updating the row. -/
theorem landing_eq (hassoc : ∀ o a b, onConflict (onConflict o a) b = onConflict o (onConflict a b))
    (o : Option ρ) (rows : List ρ) :
    landing onConflict o rows =
      match landing onConflict none rows with
      | none => o
      | some r => some ((o.map fun o => onConflict o r).getD r) := by
  induction rows using List.reverseRecOn with
  | nil => rfl
  | append_singleton rows r ih =>
    rw [landing_append, landing_append, ih]
    cases landing onConflict none rows with
    | none => rfl
    | some r' => cases o <;> simp [landing, hassoc]

omit [DecidableEq κ] in
/-- Rows leave the same of every row if and only if they do where there was none. -/
theorem forall_landing_iff
    (hassoc : ∀ o a b, onConflict (onConflict o a) b = onConflict o (onConflict a b))
    {rows rows' : List ρ} :
    (∀ o, landing onConflict o rows = landing onConflict o rows') ↔
      landing onConflict none rows = landing onConflict none rows' := by
  refine ⟨fun h => h none, fun h o => ?_⟩
  rw [landing_eq hassoc o rows, landing_eq hassoc o rows', h]

/-- The last element of each key, at the place of the first. -/
def lastOfKey (key : α → κ) (l : List α) : Table κ α :=
  l.foldl (fun t a => t.set (key a) a) empty

@[simp] theorem lastOfKey_nil {key : α → κ} : lastOfKey key ([] : List α) = empty := rfl

omit [DecidableEq κ] in
@[simp] theorem rows_empty : (empty : Table κ ρ).rows = [] := rfl

theorem mem_of_lastOfKey {key : α → κ} {l : List α} {a : α} (h : (lastOfKey key l).get k = some a) :
    a ∈ l := by
  induction l using List.reverseRecOn generalizing a with
  | nil => cases h
  | append_singleton l b ih =>
    rw [lastOfKey, List.foldl_append, List.foldl_cons, List.foldl_nil, get_set] at h
    split at h
    · obtain rfl := Option.some.inj h
      simp
    · exact List.mem_append_left _ (ih h)

theorem key_of_lastOfKey {key : α → κ} {l : List α} {a : α} (h : (lastOfKey key l).get k = some a) :
    key a = k := by
  induction l using List.reverseRecOn generalizing a with
  | nil => cases h
  | append_singleton l b ih =>
    rw [lastOfKey, List.foldl_append, List.foldl_cons, List.foldl_nil, get_set] at h
    split at h
    · rename_i hkey
      obtain rfl := Option.some.inj h
      exact hkey.symm
    · exact ih h

end Table

end Perfana
