import Perfana.Lib.Table

/-!
# Views that are maintained bucket by bucket

A query that aggregates samples into keyed rows *bucket by bucket* reads, for the
rows of a bucket, the samples of that bucket only. A table of its rows can thus be
maintained as samples arrive: the samples of a window are queried again, and their
rows inserted, updating those in conflict. Such a table has rows of the query only,
and those before a *front* are final (`Maintained`).

* `Maintained.upsert`: inserting rows of some samples keeps that, whichever they are;
* `Maintained.advance`: inserting those of all samples of some buckets moves the front
  past them;
* `Maintained.append`: samples may arrive behind the front.
-/

namespace Perfana

/-- A query that aggregates samples into keyed rows, bucket by bucket. -/
structure BucketQuery (ρ κ ν : Type*) where
  /-- The rows for some samples. -/
  rows : List ρ → List (κ × ν)
  /-- The bucket of a sample. -/
  bucket : ρ → ℤ
  /-- The bucket of a row. -/
  time : κ → ℤ
  /-- The rows of a bucket are those for the samples of the bucket. -/
  mem_rows_filter : ∀ samples k v,
    (k, v) ∈ rows (samples.filter (bucket · = time k)) ↔ (k, v) ∈ rows samples
  /-- More samples have a row where fewer have. -/
  exists_of_sublist : ∀ samples samples' k v, samples.Sublist samples' → (k, v) ∈ rows samples →
    ∃ v', (k, v') ∈ rows samples'
  /-- There are no rows without samples. -/
  rows_nil : rows [] = []

namespace BucketQuery

variable {ρ κ ν : Type*} {Q : BucketQuery ρ κ ν} {samples samples' : List ρ} {k : κ} {v : ν}

/-- Samples that agree in a bucket have the same rows there. -/
theorem mem_rows_congr
    (h : samples.filter (Q.bucket · = Q.time k) = samples'.filter (Q.bucket · = Q.time k)) :
    (k, v) ∈ Q.rows samples ↔ (k, v) ∈ Q.rows samples' := by
  rw [← Q.mem_rows_filter, h, Q.mem_rows_filter]

/-- A row is of a bucket with samples. -/
theorem exists_sample (h : (k, v) ∈ Q.rows samples) : ∃ x ∈ samples, Q.bucket x = Q.time k := by
  by_contra hnone
  have hnil : samples.filter (Q.bucket · = Q.time k) = [] :=
    List.filter_eq_nil_iff.2 fun x hx => by simpa using fun hk => hnone ⟨x, hx, hk⟩
  rw [← Q.mem_rows_filter, hnil, Q.rows_nil] at h
  exact List.not_mem_nil h

variable [DecidableEq κ]

/-- A table has exactly the rows of the query. -/
def Exact (Q : BucketQuery ρ κ ν) (samples : List ρ) (table : Table κ ν) : Prop :=
  ∀ k v, table.get k = some v ↔ (k, v) ∈ Q.rows samples

/-- A table has no rows but those of keys of the query, and exactly those of the query
    before the front. -/
structure Maintained (Q : BucketQuery ρ κ ν) (front : ℤ) (samples : List ρ)
    (table : Table κ ν) : Prop where
  /-- A row that is there has a key of the query. -/
  present : ∀ k v, table.get k = some v → ∃ v', (k, v') ∈ Q.rows samples
  /-- Before the front, the rows are those of the query. -/
  settled : ∀ k v, Q.time k < front → (table.get k = some v ↔ (k, v) ∈ Q.rows samples)

variable {front : ℤ} {table new : Table κ ν} {onConflict : ν → ν → ν}

/-- Whether a table is maintained is a matter of the rows that it gives. -/
theorem Maintained.congr (h : Q.Maintained front samples table) {table' : Table κ ν}
    (hget : ∀ k, table'.get k = table.get k) : Q.Maintained front samples table' := by
  refine ⟨fun k v hv => ?_, fun k v hk => ?_⟩
  · rw [hget] at hv
    exact h.present k v hv
  · rw [hget]
    exact h.settled k v hk

theorem Exact.maintained (h : Q.Exact samples table) (front : ℤ) :
    Q.Maintained front samples table :=
  ⟨fun k v hv => ⟨v, (h k v).1 hv⟩, fun k v _ => h k v⟩

/-- Rows that are final before every front are all rows. -/
theorem Exact.of_maintained (h : ∀ front, Q.Maintained front samples table) :
    Q.Exact samples table :=
  fun k v => (h (Q.time k + 1)).settled k v (by omega)

namespace Maintained

/-- The front may be moved back. -/
theorem mono (h : Q.Maintained front samples table) {front' : ℤ} (hle : front' ≤ front) :
    Q.Maintained front' samples table :=
  { h with settled := fun k v hk => h.settled k v (hk.trans_le hle) }

/-- A sample arrives behind the front. -/
theorem append (h : Q.Maintained front samples table) {x : ρ} (hx : front ≤ Q.bucket x) :
    Q.Maintained front (samples ++ [x]) table := by
  refine ⟨fun k v hv => ?_, fun k v hk => ?_⟩
  · obtain ⟨v', hv'⟩ := h.present k v hv
    exact Q.exists_of_sublist _ _ k v' (List.sublist_append_left _ _) hv'
  · refine (h.settled k v hk).trans (mem_rows_congr ?_)
    have hne : Q.bucket x ≠ Q.time k := (hk.trans_le hx).ne'
    simp [hne]

/-- Rows of some of the samples behind the front are inserted. -/
theorem upsert (h : Q.Maintained front samples table) {window : List ρ}
    (hwindow : window.Sublist samples) (hfront : ∀ x ∈ window, front ≤ Q.bucket x)
    (hnew : ∀ k v, new.get k = some v → (k, v) ∈ Q.rows window) :
    Q.Maintained front samples (Table.upsert onConflict new table) := by
  refine ⟨fun k v hv => ?_, fun k v hk => ?_⟩
  · rcases Table.upsert_isSome.1 (Option.isSome_of_eq_some hv) with hs | hs
    · obtain ⟨v', hv'⟩ := Option.isSome_iff_exists.1 hs
      exact Q.exists_of_sublist _ _ k v' hwindow (hnew k v' hv')
    · obtain ⟨v', hv'⟩ := Option.isSome_iff_exists.1 hs
      exact h.present k v' hv'
  · have hnone : new.get k = none := by
      refine Option.eq_none_iff_forall_ne_some.2 fun v' hv' => ?_
      obtain ⟨x, hx, hxk⟩ := exists_sample (hnew k v' hv')
      exact absurd (hfront x hx) (by omega)
    rw [Table.upsert_of_none hnone]
    exact h.settled k v hk

/-- The front moves on past the buckets whose samples are all queried again. -/
theorem advance (h : Q.Maintained front samples table) {p : ρ → Bool} {front' : ℤ}
    (hnew : Q.Exact (samples.filter p) new)
    (hconflict : ∀ k o r, table.get k = some o → new.get k = some r → onConflict o r = r)
    (hfront : ∀ x ∈ samples, p x → front ≤ Q.bucket x)
    (hall : ∀ x ∈ samples, front ≤ Q.bucket x → Q.bucket x < front' → p x) :
    Q.Maintained front' samples (Table.upsert onConflict new table) := by
  have hwindow : (samples.filter p).Sublist samples := List.filter_sublist
  have hkept : Q.Maintained front samples (Table.upsert onConflict new table) :=
    h.upsert hwindow (fun x hx => hfront x (List.mem_filter.1 hx).1 (List.mem_filter.1 hx).2)
      fun k v hv => (hnew k v).1 hv
  refine ⟨hkept.present, fun k v hk => ?_⟩
  rcases lt_or_ge (Q.time k) front with hlt | hge
  · exact hkept.settled k v hlt
  · -- The rows of the bucket are those for the window.
    have hsame : (samples.filter p).filter (Q.bucket · = Q.time k) =
        samples.filter (Q.bucket · = Q.time k) := by
      rw [List.filter_filter]
      refine List.filter_congr fun x hx => ?_
      by_cases hxk : Q.bucket x = Q.time k
      · simp [hxk, hall x hx (hge.trans_eq hxk.symm) (hxk.trans_lt hk)]
      · simp [hxk]
    rw [← mem_rows_congr hsame, ← hnew, Table.get_upsert]
    cases hn : new.get k with
    | some r =>
      cases ho : table.get k with
      | none => rfl
      | some o => simp only [hconflict k o r ho hn]
    | none =>
      -- A row that is there has a key of the query, and so would be inserted again.
      have hnone : table.get k = none := by
        refine Option.eq_none_iff_forall_ne_some.2 fun o ho => ?_
        obtain ⟨v', hv'⟩ := h.present k o ho
        rw [← mem_rows_congr hsame, ← hnew, hn] at hv'
        cases hv'
      rw [hnone]

end Maintained

end BucketQuery

end Perfana
