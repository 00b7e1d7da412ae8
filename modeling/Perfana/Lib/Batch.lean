import Perfana.Lib.Table

/-!
# Statements over a batch

A statement inserts rows for a batch of runs: each of their sources gives a row for
every choice that a scope leaves it, under a key that names the run. The statement
fails if two rows have one key.

The scope is that of the batch, whatever run it was taken from. So a run gets from the
batch what it gets alone only as far as the two scopes leave its sources the same
choices; and if two rows clash, no run gets anything.

`BatchQuery.insert_batch_iff`: when every run of a batch is left what it is left alone.
-/

namespace Perfana

open Table

/-- A statement over a batch. -/
structure BatchQuery (ι σ α γ κ ρ : Type*) where
  /-- What rows are made of. -/
  sources : List α
  /-- The key of the rows of a source. -/
  key : α → κ
  /-- The run that a key names. -/
  run : κ → ι
  /-- The choices that a scope leaves. -/
  choices : σ → α → List γ
  /-- There is always one. -/
  choices_ne_nil : ∀ s a, choices s a ≠ []
  /-- The row of a choice. -/
  row : α → γ → ρ
  /-- What becomes of a row in conflict. -/
  onConflict : ρ → ρ → ρ
  /-- A row tells the choice. -/
  row_injective : ∀ a, Function.Injective (row a)
  /-- So does an updated one. -/
  update_injective : ∀ a o, Function.Injective fun c => onConflict o (row a c)

namespace BatchQuery

variable {ι σ α γ κ ρ : Type*} [DecidableEq ι] [DecidableEq κ] (q : BatchQuery ι σ α γ κ ρ)

/-- The sources of a batch. -/
def sourcesOf (ids : List ι) : List α := q.sources.filter fun a => q.run (q.key a) ∈ ids

/-- The rows that are inserted for a batch. -/
def rows (ids : List ι) (s : σ) : List (κ × ρ) :=
  (q.sourcesOf ids).flatMap fun a => (q.choices s a).map fun c => (q.key a, q.row a c)

/-- The statement, none if it fails. -/
def insert (ids : List ι) (s : σ) (old : Table κ ρ) : Option (Table κ ρ) :=
  (ofRows (q.rows ids s)).map fun new => upsert q.onConflict new old

/-- The rows of a run. -/
def left (i : ι) (t : Table κ ρ) (k : κ) : Option ρ := if q.run k = i then t.get k else none

/-- The sources of some runs have different keys, and a single choice each. -/
structure Unambiguous (ids : List ι) (s : σ) : Prop where
  /-- The keys are different. -/
  nodup : ((q.sourcesOf ids).map q.key).Nodup
  /-- There is a single choice. -/
  single : ∀ a ∈ q.sourcesOf ids, ∃ c, q.choices s a = [c]

variable {q} {ids : List ι} {s : σ} {i : ι} {a : α}

omit [DecidableEq κ] in
theorem mem_sourcesOf : a ∈ q.sourcesOf ids ↔ a ∈ q.sources ∧ q.run (q.key a) ∈ ids := by
  rw [sourcesOf, List.mem_filter, decide_eq_true_eq]

omit [DecidableEq κ] in
theorem mem_rows {k : κ} {r : ρ} :
    (k, r) ∈ q.rows ids s ↔
      ∃ a ∈ q.sourcesOf ids, ∃ c ∈ q.choices s a, k = q.key a ∧ r = q.row a c := by
  simp only [rows, List.mem_flatMap, List.mem_map, Prod.mk.injEq]
  grind

omit [DecidableEq κ] in
/-- The keys of the rows are those of the sources, each once for every choice. -/
theorem rows_keys : (q.rows ids s).map Prod.fst =
    (q.sourcesOf ids).flatMap fun a => List.replicate (q.choices s a).length (q.key a) := by
  rw [rows, List.map_flatMap]
  refine List.flatMap_congr fun a _ => ?_
  rw [List.map_map]
  exact List.map_const'

omit [DecidableEq κ] in
/-- No two rows clash if and only if the sources are unambiguous. -/
theorem nodup_rows : ((q.rows ids s).map Prod.fst).Nodup ↔ q.Unambiguous ids s := by
  have hlength : ∀ a, (q.choices s a).length ≤ 1 ↔ ∃ c, q.choices s a = [c] := by
    intro a
    have hne := List.length_pos_iff.2 (q.choices_ne_nil s a)
    rw [← List.length_eq_one_iff]
    omega
  rw [rows_keys, List.nodup_flatMap]
  constructor
  · rintro ⟨hsingle, hdisjoint⟩
    refine ⟨List.pairwise_map.2 (hdisjoint.imp fun {a b} hab heq => ?_), fun a ha => ?_⟩
    · have hpos := fun a => List.length_pos_iff.2 (q.choices_ne_nil s a)
      have hmem : ∀ a, q.key a ∈ List.replicate (q.choices s a).length (q.key a) :=
        fun a => List.mem_replicate.2 ⟨(hpos a).ne', rfl⟩
      exact hab (hmem a) (heq ▸ hmem b)
    · exact (hlength a).1 (List.nodup_replicate.1 (hsingle a ha))
  · intro h
    refine ⟨fun a ha => List.nodup_replicate.2 ((hlength a).2 (h.single a ha)), ?_⟩
    refine (List.pairwise_map.1 h.nodup).imp fun {a b} hab k hka hkb => hab ?_
    exact (List.eq_of_mem_replicate hka).symm.trans (List.eq_of_mem_replicate hkb)

/-- The statement goes through if and only if its sources are unambiguous. -/
theorem insert_isSome (old : Table κ ρ) : (q.insert ids s old).isSome ↔ q.Unambiguous ids s := by
  rw [insert, Option.isSome_map, ofRows_isSome, nodup_rows]

omit [DecidableEq κ] in
theorem sourcesOf_singleton (hi : i ∈ ids) :
    (q.sourcesOf ids).filter (fun a => q.run (q.key a) = i) = q.sourcesOf [i] := by
  rw [sourcesOf, sourcesOf, List.filter_filter]
  refine List.filter_congr fun a _ => ?_
  grind

omit [DecidableEq κ] in
/-- A batch is unambiguous if and only if each of its runs is. -/
theorem unambiguous_iff : q.Unambiguous ids s ↔ ∀ i ∈ ids, q.Unambiguous [i] s := by
  constructor
  · intro h i hi
    have hsublist : (q.sourcesOf [i]).Sublist (q.sourcesOf ids) :=
      sourcesOf_singleton hi ▸ List.filter_sublist
    exact ⟨h.nodup.sublist (hsublist.map _), fun a ha => h.single a (hsublist.subset ha)⟩
  · intro h
    refine ⟨List.pairwise_map.2 (List.pairwise_iff_forall_sublist.2 fun {a b} hab heq => ?_),
      fun a ha => ?_⟩
    · -- Two sources of one key are of one run.
      have ha := (mem_sourcesOf.1 (hab.subset List.mem_cons_self)).2
      have hrun := List.pairwise_map.1 (h _ ha).nodup
      rw [← sourcesOf_singleton ha, List.pairwise_iff_forall_sublist] at hrun
      refine hrun (a := a) (b := b) ?_ heq
      have hboth := hab.filter fun c => q.run (q.key c) = q.run (q.key a)
      rwa [List.filter_eq_self.2 (by simp [heq])] at hboth
    · obtain ⟨hsource, hid⟩ := mem_sourcesOf.1 ha
      exact (h _ hid).single a (mem_sourcesOf.2 ⟨hsource, List.mem_singleton_self _⟩)

variable {old : Table κ ρ}

/-- What a statement that goes through leaves under the key of a source. -/
theorem get_insert {t : Table κ ρ} (h : q.insert ids s old = some t) (ha : a ∈ q.sourcesOf ids)
    {c : γ} (hc : c ∈ q.choices s a) :
    t.get (q.key a) =
      some (((old.get (q.key a)).map fun o => q.onConflict o (q.row a c)).getD (q.row a c)) := by
  obtain ⟨new, hnew, rfl⟩ := Option.map_eq_some_iff.1 h
  rw [get_upsert, (mem_of_ofRows hnew _ _).2 (mem_rows.2 ⟨a, ha, c, hc, rfl, rfl⟩)]
  cases old.get (q.key a) <;> rfl

/-- What it leaves under any other key. -/
theorem get_insert_other {t : Table κ ρ} (h : q.insert ids s old = some t) {k : κ}
    (hk : ∀ a ∈ q.sourcesOf ids, q.key a ≠ k) : t.get k = old.get k := by
  obtain ⟨new, hnew, rfl⟩ := Option.map_eq_some_iff.1 h
  have hnone : new.get k = none := by
    rw [← Option.not_isSome_iff_eq_none, Option.isSome_iff_exists]
    rintro ⟨r, hr⟩
    obtain ⟨a, ha, c, -, rfl, -⟩ := mem_rows.1 ((mem_of_ofRows hnew _ _).1 hr)
    exact hk a ha rfl
  rw [get_upsert, hnone]

omit [DecidableEq ι] [DecidableEq κ] in
/-- A row tells the choice, updated or not. -/
theorem choice_of_row {c c' : γ} {o : Option ρ}
    (h : (o.map fun o => q.onConflict o (q.row a c)).getD (q.row a c) =
      (o.map fun o => q.onConflict o (q.row a c')).getD (q.row a c')) : c = c' := by
  cases o with
  | none => exact q.row_injective a h
  | some o => exact q.update_injective a o h

/-- The scopes of two statements that go through leave a run the same if and only if they
    leave its sources the same choices. -/
theorem left_eq_iff {s' : σ} {t t' : Table κ ρ} (hi : i ∈ ids)
    (h : q.insert ids s old = some t) (h' : q.insert [i] s' old = some t') :
    q.left i t = q.left i t' ↔ ∀ a ∈ q.sourcesOf [i], q.choices s a = q.choices s' a := by
  have hunambiguous := unambiguous_iff.1 ((insert_isSome old).1 (Option.isSome_of_eq_some h)) i hi
  have hunambiguous' := (insert_isSome old).1 (Option.isSome_of_eq_some h')
  have hmem : ∀ a ∈ q.sourcesOf [i], a ∈ q.sourcesOf ids ∧ q.run (q.key a) = i := by
    intro a ha
    obtain ⟨hsource, hid⟩ := mem_sourcesOf.1 ha
    obtain rfl := List.mem_singleton.1 hid
    exact ⟨mem_sourcesOf.2 ⟨hsource, hi⟩, rfl⟩
  constructor
  · intro heq a ha
    obtain ⟨c, hc⟩ := hunambiguous.single a ha
    obtain ⟨c', hc'⟩ := hunambiguous'.single a ha
    obtain ⟨hbatch, hrun⟩ := hmem a ha
    have hget := congrFun heq (q.key a)
    rw [left, left, if_pos hrun, if_pos hrun,
      get_insert h hbatch (hc ▸ List.mem_singleton_self c),
      get_insert h' ha (hc' ▸ List.mem_singleton_self c')] at hget
    rw [hc, hc', choice_of_row (Option.some.inj hget)]
  · intro hchoices
    funext k
    rw [left, left]
    split
    · rename_i hk
      by_cases hkey : ∃ a ∈ q.sourcesOf [i], q.key a = k
      · obtain ⟨a, ha, rfl⟩ := hkey
        obtain ⟨c, hc⟩ := hunambiguous.single a ha
        rw [get_insert h (hmem a ha).1 (hc ▸ List.mem_singleton_self c),
          get_insert h' ha (hchoices a ha ▸ hc ▸ List.mem_singleton_self c)]
      · have hother : ∀ a ∈ q.sourcesOf ids, q.key a ≠ k := by
          rintro a ha rfl
          exact hkey ⟨a, mem_sourcesOf.2 ⟨(mem_sourcesOf.1 ha).1, List.mem_singleton.2 hk⟩, rfl⟩
        rw [get_insert_other h hother,
          get_insert_other h' fun a ha hka => hkey ⟨a, ha, hka⟩]
    · rfl

variable (q) in
/-- The scope of a batch and those of its runs leave the sources of each run the same single
    choice, and no rows clash; or else some rows clash in the batch, and for every run. -/
def Independent (ids : List ι) (s : σ) (scope : ι → σ) : Prop :=
  (∀ i ∈ ids, q.Unambiguous [i] (scope i) ∧
    ∀ a ∈ q.sourcesOf [i], q.choices s a = q.choices (scope i) a) ∨
  ((∃ i ∈ ids, ¬q.Unambiguous [i] s) ∧ ∀ i ∈ ids, ¬q.Unambiguous [i] (scope i))

/-- Every run of a batch is left what it is left alone if and only if the scopes make no
    difference. -/
theorem insert_batch_iff (old : Table κ ρ) {scope : ι → σ} :
    (∀ i ∈ ids, (q.insert ids s old).map (q.left i) =
        (q.insert [i] (scope i) old).map (q.left i)) ↔ q.Independent ids s scope := by
  rw [Independent]
  cases hbatch : q.insert ids s old with
  | none =>
    have hclash : ∃ i ∈ ids, ¬q.Unambiguous [i] s := by
      by_contra hnone
      push Not at hnone
      have hsome : (q.insert ids s old).isSome := (insert_isSome old).2 (unambiguous_iff.2 hnone)
      rw [hbatch] at hsome
      cases hsome
    have hfails : ∀ i, none = (q.insert [i] (scope i) old).map (q.left i) ↔
        ¬q.Unambiguous [i] (scope i) := by
      intro i
      rw [eq_comm, Option.map_eq_none_iff, ← Option.not_isSome_iff_eq_none, insert_isSome]
    simp only [Option.map_none, hfails]
    refine ⟨fun h => .inr ⟨hclash, h⟩, ?_⟩
    rintro (h | ⟨-, h⟩)
    · -- The same choices would clash alone.
      obtain ⟨i, hi, hnot⟩ := hclash
      obtain ⟨hunambiguous, hchoices⟩ := h i hi
      refine absurd ⟨hunambiguous.nodup, fun a ha => ?_⟩ hnot
      rw [hchoices a ha]
      exact hunambiguous.single a ha
    · exact h
  | some t =>
    have hall := unambiguous_iff.1 ((insert_isSome old).1 (Option.isSome_of_eq_some hbatch))
    have hone : ∀ i ∈ ids, (some t).map (q.left i) =
        (q.insert [i] (scope i) old).map (q.left i) ↔ q.Unambiguous [i] (scope i) ∧
          ∀ a ∈ q.sourcesOf [i], q.choices s a = q.choices (scope i) a := by
      intro i hi
      rw [← insert_isSome old]
      cases halone : q.insert [i] (scope i) old with
      | none => simp
      | some t' =>
        rw [← left_eq_iff hi hbatch halone]
        simp
    rw [forall₂_congr hone]
    refine ⟨.inl, ?_⟩
    rintro (h | ⟨⟨i, hi, hnot⟩, -⟩)
    · exact h
    · exact absurd (hall i hi) hnot

end BatchQuery

end Perfana
