import Mathlib.Data.List.Dedup
import Mathlib.Data.List.Nodup
import Mathlib.Data.List.Pairwise
import Mathlib.Data.List.Sort

/-!
# Keyed tables

A table with a unique key is a list of rows no two of which have the same key,
and so a partial function of the key (`get`), which says all there is to say about
its rows (`mem_rows`). Inserting rows updates those in conflict (`upsert`) and
keeps the others, so that a row that is left is a new one only if every old row
has a new one (`upsert_eq_new_iff`). A query for the latest rows returns the newest,
in any order of those that are equally new (`mayReturn_newest`).
-/

namespace Perfana

/-- A table with a unique key. -/
structure Table (κ ρ : Type*) where
  /-- The rows, each with its key. -/
  rows : List (κ × ρ)
  /-- No two rows have the same key. -/
  nodup : (rows.map Prod.fst).Nodup

namespace Table

variable {κ ρ : Type*} [DecidableEq κ]

/-- The row with a key, if any. -/
def get (t : Table κ ρ) (k : κ) : Option ρ := t.rows.lookup k

theorem mem_rows {t : Table κ ρ} {k : κ} {r : ρ} : (k, r) ∈ t.rows ↔ t.get k = some r := by
  rw [get]
  obtain ⟨rows, nodup⟩ := t
  dsimp only
  induction rows with
  | nil => simp
  | cons row rows ih =>
    obtain ⟨k', r'⟩ := row
    obtain ⟨hk', hrows⟩ := List.nodup_cons.1 nodup
    rw [List.mem_cons, List.lookup_cons, ih hrows]
    by_cases h : k = k'
    · subst h
      have hnone : ¬rows.lookup k = some r := fun h =>
        hk' (List.mem_map.2 ⟨(k, r), (ih hrows).2 h, rfl⟩)
      simp [hnone, eq_comm]
    · have hne : (k == k') = false := beq_eq_false_iff_ne.2 h
      simp [h, hne]

theorem get_eq_none {t : Table κ ρ} {k : κ} : t.get k = none ↔ k ∉ t.rows.map Prod.fst := by
  rw [← not_iff_not, not_not, List.mem_map]
  constructor
  · intro h
    obtain ⟨r, hr⟩ := Option.ne_none_iff_exists'.1 h
    exact ⟨(k, r), mem_rows.2 hr, rfl⟩
  · rintro ⟨⟨k', r⟩, hrow, rfl⟩ h
    rw [mem_rows.1 hrow] at h
    cases h

/-- Two tables are alike if they have the same rows. -/
theorem get_ext {t : Table κ ρ} {k : κ} {o : Option ρ} (h : ∀ r, (k, r) ∈ t.rows ↔ o = some r) :
    t.get k = o :=
  Option.ext fun r => by rw [← mem_rows, h]

/-! ## Operations -/

omit [DecidableEq κ] in
/-- The table without rows. -/
def empty : Table κ ρ := ⟨[], List.nodup_nil⟩

@[simp] theorem get_empty (k : κ) : (empty : Table κ ρ).get k = none := rfl

omit [DecidableEq κ] in
/-- The rows that meet a condition. -/
def filter (p : κ → ρ → Bool) (t : Table κ ρ) : Table κ ρ where
  rows := t.rows.filter fun row => p row.1 row.2
  nodup := t.nodup.sublist (List.filter_sublist.map _)

theorem get_filter (p : κ → ρ → Bool) (t : Table κ ρ) (k : κ) :
    (t.filter p).get k = (t.get k).filter (p k) := by
  refine get_ext fun r => ?_
  rw [filter, List.mem_filter, mem_rows, Option.filter_eq_some_iff]

omit [DecidableEq κ] in
/-- Every row updated, its key aside. -/
def update (f : κ → ρ → ρ) (t : Table κ ρ) : Table κ ρ where
  rows := t.rows.map fun row => (row.1, f row.1 row.2)
  nodup := by
    rw [List.map_map]
    exact t.nodup

theorem get_update (f : κ → ρ → ρ) (t : Table κ ρ) (k : κ) :
    (t.update f).get k = (t.get k).map (f k) := by
  refine get_ext fun r => ?_
  rw [update, List.mem_map, Option.map_eq_some_iff]
  constructor
  · rintro ⟨⟨k', r'⟩, hrow, h⟩
    obtain ⟨rfl, rfl⟩ := Prod.mk.inj h
    exact ⟨r', mem_rows.1 hrow, rfl⟩
  · rintro ⟨r', hr', rfl⟩
    exact ⟨(k, r'), mem_rows.2 hr', rfl⟩

omit [DecidableEq κ] in
/-- An update that changes no row that meets a condition, before or after, keeps them. -/
theorem filter_rows_update {t : Table κ ρ} {f : κ → ρ → ρ}
    {q : κ × ρ → Bool}
    (h : ∀ k r, (k, r) ∈ t.rows → f k r = r ∨ (q (k, r) = false ∧ q (k, f k r) = false)) :
    (t.update f).rows.filter q = t.rows.filter q := by
  obtain ⟨rows, nodup⟩ := t
  rw [update]
  dsimp only at h ⊢
  clear nodup
  induction rows with
  | nil => rfl
  | cons row rows ih =>
    have hrest := ih fun k r hrow => h k r (List.mem_cons_of_mem _ hrow)
    rw [List.map_cons, List.filter_cons, List.filter_cons, hrest]
    rcases h row.1 row.2 List.mem_cons_self with heq | ⟨hold, hnew⟩
    · rw [heq]
    · rw [hold, hnew, if_neg Bool.false_ne_true, if_neg Bool.false_ne_true]

omit [DecidableEq κ] in
/-- Every row replaced, its key aside. -/
def mapRows {τ : Type*} (f : ρ → τ) (t : Table κ ρ) : Table κ τ where
  rows := t.rows.map fun row => (row.1, f row.2)
  nodup := by
    rw [List.map_map]
    exact t.nodup

theorem get_mapRows {τ : Type*} (f : ρ → τ) (t : Table κ ρ) (k : κ) :
    (t.mapRows f).get k = (t.get k).map f := by
  refine get_ext fun r => ?_
  rw [mapRows, List.mem_map, Option.map_eq_some_iff]
  constructor
  · rintro ⟨⟨k', r'⟩, hrow, h⟩
    obtain ⟨rfl, rfl⟩ := Prod.mk.inj h
    exact ⟨r', mem_rows.1 hrow, rfl⟩
  · rintro ⟨r', hr', rfl⟩
    exact ⟨(k, r'), mem_rows.2 hr', rfl⟩

/-- The rows of those of some keys that have one. -/
def ofKeys (keys : List κ) (row : κ → Option ρ) : Table κ ρ where
  rows := keys.dedup.filterMap fun k => (row k).map fun r => (k, r)
  nodup := by
    rw [List.map_filterMap]
    refine List.Nodup.filterMap ?_ (List.nodup_dedup keys)
    intro k k' b hb hb'
    simp only [Option.map_map, Option.mem_def, Option.map_eq_some_iff] at hb hb'
    obtain ⟨_, -, h⟩ := hb
    obtain ⟨_, -, h'⟩ := hb'
    exact h.trans h'.symm

theorem get_ofKeys (keys : List κ) (row : κ → Option ρ) (k : κ) :
    (ofKeys keys row).get k = if k ∈ keys then row k else none := by
  refine get_ext fun r => ?_
  simp only [ofKeys, List.mem_filterMap, List.mem_dedup, Option.map_eq_some_iff, Prod.mk.injEq]
  constructor
  · rintro ⟨k', hk', r', hr', rfl, rfl⟩
    rw [if_pos hk', hr']
  · intro h
    split at h
    · exact ⟨k, ‹_›, r, h, rfl, rfl⟩
    · cases h

/-- The rows read off a list without duplicates are different if and only if no two
    members give the same. -/
theorem nodup_filterMap_iff {α β : Type*} {f : α → Option β} {l : List α} (hl : l.Nodup) :
    (l.filterMap f).Nodup ↔
      ∀ a ∈ l, ∀ a' ∈ l, ∀ b, f a = some b → f a' = some b → a = a' := by
  rw [List.Nodup, List.pairwise_filterMap]
  constructor
  · intro h a ha a' ha' b hb hb'
    by_contra hne
    have hsymm : Std.Symm fun a a' => ∀ b, f a = some b → ∀ b', f a' = some b' → b ≠ b' :=
      ⟨fun _ _ h b hb b' hb' => (h b' hb' b hb).symm⟩
    exact h.forall ha ha' hne b hb b hb' rfl
  · intro h
    refine hl.pairwise_of_forall_ne fun a ha a' ha' hne b hb b' hb' hbb' => ?_
    exact hne (h a ha a' ha' b hb (hbb' ▸ hb'))

/-- Some rows as a table, unless two of them have the same key. -/
def ofRows (rows : List (κ × ρ)) : Option (Table κ ρ) :=
  if h : (rows.map Prod.fst).Nodup then some ⟨rows, h⟩ else none

theorem ofRows_of_nodup {rows : List (κ × ρ)} (h : (rows.map Prod.fst).Nodup) :
    ofRows rows = some ⟨rows, h⟩ := dif_pos h

theorem ofRows_isSome {rows : List (κ × ρ)} :
    (ofRows rows).isSome ↔ (rows.map Prod.fst).Nodup := by
  rw [ofRows]
  split <;> simpa

theorem mem_of_ofRows {rows : List (κ × ρ)} {t : Table κ ρ} (h : ofRows rows = some t) (k : κ)
    (r : ρ) : t.get k = some r ↔ (k, r) ∈ rows := by
  rw [ofRows] at h
  split at h
  · cases h
    exact mem_rows.symm
  · cases h

section Groups

variable {α γ : Type*} [DecidableEq γ] (key : α → κ) (sub : α → γ) (row : κ → γ → List α → ρ)

/-- One row for every group of a list, a group being told by a key and something
    else; the table has the key alone. -/
def groupRows (l : List α) : List (κ × ρ) :=
  (l.map fun a => (key a, sub a)).dedup.map fun g =>
    (g.1, row g.1 g.2 (l.filter fun a => (key a, sub a) = g))

variable {key sub row} {l : List α} {t : Table κ ρ} {k : κ}

/-- If the groups make a table, there is one for a key at most, and it has all members
    with the key. -/
theorem get_groupRows (h : ofRows (groupRows key sub row l) = some t) {a : α} (ha : a ∈ l) :
    t.get (key a) = some (row (key a) (sub a) (l.filter fun b => key b = key a)) := by
  have hnodup : (((l.map fun a => (key a, sub a)).dedup).map Prod.fst).Nodup := by
    have hsome := ofRows_isSome.1 (Option.isSome_of_eq_some h)
    rwa [groupRows, List.map_map] at hsome
  have hgroup : ∀ b ∈ l, (key b, sub b) ∈ (l.map fun a => (key a, sub a)).dedup :=
    fun b hb => List.mem_dedup.2 (List.mem_map.2 ⟨b, hb, rfl⟩)
  have hrows : l.filter (fun b => (key b, sub b) = (key a, sub a)) =
      l.filter fun b => key b = key a := by
    refine List.filter_congr fun b hb => ?_
    -- Two groups of one key would be two rows of it.
    have hsame : key b = key a → (key b, sub b) = (key a, sub a) :=
      fun hk => List.inj_on_of_nodup_map hnodup (hgroup b hb) (hgroup a ha) hk
    exact decide_eq_decide.2 ⟨fun hk => (Prod.mk.inj hk).1, hsame⟩
  rw [mem_of_ofRows h, groupRows, List.mem_map]
  exact ⟨(key a, sub a), hgroup a ha, by rw [hrows]⟩

/-- Without members a key has no row. -/
theorem get_groupRows_eq_none (h : ofRows (groupRows key sub row l) = some t)
    (hnone : ∀ a ∈ l, key a ≠ k) : t.get k = none := by
  rw [← Option.not_isSome_iff_eq_none, Option.isSome_iff_exists]
  rintro ⟨r, hr⟩
  obtain ⟨g, hg, heq⟩ := List.mem_map.1 ((mem_of_ofRows h _ _).1 hr)
  obtain ⟨a, ha, rfl⟩ := List.mem_map.1 (List.mem_dedup.1 hg)
  exact hnone a ha (Prod.mk.inj heq).1

end Groups

/-- Rows inserted into a table, those in conflict updating the row that is there. -/
def upsert (onConflict : ρ → ρ → ρ) (new old : Table κ ρ) : Table κ ρ where
  rows :=
    (old.rows.map fun row => (row.1, ((new.get row.1).map (onConflict row.2)).getD row.2)) ++
      new.rows.filter fun row => (old.get row.1).isNone
  nodup := by
    rw [List.map_append, List.map_map]
    refine old.nodup.append (new.nodup.sublist (List.filter_sublist.map _)) ?_
    intro k hold hnew
    obtain ⟨row, hrow, rfl⟩ := List.mem_map.1 hnew
    rw [List.mem_filter, Option.isNone_iff_eq_none, get_eq_none] at hrow
    exact hrow.2 hold

section Upsert

variable {onConflict : ρ → ρ → ρ} {new old : Table κ ρ} {k : κ} {r o : ρ}

theorem get_upsert (onConflict : ρ → ρ → ρ) (new old : Table κ ρ) (k : κ) :
    (upsert onConflict new old).get k =
      match new.get k, old.get k with
      | some r, some o => some (onConflict o r)
      | some r, none => some r
      | none, o => o := by
  refine get_ext fun r => ?_
  rw [upsert, List.mem_append, List.mem_map, List.mem_filter, mem_rows]
  constructor
  · rintro (⟨⟨k', o⟩, hrow, h⟩ | ⟨hnew, hold⟩)
    · obtain ⟨rfl, rfl⟩ := Prod.mk.inj h
      rw [mem_rows.1 hrow]
      cases new.get k' <;> rfl
    · rw [hnew, Option.isNone_iff_eq_none.1 hold]
  · intro h
    cases ho : old.get k with
    | none =>
      rw [ho] at h
      right
      cases hn : new.get k with
      | none =>
        rw [hn] at h
        cases h
      | some r' =>
        rw [hn] at h
        exact ⟨h, by simp⟩
    | some o =>
      rw [ho] at h
      refine .inl ⟨(k, o), mem_rows.2 ho, ?_⟩
      cases hn : new.get k <;> rw [hn] at h <;> cases h <;> rfl

theorem upsert_of_none (h : new.get k = none) : (upsert onConflict new old).get k = old.get k := by
  rw [get_upsert, h]

theorem upsert_isSome : ((upsert onConflict new old).get k).isSome ↔
    (new.get k).isSome ∨ (old.get k).isSome := by
  rw [get_upsert]
  cases new.get k <;> cases old.get k <;> simp

@[simp] theorem upsert_empty : (upsert onConflict new empty).get k = new.get k := by
  rw [get_upsert]
  cases new.get k <;> rfl

/-- A row that is left is the new row of its key if and only if it has one, and
    updating a row in conflict leaves the new one. -/
theorem upsert_eq_new_iff :
    (∀ r, (upsert onConflict new old).get k = some r → new.get k = some r) ↔
      ((old.get k).isSome → (new.get k).isSome) ∧
        ∀ r o, new.get k = some r → old.get k = some o → onConflict o r = r := by
  rw [get_upsert]
  cases new.get k with
  | none => cases old.get k <;> simp
  | some r => cases old.get k <;> simp [eq_comm]

/-- Rows inserted in two steps, none of them twice, are inserted. -/
theorem get_upsert_upsert {rows rows' : List (κ × ρ)}
    (h : ((rows ++ rows').map Prod.fst).Nodup) (hrows : (rows.map Prod.fst).Nodup)
    (hrows' : (rows'.map Prod.fst).Nodup) (old : Table κ ρ) (k : κ) :
    (upsert onConflict ⟨rows', hrows'⟩ (upsert onConflict ⟨rows, hrows⟩ old)).get k =
      (upsert onConflict ⟨rows ++ rows', h⟩ old).get k := by
  have happend : (⟨rows ++ rows', h⟩ : Table κ ρ).get k =
      ((⟨rows, hrows⟩ : Table κ ρ).get k).or ((⟨rows', hrows'⟩ : Table κ ρ).get k) :=
    List.lookup_append
  have hdisjoint : ((⟨rows, hrows⟩ : Table κ ρ).get k).isSome →
      (⟨rows', hrows'⟩ : Table κ ρ).get k = none := by
    intro hsome
    rw [get_eq_none]
    obtain ⟨r, hr⟩ := Option.isSome_iff_exists.1 hsome
    rw [List.map_append] at h
    exact (List.nodup_append'.1 h).2.2 (List.mem_map.2 ⟨(k, r), mem_rows.2 hr, rfl⟩)
  simp only [get_upsert, happend]
  cases hr : (⟨rows, hrows⟩ : Table κ ρ).get k with
  | none => simp
  | some r =>
    rw [hdisjoint (Option.isSome_of_eq_some hr)]
    cases old.get k <;> rfl

/-- A row inserted into a table, updating the one in conflict. -/
def insert (onConflict : ρ → ρ → ρ) (k : κ) (r : ρ) (t : Table κ ρ) : Table κ ρ :=
  upsert onConflict ⟨[(k, r)], List.nodup_singleton k⟩ t

theorem get_insert (onConflict : ρ → ρ → ρ) (k : κ) (r : ρ) (t : Table κ ρ) (k' : κ) :
    (insert onConflict k r t).get k' =
      if k' = k then some (((t.get k).map fun o => onConflict o r).getD r) else t.get k' := by
  rw [insert]
  split
  · rename_i h
    subst h
    have hsingle : (⟨[(k', r)], List.nodup_singleton k'⟩ : Table κ ρ).get k' = some r :=
      mem_rows.1 List.mem_cons_self
    rw [get_upsert, hsingle]
    cases t.get k' <;> rfl
  · rename_i h
    refine upsert_of_none (get_eq_none.2 ?_)
    simpa using h

/-- A row inserted into a table, in the place of the one in conflict. -/
def set (k : κ) (r : ρ) (t : Table κ ρ) : Table κ ρ := insert (fun _ new => new) k r t

@[simp] theorem get_set (k : κ) (r : ρ) (t : Table κ ρ) (k' : κ) :
    (t.set k r).get k' = if k' = k then some r else t.get k' := by
  rw [set, get_insert]
  cases t.get k <;> rfl

/-- The table without the row of a key. -/
def erase (k : κ) (t : Table κ ρ) : Table κ ρ := t.filter fun k' _ => k' ≠ k

@[simp] theorem get_erase (k : κ) (t : Table κ ρ) (k' : κ) :
    (t.erase k).get k' = if k' = k then none else t.get k' := by
  rw [erase, get_filter]
  cases t.get k' <;> simp [Option.filter]

omit [DecidableEq κ] in
/-- The rows that are not of a key stay when it is erased. -/
theorem filter_rows_filter {p : κ → ρ → Bool} {q : κ × ρ → Bool}
    (h : ∀ row, q row = true → p row.1 row.2 = true) (t : Table κ ρ) :
    (t.filter p).rows.filter q = t.rows.filter q := by
  rw [filter, List.filter_filter]
  refine List.filter_congr fun row _ => ?_
  cases hq : q row with
  | false => rfl
  | true => simp [h row hq]

/-- The rows that are not of a key stay when another row is set for it. -/
theorem filter_rows_set {q : κ × ρ → Bool} (hq : ∀ r, q (k, r) = false) (t : Table κ ρ) :
    (t.set k r).rows.filter q = t.rows.filter q := by
  have hnew : ∀ row ∈ [(k, r)].filter fun row => (t.get row.1).isNone, q row = false := by
    intro row hrow
    rw [List.mem_singleton.1 (List.mem_of_mem_filter hrow)]
    exact hq r
  rw [set, insert, upsert, List.filter_append,
    List.filter_eq_nil_iff.2 fun row hrow => ne_true_of_eq_false (hnew row hrow), List.append_nil]
  induction t.rows with
  | nil => rfl
  | cons row rows ih =>
    obtain ⟨k', r'⟩ := row
    rw [List.map_cons, List.filter_cons, List.filter_cons, ih]
    by_cases hk : k' = k
    · subst hk
      rw [hq, hq, if_neg Bool.false_ne_true, if_neg Bool.false_ne_true]
    · have hnone : (⟨[(k, r)], List.nodup_singleton k⟩ : Table κ ρ).get k' = none :=
        get_eq_none.2 (by simpa using hk)
      rw [hnone]
      rfl

/-- Rows inserted one by one, where inserting a row again changes nothing. -/
theorem get_foldl_insert {row : κ → ρ} (hself : ∀ r, onConflict r r = r)
    (hagain : ∀ o r, onConflict (onConflict o r) r = onConflict o r) (ks : List κ)
    (t : Table κ ρ) (k : κ) :
    (ks.foldl (fun t k => insert onConflict k (row k) t) t).get k =
      if k ∈ ks then some (((t.get k).map fun o => onConflict o (row k)).getD (row k))
      else t.get k := by
  induction ks generalizing t with
  | nil => rfl
  | cons k' ks ih =>
    rw [List.foldl_cons, ih, get_insert]
    by_cases hk : k = k'
    · subst hk
      cases t.get k <;> simp [hself, hagain]
    · simp [hk]

end Upsert

end Table

/-- To map filtered rows to lists is to map the others to none. -/
theorem flatMap_filter {ρ σ : Type*} (p : ρ → Bool) (f : ρ → List σ) (rows : List ρ) :
    (rows.filter p).flatMap f = rows.flatMap fun r => if p r then f r else [] := by
  induction rows with
  | nil => rfl
  | cons r rows ih =>
    cases hp : p r <;> simp [hp, ih]

/-- The rows that a left join finds for a condition, none if there is none. -/
def leftJoin {ρ : Type*} (rows : List ρ) (p : ρ → Bool) : List (Option ρ) :=
  match rows.filter p with
  | [] => [none]
  | matching => matching.map some

theorem some_mem_leftJoin {ρ : Type*} {rows : List ρ} {p : ρ → Bool} {r : ρ} :
    some r ∈ leftJoin rows p ↔ r ∈ rows ∧ p r := by
  rw [← List.mem_filter, leftJoin]
  split
  · rename_i h
    simp [h]
  · simp

theorem leftJoin_ne_nil {ρ : Type*} (rows : List ρ) (p : ρ → Bool) : leftJoin rows p ≠ [] := by
  rw [leftJoin]
  split
  · exact List.cons_ne_nil _ _
  · rename_i h
    exact mt List.map_eq_nil_iff.1 h

/-- A left join with rows that are filtered and mapped is one with a stronger condition. -/
theorem leftJoin_map_filter {ρ σ : Type*} (rows : List ρ) (p : ρ → Bool) (f : ρ → σ)
    (q : σ → Bool) :
    leftJoin ((rows.filter p).map f) q =
      (leftJoin rows fun r => p r && q (f r)).map (Option.map f) := by
  have hfilter : ((rows.filter p).map f).filter q =
      (rows.filter fun r => p r && q (f r)).map f := by
    rw [List.filter_map, List.filter_filter]
    simp only [Function.comp_apply, Bool.and_comm]
  rw [leftJoin, leftJoin, hfilter]
  cases rows.filter fun r => p r && q (f r) <;> simp

/-- A left join with rows that some rows are mapped to, read by a function, is one with
    those that are mapped to matching rows. -/
theorem leftJoin_filterMap {ρ σ τ : Type*} {rows : List ρ} {f : ρ → Option σ} {p : σ → Bool}
    {q : ρ → Bool} {g : σ → τ} {h : ρ → τ} (hany : ∀ r, (f r).any p = q r)
    (hread : ∀ r, q r → (f r).map g = some (h r)) :
    (leftJoin (rows.filterMap f) p).map (Option.map g) =
      (leftJoin rows q).map (Option.map h) := by
  have hrows : ((rows.filterMap f).filter p).map g = (rows.filter q).map h := by
    induction rows with
    | nil => rfl
    | cons r rows ih =>
      have hr := hany r
      cases hf : f r with
      | none =>
        rw [hf] at hr
        rw [List.filterMap_cons_none hf, ih, List.filter_cons_of_neg (by simp [← hr])]
      | some s =>
        rw [hf, Option.any_some] at hr
        rw [List.filterMap_cons_some hf]
        cases hq : q r with
        | false =>
          rw [List.filter_cons_of_neg (by simp [hr, hq]), ih,
            List.filter_cons_of_neg (by simp [hq])]
        | true =>
          have hg := hread r hq
          rw [hf, Option.map_some] at hg
          rw [List.filter_cons_of_pos (by simp [hr, hq]),
            List.filter_cons_of_pos (by simp [hq]), List.map_cons, List.map_cons, ih,
            Option.some.inj hg]
  rw [leftJoin, leftJoin]
  cases hp : (rows.filterMap f).filter p with
  | nil =>
    rw [hp] at hrows
    rw [List.map_eq_nil_iff.1 hrows.symm]
    rfl
  | cons s l =>
    rw [hp] at hrows
    cases hq : rows.filter q with
    | nil =>
      rw [hq] at hrows
      cases hrows
    | cons r l' =>
      rw [hq] at hrows
      have hsome := congrArg (List.map some) hrows
      simpa only [List.map_map, Function.comp_def, Option.map_some] using hsome

/-- A left join with the same rows finds the same rows. -/
theorem leftJoin_perm {ρ : Type*} {rows rows' : List ρ} (h : rows.Perm rows') (p : ρ → Bool) :
    (leftJoin rows p).Perm (leftJoin rows' p) := by
  have hfilter := h.filter p
  rw [leftJoin, leftJoin]
  cases hrows : rows.filter p with
  | nil =>
    rw [hrows] at hfilter
    rw [hfilter.nil_eq.symm]
  | cons r l =>
    rw [hrows] at hfilter
    cases hrows' : rows'.filter p with
    | nil =>
      rw [hrows'] at hfilter
      exact absurd hfilter.eq_nil (List.cons_ne_nil _ _)
    | cons r' l' =>
      rw [hrows'] at hfilter
      exact hfilter.map some

/-- In a table a left join finds one row for a key at most. -/
theorem leftJoin_table {κ ρ : Type*} [DecidableEq κ] (t : Table κ ρ) (k : κ) :
    leftJoin t.rows (fun row => row.1 = k) = [(t.get k).map fun r => (k, r)] := by
  have hmem : ∀ row, row ∈ t.rows.filter (·.1 = k) ↔ row.1 = k ∧ t.get k = some row.2 := by
    rintro ⟨k', r⟩
    rw [List.mem_filter, decide_eq_true_eq, and_comm]
    exact and_congr_right fun hk => by rw [← Table.mem_rows, ← hk]
  cases hget : t.get k with
  | none =>
    have hnil : t.rows.filter (·.1 = k) = [] := by
      refine List.eq_nil_iff_forall_not_mem.2 fun row hrow => ?_
      have hsome := ((hmem row).1 hrow).2
      rw [hget] at hsome
      cases hsome
    rw [leftJoin, hnil]
    rfl
  | some r =>
    have hone : t.rows.filter (·.1 = k) = [(k, r)] := by
      refine List.perm_singleton.1 ((List.perm_ext_iff_of_nodup
        (t.nodup.of_map.filter _) (List.nodup_singleton _)).2 fun row => ?_)
      rw [hmem, hget, List.mem_singleton, Option.some.injEq, Prod.ext_iff, eq_comm (a := r)]
    rw [leftJoin, hone]
    rfl

/-- The rows with the greatest values, at most `n` of them, the greatest first. -/
def newest {ρ : Type*} (value : ρ → ℤ) (n : ℕ) (rows : List ρ) : List ρ :=
  (rows.insertionSort fun a b => value b ≤ value a).take n

section Newest

variable {ρ : Type*} {value : ρ → ℤ} {n : ℕ} {rows : List ρ} {r : ρ}

theorem of_mem_newest (h : r ∈ newest value n rows) : r ∈ rows :=
  (List.perm_insertionSort _ rows).subset (List.mem_of_mem_take h)

/-- A row is among the newest if at most `n` rows, itself included, are as new. -/
theorem mem_newest (hr : r ∈ rows)
    (hn : (rows.filter fun r' => value r ≤ value r').length ≤ n) : r ∈ newest value n rows := by
  let le := fun a b : ρ => value b ≤ value a
  have htotal : Std.Total le := ⟨fun a b => le_total (value b) (value a)⟩
  have htrans : IsTrans ρ le := ⟨fun _ _ _ hab hbc => le_trans hbc hab⟩
  have hsorted : (rows.insertionSort le).Pairwise le := List.pairwise_insertionSort le rows
  have hperm : (rows.insertionSort le).Perm rows := List.perm_insertionSort le rows
  have hr' := hperm.symm.subset hr
  have hn' := (hperm.filter fun r' => value r ≤ value r').length_eq.trans_le hn
  rw [newest]
  rw [← List.take_append_drop n (rows.insertionSort le)] at hsorted hr' hn'
  rcases List.mem_append.1 hr' with hr' | hr'
  · exact hr'
  · -- Otherwise the `n` rows before it are as new, and there is one too many.
    have hbefore : ∀ a ∈ (rows.insertionSort le).take n, value r ≤ value a :=
      fun a ha => (List.pairwise_append.1 hsorted).2.2 a ha r hr'
    have htake : ((rows.insertionSort le).take n).length = n := by
      have := List.length_pos_of_mem hr'
      rw [List.length_drop] at this
      rw [List.length_take]
      omega
    have hself : 0 < (((rows.insertionSort le).drop n).filter
        fun r' => value r ≤ value r').length :=
      List.length_pos_of_mem (List.mem_filter.2 ⟨hr', decide_eq_true le_rfl⟩)
    rw [List.filter_append, List.length_append,
      List.filter_eq_self.2 fun a ha => decide_eq_true (hbefore a ha), htake] at hn'
    omega

/-- A query for the rows with the greatest values may return these: which of the rows with
    the same value come first is left open. -/
def MayReturn (value : ρ → ℤ) (n : ℕ) (rows found : List ρ) : Prop :=
  ∃ sorted : List ρ, sorted.Perm rows ∧ sorted.Pairwise (fun a b => value b ≤ value a) ∧
    found = sorted.take n

/-- The newest rows are returned, for one. -/
theorem mayReturn_newest (value : ρ → ℤ) (n : ℕ) (rows : List ρ) :
    MayReturn value n rows (newest value n rows) := by
  let le := fun a b : ρ => value b ≤ value a
  have htotal : Std.Total le := ⟨fun a b => le_total (value b) (value a)⟩
  have htrans : IsTrans ρ le := ⟨fun _ _ _ hab hbc => le_trans hbc hab⟩
  exact ⟨rows.insertionSort le, List.perm_insertionSort le rows,
    List.pairwise_insertionSort le rows, rfl⟩

end Newest

end Perfana
