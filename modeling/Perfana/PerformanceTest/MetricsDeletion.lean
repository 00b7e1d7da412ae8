import Perfana.Lib.Run
import Perfana.Lib.Table

/-!
# Deleting the metrics of a performance test

Before the metrics of a performance test are collected again, those of the run are deleted, all
of them at once. If the run has rows of other sources they are copied aside before and restored
after, in a transaction with one snapshot; if it has none the deletion is a single statement.
Which of the two it is has been read before the transaction, while other transactions insert
and update rows of the run.

A statement that deletes waits for the writers of the rows that it finds. In the transaction
with one snapshot it fails if the row has been written since, and the call is tried once more;
by itself it deletes what the writer has left. Writers wait for the rows that are deleted.

* `MetricsDatabase.inv_step`: what holds along every run whose steps are undisturbed;
* `MetricsDatabase.run_keepsOtherSources`: along these runs no row of another source is lost.
-/

namespace Perfana

/-! ## The database -/

/-- A row of the metrics of the run. -/
structure SourcedRow (ι ν : Type*) where
  metricsSourceId : Option ι
  value : ν
deriving DecidableEq

/-- A row as a transaction has left it. -/
structure RowVersion (ι ν : Type*) where
  row : SourcedRow ι ν
  /-- The number of the transaction. -/
  writtenBy : ℕ
deriving DecidableEq

variable {ι κ ν : Type*}

/-- The type of the source of a row. -/
def SourcedRow.sourceType (sourceTypes : ι → Option String) (row : SourcedRow ι ν) : String :=
  (row.metricsSourceId.bind sourceTypes).getD "unknown"

/-- The row is of a performance test. -/
def SourcedRow.isPerformanceTest (sourceTypes : ι → Option String) (row : SourcedRow ι ν) : Bool :=
  row.metricsSourceId.bind sourceTypes = some "performance_test"

/-- The transaction of a deletion. -/
inductive DeleteTx (ι κ ν : Type*)
  /-- It has begun, with nothing to preserve. -/
  | begun
  /-- Its statement has yet to delete some of the rows that it has found. -/
  | deletingAll (remaining deleted : List κ)
  /-- It has begun with its one snapshot. -/
  | snapshotTaken (snapshot : Table κ (RowVersion ι ν))
  /-- The rows to preserve are copied. -/
  | copied (snapshot : Table κ (RowVersion ι ν)) (keep : Table κ (SourcedRow ι ν))
  /-- Its statement has yet to delete some of the rows of the snapshot. -/
  | deleting (snapshot : Table κ (RowVersion ι ν)) (keep : Table κ (SourcedRow ι ν))
      (remaining deleted : List κ)
  /-- The rows are deleted, those that are preserved are inserted again. -/
  | restored (keep : Table κ (SourcedRow ι ν)) (deleted : List κ)

namespace DeleteTx

/-- The rows that the transaction has deleted, which no one else can write. -/
def deleted : DeleteTx ι κ ν → List κ
  | deletingAll _ deleted => deleted
  | deleting _ _ _ deleted => deleted
  | restored _ deleted => deleted
  | _ => []

end DeleteTx

/-- A call of the deletion. -/
inductive DeleteCall (ι κ ν : Type*)
  | idle
  /-- The types of the sources have been read. -/
  | probed (presentSourceTypes : List String)
  | running (presentSourceTypes : List String) (retried : Bool) (tx : DeleteTx ι κ ν)
  /-- The transaction could not be serialized, and is tried once more. -/
  | waiting (presentSourceTypes : List String)
  | returned (deleted restored : ℕ)
  | failed

namespace DeleteCall

/-- The rows that no one else can write. -/
def deleted : DeleteCall ι κ ν → List κ
  | running _ _ tx => tx.deleted
  | _ => []

/-- The call is over, or there is none. -/
def isOver : DeleteCall ι κ ν → Bool
  | idle => true
  | returned _ _ => true
  | failed => true
  | _ => false

end DeleteCall

/-- The metrics of a run, with the transactions on them. -/
structure MetricsDatabase (ι κ ν : Type*) where
  /-- What is committed. -/
  table : Table κ (RowVersion ι ν)
  /-- How many transactions are committed. -/
  commits : ℕ
  /-- The rows that writers have written and not committed, each with its writer. -/
  inFlight : Table κ (ℕ × SourcedRow ι ν)
  call : DeleteCall ι κ ν
  /-- The last row for each key that a writer has committed. -/
  lastCommitted : Table κ (SourcedRow ι ν)

/-- What happens to the metrics of a run. -/
inductive MetricsEvent (ι κ ν : Type*)
  /-- A writer inserts a row, or updates the one in conflict. -/
  | upsert (writer : ℕ) (k : κ) (row : SourcedRow ι ν)
  | commit (writer : ℕ)
  | rollback (writer : ℕ)
  /-- The types of the sources are read. -/
  | probe
  | begin
  | copy
  | startDelete
  /-- The statement deletes a row that it has found. -/
  | deleteRow (k : κ)
  | restore
  | commitDelete
  /-- The transaction fails, as when it waits for too long. -/
  | fail
  | retry

namespace MetricsDatabase

variable [DecidableEq κ]

/-- No rows, and no one at work. -/
def initial : MetricsDatabase ι κ ν := ⟨.empty, 0, .empty, .idle, .empty⟩

/-- The types of the sources that have rows. -/
def getRunMetricsSourceTypes (sourceTypes : ι → Option String) (table : Table κ (RowVersion ι ν)) :
    List String := (table.rows.map fun row => row.2.row.sourceType sourceTypes).eraseDups

/-- The rows that are preserved. -/
def survivors (sourceTypes : ι → Option String) (snapshot : Table κ (RowVersion ι ν)) :
    Table κ (SourcedRow ι ν) :=
  (snapshot.mapRows RowVersion.row).filter fun _ row => !row.isPerformanceTest sourceTypes

/-- The transaction as it begins: with one snapshot if there are rows to preserve. -/
def beginDelete (presentSourceTypes : List String) (table : Table κ (RowVersion ι ν)) :
    DeleteTx ι κ ν :=
  if presentSourceTypes.any fun type => type ≠ "performance_test" then .snapshotTaken table
  else .begun

/-- The rows of some keys, as those of the transaction that is committed. -/
def written (s : MetricsDatabase ι κ ν) (rows : Table κ (SourcedRow ι ν)) :
    Table κ (RowVersion ι ν) := rows.mapRows fun row => ⟨row, s.commits⟩

/-- The rows that a writer has written. -/
def writesOf (s : MetricsDatabase ι κ ν) (writer : ℕ) : Table κ (SourcedRow ι ν) :=
  (s.inFlight.filter fun _ write => write.1 = writer).mapRows Prod.snd

section Step

variable [DecidableEq ι] [DecidableEq ν]

/-- A row is deleted that is as in the snapshot. Else the transaction cannot be serialized. -/
def deleteSnapshotRow (s : MetricsDatabase ι κ ν) (presentSourceTypes : List String)
    (retried : Bool) (snapshot : Table κ (RowVersion ι ν)) (keep : Table κ (SourcedRow ι ν))
    (remaining deleted : List κ) (k : κ) : MetricsDatabase ι κ ν :=
  if s.table.get k = snapshot.get k then
    { s with
      call := .running presentSourceTypes retried
        (.deleting snapshot keep (remaining.erase k) (k :: deleted)) }
  else if retried then { s with call := .failed }
  else { s with call := .waiting presentSourceTypes }

/-- One event. -/
def step (sourceTypes : ι → Option String) (s : MetricsDatabase ι κ ν) :
    MetricsEvent ι κ ν → Option (MetricsDatabase ι κ ν)
  | .upsert writer k row =>
    if k ∉ s.call.deleted ∧ (s.inFlight.get k).all (fun write => write.1 = writer) = true then
      some { s with inFlight := s.inFlight.set k (writer, row) }
    else none
  | .commit writer => some
    { s with
      table := Table.upsert (fun _ new => new) (s.written (s.writesOf writer)) s.table
      commits := s.commits + 1
      inFlight := s.inFlight.filter fun _ write => write.1 ≠ writer
      lastCommitted := Table.upsert (fun _ new => new) (s.writesOf writer) s.lastCommitted }
  | .rollback writer => some
    { s with inFlight := s.inFlight.filter fun _ write => write.1 ≠ writer }
  | .probe =>
    if s.call.isOver then
      some { s with call := .probed (getRunMetricsSourceTypes sourceTypes s.table) }
    else none
  | .begin => match s.call with
    | .probed types => some { s with call := .running types false (beginDelete types s.table) }
    | _ => none
  | .copy => match s.call with
    | .running types retried (.snapshotTaken snapshot) => some
      { s with call := .running types retried (.copied snapshot (survivors sourceTypes snapshot)) }
    | _ => none
  | .startDelete => match s.call with
    | .running types retried .begun => some
      { s with call := .running types retried (.deletingAll (s.table.rows.map Prod.fst) []) }
    | .running types retried (.copied snapshot keep) => some
      { s with
        call := .running types retried
          (.deleting snapshot keep (snapshot.rows.map Prod.fst) []) }
    | _ => none
  | .deleteRow k =>
    if (s.inFlight.get k).isSome then none
    else
      match s.call with
      | .running types retried (.deletingAll remaining deleted) =>
        if k ∈ remaining then some
          { s with
            call := .running types retried (.deletingAll (remaining.erase k) (k :: deleted)) }
        else none
      | .running types retried (.deleting snapshot keep remaining deleted) =>
        if k ∈ remaining then
          some (s.deleteSnapshotRow types retried snapshot keep remaining deleted k)
        else none
      | _ => none
  | .restore => match s.call with
    | .running types retried (.deleting _ keep [] deleted) => some
      { s with call := .running types retried (.restored keep deleted) }
    | _ => none
  | .commitDelete => match s.call with
    | .running _ _ (.deletingAll [] deleted) => some
      { s with
        table := s.table.filter fun k _ => k ∉ deleted
        commits := s.commits + 1
        call := .returned deleted.length 0 }
    | .running _ _ (.restored keep deleted) => some
      { s with
        table := Table.upsert (fun _ new => new) (s.written keep)
          (s.table.filter fun k _ => k ∉ deleted)
        commits := s.commits + 1
        call := .returned (deleted.length - keep.rows.length) keep.rows.length }
    | _ => none
  | .fail => match s.call with
    | .running _ _ _ => some { s with call := .failed }
    | _ => none
  | .retry => match s.call with
    | .waiting types => some { s with call := .running types true (beginDelete types s.table) }
    | _ => none

end Step

/-! ## Rows of other sources -/

/-- The last row for a key that a writer has committed is there, unless it is of a performance
    test. -/
def KeepsOtherSources (sourceTypes : ι → Option String) (s : MetricsDatabase ι κ ν) : Prop :=
  ∀ k row, s.lastCommitted.get k = some row → row.isPerformanceTest sourceTypes = false →
    (s.table.get k).map RowVersion.row = some row

/-- The event does not bring rows of other sources under a deletion that preserves none: there
    are none as its statement begins, and none is committed over a row that it has yet to delete. -/
def undisturbed (sourceTypes : ι → Option String) (s : MetricsDatabase ι κ ν) :
    MetricsEvent ι κ ν → Bool
  | .startDelete => match s.call with
    | .running _ _ .begun =>
      s.table.rows.all fun row => row.2.row.isPerformanceTest sourceTypes
    | _ => true
  | .commit writer => match s.call with
    | .running _ _ (.deletingAll remaining _) => remaining.all fun k =>
      ((s.writesOf writer).get k).all fun row => row.isPerformanceTest sourceTypes
    | _ => true
  | _ => true

/-- What holds of a transaction, given what is committed. -/
def TxInv (sourceTypes : ι → Option String) (table : Table κ (RowVersion ι ν)) :
    DeleteTx ι κ ν → Prop
  | .begun => True
  | .deletingAll remaining deleted => ∀ k, k ∈ remaining ∨ k ∈ deleted →
    ∀ version, table.get k = some version → version.row.isPerformanceTest sourceTypes = true
  | .snapshotTaken _ => True
  | .copied snapshot keep => keep = survivors sourceTypes snapshot
  | .deleting snapshot keep remaining deleted => keep = survivors sourceTypes snapshot ∧
    (∀ k version, snapshot.get k = some version → k ∈ remaining ∨ k ∈ deleted) ∧
    ∀ k ∈ deleted, table.get k = snapshot.get k
  | .restored keep deleted => ∀ k,
    (k ∈ deleted → keep.get k = ((table.get k).map RowVersion.row).filter
      fun row => !row.isPerformanceTest sourceTypes) ∧
    (k ∉ deleted → keep.get k = none)

/-- What holds of a call. -/
def CallInv (sourceTypes : ι → Option String) (table : Table κ (RowVersion ι ν)) :
    DeleteCall ι κ ν → Prop
  | .running _ _ tx => TxInv sourceTypes table tx
  | _ => True

/-- No row of another source is lost, no one writes a row that is deleted, and the transaction
    deletes rows of performance tests or those that it restores. -/
structure Inv (sourceTypes : ι → Option String) (s : MetricsDatabase ι κ ν) : Prop where
  keeps : s.KeepsOtherSources sourceTypes
  locked : ∀ k ∈ s.call.deleted, s.inFlight.get k = none
  call : CallInv sourceTypes s.table s.call

section Inv

variable {sourceTypes : ι → Option String} {s s' : MetricsDatabase ι κ ν}
  {e : MetricsEvent ι κ ν}

theorem inv_initial : Inv sourceTypes (initial : MetricsDatabase ι κ ν) :=
  ⟨fun _ _ h => absurd h (by rw [initial, Table.get_empty]; simp),
    fun _ hk => absurd hk List.not_mem_nil, trivial⟩

theorem get_survivors (snapshot : Table κ (RowVersion ι ν)) (k : κ) :
    (survivors sourceTypes snapshot).get k = ((snapshot.get k).map RowVersion.row).filter
      fun row => !row.isPerformanceTest sourceTypes := by
  rw [survivors, Table.get_filter, Table.get_mapRows]

/-- What a commit leaves of a key. -/
theorem get_commit (rows : Table κ (SourcedRow ι ν)) (k : κ) :
    (Table.upsert (fun _ new => new) (s.written rows) s.table).get k =
      ((rows.get k).map fun row => ⟨row, s.commits⟩).or (s.table.get k) := by
  rw [Table.get_upsert, written, Table.get_mapRows]
  cases rows.get k with
  | none => rfl
  | some row => cases s.table.get k <;> rfl

theorem get_lastCommitted (rows : Table κ (SourcedRow ι ν)) (k : κ) :
    (Table.upsert (fun _ new => new) rows s.lastCommitted).get k =
      (rows.get k).or (s.lastCommitted.get k) := by
  rw [Table.get_upsert]
  cases rows.get k with
  | none => rfl
  | some row => cases s.lastCommitted.get k <;> rfl

/-- Only rows in flight are written. -/
theorem get_writesOf_eq_none {writer : ℕ} {k : κ} (h : s.inFlight.get k = none) :
    (s.writesOf writer).get k = none := by
  rw [writesOf, Table.get_mapRows, Table.get_filter, h]
  rfl

/-- A commit leaves the rows that the transaction has deleted. -/
theorem get_commit_deleted (h : s.Inv sourceTypes) {writer : ℕ} {k : κ} (hk : k ∈ s.call.deleted) :
    (Table.upsert (fun _ new => new) (s.written (s.writesOf writer)) s.table).get k =
      s.table.get k := by
  rw [get_commit, get_writesOf_eq_none (h.locked k hk)]
  rfl

/-- A commit keeps what holds of the call. -/
theorem callInv_commit (h : s.Inv sourceTypes) {writer : ℕ}
    (hok : s.undisturbed sourceTypes (.commit writer) = true) :
    CallInv sourceTypes
      (Table.upsert (fun _ new => new) (s.written (s.writesOf writer)) s.table) s.call := by
  have hdeleted := fun k => @get_commit_deleted _ _ _ _ _ _ h writer k
  have hcall := h.call
  rw [undisturbed] at hok
  cases hs : s.call with
  | running types retried tx =>
    rw [hs] at hok hdeleted hcall
    cases tx with
    | begun => trivial
    | snapshotTaken snapshot => trivial
    | copied snapshot keep => exact hcall
    | deletingAll remaining deleted =>
      intro k hk version hversion
      by_cases hmem : k ∈ deleted
      · rw [hdeleted k hmem] at hversion
        exact hcall k hk version hversion
      · rw [get_commit] at hversion
        cases hwrite : (s.writesOf writer).get k with
        | none =>
          rw [hwrite] at hversion
          exact hcall k hk version hversion
        | some row =>
          rw [hwrite] at hversion
          obtain rfl := Option.some.inj hversion
          have hall := List.all_eq_true.1 hok k (hk.resolve_right hmem)
          rw [hwrite] at hall
          exact hall
    | deleting snapshot keep remaining deleted =>
      refine ⟨hcall.1, hcall.2.1, fun k hk => ?_⟩
      rw [hdeleted k hk]
      exact hcall.2.2 k hk
    | restored keep deleted =>
      refine fun k => ⟨fun hk => ?_, (hcall k).2⟩
      rw [hdeleted k hk]
      exact (hcall k).1 hk
  | _ => trivial

/-- A commit keeps the rows of other sources. -/
theorem keepsOtherSources_commit (h : s.KeepsOtherSources sourceTypes) (writer : ℕ) (k : κ)
    (row : SourcedRow ι ν) (hlast : (Table.upsert (fun _ new => new) (s.writesOf writer)
      s.lastCommitted).get k = some row) (hother : row.isPerformanceTest sourceTypes = false) :
    ((Table.upsert (fun _ new => new) (s.written (s.writesOf writer)) s.table).get k).map
      RowVersion.row = some row := by
  rw [get_lastCommitted] at hlast
  rw [get_commit]
  cases hwrite : (s.writesOf writer).get k with
  | none =>
    rw [hwrite] at hlast
    exact h k row hlast hother
  | some new =>
    rw [hwrite] at hlast
    exact hlast

/-- A transaction that commits keeps the rows of other sources. -/
theorem keepsOtherSources_commitDelete (h : s.KeepsOtherSources sourceTypes)
    {keep : Table κ (SourcedRow ι ν)} {deleted : List κ}
    (hkeep : TxInv sourceTypes s.table (.restored keep deleted)) (k : κ) (row : SourcedRow ι ν)
    (hlast : s.lastCommitted.get k = some row) (hother : row.isPerformanceTest sourceTypes = false) :
    ((Table.upsert (fun _ new => new) (s.written keep) (s.table.filter fun k _ => k ∉ deleted)).get
      k).map RowVersion.row = some row := by
  have hrow := h k row hlast hother
  rw [Table.get_upsert, written, Table.get_mapRows, Table.get_filter]
  by_cases hk : k ∈ deleted
  · have hrestored : keep.get k = some row := by
      rw [(hkeep k).1 hk, hrow, Option.filter_some, if_pos (by rw [hother]; rfl)]
    rw [hrestored]
    cases (s.table.get k).filter _ <;> rfl
  · rw [(hkeep k).2 hk]
    cases hversion : s.table.get k with
    | none =>
      rw [hversion] at hrow
      cases hrow
    | some version =>
      rw [hversion] at hrow
      rw [Option.filter_some, if_pos (decide_eq_true hk)]
      exact hrow

end Inv

section Runs

variable {sourceTypes : ι → Option String} {s s' : MetricsDatabase ι κ ν}
  {e : MetricsEvent ι κ ν}

/-- A step of the call that leaves the table keeps the invariant. -/
theorem Inv.of_call (h : s.Inv sourceTypes) {call : DeleteCall ι κ ν}
    (hlocked : ∀ k ∈ call.deleted, s.inFlight.get k = none)
    (hcall : CallInv sourceTypes s.table call) : Inv sourceTypes { s with call } :=
  ⟨h.keeps, hlocked, hcall⟩

theorem inv_begin (h : s.Inv sourceTypes) (types : List String) (retried : Bool) :
    Inv sourceTypes { s with call := .running types retried (beginDelete types s.table) } := by
  rw [beginDelete]
  split
  · exact h.of_call (fun k hk => absurd hk List.not_mem_nil) trivial
  · exact h.of_call (fun k hk => absurd hk List.not_mem_nil) trivial

theorem inv_startDelete (h : s.Inv sourceTypes) {types : List String} {retried : Bool}
    {snapshot : Table κ (RowVersion ι ν)} {keep : Table κ (SourcedRow ι ν)}
    (hs : s.call = .running types retried (.copied snapshot keep)) :
    Inv sourceTypes
      { s with
        call := .running types retried
          (.deleting snapshot keep (snapshot.rows.map Prod.fst) []) } := by
  have hcall := h.call
  rw [hs] at hcall
  refine h.of_call (fun k hk => absurd hk List.not_mem_nil) ⟨hcall, fun k version hversion => ?_,
    fun k hk => absurd hk List.not_mem_nil⟩
  exact .inl (List.mem_map.2 ⟨(k, version), Table.mem_rows.2 hversion, rfl⟩)

/-- A statement that deletes by itself begins with rows of performance tests only. -/
theorem inv_startDelete_all (h : s.Inv sourceTypes) (types : List String) (retried : Bool)
    (hok : s.table.rows.all (fun row => row.2.row.isPerformanceTest sourceTypes) = true) :
    Inv sourceTypes
      { s with
        call := .running types retried (.deletingAll (s.table.rows.map Prod.fst) []) } := by
  refine h.of_call (fun k hk => absurd hk List.not_mem_nil) fun k _ version hversion => ?_
  exact List.all_eq_true.1 hok (k, version) (Table.mem_rows.2 hversion)

theorem locked_cons (h : s.Inv sourceTypes) {k : κ} (hfree : s.inFlight.get k = none)
    {deleted : List κ} (hdeleted : deleted = s.call.deleted) :
    ∀ k' ∈ k :: deleted, s.inFlight.get k' = none := by
  subst hdeleted
  rintro k' hk'
  rcases List.mem_cons.1 hk' with rfl | hk'
  · exact hfree
  · exact h.locked k' hk'

theorem inv_deleteRow_all (h : s.Inv sourceTypes) {types : List String} {retried : Bool}
    {remaining deleted : List κ} (hs : s.call = .running types retried (.deletingAll remaining deleted))
    {k : κ} (hfree : s.inFlight.get k = none) (hk : k ∈ remaining) :
    Inv sourceTypes
      { s with
        call := .running types retried (.deletingAll (remaining.erase k) (k :: deleted)) } := by
  have hcall := h.call
  rw [hs] at hcall
  refine h.of_call (locked_cons h hfree (by rw [hs]; rfl)) fun k' hk' => ?_
  refine hcall k' ?_
  rcases hk' with hk' | hk'
  · exact .inl (List.mem_of_mem_erase hk')
  · rcases List.mem_cons.1 hk' with rfl | hk'
    · exact .inl hk
    · exact .inr hk'

theorem inv_restore (h : s.Inv sourceTypes) {types : List String} {retried : Bool}
    {snapshot : Table κ (RowVersion ι ν)} {keep : Table κ (SourcedRow ι ν)} {deleted : List κ}
    (hs : s.call = .running types retried (.deleting snapshot keep [] deleted)) :
    Inv sourceTypes { s with call := .running types retried (.restored keep deleted) } := by
  have hcall := h.call
  rw [hs] at hcall
  obtain ⟨rfl, hall, hdeleted⟩ := hcall
  refine h.of_call (fun k hk => h.locked k (by rw [hs]; exact hk)) fun k => ⟨fun hk => ?_,
    fun hk => ?_⟩
  · rw [get_survivors, hdeleted k hk]
  · have hnone : snapshot.get k = none := by
      by_contra hne
      obtain ⟨version, hversion⟩ := Option.ne_none_iff_exists'.1 hne
      exact (hall k version hversion).elim List.not_mem_nil hk
    rw [get_survivors, hnone]
    rfl

theorem inv_commitDelete_all (h : s.Inv sourceTypes) {types : List String} {retried : Bool}
    {deleted : List κ} (hs : s.call = .running types retried (.deletingAll [] deleted))
    (commits : ℕ) (counts : ℕ × ℕ) :
    Inv sourceTypes
      { s with
        table := s.table.filter fun k _ => k ∉ deleted
        commits
        call := .returned counts.1 counts.2 } := by
  have hcall := h.call
  rw [hs] at hcall
  refine ⟨fun k row hlast hother => ?_, fun k hk => absurd hk List.not_mem_nil, trivial⟩
  have hrow := h.keeps k row hlast hother
  obtain ⟨version, hversion, rfl⟩ := Option.map_eq_some_iff.1 hrow
  have hk : k ∉ deleted := by
    intro hk
    rw [hcall k (.inr hk) version hversion] at hother
    cases hother
  change ((s.table.filter fun k _ => k ∉ deleted).get k).map RowVersion.row = _
  rw [Table.get_filter, hversion, Option.filter_some, if_pos (decide_eq_true hk)]
  rfl

variable [DecidableEq ι] [DecidableEq ν]

theorem inv_deleteSnapshotRow (h : s.Inv sourceTypes) {types : List String} {retried : Bool}
    {snapshot : Table κ (RowVersion ι ν)} {keep : Table κ (SourcedRow ι ν)}
    {remaining deleted : List κ}
    (hs : s.call = .running types retried (.deleting snapshot keep remaining deleted)) {k : κ}
    (hfree : s.inFlight.get k = none) :
    Inv sourceTypes (s.deleteSnapshotRow types retried snapshot keep remaining deleted k) := by
  have hcall := h.call
  rw [hs] at hcall
  obtain ⟨hkeep, hall, hdeleted⟩ := hcall
  rw [deleteSnapshotRow]
  split
  · rename_i hsame
    refine h.of_call (locked_cons h hfree (by rw [hs]; rfl)) ⟨hkeep, fun k' version hversion => ?_,
      fun k' hk' => ?_⟩
    · by_cases hk' : k' = k
      · exact .inr (hk' ▸ List.mem_cons_self)
      · rcases hall k' version hversion with hmem | hmem
        · exact .inl ((List.mem_erase_of_ne hk').2 hmem)
        · exact .inr (List.mem_cons_of_mem _ hmem)
    · rcases List.mem_cons.1 hk' with rfl | hk'
      · exact hsame
      · exact hdeleted k' hk'
  · split
    · exact h.of_call (fun k hk => absurd hk List.not_mem_nil) trivial
    · exact h.of_call (fun k hk => absurd hk List.not_mem_nil) trivial

/-- An undisturbed step keeps the invariant. -/
theorem inv_step (h : s.Inv sourceTypes) (hok : s.undisturbed sourceTypes e = true)
    (hstep : s.step sourceTypes e = some s') : s'.Inv sourceTypes := by
  have hover : ∀ {call : DeleteCall ι κ ν}, call.deleted = [] → CallInv sourceTypes s.table call →
      Inv sourceTypes { s with call } :=
    fun hnil hcall => h.of_call (fun k hk => absurd (hnil ▸ hk) List.not_mem_nil) hcall
  cases e with
  | upsert writer k row =>
    rw [step] at hstep
    split at hstep
    · rename_i hguard
      obtain rfl := Option.some.inj hstep
      refine ⟨h.keeps, fun k' hk' => ?_, h.call⟩
      have hne : k' ≠ k := fun heq => hguard.1 (heq ▸ hk')
      exact (Table.get_set k _ s.inFlight k').trans ((if_neg hne).trans (h.locked k' hk'))
    · cases hstep
  | commit writer =>
    obtain rfl := Option.some.inj hstep
    refine ⟨keepsOtherSources_commit h.keeps writer, fun k hk => ?_, callInv_commit h hok⟩
    exact (Table.get_filter _ s.inFlight k).trans (by rw [h.locked k hk]; rfl)
  | rollback writer =>
    obtain rfl := Option.some.inj hstep
    refine ⟨h.keeps, fun k hk => ?_, h.call⟩
    exact (Table.get_filter _ s.inFlight k).trans (by rw [h.locked k hk]; rfl)
  | probe =>
    rw [step] at hstep
    split at hstep
    · obtain rfl := Option.some.inj hstep
      exact hover rfl trivial
    · cases hstep
  | begin =>
    rw [step] at hstep
    split at hstep
    · obtain rfl := Option.some.inj hstep
      exact inv_begin h _ _
    · cases hstep
  | copy =>
    rw [step] at hstep
    split at hstep
    · obtain rfl := Option.some.inj hstep
      exact hover rfl rfl
    · cases hstep
  | startDelete =>
    rw [step] at hstep
    split at hstep
    · rename_i hs
      obtain rfl := Option.some.inj hstep
      rw [undisturbed, hs] at hok
      exact inv_startDelete_all h _ _ hok
    · rename_i hs
      obtain rfl := Option.some.inj hstep
      exact inv_startDelete h hs
    · cases hstep
  | deleteRow k =>
    rw [step] at hstep
    split at hstep
    · cases hstep
    · rename_i hsome
      have hfree : s.inFlight.get k = none := Option.not_isSome_iff_eq_none.1 hsome
      split at hstep
      · rename_i hs
        split at hstep
        · rename_i hk
          obtain rfl := Option.some.inj hstep
          exact inv_deleteRow_all h hs hfree hk
        · cases hstep
      · rename_i hs
        split at hstep
        · obtain rfl := Option.some.inj hstep
          exact inv_deleteSnapshotRow h hs hfree
        · cases hstep
      · cases hstep
  | restore =>
    rw [step] at hstep
    split at hstep
    · rename_i hs
      obtain rfl := Option.some.inj hstep
      exact inv_restore h hs
    · cases hstep
  | commitDelete =>
    rw [step] at hstep
    split at hstep
    · rename_i hs
      obtain rfl := Option.some.inj hstep
      exact inv_commitDelete_all h hs _ (_, _)
    · rename_i hs
      obtain rfl := Option.some.inj hstep
      have hcall := h.call
      rw [hs] at hcall
      exact ⟨keepsOtherSources_commitDelete h.keeps hcall, fun k hk => absurd hk List.not_mem_nil,
        trivial⟩
    · cases hstep
  | fail =>
    rw [step] at hstep
    split at hstep
    · obtain rfl := Option.some.inj hstep
      exact hover rfl trivial
    · cases hstep
  | retry =>
    rw [step] at hstep
    split at hstep
    · obtain rfl := Option.some.inj hstep
      exact inv_begin h _ _
    · cases hstep

/-- Along a run whose steps are all undisturbed no row of another source is lost: each is there
    as it was last committed. -/
theorem run_keepsOtherSources {es : List (MetricsEvent ι κ ν)}
    (h : Run (step sourceTypes) (fun s e => s.undisturbed sourceTypes e = true) initial es s) :
    s.KeepsOtherSources sourceTypes :=
  (h.state_invariant inv_initial fun _ _ _ hinv hok hstep => inv_step hinv hok hstep).keeps

end Runs

/-! ## Examples -/

/-- Source 0 is the performance test. -/
def twoSources (source : ℕ) : Option String :=
  if source = 0 then some "performance_test" else some "grafana"

/-- A run with a row of the performance test is deleted while another source writes: a new row
    before the statement begins or after. -/
def deletionWith (before after : List (MetricsEvent ℕ ℕ ℕ)) : List (MetricsEvent ℕ ℕ ℕ) :=
  [.upsert 1 0 ⟨some 0, 10⟩, .commit 1, .probe] ++ before ++ [.begin, .startDelete] ++ after ++
    [.deleteRow 0, .commitDelete]

theorem run_keepsOtherSources_after : ∃ s : MetricsDatabase ℕ ℕ ℕ,
    Run (step twoSources) (fun s e => s.undisturbed twoSources e = true) initial
      (deletionWith [] [.upsert 2 1 ⟨some 1, 20⟩, .commit 2]) s ∧
      (s.lastCommitted.get 1).isSome = true ∧ s.KeepsOtherSources twoSources := by
  have htest : ((deletionWith [] [.upsert 2 1 ⟨some 1, 20⟩, .commit 2]).foldlM
      (Run.checked (step twoSources) fun s e => s.undisturbed twoSources e = true) initial).any
        (fun s => (s.lastCommitted.get 1).isSome) = true := by decide +kernel
  obtain ⟨s, hrun, hsome⟩ := Run.exists_of_checked htest
  exact ⟨s, hrun, hsome, run_keepsOtherSources hrun⟩

/-- A row that another source commits after the types of the sources have been read is
    deleted. -/
theorem not_keepsOtherSources_before : ∃ (es : List (MetricsEvent ℕ ℕ ℕ))
    (s : MetricsDatabase ℕ ℕ ℕ), Run (step twoSources) (fun _ _ => True) initial es s ∧
      ¬s.KeepsOtherSources twoSources := by
  have htest : ((deletionWith [.upsert 2 1 ⟨some 1, 20⟩, .commit 2] [.deleteRow 1]).foldlM
      (Run.checked (step twoSources) fun _ _ => True) initial).any
        (fun s => s.lastCommitted.get 1 = some ⟨some 1, 20⟩ && (s.table.get 1).isNone) = true := by
    decide +kernel
  obtain ⟨s, hrun, hlost⟩ := Run.exists_of_checked htest
  refine ⟨_, s, hrun, fun h => ?_⟩
  rw [Bool.and_eq_true, decide_eq_true_eq, Option.isNone_iff_eq_none] at hlost
  have hrow := h 1 _ hlost.1 (by decide)
  rw [hlost.2] at hrow
  cases hrow

end MetricsDatabase

end Perfana
