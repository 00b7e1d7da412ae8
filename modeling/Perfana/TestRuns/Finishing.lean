import Mathlib.Algebra.Order.Ring.Int
import Perfana.Lib.Run
import Perfana.Lib.Table

/-!
# How a run is finished

A run is finished by the update that says so, by an abort, or by the pass that looks for
runs that have gone stale. Each of them reads the run, checks it, and writes it later, and
the last to have written it has an analysis enqueued. An update does not look again at the
run before it writes.

* `RunService.Inv.step`: a step keeps a run finished, and what was aborted or is stale
  completed, unless an update writes over a run that has been completed since, or creates
  a run as aborted but not completed;
* `RunService.run_finished`: so does a run of such steps, and it has an analysis enqueued;
* `RunService.not_finished_reopened`: an update that was read before an abort reopens the run.
-/

namespace Perfana

/-- The columns of a run that say whether it is over. -/
structure RunRow where
  completed : Bool
  abort : Bool
  abortMessage : Option String
  isStale : Bool
  staleDetectedAt : Option ℤ
  endTime : Option ℤ
  updatedAt : ℤ
deriving DecidableEq

/-- The columns that a saved entity has changed. -/
structure RunChanges where
  completed : Option Bool
  abort : Option Bool
  abortMessage : Option (Option String)
  isStale : Option Bool
  staleDetectedAt : Option (Option ℤ)
  endTime : Option (Option ℤ)
deriving DecidableEq

/-- What an update says. -/
structure UpdateRunningTestDto where
  completed : Bool
  abort : Bool
  finish : Option ℤ
deriving DecidableEq

/-- How far an update is. -/
inductive UpdatePhase
  | started
  /-- There was no run, and one is to be created. -/
  | creating
  /-- There was a run that had not completed. -/
  | updating
  /-- The run has been read once more. -/
  | writing (before : Option RunRow)
  /-- The run is to be read for the response. -/
  | written
deriving DecidableEq

/-- How far an abort is. -/
inductive AbortPhase
  | started
  /-- The entity is changed, and to be saved. -/
  | saving (entity : RunRow)
  /-- What it has changed is known, and to be written. -/
  | writing (changes : RunChanges)
deriving DecidableEq

/-- How far a pass for stale runs is. -/
inductive StalePhase
  | started
  /-- The run was found to be stale. -/
  | marking (found : RunRow)
deriving DecidableEq

/-- A call that concerns the run. -/
inductive RunCall
  | update (dto : UpdateRunningTestDto) (phase : UpdatePhase)
  | abort (userIdentifier : String) (phase : AbortPhase)
  | detectStale (phase : StalePhase)
  /-- An analysis is to be enqueued. -/
  | handleCompleted
deriving DecidableEq

/-- A run, and the calls that concern it. -/
structure RunService where
  /-- The row of the run, once it is created. -/
  row : Option RunRow := none
  calls : Table ℕ RunCall := .empty
  now : ℤ := 0
  /-- The analyses of the run that were enqueued. -/
  analyses : ℕ := 0
  /-- The run has been written as completed. -/
  finished : Bool := false

/-- What may happen next. -/
inductive RunServiceStep
  | clock (now : ℤ)
  | updateRunningTest (id : ℕ) (dto : UpdateRunningTestDto)
  | abortTestRun (id : ℕ) (userIdentifier : String)
  | detectAndMarkStale (id : ℕ)
  /-- A call takes its next step. -/
  | go (id : ℕ)
deriving DecidableEq

/-- What a column is set to, if it is not that already. -/
def changed {α : Type*} [DecidableEq α] (new old : α) : Option α :=
  if new = old then none else some new

/-- The columns in which an entity differs from the row. -/
def RunRow.changes (entity row : RunRow) : RunChanges where
  completed := changed entity.completed row.completed
  abort := changed entity.abort row.abort
  abortMessage := changed entity.abortMessage row.abortMessage
  isStale := changed entity.isStale row.isStale
  staleDetectedAt := changed entity.staleDetectedAt row.staleDetectedAt
  endTime := changed entity.endTime row.endTime

/-- The row with the changes written to it. -/
def RunChanges.write (changes : RunChanges) (row : RunRow) (now : ℤ) : RunRow :=
  if changes = ⟨none, none, none, none, none, none⟩ then row
  else
    { completed := changes.completed.getD row.completed
      abort := changes.abort.getD row.abort
      abortMessage := changes.abortMessage.getD row.abortMessage
      isStale := changes.isStale.getD row.isStale
      staleDetectedAt := changes.staleDetectedAt.getD row.staleDetectedAt
      endTime := changes.endTime.getD row.endTime
      updatedAt := now }

namespace RunService

variable (staleTimeoutMs : ℤ) (st : RunService)

/-- The row is written. -/
def write (row : RunRow) : RunService :=
  { st with row := some row, finished := st.finished || row.completed }

/-- The row of a run that an update creates. -/
def created (dto : UpdateRunningTestDto) : RunRow where
  completed := dto.completed
  abort := dto.abort
  abortMessage := none
  isStale := false
  staleDetectedAt := none
  endTime := some st.now
  updatedAt := st.now

/-- The row as an update writes it. -/
def updated (dto : UpdateRunningTestDto) (before : Option RunRow) (row : RunRow) : RunRow :=
  { row with
    abort := if dto.abort then true else (before.map RunRow.abort).getD false
    completed := if dto.abort then true else dto.completed
    endTime := some (dto.finish.getD st.now)
    updatedAt := st.now }

/-- The entity as an abort changes it. -/
def aborted (userIdentifier : String) (entity : RunRow) : RunRow :=
  { entity with
    abort := true
    abortMessage := some ("Aborted manually by " ++ userIdentifier)
    endTime := some st.now
    completed := true }

/-- The run is taken to be stale. -/
def isStaleRun (row : RunRow) : Bool :=
  !row.completed && !row.isStale && !row.abort && decide (row.updatedAt < st.now - staleTimeoutMs)

/-- The row as the pass for stale runs marks it. -/
def marked (found row : RunRow) : RunRow :=
  { row with
    isStale := true
    staleDetectedAt := some st.now
    completed := true
    endTime := some (found.endTime.getD st.now)
    updatedAt := st.now }

/-- The next step of an update: it ends early if the run has completed, or another has
    created it. -/
def updateRunningTest (dto : UpdateRunningTestDto) : UpdatePhase → RunService × Option RunCall
  | .started =>
    match st.row with
    | none => (st, some (.update dto .creating))
    | some row => (st, if row.completed then none else some (.update dto .updating))
  | .creating =>
    match st.row with
    | none => (st.write (st.created dto), some (.update dto .written))
    | some _ => (st, none)
  | .updating => (st, some (.update dto (.writing st.row)))
  | .writing before =>
    match st.row with
    | none => (st, none)
    | some row => (st.write (st.updated dto before row), some (.update dto .written))
  | .written => (st, if st.row.any RunRow.completed then some .handleCompleted else none)

/-- The next step of an abort: it ends early if the run is over. -/
def abortTestRun (userIdentifier : String) : AbortPhase → RunService × Option RunCall
  | .started =>
    match st.row with
    | none => (st, none)
    | some entity =>
      (st, if entity.completed || entity.abort then none
        else some (.abort userIdentifier (.saving (st.aborted userIdentifier entity))))
  | .saving entity =>
    match st.row with
    | none => (st.write entity, some .handleCompleted)
    | some row => (st, some (.abort userIdentifier (.writing (entity.changes row))))
  | .writing changes =>
    match st.row with
    | none => (st, none)
    | some row => (st.write (changes.write row st.now), some .handleCompleted)

/-- The next step of a pass for stale runs. -/
def detectAndMarkStaleTestRuns : StalePhase → RunService × Option RunCall
  | .started =>
    match st.row.filter (st.isStaleRun staleTimeoutMs) with
    | none => (st, none)
    | some found => (st, some (.detectStale (.marking found)))
  | .marking found =>
    match st.row with
    | none => (st, some .handleCompleted)
    | some row => (st.write (st.marked found row), some .handleCompleted)

/-- What the next step of a call does, and what is left of the call. -/
def next : RunCall → RunService × Option RunCall
  | .update dto phase => st.updateRunningTest dto phase
  | .abort userIdentifier phase => st.abortTestRun userIdentifier phase
  | .detectStale phase => st.detectAndMarkStaleTestRuns staleTimeoutMs phase
  | .handleCompleted => ({ st with analyses := st.analyses + 1 }, none)

/-- A call is made. -/
def start (id : ℕ) (call : RunCall) : Option RunService := do
  guard (st.calls.get id = none)
  return { st with calls := st.calls.set id call }

/-- What is left of a call takes its place. -/
def settle (id : ℕ) (next : RunService × Option RunCall) : RunService :=
  { next.1 with
    calls := match next.2 with
      | none => next.1.calls.erase id
      | some call => next.1.calls.set id call }

/-- What a step leads to. -/
def step (st : RunService) : RunServiceStep → Option RunService
  | .clock now => some { st with now }
  | .updateRunningTest id dto => st.start id (.update dto .started)
  | .abortTestRun id userIdentifier => st.start id (.abort userIdentifier .started)
  | .detectAndMarkStale id => st.start id (.detectStale .started)
  | .go id => do
    let call ← st.calls.get id
    return settle id (st.next staleTimeoutMs call)

/-! ## What is to hold -/

/-- A run that is finished stays so, and an analysis of it is enqueued. -/
structure Finished (st : RunService) : Prop where
  stays : st.finished = true → ∃ row ∈ st.row, row.completed = true
  /-- A run is not left aborted or stale, but not completed. -/
  completed_of_over : st.calls.rows = [] →
    ∀ row ∈ st.row, row.abort = true ∨ row.isStale = true → row.completed = true
  analysed : st.calls.rows = [] → st.finished = true → st.analyses ≠ 0

/-- An update does not write a run as running that has been completed since the update has
    read it, and does not create one as aborted but not completed. -/
def TimelyCall (row : Option RunRow) : RunCall → Prop
  | .update dto (.writing _) => row.any RunRow.completed → dto.abort ∨ dto.completed
  | .update dto .creating => dto.abort → dto.completed
  | .update _ _ | .abort _ _ | .detectStale _ | .handleCompleted => True

instance (row : Option RunRow) : DecidablePred (TimelyCall row)
  | .update _ (.writing _) => inferInstanceAs (Decidable (_ → _ ∨ _))
  | .update _ .creating => inferInstanceAs (Decidable (_ → _))
  | .update _ .started | .update _ .updating | .update _ .written | .abort _ _ | .detectStale _
  | .handleCompleted => isTrue trivial

/-- The calls take their steps in time. -/
def Timely (st : RunService) : RunServiceStep → Prop
  | .go id => ∀ call ∈ st.calls.get id, TimelyCall st.row call
  | _ => True

instance (st : RunService) : DecidablePred (Timely st)
  | .go id => inferInstanceAs (Decidable (∀ call ∈ st.calls.get id, TimelyCall st.row call))
  | .clock _ | .updateRunningTest _ _ | .abortTestRun _ _ | .detectAndMarkStale _ =>
    isTrue trivial

/-- A call is going to have an analysis enqueued, if the run is completed. -/
def announces : RunCall → Bool
  | .update _ .written | .handleCompleted => true
  | .update _ _ | .abort _ _ | .detectStale _ => false

/-- What is still to be written as over is written as completed, or the run is finished. -/
def Completes (finished : Bool) : RunCall → Prop
  | .update _ (.writing before) => ∀ row ∈ before, row.abort = true → finished = true
  | .abort _ (.saving entity) => entity.completed = true
  | .abort _ (.writing changes) =>
    changes.completed = some true ∨ changes.completed = none ∧ finished = true
  | .abort _ .started | .update _ _ | .detectStale _ | .handleCompleted => True

/-- The row is finished if it was ever, and so if it is over. -/
structure RowInv (st : RunService) : Prop where
  finished_eq : st.finished = st.row.any RunRow.completed
  completed_of_over : ∀ row ∈ st.row, row.abort = true ∨ row.isStale = true → row.completed = true

/-- What the calls rely on. -/
structure Inv (st : RunService) : Prop extends RowInv st where
  completes : ∀ id call, st.calls.get id = some call → Completes st.finished call
  analysed : st.finished = true →
    st.analyses ≠ 0 ∨ ∃ id call, st.calls.get id = some call ∧ announces call = true

variable {staleTimeoutMs} {st}

theorem Completes.mono {finished finished' : Bool} (h : finished = true → finished' = true)
    {call : RunCall} (hcall : Completes finished call) : Completes finished' call := by
  cases call with
  | abort userIdentifier phase =>
    cases phase with
    | writing changes => exact hcall.imp id fun hnone => ⟨hnone.1, h hnone.2⟩
    | started => trivial
    | saving entity => exact hcall
  | update dto phase =>
    cases phase with
    | writing before => exact fun row hrow habort => h (hcall row hrow habort)
    | _ => trivial
  | detectStale phase => trivial
  | handleCompleted => trivial

/-- A run that is over is finished. -/
theorem RowInv.finished_of_over (h : RowInv st) {row : RunRow} (hrow : row ∈ st.row)
    (hover : row.abort = true ∨ row.isStale = true) : st.finished = true := by
  rw [h.finished_eq]
  exact (Option.any_eq_true _ _).2 ⟨row, hrow, h.completed_of_over row hrow hover⟩

/-- A finished run is completed. -/
theorem RowInv.completed (h : RowInv st) {row : RunRow} (hrow : row ∈ st.row)
    (hfin : st.finished = true) : row.completed = true := by
  rw [h.finished_eq] at hfin
  obtain ⟨row', hrow', hcompleted⟩ := (Option.any_eq_true _ _).1 hfin
  rwa [Option.mem_unique hrow hrow']

/-- A row that is written leaves the run finished, if it was. -/
theorem RowInv.write {row : RunRow}
    (hstays : st.finished = true → row.completed = true)
    (hover : row.abort = true ∨ row.isStale = true → row.completed = true) :
    RowInv (st.write row) where
  finished_eq := by
    change (st.finished || row.completed) = row.completed
    cases hfin : st.finished with
    | false => rfl
    | true => rw [hstays hfin]; rfl
  completed_of_over := by
    rintro _ ⟨⟩
    exact hover

theorem completed_write (changes : RunChanges) (row : RunRow) (now : ℤ) :
    (changes.write row now).completed = changes.completed.getD row.completed := by
  rw [RunChanges.write]
  split
  · rename_i hnone
    rw [hnone]
    rfl
  · rfl

/-- What the next step of a call leads to. -/
structure NextInv (st : RunService) (call : RunCall) (next : RunService × Option RunCall) :
    Prop extends RowInv next.1 where
  calls_eq : next.1.calls = st.calls
  stays : st.finished = true → next.1.finished = true
  completes : ∀ call' ∈ next.2, Completes next.1.finished call'
  /-- The analysis of the run was or is to be enqueued, by this call or as before. -/
  analysed : next.1.finished = true → next.1.analyses ≠ 0 ∨
    (∃ call' ∈ next.2, announces call' = true) ∨ st.finished = true ∧ announces call = false
  analyses_le : st.analyses ≤ next.1.analyses

/-- A step that writes nothing. -/
theorem RowInv.nextInv (h : RowInv st) {call : RunCall} (hcall : announces call = false)
    {rest : Option RunCall} (hrest : ∀ call' ∈ rest, Completes st.finished call') :
    NextInv st call (st, rest) :=
  { h with
    calls_eq := rfl
    stays := id
    completes := hrest
    analysed := fun hfin => .inr (.inr ⟨hfin, hcall⟩)
    analyses_le := le_rfl }

/-- A step that writes the row, and is followed by the analysis. -/
theorem nextInv_write {call call' : RunCall} {row : RunRow}
    (hstays : st.finished = true → row.completed = true)
    (hover : row.abort = true ∨ row.isStale = true → row.completed = true)
    (hcall' : announces call' = true) (hcompletes : Completes (st.write row).finished call') :
    NextInv st call (st.write row, some call') :=
  { RowInv.write hstays hover with
    calls_eq := rfl
    stays := fun hfin => by
      change (st.finished || row.completed) = true
      rw [hfin]
      rfl
    completes := by
      rintro _ ⟨⟩
      exact hcompletes
    analysed := fun _ => .inr (.inl ⟨call', rfl, hcall'⟩)
    analyses_le := le_rfl }

theorem Inv.updateRunningTest (h : Inv st) {dto : UpdateRunningTestDto} {phase : UpdatePhase}
    (hcall : Completes st.finished (.update dto phase))
    (hok : TimelyCall st.row (.update dto phase)) :
    NextInv st (.update dto phase) (st.updateRunningTest dto phase) := by
  rw [RunService.updateRunningTest.eq_def]
  cases phase with
  | started =>
    dsimp only
    split
    · exact h.nextInv rfl (by rintro _ ⟨⟩; trivial)
    · refine h.nextInv rfl fun call' hcall' => ?_
      split at hcall'
      · cases hcall'
      · obtain rfl := Option.some.inj hcall'
        trivial
  | creating =>
    dsimp only
    split
    · rename_i hrow
      refine nextInv_write (fun hfin => ?_) (fun hover => ?_) rfl trivial
      · rw [h.finished_eq, hrow] at hfin
        cases hfin
      · rcases hover with habort | hstale
        · exact hok habort
        · cases hstale
    · exact h.nextInv rfl (fun _ hnone => by cases hnone)
  | updating =>
    refine h.nextInv rfl ?_
    rintro _ ⟨⟩ row hrow habort
    exact h.finished_of_over hrow (.inl habort)
  | writing before =>
    dsimp only
    split
    · exact h.nextInv rfl (fun _ hnone => by cases hnone)
    · rename_i row hrow
      have hcompleted : (st.updated dto before row).completed = (dto.abort || dto.completed) := by
        rw [updated]
        cases dto.abort <;> rfl
      have hstays : st.finished = true → (st.updated dto before row).completed = true := by
        intro hfin
        rw [h.finished_eq] at hfin
        rw [hcompleted, Bool.or_eq_true]
        exact hok hfin
      refine nextInv_write hstays (fun hover => ?_) rfl trivial
      cases habort : dto.abort with
      | true => rw [hcompleted, habort]; rfl
      | false =>
        -- The row is over as it was when it was read last, or is stale.
        rcases hover with hbefore | hstale
        · cases before with
          | none => simp [updated, habort] at hbefore
          | some row' =>
            have hbefore' : row'.abort = true := by simpa [updated, habort] using hbefore
            exact hstays (hcall row' rfl hbefore')
        · exact hstays (h.finished_of_over hrow (.inr hstale))
  | written =>
    dsimp only
    exact
      { h with
        calls_eq := rfl
        stays := id
        completes := by
          intro call' hcall'
          split at hcall'
          · obtain rfl := Option.some.inj hcall'
            trivial
          · cases hcall'
        analysed := by
          intro hfin
          rw [if_pos (h.finished_eq.symm.trans hfin)]
          exact .inr (.inl ⟨_, rfl, rfl⟩)
        analyses_le := le_rfl }

theorem Inv.abortTestRun (h : Inv st) {userIdentifier : String} {phase : AbortPhase}
    (hcall : Completes st.finished (.abort userIdentifier phase)) :
    NextInv st (.abort userIdentifier phase) (st.abortTestRun userIdentifier phase) := by
  rw [RunService.abortTestRun.eq_def]
  cases phase with
  | started =>
    dsimp only
    split
    · exact h.nextInv rfl (fun _ hnone => by cases hnone)
    · refine h.nextInv rfl fun call' hcall' => ?_
      split at hcall'
      · cases hcall'
      · obtain rfl := Option.some.inj hcall'
        rfl
  | saving entity =>
    dsimp only
    split
    · exact nextInv_write (fun _ => hcall) (fun _ => hcall) rfl trivial
    · rename_i row hrow
      refine h.nextInv rfl ?_
      rintro _ ⟨⟩
      -- The entity is completed, so the row is, or the column is among the changes.
      cases hrowc : row.completed with
      | true =>
        refine .inr ⟨?_, ?_⟩
        · rw [RunRow.changes, changed, if_pos (hcall.trans hrowc.symm)]
        · rw [h.finished_eq]
          exact (Option.any_eq_true _ _).2 ⟨row, hrow, hrowc⟩
      | false =>
        refine .inl ?_
        rw [RunRow.changes, changed, hcall, hrowc]
        rfl
  | writing changes =>
    dsimp only
    split
    · exact h.nextInv rfl (fun _ hnone => by cases hnone)
    · rename_i row hrow
      have hcompleted : (changes.write row st.now).completed = true := by
        rw [completed_write]
        rcases hcall with hsome | ⟨hnone, hfin⟩
        · rw [hsome]
          rfl
        · rw [hnone]
          exact h.completed hrow hfin
      exact nextInv_write (fun _ => hcompleted) (fun _ => hcompleted) rfl trivial

theorem Inv.detectAndMarkStaleTestRuns (h : Inv st) (phase : StalePhase) :
    NextInv st (.detectStale phase) (st.detectAndMarkStaleTestRuns staleTimeoutMs phase) := by
  rw [RunService.detectAndMarkStaleTestRuns.eq_def]
  cases phase with
  | started =>
    dsimp only
    split
    · exact h.nextInv rfl (fun _ hnone => by cases hnone)
    · exact h.nextInv rfl (by rintro _ ⟨⟩; trivial)
  | marking found =>
    dsimp only
    split
    · exact h.nextInv rfl (by rintro _ ⟨⟩; trivial)
    · exact nextInv_write (fun _ => rfl) (fun _ => rfl) rfl trivial

/-- The next step of a call leads to what the calls rely on. -/
theorem Inv.next (h : Inv st) {id : ℕ} {call : RunCall} (hcall : st.calls.get id = some call)
    (hok : Timely st (.go id)) : NextInv st call (st.next staleTimeoutMs call) := by
  have hcompletes := h.completes id call hcall
  cases call with
  | update dto phase => exact h.updateRunningTest hcompletes (hok _ hcall)
  | abort userIdentifier phase => exact h.abortTestRun hcompletes
  | detectStale phase => exact h.detectAndMarkStaleTestRuns phase
  | handleCompleted =>
    exact
      { h with
        calls_eq := rfl
        stays := fun hfin => hfin
        completes := fun _ hnone => by cases hnone
        analysed := fun _ => .inl (Nat.succ_ne_zero _)
        analyses_le := Nat.le_succ _ }

/-- A new call relies on nothing. -/
theorem Inv.start (h : Inv st) (id : ℕ) (call : RunCall) (hcall : Completes st.finished call)
    {st' : RunService} (hstart : st.start id call = some st') : Inv st' := by
  simp only [RunService.start, Option.bind_eq_bind, Option.bind_eq_some_iff,
    Option.guard_eq_some', exists_const] at hstart
  obtain ⟨hnew, hst⟩ := hstart
  obtain rfl := Option.some.inj hst
  exact
    { h with
      completes := by
        intro id' call' hget
        rw [Table.get_set] at hget
        split at hget
        · obtain rfl := Option.some.inj hget
          exact hcall
        · exact h.completes id' call' hget
      analysed := by
        intro hfin
        refine (h.analysed hfin).imp_right ?_
        rintro ⟨id', call', hget, hann⟩
        refine ⟨id', call', ?_, hann⟩
        rw [Table.get_set, if_neg]
        · exact hget
        · rintro rfl
          rw [hnew] at hget
          cases hget }

theorem get_settle (id : ℕ) (next : RunService × Option RunCall) (id' : ℕ) :
    (settle id next).calls.get id' = if id' = id then next.2 else next.1.calls.get id' := by
  obtain ⟨st, rest⟩ := next
  cases rest with
  | none => exact Table.get_erase id st.calls id'
  | some call => exact Table.get_set id call st.calls id'

theorem Inv.settle (h : Inv st) {id : ℕ} {call : RunCall} (hcall : st.calls.get id = some call)
    {next : RunService × Option RunCall} (hnext : NextInv st call next) :
    Inv (settle id next) where
  finished_eq := hnext.finished_eq
  completed_of_over := hnext.completed_of_over
  completes := by
    intro id' call' hget
    rw [get_settle] at hget
    split at hget
    · exact hnext.completes call' hget
    · rw [hnext.calls_eq] at hget
      exact (h.completes id' call' hget).mono hnext.stays
  analysed := by
    intro hfin
    rcases hnext.analysed hfin with hne | ⟨call', hrest, hann⟩ | ⟨hbefore, hnot⟩
    · exact .inl hne
    · exact .inr ⟨id, call', by rw [get_settle, if_pos rfl]; exact hrest, hann⟩
    · -- Another call was to have the analysis enqueued, and still is.
      rcases h.analysed hbefore with hne | ⟨id', call', hget, hann⟩
      · exact .inl (Nat.pos_iff_ne_zero.1
          ((Nat.pos_iff_ne_zero.2 hne).trans_le hnext.analyses_le))
      · refine .inr ⟨id', call', ?_, hann⟩
        rw [get_settle, if_neg]
        · rw [hnext.calls_eq]
          exact hget
        · rintro rfl
          obtain rfl := Option.some.inj (hcall.symm.trans hget)
          rw [hnot] at hann
          cases hann

/-- A step that is timely keeps what the calls rely on. -/
theorem Inv.step (h : Inv st) {e : RunServiceStep} (hok : Timely st e) {st' : RunService}
    (hstep : st.step staleTimeoutMs e = some st') : Inv st' := by
  cases e with
  | clock now =>
    obtain rfl := Option.some.inj hstep
    exact { h with }
  | updateRunningTest id dto => exact h.start id (.update dto .started) trivial hstep
  | abortTestRun id userIdentifier =>
    exact h.start id (.abort userIdentifier .started) trivial hstep
  | detectAndMarkStale id => exact h.start id (.detectStale .started) trivial hstep
  | go id =>
    simp only [RunService.step, Option.bind_eq_bind, Option.bind_eq_some_iff] at hstep
    obtain ⟨call, hcall, hst⟩ := hstep
    obtain rfl := Option.some.inj hst
    exact h.settle hcall (h.next hcall hok)

theorem Inv.init : Inv {} where
  finished_eq := rfl
  completed_of_over := fun _ hnone => by cases hnone
  completes := fun _ _ hget => by cases hget
  analysed := fun hfin => by cases hfin

theorem Inv.finished (h : Inv st) : Finished st where
  stays := by
    intro hfin
    rw [h.finished_eq] at hfin
    exact (Option.any_eq_true _ _).1 hfin
  completed_of_over := fun _ => h.completed_of_over
  analysed := by
    intro hnil hfin
    rcases h.analysed hfin with hne | ⟨id, call, hget, -⟩
    · exact hne
    · have hrow := Table.mem_rows.2 hget
      rw [hnil] at hrow
      cases hrow

/-- Along a run whose steps are timely, the run of the test stays finished. -/
theorem run_finished {es : List RunServiceStep} {st : RunService}
    (h : Run (step staleTimeoutMs) Timely {} es st) : Finished st :=
  (h.state_invariant Inv.init fun _ _ _ hinv hok hstep => hinv.step hok hstep).finished

/-! ## A run that is reopened -/

/-- The run is created, and completed. -/
def completedRun : List RunServiceStep :=
  [.updateRunningTest 0 ⟨false, false, none⟩, .go 0, .go 0, .go 0,
    .updateRunningTest 1 ⟨true, false, some 10⟩, .go 1, .go 1, .go 1, .go 1, .go 1]

/-- The run is created, and aborted between the two reads and the write of an update. -/
def reopenedRun : List RunServiceStep :=
  [.updateRunningTest 0 ⟨false, false, none⟩, .go 0, .go 0, .go 0,
    .updateRunningTest 1 ⟨false, false, none⟩, .go 1, .go 1,
    .abortTestRun 2 "user", .go 2, .go 2, .go 2, .go 2, .go 1, .go 1]

theorem run_finished_completed :
    ∃ st, Run (step 120000) Timely {} completedRun st ∧ Finished st := by
  have htest : (completedRun.foldlM (Run.checked (step 120000) Timely) {}).any
      (fun _ => true) = true := by
    decide +kernel
  obtain ⟨st, hrun, -⟩ := Run.exists_of_checked htest
  exact ⟨st, hrun, run_finished hrun⟩

/-- The update writes the run as running, and the stale pass does not find it. -/
theorem not_finished_reopened :
    ∃ st, Run (step 120000) (fun _ _ => True) {} reopenedRun st ∧ ¬Finished st := by
  have htest : (reopenedRun.foldlM (Run.checked (step 120000) (fun _ _ => True)) {}).any
      (fun st => st.finished && !st.row.any RunRow.completed) = true := by
    decide +kernel
  obtain ⟨st, hrun, hst⟩ := Run.exists_of_checked htest
  rw [Bool.and_eq_true, Bool.not_eq_true'] at hst
  refine ⟨st, hrun, fun hfinished => ?_⟩
  obtain ⟨row, hrow, hcompleted⟩ := hfinished.stays hst.1
  exact Bool.false_ne_true (hst.2.symm.trans ((Option.any_eq_true _ _).2 ⟨row, hrow, hcompleted⟩))

end RunService

end Perfana
