import Mathlib.Algebra.Order.Ring.Int
import Mathlib.Data.List.Nodup
import Mathlib.Data.Option.Basic
import Mathlib.Data.List.Perm.Subperm
import Perfana.Lib.Run

/-!
# Waiting for the jobs of a stage

The orchestrator waits until the child jobs of a stage have ended. It hears of it from
three sides: from the events of the queue, from a check of the states at the start, and
from a poll, which also shows the job as queued while all the children are parked. Each
side puts the children that have ended into one of two sets, and the wait is settled once
these have as many members as there are children.

* `JobWait.Recorded.length_eq_iff`: as a child ends only once, the sizes of the sets say
  whether all have ended;
* `JobWait.Inv.step`: what the wait relies on is kept by every event, read and publish, in
  whatever order they come, but for one;
* `JobWait.run_sound`: a run is sound unless the last child is reported while the message that
  the job is queued is published for the first time;
* `JobWait.not_sound_overtaken`: then the message is left behind.
-/

namespace Perfana

/-- The states of a job in its queue. -/
inductive ChildState
  | waiting
  | prioritized
  | waitingChildren
  | delayed
  | active
  | completed
  | failed
deriving DecidableEq

/-- The job is over: a job that has failed for good is not tried again. -/
def ChildState.isOver (state : ChildState) : Bool := state ∈ [completed, failed]

/-- A child job. -/
structure Child where
  /-- Its state, the last one if it is removed. -/
  state : ChildState
  /-- The queue still has it. -/
  present : Bool := true
  /-- The holder in its progress, if it waits for its turn while active. -/
  queuedBehind : Option String := none
deriving DecidableEq

/-- A job is removed from the queue, unless a worker has it. -/
def Child.remove (child : Child) : Child :=
  { child with present := child.present && decide (child.state = .active) }

/-- What a child is parked behind. -/
inductive Holder
  | freeWorker
  | retryBackoff
  | job (id : String)
deriving DecidableEq

/-- What a poll finds out about a child. -/
inductive Standing
  | completed
  | failed
  | parked (holder : Holder)
  | running
deriving DecidableEq

/-- What a child is doing, by the job that the queue has returned and its state then. -/
def parkedBehind (job : Option Child) (state : Option ChildState) : Standing :=
  match job with
  | none => .running -- gone; let the running clock decide
  | some job =>
    match state with
    | some .completed => .completed
    | some .failed => .failed
    | some .delayed => .parked .retryBackoff
    | some .waiting | some .prioritized | some .waitingChildren => .parked .freeWorker
    | some .active | none =>
      match job.queuedBehind with
      | none => .running
      | some id => if id = "" then .running else .parked (.job id)

/-- The message of a job that is parked behind a holder. -/
def waitingMessage : Holder → String
  | .freeWorker => "Queued: waiting for a free analysis worker before this stage can start"
  | .retryBackoff => "Queued: a step failed and is waiting for its retry"
  | .job _ =>
    "Queued: waiting for another analysis to finish its database-heavy stage before this stage can start"

/-- Why a wait is given up. -/
inductive Overdue
  | ran (ms : ℤ)
  | stayedQueued (holder : Option Holder) (ms : ℤ)
deriving DecidableEq

/-- How a wait is settled. -/
inductive Settlement
  | resolve
  | jobsFailed (failedJobs : List String)
  | timeout (why : Overdue) (completed failed total : ℕ)
deriving DecidableEq

/-- What a wait is called with. -/
structure JobWaitCall where
  jobIds : List String
  timeoutMs : ℤ := 30 * 60000
  /-- There is a queue to read the states from. -/
  queue : Bool := true
  /-- There is a reporter to publish the progress with. -/
  progressReporter : Bool := true
  nodup_jobIds : jobIds.Nodup

def jobParkedCeilingMs : ℤ := 60 * 60000

/-- How far a poll has read the standing of a child. -/
inductive ChildRead
  | started
  /-- The queue has returned the job, and its state is asked for. -/
  | got (job : Child)
  | read (standing : Standing)
deriving DecidableEq

/-- How far the poll is. -/
inductive Tick
  | idle
  | reading (slice : ℤ) (pending : List String) (reads : String → ChildRead)
  | publishing (slice : ℤ) (holder : Option Holder)

/-- How far the check of the states at the start is. -/
inductive InitialCheck
  | jobs (rest : List String)
  /-- The queue has returned the first job, and its state is asked for. -/
  | state (jobId : String) (rest : List String)

/-- A wait for jobs. -/
structure JobWait where
  jobs : String → Child
  now : ℤ
  lastTick : ℤ
  initialCheck : InitialCheck
  completedJobs : List String := []
  failedJobs : List String := []
  resolved : Bool := false
  /-- The calls that settle the promise, in turn. -/
  settled : List Settlement := []
  runningMs : ℤ := 0
  parkedMs : ℤ := 0
  parkedBehindHolder : Option Holder := none
  tick : Tick := .idle
  /-- The wait is given up, and these jobs are being removed. -/
  aborting : Option (Overdue × List String) := none
  /-- The message that this wait has set in the reporter, and not cleared. -/
  waiting : Option String := none
  /-- The reporter is publishing that it has been cleared at the end. -/
  clearing : Bool := false

/-- What may happen next. -/
inductive JobWaitStep
  /-- The clock is at some time. -/
  | clock (now : ℤ)
  /-- A child that is not over enters a state. -/
  | move (jobId : String) (state : ChildState)
  /-- A child writes its progress. -/
  | progress (jobId : String) (queuedBehind : Option String)
  /-- A child is removed from the queue. -/
  | vanish (jobId : String)
  /-- The event that a child has completed arrives. -/
  | onCompleted (jobId : String)
  | onFailed (jobId : String)
  /-- The check at the start gets its next job. -/
  | checkJob
  | checkState
  | checkError
  /-- The timer fires. -/
  | poll
  /-- The poll gets a job, or its state. -/
  | getJob (jobId : String)
  | getState (jobId : String)
  /-- The poll has read all that it has asked for, or one of the reads throws. -/
  | statesRead
  | readError
  /-- The publish of the poll is over. -/
  | published
  /-- The publish at the end is over. -/
  | cleared
  /-- A job that the wait was given up for is removed, if it is not active. -/
  | remove (jobId : String)
  | removed
deriving DecidableEq

namespace JobWait

variable (call : JobWaitCall) (st : JobWait)

/-- The wait when its listeners are set up. -/
def start (jobs : String → Child) (now : ℤ) : JobWait where
  jobs
  now
  lastTick := now
  initialCheck := .jobs (if call.queue then call.jobIds else [])

/-- The reporter is told that the job is parked, or not any more. -/
def setWaiting (message : Option String) : JobWait :=
  { st with waiting := if call.progressReporter then message else st.waiting }

/-- The shared exit path: it clears a message that a poll knows of. -/
def teardown : JobWait :=
  let isParked := st.parkedBehindHolder.isSome
  { st with
    resolved := true
    waiting := if isParked then (setWaiting call st none).waiting else st.waiting
    clearing := isParked && call.progressReporter }

/-- How the wait is settled once all the jobs are in one of the sets. -/
def outcome : Settlement :=
  if st.failedJobs = [] then .resolve else .jobsFailed st.failedJobs

/-- The wait is settled if all the jobs are in one of the sets. -/
def checkCompletion : JobWait :=
  if st.resolved then st
  else if st.completedJobs.length + st.failedJobs.length = call.jobIds.length then
    let settling := teardown call st
    { settling with settled := settling.settled ++ [outcome st] }
  else st

/-- The jobs that are in neither set. -/
def pending : List String :=
  call.jobIds.filter fun id => id ∉ st.completedJobs ∧ id ∉ st.failedJobs

/-- The wait is given up. -/
def abort (why : Overdue) : JobWait :=
  if st.resolved then st
  else { teardown call st with aborting := some (why, pending call st) }

/-- A member is added to a set, which keeps the order of the insertions. -/
def add (jobs : List String) (jobId : String) : List String :=
  if jobId ∈ jobs then jobs else jobs ++ [jobId]

/-- A job is seen to have completed. -/
def addCompleted (jobId : String) : JobWait :=
  { st with completedJobs := add st.completedJobs jobId }

def addFailed (jobId : String) : JobWait :=
  { st with failedJobs := add st.failedJobs jobId }

/-- What an event does, or the check at the start. -/
def reportCompleted (jobId : String) : JobWait :=
  if jobId ∈ st.completedJobs then st else checkCompletion call (addCompleted st jobId)

def reportFailed (jobId : String) : JobWait :=
  if jobId ∈ st.failedJobs then st else checkCompletion call (addFailed st jobId)

/-- A child ends up in the set that a poll has found it to belong to. -/
def settleChild (st : JobWait) (child : String × Standing) : JobWait :=
  match child.2 with
  | .completed => addCompleted st child.1
  | .failed => addFailed st child.1
  | .parked _ | .running => st

/-- The holder of a stage all of whose pending children are parked. -/
def commonHolder (states : List Standing) : Option Holder :=
  let holders := states.filterMap fun
    | .completed | .failed => none
    | .parked holder => some (some holder)
    | .running => some none
  if holders.all Option.isSome then holders.head?.join else none

/-- A poll publishes what it has found, unless the wait is over by now. -/
def publish (slice : ℤ) (holder : Option Holder) : JobWait :=
  if st.resolved then { st with tick := .idle }
  else
    match holder with
    | some h =>
      { setWaiting call st (some (waitingMessage h)) with tick := .publishing slice holder }
    | none =>
      if st.parkedBehindHolder.isSome then
        { setWaiting call st none with tick := .publishing slice none }
      else { st with tick := .publishing slice none }

/-- A poll has read the standings of the pending children. -/
def readStates (slice : ℤ) (children : List (String × Standing)) : JobWait :=
  let st := children.foldl settleChild st
  if st.completedJobs.length + st.failedJobs.length = call.jobIds.length then
    { checkCompletion call st with tick := .idle }
  else publish call st slice (commonHolder (children.map Prod.snd))

/-- A poll charges its slice to a clock, and gives up if one of them is over. -/
def charge (slice : ℤ) (holder : Option Holder) : JobWait :=
  let st := { st with parkedBehindHolder := holder, tick := .idle }
  let st :=
    if holder.isSome then { st with parkedMs := st.parkedMs + slice }
    else { st with runningMs := st.runningMs + slice }
  if call.timeoutMs < st.runningMs then abort call st (.ran st.runningMs)
  else if jobParkedCeilingMs < st.parkedMs then
    abort call st (.stayedQueued holder st.parkedMs)
  else st

/-- The standing that a poll has read. -/
def standing (reads : String → ChildRead) (jobId : String) : Option Standing :=
  match reads jobId with
  | .read s => some s
  | .started | .got _ => none

/-- A child is changed. -/
def setChild (jobId : String) (child : Child) : JobWait :=
  { st with jobs := Function.update st.jobs jobId child }

/-- What a step leads to. -/
def step (call : JobWaitCall) (st : JobWait) : JobWaitStep → Option JobWait
  | .clock now => some { st with now }
  | .move id state => do
    guard (!(st.jobs id).state.isOver)
    return setChild st id { st.jobs id with state }
  | .progress id queuedBehind => some (setChild st id { st.jobs id with queuedBehind })
  | .vanish id => some (setChild st id { st.jobs id with present := false })
  | .onCompleted id => do
    guard ((st.jobs id).state = .completed)
    -- the listener ignores other jobs, and is gone once the wait is over
    return if !st.resolved ∧ id ∈ call.jobIds then reportCompleted call st id else st
  | .onFailed id => do
    guard ((st.jobs id).state = .failed)
    return if !st.resolved ∧ id ∈ call.jobIds then reportFailed call st id else st
  | .checkJob =>
    match st.initialCheck with
    | .jobs (id :: rest) => some { st with
        initialCheck :=
          if st.resolved then .jobs []
          else if (st.jobs id).present then .state id rest
          else .jobs rest }
    | .jobs [] | .state _ _ => none
  | .checkState =>
    match st.initialCheck with
    | .state id rest =>
      let next := { st with initialCheck := .jobs rest }
      if (st.jobs id).present then
        match (st.jobs id).state with
        | .completed => some (reportCompleted call next id)
        | .failed => some (reportFailed call next id)
        | _ => some next
      else some next
    | .jobs _ => none
  | .checkError =>
    match st.initialCheck with
    | .jobs (_ :: rest) => some { st with initialCheck := .jobs rest }
    | .state _ rest => some { st with initialCheck := .jobs rest }
    | .jobs [] => none
  | .poll =>
    match st.tick with
    | .idle => do
      guard (!st.resolved)
      let slice := st.now - st.lastTick
      let st := { st with lastTick := st.now }
      return if call.queue then
        { st with tick := .reading slice (pending call st) fun _ => .started }
      else publish call st slice none
    | .reading _ _ _ | .publishing _ _ => none
  | .getJob id =>
    match st.tick with
    | .reading slice pending reads => do
      guard (id ∈ pending ∧ reads id = .started)
      return { st with
        tick := .reading slice pending <| Function.update reads id <|
          if (st.jobs id).present then .got (st.jobs id) else .read (parkedBehind none none) }
    | .idle | .publishing _ _ => none
  | .getState id =>
    match st.tick with
    | .reading slice pending reads =>
      match reads id with
      | .got job =>
        let state := if (st.jobs id).present then some (st.jobs id).state else none
        some { st with
          tick := .reading slice pending <|
            Function.update reads id (.read (parkedBehind (some job) state)) }
      | .started | .read _ => none
    | .idle | .publishing _ _ => none
  | .statesRead =>
    match st.tick with
    | .reading slice pending reads => do
      guard (∀ id ∈ pending, (standing reads id).isSome)
      return readStates call st slice <|
        pending.filterMap fun id => (standing reads id).map (id, ·)
    | .idle | .publishing _ _ => none
  | .readError =>
    match st.tick with
    | .reading slice _ _ => some (publish call st slice none)
    | .idle | .publishing _ _ => none
  | .published =>
    match st.tick with
    | .publishing slice holder => some (charge call st slice holder)
    | .idle | .reading _ _ _ => none
  | .cleared => do
    guard st.clearing
    return { st with clearing := false }
  | .remove id => do
    let (why, ids) ← st.aborting
    guard (id ∈ ids)
    return { setChild st id (st.jobs id).remove with aborting := some (why, ids.erase id) }
  | .removed => do
    let (why, ids) ← st.aborting
    guard (ids = [])
    return { st with
      settled := st.settled ++
        [.timeout why st.completedJobs.length st.failedJobs.length call.jobIds.length]
      aborting := none }

/-! ## Soundness -/

/-- The settlement is a timeout. -/
def isTimeout : Settlement → Bool
  | .timeout _ _ _ _ => true
  | .resolve | .jobsFailed _ => false

/-- A publish of the poll is outstanding. -/
def publishing : Bool :=
  match st.tick with
  | .publishing _ _ => true
  | .idle | .reading _ _ _ => false

/-- The publish that is outstanding is the first that shows the job as queued. -/
def publishingFirst : Bool :=
  match st.tick with
  | .publishing _ (some _) => st.parkedBehindHolder.isNone
  | .publishing _ none | .idle | .reading _ _ _ => false

/-- A step puts a child that is over into its set. -/
def reports : JobWaitStep → Bool
  | .onCompleted id => id ∈ call.jobIds ∧ id ∉ st.completedJobs
  | .onFailed id => id ∈ call.jobIds ∧ id ∉ st.failedJobs
  | .checkState =>
    match st.initialCheck with
    | .state id _ =>
      (st.jobs id).present &&
        (decide ((st.jobs id).state = .completed ∧ id ∉ st.completedJobs) ||
          decide ((st.jobs id).state = .failed ∧ id ∉ st.failedJobs))
    | .jobs _ => false
  | _ => false

/-- The last child is not reported while the message that the job is queued is published
    for the first time. -/
def Timely (st : JobWait) (e : JobWaitStep) : Prop :=
  st.publishingFirst → reports call st e →
    st.completedJobs.length + st.failedJobs.length + 1 ≠ call.jobIds.length

/-- The wait is sound. -/
structure Sound (st : JobWait) : Prop where
  settled_once : st.settled.length ≤ 1
  /-- It resolves only if every child was seen to have completed. -/
  completed_of_resolve : .resolve ∈ st.settled →
    ∀ id ∈ call.jobIds, id ∈ st.completedJobs ∧ (st.jobs id).state = .completed
  /-- It does not resolve if a child has failed, -/
  not_resolve : ∀ id ∈ call.jobIds, (st.jobs id).state = .failed → .resolve ∉ st.settled
  /-- and is settled, or given up, once all are seen to be over. -/
  settles : call.jobIds ≠ [] →
    (∀ id ∈ call.jobIds, id ∈ st.completedJobs ∨ id ∈ st.failedJobs) →
      st.settled ≠ [] ∨ st.aborting.isSome
  /-- Unless it is given up, it is not settled before every child is over. -/
  isOver_of_settled : ∀ o ∈ st.settled, isTimeout o = false →
    ∀ id ∈ call.jobIds, (st.jobs id).state.isOver
  /-- It does not leave its message behind. -/
  waiting_eq_none : st.settled ≠ [] → st.publishing = false → st.clearing = false →
    st.waiting = none

/-- The sets hold children that are over, each in its own. -/
structure Recorded (st : JobWait) : Prop where
  of_completed : ∀ id ∈ st.completedJobs, id ∈ call.jobIds ∧ (st.jobs id).state = .completed
  of_failed : ∀ id ∈ st.failedJobs, id ∈ call.jobIds ∧ (st.jobs id).state = .failed
  nodup_completed : st.completedJobs.Nodup
  nodup_failed : st.failedJobs.Nodup

/-- What justifies a settlement. -/
def Justified (st : JobWait) : Settlement → Prop
  | .resolve => ∀ id ∈ call.jobIds, id ∈ st.completedJobs ∧ (st.jobs id).state = .completed
  | .jobsFailed _ => ∀ id ∈ call.jobIds, (st.jobs id).state.isOver
  | .timeout _ _ _ _ => True

/-- How a wait that is over has been, or is about to be, settled. -/
def Ended (st : JobWait) : Prop :=
  (∃ o, st.settled = [o] ∧ Justified call st o ∧ st.aborting = none) ∨
    (st.settled = [] ∧ st.aborting.isSome)

/-- What the wait relies on while a child is being reported. -/
structure Consistent (st : JobWait) : Prop extends Recorded call st where
  of_reading : ∀ slice pending reads, st.tick = .reading slice pending reads →
    ∀ id ∈ pending, id ∈ call.jobIds ∧
      ∀ s, standing reads id = some s →
        (s = .completed → (st.jobs id).state = .completed) ∧
          (s = .failed → (st.jobs id).state = .failed)
  of_jobs : ∀ rest, st.initialCheck = .jobs rest → ∀ id ∈ rest, id ∈ call.jobIds
  of_state : ∀ id rest, st.initialCheck = .state id rest →
    id ∈ call.jobIds ∧ ∀ id' ∈ rest, id' ∈ call.jobIds
  /-- The message is shown only if a poll knows of it. -/
  shown : st.resolved = false →
    st.waiting = none ∨ st.parkedBehindHolder.isSome ∨ st.publishingFirst
  waiting_of_publishing : ∀ slice, st.tick = .publishing slice none → st.waiting = none
  waiting_of_silent : call.progressReporter = false → st.waiting = none
  of_open : st.resolved = false → st.settled = [] ∧ st.aborting = none
  of_resolved : st.resolved = true → st.waiting = none ∧ Ended call st

/-- The wait relies on this: it is over once all the children are recorded. -/
structure Inv (st : JobWait) : Prop extends Consistent call st where
  length_ne : st.resolved = false → call.jobIds ≠ [] →
    st.completedJobs.length + st.failedJobs.length ≠ call.jobIds.length

variable {call} {st}

/-- As a child is over only once, the sizes of the sets say whether all are recorded. -/
theorem Recorded.length_eq_iff (h : Recorded call st) :
    st.completedJobs.length + st.failedJobs.length = call.jobIds.length ↔
      ∀ id ∈ call.jobIds, id ∈ st.completedJobs ∨ id ∈ st.failedJobs := by
  have hdisj : st.completedJobs.Disjoint st.failedJobs := by
    intro id hc hf
    have hstate := (h.of_completed id hc).2.symm.trans (h.of_failed id hf).2
    cases hstate
  have hnodup := h.nodup_completed.append h.nodup_failed hdisj
  have hsub : st.completedJobs ++ st.failedJobs ⊆ call.jobIds := by
    intro id hid
    rcases List.mem_append.1 hid with hc | hf
    · exact (h.of_completed id hc).1
    · exact (h.of_failed id hf).1
  rw [← List.length_append]
  constructor
  · intro hlen id hid
    have hperm := (List.subperm_of_subset hnodup hsub).perm_of_length_le hlen.ge
    exact List.mem_append.1 (hperm.mem_iff.2 hid)
  · intro hall
    refine ((List.perm_ext_iff_of_nodup hnodup call.nodup_jobIds).2 fun id => ?_).length_eq
    exact ⟨fun hid => hsub hid, fun hid => List.mem_append.2 (hall id hid)⟩

theorem mem_add {jobs : List String} {id id' : String} :
    id' ∈ add jobs id ↔ id' ∈ jobs ∨ id' = id := by
  rw [add]
  split
  · rename_i hmem
    refine ⟨.inl, ?_⟩
    rintro (h | rfl)
    exacts [h, hmem]
  · simp

theorem nodup_add {jobs : List String} {id : String} (h : jobs.Nodup) : (add jobs id).Nodup := by
  rw [add]
  split
  · exact h
  · rename_i hmem
    exact h.append (List.nodup_singleton id) (List.disjoint_singleton.2 hmem)

/-- What justifies a settlement stays so. -/
theorem Ended.mono {st' : JobWait} (h : Ended call st) (hsettled : st'.settled = st.settled)
    (haborting : st'.aborting.isSome = st.aborting.isSome)
    (hcompleted : ∀ id ∈ st.completedJobs, id ∈ st'.completedJobs)
    (hover : ∀ id, (st.jobs id).state.isOver → (st'.jobs id).state = (st.jobs id).state) :
    Ended call st' := by
  rcases h with ⟨o, ho, hjust, hnone⟩ | ⟨hnil, hsome⟩
  · refine .inl ⟨o, hsettled.trans ho, ?_, ?_⟩
    · cases o with
      | resolve =>
        intro id hid
        obtain ⟨hmem, hstate⟩ := hjust id hid
        exact ⟨hcompleted id hmem, (hover id (by rw [hstate]; rfl)).trans hstate⟩
      | jobsFailed jobs =>
        intro id hid
        rw [hover id (hjust id hid)]
        exact hjust id hid
      | timeout why completed failed total => trivial
    · rw [hnone] at haborting
      exact Option.isSome_eq_false_iff.1 haborting |> Option.isNone_iff_eq_none.1
  · exact .inr ⟨hsettled.trans hnil, haborting.trans hsome⟩

theorem Consistent.addCompleted (h : Consistent call st) {id : String} (hid : id ∈ call.jobIds)
    (hstate : (st.jobs id).state = .completed) : Consistent call (addCompleted st id) :=
  { h with
    of_completed := by
      intro id' hmem
      rcases mem_add.1 hmem with hmem | rfl
      exacts [h.of_completed id' hmem, ⟨hid, hstate⟩]
    nodup_completed := nodup_add h.nodup_completed
    of_resolved := fun hres => ⟨(h.of_resolved hres).1,
      (h.of_resolved hres).2.mono rfl rfl (fun _ hmem => mem_add.2 (.inl hmem)) fun _ _ => rfl⟩ }

theorem Consistent.addFailed (h : Consistent call st) {id : String} (hid : id ∈ call.jobIds)
    (hstate : (st.jobs id).state = .failed) : Consistent call (addFailed st id) :=
  { h with
    of_failed := by
      intro id' hmem
      rcases mem_add.1 hmem with hmem | rfl
      exacts [h.of_failed id' hmem, ⟨hid, hstate⟩]
    nodup_failed := nodup_add h.nodup_failed
    of_resolved := fun hres => ⟨(h.of_resolved hres).1,
      (h.of_resolved hres).2.mono rfl rfl (fun _ hmem => hmem) fun _ _ => rfl⟩ }

/-- A child that is over keeps its state. -/
theorem Inv.setChild (h : Inv call st) {id : String} {child : Child}
    (hover : (st.jobs id).state.isOver → child.state = (st.jobs id).state) :
    Inv call (setChild st id child) := by
  have hkeep : ∀ id', (st.jobs id').state.isOver →
      ((JobWait.setChild st id child).jobs id').state = (st.jobs id').state := by
    intro id' hid'
    simp only [JobWait.setChild, Function.update_apply]
    split
    · rename_i heq
      subst heq
      exact hover hid'
    · rfl
  have hcompleted : ∀ id', (st.jobs id').state = .completed →
      ((JobWait.setChild st id child).jobs id').state = .completed :=
    fun id' hstate => (hkeep id' (by rw [hstate]; rfl)).trans hstate
  have hfailed : ∀ id', (st.jobs id').state = .failed →
      ((JobWait.setChild st id child).jobs id').state = .failed :=
    fun id' hstate => (hkeep id' (by rw [hstate]; rfl)).trans hstate
  exact
    { h with
      of_completed := fun id' hmem =>
        ⟨(h.of_completed id' hmem).1, hcompleted id' (h.of_completed id' hmem).2⟩
      of_failed := fun id' hmem =>
        ⟨(h.of_failed id' hmem).1, hfailed id' (h.of_failed id' hmem).2⟩
      of_reading := by
        intro slice pending reads htick id' hid'
        obtain ⟨hmem, hread⟩ := h.of_reading slice pending reads htick id' hid'
        refine ⟨hmem, fun s hs => ⟨fun heq => ?_, fun heq => ?_⟩⟩
        · exact hcompleted id' ((hread s hs).1 heq)
        · exact hfailed id' ((hread s hs).2 heq)
      of_resolved := fun hres => ⟨(h.of_resolved hres).1,
        (h.of_resolved hres).2.mono rfl rfl (fun _ hmem => hmem) hkeep⟩ }

/-- Once the wait is over, nothing is shown: unless the first publish is overtaken. -/
theorem Consistent.waiting_teardown (h : Consistent call st) (hopen : st.resolved = false)
    (hfirst : st.publishingFirst = false) : (teardown call st).waiting = none := by
  simp only [teardown, setWaiting]
  split
  · cases hreporter : call.progressReporter
    · exact h.waiting_of_silent hreporter
    · rfl
  · rename_i hparked
    rcases h.shown hopen with hnone | hsome | htrue
    · exact hnone
    · exact absurd hsome hparked
    · rw [hfirst] at htrue
      cases htrue

/-- The wait is over, and settled if it ought to be. -/
theorem Consistent.teardown (h : Consistent call st) (hopen : st.resolved = false)
    (hfirst : st.publishingFirst = false) {settled : List Settlement}
    {aborting : Option (Overdue × List String)}
    (hended : Ended call { st with settled, aborting }) :
    Inv call { teardown call st with settled, aborting } :=
  { h with
    shown := fun hres => by cases hres
    waiting_of_publishing := fun _ _ => h.waiting_teardown hopen hfirst
    waiting_of_silent := fun _ => h.waiting_teardown hopen hfirst
    of_open := fun hres => by cases hres
    of_resolved := fun _ => ⟨h.waiting_teardown hopen hfirst, hended⟩
    length_ne := fun hres => by cases hres }

/-- Checking for completion restores what the wait relies on. -/
theorem Consistent.checkCompletion (h : Consistent call st)
    (hfirst : st.completedJobs.length + st.failedJobs.length = call.jobIds.length →
      st.publishingFirst = false) : Inv call (checkCompletion call st) := by
  rw [JobWait.checkCompletion]
  split
  · rename_i hres
    exact ⟨h, fun hopen => by rw [hres] at hopen; cases hopen⟩
  · rename_i hres
    have hopen : st.resolved = false := by simpa using hres
    split
    · rename_i hlen
      have hall := h.length_eq_iff.1 hlen
      obtain ⟨hsettled, haborting⟩ := h.of_open hopen
      have hover : ∀ id ∈ call.jobIds, (st.jobs id).state.isOver := by
        intro id hid
        rcases hall id hid with hmem | hmem
        · rw [(h.of_completed id hmem).2]; rfl
        · rw [(h.of_failed id hmem).2]; rfl
      refine h.teardown hopen (hfirst hlen)
        (.inl ⟨outcome st, congrArg (· ++ _) hsettled, ?_, haborting⟩)
      rw [outcome]
      split
      · rename_i hnil
        intro id hid
        rcases hall id hid with hmem | hmem
        · exact ⟨hmem, (h.of_completed id hmem).2⟩
        · rw [hnil] at hmem
          cases hmem
      · exact hover
    · rename_i hlen
      exact ⟨h, fun _ _ => hlen⟩

theorem Inv.abort (h : Inv call st) (hfirst : st.publishingFirst = false) (why : Overdue) :
    Inv call (abort call st why) := by
  rw [JobWait.abort]
  split
  · exact h
  · rename_i hres
    have hopen : st.resolved = false := by simpa using hres
    exact h.toConsistent.teardown hopen hfirst (.inr ⟨(h.of_open hopen).1, rfl⟩)

/-- An event, or the check at the start, reports a child. -/
theorem Inv.reportCompleted (h : Inv call st) {id : String} (hid : id ∈ call.jobIds)
    (hstate : (st.jobs id).state = .completed)
    (hfirst : st.publishingFirst → id ∉ st.completedJobs →
      st.completedJobs.length + st.failedJobs.length + 1 ≠ call.jobIds.length) :
    Inv call (reportCompleted call st id) := by
  rw [JobWait.reportCompleted]
  split
  · exact h
  · rename_i hmem
    refine (h.addCompleted hid hstate).checkCompletion fun hlen => ?_
    by_contra htrue
    refine hfirst (Bool.eq_true_of_not_eq_false htrue) hmem ?_
    simpa [JobWait.addCompleted, add, hmem, Nat.add_right_comm] using hlen

theorem Inv.reportFailed (h : Inv call st) {id : String} (hid : id ∈ call.jobIds)
    (hstate : (st.jobs id).state = .failed)
    (hfirst : st.publishingFirst → id ∉ st.failedJobs →
      st.completedJobs.length + st.failedJobs.length + 1 ≠ call.jobIds.length) :
    Inv call (reportFailed call st id) := by
  rw [JobWait.reportFailed]
  split
  · exact h
  · rename_i hmem
    refine (h.addFailed hid hstate).checkCompletion fun hlen => ?_
    by_contra htrue
    refine hfirst (Bool.eq_true_of_not_eq_false htrue) hmem ?_
    simpa [JobWait.addFailed, add, hmem, Nat.add_assoc] using hlen

/-- The poll is over. -/
theorem Inv.idle (h : Inv call st) (hfirst : st.resolved = false → st.publishingFirst = false) :
    Inv call { st with tick := .idle } :=
  { h with
    of_reading := fun _ _ _ htick => by cases htick
    shown := by
      intro hopen
      rcases h.shown hopen with hnone | hsome | htrue
      · exact .inl hnone
      · exact .inr (.inl hsome)
      · rw [hfirst hopen] at htrue
        cases htrue
    waiting_of_publishing := fun _ htick => by cases htick
    of_resolved := h.of_resolved }

theorem Inv.publish (h : Inv call st) (hfirst : st.publishingFirst = false) (slice : ℤ)
    (holder : Option Holder) : Inv call (publish call st slice holder) := by
  rw [JobWait.publish.eq_def]
  split
  · exact h.idle fun _ => hfirst
  rename_i hres
  have hopen : st.resolved = false := by simpa using hres
  have hsilent : ∀ message, call.progressReporter = false →
      (setWaiting call st message).waiting = none := by
    intro message hreporter
    simp [setWaiting, hreporter, h.waiting_of_silent hreporter]
  split
  · rename_i holder
    exact
      { h with
        of_reading := fun _ _ _ htick => by cases htick
        shown := fun _ => .inr <| by
          change st.parkedBehindHolder.isSome ∨ st.parkedBehindHolder.isNone
          cases st.parkedBehindHolder <;> simp
        waiting_of_publishing := fun _ htick => by cases htick
        waiting_of_silent := hsilent _
        of_resolved := fun htrue => absurd htrue hres }
  split
  · have hnone : (setWaiting call st none).waiting = none := by
      cases hreporter : call.progressReporter
      · exact hsilent none hreporter
      · simp [setWaiting, hreporter]
    exact
      { h with
        of_reading := fun _ _ _ htick => by cases htick
        shown := fun _ => .inl hnone
        waiting_of_publishing := fun _ _ => hnone
        waiting_of_silent := hsilent _
        of_resolved := fun htrue => absurd htrue hres }
  · rename_i hparked
    have hnone : st.waiting = none := by
      rcases h.shown hopen with hnone | hsome | htrue
      · exact hnone
      · exact absurd hsome hparked
      · rw [hfirst] at htrue
        cases htrue
    exact
      { h with
        of_reading := fun _ _ _ htick => by cases htick
        shown := fun _ => .inl hnone
        waiting_of_publishing := fun _ _ => hnone
        of_resolved := fun htrue => absurd htrue hres }

theorem Consistent.settleChild (h : Consistent call st) {child : String × Standing}
    (hmem : child.1 ∈ call.jobIds)
    (hcompleted : child.2 = .completed → (st.jobs child.1).state = .completed)
    (hfailed : child.2 = .failed → (st.jobs child.1).state = .failed) :
    Consistent call (settleChild st child) := by
  rw [JobWait.settleChild]
  split
  · exact h.addCompleted hmem (hcompleted ‹_›)
  · exact h.addFailed hmem (hfailed ‹_›)
  · exact h
  · exact h

/-- A child that is put in its set changes nothing else. -/
theorem settleChild_frame (st : JobWait) (child : String × Standing) :
    (settleChild st child).jobs = st.jobs ∧ (settleChild st child).tick = st.tick ∧
      (settleChild st child).parkedBehindHolder = st.parkedBehindHolder := by
  rw [settleChild]
  split <;> exact ⟨rfl, rfl, rfl⟩

theorem Consistent.foldl_settleChild (h : Consistent call st) {children : List (String × Standing)}
    (hchildren : ∀ child ∈ children, child.1 ∈ call.jobIds ∧
      (child.2 = .completed → (st.jobs child.1).state = .completed) ∧
        (child.2 = .failed → (st.jobs child.1).state = .failed)) :
    Consistent call (children.foldl JobWait.settleChild st) ∧
      (children.foldl JobWait.settleChild st).tick = st.tick := by
  induction children generalizing st with
  | nil => exact ⟨h, rfl⟩
  | cons child children ih =>
    obtain ⟨hmem, hcompleted, hfailed⟩ := hchildren child List.mem_cons_self
    obtain ⟨hjobs, htick, -⟩ := settleChild_frame st child
    have hrest := ih (h.settleChild hmem hcompleted hfailed) fun other hother => by
      rw [hjobs]
      exact hchildren other (List.mem_cons_of_mem _ hother)
    exact ⟨hrest.1, hrest.2.trans htick⟩

theorem resolved_checkCompletion
    (hlen : st.completedJobs.length + st.failedJobs.length = call.jobIds.length) :
    (checkCompletion call st).resolved = true := by
  rw [checkCompletion]
  split
  · assumption
  · rfl

/-- A poll that has read the standings reports the children that are over, or publishes. -/
theorem Inv.readStates (h : Inv call st) {slice slice' : ℤ} {ids : List String}
    {reads : String → ChildRead} (htick : st.tick = .reading slice' ids reads)
    {children : List (String × Standing)}
    (hchildren : ∀ child ∈ children, child.1 ∈ ids ∧ standing reads child.1 = some child.2) :
    Inv call (readStates call st slice children) := by
  have hknown : ∀ child ∈ children, child.1 ∈ call.jobIds ∧
      (child.2 = .completed → (st.jobs child.1).state = .completed) ∧
        (child.2 = .failed → (st.jobs child.1).state = .failed) := by
    intro child hchild
    obtain ⟨hid, hread⟩ := hchildren child hchild
    obtain ⟨hmem, hstate⟩ := h.of_reading _ _ _ htick child.1 hid
    exact ⟨hmem, hstate child.2 hread⟩
  obtain ⟨hfold, htick'⟩ := h.toConsistent.foldl_settleChild hknown
  have hfirst : (children.foldl settleChild st).publishingFirst = false := by
    rw [publishingFirst, htick', htick]
  rw [JobWait.readStates]
  split
  · rename_i hlen
    refine (hfold.checkCompletion fun _ => hfirst).idle fun hopen => ?_
    rw [resolved_checkCompletion hlen] at hopen
    cases hopen
  · rename_i hlen
    exact Inv.publish ⟨hfold, fun _ _ => hlen⟩ hfirst _ _

theorem Inv.charge (h : Inv call st) {slice : ℤ} {holder : Option Holder}
    (htick : st.tick = .publishing slice holder) : Inv call (charge call st slice holder) := by
  -- The poll knows by now of what it has published.
  have hshown : holder = none → st.waiting = none := by
    rintro rfl
    exact h.waiting_of_publishing slice htick
  have hknown : ∀ runningMs parkedMs, Inv call { st with
      parkedBehindHolder := holder, tick := .idle, runningMs, parkedMs } := fun _ _ =>
    { h with
      of_reading := fun _ _ _ htick => by cases htick
      shown := fun _ => by
        cases holder with
        | none => exact .inl (hshown rfl)
        | some _ => exact .inr (.inl rfl)
      waiting_of_publishing := fun _ htick => by cases htick
      of_resolved := h.of_resolved }
  rw [JobWait.charge]
  cases holder with
  | none =>
    simp only [Option.isSome_none, Bool.false_eq_true, if_false]
    split
    · exact (hknown _ _).abort rfl _
    split
    · exact (hknown _ _).abort rfl _
    · exact hknown _ _
  | some holder =>
    simp only [Option.isSome_some, if_true]
    split
    · exact (hknown _ _).abort rfl _
    split
    · exact (hknown _ _).abort rfl _
    · exact hknown _ _

/-- A job that is found to be over is so in its state. -/
theorem eq_of_parkedBehind {job : Option Child} {state : Option ChildState} :
    (parkedBehind job state = .completed → state = some .completed) ∧
      (parkedBehind job state = .failed → state = some .failed) := by
  rw [parkedBehind.eq_def]
  constructor <;> intro h <;> repeat' split at h
  all_goals first | rfl | cases h

/-- The check at the start goes on to its next job. -/
theorem Inv.checking_jobs (h : Inv call st) {rest : List String}
    (hrest : ∀ id ∈ rest, id ∈ call.jobIds) : Inv call { st with initialCheck := .jobs rest } :=
  { h with
    of_jobs := by
      rintro _ ⟨⟩
      exact hrest
    of_state := fun _ _ hcheck => by cases hcheck
    of_resolved := h.of_resolved }

theorem Inv.checking_state (h : Inv call st) {id : String} {rest : List String}
    (hid : id ∈ call.jobIds) (hrest : ∀ id ∈ rest, id ∈ call.jobIds) :
    Inv call { st with initialCheck := .state id rest } :=
  { h with
    of_jobs := fun _ hcheck => by cases hcheck
    of_state := by
      rintro _ _ ⟨⟩
      exact ⟨hid, hrest⟩
    of_resolved := h.of_resolved }

/-- The poll reads what is true of the children. -/
theorem Inv.reading (h : Inv call st) (hfirst : st.publishingFirst = false) {slice : ℤ}
    {ids : List String} {reads : String → ChildRead}
    (hreads : ∀ id ∈ ids, id ∈ call.jobIds ∧ ∀ s, standing reads id = some s →
      (s = .completed → (st.jobs id).state = .completed) ∧
        (s = .failed → (st.jobs id).state = .failed)) :
    Inv call { st with tick := .reading slice ids reads } :=
  { h with
    of_reading := by
      rintro _ _ _ ⟨⟩
      exact hreads
    shown := by
      intro hopen
      rcases h.shown hopen with hnone | hsome | htrue
      · exact .inl hnone
      · exact .inr (.inl hsome)
      · rw [hfirst] at htrue
        cases htrue
    waiting_of_publishing := fun _ htick => by cases htick
    of_resolved := h.of_resolved }

/-- One of the reads goes on. -/
theorem Inv.read (h : Inv call st) {slice : ℤ} {ids : List String} {reads : String → ChildRead}
    (htick : st.tick = .reading slice ids reads) (id : String) (r : ChildRead)
    (hr : ∀ s, r = .read s → (s = .completed → (st.jobs id).state = .completed) ∧
      (s = .failed → (st.jobs id).state = .failed)) :
    Inv call { st with tick := .reading slice ids (Function.update reads id r) } := by
  refine h.reading (by rw [publishingFirst, htick]) fun id' hid' => ?_
  obtain ⟨hmem, hread⟩ := h.of_reading _ _ _ htick id' hid'
  refine ⟨hmem, fun s hs => ?_⟩
  rw [standing, Function.update_apply] at hs
  by_cases heq : id' = id
  · subst heq
    rw [if_pos rfl] at hs
    cases r with
    | read s' =>
      obtain rfl := Option.some.inj hs
      exact hr _ rfl
    | started => cases hs
    | got job => cases hs
  · rw [if_neg heq] at hs
    exact hread s hs

theorem Inv.aborting (h : Inv call st) {a a' : Overdue × List String}
    (ha : st.aborting = some a) : Inv call { st with aborting := some a' } :=
  { h with
    of_open := fun hopen => by
      rw [(h.of_open hopen).2] at ha
      cases ha
    of_resolved := fun hres => by
      refine ⟨(h.of_resolved hres).1, ?_⟩
      exact (h.of_resolved hres).2.mono rfl (by rw [ha]; rfl) (fun _ hmem => hmem) fun _ _ => rfl }

/-- The jobs are removed, and the wait is settled. -/
theorem Inv.timeout (h : Inv call st) {a : Overdue × List String} (ha : st.aborting = some a)
    {why : Overdue} {completed failed total : ℕ} :
    Inv call { st with
      settled := st.settled ++ [.timeout why completed failed total], aborting := none } := by
  have hres : st.resolved = true := by
    by_contra hopen
    rw [(h.of_open (Bool.eq_false_of_not_eq_true hopen)).2] at ha
    cases ha
  obtain ⟨hwaiting, ⟨o, ho, -, hnone⟩ | ⟨hnil, -⟩⟩ := h.of_resolved hres
  · rw [hnone] at ha
    cases ha
  · exact
      { h with
        of_open := fun hopen => by rw [hres] at hopen; cases hopen
        of_resolved := fun _ =>
          ⟨hwaiting, .inl ⟨_, congrArg (· ++ _) hnil, trivial, rfl⟩⟩ }

/-- What the wait relies on is kept by the steps that the last child is not reported too
    early in. -/
theorem Inv.step (h : Inv call st) {e : JobWaitStep} (hok : Timely call st e) {st' : JobWait}
    (hstep : step call st e = some st') : Inv call st' := by
  cases e with
  | clock now =>
    obtain rfl := Option.some.inj hstep
    exact { h with }
  | move id state =>
    simp only [JobWait.step, Option.bind_eq_bind, Option.bind_eq_some_iff,
      Option.guard_eq_some', exists_const] at hstep
    obtain ⟨hopen, hst⟩ := hstep
    obtain rfl := Option.some.inj hst
    exact h.setChild fun hover => by simp [hover] at hopen
  | progress id queuedBehind =>
    obtain rfl := Option.some.inj hstep
    exact h.setChild fun _ => rfl
  | vanish id =>
    obtain rfl := Option.some.inj hstep
    exact h.setChild fun _ => rfl
  | onCompleted id =>
    simp only [JobWait.step, Option.bind_eq_bind, Option.bind_eq_some_iff,
      Option.guard_eq_some', exists_const] at hstep
    obtain ⟨hstate, hst⟩ := hstep
    obtain rfl := Option.some.inj hst
    split
    · rename_i hlisted
      refine h.reportCompleted hlisted.2 hstate fun hfirst hmem => hok hfirst ?_
      exact decide_eq_true ⟨hlisted.2, hmem⟩
    · exact h
  | onFailed id =>
    simp only [JobWait.step, Option.bind_eq_bind, Option.bind_eq_some_iff,
      Option.guard_eq_some', exists_const] at hstep
    obtain ⟨hstate, hst⟩ := hstep
    obtain rfl := Option.some.inj hst
    split
    · rename_i hlisted
      refine h.reportFailed hlisted.2 hstate fun hfirst hmem => hok hfirst ?_
      exact decide_eq_true ⟨hlisted.2, hmem⟩
    · exact h
  | checkJob =>
    rw [JobWait.step.eq_def] at hstep
    dsimp only at hstep
    split at hstep
    · rename_i id rest hcheck
      obtain rfl := Option.some.inj hstep
      obtain ⟨hid, hrest⟩ := List.forall_mem_cons.1 (h.of_jobs _ hcheck)
      split
      · exact h.checking_jobs fun id' hid' => by cases hid'
      split
      · exact h.checking_state hid hrest
      · exact h.checking_jobs hrest
    · cases hstep
    · cases hstep
  | checkState =>
    rw [JobWait.step.eq_def] at hstep
    dsimp only at hstep
    split at hstep
    · rename_i id rest hcheck
      obtain ⟨hid, hrest⟩ := h.of_state _ _ hcheck
      have hnext := h.checking_jobs hrest
      split at hstep
      · rename_i hpresent
        split at hstep
        · rename_i hstate
          obtain rfl := Option.some.inj hstep
          refine hnext.reportCompleted hid hstate fun hfirst hmem => hok hfirst ?_
          simpa [reports, hcheck, hpresent, hstate] using hmem
        · rename_i hstate
          obtain rfl := Option.some.inj hstep
          refine hnext.reportFailed hid hstate fun hfirst hmem => hok hfirst ?_
          simpa [reports, hcheck, hpresent, hstate] using hmem
        · obtain rfl := Option.some.inj hstep
          exact hnext
      · obtain rfl := Option.some.inj hstep
        exact hnext
    · cases hstep
  | checkError =>
    rw [JobWait.step.eq_def] at hstep
    dsimp only at hstep
    split at hstep
    · rename_i id rest hcheck
      obtain rfl := Option.some.inj hstep
      exact h.checking_jobs (List.forall_mem_cons.1 (h.of_jobs _ hcheck)).2
    · rename_i id rest hcheck
      obtain rfl := Option.some.inj hstep
      exact h.checking_jobs (h.of_state _ _ hcheck).2
    · cases hstep
  | poll =>
    rw [JobWait.step.eq_def] at hstep
    dsimp only at hstep
    split at hstep
    · rename_i htick
      simp only [Option.bind_eq_bind, Option.bind_eq_some_iff, Option.guard_eq_some',
        exists_const] at hstep
      obtain ⟨hopen, hst⟩ := hstep
      obtain rfl := Option.some.inj hst
      have hpolled : Inv call { st with lastTick := st.now } :=
        { h with of_resolved := h.of_resolved }
      have hfirst : ({ st with lastTick := st.now } : JobWait).publishingFirst = false := by
        rw [publishingFirst, htick]
      split
      · refine hpolled.reading hfirst fun id hid => ⟨(List.mem_filter.1 hid).1, fun s hs => ?_⟩
        cases hs
      · exact hpolled.publish hfirst _ none
    · cases hstep
    · cases hstep
  | getJob id =>
    rw [JobWait.step.eq_def] at hstep
    dsimp only at hstep
    split at hstep
    · rename_i slice ids reads htick
      simp only [Option.bind_eq_bind, Option.bind_eq_some_iff, Option.guard_eq_some',
        exists_const] at hstep
      obtain ⟨-, hst⟩ := hstep
      obtain rfl := Option.some.inj hst
      refine h.read htick id _ fun s hs => ?_
      split at hs
      · cases hs
      · obtain rfl := ChildRead.read.inj hs
        constructor
        · intro heq
          cases eq_of_parkedBehind.1 heq
        · intro heq
          cases eq_of_parkedBehind.2 heq
    · cases hstep
    · cases hstep
  | getState id =>
    rw [JobWait.step.eq_def] at hstep
    dsimp only at hstep
    split at hstep
    · rename_i slice ids reads htick
      split at hstep
      · rename_i job hgot
        obtain rfl := Option.some.inj hstep
        refine h.read htick id _ fun s hs => ?_
        obtain rfl := ChildRead.read.inj hs
        constructor
        · intro heq
          exact (Option.ite_none_right_eq_some.1 (eq_of_parkedBehind.1 heq)).2 |> Option.some.inj
        · intro heq
          exact (Option.ite_none_right_eq_some.1 (eq_of_parkedBehind.2 heq)).2 |> Option.some.inj
      · cases hstep
      · cases hstep
    · cases hstep
    · cases hstep
  | statesRead =>
    rw [JobWait.step.eq_def] at hstep
    dsimp only at hstep
    split at hstep
    · rename_i slice ids reads htick
      simp only [Option.bind_eq_bind, Option.bind_eq_some_iff, Option.guard_eq_some',
        exists_const] at hstep
      obtain ⟨-, hst⟩ := hstep
      obtain rfl := Option.some.inj hst
      refine h.readStates htick fun child hchild => ?_
      obtain ⟨id, hid, hread⟩ := List.mem_filterMap.1 hchild
      obtain ⟨s, hs, rfl⟩ := Option.map_eq_some_iff.1 hread
      exact ⟨hid, hs⟩
    · cases hstep
    · cases hstep
  | readError =>
    rw [JobWait.step.eq_def] at hstep
    dsimp only at hstep
    split at hstep
    · rename_i slice ids reads htick
      obtain rfl := Option.some.inj hstep
      exact h.publish (by rw [publishingFirst, htick]) slice none
    · cases hstep
    · cases hstep
  | published =>
    rw [JobWait.step.eq_def] at hstep
    dsimp only at hstep
    split at hstep
    · rename_i slice holder htick
      obtain rfl := Option.some.inj hstep
      exact h.charge htick
    · cases hstep
    · cases hstep
  | cleared =>
    simp only [JobWait.step, Option.bind_eq_bind, Option.bind_eq_some_iff,
      Option.guard_eq_some', exists_const] at hstep
    obtain ⟨-, hst⟩ := hstep
    obtain rfl := Option.some.inj hst
    exact { h with of_resolved := h.of_resolved }
  | remove id =>
    simp only [JobWait.step, Option.bind_eq_bind, Option.bind_eq_some_iff,
      Option.guard_eq_some', exists_const] at hstep
    obtain ⟨⟨why, ids⟩, haborting, -, hst⟩ := hstep
    obtain rfl := Option.some.inj hst
    have hremoved : Inv call (JobWait.setChild st id (st.jobs id).remove) :=
      h.setChild fun _ => rfl
    exact hremoved.aborting haborting
  | removed =>
    simp only [JobWait.step, Option.bind_eq_bind, Option.bind_eq_some_iff,
      Option.guard_eq_some', exists_const] at hstep
    obtain ⟨⟨why, ids⟩, haborting, -, hst⟩ := hstep
    obtain rfl := Option.some.inj hst
    exact h.timeout haborting

theorem Inv.start {jobs : String → Child} {now : ℤ} : Inv call (start call jobs now) where
  of_completed := fun _ hmem => by cases hmem
  of_failed := fun _ hmem => by cases hmem
  nodup_completed := .nil
  nodup_failed := .nil
  of_reading := fun _ _ _ htick => by cases htick
  of_jobs := by
    rintro _ ⟨⟩ id hid
    split at hid
    · exact hid
    · cases hid
  of_state := fun _ _ hcheck => by cases hcheck
  shown := fun _ => .inl rfl
  waiting_of_publishing := fun _ htick => by cases htick
  waiting_of_silent := fun _ => rfl
  of_open := fun _ => ⟨rfl, rfl⟩
  of_resolved := fun hres => by cases hres
  length_ne := fun _ hne hlen => hne (List.length_eq_zero_iff.1 hlen.symm)

/-- What the wait relies on makes it sound. -/
theorem Inv.sound (h : Inv call st) : Sound call st := by
  -- A wait with a settlement is over, with this one settlement, which is justified.
  have hover : ∀ o ∈ st.settled, st.settled = [o] ∧ Justified call st o ∧ st.waiting = none := by
    intro o ho
    have hres : st.resolved = true := by
      by_contra hopen
      rw [(h.of_open (Bool.eq_false_of_not_eq_true hopen)).1] at ho
      cases ho
    obtain ⟨hwaiting, ⟨o', ho', hjust, -⟩ | ⟨hnil, -⟩⟩ := h.of_resolved hres
    · rw [ho', List.mem_singleton] at ho
      subst ho
      exact ⟨ho', hjust, hwaiting⟩
    · rw [hnil] at ho
      cases ho
  exact
    { settled_once := by
        cases hs : st.settled with
        | nil => simp
        | cons o os => rw [← hs, (hover o (by simp [hs])).1]; simp
      completed_of_resolve := fun hmem => (hover _ hmem).2.1
      not_resolve := by
        intro id hid hfailed hmem
        rw [((hover _ hmem).2.1 id hid).2] at hfailed
        cases hfailed
      settles := by
        intro hne hall
        have hres : st.resolved = true := by
          by_contra hopen
          exact h.length_ne (Bool.eq_false_of_not_eq_true hopen) hne (h.length_eq_iff.2 hall)
        obtain ⟨-, ⟨o, ho, -, -⟩ | ⟨-, hsome⟩⟩ := h.of_resolved hres
        · exact .inl (by simp [ho])
        · exact .inr hsome
      isOver_of_settled := by
        intro o ho htimeout id hid
        have hjust := (hover o ho).2.1
        cases o with
        | resolve => rw [(hjust id hid).2]; rfl
        | jobsFailed jobs => exact hjust id hid
        | timeout why completed failed total => cases htimeout
      waiting_eq_none := by
        intro hne _ _
        obtain ⟨o, ho⟩ := List.exists_mem_of_ne_nil _ hne
        exact (hover o ho).2.2 }

/-- A wait for jobs is sound along every run in which the last child is not reported
    while the message that the job is queued is published for the first time. -/
theorem run_sound {jobs : String → Child} {now : ℤ} {es : List JobWaitStep} {st : JobWait}
    (h : Run (JobWait.step call) (Timely call) (JobWait.start call jobs now) es st) :
    Sound call st :=
  (h.state_invariant Inv.start fun _ _ _ hinv hok hstep => hinv.step hok hstep).sound

end JobWait

/-! ## A wait for one child -/

section

/-- The call for a stage with one child job. -/
def singleJob : JobWaitCall where
  jobIds := ["statistics"]
  nodup_jobIds := List.nodup_singleton _

/-- The child waits for a worker when the wait starts. -/
def waitingChildren : String → Child := fun _ => { state := .waiting }

/-- A poll finds the child parked, and it completes before the next. -/
def parkedThenCompleted : List JobWaitStep :=
  [.checkJob, .checkState, .clock 10000, .poll, .getJob "statistics", .getState "statistics",
    .statesRead, .published, .move "statistics" .active, .move "statistics" .completed,
    .onCompleted "statistics", .cleared]

/-- It completes while that poll is publishing. -/
def completedWhilePublishing : List JobWaitStep :=
  [.checkJob, .checkState, .clock 10000, .poll, .getJob "statistics", .getState "statistics",
    .statesRead, .move "statistics" .active, .move "statistics" .completed,
    .onCompleted "statistics", .published]

end

namespace JobWait

instance (call : JobWaitCall) (st : JobWait) (e : JobWaitStep) : Decidable (Timely call st e) :=
  inferInstanceAs (Decidable (_ → _ → _))

theorem run_sound_parked :
    ∃ st, Run (step singleJob) (Timely singleJob) (start singleJob waitingChildren 0)
      parkedThenCompleted st ∧ Sound singleJob st := by
  have htest : (parkedThenCompleted.foldlM (Run.checked (step singleJob) (Timely singleJob))
      (start singleJob waitingChildren 0)).any (fun _ => true) = true := by
    decide +kernel
  obtain ⟨st, hrun, -⟩ := Run.exists_of_checked htest
  exact ⟨st, hrun, run_sound hrun⟩

/-- The message of the poll is not cleared: it does not know of it yet. -/
theorem not_sound_overtaken :
    ∃ st, Run (step singleJob) (fun _ _ => True) (start singleJob waitingChildren 0)
      completedWhilePublishing st ∧ ¬ Sound singleJob st := by
  have htest : (completedWhilePublishing.foldlM
      (Run.checked (step singleJob) (fun _ _ => True)) (start singleJob waitingChildren 0)).any
        (fun st => decide (st.settled = [.resolve] ∧ st.publishing = false ∧
          st.clearing = false ∧ st.waiting = some (waitingMessage .freeWorker))) = true := by
    decide +kernel
  obtain ⟨st, hrun, hst⟩ := Run.exists_of_checked htest
  obtain ⟨hsettled, hpublishing, hclearing, hwaiting⟩ := of_decide_eq_true hst
  refine ⟨st, hrun, fun hsound => ?_⟩
  have hnone := hsound.waiting_eq_none (by simp [hsettled]) hpublishing hclearing
  rw [hwaiting] at hnone
  cases hnone

end JobWait

end Perfana
