import Perfana.Scheduling.Incremental

/-!
# Backing off from a source that fails

The scheduler counts the failures of a source from the events of the queue, and
backs off the longer, the more of them follow each other. The worker throws only at
the last attempt of a job, and else returns that it failed, which the queue tells as
a completion: the scheduler takes it for a success.

* `run_backsOff`: along every run in which a collection that fails ends its job as
  failed (`HardFailing`), a source is not enqueued after five failures in a row, nor
  too soon after fewer;
* `soft_failures_never_back_off`: with the default number of retries, a source that
  always fails is enqueued every minute.
-/

namespace Perfana

namespace IncrementalCollection

/-- The times of the failures of a source since it last succeeded, or was cleaned up,
    the last first. -/
def consecutiveFailures (s : RunSource) : List Entry → List ℕ
  | [] => []
  | .failed s' time :: log =>
    if s' = s then time :: consecutiveFailures s log else consecutiveFailures s log
  | .succeeded s' :: log => if s' = s then [] else consecutiveFailures s log
  | .cleanedUp testRunId :: log =>
    if keyOfRun testRunId s.buildSourceKey then [] else consecutiveFailures s log
  | .enqueued _ _ :: log => consecutiveFailures s log

/-- A job may be enqueued after such failures. -/
def MayEnqueue (failures : List ℕ) (time : ℕ) : Prop :=
  failures.length < FAILURE_STOP_THRESHOLD ∧
    ∀ t ∈ failures, t + min (BASE_BACKOFF_MS * 2 ^ failures.length) MAX_BACKOFF_MS ≤ time

/-- Every job was enqueued when it might be. -/
def BacksOff (log : List Entry) : Prop :=
  ∀ later earlier s time, log = later ++ .enqueued s time :: earlier →
    MayEnqueue (consecutiveFailures s earlier) time

theorem backsOff_nil : BacksOff [] := fun _ _ _ _ h => by simp at h

theorem BacksOff.cons {log : List Entry} (h : BacksOff log) {entry : Entry}
    (hentry : ∀ s time, entry = .enqueued s time → MayEnqueue (consecutiveFailures s log) time) :
    BacksOff (entry :: log) := by
  intro later earlier s time heq
  cases later with
  | nil =>
    obtain ⟨rfl, rfl⟩ := List.cons.inj heq
    exact hentry s time rfl
  | cons e later =>
    obtain ⟨-, rfl⟩ := List.cons.inj heq
    exact h later earlier s time rfl

theorem mayEnqueue_nil (time : ℕ) : MayEnqueue [] time := ⟨by decide, by simp⟩

theorem MayEnqueue.mono {failures : List ℕ} {time time' : ℕ} (h : MayEnqueue failures time)
    (hle : time ≤ time') : MayEnqueue failures time' :=
  ⟨h.1, fun t ht => (h.2 t ht).trans hle⟩

/-- A collection that fails is that of a job with a single attempt. -/
def SingleAttempt (st : IncrementalCollection) : SchedulerStep → Prop
  | .work jobId collection =>
    collection = .succeeds ∨ ∀ job ∈ st.jobs.get jobId, job.maxAttempts ≤ 1
  | _ => True

/-- A collection that fails ends its job as failed, job ids are separate, and a run
    is cleaned up only when none of its jobs is left. -/
def HardFailing (st : IncrementalCollection) (e : SchedulerStep) : Prop :=
  st.SingleAttempt e ∧ st.Separate e

instance (st : IncrementalCollection) : (e : SchedulerStep) → Decidable (st.SingleAttempt e)
  | .work .. => inferInstanceAs (Decidable (_ ∨ _))
  | .advance _ | .handleCron _ | .check | .abandon | .add | .register | .finish | .deliver _
  | .remove _ | .cleanupTestRun _ => isTrue trivial

instance (st : IncrementalCollection) (e : SchedulerStep) : Decidable (HardFailing st e) :=
  inferInstanceAs (Decidable (_ ∧ _))

variable {st st' : IncrementalCollection} {maxRetries : ℕ}

/-- The failures of a source that are to be counted. -/
def failures (st : IncrementalCollection) (s : RunSource) : List ℕ := consecutiveFailures s st.log

/-- The number of failures that the scheduler counts for a source. -/
def counted (st : IncrementalCollection) (s : RunSource) : ℕ :=
  (st.failureCounts.get s.buildSourceKey).getD 0

/-- Failures are counted, up to the last one. -/
structure CountedBy (failures : List ℕ) (count : ℕ) (lastFailure : Option ℕ) : Prop where
  /-- None is missed. -/
  count : failures.length ≤ count
  /-- None is after the last one that is recorded. -/
  last : ∀ t ∈ failures, ∃ time, lastFailure = some time ∧ 0 < time ∧ t ≤ time

/-- The failures of a source are counted. -/
def Counted (st : IncrementalCollection) (s : RunSource) : Prop :=
  CountedBy (st.failures s) (st.counted s) (st.lastFailureTime.get s.buildSourceKey)

theorem Counted.of_nil {s : RunSource} (h : st.failures s = []) : st.Counted s :=
  ⟨by simp [h], by simp [h]⟩

/-- A source whose failures are counted is not skipped only if it may be enqueued. -/
theorem Counted.mayEnqueue {s : RunSource} (h : st.Counted s)
    (hskip : st.shouldSkipDueToBackoff s.buildSourceKey = false) :
    MayEnqueue (st.failures s) st.now := by
  cases hf : st.failures s with
  | nil => exact mayEnqueue_nil _
  | cons t₀ rest =>
    rw [← hf]
    have hpos : 0 < (st.failures s).length := by simp [hf]
    have hcount := h.count
    rw [counted] at hcount
    rw [shouldSkipDueToBackoff] at hskip
    dsimp only at hskip
    rw [if_neg (by omega)] at hskip
    split at hskip
    · cases hskip
    · rename_i hstop
      refine ⟨by omega, fun t ht => ?_⟩
      obtain ⟨time, htime, hpos', hle⟩ := h.last t ht
      obtain ⟨n, rfl⟩ : ∃ n, time = n + 1 := ⟨time - 1, by omega⟩
      rw [htime] at hskip
      replace hskip := of_decide_eq_false hskip
      have hmono : min (BASE_BACKOFF_MS * 2 ^ (st.failures s).length) MAX_BACKOFF_MS ≤
          min (BASE_BACKOFF_MS *
            2 ^ (st.failureCounts.get s.buildSourceKey).getD 0) MAX_BACKOFF_MS :=
        min_le_min_right _ (Nat.mul_le_mul_left _ (Nat.pow_le_pow_right (by decide) hcount))
      have hbackoff : 0 < min (BASE_BACKOFF_MS * 2 ^ (st.failures s).length) MAX_BACKOFF_MS :=
        lt_min (Nat.mul_pos (by decide) (Nat.pow_pos (by decide))) (by decide)
      omega

/-- A job with a single attempt ends with its execution: it completes if it
    succeeded, and fails otherwise. -/
theorem executed_of_hard {job : CollectionJob} {c : Collection} (hattempt : job.attempt = 1)
    (hhard : c = .succeeds ∨ job.maxAttempts ≤ 1) :
    job.retried c = false ∧ (incrementalMetricsWorker job c = .success ∨
      incrementalMetricsWorker job c = .thrown) := by
  rw [CollectionJob.retried]
  cases c with
  | succeeds =>
    rw [incrementalMetricsWorker, hattempt]
    by_cases hvalid : 1 ≤ job.maxAttempts
    · simp [hvalid]
    · simp [show job.maxAttempts = 0 by omega]
  | fails | unavailable =>
    obtain hhard | hhard := hhard
    · cases hhard
    · have hlast : job.maxAttempts ≤ job.attemptsMade + 1 := by omega
      simp [incrementalMetricsWorker, hattempt, hhard, hlast]

/-- The failures of every source are counted, or their event is still to be told. -/
structure Counts (st : IncrementalCollection) : Prop extends st.Tracked where
  /-- The scheduler makes the first attempt of every job. -/
  attempt : ∀ jobId job, st.jobs.get jobId = some job → job.attempt = 1
  /-- The time is after its origin. -/
  clock : 0 < st.now
  /-- The failures are in the past. -/
  past : ∀ s, ∀ t ∈ st.failures s, t ≤ st.now
  /-- The failures of a source without a job are counted. -/
  idle : ∀ s : RunSource, s.buildSourceKey ∉ st.inFlightJobs →
    (∀ jobId, st.visit ≠ .registering s jobId) → st.Counted s
  /-- So are those of a source whose job is not finished. -/
  unfinished : ∀ jobId job, st.Unfinished jobId job → st.Counted job.source
  /-- A job that failed adds one to the failures that are counted. -/
  failed : ∀ event ∈ st.events, ∀ job, st.jobs.get event.jobId = some job →
    event.failed = true → (st.failures job.source).length ≤ st.counted job.source + 1
  /-- A job that completed succeeded. -/
  completed : ∀ event ∈ st.events, ∀ job, st.jobs.get event.jobId = some job →
    event.failed = false → st.failures job.source = []
  /-- The source that is looked up may be enqueued. -/
  lookingUp : ∀ s, st.visit = .lookingUp s → MayEnqueue (st.failures s) st.now
  /-- Every job was enqueued when it might be. -/
  backsOff : BacksOff st.log

/-- A source that is visited has no job whose end is to be told. -/
theorem Tracked.not_outstanding (h : st.Tracked) {s : RunSource} (hvisit : st.visit = .lookingUp s)
    {jobId : String} {job : CollectionJob} (hjob : st.jobs.get jobId = some job)
    (hsource : job.source = s) : ¬st.Outstanding jobId := by
  intro hout
  rcases h.outstanding jobId job hjob hout with hreg | hreg
  · exact h.visits s (.inl hvisit) (h.inFlight jobId _ (hsource ▸ hreg))
  · rw [hvisit] at hreg
    cases hreg

theorem Counted.congr {s : RunSource} (h : st.Counted s) (hlog : st'.failures s = st.failures s)
    (hcount : st'.failureCounts.get s.buildSourceKey = st.failureCounts.get s.buildSourceKey)
    (htime : st'.lastFailureTime.get s.buildSourceKey = st.lastFailureTime.get s.buildSourceKey) :
    st'.Counted s := by
  constructor
  · rw [hlog, counted, hcount]
    exact h.count
  · rw [hlog, htime]
    exact h.last

/-- What a source's failures are after an execution. -/
theorem failures_execute {jobId : String} {job : CollectionJob} {c : Collection} (s : RunSource) :
    (st.execute jobId job c).failures s =
      if job.source = s then
        if incrementalMetricsWorker job c = .success then [] else st.now :: st.failures s
      else st.failures s := by
  rw [failures, execute]
  dsimp only
  split <;> simp [consecutiveFailures, failures]

theorem Counts.execute (h : st.Counts) {jobId : String} {job : CollectionJob} {c : Collection}
    (htracked : (st.execute jobId job c).Tracked) (hjob : st.Unfinished jobId job)
    (hhard : c = .succeeds ∨ job.maxAttempts ≤ 1) : (st.execute jobId job c).Counts := by
  obtain ⟨hretried, hresult⟩ := executed_of_hard (h.attempt jobId job hjob.1) hhard
  have hget : ∀ id, (st.execute jobId job c).jobs.get id =
      if id = jobId then some (job.executed c) else st.jobs.get id := fun id => by
    simp [IncrementalCollection.execute]
  have hevents : (st.execute jobId job c).events =
      st.events ++ [⟨jobId, incrementalMetricsWorker job c = .thrown⟩] := by
    simp [IncrementalCollection.execute, hretried]
  have hcounted : st.Counted job.source := h.unfinished jobId job hjob
  have hother : ∀ {s}, job.source ≠ s → (st.execute jobId job c).failures s = st.failures s :=
    fun hne => by rw [failures_execute, if_neg hne]
  -- No other job of the source is to end, and the source is in flight.
  have hunique : ∀ {id job'}, st.jobs.get id = some job' → st.Outstanding id →
      job'.source = job.source → id = jobId := fun hjob' hout hsource =>
    h.outstanding_unique hjob' hjob.1 hout hjob.outstanding hsource
  have hevent : ∀ event ∈ st.events, ∀ job', (st.execute jobId job c).jobs.get event.jobId =
      some job' → st.jobs.get event.jobId = some job' ∧ job.source ≠ job'.source := by
    intro event hevent job' hjob'
    have hid : event.jobId ≠ jobId := fun hid =>
      h.not_event hjob (hid ▸ List.mem_map_of_mem hevent)
    rw [hget, if_neg hid] at hjob'
    exact ⟨hjob', fun hsource => hid (hunique hjob' (.inr ⟨event, hevent, rfl⟩) hsource.symm)⟩
  have hinFlight : ∀ {s : RunSource}, s.buildSourceKey ∉ st.inFlightJobs →
      (∀ jobId, st.visit ≠ .registering s jobId) → job.source ≠ s := by
    rintro s hs hvisit rfl
    rcases h.outstanding jobId job hjob.1 hjob.outstanding with hreg | hreg
    · exact hs (h.inFlight jobId _ hreg)
    · exact hvisit jobId hreg
  refine
    { htracked with
      attempt := fun id job' hjob' => ?_
      clock := h.clock
      past := fun s t ht => ?_
      idle := fun s hs hvisit =>
        (h.idle s hs hvisit).congr (hother (hinFlight hs hvisit)) rfl rfl
      unfinished := fun id job' hjob' => ?_
      failed := fun event hmem job' hjob' hfailed => ?_
      completed := fun event hmem job' hjob' hfailed => ?_
      lookingUp := fun s hvisit => ?_
      backsOff := h.backsOff.cons fun s time heq => by split at heq <;> cases heq }
  · rw [hget] at hjob'
    split at hjob'
    · cases hjob'
      exact h.attempt jobId job hjob.1
    · exact h.attempt id job' hjob'
  · rw [failures_execute] at ht
    split at ht
    · split at ht
      · cases ht
      · rcases List.mem_cons.1 ht with rfl | ht
        · exact le_rfl
        · exact h.past s t ht
    · exact h.past s t ht
  · have hid : id ≠ jobId := by
      rintro rfl
      have hfinished : (job.executed c).finished = true := by
        simp [CollectionJob.executed, hretried]
      have hexecuted := hjob'.1
      rw [hget, if_pos rfl, Option.some.injEq] at hexecuted
      rw [hexecuted, hjob'.2] at hfinished
      cases hfinished
    have hold : st.Unfinished id job' := ⟨by rw [← hjob'.1, hget, if_neg hid], hjob'.2⟩
    have hne : job.source ≠ job'.source := fun hsource =>
      hid (hunique hold.1 hold.outstanding hsource.symm)
    exact (h.unfinished id job' hold).congr (hother hne) rfl rfl
  · rw [hevents] at hmem
    rcases List.mem_append.1 hmem with hmem | hmem
    · obtain ⟨hjob', hne⟩ := hevent event hmem job' hjob'
      rw [hother hne]
      exact h.failed event hmem job' hjob' hfailed
    · obtain rfl := List.mem_singleton.1 hmem
      have hthrown := of_decide_eq_true hfailed
      rw [hget, if_pos rfl] at hjob'
      cases hjob'
      rw [CollectionJob.executed_source, failures_execute, if_pos rfl, if_neg (by simp [hthrown]),
        List.length_cons]
      exact Nat.succ_le_succ hcounted.count
  · rw [hevents] at hmem
    rcases List.mem_append.1 hmem with hmem | hmem
    · obtain ⟨hjob', hne⟩ := hevent event hmem job' hjob'
      rw [hother hne]
      exact h.completed event hmem job' hjob' hfailed
    · obtain rfl := List.mem_singleton.1 hmem
      have hsuccess := hresult.resolve_right (of_decide_eq_false hfailed)
      rw [hget, if_pos rfl] at hjob'
      cases hjob'
      rw [CollectionJob.executed_source, failures_execute, if_pos rfl, if_pos hsuccess]
  · rw [hother fun hsource => h.not_outstanding hvisit hjob.1 hsource hjob.outstanding]
    exact h.lookingUp s hvisit

theorem Counts.addJob (h : st.Counts) {s : RunSource} (hvisit : st.visit = .lookingUp s)
    (htracked : (st.addJob maxRetries s).Tracked) : (st.addJob maxRetries s).Counts := by
  have hidle : st.Counted s := h.idle s (h.visits s (.inl hvisit)) (by simp [hvisit])
  have hjobs : ∀ {id job}, (st.addJob maxRetries s).jobs.get id = some job →
      st.jobs.get id = some job ∨ job = { source := s, maxAttempts := maxRetries } := by
    intro id job hjob
    simp only [IncrementalCollection.addJob, Table.get_insert] at hjob
    split at hjob
    · rename_i hid
      rw [hid]
      cases hold : st.jobs.get (s.buildDedupJobId st.now) with
      | none =>
        rw [hold] at hjob
        exact .inr (Option.some.inj hjob).symm
      | some old =>
        rw [hold] at hjob
        exact .inl hjob
    · exact .inl hjob
  -- The jobs of the events are known.
  have hevent : ∀ event ∈ st.events, ∀ job,
      (st.addJob maxRetries s).jobs.get event.jobId = some job →
        st.jobs.get event.jobId = some job := by
    intro event hevent job hjob
    obtain ⟨job', hjob', -⟩ := h.event_finished event hevent
    simp only [IncrementalCollection.addJob, Table.get_insert] at hjob
    split at hjob
    · rename_i hid
      rw [← hid, hjob'] at hjob
      rw [hjob', ← hjob]
      rfl
    · exact hjob
  refine
    { htracked with
      attempt := fun id job hjob => ?_
      clock := h.clock
      past := h.past
      idle := fun s' hs' _ => h.idle s' hs' (by simp [hvisit])
      unfinished := fun id job hjob => ?_
      failed := fun event hmem job hjob => h.failed event hmem job (hevent event hmem job hjob)
      completed := fun event hmem job hjob =>
        h.completed event hmem job (hevent event hmem job hjob)
      lookingUp := fun s' hs' => by cases hs'
      backsOff := h.backsOff.cons fun s' time heq => by cases heq; exact h.lookingUp s hvisit }
  · rcases hjobs hjob with hold | rfl
    · exact h.attempt id job hold
    · rfl
  · rcases hjobs hjob.1 with hold | rfl
    · exact (h.unfinished id job ⟨hold, hjob.2⟩)
    · exact hidle

theorem failures_onEvent (event : QueueEvent) (s : RunSource) :
    (st.onEvent event).failures s = st.failures s := by
  cases hreg : st.jobIdToSourceKey.get event.jobId with
  | none => rw [onEvent_of_none hreg]
  | some key => rw [onEvent_of_some hreg]; rfl

/-- After the event of its job the failures of a source are counted. -/
theorem counted_onEvent {event : QueueEvent} {s : RunSource} (hreg : st.Registered event.jobId s)
    (hpos : 0 < st.now) (hpast : ∀ t ∈ st.failures s, t ≤ st.now)
    (hfailed : event.failed = true → (st.failures s).length ≤ st.counted s + 1)
    (hcompleted : event.failed = false → st.failures s = []) : (st.onEvent event).Counted s := by
  cases hevent : event.failed with
  | false => exact .of_nil ((failures_onEvent event s).trans (hcompleted hevent))
  | true =>
    constructor
    · rw [failures_onEvent, counted, onEvent, hreg]
      simpa [hevent, recordFailure, counted] using hfailed hevent
    · intro t ht
      rw [failures_onEvent] at ht
      refine ⟨st.now, ?_, hpos, hpast t ht⟩
      rw [onEvent, hreg]
      simp [hevent, recordFailure]

/-- The event of a job leaves what is counted for other keys. -/
theorem get_onEvent {event : QueueEvent} {key key' : String}
    (hreg : st.jobIdToSourceKey.get event.jobId = some key) (hne : key' ≠ key) :
    (st.onEvent event).failureCounts.get key' = st.failureCounts.get key' ∧
      (st.onEvent event).lastFailureTime.get key' = st.lastFailureTime.get key' := by
  rw [onEvent, hreg]
  cases event.failed with
  | true => simp [recordFailure, hne]
  | false =>
    simp only [recordSuccess, Bool.false_eq_true, if_false]
    split <;> simp [hne]

theorem Counted.onEvent {event : QueueEvent} {s s' : RunSource} (h : st.Counted s')
    (hreg : st.Registered event.jobId s) (hne : s' ≠ s) : (st.onEvent event).Counted s' := by
  have hkey : s'.buildSourceKey ≠ s.buildSourceKey := fun heq => hne (buildSourceKey_injective heq)
  exact h.congr (failures_onEvent event s') (get_onEvent hreg hkey).1 (get_onEvent hreg hkey).2

theorem Counts.deliver (h : st.Counts) {event : QueueEvent} (hmem : event ∈ st.events)
    (htracked : Tracked { st.onEvent event with events := st.events.erase event }) :
    Counts { st.onEvent event with events := st.events.erase event } := by
  have hsub : ∀ {e}, e ∈ st.events.erase event → e ∈ st.events := List.mem_of_mem_erase
  cases hreg : st.jobIdToSourceKey.get event.jobId with
  | none =>
    rw [onEvent_of_none hreg] at htracked ⊢
    exact
      { htracked, h with
        failed := fun e he => h.failed e (hsub he)
        completed := fun e he => h.completed e (hsub he) }
  | some key =>
    obtain ⟨job, hjob, hfinished⟩ := h.event_finished event hmem
    obtain rfl := h.own event.jobId job key hjob hreg
    have hcounted : (st.onEvent event).Counted job.source :=
      counted_onEvent hreg h.clock (h.past job.source) (h.failed event hmem job hjob)
        (h.completed event hmem job hjob)
    -- What is counted stays counted, for this source and for others.
    have hkeep : ∀ {s}, st.Counted s ∨ s = job.source → (st.onEvent event).Counted s := by
      intro s hs
      by_cases hsource : s = job.source
      · exact hsource ▸ hcounted
      · exact (hs.resolve_right hsource).onEvent hreg hsource
    have hlog : ∀ s, (st.onEvent event).failures s = st.failures s := failures_onEvent event
    have hvisit : (st.onEvent event).visit = st.visit := onEvent_visit event
    have hjobs : (st.onEvent event).jobs = st.jobs := onEvent_jobs event
    have hnow : (st.onEvent event).now = st.now := by rw [onEvent_of_some hreg]
    have hentries : (st.onEvent event).log = st.log := by rw [onEvent_of_some hreg]
    refine
      { htracked with
        attempt := fun id job' hjob' => h.attempt id job' (hjobs ▸ hjob')
        clock := hnow ▸ h.clock
        past := fun s t ht => hnow.symm ▸ h.past s t (hlog s ▸ ht)
        idle := fun s hs hvisit' => hkeep ?_
        unfinished := fun id job' hjob' =>
          hkeep (.inl (h.unfinished id job' ⟨hjobs ▸ hjob'.1, hjob'.2⟩))
        failed := fun e he job' hjob' hfailed => ?_
        completed := fun e he job' hjob' hcompleted =>
          (hlog _).trans (h.completed e (hsub he) job' (hjobs ▸ hjob') hcompleted)
        lookingUp := fun s hs => ?_
        backsOff := hentries ▸ h.backsOff }
    · by_cases hsource : s = job.source
      · exact .inr hsource
      · refine .inl (h.idle s (fun hin => hs ?_) fun jobId hv => hvisit' jobId (hvisit.trans hv))
        rw [onEvent_of_some hreg]
        exact Finset.mem_erase.2 ⟨fun heq => hsource (buildSourceKey_injective heq), hin⟩
    · by_cases hsource : job'.source = job.source
      · rw [hsource]
        exact hcounted.count.trans (Nat.le_succ _)
      · have hcount := h.failed e (hsub he) job' (hjobs ▸ hjob') hfailed
        have hkey : job'.source.buildSourceKey ≠ job.source.buildSourceKey := fun heq =>
          hsource (buildSourceKey_injective heq)
        rw [counted, ← (get_onEvent hreg hkey).1, ← hlog] at hcount
        exact hcount
    · have hmay := h.lookingUp s (hvisit ▸ hs)
      rw [← hlog, ← hnow] at hmay
      exact hmay

theorem Counts.cleanupTestRun (h : st.Counts) {testRunId : String}
    (htracked : (st.cleanupTestRun testRunId).Tracked) :
    (st.cleanupTestRun testRunId).Counts := by
  have hlog : ∀ s, (st.cleanupTestRun testRunId).failures s =
      if keyOfRun testRunId s.buildSourceKey then [] else st.failures s := fun s => rfl
  -- The sources of the run have no failures left, the others keep what is counted.
  have hother : ∀ {s : RunSource}, ¬keyOfRun testRunId s.buildSourceKey = true →
      (st.cleanupTestRun testRunId).failureCounts.get s.buildSourceKey =
          st.failureCounts.get s.buildSourceKey ∧
        (st.cleanupTestRun testRunId).lastFailureTime.get s.buildSourceKey =
          st.lastFailureTime.get s.buildSourceKey := fun {s} hrun => by
    have htrue : ∀ o : Option ℕ, o.filter (fun _ => true) = o := fun o => by cases o <;> rfl
    simp [IncrementalCollection.cleanupTestRun, Table.get_filter, hrun, htrue]
  have hkeep : ∀ {s}, (keyOfRun testRunId s.buildSourceKey = false → st.Counted s) →
      (st.cleanupTestRun testRunId).Counted s := fun {s} hs => by
    by_cases hrun : keyOfRun testRunId s.buildSourceKey = true
    · exact .of_nil ((hlog s).trans (if_pos hrun))
    · exact (hs (eq_false_of_ne_true hrun)).congr ((hlog s).trans (if_neg hrun)) (hother hrun).1
        (hother hrun).2
  refine
    { htracked with
      attempt := h.attempt
      clock := h.clock
      past := fun s t ht => ?_
      idle := fun s hs hvisit => hkeep fun hrun => h.idle s (fun hin => hs ?_) hvisit
      unfinished := fun id job hjob => hkeep fun _ => h.unfinished id job hjob
      failed := fun event hmem job hjob hfailed => ?_
      completed := fun event hmem job hjob hcompleted => ?_
      lookingUp := fun s hs => ?_
      backsOff := h.backsOff.cons fun s time heq => by cases heq }
  · rw [hlog] at ht
    split at ht
    · cases ht
    · exact h.past s t ht
  · exact Finset.mem_filter.2 ⟨hin, by simp [hrun]⟩
  · rw [hlog]
    split
    · exact Nat.zero_le _
    · rename_i hrun
      rw [counted, (hother hrun).1]
      exact h.failed event hmem job hjob hfailed
  · rw [hlog, h.completed event hmem job hjob hcompleted, ite_self]
  · rw [hlog]
    split
    · exact mayEnqueue_nil _
    · exact h.lookingUp s hs

theorem Counts.register (h : st.Counts) {s : RunSource} {jobId : String}
    (hvisit : st.visit = .registering s jobId) :
    Counts
      { st with
        jobIdToSourceKey := st.jobIdToSourceKey.set jobId s.buildSourceKey
        inFlightJobs := insert s.buildSourceKey st.inFlightJobs
        visit := .none } :=
  { h.toTracked.register hvisit, h with
    idle := fun s' hs' _ => by
      rw [Finset.mem_insert, not_or] at hs'
      refine h.idle s' hs'.2 fun id hv => hs'.1 ?_
      rw [hvisit, Visit.registering.injEq] at hv
      rw [hv.1]
    lookingUp := fun s' hs' => by cases hs' }

/-- The scheduler turns from one source to the next. -/
theorem Counts.turn (h : st.Counts) (hvisit : ∀ s jobId, st.visit ≠ .registering s jobId)
    {visit : Visit} (pending : Option (List RunSource))
    (hmay : ∀ s, visit = .lookingUp s → MayEnqueue (st.failures s) st.now)
    (htracked : Tracked { st with pending, visit }) : Counts { st with pending, visit } :=
  { htracked, h with
    idle := fun s hs _ => h.idle s hs (hvisit s)
    lookingUp := hmay }

theorem Counts.step {e : SchedulerStep} (h : st.Counts) (hok : HardFailing st e)
    (hstep : step maxRetries st e = some st') : st'.Counts := by
  have htracked : st'.Tracked := h.toTracked.step hok.2 hstep
  cases StepTo.of_step hstep with
  | advance ms =>
    exact
      { htracked, h with
        clock := Nat.add_pos_left h.clock ms
        past := fun s t ht => Nat.le_add_right_of_le (h.past s t ht)
        lookingUp := fun s hs => (h.lookingUp s hs).mono (Nat.le_add_right _ _) }
  | handleCron | finish => exact { htracked, h with }
  | skip pending hvisit =>
    exact h.turn (by simp [hvisit]) _ (fun _ hs => by cases hs) htracked
  | lookUp s pending hvisit hbackoff hinFlight =>
    refine h.turn (by simp [hvisit]) _ (fun s' hs => ?_) htracked
    cases hs
    exact Counted.mayEnqueue (h.idle s hinFlight (by simp [hvisit])) hbackoff
  | abandon s pending hvisit =>
    exact h.turn (by simp [hvisit]) _ (fun _ hs => by cases hs) htracked
  | add s hvisit => exact h.addJob hvisit htracked
  | register s jobId hvisit => exact h.register hvisit
  | work jobId job collection hjob hunfinished =>
    exact h.execute htracked ⟨hjob, hunfinished⟩ (hok.1.imp_right fun hall => hall job hjob)
  | deliver event hmem => exact h.deliver hmem htracked
  | remove jobId job hjob hfinished hevents =>
    have hjobs : ∀ {id job'}, (st.jobs.erase jobId).get id = some job' →
        st.jobs.get id = some job' := fun {id job'} hget => by
      rw [Table.get_erase] at hget
      split at hget
      · cases hget
      · exact hget
    exact
      { htracked, h with
        attempt := fun id job' hjob' => h.attempt id job' (hjobs hjob')
        unfinished := fun id job' hjob' => h.unfinished id job' ⟨hjobs hjob'.1, hjob'.2⟩
        failed := fun event hmem job' hjob' => h.failed event hmem job' (hjobs hjob')
        completed := fun event hmem job' hjob' => h.completed event hmem job' (hjobs hjob') }
  | cleanupTestRun testRunId => exact h.cleanupTestRun htracked

theorem counts_start {now : ℕ} (hnow : 0 < now) : Counts { now } :=
  { tracked_start now with
    attempt := by simp
    clock := hnow
    past := fun _ _ ht => absurd ht List.not_mem_nil
    idle := fun _ _ _ => .of_nil rfl
    unfinished := fun _ _ hjob => by cases hjob.1
    failed := fun _ hmem => absurd hmem List.not_mem_nil
    completed := fun _ hmem => absurd hmem List.not_mem_nil
    lookingUp := fun _ hs => by cases hs
    backsOff := backsOff_nil }

/-- Along every run in which a collection that fails ends its job as failed, the
    scheduler backs off from a source that fails. -/
theorem run_backsOff (maxRetries : ℕ) {now : ℕ} (hnow : 0 < now) {es : List SchedulerStep}
    (h : Run (IncrementalCollection.step maxRetries) HardFailing { now } es st) :
    BacksOff st.log := by
  have hcounts : st.Counts :=
    h.state_invariant (counts_start hnow) fun _ _ _ hst hok hstep => hst.step hok hstep
  exact hcounts.backsOff

/-- The source fails, is backed off from for two minutes, and enqueued again. -/
def backedOff : List SchedulerStep :=
  tick ++ [.work (performanceTest.buildDedupJobId 60000) .fails,
    .deliver ⟨performanceTest.buildDedupJobId 60000, true⟩, .advance 60000,
    .handleCron [performanceTest], .check, .finish, .advance 60000] ++ tick

theorem run_backsOff_backedOff : ∃ st,
    Run (IncrementalCollection.step 1) HardFailing { now := 60000 } backedOff st ∧
      st.log = [.enqueued performanceTest 180000, .failed performanceTest 60000,
        .enqueued performanceTest 60000] ∧ BacksOff st.log := by
  have htest : (backedOff.foldlM (Run.checked (IncrementalCollection.step 1) HardFailing)
      { now := 60000 }).any (fun st => st.log = [.enqueued performanceTest 180000,
        .failed performanceTest 60000, .enqueued performanceTest 60000]) = true := by
    decide +kernel
  obtain ⟨st, hrun, hlog⟩ := Run.exists_of_checked htest
  exact ⟨st, hrun, of_decide_eq_true hlog, run_backsOff 1 (by decide) hrun⟩

/-- A minute in which the source is enqueued and fails: the worker returns that it
    failed, and the queue tells that the job has completed. -/
def softFailure (minute : ℕ) : List SchedulerStep :=
  let jobId := performanceTest.buildDedupJobId (60000 * minute)
  tick ++ [.work jobId .fails, .deliver ⟨jobId, false⟩, .advance 60000]

/-- Five such minutes, and the next tick. -/
def softFailures : List SchedulerStep :=
  [1, 2, 3, 4, 5].flatMap softFailure ++ [.handleCron [performanceTest], .check, .add]

/-- After five failures in a row the source is enqueued again. -/
theorem soft_failures_never_back_off : ∃ st earlier,
    Run (IncrementalCollection.step 5) (fun _ _ => True) { now := 60000 } softFailures st ∧
      st.log = .enqueued performanceTest 360000 :: earlier ∧
      (consecutiveFailures performanceTest earlier).length = 5 ∧ ¬BacksOff st.log := by
  have htest : (softFailures.foldlM (Run.checked (IncrementalCollection.step 5) fun _ _ => True)
      { now := 60000 }).any (fun st =>
        st.log.head? = some (.enqueued performanceTest 360000) ∧
          (consecutiveFailures performanceTest st.log.tail).length = 5) = true := by
    decide +kernel
  obtain ⟨st, hrun, htest⟩ := Run.exists_of_checked htest
  obtain ⟨hhead, hfive⟩ := of_decide_eq_true htest
  have hlog : st.log = .enqueued performanceTest 360000 :: st.log.tail :=
    List.eq_cons_of_mem_head? hhead
  refine ⟨st, st.log.tail, hrun, hlog, hfive, fun h => ?_⟩
  have hmay := (h [] st.log.tail performanceTest 360000 hlog).1
  rw [hfive] at hmay
  exact absurd hmay (by decide)

end IncrementalCollection

end Perfana
