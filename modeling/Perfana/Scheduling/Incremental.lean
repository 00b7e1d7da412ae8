import Mathlib.Algebra.Group.Nat.Defs
import Mathlib.Data.Finset.Erase
import Mathlib.Data.Finset.Filter
import Mathlib.Data.Finset.Insert
import Mathlib.Tactic.SplitIfs
import Perfana.Lib.Run
import Perfana.Lib.Table
import Perfana.Lib.Text

/-!
# The scheduler of incremental collections

Every minute the scheduler visits the sources of the runs in progress and enqueues
a collection for each of them, unless the source is backing off or has a job in
flight. It learns how a job ended from the events of the queue, by a map from job
ids to sources that it fills in when the queue has answered. The system below
interleaves the scheduler with the worker, the queue and its events.

* `buildSourceKey_injective`: the scheduler tells the sources apart;
* `Tracked`: a job whose end is still to be told is registered for its source, or
  about to be, and no other job is;
* `Tracked.step`: every step keeps it, unless a job id is that of a job of another
  source, or a run is cleaned up that has jobs left (`Separate`).
-/

namespace Perfana

/-! ## Sources and their keys -/

/-- The id of an instance that metrics are collected from. -/
@[ext] structure SourceId where
  /-- The id. -/
  text : String
  /-- Ids are UUIDs: the separator of keys is not in them. -/
  separated : ':' ∉ text.toList
  deriving DecidableEq

/-- Where metrics are collected from. -/
inductive MetricSource
  | grafana (sourceId : SourceId)
  | dynatrace (sourceId : SourceId)
  | performanceTest
  deriving DecidableEq

namespace MetricSource

def sourceType : MetricSource → String
  | grafana _ => "grafana"
  | dynatrace _ => "dynatrace"
  | performanceTest => "performance_test"

def sourceId : MetricSource → Option SourceId
  | grafana id | dynatrace id => some id
  | performanceTest => none

end MetricSource

/-- A source of a run. -/
structure RunSource where
  testRunId : String
  source : MetricSource
  deriving DecidableEq

namespace RunSource

/-- The key of a source in the failure tracking. -/
def buildSourceKey (s : RunSource) : String :=
  s.testRunId ++ "::" ++ s.source.sourceType ++ "::" ++
    (s.source.sourceId.map SourceId.text).getD "null"

/-- The id of a job, the same for all jobs of a source in a minute. -/
def buildDedupJobId (s : RunSource) (now : ℕ) : String :=
  let id := "incremental." ++ s.testRunId ++ "." ++ s.source.sourceType ++ "." ++
    (s.source.sourceId.map SourceId.text).getD "" ++ "." ++ toString (now / 60000)
  .ofList (id.toList.map fun c => if c = ':' then '.' else c)

end RunSource

/-- The keys of the sources of a run. -/
def keyOfRun (testRunId key : String) : Bool := (testRunId ++ "::").toList.isPrefixOf key.toList

/-- Different sources have different keys, whatever the id of the run. -/
theorem buildSourceKey_injective : Function.Injective RunSource.buildSourceKey := by
  rintro ⟨run, source⟩ ⟨run', source'⟩ h
  have hid : ∀ source : MetricSource,
      ':' ∉ ((source.sourceId.map SourceId.text).getD "null").toList := fun source => by
    cases source with
    | grafana id | dynatrace id => exact id.separated
    | performanceTest => decide
  have htype : ∀ source : MetricSource, ':' ∉ source.sourceType.toList := fun source => by
    cases source <;> simp only [MetricSource.sourceType] <;> decide
  have hkey : ∀ (run : String) (source : MetricSource),
      (RunSource.buildSourceKey ⟨run, source⟩).toList =
        ((run.toList ++ [':']) ++ ':' :: source.sourceType.toList ++ [':']) ++
          ':' :: ((source.sourceId.map SourceId.text).getD "null").toList := fun run source => by
    simp [RunSource.buildSourceKey]
  -- The id and the type hold no separator: the key is read from its end.
  replace h := congrArg String.toList h
  rw [hkey, hkey] at h
  obtain ⟨h, hids⟩ := Text.append_last_sep_inj (hid _) (hid _) h
  obtain ⟨h, htypes⟩ := Text.append_last_sep_inj (htype _) (htype _) (List.append_cancel_right h)
  obtain rfl : run = run' := String.toList_injective (List.append_cancel_right h)
  replace hids := String.toList_injective hids
  replace htypes := String.toList_injective htypes
  clear hid htype hkey
  cases source <;> cases source' <;>
    simp_all [MetricSource.sourceType, MetricSource.sourceId, SourceId.ext_iff]

/-! ## The worker -/

/-- How a collection of metrics goes. -/
inductive Collection
  /-- The metrics are collected, or there is nothing to do. -/
  | succeeds
  /-- The collection returns or throws an error. -/
  | fails
  /-- The worker cannot start it, for lack of a database. -/
  | unavailable
  deriving DecidableEq

/-- A collection job. -/
structure CollectionJob where
  /-- The source it collects from. -/
  source : RunSource
  /-- The attempt, as the scheduler numbers it. -/
  attempt : ℕ := 1
  /-- The number of attempts, for the worker and for the queue. -/
  maxAttempts : ℕ
  /-- The number of attempts that the queue has made. -/
  attemptsMade : ℕ := 0
  /-- It has completed or failed. -/
  finished : Bool := false
  deriving DecidableEq

/-- What the worker does with a job: it returns a status, or throws. -/
inductive JobResult
  | success
  | failed
  | thrown
  deriving DecidableEq

def incrementalMetricsWorker (job : CollectionJob) : Collection → JobResult
  | .unavailable => .thrown
  | .succeeds =>
    -- A job without any attempt is not valid.
    if 1 ≤ job.attempt ∧ 1 ≤ job.maxAttempts then .success else .thrown
  | .fails =>
    if 1 ≤ job.attempt ∧ 1 ≤ job.maxAttempts then
      if job.attempt < job.maxAttempts then .failed else .thrown
    else .thrown

namespace CollectionJob

variable (job : CollectionJob) (collection : Collection)

/-- The queue retries a job that throws and has attempts left. -/
def retried : Bool :=
  incrementalMetricsWorker job collection = .thrown && job.attemptsMade + 1 < job.maxAttempts

/-- The job after an execution. -/
def executed : CollectionJob :=
  { job with attemptsMade := job.attemptsMade + 1, finished := !job.retried collection }

@[simp] theorem executed_source : (job.executed collection).source = job.source := rfl

end CollectionJob

/-! ## The system -/

/-- An event of the queue: a job has completed, or failed. -/
structure QueueEvent where
  jobId : String
  /-- It has failed. -/
  failed : Bool
  deriving DecidableEq

/-- Where the scheduler is with the source that it visits. -/
inductive Visit
  /-- It visits none. -/
  | none
  /-- It looks up how far the source has been collected. -/
  | lookingUp (source : RunSource)
  /-- It has added a job, and is about to register it. -/
  | registering (source : RunSource) (jobId : String)
  deriving DecidableEq

/-- What happened, as far as failures and jobs are concerned. -/
inductive Entry
  /-- A collection of the source failed. -/
  | failed (source : RunSource) (time : ℕ)
  /-- A collection of the source succeeded. -/
  | succeeded (source : RunSource)
  /-- The failures of a run were cleaned up. -/
  | cleanedUp (testRunId : String)
  /-- A job was enqueued for the source. -/
  | enqueued (source : RunSource) (time : ℕ)
  deriving DecidableEq

/-- The scheduler, the queue with its jobs, and what happened. -/
structure IncrementalCollection where
  /-- The time, in milliseconds. -/
  now : ℕ
  /-- The number of failures of each source. -/
  failureCounts : Table String ℕ := .empty
  /-- The time of the last failure of each source. -/
  lastFailureTime : Table String ℕ := .empty
  /-- The sources of the jobs that are registered. -/
  jobIdToSourceKey : Table String String := .empty
  /-- The sources that have a job in flight. -/
  inFlightJobs : Finset String := ∅
  /-- The sources that the tick that runs has still to visit, if one runs. -/
  pending : Option (List RunSource) := none
  /-- Where the tick is. -/
  visit : Visit := .none
  /-- The jobs that the queue knows, also finished ones that it keeps. -/
  jobs : Table String CollectionJob := .empty
  /-- The events that are not delivered yet. -/
  events : List QueueEvent := []
  /-- What happened, the last first. -/
  log : List Entry := []

/-- A step of the system. -/
inductive SchedulerStep
  /-- Time passes. -/
  | advance (ms : ℕ)
  /-- The clock starts a tick over the sources of the runs in progress. -/
  | handleCron (sources : List RunSource)
  /-- The tick turns to its next source. -/
  | check
  /-- The lookup, or adding the job, throws. -/
  | abandon
  /-- The job is added to the queue. -/
  | add
  /-- The job is registered. -/
  | register
  /-- The tick ends. -/
  | finish
  /-- The worker executes a job. -/
  | work (jobId : String) (collection : Collection)
  /-- An event is delivered. -/
  | deliver (event : QueueEvent)
  /-- The queue removes a finished job. -/
  | remove (jobId : String)
  /-- The failure tracking of a run is cleaned up. -/
  | cleanupTestRun (testRunId : String)

namespace IncrementalCollection

/-- The longest backoff. -/
def MAX_BACKOFF_MS : ℕ := 600000

def BASE_BACKOFF_MS : ℕ := 60000

/-- The number of failures after which a source is given up. -/
def FAILURE_STOP_THRESHOLD : ℕ := 5

variable (st : IncrementalCollection)

/-- A source is not collected for a while after a failure, and no more after many. -/
def shouldSkipDueToBackoff (sourceKey : String) : Bool :=
  let failureCount := (st.failureCounts.get sourceKey).getD 0
  if failureCount = 0 then false
  else if FAILURE_STOP_THRESHOLD ≤ failureCount then true
  else
    match st.lastFailureTime.get sourceKey with
    | none | some 0 => false
    | some lastFailure =>
      let backoffMs := min (BASE_BACKOFF_MS * 2 ^ failureCount) MAX_BACKOFF_MS
      st.now - lastFailure < backoffMs

/-- A failure of a source is counted. -/
def recordFailure (sourceKey : String) : IncrementalCollection :=
  { st with
    failureCounts :=
      st.failureCounts.set sourceKey ((st.failureCounts.get sourceKey).getD 0 + 1)
    lastFailureTime := st.lastFailureTime.set sourceKey st.now }

/-- A success of a source resets its failures. -/
def recordSuccess (sourceKey : String) : IncrementalCollection :=
  let failed := (st.failureCounts.get sourceKey).isSome
  { st with
    failureCounts := if failed then st.failureCounts.erase sourceKey else st.failureCounts
    lastFailureTime := if failed then st.lastFailureTime.erase sourceKey else st.lastFailureTime }

/-- The failure tracking of a run is removed. -/
def cleanupTestRun (testRunId : String) : IncrementalCollection :=
  { st with
    lastFailureTime := st.lastFailureTime.filter fun key _ =>
      !(keyOfRun testRunId key && (st.failureCounts.get key).isSome)
    failureCounts := st.failureCounts.filter fun key _ => !keyOfRun testRunId key
    inFlightJobs := st.inFlightJobs.filter fun key => !keyOfRun testRunId key
    jobIdToSourceKey := st.jobIdToSourceKey.filter fun _ key => !keyOfRun testRunId key
    log := .cleanedUp testRunId :: st.log }

/-- The handlers of the events of the queue. -/
def onEvent (event : QueueEvent) : IncrementalCollection :=
  match st.jobIdToSourceKey.get event.jobId with
  | none => st
  | some sourceKey =>
    let recorded := if event.failed then st.recordFailure sourceKey else st.recordSuccess sourceKey
    { recorded with
      inFlightJobs := st.inFlightJobs.erase sourceKey
      jobIdToSourceKey := st.jobIdToSourceKey.erase event.jobId }

/-- A job is added to the queue, unless the queue knows its id. -/
def addJob (maxRetries : ℕ) (s : RunSource) : IncrementalCollection :=
  let jobId := s.buildDedupJobId st.now
  { st with
    visit := .registering s jobId
    jobs := st.jobs.insert (fun known _ => known) jobId { source := s, maxAttempts := maxRetries }
    log := .enqueued s st.now :: st.log }

/-- The worker executes a job: the queue retries it if it throws and has attempts
    left, and else tells that it has completed or failed. -/
def execute (jobId : String) (job : CollectionJob) (collection : Collection) :
    IncrementalCollection :=
  let result := incrementalMetricsWorker job collection
  { st with
    jobs := st.jobs.set jobId (job.executed collection)
    events :=
      if job.retried collection then st.events else st.events ++ [⟨jobId, result = .thrown⟩]
    log :=
      (if result = .success then .succeeded job.source else .failed job.source st.now) :: st.log }

/-- What a step does. -/
def step (maxRetries : ℕ) (st : IncrementalCollection) :
    SchedulerStep → Option IncrementalCollection
  | .advance ms => some { st with now := st.now + ms }
  | .handleCron sources =>
    -- A tick that comes while another one runs is skipped.
    if st.pending.isSome then some st else some { st with pending := some sources }
  | .check =>
    match st.pending, st.visit with
    | some (s :: pending), .none =>
      let skipped := st.shouldSkipDueToBackoff s.buildSourceKey ||
        s.buildSourceKey ∈ st.inFlightJobs
      some
        { st with
          pending := some pending
          visit := if skipped then .none else .lookingUp s }
    | _, _ => none
  | .abandon =>
    match st.visit with
    | .lookingUp s =>
      -- The other sources of the run are left out.
      some
        { st with
          pending := st.pending.map fun pending =>
            pending.dropWhile fun s' => s'.testRunId = s.testRunId
          visit := .none }
    | _ => none
  | .add =>
    match st.visit with
    | .lookingUp s => some (st.addJob maxRetries s)
    | _ => none
  | .register =>
    match st.visit with
    | .registering s jobId =>
      some
        { st with
          jobIdToSourceKey := st.jobIdToSourceKey.set jobId s.buildSourceKey
          inFlightJobs := insert s.buildSourceKey st.inFlightJobs
          visit := .none }
    | _ => none
  | .finish =>
    if st.pending = some [] ∧ st.visit = .none then some { st with pending := none } else none
  | .work jobId collection =>
    match st.jobs.get jobId with
    | some job => if job.finished then none else some (st.execute jobId job collection)
    | none => none
  | .deliver event =>
    if event ∈ st.events then some { st.onEvent event with events := st.events.erase event }
    else none
  | .remove jobId =>
    match st.jobs.get jobId with
    | some job =>
      if job.finished ∧ ∀ event ∈ st.events, event.jobId ≠ jobId then
        some { st with jobs := st.jobs.erase jobId }
      else none
    | none => none
  | .cleanupTestRun testRunId => some (st.cleanupTestRun testRunId)

/-- The steps, case by case. -/
inductive StepTo (maxRetries : ℕ) (st : IncrementalCollection) :
    SchedulerStep → IncrementalCollection → Prop
  | advance (ms : ℕ) : StepTo maxRetries st (.advance ms) { st with now := st.now + ms }
  | handleCron (sources : List RunSource) (pending : Option (List RunSource)) :
      StepTo maxRetries st (.handleCron sources) { st with pending }
  | skip (pending : List RunSource) (hvisit : st.visit = .none) :
      StepTo maxRetries st .check { st with pending := some pending, visit := .none }
  | lookUp (s : RunSource) (pending : List RunSource) (hvisit : st.visit = .none)
      (hbackoff : st.shouldSkipDueToBackoff s.buildSourceKey = false)
      (hinFlight : s.buildSourceKey ∉ st.inFlightJobs) :
      StepTo maxRetries st .check { st with pending := some pending, visit := .lookingUp s }
  | abandon (s : RunSource) (pending : Option (List RunSource)) (hvisit : st.visit = .lookingUp s) :
      StepTo maxRetries st .abandon { st with pending, visit := .none }
  | add (s : RunSource) (hvisit : st.visit = .lookingUp s) :
      StepTo maxRetries st .add (st.addJob maxRetries s)
  | register (s : RunSource) (jobId : String) (hvisit : st.visit = .registering s jobId) :
      StepTo maxRetries st .register
        { st with
          jobIdToSourceKey := st.jobIdToSourceKey.set jobId s.buildSourceKey
          inFlightJobs := insert s.buildSourceKey st.inFlightJobs
          visit := .none }
  | finish : StepTo maxRetries st .finish { st with pending := none }
  | work (jobId : String) (job : CollectionJob) (collection : Collection)
      (hjob : st.jobs.get jobId = some job) (hunfinished : job.finished = false) :
      StepTo maxRetries st (.work jobId collection) (st.execute jobId job collection)
  | deliver (event : QueueEvent) (hevent : event ∈ st.events) :
      StepTo maxRetries st (.deliver event)
        { st.onEvent event with events := st.events.erase event }
  | remove (jobId : String) (job : CollectionJob) (hjob : st.jobs.get jobId = some job)
      (hfinished : job.finished = true) (hevents : ∀ event ∈ st.events, event.jobId ≠ jobId) :
      StepTo maxRetries st (.remove jobId) { st with jobs := st.jobs.erase jobId }
  | cleanupTestRun (testRunId : String) :
      StepTo maxRetries st (.cleanupTestRun testRunId) (st.cleanupTestRun testRunId)

theorem StepTo.of_step {maxRetries : ℕ} {st st' : IncrementalCollection} {e : SchedulerStep}
    (h : step maxRetries st e = some st') : StepTo maxRetries st e st' := by
  cases e <;> rw [step] at h
  case advance ms =>
    cases h
    exact .advance ms
  case handleCron sources =>
    split at h <;> cases h
    · exact .handleCron sources st.pending
    · exact .handleCron sources _
  case check =>
    split at h
    · rename_i s pending hpending hvisit
      cases h
      split
      · exact .skip pending hvisit
      · rename_i hskip
        rw [Bool.or_eq_true, not_or, Bool.not_eq_true, decide_eq_true_eq] at hskip
        exact .lookUp s pending hvisit hskip.1 hskip.2
    · cases h
  case abandon =>
    split at h <;> cases h
    exact .abandon _ _ ‹_›
  case add =>
    split at h <;> cases h
    exact .add _ ‹_›
  case register =>
    split at h <;> cases h
    exact .register _ _ ‹_›
  case finish =>
    split at h <;> cases h
    exact .finish
  case work jobId collection =>
    split at h
    · rename_i job hjob
      split at h <;> cases h
      exact .work jobId job collection hjob (eq_false_of_ne_true ‹_›)
    · cases h
  case deliver event =>
    split at h <;> cases h
    exact .deliver event ‹_›
  case remove jobId =>
    split at h
    · rename_i job hjob
      split at h <;> cases h
      rename_i hremove
      exact .remove jobId job hjob hremove.1 hremove.2
    · cases h
  case cleanupTestRun testRunId =>
    cases h
    exact .cleanupTestRun testRunId

/-! ## What is registered -/

/-- The key of a source is registered for a job id. -/
def Registered (jobId : String) (s : RunSource) : Prop :=
  st.jobIdToSourceKey.get jobId = some s.buildSourceKey

/-- The queue holds the job, and it is not finished. -/
def Unfinished (jobId : String) (job : CollectionJob) : Prop :=
  st.jobs.get jobId = some job ∧ job.finished = false

/-- The end of the job is still to be told: it is not finished, or its event is
    not delivered. -/
def Outstanding (jobId : String) : Prop :=
  (∃ job, st.Unfinished jobId job) ∨ ∃ event ∈ st.events, event.jobId = jobId

/-- The scheduler is about to add or to register a job of the source. -/
def Visits (s : RunSource) : Prop :=
  st.visit = .lookingUp s ∨ ∃ jobId, st.visit = .registering s jobId

/-- The jobs in flight are tracked. -/
structure Tracked : Prop where
  /-- The queue knows the jobs of its events, which are finished. -/
  event_finished : ∀ event ∈ st.events, ∃ job,
    st.jobs.get event.jobId = some job ∧ job.finished = true
  /-- No job has two events. -/
  event_nodup : (st.events.map QueueEvent.jobId).Nodup
  /-- What is registered is in flight. -/
  inFlight : ∀ jobId key, st.jobIdToSourceKey.get jobId = some key → key ∈ st.inFlightJobs
  /-- No two jobs are registered for one key. -/
  unique : ∀ jobId jobId' key, st.jobIdToSourceKey.get jobId = some key →
    st.jobIdToSourceKey.get jobId' = some key → jobId = jobId'
  /-- A source that is visited is not in flight. -/
  visits : ∀ s, st.Visits s → s.buildSourceKey ∉ st.inFlightJobs
  /-- A job whose end is to be told is registered, or about to be. -/
  outstanding : ∀ jobId job, st.jobs.get jobId = some job → st.Outstanding jobId →
    st.Registered jobId job.source ∨ st.visit = .registering job.source jobId
  /-- A job is registered for its own source only. -/
  own : ∀ jobId job key, st.jobs.get jobId = some job →
    st.jobIdToSourceKey.get jobId = some key → key = job.source.buildSourceKey
  /-- A job that is about to be registered is one of the source. -/
  registering : ∀ jobId job s, st.jobs.get jobId = some job → st.visit = .registering s jobId →
    s = job.source

/-- The job that a visit adds has the id of no job of another source. -/
def OwnId (st : IncrementalCollection) : Visit → Prop
  | .lookingUp s =>
    (∀ job ∈ st.jobs.get (s.buildDedupJobId st.now), job.source = s) ∧
      ∀ key ∈ st.jobIdToSourceKey.get (s.buildDedupJobId st.now), key = s.buildSourceKey
  | _ => True

/-- No job of a run whose failure tracking is cleaned up is left. -/
def NoneLeft (st : IncrementalCollection) (testRunId : String) : Prop :=
  ∀ row ∈ st.jobIdToSourceKey.rows, keyOfRun testRunId row.2 = true → ¬st.Outstanding row.1

/-- The job ids of different sources are different, and a run is cleaned up only
    when the end of all its jobs is told. -/
def Separate (st : IncrementalCollection) : SchedulerStep → Prop
  | .add => st.OwnId st.visit
  | .cleanupTestRun testRunId => st.NoneLeft testRunId
  | _ => True

instance (jobId : String) : Decidable (st.Outstanding jobId) :=
  inferInstanceAs (Decidable ((∃ job ∈ st.jobs.get jobId, job.finished = false) ∨
    ∃ event ∈ st.events, event.jobId = jobId))

instance : (visit : Visit) → Decidable (st.OwnId visit)
  | .lookingUp _ => inferInstanceAs (Decidable (_ ∧ _))
  | .none | .registering .. => isTrue trivial

instance (testRunId : String) : Decidable (st.NoneLeft testRunId) :=
  inferInstanceAs (Decidable (∀ row ∈ st.jobIdToSourceKey.rows, _))

instance : (e : SchedulerStep) → Decidable (st.Separate e)
  | .add => inferInstanceAs (Decidable (st.OwnId _))
  | .cleanupTestRun testRunId => inferInstanceAs (Decidable (st.NoneLeft testRunId))
  | .advance _ | .handleCron _ | .check | .abandon | .register | .finish | .work .. | .deliver _
  | .remove _ => isTrue trivial

section Steps

variable {st} {maxRetries : ℕ}

theorem Unfinished.outstanding {jobId : String} {job : CollectionJob}
    (h : st.Unfinished jobId job) : st.Outstanding jobId := .inl ⟨job, h⟩

/-- A job that is not finished has no event. -/
theorem Tracked.not_event (h : st.Tracked) {jobId : String} {job : CollectionJob}
    (hjob : st.Unfinished jobId job) : jobId ∉ st.events.map QueueEvent.jobId := by
  intro hmem
  obtain ⟨event, hevent, rfl⟩ := List.mem_map.1 hmem
  obtain ⟨job', hjob', hfinished⟩ := h.event_finished event hevent
  rw [hjob.1, Option.some.injEq] at hjob'
  rw [← hjob', hjob.2] at hfinished
  cases hfinished

/-- The job of an event has no other event. -/
theorem Tracked.not_mem_erase (h : st.Tracked) {event : QueueEvent} (hevent : event ∈ st.events) :
    event.jobId ∉ (st.events.erase event).map QueueEvent.jobId := by
  have hnodup := ((List.perm_cons_erase hevent).map QueueEvent.jobId).nodup_iff.1 h.event_nodup
  rw [List.map_cons, List.nodup_cons] at hnodup
  exact hnodup.1

/-- Of the jobs of a source, the end of at most one is to be told. -/
theorem Tracked.outstanding_unique (h : st.Tracked) {id id' : String} {job job' : CollectionJob}
    (hjob : st.jobs.get id = some job) (hjob' : st.jobs.get id' = some job')
    (hout : st.Outstanding id) (hout' : st.Outstanding id') (hsource : job.source = job'.source) :
    id = id' := by
  -- A job that is registered is in flight, and then no other one is visited.
  have hvisit : ∀ {i j s}, st.Registered i s → st.visit = .registering s j → False :=
    fun hreg hvisit => h.visits _ (.inr ⟨_, hvisit⟩) (h.inFlight _ _ hreg)
  rcases h.outstanding id job hjob hout with hreg | hreg <;>
    rcases h.outstanding id' job' hjob' hout' with hreg' | hreg'
  · exact h.unique _ _ _ hreg (hsource ▸ hreg')
  · exact (hvisit hreg (hsource ▸ hreg')).elim
  · exact (hvisit hreg' (hsource ▸ hreg)).elim
  · rw [hreg, Visit.registering.injEq] at hreg'
    exact hreg'.2

/-- Executing a job leaves what is outstanding, or ends it. -/
theorem Outstanding.of_execute {jobId jobId' : String} {job : CollectionJob} {c : Collection}
    (hjob : st.Unfinished jobId job) (h : (st.execute jobId job c).Outstanding jobId') :
    st.Outstanding jobId' := by
  by_cases hid : jobId' = jobId
  · exact hid ▸ hjob.outstanding
  · rcases h with ⟨job', hget, hunfinished⟩ | ⟨event, hevent, hid'⟩
    · refine .inl ⟨job', ?_, hunfinished⟩
      simpa [execute, hid] using hget
    · refine .inr ⟨event, ?_, hid'⟩
      dsimp only [execute] at hevent
      split at hevent
      · exact hevent
      · rcases List.mem_append.1 hevent with hevent | hevent
        · exact hevent
        · obtain rfl := List.mem_singleton.1 hevent
          exact absurd hid'.symm hid

theorem Tracked.execute (h : st.Tracked) {jobId : String} {job : CollectionJob}
    (hjob : st.Unfinished jobId job) (c : Collection) : (st.execute jobId job c).Tracked := by
  -- The job keeps its source.
  have hsource : ∀ {id job'}, (st.execute jobId job c).jobs.get id = some job' →
      ∃ old, st.jobs.get id = some old ∧ old.source = job'.source := fun {id job'} hget => by
    by_cases hid : id = jobId
    · subst hid
      obtain rfl : _ = job' := by simpa [IncrementalCollection.execute] using hget
      exact ⟨job, hjob.1, rfl⟩
    · exact ⟨job', by simpa [IncrementalCollection.execute, hid] using hget, rfl⟩
  refine ⟨fun event hevent => ?_, ?_, h.inFlight, h.unique, h.visits, fun id job' hget hout => ?_,
    fun id job' s hget hreg => ?_, fun id job' s hget hvisit => ?_⟩
  · dsimp only [IncrementalCollection.execute] at hevent ⊢
    by_cases hid : event.jobId = jobId
    · split at hevent
      · -- A job that is retried has no event.
        exact absurd (hid ▸ List.mem_map_of_mem hevent) (h.not_event hjob)
      · rename_i hretried
        exact ⟨job.executed c, by rw [Table.get_set, if_pos hid],
          by simp [CollectionJob.executed, hretried]⟩
    · have hold : event ∈ st.events := by
        split at hevent
        · exact hevent
        · rcases List.mem_append.1 hevent with hevent | hevent
          · exact hevent
          · obtain rfl := List.mem_singleton.1 hevent
            exact absurd rfl hid
      obtain ⟨job', hget, hfinished⟩ := h.event_finished event hold
      exact ⟨job', by rw [Table.get_set, if_neg hid, hget], hfinished⟩
  · dsimp only [IncrementalCollection.execute]
    split
    · exact h.event_nodup
    · rw [List.map_append, List.nodup_append_comm, List.map_singleton, List.singleton_append,
        List.nodup_cons]
      exact ⟨h.not_event hjob, h.event_nodup⟩
  · obtain ⟨old, hold, heq⟩ := hsource hget
    rw [← heq]
    exact h.outstanding id old hold (hout.of_execute hjob)
  · obtain ⟨old, hold, heq⟩ := hsource hget
    rw [← heq]
    exact h.own id old s hold hreg
  · obtain ⟨old, hold, heq⟩ := hsource hget
    exact (h.registering id old s hold hvisit).trans heq

theorem Tracked.addJob (h : st.Tracked) {s : RunSource} (hvisit : st.visit = .lookingUp s)
    (hown : st.OwnId (.lookingUp s)) : (st.addJob maxRetries s).Tracked := by
  obtain ⟨hjobs, hreg⟩ := hown
  have hget : ∀ id, (st.addJob maxRetries s).jobs.get id =
      if id = s.buildDedupJobId st.now then
        some ((st.jobs.get id).getD { source := s, maxAttempts := maxRetries })
      else st.jobs.get id := fun id => by
    simp only [IncrementalCollection.addJob, Table.get_insert]
    split
    · rename_i hid
      rw [hid]
      cases st.jobs.get (s.buildDedupJobId st.now) <;> rfl
    · rfl
  -- The job of the new id is one of the source.
  have hnew : ∀ job, (st.addJob maxRetries s).jobs.get (s.buildDedupJobId st.now) = some job →
      job.source = s := fun job hjob => by
    rw [hget, if_pos rfl, Option.some.injEq] at hjob
    cases hold : st.jobs.get (s.buildDedupJobId st.now) with
    | none =>
      rw [hold] at hjob
      exact hjob ▸ rfl
    | some old =>
      rw [hold] at hjob
      exact hjob ▸ hjobs old hold
  refine ⟨fun event hevent => ?_, h.event_nodup, h.inFlight, h.unique, fun s' hs' => ?_,
    fun id job hjob hout => ?_, fun id job s' hjob hs' => ?_, fun id job s' hjob hs' => ?_⟩
  · obtain ⟨job, hjob, hfinished⟩ := h.event_finished event hevent
    refine ⟨job, ?_, hfinished⟩
    rw [hget, hjob]
    split <;> rfl
  · refine h.visits s' ?_
    rcases hs' with hs' | ⟨id, hs'⟩
    · cases hs'
    · cases hs'
      exact .inl hvisit
  · by_cases hid : id = s.buildDedupJobId st.now
    · subst hid
      exact .inr (by rw [hnew job hjob]; rfl)
    · rw [hget, if_neg hid] at hjob
      have hout' : st.Outstanding id := by
        rcases hout with ⟨job', hjob', hunfinished⟩ | hevent
        · rw [hget, if_neg hid] at hjob'
          exact .inl ⟨job', hjob', hunfinished⟩
        · exact .inr hevent
      rcases h.outstanding id job hjob hout' with hold | hold
      · exact .inl hold
      · rw [hvisit] at hold
        cases hold
  · by_cases hid : id = s.buildDedupJobId st.now
    · subst hid
      rw [hnew job hjob]
      exact hreg _ hs'
    · rw [hget, if_neg hid] at hjob
      exact h.own id job s' hjob hs'
  · cases hs'
    exact (hnew job hjob).symm

theorem Tracked.register (h : st.Tracked) {s : RunSource} {jobId : String}
    (hvisit : st.visit = .registering s jobId) :
    Tracked
      { st with
        jobIdToSourceKey := st.jobIdToSourceKey.set jobId s.buildSourceKey
        inFlightJobs := insert s.buildSourceKey st.inFlightJobs
        visit := .none } := by
  have hnot : s.buildSourceKey ∉ st.inFlightJobs := h.visits s (.inr ⟨jobId, hvisit⟩)
  refine ⟨h.event_finished, h.event_nodup, fun id key hkey => ?_, fun id id' key hkey hkey' => ?_,
    fun s' hs' => ?_, fun id job hjob hout => ?_, fun id job s' hjob hreg => ?_,
    fun id job s' hjob hs' => by cases hs'⟩
  · rw [Table.get_set] at hkey
    split at hkey
    · cases hkey
      exact Finset.mem_insert_self _ _
    · exact Finset.mem_insert_of_mem (h.inFlight id key hkey)
  · rw [Table.get_set] at hkey hkey'
    split at hkey <;> split at hkey'
    · rename_i hid hid'
      rw [hid, hid']
    · cases hkey
      exact absurd (h.inFlight id' _ hkey') hnot
    · cases hkey'
      exact absurd (h.inFlight id _ hkey) hnot
    · exact h.unique id id' key hkey hkey'
  · rcases hs' with hs' | ⟨id, hs'⟩ <;> cases hs'
  · refine .inl ?_
    rw [Registered, Table.get_set]
    split
    · rename_i hid
      rw [h.registering id job s hjob (hid ▸ hvisit)]
    · rename_i hid
      rcases h.outstanding id job hjob hout with hreg | hreg
      · exact hreg
      · rw [hvisit, Visit.registering.injEq] at hreg
        exact absurd hreg.2.symm hid
  · rw [Table.get_set] at hreg
    split at hreg
    · rename_i hid
      rw [← Option.some.inj hreg, h.registering id job s hjob (hid ▸ hvisit)]
    · exact h.own id job s' hjob hreg

/-- An event of a job that is not registered has no effect. -/
theorem onEvent_of_none {event : QueueEvent} (h : st.jobIdToSourceKey.get event.jobId = none) :
    st.onEvent event = st := by
  rw [onEvent, h]

/-- What an event of a registered job does, the failures of its source aside. -/
theorem onEvent_of_some {event : QueueEvent} {key : String}
    (h : st.jobIdToSourceKey.get event.jobId = some key) :
    st.onEvent event =
      { st with
        failureCounts := (st.onEvent event).failureCounts
        lastFailureTime := (st.onEvent event).lastFailureTime
        inFlightJobs := st.inFlightJobs.erase key
        jobIdToSourceKey := st.jobIdToSourceKey.erase event.jobId } := by
  rw [onEvent, h]
  cases hfailed : event.failed <;> simp [recordFailure, recordSuccess]

theorem onEvent_jobs (event : QueueEvent) : (st.onEvent event).jobs = st.jobs := by
  cases h : st.jobIdToSourceKey.get event.jobId with
  | none => rw [onEvent_of_none h]
  | some key => rw [onEvent_of_some h]

theorem onEvent_visit (event : QueueEvent) : (st.onEvent event).visit = st.visit := by
  cases h : st.jobIdToSourceKey.get event.jobId with
  | none => rw [onEvent_of_none h]
  | some key => rw [onEvent_of_some h]

/-- What is outstanding after an event is delivered was so before. -/
theorem Outstanding.of_erase {event : QueueEvent} {jobId : String}
    (h : Outstanding { st with events := st.events.erase event } jobId) :
    st.Outstanding jobId := by
  rcases h with hjob | ⟨e, he, hid⟩
  · exact .inl hjob
  · exact .inr ⟨e, List.mem_of_mem_erase he, hid⟩

theorem Tracked.deliver (h : st.Tracked) {event : QueueEvent} (hevent : event ∈ st.events) :
    Tracked { st.onEvent event with events := st.events.erase event } := by
  have hsub : ∀ {e}, e ∈ st.events.erase event → e ∈ st.events := List.mem_of_mem_erase
  have hnodup : ((st.events.erase event).map QueueEvent.jobId).Nodup :=
    h.event_nodup.sublist (List.erase_sublist.map _)
  cases hkey : st.jobIdToSourceKey.get event.jobId with
  | none =>
    rw [onEvent_of_none hkey]
    exact ⟨fun e he => h.event_finished e (hsub he), hnodup, h.inFlight, h.unique, h.visits,
      fun id job hjob hout => h.outstanding id job hjob hout.of_erase, h.own, h.registering⟩
  | some key =>
    rw [onEvent_of_some hkey]
    have hother : ∀ {id key'}, (st.jobIdToSourceKey.erase event.jobId).get id = some key' →
        id ≠ event.jobId ∧ st.jobIdToSourceKey.get id = some key' := fun {id key'} hget => by
      rw [Table.get_erase] at hget
      split at hget
      · cases hget
      · exact ⟨‹_›, hget⟩
    refine ⟨fun e he => h.event_finished e (hsub he), hnodup, fun id key' hget => ?_,
      fun id id' key' hget hget' => h.unique id id' key' (hother hget).2 (hother hget').2,
      fun s hs hmem => h.visits s hs (Finset.mem_of_mem_erase hmem), fun id job hjob hout => ?_,
      fun id job s hjob hreg => h.own id job s hjob (hother hreg).2, h.registering⟩
    · -- The key of the event is registered for no other job.
      obtain ⟨hid, hreg⟩ := hother hget
      refine Finset.mem_erase.2 ⟨?_, h.inFlight id key' hreg⟩
      rintro rfl
      exact hid (h.unique id event.jobId _ hreg hkey)
    · have hid : id ≠ event.jobId := by
        rintro rfl
        rcases hout with ⟨job', hjob'⟩ | ⟨e, he, hid⟩
        · exact h.not_event hjob' (List.mem_map_of_mem hevent)
        · exact h.not_mem_erase hevent (hid ▸ List.mem_map_of_mem he)
      rcases h.outstanding id job hjob hout.of_erase with hreg | hreg
      · exact .inl (by rw [Registered, Table.get_erase, if_neg hid]; exact hreg)
      · exact .inr hreg

theorem Tracked.remove (h : st.Tracked) {jobId : String}
    (hevents : ∀ event ∈ st.events, event.jobId ≠ jobId) :
    Tracked { st with jobs := st.jobs.erase jobId } := by
  have hjobs : ∀ {id job}, (st.jobs.erase jobId).get id = some job →
      st.jobs.get id = some job := fun {id job} hget => by
    rw [Table.get_erase] at hget
    split at hget
    · cases hget
    · exact hget
  refine ⟨fun event hevent => ?_, h.event_nodup, h.inFlight, h.unique, h.visits,
    fun id job hjob hout => h.outstanding id job (hjobs hjob) ?_,
    fun id job s hjob hreg => h.own id job s (hjobs hjob) hreg,
    fun id job s hjob hvisit => h.registering id job s (hjobs hjob) hvisit⟩
  · obtain ⟨job, hjob, hfinished⟩ := h.event_finished event hevent
    exact ⟨job, by rw [Table.get_erase, if_neg (hevents event hevent), hjob], hfinished⟩
  · rcases hout with ⟨job', hjob', hunfinished⟩ | hevent
    · exact .inl ⟨job', hjobs hjob', hunfinished⟩
    · exact .inr hevent

theorem Tracked.cleanupTestRun (h : st.Tracked) {testRunId : String}
    (hleft : st.NoneLeft testRunId) :
    (st.cleanupTestRun testRunId).Tracked := by
  have hget : ∀ {id key}, (st.cleanupTestRun testRunId).jobIdToSourceKey.get id = some key ↔
      st.jobIdToSourceKey.get id = some key ∧ keyOfRun testRunId key = false := fun {id key} => by
    simp [IncrementalCollection.cleanupTestRun, Table.get_filter, Option.filter_eq_some_iff]
  refine ⟨h.event_finished, h.event_nodup, fun id key hkey => ?_,
    fun id id' key hkey hkey' => h.unique id id' key (hget.1 hkey).1 (hget.1 hkey').1,
    fun s hs hmem => h.visits s hs (Finset.mem_of_mem_filter _ hmem), fun id job hjob hout => ?_,
    fun id job s hjob hreg => h.own id job s hjob (hget.1 hreg).1, h.registering⟩
  · refine Finset.mem_filter.2 ⟨h.inFlight id key (hget.1 hkey).1, ?_⟩
    rw [(hget.1 hkey).2]
    rfl
  · rcases h.outstanding id job hjob hout with hreg | hreg
    · refine .inl (hget.2 ⟨hreg, ?_⟩)
      exact eq_false_of_ne_true fun hkey => hleft (id, _) (Table.mem_rows.2 hreg) hkey hout
    · exact .inr hreg

/-- The scheduler turns from one source to the next. -/
theorem Tracked.turn (h : st.Tracked) (hvisit : ∀ s jobId, st.visit ≠ .registering s jobId)
    {visit : Visit} (pending : Option (List RunSource))
    (hvisit' : visit = .none ∨
      ∃ s, visit = .lookingUp s ∧ s.buildSourceKey ∉ st.inFlightJobs) :
    Tracked { st with pending, visit } := by
  have hnot : ∀ s jobId, visit ≠ .registering s jobId := by
    rintro s jobId rfl
    rcases hvisit' with hv | ⟨_, hv, -⟩ <;> cases hv
  refine
    { h with
      visits := fun s hs => ?_
      outstanding := fun id job hjob hout => ?_
      registering := fun id job s _ hs => absurd hs (hnot s id) }
  · rcases hs with hs | ⟨id, hs⟩
    · rcases hvisit' with rfl | ⟨s', rfl, hs'⟩ <;> cases hs
      exact hs'
    · exact absurd hs (hnot s id)
  · rcases h.outstanding id job hjob hout with hreg | hreg
    · exact .inl hreg
    · exact absurd hreg (hvisit _ _)

/-- Every step keeps track of the jobs, if job ids are separate. -/
theorem Tracked.step {e : SchedulerStep} {st' : IncrementalCollection} (h : st.Tracked)
    (hseparate : Separate st e) (hstep : step maxRetries st e = some st') : st'.Tracked := by
  cases StepTo.of_step hstep with
  | advance | handleCron | finish => exact { h with }
  | skip pending hvisit => exact h.turn (by simp [hvisit]) _ (.inl rfl)
  | lookUp s pending hvisit hbackoff hinFlight =>
    exact h.turn (by simp [hvisit]) _ (.inr ⟨s, rfl, hinFlight⟩)
  | abandon s pending hvisit => exact h.turn (by simp [hvisit]) _ (.inl rfl)
  | add s hvisit =>
    rw [Separate, hvisit] at hseparate
    exact h.addJob hvisit hseparate
  | register s jobId hvisit => exact h.register hvisit
  | work jobId job collection hjob hunfinished => exact h.execute ⟨hjob, hunfinished⟩ collection
  | deliver event hevent => exact h.deliver hevent
  | remove jobId job hjob hfinished hevents => exact h.remove hevents
  | cleanupTestRun testRunId => exact h.cleanupTestRun hseparate

/-- At the start nothing is tracked. -/
theorem tracked_start (now : ℕ) : Tracked { now } where
  event_finished := by simp
  event_nodup := List.nodup_nil
  inFlight := by simp
  unique := by simp
  visits := by simp
  outstanding := by simp
  own := by simp
  registering := by simp

end Steps

/-- The performance test of a run. -/
def performanceTest : RunSource := ⟨"run", .performanceTest⟩

/-- A tick that enqueues it. -/
def tick : List SchedulerStep :=
  [.handleCron [performanceTest], .check, .add, .register, .finish]

end IncrementalCollection

end Perfana
