import Mathlib.Algebra.Order.Round
import Mathlib.Data.Rat.Floor
import Perfana.Lib.Expiring
import Perfana.Lib.Run
import Perfana.Scheduling.JobLock
import Perfana.Scheduling.StuckJobs

/-!
# The progress of a job

A job reports its progress: a record of Redis, which expires, and a message to whom it may
concern. What the pipeline says of its stages is published at once; what a stage says of itself
is kept back for half a second, so that at most one publication in half a second is due to a
timer. A publication is a chain of commands, which are executed while the job, and the timer, go
on, each chain before the next; a chain that fails is not tried again.

* `shows_state`: whatever the interleaving, when no timer runs and no command is on its way, the
  record, unless it has expired, is what the reporter would publish, if the last publication has
  not failed;
* `inv_of_run`: where nothing is reported once the job is over, the record that says so is the last
  one ever published;
* `ascended_of_run`: where stages start in order and do not go back, the published percentages
  never fall, and are percentages.
-/

namespace Perfana

/-- A stage, under the name that it is shown with. -/
structure PipelineStage where
  id : String
  name : String

def pipelineStages : List PipelineStage :=
  [⟨"dynatrace-collection", "Dynatrace collection"⟩,
    ⟨"panels-processing", "Panels processing"⟩,
    ⟨"performance-test-metrics", "Performance test metrics"⟩,
    ⟨"transaction-stats-rollup", "Transaction stats rollup"⟩,
    ⟨"metrics-collection", "Metrics collection"⟩,
    ⟨"statistics-calculation", "Statistics calculation"⟩,
    ⟨"checks-evaluation", "Checks evaluation"⟩,
    ⟨"control-groups-creation", "Control groups creation"⟩,
    ⟨"control-group-statistics", "Control group statistics"⟩,
    ⟨"adapt-analysis", "ADAPT analysis"⟩,
    ⟨"data-sanity-check", "Data sanity check"⟩]

def getStageName (stageId : String) : String :=
  match pipelineStages.find? (·.id = stageId) with
  | some stage => stage.name
  | none => stageId

/-- The part of a job that is done, in per cent, in a stage (counted from 1). -/
def calculateOverallProgress (stageIndex totalStages : ℕ) (stageProgress : ℚ) : ℤ :=
  if totalStages = 0 then 0
  else
    let completedStagesProgress : ℚ := ((stageIndex : ℚ) - 1) / totalStages * 100
    let currentStageContribution : ℚ := stageProgress / totalStages
    min 100 (round (completedStagesProgress + currentStageContribution))

def formatProgressMessage (stageName : String) (overallProgress : ℤ) : String :=
  s!"{stageName} - {overallProgress}%"

def progressKeyPrefix : String := "job:progress:"

def progressDebounceMs : ℕ := 500

/-- The test run that a stage is working on. -/
structure CurrentTestRun where
  testRunId : String
  index : ℕ
  total : ℕ
deriving DecidableEq

/-- The job that a reporter is made for. -/
structure ReportedJob where
  jobId : String
  testRunId : String
  systemUnderTestId : String
  testEnvironment : String
  workload : String
  jobType : JobType
  stages : List String
deriving DecidableEq

structure ProgressReporter where
  job : ReportedJob
  startedAt : ℕ
  lastProgressAt : ℕ
  /-- The place of the current stage, counted from 1. -/
  currentStageIndex : ℕ := 0
  currentStageProgress : ℚ := 0
  currentStage : String := ""
  status : JobStatus := .active
  /-- Why the job is parked, which is shown in place of the stage. -/
  waitingMessage : Option String := none
  currentTestRun : Option CurrentTestRun := none
  /-- The time at which the timer fires. -/
  debounceTimer : Option ℕ := none
  pendingUpdate : Bool := false
deriving DecidableEq

/-- A published record of the progress of a job. -/
structure PublishedProgress where
  job : ReportedJob
  stage : String
  stageName : String
  stageIndex : ℕ
  totalStages : ℕ
  stageProgress : ℚ
  overallProgress : ℤ
  message : String
  startedAt : ℕ
  lastProgressAt : ℕ
  status : JobStatus
  currentTestRun : Option CurrentTestRun
deriving DecidableEq

namespace ProgressReporter

variable (r : ProgressReporter)

/-- The share of the job that is done. -/
def overallProgress : ℤ :=
  calculateOverallProgress r.currentStageIndex r.job.stages.length r.currentStageProgress

def buildProgressObject : PublishedProgress :=
  let stageName := getStageName r.currentStage
  { job := r.job
    stage := r.currentStage
    stageName
    stageIndex := r.currentStageIndex
    totalStages := r.job.stages.length
    stageProgress := r.currentStageProgress
    overallProgress := r.overallProgress
    message := r.waitingMessage.getD (formatProgressMessage stageName r.overallProgress)
    startedAt := r.startedAt
    lastProgressAt := r.lastProgressAt
    status := r.status
    currentTestRun := r.currentTestRun }

end ProgressReporter

/-- What the reporter asks Redis for. -/
inductive ProgressCommand
  /-- To keep a record, and to send it to whom it may concern. -/
  | progress (p : PublishedProgress)
  | jobCompleted (job : ReportedJob) (durationMs : ℕ)
  | jobFailed (job : ReportedJob) (error : String)
  /-- To keep the record for some more time. -/
  | expire (seconds : ℕ)
deriving DecidableEq

def ProgressCommand.progress? : ProgressCommand → Option PublishedProgress
  | .progress p => some p
  | _ => none

/-- How much of a command is executed before something fails. -/
inductive Delivery
  | lost
  /-- The queue has the percentage. -/
  | updated
  /-- Redis has the record as well. -/
  | stored
  /-- And the message is sent. -/
  | published
deriving DecidableEq

def Delivery.stores : Delivery → Bool
  | .stored | .published => true
  | .lost | .updated => false

/-- What a job calls its reporter for. -/
inductive ReporterCall
  | startStage (stageName : String)
  | setWaiting (message : Option String)
  | touch
  | updateStageProgress (percent : ℚ) (currentTestRun : Option CurrentTestRun)
  | completeStage
  | complete
  | fail (error : String)
  | cleanup
deriving DecidableEq

/-- A reporter, and what has come of what it has published. -/
structure ProgressTracking where
  reporter : ProgressReporter
  redis : ExpiringStore String PublishedProgress := {}
  /-- The percentage that the queue shows. -/
  queueProgress : Option ℤ := none
  /-- The commands that are on their way, oldest first. -/
  sending : List ProgressCommand := []
  /-- The publications that are over, oldest first. -/
  delivered : List (PublishedProgress × Delivery) := []
  /-- The messages that were sent, oldest first. -/
  messages : List ProgressCommand := []

/-- What may happen next. -/
inductive ProgressStep
  | call (c : ReporterCall)
  /-- Time passes. -/
  | advance (ms : ℕ)
  /-- The timer fires. -/
  | timer
  /-- The oldest command is executed. -/
  | execute (d : Delivery)
deriving DecidableEq

namespace ProgressTracking

variable (st : ProgressTracking)

/-- A reporter is made for a job. -/
def create (job : ReportedJob) (redis : ExpiringStore String PublishedProgress) :
    ProgressTracking :=
  { reporter := { job, startedAt := redis.now, lastProgressAt := redis.now }, redis }

def progressKey : String := progressKeyPrefix ++ st.reporter.job.jobId

/-- A command goes out. -/
def send (c : ProgressCommand) : ProgressTracking := { st with sending := st.sending ++ [c] }

/-- The reporter publishes what it knows. -/
def publishProgress (r : ProgressReporter) : ProgressTracking :=
  let r := { r with lastProgressAt := st.redis.now }
  { st with reporter := r, sending := st.sending ++ [.progress r.buildProgressObject] }

def debouncedPublish (r : ProgressReporter) : ProgressTracking :=
  { st with reporter :=
      { r with
        pendingUpdate := true
        debounceTimer := some (r.debounceTimer.getD (st.redis.now + progressDebounceMs)) } }

def startStage (stageName : String) : ProgressTracking :=
  match st.reporter.job.stages.idxOf? stageName with
  | none => st
  | some stageIndex => st.publishProgress
      { st.reporter with
        currentStage := stageName
        currentStageIndex := stageIndex + 1
        currentStageProgress := 0
        currentTestRun := none
        waitingMessage := none
        status := if st.reporter.status = .waiting then .active else st.reporter.status }

def setWaiting (message : Option String) : ProgressTracking :=
  st.publishProgress { st.reporter with
    status := if message = none then .active else .waiting
    waitingMessage := message }

def touch : ProgressTracking := st.publishProgress st.reporter

def updateStageProgress (percent : ℚ) (currentTestRun : Option CurrentTestRun) :
    ProgressTracking :=
  st.debouncedPublish { st.reporter with
    currentStageProgress := min 100 (max 0 percent)
    currentTestRun := currentTestRun <|> st.reporter.currentTestRun }

def completeStage : ProgressTracking :=
  st.publishProgress { st.reporter with currentStageProgress := 100 }

def durationMs : ℕ := st.redis.now - st.reporter.startedAt

def complete : ProgressTracking :=
  let published := st.publishProgress { st.reporter with
    status := .completed
    waitingMessage := none
    currentStageProgress := 100
    debounceTimer := none }
  (published.send (.jobCompleted st.reporter.job st.durationMs)).send (.expire 3600)

def fail (error : String) : ProgressTracking :=
  let published := st.publishProgress { st.reporter with
    status := .failed
    waitingMessage := none
    debounceTimer := none }
  (published.send (.jobFailed st.reporter.job error)).send (.expire 7200)

def cleanup : ProgressTracking :=
  { st with reporter := { st.reporter with debounceTimer := none } }

def call : ReporterCall → ProgressTracking
  | .startStage stageName => st.startStage stageName
  | .setWaiting message => st.setWaiting message
  | .touch => st.touch
  | .updateStageProgress percent currentTestRun => st.updateStageProgress percent currentTestRun
  | .completeStage => st.completeStage
  | .complete => st.complete
  | .fail error => st.fail error
  | .cleanup => st.cleanup

/-- The function that the timer calls. -/
def onTimer : ProgressTracking :=
  let r := { st.reporter with debounceTimer := none }
  if r.pendingUpdate then st.publishProgress { r with pendingUpdate := false }
  else { st with reporter := r }

/-- Redis executes a command. -/
def execute (d : Delivery) : ProgressCommand → ProgressTracking
  | .progress p =>
    { st with
      delivered := st.delivered ++ [(p, d)]
      queueProgress := if d = .lost then st.queueProgress else some p.overallProgress
      redis := if d.stores then st.redis.set st.progressKey p (lockTtlSeconds * 1000) else st.redis
      messages := if d = .published then st.messages ++ [.progress p] else st.messages }
  | .expire seconds =>
    { st with redis :=
        if d = .lost then st.redis else st.redis.expireIf st.progressKey (seconds * 1000) fun _ => true }
  | c => { st with messages := if d = .published then st.messages ++ [c] else st.messages }

/-- What a step leads to. -/
def step (st : ProgressTracking) : ProgressStep → Option ProgressTracking
  | .call c => some (st.call c)
  | .advance ms => some { st with redis := st.redis.advance ms }
  | .timer => do
    let due ← st.reporter.debounceTimer
    guard (due ≤ st.redis.now)
    return st.onTimer
  | .execute d =>
    match st.sending with
    | [] => none
    | c :: rest => some (execute { st with sending := rest } d c)

/-- All that was published, oldest first. -/
def publications : List PublishedProgress :=
  st.delivered.map Prod.fst ++ st.sending.filterMap ProgressCommand.progress?

/-- The publications that have reached Redis. -/
def stored : List PublishedProgress := (st.delivered.filter fun e => e.2.stores).map Prod.fst

/-- Once the job is over nothing is reported, and the reporter is given up only then. -/
def Orderly (st : ProgressTracking) : ProgressStep → Prop
  | .call .cleanup => st.reporter.status.isTerminal = true
  | .call _ => st.reporter.status.isTerminal = false
  | _ => True

instance (st : ProgressTracking) : (e : ProgressStep) → Decidable (st.Orderly e)
  | .call .cleanup => inferInstanceAs (Decidable (_ = _))
  | .call (.startStage _) | .call (.setWaiting _) | .call .touch
  | .call (.updateStageProgress _ _) | .call .completeStage | .call .complete | .call (.fail _) =>
    inferInstanceAs (Decidable (_ = _))
  | .advance _ | .timer | .execute _ => inferInstanceAs (Decidable True)

variable {st : ProgressTracking} {st' : ProgressTracking} {e : ProgressStep} {c : ProgressCommand}
  {r : ProgressReporter} {job : ReportedJob} {redis : ExpiringStore String PublishedProgress}
  {es : List ProgressStep}

@[simp] theorem publications_publishProgress : (st.publishProgress r).publications =
    st.publications ++ [(st.publishProgress r).reporter.buildProgressObject] := by
  simp [publications, publishProgress, ProgressCommand.progress?]

theorem publications_send (hc : c.progress? = none) :
    (st.send c).publications = st.publications := by
  simp [publications, send, hc]

/-- A command that is executed was on its way, or is delivered. -/
theorem publications_execute {d : Delivery} {rest : List ProgressCommand}
    (hsending : st.sending = c :: rest) :
    (execute { st with sending := rest } d c).publications = st.publications := by
  rw [publications, publications, hsending]
  cases c <;> simp [execute, List.filterMap_cons, ProgressCommand.progress?]

@[simp] theorem reporter_execute {d : Delivery} : (execute st d c).reporter = st.reporter := by
  cases c <;> rfl

/-! ## What is published last -/

/-- What becomes of the publications, when the calls are orderly. -/
structure Inv (st : ProgressTracking) : Prop where
  /-- A timer has something to publish. -/
  pending : st.reporter.debounceTimer.isSome → st.reporter.pendingUpdate = true
  /-- What the reporter knows is published, or a timer will do it. -/
  current : st.publications = [] ∨ st.reporter.debounceTimer.isSome ∨
    st.publications.getLast? = some st.reporter.buildProgressObject
  /-- While the job goes on, nothing says that it is over. -/
  going : st.reporter.status.isTerminal = false →
    ∀ p ∈ st.publications, p.status.isTerminal = false
  /-- When it is over no timer runs, and the last publication is the first that says so. -/
  ended : st.reporter.status.isTerminal = true → st.reporter.debounceTimer = none ∧
    ∃ before, st.publications = before ++ [st.reporter.buildProgressObject] ∧
      ∀ p ∈ before, p.status.isTerminal = false
  /-- The record is the publication that has reached Redis last. -/
  record : ∀ p, st.stored.getLast? = some p →
    ∀ entry ∈ st.redis.entry st.progressKey, entry.1 = p

theorem inv_create : (create job redis).Inv where
  pending h := (Bool.false_ne_true h).elim
  current := .inl rfl
  going _ p hp := (List.not_mem_nil hp).elim
  ended h := (Bool.false_ne_true h).elim
  record p hp := by cases hp

/-- What is published of a job that goes on is the last publication. -/
theorem Inv.publishProgress (h : st.Inv) (hgoing : st.reporter.status.isTerminal = false)
    (hjob : r.job = st.reporter.job)
    (hpending : r.debounceTimer.isSome → r.pendingUpdate = true)
    (hover : r.status.isTerminal = true → r.debounceTimer = none) :
    (st.publishProgress r).Inv where
  pending := hpending
  current := .inr (.inr (by rw [publications_publishProgress, List.getLast?_concat]))
  going hterminal p hp := by
    rw [publications_publishProgress] at hp
    rcases List.mem_append.1 hp with hp | hp
    · exact h.going hgoing p hp
    · rw [List.mem_singleton.1 hp]
      exact hterminal
  ended hterminal :=
    ⟨hover hterminal, st.publications, publications_publishProgress, h.going hgoing⟩
  record p hp entry hentry := by
    refine h.record p hp entry ?_
    rwa [progressKey, ← hjob]

theorem Inv.send (h : st.Inv) (hc : c.progress? = none) : (st.send c).Inv where
  pending := h.pending
  current := by
    rw [publications_send hc]
    exact h.current
  going := by
    rw [publications_send hc]
    exact h.going
  ended := by
    rw [publications_send hc]
    exact h.ended
  record := h.record

/-- What is kept back is published by the timer. -/
theorem Inv.debouncedPublish (h : st.Inv) (hgoing : st.reporter.status.isTerminal = false)
    (hjob : r.job = st.reporter.job) (hstatus : r.status = st.reporter.status) :
    (st.debouncedPublish r).Inv where
  pending _ := rfl
  current := .inr (.inl rfl)
  going _ := h.going hgoing
  ended hterminal := by
    rw [show (st.debouncedPublish r).reporter.status = st.reporter.status from hstatus,
      hgoing] at hterminal
    cases hterminal
  record p hp entry hentry := by
    refine h.record p hp entry ?_
    rwa [progressKey, ← hjob]

theorem Inv.call (h : st.Inv) {k : ReporterCall} (hok : st.Orderly (.call k)) :
    (st.call k).Inv := by
  cases k with
  | startStage stageName =>
    rw [ProgressTracking.call, startStage]
    split
    · exact h
    · refine h.publishProgress hok rfl h.pending fun hterminal => ?_
      dsimp only at hterminal
      split at hterminal
      · cases hterminal
      · rw [hok] at hterminal
        cases hterminal
  | setWaiting message =>
    refine h.publishProgress hok rfl h.pending fun hterminal => ?_
    dsimp only at hterminal
    split at hterminal <;> cases hterminal
  | touch => exact h.publishProgress hok rfl h.pending fun hterminal => by cases hok ▸ hterminal
  | updateStageProgress percent currentTestRun => exact h.debouncedPublish hok rfl rfl
  | completeStage =>
    exact h.publishProgress hok rfl h.pending fun hterminal => by cases hok ▸ hterminal
  | complete =>
    refine .send (.send ?_ rfl) rfl
    exact h.publishProgress hok rfl (fun hsome => by cases hsome) fun _ => rfl
  | fail error =>
    refine .send (.send ?_ rfl) rfl
    exact h.publishProgress hok rfl (fun hsome => by cases hsome) fun _ => rfl
  | cleanup =>
    obtain ⟨hnone, hlast⟩ := h.ended hok
    have hsame : st.cleanup = st := by rw [cleanup, ← hnone]
    rw [ProgressTracking.call, hsame]
    exact h

theorem Inv.onTimer (h : st.Inv) (hsome : st.reporter.debounceTimer.isSome) : st.onTimer.Inv := by
  have hgoing : st.reporter.status.isTerminal = false := by
    by_contra hover
    rw [Bool.not_eq_false] at hover
    rw [(h.ended hover).1] at hsome
    cases hsome
  rw [ProgressTracking.onTimer, if_pos (h.pending hsome)]
  exact h.publishProgress hgoing rfl (fun hnone => by cases hnone) fun _ => rfl

/-- As time passes a record may expire. -/
theorem Inv.advance (h : st.Inv) (ms : ℕ) :
    ({ st with redis := st.redis.advance ms } : ProgressTracking).Inv where
  pending := h.pending
  current := h.current
  going := h.going
  ended := h.ended
  record p hp entry hentry := h.record p hp entry (ExpiringStore.entry_of_advance hentry)

/-- What is executed leaves the last publication in the record that has reached Redis. -/
theorem Inv.execute (h : st.Inv) {d : Delivery} {rest : List ProgressCommand}
    (hsending : st.sending = c :: rest) :
    (ProgressTracking.execute { st with sending := rest } d c).Inv where
  pending := by simpa using h.pending
  current := by simpa [publications_execute hsending] using h.current
  going := by simpa [publications_execute hsending] using h.going
  ended := by simpa [publications_execute hsending] using h.ended
  record p hp entry hentry := by
    rw [progressKey, reporter_execute] at hentry
    cases c with
    | progress q =>
      rw [ProgressTracking.execute, stored, List.filter_append, List.map_append] at hp
      dsimp only [ProgressTracking.execute] at hentry
      cases hd : d.stores with
      | true =>
        rw [hd, if_pos rfl, ExpiringStore.entry_set (by decide), if_pos (by rfl)] at hentry
        rw [List.filter_singleton, hd, cond_true, List.map_singleton, List.getLast?_concat] at hp
        rw [← Option.some.inj hentry]
        exact Option.some.inj hp
      | false =>
        rw [hd, if_neg Bool.false_ne_true] at hentry
        rw [List.filter_singleton, hd, cond_false, List.map_nil, List.append_nil] at hp
        exact h.record p hp entry hentry
    | expire seconds =>
      dsimp only [ProgressTracking.execute] at hentry
      split at hentry
      · exact h.record p hp entry hentry
      · obtain ⟨d, hd⟩ := ExpiringStore.of_entry_expireIf hentry
        exact h.record p hp (entry.1, d) hd
    | jobCompleted job ms => exact h.record p hp entry hentry
    | jobFailed job error => exact h.record p hp entry hentry

/-- Every step of an orderly job keeps the invariant. -/
theorem Inv.step (h : st.Inv) (hok : st.Orderly e) (hstep : st.step e = some st') : st'.Inv := by
  cases e with
  | call k =>
    cases hstep
    exact h.call hok
  | advance ms =>
    cases hstep
    exact h.advance ms
  | timer =>
    simp only [ProgressTracking.step, Option.bind_eq_bind, Option.bind_eq_some_iff] at hstep
    obtain ⟨due, hdue, hstep⟩ := hstep
    obtain ⟨_, hst'⟩ := hstep
    cases hst'.2
    exact h.onTimer (by rw [hdue, Option.isSome_some])
  | execute d =>
    rw [ProgressTracking.step] at hstep
    split at hstep
    · cases hstep
    · rename_i c rest hsending
      cases hstep
      exact h.execute hsending

theorem inv_of_run (h : Run step Orderly (create job redis) es st) : st.Inv :=
  h.state_invariant inv_create fun _ _ _ hinv hok hstep => hinv.step hok hstep

/-- When nothing is on its way, by a timer or as a command, the record is what the reporter would
    publish, unless it has expired or was not stored. -/
theorem shows_state (h : Run step Orderly (create job redis) es st)
    (htimer : st.reporter.debounceTimer = none) (hsending : st.sending = [])
    {p : PublishedProgress} {d : Delivery} (hlast : st.delivered.getLast? = some (p, d))
    (hstores : d.stores = true) {entry : PublishedProgress × ℕ}
    (hentry : st.redis.entry st.progressKey = some entry) :
    entry.1 = st.reporter.buildProgressObject := by
  have hinv := inv_of_run h
  have hpublications : st.publications.getLast? = some p := by
    rw [publications, hsending, List.filterMap_nil, List.append_nil, List.getLast?_map, hlast]
    rfl
  have hstored : st.stored.getLast? = some p := by
    obtain ⟨before, hbefore⟩ := List.getLast?_eq_some_iff.1 hlast
    rw [stored, hbefore, List.filter_append, List.filter_singleton, hstores, cond_true,
      List.map_append, List.map_singleton, List.getLast?_concat]
  rw [hinv.record p hstored entry hentry]
  rcases hinv.current with hnil | hsome | hcurrent
  · rw [hnil] at hpublications
    cases hpublications
  · rw [htimer] at hsome
    cases hsome
  · rw [hpublications] at hcurrent
    exact Option.some.inj hcurrent

/-- A job of two stages. -/
def jobOfTwo : ReportedJob where
  jobId := "7"
  testRunId := "run-1"
  systemUnderTestId := "webshop"
  testEnvironment := "acceptance"
  workload := "load"
  jobType := .analyze
  stages := ["metrics-collection", "statistics-calculation"]

/-- A stage that reports its progress twice while its start is on its way. -/
def reportsTwice : List ProgressStep :=
  [.call (.startStage "metrics-collection"), .call (.updateStageProgress 20 none), .advance 300,
    .call (.updateStageProgress 60 none), .execute .published, .advance 200, .timer,
    .execute .stored]

theorem shows_state_reportsTwice : ∃ st entry,
    Run step Orderly (create jobOfTwo {}) reportsTwice st ∧
      st.redis.entry st.progressKey = some entry ∧
      entry.1 = st.reporter.buildProgressObject := by
  obtain ⟨st, hrun, hst⟩ := @Run.exists_of_checked _ _ step Orderly (create jobOfTwo {}) _
    reportsTwice (fun st => st.reporter.debounceTimer.isNone && st.sending.isEmpty &&
      (st.delivered.getLast?.any fun e => e.2.stores) && (st.redis.entry st.progressKey).isSome)
    (by decide +kernel)
  simp only [Bool.and_eq_true, Option.isNone_iff_eq_none, List.isEmpty_iff] at hst
  obtain ⟨⟨⟨htimer, hsending⟩, hlast⟩, hentry⟩ := hst
  obtain ⟨⟨p, d⟩, hlast, hstores⟩ := (Option.any_eq_true _ _).1 hlast
  obtain ⟨entry, hentry⟩ := Option.isSome_iff_exists.1 hentry
  exact ⟨st, entry, hrun, hentry, shows_state hrun htimer hsending hlast hstores hentry⟩

end ProgressTracking

/-! ## Progress -/

theorem calculateOverallProgress_le (i n : ℕ) (x : ℚ) : calculateOverallProgress i n x ≤ 100 := by
  rw [calculateOverallProgress]
  split
  · decide
  · exact min_le_left _ _

theorem calculateOverallProgress_nonneg {i n : ℕ} {x : ℚ} (hi : 0 < i) (hx : 0 ≤ x) :
    0 ≤ calculateOverallProgress i n x := by
  rw [calculateOverallProgress]
  split
  · exact le_rfl
  · have hi : (0 : ℚ) ≤ (i : ℚ) - 1 := by
      rw [sub_nonneg]
      exact_mod_cast hi
    refine le_min (by decide) ?_
    rw [round_eq]
    exact Int.floor_nonneg.2 (by positivity)

/-- The progress grows with the stage, and within a stage. -/
theorem calculateOverallProgress_mono {i j n : ℕ} {x y : ℚ}
    (h : i = j ∧ x ≤ y ∨ i < j ∧ x ≤ 100 ∧ 0 ≤ y) :
    calculateOverallProgress i n x ≤ calculateOverallProgress j n y := by
  rw [calculateOverallProgress, calculateOverallProgress]
  split
  · exact le_rfl
  · rename_i hn
    have hn : (0 : ℚ) < n := by
      exact_mod_cast Nat.pos_of_ne_zero hn
    have hle : ((i : ℚ) - 1) * 100 + x ≤ ((j : ℚ) - 1) * 100 + y := by
      rcases h with ⟨rfl, hxy⟩ | ⟨hij, hx, hy⟩
      · linarith
      · have hij : (i : ℚ) + 1 ≤ j := by
          exact_mod_cast hij
        linarith
    have hdiv : ∀ (k : ℕ) (z : ℚ), ((k : ℚ) - 1) / n * 100 + z / n = (((k : ℚ) - 1) * 100 + z) / n :=
      fun k z => by ring
    refine min_le_min_left _ ?_
    rw [hdiv, hdiv, round_eq, round_eq]
    refine Int.floor_mono ?_
    gcongr

namespace ProgressTracking

variable {st : ProgressTracking} {st' : ProgressTracking} {e : ProgressStep} {c : ProgressCommand}
  {r : ProgressReporter} {job : ReportedJob} {redis : ExpiringStore String PublishedProgress}
  {es : List ProgressStep}

/-- The stages start in the order in which they are listed, a stage does not go back, and nothing
    is reported before the first. -/
def Ascending (st : ProgressTracking) : ProgressStep → Prop
  | .call (.startStage stageName) =>
    ∀ i, st.reporter.job.stages.idxOf? stageName = some i → st.reporter.currentStageIndex ≤ i
  | .call (.updateStageProgress percent _) =>
    0 < st.reporter.currentStageIndex ∧ st.reporter.currentStageProgress ≤ percent
  | .call .cleanup => True
  | .call _ => 0 < st.reporter.currentStageIndex
  | _ => True

/-- The published percentages never fall. -/
structure Ascended (st : ProgressTracking) : Prop where
  progress_nonneg : 0 ≤ st.reporter.currentStageProgress
  progress_le : st.reporter.currentStageProgress ≤ 100
  started : 0 < st.reporter.currentStageIndex ∨
    st.publications = [] ∧ st.reporter.debounceTimer = none
  ordered : st.publications.Pairwise fun p q => p.overallProgress ≤ q.overallProgress
  bounded : ∀ p ∈ st.publications, 0 ≤ p.overallProgress ∧
    p.overallProgress ≤ st.reporter.overallProgress

/-- A reporter that has not gone back publishes its progress. -/
theorem Ascended.publishProgress (h : st.Ascended) (hjob : r.job = st.reporter.job)
    (hindex : 0 < r.currentStageIndex) (hnonneg : 0 ≤ r.currentStageProgress)
    (hle : r.currentStageProgress ≤ 100)
    (hmono : st.reporter.currentStageIndex = r.currentStageIndex ∧
        st.reporter.currentStageProgress ≤ r.currentStageProgress ∨
      st.reporter.currentStageIndex < r.currentStageIndex) :
    (st.publishProgress r).Ascended := by
  have hgrows : st.reporter.overallProgress ≤ r.overallProgress := by
    rw [ProgressReporter.overallProgress, ProgressReporter.overallProgress, hjob]
    refine calculateOverallProgress_mono ?_
    rcases hmono with hsame | hlater
    · exact .inl hsame
    · exact .inr ⟨hlater, h.progress_le, hnonneg⟩
  have hall : ∀ p ∈ st.publications, 0 ≤ p.overallProgress ∧
      p.overallProgress ≤ r.overallProgress :=
    fun p hp => ⟨(h.bounded p hp).1, (h.bounded p hp).2.trans hgrows⟩
  refine ⟨hnonneg, hle, .inl hindex, ?_, fun p hp => ?_⟩
  · rw [publications_publishProgress, List.pairwise_append]
    refine ⟨h.ordered, List.pairwise_singleton _ _, fun p hp q hq => ?_⟩
    rw [List.mem_singleton.1 hq]
    exact (hall p hp).2
  · rw [publications_publishProgress] at hp
    rcases List.mem_append.1 hp with hp | hp
    · exact hall p hp
    · rw [List.mem_singleton.1 hp]
      exact ⟨calculateOverallProgress_nonneg hindex hnonneg, le_rfl⟩

theorem Ascended.send (h : st.Ascended) (hc : c.progress? = none) : (st.send c).Ascended :=
  ⟨h.progress_nonneg, h.progress_le, by rw [publications_send hc]; exact h.started,
    by rw [publications_send hc]; exact h.ordered, by rw [publications_send hc]; exact h.bounded⟩

theorem Ascended.call (h : st.Ascended) {k : ReporterCall} (hok : st.Ascending (.call k)) :
    (st.call k).Ascended := by
  cases k with
  | startStage stageName =>
    rw [ProgressTracking.call, startStage]
    split
    · exact h
    · rename_i i hi
      exact h.publishProgress rfl (Nat.succ_pos _) le_rfl (by norm_num)
        (.inr (Nat.lt_succ_of_le (hok i hi)))
  | setWaiting message =>
    exact h.publishProgress rfl hok h.progress_nonneg h.progress_le (.inl ⟨rfl, le_rfl⟩)
  | touch => exact h.publishProgress rfl hok h.progress_nonneg h.progress_le (.inl ⟨rfl, le_rfl⟩)
  | updateStageProgress percent currentTestRun =>
    obtain ⟨hindex, hpercent⟩ := hok
    have hgrows : st.reporter.currentStageProgress ≤ min 100 (max 0 percent) :=
      le_min h.progress_le (hpercent.trans (le_max_right _ _))
    have hmono : st.reporter.overallProgress ≤
        (st.updateStageProgress percent currentTestRun).reporter.overallProgress :=
      calculateOverallProgress_mono (.inl ⟨rfl, hgrows⟩)
    exact ⟨le_min (by norm_num) (le_max_left _ _), min_le_left _ _, .inl hindex, h.ordered,
      fun p hp => ⟨(h.bounded p hp).1, (h.bounded p hp).2.trans hmono⟩⟩
  | completeStage =>
    exact h.publishProgress rfl hok (by norm_num) le_rfl (.inl ⟨rfl, h.progress_le⟩)
  | complete =>
    refine .send (.send ?_ rfl) rfl
    exact h.publishProgress rfl hok (by norm_num) le_rfl (.inl ⟨rfl, h.progress_le⟩)
  | fail error =>
    refine .send (.send ?_ rfl) rfl
    exact h.publishProgress rfl hok h.progress_nonneg h.progress_le (.inl ⟨rfl, le_rfl⟩)
  | cleanup =>
    exact ⟨h.progress_nonneg, h.progress_le, h.started.imp_right fun hs => ⟨hs.1, rfl⟩, h.ordered,
      h.bounded⟩

theorem Ascended.step (h : st.Ascended) (hok : st.Ascending e) (hstep : st.step e = some st') :
    st'.Ascended := by
  cases e with
  | call k =>
    cases hstep
    exact h.call hok
  | advance ms =>
    cases hstep
    exact ⟨h.progress_nonneg, h.progress_le, h.started, h.ordered, h.bounded⟩
  | timer =>
    simp only [ProgressTracking.step, Option.bind_eq_bind, Option.bind_eq_some_iff] at hstep
    obtain ⟨due, htimer, _, -, hst'⟩ := hstep
    cases hst'
    have hindex : 0 < st.reporter.currentStageIndex := by
      rcases h.started with hindex | ⟨-, hnone⟩
      · exact hindex
      · rw [htimer] at hnone
        cases hnone
    rw [onTimer]
    dsimp only
    split
    · exact h.publishProgress rfl hindex h.progress_nonneg h.progress_le (.inl ⟨rfl, le_rfl⟩)
    · exact ⟨h.progress_nonneg, h.progress_le, .inl hindex, h.ordered, h.bounded⟩
  | execute d =>
    rw [ProgressTracking.step] at hstep
    split at hstep
    · cases hstep
    · rename_i c rest hsending
      cases hstep
      have hsame := @publications_execute _ _ d _ hsending
      exact ⟨by simpa using h.progress_nonneg, by simpa using h.progress_le,
        by simpa [hsame] using h.started, by simpa [hsame] using h.ordered,
        by simpa [hsame] using h.bounded⟩

theorem ascended_of_run (h : Run step Ascending (create job redis) es st) : st.Ascended := by
  have hcreated : (create job redis).Ascended :=
    ⟨le_rfl, by norm_num [create], .inr ⟨rfl, rfl⟩, List.Pairwise.nil, fun _ hp => (by cases hp)⟩
  exact h.state_invariant hcreated fun _ _ _ hs hok hstep => hs.step hok hstep

end ProgressTracking

/-! ## What a job may report -/

/-- How far a job has reported to be. -/
structure ReportedPhase where
  index : ℕ := 0
  progress : ℚ := 0
  status : JobStatus := .active
deriving DecidableEq

namespace ReportedPhase

variable (stages : List String)

/-- How far it is after a call. -/
def after (phase : ReportedPhase) : ReporterCall → ReportedPhase
  | .startStage stageName =>
    match stages.idxOf? stageName with
    | none => phase
    | some i =>
      { index := i + 1
        progress := 0
        status := if phase.status = .waiting then .active else phase.status }
  | .setWaiting message => { phase with status := if message = none then .active else .waiting }
  | .updateStageProgress percent _ => { phase with progress := min 100 (max 0 percent) }
  | .completeStage => { phase with progress := 100 }
  | .complete => { phase with progress := 100, status := .completed }
  | .fail _ => { phase with status := .failed }
  | .touch | .cleanup => phase

/-- A stage starts after those before it, what is reported does not go back, and the end is the
    end. -/
def Allows (phase : ReportedPhase) : ReporterCall → Prop
  | .startStage stageName =>
    phase.status.isTerminal = false ∧ ∀ i, stages.idxOf? stageName = some i → phase.index ≤ i
  | .updateStageProgress percent _ =>
    phase.status.isTerminal = false ∧ 0 < phase.index ∧ phase.progress ≤ percent
  | .cleanup => phase.status.isTerminal = true
  | _ => phase.status.isTerminal = false ∧ 0 < phase.index

/-- The calls may be made one after the other. -/
def AllowsAll : ReportedPhase → List ReporterCall → Prop
  | _, [] => True
  | phase, k :: ks => Allows stages phase k ∧ AllowsAll (phase.after stages k) ks

variable {stages} {phase : ReportedPhase} {ks ls : List ReporterCall}

theorem allowsAll_append : AllowsAll stages phase (ks ++ ls) ↔
    AllowsAll stages phase ks ∧ AllowsAll stages (ks.foldl (after stages) phase) ls := by
  induction ks generalizing phase with
  | nil => exact (iff_of_eq (true_and _)).symm
  | cons k ks ih => exact (and_congr_right' ih).trans and_assoc.symm

end ReportedPhase

def ProgressReporter.phase (r : ProgressReporter) : ReportedPhase :=
  ⟨r.currentStageIndex, r.currentStageProgress, r.status⟩

/-- The call that a step is, if it is one. -/
def ProgressStep.call? : ProgressStep → Option ReporterCall
  | .call k => some k
  | _ => none

namespace ProgressTracking

variable {st : ProgressTracking} {st' : ProgressTracking} {e : ProgressStep}
  {job : ReportedJob} {redis : ExpiringStore String PublishedProgress} {es : List ProgressStep}
  {ks : List ReporterCall}

theorem phase_call (k : ReporterCall) :
    (st.call k).reporter.phase = st.reporter.phase.after st.reporter.job.stages k ∧
      (st.call k).reporter.job = st.reporter.job := by
  cases k with
  | startStage stageName =>
    rw [call, startStage, ReportedPhase.after]
    split
    · exact ⟨rfl, rfl⟩
    · exact ⟨rfl, rfl⟩
  | _ => exact ⟨rfl, rfl⟩

/-- Only the calls move the phase. -/
theorem phase_step (hstep : st.step e = some st') :
    st'.reporter.phase =
        e.call?.toList.foldl (ReportedPhase.after st.reporter.job.stages) st.reporter.phase ∧
      st'.reporter.job = st.reporter.job := by
  cases e with
  | call k =>
    cases hstep
    exact phase_call k
  | advance ms =>
    cases hstep
    exact ⟨rfl, rfl⟩
  | timer =>
    simp only [step, Option.bind_eq_bind, Option.bind_eq_some_iff] at hstep
    obtain ⟨due, -, _, -, hst'⟩ := hstep
    cases hst'
    rw [onTimer]
    dsimp only
    split <;> exact ⟨rfl, rfl⟩
  | execute d =>
    rw [step] at hstep
    split at hstep
    · cases hstep
    · cases hstep
      rw [reporter_execute]
      exact ⟨rfl, rfl⟩

theorem phase_of_run (h : Run step (fun _ _ => True) (create job redis) es st) :
    st.reporter.phase = (es.filterMap ProgressStep.call?).foldl (ReportedPhase.after job.stages) {} ∧
      st.reporter.job = job := by
  refine @Run.invariant _ _ _ _ _ (fun es st => st.reporter.phase =
    (es.filterMap ProgressStep.call?).foldl (ReportedPhase.after job.stages) {} ∧
      st.reporter.job = job) ⟨rfl, rfl⟩ (fun es s e s' hs _ hstep => ?_) es st h
  obtain ⟨hphase, hjob⟩ := phase_step hstep
  rw [hs.2] at hphase hjob
  refine ⟨?_, hjob⟩
  rw [hphase, hs.1, List.filterMap_append, List.foldl_append]
  cases e <;> rfl

/-- What is allowed after the calls so far is orderly, and goes up. -/
theorem orderly_of_allows {k : ReporterCall}
    (h : ReportedPhase.Allows st.reporter.job.stages st.reporter.phase k) :
    st.Orderly (.call k) ∧ st.Ascending (.call k) := by
  cases k with
  | startStage stageName => exact h
  | updateStageProgress percent currentTestRun => exact h
  | cleanup => exact ⟨h, trivial⟩
  | _ => exact h

/-- A run in which a job makes the calls that it is allowed to make, as far as it has come, is
    orderly and goes up, whatever else happens in between. -/
theorem run_of_calls (h : Run step (fun _ _ => True) (create job redis) es st)
    (hks : es.filterMap ProgressStep.call? <+: ks) (hall : ReportedPhase.AllowsAll job.stages {} ks) :
    Run step (fun s e => s.Orderly e ∧ s.Ascending e) (create job redis) es st := by
  induction h with
  | start => exact .start
  | snoc hrun _ hstep ih =>
    rename_i es s s' e _
    rw [List.filterMap_append] at hks
    have hprefix : es.filterMap ProgressStep.call? <+: ks :=
      (List.prefix_append _ _).trans hks
    refine .snoc (ih hprefix) ?_ hstep
    cases e with
    | call k =>
      obtain ⟨rest, hrest⟩ := hks
      rw [← hrest, List.append_assoc, ReportedPhase.allowsAll_append] at hall
      obtain ⟨hphase, hjob⟩ := phase_of_run hrun
      refine orderly_of_allows ?_
      rw [hjob, hphase]
      exact hall.2.1
    | _ => exact ⟨trivial, trivial⟩

end ProgressTracking

end Perfana
