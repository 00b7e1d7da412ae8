import Perfana.Scheduling.Incremental

/-!
# The sources in flight

A source that has a job in flight is not enqueued again, and an event of its job
removes it from those in flight. An event that is delivered before the job is
registered finds no source, and what is registered after it is in flight forever.

* `run_neverStarves`: along every run in which no event comes before its job is
  registered, and every job that is added is new to the queue (`Registering`), no
  source has two unfinished jobs, and only those with one are in flight;
* `early_event_starves`: a source whose event comes too early stays in flight.
-/

namespace Perfana

namespace IncrementalCollection

variable {st st' : IncrementalCollection} {maxRetries : ℕ}

/-- No source has two unfinished jobs, and once all events are delivered, and no
    job is being enqueued, those without one are not in flight. -/
structure NeverStarves (st : IncrementalCollection) : Prop where
  /-- The unfinished jobs of a source are one. -/
  unfinished_unique : ∀ id id' job job', st.Unfinished id job → st.Unfinished id' job' →
    job.source = job'.source → id = id'
  /-- A source in flight has an unfinished job. -/
  unfinished_of_inFlight : st.events = [] → st.visit = .none → ∀ s : RunSource,
    s.buildSourceKey ∈ st.inFlightJobs → ∃ id job, st.Unfinished id job ∧ job.source = s

/-- The job that a visit adds is new to the queue. -/
def NewId (st : IncrementalCollection) : Visit → Prop
  | .lookingUp s => st.jobs.get (s.buildDedupJobId st.now) = none
  | _ => True

/-- The event is not that of the job that a visit is about to register. -/
def NotEarly (event : QueueEvent) : Visit → Prop
  | .registering _ jobId => event.jobId ≠ jobId
  | _ => True

/-- A job that is added is new to the queue, an event comes after its job is
    registered, and a run is cleaned up only when none of its jobs is left. -/
def Registering (st : IncrementalCollection) : SchedulerStep → Prop
  | .add => st.NewId st.visit
  | .deliver event => NotEarly event st.visit
  | .cleanupTestRun testRunId => st.NoneLeft testRunId
  | _ => True

instance (st : IncrementalCollection) : (visit : Visit) → Decidable (st.NewId visit)
  | .lookingUp _ => inferInstanceAs (Decidable (_ = none))
  | .none | .registering .. => isTrue trivial

instance (event : QueueEvent) : (visit : Visit) → Decidable (NotEarly event visit)
  | .registering .. => inferInstanceAs (Decidable (_ ≠ _))
  | .none | .lookingUp _ => isTrue trivial

instance (st : IncrementalCollection) : (e : SchedulerStep) → Decidable (st.Registering e)
  | .add => inferInstanceAs (Decidable (st.NewId _))
  | .deliver event => inferInstanceAs (Decidable (NotEarly event _))
  | .cleanupTestRun testRunId => inferInstanceAs (Decidable (st.NoneLeft testRunId))
  | .advance _ | .handleCron _ | .check | .abandon | .register | .finish | .work .. | .remove _ =>
    isTrue trivial

/-- The end of a job of a source is to be told. -/
def Awaits (st : IncrementalCollection) (jobId : String) (s : RunSource) : Prop :=
  ∃ job, st.jobs.get jobId = some job ∧ job.source = s ∧ st.Outstanding jobId

/-- A source is in flight for a job whose end is to be told. -/
structure Live (st : IncrementalCollection) : Prop extends st.Tracked where
  /-- What is in flight is registered for such a job. -/
  live : ∀ key ∈ st.inFlightJobs, ∃ jobId s, st.jobIdToSourceKey.get jobId = some key ∧
    s.buildSourceKey = key ∧ st.Awaits jobId s
  /-- What is about to be registered is such a job. -/
  live_registering : ∀ s jobId, st.visit = .registering s jobId → st.Awaits jobId s

theorem Live.neverStarves (h : st.Live) : st.NeverStarves where
  unfinished_unique id id' job job' hjob hjob' hsource :=
    h.outstanding_unique hjob.1 hjob'.1 hjob.outstanding hjob'.outstanding hsource
  unfinished_of_inFlight hevents hvisit s hs := by
    obtain ⟨id, s', -, hkey, job, hjob, rfl, hout⟩ := h.live _ hs
    rcases hout with ⟨job', hjob'⟩ | ⟨event, hevent, -⟩
    · obtain rfl : job = job' := Option.some.inj (hjob.symm.trans hjob'.1)
      exact ⟨id, job, hjob', buildSourceKey_injective hkey⟩
    · rw [hevents] at hevent
      cases hevent

/-- A new job is registered for no key. -/
theorem Live.ownId (h : st.Live) {s : RunSource}
    (hnew : st.jobs.get (s.buildDedupJobId st.now) = none) : st.OwnId (.lookingUp s) := by
  refine ⟨fun job hjob => ?_, fun key hkey => ?_⟩
  · rw [hnew] at hjob
    cases hjob
  · obtain ⟨id, s', hreg, -, job, hjob, -⟩ := h.live key (h.inFlight _ _ hkey)
    obtain rfl := h.unique _ _ _ hreg hkey
    rw [hnew] at hjob
    cases hjob

theorem Live.separate (h : st.Live) {e : SchedulerStep} (hok : Registering st e) :
    Separate st e := by
  cases e with
  | add =>
    rw [Registering] at hok
    rw [Separate]
    cases hvisit : st.visit with
    | lookingUp s =>
      rw [hvisit] at hok
      exact h.ownId hok
    | none | registering => trivial
  | cleanupTestRun => exact hok
  | _ => trivial

/-- Executing a job leaves its end to be told. -/
theorem Awaits.execute {id jobId : String} {s : RunSource} {job : CollectionJob}
    (h : st.Awaits id s) (hjob : st.Unfinished jobId job) (c : Collection) :
    (st.execute jobId job c).Awaits id s := by
  obtain ⟨job', hjob', hsource, hout⟩ := h
  rw [Awaits, Outstanding]
  dsimp only [IncrementalCollection.execute, Unfinished]
  by_cases hid : id = jobId
  · subst hid
    obtain rfl : job = job' := Option.some.inj (hjob.1.symm.trans hjob')
    refine ⟨job.executed c, by rw [Table.get_set, if_pos rfl], hsource, ?_⟩
    split
    · rename_i hretried
      exact .inl ⟨job.executed c, by rw [Table.get_set, if_pos rfl],
        by simp [CollectionJob.executed, hretried]⟩
    · exact .inr ⟨_, List.mem_append_right _ (List.mem_singleton_self _), rfl⟩
  · refine ⟨job', by rw [Table.get_set, if_neg hid, hjob'], hsource, ?_⟩
    rcases hout with ⟨job'', hjob''⟩ | ⟨event, hevent, hid'⟩
    · exact .inl ⟨job'', by rw [Table.get_set, if_neg hid]; exact hjob''⟩
    · refine .inr ⟨event, ?_, hid'⟩
      split
      · exact hevent
      · exact List.mem_append_left _ hevent

/-- The end of a job is to be told until its event is delivered. -/
theorem Awaits.step {e : SchedulerStep} {id : String} {s : RunSource} (h : st.Awaits id s)
    (hstep : StepTo maxRetries st e st') (hevent : ∀ event, e = .deliver event → event.jobId ≠ id) :
    st'.Awaits id s := by
  have hawaits := h
  obtain ⟨job, hjob, hsource, hout⟩ := hawaits
  cases hstep with
  | advance | handleCron | finish | skip | lookUp | abandon | register | cleanupTestRun => exact h
  | add s' hvisit =>
    have hget : ∀ {id job}, st.jobs.get id = some job →
        (st.addJob maxRetries s').jobs.get id = some job := fun {id job} hjob => by
      simp only [addJob, Table.get_insert]
      split
      · rename_i hid
        rw [← hid, hjob]
        rfl
      · exact hjob
    refine ⟨job, hget hjob, hsource, ?_⟩
    rcases hout with ⟨job', hjob'⟩ | hevent
    · exact .inl ⟨job', hget hjob'.1, hjob'.2⟩
    · exact .inr hevent
  | work jobId job' collection hjob' hunfinished => exact h.execute ⟨hjob', hunfinished⟩ collection
  | deliver event hmem =>
    have hget : ∀ id, (st.onEvent event).jobs.get id = st.jobs.get id := fun id => by
      rw [onEvent_jobs]
    refine ⟨job, (hget id).trans hjob, hsource, ?_⟩
    rcases hout with ⟨job', hjob'⟩ | ⟨event', hmem', rfl⟩
    · exact .inl ⟨job', (hget id).trans hjob'.1, hjob'.2⟩
    · have hne : event' ≠ event := fun heq => hevent event rfl (heq ▸ rfl)
      exact .inr ⟨event', (List.mem_erase_of_ne hne).2 hmem', rfl⟩
  | remove jobId job' hjob' hfinished hevents =>
    have hid : id ≠ jobId := by
      rintro rfl
      rcases hout with ⟨job'', hjob'', hunfinished⟩ | ⟨event, hmem, hid⟩
      · rw [hjob', Option.some.injEq] at hjob''
        rw [← hjob'', hfinished] at hunfinished
        cases hunfinished
      · exact hevents event hmem hid
    have hget : (st.jobs.erase jobId).get id = st.jobs.get id := by rw [Table.get_erase, if_neg hid]
    refine ⟨job, hget.trans hjob, hsource, ?_⟩
    rcases hout with ⟨job', hjob'⟩ | hevent
    · exact .inl ⟨job', hget.trans hjob'.1, hjob'.2⟩
    · exact .inr hevent

theorem Live.step {e : SchedulerStep} (h : st.Live) (hok : Registering st e)
    (hstep : step maxRetries st e = some st') : st'.Live := by
  have htracked : st'.Tracked := h.toTracked.step (h.separate hok) hstep
  replace hstep := StepTo.of_step hstep
  have hawaits : ∀ {id s}, st.Awaits id s → (∀ event, e ≠ .deliver event) → st'.Awaits id s :=
    fun ha hne => ha.step hstep fun event he => absurd he (hne event)
  -- Most steps leave what is in flight and registered.
  have hkept : (∀ event, e ≠ .deliver event) → st'.inFlightJobs = st.inFlightJobs →
      st'.jobIdToSourceKey = st.jobIdToSourceKey → (∀ s id, st'.visit = .registering s id →
        st.visit = .registering s id) → st'.Live := fun hne hin hmap hvisit => by
    refine { htracked with live := ?_, live_registering := ?_ }
    · intro key hkey
      obtain ⟨id, s, hreg, hs, ha⟩ := h.live key (hin ▸ hkey)
      exact ⟨id, s, by rw [hmap, hreg], hs, hawaits ha hne⟩
    · intro s id hs
      exact hawaits (h.live_registering s id (hvisit s id hs)) hne
  cases hstep with
  | advance | handleCron | finish | remove | work =>
    exact hkept (by simp) rfl rfl fun _ _ hs => hs
  | skip | lookUp | abandon => exact hkept (by simp) rfl rfl fun _ _ hs => by cases hs
  | add s hvisit =>
    refine { htracked with live := ?_, live_registering := ?_ }
    · intro key hkey
      obtain ⟨id, s', hreg, hs, ha⟩ := h.live key hkey
      exact ⟨id, s', hreg, hs, hawaits ha (by simp)⟩
    · intro s' id hs
      cases hs
      rw [Registering, hvisit, NewId] at hok
      have hget : (st.addJob maxRetries s).jobs.get (s.buildDedupJobId st.now) =
          some { source := s, maxAttempts := maxRetries } := by
        rw [addJob, Table.get_insert, if_pos rfl, hok]
        rfl
      exact ⟨_, hget, rfl, .inl ⟨_, hget, rfl⟩⟩
  | register s jobId hvisit =>
    have hnew : st.Awaits jobId s := h.live_registering s jobId hvisit
    refine { htracked with live := ?_, live_registering := fun s' id hs => by cases hs }
    intro key hkey
    rcases Finset.mem_insert.1 hkey with rfl | hold
    · exact ⟨jobId, s, by rw [Table.get_set, if_pos rfl], rfl, hnew⟩
    · obtain ⟨id, s', hreg, rfl, ha⟩ := h.live key hold
      have hid : id ≠ jobId := by
        rintro rfl
        -- The job would be one of both sources, but only one of them is in flight.
        obtain ⟨job, hjob, rfl, -⟩ := ha
        obtain ⟨job', hjob', rfl, -⟩ := hnew
        obtain rfl : job = job' := Option.some.inj (hjob.symm.trans hjob')
        exact h.visits job.source (.inr ⟨_, hvisit⟩) hold
      exact ⟨id, s', by rw [Table.get_set, if_neg hid, hreg], rfl, ha⟩
  | deliver event hmem =>
    have hstep' : StepTo maxRetries st (.deliver event) _ := .deliver event hmem
    have hother : ∀ {id s}, st.Awaits id s → event.jobId ≠ id →
        Awaits { st.onEvent event with events := st.events.erase event } id s :=
      fun ha hne => ha.step hstep' fun event' heq => by cases heq; exact hne
    refine { htracked with live := ?_, live_registering := ?_ }
    · cases hreg : st.jobIdToSourceKey.get event.jobId with
      | none =>
        intro key hkey
        rw [onEvent_of_none hreg] at hkey
        obtain ⟨id, s, hid, hs, ha⟩ := h.live key hkey
        have hne : event.jobId ≠ id := fun heq => by rw [← heq, hreg] at hid; cases hid
        refine ⟨id, s, ?_, hs, hother ha hne⟩
        rw [onEvent_of_none hreg]
        exact hid
      | some key' =>
        intro key hkey
        rw [onEvent_of_some hreg] at hkey
        obtain ⟨hkeys, hkey⟩ := Finset.mem_erase.1 hkey
        obtain ⟨id, s, hid, hs, ha⟩ := h.live key hkey
        have hne : event.jobId ≠ id := fun heq => by
          rw [← heq, hreg, Option.some.injEq] at hid
          exact hkeys hid.symm
        refine ⟨id, s, ?_, hs, hother ha hne⟩
        rw [onEvent_of_some hreg]
        dsimp only
        rw [Table.get_erase, if_neg hne.symm, hid]
    · intro s id hs
      dsimp only at hs
      rw [onEvent_visit] at hs
      rw [Registering, hs] at hok
      exact hother (h.live_registering s id hs) hok
  | cleanupTestRun testRunId =>
    refine { htracked with live := ?_, live_registering := ?_ }
    · intro key hkey
      obtain ⟨hkey, hrun⟩ := Finset.mem_filter.1 hkey
      obtain ⟨id, s, hid, hs, ha⟩ := h.live key hkey
      refine ⟨id, s, ?_, hs, hawaits ha (by simp)⟩
      rw [cleanupTestRun, Table.get_filter, hid, Option.filter_some, if_pos hrun]
    · exact fun s id hs => hawaits (h.live_registering s id hs) (by simp)

theorem live_start (now : ℕ) : Live { now } :=
  { tracked_start now with
    live := fun _ hkey => absurd hkey (Finset.notMem_empty _)
    live_registering := fun _ _ hvisit => by cases hvisit }

/-- Along every run in which jobs are registered in time, no source starves. -/
theorem run_neverStarves (maxRetries now : ℕ) {es : List SchedulerStep}
    (h : Run (IncrementalCollection.step maxRetries) Registering { now } es st) :
    st.NeverStarves := by
  have hlive : st.Live :=
    h.state_invariant (live_start now) fun _ _ _ hst hok hstep => hst.step hok hstep
  exact hlive.neverStarves

/-- The id of the job of the first minute. -/
def firstJob : String := performanceTest.buildDedupJobId 60000

/-- A tick that enqueues a job, which is done, and its event delivered. -/
def collectedOnce : List SchedulerStep :=
  tick ++ [.work firstJob .succeeds, .deliver ⟨firstJob, false⟩]

theorem run_neverStarves_collectedOnce : ∃ st,
    Run (IncrementalCollection.step 5) Registering { now := 60000 } collectedOnce st ∧
      performanceTest.buildSourceKey ∉ st.inFlightJobs ∧ st.NeverStarves := by
  have htest : (collectedOnce.foldlM (Run.checked (IncrementalCollection.step 5) Registering)
      { now := 60000 }).any (fun st => performanceTest.buildSourceKey ∉ st.inFlightJobs) =
        true := by decide +kernel
  obtain ⟨st, hrun, hkey⟩ := Run.exists_of_checked htest
  exact ⟨st, hrun, of_decide_eq_true hkey, run_neverStarves 5 60000 hrun⟩

/-- The job is done, and its event delivered, before it is registered. -/
def earlyEvent : List SchedulerStep :=
  [.handleCron [performanceTest], .check, .add, .work firstJob .succeeds,
    .deliver ⟨firstJob, false⟩, .register, .finish]

/-- A source whose event comes too early stays in flight without a job. -/
theorem early_event_starves : ∃ st,
    Run (IncrementalCollection.step 5) (fun _ _ => True) { now := 60000 } earlyEvent st ∧
      ¬st.NeverStarves := by
  have htest : (earlyEvent.foldlM (Run.checked (IncrementalCollection.step 5) fun _ _ => True)
      { now := 60000 }).any (fun st => st.events = [] ∧ st.visit = .none ∧
        performanceTest.buildSourceKey ∈ st.inFlightJobs ∧
        ∀ row ∈ st.jobs.rows, row.2.finished = true) = true := by decide +kernel
  obtain ⟨st, hrun, htest⟩ := Run.exists_of_checked htest
  obtain ⟨hevents, hvisit, hkey, hfinished⟩ := of_decide_eq_true htest
  refine ⟨st, hrun, fun h => ?_⟩
  obtain ⟨id, job, ⟨hjob, hunfinished⟩, -⟩ := h.unfinished_of_inFlight hevents hvisit _ hkey
  rw [hfinished _ (Table.mem_rows.2 hjob)] at hunfinished
  cases hunfinished

end IncrementalCollection

end Perfana
