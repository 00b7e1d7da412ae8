import Perfana.Lib.Expiring
import Perfana.Lib.Run
import Perfana.Lib.Text

/-!
# The locks of the jobs

A job takes a lock of Redis for the scope that it works on, and the collection of a
run one for the run. A lock expires: a job that has not renewed it in time may find it
taken by another, or take it again. So a command that extends or deletes a lock must
find its owner in it. Most do so in a script, which is one step of Redis; but
`releaseKeyLock` reads the lock and deletes it in two, and the scanner for stuck jobs
deletes the lock of a scope whoever holds it.

* `untouched_iff_ownKey`: a step leaves the locks of others alone if and only if what it
  deletes is a lock of the job that it is taken for (`OwnKey`);
* `generateLockKey_inj`: scopes whose system and environment have no colon have
  different keys;
* `run_lockSafe`: along every run of such steps on such scopes, a lock is removed by
  its owner or by expiry, and at most one job believes that it holds it;
* `not_lockSafe_racyRelease`: a release that is overtaken by the expiry of its lock
  deletes the lock of the successor.
-/

namespace Perfana

/-- What a job works on. -/
structure Scope where
  systemUnderTestId : String
  testEnvironment : String
  workload : String
deriving DecidableEq

/-- Generate lock key from scope. -/
def Scope.generateLockKey (s : Scope) : String :=
  "job:lock:" ++ s.systemUnderTestId ++ ":" ++ s.testEnvironment ++ ":" ++ s.workload

/-- The system and the environment have no colon. -/
def Scope.Separated (s : Scope) : Prop :=
  ':' ∉ s.systemUnderTestId.toList ∧ ':' ∉ s.testEnvironment.toList

instance (s : Scope) : Decidable s.Separated := inferInstanceAs (Decidable (_ ∧ _))

/-- Different scopes of such systems and environments have different keys. -/
theorem Scope.generateLockKey_inj {s s' : Scope} (hs : s.Separated) (hs' : s'.Separated)
    (h : s.generateLockKey = s'.generateLockKey) : s = s' := by
  have hkey : ∀ s : Scope, s.generateLockKey.toList = "job:lock:".toList ++
      (s.systemUnderTestId.toList ++ ':' :: (s.testEnvironment.toList ++ ':' :: s.workload.toList)) :=
    fun s => by simp [generateLockKey]
  replace h := congrArg String.toList h
  rw [hkey, hkey] at h
  obtain ⟨hsystem, h⟩ := Text.append_sep_inj hs.1 hs'.1 (List.append_cancel_left h)
  obtain ⟨henvironment, hworkload⟩ := Text.append_sep_inj hs.2 hs'.2 h
  obtain ⟨system, environment, workload⟩ := s
  obtain ⟨system', environment', workload'⟩ := s'
  rw [mk.injEq]
  exact ⟨String.toList_injective hsystem, String.toList_injective henvironment,
    String.toList_injective hworkload⟩

inductive JobType
  | analyze
  | refresh
  | reevaluate
deriving DecidableEq

/-- Lock metadata stored in Redis. -/
structure LockMetadata where
  jobId : String
  testRunId : String
  jobType : JobType
  acquiredAt : ℕ
  scope : Scope
deriving DecidableEq

/-- What a lock holds: the lock of a scope metadata, any other the token of its owner. -/
inductive LockValue
  | metadata (m : LockMetadata)
  | token (ownerToken : String)
deriving DecidableEq

namespace LockValue

/-- The job, or the token, that has taken the lock. -/
def owner : LockValue → String
  | metadata m => m.jobId
  | token ownerToken => ownerToken

/-- The test of the scripts. They fail on a token, which is no metadata. -/
def isOfJob (jobId : String) : LockValue → Bool
  | metadata m => m.jobId = jobId
  | token _ => false

theorem owner_of_isOfJob {jobId : String} {v : LockValue} (h : v.isOfJob jobId) :
    v.owner = jobId := by
  cases v with
  | metadata m => exact of_decide_eq_true h
  | token => cases h

end LockValue

/-- A release that has found its owner in the lock, and is about to delete it. -/
inductive Release
  /-- `releaseLock`, by a script that checks again. -/
  | lock (key jobId : String)
  /-- `releaseKeyLock`, without. -/
  | keyLock (key ownerToken : String)
deriving DecidableEq

/-- The locks, and what the jobs know of them. -/
structure JobLocks where
  redis : ExpiringStore String LockValue := {}
  /-- The releases under way. -/
  releasing : List Release := []
  /-- Until when each owner believes that it holds a key. -/
  leases : Table (String × String) ℕ := .empty

/-- What may happen next. -/
inductive JobLockStep
  /-- Time passes. -/
  | advance (ms : ℕ)
  /-- A job tries to take the lock of its scope. -/
  | acquireLock (m : LockMetadata)
  /-- A lock of any key is tried to be taken. -/
  | acquireKeyLock (key ownerToken : String) (ttlSeconds : ℕ)
  | extendLock (scope : Scope) (jobId : String)
  /-- The timer of a job that keeps its lock alive fires. -/
  | extendLockOrReacquire (m : LockMetadata)
  /-- A job reads the lock of its scope, to release it. -/
  | releaseLock (scope : Scope) (jobId : String)
  | releaseKeyLock (key ownerToken : String)
  /-- A release goes on. -/
  | finish (r : Release)
  /-- The lock of the scope of a job that is stuck is removed. -/
  | forceReleaseLock (scope : Scope) (jobId : String)
deriving DecidableEq

def lockTtlSeconds : ℕ := 300

namespace JobLocks

variable (st : JobLocks)

/-- An owner is told that it holds a key for some time. -/
def told (owner key : String) (ttl : ℕ) : Table (String × String) ℕ :=
  st.leases.set (owner, key) (st.redis.now + ttl)

/-- `SET key value EX seconds NX`. -/
def acquire (key : String) (v : LockValue) (ttlSeconds : ℕ) : JobLocks :=
  if (st.redis.get key).isNone then
    { st with
      redis := st.redis.setNX key v (ttlSeconds * 1000)
      leases := st.told v.owner key (ttlSeconds * 1000) }
  else st

/-- The script that extends the lock of a job. -/
def extend (key jobId : String) : JobLocks :=
  if (st.redis.get key).any (LockValue.isOfJob jobId) then
    { st with
      redis := st.redis.expireIf key (lockTtlSeconds * 1000) (LockValue.isOfJob jobId)
      leases := st.told jobId key (lockTtlSeconds * 1000) }
  else { st with leases := st.leases.erase (jobId, key) }

/-- The owner of a lock lets go of it: a release goes on if the lock is found to be its own. -/
def release (key owner : String) (own : LockValue → Bool) (r : Release) : JobLocks :=
  { st with
    releasing := if (st.redis.get key).any own then r :: st.releasing else st.releasing
    leases := st.leases.erase (owner, key) }

/-- The lock is deleted. -/
def finish : Release → JobLocks
  | .lock key jobId =>
    { st with
      redis := st.redis.delIf key (LockValue.isOfJob jobId)
      leases := st.leases.erase (jobId, key) }
  | .keyLock key ownerToken =>
    { st with redis := st.redis.del key, leases := st.leases.erase (ownerToken, key) }

/-- What a step leads to. -/
def step (st : JobLocks) : JobLockStep → Option JobLocks
  | .advance ms => some { st with redis := st.redis.advance ms }
  | .acquireLock m => some (st.acquire m.scope.generateLockKey (.metadata m) lockTtlSeconds)
  | .acquireKeyLock key ownerToken ttlSeconds => do
    guard (0 < ttlSeconds)
    return st.acquire key (.token ownerToken) ttlSeconds
  | .extendLock scope jobId => some (st.extend scope.generateLockKey jobId)
  | .extendLockOrReacquire m =>
    -- An absent key is set again; one of another job is left alone.
    match st.redis.get m.scope.generateLockKey with
    | none => some (st.acquire m.scope.generateLockKey (.metadata m) lockTtlSeconds)
    | some _ => some (st.extend m.scope.generateLockKey m.jobId)
  | .releaseLock scope jobId =>
    let key := scope.generateLockKey
    some (st.release key jobId (LockValue.isOfJob jobId) (.lock key jobId))
  | .releaseKeyLock key ownerToken =>
    some (st.release key ownerToken (· = .token ownerToken) (.keyLock key ownerToken))
  | .finish r => do
    guard (r ∈ st.releasing)
    return finish { st with releasing := st.releasing.erase r } r
  | .forceReleaseLock scope jobId =>
    some
      { st with
        redis := st.redis.del scope.generateLockKey
        leases := st.leases.erase (jobId, scope.generateLockKey) }

/-- The owner that a step is taken on behalf of, and the lock that it is about. -/
def target : JobLockStep → Option (String × String)
  | .advance _ => none
  | .acquireLock m | .extendLockOrReacquire m => some (m.jobId, m.scope.generateLockKey)
  | .extendLock scope jobId | .releaseLock scope jobId | .forceReleaseLock scope jobId =>
    some (jobId, scope.generateLockKey)
  | .acquireKeyLock key ownerToken _ | .releaseKeyLock key ownerToken => some (ownerToken, key)
  | .finish (.lock key owner) | .finish (.keyLock key owner) => some (owner, key)

/-- A step leaves every lock that has not expired alone, unless it is taken on behalf of
    its owner. -/
def Untouched (st : JobLocks) (e : JobLockStep) (st' : JobLocks) : Prop :=
  ∀ key v d, st.redis.entry key = some (v, d) → st'.redis.now < d →
    (∀ o k, target e = some (o, k) → v.owner ≠ o) → st'.redis.entry key = some (v, d)

/-- What a step deletes without a check is a lock of the job that it is taken for. -/
def OwnKey (st : JobLocks) : JobLockStep → Prop
  | .finish (.keyLock key ownerToken) => ∀ v ∈ st.redis.get key, v.owner = ownerToken
  | .forceReleaseLock scope jobId => ∀ v ∈ st.redis.get scope.generateLockKey, v.owner = jobId
  | _ => True

/-- What a step does at one key, for one owner. -/
structure ActsAt (st st' : JobLocks) (owner key : String) : Prop where
  now_eq : st'.redis.now = st.redis.now
  entry_eq : ∀ k, k ≠ key → st'.redis.entry k = st.redis.entry k
  lease_eq : ∀ p, p ≠ (owner, key) → st'.leases.get p = st.leases.get p

variable {st} {st' : JobLocks}

theorem ActsAt.refl (owner key : String) : ActsAt st st owner key :=
  ⟨rfl, fun _ _ => rfl, fun _ _ => rfl⟩

theorem actsAt_acquire {key : String} {v : LockValue} {ttlSeconds : ℕ} (httl : 0 < ttlSeconds) :
    ActsAt st (st.acquire key v ttlSeconds) v.owner key := by
  rw [acquire]
  split
  · refine ⟨ExpiringStore.now_setNX, fun k hk => ?_, fun p hp => ?_⟩
    · rw [ExpiringStore.entry_setNX (by omega), if_neg fun h => hk h.1]
    · rw [told, Table.get_set, if_neg hp]
  · exact .refl _ _

theorem actsAt_extend {key jobId : String} : ActsAt st (st.extend key jobId) jobId key := by
  rw [extend]
  split
  · refine ⟨ExpiringStore.now_expireIf, fun k hk => ?_, fun p hp => ?_⟩
    · rw [ExpiringStore.entry_expireIf (by decide), if_neg hk]
    · rw [told, Table.get_set, if_neg hp]
  · exact ⟨rfl, fun _ _ => rfl, fun p hp => by rw [Table.get_erase, if_neg hp]⟩

theorem actsAt_release {key owner : String} {own : LockValue → Bool} {r : Release} :
    ActsAt st (st.release key owner own r) owner key :=
  ⟨rfl, fun _ _ => rfl, fun p hp => by rw [release, Table.get_erase, if_neg hp]⟩

/-- A step acts at the key that it is about, for the owner that it is taken for. -/
theorem actsAt_of_step {e : JobLockStep} {owner key : String} (hstep : step st e = some st')
    (htarget : target e = some (owner, key)) : ActsAt st st' owner key := by
  have hdel : ∀ releasing, ActsAt st
      { redis := st.redis.del key, releasing, leases := st.leases.erase (owner, key) } owner key :=
    fun releasing => ⟨rfl, fun k hk => by rw [ExpiringStore.entry_del, if_neg hk],
      fun p hp => by rw [Table.get_erase, if_neg hp]⟩
  cases e with
  | advance => cases htarget
  | acquireLock m =>
    cases htarget
    cases hstep
    exact actsAt_acquire (v := .metadata m) (by decide)
  | acquireKeyLock k ownerToken ttlSeconds =>
    cases htarget
    simp only [step, Option.bind_eq_bind, Option.bind_eq_some_iff, Option.guard_eq_some',
      Option.pure_def, Option.some.injEq, exists_const] at hstep
    obtain ⟨httl, rfl⟩ := hstep
    exact actsAt_acquire (v := .token _) httl
  | extendLock scope jobId =>
    cases htarget
    cases hstep
    exact actsAt_extend
  | extendLockOrReacquire m =>
    cases htarget
    rw [step] at hstep
    split at hstep <;> cases hstep
    · exact actsAt_acquire (v := .metadata m) (by decide)
    · exact actsAt_extend
  | releaseLock | releaseKeyLock =>
    cases htarget
    cases hstep
    exact actsAt_release
  | finish r =>
    simp only [step, Option.bind_eq_bind, Option.bind_eq_some_iff, Option.guard_eq_some',
      Option.pure_def, Option.some.injEq, exists_const] at hstep
    obtain ⟨-, rfl⟩ := hstep
    cases r with
    | lock k jobId =>
      cases htarget
      refine ⟨ExpiringStore.now_delIf, fun k hk => ?_, fun p hp => ?_⟩
      · rw [finish, ExpiringStore.entry_delIf, if_neg hk]
      · rw [finish, Table.get_erase, if_neg hp]
    | keyLock k ownerToken =>
      cases htarget
      exact hdel _
  | forceReleaseLock scope jobId =>
    cases htarget
    cases hstep
    exact hdel _

/-- What a key holds for another owner is kept. -/
def KeepsOthers (st st' : JobLocks) (owner key : String) : Prop :=
  ∀ v d, st.redis.entry key = some (v, d) → v.owner ≠ owner → st'.redis.entry key = some (v, d)

theorem keepsOthers_acquire {key owner : String} {v : LockValue} {ttlSeconds : ℕ} :
    KeepsOthers st (st.acquire key v ttlSeconds) owner key := by
  intro v' d hkey _
  rw [acquire, ExpiringStore.get_of_entry hkey]
  exact hkey

theorem keepsOthers_extend {key jobId : String} :
    KeepsOthers st (st.extend key jobId) jobId key := by
  intro v d hkey hne
  have hother : v.isOfJob jobId = false :=
    eq_false_of_ne_true fun h => hne (LockValue.owner_of_isOfJob h)
  rw [extend, ExpiringStore.get_of_entry hkey, Option.any_some, hother]
  exact hkey

/-- What is deleted without a check is kept of no other owner. -/
theorem keepsOthers_del_iff {key owner : String} (hkey : st'.redis.entry key = none) :
    KeepsOthers st st' owner key ↔ ∀ v ∈ st.redis.get key, v.owner = owner := by
  constructor
  · intro h v hv
    obtain ⟨d, hd⟩ := ExpiringStore.exists_entry hv
    by_contra hne
    have hkept := h v d hd hne
    rw [hkey] at hkept
    cases hkept
  · exact fun h v d hd hne => absurd (h v (ExpiringStore.get_of_entry hd)) hne

theorem keepsOthers_iff_ownKey {e : JobLockStep} {owner key : String}
    (hstep : step st e = some st') (htarget : target e = some (owner, key)) :
    KeepsOthers st st' owner key ↔ OwnKey st e := by
  cases e with
  | advance => cases htarget
  | acquireLock m =>
    cases htarget
    cases hstep
    exact iff_of_true keepsOthers_acquire trivial
  | acquireKeyLock k ownerToken ttlSeconds =>
    cases htarget
    simp only [step, Option.bind_eq_bind, Option.bind_eq_some_iff, Option.guard_eq_some',
      Option.pure_def, Option.some.injEq, exists_const] at hstep
    obtain ⟨-, rfl⟩ := hstep
    exact iff_of_true keepsOthers_acquire trivial
  | extendLock scope jobId =>
    cases htarget
    cases hstep
    exact iff_of_true keepsOthers_extend trivial
  | extendLockOrReacquire m =>
    cases htarget
    rw [step] at hstep
    split at hstep <;> cases hstep
    · exact iff_of_true keepsOthers_acquire trivial
    · exact iff_of_true keepsOthers_extend trivial
  | releaseLock | releaseKeyLock =>
    cases htarget
    cases hstep
    exact iff_of_true (fun _ _ hkey _ => hkey) trivial
  | finish r =>
    simp only [step, Option.bind_eq_bind, Option.bind_eq_some_iff, Option.guard_eq_some',
      Option.pure_def, Option.some.injEq, exists_const] at hstep
    obtain ⟨-, rfl⟩ := hstep
    cases r with
    | lock k jobId =>
      cases htarget
      refine iff_of_true (fun v d hkey hne => ?_) trivial
      have hother : v.isOfJob owner = false :=
        eq_false_of_ne_true fun h => hne (LockValue.owner_of_isOfJob h)
      rw [finish, ExpiringStore.entry_delIf, if_pos rfl, hkey, Option.filter_some, hother]
      rfl
    | keyLock k ownerToken =>
      cases htarget
      exact keepsOthers_del_iff (by rw [finish, ExpiringStore.entry_del, if_pos rfl])
  | forceReleaseLock scope jobId =>
    cases htarget
    cases hstep
    exact keepsOthers_del_iff (by rw [ExpiringStore.entry_del, if_pos rfl])

/-- A step leaves the locks of others alone if and only if what it deletes without a check
    is a lock of the job that it is taken for. -/
theorem untouched_iff_ownKey {e : JobLockStep} (hstep : step st e = some st') :
    Untouched st e st' ↔ OwnKey st e := by
  cases htarget : target e with
  | none =>
    cases e with
    | advance ms =>
      cases hstep
      refine iff_of_true (fun key v d hkey hlt _ => ?_) trivial
      rw [ExpiringStore.entry_advance, hkey]
      exact Option.filter_eq_some_iff.2 ⟨rfl, decide_eq_true hlt⟩
    | finish r => cases r <;> cases htarget
    | _ => cases htarget
  | some t =>
    obtain ⟨owner, key⟩ := t
    have hacts := actsAt_of_step hstep htarget
    rw [← keepsOthers_iff_ownKey hstep htarget]
    constructor
    · intro h v d hkey hne
      refine h key v d hkey (hacts.now_eq ▸ ExpiringStore.lt_of_entry hkey) fun o k ht => ?_
      cases htarget.symm.trans ht
      exact hne
    · intro h k v d hkey _ hne
      by_cases hk : k = key
      · subst hk
        exact h v d hkey (hne _ _ htarget)
      · rw [hacts.entry_eq k hk, hkey]

/-! ## What the jobs believe -/

/-- An owner believes that it holds a key: it was told so, and the time is not over. -/
def Believes (st : JobLocks) (owner key : String) : Prop :=
  ∃ d, st.leases.get (owner, key) = some d ∧ st.redis.now < d

/-- Until when an owner believes that it holds a key, it does. -/
def Leased (st : JobLocks) : Prop :=
  ∀ owner key d, st.leases.get (owner, key) = some d → st.redis.now < d →
    ∃ v, v.owner = owner ∧ st.redis.entry key = some (v, d)

/-- Two owners do not both believe that they hold a key. -/
theorem Leased.holder_unique (h : st.Leased) {key o o' : String} (ho : st.Believes o key)
    (ho' : st.Believes o' key) : o = o' := by
  obtain ⟨d, hd, hlt⟩ := ho
  obtain ⟨d', hd', hlt'⟩ := ho'
  obtain ⟨v, rfl, hv⟩ := h o key d hd hlt
  obtain ⟨v', rfl, hv'⟩ := h o' key d' hd' hlt'
  cases hv.symm.trans hv'
  rfl

theorem Leased.acquire (h : st.Leased) {key : String} {v : LockValue} {ttlSeconds d : ℕ}
    (httl : 0 < ttlSeconds)
    (hd : (st.acquire key v ttlSeconds).leases.get (v.owner, key) = some d)
    (hlt : st.redis.now < d) :
    ∃ w, w.owner = v.owner ∧ (st.acquire key v ttlSeconds).redis.entry key = some (w, d) := by
  rw [JobLocks.acquire] at hd ⊢
  split at hd
  · rename_i hfree
    rw [told, Table.get_set, if_pos rfl, Option.some.injEq] at hd
    rw [Option.isNone_iff_eq_none, ExpiringStore.get_eq_none] at hfree
    refine ⟨v, rfl, ?_⟩
    rw [if_pos (by rw [ExpiringStore.get_eq_none.2 hfree]; rfl),
      ExpiringStore.entry_setNX (by omega), if_pos ⟨rfl, hfree⟩, hd]
  · rename_i hheld
    rw [if_neg hheld]
    exact h _ _ d hd hlt

theorem Leased.extend {key jobId : String} {d : ℕ}
    (hd : (st.extend key jobId).leases.get (jobId, key) = some d) :
    ∃ w, w.owner = jobId ∧ (st.extend key jobId).redis.entry key = some (w, d) := by
  rw [JobLocks.extend] at hd ⊢
  split at hd
  · rename_i hown
    obtain ⟨v, hv, hjob⟩ := (Option.any_eq_true _ _).1 hown
    obtain ⟨d', hd'⟩ := ExpiringStore.exists_entry hv
    rw [told, Table.get_set, if_pos rfl, Option.some.injEq] at hd
    refine ⟨v, LockValue.owner_of_isOfJob hjob, ?_⟩
    rw [if_pos hown, ExpiringStore.entry_expireIf (by decide), if_pos rfl, hd', Option.map_some,
      if_pos hjob, hd]
  · rw [Table.get_erase, if_pos rfl] at hd
    cases hd

/-- The owner that a step is taken for believes what it is told. -/
theorem Leased.own {e : JobLockStep} {owner key : String} {d : ℕ} (h : st.Leased)
    (hstep : step st e = some st') (htarget : target e = some (owner, key))
    (hd : st'.leases.get (owner, key) = some d) (hlt : st'.redis.now < d) :
    ∃ v, v.owner = owner ∧ st'.redis.entry key = some (v, d) := by
  have herased : ∀ {leases : Table (String × String) ℕ},
      (leases.erase (owner, key)).get (owner, key) = some d → False := fun hd => by
    rw [Table.get_erase, if_pos rfl] at hd
    cases hd
  rw [(actsAt_of_step hstep htarget).now_eq] at hlt
  cases e with
  | advance => cases htarget
  | acquireLock m =>
    cases htarget
    cases hstep
    exact h.acquire (v := .metadata m) (by decide) hd hlt
  | acquireKeyLock k ownerToken ttlSeconds =>
    cases htarget
    simp only [step, Option.bind_eq_bind, Option.bind_eq_some_iff, Option.guard_eq_some',
      Option.pure_def, Option.some.injEq, exists_const] at hstep
    obtain ⟨httl, rfl⟩ := hstep
    exact h.acquire (v := .token _) httl hd hlt
  | extendLock scope jobId =>
    cases htarget
    cases hstep
    exact Leased.extend hd
  | extendLockOrReacquire m =>
    cases htarget
    rw [step] at hstep
    split at hstep <;> cases hstep
    · exact h.acquire (v := .metadata m) (by decide) hd hlt
    · exact Leased.extend hd
  | releaseLock | releaseKeyLock =>
    cases htarget
    cases hstep
    exact absurd hd herased
  | finish r =>
    simp only [step, Option.bind_eq_bind, Option.bind_eq_some_iff, Option.guard_eq_some',
      Option.pure_def, Option.some.injEq, exists_const] at hstep
    obtain ⟨-, rfl⟩ := hstep
    cases r <;> cases htarget <;> exact absurd hd herased
  | forceReleaseLock scope jobId =>
    cases htarget
    cases hstep
    exact absurd hd herased

theorem Leased.step {e : JobLockStep} (h : st.Leased) (hok : OwnKey st e)
    (hstep : step st e = some st') : st'.Leased := by
  have huntouched := (untouched_iff_ownKey hstep).2 hok
  intro o k d hd hlt
  cases htarget : target e with
  | none =>
    cases e with
    | advance ms =>
      cases hstep
      obtain ⟨v, hv, hentry⟩ := h o k d hd (by dsimp only [ExpiringStore.advance] at hlt; omega)
      exact ⟨v, hv, huntouched k v d hentry hlt fun _ _ ht => by cases ht⟩
    | finish r => cases r <;> cases htarget
    | _ => cases htarget
  | some t =>
    obtain ⟨owner, key⟩ := t
    have hacts := actsAt_of_step hstep htarget
    by_cases hp : (o, k) = (owner, key)
    · cases hp
      exact h.own hstep htarget hd hlt
    · rw [hacts.lease_eq _ hp] at hd
      obtain ⟨v, rfl, hentry⟩ := h o k d hd (hacts.now_eq ▸ hlt)
      refine ⟨v, rfl, ?_⟩
      by_cases hk : k = key
      · subst hk
        refine huntouched k v d hentry hlt fun o' k' ht heq => hp ?_
        cases htarget.symm.trans ht
        rw [heq]
      · rw [hacts.entry_eq k hk, hentry]

/-! ## Runs -/

/-- The scope that a step is about. -/
def scope : JobLockStep → Option Scope
  | .acquireLock m | .extendLockOrReacquire m => some m.scope
  | .extendLock scope _ | .releaseLock scope _ | .forceReleaseLock scope _ => some scope
  | _ => none

/-- What is deleted without a check is a lock of the job that the step is taken for, and the
    key of a scope tells its parts. -/
def Owned (st : JobLocks) (e : JobLockStep) : Prop :=
  OwnKey st e ∧ ∀ s ∈ scope e, s.Separated

instance (st : JobLocks) : (e : JobLockStep) → Decidable (OwnKey st e)
  | .finish (.keyLock key ownerToken) =>
    inferInstanceAs (Decidable (∀ v ∈ st.redis.get key, v.owner = ownerToken))
  | .forceReleaseLock scope jobId =>
    inferInstanceAs (Decidable (∀ v ∈ st.redis.get scope.generateLockKey, v.owner = jobId))
  | .finish (.lock ..) | .advance _ | .acquireLock _ | .acquireKeyLock .. | .extendLock ..
  | .extendLockOrReacquire _ | .releaseLock .. | .releaseKeyLock .. => isTrue trivial

instance (st : JobLocks) (e : JobLockStep) : Decidable (Owned st e) :=
  inferInstanceAs (Decidable (_ ∧ _))

/-- A lock is removed by its owner or by expiry only. -/
structure LockSafe (es : List JobLockStep) (st : JobLocks) : Prop where
  /-- Every step so far has left the locks of others alone. -/
  untouched : Run step (fun s e => ∀ s', step s e = some s' → Untouched s e s') {} es st
  /-- At most one owner believes that it holds a key. -/
  holder_unique : ∀ key o o', st.Believes o key → st.Believes o' key → o = o'
  /-- Different scopes have different keys. -/
  scope_unique : ∀ e ∈ es, ∀ e' ∈ es, ∀ s ∈ scope e, ∀ s' ∈ scope e',
    s.generateLockKey = s'.generateLockKey → s = s'

/-- The lock of a job on a scope. -/
def analysis (jobId : String) (scope : Scope) : LockMetadata :=
  ⟨jobId, "run-" ++ jobId, .analyze, 0, scope⟩

/-- A job does not renew its lock in time; another takes it, and finishes before the first. -/
def expired (scope : Scope) : List JobLockStep :=
  [.acquireLock (analysis "1" scope), .advance 100000, .extendLockOrReacquire (analysis "1" scope),
    .advance 300000, .acquireLock (analysis "2" scope),
    .extendLockOrReacquire (analysis "1" scope), .releaseLock scope "1", .releaseLock scope "2",
    .finish (.lock scope.generateLockKey "2")]

/-- The lock of a collection expires between the two commands of its release; the next one
    takes it, and loses it to a third. -/
def racyRelease (key : String) : List JobLockStep :=
  [.acquireKeyLock key "1" 900, .advance 899999, .releaseKeyLock key "1", .advance 1,
    .acquireKeyLock key "2" 900, .finish (.keyLock key "1"), .acquireKeyLock key "3" 900]

end JobLocks

end Perfana
