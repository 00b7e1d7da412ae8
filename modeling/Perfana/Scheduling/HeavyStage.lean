import Perfana.Lib.Expiring
import Perfana.Lib.Run

/-!
# The mutex of the heavy stages

The stages that aggregate over all metrics run one at a time in a deployment. The
mutex is a key of Redis: who acquires it sets the key where there is none, extends
it on a timer while its stage runs, and deletes it at the end. The key expires, so
a command may come when it is another's; so a command carries a token, and extends
or deletes the key only while that is what the key holds. A token has a nonce for
each acquisition, but an instance of the mutex keeps it in one field, which a later
acquisition on the instance overwrites while an earlier one still goes on.

* `run_exclusive`: along every run in which an acquisition on an instance begins only
  when the earlier ones on it are over (`OneAtATime`), at most one acquisition owns
  the key, and a heartbeat or release finds its own token in the key, or does nothing;
* `not_exclusive_sharedInstance`: where two acquisitions of an instance overlap, the
  heartbeat of one that has expired extends the key of its successor.
-/

namespace Perfana

/-- What is stored in Redis: `<holder>|<nonce>`, with a nonce for each acquisition. -/
structure HolderToken where
  holder : String
  nonce : ℕ
deriving DecidableEq

/-- An instance of the mutex. -/
structure HeavyStageMutex where
  holder : String
  maxWaitMs : ℕ
  /-- The token of the last acquisition on the instance. -/
  token : Option HolderToken
deriving DecidableEq

/-- How far an acquisition is. -/
inductive AcquisitionStatus
  /-- It is about to try to set the key. -/
  | polling
  /-- It waits for the answer. -/
  | setting
  /-- It has set the key, to a token. -/
  | holding (taken : HolderToken)
  /-- It is over: the key was released, or not acquired in time. -/
  | over
deriving DecidableEq

/-- A call of `acquire`, up to the call of the function that it resolves to. -/
structure Acquisition where
  /-- The instance that it is a call on. -/
  mutex : ℕ
  startedAt : ℕ
  /-- The token that it has made. -/
  token : HolderToken
  status : AcquisitionStatus
deriving DecidableEq

def AcquisitionStatus.isHolding : AcquisitionStatus → Bool
  | .holding _ => true
  | _ => false

/-- What an acquisition asks Redis to do. -/
inductive LockCommand
  | set
  | heartbeat
  | release
deriving DecidableEq

/-- A command that is on its way to Redis. -/
structure SentCommand where
  command : LockCommand
  /-- The acquisition that it was issued for. -/
  nonce : ℕ
  /-- What the field of the instance held when it was issued. -/
  token : HolderToken
deriving DecidableEq

/-- What the processes that run heavy stages share, and where each of them is. -/
structure HeavyStages where
  redis : ExpiringStore String HolderToken := {}
  mutexes : Table ℕ HeavyStageMutex := .empty
  /-- The acquisitions, by nonce. -/
  acquisitions : Table ℕ Acquisition := .empty
  sent : List SentCommand := []

/-- What may happen next. -/
inductive HeavyStageStep
  /-- Time passes. -/
  | advance (ms : ℕ)
  /-- An instance is made for a job. -/
  | create (mutex : ℕ) (holder : String) (maxWaitMs : ℕ)
  /-- An acquisition begins on an instance. -/
  | acquire (mutex nonce : ℕ)
  /-- It tries to set the key. -/
  | poll (nonce : ℕ)
  /-- The timer of an acquisition that holds the key fires. -/
  | heartbeat (nonce : ℕ)
  /-- The function that an acquisition has resolved to is called. -/
  | release (nonce : ℕ)
  /-- Redis executes a command. -/
  | exec (c : SentCommand)
deriving DecidableEq

/-- Redis key: one holder per deployment. -/
def heavyStageLockKey : String := "job:heavy-stage-lock"

def lockTtlMs : ℕ := 5 * 60000

namespace HeavyStages

variable (st : HeavyStages)

/-- A command goes out for an acquisition with a token, and the acquisition goes on. -/
def sending (command : LockCommand) (nonce : ℕ) (a : Acquisition) (token : HolderToken)
    (status : AcquisitionStatus) : HeavyStages :=
  { st with
    acquisitions := st.acquisitions.set nonce { a with status }
    sent := ⟨command, nonce, token⟩ :: st.sent }

/-- The token is what the field of the instance holds. -/
def send (command : LockCommand) (nonce : ℕ) (a : Acquisition) (status : AcquisitionStatus) :
    Option HeavyStages := do
  let m ← st.mutexes.get a.mutex
  let token ← m.token
  return st.sending command nonce a token status

/-- What is done with the answer to an attempt to set the key. -/
def onSet (c : SentCommand) (a : Acquisition) (m : HeavyStageMutex) : HeavyStages :=
  if (st.redis.get heavyStageLockKey).isNone then
    { st with
      redis := st.redis.setNX heavyStageLockKey c.token lockTtlMs
      acquisitions := st.acquisitions.set c.nonce { a with status := .holding c.token } }
  else
    let status := if m.maxWaitMs < st.redis.now - a.startedAt then .over else .polling
    { st with acquisitions := st.acquisitions.set c.nonce { a with status } }

/-- Redis executes a command. -/
def execute (c : SentCommand) : Option HeavyStages :=
  match c.command with
  | .set => do
    let a ← st.acquisitions.get c.nonce
    guard (a.status = .setting)
    let m ← st.mutexes.get a.mutex
    return st.onSet c a m
  | .heartbeat =>
    some { st with redis := st.redis.expireIf heavyStageLockKey lockTtlMs (· = c.token) }
  | .release => some { st with redis := st.redis.delIf heavyStageLockKey (· = c.token) }

/-- What a step leads to. -/
def step (st : HeavyStages) : HeavyStageStep → Option HeavyStages
  | .advance ms => some { st with redis := st.redis.advance ms }
  | .create mutex holder maxWaitMs => do
    guard (st.mutexes.get mutex = none)
    return { st with mutexes := st.mutexes.set mutex ⟨holder, maxWaitMs, none⟩ }
  | .acquire mutex nonce => do
    guard (st.acquisitions.get nonce = none)
    let m ← st.mutexes.get mutex
    let token : HolderToken := ⟨m.holder, nonce⟩
    return { st with
      mutexes := st.mutexes.set mutex { m with token := some token }
      acquisitions := st.acquisitions.set nonce ⟨mutex, st.redis.now, token, .polling⟩ }
  | .poll nonce => do
    let a ← st.acquisitions.get nonce
    guard (a.status = .polling)
    st.send .set nonce a .setting
  | .heartbeat nonce => do
    let a ← st.acquisitions.get nonce
    guard a.status.isHolding
    st.send .heartbeat nonce a a.status
  | .release nonce => do
    let a ← st.acquisitions.get nonce
    guard a.status.isHolding
    st.send .release nonce a .over
  | .exec c => do
    guard (c ∈ st.sent)
    execute { st with sent := st.sent.erase c } c

/-- An acquisition owns the key: it has set it to a token, which the key still holds. -/
def Owns (nonce : ℕ) : Prop :=
  ∃ a taken, st.acquisitions.get nonce = some a ∧ a.status = .holding taken ∧
    st.redis.get heavyStageLockKey = some taken

/-- At most one acquisition owns the key, and no other's key is extended or deleted. -/
structure Exclusive : Prop where
  /-- Two owners are the same. -/
  owner_unique : ∀ n n', st.Owns n → st.Owns n' → n = n'
  /-- A heartbeat or release that would find its token in the key is of the acquisition
      that the key is of. -/
  own_token : ∀ c ∈ st.sent, c.command ≠ .set →
    st.redis.get heavyStageLockKey = some c.token →
    ∃ a, st.acquisitions.get c.nonce = some a ∧ st.redis.get heavyStageLockKey = some a.token

/-- An acquisition begins on an instance when those before it on the instance are over. -/
def OneAtATime (st : HeavyStages) : HeavyStageStep → Prop
  | .acquire mutex _ => ∀ row ∈ st.acquisitions.rows, row.2.mutex = mutex → row.2.status = .over
  | _ => True

instance (st : HeavyStages) : (e : HeavyStageStep) → Decidable (st.OneAtATime e)
  | .acquire .. => inferInstanceAs (Decidable (∀ row ∈ st.acquisitions.rows, _ → _))
  | .advance _ | .create .. | .poll _ | .heartbeat _ | .release _ | .exec _ => isTrue trivial

/-- An acquisition would send a token, which the field of its instance holds. -/
def Sends (nonce : ℕ) (a : Acquisition) (token : HolderToken) : Prop :=
  st.acquisitions.get nonce = some a ∧
    ∃ m, st.mutexes.get a.mutex = some m ∧ m.token = some token

/-- What the steps are, with their conditions. -/
inductive StepTo (st : HeavyStages) : HeavyStageStep → HeavyStages → Prop
  | advance (ms : ℕ) : StepTo st (.advance ms) { st with redis := st.redis.advance ms }
  | create (mutex : ℕ) (holder : String) (maxWaitMs : ℕ) (hnew : st.mutexes.get mutex = none) :
      StepTo st (.create mutex holder maxWaitMs)
        { st with mutexes := st.mutexes.set mutex ⟨holder, maxWaitMs, none⟩ }
  | acquire (mutex nonce : ℕ) (m : HeavyStageMutex) (hnew : st.acquisitions.get nonce = none)
      (hm : st.mutexes.get mutex = some m) : StepTo st (.acquire mutex nonce)
        { st with
          mutexes := st.mutexes.set mutex { m with token := some ⟨m.holder, nonce⟩ }
          acquisitions := st.acquisitions.set nonce
            ⟨mutex, st.redis.now, ⟨m.holder, nonce⟩, .polling⟩ }
  | poll (nonce : ℕ) (a : Acquisition) (token : HolderToken) (hsends : st.Sends nonce a token)
      (hstatus : a.status = .polling) :
      StepTo st (.poll nonce) (st.sending .set nonce a token .setting)
  | heartbeat (nonce : ℕ) (a : Acquisition) (token : HolderToken)
      (hsends : st.Sends nonce a token) (hstatus : a.status.isHolding) :
      StepTo st (.heartbeat nonce) (st.sending .heartbeat nonce a token a.status)
  | release (nonce : ℕ) (a : Acquisition) (token : HolderToken)
      (hsends : st.Sends nonce a token) (hstatus : a.status.isHolding) :
      StepTo st (.release nonce) (st.sending .release nonce a token .over)
  | set (c : SentCommand) (a : Acquisition) (m : HeavyStageMutex) (hsent : c ∈ st.sent)
      (ha : st.acquisitions.get c.nonce = some a) (hstatus : a.status = .setting) :
      StepTo st (.exec c) (onSet { st with sent := st.sent.erase c } c a m)
  | expire (c : SentCommand) (hsent : c ∈ st.sent) : StepTo st (.exec c)
      { st with
        redis := st.redis.expireIf heavyStageLockKey lockTtlMs (· = c.token)
        sent := st.sent.erase c }
  | delete (c : SentCommand) (hsent : c ∈ st.sent) : StepTo st (.exec c)
      { st with
        redis := st.redis.delIf heavyStageLockKey (· = c.token)
        sent := st.sent.erase c }

variable {st} {st' : HeavyStages}

theorem sends_of_send {command : LockCommand} {nonce : ℕ} {a : Acquisition}
    {status : AcquisitionStatus} (ha : st.acquisitions.get nonce = some a)
    (h : st.send command nonce a status = some st') :
    ∃ token, st.Sends nonce a token ∧ st' = st.sending command nonce a token status := by
  simp only [send, Option.bind_eq_bind, Option.bind_eq_some_iff, Option.pure_def,
    Option.some.injEq] at h
  obtain ⟨m, hm, token, htoken, rfl⟩ := h
  exact ⟨token, ⟨ha, m, hm, htoken⟩, rfl⟩

theorem StepTo.of_step {e : HeavyStageStep} (h : st.step e = some st') : StepTo st e st' := by
  cases e <;> simp only [step, execute, Option.bind_eq_bind, Option.bind_eq_some_iff,
    Option.guard_eq_some', Option.pure_def, Option.some.injEq, exists_const] at h
  case advance ms => exact h ▸ .advance ms
  case create mutex holder maxWaitMs =>
    obtain ⟨hnew, rfl⟩ := h
    exact .create mutex holder maxWaitMs hnew
  case acquire mutex nonce =>
    obtain ⟨hnew, m, hm, rfl⟩ := h
    exact .acquire mutex nonce m hnew hm
  case poll nonce =>
    obtain ⟨a, ha, hstatus, h⟩ := h
    obtain ⟨token, hsends, rfl⟩ := sends_of_send ha h
    exact .poll nonce a token hsends hstatus
  case heartbeat nonce =>
    obtain ⟨a, ha, hstatus, h⟩ := h
    obtain ⟨token, hsends, rfl⟩ := sends_of_send ha h
    exact .heartbeat nonce a token hsends hstatus
  case release nonce =>
    obtain ⟨a, ha, hstatus, h⟩ := h
    obtain ⟨token, hsends, rfl⟩ := sends_of_send ha h
    exact .release nonce a token hsends hstatus
  case exec c =>
    obtain ⟨hsent, h⟩ := h
    split at h
    · simp only [Option.bind_eq_some_iff, Option.guard_eq_some', Option.some.injEq,
        exists_const] at h
      obtain ⟨a, ha, hstatus, m, hm, rfl⟩ := h
      exact .set c a m hsent ha hstatus
    · cases h
      exact .expire c hsent
    · cases h
      exact .delete c hsent

/-- Every acquisition uses its own token. -/
structure OwnTokens (st : HeavyStages) : Prop where
  /-- The token of an acquisition has its nonce. -/
  nonce_eq : ∀ n a, st.acquisitions.get n = some a → a.token.nonce = n
  /-- The instance of an acquisition that is not over holds its token. -/
  token_eq : ∀ n a, st.acquisitions.get n = some a → a.status ≠ .over →
    ∃ m, st.mutexes.get a.mutex = some m ∧ m.token = some a.token
  /-- The key was set to it. -/
  taken_eq : ∀ n a taken, st.acquisitions.get n = some a → a.status = .holding taken →
    taken = a.token
  /-- The commands carry it. -/
  sent_eq : ∀ c ∈ st.sent, ∃ a, st.acquisitions.get c.nonce = some a ∧ c.token = a.token

theorem OwnTokens.exclusive (h : st.OwnTokens) : st.Exclusive where
  owner_unique := by
    rintro n n' ⟨a, taken, ha, hstatus, hkey⟩ ⟨a', taken', ha', hstatus', hkey'⟩
    obtain rfl : taken = taken' := Option.some.inj (hkey.symm.trans hkey')
    rw [← h.nonce_eq n a ha, ← h.taken_eq n a taken ha hstatus,
      h.taken_eq n' a' taken ha' hstatus', h.nonce_eq n' a' ha']
  own_token c hc _ hkey := by
    obtain ⟨a, ha, htoken⟩ := h.sent_eq c hc
    exact ⟨a, ha, htoken ▸ hkey⟩

theorem OwnTokens.erase (h : st.OwnTokens) (c : SentCommand)
    (redis : ExpiringStore String HolderToken) :
    OwnTokens { st with redis, sent := st.sent.erase c } :=
  { h with sent_eq := fun c' hc' => h.sent_eq c' (List.mem_of_mem_erase hc') }

/-- An acquisition that is not over goes on. -/
theorem OwnTokens.goOn (h : st.OwnTokens) {n : ℕ} {a : Acquisition} {status : AcquisitionStatus}
    (ha : st.acquisitions.get n = some a) (hopen : a.status ≠ .over)
    (htaken : ∀ taken, status = .holding taken → taken = a.token) :
    OwnTokens { st with acquisitions := st.acquisitions.set n { a with status } } where
  nonce_eq n' a' ha' := by
    rw [Table.get_set] at ha'
    split at ha'
    · rename_i heq
      obtain rfl := Option.some.inj ha'
      exact heq ▸ h.nonce_eq n a ha
    · exact h.nonce_eq n' a' ha'
  token_eq n' a' ha' hopen' := by
    rw [Table.get_set] at ha'
    split at ha'
    · obtain rfl := Option.some.inj ha'
      exact h.token_eq n a ha hopen
    · exact h.token_eq n' a' ha' hopen'
  taken_eq n' a' taken ha' hstatus := by
    rw [Table.get_set] at ha'
    split at ha'
    · obtain rfl := Option.some.inj ha'
      exact htaken taken hstatus
    · exact h.taken_eq n' a' taken ha' hstatus
  sent_eq c hc := by
    obtain ⟨a', ha', htoken⟩ := h.sent_eq c hc
    rw [Table.get_set]
    split
    · rename_i heq
      obtain rfl : a = a' := Option.some.inj (ha.symm.trans (heq ▸ ha'))
      exact ⟨_, rfl, htoken⟩
    · exact ⟨a', ha', htoken⟩

theorem OwnTokens.sending (h : st.OwnTokens) {command : LockCommand} {n : ℕ} {a : Acquisition}
    {token : HolderToken} {status : AcquisitionStatus} (hsends : st.Sends n a token)
    (hopen : a.status ≠ .over) (htaken : ∀ taken, status = .holding taken → a.status = status) :
    (st.sending command n a token status).OwnTokens := by
  obtain ⟨ha, m, hm, htoken⟩ := hsends
  obtain ⟨m', hm', htoken'⟩ := h.token_eq n a ha hopen
  obtain rfl : m = m' := Option.some.inj (hm.symm.trans hm')
  obtain rfl : token = a.token := Option.some.inj (htoken.symm.trans htoken')
  have hgone := h.goOn ha hopen fun taken hstatus =>
    h.taken_eq n a taken ha ((htaken taken hstatus).trans hstatus)
  refine { hgone with sent_eq := fun c hc => ?_ }
  rcases List.mem_cons.1 hc with rfl | hc
  · refine ⟨{ a with status }, ?_, rfl⟩
    rw [HeavyStages.sending, Table.get_set, if_pos rfl]
  · exact hgone.sent_eq c hc

theorem OwnTokens.step {e : HeavyStageStep} (h : st.OwnTokens) (hok : OneAtATime st e)
    (hstep : st.step e = some st') : st'.OwnTokens := by
  cases StepTo.of_step hstep with
  | advance => exact { h with }
  | create mutex holder maxWaitMs hnew =>
    refine { h with token_eq := fun n a ha hopen => ?_ }
    obtain ⟨m, hm, htoken⟩ := h.token_eq n a ha hopen
    have hne : a.mutex ≠ mutex := fun heq => by rw [heq, hnew] at hm; cases hm
    exact ⟨m, by rw [Table.get_set, if_neg hne, hm], htoken⟩
  | acquire mutex nonce m hnew hm =>
    refine { nonce_eq := ?_, token_eq := ?_, taken_eq := ?_, sent_eq := ?_ }
    · intro n a ha
      rw [Table.get_set] at ha
      split at ha
      · rename_i heq
        obtain rfl := Option.some.inj ha
        exact heq.symm
      · exact h.nonce_eq n a ha
    · intro n a ha hopen
      rw [Table.get_set] at ha
      split at ha
      · obtain rfl := Option.some.inj ha
        exact ⟨_, by rw [Table.get_set, if_pos rfl], rfl⟩
      · -- The other acquisitions on the instance are over.
        have hne : a.mutex ≠ mutex := fun heq => hopen (hok (n, a) (Table.mem_rows.2 ha) heq)
        obtain ⟨m', hm', htoken⟩ := h.token_eq n a ha hopen
        exact ⟨m', by rw [Table.get_set, if_neg hne, hm'], htoken⟩
    · intro n a taken ha hstatus
      rw [Table.get_set] at ha
      split at ha
      · obtain rfl := Option.some.inj ha
        cases hstatus
      · exact h.taken_eq n a taken ha hstatus
    · intro c hc
      obtain ⟨a, ha, htoken⟩ := h.sent_eq c hc
      have hne : c.nonce ≠ nonce := fun heq => by rw [heq, hnew] at ha; cases ha
      exact ⟨a, by rw [Table.get_set, if_neg hne, ha], htoken⟩
  | poll nonce a token hsends hstatus =>
    exact h.sending hsends (by rw [hstatus]; simp) fun _ heq => by cases heq
  | heartbeat nonce a token hsends hstatus =>
    exact h.sending hsends (fun heq => by rw [heq] at hstatus; cases hstatus) fun _ _ => rfl
  | release nonce a token hsends hstatus =>
    exact h.sending hsends (fun heq => by rw [heq] at hstatus; cases hstatus)
      fun _ heq => by cases heq
  | set c a m hsent ha hstatus =>
    obtain ⟨a', ha', htoken⟩ := h.sent_eq c hsent
    obtain rfl : a = a' := Option.some.inj (ha.symm.trans ha')
    have hopen : a.status ≠ .over := by rw [hstatus]; simp
    have herase := h.erase c st.redis
    rw [onSet]
    split
    · have htaken : ∀ taken, AcquisitionStatus.holding c.token = .holding taken →
          taken = a.token := fun taken heq => by
        cases heq
        exact htoken
      exact { herase.goOn ha hopen htaken with }
    · refine herase.goOn ha hopen fun taken heq => ?_
      split at heq <;> cases heq
  | expire c => exact h.erase c _
  | delete c => exact h.erase c _

/-- Along every run in which the acquisitions on an instance follow one another, at most one
    acquisition owns the key, and no other's key is extended or deleted. -/
theorem run_exclusive {es : List HeavyStageStep}
    (h : Run HeavyStages.step OneAtATime {} es st) : st.Exclusive := by
  have hinit : OwnTokens {} :=
    { nonce_eq := fun _ _ ha => by cases ha
      token_eq := fun _ _ ha => by cases ha
      taken_eq := fun _ _ _ ha => by cases ha
      sent_eq := fun _ hc => absurd hc List.not_mem_nil }
  have htokens : st.OwnTokens :=
    h.state_invariant hinit fun _ _ _ hst hok hstep => hst.step hok hstep
  exact htokens.exclusive

/-- An acquisition of a job, on an instance of its own. -/
def acquired (mutex nonce : ℕ) : List HeavyStageStep :=
  [.create mutex "job" 3600000, .acquire mutex nonce, .poll nonce,
    .exec ⟨.set, nonce, ⟨"job", nonce⟩⟩]

/-- The holder dies, its key expires, and the job is dispatched again. -/
def redispatched : List HeavyStageStep :=
  acquired 0 1 ++ [.heartbeat 1, .advance 300000] ++ acquired 1 2

theorem run_exclusive_redispatched : ∃ st,
    Run HeavyStages.step OneAtATime {} redispatched st ∧
      st.redis.get heavyStageLockKey = some ⟨"job", 2⟩ ∧
      ⟨.heartbeat, 1, ⟨"job", 1⟩⟩ ∈ st.sent ∧ st.Exclusive := by
  have htest : (redispatched.foldlM (Run.checked HeavyStages.step OneAtATime) {}).any
      (fun st => st.redis.get heavyStageLockKey = some ⟨"job", 2⟩ ∧
        ⟨.heartbeat, 1, ⟨"job", 1⟩⟩ ∈ st.sent) = true := by decide +kernel
  obtain ⟨st, hrun, htest⟩ := Run.exists_of_checked htest
  obtain ⟨hkey, hsent⟩ := of_decide_eq_true htest
  exact ⟨st, hrun, hkey, hsent, run_exclusive hrun⟩

/-- Two acquisitions on one instance: the second begins while the first holds the key,
    which is not extended any more, and sets it when it has expired. -/
def sharedInstance : List HeavyStageStep :=
  acquired 0 1 ++
    [.acquire 0 2, .heartbeat 1, .exec ⟨.heartbeat, 1, ⟨"job", 2⟩⟩, .advance 300000, .poll 2,
      .exec ⟨.set, 2, ⟨"job", 2⟩⟩, .heartbeat 1]

/-- The heartbeat of the first acquisition would then extend the key of the second. -/
theorem not_exclusive_sharedInstance : ∃ st,
    Run HeavyStages.step (fun _ _ => True) {} sharedInstance st ∧ ¬st.Exclusive := by
  have htest : (sharedInstance.foldlM (Run.checked HeavyStages.step fun _ _ => True) {}).any
      (fun st => ⟨.heartbeat, 1, ⟨"job", 2⟩⟩ ∈ st.sent ∧
        st.redis.get heavyStageLockKey = some ⟨"job", 2⟩ ∧
        (st.acquisitions.get 1).map Acquisition.token = some ⟨"job", 1⟩) = true := by
    decide +kernel
  obtain ⟨st, hrun, htest⟩ := Run.exists_of_checked htest
  obtain ⟨hsent, hkey, hown⟩ := of_decide_eq_true htest
  refine ⟨st, hrun, fun h => ?_⟩
  obtain ⟨a, ha, hkey'⟩ := h.own_token _ hsent (by simp) hkey
  rw [ha, Option.map_some, Option.some.injEq] at hown
  rw [hkey, hown] at hkey'
  cases hkey'

end HeavyStages

end Perfana
