import Mathlib.Data.List.Basic

/-!
# Traced computations

A computation on a state that may fail, with a trace of what it touches on the way; a failure
keeps the trace. What a computation in two parts touches is what the first part touches and, if it
returns, what the second one does (`within_bind`, `reaches_bind`), so that a claim about the trace
is proved part by part; what the parts keep, the whole keeps (`keeps_bind`), and what the body of a
loop brings about holds after the loop (`forM_induction`).
-/

namespace Perfana

/-- A computation: its trace, and the result with the state after it, or its error. -/
def Traced (τ σ α : Type) : Type := σ → List τ × Except String (α × σ)

namespace Traced

variable {τ σ α β : Type}

/-- Touch something. -/
def touch (t : τ) : Traced τ σ Unit := fun s => ([t], .ok ((), s))

def get : Traced τ σ σ := fun s => ([], .ok (s, s))

def modify (f : σ → σ) : Traced τ σ Unit := fun s => ([], .ok ((), f s))

def fail (message : String) : Traced τ σ α := fun _ => ([], .error message)

/-- The answer of another party. -/
def lift (answer : Except String α) : Traced τ σ α := fun s => ([], answer.map fun a => (a, s))

instance : Monad (Traced τ σ) where
  pure a := fun s => ([], .ok (a, s))
  bind m f := fun s =>
    match m s with
    | (ts, .ok (a, s')) => (ts ++ (f a s').1, (f a s').2)
    | (ts, .error message) => (ts, .error message)

/-- The computation returns a value in a state. -/
def Returns (m : Traced τ σ α) (s : σ) (a : α) (s' : σ) : Prop := (m s).2 = .ok (a, s')

/-- All that the computation touches is let in. -/
def Within (ok : τ → Prop) (m : Traced τ σ α) (s : σ) : Prop := ∀ t ∈ (m s).1, ok t

/-- The computation touches something. -/
def Reaches (t : τ) (m : Traced τ σ α) (s : σ) : Prop := t ∈ (m s).1

variable {ok : τ → Prop} {t : τ} {m : Traced τ σ α} {f : α → Traced τ σ β} {s s' : σ} {a : α}
  {b : β} {message : String}

@[simp] theorem get_apply (s : σ) : (get : Traced τ σ σ) s = ([], .ok (s, s)) := rfl

@[simp] theorem touch_apply (t : τ) (s : σ) : (touch t : Traced τ σ Unit) s = ([t], .ok ((), s)) :=
  rfl

@[simp] theorem modify_apply (f : σ → σ) (s : σ) :
    (modify f : Traced τ σ Unit) s = ([], .ok ((), f s)) := rfl

@[simp] theorem lift_ok_apply (a : α) (s : σ) :
    (lift (.ok a) : Traced τ σ α) s = ([], .ok (a, s)) := rfl

theorem bind_of_eq_ok {ts : List τ} (h : m s = (ts, .ok (a, s'))) :
    (m >>= f) s = (ts ++ (f a s').1, (f a s').2) := by
  simp only [bind, h]

theorem bind_of_eq_error {ts : List τ} (h : m s = (ts, .error message)) :
    (m >>= f) s = (ts, .error message) := by
  simp only [bind, h]

/-- The computation touches something, and goes on as another. -/
def GoesOn (m k : Traced τ σ α) (s : σ) (ts : List τ) : Prop :=
  m s = (ts ++ (k s).1, (k s).2)

/-- If the first part returns, the second part goes on. -/
theorem bind_of_returns (h : m.Returns s a s') :
    (m >>= f) s = ((m s).1 ++ (f a s').1, (f a s').2) :=
  bind_of_eq_ok (Prod.ext rfl h)

/-- If it fails, that is all. -/
theorem bind_of_error (h : (m s).2 = .error message) : (m >>= f) s = ((m s).1, .error message) :=
  bind_of_eq_error (Prod.ext rfl h)

/-- A computation fails, or returns. -/
theorem error_or_returns (m : Traced τ σ α) (s : σ) :
    (∃ message, (m s).2 = .error message) ∨ ∃ a s', m.Returns s a s' := by
  cases h : (m s).2 with
  | error message => exact .inl ⟨message, rfl⟩
  | ok result => exact .inr ⟨result.1, result.2, h⟩

/-- The parts of a computation touch only what is let in. -/
theorem within_bind (hm : m.Within ok s) (hf : ∀ a s', m.Returns s a s' → (f a).Within ok s') :
    (m >>= f).Within ok s := by
  rcases error_or_returns m s with ⟨message, herror⟩ | ⟨a, s', hreturns⟩
  · rw [Within, bind_of_error herror]
    exact hm
  · rw [Within, bind_of_returns hreturns]
    exact List.forall_mem_append.2 ⟨hm, hf a s' hreturns⟩

/-- Where the first part returns, the whole touches what the parts do. -/
theorem within_bind_iff (h : m.Returns s a s') :
    (m >>= f).Within ok s ↔ m.Within ok s ∧ (f a).Within ok s' := by
  rw [Within, bind_of_returns h]
  exact List.forall_mem_append

/-- The first part touches no more than the whole. -/
theorem within_of_bind (h : (m >>= f).Within ok s) : m.Within ok s := by
  rcases error_or_returns m s with ⟨message, herror⟩ | ⟨a, s', hreturns⟩
  · rwa [Within, bind_of_error herror] at h
  · exact ((within_bind_iff hreturns).1 h).1

/-- The whole touches what the first part does. -/
theorem reaches_bind (h : m.Reaches t s) : (m >>= f).Reaches t s := by
  rcases error_or_returns m s with ⟨message, herror⟩ | ⟨a, s', hreturns⟩
  · rw [Reaches, bind_of_error herror]
    exact h
  · rw [Reaches, bind_of_returns hreturns]
    exact List.mem_append_left _ h

/-- If the first part returns, the whole touches what the second part does. -/
theorem reaches_bind_of_returns (h : m.Returns s a s') (hf : (f a).Reaches t s') :
    (m >>= f).Reaches t s := by
  rw [Reaches, bind_of_returns h]
  exact List.mem_append_right _ hf

theorem returns_bind (h : m.Returns s a s') {s'' : σ} (hf : (f a).Returns s' b s'') :
    (m >>= f).Returns s b s'' := by
  rw [Returns, bind_of_returns h]
  exact hf

theorem GoesOn.within_iff {k : Traced τ σ α} {ts : List τ} (h : m.GoesOn k s ts)
    (hts : ∀ t ∈ ts, ok t) : m.Within ok s ↔ k.Within ok s := by
  rw [Within, h, List.forall_mem_append, and_iff_right hts]
  rfl

theorem GoesOn.reaches {k : Traced τ σ α} {ts : List τ} (h : m.GoesOn k s ts)
    (hk : k.Reaches t s) : m.Reaches t s := by
  rw [Reaches, h]
  exact List.mem_append_right _ hk

theorem GoesOn.returns {k : Traced τ σ α} {ts : List τ} (h : m.GoesOn k s ts)
    (hk : k.Returns s a s') : m.Returns s a s' := by
  rw [Returns, h]
  exact hk

@[simp] theorem within_pure : (pure a : Traced τ σ α).Within ok s := List.forall_mem_nil _

@[simp] theorem within_get : (get : Traced τ σ σ).Within ok s := List.forall_mem_nil _

@[simp] theorem within_fail : (fail message : Traced τ σ α).Within ok s := List.forall_mem_nil _

@[simp] theorem within_lift {answer : Except String α} :
    (lift answer : Traced τ σ α).Within ok s := List.forall_mem_nil _

theorem within_touch_bind {f : Unit → Traced τ σ β} :
    (touch t >>= f).Within ok s ↔ ok t ∧ (f ()).Within ok s :=
  List.forall_mem_cons

/-! ## What a computation keeps -/

/-- The states in which the computation returns keep an invariant. -/
def Keeps (Inv : σ → Prop) (m : Traced τ σ α) : Prop :=
  ∀ s a s', Inv s → m.Returns s a s' → Inv s'

variable {Inv : σ → Prop}

theorem keeps_bind (hm : m.Keeps Inv) (hf : ∀ a, (f a).Keeps Inv) : (m >>= f).Keeps Inv := by
  intro s b s' hinv h
  rcases error_or_returns m s with ⟨message, herror⟩ | ⟨a, s'', hreturns⟩
  · rw [Returns, bind_of_error herror] at h
    cases h
  · rw [Returns, bind_of_returns hreturns] at h
    exact hf a s'' b s' (hm s a s'' hinv hreturns) h

/-- What does not write keeps every invariant. -/
theorem keeps_of_reads (h : ∀ s a s', m.Returns s a s' → s' = s) : m.Keeps Inv :=
  fun s a s' hinv hreturns => h s a s' hreturns ▸ hinv

theorem keeps_pure : (pure a : Traced τ σ α).Keeps Inv :=
  keeps_of_reads fun _ _ _ h => by cases h; rfl

theorem keeps_get : (get : Traced τ σ σ).Keeps Inv :=
  keeps_of_reads fun _ _ _ h => by cases h; rfl

theorem keeps_touch : (touch t : Traced τ σ Unit).Keeps Inv :=
  keeps_of_reads fun _ _ _ h => by cases h; rfl

theorem keeps_fail : (fail message : Traced τ σ α).Keeps Inv :=
  keeps_of_reads fun _ _ _ h => by cases h

theorem keeps_lift {answer : Except String α} : (lift answer : Traced τ σ α).Keeps Inv := by
  refine keeps_of_reads fun s a s' h => ?_
  cases answer with
  | error message => cases h
  | ok answer => cases h; rfl

theorem keeps_modify {f : σ → σ} (h : ∀ s, Inv s → Inv (f s)) :
    (modify f : Traced τ σ Unit).Keeps Inv := by
  intro s a s' hinv hreturns
  cases hreturns
  exact h s hinv

/-- A loop touches only what its body does, in the states that the body keeps to. -/
theorem within_forM {l : List α} {f : α → Traced τ σ Unit} (hkeep : ∀ a ∈ l, (f a).Keeps Inv)
    (hbody : ∀ a ∈ l, ∀ s, Inv s → (f a).Within ok s) (hinv : Inv s) :
    (l.forM f).Within ok s := by
  induction l generalizing s with
  | nil => exact List.forall_mem_nil _
  | cons a l ih =>
    obtain ⟨hkeepa, hkeep⟩ := List.forall_mem_cons.1 hkeep
    obtain ⟨hbodya, hbody⟩ := List.forall_mem_cons.1 hbody
    refine within_bind (hbodya s hinv) fun _ s' hreturns => ?_
    exact ih hkeep hbody (hkeepa s () s' hinv hreturns)

/-! ## What a computation returns -/

theorem returns_bind_iff : (m >>= f).Returns s b s' ↔
    ∃ a s'', m.Returns s a s'' ∧ (f a).Returns s'' b s' := by
  constructor
  · intro h
    rcases error_or_returns m s with ⟨message, herror⟩ | ⟨a, s'', hreturns⟩
    · rw [Returns, bind_of_error herror] at h
      cases h
    · rw [Returns, bind_of_returns hreturns] at h
      exact ⟨a, s'', hreturns, h⟩
  · rintro ⟨a, s'', hm, hf⟩
    exact returns_bind hm hf

@[simp] theorem returns_pure_iff {a' : α} :
    (pure a : Traced τ σ α).Returns s a' s' ↔ a' = a ∧ s' = s := by
  constructor
  · intro h
    cases h
    exact ⟨rfl, rfl⟩
  · rintro ⟨rfl, rfl⟩
    rfl

theorem returns_get_bind {f : σ → Traced τ σ β} :
    (get >>= f).Returns s b s' ↔ (f s).Returns s b s' := by
  rw [Returns, bind_of_eq_ok (get_apply s)]
  rfl

theorem returns_touch_bind {f : Unit → Traced τ σ β} :
    (touch t >>= f).Returns s b s' ↔ (f ()).Returns s b s' := by
  rw [Returns, bind_of_eq_ok (touch_apply t s)]
  rfl

@[simp] theorem returns_modify_iff {g : σ → σ} {u : Unit} :
    (modify g : Traced τ σ Unit).Returns s u s' ↔ s' = g s := by
  constructor
  · intro h
    cases h
    rfl
  · rintro rfl
    rfl

@[simp] theorem not_returns_fail : ¬(fail message : Traced τ σ α).Returns s a s' :=
  fun h => by cases h

theorem returns_lift_iff {answer : Except String α} :
    (lift answer : Traced τ σ α).Returns s a s' ↔ answer = .ok a ∧ s' = s := by
  cases answer with
  | error message => exact ⟨fun h => (by cases h), fun h => (by cases h.1)⟩
  | ok a' =>
    constructor
    · intro h
      cases h
      exact ⟨rfl, rfl⟩
    · rintro ⟨h, rfl⟩
      cases h
      rfl

/-- A computation returns one value in one state. -/
theorem Returns.unique {a' : α} {s'' : σ} (h : m.Returns s a s') (h' : m.Returns s a' s'') :
    a = a' ∧ s' = s'' := by
  rw [Returns, h] at h'
  cases h'
  exact ⟨rfl, rfl⟩

/-- A loop over what elements are mapped to is a loop over the elements. -/
theorem forM_map {γ : Type} {l : List γ} {g : γ → α} {f : α → Traced τ σ Unit} :
    (l.map g).forM f = l.forM fun c => f (g c) := by
  induction l with
  | nil => rfl
  | cons c l ih => exact congrArg (fun rest => f (g c) >>= fun _ => rest) ih

/-- What the body of a loop brings about for its element, in the states that it keeps to, and other
    rounds keep, holds for all elements after the loop. -/
theorem forM_induction {l : List α} {f : α → Traced τ σ Unit} {P : σ → Prop}
    {Q : α → σ → Prop} (hkeep : ∀ a ∈ l, (f a).Keeps P)
    (hdone : ∀ a ∈ l, ∀ s s', P s → (f a).Returns s () s' → Q a s')
    (hstay : ∀ a ∈ l, ∀ b ∈ l, ∀ s s', P s → Q b s → (f a).Returns s () s' → Q b s')
    (hinv : P s) (h : (l.forM f).Returns s () s') : P s' ∧ ∀ a ∈ l, Q a s' := by
  have hall : ∀ done rest : List α, ∀ s, done ++ rest = l → P s → (∀ a ∈ done, Q a s) →
      (rest.forM f).Returns s () s' → P s' ∧ ∀ a ∈ l, Q a s' := by
    intro done rest
    induction rest generalizing done with
    | nil =>
      intro s hl hinv hdones h
      obtain ⟨-, rfl⟩ := returns_pure_iff.1 h
      rw [List.append_nil] at hl
      exact ⟨hinv, hl ▸ hdones⟩
    | cons a rest ih =>
      intro s hl hinv hdones h
      obtain ⟨_, s'', hbody, hrest⟩ := returns_bind_iff.1 h
      have ha : a ∈ l := hl ▸ List.mem_append_right _ List.mem_cons_self
      refine ih (done ++ [a]) s'' (by rw [← hl, List.append_assoc]; rfl)
        (hkeep a ha s () s'' hinv hbody) ?_ hrest
      intro b hb
      rcases List.mem_append.1 hb with hb | hb
      · have hbl : b ∈ l := hl ▸ List.mem_append_left _ hb
        exact hstay a ha b hbl s s'' hinv (hdones b hb) hbody
      · rw [List.mem_singleton.1 hb]
        exact hdone a ha s s'' hinv hbody
  exact hall [] l s rfl hinv (List.forall_mem_nil _) h

/-- The state that a computation leaves, if it returns. -/
def after (m : Traced τ σ α) (s : σ) : σ :=
  match (m s).2 with
  | .ok (_, s') => s'
  | .error _ => s

theorem returns_after {m : Traced τ σ Unit} (h : (m s).2.isOk = true) :
    m.Returns s () (m.after s) := by
  rw [Returns, after]
  match hresult : (m s).2 with
  | .ok (_, s') => rfl
  | .error message =>
    rw [hresult] at h
    cases h

end Traced

end Perfana
