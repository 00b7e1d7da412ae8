import Mathlib.Data.List.Induction

/-!
# Runs of a labelled system

A system is a partial step function: the event `e` leads from `s` to `s'` if
`step s e = some s'`. A *run* is a list of events, oldest first, each taken in a
state that meets a condition `ok` (`True` for no condition), so that one can say
what holds along the runs whose steps are all well behaved.

* `Run.invariant`: what holds at the start, and is kept by every step that meets
  the condition, holds along every run; it may mention the events so far, or not
  (`Run.state_invariant`);
* `Run.imp`: a run meets what its steps meet in the states along it;
* `Run.of_checked`, `Run.exists_of_checked`: a run is exhibited by executing its
  events;
* `exists_foldlM_ok`: a loop that may fail ends if its body keeps an invariant.
-/

namespace Perfana

variable {σ ε : Type*}

/-- The runs of `step` from `init` whose events are taken in states that meet `ok`. -/
inductive Run (step : σ → ε → Option σ) (ok : σ → ε → Prop) (init : σ) : List ε → σ → Prop
  | start : Run step ok init [] init
  | snoc {es : List ε} {s s' : σ} {e : ε} (hrun : Run step ok init es s) (hok : ok s e)
      (hstep : step s e = some s') : Run step ok init (es ++ [e]) s'

namespace Run

variable {step : σ → ε → Option σ} {ok : σ → ε → Prop} {init : σ}

/-- What holds at the start and is kept by every step that meets the condition
    holds along every run. -/
theorem invariant {Inv : List ε → σ → Prop} (hinit : Inv [] init)
    (hkeep : ∀ es s e s', Inv es s → ok s e → step s e = some s' → Inv (es ++ [e]) s')
    {es : List ε} {s : σ} (h : Run step ok init es s) : Inv es s := by
  induction h with
  | start => exact hinit
  | snoc _ hok hstep ih => exact hkeep _ _ _ _ ih hok hstep

/-- So does what says nothing about the events. -/
theorem state_invariant {P : σ → Prop} (hinit : P init)
    (hkeep : ∀ s e s', P s → ok s e → step s e = some s' → P s')
    {es : List ε} {s : σ} (h : Run step ok init es s) : P s :=
  h.invariant hinit fun _ => hkeep

/-- A run meets what its steps meet in the states along it. -/
theorem imp {ok' : σ → ε → Prop}
    (hok : ∀ es s e s', Run step ok init es s → ok s e → step s e = some s' → ok' s e)
    {es : List ε} {s : σ} (h : Run step ok init es s) : Run step ok' init es s := by
  induction h with
  | start => exact .start
  | snoc hrun hok' hstep ih => exact .snoc ih (hok _ _ _ _ hrun hok' hstep) hstep

/-- A run that meets a condition meets every weaker one. -/
theorem mono {ok' : σ → ε → Prop} (hweaker : ∀ s e, ok s e → ok' s e) {es : List ε} {s : σ}
    (h : Run step ok init es s) : Run step ok' init es s :=
  h.imp fun _ s e _ _ hok _ => hweaker s e hok

/-- A step that checks the condition first. -/
def checked (step : σ → ε → Option σ) (ok : σ → ε → Prop) [∀ s e, Decidable (ok s e)]
    (s : σ) (e : ε) : Option σ :=
  if ok s e then step s e else none

/-- Executing the events, each checked, exhibits a run. -/
theorem of_checked [∀ s e, Decidable (ok s e)] {es : List ε} {s : σ}
    (h : es.foldlM (checked step ok) init = some s) : Run step ok init es s := by
  induction es using List.reverseRecOn generalizing s with
  | nil =>
    obtain rfl : init = s := by simpa using h
    exact .start
  | append_singleton es e ih =>
    rw [List.foldlM_append, Option.bind_eq_bind, Option.bind_eq_some_iff] at h
    obtain ⟨t, ht, h⟩ := h
    rw [List.foldlM_cons, Option.bind_eq_bind, Option.bind_eq_some_iff] at h
    obtain ⟨u, hu, h⟩ := h
    obtain rfl : u = s := by simpa using h
    rw [checked] at hu
    split at hu
    · rename_i hok
      exact .snoc (ih ht) hok hu
    · cases hu

/-- A run is what executing its events, each checked, leads to. -/
theorem foldlM_checked [∀ s e, Decidable (ok s e)] {es : List ε} {s : σ}
    (h : Run step ok init es s) : es.foldlM (checked step ok) init = some s := by
  induction h with
  | start => rfl
  | snoc _ hok hstep ih =>
    rw [List.foldlM_append, ih]
    simp [checked, hok, hstep]

/-- Executing the events, each checked, and testing the state that they lead to,
    exhibits a run to such a state. -/
theorem exists_of_checked [∀ s e, Decidable (ok s e)] {es : List ε} {p : σ → Bool}
    (h : (es.foldlM (checked step ok) init).any p = true) :
    ∃ s, Run step ok init es s ∧ p s = true := by
  obtain ⟨s, hs, hp⟩ := (Option.any_eq_true p _).1 h
  exact ⟨s, of_checked hs, hp⟩

end Run

/-- A loop ends if its body keeps, and does not fail under, an invariant of the elements that it
    has gone through. -/
theorem exists_foldlM_ok {α β γ : Type*} {body : β → α → Except γ β} {Inv : List α → β → Prop}
    {l : List α} {b : β} (hinit : Inv [] b)
    (hkeep : ∀ gone a rest b, gone ++ a :: rest = l → Inv gone b →
      ∃ b', body b a = .ok b' ∧ Inv (gone ++ [a]) b') :
    ∃ b', l.foldlM body b = .ok b' ∧ Inv l b' := by
  induction l using List.reverseRecOn with
  | nil => exact ⟨b, rfl, hinit⟩
  | append_singleton l a ih =>
    obtain ⟨b₁, h₁, hinv₁⟩ := ih fun gone a' rest b hl hinv =>
      hkeep gone a' (rest ++ [a]) b (by rw [← hl, List.append_assoc, List.cons_append]) hinv
    obtain ⟨b₂, h₂, hinv₂⟩ := hkeep l a [] b₁ rfl hinv₁
    refine ⟨b₂, ?_, hinv₂⟩
    rw [List.foldlM_append, h₁]
    exact (bind_pure _).trans h₂

end Perfana
