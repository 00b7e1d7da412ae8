/-!
# Transactions that may throw

A computation on a database that may throw keeps, when it throws, what it has
written so far: a handler sees it, and may write more. It is the transaction
around it that decides: it commits what a computation that returns has written,
and leaves the database as it was when the computation throws
(`exec_withTransaction`), whatever its handlers have written.
-/

namespace Perfana

universe u

/-- A computation on a database, which may throw. -/
abbrev Tx (σ ε : Type u) (α : Type u) := ExceptT ε (StateM σ) α

namespace Tx

variable {σ ε α β : Type u}

/-- What a computation returns or throws, and the database it leaves. -/
def exec (x : Tx σ ε α) (s : σ) : Except ε α × σ := (ExceptT.run x).run s

@[simp] theorem exec_pure (a : α) (s : σ) : exec (pure a : Tx σ ε α) s = (.ok a, s) := rfl

@[simp] theorem exec_get (s : σ) : exec (get : Tx σ ε σ) s = (.ok s, s) := rfl

@[simp] theorem exec_throw (e : ε) (s : σ) : exec (throw e : Tx σ ε α) s = (.error e, s) := rfl

@[simp] theorem exec_bind (x : Tx σ ε α) (k : α → Tx σ ε β) (s : σ) :
    exec (x >>= k) s =
      match exec x s with
      | (.ok a, s') => exec (k a) s'
      | (.error e, s') => (.error e, s') := by
  simp only [exec, ExceptT.run_bind, StateT.run_bind]
  cases h : (ExceptT.run x).run s with
  | mk r s' => cases r <;> rfl

@[simp] theorem exec_map (f : α → β) (x : Tx σ ε α) (s : σ) :
    exec (f <$> x) s =
      match exec x s with
      | (.ok a, s') => (.ok (f a), s')
      | (.error e, s') => (.error e, s') :=
  exec_bind x (fun a => pure (f a)) s

@[simp] theorem exec_tryCatch (x : Tx σ ε α) (handle : ε → Tx σ ε α) (s : σ) :
    exec (tryCatch x handle) s =
      match exec x s with
      | (.ok a, s') => (.ok a, s')
      | (.error e, s') => exec (handle e) s' := by
  show (ExceptT.run (ExceptT.tryCatch x handle)).run s = _
  cases h : exec x s with
  | mk r s' =>
    simp only [exec] at h
    simp only [ExceptT.tryCatch, ExceptT.run, ExceptT.mk, StateT.run_bind]
    simp only [ExceptT.run] at h
    rw [h]
    cases r <;> rfl

@[simp] theorem exec_ofExcept (x : Except ε α) (s : σ) :
    exec (ofExcept x : Tx σ ε α) s = (x, s) := by
  cases x <;> rfl

/-- An update of the database that goes through unless there is a fault. -/
def write (fault : Option ε) (f : σ → σ) : Tx σ ε PUnit :=
  match fault with
  | some e => throw e
  | none => modify f

@[simp] theorem exec_write_none (f : σ → σ) (s : σ) :
    exec (write (none : Option ε) f) s = (.ok ⟨⟩, f s) := rfl

@[simp] theorem exec_write_some (e : ε) (f : σ → σ) (s : σ) :
    exec (write (some e) f) s = (.error e, s) := rfl

/-- A transaction: what it writes is kept if it returns, and lost if it throws. -/
def withTransaction (x : Tx σ ε α) : Tx σ ε α := fun s =>
  match exec x s with
  | (.ok a, s') => (.ok a, s')
  | (.error e, _) => (.error e, s)

@[simp] theorem exec_withTransaction (x : Tx σ ε α) (s : σ) :
    exec (withTransaction x) s =
      match exec x s with
      | (.ok a, s') => (.ok a, s')
      | (.error e, _) => (.error e, s) := rfl

end Tx

end Perfana
