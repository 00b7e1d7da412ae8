import Mathlib.Data.Option.Basic
import Mathlib.Tactic.Common

/-!
# JSON values of a database

A column of JSON has a value or is NULL, and so has each of its keys. The operators that read a
key are NULL if there is nothing to read, and the function that sets one is strict: it is NULL as
soon as one of its arguments is, whatever the others are.

`jsonbSet_eq_ok`: setting a key of an object succeeds, and unless the result is NULL, the key has
its new value and the others keep theirs.
-/

namespace Perfana

/-- A value of JSON. -/
inductive Jsonb
  | null
  | bool (b : Bool)
  /-- A number, in its digits. -/
  | number (digits : String)
  | string (s : String)
  | array (items : List Jsonb)
  /-- An object; no key of it is there twice. -/
  | object (members : List (String × Jsonb))

namespace Jsonb

/-- A character in a string of JSON. -/
def quoteChar (c : Char) : String :=
  if c = '"' then "\\\""
  else if c = '\\' then "\\\\"
  else if c = Char.ofNat 8 then "\\b"
  else if c = Char.ofNat 12 then "\\f"
  else if c = '\n' then "\\n"
  else if c = '\r' then "\\r"
  else if c = '\t' then "\\t"
  else if c.toNat < 32 then
    "\\u00" ++ String.ofList [Nat.digitChar (c.toNat / 16), Nat.digitChar (c.toNat % 16)]
  else String.singleton c

def quote (s : String) : String :=
  "\"" ++ String.join (s.toList.map quoteChar) ++ "\""

mutual

/-- The text of a value. -/
def text : Jsonb → String
  | null => "null"
  | bool b => if b then "true" else "false"
  | number digits => digits
  | string s => quote s
  | array items => "[" ++ String.intercalate ", " (textItems items) ++ "]"
  | object members => "\x7b" ++ String.intercalate ", " (textMembers members) ++ "\x7d"

def textItems : List Jsonb → List String
  | [] => []
  | v :: rest => text v :: textItems rest

def textMembers : List (String × Jsonb) → List String
  | [] => []
  | (key, v) :: rest => (quote key ++ ": " ++ text v) :: textMembers rest

end

/-- The value of a key. -/
def get : Jsonb → String → Option Jsonb
  | object members, key => members.lookup key
  | _, _ => none

/-- A value as a text: a string is its characters, and `null` is no text. -/
def asText : Jsonb → Option String
  | null => none
  | string s => some s
  | v => some v.text

/-- The members with a key set, at the end if it is new. -/
def setMember : List (String × Jsonb) → String → Jsonb → List (String × Jsonb)
  | [], key, v => [(key, v)]
  | m :: rest, key, v => if m.1 = key then (key, v) :: rest else m :: setMember rest key v

theorem lookup_setMember (members : List (String × Jsonb)) (key key' : String) (v : Jsonb) :
    (setMember members key v).lookup key' =
      if key' = key then some v else members.lookup key' := by
  have hcons : ∀ k x (rest : List (String × Jsonb)), ((k, x) :: rest).lookup key' =
      if key' = k then some x else rest.lookup key' := by
    intro k x rest
    rw [List.lookup_cons]
    by_cases h : key' = k
    · rw [if_pos h, beq_iff_eq.2 h]
    · rw [if_neg h, beq_eq_false_iff_ne.2 h]
  induction members with
  | nil => exact hcons key v []
  | cons m members ih =>
    obtain ⟨k, x⟩ := m
    rw [setMember]
    split
    · rename_i hk
      obtain rfl : k = key := hk
      rw [hcons, hcons]
      split_ifs <;> rfl
    · rename_i hk
      rw [hcons, hcons, ih]
      split_ifs with hkey' hkey
      · exact absurd (hkey'.symm.trans hkey) hk
      · rfl
      · rfl
      · rfl

end Jsonb

/-! ## Operators -/

/-- `j -> key` -/
def arrow (j : Option Jsonb) (key : String) : Option Jsonb := j.bind (·.get key)

/-- `j ->> key` -/
def arrowText (j : Option Jsonb) (key : String) : Option String :=
  (arrow j key).bind Jsonb.asText

/-- `jsonb_set(target, '{key}', value)`, for a key that is no index. -/
def jsonbSet (target : Option Jsonb) (key : String) (value : Option Jsonb) :
    Except String (Option Jsonb) :=
  match target, value with
  | none, _ => .ok none
  | _, none => .ok none
  | some (.object members), some v => .ok (some (.object (Jsonb.setMember members key v)))
  | some (.array _), some _ =>
    .error ("path element at position 1 is not an integer: \"" ++ key ++ "\"")
  | some _, some _ => .error "cannot set path in scalar"

/-- The value is NULL or an object. -/
def IsObject (j : Option Jsonb) : Prop := ∀ v ∈ j, ∃ members, v = .object members

theorem isObject_none : IsObject none := fun _ h => by cases h

section

variable {target : Option Jsonb} {key : String} {value : Option Jsonb}

/-- A key that is there is one of an object. -/
theorem isObject_of_arrow {v : Jsonb} (h : arrow target key = some v) : IsObject target := by
  rintro w rfl
  cases w with
  | object members => exact ⟨members, rfl⟩
  | null | bool | number | string | array => cases h

/-- Setting a key of an object succeeds, and the result is NULL if the object or the value is. -/
theorem jsonbSet_eq_ok (h : IsObject target) (key : String) (value : Option Jsonb) :
    ∃ result, jsonbSet target key value = .ok result ∧ IsObject result ∧
      (result.isSome ↔ target.isSome ∧ value.isSome) ∧
      (result.isSome → ∀ key', arrow result key' = if key' = key then value else
        arrow target key') := by
  cases target with
  | none => exact ⟨none, rfl, isObject_none, by simp, fun h => (by cases h)⟩
  | some t =>
    obtain ⟨members, rfl⟩ := h t rfl
    cases value with
    | none => exact ⟨none, rfl, isObject_none, by simp, fun h => (by cases h)⟩
    | some v =>
      refine ⟨some (.object (Jsonb.setMember members key v)), rfl, ?_, by simp, fun _ key' => ?_⟩
      · rintro _ ⟨⟩
        exact ⟨_, rfl⟩
      · exact Jsonb.lookup_setMember members key key' v

end

end Perfana
