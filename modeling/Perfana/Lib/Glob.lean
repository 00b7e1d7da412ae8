import Mathlib.Data.List.Infix

/-!
# Patterns for keys

A pattern selects keys: `*` stands for any text, `?` for any character, `[…]` for one of
a set or out of it, and a backslash takes the meaning from what follows it.
-/

namespace Perfana.Glob

/-- A part of a pattern. -/
inductive Part
  | any
  | one
  /-- A character in one of some ranges, or in none of them. -/
  | set (negated : Bool) (ranges : List (Char × Char))
  | char (c : Char)
deriving DecidableEq

/-- The parts of a pattern, while a set is being read or not. What is not closed ends with
    the pattern. -/
def parse : Option (Bool × List (Char × Char)) → List Char → List Part
  | none, [] => []
  | none, '*' :: p => .any :: parse none p
  | none, '?' :: p => .one :: parse none p
  | none, '[' :: '^' :: p => parse (some (true, [])) p
  | none, '[' :: p => parse (some (false, [])) p
  | none, '\\' :: c :: p => .char c :: parse none p
  | none, c :: p => .char c :: parse none p
  | some (negated, ranges), [] => [.set negated ranges]
  | some (negated, ranges), '\\' :: c :: p => parse (some (negated, (c, c) :: ranges)) p
  | some (negated, ranges), ']' :: p => .set negated ranges :: parse none p
  | some (negated, ranges), a :: '-' :: b :: p =>
    parse (some (negated, (if a ≤ b then (a, b) else (b, a)) :: ranges)) p
  | some (negated, ranges), c :: p => parse (some (negated, (c, c) :: ranges)) p

/-- The parts fit a text. -/
def fits : List Part → List Char → Bool
  | [], cs => cs.isEmpty
  | .any :: p, cs => cs.tails.any fun cs => fits p cs
  | .one :: p, _ :: cs => fits p cs
  | .set negated ranges :: p, c :: cs =>
    (ranges.any (fun r => r.1 ≤ c && c ≤ r.2) != negated) && fits p cs
  | .char d :: p, c :: cs => d = c && fits p cs
  | _ :: _, [] => false

/-- A pattern selects a key. -/
def glob (pattern key : String) : Bool := fits (parse none pattern.toList) key.toList

end Perfana.Glob
