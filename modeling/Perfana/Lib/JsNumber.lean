import Perfana.Lib.Text
import Mathlib.Data.Int.Log
import Mathlib.Data.Rat.Floor

/-!
# Numbers of a script

A script reads a text as a number (`toNumber`): a decimal literal is rounded to the closest double,
and a text that is no literal is not a number. Whole numbers below `2 ^ 53` are doubles
(`toDouble_natCast`), so that their decimals are read back (`toNumber_toDigits`).
-/

namespace Perfana.JsNumber

/-- A number. The two zeros are one. -/
inductive Number
  | nan
  | infinity (negative : Bool)
  | finite (x : ℚ)
  deriving DecidableEq

/-! ## Doubles -/

/-- The closest whole number, the even one of two. -/
def roundEven (x : ℚ) : ℤ :=
  if x - ⌊x⌋ < 1 / 2 then ⌊x⌋
  else if 1 / 2 < x - ⌊x⌋ then ⌊x⌋ + 1
  else ⌊x⌋ + ⌊x⌋ % 2

/-- The distance of the doubles around a number. -/
def spacing (x : ℚ) : ℚ := 2 ^ max (Int.log 2 |x| - 52) (-1074)

/-- The closest double. -/
def toDouble (x : ℚ) : ℚ := roundEven (x / spacing x) * spacing x

/-- The value of a literal. -/
def ofRat (x : ℚ) : Number :=
  if 2 ^ 1024 ≤ |toDouble x| then .infinity (x < 0) else .finite (toDouble x)

theorem roundEven_intCast (k : ℤ) : roundEven k = k := by
  simp [roundEven]

theorem toDouble_natCast {n : ℕ} (h : n < 2 ^ 53) : toDouble n = n := by
  have hspacing : ∃ k : ℕ, spacing n = (2 ^ k : ℚ)⁻¹ := by
    have hlog : Int.log 2 |(n : ℚ)| ≤ 52 := by
      rw [Nat.abs_cast, Int.log_natCast]
      have := Nat.log_lt_of_lt_pow' (b := 2) (x := 53) (by decide) h
      omega
    refine ⟨(-max (Int.log 2 |(n : ℚ)| - 52) (-1074)).toNat, ?_⟩
    rw [spacing, ← zpow_natCast, Int.toNat_of_nonneg (by omega), zpow_neg, inv_inv]
  obtain ⟨k, hk⟩ := hspacing
  have hpow : (2 ^ k : ℚ) ≠ 0 := by positivity
  have hwhole : (n : ℚ) / spacing n = ((n * 2 ^ k : ℕ) : ℤ) := by
    rw [hk, div_inv_eq_mul]
    push_cast
    rfl
  rw [toDouble, hwhole, roundEven_intCast, hk]
  push_cast
  exact mul_inv_cancel_right₀ hpow _

/-! ## Literals -/

/-- The value of a digit, in a base up to sixteen. -/
def digitValue (c : Char) : Option ℕ :=
  if '0' ≤ c ∧ c ≤ '9' then some (c.toNat - '0'.toNat)
  else if 'a' ≤ c ∧ c ≤ 'f' then some (c.toNat - 'a'.toNat + 10)
  else if 'A' ≤ c ∧ c ≤ 'F' then some (c.toNat - 'A'.toNat + 10)
  else none

/-- The value of the digits in a base, of which there is at least one. -/
def digits (base : ℕ) (cs : List Char) : Option ℕ :=
  if cs = [] then none
  else cs.foldlM (fun n c => ((digitValue c).filter (· < base)).map (n * base + ·)) 0

/-- The exponent after its mark. -/
def exponent : List Char → Option ℤ
  | '+' :: cs => (digits 10 cs).map Int.ofNat
  | '-' :: cs => (digits 10 cs).map fun n => -(n : ℤ)
  | cs => (digits 10 cs).map Int.ofNat

/-- A decimal literal without a sign: digits with or without a point, and an exponent. -/
def unsigned (cs : List Char) : Option ℚ := do
  let mantissa := cs.takeWhile fun c => c ≠ 'e' ∧ c ≠ 'E'
  let whole := mantissa.takeWhile (· ≠ '.')
  let fraction := (mantissa.drop whole.length).drop 1
  let n ← digits 10 (whole ++ fraction)
  let e ← if cs.length = mantissa.length then some 0 else exponent (cs.drop (mantissa.length + 1))
  return n * 10 ^ (e - fraction.length)

/-- A decimal literal, or infinity, after its sign. -/
def decimal (negative : Bool) (cs : List Char) : Number :=
  if cs = "Infinity".toList then .infinity negative
  else
    match unsigned cs with
    | none => .nan
    | some x => ofRat (if negative then -x else x)

/-- A literal in another base. -/
def based (base : ℕ) (cs : List Char) : Number :=
  match digits base cs with
  | none => .nan
  | some n => ofRat n

/-- The literal that a text is. -/
def literal : List Char → Number
  | [] => .finite 0
  | '0' :: 'x' :: cs | '0' :: 'X' :: cs => based 16 cs
  | '0' :: 'o' :: cs | '0' :: 'O' :: cs => based 8 cs
  | '0' :: 'b' :: cs | '0' :: 'B' :: cs => based 2 cs
  | '+' :: cs => decimal false cs
  | '-' :: cs => decimal true cs
  | cs => decimal false cs

/-- `Number(text)`. -/
def toNumber (cs : List Char) : Number := literal (Text.trim cs)

theorem isDigit_iff {c : Char} : c.isDigit = true ↔ 48 ≤ c.toNat ∧ c.toNat ≤ 57 := by
  simp [Char.isDigit, UInt32.le_iff_toNat_le]

theorem digitValue_of_isDigit {c : Char} (h : c.isDigit) :
    digitValue c = some (c.toNat - '0'.toNat) := by
  rw [digitValue, if_pos (by simpa [Char.le_def, UInt32.le_iff_toNat_le] using isDigit_iff.1 h)]

theorem digits_of_isDigit {cs : List Char} (hne : cs ≠ []) (h : ∀ c ∈ cs, c.isDigit) :
    digits 10 cs = some (Nat.ofDigitChars 10 cs 0) := by
  rw [digits, if_neg hne]
  clear hne
  generalize 0 = n
  induction cs generalizing n with
  | nil => rfl
  | cons c cs ih =>
    have hc := h c List.mem_cons_self
    have hlt : c.toNat - '0'.toNat < 10 := by
      have := (isDigit_iff.1 hc).2
      have hzero : '0'.toNat = 48 := rfl
      omega
    rw [List.foldlM_cons, digitValue_of_isDigit hc, Option.filter_some_pos (by simpa using hlt),
      Option.map_some, Nat.ofDigitChars_cons, Nat.mul_comm 10 n]
    exact ih (fun c hc => h c (List.mem_cons_of_mem _ hc)) _

theorem unsigned_of_isDigit {cs : List Char} (hne : cs ≠ []) (h : ∀ c ∈ cs, c.isDigit) :
    unsigned cs = some (Nat.ofDigitChars 10 cs 0 : ℚ) := by
  have hmantissa : cs.takeWhile (fun c => c ≠ 'e' ∧ c ≠ 'E') = cs :=
    List.takeWhile_eq_self_iff.2 fun c hc => by
      have := isDigit_iff.1 (h c hc)
      have he : c ≠ 'e' := fun heq => by subst heq; exact absurd this.2 (by decide)
      have hE : c ≠ 'E' := fun heq => by subst heq; exact absurd this.2 (by decide)
      simp [he, hE]
  have hwhole : cs.takeWhile (fun c => c ≠ '.') = cs :=
    List.takeWhile_eq_self_iff.2 fun c hc => by
      have := isDigit_iff.1 (h c hc)
      have hpoint : c ≠ '.' := fun heq => by subst heq; exact absurd this.1 (by decide)
      simp [hpoint]
  simp only [unsigned, hmantissa, hwhole, List.drop_length, List.drop_nil, List.append_nil,
    digits_of_isDigit hne h, if_true]
  simp

theorem literal_of_isDigit {cs : List Char} (hne : cs ≠ []) (h : ∀ c ∈ cs, c.isDigit) :
    literal cs = decimal false cs := by
  have hnot : ∀ c ∈ cs, c ∉ ['x', 'X', 'o', 'O', 'b', 'B', '+', '-'] := by
    intro c hc hmem
    have hall : ∀ c ∈ ['x', 'X', 'o', 'O', 'b', 'B', '+', '-'], ¬ c.isDigit :=
      List.forall_iff_forall_mem.1 (by decide)
    exact hall c hmem (h c hc)
  rw [literal.eq_def]
  split
  case h_1 => exact absurd rfl hne
  case h_10 => rfl
  all_goals simp at hnot

/-- The decimals of a whole number that is a double are read back. -/
theorem toNumber_toDigits {n : ℕ} (h : n < 2 ^ 53) :
    toNumber (Nat.toDigits 10 n) = .finite n := by
  have hdigit : ∀ c ∈ Nat.toDigits 10 n, c.isDigit := fun c hc =>
    Nat.isDigit_of_mem_toDigits (by decide) (by decide) hc
  have htrim : Text.trim (Nat.toDigits 10 n) = Nat.toDigits 10 n := by
    have hblank : ∀ c ∈ Nat.toDigits 10 n, ¬ Text.isStrWhiteSpace c := by
      intro c hc hspace
      have := isDigit_iff.1 (hdigit c hc)
      simp [Text.isStrWhiteSpace] at hspace
      omega
    rw [Text.trim_of_forall_not hblank]
  have hfinity : Nat.toDigits 10 n ≠ "Infinity".toList := fun heq =>
    absurd (hdigit 'I' (heq ▸ by decide)) (by decide)
  have hsmall : ¬ (2 ^ 1024 : ℚ) ≤ |toDouble n| := by
    rw [toDouble_natCast h, Nat.abs_cast, not_le]
    exact_mod_cast h.trans (Nat.pow_lt_pow_right (by decide) (by decide))
  rw [toNumber, htrim, literal_of_isDigit Nat.toDigits_ne_nil hdigit, decimal, if_neg hfinity,
    unsigned_of_isDigit Nat.toDigits_ne_nil hdigit, Nat.ofDigitChars_ten_toDigits]
  simp only [Bool.false_eq_true, if_false]
  rw [ofRat, if_neg hsmall, toDouble_natCast h]

end Perfana.JsNumber
