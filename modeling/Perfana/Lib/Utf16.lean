import Mathlib.Algebra.GroupWithZero.Nat
import Mathlib.Data.List.Basic

/-!
# Code units of UTF-16

A program may hold a text as a list of code units, which need not be those of any
characters: a character takes one unit or a pair of them (`encode`), and what is cut out of
a text can end in half of a pair. Where such a list is sent as a text, a half of a pair is
sent as the replacement character (`decode`).

* `decode_append_encode`: what whole characters are appended to does not change them, so
  that a text is read back (`decode_encode`), and two texts have different units
  (`encode_injective`);
* `flatMap_decodeUnits_iff`: units are read back if and only if no pair is cut.
-/

namespace Perfana

/-- A code unit. -/
abbrev CodeUnit := Fin 65536

instance CodeUnit.neZero : NeZero 65536 := ⟨by decide⟩

namespace Utf16

/-- The first unit of a pair. -/
def isHigh (u : CodeUnit) : Bool := 0xD800 ≤ u.val && u.val ≤ 0xDBFF

/-- The second unit of a pair. -/
def isLow (u : CodeUnit) : Bool := 0xDC00 ≤ u.val && u.val ≤ 0xDFFF

/-- The units of a character. -/
def encodeChar (c : Char) : List CodeUnit :=
  if c.toNat < 0x10000 then [Fin.ofNat 65536 c.toNat]
  else
    [Fin.ofNat 65536 (0xD800 + (c.toNat - 0x10000) / 0x400),
      Fin.ofNat 65536 (0xDC00 + (c.toNat - 0x10000) % 0x400)]

/-- The units of a text. -/
def encode (s : String) : List CodeUnit := s.toList.flatMap encodeChar

/-- What a unit stands for that is not in a pair. -/
def single (u : CodeUnit) : Char :=
  if isHigh u || isLow u then Char.ofNat 0xFFFD else Char.ofNat u.val

/-- The character that a pair stands for. -/
def pair (high low : CodeUnit) : Char :=
  Char.ofNat (0x10000 + (high.val - 0xD800) * 0x400 + (low.val - 0xDC00))

/-- The characters that some units are sent as. -/
def decodeUnits : List CodeUnit → List Char
  | [] => []
  | [u] => [single u]
  | u :: v :: us =>
    if isHigh u && isLow v then pair u v :: decodeUnits us
    else single u :: decodeUnits (v :: us)

/-- The text that some units are sent as. -/
def decode (us : List CodeUnit) : String := String.ofList (decodeUnits us)

theorem decodeUnits_cons {u : CodeUnit} {us : List CodeUnit}
    (h : ∀ v ∈ us.head?, (isHigh u && isLow v) = false) :
    decodeUnits (u :: us) = single u :: decodeUnits us := by
  cases us with
  | nil => rfl
  | cons v us =>
    rw [decodeUnits, h v rfl]
    rfl

/-- There are no more characters than units. -/
theorem length_decodeUnits_le (us : List CodeUnit) : (decodeUnits us).length ≤ us.length := by
  induction us using decodeUnits.induct with
  | case1 => exact Nat.le_refl _
  | case2 u => exact Nat.le_refl _
  | case3 u v us hpair ih =>
    rw [decodeUnits, if_pos hpair, List.length_cons, List.length_cons, List.length_cons]
    omega
  | case4 u v us hpair ih =>
    rw [decodeUnits, if_neg hpair, List.length_cons, List.length_cons (a := u)]
    omega

section Char

variable (c : Char)

theorem toNat_valid : c.toNat < 0xD800 ∨ 0xDFFF < c.toNat ∧ c.toNat < 0x110000 := c.valid

/-- A character is read back, and does not complete what is before it. -/
theorem decodeUnits_encodeChar (us : List CodeUnit) :
    decodeUnits (encodeChar c ++ us) = c :: decodeUnits us := by
  have hvalid := toNat_valid c
  rw [encodeChar]
  split
  · rename_i hlt
    have hval : (Fin.ofNat 65536 c.toNat).val = c.toNat := Nat.mod_eq_of_lt hlt
    have hhigh : isHigh (Fin.ofNat 65536 c.toNat) = false := by
      simp only [isHigh, hval, Bool.and_eq_false_iff, decide_eq_false_iff_not]
      omega
    have hlow : isLow (Fin.ofNat 65536 c.toNat) = false := by
      simp only [isLow, hval, Bool.and_eq_false_iff, decide_eq_false_iff_not]
      omega
    rw [List.singleton_append, decodeUnits_cons fun v _ => by rw [hhigh, Bool.false_and], single,
      hhigh, hlow, hval, Char.ofNat_toNat]
    rfl
  · have hhigh : (Fin.ofNat 65536 (0xD800 + (c.toNat - 0x10000) / 0x400)).val =
        0xD800 + (c.toNat - 0x10000) / 0x400 := Nat.mod_eq_of_lt (by omega)
    have hlow : (Fin.ofNat 65536 (0xDC00 + (c.toNat - 0x10000) % 0x400)).val =
        0xDC00 + (c.toNat - 0x10000) % 0x400 := Nat.mod_eq_of_lt (by omega)
    have hpair : (isHigh (Fin.ofNat 65536 (0xD800 + (c.toNat - 0x10000) / 0x400)) &&
        isLow (Fin.ofNat 65536 (0xDC00 + (c.toNat - 0x10000) % 0x400))) = true := by
      simp only [isHigh, isLow, hhigh, hlow, Bool.and_eq_true, decide_eq_true_eq]
      omega
    have hnat : 0x10000 + (0xD800 + (c.toNat - 0x10000) / 0x400 - 0xD800) * 0x400 +
        (0xDC00 + (c.toNat - 0x10000) % 0x400 - 0xDC00) = c.toNat := by omega
    rw [List.cons_append, List.singleton_append, decodeUnits, hpair, pair, hhigh, hlow, hnat,
      Char.ofNat_toNat]
    rfl

theorem head_encodeChar (us : List CodeUnit) : ∀ v ∈ (encodeChar c ++ us).head?, isLow v = false := by
  have hvalid := toNat_valid c
  intro v hv
  rw [encodeChar] at hv
  split at hv
  · rename_i hlt
    obtain rfl := Option.some.inj hv
    have hval : (Fin.ofNat 65536 c.toNat).val = c.toNat := Nat.mod_eq_of_lt hlt
    simp only [isLow, hval, Bool.and_eq_false_iff, decide_eq_false_iff_not]
    omega
  · obtain rfl := Option.some.inj hv
    have hval : (Fin.ofNat 65536 (0xD800 + (c.toNat - 0x10000) / 0x400)).val =
        0xD800 + (c.toNat - 0x10000) / 0x400 := Nat.mod_eq_of_lt (by omega)
    simp only [isLow, hval, Bool.and_eq_false_iff, decide_eq_false_iff_not]
    omega

end Char

theorem decodeUnits_flatMap (cs : List Char) : decodeUnits (cs.flatMap encodeChar) = cs := by
  induction cs with
  | nil => rfl
  | cons c cs ih => rw [List.flatMap_cons, decodeUnits_encodeChar, ih]

/-- No unit makes a pair with the first of a character. -/
theorem head_flatMap (cs : List Char) :
    ∀ v ∈ (cs.flatMap encodeChar).head?, isLow v = false := by
  cases cs with
  | nil => exact fun v hv => by cases hv
  | cons c cs =>
    rw [List.flatMap_cons]
    exact head_encodeChar c _

theorem decodeUnits_append (us : List CodeUnit) (cs : List Char) :
    decodeUnits (us ++ cs.flatMap encodeChar) = decodeUnits us ++ cs := by
  induction us using decodeUnits.induct with
  | case1 => exact decodeUnits_flatMap cs
  | case2 u =>
    rw [List.singleton_append,
      decodeUnits_cons fun v hv => by rw [head_flatMap cs v hv, Bool.and_false],
      decodeUnits_flatMap]
    rfl
  | case3 u v us hpair ih =>
    rw [List.cons_append, List.cons_append, decodeUnits, if_pos hpair, ih, decodeUnits,
      if_pos hpair, List.cons_append]
  | case4 u v us hpair ih =>
    rw [List.cons_append] at ih
    rw [List.cons_append, List.cons_append, decodeUnits, if_neg hpair, ih, decodeUnits,
      if_neg hpair, List.cons_append]

/-- A text is appended to what it is appended to. -/
theorem decode_append_encode (us : List CodeUnit) (s : String) :
    decode (us ++ encode s) = decode us ++ s := by
  refine String.toList_injective ?_
  rw [decode, encode, decodeUnits_append, String.toList_ofList, String.toList_append, decode,
    String.toList_ofList]

/-- A text is read back. -/
theorem decode_encode (s : String) : decode (encode s) = s := by
  have hnil : decode [] = "" := rfl
  have h := decode_append_encode [] s
  rwa [List.nil_append, hnil, String.empty_append] at h

theorem encode_append (s t : String) : encode (s ++ t) = encode s ++ encode t := by
  rw [encode, String.toList_append, List.flatMap_append, encode, encode]

theorem encode_injective : Function.Injective encode :=
  fun s t h => (decode_encode s).symm.trans ((congrArg decode h).trans (decode_encode t))

/-- No unit is a half of a pair without the other one. -/
def wellFormed : List CodeUnit → Bool
  | [] => true
  | [u] => !isHigh u && !isLow u
  | u :: v :: us =>
    if isHigh u && isLow v then wellFormed us else !isHigh u && !isLow u && wellFormed (v :: us)

theorem toNat_ofNat {n : ℕ} (h : n.isValidChar) : (Char.ofNat n).toNat = n := by
  rw [Char.ofNat, dif_pos h]
  rfl

theorem encodeChar_pair {high low : CodeUnit} (h : (isHigh high && isLow low) = true) :
    encodeChar (pair high low) = [high, low] := by
  simp only [isHigh, isLow, Bool.and_eq_true, decide_eq_true_eq] at h
  have hvalid : (0x10000 + (high.val - 0xD800) * 0x400 + (low.val - 0xDC00)).isValidChar :=
    .inr ⟨by omega, by omega⟩
  have hnat : (pair high low).toNat =
      0x10000 + (high.val - 0xD800) * 0x400 + (low.val - 0xDC00) :=
    toNat_ofNat hvalid
  have hhigh : 0xD800 + ((pair high low).toNat - 0x10000) / 0x400 = high.val := by omega
  have hlow : 0xDC00 + ((pair high low).toNat - 0x10000) % 0x400 = low.val := by omega
  rw [encodeChar, if_neg (by omega), hhigh, hlow, Fin.ofNat_val_eq_self, Fin.ofNat_val_eq_self]

/-- A unit that is no half of a pair is the only unit of its character. -/
theorem encodeChar_single {u : CodeUnit} (hhigh : isHigh u = false) (hlow : isLow u = false) :
    encodeChar (single u) = [u] := by
  have hu := u.isLt
  have hvalid : u.val.isValidChar := by
    simp only [isHigh, isLow, Bool.and_eq_false_iff, decide_eq_false_iff_not] at hhigh hlow
    rcases Nat.lt_or_ge u.val 0xD800 with h | h
    · exact .inl h
    · exact .inr ⟨by omega, by omega⟩
  have hnat : (single u).toNat = u.val := by
    rw [single, hhigh, hlow]
    exact toNat_ofNat hvalid
  rw [encodeChar, hnat, if_pos hu, Fin.ofNat_val_eq_self]

/-- One that is has another one in its place. -/
theorem encodeChar_single_ne {u : CodeUnit} (h : (isHigh u || isLow u) = true) :
    ∃ v, v ≠ u ∧ encodeChar (single u) = [v] := by
  refine ⟨0xFFFD, ?_, ?_⟩
  · rintro rfl
    exact absurd h (by decide)
  · rw [single, if_pos h]
    decide

/-- Units are read back from what they are sent as if and only if they are well formed. -/
theorem flatMap_decodeUnits_iff (us : List CodeUnit) :
    (decodeUnits us).flatMap encodeChar = us ↔ wellFormed us = true := by
  -- A unit that is not in a pair is read back, and so is what comes after it.
  have hcons : ∀ (u : CodeUnit) (us : List CodeUnit),
      ((decodeUnits us).flatMap encodeChar = us ↔ wellFormed us = true) →
        ((single u :: decodeUnits us).flatMap encodeChar = u :: us ↔
          (!isHigh u && !isLow u && wellFormed us) = true) := by
    intro u us ih
    rw [List.flatMap_cons]
    cases h : isHigh u || isLow u with
    | false =>
      obtain ⟨hhigh, hlow⟩ := Bool.or_eq_false_iff.1 h
      rw [encodeChar_single hhigh hlow, List.singleton_append, List.cons_inj_right, ih, hhigh, hlow]
      simp
    | true =>
      obtain ⟨v, hne, hv⟩ := encodeChar_single_ne h
      rw [hv, List.singleton_append, ← Bool.not_or, h]
      simp [hne]
  induction us using decodeUnits.induct with
  | case1 => simp [decodeUnits, wellFormed]
  | case2 u => simpa [decodeUnits, wellFormed] using hcons u [] (by simp [decodeUnits, wellFormed])
  | case3 u v us hpair ih =>
    rw [decodeUnits, if_pos hpair, wellFormed, if_pos hpair, List.flatMap_cons,
      encodeChar_pair hpair]
    exact (List.append_right_inj [u, v]).trans ih
  | case4 u v us hpair ih =>
    rw [decodeUnits, if_neg hpair, wellFormed, if_neg hpair]
    exact hcons u (v :: us) ih

end Utf16

end Perfana
