import Mathlib.Data.List.Basic
import Mathlib.Data.Nat.Notation
import Perfana.Lib.Utf16

/-!
# Texts and bytes

A text is sent as the bytes of its UTF-8 encoding, and bytes are written as a text in
base64 or in hexadecimal digits. Either way back takes anything: bytes that are no encoding of a character are
read as the replacement character, and what is not of the alphabet is skipped. What was
sent is read back.

* `decode_encode`: bytes written in base64 are read back;
* `Hex.decode_encode`: so are bytes written in digits;
* `decodeUtf8_encodeUtf8`: so is a text sent as bytes.
-/

namespace Perfana

namespace Base64

def alphabet : List Char :=
  "ABCDEFGHIJKLMNOPQRSTUVWXYZabcdefghijklmnopqrstuvwxyz0123456789+/".toList

/-- The character for six bits. -/
def digit (n : ℕ) : Char := alphabet.getD n '='

/-- The six bits of a character, also in the alphabet that is safe in an URL. -/
def value (c : Char) : Option ℕ :=
  if c = '-' then some 62 else if c = '_' then some 63 else alphabet.idxOf? c

/-- Bytes in base64. -/
def encode : List UInt8 → List Char
  | a :: b :: c :: rest =>
    digit (a.toNat / 4) :: digit (a.toNat % 4 * 16 + b.toNat / 16) ::
      digit (b.toNat % 16 * 4 + c.toNat / 64) :: digit (c.toNat % 64) :: encode rest
  | [a, b] =>
    [digit (a.toNat / 4), digit (a.toNat % 4 * 16 + b.toNat / 16), digit (b.toNat % 16 * 4), '=']
  | [a] => [digit (a.toNat / 4), digit (a.toNat % 4 * 16), '=', '=']
  | [] => []

/-- The bytes that groups of six bits make up. -/
def bytes : List ℕ → List UInt8
  | p :: q :: r :: s :: rest =>
    .ofNat (p * 4 + q / 16) :: .ofNat (q % 16 * 16 + r / 4) :: .ofNat (r % 4 * 64 + s) ::
      bytes rest
  | [p, q, r] => [.ofNat (p * 4 + q / 16), .ofNat (q % 16 * 16 + r / 4)]
  | [p, q] => [.ofNat (p * 4 + q / 16)]
  | _ => []

/-- The bytes that a text is in base64. -/
def decode (cs : List Char) : List UInt8 := bytes (cs.filterMap value)

theorem value_digit {n : ℕ} (h : n < 64) : value (digit n) = some n := by
  have hall : ∀ n : Fin 64, value (digit n) = some n.1 := by decide +kernel
  exact hall ⟨n, h⟩

/-- Bytes written in base64 are read back. -/
theorem decode_encode (bs : List UInt8) : decode (encode bs) = bs := by
  have hlt : ∀ a : UInt8, a.toNat < 256 := UInt8.toNat_lt
  have hback : ∀ (a : UInt8) {n : ℕ}, n = a.toNat → UInt8.ofNat n = a := by
    rintro a _ rfl
    exact UInt8.ofNat_toNat
  have hpad : value '=' = none := by decide
  rw [decode]
  induction bs using encode.induct with
  | case1 a b c rest ih =>
    have ha := hlt a
    have hb := hlt b
    have hc := hlt c
    rw [encode, List.filterMap_cons_some (value_digit (by omega)),
      List.filterMap_cons_some (value_digit (by omega)),
      List.filterMap_cons_some (value_digit (by omega)),
      List.filterMap_cons_some (value_digit (by omega)), bytes, ih, hback a (by omega),
      hback b (by omega), hback c (by omega)]
  | case2 a b =>
    have ha := hlt a
    have hb := hlt b
    rw [encode, List.filterMap_cons_some (value_digit (by omega)),
      List.filterMap_cons_some (value_digit (by omega)),
      List.filterMap_cons_some (value_digit (by omega)), List.filterMap_cons_none hpad,
      List.filterMap_nil, bytes, hback a (by omega), hback b (by omega)]
  | case3 a =>
    have ha := hlt a
    rw [encode, List.filterMap_cons_some (value_digit (by omega)),
      List.filterMap_cons_some (value_digit (by omega)), List.filterMap_cons_none hpad,
      List.filterMap_cons_none hpad, List.filterMap_nil, bytes, hback a (by omega)]
  | case4 => rfl

/-- What is not of the alphabet does not come up. -/
theorem not_mem_encode {c : Char} (h : c ∉ alphabet) (hpad : c ≠ '=') (bs : List UInt8) :
    c ∉ encode bs := by
  have hdigit : ∀ n, c ≠ digit n := fun n heq => by
    rw [digit, List.getD_eq_getElem?_getD] at heq
    cases hn : alphabet[n]? with
    | none => exact hpad (by rw [heq, hn, Option.getD_none])
    | some d => exact h (by rw [heq, hn, Option.getD_some]; exact List.mem_of_getElem? hn)
  induction bs using encode.induct with
  | case1 a b c' rest ih => simp [encode, hdigit, ih]
  | case2 a b => simp [encode, hdigit, hpad]
  | case3 a => simp [encode, hdigit, hpad]
  | case4 => exact List.not_mem_nil

/-- A text in base64 is not shorter than the bytes. -/
theorem length_le_encode (bs : List UInt8) : bs.length ≤ (encode bs).length := by
  induction bs using encode.induct with
  | case1 a b c rest ih =>
    rw [encode]
    simp only [List.length_cons]
    omega
  | case2 | case3 => simp [encode]
  | case4 => exact Nat.le_refl _

end Base64

namespace Hex

/-- The digit of a number. -/
def digit (n : ℕ) : CodeUnit := Fin.ofNat 65536 (if n < 10 then 48 + n else 87 + n)

/-- The number of a digit, upper case or not. -/
def value (u : CodeUnit) : Option ℕ :=
  if 48 ≤ u.val ∧ u.val ≤ 57 then some (u.val - 48)
  else if 97 ≤ u.val ∧ u.val ≤ 102 then some (u.val - 87)
  else if 65 ≤ u.val ∧ u.val ≤ 70 then some (u.val - 55)
  else none

/-- Bytes in hexadecimal digits. -/
def encode (bs : List UInt8) : List CodeUnit :=
  bs.flatMap fun b => [digit (b.toNat / 16), digit (b.toNat % 16)]

/-- The bytes that a text is in hexadecimal digits, if it is such a text. -/
def decode : List CodeUnit → Option (List UInt8)
  | [] => some []
  | [_] => none
  | u :: v :: us => do
    let high ← value u
    let low ← value v
    let bs ← decode us
    some (UInt8.ofNat (16 * high + low) :: bs)

theorem value_digit {n : ℕ} (h : n < 16) : value (digit n) = some n := by
  have hall : ∀ n < 16, value (digit n) = some n := by decide
  exact hall n h

/-- Bytes written in digits are read back. -/
theorem decode_encode (bs : List UInt8) : decode (encode bs) = some bs := by
  induction bs with
  | nil => rfl
  | cons b bs ih =>
    have hb : b.toNat < 256 := b.toNat_lt
    have hhalves : 16 * (b.toNat / 16) + b.toNat % 16 = b.toNat := Nat.div_add_mod _ _
    rw [encode] at ih
    rw [encode, List.flatMap_cons, List.cons_append, List.singleton_append, decode,
      value_digit (by omega), value_digit (by omega), ih]
    simp only [Option.bind_eq_bind, Option.bind_some, hhalves, UInt8.ofNat_toNat]

theorem length_encode (bs : List UInt8) : (encode bs).length = 2 * bs.length := by
  induction bs with
  | nil => rfl
  | cons b bs ih =>
    rw [encode] at ih
    rw [encode, List.flatMap_cons, List.length_append, ih, List.length_cons]
    simp only [List.length_cons, List.length_nil]
    omega

/-- Nothing but digits is written. -/
theorem isSome_value_of_mem {u : CodeUnit} {bs : List UInt8} (h : u ∈ encode bs) :
    (value u).isSome = true := by
  obtain ⟨b, -, hu⟩ := List.mem_flatMap.1 h
  have hb : b.toNat < 256 := b.toNat_lt
  rcases List.mem_cons.1 hu with rfl | hu
  · rw [value_digit (by omega)]
    rfl
  · rw [List.mem_singleton.1 hu, value_digit (by omega)]
    rfl

end Hex

/-- The bytes of a text. -/
def encodeUtf8 (cs : List Char) : List UInt8 := cs.flatMap String.utf8EncodeChar

/-- A character of which some bytes are still to come. -/
structure PendingChar where
  /-- The number of bytes to come. -/
  needed : ℕ
  /-- The bounds of the next one. -/
  lower : ℕ
  upper : ℕ
  /-- The bits so far. -/
  point : ℕ

/-- What is read when a byte comes first: a character, or one that is pending. -/
def firstByte (b : ℕ) : List Char × Option PendingChar :=
  if b < 0x80 then ([Char.ofNat b], none)
  else if 0xC2 ≤ b ∧ b < 0xE0 then ([], some ⟨1, 0x80, 0xBF, b - 0xC0⟩)
  else if 0xE0 ≤ b ∧ b < 0xF0 then
    ([], some ⟨2, if b = 0xE0 then 0xA0 else 0x80, if b = 0xED then 0x9F else 0xBF, b - 0xE0⟩)
  else if 0xF0 ≤ b ∧ b < 0xF5 then
    ([], some ⟨3, if b = 0xF0 then 0x90 else 0x80, if b = 0xF4 then 0x8F else 0xBF, b - 0xF0⟩)
  else ([Char.ofNat 0xFFFD], none)

/-- What is read when a byte comes after the first ones of a character. A byte out of bounds
    comes first again, after a replacement character for what was there. -/
def nextByte (p : PendingChar) (b : ℕ) : List Char × Option PendingChar :=
  if p.lower ≤ b ∧ b ≤ p.upper then
    let point := p.point * 64 + (b - 0x80)
    if p.needed = 1 then ([Char.ofNat point], none)
    else ([], some ⟨p.needed - 1, 0x80, 0xBF, point⟩)
  else (Char.ofNat 0xFFFD :: (firstByte b).1, (firstByte b).2)

/-- The text that bytes are read as, while a character is pending or not. -/
def decodeBytes : Option PendingChar → List UInt8 → List Char
  | none, [] => []
  | some _, [] => [Char.ofNat 0xFFFD]
  | pending, b :: bs =>
    let read := match pending with
      | none => firstByte b.toNat
      | some p => nextByte p b.toNat
    read.1 ++ decodeBytes read.2 bs

/-- The text that bytes are read as. -/
def decodeUtf8 (bs : List UInt8) : List Char := decodeBytes none bs

theorem decodeBytes_none_cons (b : UInt8) (bs : List UInt8) :
    decodeBytes none (b :: bs) =
      (firstByte b.toNat).1 ++ decodeBytes (firstByte b.toNat).2 bs := rfl

theorem decodeBytes_some_cons (p : PendingChar) (b : UInt8) (bs : List UInt8) :
    decodeBytes (some p) (b :: bs) =
      (nextByte p b.toNat).1 ++ decodeBytes (nextByte p b.toNat).2 bs := rfl

/-- The bytes of a character are read as the character. -/
theorem decodeBytes_utf8EncodeChar (c : Char) (bs : List UInt8) :
    decodeBytes none (String.utf8EncodeChar c ++ bs) = c :: decodeBytes none bs := by
  have hback : ∀ n : ℕ, n = c.val.toNat → Char.ofNat n = c := by
    rintro _ rfl
    exact Char.ofNat_toNat c
  have hbyte : ∀ n : ℕ, n < 256 → (UInt8.ofNat n).toNat = n := fun n h =>
    UInt8.toNat_ofNat_of_lt' h
  have hvalid : c.val.toNat < 0xD800 ∨ 0xDFFF < c.val.toNat ∧ c.val.toNat < 0x110000 := c.valid
  rw [String.utf8EncodeChar]
  split_ifs with h1 h2 h3
  · rw [List.singleton_append, decodeBytes_none_cons, hbyte _ (by omega), firstByte,
      if_pos (by omega), hback _ rfl]
    rfl
  · rw [List.cons_append, List.singleton_append, decodeBytes_none_cons, hbyte _ (by omega),
      firstByte, if_neg (by omega), if_pos (by omega), List.nil_append, decodeBytes_some_cons,
      hbyte _ (by omega), nextByte, if_pos (by dsimp only; omega)]
    dsimp only
    rw [if_pos rfl, hback _ (by omega)]
    rfl
  · rw [List.cons_append, List.cons_append, List.singleton_append, decodeBytes_none_cons,
      hbyte _ (by omega), firstByte, if_neg (by omega), if_neg (by omega), if_pos (by omega),
      List.nil_append, decodeBytes_some_cons, hbyte _ (by omega), nextByte,
      if_pos (by dsimp only; split_ifs <;> omega)]
    dsimp only
    rw [if_neg (by omega), List.nil_append, decodeBytes_some_cons, hbyte _ (by omega), nextByte,
      if_pos (by dsimp only; omega)]
    dsimp only
    rw [if_pos rfl, hback _ (by omega)]
    rfl
  · rw [List.cons_append, List.cons_append, List.cons_append, List.singleton_append,
      decodeBytes_none_cons, hbyte _ (by omega), firstByte, if_neg (by omega), if_neg (by omega),
      if_neg (by omega), if_pos (by omega), List.nil_append, decodeBytes_some_cons,
      hbyte _ (by omega), nextByte, if_pos (by dsimp only; split_ifs <;> omega)]
    dsimp only
    rw [if_neg (by omega), List.nil_append, decodeBytes_some_cons, hbyte _ (by omega), nextByte,
      if_pos (by dsimp only; omega)]
    dsimp only
    rw [if_neg (by omega), List.nil_append, decodeBytes_some_cons, hbyte _ (by omega), nextByte,
      if_pos (by dsimp only; omega)]
    dsimp only
    rw [if_pos rfl, hback _ (by omega)]
    rfl

/-- A text sent as bytes is read back. -/
theorem decodeUtf8_encodeUtf8 (cs : List Char) : decodeUtf8 (encodeUtf8 cs) = cs := by
  rw [decodeUtf8, encodeUtf8]
  induction cs with
  | nil => rfl
  | cons c cs ih => rw [List.flatMap_cons, decodeBytes_utf8EncodeChar, ih]

/-- A text has no more characters than bytes. -/
theorem length_le_encodeUtf8 (cs : List Char) : cs.length ≤ (encodeUtf8 cs).length := by
  rw [encodeUtf8]
  induction cs with
  | nil => exact Nat.le_refl _
  | cons c cs ih =>
    have hpos : 0 < (String.utf8EncodeChar c).length :=
      List.length_pos_iff.2 String.utf8EncodeChar_ne_nil
    rw [List.flatMap_cons, List.length_append, List.length_cons]
    omega

end Perfana
