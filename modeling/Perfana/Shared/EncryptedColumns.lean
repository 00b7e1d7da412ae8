import Perfana.Lib.Bytes
import Perfana.Lib.Words

/-!
# Encrypted columns

A secret is encrypted when it is written to its column and decrypted when it is read. What is
stored has three parts in hexadecimal digits: a nonce, a tag and the ciphertext. Whether a value
is encrypted already is told by this format, when it is written as well as when it is read.

* `decrypt_encrypt`: what is encrypted is read back, unless a pair of surrogates is cut in it;
* `columns_faithful_iff`: a value is stored encrypted, and read back, by both transformers if and
  only if it does not have the format of what they store, and no pair is cut in it;
* `not_faithful_envelope`: one that has the format is stored as it is.
-/

namespace Perfana

/-! ## The cipher -/

/-- What AES-256 in the Galois/Counter Mode guarantees. -/
structure Gcm where
  /-- The ciphertext and the tag of a plaintext, for a key and a nonce. -/
  encrypt : List UInt8 → List UInt8 → List UInt8 → List UInt8 × List UInt8
  /-- The plaintext of a ciphertext with a tag. -/
  decrypt : List UInt8 → List UInt8 → List UInt8 → List UInt8 → Option (List UInt8)
  length_ciphertext : ∀ key nonce plaintext,
    (encrypt key nonce plaintext).1.length = plaintext.length
  length_tag : ∀ key nonce plaintext, (encrypt key nonce plaintext).2.length = 16
  /-- Decryption inverts encryption, and rejects anything else. -/
  decrypt_eq_some : ∀ key nonce tag ciphertext plaintext,
    decrypt key nonce tag ciphertext = some plaintext ↔
      encrypt key nonce plaintext = (ciphertext, tag)

/-- The twelve random bytes that are drawn for an encryption. -/
structure Nonce where
  bytes : List UInt8
  length_eq : bytes.length = 12

/-! ## The program -/

/-- The separator of the parts of what is stored. -/
def colon : CodeUnit := 58

/-- A text of hexadecimal digits, at least one. -/
def isHexText (text : List CodeUnit) : Bool :=
  !text.isEmpty && text.all fun u => (Hex.value u).isSome

/-- The key, from the environment. -/
def getEncryptionKey (keyHex : Option (List CodeUnit)) : Except String (List UInt8) :=
  match keyHex with
  | none | some [] => .error ("ENCRYPTION_KEY environment variable is required for credential " ++
      "encryption. Set a 64-character hex string (32 bytes).")
  | some keyHex =>
    if !isHexText keyHex then .error "ENCRYPTION_KEY must be a valid hexadecimal string."
    else if keyHex.length ≠ 64 then
      .error s!"ENCRYPTION_KEY must be 64 hex characters (32 bytes). Got {keyHex.length} characters."
    else .ok ((Hex.decode keyHex).getD [])

section

variable (gcm : Gcm) (keyHex : Option (List CodeUnit))

/-- Encrypt a text, as its bytes in UTF-8. -/
def encrypt (nonce : Nonce) (plaintext : List CodeUnit) : Except String (List CodeUnit) :=
  if plaintext = [] then .error "Cannot encrypt empty or null value"
  else do
    let key ← getEncryptionKey keyHex
    let (ciphertext, authTag) :=
      gcm.encrypt key nonce.bytes (encodeUtf8 (Utf16.decodeUnits plaintext))
    .ok (Hex.encode nonce.bytes ++ colon :: (Hex.encode authTag ++ colon :: Hex.encode ciphertext))

/-- Decrypt a text. It is called for what has the format only, so that the nonce and the tag are
    digits; the ciphertext may still be half a byte too long. -/
def decrypt (encryptedString : List CodeUnit) : Except String (List CodeUnit) :=
  if encryptedString = [] then .error "Cannot decrypt empty or null value"
  else do
    let key ← getEncryptionKey keyHex
    match encryptedString.splitOn colon with
    | [ivHex, authTagHex, ciphertext] =>
      if ivHex.length ≠ 24 then .error "Invalid IV length. Expected 24 hex characters."
      else if authTagHex.length ≠ 32 then
        .error "Invalid auth tag length. Expected 32 hex characters."
      else
        match Hex.decode ciphertext with
        | none => .error "The argument 'encoding' is invalid for data of an odd length"
        | some ciphertext =>
          match gcm.decrypt key ((Hex.decode ivHex).getD []) ((Hex.decode authTagHex).getD [])
              ciphertext with
          | none => .error "Unsupported state or unable to authenticate data"
          | some plaintext => .ok ((decodeUtf8 plaintext).flatMap Utf16.encodeChar)
    | _ => .error "Invalid encrypted data format. Expected \"iv:authTag:ciphertext\""

/-- A text appears to be encrypted. -/
def isEncrypted (value : List CodeUnit) : Bool :=
  match value.splitOn colon with
  | [ivHex, authTagHex, ciphertext] =>
    ivHex.length = 24 && authTagHex.length = 32 && isHexText ivHex && isHexText authTagHex &&
      isHexText ciphertext
  | _ => false

/-- Decrypt what appears to be encrypted, if it can be; leave the rest. -/
def safeDecrypt (value : List CodeUnit) : List CodeUnit :=
  if isEncrypted value then
    match decrypt gcm keyHex value with
    | .ok plaintext => plaintext
    | .error _ => value
  else value

/-- A value of a column. -/
inductive ColumnValue
  | undefined
  | null
  | text (text : List CodeUnit)
deriving DecidableEq

/-- How the values of a column are written and read. -/
structure ValueTransformer where
  /-- `to`, with the nonce that is drawn if the value is encrypted. -/
  toColumn : Nonce → ColumnValue → Except String ColumnValue
  /-- `from` -/
  fromColumn : ColumnValue → Except String ColumnValue

/-- What a transformer does with values that are missing. -/
structure EncryptedColumnTransformerOptions where
  /-- Null and undefined are stored as they are. -/
  allowNull : Bool := true
  /-- So are empty strings. -/
  allowEmpty : Bool := true

/-- The lenient transformer: it reads what is not encrypted, too. -/
def createEncryptedColumnTransformer (opts : EncryptedColumnTransformerOptions) :
    ValueTransformer where
  toColumn nonce
    | .undefined => .ok (if opts.allowNull then .undefined else .null)
    | .null => .ok .null
    | .text [] => .ok (if opts.allowEmpty then .text [] else .null)
    | .text value =>
      if isEncrypted value then .ok (.text value)
      else
        match encrypt gcm keyHex nonce value with
        | .ok encrypted => .ok (.text encrypted)
        | .error message => .error (s!"Failed to encrypt column value: {message}. " ++
            "Ensure ENCRYPTION_KEY environment variable is set correctly.")
  fromColumn
    | .text value => .ok (.text (safeDecrypt gcm keyHex value))
    | value => .ok value

/-- The lenient transformer with the defaults. -/
def encryptedColumnTransformer : ValueTransformer := createEncryptedColumnTransformer gcm keyHex {}

/-- The strict transformer: it reads only what is encrypted. -/
def strictEncryptedColumnTransformer : ValueTransformer where
  toColumn nonce
    | .undefined => .ok .undefined
    | .null => .ok .null
    | .text [] => .ok (.text [])
    | .text value =>
      if isEncrypted value then .ok (.text value)
      else (encrypt gcm keyHex nonce value).map .text
  fromColumn
    | .undefined => .ok .undefined
    | .null => .ok .null
    | .text [] => .ok (.text [])
    | .text value =>
      if !isEncrypted value then
        .error ("Value in database is not encrypted but strict transformer was used. " ++
          "Migrate data to encrypted format before using strict transformer.")
      else (decrypt gcm keyHex value).map .text

/-! ## Faithful columns -/

/-- A value is stored and read back, also when what is stored is written again; a text that is
    not empty is stored encrypted. -/
structure ValueTransformer.Faithful (t : ValueTransformer) (nonce nonce' : Nonce)
    (value stored : ColumnValue) : Prop where
  written : t.toColumn nonce value = .ok stored
  read : t.fromColumn stored = .ok value
  again : ∃ stored', t.toColumn nonce' stored = .ok stored' ∧
    t.fromColumn stored' = t.fromColumn stored
  encrypted : ∀ text, value = .text text → text ≠ [] →
    ∃ ciphertext, encrypt gcm keyHex nonce text = .ok ciphertext ∧ stored = .text ciphertext

end

/-! ## What is stored -/

theorem colon_not_mem_encode (bs : List UInt8) : colon ∉ Hex.encode bs := by
  intro h
  exact absurd (Hex.isSome_value_of_mem h) (by decide)

theorem isHexText_encode {bs : List UInt8} (h : bs ≠ []) : isHexText (Hex.encode bs) = true := by
  have hlength := Hex.length_encode bs
  have hpos := List.length_pos_of_ne_nil h
  have hne : Hex.encode bs ≠ [] := List.ne_nil_of_length_pos (by omega)
  rw [isHexText, List.all_eq_true.2 fun u hu => Hex.isSome_value_of_mem hu]
  simpa using hne

/-- The parts of what is stored are found again. -/
theorem splitOn_parts (nonce tag ciphertext : List UInt8) :
    (Hex.encode nonce ++ colon :: (Hex.encode tag ++ colon :: Hex.encode ciphertext)).splitOn
      colon = [Hex.encode nonce, Hex.encode tag, Hex.encode ciphertext] := by
  have hparts : ∀ l ∈ [Hex.encode nonce, Hex.encode tag, Hex.encode ciphertext], colon ∉ l := by
    simp [colon_not_mem_encode]
  have hjoined : Hex.encode nonce ++ colon :: (Hex.encode tag ++ colon :: Hex.encode ciphertext) =
      [colon].intercalate [Hex.encode nonce, Hex.encode tag, Hex.encode ciphertext] := by
    simp [List.intercalate]
  rw [hjoined, splitOn_intercalate_eq_words (List.cons_ne_nil _ _), words_of_not_mem hparts]

section

variable {gcm : Gcm} {keyHex : Option (List CodeUnit)} {key : List UInt8} {nonce nonce' : Nonce}
  {text ciphertext : List CodeUnit}

/-- What is stored for a text. -/
theorem encrypt_eq (hkey : getEncryptionKey keyHex = .ok key) (htext : text ≠ []) :
    encrypt gcm keyHex nonce text = .ok (Hex.encode nonce.bytes ++ colon ::
      (Hex.encode (gcm.encrypt key nonce.bytes (encodeUtf8 (Utf16.decodeUnits text))).2 ++
        colon :: Hex.encode (gcm.encrypt key nonce.bytes (encodeUtf8 (Utf16.decodeUnits text))).1)) := by
  rw [encrypt, if_neg htext, hkey]
  rfl

theorem encodeUtf8_ne_nil (htext : text ≠ []) : encodeUtf8 (Utf16.decodeUnits text) ≠ [] := by
  intro h
  have hchars : Utf16.decodeUnits text = [] := by
    rw [← decodeUtf8_encodeUtf8 (Utf16.decodeUnits text), h]
    rfl
  cases text with
  | nil => exact htext rfl
  | cons u us =>
    cases us with
    | nil => cases hchars
    | cons v us =>
      rw [Utf16.decodeUnits] at hchars
      split at hchars <;> cases hchars

/-- It has the format. -/
theorem isEncrypted_of_encrypt (hkey : getEncryptionKey keyHex = .ok key) (htext : text ≠ [])
    (h : encrypt gcm keyHex nonce text = .ok ciphertext) : isEncrypted ciphertext = true := by
  rw [encrypt_eq hkey htext] at h
  obtain rfl := Except.ok.inj h
  have hnonce : nonce.bytes ≠ [] := List.ne_nil_of_length_pos (by rw [nonce.length_eq]; decide)
  have htag : (gcm.encrypt key nonce.bytes (encodeUtf8 (Utf16.decodeUnits text))).2 ≠ [] :=
    List.ne_nil_of_length_pos (by rw [gcm.length_tag]; decide)
  have hcipher : (gcm.encrypt key nonce.bytes (encodeUtf8 (Utf16.decodeUnits text))).1 ≠ [] := by
    refine List.ne_nil_of_length_pos ?_
    rw [gcm.length_ciphertext]
    exact List.length_pos_of_ne_nil (encodeUtf8_ne_nil htext)
  rw [isEncrypted, splitOn_parts]
  simp only [Hex.length_encode, nonce.length_eq, gcm.length_tag, isHexText_encode hnonce,
    isHexText_encode htag, isHexText_encode hcipher]
  decide

/-- A character has at most two units. -/
theorem length_le_two_mul (us : List CodeUnit) : us.length ≤ 2 * (Utf16.decodeUnits us).length := by
  induction us using Utf16.decodeUnits.induct with
  | case1 => exact Nat.zero_le _
  | case2 u => exact Nat.le_succ 1
  | case3 u v us hpair ih =>
    rw [Utf16.decodeUnits, if_pos hpair, List.length_cons, List.length_cons, List.length_cons]
    omega
  | case4 u v us hpair ih =>
    rw [Utf16.decodeUnits, if_neg hpair, List.length_cons, List.length_cons (a := Utf16.single u)]
    omega

/-- It is longer than the text. -/
theorem ne_of_encrypt (hkey : getEncryptionKey keyHex = .ok key) (htext : text ≠ [])
    (h : encrypt gcm keyHex nonce text = .ok ciphertext) : ciphertext ≠ text := by
  rw [encrypt_eq hkey htext] at h
  rintro rfl
  have hlength := congrArg List.length (Except.ok.inj h)
  have hunits := length_le_two_mul ciphertext
  have hbytes := length_le_encodeUtf8 (Utf16.decodeUnits ciphertext)
  simp only [List.length_append, List.length_cons, Hex.length_encode, gcm.length_ciphertext,
    gcm.length_tag, nonce.length_eq] at hlength
  omega

/-- What is encrypted is read back, as far as its surrogates are in pairs. -/
theorem decrypt_encrypt (hkey : getEncryptionKey keyHex = .ok key) (htext : text ≠ [])
    (h : encrypt gcm keyHex nonce text = .ok ciphertext) :
    decrypt gcm keyHex ciphertext = .ok ((Utf16.decodeUnits text).flatMap Utf16.encodeChar) := by
  rw [encrypt_eq hkey htext] at h
  obtain rfl := Except.ok.inj h
  have hne : ∀ a b : List CodeUnit, a ++ colon :: b ≠ [] := by simp
  have hopen : gcm.decrypt key nonce.bytes
      (gcm.encrypt key nonce.bytes (encodeUtf8 (Utf16.decodeUnits text))).2
      (gcm.encrypt key nonce.bytes (encodeUtf8 (Utf16.decodeUnits text))).1 =
        some (encodeUtf8 (Utf16.decodeUnits text)) := (gcm.decrypt_eq_some ..).2 rfl
  rw [decrypt, if_neg (hne _ _), hkey]
  simp only [bind, Except.bind, splitOn_parts, Hex.length_encode, nonce.length_eq, gcm.length_tag,
    Hex.decode_encode, Option.getD_some, hopen, decodeUtf8_encodeUtf8]
  rfl

/-- A text that does not have the format, and in which no pair is cut, is stored faithfully by a
    transformer that encrypts it, reads what it stored, and does not encrypt it again. -/
theorem faithful_of_encrypt {t : ValueTransformer} (hkey : getEncryptionKey keyHex = .ok key)
    (htext : text ≠ []) (hwellFormed : Utf16.wellFormed text = true)
    (hwrite : ∀ ciphertext, encrypt gcm keyHex nonce text = .ok ciphertext →
      t.toColumn nonce (.text text) = .ok (.text ciphertext))
    (hagain : ∀ ciphertext, ciphertext ≠ [] → isEncrypted ciphertext = true →
      t.toColumn nonce' (.text ciphertext) = .ok (.text ciphertext))
    (hread : ∀ ciphertext plaintext, ciphertext ≠ [] → isEncrypted ciphertext = true →
      decrypt gcm keyHex ciphertext = .ok plaintext →
        t.fromColumn (.text ciphertext) = .ok (.text plaintext)) :
    ∃ stored, t.Faithful gcm keyHex nonce nonce' (.text text) stored := by
  obtain ⟨ciphertext, hciphertext⟩ : ∃ ciphertext, encrypt gcm keyHex nonce text = .ok ciphertext :=
    ⟨_, encrypt_eq hkey htext⟩
  have hformat := isEncrypted_of_encrypt hkey htext hciphertext
  have hne : ciphertext ≠ [] := by
    rintro rfl
    cases hformat
  have hplain := decrypt_encrypt hkey htext hciphertext
  rw [(Utf16.flatMap_decodeUnits_iff text).2 hwellFormed] at hplain
  refine ⟨.text ciphertext, hwrite _ hciphertext, hread _ _ hne hformat hplain,
    ⟨_, hagain _ hne hformat, rfl⟩, ?_⟩
  intro text' heq _
  obtain rfl := ColumnValue.text.inj heq
  exact ⟨ciphertext, hciphertext, rfl⟩

/-- The strict transformer stores a text as it is if it has the format, and encrypted
    otherwise. -/
theorem strict_toColumn (htext : text ≠ []) :
    (strictEncryptedColumnTransformer gcm keyHex).toColumn nonce (.text text) =
      if isEncrypted text then .ok (.text text)
      else (encrypt gcm keyHex nonce text).map .text := by
  cases text with
  | nil => exact absurd rfl htext
  | cons u us => rfl

/-- So does the lenient one. -/
theorem lenient_toColumn (htext : text ≠ []) :
    (encryptedColumnTransformer gcm keyHex).toColumn nonce (.text text) =
      if isEncrypted text then .ok (.text text)
      else
        match encrypt gcm keyHex nonce text with
        | .ok encrypted => .ok (.text encrypted)
        | .error message => .error (s!"Failed to encrypt column value: {message}. " ++
            "Ensure ENCRYPTION_KEY environment variable is set correctly.") := by
  cases text with
  | nil => exact absurd rfl htext
  | cons u us => rfl

/-- The strict transformer decrypts what has the format. -/
theorem strict_fromColumn (htext : text ≠ []) (hformat : isEncrypted text = true) :
    (strictEncryptedColumnTransformer gcm keyHex).fromColumn (.text text) =
      (decrypt gcm keyHex text).map .text := by
  cases text with
  | nil => exact absurd rfl htext
  | cons u us =>
    simp only [strictEncryptedColumnTransformer, hformat, Bool.not_true, Bool.false_eq_true,
      if_false]

/-- A missing value is stored as it is. -/
theorem faithful_missing {t : ValueTransformer} {value : ColumnValue}
    (hmissing : ∀ text, value = .text text → text = [])
    (hwrite : ∀ nonce, t.toColumn nonce value = .ok value) (hread : t.fromColumn value = .ok value) :
    ∃ stored, t.Faithful gcm keyHex nonce nonce' value stored :=
  ⟨value, hwrite nonce, hread, ⟨value, hwrite nonce', rfl⟩,
    fun text heq htext => absurd (hmissing text heq) htext⟩

variable (nonce nonce') in
/-- Both transformers are faithful to a value if and only if it is missing, or empty, or does not
    have the format of what they store and has no surrogate that is not in a pair. -/
theorem columns_faithful_iff (hkey : getEncryptionKey keyHex = .ok key) (value : ColumnValue) :
    (∃ stored, (encryptedColumnTransformer gcm keyHex).Faithful gcm keyHex nonce nonce' value
        stored) ∧
      (∃ stored, (strictEncryptedColumnTransformer gcm keyHex).Faithful gcm keyHex nonce nonce'
        value stored) ↔
    ∀ text, value = .text text → text ≠ [] →
      isEncrypted text = false ∧ Utf16.wellFormed text = true := by
  constructor
  · rintro ⟨-, stored, h⟩ text rfl htext
    obtain ⟨ciphertext, hciphertext, rfl⟩ := h.encrypted text rfl htext
    have hwritten := h.written
    rw [strict_toColumn htext] at hwritten
    have hformat : isEncrypted text = false := by
      cases hformat : isEncrypted text with
      | false => rfl
      | true =>
        rw [hformat, if_pos rfl] at hwritten
        have heq := ColumnValue.text.inj (Except.ok.inj hwritten)
        exact absurd heq.symm (ne_of_encrypt hkey htext hciphertext)
    refine ⟨hformat, ?_⟩
    have hstored := isEncrypted_of_encrypt hkey htext hciphertext
    have hne : ciphertext ≠ [] := by
      rintro rfl
      cases hstored
    have hread := h.read
    rw [strict_fromColumn hne hstored, decrypt_encrypt hkey htext hciphertext] at hread
    exact (Utf16.flatMap_decodeUnits_iff text).1 (ColumnValue.text.inj (Except.ok.inj hread))
  · intro h
    cases value with
    | undefined => exact ⟨faithful_missing nofun (fun _ => rfl) rfl,
        faithful_missing nofun (fun _ => rfl) rfl⟩
    | null => exact ⟨faithful_missing nofun (fun _ => rfl) rfl,
        faithful_missing nofun (fun _ => rfl) rfl⟩
    | text text =>
      by_cases htext : text = []
      · subst htext
        have hempty : ∀ text : List CodeUnit, ColumnValue.text [] = .text text → text = [] :=
          fun _ heq => (ColumnValue.text.inj heq).symm
        exact ⟨faithful_missing hempty (fun _ => rfl) rfl,
          faithful_missing hempty (fun _ => rfl) rfl⟩
      · obtain ⟨hformat, hwellFormed⟩ := h text rfl htext
        constructor
        · refine faithful_of_encrypt hkey htext hwellFormed ?_ ?_ ?_
          · intro ciphertext hciphertext
            rw [lenient_toColumn htext, hformat, if_neg Bool.false_ne_true, hciphertext]
          · intro ciphertext hne hstored
            rw [lenient_toColumn hne, if_pos hstored]
          · intro ciphertext plaintext hne hstored hplain
            simp only [encryptedColumnTransformer, createEncryptedColumnTransformer, safeDecrypt,
              hstored, if_true, hplain]
        · refine faithful_of_encrypt hkey htext hwellFormed ?_ ?_ ?_
          · intro ciphertext hciphertext
            rw [strict_toColumn htext, hformat, if_neg Bool.false_ne_true, hciphertext]
            rfl
          · intro ciphertext hne hstored
            rw [strict_toColumn hne, if_pos hstored]
          · intro ciphertext plaintext hne hstored hplain
            rw [strict_fromColumn hne hstored, hplain]
            rfl

end

/-! ## Examples -/

/-- Bytes combined with those of a stream, as far as it goes. -/
def mask : List UInt8 → List UInt8 → List UInt8
  | _, [] => []
  | [], bs => bs
  | k :: ks, b :: bs => (k ^^^ b) :: mask ks bs

theorem length_mask (ks bs : List UInt8) : (mask ks bs).length = bs.length := by
  induction ks, bs using mask.induct with
  | case1 ks => cases ks <;> rfl
  | case2 bs hbs => rw [mask.eq_2 bs hbs]
  | case3 k ks b bs ih => rw [mask, List.length_cons, ih, List.length_cons]

theorem mask_mask (ks bs : List UInt8) : mask ks (mask ks bs) = bs := by
  induction ks, bs using mask.induct with
  | case1 ks => cases ks <;> rfl
  | case2 bs hbs => rw [mask.eq_2 bs hbs, mask.eq_2 bs hbs]
  | case3 k ks b bs ih => rw [mask, mask, ih, ← UInt8.xor_assoc, UInt8.xor_self, UInt8.zero_xor]

/-- What AES-256-GCM combines the bytes of "secret" with for the key 00 01 .. 1f and the nonce
    00 01 .. 0b. -/
def secretStream : List UInt8 := [0x47, 0x02, 0xd6, 0x1b, 0xc5, 0xe5]

/-- The tag that it gives them. -/
def secretTag : List UInt8 :=
  [0xc3, 0x18, 0x1b, 0x50, 0xe5, 0x5c, 0xcb, 0x68, 0xf0, 0x07, 0x78, 0xd9, 0x6b, 0xb0, 0xfa, 0x88]

/-- A cipher that agrees with it there. -/
def secretGcm : Gcm where
  encrypt _ _ plaintext := (mask secretStream plaintext, secretTag)
  decrypt _ _ tag ciphertext := if tag = secretTag then some (mask secretStream ciphertext) else none
  length_ciphertext _ _ plaintext := length_mask secretStream plaintext
  length_tag _ _ _ := rfl
  decrypt_eq_some key nonce tag ciphertext plaintext := by
    rw [Option.ite_none_right_eq_some, Prod.mk.injEq, Option.some.injEq]
    constructor
    · rintro ⟨rfl, rfl⟩
      exact ⟨mask_mask _ _, rfl⟩
    · rintro ⟨rfl, rfl⟩
      exact ⟨rfl, mask_mask _ _⟩

/-- The key, in the environment. -/
def secretKeyHex : Option (List CodeUnit) := some (Hex.encode ((List.range 32).map UInt8.ofNat))

def secretNonce : Nonce := ⟨(List.range 12).map UInt8.ofNat, rfl⟩

theorem getEncryptionKey_secret :
    getEncryptionKey secretKeyHex = .ok ((List.range 32).map UInt8.ofNat) := by
  rfl

/-- A password is stored and read back. -/
theorem columns_faithful_secret :
    (∃ stored, (encryptedColumnTransformer secretGcm secretKeyHex).Faithful secretGcm secretKeyHex
        secretNonce secretNonce (.text (Utf16.encode "secret")) stored) ∧
      ∃ stored, (strictEncryptedColumnTransformer secretGcm secretKeyHex).Faithful secretGcm
        secretKeyHex secretNonce secretNonce (.text (Utf16.encode "secret")) stored := by
  refine (columns_faithful_iff secretNonce secretNonce getEncryptionKey_secret _).2 ?_
  intro text heq _
  obtain rfl := ColumnValue.text.inj heq
  exact ⟨by decide +kernel, by decide +kernel⟩

/-- A password that has the format of what is stored. -/
def envelope : List CodeUnit :=
  Utf16.encode "aaaaaaaaaaaaaaaaaaaaaaaa:bbbbbbbbbbbbbbbbbbbbbbbbbbbbbbbb:cccccccccccccccc"

/-- It is stored as it is, and the strict transformer does not read it back. -/
theorem not_faithful_envelope :
    (encryptedColumnTransformer secretGcm secretKeyHex).toColumn secretNonce (.text envelope) =
        .ok (.text envelope) ∧
      (strictEncryptedColumnTransformer secretGcm secretKeyHex).toColumn secretNonce
        (.text envelope) = .ok (.text envelope) ∧
      (strictEncryptedColumnTransformer secretGcm secretKeyHex).fromColumn (.text envelope) =
        .error "Unsupported state or unable to authenticate data" ∧
      ¬((∃ stored, (encryptedColumnTransformer secretGcm secretKeyHex).Faithful secretGcm
          secretKeyHex secretNonce secretNonce (.text envelope) stored) ∧
        ∃ stored, (strictEncryptedColumnTransformer secretGcm secretKeyHex).Faithful secretGcm
          secretKeyHex secretNonce secretNonce (.text envelope) stored) := by
  have hne : envelope ≠ [] := by decide +kernel
  have hformat : isEncrypted envelope = true := by decide +kernel
  have hwrite := @strict_toColumn secretGcm secretKeyHex secretNonce envelope hne
  rw [if_pos hformat] at hwrite
  refine ⟨?_, hwrite, ?_, ?_⟩
  · rw [lenient_toColumn hne, if_pos hformat]
  · rw [strict_fromColumn hne hformat]
    rfl
  · rintro ⟨-, stored, h⟩
    obtain ⟨ciphertext, hciphertext, rfl⟩ := h.encrypted envelope rfl hne
    have heq := ColumnValue.text.inj (Except.ok.inj (hwrite.symm.trans h.written))
    exact ne_of_encrypt getEncryptionKey_secret hne hciphertext heq.symm

end Perfana
