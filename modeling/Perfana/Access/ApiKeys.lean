import Mathlib.Data.List.Infix
import Perfana.Lib.Bytes
import Perfana.Lib.Run
import Perfana.Lib.Table
import Perfana.Lib.Text

/-!
# The API keys

A token is the base64 form of a description and a random id, joined by `#`; the key is
stored with a hash of the token, which covers its first 72 bytes. To validate a token,
the description is read back from it, and the keys with that description are compared
with the token. Two caches stand before the keys: what was found for the first
characters of a token, and a key for the letters of a description. A key is deleted from
the table and from the caches one after the other, while other calls go on.

* `parseDescription_createToken`: the description of a readable key is read back;
* `like_self`: a description without a backslash is found by the search for it;
* `step`: the calls of the service, interleaved.
-/

namespace Perfana

/-! ## Tokens -/

/-- A row of `api_keys`. -/
structure ApiKey where
  id : ℕ
  /-- The hash of the token. -/
  apiKey : List UInt8
  description : String
  validUntil : Option ℕ
  organizationId : String
deriving DecidableEq

def ApiKey.isExpired (key : ApiKey) (now : ℕ) : Bool :=
  match key.validUntil with
  | some validUntil => validUntil ≤ now
  | none => false

namespace ApiKeys

/-- What `bcrypt.hash` tells of a token: its first 72 bytes. -/
def hash (token : String) : List UInt8 := (encodeUtf8 token.toList).take 72

/-- `bcrypt.compare`. -/
def compare (token : String) (key : ApiKey) : Bool := hash token = key.apiKey

/-- A random id: 36 hexadecimal digits and hyphens. -/
structure IsUuid (uuid : String) : Prop where
  length_eq : uuid.toList.length = 36
  digits : ∀ c ∈ uuid.toList, c ∈ "0123456789abcdef-".toList

instance (uuid : String) : Decidable (IsUuid uuid) :=
  decidable_of_iff (uuid.toList.length = 36 ∧
      uuid.toList.all (fun c => c ∈ "0123456789abcdef-".toList) = true)
    ⟨fun h => ⟨h.1, fun c hc => of_decide_eq_true (List.all_eq_true.1 h.2 c hc)⟩,
      fun h => ⟨h.1, List.all_eq_true.2 fun c hc => decide_eq_true (h.2 c hc)⟩⟩

/-- Create token in format: base64(description#uuid). -/
def createToken (description uuid : String) : String :=
  .ofList (Base64.encode (encodeUtf8 (description.toList ++ '#' :: uuid.toList)))

/-- The characters that a description may have. -/
def isReadable (c : Char) : Bool :=
  c ∈ ['\t', '\n', '\r'] || (' ' ≤ c && c ≤ '~') || Char.ofNat 0x80 ≤ c

/-- The description that is read from a token. -/
def parseDescription (token : String) : Option String :=
  let description := (decodeUtf8 (Base64.decode token.toList)).takeWhile (· ≠ '#')
  if Text.length description < 3 || !description.all isReadable then none
  else some (.ofList description)

/-- A description that is read back: it is three code units long, readable, and has none of
    the characters that the token or the search gives a meaning to. -/
structure Readable (description : String) : Prop where
  three_le : 3 ≤ Text.length description.toList
  readable : description.toList.all isReadable
  hash_notMem : '#' ∉ description.toList
  backslash_notMem : '\\' ∉ description.toList

instance (description : String) : Decidable (Readable description) :=
  decidable_of_iff (3 ≤ Text.length description.toList ∧ description.toList.all isReadable ∧
      '#' ∉ description.toList ∧ '\\' ∉ description.toList)
    ⟨fun h => ⟨h.1, h.2.1, h.2.2.1, h.2.2.2⟩, fun h => ⟨h.1, h.2, h.3, h.4⟩⟩

theorem IsUuid.hash_notMem {uuid : String} (h : IsUuid uuid) : '#' ∉ uuid.toList := fun hmem =>
  absurd (h.digits '#' hmem) (by decide)

theorem decode_createToken (description uuid : String) :
    decodeUtf8 (Base64.decode (createToken description uuid).toList) =
      description.toList ++ '#' :: uuid.toList := by
  rw [createToken, String.toList_ofList, Base64.decode_encode, decodeUtf8_encodeUtf8]

/-- The description of a readable key is read back from its token. -/
theorem parseDescription_createToken {description : String} (h : Readable description)
    (uuid : String) : parseDescription (createToken description uuid) = some description := by
  have hall : ∀ c ∈ description.toList, decide (c ≠ '#') = true := fun c hc =>
    decide_eq_true fun heq => h.hash_notMem (heq ▸ hc)
  rw [parseDescription, decode_createToken, List.takeWhile_append_of_pos hall,
    List.takeWhile_cons_of_neg (by simp), List.append_nil]
  rw [h.readable, Bool.not_true, Bool.or_false, if_neg (by simpa using h.three_le),
    String.ofList_toList]

/-- The id tells the tokens apart. -/
theorem uuid_eq_of_createToken_eq {description uuid description' uuid' : String}
    (h : IsUuid uuid) (h' : IsUuid uuid')
    (heq : createToken description uuid = createToken description' uuid') : uuid = uuid' := by
  have htext := congrArg (fun token => decodeUtf8 (Base64.decode token.toList)) heq
  simp only [decode_createToken] at htext
  exact String.toList_injective
    (Text.append_last_sep_inj h.hash_notMem h'.hash_notMem htext).2

/-! ## The search -/

/-- `LIKE`, up to the case of letters. -/
def like (lower : Char → Char) : List Char → List Char → Bool
  | [], cs => cs.isEmpty
  | '%' :: p, cs => cs.tails.any fun cs => like lower p cs
  | '_' :: p, cs => match cs with
    | [] => false
    | _ :: cs => like lower p cs
  | '\\' :: e :: p, cs => match cs with
    | [] => false
    | c :: cs => lower e = lower c && like lower p cs
  | e :: p, cs => match cs with
    | [] => false
    | c :: cs => lower e = lower c && like lower p cs

/-- A text without a backslash is found by the search for it. -/
theorem like_self (lower : Char → Char) {cs : List Char} (h : '\\' ∉ cs) :
    like lower ('%' :: cs ++ ['%']) cs = true := by
  have hrest : like lower (cs ++ ['%']) cs = true := by
    induction cs with
    | nil => simp [like]
    | cons c cs ih =>
      have hcs := ih (List.not_mem_of_not_mem_cons h)
      have hc : c ≠ '\\' := fun heq => h (heq ▸ List.mem_cons_self)
      by_cases hpercent : c = '%'
      · subst hpercent
        rw [List.cons_append, like, List.any_eq_true]
        exact ⟨cs, (List.mem_tails _ _).2 (List.suffix_cons _ _), hcs⟩
      · by_cases hline : c = '_'
        · subst hline
          rw [List.cons_append, like]
          exact hcs
        · rw [List.cons_append, like]
          · simpa using hcs
          · exact hpercent
          · exact hline
          · exact fun _ _ heq => absurd heq hc
  rw [List.cons_append, like, List.any_eq_true]
  exact ⟨cs, (List.mem_tails _ _).2 (List.suffix_refl _), hrest⟩

/-! ## The service -/

/-- How far a validation is. -/
inductive ValidationStage
  /-- It looks for a result of its token. -/
  | findResult
  /-- It looks for a key in the cache. -/
  | findKey (description : String)
  /-- It searches the keys. -/
  | search (description : String)
  /-- It has found a key, and caches it. -/
  | cacheKey (key : ApiKey)
  /-- It caches its result. -/
  | cacheResult (key : Option ApiKey)
  | returned (key : Option ApiKey)
deriving DecidableEq

/-- How far a deletion is. -/
inductive DeletionStage
  | invalidateKey
  | invalidateResults
  | deleteRow
  | invalidateKeyAgain
  | invalidateResultsAgain
deriving DecidableEq

/-- A call of the service. -/
inductive ApiKeyCall
  /-- A validation of a token, which no change has overlapped so far, or one has. -/
  | validate (token : String) (stage : ValidationStage) (alone : Bool)
  /-- A creation that has inserted its key, and is about to cache it. -/
  | create (key : ApiKey)
  | delete (key : ApiKey) (stage : DeletionStage)
  /-- A creation or deletion that has ended, or failed. -/
  | over
deriving DecidableEq

/-- The keys, the caches, and the calls. -/
structure ApiKeyService where
  now : ℕ := 0
  /-- The table, by id. -/
  keys : Table ℕ ApiKey := .empty
  keyCache : Table String ApiKey := .empty
  results : Table String Bool := .empty
  calls : Table ℕ ApiKeyCall := .empty
  /-- The token that was issued for each id. -/
  issued : Table ℕ String := .empty
  /-- The random ids that were drawn. -/
  uuids : List String := []

/-- What may happen next. -/
inductive ApiKeyStep
  /-- Time passes. -/
  | advance (ms : ℕ)
  /-- A key leaves the cache. -/
  | evictKey (slot : String)
  /-- A result leaves the cache. -/
  | evictResult (slot : String)
  | createApiKey (call id : ℕ) (description uuid organizationId : String) (validUntil : Option ℕ)
  | deleteApiKey (call id : ℕ)
  | validateApiKey (call : ℕ) (token : String)
  /-- A call goes on. -/
  | go (call : ℕ)
deriving DecidableEq

/-- `\w`, `\s` or a hyphen. -/
def isWordOrSpace (c : Char) : Bool :=
  c.isAlphanum || c ∈ ['_', '-'] || ('\t' ≤ c && c ≤ '\r') ||
    c.toNat ∈ [0x20, 0xA0, 0x1680, 0x2028, 0x2029, 0x202F, 0x205F, 0x3000, 0xFEFF] ||
    (Char.ofNat 0x2000 ≤ c && c ≤ Char.ofNat 0x200A)

/-- Where a key is cached: under the letters of its description. -/
def buildCacheKey (description : String) : String :=
  "api-key:" ++ .ofList (description.toList.filter isWordOrSpace)

/-- Where the result for a token is cached: under its first 16 characters in base64. -/
def buildValidationKey (token : String) : String :=
  "api-key-validation:" ++ .ofList ((Base64.encode (encodeUtf8 token.toList)).take 16)

namespace ApiKeyCall

/-- The call changes the keys. -/
def isChange : ApiKeyCall → Bool
  | create _ => true
  | delete .. => true
  | _ => false

/-- A change overlaps the call. -/
def overlapped : ApiKeyCall → ApiKeyCall
  | validate token stage _ => validate token stage false
  | call => call

end ApiKeyCall

namespace ApiKeyService

variable (lower : Char → Char) (st : ApiKeyService)

/-- A creation or deletion is under way. -/
def changing : Bool := st.calls.rows.any fun row => row.2.isChange

/-- Every call so far is overlapped by a change. -/
def overlappedCalls : Table ℕ ApiKeyCall := st.calls.update fun _ => ApiKeyCall.overlapped

/-- The keys with a description that matches the search for it, the newest first. -/
def searchByDescription (description : String) : List ApiKey :=
  (st.keys.rows.reverse.map Prod.snd).filter fun key =>
    like lower ('%' :: description.toList ++ ['%']) key.description.toList

/-- The key with a description that the token fits and that is in force. -/
def findMatch (token description : String) : Option ApiKey :=
  (st.searchByDescription lower description).find? fun key =>
    key.description = description && !key.isExpired st.now && compare token key

/-- A call is at a stage. -/
def at_ (call : ℕ) (c : ApiKeyCall) : ApiKeyService := { st with calls := st.calls.set call c }

/-- A validation goes on. -/
def goValidate (call : ℕ) (token : String) (alone : Bool) :
    ValidationStage → Option ApiKeyService
  | .findResult =>
    let stage :=
      if st.results.get (buildValidationKey token) = some false then .returned none
      else match parseDescription token with
        | none => .returned none
        | some description => .findKey description
    some (st.at_ call (.validate token stage alone))
  | .findKey description =>
    let stage := match st.keyCache.get (buildCacheKey description) with
      | none => .search description
      | some key =>
        if !key.isExpired st.now && compare token key then .cacheResult (some key)
        else .search description
    some (st.at_ call (.validate token stage alone))
  | .search description =>
    let stage := match st.findMatch lower token description with
      | none => .cacheResult none
      | some key => .cacheKey key
    some (st.at_ call (.validate token stage alone))
  | .cacheKey key =>
    some { st.at_ call (.validate token (.cacheResult (some key)) alone) with
      keyCache := st.keyCache.set (buildCacheKey key.description) key }
  | .cacheResult key =>
    some { st.at_ call (.validate token (.returned key) alone) with
      results := st.results.set (buildValidationKey token) key.isSome }
  | .returned _ => none

/-- A deletion goes on. -/
def goDelete (call : ℕ) (key : ApiKey) : DeletionStage → ApiKeyService
  | .invalidateKey =>
    { st.at_ call (.delete key .invalidateResults) with
      keyCache := st.keyCache.erase (buildCacheKey key.description) }
  | .invalidateResults => { st.at_ call (.delete key .deleteRow) with results := .empty }
  | .deleteRow =>
    -- A key that another deletion has deleted is not found.
    if (st.keys.get key.id).isNone then st.at_ call .over
    else { st.at_ call (.delete key .invalidateKeyAgain) with keys := st.keys.erase key.id }
  | .invalidateKeyAgain =>
    { st.at_ call (.delete key .invalidateResultsAgain) with
      keyCache := st.keyCache.erase (buildCacheKey key.description) }
  | .invalidateResultsAgain => { st.at_ call .over with results := .empty }

/-- What a step leads to. -/
def step (st : ApiKeyService) : ApiKeyStep → Option ApiKeyService
  | .advance ms =>
    let expiring := st.keys.rows.any fun row =>
      !row.2.isExpired st.now && row.2.isExpired (st.now + ms)
    some { st with
      now := st.now + ms
      calls := if expiring then st.overlappedCalls else st.calls }
  | .evictKey slot => some { st with keyCache := st.keyCache.erase slot }
  | .evictResult slot => some { st with results := st.results.erase slot }
  | .createApiKey call id description uuid organizationId validUntil => do
    guard (st.calls.get call = none)
    -- The id and the random id are new; a description is taken once in an organization.
    guard (st.issued.get id = none)
    guard (uuid ∉ st.uuids ∧ IsUuid uuid)
    guard (description ≠ "")
    if st.keys.rows.any fun row =>
        row.2.organizationId = organizationId && row.2.description = description then
      return st.at_ call .over
    let token := createToken description uuid
    let key : ApiKey := ⟨id, hash token, description, validUntil, organizationId⟩
    return { st with
      keys := st.keys.set id key
      issued := st.issued.set id token
      uuids := uuid :: st.uuids
      calls := st.overlappedCalls.set call (.create key) }
  | .deleteApiKey call id => do
    guard (st.calls.get call = none)
    match st.keys.get id with
    | none => return st.at_ call .over
    | some key =>
      return { st with calls := st.overlappedCalls.set call (.delete key .invalidateKey) }
  | .validateApiKey call token => do
    guard (st.calls.get call = none)
    let stage := if '.' ∈ token.toList ∨ Text.length token.toList < 20 then .returned none
      else .findResult
    return st.at_ call (.validate token stage (!st.changing))
  | .go call => do
    match ← st.calls.get call with
    | .validate token stage alone => st.goValidate lower call token alone stage
    | .create key =>
      return { st.at_ call .over with
        keyCache := st.keyCache.set (buildCacheKey key.description) key }
    | .delete key stage => return st.goDelete call key stage
    | .over => none

/-- A token is that of a key that is in force. -/
def Authentic (key : ApiKey) (token : String) : Prop :=
  st.keys.get key.id = some key ∧ st.issued.get key.id = some token ∧
    key.isExpired st.now = false

/-- A validation that no change has overlapped has returned the key of its token. -/
def Exact : Prop :=
  ∀ call token result, st.calls.get call = some (.validate token (.returned result) true) →
    ∀ key, result = some key ↔ st.Authentic key token

end ApiKeyService

end ApiKeys

end Perfana
