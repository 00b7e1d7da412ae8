import Perfana.Access.ApiKeys

/-!
# What a validation returns

* `run_exact`: along every run that meets `Sound`, a validation that no change overlaps
  returns the key that the token was issued for, if that is in force, and no other;
* `not_exact_samePrefix`: once a wrong token is refused, the right one with the same
  first characters is.
-/

namespace Perfana

namespace ApiKeys

namespace ApiKeyService

variable {lower : Char → Char} {st st' : ApiKeyService}

/-- No other token of a key has the same first 72 bytes. -/
def ToldApart (st : ApiKeyService) (token : String) : Prop :=
  ∀ row ∈ st.keys.rows, ∀ token' ∈ st.issued.get row.1, hash token' = hash token → token' = token

/-- The token is not that of a key whose description is not read back. -/
def Parsed (st : ApiKeyService) (token : String) : Prop :=
  ∀ row ∈ st.keys.rows, st.issued.get row.1 = some token → Readable row.2.description

/-- The key is there, or a deletion is about to remove it from the cache. -/
def Kept (st : ApiKeyService) (key : ApiKey) : Prop :=
  st.keys.get key.id = some key ∨
    ∃ row ∈ st.calls.rows, row.2 = .delete key .invalidateKeyAgain

/-- A token of a key in force finds no result of a token that was refused, unless a change
    overlaps, and the cache takes in keys that are there. -/
def CachesSound (st : ApiKeyService) : ApiKeyCall → Prop
  | .validate token .findResult alone =>
    alone = true → st.results.get (buildValidationKey token) = some false →
      ∀ row ∈ st.keys.rows, ¬st.Authentic row.2 token
  | .validate _ (.cacheKey key) _ | .create key => st.Kept key
  | _ => True

/-- What is presented can be told apart and read, and the caches are sound. -/
def Sound (st : ApiKeyService) : ApiKeyStep → Prop
  | .validateApiKey _ token => st.changing = false → st.ToldApart token ∧ st.Parsed token
  | .go call => ∀ c ∈ st.calls.get call, st.CachesSound c
  | _ => True

/-- What a validation that is alone has found out so far. -/
def Right (st : ApiKeyService) (token : String) : ValidationStage → Prop
  | .findResult => True
  | .findKey description | .search description => parseDescription token = some description
  | .cacheKey key => st.Authentic key token
  | .cacheResult result | .returned result => ∀ key, result = some key ↔ st.Authentic key token

/-- What holds along the runs. -/
structure Inv (st : ApiKeyService) : Prop where
  /-- A key is stored with the hash of the token that was issued for it. -/
  key_eq : ∀ id key, st.keys.get id = some key → key.id = id ∧ ∃ uuid, IsUuid uuid ∧
    st.issued.get id = some (createToken key.description uuid) ∧
      key.apiKey = hash (createToken key.description uuid)
  /-- The tokens have random ids that were drawn. -/
  issued_eq : ∀ id token, st.issued.get id = some token →
    ∃ description, ∃ uuid ∈ st.uuids, IsUuid uuid ∧ token = createToken description uuid
  /-- No token is issued twice. -/
  issued_inj : ∀ id id' token, st.issued.get id = some token → st.issued.get id' = some token →
    id = id'
  /-- A deletion is of the key that has its id. -/
  delete_eq : ∀ call key stage, st.calls.get call = some (.delete key stage) →
    st.issued.get key.id ≠ none ∧ ∀ key', st.keys.get key.id = some key' → key' = key
  /-- What is cached is there, or about to be removed. -/
  cache_eq : ∀ slot key, st.keyCache.get slot = some key →
    slot = buildCacheKey key.description ∧ st.Kept key
  /-- No change goes on beside a validation that is alone, and it is right so far. -/
  alone : ∀ call token stage, st.calls.get call = some (.validate token stage true) →
    st.changing = false ∧ st.ToldApart token ∧ st.Parsed token ∧ st.Right token stage

theorem changing_eq_false : st.changing = false ↔
    ∀ call c, st.calls.get call = some c → c.isChange = false := by
  rw [changing, List.any_eq_false]
  constructor
  · intro h call c hcall
    exact eq_false_of_ne_true (h (call, c) (Table.mem_rows.2 hcall))
  · intro h row hrow
    rw [h row.1 row.2 (Table.mem_rows.1 hrow)]
    exact Bool.false_ne_true

theorem kept_iff {key : ApiKey} : st.Kept key ↔ st.keys.get key.id = some key ∨
    ∃ call, st.calls.get call = some (.delete key .invalidateKeyAgain) := by
  refine or_congr_right ⟨?_, ?_⟩
  · rintro ⟨⟨call, c⟩, hrow, rfl⟩
    exact ⟨call, Table.mem_rows.1 hrow⟩
  · rintro ⟨call, hcall⟩
    exact ⟨(call, _), Table.mem_rows.2 hcall, rfl⟩

/-- The token of a key in force determines the key. -/
theorem Inv.authentic_unique (h : st.Inv) {key key' : ApiKey} {token : String}
    (hkey : st.Authentic key token) (hkey' : st.Authentic key' token) : key = key' := by
  have hid := h.issued_inj _ _ _ hkey.2.1 hkey'.2.1
  exact Option.some.inj (hkey.1.symm.trans (hid ▸ hkey'.1))

/-- A key that is there and fits a token that can be told apart is the key of the token. -/
theorem Inv.authentic_of_compare (h : st.Inv) {key : ApiKey} {token : String}
    (htold : st.ToldApart token) (hkey : st.keys.get key.id = some key)
    (hexpired : key.isExpired st.now = false) (hcompare : compare token key = true) :
    st.Authentic key token := by
  obtain ⟨-, uuid, -, hissued, hhash⟩ := h.key_eq _ _ hkey
  have hsame := htold (key.id, key) (Table.mem_rows.2 hkey) _ hissued
    (hhash.symm.trans (of_decide_eq_true hcompare).symm)
  exact ⟨hkey, hsame ▸ hissued, hexpired⟩

/-- The key of a token fits it. -/
theorem Inv.compare_of_authentic (h : st.Inv) {key : ApiKey} {token : String}
    (hkey : st.Authentic key token) : compare token key = true := by
  obtain ⟨-, uuid, -, hissued, hhash⟩ := h.key_eq _ _ hkey.1
  rw [Option.some.inj (hkey.2.1.symm.trans hissued)]
  exact decide_eq_true hhash.symm

/-- A token of a key in force has the form of a token, and its description is read back. -/
theorem Inv.parse_of_authentic (h : st.Inv) {key : ApiKey} {token : String}
    (hparsed : st.Parsed token) (hkey : st.Authentic key token) :
    parseDescription token = some key.description ∧ Readable key.description ∧
      '.' ∉ token.toList ∧ 20 ≤ Text.length token.toList := by
  have hreadable := hparsed (key.id, key) (Table.mem_rows.2 hkey.1) hkey.2.1
  obtain ⟨-, uuid, huuid, hissued, -⟩ := h.key_eq _ _ hkey.1
  obtain rfl := Option.some.inj (hkey.2.1.symm.trans hissued)
  refine ⟨parseDescription_createToken hreadable uuid, hreadable, ?_, ?_⟩
  · rw [createToken, String.toList_ofList]
    exact Base64.not_mem_encode (by decide) (by decide) _
  · have hlength := huuid.length_eq
    have hbytes := length_le_encodeUtf8 (key.description.toList ++ '#' :: uuid.toList)
    have hdigits := Base64.length_le_encode
      (encodeUtf8 (key.description.toList ++ '#' :: uuid.toList))
    have hunits := Text.length_le_length
      (Base64.encode (encodeUtf8 (key.description.toList ++ '#' :: uuid.toList)))
    rw [List.length_append, List.length_cons] at hbytes
    rw [createToken, String.toList_ofList]
    omega

/-- Nothing is found for a token that is not that of a key in force. -/
theorem right_none {token : String} (h : ∀ key, ¬st.Authentic key token) (key : ApiKey) :
    none = some key ↔ st.Authentic key token :=
  iff_of_false (Option.some_ne_none key).symm (h key)

theorem Inv.right_some (h : st.Inv) {key : ApiKey} {token : String}
    (hkey : st.Authentic key token) (key' : ApiKey) :
    some key = some key' ↔ st.Authentic key' token :=
  ⟨fun heq => Option.some.inj heq ▸ hkey, fun hkey' => congrArg some (h.authentic_unique hkey hkey')⟩

theorem Inv.findMatch_some (h : st.Inv) {token description : String} {key : ApiKey}
    (htold : st.ToldApart token) (hfind : st.findMatch lower token description = some key) :
    st.Authentic key token := by
  rw [findMatch] at hfind
  have hmatch := List.find?_some hfind
  have hmem := List.mem_of_find?_eq_some hfind
  rw [Bool.and_eq_true, Bool.and_eq_true, Bool.not_eq_true'] at hmatch
  obtain ⟨row, hrow, rfl⟩ := List.mem_map.1 (List.mem_filter.1 hmem).1
  have hkey := Table.mem_rows.1 (List.mem_reverse.1 hrow)
  exact h.authentic_of_compare htold ((h.key_eq _ _ hkey).1 ▸ hkey) hmatch.1.2 hmatch.2

theorem Inv.findMatch_none (h : st.Inv) {token description : String} (hparsed : st.Parsed token)
    (hdescription : parseDescription token = some description)
    (hfind : st.findMatch lower token description = none) (key : ApiKey) :
    ¬st.Authentic key token := by
  intro hkey
  obtain ⟨hparse, hreadable, -⟩ := h.parse_of_authentic hparsed hkey
  obtain rfl := Option.some.inj (hdescription.symm.trans hparse)
  rw [findMatch, List.find?_eq_none] at hfind
  refine hfind key (List.mem_filter.2 ⟨?_, like_self lower hreadable.backslash_notMem⟩) ?_
  · exact List.mem_map.2
      ⟨(key.id, key), List.mem_reverse.2 (Table.mem_rows.2 hkey.1), rfl⟩
  · simp [hkey.2.2, h.compare_of_authentic hkey]

/-- A change is not overlapping, so what is cached is there. -/
theorem Inv.cached_mem (h : st.Inv) (hchanging : st.changing = false) {slot : String} {key : ApiKey}
    (hkey : st.keyCache.get slot = some key) : st.keys.get key.id = some key := by
  rcases kept_iff.1 (h.cache_eq slot key hkey).2 with hkept | ⟨call, hcall⟩
  · exact hkept
  · have hchange := changing_eq_false.1 hchanging call _ hcall
    cases hchange

/-- The calls when one of them goes on to a stage. -/
theorem get_at_ {call call' : ℕ} {c : ApiKeyCall} :
    (st.at_ call c).calls.get call' = if call' = call then some c else st.calls.get call' := by
  rw [at_, Table.get_set]

theorem kept_of_calls {key : ApiKey} (hkept : st.Kept key) (hkeys : st'.keys = st.keys)
    (hcalls : ∀ call, st.calls.get call = some (.delete key .invalidateKeyAgain) →
      st'.calls.get call = some (.delete key .invalidateKeyAgain)) : st'.Kept key := by
  rw [kept_iff] at hkept ⊢
  rw [hkeys]
  exact hkept.imp_right fun ⟨call, hcall⟩ => ⟨call, hcalls call hcall⟩

/-- A validation goes on to a stage, and may leave something in the caches. -/
theorem Inv.at_validate (h : st.Inv) {call : ℕ} {token : String} {stage stage' : ValidationStage}
    {alone : Bool} {keyCache : Table String ApiKey} {results : Table String Bool}
    (hcall : st.calls.get call = some (.validate token stage alone))
    (hright : alone = true → st.Right token stage')
    (hcache : ∀ slot key, keyCache.get slot = some key →
      slot = buildCacheKey key.description ∧ st.Kept key) :
    Inv { st.at_ call (.validate token stage' alone) with keyCache, results } := by
  have hother : ∀ {call' c}, c.isChange = true →
      (st.at_ call (.validate token stage' alone)).calls.get call' = some c →
        st.calls.get call' = some c := fun hc hget => by
    rw [get_at_] at hget
    split at hget
    · cases hget
      cases hc
    · exact hget
  have hkeep : ∀ {call' c}, c.isChange = true → st.calls.get call' = some c →
      (st.at_ call (.validate token stage' alone)).calls.get call' = some c := fun hc hget => by
    rw [get_at_, if_neg, hget]
    rintro rfl
    cases hcall.symm.trans hget
    cases hc
  have hquiet : st.changing = false →
      (st.at_ call (.validate token stage' alone)).changing = false := fun hchanging => by
    refine changing_eq_false.2 fun call' c hget => ?_
    by_contra hc
    have hold := changing_eq_false.1 hchanging call' c
      (hother (eq_true_of_ne_false hc) hget)
    exact hc hold
  refine { h with delete_eq := ?_, cache_eq := ?_, alone := ?_ }
  · exact fun call' key stage hget => h.delete_eq call' key stage (hother rfl hget)
  · intro slot key hkey
    obtain ⟨hslot, hkept⟩ := hcache slot key hkey
    exact ⟨hslot, kept_of_calls hkept rfl fun _ => hkeep rfl⟩
  · intro call' token' stage'' hget
    rw [get_at_] at hget
    split at hget
    · cases hget
      obtain ⟨hchanging, htold, hparsed, -⟩ := h.alone _ _ _ hcall
      exact ⟨hquiet hchanging, htold, hparsed, hright rfl⟩
    · obtain ⟨hchanging, hrest⟩ := h.alone _ _ _ hget
      exact ⟨hquiet hchanging, hrest⟩

theorem Inv.goValidate (h : st.Inv) {call : ℕ} {token : String} {stage : ValidationStage}
    {alone : Bool} (hcall : st.calls.get call = some (.validate token stage alone))
    (hok : st.CachesSound (.validate token stage alone))
    (hstep : st.goValidate lower call token alone stage = some st') : st'.Inv := by
  have halone : alone = true → st.changing = false ∧ st.ToldApart token ∧ st.Parsed token ∧
      st.Right token stage := by
    rintro rfl
    exact h.alone _ _ _ hcall
  cases stage with
  | findResult =>
    cases hstep
    refine h.at_validate hcall (fun ha => ?_) h.cache_eq
    obtain ⟨-, -, hparsed, -⟩ := halone ha
    split
    · rename_i hcached
      exact right_none fun key hkey =>
        hok ha hcached (key.id, key) (Table.mem_rows.2 hkey.1) hkey
    · split
      · rename_i hparse
        refine right_none fun key hkey => ?_
        rw [(h.parse_of_authentic hparsed hkey).1] at hparse
        cases hparse
      · assumption
  | findKey description =>
    cases hstep
    refine h.at_validate hcall (fun ha => ?_) h.cache_eq
    obtain ⟨hchanging, htold, -, hright⟩ := halone ha
    split
    · exact hright
    · rename_i key hkey
      split
      · rename_i hmatch
        rw [Bool.and_eq_true, Bool.not_eq_true'] at hmatch
        exact h.right_some (h.authentic_of_compare htold (h.cached_mem hchanging hkey)
          hmatch.1 hmatch.2)
      · exact hright
  | search description =>
    cases hstep
    refine h.at_validate hcall (fun ha => ?_) h.cache_eq
    obtain ⟨-, htold, hparsed, hright⟩ := halone ha
    split
    · rename_i hfind
      exact right_none (h.findMatch_none hparsed hright hfind)
    · rename_i key hfind
      exact h.findMatch_some htold hfind
  | cacheKey key =>
    cases hstep
    refine h.at_validate hcall (fun ha => h.right_some (halone ha).2.2.2) fun slot key' hkey' => ?_
    rw [Table.get_set] at hkey'
    split at hkey'
    · rename_i hslot
      cases hkey'
      exact ⟨hslot, hok⟩
    · exact h.cache_eq slot key' hkey'
  | cacheResult key =>
    cases hstep
    exact h.at_validate hcall (fun ha => (halone ha).2.2.2) h.cache_eq
  | returned => cases hstep

/-- Beside a change no validation is alone. -/
theorem Inv.not_alone (h : st.Inv) {call call' : ℕ} {c : ApiKeyCall} {token : String}
    {stage : ValidationStage} (hcall : st.calls.get call = some c) (hc : c.isChange = true)
    (hget : st.calls.get call' = some (.validate token stage true)) : False := by
  have hchange := changing_eq_false.1 (h.alone _ _ _ hget).1 call c hcall
  rw [hc] at hchange
  cases hchange

/-- A deletion goes on, or ends. -/
theorem Inv.at_delete (h : st.Inv) {call : ℕ} {key : ApiKey} {stage : DeletionStage}
    {c : ApiKeyCall} {keys : Table ℕ ApiKey} {keyCache : Table String ApiKey}
    {results : Table String Bool} (hcall : st.calls.get call = some (.delete key stage))
    (hc : c = .over ∨ ∃ stage', c = .delete key stage')
    (hkeys : ∀ id key', keys.get id = some key' → st.keys.get id = some key')
    (hcache : ∀ slot key', keyCache.get slot = some key' → slot = buildCacheKey key'.description ∧
      Kept { st.at_ call c with keys, keyCache, results } key') :
    Inv { st.at_ call c with keys, keyCache, results } := by
  refine { h with
    key_eq := fun id key' hkey => h.key_eq id key' (hkeys id key' hkey)
    delete_eq := ?_
    cache_eq := hcache
    alone := ?_ }
  · intro call' key' stage' hget
    have hdelete : ∃ stage'', st.calls.get call' = some (.delete key' stage'') := by
      rw [get_at_] at hget
      split at hget
      · rename_i heq
        rcases hc with rfl | ⟨_, rfl⟩ <;> cases hget
        exact ⟨stage, heq ▸ hcall⟩
      · exact ⟨stage', hget⟩
    obtain ⟨stage'', hdelete⟩ := hdelete
    obtain ⟨hissued, heq⟩ := h.delete_eq call' key' stage'' hdelete
    exact ⟨hissued, fun key'' hkey => heq key'' (hkeys _ _ hkey)⟩
  · intro call' token stage' hget
    rw [get_at_] at hget
    split at hget
    · rcases hc with rfl | ⟨_, rfl⟩ <;> cases hget
    · exact (h.not_alone hcall rfl hget).elim

theorem Inv.goDelete (h : st.Inv) {call : ℕ} {key : ApiKey} {stage : DeletionStage}
    (hcall : st.calls.get call = some (.delete key stage)) : (st.goDelete call key stage).Inv := by
  -- A deletion that is at another stage does not remove what others are about to.
  have hkept : ∀ {key' : ApiKey} {c : ApiKeyCall} {keyCache : Table String ApiKey}
      {results : Table String Bool}, stage ≠ .invalidateKeyAgain → st.Kept key' →
        Kept { st.at_ call c with keyCache, results } key' := fun hstage hkey =>
    kept_of_calls hkey rfl fun call' hget => by
      dsimp only
      rw [get_at_, if_neg, hget]
      rintro rfl
      cases hcall.symm.trans hget
      exact hstage rfl
  cases stage with
  | invalidateKey =>
    refine h.at_delete hcall (.inr ⟨_, rfl⟩) (fun _ _ => id) fun slot key' hkey => ?_
    rw [Table.get_erase] at hkey
    split at hkey
    · cases hkey
    · obtain ⟨hslot, hkey⟩ := h.cache_eq slot key' hkey
      exact ⟨hslot, hkept (by simp) hkey⟩
  | invalidateResults =>
    refine h.at_delete hcall (.inr ⟨_, rfl⟩) (fun _ _ => id) fun slot key' hkey => ?_
    obtain ⟨hslot, hkey⟩ := h.cache_eq slot key' hkey
    exact ⟨hslot, hkept (by simp) hkey⟩
  | deleteRow =>
    rw [ApiKeyService.goDelete]
    split
    · refine h.at_delete hcall (.inl rfl) (fun _ _ => id) fun slot key' hkey => ?_
      obtain ⟨hslot, hkey⟩ := h.cache_eq slot key' hkey
      exact ⟨hslot, hkept (by simp) hkey⟩
    · refine h.at_delete hcall (.inr ⟨_, rfl⟩) (fun id key' hkey => ?_) fun slot key' hkey => ?_
      · rw [Table.get_erase] at hkey
        split at hkey
        · cases hkey
        · exact hkey
      · obtain ⟨hslot, hkey⟩ := h.cache_eq slot key' hkey
        refine ⟨hslot, kept_iff.2 ?_⟩
        rcases kept_iff.1 hkey with hkey | ⟨call', hcall'⟩
        · by_cases hid : key'.id = key.id
          · -- The key that is cached is the one that is deleted.
            obtain rfl := (h.delete_eq _ _ _ hcall).2 key' (hid ▸ hkey)
            exact .inr ⟨call, by rw [get_at_, if_pos rfl]⟩
          · exact .inl (by rw [Table.get_erase, if_neg hid, hkey])
        · refine .inr ⟨call', ?_⟩
          rw [get_at_, if_neg, hcall']
          rintro rfl
          cases hcall.symm.trans hcall'
  | invalidateKeyAgain =>
    refine h.at_delete hcall (.inr ⟨_, rfl⟩) (fun _ _ => id) fun slot key' hkey => ?_
    rw [Table.get_erase] at hkey
    split at hkey
    · cases hkey
    · rename_i hne
      obtain ⟨hslot, hkey⟩ := h.cache_eq slot key' hkey
      refine ⟨hslot, kept_of_calls hkey rfl fun call' hcall' => ?_⟩
      dsimp only
      rw [get_at_, if_neg, hcall']
      rintro rfl
      cases hcall.symm.trans hcall'
      exact hne hslot
  | invalidateResultsAgain =>
    refine h.at_delete hcall (.inl rfl) (fun _ _ => id) fun slot key' hkey => ?_
    obtain ⟨hslot, hkey⟩ := h.cache_eq slot key' hkey
    exact ⟨hslot, hkept (by simp) hkey⟩

theorem Inv.goCreate (h : st.Inv) {call : ℕ} {key : ApiKey}
    (hcall : st.calls.get call = some (.create key)) (hok : st.Kept key) :
    Inv { st.at_ call .over with
      keyCache := st.keyCache.set (buildCacheKey key.description) key } := by
  have hkept : ∀ {key' : ApiKey} {keyCache : Table String ApiKey}, st.Kept key' →
      Kept { st.at_ call .over with keyCache } key' := fun hkey =>
    kept_of_calls hkey rfl fun call' hget => by
      dsimp only
      rw [get_at_, if_neg, hget]
      rintro rfl
      cases hcall.symm.trans hget
  refine { h with delete_eq := ?_, cache_eq := ?_, alone := ?_ }
  · intro call' key' stage hget
    rw [get_at_] at hget
    split at hget
    · cases hget
    · exact h.delete_eq call' key' stage hget
  · intro slot key' hkey
    rw [Table.get_set] at hkey
    split at hkey
    · rename_i hslot
      cases hkey
      exact ⟨hslot, hkept hok⟩
    · obtain ⟨hslot, hkey⟩ := h.cache_eq slot key' hkey
      exact ⟨hslot, hkept hkey⟩
  · intro call' token stage hget
    rw [get_at_] at hget
    split at hget
    · cases hget
    · exact (h.not_alone hcall rfl hget).elim

/-- A change overlaps a validation, and makes no difference to another change. -/
theorem get_overlappedCalls {call : ℕ} {c : ApiKeyCall} (hc : c.isChange = true) :
    st.overlappedCalls.get call = some c ↔ st.calls.get call = some c := by
  rw [overlappedCalls, Table.get_update, Option.map_eq_some_iff]
  constructor
  · rintro ⟨c', hget, rfl⟩
    cases c' with
    | validate => cases hc
    | «over» => cases hc
    | create | delete => exact hget
  · intro hget
    refine ⟨c, hget, ?_⟩
    cases c with
    | validate => cases hc
    | «over» => cases hc
    | create | delete => rfl

theorem get_overlappedCalls_ne {call : ℕ} {token : String} {stage : ValidationStage} :
    st.overlappedCalls.get call ≠ some (.validate token stage true) := by
  rw [overlappedCalls, Table.get_update]
  intro hget
  obtain ⟨c, -, hc⟩ := Option.map_eq_some_iff.1 hget
  cases c <;> cases hc

/-- Every call is overlapped by a change, as time passes or not. -/
theorem Inv.overlap (h : st.Inv) (now : ℕ) : Inv { st with now, calls := st.overlappedCalls } :=
  { h with
    delete_eq := fun call key stage hget =>
      h.delete_eq call key stage ((get_overlappedCalls rfl).1 hget)
    cache_eq := fun slot key hkey =>
      ⟨(h.cache_eq slot key hkey).1, kept_of_calls (h.cache_eq slot key hkey).2 rfl
        fun _ => (get_overlappedCalls rfl).2⟩
    alone := fun _ _ _ hget => absurd hget get_overlappedCalls_ne }

/-- Time passes, and no key expires. -/
theorem Inv.advance (h : st.Inv) {ms : ℕ}
    (hexpiring : st.keys.rows.any (fun row => !row.2.isExpired st.now &&
      row.2.isExpired (st.now + ms)) = false) : Inv { st with now := st.now + ms } := by
  have hauthentic : ∀ key token,
      Authentic { st with now := st.now + ms } key token ↔ st.Authentic key token := by
    intro key token
    refine and_congr_right fun hkey => and_congr_right fun _ => ?_
    have hrow := List.any_eq_false.1 hexpiring (key.id, key) (Table.mem_rows.2 hkey)
    rw [Bool.and_eq_true, Bool.not_eq_true', not_and, Bool.not_eq_true] at hrow
    refine ⟨fun hlater => ?_, hrow⟩
    rw [ApiKey.isExpired] at hlater ⊢
    split at hlater
    · simp only [decide_eq_false_iff_not] at hlater ⊢
      omega
    · rfl
  refine { h with alone := fun call token stage hget => ?_ }
  obtain ⟨hchanging, htold, hparsed, hright⟩ := h.alone call token stage hget
  refine ⟨hchanging, htold, hparsed, ?_⟩
  cases stage with
  | findResult => trivial
  | findKey | search => exact hright
  | cacheKey key => exact (hauthentic key token).2 hright
  | cacheResult | returned => exact fun key => (hright key).trans (hauthentic key token).symm

/-- A call that changes nothing begins. -/
theorem Inv.at_new (h : st.Inv) {call : ℕ} {c : ApiKeyCall} (hnew : st.calls.get call = none)
    (hc : c.isChange = false) (hright : ∀ token stage, c = .validate token stage true →
      st.changing = false ∧ st.ToldApart token ∧ st.Parsed token ∧ st.Right token stage) :
    (st.at_ call c).Inv := by
  have hkeep : ∀ {call' c'}, st.calls.get call' = some c' →
      (st.at_ call c).calls.get call' = some c' := fun hget => by
    rw [get_at_, if_neg, hget]
    rintro rfl
    cases hnew.symm.trans hget
  have hquiet : st.changing = false → (st.at_ call c).changing = false := fun hchanging => by
    refine changing_eq_false.2 fun call' c' hget => ?_
    rw [get_at_] at hget
    split at hget
    · cases hget
      exact hc
    · exact changing_eq_false.1 hchanging call' c' hget
  refine { h with delete_eq := ?_, cache_eq := ?_, alone := ?_ }
  · intro call' key stage hget
    rw [get_at_] at hget
    split at hget
    · cases hget
      cases hc
    · exact h.delete_eq call' key stage hget
  · exact fun slot key hkey => ⟨(h.cache_eq slot key hkey).1,
      kept_of_calls (h.cache_eq slot key hkey).2 rfl fun _ => hkeep⟩
  · intro call' token stage hget
    rw [get_at_] at hget
    split at hget
    · obtain ⟨hchanging, hrest⟩ := hright token stage (Option.some.inj hget)
      exact ⟨hquiet hchanging, hrest⟩
    · obtain ⟨hchanging, hrest⟩ := h.alone _ _ _ hget
      exact ⟨hquiet hchanging, hrest⟩

/-- A validation begins. -/
theorem Inv.validateApiKey (h : st.Inv) {call : ℕ} {token : String} {stage : ValidationStage}
    (hnew : st.calls.get call = none) (hright : st.changing = false →
      (st.ToldApart token ∧ st.Parsed token) ∧ st.Right token stage) :
    (st.at_ call (.validate token stage (!st.changing))).Inv := by
  refine h.at_new hnew rfl fun token' stage' heq => ?_
  obtain ⟨rfl, rfl, hchanging⟩ := ApiKeyCall.validate.inj heq
  rw [Bool.not_eq_true'] at hchanging
  obtain ⟨⟨htold, hparsed⟩, hright⟩ := hright hchanging
  exact ⟨hchanging, htold, hparsed, hright⟩

/-- A deletion begins. -/
theorem Inv.deleteApiKey (h : st.Inv) {call id : ℕ} {key : ApiKey}
    (hnew : st.calls.get call = none) (hkey : st.keys.get id = some key) :
    Inv { st with calls := st.overlappedCalls.set call (.delete key .invalidateKey) } := by
  have hoverlap := h.overlap st.now
  have hold : ∀ {call' c}, c.isChange = true → st.calls.get call' = some c →
      (st.overlappedCalls.set call (.delete key .invalidateKey)).get call' = some c :=
    fun hc hget => by
      rw [Table.get_set, if_neg, (get_overlappedCalls hc).2 hget]
      rintro rfl
      cases hnew.symm.trans hget
  refine { h with delete_eq := ?_, cache_eq := ?_, alone := ?_ }
  · intro call' key' stage hget
    rw [Table.get_set] at hget
    split at hget
    · cases hget
      obtain ⟨rfl, uuid, -, hissued, -⟩ := h.key_eq id key hkey
      refine ⟨by rw [hissued]; simp, fun key' hkey' => ?_⟩
      exact Option.some.inj (hkey'.symm.trans hkey)
    · exact hoverlap.delete_eq call' key' stage hget
  · exact fun slot key' hkey' => ⟨(h.cache_eq slot key' hkey').1,
      kept_of_calls (h.cache_eq slot key' hkey').2 rfl fun _ => hold rfl⟩
  · intro call' token stage hget
    rw [Table.get_set] at hget
    split at hget
    · cases hget
    · exact absurd hget get_overlappedCalls_ne

/-- A key is created, with a new id and a token with a new random id. -/
theorem Inv.createApiKey (h : st.Inv) {call : ℕ} {key : ApiKey} {token uuid : String}
    (hnew : st.calls.get call = none) (hid : st.issued.get key.id = none)
    (hdrawn : uuid ∉ st.uuids) (huuid : IsUuid uuid)
    (htoken : token = createToken key.description uuid) (hhash : key.apiKey = hash token) :
    Inv { st with
      keys := st.keys.set key.id key
      issued := st.issued.set key.id token
      uuids := uuid :: st.uuids
      calls := st.overlappedCalls.set call (.create key) } := by
  have hfresh : ∀ id', st.issued.get id' ≠ none → id' ≠ key.id := by
    rintro _ hne rfl
    exact hne hid
  have hissued : ∀ {id'}, st.issued.get id' ≠ some token := by
    intro id' hget
    obtain ⟨description', uuid', hmem, huuid', heq⟩ := h.issued_eq id' _ hget
    exact hdrawn (uuid_eq_of_createToken_eq huuid huuid' (htoken.symm.trans heq) ▸ hmem)
  have hkeys : ∀ {id' key'}, st.keys.get id' = some key' → id' ≠ key.id := fun hkey => by
    obtain ⟨-, uuid', -, hget, -⟩ := h.key_eq _ _ hkey
    exact hfresh _ (by rw [hget]; simp)
  refine ⟨?_, ?_, ?_, ?_, ?_, ?_⟩
  · intro id' key' hkey
    rw [Table.get_set] at hkey
    split at hkey
    · rename_i heq
      obtain rfl := Option.some.inj hkey
      exact ⟨heq.symm, uuid, huuid, by rw [Table.get_set, if_pos heq, htoken], by rw [hhash, htoken]⟩
    · rename_i hne
      obtain ⟨rfl, uuid', huuid', hget, hhash'⟩ := h.key_eq id' key' hkey
      exact ⟨rfl, uuid', huuid', by rw [Table.get_set, if_neg hne, hget], hhash'⟩
  · intro id' token' hget
    rw [Table.get_set] at hget
    split at hget
    · exact ⟨key.description, uuid, List.mem_cons_self, huuid, (Option.some.inj hget).symm.trans htoken⟩
    · obtain ⟨description', uuid', hmem, hrest⟩ := h.issued_eq id' token' hget
      exact ⟨description', uuid', List.mem_cons_of_mem _ hmem, hrest⟩
  · intro id₁ id₂ token' h₁ h₂
    rw [Table.get_set] at h₁ h₂
    split at h₁ <;> split at h₂
    · rename_i heq₁ heq₂
      rw [heq₁, heq₂]
    · exact absurd (h₂.trans h₁.symm) hissued
    · exact absurd (h₁.trans h₂.symm) hissued
    · exact h.issued_inj id₁ id₂ token' h₁ h₂
  · intro call' key' stage hget
    rw [Table.get_set] at hget
    split at hget
    · cases hget
    · obtain ⟨hne, heq⟩ := h.delete_eq call' key' stage ((get_overlappedCalls rfl).1 hget)
      have hother := hfresh _ hne
      refine ⟨by rw [Table.get_set, if_neg hother]; exact hne, fun key'' hkey => heq key'' ?_⟩
      rw [← hkey, Table.get_set, if_neg hother]
  · intro slot key' hkey
    obtain ⟨hslot, hkept⟩ := h.cache_eq slot key' hkey
    refine ⟨hslot, kept_iff.2 ?_⟩
    rcases kept_iff.1 hkept with hkept | ⟨call', hcall'⟩
    · exact .inl (by rw [Table.get_set, if_neg (hkeys hkept), hkept])
    · refine .inr ⟨call', ?_⟩
      rw [Table.get_set, if_neg, (get_overlappedCalls rfl).2 hcall']
      rintro rfl
      cases hnew.symm.trans hcall'
  · intro call' token' stage hget
    rw [Table.get_set] at hget
    split at hget
    · cases hget
    · exact absurd hget get_overlappedCalls_ne

theorem Inv.step {e : ApiKeyStep} (h : st.Inv) (hok : Sound st e)
    (hstep : st.step lower e = some st') : st'.Inv := by
  cases e with
  | advance ms =>
    cases hstep
    split
    · exact h.overlap _
    · rename_i hexpiring
      exact h.advance (eq_false_of_ne_true hexpiring)
  | evictKey slot =>
    cases hstep
    refine { h with cache_eq := fun slot' key hkey => h.cache_eq slot' key ?_ }
    rw [Table.get_erase] at hkey
    split at hkey
    · cases hkey
    · exact hkey
  | evictResult slot =>
    cases hstep
    exact { h with }
  | createApiKey call id description uuid organizationId validUntil =>
    simp only [ApiKeyService.step, Option.bind_eq_bind, Option.bind_eq_some_iff,
      Option.guard_eq_some', exists_const] at hstep
    obtain ⟨hnew, hid, ⟨hdrawn, hlength, hdigits⟩, -, hstep⟩ := hstep
    split at hstep
    · obtain rfl := Option.some.inj hstep
      exact h.at_new hnew rfl fun _ _ heq => by cases heq
    · have hinv := @Inv.createApiKey st h call
        ⟨id, hash (createToken description uuid), description, validUntil, organizationId⟩
        (createToken description uuid) uuid hnew hid hdrawn ⟨hlength, hdigits⟩
        (by dsimp only) (by dsimp only)
      obtain rfl := Option.some.inj hstep
      exact hinv
  | deleteApiKey call id =>
    simp only [ApiKeyService.step, Option.bind_eq_bind, Option.bind_eq_some_iff,
      Option.guard_eq_some', exists_const] at hstep
    obtain ⟨hnew, hstep⟩ := hstep
    split at hstep
    · obtain rfl := Option.some.inj hstep
      exact h.at_new hnew rfl fun _ _ heq => by cases heq
    · rename_i key hkey
      obtain rfl := Option.some.inj hstep
      exact h.deleteApiKey hnew hkey
  | validateApiKey call token =>
    simp only [ApiKeyService.step, Option.bind_eq_bind, Option.bind_eq_some_iff,
      Option.guard_eq_some', exists_const] at hstep
    obtain ⟨hnew, hstep⟩ := hstep
    obtain rfl := Option.some.inj hstep
    refine h.validateApiKey hnew fun hchanging => ⟨hok hchanging, ?_⟩
    split
    · rename_i hform
      refine right_none fun key hkey => ?_
      obtain ⟨-, -, hdot, hlength⟩ := h.parse_of_authentic (hok hchanging).2 hkey
      exact hform.elim hdot (Nat.not_lt.2 hlength)
    · trivial
  | go call =>
    simp only [ApiKeyService.step, Option.bind_eq_bind, Option.bind_eq_some_iff] at hstep
    obtain ⟨c, hcall, hstep⟩ := hstep
    have hsound : st.CachesSound c := hok c hcall
    cases c with
    | validate token stage alone => exact h.goValidate hcall hsound hstep
    | create key =>
      obtain rfl := Option.some.inj hstep
      exact h.goCreate hcall hsound
    | delete key stage =>
      obtain rfl := Option.some.inj hstep
      exact h.goDelete hcall
    | «over» => cases hstep

theorem inv_start : Inv {} where
  key_eq _ _ hget := by cases hget
  issued_eq _ _ hget := by cases hget
  issued_inj _ _ _ hget := by cases hget
  delete_eq _ _ _ hget := by cases hget
  cache_eq _ _ hget := by cases hget
  alone _ _ _ hget := by cases hget

/-- Along every run in which tokens are told apart and the caches are sound, a validation that
    no change overlaps returns the key of its token if that is in force, and no other. -/
theorem run_exact (lower : Char → Char) {es : List ApiKeyStep} {st : ApiKeyService}
    (h : Run (ApiKeyService.step lower) Sound {} es st) : st.Exact := by
  have hinv : st.Inv :=
    h.state_invariant inv_start fun _ _ _ hst hok hstep => hst.step hok hstep
  intro call token result hget
  exact (hinv.alone call token _ hget).2.2.2

/-! ## Examples -/

instance (token : String) : Decidable (st.ToldApart token) :=
  inferInstanceAs (Decidable (∀ row ∈ st.keys.rows, ∀ token' ∈ st.issued.get row.1, _ → _))

instance (token : String) : Decidable (st.Parsed token) :=
  inferInstanceAs (Decidable (∀ row ∈ st.keys.rows, _ → _))

instance (key : ApiKey) : Decidable (st.Kept key) :=
  inferInstanceAs (Decidable (_ ∨ ∃ row ∈ st.calls.rows, _))

instance (key : ApiKey) (token : String) : Decidable (st.Authentic key token) :=
  inferInstanceAs (Decidable (_ ∧ _))

instance : (c : ApiKeyCall) → Decidable (st.CachesSound c)
  | .validate _ .findResult _ => inferInstanceAs (Decidable (_ → _ → ∀ row ∈ st.keys.rows, ¬_))
  | .validate _ (.cacheKey key) _ | .create key => inferInstanceAs (Decidable (st.Kept key))
  | .validate _ (.findKey _) _ | .validate _ (.search _) _ | .validate _ (.cacheResult _) _
  | .validate _ (.returned _) _ | .delete .. | .over => isTrue trivial

instance (st : ApiKeyService) : (e : ApiKeyStep) → Decidable (st.Sound e)
  | .validateApiKey _ token =>
    inferInstanceAs (Decidable (_ → st.ToldApart token ∧ st.Parsed token))
  | .go call => inferInstanceAs (Decidable (∀ c ∈ st.calls.get call, st.CachesSound c))
  | .advance _ | .evictKey _ | .evictResult _ | .createApiKey .. | .deleteApiKey .. =>
    isTrue trivial

/-- The random id of the key of a pipeline. -/
def pipelineUuid : String := "550e8400-e29b-41d4-a716-446655440000"

/-- The key of a pipeline is created; its token is presented, the key is deleted, and the token
    is presented again. -/
def lifetime : List ApiKeyStep :=
  [.createApiKey 0 1 "pipeline" pipelineUuid "acme" (some 1000), .go 0,
    .validateApiKey 1 (createToken "pipeline" pipelineUuid), .go 1, .go 1, .go 1,
    .deleteApiKey 2 1, .go 2, .go 2, .go 2, .go 2, .go 2,
    .validateApiKey 3 (createToken "pipeline" pipelineUuid), .go 3, .go 3, .go 3, .go 3]

theorem run_exact_lifetime : ∃ st,
    Run (ApiKeyService.step Char.toLower) Sound {} lifetime st ∧
      st.calls.get 3 =
        some (.validate (createToken "pipeline" pipelineUuid) (.returned none) true) ∧
      st.Exact := by
  have htest : (lifetime.foldlM (Run.checked (ApiKeyService.step Char.toLower) Sound) {}).any
      (fun st => st.calls.get 3 =
        some (.validate (createToken "pipeline" pipelineUuid) (.returned none) true)) = true := by
    decide +kernel
  obtain ⟨st, hrun, htest⟩ := Run.exists_of_checked htest
  exact ⟨st, hrun, of_decide_eq_true htest, run_exact Char.toLower hrun⟩

/-- A token with the same description and another id is presented before the right one. -/
def samePrefix : List ApiKeyStep :=
  [.createApiKey 0 1 "pipeline" pipelineUuid "acme" none, .go 0,
    .validateApiKey 1 (createToken "pipeline" "00000000-0000-0000-0000-000000000000"),
    .go 1, .go 1, .go 1, .go 1,
    .validateApiKey 2 (createToken "pipeline" pipelineUuid), .go 2]

/-- The right one is refused. -/
theorem not_exact_samePrefix : ∃ st,
    Run (ApiKeyService.step Char.toLower) (fun _ _ => True) {} samePrefix st ∧ ¬st.Exact := by
  have htest : (samePrefix.foldlM
      (Run.checked (ApiKeyService.step Char.toLower) fun _ _ => True) {}).any (fun st =>
        st.calls.get 2 =
          some (.validate (createToken "pipeline" pipelineUuid) (.returned none) true) ∧
        ∃ row ∈ st.keys.rows, st.Authentic row.2 (createToken "pipeline" pipelineUuid)) =
      true := by decide +kernel
  obtain ⟨st, hrun, htest⟩ := Run.exists_of_checked htest
  obtain ⟨hcall, row, -, hkey⟩ := of_decide_eq_true htest
  refine ⟨st, hrun, fun h => ?_⟩
  exact absurd ((h 2 _ none hcall row.2).2 hkey) (Option.some_ne_none _).symm

end ApiKeyService

end ApiKeys

end Perfana
