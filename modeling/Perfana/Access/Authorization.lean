import Perfana.Access.Capabilities
import Perfana.Lib.Glob
import Perfana.Lib.Run
import Perfana.Lib.Table
import Perfana.Lib.Text
import Std.Data.String.ToNat

/-!
# Cached authorization

The service answers what a user may do from the memberships of organizations and teams,
and caches each answer under a key of its own. When the memberships of a user change,
the answers about the user are dropped: those about one organization or team by a pattern
for their keys, the two lists by their keys, and the capabilities by the next number of a
counter, which is part of their keys.

* `cacheKey_inj`: the keys tell the queries apart, except for the roles that the
  capabilities are asked with, and for users whose id ends as a key does;
* `Inv.change`: a change drops every answer that it makes wrong, if it reaches those that
  are cached: nothing drops whether a user administers any organization, the counter
  starts with the number that it stands for while it is missing, and an id may have
  characters that mean something else in a pattern;
* `run_coherent`: along every run of changes that reach the cached answers, and of calls
  of a user that agree on whether the user is a global administrator, every answer is that
  of the memberships at the time.
-/

namespace Perfana

/-- An id as the database writes it. -/
@[ext] structure Uuid where
  text : String
  length_eq : text.toList.length = 36
  colon_notMem : ':' ∉ text.toList

instance : DecidableEq Uuid := fun id id' =>
  decidable_of_iff (id.text = id'.text) ⟨Uuid.ext, congrArg Uuid.text⟩

/-- The roles of the members, each a user in an organization or a team. -/
abbrev Members := Table (String × Uuid) (List String)

namespace Members

variable (m : Members) (userId : String) (id : Uuid)

/-- The members that a user is. -/
def ofUser : List ((String × Uuid) × List String) := m.rows.filter fun row => row.1.1 = userId

/-- The roles of a user in an organization or a team. -/
def roles : List String := (m.get (userId, id)).getD []

/-- A user becomes a member with some roles, or is none any more. -/
def change : Option (List String) → Members
  | some roles => m.set (userId, id) roles
  | none => m.erase (userId, id)

end Members

/-- What memberships are of. -/
inductive MembershipScope
  | organization
  | team
deriving DecidableEq

/-- The members of the organizations and of the teams. -/
structure Memberships where
  organizations : Members := Table.empty
  teams : Members := Table.empty

/-- The memberships once a user has other roles, or none. -/
def Memberships.change (m : Memberships) (userId : String) (id : Uuid)
    (roles : Option (List String)) : MembershipScope → Memberships
  | .organization => { m with organizations := m.organizations.change userId id roles }
  | .team => { m with teams := m.teams.change userId id roles }

section Change

variable {m : Members} {userId userId' : String} {id : Uuid} {roles : Option (List String)}

/-- A change of a user's roles leaves the others'. -/
theorem Members.ofUser_change (hne : userId' ≠ userId) :
    (m.change userId id roles).ofUser userId' = m.ofUser userId' := by
  cases roles with
  | some roles => exact Table.filter_rows_set (fun _ => decide_eq_false hne.symm) m
  | none =>
    refine Table.filter_rows_filter (fun row hrow => ?_) m
    rw [decide_eq_true_eq] at hrow ⊢
    rintro heq
    rw [heq] at hrow
    exact hne hrow.symm

theorem Members.get_change (hne : userId' ≠ userId) (id' : Uuid) :
    (m.change userId id roles).get (userId', id') = m.get (userId', id') := by
  have hkey : (userId', id') ≠ (userId, id) := fun h => hne (Prod.mk.inj h).1
  cases roles with
  | some roles => rw [Members.change, Table.get_set, if_neg hkey]
  | none => rw [Members.change, Table.get_erase, if_neg hkey]

end Change

/-- What is asked of the service. -/
inductive AuthQuery
  | isOrganizationMember (userId : String) (organizationId : Uuid)
  | isOrganizationAdmin (userId : String) (organizationId : Uuid)
  | isOrgAdminInAnyOrganization (userId : String)
  | isTeamMember (userId : String) (teamId : Uuid)
  | isTeamAdmin (userId : String) (teamId : Uuid)
  | getAccessibleOrganizations (userId : String)
  | getAccessibleTeams (userId : String)
  | getCapabilities (userId : String) (roles : List String) (organizationId teamId : Option Uuid)
deriving DecidableEq

/-- What is answered, and cached. -/
inductive CacheValue
  | flag (value : Bool)
  | ids (ids : List Uuid)
  | capabilities (capabilities : List Capability)
deriving DecidableEq

/-- The capabilities that are cached, if they are. -/
def CacheValue.list : CacheValue → Option (List Capability)
  | .capabilities list => some list
  | _ => none

namespace AuthQuery

/-- The user that a query is about. -/
def userId : AuthQuery → String
  | isOrganizationMember userId _ | isOrganizationAdmin userId _ | isOrgAdminInAnyOrganization userId
  | isTeamMember userId _ | isTeamAdmin userId _ | getAccessibleOrganizations userId
  | getAccessibleTeams userId | getCapabilities userId .. => userId

/-! ## Answers -/

section Compute

variable (apiKeys : String → Option Uuid)

/-- The organization of the API key that a user is, if it is one. -/
def ownOrganization (userId : String) : Option Uuid :=
  if "api-key:".toList <+: userId.toList then apiKeys (String.ofList (userId.toList.drop 8))
  else none

/-- The answer that the database gives. -/
def compute (m : Memberships) : AuthQuery → CacheValue
  | isOrganizationMember userId organizationId =>
    .flag ((m.organizations.get (userId, organizationId)).isSome ||
      ownOrganization apiKeys userId = some organizationId)
  | isOrganizationAdmin userId organizationId =>
    .flag ("org-admin" ∈ m.organizations.roles userId organizationId)
  | isOrgAdminInAnyOrganization userId =>
    .flag ((m.organizations.ofUser userId).any fun row => "org-admin" ∈ row.2)
  | isTeamMember userId teamId => .flag (m.teams.get (userId, teamId)).isSome
  | isTeamAdmin userId teamId => .flag ("team-admin" ∈ m.teams.roles userId teamId)
  | getAccessibleOrganizations userId =>
    let ids := (m.organizations.ofUser userId).map fun row => row.1.2
    .ids (ids ++ (ownOrganization apiKeys userId).toList.filter fun id => id ∉ ids)
  | getAccessibleTeams userId => .ids ((m.teams.ofUser userId).map fun row => row.1.2)
  | getCapabilities userId roles organizationId teamId =>
    .capabilities (CapabilitiesService.compute roles
      (organizationId.elim [] (m.organizations.roles userId))
      (teamId.elim [] (m.teams.roles userId)))

end Compute

section Frame

variable {apiKeys : String → Option Uuid} {m : Memberships} {q : AuthQuery}
  {scope : MembershipScope} {id : Uuid} {roles : Option (List String)}

/-- The answer depends on the memberships in organizations, or in teams. -/
def concerns : MembershipScope → AuthQuery → Bool
  | .organization, isOrganizationMember .. | .organization, isOrganizationAdmin ..
  | .organization, isOrgAdminInAnyOrganization _ | .organization, getAccessibleOrganizations _
  | .team, isTeamMember .. | .team, isTeamAdmin .. | .team, getAccessibleTeams _
  | _, getCapabilities .. => true
  | _, _ => false

/-- The members that a user is are the same. -/
def SameMembers (m m' : Members) (userId : String) : Prop :=
  (∀ id, m.get (userId, id) = m'.get (userId, id)) ∧ m.ofUser userId = m'.ofUser userId

theorem compute_congr {m m' : Memberships}
    (horganizations : q.concerns .organization = true →
      SameMembers m.organizations m'.organizations q.userId)
    (hteams : q.concerns .team = true → SameMembers m.teams m'.teams q.userId) :
    q.compute apiKeys m = q.compute apiKeys m' := by
  have hroles : ∀ {members members' : Members} {userId : String},
      SameMembers members members' userId → members.roles userId = members'.roles userId :=
    fun hsame => funext fun id => congrArg (Option.getD · []) (hsame.1 id)
  cases q with
  | isOrganizationMember userId id =>
    have hsame : SameMembers m.organizations m'.organizations userId := horganizations rfl
    rw [compute, compute, hsame.1]
  | isOrganizationAdmin userId id =>
    have hsame : SameMembers m.organizations m'.organizations userId := horganizations rfl
    rw [compute, compute, hroles hsame]
  | isOrgAdminInAnyOrganization userId =>
    have hsame : SameMembers m.organizations m'.organizations userId := horganizations rfl
    rw [compute, compute, hsame.2]
  | isTeamMember userId id =>
    have hsame : SameMembers m.teams m'.teams userId := hteams rfl
    rw [compute, compute, hsame.1]
  | isTeamAdmin userId id =>
    have hsame : SameMembers m.teams m'.teams userId := hteams rfl
    rw [compute, compute, hroles hsame]
  | getAccessibleOrganizations userId =>
    have hsame : SameMembers m.organizations m'.organizations userId := horganizations rfl
    rw [compute, compute, hsame.2]
  | getAccessibleTeams userId =>
    have hsame : SameMembers m.teams m'.teams userId := hteams rfl
    rw [compute, compute, hsame.2]
  | getCapabilities userId roles organizationId teamId =>
    have horganization : SameMembers m.organizations m'.organizations userId := horganizations rfl
    have hteam : SameMembers m.teams m'.teams userId := hteams rfl
    rw [compute, compute, hroles horganization, hroles hteam]

/-- A change leaves the answers about other users, and about other memberships. -/
theorem compute_change {userId : String}
    (h : q.userId = userId → q.concerns scope = false) :
    q.compute apiKeys (m.change userId id roles scope) = q.compute apiKeys m := by
  have hsame : ∀ members : Members, q.concerns scope = true →
      SameMembers (members.change userId id roles) members q.userId := by
    intro members hconcerns
    have hne : q.userId ≠ userId := fun heq => by
      rw [h heq] at hconcerns
      cases hconcerns
    exact ⟨fun id' => Members.get_change hne id', Members.ofUser_change hne⟩
  cases scope with
  | organization => exact compute_congr (hsame _) fun _ => ⟨fun _ => rfl, rfl⟩
  | team => exact compute_congr (fun _ => ⟨fun _ => rfl, rfl⟩) (hsame _)

end Frame

/-- What a cached text is read as. A flag is compared with the one that is set, and is no
    list that could be logged. -/
def read : AuthQuery → CacheValue → Option CacheValue
  | getAccessibleOrganizations _, .flag _ => none
  | getAccessibleOrganizations _, value | getAccessibleTeams _, value
  | getCapabilities .., value => some value
  | _, .flag value => some (.flag value)
  | _, _ => some (.flag false)

theorem read_compute (apiKeys : String → Option Uuid) (m : Memberships) (q : AuthQuery) :
    q.read (q.compute apiKeys m) = some (q.compute apiKeys m) := by
  cases q <;> simp [read, compute]

/-! ## Keys -/

/-- What the keys of memberships begin with. -/
def membershipKeys : MembershipScope → String
  | .organization => "auth:org-membership:"
  | .team => "auth:team-membership:"

def membershipKey (scope : MembershipScope) (userId : String) (id : Uuid) : String :=
  membershipKeys scope ++ userId ++ ":" ++ id.text

def buildOrgMembershipKey (userId : String) (organizationId : Uuid) : String :=
  membershipKey .organization userId organizationId

def anyOrgAdminKey (userId : String) : String := "auth:user-context:" ++ userId ++ ":any-org-admin"

def accessibleOrgsKey (userId : String) : String := "auth:user-context:" ++ "orgs:" ++ userId

def accessibleTeamsKey (userId : String) : String := "auth:user-context:" ++ "teams:" ++ userId

/-- An id that may be missing, in a key. -/
def keyPart (id : Option Uuid) : String := (id.map Uuid.text).getD "_"

def capabilitiesKey (userId : String) (organizationId teamId : Option Uuid) (version : ℕ) : String :=
  "auth:capabilities:" ++ userId ++ ":" ++ keyPart organizationId ++ ":" ++ keyPart teamId ++
    ":v" ++ version.repr

/-- The key of an answer, while the counter of the user is at a version. -/
def cacheKey (version : ℕ) : AuthQuery → String
  | isOrganizationMember userId organizationId => buildOrgMembershipKey userId organizationId
  | isOrganizationAdmin userId organizationId =>
    buildOrgMembershipKey userId organizationId ++ ":admin"
  | isOrgAdminInAnyOrganization userId => anyOrgAdminKey userId
  | isTeamMember userId teamId => membershipKey .team userId teamId
  | isTeamAdmin userId teamId => membershipKey .team userId teamId ++ ":admin"
  | getAccessibleOrganizations userId => accessibleOrgsKey userId
  | getAccessibleTeams userId => accessibleTeamsKey userId
  | getCapabilities userId _ organizationId teamId =>
    capabilitiesKey userId organizationId teamId version

/-- The query has another key for every version. -/
def versioned : AuthQuery → Bool
  | getCapabilities .. => true
  | _ => false

/-- The query with other roles, if it passes any. -/
def passing (roles : List String) : AuthQuery → AuthQuery
  | getCapabilities userId _ organizationId teamId =>
    getCapabilities userId roles organizationId teamId
  | q => q

/-- The key of a list does not end as that of a flag. -/
def Separate : AuthQuery → Prop
  | getAccessibleOrganizations userId | getAccessibleTeams userId =>
    ¬":any-org-admin".toList <:+ ':' :: userId.toList
  | _ => True

/-- The character by which the keys of different kinds are told apart. -/
def keyKind : AuthQuery → Char
  | isOrganizationMember .. | isOrganizationAdmin .. => 'o'
  | isTeamMember .. | isTeamAdmin .. => 't'
  | isOrgAdminInAnyOrganization _ | getAccessibleOrganizations _ | getAccessibleTeams _ => 'u'
  | getCapabilities .. => 'c'

/-- A key is of the kind that it begins with. -/
theorem kind_append {key : String} {kind : Char} (h : key.toList[5]? = some kind) (rest : String) :
    (key ++ rest).toList[5]? = some kind := by
  have hlt : 5 < key.toList.length := (List.getElem?_eq_some_iff.1 h).1
  rw [String.toList_append, List.getElem?_append_left hlt, h]

theorem kind_membershipKey {scope : MembershipScope} {kind : Char}
    (h : (membershipKeys scope).toList[5]? = some kind) (userId : String) (id : Uuid) :
    (membershipKey scope userId id).toList[5]? = some kind := by
  rw [membershipKey]
  exact kind_append (kind_append (kind_append h _) _) _

theorem kind_cacheKey (n : ℕ) (q : AuthQuery) : (q.cacheKey n).toList[5]? = some q.keyKind := by
  have horganization : (membershipKeys .organization).toList[5]? = some 'o' := by decide
  have hteam : (membershipKeys .team).toList[5]? = some 't' := by decide
  have huser : "auth:user-context:".toList[5]? = some 'u' := by decide
  have hcapabilities : "auth:capabilities:".toList[5]? = some 'c' := by decide
  cases q with
  | isOrganizationMember userId id =>
    rw [cacheKey, keyKind, buildOrgMembershipKey]
    exact kind_membershipKey horganization userId id
  | isOrganizationAdmin userId id =>
    rw [cacheKey, keyKind, buildOrgMembershipKey]
    exact kind_append (kind_membershipKey horganization userId id) _
  | isTeamMember userId id =>
    rw [cacheKey, keyKind]
    exact kind_membershipKey hteam userId id
  | isTeamAdmin userId id =>
    rw [cacheKey, keyKind]
    exact kind_append (kind_membershipKey hteam userId id) _
  | isOrgAdminInAnyOrganization userId =>
    rw [cacheKey, keyKind]
    exact kind_append (kind_append huser _) _
  | getAccessibleOrganizations userId =>
    rw [cacheKey, keyKind]
    exact kind_append (kind_append huser _) _
  | getAccessibleTeams userId =>
    rw [cacheKey, keyKind]
    exact kind_append (kind_append huser _) _
  | getCapabilities userId roles organizationId teamId =>
    rw [cacheKey, keyKind]
    unfold capabilitiesKey
    iterate 7 refine kind_append ?_ _
    exact hcapabilities

section Inj

variable {scope : MembershipScope} {userId userId' : String} {id id' : Uuid}

theorem Uuid.text_injective (h : id.text = id'.text) : id = id' := by
  obtain ⟨text, _, _⟩ := id
  obtain ⟨text', _, _⟩ := id'
  obtain rfl : text = text' := h
  rfl

theorem membershipKey_toList : (membershipKey scope userId id).toList =
    (membershipKeys scope).toList ++ (userId.toList ++ ':' :: id.text.toList) := by
  simp [membershipKey]

theorem membershipKey_inj (h : membershipKey scope userId id = membershipKey scope userId' id') :
    userId = userId' ∧ id = id' := by
  have hlist := congrArg String.toList h
  rw [membershipKey_toList, membershipKey_toList, List.append_cancel_left_eq] at hlist
  obtain ⟨huser, hid⟩ := Text.append_last_sep_inj id.colon_notMem id'.colon_notMem hlist
  exact ⟨String.toList_injective huser, Uuid.text_injective (String.toList_injective hid)⟩

/-- An id is not what follows one in the key of an administrator. -/
theorem membershipKey_ne_admin :
    membershipKey scope userId id ++ ":admin" ≠ membershipKey scope userId' id' := by
  intro h
  have hlist := congrArg String.toList h
  have hadmin : ":admin".toList = ':' :: "admin".toList := by decide
  rw [String.toList_append, membershipKey_toList, membershipKey_toList, List.append_assoc,
    List.append_cancel_left_eq, hadmin] at hlist
  have hid := (Text.append_last_sep_inj (by decide) id'.colon_notMem hlist).2
  have hlength := congrArg List.length hid
  rw [id'.length_eq] at hlength
  exact absurd hlength (by decide)

theorem anyOrgAdminKey_inj (h : anyOrgAdminKey userId = anyOrgAdminKey userId') :
    userId = userId' := (String.append_right_inj _).1 ((String.append_left_inj _).1 h)

theorem accessibleOrgsKey_inj (h : accessibleOrgsKey userId = accessibleOrgsKey userId') :
    userId = userId' := (String.append_right_inj _).1 h

theorem accessibleTeamsKey_inj (h : accessibleTeamsKey userId = accessibleTeamsKey userId') :
    userId = userId' := (String.append_right_inj _).1 h

theorem accessibleOrgsKey_ne_teams : accessibleOrgsKey userId ≠ accessibleTeamsKey userId' := by
  unfold accessibleOrgsKey accessibleTeamsKey
  rw [String.append_assoc, String.append_assoc, Ne, String.append_right_inj]
  intro h
  have hlist := congrArg (fun s : String => s.toList.head?) h
  simp at hlist

/-- The key of a list ends as that of a flag only if the id of its user does. -/
theorem suffix_of_append {l l' : List Char}
    (h : userId.toList ++ ":any-org-admin".toList = l ++ ':' :: l') :
    ":any-org-admin".toList <:+ ':' :: l' := by
  have hflag : ":any-org-admin".toList = ':' :: "any-org-admin".toList := by decide
  have hflag' : ":any-org-admin".toList <:+ l ++ ':' :: l' := ⟨_, h⟩
  rcases List.suffix_or_suffix_of_suffix hflag' (List.suffix_append l _) with hsuffix | hsuffix
  · exact hsuffix
  · rw [hflag, List.suffix_cons_iff] at hsuffix
    rcases hsuffix with heq | hsuffix
    · rw [hflag, heq]
    · exact absurd (hsuffix.subset List.mem_cons_self) (by decide)

theorem anyOrgAdminKey_ne_list (hseparate : ¬":any-org-admin".toList <:+ ':' :: userId'.toList) :
    anyOrgAdminKey userId ≠ accessibleOrgsKey userId' ∧
      anyOrgAdminKey userId ≠ accessibleTeamsKey userId' := by
  unfold anyOrgAdminKey accessibleOrgsKey accessibleTeamsKey
  rw [String.append_assoc, String.append_assoc, String.append_assoc, Ne, Ne,
    String.append_right_inj, String.append_right_inj]
  constructor
  · intro h
    have hlist := congrArg String.toList h
    have hlists : "orgs:".toList = "orgs".toList ++ [':'] := by decide
    rw [String.toList_append, String.toList_append, hlists, List.append_assoc] at hlist
    exact hseparate (suffix_of_append hlist)
  · intro h
    have hlist := congrArg String.toList h
    have hlists : "teams:".toList = "teams".toList ++ [':'] := by decide
    rw [String.toList_append, String.toList_append, hlists, List.append_assoc] at hlist
    exact hseparate (suffix_of_append hlist)

theorem colon_notMem_keyPart (id : Option Uuid) : ':' ∉ (keyPart id).toList := by
  cases id with
  | none => decide
  | some id => exact id.colon_notMem

theorem keyPart_injective {id id' : Option Uuid} (h : keyPart id = keyPart id') : id = id' := by
  have hlength : ∀ id : Uuid, id.text ≠ "_" := by
    intro id heq
    have hlength := id.length_eq
    rw [heq] at hlength
    exact absurd hlength (by decide)
  cases id with
  | none =>
    cases id' with
    | none => rfl
    | some id' => exact absurd h.symm (hlength id')
  | some id =>
    cases id' with
    | none => exact absurd h (hlength id)
    | some id' => rw [Uuid.text_injective h]

theorem capabilitiesKey_toList {o t : Option Uuid} {n : ℕ} :
    (capabilitiesKey userId o t n).toList = "auth:capabilities:".toList ++
      (userId.toList ++ ':' :: (keyPart o).toList ++ ':' :: (keyPart t).toList ++
        ':' :: 'v' :: n.repr.toList) := by
  have hsep : ":".toList = [':'] := by decide
  have hv : ":v".toList = [':', 'v'] := by decide
  unfold capabilitiesKey
  simp only [String.toList_append, List.append_assoc, List.cons_append, List.nil_append, hsep, hv]

theorem capabilitiesKey_inj {o t o' t' : Option Uuid} {n n' : ℕ}
    (h : capabilitiesKey userId o t n = capabilitiesKey userId' o' t' n') :
    userId = userId' ∧ o = o' ∧ t = t' ∧ n = n' := by
  have hversion : ∀ n : ℕ, ':' ∉ 'v' :: n.repr.toList := by
    intro n hmem
    rcases List.mem_cons.1 hmem with heq | hmem
    · exact absurd heq (by decide)
    · rw [Nat.toList_repr] at hmem
      exact absurd (Nat.isDigit_of_mem_toDigits (by decide) (by decide) hmem) (by decide)
  have hlist := congrArg String.toList h
  rw [capabilitiesKey_toList, capabilitiesKey_toList, List.append_cancel_left_eq] at hlist
  -- The parts of the key are cut off from its end.
  obtain ⟨hlist, hn⟩ := Text.append_last_sep_inj (hversion n) (hversion n') hlist
  obtain ⟨hlist, ht⟩ := Text.append_last_sep_inj (colon_notMem_keyPart t)
    (colon_notMem_keyPart t') hlist
  obtain ⟨huser, ho⟩ := Text.append_last_sep_inj (colon_notMem_keyPart o)
    (colon_notMem_keyPart o') hlist
  exact ⟨String.toList_injective huser, keyPart_injective (String.toList_injective ho),
    keyPart_injective (String.toList_injective ht),
    Nat.repr_inj.1 (String.toList_injective (List.cons.inj hn).2)⟩

theorem passing_self {q : AuthQuery} {n n' : ℕ} (h : q.versioned = false) :
    (∃ roles, q = q.passing roles) ∧ (q.versioned = true → n = n') := by
  refine ⟨⟨[], ?_⟩, fun hversioned => absurd (hversioned.symm.trans h) (by decide)⟩
  cases q with
  | getCapabilities => cases h
  | _ => rfl

/-- The keys tell the queries apart, but for the roles that are passed. -/
theorem cacheKey_inj {q q' : AuthQuery} {n n' : ℕ} (hq : q.Separate) (hq' : q'.Separate)
    (h : q.cacheKey n = q'.cacheKey n') :
    (∃ roles, q' = q.passing roles) ∧ (q.versioned = true → n = n') := by
  have hkind : q.keyKind = q'.keyKind := by
    have hkey := kind_cacheKey n q
    rw [h, kind_cacheKey] at hkey
    exact (Option.some.inj hkey).symm
  cases q with
  | isOrganizationMember userId id =>
    cases q' with
    | isOrganizationMember userId' id' =>
      obtain ⟨rfl, rfl⟩ := membershipKey_inj h
      exact passing_self rfl
    | isOrganizationAdmin userId' id' => exact absurd h.symm membershipKey_ne_admin
    | _ => simp [keyKind] at hkind
  | isOrganizationAdmin userId id =>
    cases q' with
    | isOrganizationMember userId' id' => exact absurd h membershipKey_ne_admin
    | isOrganizationAdmin userId' id' =>
      obtain ⟨rfl, rfl⟩ := membershipKey_inj ((String.append_left_inj _).1 h)
      exact passing_self rfl
    | _ => simp [keyKind] at hkind
  | isTeamMember userId id =>
    cases q' with
    | isTeamMember userId' id' =>
      obtain ⟨rfl, rfl⟩ := membershipKey_inj h
      exact passing_self rfl
    | isTeamAdmin userId' id' => exact absurd h.symm membershipKey_ne_admin
    | _ => simp [keyKind] at hkind
  | isTeamAdmin userId id =>
    cases q' with
    | isTeamMember userId' id' => exact absurd h membershipKey_ne_admin
    | isTeamAdmin userId' id' =>
      obtain ⟨rfl, rfl⟩ := membershipKey_inj ((String.append_left_inj _).1 h)
      exact passing_self rfl
    | _ => simp [keyKind] at hkind
  | isOrgAdminInAnyOrganization userId =>
    cases q' with
    | isOrgAdminInAnyOrganization userId' =>
      obtain rfl := anyOrgAdminKey_inj h
      exact passing_self rfl
    | getAccessibleOrganizations userId' => exact absurd h (anyOrgAdminKey_ne_list hq').1
    | getAccessibleTeams userId' => exact absurd h (anyOrgAdminKey_ne_list hq').2
    | _ => simp [keyKind] at hkind
  | getAccessibleOrganizations userId =>
    cases q' with
    | isOrgAdminInAnyOrganization userId' => exact absurd h.symm (anyOrgAdminKey_ne_list hq).1
    | getAccessibleOrganizations userId' =>
      obtain rfl := accessibleOrgsKey_inj h
      exact passing_self rfl
    | getAccessibleTeams userId' => exact absurd h accessibleOrgsKey_ne_teams
    | _ => simp [keyKind] at hkind
  | getAccessibleTeams userId =>
    cases q' with
    | isOrgAdminInAnyOrganization userId' => exact absurd h.symm (anyOrgAdminKey_ne_list hq).2
    | getAccessibleOrganizations userId' => exact absurd h.symm accessibleOrgsKey_ne_teams
    | getAccessibleTeams userId' =>
      obtain rfl := accessibleTeamsKey_inj h
      exact passing_self rfl
    | _ => simp [keyKind] at hkind
  | getCapabilities userId roles o t =>
    cases q' with
    | getCapabilities userId' roles' o' t' =>
      obtain ⟨rfl, rfl, rfl, rfl⟩ := capabilitiesKey_inj h
      exact ⟨⟨roles', rfl⟩, fun _ => rfl⟩
    | _ => simp [keyKind] at hkind

end Inj

end AuthQuery

open AuthQuery

/-! ## The service -/

/-- The database and the cache. -/
structure AuthorizationService where
  memberships : Memberships := {}
  /-- What is cached under a key. -/
  cache : Table String CacheValue := Table.empty
  /-- The counters of the users that have one. -/
  versions : Table String ℕ := Table.empty
  /-- The queries that ask the database, each with its key. -/
  pending : List (String × AuthQuery) := []

/-- What happens to the service. -/
inductive AuthStep
  /-- A query looks into the cache. -/
  | ask (q : AuthQuery)
  /-- A query that asked the database has its answer. -/
  | answer (key : String) (q : AuthQuery)
  /-- The roles of a user are changed, and what is cached about the user is dropped. -/
  | change (scope : MembershipScope) (userId : String) (id : Uuid) (roles : Option (List String))
  /-- A key expires. -/
  | expire (key : String)

namespace AuthorizationService

variable (s : AuthorizationService)

def getCapabilitiesVersion (userId : String) : ℕ := (s.versions.get userId).getD 1

/-- The key of a query at the present. -/
def key (q : AuthQuery) : String := q.cacheKey (s.getCapabilitiesVersion q.userId)

/-- The answer that is cached for a query. -/
def cached (q : AuthQuery) : Option CacheValue := (s.cache.get (s.key q)).bind q.read

/-- The keys that are dropped for a user. -/
def invalidated (userId key : String) : Bool :=
  Glob.glob (membershipKeys .organization ++ userId ++ ":" ++ "*") key ||
    Glob.glob (membershipKeys .team ++ userId ++ ":" ++ "*") key ||
      key = accessibleOrgsKey userId || key = accessibleTeamsKey userId

def invalidateUserCache (userId : String) : AuthorizationService :=
  { s with
    cache := s.cache.filter fun key _ => !invalidated userId key
    versions := s.versions.set userId ((s.versions.get userId).getD 0 + 1) }

/-- One step. A change waits for the queries that ask the database. -/
def step (apiKeys : String → Option Uuid) (s : AuthorizationService) :
    AuthStep → Option AuthorizationService
  | .ask q =>
    match s.cached q with
    | some _ => some s
    | none => some { s with pending := (s.key q, q) :: s.pending }
  | .answer key q => do
    guard ((key, q) ∈ s.pending)
    return { s with
      pending := s.pending.erase (key, q)
      cache := s.cache.set key (q.compute apiKeys s.memberships) }
  | .change scope userId id roles => do
    guard (s.pending = [])
    return invalidateUserCache
      { s with memberships := s.memberships.change userId id roles scope } userId
  | .expire key => some { s with cache := s.cache.erase key }

/-- The answer that a query gets in a step. -/
def answers (apiKeys : String → Option Uuid) (s : AuthorizationService) :
    AuthStep → Option (AuthQuery × CacheValue)
  | .ask q => (s.cached q).map fun value => (q, value)
  | .answer _ q => some (q, q.compute apiKeys s.memberships)
  | .change .. | .expire _ => none

/-- A query is answered by what the database says at the time. -/
def Coherent (apiKeys : String → Option Uuid) (s : AuthorizationService) (e : AuthStep) : Prop :=
  ∀ answer ∈ s.answers apiKeys e, answer.2 = answer.1.compute apiKeys s.memberships

/-- The capabilities that are cached for the query are those of a global administrator if
    and only if the roles that it passes are. -/
def RolesAgree : AuthQuery → Prop
  | .getCapabilities userId roles organizationId teamId =>
    ∀ capabilities ∈ (s.cache.get (s.key (.getCapabilities userId roles organizationId teamId))).bind
      CacheValue.list, .systemAuditRead ∈ capabilities ↔ hasGlobalAdminRole roles = true
  | _ => True

/-- What is cached and a change makes wrong is dropped. -/
structure Reached (scope : MembershipScope) (userId : String) : Prop where
  /-- It is not cached whether the user administers any organization. -/
  flag : scope = .organization → s.cache.get (anyOrgAdminKey userId) = none
  /-- The pattern selects the cached keys that begin as it does. -/
  membership : ∀ row ∈ s.cache.rows, (membershipKeys scope ++ userId ++ ":").toList <+: row.1.toList →
    Glob.glob (membershipKeys scope ++ userId ++ ":" ++ "*") row.1 = true
  /-- The user has a counter, or no capabilities are cached. -/
  version : s.versions.get userId ≠ none ∨
    ∀ row ∈ s.cache.rows, ¬("auth:capabilities:" ++ userId ++ ":").toList <+: row.1.toList

/-- A change reaches what is cached about the user; a query is told apart from others by
    its key, and passes roles that agree with what is cached. -/
def Sound (s : AuthorizationService) : AuthStep → Prop
  | .ask q => q.Separate ∧ s.RolesAgree q
  | .change scope userId _ _ => s.Reached scope userId
  | .answer .. | .expire _ => True

/-! ## What is cached -/

/-- What is cached for a query is its answer, up to the roles that it passes, unless its key
    is that of a version of the past. -/
structure Inv (apiKeys : String → Option Uuid) (s : AuthorizationService) : Prop where
  pending : ∀ key q, (key, q) ∈ s.pending → q.Separate ∧ key = s.key q
  version_le : ∀ (q : AuthQuery) n, q.Separate → s.cache.get (q.cacheKey n) ≠ none → q.versioned = true →
    n ≤ s.getCapabilitiesVersion q.userId
  cached : ∀ (q : AuthQuery) n value, q.Separate → s.cache.get (q.cacheKey n) = some value →
    (q.versioned = true → n = s.getCapabilitiesVersion q.userId) →
    ∃ roles, value = (q.passing roles).compute apiKeys s.memberships

section Inv

variable {s} {s' : AuthorizationService} {apiKeys : String → Option Uuid}

theorem Inv.start : Inv apiKeys {} where
  pending _ _ hmem := by cases hmem
  version_le _ _ _ hne := absurd (Table.get_empty _) hne
  cached _ _ _ _ hget := by cases (Table.get_empty _).symm.trans hget

theorem Inv.ask (h : s.Inv apiKeys) {q : AuthQuery} (hq : q.Separate)
    (hstep : s.step apiKeys (.ask q) = some s') : s'.Inv apiKeys := by
  rw [step] at hstep
  split at hstep
  · obtain rfl := Option.some.inj hstep
    exact h
  · obtain rfl := Option.some.inj hstep
    refine { h with pending := fun key q' hmem => ?_ }
    rcases List.mem_cons.1 hmem with heq | hmem
    · obtain ⟨rfl, rfl⟩ := Prod.mk.inj heq
      exact ⟨hq, rfl⟩
    · exact h.pending key q' hmem

theorem passing_userId (roles : List String) (q : AuthQuery) : (q.passing roles).userId = q.userId := by
  cases q <;> rfl

theorem Inv.answer (h : s.Inv apiKeys) {key : String} {q : AuthQuery}
    (hstep : s.step apiKeys (.answer key q) = some s') : s'.Inv apiKeys := by
  simp only [step, Option.bind_eq_bind, Option.bind_eq_some_iff, Option.guard_eq_some',
    Option.pure_def, exists_const] at hstep
  obtain ⟨hmem, hstep⟩ := hstep
  obtain rfl := Option.some.inj hstep
  obtain ⟨hq, rfl⟩ := h.pending key q hmem
  refine ⟨fun key' q' hmem' => h.pending key' q' (List.mem_of_mem_erase hmem'), ?_, ?_⟩
  · intro q' n hq' hne hversioned
    dsimp only at hne
    rw [Table.get_set] at hne
    split at hne
    · rename_i heq
      obtain ⟨⟨roles, rfl⟩, hn⟩ := cacheKey_inj hq' hq heq
      rw [hn hversioned, passing_userId]
      exact le_rfl
    · exact h.version_le q' n hq' hne hversioned
  · intro q' n value hq' hget hn
    dsimp only at hget
    rw [Table.get_set] at hget
    split at hget
    · rename_i heq
      obtain ⟨⟨roles, rfl⟩, -⟩ := cacheKey_inj hq' hq heq
      exact ⟨roles, (Option.some.inj hget).symm⟩
    · exact h.cached q' n value hq' hget hn

theorem Inv.expire (h : s.Inv apiKeys) (key : String) :
    Inv apiKeys { s with cache := s.cache.erase key } := by
  have hget : ∀ {key'}, (s.cache.erase key).get key' ≠ none →
      (s.cache.erase key).get key' = s.cache.get key' := by
    intro key' hne
    rw [Table.get_erase] at hne ⊢
    split at hne
    · exact absurd rfl hne
    · rename_i hkey
      rw [if_neg hkey]
  refine { h with version_le := fun q n hq hne hversioned => ?_, cached := ?_ }
  · exact h.version_le q n hq (hget hne ▸ hne) hversioned
  · intro q n value hq hvalue hn
    have hne := Option.ne_none_iff_exists'.2 ⟨value, hvalue⟩
    exact h.cached q n value hq ((hget hne).symm.trans hvalue) hn

/-- What is left in the cache was there, and is not dropped for the user. -/
theorem get_invalidateUserCache {userId key : String} {value : CacheValue}
    (h : (s.invalidateUserCache userId).cache.get key = some value) :
    s.cache.get key = some value ∧ invalidated userId key = false := by
  rw [invalidateUserCache, Table.get_filter, Option.filter_eq_some_iff] at h
  exact ⟨h.1, by simpa using h.2⟩

theorem invalidated_of_glob {scope : MembershipScope} {userId key : String}
    (h : Glob.glob (membershipKeys scope ++ userId ++ ":" ++ "*") key = true) :
    invalidated userId key = true := by
  cases scope <;> simp [invalidated, h]

/-- A change that reaches the cached answers leaves none that it concerns, but for those of
    the past. -/
theorem Reached.uncached {scope : MembershipScope} {userId : String}
    (h : s.Reached scope userId) {q : AuthQuery} {n : ℕ} {value : CacheValue}
    (huser : q.userId = userId) (hconcerns : q.concerns scope = true)
    (hversioned : q.versioned = false) (hget : s.cache.get (q.cacheKey n) = some value) :
    invalidated userId (q.cacheKey n) = true := by
  have hmembership : ∀ {id} {rest : String},
      q.cacheKey n = membershipKey scope userId id ++ rest →
      invalidated userId (q.cacheKey n) = true := by
    intro id rest heq
    refine invalidated_of_glob (h.membership _ (Table.mem_rows.2 hget) ?_)
    refine ⟨id.text.toList ++ rest.toList, ?_⟩
    simp [heq, membershipKey]
  subst huser
  cases q with
  | isOrganizationMember userId id =>
    cases scope with
    | organization => exact hmembership (String.append_empty).symm
    | team => cases hconcerns
  | isOrganizationAdmin userId id =>
    cases scope with
    | organization => exact hmembership rfl
    | team => cases hconcerns
  | isTeamMember userId id =>
    cases scope with
    | organization => cases hconcerns
    | team => exact hmembership (String.append_empty).symm
  | isTeamAdmin userId id =>
    cases scope with
    | organization => cases hconcerns
    | team => exact hmembership rfl
  | isOrgAdminInAnyOrganization userId =>
    cases scope with
    | organization =>
      have hnone : s.cache.get (anyOrgAdminKey userId) = none := h.flag rfl
      cases hnone.symm.trans hget
    | team => cases hconcerns
  | getAccessibleOrganizations userId => simp [invalidated, cacheKey, AuthQuery.userId]
  | getAccessibleTeams userId => simp [invalidated, cacheKey, AuthQuery.userId]
  | getCapabilities => cases hversioned

theorem version_invalidateUserCache (userId userId' : String) :
    (s.invalidateUserCache userId).getCapabilitiesVersion userId' =
      if userId' = userId then (s.versions.get userId).getD 0 + 1
      else s.getCapabilitiesVersion userId' := by
  rw [getCapabilitiesVersion, invalidateUserCache, Table.get_set]
  split <;> rfl

/-- The capabilities that are cached for a user are of the past once the counter is increased. -/
theorem Inv.past (h : s.Inv apiKeys) {userId : String} {scope : MembershipScope}
    (hreached : s.Reached scope userId) {o t : Option Uuid} {n : ℕ}
    (hne : s.cache.get (capabilitiesKey userId o t n) ≠ none) :
    n < (s.versions.get userId).getD 0 + 1 := by
  have hle : n ≤ s.getCapabilitiesVersion userId :=
    h.version_le (.getCapabilities userId [] o t) n trivial hne rfl
  rw [getCapabilitiesVersion] at hle
  cases hversion : s.versions.get userId with
  | some k =>
    rw [hversion] at hle
    exact Nat.lt_succ_of_le hle
  | none =>
    rw [hversion, Option.getD_none] at hle
    have hone : n ≠ 1 := by
      rintro rfl
      obtain ⟨value, hvalue⟩ := Option.ne_none_iff_exists'.1 hne
      refine hreached.version.elim (absurd hversion) fun hnone =>
        hnone _ (Table.mem_rows.2 hvalue) ⟨(keyPart o).toList ++ ':' :: (keyPart t).toList ++
          ':' :: 'v' :: (1 : ℕ).repr.toList, ?_⟩
      rw [capabilitiesKey_toList]
      simp
    rw [Option.getD_none]
    omega

theorem Inv.change (h : s.Inv apiKeys) {scope : MembershipScope} {userId : String} {id : Uuid}
    {roles : Option (List String)} (hreached : s.Reached scope userId)
    (hstep : s.step apiKeys (.change scope userId id roles) = some s') : s'.Inv apiKeys := by
  simp only [step, Option.bind_eq_bind, Option.bind_eq_some_iff, Option.guard_eq_some',
    Option.pure_def, exists_const] at hstep
  obtain ⟨hpending, hstep⟩ := hstep
  obtain rfl := Option.some.inj hstep
  refine ⟨fun key q hmem => ?_, ?_, ?_⟩
  · have hmem' : (key, q) ∈ s.pending := hmem
    rw [hpending] at hmem'
    cases hmem'
  · intro q n hq hne hversioned
    obtain ⟨value, hvalue⟩ := Option.ne_none_iff_exists'.1 hne
    have hget : s.cache.get (q.cacheKey n) = some value := (get_invalidateUserCache hvalue).1
    have hne' := Option.ne_none_iff_exists'.2 ⟨value, hget⟩
    have hle := h.version_le q n hq hne' hversioned
    rw [version_invalidateUserCache]
    split
    · rename_i huser
      cases q with
      | getCapabilities userId' roles' o t =>
        obtain rfl : userId' = userId := huser
        exact (h.past hreached hne').le
      | _ => cases hversioned
    · exact hle
  · intro q n value hq hget hn
    obtain ⟨hold, hkept⟩ := get_invalidateUserCache hget
    dsimp only at hold
    by_cases hconcerns : q.userId = userId ∧ q.concerns scope = true
    · obtain ⟨huser, hconcerns⟩ := hconcerns
      cases hversioned : q.versioned with
      | false =>
        rw [hreached.uncached huser hconcerns hversioned hold] at hkept
        cases hkept
      | true =>
        have hnow := hn hversioned
        rw [version_invalidateUserCache, if_pos huser] at hnow
        cases q with
        | getCapabilities userId' roles' o t =>
          obtain rfl : userId' = userId := huser
          have hne := Option.ne_none_iff_exists'.2 ⟨value, hold⟩
          exact absurd hnow (h.past hreached hne).ne
        | _ => cases hversioned
    · have hversion : q.versioned = true → n = s.getCapabilitiesVersion q.userId := by
        intro hversioned
        have hnow := hn hversioned
        rwa [version_invalidateUserCache, if_neg] at hnow
        rintro huser
        refine hconcerns ⟨huser, ?_⟩
        cases q with
        | getCapabilities => cases scope <;> rfl
        | _ => cases hversioned
      obtain ⟨roles', hvalue⟩ := h.cached q n value hq hold hversion
      refine ⟨roles', hvalue.trans (compute_change fun huser => ?_).symm⟩
      rw [passing_userId] at huser
      have hfalse : q.concerns scope = false := eq_false_of_ne_true fun h => hconcerns ⟨huser, h⟩
      rw [← hfalse]
      cases scope <;> cases q <;> rfl

theorem Inv.step {e : AuthStep} (h : s.Inv apiKeys) (hok : s.Sound e)
    (hstep : s.step apiKeys e = some s') : s'.Inv apiKeys := by
  cases e with
  | ask q => exact h.ask hok.1 hstep
  | answer key q => exact h.answer hstep
  | change scope userId id roles => exact h.change hok hstep
  | expire key =>
    obtain rfl := Option.some.inj hstep
    exact h.expire key

/-- The capabilities of the system tell whether the roles were those of a global administrator. -/
theorem systemAuditRead_mem_compute {systemRoles orgRoles teamRoles : List String} :
    .systemAuditRead ∈ CapabilitiesService.compute systemRoles orgRoles teamRoles ↔
      hasGlobalAdminRole systemRoles = true := by
  constructor
  · intro hmem
    by_contra hadmin
    exact CapabilitiesService.not_mem_compute_system List.mem_cons_self
      (eq_false_of_ne_true hadmin) hmem
  · exact fun hadmin => CapabilitiesService.mem_compute.2 (.inl hadmin)

theorem Inv.coherent {e : AuthStep} (h : s.Inv apiKeys) (hok : s.Sound e) :
    s.Coherent apiKeys e := by
  intro answer hanswer
  cases e with
  | ask q' =>
    simp only [answers, AuthorizationService.cached, Option.mem_def, Option.map_eq_some_iff,
      Option.bind_eq_some_iff] at hanswer
    obtain ⟨value, ⟨stored, hget, hread⟩, rfl⟩ := hanswer
    obtain ⟨roles, rfl⟩ := h.cached q' _ stored hok.1 hget fun _ => rfl
    have hsame : (q'.passing roles).compute apiKeys s.memberships =
        q'.compute apiKeys s.memberships := by
      cases q' with
      | getCapabilities userId roles' o t =>
        have hagree := hok.2 _ (Option.bind_eq_some_iff.2 ⟨_, hget, rfl⟩)
        rw [systemAuditRead_mem_compute] at hagree
        simp only [passing, compute]
        rw [CapabilitiesService.compute_congr (Bool.eq_iff_iff.2 hagree)]
      | _ => rfl
    rw [hsame, read_compute] at hread
    exact (Option.some.inj hread).symm
  | answer key q' =>
    obtain rfl := Option.some.inj hanswer
    rfl
  | change => cases hanswer
  | expire => cases hanswer

/-- Along every run whose changes reach what is cached, and whose queries are told apart and
    agree with what is cached, every answer is that of the memberships at the time. -/
theorem run_coherent (apiKeys : String → Option Uuid) {es : List AuthStep}
    {s : AuthorizationService} (h : Run (step apiKeys) Sound {} es s) :
    Run (step apiKeys) (Coherent apiKeys) {} es s := by
  refine h.imp fun es s e s' hrun hok hstep => ?_
  have hinv : s.Inv apiKeys :=
    hrun.state_invariant Inv.start fun _ _ _ hs hok hstep => hs.step hok hstep
  exact hinv.coherent hok

end Inv

/-! ## Examples -/

instance : (q : AuthQuery) → Decidable q.Separate
  | .getAccessibleOrganizations _ | .getAccessibleTeams _ => inferInstanceAs (Decidable (¬_ <:+ _))
  | .isOrganizationMember .. | .isOrganizationAdmin .. | .isOrgAdminInAnyOrganization _
  | .isTeamMember .. | .isTeamAdmin .. | .getCapabilities .. => isTrue trivial

instance : (q : AuthQuery) → Decidable (s.RolesAgree q)
  | .getCapabilities .. => inferInstanceAs (Decidable (∀ _ ∈ _, _))
  | .isOrganizationMember .. | .isOrganizationAdmin .. | .isOrgAdminInAnyOrganization _
  | .isTeamMember .. | .isTeamAdmin .. | .getAccessibleOrganizations _
  | .getAccessibleTeams _ => isTrue trivial

instance (scope : MembershipScope) (userId : String) : Decidable (s.Reached scope userId) :=
  decidable_of_iff ((scope = .organization → s.cache.get (anyOrgAdminKey userId) = none) ∧
    (∀ row ∈ s.cache.rows, (membershipKeys scope ++ userId ++ ":").toList <+: row.1.toList →
      Glob.glob (membershipKeys scope ++ userId ++ ":" ++ "*") row.1 = true) ∧
    (s.versions.get userId ≠ none ∨
      ∀ row ∈ s.cache.rows, ¬("auth:capabilities:" ++ userId ++ ":").toList <+: row.1.toList))
    ⟨fun h => ⟨h.1, h.2.1, h.2.2⟩, fun h => ⟨h.flag, h.membership, h.version⟩⟩

instance : (e : AuthStep) → Decidable (s.Sound e)
  | .ask _ => inferInstanceAs (Decidable (_ ∧ _))
  | .change .. => inferInstanceAs (Decidable (s.Reached _ _))
  | .answer .. | .expire _ => isTrue trivial

instance (apiKeys : String → Option Uuid) (e : AuthStep) : Decidable (s.Coherent apiKeys e) :=
  inferInstanceAs (Decidable (∀ _ ∈ _, _))

/-- The id of an organization. -/
def acme : Uuid := ⟨"550e8400-e29b-41d4-a716-446655440000", by decide, by decide⟩

/-- A user becomes an administrator of an organization, and is none any more. -/
def demoted : List AuthStep :=
  [.change .organization "ann" acme (some ["org-admin"]),
    .ask (.isOrganizationAdmin "ann" acme),
    .answer "auth:org-membership:ann:550e8400-e29b-41d4-a716-446655440000:admin"
      (.isOrganizationAdmin "ann" acme),
    .ask (.getCapabilities "ann" [] (some acme) none),
    .answer "auth:capabilities:ann:550e8400-e29b-41d4-a716-446655440000:_:v1"
      (.getCapabilities "ann" [] (some acme) none),
    .change .organization "ann" acme none,
    .ask (.isOrganizationAdmin "ann" acme),
    .ask (.getCapabilities "ann" [] (some acme) none)]

theorem run_coherent_demoted : ∃ s,
    Run (step fun _ => none) (Coherent fun _ => none) {} demoted s := by
  have htest : (demoted.foldlM (Run.checked (step fun _ => none) Sound) {}).any
      (fun _ => true) = true := by decide +kernel
  obtain ⟨s, hrun, -⟩ := Run.exists_of_checked htest
  exact ⟨s, run_coherent (fun _ => none) hrun⟩

/-- So does one who was asked whether they administer any organization. -/
def demotedAnywhere : List AuthStep :=
  [.change .organization "ann" acme (some ["org-admin"]),
    .ask (.isOrgAdminInAnyOrganization "ann"),
    .answer "auth:user-context:ann:any-org-admin" (.isOrgAdminInAnyOrganization "ann"),
    .change .organization "ann" acme none,
    .ask (.isOrgAdminInAnyOrganization "ann")]

/-- The answer is still that they do. -/
theorem not_coherent_demotedAnywhere : ∃ s,
    Run (step fun _ => none) (fun _ _ => True) {} demotedAnywhere s ∧
      ¬Run (step fun _ => none) (Coherent fun _ => none) {} demotedAnywhere s := by
  have htest : (demotedAnywhere.foldlM
      (Run.checked (step fun _ => none) fun _ _ => True) {}).any (fun _ => true) = true := by
    decide +kernel
  have hwrong : (demotedAnywhere.foldlM
      (Run.checked (step fun _ => none) (Coherent fun _ => none)) {}).isNone = true := by
    decide +kernel
  obtain ⟨s, hrun, -⟩ := Run.exists_of_checked htest
  refine ⟨s, hrun, fun h => ?_⟩
  rw [Run.foldlM_checked h] at hwrong
  cases hwrong

end AuthorizationService

end Perfana
