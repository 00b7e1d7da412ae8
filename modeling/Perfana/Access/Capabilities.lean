import Mathlib.Data.List.Basic
import Mathlib.Data.Nat.Notation

/-!
# Capabilities

What a user may do is a set of capabilities, which the roles of the user in an
organization and a team grant. A user whose roles in the system are those of a global
administrator has all of them.

* `mem_compute`: a capability is had by a global administrator, or granted by a role;
* `not_mem_compute_system`: those of the system are had by global administrators only.
-/

namespace Perfana

/-- What may be done. -/
inductive Capability
  | integrationGrafanaCreate
  | integrationGrafanaUpdate
  | integrationGrafanaDelete
  | integrationDynatraceCreate
  | integrationDynatraceUpdate
  | integrationDynatraceDelete
  | integrationPyroscopeCreate
  | integrationPyroscopeUpdate
  | integrationPyroscopeDelete
  | integrationTracingCreate
  | integrationTracingUpdate
  | integrationTracingDelete
  | testRunRead
  | testRunUpdate
  | testRunDelete
  | testRunAnnotate
  | profileManage
  | benchmarkManage
  | sutManage
  | dashboardManage
  | orgManageMembers
  | orgUpdate
  | orgDelete
  | orgCreate
  | teamCreate
  | teamUpdate
  | teamDelete
  | teamManageMembers
  | apiKeyRead
  | apiKeyCreate
  | apiKeyDelete
  | proxyManage
  | systemAuditRead
  | systemManageUsers
  | systemManageGlobalSettings
deriving DecidableEq

namespace Capability

def integrationCrud : List Capability :=
  [integrationGrafanaCreate, integrationGrafanaUpdate, integrationGrafanaDelete,
    integrationDynatraceCreate, integrationDynatraceUpdate, integrationDynatraceDelete,
    integrationPyroscopeCreate, integrationPyroscopeUpdate, integrationPyroscopeDelete,
    integrationTracingCreate, integrationTracingUpdate, integrationTracingDelete]

def testRunCrud : List Capability := [testRunRead, testRunUpdate, testRunAnnotate]

def orgAdminExtras : List Capability :=
  [orgManageMembers, orgUpdate, teamCreate, teamUpdate, teamDelete, teamManageMembers,
    profileManage, benchmarkManage, sutManage, dashboardManage, testRunDelete, apiKeyRead,
    apiKeyCreate, apiKeyDelete, proxyManage]

/-- What a role in an organization grants. -/
def ofOrganizationRole (role : String) : List Capability :=
  if role = "org-admin" then integrationCrud ++ testRunCrud ++ orgAdminExtras
  else if role = "org-member" then
    testRunCrud ++ [profileManage, benchmarkManage, sutManage, dashboardManage, apiKeyRead]
  else if role = "org-viewer" then [testRunRead, apiKeyRead]
  else []

/-- What a role in a team grants. -/
def ofTeamRole (role : String) : List Capability :=
  if role = "team-admin" then [teamUpdate, teamManageMembers] else []

/-- The capabilities of a global administrator: all of them. -/
def globalAdmin : List Capability :=
  integrationCrud ++
    [testRunRead, testRunUpdate, testRunDelete, testRunAnnotate, profileManage, benchmarkManage,
      sutManage, dashboardManage, orgManageMembers, orgUpdate, orgDelete, orgCreate, teamCreate,
      teamUpdate, teamDelete, teamManageMembers, apiKeyRead, apiKeyCreate, apiKeyDelete,
      proxyManage, systemAuditRead, systemManageUsers, systemManageGlobalSettings]

theorem mem_globalAdmin (c : Capability) : c ∈ globalAdmin := by
  cases c <;> decide

/-- The capabilities of the system. -/
def system : List Capability := [systemAuditRead, systemManageUsers, systemManageGlobalSettings]

end Capability

/-- Some of the roles is that of a global administrator. -/
def hasGlobalAdminRole (roles : List String) : Bool :=
  roles.any fun role => role ∈ ["perfana-admin", "admin"]

namespace CapabilitiesService

variable {systemRoles orgRoles teamRoles : List String} {c : Capability}

/-- The capabilities that roles give, each once. -/
def compute (systemRoles orgRoles teamRoles : List String) : List Capability :=
  if hasGlobalAdminRole systemRoles then Capability.globalAdmin
  else (orgRoles.flatMap Capability.ofOrganizationRole ++
    teamRoles.flatMap Capability.ofTeamRole).eraseDups

theorem mem_compute : c ∈ compute systemRoles orgRoles teamRoles ↔
    hasGlobalAdminRole systemRoles = true ∨
      (∃ role ∈ orgRoles, c ∈ Capability.ofOrganizationRole role) ∨
      ∃ role ∈ teamRoles, c ∈ Capability.ofTeamRole role := by
  rw [compute]
  split
  · rename_i hadmin
    exact iff_of_true (Capability.mem_globalAdmin c) (.inl hadmin)
  · rename_i hadmin
    rw [List.mem_eraseDups, List.mem_append, List.mem_flatMap, List.mem_flatMap, or_iff_right hadmin]

/-- The capabilities of the system are had by global administrators only. -/
theorem not_mem_compute_system (hsystem : c ∈ Capability.system)
    (hadmin : hasGlobalAdminRole systemRoles = false) :
    c ∉ compute systemRoles orgRoles teamRoles := by
  rw [mem_compute, hadmin]
  have horganization : ∀ role, c ∉ Capability.ofOrganizationRole role := fun role => by
    rw [Capability.ofOrganizationRole]
    revert hsystem
    cases c <;> split_ifs <;> decide
  have hteam : ∀ role, c ∉ Capability.ofTeamRole role := fun role => by
    rw [Capability.ofTeamRole]
    revert hsystem
    cases c <;> split_ifs <;> decide
  rintro (hadmin | ⟨role, -, hc⟩ | ⟨role, -, hc⟩)
  · cases hadmin
  · exact horganization role hc
  · exact hteam role hc

/-- Only whether the system roles are those of a global administrator matters. -/
theorem compute_congr {systemRoles' : List String}
    (h : hasGlobalAdminRole systemRoles = hasGlobalAdminRole systemRoles') :
    compute systemRoles orgRoles teamRoles = compute systemRoles' orgRoles teamRoles := by
  rw [compute, compute, h]

end CapabilitiesService

end Perfana
