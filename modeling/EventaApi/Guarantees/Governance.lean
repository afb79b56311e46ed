import EventaApi.Source.Access

/-!
# Somebody who can manage users

One guard counts the active members of the Admin role, another the roles that grant the
key, each on a read before the write. Neither sees what is written in between, and no
guard asks whether a member who manages users through another role is the last. The
workspace stays governed exactly as long as each write leaves another manager and another
Admin than the one it takes away.
-/
namespace EventaApi.Guarantees
open Library Source

abbrev AccessPool := Pool AccessDesk AccessPhase

abbrev AccessTurn := PoolTurn AccessRequest String Instant

/-- An active member who was not removed and whose role grants the management of users. -/
def Manager (desk : AccessDesk) (row : Membership) : Prop :=
  row.status = .active ∧ row.deletedAt = none ∧ MANAGE_USERS ∈ grantedKeys desk row.roleId

instance (desk : AccessDesk) : DecidablePred (Manager desk) :=
  fun _ => inferInstanceAs (Decidable (_ ∧ _ ∧ _))

/-- Somebody can manage users, and there is an Admin. -/
structure Governed (desk : AccessDesk) : Prop where
  manager : ∃ row ∈ desk.directory.memberships.rows, Manager desk row
  admin : ∃ row ∈ desk.directory.memberships.rows, ActiveAdmin desk row

def AnotherManager (desk : AccessDesk) (membershipId : Nat) : Prop :=
  ∃ row ∈ desk.directory.memberships.rows, row.id ≠ membershipId ∧ Manager desk row

def AnotherAdmin (desk : AccessDesk) (membershipId : Nat) : Prop :=
  ∃ row ∈ desk.directory.memberships.rows, row.id ≠ membershipId ∧ ActiveAdmin desk row

instance (desk : AccessDesk) (membershipId : Nat) : Decidable (AnotherManager desk membershipId) :=
  inferInstanceAs (Decidable (∃ _ ∈ _, _))

instance (desk : AccessDesk) (membershipId : Nat) : Decidable (AnotherAdmin desk membershipId) :=
  inferInstanceAs (Decidable (∃ _ ∈ _, _))

/-- Whom a suspension or a removal leaves. -/
def LeavesOthers (desk : AccessDesk) (membershipId : Nat) : Prop :=
  (desk.directory.memberships.find membershipId).isSome →
    AnotherManager desk membershipId ∧ AnotherAdmin desk membershipId

/-- Whom a move to another role leaves, the moved member included. -/
def LeavesMovers (desk : AccessDesk) (membershipId roleId : Nat) : Prop :=
  (desk.roles.find roleId).isSome →
    ∀ row ∈ desk.directory.memberships.find membershipId,
      (AnotherManager desk membershipId ∨ Manager desk (movedMembership roleId row)) ∧
        (AnotherAdmin desk membershipId ∨ ActiveAdmin desk (movedMembership roleId row))

/-- Whom an edit of a role leaves. -/
def LeavesRoles (desk : AccessDesk) (roleId : Nat) (keys : List PermissionKey) : Prop :=
  MANAGE_USERS ∈ keys ∨
    ∃ row ∈ desk.directory.memberships.rows, row.roleId ≠ roleId ∧ Manager desk row

instance (desk : AccessDesk) (membershipId : Nat) : Decidable (LeavesOthers desk membershipId) :=
  inferInstanceAs (Decidable (_ → _))

instance (desk : AccessDesk) (membershipId roleId : Nat) :
    Decidable (LeavesMovers desk membershipId roleId) :=
  inferInstanceAs (Decidable (_ → ∀ _ ∈ desk.directory.memberships.find membershipId, _))

instance (desk : AccessDesk) (roleId : Nat) (keys : List PermissionKey) :
    Decidable (LeavesRoles desk roleId keys) :=
  inferInstanceAs (Decidable (_ ∨ _))

/-- Somebody who manages users and somebody who is an Admin are left by the write. -/
def leavesGoverned (desk : AccessDesk) : AccessGoal → Prop
  | .changeRole membershipId roleId => LeavesMovers desk membershipId roleId
  | .suspend membershipId | .remove membershipId => LeavesOthers desk membershipId
  | .setPermissions roleId keys => LeavesRoles desk roleId keys
  | .reactivate _ | .createRole _ _ => True

instance (desk : AccessDesk) : DecidablePred (leavesGoverned desk)
  | .changeRole _ _ => inferInstanceAs (Decidable (LeavesMovers _ _ _))
  | .suspend _ | .remove _ => inferInstanceAs (Decidable (LeavesOthers _ _))
  | .setPermissions _ _ => inferInstanceAs (Decidable (LeavesRoles _ _ _))
  | .reactivate _ | .createRole _ _ => isTrue trivial

def writesGoverned (desk : AccessDesk) (_ : String) : AccessPhase → Prop
  | .write _ goal => leavesGoverned desk goal
  | _ => True

instance (desk : AccessDesk) (hash : String) : DecidablePred (writesGoverned desk hash)
  | .write _ goal => inferInstanceAs (Decidable (leavesGoverned desk goal))
  | .guard _ | .inviteRole _ _ _ _ | .inviteEmail _ _ _ _ | .createInvited _ _ _ _
  | .sendInvite _ _ _ | .memberExists _ _ _ | .existingRole _ _ _ | .isActiveAdminUser _ _ _ _
  | .getFor _ _ _ _ | .isActiveAdmin _ _ _ | .countActiveAdmins _ _ | .getMember _ _ _
  | .roleNameTaken _ _ _ | .insertRole _ _ _ | .roleGrants _ _ _ | .countRolesGranting _ _ _
  | .roleExists _ _ _ | .activate _ _ _ | .done _ => isTrue trivial

def LeavesGoverned : AccessPool → AccessTurn → Prop :=
  Handler.Guarded writesGoverned fun _ _ => True

instance (pool : AccessPool) (turn : AccessTurn) : Decidable (LeavesGoverned pool turn) :=
  inferInstanceAs (Decidable (Handler.Guarded _ _ pool turn))

/-! ## What a role grants -/

section Grants

variable {desk : AccessDesk}

/-- The role was granted the key. -/
def Granted (rolePermissions : Table RolePermission) (roleId : Nat) (key : PermissionKey) : Prop :=
  ∃ row ∈ rolePermissions, row.roleId = roleId ∧ row.permissionKey = key ∧ row.granted = true

theorem mem_grantedKeys {roleId : Nat} {key : PermissionKey} :
    key ∈ grantedKeys desk roleId ↔ Granted desk.rolePermissions roleId key := by
  unfold grantedKeys
  rw [List.mem_map]
  constructor
  · rintro ⟨row, selected, rfl⟩
    obtain ⟨stored, same, granted⟩ := Table.mem_select.mp selected
    exact ⟨row, stored, same, rfl, granted⟩
  · rintro ⟨row, stored, same, rfl, granted⟩
    exact ⟨row, Table.mem_select.mpr ⟨stored, same, granted⟩, rfl⟩

/-- A decision settles its keys of its role, and no others. -/
theorem granted_upsertDecisions {rolePermissions : Table RolePermission} {roleId other : Nat}
    {keys : List PermissionKey} {granted : Bool} {key : PermissionKey} :
    Granted (upsertDecisions rolePermissions roleId keys granted) other key ↔
      if other = roleId ∧ key ∈ keys then granted = true else Granted rolePermissions other key := by
  unfold upsertDecisions
  constructor
  · rintro ⟨row, stored, rfl, rfl, yes⟩
    rcases Table.mem_insertEach.mp stored with old | ⟨index, inRange, rfl⟩
    · obtain ⟨before, beforeIn, rfl⟩ := Table.mem_update.mp old
      by_cases hit : before.roleId = roleId ∧ before.permissionKey ∈ keys
      · rw [if_pos hit] at yes ⊢
        rw [if_pos hit]
        exact yes
      · rw [if_neg hit] at yes ⊢
        rw [if_neg hit]
        exact ⟨before, beforeIn, rfl, rfl, yes⟩
    · have missing := List.getElem_mem inRange
      have listed := (List.mem_filter.mp missing).1
      rw [if_pos ⟨rfl, listed⟩]
      exact yes
  · intro decides
    split at decides
    next hit =>
      obtain ⟨rfl, listed⟩ := hit
      subst decides
      by_cases none : rolePermissions.select
          (fun row => row.roleId = other ∧ row.permissionKey = key) = []
      · have missing : key ∈ keys.filter fun key => rolePermissions.select
            (fun row => row.roleId = other ∧ row.permissionKey = key) = [] :=
          List.mem_filter.mpr ⟨listed, by simpa using none⟩
        obtain ⟨index, inRange, same⟩ := List.mem_iff_getElem.mp missing
        refine ⟨_, Table.mem_insertEach.mpr (Or.inr ⟨index, inRange, rfl⟩), rfl, same, rfl⟩
      · obtain ⟨row, selected⟩ := List.exists_mem_of_ne_nil _ none
        obtain ⟨stored, named, keyed⟩ := Table.mem_select.mp selected
        refine ⟨decided true row, Table.mem_insertEach.mpr (Or.inl ?_), named, keyed, rfl⟩
        exact Table.mem_update_of_hit stored ⟨named, by rw [keyed]; exact listed⟩
    next miss =>
      obtain ⟨row, stored, rfl, rfl, yes⟩ := decides
      exact ⟨row, Table.mem_insertEach.mpr (Or.inl (Table.mem_update_of_miss stored miss)), rfl, rfl,
        yes⟩

/-- After a save the role grants the keys it was given, and every other role what it did. -/
theorem mem_grantedKeys_write {roleId other : Nat} {keys : List PermissionKey}
    {key : PermissionKey} :
    key ∈ grantedKeys (writeRolePermissions desk roleId keys) other ↔
      if other = roleId then key ∈ keys else key ∈ grantedKeys desk other := by
  have listed : key ∈ KEYS := by cases key <;> decide
  rw [mem_grantedKeys, mem_grantedKeys]
  unfold writeRolePermissions
  rw [granted_upsertDecisions, granted_upsertDecisions]
  by_cases same : other = roleId
  · by_cases kept : key ∈ keys <;> simp [same, kept, listed]
  · simp [same]

end Grants

/-! ## Whom a write leaves -/

section Writes

variable {desk after : AccessDesk}

theorem manager_congr (permissions : after.rolePermissions = desk.rolePermissions)
    (row : Membership) : Manager after row ↔ Manager desk row := by
  unfold Manager grantedKeys
  rw [permissions]

theorem activeAdmin_congr (roles : after.roles = desk.roles) (row : Membership) :
    ActiveAdmin after row ↔ ActiveAdmin desk row := by
  unfold ActiveAdmin IsAdminRole
  rw [roles]

/-- Where one membership was written, the others are left, and what the write made of it. -/
theorem governed_written {membershipId : Nat} {write : Membership → Membership}
    {keeps : ∀ row, Keyed.key (write row) = Keyed.key row}
    (memberships : after.directory.memberships =
      desk.directory.memberships.update (fun row => row.id = membershipId) write keeps)
    (roles : after.roles = desk.roles)
    (permissions : after.rolePermissions = desk.rolePermissions) :
    Governed after ↔
      (AnotherManager desk membershipId ∨
        ∃ row ∈ desk.directory.memberships.find membershipId, Manager desk (write row)) ∧
      (AnotherAdmin desk membershipId ∨
        ∃ row ∈ desk.directory.memberships.find membershipId, ActiveAdmin desk (write row)) := by
  have managers : (∃ row ∈ after.directory.memberships.rows, Manager after row) ↔
      (AnotherManager desk membershipId ∨
        ∃ row ∈ desk.directory.memberships.find membershipId, Manager desk (write row)) := by
    simp only [manager_congr permissions, memberships]
    exact Table.exists_update_key
  have admins : (∃ row ∈ after.directory.memberships.rows, ActiveAdmin after row) ↔
      (AnotherAdmin desk membershipId ∨
        ∃ row ∈ desk.directory.memberships.find membershipId, ActiveAdmin desk (write row)) := by
    simp only [activeAdmin_congr roles, memberships]
    exact Table.exists_update_key
  rw [← managers, ← admins]
  exact ⟨fun governed => ⟨governed.manager, governed.admin⟩, fun both => ⟨both.1, both.2⟩⟩

/-- Of a write to one membership that costs nobody their standing. -/
theorem governed_raised {membershipId : Nat} {write : Membership → Membership}
    {keeps : ∀ row, Keyed.key (write row) = Keyed.key row}
    (memberships : after.directory.memberships =
      desk.directory.memberships.update (fun row => row.id = membershipId) write keeps)
    (roles : after.roles = desk.roles)
    (permissions : after.rolePermissions = desk.rolePermissions)
    (manager : ∀ row, Manager desk row → Manager desk (write row))
    (admin : ∀ row, ActiveAdmin desk row → ActiveAdmin desk (write row))
    (governed : Governed desk) : Governed after := by
  rw [governed_written memberships roles permissions]
  constructor
  · obtain ⟨row, stored, manages⟩ := governed.manager
    by_cases hit : row.id = membershipId
    · exact Or.inr ⟨row, Table.find_eq_some.mpr ⟨stored, hit⟩, manager row manages⟩
    · exact Or.inl ⟨row, stored, hit, manages⟩
  · obtain ⟨row, stored, active⟩ := governed.admin
    by_cases hit : row.id = membershipId
    · exact Or.inr ⟨row, Table.find_eq_some.mpr ⟨stored, hit⟩, admin row active⟩
    · exact Or.inl ⟨row, stored, hit, active⟩

/-- Of a write that makes the membership nobody's. -/
theorem governed_lowered {membershipId : Nat} {write : Membership → Membership}
    {keeps : ∀ row, Keyed.key (write row) = Keyed.key row}
    (memberships : after.directory.memberships =
      desk.directory.memberships.update (fun row => row.id = membershipId) write keeps)
    (roles : after.roles = desk.roles)
    (permissions : after.rolePermissions = desk.rolePermissions)
    (lowered : ∀ row, (write row).status ≠ .active) :
    Governed after ↔ AnotherManager desk membershipId ∧ AnotherAdmin desk membershipId := by
  have manager : ¬ ∃ row ∈ desk.directory.memberships.find membershipId,
      Manager desk (write row) := fun ⟨row, _, active, _⟩ => lowered row active
  have admin : ¬ ∃ row ∈ desk.directory.memberships.find membershipId,
      ActiveAdmin desk (write row) := fun ⟨row, _, active, _⟩ => lowered row active
  rw [governed_written memberships roles permissions]
  simp only [manager, admin, or_false]

theorem governed_suspend {membershipId : Nat} (governed : Governed desk) :
    Governed (setMemberStatus desk membershipId .suspended) ↔ LeavesOthers desk membershipId := by
  unfold LeavesOthers setMemberStatus
  cases found : desk.directory.memberships.find membershipId with
  | none => simpa using governed
  | some row =>
    simp only [Option.isSome_some, forall_const]
    exact governed_lowered rfl rfl rfl fun _ => by simp

theorem governed_remove {membershipId : Nat} (governed : Governed desk) :
    Governed (removeMembership desk membershipId) ↔ LeavesOthers desk membershipId := by
  unfold LeavesOthers removeMembership
  cases found : desk.directory.memberships.find membershipId with
  | none => simpa using governed
  | some row =>
    simp only [Option.isSome_some, forall_const]
    exact governed_lowered rfl rfl rfl fun _ => by simp

theorem governed_reactivate {membershipId : Nat} (governed : Governed desk) :
    Governed (setMemberStatus desk membershipId .active) := by
  unfold setMemberStatus
  cases found : desk.directory.memberships.find membershipId with
  | none => exact governed
  | some row =>
    exact governed_raised rfl rfl rfl (fun _ manages => ⟨rfl, manages.2⟩)
      (fun _ active => ⟨rfl, active.2⟩) governed

/-- Of a write that moves the membership to another role. -/
theorem governed_moved {membershipId roleId : Nat} (governed : Governed desk)
    (memberships : after.directory.memberships = desk.directory.memberships.update
      (fun row => row.id = membershipId) (movedMembership roleId))
    (roles : after.roles = desk.roles)
    (permissions : after.rolePermissions = desk.rolePermissions) :
    Governed after ↔ ∀ row ∈ desk.directory.memberships.find membershipId,
      (AnotherManager desk membershipId ∨ Manager desk (movedMembership roleId row)) ∧
        (AnotherAdmin desk membershipId ∨ ActiveAdmin desk (movedMembership roleId row)) := by
  rw [governed_written memberships roles permissions]
  cases found : desk.directory.memberships.find membershipId with
  | none =>
    -- Nobody is moved, so whoever was there is another.
    have other : ∀ row ∈ desk.directory.memberships.rows, row.id ≠ membershipId :=
      fun row stored => Table.find_eq_none.mp found row stored
    obtain ⟨manager, managerIn, manages⟩ := governed.manager
    obtain ⟨admin, adminIn, active⟩ := governed.admin
    refine iff_of_true ⟨Or.inl ?_, Or.inl ?_⟩ fun row there => by simp at there
    · exact ⟨manager, managerIn, other manager managerIn, manages⟩
    · exact ⟨admin, adminIn, other admin adminIn, active⟩
  | some row => simp

theorem governed_move {membershipId roleId : Nat} (governed : Governed desk) :
    Governed (updateMemberRole desk membershipId roleId) ↔
      LeavesMovers desk membershipId roleId := by
  unfold LeavesMovers updateMemberRole
  split
  next there =>
    simp only [there, forall_const]
    exact governed_moved governed rfl rfl rfl
  next missing => exact iff_of_true governed fun found => absurd found missing

theorem governed_edit {roleId : Nat} {keys : List PermissionKey} (governed : Governed desk) :
    Governed (writeRolePermissions desk roleId keys) ↔ LeavesRoles desk roleId keys := by
  constructor
  · rintro ⟨⟨row, stored, active, kept, grants⟩, _⟩
    rw [mem_grantedKeys_write] at grants
    split at grants
    next => exact Or.inl grants
    next other => exact Or.inr ⟨row, stored, other, active, kept, grants⟩
  · intro leaves
    refine ⟨?_, governed.admin⟩
    rcases leaves with granted | ⟨row, stored, other, active, kept, grants⟩
    · obtain ⟨row, stored, active, kept, grants⟩ := governed.manager
      refine ⟨row, stored, active, kept, mem_grantedKeys_write.mpr ?_⟩
      split
      · exact granted
      · exact grants
    · exact ⟨row, stored, active, kept, mem_grantedKeys_write.mpr (by rw [if_neg other]; exact grants)⟩

theorem governed_goal (governed : Governed desk) (goal : AccessGoal) :
    Governed (writeGoal desk goal).1 ↔ leavesGoverned desk goal := by
  cases goal with
  | changeRole membershipId roleId => exact governed_move governed
  | suspend membershipId => exact governed_suspend governed
  | reactivate membershipId => exact iff_of_true (governed_reactivate governed) trivial
  | remove membershipId => exact governed_remove governed
  | createRole name keys => exact iff_of_true governed trivial
  | setPermissions roleId keys => exact governed_edit governed

theorem governed_invited {name email : String} {roleId : Nat} (governed : Governed desk)
    (created : createInvitedMember desk name email roleId = some after) : Governed after := by
  unfold createInvitedMember at created
  split at created
  next =>
    cases created
    obtain ⟨manager, managerIn, manages⟩ := governed.manager
    obtain ⟨admin, adminIn, active⟩ := governed.admin
    exact ⟨⟨manager, Table.mem_insert.mpr (Or.inl managerIn), manages⟩,
      ⟨admin, Table.mem_insert.mpr (Or.inl adminIn), active⟩⟩
  next => cases created

theorem governed_newRole {name : String} (governed : Governed desk)
    (created : insertRole desk name = some after) : Governed after := by
  unfold insertRole at created
  split at created
  next =>
    cases created
    obtain ⟨admin, adminIn, active, ⟨role, found, named⟩, kept⟩ := governed.admin
    exact ⟨governed.manager, admin, adminIn, active,
      ⟨role, Table.find_insert_of_found found, named⟩, kept⟩
  next => cases created

/-- A step keeps the workspace governed exactly if its write leaves the others it needs. -/
theorem governed_step (desk : AccessDesk) (hash : String) (phase : AccessPhase)
    (governed : Governed desk) :
    Governed (actOnAccess desk hash phase).1 ↔ writesGoverned desk hash phase := by
  cases phase with
  | createInvited actor name email roleId =>
    refine iff_of_true ?_ trivial
    simp only [actOnAccess]
    cases created : createInvitedMember desk name email roleId with
    | none => exact governed
    | some after => exact governed_invited governed created
  | sendInvite actor membershipId userId =>
    refine iff_of_true ?_ trivial
    simp only [actOnAccess]
    split
    · exact ⟨governed.manager, governed.admin⟩
    · exact governed
  | insertRole actor name keys =>
    refine iff_of_true ?_ trivial
    simp only [actOnAccess]
    cases created : insertRole desk name with
    | none => exact governed
    | some after => exact governed_newRole governed created
  | activate userId membershipId email =>
    refine iff_of_true ?_ trivial
    exact governed_raised rfl rfl rfl (fun _ manages => ⟨rfl, manages.2⟩)
      (fun _ active => ⟨rfl, active.2⟩) governed
  | write actor goal => exact governed_goal governed goal
  | _ => exact iff_of_true governed trivial

end Writes

/-! ## Runs -/

/-- Two Admins, and a role with no member that may manage users too. -/
def acme : AccessDesk where
  directory :=
    { organizations := Table.empty.insert fun id => { id, name := "Acme" }
      users := Table.empty.insertEach ["ada", "bob"] fun name id =>
        { id, organizationId := 0, name, email := name ++ "@acme.test", persona := .admin
          status := .active, passwordHash := some name, createdAt := 0 }
      memberships := Table.empty.insertEach [0, 1] fun userId id =>
        { id, organizationId := 0, userId, roleId := 0, status := .active }
      sessions := Table.empty
      socialIdentities := Table.empty
      platformOrganizationId := none }
  roles := Table.empty.insertEach ["Admin", "Operations"] fun name id => { id, name }
  rolePermissions := Table.empty.insertEach [(0, PermissionKey.setUsers), (0, .finRefund),
    (1, .setUsers)] fun grant id =>
      { id, roleId := grant.1, permissionKey := grant.2, granted := true }
  invites := Table.empty
  outbox := []
  clock := 0

def acmePool : AccessPool := ⟨acme, Table.empty⟩

theorem acme_governed : Governed acmePool.shared where
  manager := by decide +kernel
  admin := by decide +kernel

/-- One step of a request. -/
def accessStep (jobId : Nat) : AccessTurn := .advance jobId "hash"

/-- Ada suspends Bob; Ada, who is the last Admin then, cannot be removed. -/
def suspendedBob : List AccessTurn :=
  [.receive (.suspendMember 0 1), accessStep 0, accessStep 0, accessStep 0, accessStep 0,
    accessStep 0, .receive (.removeMember 0 0), accessStep 1, accessStep 1, accessStep 1,
    accessStep 1]

/-- Ada and Bob suspend each other, and each counts two Admins first. -/
def suspendedEachOther : List AccessTurn :=
  [.receive (.suspendMember 0 1), .receive (.suspendMember 1 0), accessStep 0, accessStep 1,
    accessStep 0, accessStep 1, accessStep 0, accessStep 1, accessStep 0, accessStep 1,
    accessStep 0, accessStep 1]

/-- An Admin takes the key off the Admin role, since a role nobody has still grants it. -/
def managedByNobody : List AccessTurn :=
  [.receive (.setRolePermissions 0 0 [.finRefund]), accessStep 0, accessStep 0, accessStep 0,
    accessStep 0, accessStep 0, accessStep 0]

end EventaApi.Guarantees
