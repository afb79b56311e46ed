import EventaApi.Source.Identity
import EventaApi.Source.Discounts
import EventaApi.Library.Pool

/-!
# Members, roles and permissions

`AccessService`, `RolesService` and the acceptance of an invitation, over one workspace.
A member holds what the role of their membership grants. Every check is a read of its
own, and the write that follows repeats none of them.
-/
namespace EventaApi.Source
open Library

inductive PermissionKey where
  | evCreate | evPublish | evSpeakers | evProgramView
  | regView | regCheckin | regExport | regManage
  | finView | finRefund | finDiscount | finManage
  | setUsers | setSettings | setIntegrations
  deriving DecidableEq, Repr

/-- The catalog, which holds every key there is. -/
def KEYS : List PermissionKey :=
  [.evCreate, .evPublish, .evSpeakers, .evProgramView, .regView, .regCheckin, .regExport,
    .regManage, .finView, .finRefund, .finDiscount, .finManage, .setUsers, .setSettings,
    .setIntegrations]

def PermissionKey.text : PermissionKey → String
  | .evCreate => "evCreate"
  | .evPublish => "evPublish"
  | .evSpeakers => "evSpeakers"
  | .evProgramView => "evProgramView"
  | .regView => "regView"
  | .regCheckin => "regCheckin"
  | .regExport => "regExport"
  | .regManage => "regManage"
  | .finView => "finView"
  | .finRefund => "finRefund"
  | .finDiscount => "finDiscount"
  | .finManage => "finManage"
  | .setUsers => "setUsers"
  | .setSettings => "setSettings"
  | .setIntegrations => "setIntegrations"

/-- The role that must never be left without a holder. -/
def ADMIN_ROLE : String := "Admin"

/-- Without this key nobody can administer the workspace's people. -/
def MANAGE_USERS : PermissionKey := .setUsers

def INVITE_TTL_SECONDS : Nat := 7 * 24 * 60 * 60

structure Role where
  id : Nat
  name : String
  deriving DecidableEq, Repr

instance : Keyed Role := ⟨Role.id⟩

/-- A decision about a key: granted, or turned off. -/
structure RolePermission where
  id : Nat
  roleId : Nat
  permissionKey : PermissionKey
  granted : Bool
  deriving DecidableEq, Repr

instance : Keyed RolePermission := ⟨RolePermission.id⟩

/-- A signed invite token. -/
structure InviteToken where
  id : Nat
  mid : Nat
  exp : Nat
  deriving DecidableEq, Repr

instance : Keyed InviteToken := ⟨InviteToken.id⟩

structure MemberInvited where
  userId : Nat
  name : String
  email : String
  token : Nat
  occurredAt : Instant
  deriving DecidableEq, Repr

structure AccessDesk where
  directory : Directory
  roles : Table Role
  rolePermissions : Table RolePermission
  invites : Table InviteToken
  outbox : List MemberInvited
  clock : Instant

/-! ## What a role grants -/

/-- A role's granted keys; a key that is turned off grants nothing. -/
def grantedKeys (desk : AccessDesk) (roleId : Nat) : List PermissionKey :=
  (desk.rolePermissions.select fun row => row.roleId = roleId ∧ row.granted = true).map
    RolePermission.permissionKey

/-- What a user holds, through the role of their active membership. -/
def getPermissions (desk : AccessDesk) (userId : Nat) : List PermissionKey :=
  (desk.directory.memberships.select fun row => row.userId = userId ∧ row.status = .active).flatMap
    fun row => grantedKeys desk row.roleId

/-- The role is the Admin role. -/
def IsAdminRole (desk : AccessDesk) (roleId : Nat) : Prop :=
  ∃ role ∈ desk.roles.find roleId, role.name = ADMIN_ROLE

instance (desk : AccessDesk) (roleId : Nat) : Decidable (IsAdminRole desk roleId) :=
  inferInstanceAs (Decidable (∃ _ ∈ desk.roles.find roleId, _))

/-- An Active member who was not removed and holds the Admin role. -/
def ActiveAdmin (desk : AccessDesk) (row : Membership) : Prop :=
  row.status = .active ∧ IsAdminRole desk row.roleId ∧ row.deletedAt = none

instance (desk : AccessDesk) : DecidablePred (ActiveAdmin desk) :=
  fun _ => inferInstanceAs (Decidable (_ ∧ _ ∧ _))

/-- Is this membership an Active Admin? Here a removed one counts too. -/
def isActiveAdmin (desk : AccessDesk) (membershipId : Nat) : Prop :=
  ∃ row ∈ desk.directory.memberships.find membershipId,
    row.status = .active ∧ IsAdminRole desk row.roleId

instance (desk : AccessDesk) (membershipId : Nat) : Decidable (isActiveAdmin desk membershipId) :=
  inferInstanceAs (Decidable (∃ _ ∈ desk.directory.memberships.find membershipId, _))

/-- Does this user hold the Admin role, actively? -/
def isActiveAdminUser (desk : AccessDesk) (userId : Nat) : Prop :=
  (desk.directory.memberships.select fun row => row.userId = userId ∧ ActiveAdmin desk row) ≠ []

instance (desk : AccessDesk) (userId : Nat) : Decidable (isActiveAdminUser desk userId) :=
  inferInstanceAs (Decidable (_ ≠ _))

def countActiveAdmins (desk : AccessDesk) : Nat :=
  (desk.directory.memberships.select (ActiveAdmin desk)).length

/-- How many roles grant the key, held by anybody or not. -/
def countRolesGranting (desk : AccessDesk) (key : PermissionKey) : Nat :=
  ((desk.rolePermissions.select fun row => row.permissionKey = key ∧ row.granted = true).map
    RolePermission.roleId).dedup.length

def memberExists (desk : AccessDesk) (membershipId : Nat) : Prop :=
  ∃ row ∈ desk.directory.memberships.find membershipId, row.deletedAt = none

instance (desk : AccessDesk) (membershipId : Nat) : Decidable (memberExists desk membershipId) :=
  inferInstanceAs (Decidable (∃ _ ∈ desk.directory.memberships.find membershipId, _))

/-- The teammate who already holds this address. -/
def findMemberByEmail (desk : AccessDesk) (email : String) : Option Membership :=
  let holders := desk.directory.users.select fun row =>
    citext row.email = citext email ∧ row.persona = .admin ∧ row.deletedAt = none
  (holders.flatMap fun user =>
    desk.directory.memberships.select fun row => row.userId = user.id).head?

/-! ## Writes -/

/-- An Invited user and an Invited membership; one live account per address. -/
def createInvitedMember (desk : AccessDesk) (name email : String) (roleId : Nat) :
    Option AccessDesk :=
  if (desk.roles.find roleId).isSome ∧ (desk.directory.users.select fun row =>
      citext row.email = citext email ∧ row.persona = .admin ∧ row.deletedAt = none) = [] then
    some { desk with directory := { desk.directory with
      users := desk.directory.users.insert fun id =>
        { id, organizationId := 0, name, email, persona := .admin, status := .invited
          passwordHash := none, createdAt := desk.clock }
      memberships := desk.directory.memberships.insert fun id =>
        { id, organizationId := 0, userId := desk.directory.users.next, roleId, status := .invited } } }
  else none

@[reducible] def movedMembership (roleId : Nat) (row : Membership) : Membership :=
  { row with roleId }

/-- Re-assign a membership to another role; without the role nothing is written. -/
def updateMemberRole (desk : AccessDesk) (membershipId roleId : Nat) : AccessDesk :=
  if (desk.roles.find roleId).isSome then
    { desk with directory := { desk.directory with
      memberships := desk.directory.memberships.update (fun row => row.id = membershipId)
        (movedMembership roleId) } }
  else desk

@[reducible] def membershipWithStatus (status : MemberStatus) (row : Membership) : Membership :=
  { row with status }

@[reducible] def userWithStatus (status : MemberStatus) (row : User) : User := { row with status }

@[reducible] def revokedAt (now : Instant) (row : AuthSession) : AuthSession :=
  { row with revokedAt := some now }

/-- Sign a user out everywhere. -/
def revokeSessions (sessions : Table AuthSession) (userId : Nat) (now : Instant) :
    Table AuthSession :=
  sessions.update (fun row => row.userId = userId ∧ row.revokedAt = none) (revokedAt now)

/-- Suspend or reactivate, whatever the membership has become: the role is preserved. -/
def setMemberStatus (desk : AccessDesk) (membershipId : Nat) (status : MemberStatus) :
    AccessDesk :=
  match desk.directory.memberships.find membershipId with
  | none => desk
  | some row =>
    { desk with directory := { desk.directory with
      memberships := desk.directory.memberships.update (fun row => row.id = membershipId)
        (membershipWithStatus status)
      users := desk.directory.users.update (fun user => user.id = row.userId)
        (userWithStatus status)
      sessions :=
        if status = .suspended then revokeSessions desk.directory.sessions row.userId desk.clock
        else desk.directory.sessions } }

@[reducible] def removedMembership (now : Instant) (row : Membership) : Membership :=
  { row with status := .suspended, deletedAt := some now }

@[reducible] def removedUser (now : Instant) (row : User) : User :=
  { row with status := .suspended, deletedAt := some now }

/-- The membership and its user are soft-deleted and every session revoked. -/
def removeMembership (desk : AccessDesk) (membershipId : Nat) : AccessDesk :=
  match desk.directory.memberships.find membershipId with
  | none => desk
  | some row =>
    { desk with directory := { desk.directory with
      memberships := desk.directory.memberships.update (fun row => row.id = membershipId)
        (removedMembership desk.clock)
      users := desk.directory.users.update (fun user => user.id = row.userId)
        (removedUser desk.clock)
      sessions := revokeSessions desk.directory.sessions row.userId desk.clock } }

@[reducible] def decided (granted : Bool) (row : RolePermission) : RolePermission :=
  { row with granted }

/-- Record one decision about each of these keys. -/
def upsertDecisions (rolePermissions : Table RolePermission) (roleId : Nat)
    (keys : List PermissionKey) (granted : Bool) : Table RolePermission :=
  let written := rolePermissions.update
    (fun row => row.roleId = roleId ∧ row.permissionKey ∈ keys) (decided granted)
  let missing := keys.filter fun key =>
    rolePermissions.select (fun row => row.roleId = roleId ∧ row.permissionKey = key) = []
  written.insertEach missing fun permissionKey id => { id, roleId, permissionKey, granted }

/-- The organizer's decision about every key of the catalog, for this role. -/
def writeRolePermissions (desk : AccessDesk) (roleId : Nat) (keys : List PermissionKey) :
    AccessDesk :=
  { desk with
    rolePermissions :=
      upsertDecisions (upsertDecisions desk.rolePermissions roleId keys true) roleId
        (KEYS.filter fun key => key ∉ keys) false }

/-- A role name is unique in the workspace. -/
def insertRole (desk : AccessDesk) (name : String) : Option AccessDesk :=
  if desk.roles.select (fun row => row.name = name) = [] then
    some { desk with roles := desk.roles.insert fun id => { id, name } }
  else none

/-- Sign a join link for the membership, and mail it. -/
def sendInvite (desk : AccessDesk) (membershipId : Nat) (member : User) : AccessDesk :=
  { desk with
    invites := desk.invites.insert fun id =>
      { id, mid := membershipId, exp := desk.clock / 1000 + INVITE_TTL_SECONDS }
    outbox := desk.outbox ++ [{ userId := member.id, name := member.name, email := member.email
                                token := desk.invites.next, occurredAt := desk.clock }] }

/-! ## Requests -/

/-- A request of a signed-in actor's, or of somebody who opens a join link. -/
inductive AccessRequest where
  | inviteMember (actor : Nat) (name email : String) (roleId : Nat)
  | changeMemberRole (actor membershipId roleId : Nat)
  | suspendMember (actor membershipId : Nat)
  | reactivateMember (actor membershipId : Nat)
  | removeMember (actor membershipId : Nat)
  | createRole (actor : Nat) (name : String) (permissions : List PermissionKey)
  | setRolePermissions (actor roleId : Nat) (keys : List PermissionKey)
  | acceptInvite (token : Nat)
  deriving DecidableEq, Repr

/-- What a request has been asked to do, and does when its checks have passed. -/
inductive AccessGoal where
  | changeRole (membershipId roleId : Nat)
  | suspend (membershipId : Nat)
  | reactivate (membershipId : Nat)
  | remove (membershipId : Nat)
  | createRole (name : String) (keys : List PermissionKey)
  | setPermissions (roleId : Nat) (keys : List PermissionKey)
  deriving DecidableEq, Repr

inductive AccessReply where
  | member (membershipId : Nat)
  | invited (membershipId token : Nat)
  | role (roleId : Nat)
  | removed
  | accepted (userId : Nat) (email : String)
  | thrown (exception : DomainException)
  | crashed
  deriving DecidableEq, Repr

/-- What a request does next. -/
inductive AccessPhase where
  | guard (request : AccessRequest)
  | inviteRole (actor : Nat) (name email : String) (roleId : Nat)
  | inviteEmail (actor : Nat) (name email : String) (roleId : Nat)
  | createInvited (actor : Nat) (name email : String) (roleId : Nat)
  | sendInvite (actor membershipId userId : Nat)
  | memberExists (actor membershipId : Nat) (goal : AccessGoal)
  | existingRole (actor membershipId roleId : Nat)
  | isActiveAdminUser (actor : Nat) (granting : List PermissionKey) (admin : Bool)
      (goal : AccessGoal)
  | getFor (actor : Nat) (granting : List PermissionKey) (admin : Bool) (goal : AccessGoal)
  | isActiveAdmin (actor membershipId : Nat) (goal : AccessGoal)
  | countActiveAdmins (actor : Nat) (goal : AccessGoal)
  | getMember (actor membershipId roleId : Nat)
  | roleNameTaken (actor : Nat) (name : String) (keys : List PermissionKey)
  | insertRole (actor : Nat) (name : String) (keys : List PermissionKey)
  | roleGrants (actor roleId : Nat) (keys : List PermissionKey)
  | countRolesGranting (actor roleId : Nat) (keys : List PermissionKey)
  | roleExists (actor roleId : Nat) (keys : List PermissionKey)
  | write (actor : Nat) (goal : AccessGoal)
  | activate (userId membershipId : Nat) (email : String)
  | done (reply : AccessReply)
  deriving DecidableEq, Repr

def MISSING_PERMISSION : DomainException :=
  .forbidden ("Missing required permission: " ++ MANAGE_USERS.text ++ ".")

def roleNotFound (roleId : Nat) : DomainException :=
  .notFound ("Role " ++ toString roleId ++ " not found in this workspace.")

def memberNotFound (membershipId : Nat) : DomainException :=
  .notFound ("Member " ++ toString membershipId ++ " not found in this workspace.")

def ALREADY_A_MEMBER : DomainException :=
  .conflict "A member with this email already exists in the workspace."

def LAST_ADMIN : DomainException :=
  .conflict "This is the last Admin — promote someone else first."

def ONLY_MANAGING_ROLE : DomainException :=
  .conflict "This is the only role that can manage users and roles — grant it to another role first."

def beyondReach (beyond : List PermissionKey) : DomainException :=
  .forbidden ("You cannot grant access you do not have: " ++
    String.intercalate ", " (beyond.map PermissionKey.text) ++ ".")

def nameTaken (name : String) : DomainException :=
  .conflict ("A role called \"" ++ name ++ "\" already exists — choose a unique name.")

/-- The first check of a request whose actor may manage users. -/
def afterGuard : AccessRequest → AccessPhase
  | .inviteMember actor name email roleId => .inviteRole actor name email roleId
  | .changeMemberRole actor membershipId roleId =>
    .memberExists actor membershipId (.changeRole membershipId roleId)
  | .suspendMember actor membershipId => .memberExists actor membershipId (.suspend membershipId)
  | .reactivateMember actor membershipId =>
    .memberExists actor membershipId (.reactivate membershipId)
  | .removeMember actor membershipId => .memberExists actor membershipId (.remove membershipId)
  | .createRole actor name permissions =>
    .isActiveAdminUser actor permissions false
      (.createRole (String.ofList (trim name)) permissions)
  | .setRolePermissions actor roleId keys =>
    .isActiveAdminUser actor keys false (.setPermissions roleId keys)
  | .acceptInvite _ => .done .crashed

/-- The signed-in actor of a request. -/
def AccessRequest.actor : AccessRequest → Option Nat
  | .inviteMember actor _ _ _ | .changeMemberRole actor _ _ | .suspendMember actor _
  | .reactivateMember actor _ | .removeMember actor _ | .createRole actor _ _
  | .setRolePermissions actor _ _ => some actor
  | .acceptInvite _ => none

/-- A join link that verifies, for a membership that is still Invited. -/
def loadInvited (desk : AccessDesk) (token : Nat) : AccessPhase :=
  match desk.invites.find token with
  | none => .done (.thrown invalidToken)
  | some claims =>
    if desk.clock / 1000 < claims.exp then
      match findInvitedMembership desk.directory claims.mid with
      | none => .done (.thrown invalidToken)
      | some target => .activate target.userId claims.mid target.email
    else .done (.thrown invalidToken)

/-- `@RequirePermissions(setUsers)` on every endpoint but the public one. -/
def guardAccess (desk : AccessDesk) (request : AccessRequest) : AccessPhase :=
  match request with
  | .acceptInvite token => loadInvited desk token
  | _ =>
    match request.actor with
    | some actor =>
      if MANAGE_USERS ∈ getPermissions desk actor then afterGuard request
      else .done (.thrown MISSING_PERMISSION)
    | none => .done .crashed

/-- After the member was found: what is checked next. -/
def afterMember (actor membershipId : Nat) : AccessGoal → AccessPhase
  | .changeRole _ roleId => .existingRole actor membershipId roleId
  | .reactivate membershipId => .write actor (.reactivate membershipId)
  | goal => .isActiveAdmin actor membershipId goal

/-- After the escalation check; a move onto the Admin role demotes nobody. -/
def afterEscalation (actor : Nat) (admin : Bool) : AccessGoal → AccessPhase
  | .changeRole membershipId roleId =>
    if admin then .getMember actor membershipId roleId
    else .isActiveAdmin actor membershipId (.changeRole membershipId roleId)
  | .createRole name keys => .roleNameTaken actor name keys
  | .setPermissions roleId keys =>
    if MANAGE_USERS ∈ keys then .roleExists actor roleId keys
    else .roleGrants actor roleId keys
  | goal => .write actor goal

/-- After the last-Admin check. -/
def afterLastAdmin (actor : Nat) : AccessGoal → AccessPhase
  | .changeRole membershipId roleId => .getMember actor membershipId roleId
  | goal => .write actor goal

def afterEmail (actor : Nat) (name email : String) (roleId : Nat) :
    Option Membership → AccessPhase
  | none => .createInvited actor name email roleId
  | some row =>
    if row.status = .invited then .sendInvite actor row.id row.userId
    else .done (.thrown ALREADY_A_MEMBER)

/-- The write each goal ends in. -/
def writeGoal (desk : AccessDesk) : AccessGoal → AccessDesk × AccessReply
  | .changeRole membershipId roleId =>
    (updateMemberRole desk membershipId roleId, .member membershipId)
  | .suspend membershipId => (setMemberStatus desk membershipId .suspended, .member membershipId)
  | .reactivate membershipId => (setMemberStatus desk membershipId .active, .member membershipId)
  | .remove membershipId => (removeMembership desk membershipId, .removed)
  | .setPermissions roleId keys => (writeRolePermissions desk roleId keys, .role roleId)
  | .createRole _ _ => (desk, .crashed)

/-- One read, or one committed transaction. -/
def actOnAccess (desk : AccessDesk) (passwordHash : String) : AccessPhase → AccessDesk × AccessPhase
  | .guard request => (desk, guardAccess desk request)
  | .inviteRole actor name email roleId =>
    (desk, if (desk.roles.find roleId).isSome then .inviteEmail actor name email roleId
      else .done (.thrown (roleNotFound roleId)))
  | .inviteEmail actor name email roleId =>
    (desk, afterEmail actor name email roleId (findMemberByEmail desk email))
  | .createInvited actor name email roleId =>
    match createInvitedMember desk name email roleId with
    | some after =>
      (after, .sendInvite actor desk.directory.memberships.next desk.directory.users.next)
    | none => (desk, .done .crashed)
  | .sendInvite _ membershipId userId =>
    match desk.directory.users.find userId with
    | some member =>
      (sendInvite desk membershipId member, .done (.invited membershipId desk.invites.next))
    | none => (desk, .done .crashed)
  | .memberExists actor membershipId goal =>
    (desk, if memberExists desk membershipId then afterMember actor membershipId goal
      else .done (.thrown (memberNotFound membershipId)))
  | .existingRole actor membershipId roleId =>
    (desk, if (desk.roles.find roleId).isSome then
        .isActiveAdminUser actor (grantedKeys desk roleId) (decide (IsAdminRole desk roleId))
          (.changeRole membershipId roleId)
      else .done (.thrown (roleNotFound roleId)))
  | .isActiveAdminUser actor granting admin goal =>
    (desk, if isActiveAdminUser desk actor then afterEscalation actor admin goal
      else .getFor actor granting admin goal)
  | .getFor actor granting admin goal =>
    let beyond := granting.filter fun key => key ∉ getPermissions desk actor
    (desk, if beyond = [] then afterEscalation actor admin goal
      else .done (.thrown (beyondReach beyond)))
  | .isActiveAdmin actor membershipId goal =>
    (desk, if isActiveAdmin desk membershipId then .countActiveAdmins actor goal
      else afterLastAdmin actor goal)
  | .countActiveAdmins actor goal =>
    (desk, if 1 < countActiveAdmins desk then afterLastAdmin actor goal
      else .done (.thrown LAST_ADMIN))
  | .getMember actor membershipId roleId =>
    (desk, match desk.directory.memberships.find membershipId with
      | some row =>
        if row.roleId = roleId then .done (.member membershipId)
        else .write actor (.changeRole membershipId roleId)
      | none => .done .crashed)
  | .roleNameTaken actor name keys =>
    (desk, if desk.roles.select (fun row => row.name = name) = [] then .insertRole actor name keys
      else .done (.thrown (nameTaken name)))
  | .insertRole actor name keys =>
    match insertRole desk name with
    | some after => (after, .write actor (.setPermissions desk.roles.next keys.dedup))
    | none => (desk, .done .crashed)
  | .roleGrants actor roleId keys =>
    (desk, if MANAGE_USERS ∈ grantedKeys desk roleId then .countRolesGranting actor roleId keys
      else .roleExists actor roleId keys)
  | .countRolesGranting actor roleId keys =>
    (desk, if 1 < countRolesGranting desk MANAGE_USERS then .roleExists actor roleId keys
      else .done (.thrown ONLY_MANAGING_ROLE))
  | .roleExists actor roleId keys =>
    (desk, if (desk.roles.find roleId).isSome then .write actor (.setPermissions roleId keys.dedup)
      else .done (.thrown (roleNotFound roleId)))
  | .write _ goal =>
    let (after, reply) := writeGoal desk goal
    (after, .done reply)
  | .activate userId membershipId email =>
    ({ desk with directory := activateInvite desk.directory userId membershipId passwordHash },
      .done (.accepted userId email))
  | .done reply => (desk, .done reply)

/-- Time passes. -/
def tickAccess (desk : AccessDesk) (now : Instant) : AccessDesk :=
  { desk with clock := max desk.clock now }

/-- Access requests of any members, any number of them at once. -/
def accessRequests : Handler AccessDesk AccessPhase AccessRequest String Instant where
  opened := .guard
  act := actOnAccess
  outside := tickAccess
  crashed := .done .crashed

end EventaApi.Source
