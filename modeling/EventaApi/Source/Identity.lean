import EventaApi.Source.Schema

/-!
# Users, memberships and sessions

What sign-in and access are decided from, over every workspace: a person with
accounts in several has a user row in each of them.
-/
namespace EventaApi.Source
open Library

inductive Persona where
  | admin | attendee
  deriving DecidableEq, Repr

inductive MemberStatus where
  | active | invited | unconfirmed | suspended
  deriving DecidableEq, Repr

inductive LinkedProvider where
  | google | apple | linkedin
  deriving DecidableEq, Repr

structure OrganizationRow where
  id : Nat
  name : String
  deletedAt : Option Instant := none
  deriving DecidableEq, Repr

instance : Keyed OrganizationRow := ⟨OrganizationRow.id⟩

structure User where
  id : Nat
  organizationId : Nat
  name : String
  email : String
  persona : Persona
  status : MemberStatus
  /-- Argon2id; null for an account that signs in through a provider. -/
  passwordHash : Option String
  twoFactorEnabled : Bool := false
  createdAt : Instant
  deletedAt : Option Instant := none
  deriving DecidableEq, Repr

instance : Keyed User := ⟨User.id⟩

structure Membership where
  id : Nat
  organizationId : Nat
  userId : Nat
  roleId : Nat
  status : MemberStatus
  deletedAt : Option Instant := none
  deriving DecidableEq, Repr

instance : Keyed Membership := ⟨Membership.id⟩

structure AuthSession where
  id : Nat
  organizationId : Nat
  userId : Nat
  expiresAt : Instant
  revokedAt : Option Instant := none
  deriving DecidableEq, Repr

instance : Keyed AuthSession := ⟨AuthSession.id⟩

/-- A provider account linked to a user. -/
structure SocialIdentity where
  id : Nat
  userId : Nat
  provider : LinkedProvider
  deriving DecidableEq, Repr

instance : Keyed SocialIdentity := ⟨SocialIdentity.id⟩

structure Directory where
  organizations : Table OrganizationRow
  users : Table User
  memberships : Table Membership
  sessions : Table AuthSession
  socialIdentities : Table SocialIdentity
  /-- The one organization every attendee account lives in. -/
  platformOrganizationId : Option Nat

/-- The signed-in caller. -/
structure AuthContext where
  userId : Nat
  organizationId : Nat
  sessionId : Nat
  deriving DecidableEq, Repr

def DomainException.forbidden (message : String) : DomainException := ⟨.forbidden, message⟩

def invalidToken : DomainException := ⟨.unauthorized, "Invalid or expired token"⟩

/-! ## Accepting an invitation -/

structure InvitedMembership where
  userId : Nat
  organizationId : Nat
  email : String
  deriving DecidableEq, Repr

/-- An Invited membership and its user's email, or null once accepted or absent. -/
def findInvitedMembership (directory : Directory) (membershipId : Nat) :
    Option InvitedMembership := do
  let row ← directory.memberships.find membershipId
  if row.status = .invited then
    let user ← directory.users.find row.userId
    some { userId := row.userId, organizationId := row.organizationId, email := user.email }
  else none

@[reducible] def invitedUser (passwordHash : String) (row : User) : User :=
  { row with passwordHash := some passwordHash, status := .active }

@[reducible] def acceptedMembership (row : Membership) : Membership :=
  { row with status := .active }

/-- Set the invitee's password and flip both the user and the membership to Active. -/
def activateInvite (directory : Directory) (userId membershipId : Nat) (passwordHash : String) :
    Directory :=
  { directory with
    users := directory.users.update (fun row => row.id = userId) (invitedUser passwordHash)
    memberships :=
      directory.memberships.update (fun row => row.id = membershipId) acceptedMembership }

end EventaApi.Source
