import Mathlib.Data.List.Sort
import EventaApi.Source.Identity
import EventaApi.Library.Pool

/-!
# Passwords

`PasswordResetService`, `PasswordChangeService` and the two other places that replace an
account's password: an invitation being accepted, and a booking's buyer taking over an
account nobody confirmed. Each call checks first and writes in a transaction of its own.
-/
namespace EventaApi.Source
open Library

/-- Argon2id, which salts every hash anew, and the fingerprint a link carries of a hash. -/
structure PasswordCrypto where
  hash : (plain : String) → (salt : Nat) → String
  verify : (hashed plain : String) → Bool
  passwordFingerprint : (passwordHash : String) → String

/-- The claims of a password-reset token. -/
structure ResetLink where
  id : Nat
  sub : Nat
  org : Nat
  /-- The fingerprint of the password the account had. -/
  pv : String
  /-- In seconds, as every token's expiry is. -/
  exp : Nat
  deriving DecidableEq, Repr

instance : Keyed ResetLink := ⟨ResetLink.id⟩

inductive PasswordMail where
  | resetRequested (organizationId userId : Nat) (name email : String)
      (workspaceName : Option String) (token : Nat) (occurredAt : Instant)
  | changed (organizationId userId : Nat) (name email : String) (otherSessionsSignedOut : Nat)
      (occurredAt : Instant)
  deriving DecidableEq, Repr

structure PasswordDesk where
  directory : Directory
  /-- The reset tokens that were signed; a token that is none of them does not verify. -/
  links : Table ResetLink
  outbox : List PasswordMail
  /-- How many salts were drawn. -/
  salts : Nat
  clock : Instant

/-! ## Constants -/

def WRONG_CURRENT : String := "Your current password is incorrect."
def REUSED : String := "Please choose a password different from your current one."
def REUSED_PASSWORD : String := "Please choose a password different from your current one."
def CHANGED : String := "Your password has been changed."
def NO_PASSWORD_NO_PROVIDER : String :=
  "That account has no password to reset — it signs in through a social provider. Use that sign-in instead."
def LINK_ON_ITS_WAY : String := "A password-reset link is on its way."
def MAX_RESET_ACCOUNTS : Nat := 10
def RESET_DONE : String := "Your password has been reset. Please sign in."
def INVALID_LINK : String := "This reset link is invalid or has expired. Request a new one."
def SIGN_IN_INSTEAD : String := "An account already uses this email. Sign in instead."
def PASSWORD_RESET_TTL_SECONDS : Nat := 60 * 60

/-! ## Asking for a link -/

structure ResetAccount where
  id : Nat
  organizationId : Nat
  workspaceName : String
  name : String
  status : MemberStatus
  passwordHash : Option String
  providers : List LinkedProvider
  deriving DecidableEq, Repr

/-- The providers linked to an account. -/
def linkedProviders (directory : Directory) (userId : Nat) : List LinkedProvider :=
  (directory.socialIdentities.select fun row => row.userId = userId).map SocialIdentity.provider

/-- The account of a user row, when its workspace still stands. -/
def resetAccount (directory : Directory) (row : User) : Option ResetAccount := do
  let workspace ← directory.organizations.find row.organizationId
  if workspace.deletedAt = none then
    some { id := row.id, organizationId := row.organizationId, workspaceName := workspace.name
           name := row.name, status := row.status, passwordHash := row.passwordHash
           providers := linkedProviders directory row.id }
  else none

/-- Every account an address holds in one audience, oldest first. -/
def findResetAccounts (directory : Directory) (email : String) (persona : Persona) (limit : Nat) :
    List ResetAccount :=
  let rows := directory.users.select fun row =>
    citext row.email = citext email ∧ row.persona = persona ∧ row.deletedAt = none
  let ordered := rows.insertionSort fun left right =>
    left.createdAt < right.createdAt ∨ left.createdAt = right.createdAt ∧ left.id ≤ right.id
  (ordered.filterMap (resetAccount directory)).take limit

/-- Why an account gets no link, the most useful to hear first. -/
inductive ResetBlocker where
  | socialOnly | unconfirmed | invited | suspended
  deriving DecidableEq, Repr

def BLOCKERS_BY_USEFULNESS : List ResetBlocker := [.socialOnly, .unconfirmed, .invited, .suspended]

/-- The status is asked first. -/
def blockerOf (account : ResetAccount) : Option ResetBlocker :=
  match account.status with
  | .unconfirmed => some .unconfirmed
  | .invited => some .invited
  | .suspended => some .suspended
  | .active => if account.passwordHash = none then some .socialOnly else none

def PROVIDER_LABEL : LinkedProvider → String
  | .google => "Google"
  | .apple => "Apple"
  | .linkedin => "LinkedIn"

/-- "A", "A or B", "A, B or C". -/
def orList (items : List String) : String :=
  if items.length < 2 then String.join items
  else String.intercalate ", " items.dropLast ++ " or " ++ items.getLastD ""

/-- The providers the person can actually use, in a fixed order. -/
def providersOfSocialOnly (accounts : List ResetAccount) : List LinkedProvider :=
  let linked := (accounts.filter fun account => blockerOf account = some .socialOnly).flatMap
    ResetAccount.providers
  [.google, .apple, .linkedin].filter fun provider => provider ∈ linked

def socialOnlyRefusal (providers : List LinkedProvider) : String :=
  if providers = [] then NO_PASSWORD_NO_PROVIDER
  else
    let names := providers.map PROVIDER_LABEL
    let buttons := names.map fun name => "“Continue with " ++ name ++ "”"
    "That account signs in with " ++ orList names ++ ", so it has no password to reset. Use " ++
      orList buttons ++ " instead."

/-- Precondition: at least one account, and none of them resettable. -/
def refusalFor (accounts : List ResetAccount) : String :=
  match BLOCKERS_BY_USEFULNESS.find? fun blocker => blocker ∈ accounts.filterMap blockerOf with
  | some .socialOnly => socialOnlyRefusal (providersOfSocialOnly accounts)
  | some .unconfirmed =>
    "That account has not been confirmed yet, so there is no sign-in for a password to unlock. Open the confirmation link emailed when it was created — signing in sends a fresh one."
  | some .invited =>
    "That invitation has not been accepted yet. Open the invitation email to finish setting the account up, and choose a password there."
  | some .suspended =>
    "That account is suspended, so resetting its password would not let it back in. Ask a workspace admin to reactivate it."
  | none => ""

/-- An account a reset link can actually help. -/
structure ResettableAccount where
  id : Nat
  organizationId : Nat
  workspaceName : String
  name : String
  passwordHash : String
  deriving DecidableEq, Repr

def resettable (account : ResetAccount) : Option ResettableAccount := do
  let passwordHash ← account.passwordHash
  if blockerOf account = none then
    some { id := account.id, organizationId := account.organizationId
           workspaceName := account.workspaceName, name := account.name, passwordHash }
  else none

def AUDIENCE : Persona → String
  | .admin => "organizer"
  | .attendee => "attendee"

def noSuchAccount (persona : Persona) : String :=
  let other := if persona = .admin then "attendee" else "organizer"
  "No " ++ AUDIENCE persona ++ " account uses that email address. Check the spelling, try your "
    ++ other ++ " account, or create one."

/-- An attendee's only realm is the platform, which it would only puzzle them to name. -/
def workspaceNamed (workspaceName : String) (audience : Persona) : Option String :=
  if audience = .admin then some workspaceName else none

/-- Sign a link for the password the account was read with, and mail it. -/
def sendResetLink (crypto : PasswordCrypto) (desk : PasswordDesk) (account : ResettableAccount)
    (email : String) (audience : Persona) : PasswordDesk :=
  { desk with
    links := desk.links.insert fun id =>
      { id, sub := account.id, org := account.organizationId
        pv := crypto.passwordFingerprint account.passwordHash
        exp := desk.clock / 1000 + PASSWORD_RESET_TTL_SECONDS }
    outbox := desk.outbox ++ [.resetRequested account.organizationId account.id account.name email
      (workspaceNamed account.workspaceName audience) desk.links.next desk.clock] }

/-! ## Setting a password -/

/-- The account a reset link was signed for, with the password it has now. -/
structure LinkedAccount where
  id : Nat
  organizationId : Nat
  persona : Persona
  workspaceName : String
  passwordHash : String
  deriving DecidableEq, Repr

/-- The user row both ids name, unless it was deleted. -/
def findLiveUser (directory : Directory) (organizationId userId : Nat) : Option User := do
  let row ← directory.users.find userId
  if row.organizationId = organizationId ∧ row.deletedAt = none then some row else none

/-- The account a link names, in the workspace the link names, as far as it has a password. -/
def findResetLinkAccount (directory : Directory) (organizationId userId : Nat) :
    Option LinkedAccount := do
  let row ← findLiveUser directory organizationId userId
  let workspace ← directory.organizations.find row.organizationId
  let passwordHash ← row.passwordHash
  some { id := row.id, organizationId := row.organizationId, persona := row.persona
         workspaceName := workspace.name, passwordHash }

/-- The claims of a token of ours that has not expired. -/
def verifyPasswordReset (desk : PasswordDesk) (token : Nat) : Option ResetLink := do
  let claims ← desk.links.find token
  if desk.clock / 1000 < claims.exp then some claims else none

/-- The one answer to "is this link still good". -/
def accountOfGoodLink (crypto : PasswordCrypto) (desk : PasswordDesk) (token : Nat) :
    Option LinkedAccount := do
  let claims ← verifyPasswordReset desk token
  let account ← findResetLinkAccount desk.directory claims.org claims.sub
  if crypto.passwordFingerprint account.passwordHash = claims.pv then some account else none

@[reducible] def withPassword (passwordHash : String) (row : User) : User :=
  { row with passwordHash := some passwordHash }

@[reducible] def revokedSession (now : Instant) (row : AuthSession) : AuthSession :=
  { row with revokedAt := some now }

/-- The sessions a password change signs out: the account's live ones but the one kept. -/
def SignsOut (organizationId userId : Nat) (keepSessionId : Option Nat) (now : Instant)
    (row : AuthSession) : Prop :=
  row.userId = userId ∧ row.organizationId = organizationId ∧ row.revokedAt = none ∧
    now < row.expiresAt ∧ keepSessionId ≠ some row.id

instance (organizationId userId : Nat) (keepSessionId : Option Nat) (now : Instant) :
    DecidablePred (SignsOut organizationId userId keepSessionId now) :=
  fun _ => inferInstanceAs (Decidable (_ ∧ _ ∧ _ ∧ _ ∧ _))

/-- Set a new password, whatever the old one has become, and sign out the sessions. -/
def setPassword (directory : Directory) (organizationId userId : Nat) (passwordHash : String)
    (keepSessionId : Option Nat) (now : Instant) : Directory :=
  { directory with
    users := directory.users.update
      (fun row => row.id = userId ∧ row.organizationId = organizationId) (withPassword passwordHash)
    sessions := directory.sessions.update (SignsOut organizationId userId keepSessionId now)
      (revokedSession now) }

/-- The user row an unconfirmed attendee is taken over in. -/
def Unproven (userId organizationId : Nat) (row : User) : Prop :=
  row.id = userId ∧ row.organizationId = organizationId ∧ row.persona = .attendee ∧
    row.status = .unconfirmed ∧ row.deletedAt = none

instance (userId organizationId : Nat) : DecidablePred (Unproven userId organizationId) :=
  fun _ => inferInstanceAs (Decidable (_ ∧ _ ∧ _ ∧ _ ∧ _))

@[reducible] def takenOver (name passwordHash : String) (row : User) : User :=
  { row with name, passwordHash := some passwordHash, status := .active }

/-- Every session of the account, live or lapsed, is revoked with it. -/
def supersedeUnconfirmedAttendee (directory : Directory) (userId : Nat) (name passwordHash : String)
    (now : Instant) : Option Directory := do
  let organizationId ← directory.platformOrganizationId
  if directory.users.select (Unproven userId organizationId) = [] then none
  else some { directory with
    users := directory.users.update (Unproven userId organizationId) (takenOver name passwordHash)
    sessions := directory.sessions.update
      (fun row => row.userId = userId ∧ row.organizationId = organizationId ∧ row.revokedAt = none)
      (revokedSession now) }

/-! ## The calls -/

inductive PasswordRequest where
  | forgot (email : String) (persona : Option Persona)
  | reset (token : Nat) (newPassword : String)
  | check (token : Nat)
  | change (actor : AuthContext) (currentPassword newPassword : String)
  /-- With the membership its token names, when the token verifies. -/
  | acceptInvite (mid : Option Nat) (password : String)
  /-- A booking's buyer claims the unconfirmed account of their address. -/
  | supersede (userId : Nat) (name password : String)
  deriving DecidableEq, Repr

inductive PasswordReply where
  | message (text : String)
  | goodLink (persona : Persona) (workspaceName : Option String)
  | accepted (userId : Nat) (email : String)
  | superseded
  | thrown (exception : DomainException)
  | crashed
  deriving DecidableEq, Repr

/-- What a call does next, with what its checks read. -/
inductive PasswordPhase where
  | load (request : PasswordRequest)
  | find (email : String) (audience : Persona)
  | send (accounts : List ResettableAccount) (email : String) (audience : Persona)
  | reset (token organizationId userId : Nat) (newPassword : String)
  | change (actor : AuthContext) (name email newPassword : String)
  | activate (userId membershipId : Nat) (email password : String)
  | supersede (userId : Nat) (name password : String)
  | done (reply : PasswordReply)
  deriving DecidableEq, Repr

section Calls

variable (crypto : PasswordCrypto)

/-- The checks of `reset`, up to its write. -/
def loadReset (desk : PasswordDesk) (token : Nat) (newPassword : String) : PasswordPhase :=
  match accountOfGoodLink crypto desk token with
  | none => .done (.thrown (.validation INVALID_LINK))
  | some account =>
    if crypto.verify account.passwordHash newPassword then
      .done (.thrown (.validation REUSED_PASSWORD))
    else .reset token account.organizationId account.id newPassword

def checkLink (desk : PasswordDesk) (token : Nat) : PasswordReply :=
  match accountOfGoodLink crypto desk token with
  | none => .thrown (.validation INVALID_LINK)
  | some account =>
    .goodLink account.persona (workspaceNamed account.workspaceName account.persona)

/-- The checks of `change`, up to its write. -/
def loadChange (desk : PasswordDesk) (actor : AuthContext) (currentPassword newPassword : String) :
    PasswordPhase :=
  match findLiveUser desk.directory actor.organizationId actor.userId with
  | none => .done (.thrown (.forbidden WRONG_CURRENT))
  | some row =>
    match row.passwordHash with
    | none => .done (.thrown (.forbidden WRONG_CURRENT))
    | some hash =>
      if ¬ crypto.verify hash currentPassword then .done (.thrown (.forbidden WRONG_CURRENT))
      else if crypto.verify hash newPassword then .done (.thrown (.validation REUSED))
      else .change actor row.name row.email newPassword

def loadInvite (desk : PasswordDesk) (mid : Option Nat) (password : String) : PasswordPhase :=
  match mid with
  | none => .done (.thrown invalidToken)
  | some membershipId =>
    match findInvitedMembership desk.directory membershipId with
    | none => .done (.thrown invalidToken)
    | some target => .activate target.userId membershipId target.email password

/-- The first step of each call; the throttle may refuse a `forgot`. -/
def loadPassword (desk : PasswordDesk) (locked : Option DomainException) :
    PasswordRequest → PasswordPhase
  | .forgot email persona =>
    match locked with
    | some exception => .done (.thrown exception)
    | none => .find email (persona.getD .admin)
  | .reset token newPassword => loadReset crypto desk token newPassword
  | .check token => .done (checkLink crypto desk token)
  | .change actor currentPassword newPassword =>
    loadChange crypto desk actor currentPassword newPassword
  | .acceptInvite mid password => loadInvite desk mid password
  | .supersede userId name password => .supersede userId name password

def afterFindAccounts (accounts : List ResetAccount) (email : String) (audience : Persona) :
    PasswordPhase :=
  if accounts = [] then .done (.thrown (.notFound (noSuchAccount audience)))
  else
    -- Every account that can use a link gets one.
    let usable := accounts.filterMap resettable
    if usable = [] then .done (.thrown (.validation (refusalFor accounts)))
    else .send usable email audience

/-- One read, one link, or one committed transaction; a write hashes the new password first. -/
def actOnPassword (desk : PasswordDesk) (locked : Option DomainException) :
    PasswordPhase → PasswordDesk × PasswordPhase
  | .load request => (desk, loadPassword crypto desk locked request)
  | .find email audience =>
    (desk, afterFindAccounts (findResetAccounts desk.directory email audience MAX_RESET_ACCOUNTS) email
      audience)
  | .send [] _ _ => (desk, .done (.message LINK_ON_ITS_WAY))
  | .send (account :: rest) email audience =>
    (sendResetLink crypto desk account email audience, .send rest email audience)
  | .reset _ organizationId userId newPassword =>
    ({ desk with
        directory := setPassword desk.directory organizationId userId
          (crypto.hash newPassword desk.salts) none desk.clock
        salts := desk.salts + 1 },
      .done (.message RESET_DONE))
  | .change actor name email newPassword =>
    let revoked := desk.directory.sessions.select
      (SignsOut actor.organizationId actor.userId (some actor.sessionId) desk.clock)
    ({ desk with
        directory := setPassword desk.directory actor.organizationId actor.userId
          (crypto.hash newPassword desk.salts) (some actor.sessionId) desk.clock
        outbox := desk.outbox ++ [.changed actor.organizationId actor.userId name email
          revoked.length desk.clock]
        salts := desk.salts + 1 },
      .done (.message CHANGED))
  | .activate userId membershipId email password =>
    ({ desk with
        directory := activateInvite desk.directory userId membershipId
          (crypto.hash password desk.salts)
        salts := desk.salts + 1 },
      .done (.accepted userId email))
  | .supersede userId name password =>
    match supersedeUnconfirmedAttendee desk.directory userId name
      (crypto.hash password desk.salts) desk.clock with
    | some directory =>
      ({ desk with directory, salts := desk.salts + 1 }, .done .superseded)
    | none => ({ desk with salts := desk.salts + 1 }, .done (.thrown (.conflict SIGN_IN_INSTEAD)))
  | .done reply => (desk, .done reply)

end Calls

/-- What else the calls depend on. -/
inductive PasswordEvent where
  | tick (now : Instant)
  /-- An account is deleted; its row stays. -/
  | scheduleDeletion (organizationId userId : Nat)
  | suspend (userId : Nat)
  deriving DecidableEq, Repr

@[reducible] def deletedUser (now : Instant) (row : User) : User := { row with deletedAt := some now }

@[reducible] def suspendedUser (row : User) : User := { row with status := .suspended }

def applyPasswordEvent (desk : PasswordDesk) : PasswordEvent → PasswordDesk
  | .tick now => { desk with clock := max desk.clock now }
  | .scheduleDeletion organizationId userId =>
    { desk with directory := { desk.directory with
        users := desk.directory.users.update
          (fun row => row.id = userId ∧ row.organizationId = organizationId ∧ row.deletedAt = none)
          (deletedUser desk.clock) } }
  | .suspend userId =>
    { desk with directory := { desk.directory with
        users := desk.directory.users.update (fun row => row.id = userId) suspendedUser } }

/-- Calls that ask for links, use them or set passwords, any number of them at once. -/
def passwords (crypto : PasswordCrypto) :
    Handler PasswordDesk PasswordPhase PasswordRequest (Option DomainException) PasswordEvent where
  opened := .load
  act := actOnPassword crypto
  outside := applyPasswordEvent
  crashed := .done .crashed

end EventaApi.Source
