import EventaApi.Source.Access
import EventaApi.Source.BookingClaims
import EventaApi.Source.TwoFactor

/-!
# Signing in, and staying signed in

`AuthService.login`, `TwoFactorSignInService.complete` and `AuthSocialService.signIn` open
sessions and sign tokens for them. `JwtStrategy.validate` admits a request by its access token,
`AuthService.refresh` trades a refresh token for an access token, and `AuthSessionsService` and
`logout` end sessions. Nothing holds a call's reads and writes together.
-/
namespace EventaApi.Source
open Library

def PLATFORM_ORG_SLUG : String := "eventa"
def MAX_LOGIN_CANDIDATES : Nat := 10
def TWO_FACTOR_CHALLENGE_TTL_SECONDS : Nat := 5 * 60
def EMAIL_VERIFICATION_TTL_SECONDS : Nat := 24 * 60 * 60

/-! ## Tokens -/

inductive TokenTyp where
  | access | refresh | twofa | invite | verify_email | change_email | reset_password | booking_claim
  deriving DecidableEq, Repr

/-- What a token of ours says: every kind is signed with the one secret, and carries the claims
of its own kind. -/
structure TokenClaims where
  typ : TokenTyp
  sub : Nat
  org : Option Nat := none
  sid : Option Nat := none
  persona : Option Persona := none
  rem : Bool := false
  deriving DecidableEq, Repr

structure SignedToken where
  id : Nat
  claims : TokenClaims
  /-- In seconds. -/
  exp : Nat
  deriving DecidableEq, Repr

instance : Keyed SignedToken := ⟨SignedToken.id⟩

/-- How long tokens last, in seconds. -/
structure TokenConfig where
  accessTtlSeconds : Nat
  refreshTtlSeconds : Nat
  /-- The refresh window when nobody asked to be remembered. -/
  refreshTtlShortSeconds : Nat

/-- Whom a session's tokens are for. -/
structure TokenSubject where
  userId : Nat
  organizationId : Nat
  sessionId : Nat
  persona : Persona
  deriving DecidableEq, Repr

def sessionClaims (typ : TokenTyp) (subject : TokenSubject) : TokenClaims where
  typ := typ
  sub := subject.userId
  org := some subject.organizationId
  sid := some subject.sessionId
  persona := some subject.persona

def challengeClaims (user : User) (rememberMe : Bool) : TokenClaims where
  typ := .twofa
  sub := user.id
  org := some user.organizationId
  persona := some user.persona
  rem := rememberMe

/-! ## The desk -/

/-- A sign-in whose workspace has been resolved. -/
structure LoginUser where
  user : User
  org : OrganizationRow
  deriving DecidableEq, Repr

structure VerifiedIdentity where
  subject : String
  email : String
  emailVerified : Bool
  name : Option String
  deriving DecidableEq, Repr

/-- What a session was opened on. -/
inductive Grounds where
  | password
  /-- A code, for the challenge of that token. -/
  | code (challenge : Nat)
  | provider (provider : LinkedProvider) (subject : String)
  /-- A booking's link, opened by whoever reads the booking's inbox. -/
  | claimLink
  deriving DecidableEq, Repr

/-- What passed for an account's second factor. -/
inductive CodeProof where
  | app (row : TwoFactor) (code : String) (moment : Instant)
  | recovery (row : TwoFactor) (spent : RecoveryCode) (code : String)
  deriving DecidableEq, Repr

/-- What has been shown, signed and opened. -/
inductive SignInEvent where
  /-- The password sent fits the account, as it was read. -/
  | passwordMatched (user : User) (password : String)
  | challengeSigned (token : Nat) (user : User) (moment : Instant)
  /-- A challenge came back before it expired. -/
  | challengePresented (token : Nat) (moment : Instant)
  | codeAccepted (token userId : Nat) (proof : CodeProof)
  | identityVerified (provider : LinkedProvider) (identity : VerifiedIdentity)
  /-- The account a verified identity is linked to, or was just linked to. -/
  | accountResolved (provider : LinkedProvider) (subject : String) (userId : Nat)
  | sessionOpened (session : AuthSession) (grounds : Grounds)
  deriving DecidableEq, Repr

structure SignInDesk where
  directory : Directory
  /-- The workspaces' slugs. -/
  slugs : Nat → String
  /-- Whom each link of `socialIdentities` names at its provider. -/
  subjects : Nat → String
  twoFactors : Table TwoFactor
  recoveryCodes : Table RecoveryCode
  /-- The tokens that were signed; a token that is none of them does not verify. -/
  tokens : Table SignedToken
  clock : Instant
  /-- What has been done, the latest first. -/
  history : List SignInEvent

/-- The desk as two-factor sees it. -/
def SignInDesk.twoFactor (desk : SignInDesk) : TwoFactorDesk where
  users := desk.directory.users
  twoFactors := desk.twoFactors
  recoveryCodes := desk.recoveryCodes
  outbox := []
  clock := desk.clock

def SignInDesk.record (desk : SignInDesk) (event : SignInEvent) : SignInDesk :=
  { desk with history := event :: desk.history }

def signAsync (desk : SignInDesk) (claims : TokenClaims) (expiresIn : Nat) : SignInDesk :=
  { desk with
    tokens := desk.tokens.insert fun id => { id, claims, exp := desk.clock / 1000 + expiresIn } }

/-- The claims of a token of ours that has not expired. -/
def verifyAsync (desk : SignInDesk) (token : Nat) : Option TokenClaims := do
  let signed ← desk.tokens.find token
  if desk.clock / 1000 < signed.exp then some signed.claims else none

/-- As `verifyAsync`, of one kind only. -/
def verifyTyp (desk : SignInDesk) (typ : TokenTyp) (token : Nat) : Option TokenClaims :=
  (verifyAsync desk token).filter fun claims => claims.typ = typ

/-! ## Accounts -/

/-- A live account of an audience on an address. -/
def IsOnAddress (email : String) (persona : Persona) (user : User) : Prop :=
  citext user.email = citext email ∧ user.persona = persona ∧ user.deletedAt = none

instance (email : String) (persona : Persona) : DecidablePred (IsOnAddress email persona) :=
  fun _ => inferInstanceAs (Decidable (_ ∧ _ ∧ _))

/-- The user with its workspace. -/
def withOrganization (directory : Directory) (user : User) : Option LoginUser :=
  (directory.organizations.find user.organizationId).map fun org => { user, org }

def accountsOn (directory : Directory) (email : String) (persona : Persona) : List LoginUser :=
  (directory.users.select (IsOnAddress email persona)).filterMap (withOrganization directory)

/-- The sign-in candidate for a workspace, an address and an audience. -/
def findLoginUser (desk : SignInDesk) (orgSlug email : String) (persona : Persona) :
    Option LoginUser :=
  (accountsOn desk.directory email persona).find? fun found => desk.slugs found.org.id = orgSlug

/-- Every candidate on an address, across the workspaces that stand. -/
def findLoginCandidates (desk : SignInDesk) (email : String) (persona : Persona) (limit : Nat) :
    List LoginUser :=
  ((accountsOn desk.directory email persona).filter fun found => found.org.deletedAt = none).take
    limit

/-- A user that was not deleted, with its workspace. -/
def findProfile (directory : Directory) (userId : Nat) : Option LoginUser := do
  let user ← directory.users.find userId
  if user.deletedAt = none then withOrganization directory user else none

/-! ## Calls -/

structure LoginInput where
  email : String
  password : String
  orgSlug : Option String
  persona : Option Persona
  rememberMe : Option Bool
  deriving DecidableEq, Repr

structure SocialSignInInput where
  provider : LinkedProvider
  idToken : String
  audience : Persona
  orgSlug : Option String
  error : Option String
  rememberMe : Option Bool
  deriving DecidableEq, Repr

/-- What a request does once its token admits it. -/
inductive SessionCall where
  | logout
  | revoke (sessionId : Nat)
  | revokeOthers
  | list
  /-- Any other request of the API. -/
  | other
  deriving DecidableEq, Repr

inductive SignInRequest where
  | login (input : LoginInput)
  | complete (challengeToken : Nat) (code : String)
  | social (input : SocialSignInInput)
  | refresh (refreshToken : Nat)
  | authenticated (accessToken : Nat) (call : SessionCall)
  deriving DecidableEq, Repr

inductive SignInRefusal where
  | attendeeWorkspace | invalidCredentials | emailNotConfirmed | invitationPending
  | accountSuspended | challengeExpired | cannotSignIn | badCode
  | cancelled | noToken | providerUnavailable (provider : LinkedProvider) | workspaceRequired
  | unverifiedIdentity | unverifiedEmail (provider : LinkedProvider) | workspaceMissing
  | wrongAudience | invalidToken | invalidTokenType | sessionOver | currentSession | sessionGone
  /-- The throttle's answer. -/
  | locked (exception : DomainException)
  deriving DecidableEq, Repr

/-- A provider's name, as the source spells it. -/
def LinkedProvider.text : LinkedProvider → String
  | .google => "google"
  | .apple => "apple"
  | .linkedin => "linkedin"

namespace SignInRefusal

def code : SignInRefusal → String
  | attendeeWorkspace | providerUnavailable _ | workspaceRequired | unverifiedEmail _
  | currentSession => "VALIDATION_ERROR"
  | emailNotConfirmed | invitationPending => "EMAIL_NOT_CONFIRMED"
  | accountSuspended => "ACCOUNT_SUSPENDED"
  | cannotSignIn => "FORBIDDEN"
  | workspaceMissing | sessionGone => "NOT_FOUND"
  | locked _ => "RATE_LIMITED"
  | _ => "UNAUTHORIZED"

def message : SignInRefusal → String
  | attendeeWorkspace => "Attendee sign-in doesn't take a workspace — leave orgSlug out."
  | invalidCredentials => "Invalid email or password"
  | emailNotConfirmed => "Please confirm your email — we’ve sent you a fresh link."
  | invitationPending => "Open the invitation we emailed you to finish setting up your account."
  | accountSuspended => "Your access has been suspended."
  | challengeExpired => "Your sign-in challenge expired — please sign in again."
  | cannotSignIn => "This account cannot sign in."
  | badCode => "That code didn't work. Try the next one, or a recovery code."
  | cancelled => "Sign-in was cancelled."
  | noToken => "No sign-in token was supplied."
  | providerUnavailable provider => provider.text ++ " sign-in is not available here."
  | workspaceRequired => "An attendee sign-in must say which workspace it is for."
  | unverifiedIdentity => "We could not verify that sign-in. Please try again."
  | unverifiedEmail provider => provider.text ++ " has not confirmed that email address."
  | workspaceMissing => "That workspace does not exist."
  | wrongAudience => "That account cannot sign in here."
  | invalidToken => "Invalid or expired token"
  | invalidTokenType => "Invalid token type"
  | sessionOver => "Session expired or revoked"
  | currentSession => "This is the device you are using — sign out instead."
  | sessionGone => "That session is no longer active."
  | locked exception => exception.message

end SignInRefusal

inductive SignInReply where
  | signedIn (accessToken refreshToken userId : Nat)
  | twoFactorRequired (challengeToken : Nat)
  /-- The slugs and names of the workspaces the password fits. -/
  | chooseWorkspace (workspaces : List (String × String))
  | refreshed (accessToken : Nat)
  | admitted (auth : AuthContext)
  | signedOut
  | revoked (count : Nat)
  | sessions (live : List AuthSession)
  | refused (refusal : SignInRefusal)
  | crashed
  deriving DecidableEq, Repr

/-- The step a call is at, with what it has read. -/
inductive SignInPhase where
  | begin (request : SignInRequest)
  /-- The workspace named, if one was, and the accounts to compare the password with. -/
  | compare (input : LoginInput) (realm : Option String)
  | resendVerification (found : LoginUser)
  | challenge (found : LoginUser) (rememberMe : Bool)
  | requireAccount (token : Nat) (claims : TokenClaims) (code : String)
  | verifyCode (token : Nat) (found : LoginUser) (claims : TokenClaims) (code : String)
  | spendCode (token : Nat) (found : LoginUser) (claims : TokenClaims) (row : TwoFactor)
      (code : String)
  | findBySubject (input : SocialSignInInput) (identity : VerifiedIdentity)
  | findUserByEmail (input : SocialSignInInput) (identity : VerifiedIdentity)
  | createAccount (input : SocialSignInInput) (identity : VerifiedIdentity)
  | activateEmail (input : SocialSignInInput) (identity : VerifiedIdentity) (userId : Nat)
  | link (input : SocialSignInInput) (identity : VerifiedIdentity) (userId : Nat)
  | loadEligible (input : SocialSignInInput) (subject : String) (userId : Nat)
  | openSession (found : LoginUser) (rememberMe : Bool) (grounds : Grounds)
  | issueTokens (subject : TokenSubject) (refreshTtl : Nat)
  | assertSessionLive (claims : TokenClaims)
  | signAccess (claims : TokenClaims)
  | isSessionLive (claims : TokenClaims) (call : SessionCall)
  | logout (auth : AuthContext)
  | revokeOwn (auth : AuthContext) (sessionId : Nat)
  | revokeOthers (auth : AuthContext)
  | listLive (auth : AuthContext)
  | done (reply : SignInReply)
  deriving DecidableEq, Repr

def SignInPhase.refuse (refusal : SignInRefusal) : SignInPhase := .done (.refused refusal)

/-- What a step takes from outside. -/
structure SignInAnswers where
  /-- The sign-in throttle's refusal, if the identity is locked out. -/
  locked : Option DomainException
  /-- What the provider's token says, if it verifies. -/
  identity : Option VerifiedIdentity
  /-- The slug and the owner's role of a workspace that is made. -/
  slug : String
  ownerRole : Nat

section Calls

-- Argon2id's comparison, the second factor's codes, and how long tokens last.
variable (verifyPassword : (hashed plain : String) → Bool) (crypto : TwoFactorCrypto)
  (config : TokenConfig)

/-! ### By password -/

/-- Which workspace a sign-in is for; an attendee has exactly one, and names none. -/
def resolveRealm (input : LoginInput) : Except SignInRefusal (Option String) :=
  if input.persona.getD .admin = .attendee then
    if input.orgSlug.any fun slug => slug ≠ "" then .error .attendeeWorkspace
    else .ok (some PLATFORM_ORG_SLUG)
  else .ok input.orgSlug

def passwordFits (password : String) (found : LoginUser) : Bool :=
  found.user.passwordHash.any fun hashed => verifyPassword hashed password

/-- A correct password is necessary but not sufficient. -/
def afterMatch (found : LoginUser) (rememberMe : Bool) : SignInPhase :=
  match found.user.status with
  | .unconfirmed => .resendVerification found
  | .invited => .refuse .invitationPending
  | .suspended => .refuse .accountSuspended
  | .active =>
    if found.user.twoFactorEnabled then .challenge found rememberMe
    else .openSession found rememberMe .password

/-- The one account the password fits is signed in to; several make the person choose. -/
def signInTo (desk : SignInDesk) (password : String) (rememberMe : Bool) :
    List LoginUser → SignInDesk × SignInPhase
  | [] => (desk, .refuse .invalidCredentials)
  | [found] => (desk.record (.passwordMatched found.user password), afterMatch found rememberMe)
  | several =>
    (desk, .done (.chooseWorkspace (several.map fun found =>
      (desk.slugs found.org.id, found.org.name))))

/-- The accounts to compare the password with. -/
def loginAccounts (desk : SignInDesk) (input : LoginInput) : Option String → List LoginUser
  | some orgSlug => (findLoginUser desk orgSlug input.email (input.persona.getD .admin)).toList
  | none =>
    findLoginCandidates desk input.email (input.persona.getD .admin) MAX_LOGIN_CANDIDATES

/-! ### By code -/

/-- The challenge's account, unless it may not sign in. -/
def requireAccount (desk : SignInDesk) (token : Nat) (claims : TokenClaims) (code : String) :
    SignInPhase :=
  match findProfile desk.directory claims.sub with
  | none => .refuse .challengeExpired
  | some found =>
    if some found.user.organizationId ≠ claims.org ∨ some found.user.persona ≠ claims.persona then
      .refuse .challengeExpired
    else if found.user.status ≠ .active then .refuse .cannotSignIn
    else .verifyCode token found claims code

def acceptCode (desk : SignInDesk) (token : Nat) (found : LoginUser) (claims : TokenClaims) :
    Option CodeProof → SignInDesk × SignInPhase
  | some proof =>
    (desk.record (.codeAccepted token claims.sub proof),
      .openSession found claims.rem (.code token))
  | none => (desk, .refuse .badCode)

/-- The app's code, or else a recovery code. -/
def verifyCode (desk : SignInDesk) (token : Nat) (found : LoginUser) (claims : TokenClaims)
    (code : String) : SignInDesk × SignInPhase :=
  match findTwoFactor desk.twoFactor claims.sub with
  | none => (desk, .refuse .badCode)
  | some row =>
    match afterVerify crypto claims.sub code desk.clock (some row) with
    | .done (.verified true) => acceptCode desk token found claims (some (.app row code desk.clock))
    | .spend _ row code => (desk, .spendCode token found claims row code)
    | _ => (desk, .refuse .badCode)

/-- A recovery code passes once. -/
def spendCode (desk : SignInDesk) (token : Nat) (found : LoginUser) (claims : TokenClaims)
    (row : TwoFactor) (code : String) : SignInDesk × SignInPhase :=
  let spent := (desk.recoveryCodes.select (Spendable row.id (crypto.hashCode code))).head?
  let after := (consumeRecoveryCode desk.twoFactor row.id (crypto.hashCode code)).1
  acceptCode { desk with recoveryCodes := after.recoveryCodes } token found claims
    (spent.map fun spent => .recovery row spent code)

/-! ### By a provider -/

/-- Which providers each audience may use. -/
def PROVIDERS_BY_AUDIENCE : Persona → List LinkedProvider
  | .admin => [.google, .linkedin]
  | .attendee => [.google, .apple]

/-- What is refused before the provider is asked. -/
def socialRefusal (input : SocialSignInInput) : Option SignInRefusal :=
  if input.error.any fun error => error ≠ "" then some .cancelled
  else if input.idToken = "" then some .noToken
  else if input.provider ∉ PROVIDERS_BY_AUDIENCE input.audience then
    some (.providerUnavailable input.provider)
  else if input.audience = .attendee ∧ ¬ (input.orgSlug.any fun slug => slug ≠ "") then
    some .workspaceRequired
  else none

def beginSocial (desk : SignInDesk) (answers : SignInAnswers) (input : SocialSignInInput) :
    SignInDesk × SignInPhase :=
  match socialRefusal input with
  | some refusal => (desk, .refuse refusal)
  | none =>
    match answers.identity with
    | none => (desk, .refuse .unverifiedIdentity)
    | some identity =>
      if identity.emailVerified then
        (desk.record (.identityVerified input.provider identity), .findBySubject input identity)
      else (desk, .refuse (.unverifiedEmail input.provider))

/-- The account linked to this provider's subject. -/
def findBySubject (desk : SignInDesk) (provider : LinkedProvider) (subject : String) :
    Option SocialIdentity :=
  (desk.directory.socialIdentities.select fun row =>
    row.provider = provider ∧ desk.subjects row.id = subject).head?

/-- An existing account for the address, in the workspace if one is named. -/
def findUserByEmail (desk : SignInDesk) (email : String) (persona : Persona)
    (orgSlug : Option String) : Option LoginUser :=
  (accountsOn desk.directory email persona).find? fun found =>
    (orgSlug.filter (· ≠ "")).all fun slug => desk.slugs found.org.id = slug

@[reducible] def socialUser (organizationId : Nat) (name email : String) (persona : Persona)
    (status : MemberStatus) (now : Instant) (id : Nat) : User where
  id := id
  organizationId := organizationId
  name := name
  email := email
  persona := persona
  status := status
  passwordHash := none
  createdAt := now

/-- The part of the address before the at sign. -/
def localPart (email : String) : String := String.ofList (email.toList.takeWhile (· ≠ '@'))

/-- An attendee joins a workspace that stands; an address has one account there. -/
def createAttendee (desk : SignInDesk) (orgSlug name email : String) :
    Except SignInPhase SignInDesk :=
  match (desk.directory.organizations.select fun row =>
      desk.slugs row.id = orgSlug ∧ row.deletedAt = none).head? with
  | none => .error (.refuse .workspaceMissing)
  | some org =>
    if ∃ user ∈ desk.directory.users.rows, IsAttendeeOf org.id email user then
      .error (.done .crashed)
    else .ok { desk with directory := { desk.directory with
      users := desk.directory.users.insert
        (socialUser org.id name email .attendee .active desk.clock) } }

/-- An organizer gets a workspace of their own, and is its owner. -/
def createWorkspace (desk : SignInDesk) (answers : SignInAnswers) (name email : String) :
    SignInDesk :=
  let organizationId := desk.directory.organizations.next
  { desk with
    slugs := Function.update desk.slugs organizationId answers.slug
    directory := { desk.directory with
      organizations := desk.directory.organizations.insert fun id =>
        { id, name := name ++ "’s Workspace" }
      users := desk.directory.users.insert
        (socialUser organizationId name email .admin .unconfirmed desk.clock)
      memberships := desk.directory.memberships.insert fun id =>
        { id, organizationId, userId := desk.directory.users.next, roleId := answers.ownerRole
          status := .active } } }

/-- The provider has already proven the address, so the account is created already confirmed. -/
def createAccount (desk : SignInDesk) (answers : SignInAnswers) (input : SocialSignInInput)
    (identity : VerifiedIdentity) : SignInDesk × SignInPhase :=
  let name := identity.name.getD (localPart identity.email)
  let userId := desk.directory.users.next
  match input.audience with
  | .attendee =>
    match createAttendee desk (input.orgSlug.getD "") name identity.email with
    | .error phase => (desk, phase)
    | .ok desk => (desk, .link input identity userId)
  | .admin =>
    (createWorkspace desk answers name identity.email, .activateEmail input identity userId)

@[reducible] def activatedUser (row : User) : User := { row with status := .active }

/-- An account that waits for its address to be proven is active from now on. -/
def activateEmail (desk : SignInDesk) (userId : Nat) : SignInDesk :=
  { desk with directory := { desk.directory with
    users := desk.directory.users.update
      (fun row => row.id = userId ∧ row.status = .unconfirmed ∧ row.deletedAt = none)
      activatedUser } }

/-- Record the link: a user has one a provider, renewed in place, and a subject is one user's. -/
def linkIdentity (desk : SignInDesk) (provider : LinkedProvider) (subject : String)
    (userId : Nat) : Option SignInDesk :=
  let links := desk.directory.socialIdentities
  let mine := (links.select fun row => row.userId = userId ∧ row.provider = provider).head?
  if ∃ row ∈ links.rows, row.provider = provider ∧ desk.subjects row.id = subject ∧
      mine ≠ some row then none
  else
    match mine with
    | some row => some { desk with subjects := Function.update desk.subjects row.id subject }
    | none =>
      some { desk with
        subjects := Function.update desk.subjects links.next subject
        directory := { desk.directory with
          socialIdentities := links.insert fun id => { id, userId, provider } } }

def afterLink (desk : SignInDesk) (input : SocialSignInInput) (identity : VerifiedIdentity)
    (userId : Nat) : Option SignInDesk → SignInDesk × SignInPhase
  | none => (desk, .done .crashed)
  | some linked =>
    (linked.record (.accountResolved input.provider identity.subject userId),
      .loadEligible input identity.subject userId)

/-- The account must exist, belong to the audience in play and not be suspended. -/
def loadEligible (desk : SignInDesk) (input : SocialSignInInput) (subject : String)
    (userId : Nat) : SignInPhase :=
  match findProfile desk.directory userId with
  | none => .refuse .wrongAudience
  | some found =>
    if found.user.persona ≠ input.audience then .refuse .wrongAudience
    else if found.user.status = .suspended then .refuse .accountSuspended
    else .openSession found (input.rememberMe.getD false) (.provider input.provider subject)

/-! ### Sessions -/

def refreshTtlFor (rememberMe : Bool) : Nat :=
  if rememberMe then config.refreshTtlSeconds else config.refreshTtlShortSeconds

def sessionSubject (found : LoginUser) (sessionId : Nat) : TokenSubject where
  userId := found.user.id
  organizationId := found.user.organizationId
  sessionId := sessionId
  persona := found.user.persona

def insertSession (desk : SignInDesk) (found : LoginUser) (expiresAt : Instant)
    (grounds : Grounds) : SignInDesk :=
  { desk with
    directory := { desk.directory with
      sessions := desk.directory.sessions.insert (openedSession found.user expiresAt) }
    history :=
      .sessionOpened (openedSession found.user expiresAt desk.directory.sessions.next) grounds ::
        desk.history }

/-- A session of an account that has been authenticated: nothing here checks a credential. -/
def openSession (desk : SignInDesk) (found : LoginUser) (rememberMe : Bool) (grounds : Grounds) :
    SignInDesk × SignInPhase :=
  let refreshTtl := refreshTtlFor config rememberMe
  (insertSession desk found (desk.clock + refreshTtl * 1000) grounds,
    .issueTokens (sessionSubject found desk.directory.sessions.next) refreshTtl)

def issueTokens (desk : SignInDesk) (subject : TokenSubject) (refreshTtl : Nat) :
    SignInDesk × SignInPhase :=
  let accessToken := desk.tokens.next
  let withAccess := signAsync desk (sessionClaims .access subject) config.accessTtlSeconds
  (signAsync withAccess (sessionClaims .refresh subject) refreshTtl,
    .done (.signedIn accessToken withAccess.tokens.next subject.userId))

/-- A session that was neither ended nor outlived. -/
def IsSessionLive (now : Instant) (session : AuthSession) : Prop :=
  session.revokedAt = none ∧ now < session.expiresAt

instance (now : Instant) : DecidablePred (IsSessionLive now) :=
  fun _ => inferInstanceAs (Decidable (_ ∧ _))

/-- A refresh asks for the session by its id alone. -/
def findValidSession (desk : SignInDesk) (sessionId : Option Nat) : Option AuthSession := do
  let session ← desk.directory.sessions.find (← sessionId)
  if IsSessionLive desk.clock session then some session else none

/-- A request asks for it in the workspace the token names. -/
def sessionIsLive (desk : SignInDesk) (organizationId sessionId : Option Nat) : Bool :=
  (findValidSession desk sessionId).any fun session => some session.organizationId = organizationId

/-- The caller, as an access token names them. -/
def principalOf (claims : TokenClaims) : Option AuthContext := do
  let organizationId ← claims.org
  let sessionId ← claims.sid
  return { userId := claims.sub, organizationId, sessionId }

def afterAdmission (auth : AuthContext) : SessionCall → SignInPhase
  | .logout => .logout auth
  | .revoke sessionId =>
    if sessionId = auth.sessionId then .refuse .currentSession else .revokeOwn auth sessionId
  | .revokeOthers => .revokeOthers auth
  | .list => .listLive auth
  | .other => .done (.admitted auth)

/-- The signing-out of the sessions a call picks, of those that were not ended before. -/
def revokeWhere (desk : SignInDesk) (picked : AuthSession → Prop) [DecidablePred picked] :
    SignInDesk :=
  { desk with directory := { desk.directory with
    sessions := desk.directory.sessions.update
      (fun session => picked session ∧ session.revokedAt = none) (revokedSession desk.clock) } }

/-- Whose sessions a signed-in caller may see and end. -/
def IsOwn (auth : AuthContext) (session : AuthSession) : Prop :=
  session.organizationId = auth.organizationId ∧ session.userId = auth.userId

instance (auth : AuthContext) : DecidablePred (IsOwn auth) :=
  fun _ => inferInstanceAs (Decidable (_ ∧ _))

/-- How many sessions `revokeWhere` ends. -/
def revokedCount (desk : SignInDesk) (picked : AuthSession → Prop) [DecidablePred picked] : Nat :=
  (desk.directory.sessions.select fun session =>
    picked session ∧ session.revokedAt = none).length

def revokeOwn (desk : SignInDesk) (auth : AuthContext) (sessionId : Nat) :
    SignInDesk × SignInPhase :=
  let picked := fun session : AuthSession => session.id = sessionId ∧ IsOwn auth session
  (revokeWhere desk picked,
    if revokedCount desk picked = 0 then .refuse .sessionGone else .done .signedOut)

def revokeOthers (desk : SignInDesk) (auth : AuthContext) : SignInDesk × SignInPhase :=
  let picked := fun session : AuthSession => session.id ≠ auth.sessionId ∧ IsOwn auth session
  (revokeWhere desk picked, .done (.revoked (revokedCount desk picked)))

def listLive (desk : SignInDesk) (auth : AuthContext) : List AuthSession :=
  desk.directory.sessions.select fun session => IsOwn auth session ∧ IsSessionLive desk.clock session

/-! ### Steps -/

/-- The first step of each call: the checks that read no account and no session. -/
def beginSignIn (desk : SignInDesk) (answers : SignInAnswers) :
    SignInRequest → SignInDesk × SignInPhase
  | .login input =>
    (desk, match resolveRealm input, answers.locked with
      | .error refusal, _ => .refuse refusal
      | .ok _, some exception => .refuse (.locked exception)
      | .ok realm, none => .compare input realm)
  | .complete token code =>
    match verifyTyp desk .twofa token, answers.locked with
    | none, _ => (desk, .refuse .challengeExpired)
    | some _, some exception => (desk, .refuse (.locked exception))
    | some claims, none =>
      (desk.record (.challengePresented token desk.clock), .requireAccount token claims code)
  | .social input => beginSocial desk answers input
  | .refresh token =>
    (desk, match verifyTyp desk .refresh token with
      | none => .refuse .invalidToken
      | some claims => .assertSessionLive claims)
  | .authenticated token call =>
    (desk, match verifyAsync desk token with
      | none => .refuse .invalidToken
      | some claims =>
        if claims.typ = .access then .isSessionLive claims call else .refuse .invalidTokenType)

def actOnSignIn (desk : SignInDesk) (answers : SignInAnswers) :
    SignInPhase → SignInDesk × SignInPhase
  | .begin request => beginSignIn desk answers request
  | .compare input realm =>
    signInTo desk input.password (input.rememberMe.getD false)
      ((loginAccounts desk input realm).filter (passwordFits verifyPassword input.password))
  | .resendVerification found =>
    (signAsync desk
      { typ := .verify_email, sub := found.user.id, org := some found.user.organizationId }
      EMAIL_VERIFICATION_TTL_SECONDS, .refuse .emailNotConfirmed)
  | .challenge found rememberMe =>
    ((signAsync desk (challengeClaims found.user rememberMe)
        TWO_FACTOR_CHALLENGE_TTL_SECONDS).record
      (.challengeSigned desk.tokens.next found.user desk.clock),
      .done (.twoFactorRequired desk.tokens.next))
  | .requireAccount token claims code => (desk, requireAccount desk token claims code)
  | .verifyCode token found claims code => verifyCode crypto desk token found claims code
  | .spendCode token found claims row code => spendCode crypto desk token found claims row code
  | .findBySubject input identity =>
    match findBySubject desk input.provider identity.subject with
    | some row =>
      (desk.record (.accountResolved input.provider identity.subject row.userId),
        .loadEligible input identity.subject row.userId)
    | none => (desk, .findUserByEmail input identity)
  | .findUserByEmail input identity =>
    (desk, match findUserByEmail desk identity.email input.audience input.orgSlug with
      | some existing => .link input identity existing.user.id
      | none => .createAccount input identity)
  | .createAccount input identity => createAccount desk answers input identity
  | .activateEmail input identity userId =>
    (activateEmail desk userId, .link input identity userId)
  | .link input identity userId =>
    afterLink desk input identity userId
      (linkIdentity desk input.provider identity.subject userId)
  | .loadEligible input subject userId => (desk, loadEligible desk input subject userId)
  | .openSession found rememberMe grounds => openSession config desk found rememberMe grounds
  | .issueTokens subject refreshTtl => issueTokens config desk subject refreshTtl
  | .assertSessionLive claims =>
    (desk, if (findValidSession desk claims.sid).isSome then .signAccess claims
      else .refuse .sessionOver)
  | .signAccess claims =>
    (signAsync desk { claims with typ := .access } config.accessTtlSeconds,
      .done (.refreshed desk.tokens.next))
  | .isSessionLive claims call =>
    (desk, match principalOf claims with
      | some auth =>
        if sessionIsLive desk claims.org claims.sid then afterAdmission auth call
        else .refuse .sessionOver
      | none => .refuse .sessionOver)
  | .logout auth =>
    (revokeWhere desk fun session => session.id = auth.sessionId, .done .signedOut)
  | .revokeOwn auth sessionId => revokeOwn desk auth sessionId
  | .revokeOthers auth => revokeOthers desk auth
  | .listLive auth => (desk, .done (.sessions (listLive desk auth)))
  | .done reply => (desk, .done reply)

end Calls

/-- What else becomes of accounts, sessions and tokens. -/
inductive SignInWorld where
  | tick (elapsed : Nat)
  /-- A password reset, which keeps none of the sessions, or a change, which keeps one. -/
  | setPassword (organizationId userId : Nat) (passwordHash : String) (keepSessionId : Option Nat)
  | supersede (userId : Nat) (name passwordHash : String)
  | scheduleDeletion (organizationId userId : Nat)
  /-- A member is suspended or removed. -/
  | revokeSessions (userId : Nat)
  /-- A booking's link opens the first session of the account it made. -/
  | claim (userId : Nat)
  /-- Any other change of workspaces, accounts, memberships and links. -/
  | accounts (organizations : Table OrganizationRow) (users : Table User)
      (memberships : Table Membership) (socialIdentities : Table SocialIdentity)
      (slugs subjects : Nat → String)
  | twoFactor (twoFactors : Table TwoFactor) (recoveryCodes : Table RecoveryCode)
  /-- An invite, or a link to confirm an address, to reset a password, to claim a booking. -/
  | sign (claims : TokenClaims) (expiresIn : Nat)

/-- The kinds of token that sign-in alone signs. -/
def signsIn (typ : TokenTyp) : Bool := typ = .access || typ = .refresh || typ = .twofa

section World

variable (config : TokenConfig)

/-- A booking's link opens a session, if its account is still there, and its tokens are signed. -/
def claimSession (desk : SignInDesk) (userId : Nat) : SignInDesk :=
  match findProfile desk.directory userId with
  | none => desk
  | some found =>
    let refreshTtl := refreshTtlFor config false
    let opened := insertSession desk found (desk.clock + refreshTtl * 1000) .claimLink
    (issueTokens config opened (sessionSubject found desk.directory.sessions.next) refreshTtl).1

def changeSignIn (desk : SignInDesk) : SignInWorld → SignInDesk
  | .tick elapsed => { desk with clock := desk.clock + elapsed }
  | .setPassword organizationId userId passwordHash keepSessionId =>
    { desk with
      directory :=
        setPassword desk.directory organizationId userId passwordHash keepSessionId desk.clock }
  | .supersede userId name passwordHash =>
    { desk with
      directory := (supersedeUnconfirmedAttendee desk.directory userId name passwordHash
        desk.clock).getD desk.directory }
  | .scheduleDeletion organizationId userId =>
    { desk with directory := scheduleDeletion desk.directory organizationId userId desk.clock }
  | .revokeSessions userId =>
    { desk with directory := { desk.directory with
      sessions := revokeSessions desk.directory.sessions userId desk.clock } }
  | .claim userId => claimSession config desk userId
  | .accounts organizations users memberships socialIdentities slugs subjects =>
    { desk with
      slugs, subjects
      directory := { desk.directory with organizations, users, memberships, socialIdentities } }
  | .twoFactor twoFactors recoveryCodes => { desk with twoFactors, recoveryCodes }
  | .sign claims expiresIn =>
    if signsIn claims.typ then desk else signAsync desk claims expiresIn

end World

/-- Sign-ins and requests of anybody, any number of them at once. -/
def signInRequests (verifyPassword : (hashed plain : String) → Bool) (crypto : TwoFactorCrypto)
    (config : TokenConfig) :
    Handler SignInDesk SignInPhase SignInRequest SignInAnswers SignInWorld where
  opened := .begin
  act := actOnSignIn verifyPassword crypto config
  outside := changeSignIn config
  crashed := .done .crashed

end EventaApi.Source
