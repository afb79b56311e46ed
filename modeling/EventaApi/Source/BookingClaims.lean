import EventaApi.Library.Expiry
import EventaApi.Library.Pool
import EventaApi.Source.Passwords

/-!
# Creating an account from a booking's link

`BookingClaimService.claim` reads the link, the booking and the address's account, creates the
account or takes over an unconfirmed one, and then records the link as spent in a store of its
own. `inspect` reads the same and writes nothing.
-/
namespace EventaApi.Source
open Library

/-! ## Links -/

/-- What a booking claim token says, once it verified. -/
structure BookingClaimClaims where
  sub : Nat
  email : String
  /-- In seconds. -/
  exp : Nat
  deriving DecidableEq, Repr

/-- A claim link that verified: which booking it names, and which inbox it proves. -/
structure ClaimLink where
  orderId : Nat
  email : String
  spent : Bool
  ledgerKey : String
  expiresAt : Instant
  deriving DecidableEq, Repr

/-- A booking, as far as creating its buyer's account needs to know it. -/
structure ClaimableBooking where
  orderId : Nat
  buyerName : String
  buyerEmail : String
  deriving DecidableEq, Repr

def SPENT_PREFIX : String := "booking-claim:spent:"

def MS_PER_SECOND : Nat := 1000

inductive ClaimRefusal where
  | invalidClaimLink | signInInstead | attendeeAccountsUnavailable
  deriving DecidableEq, Repr

def ClaimRefusal.code : ClaimRefusal → String
  | .invalidClaimLink => "CLAIM_LINK_INVALID"
  | .signInInstead => "CONFLICT"
  | .attendeeAccountsUnavailable => "INTERNAL_ERROR"

def ClaimRefusal.message : ClaimRefusal → String
  | .invalidClaimLink =>
    "This link has expired or is no longer valid. Ask for a new one from your booking confirmation."
  | .signInInstead => "An account already uses this email. Sign in instead."
  | .attendeeAccountsUnavailable =>
    "Attendee accounts are unavailable right now. Please try again later."

/-! ## Accounts -/

/-- A live attendee account of the organization on this address. -/
def IsAttendeeOf (organizationId : Nat) (email : String) (user : User) : Prop :=
  user.organizationId = organizationId ∧ citext user.email = citext email ∧
    user.persona = .attendee ∧ user.deletedAt = none

instance (organizationId : Nat) (email : String) :
    DecidablePred (IsAttendeeOf organizationId email) :=
  fun _ => inferInstanceAs (Decidable (_ ∧ _ ∧ _ ∧ _))

structure PlatformAttendee where
  userId : Nat
  confirmed : Bool
  deriving DecidableEq, Repr

/-- The account attendee sign-in resolves the address to. -/
def findPlatformAttendee (directory : Directory) (email : String) : Option PlatformAttendee := do
  let organizationId ← directory.platformOrganizationId
  let row ← (directory.users.select (IsAttendeeOf organizationId email)).head?
  return { userId := row.id, confirmed := row.status ≠ .unconfirmed }

structure AttendeeAccountInput where
  name : String
  email : String
  passwordHash : String
  confirmed : Bool
  deriving DecidableEq, Repr

inductive Creation where
  | created (userId : Nat) (directory : Directory)
  | uniqueViolation
  | noPlatform

@[reducible] def attendeeUser (organizationId : Nat) (input : AttendeeAccountInput) (now : Instant)
    (id : Nat) : User where
  id := id
  organizationId := organizationId
  name := input.name
  email := input.email
  persona := .attendee
  status := if input.confirmed then .active else .unconfirmed
  passwordHash := some input.passwordHash
  createdAt := now

/-- Create an attendee in the platform's organization; an address has one live account there. -/
def createAttendeeAccount (directory : Directory) (input : AttendeeAccountInput) (now : Instant) :
    Creation :=
  match directory.platformOrganizationId with
  | none => .noPlatform
  | some organizationId =>
    if ∃ user ∈ directory.users.rows, IsAttendeeOf organizationId input.email user then
      .uniqueViolation
    else .created directory.users.next
      { directory with users := directory.users.insert (attendeeUser organizationId input now) }

def IsLive (organizationId userId : Nat) (user : User) : Prop :=
  user.id = userId ∧ user.organizationId = organizationId ∧ user.deletedAt = none

instance (organizationId userId : Nat) : DecidablePred (IsLive organizationId userId) :=
  fun _ => inferInstanceAs (Decidable (_ ∧ _ ∧ _))

/-- Deleting an account keeps its row, frees its address and signs it out. -/
def scheduleDeletion (directory : Directory) (organizationId userId : Nat) (now : Instant) :
    Directory :=
  if directory.users.select (IsLive organizationId userId) = [] then directory
  else
    { directory with
      users := directory.users.update (IsLive organizationId userId) (deletedUser now)
      sessions := directory.sessions.update
        (fun session => session.userId = userId ∧ session.revokedAt = none) (revokedSession now) }

/-! ## Claims -/

/-- The accounts, the bookings and the ledger of spent links. -/
structure ClaimDesk where
  directory : Directory
  bookings : Nat → Option ClaimableBooking
  ledger : String → Key
  clock : Instant
  /-- The accounts that links have made or taken over, by the link's entry in the ledger. -/
  made : List (String × Nat)

inductive BookingClaimRequest where
  | inspect (token : String)
  | claim (token password : String)
  deriving DecidableEq, Repr

def BookingClaimRequest.token : BookingClaimRequest → String
  | .inspect token | .claim token _ => token

/-- The person a good link creates an account for. -/
structure Claimant where
  name : String
  email : String
  deriving DecidableEq, Repr

inductive BookingClaimReply where
  | preview (claimant : Claimant) (accountExists : Bool)
  | signedIn (userId : Nat)
  | refused (refusal : ClaimRefusal)
  | crashed
  deriving DecidableEq, Repr

/-- The step a request is at. -/
inductive BookingClaimPhase where
  | verify (request : BookingClaimRequest)
  | isSpent (request : BookingClaimRequest) (claims : BookingClaimClaims)
  | findBooking (request : BookingClaimRequest) (link : ClaimLink)
  | findAccount (request : BookingClaimRequest) (link : ClaimLink) (booking : ClaimableBooking)
  | createAccount (link : ClaimLink) (claimant : Claimant) (password : String)
  | supersede (link : ClaimLink) (claimant : Claimant) (unconfirmed : Nat) (password : String)
  | spend (link : ClaimLink) (userId : Nat)
  | findProfile (userId : Nat)
  | done (reply : BookingClaimReply)
  deriving DecidableEq, Repr

/-- What a claim takes from outside. -/
structure ClaimAnswers where
  hash : String → String
  /-- How long a session lasts, in milliseconds. -/
  refreshTtl : Nat

section Claims

-- The claims of a token the platform signed as a booking claim, and a token's name in the ledger.
variable (verify : String → Option BookingClaimClaims) (digest : String → String)

def ledgerKeyOf (token : String) : String := SPENT_PREFIX ++ digest token

def dead : BookingClaimPhase := .done (.refused .invalidClaimLink)

/-- The token's claims, until it has expired. -/
def verifyBookingClaim (now : Instant) (token : String) : Option BookingClaimClaims :=
  (verify token).filter fun claims => now / MS_PER_SECOND < claims.exp

def linkOf (token : String) (claims : BookingClaimClaims) (spent : Bool) : ClaimLink where
  orderId := claims.sub
  email := claims.email
  spent := spent
  ledgerKey := ledgerKeyOf digest token
  expiresAt := claims.exp * MS_PER_SECOND

/-- The order still exists and still carries the address the link was sent to. -/
def afterBooking (request : BookingClaimRequest) (link : ClaimLink) :
    Option ClaimableBooking → BookingClaimPhase
  | none => dead
  | some booking =>
    if citext booking.buyerEmail = citext link.email then .findAccount request link booking
    else dead

/-- A used link is good only to ask for a sign-in, while the account it made stands. -/
def afterAccount (request : BookingClaimRequest) (link : ClaimLink) (booking : ClaimableBooking)
    (existing : Option PlatformAttendee) : BookingClaimPhase :=
  let confirmed := existing.any PlatformAttendee.confirmed
  let claimant : Claimant := { name := booking.buyerName, email := link.email }
  if link.spent = true ∧ confirmed = false then dead
  else
    match request with
    | .inspect _ => .done (.preview claimant confirmed)
    | .claim _ password =>
      if confirmed then .done (.refused .signInInstead)
      else
        match existing with
        | some unconfirmed => .supersede link claimant unconfirmed.userId password
        | none => .createAccount link claimant password

def afterCreation (desk : ClaimDesk) (link : ClaimLink) : Creation → ClaimDesk × BookingClaimPhase
  | .created userId directory =>
    ({ desk with directory, made := (link.ledgerKey, userId) :: desk.made }, .spend link userId)
  | .uniqueViolation => (desk, .done (.refused .signInInstead))
  | .noPlatform => (desk, .done (.refused .attendeeAccountsUnavailable))

def afterSuperseding (desk : ClaimDesk) (link : ClaimLink) (userId : Nat) :
    Option Directory → ClaimDesk × BookingClaimPhase
  | some directory =>
    ({ desk with directory, made := (link.ledgerKey, userId) :: desk.made }, .spend link userId)
  | none => (desk, .done (.refused .signInInstead))

/-- Until when the ledger remembers a link that is spent now. -/
def spentUntil (now : Instant) (link : ClaimLink) : Instant :=
  let secondsLeft := (link.expiresAt - now + (MS_PER_SECOND - 1)) / MS_PER_SECOND
  now + max 1 secondsLeft * MS_PER_SECOND

@[reducible] def openedSession (user : User) (expiresAt : Instant) (id : Nat) : AuthSession where
  id := id
  organizationId := user.organizationId
  userId := user.id
  expiresAt := expiresAt

/-- The first session of the account, if it is still there. -/
def startSession (directory : Directory) (userId : Nat) (expiresAt : Instant) : Option Directory :=
  match (directory.users.find userId).filter fun user => user.deletedAt = none with
  | none => none
  | some user =>
    some { directory with sessions := directory.sessions.insert (openedSession user expiresAt) }

def actOnClaim (desk : ClaimDesk) (answers : ClaimAnswers) :
    BookingClaimPhase → ClaimDesk × BookingClaimPhase
  | .verify request =>
    (desk, match verifyBookingClaim verify desk.clock request.token with
      | none => dead
      | some claims => .isSpent request claims)
  | .isSpent request claims =>
    let spent := (desk.ledger (ledgerKeyOf digest request.token)).isSome
    (desk, .findBooking request (linkOf digest request.token claims spent))
  | .findBooking request link => (desk, afterBooking request link (desk.bookings link.orderId))
  | .findAccount request link booking =>
    (desk, afterAccount request link booking (findPlatformAttendee desk.directory link.email))
  | .createAccount link claimant password =>
    afterCreation desk link (createAttendeeAccount desk.directory
      { name := claimant.name, email := claimant.email, passwordHash := answers.hash password
        confirmed := true } desk.clock)
  | .supersede link claimant unconfirmed password =>
    afterSuperseding desk link unconfirmed (supersedeUnconfirmedAttendee desk.directory unconfirmed
      claimant.name (answers.hash password) desk.clock)
  | .spend link userId =>
    let entry : Expiring := ⟨1, some (spentUntil desk.clock link)⟩
    ({ desk with ledger := Function.update desk.ledger link.ledgerKey (some entry) },
      .findProfile userId)
  | .findProfile userId =>
    match startSession desk.directory userId (desk.clock + answers.refreshTtl) with
    | none => (desk, .done (.refused .attendeeAccountsUnavailable))
    | some directory => ({ desk with directory }, .done (.signedIn userId))
  | .done reply => (desk, .done reply)

/-- What else happens meanwhile. -/
inductive ClaimWorld where
  | tick (elapsed : Nat)
  /-- An ordinary sign-up, unconfirmed until its own link is opened. -/
  | signUp (input : AttendeeAccountInput)
  | scheduleDeletion (organizationId userId : Nat)
  /-- Anything else that becomes of accounts and sessions. -/
  | directory (after : Directory)
  | booking (orderId : Nat) (booking : Option ClaimableBooking)

def changeClaims (desk : ClaimDesk) : ClaimWorld → ClaimDesk
  | .tick elapsed =>
    let now := desk.clock + elapsed
    { desk with clock := now, ledger := fun key => (desk.ledger key).sweep now }
  | .signUp input =>
    match createAttendeeAccount desk.directory input desk.clock with
    | .created _ directory => { desk with directory }
    | .uniqueViolation | .noPlatform => desk
  | .scheduleDeletion organizationId userId =>
    { desk with directory := scheduleDeletion desk.directory organizationId userId desk.clock }
  | .directory after => { desk with directory := after }
  | .booking orderId booking =>
    { desk with bookings := Function.update desk.bookings orderId booking }

/-- Requests with any links, any number of them at once. -/
def bookingClaims :
    Handler ClaimDesk BookingClaimPhase BookingClaimRequest ClaimAnswers ClaimWorld where
  opened := .verify
  act := actOnClaim verify digest
  outside := changeClaims
  crashed := .done .crashed

end Claims

end EventaApi.Source
