import EventaApi.Source.Access

/-!
# Connecting the workspace's calendar

`CalendarConnectFlowService` and `CalendarConnectionService`. An admin starts a connect, which
leaves one pending state on the workspace's row; the browser comes back from the provider with a
state and a code, and whoever calls the callback may send any. Every read and every write is a
transaction of its own.
-/
namespace EventaApi.Source
open Library

/-! ## The state's text -/

def RANDOM_BYTES : Nat := 32

def BASE64URL_ALPHABET : List Char :=
  "ABCDEFGHIJKLMNOPQRSTUVWXYZabcdefghijklmnopqrstuvwxyz0123456789-_".toList

def sextet (number : Nat) : Char := BASE64URL_ALPHABET.getD (number % 64) 'A'

/-- `toString('base64url')`: three bytes in four characters, and no padding. -/
def base64url : List UInt8 → List Char
  | first :: second :: third :: rest =>
    let group := first.toNat * 65536 + second.toNat * 256 + third.toNat
    sextet (group / 262144) :: sextet (group / 4096) :: sextet (group / 64) :: sextet group ::
      base64url rest
  | [first, second] =>
    let group := first.toNat * 65536 + second.toNat * 256
    [sextet (group / 262144), sextet (group / 4096), sextet (group / 64)]
  | [first] => [sextet (first.toNat * 65536 / 262144), sextet (first.toNat * 65536 / 4096)]
  | [] => []

structure ParsedState where
  organizationId : Nat
  nonce : String
  deriving DecidableEq, Repr

def formatState (organizationId : Nat) (nonce : String) : String :=
  toString organizationId ++ "." ++ nonce

def MAX_SAFE_INTEGER : Nat := 9007199254740991

/-- `[1-9]\d{0,15}` -/
def isWorkspaceId (digits : List Char) : Bool :=
  digits.head?.any (· ≠ '0') && decide (digits.length ≤ 16)

/-- `[A-Za-z0-9_-]{43}` -/
def isNonce (nonce : List Char) : Bool :=
  nonce.all (fun char => char ∈ BASE64URL_ALPHABET) && decide (nonce.length = 43)

/-- Nothing for anything that is not exactly one well-formed state, a repeated parameter included.
A number beyond the safe integers rounds to one beyond them. -/
def parseState (raw : Option String) : Option ParsedState := do
  let text ← raw
  let digits := text.toList.takeWhile Char.isDigit
  match text.toList.dropWhile Char.isDigit with
  | '.' :: nonce =>
    let organizationId := Nat.ofDigitChars 10 digits 0
    if isWorkspaceId digits ∧ isNonce nonce ∧ organizationId ≤ MAX_SAFE_INTEGER then
      some { organizationId, nonce := String.ofList nonce }
    else none
  | _ => none

/-! ## The desk -/

inductive ConnectionStatus where
  | disconnected | connected | expired
  deriving DecidableEq, Repr

/-- A workspace's row. The secrets are encrypted at rest, and only their plain text matters. -/
structure CalendarConnectionRow where
  status : ConnectionStatus := .disconnected
  accountEmail : Option String := none
  refreshToken : Option String := none
  connectedBy : Option Nat := none
  connectedAt : Option Instant := none
  disconnectedAt : Option Instant := none
  oauthStateHash : Option String := none
  oauthStateUserId : Option Nat := none
  oauthVerifier : Option String := none
  oauthStateExpiresAt : Option Instant := none
  deriving DecidableEq, Repr

/-- What a completed consent hands back. -/
structure GoogleGrant where
  refreshToken : Option String
  accountEmail : Option String
  grantedScopes : List String
  deriving DecidableEq, Repr

/-- A connect that an admin started. -/
structure StartedConnect where
  organizationId : Nat
  userId : Nat
  nonce : String
  verifier : String
  deriving DecidableEq, Repr

inductive ConnectEvent where
  | started (connect : StartedConnect) (moment : Instant)
  /-- A callback found the state it sent pending, and consumed it. -/
  | taken (connect : StartedConnect) (moment : Instant)
  /-- Who started it may manage integrations still. -/
  | permitted (organizationId userId : Nat)
  | exchanged (code verifier : String) (grant : GoogleGrant)
  | connected (connect : StartedConnect) (refreshToken : String)
  deriving DecidableEq, Repr

structure CalendarDesk where
  /-- A workspace's row, if it ever started. -/
  rows : Nat → Option CalendarConnectionRow
  /-- Who may manage a workspace's integrations. -/
  mayManage : (organizationId userId : Nat) → Bool
  clock : Instant
  /-- What has been done, the latest first. -/
  history : List ConnectEvent
  /-- What was withdrawn at the provider. -/
  withdrawn : List String

def CalendarDesk.write (desk : CalendarDesk) (organizationId : Nat) (row : CalendarConnectionRow) :
    CalendarDesk :=
  { desk with rows := Function.update desk.rows organizationId (some row) }

def CalendarDesk.log (desk : CalendarDesk) (event : ConnectEvent) : CalendarDesk :=
  { desk with history := event :: desk.history }

def STATE_TTL : Nat := 10 * 60 * 1000

def CALENDAR_EVENTS_SCOPE : String := "https://www.googleapis.com/auth/calendar.events"

def NOT_CONFIGURED : String := "Google Calendar isn't set up on this server yet."
def MANAGE_INTEGRATIONS : PermissionKey := .setIntegrations

/-- What the guard of a route says without the permission. -/
def missingPermission (key : PermissionKey) : DomainException :=
  .forbidden ("Missing required permission: " ++ key.text ++ ".")

/-! ## The repository -/

/-- The row of a workspace, with its defaults where it has none. -/
def CalendarDesk.rowOf (desk : CalendarDesk) (organizationId : Nat) : CalendarConnectionRow :=
  (desk.rows organizationId).getD {}

@[reducible] def awaitingRow (stateHash : String) (userId : Nat) (verifier : String)
    (expiresAt : Instant) (row : CalendarConnectionRow) : CalendarConnectionRow :=
  { row with
    oauthStateHash := some stateHash
    oauthStateUserId := some userId
    oauthVerifier := some verifier
    oauthStateExpiresAt := some expiresAt }

/-- Record a pending connect; a second start overwrites the first. -/
def beginConnect (desk : CalendarDesk) (organizationId : Nat) (stateHash : String) (userId : Nat)
    (verifier : String) : CalendarDesk :=
  desk.write organizationId
    (awaitingRow stateHash userId verifier (desk.clock + STATE_TTL) (desk.rowOf organizationId))

@[reducible] def withoutPending (row : CalendarConnectionRow) : CalendarConnectionRow :=
  { row with
    oauthStateHash := none, oauthStateUserId := none, oauthVerifier := none
    oauthStateExpiresAt := none }

inductive PendingState where
  | none | mismatch
  | found (userId : Nat) (verifier : String) (live : Bool)
  deriving DecidableEq, Repr

/-- The pending connect, as it is locked. -/
def lockPending (desk : CalendarDesk) (organizationId : Nat) :
    Option (String × Nat × String × Bool) := do
  let row ← desk.rows organizationId
  let stateHash ← row.oauthStateHash
  let userId ← row.oauthStateUserId
  let verifier ← row.oauthVerifier
  return (stateHash, userId, verifier, row.oauthStateExpiresAt.any fun ends => desk.clock < ends)

/-- Take the pending connect of this state hash; another hash writes nothing. -/
def takePendingState (desk : CalendarDesk) (organizationId : Nat) (stateHash : String) :
    CalendarDesk × PendingState :=
  match lockPending desk organizationId with
  | none => (desk, .none)
  | some (pendingHash, userId, verifier, live) =>
    if pendingHash = stateHash then
      (desk.write organizationId (withoutPending (desk.rowOf organizationId)),
        .found userId verifier live)
    else (desk, .mismatch)

/-- The grant that was given, replacing any earlier one. -/
def saveConnected (desk : CalendarDesk) (organizationId : Nat) (accountEmail : Option String)
    (refreshToken : String) (connectedBy : Nat) : CalendarDesk :=
  desk.write organizationId { desk.rowOf organizationId with
    status := .connected
    accountEmail
    refreshToken := some refreshToken
    connectedBy := some connectedBy
    connectedAt := some desk.clock
    disconnectedAt := none }

@[reducible] def forgotten (now : Instant) (row : CalendarConnectionRow) : CalendarConnectionRow :=
  { withoutPending row with
    status := .disconnected
    refreshToken := none
    accountEmail := none
    disconnectedAt := some now }

/-- Forget the grant, the account and any pending connect; a workspace that never connected gets
no row. -/
def disconnect (desk : CalendarDesk) (organizationId : Nat) : CalendarDesk × Option String :=
  match desk.rows organizationId with
  | none => (desk, none)
  | some row => (desk.write organizationId (forgotten desk.clock row), row.refreshToken)

/-! ## Calls -/

/-- What the callback is sent: anything, or nothing where a parameter is repeated. -/
structure CallbackQuery where
  code : Option String
  state : Option String
  error : Option String
  deriving DecidableEq, Repr

inductive ConnectOutcome where
  | connected | denied | failed
  deriving DecidableEq, Repr

inductive CalendarRequest where
  | status (organizationId userId : Nat)
  | start (organizationId userId : Nat)
  | complete (query : CallbackQuery)
  | disconnect (organizationId userId : Nat)
  deriving DecidableEq, Repr

/-- What Settings shows. -/
structure CalendarConnectionDto where
  /-- Nothing on a server with no client of the provider's. -/
  status : Option ConnectionStatus
  accountEmail : Option String
  connectedAt : Option Instant
  deriving DecidableEq, Repr

inductive CalendarReply where
  | connection (shown : CalendarConnectionDto)
  /-- The state of the consent screen's address, and the challenge of the verifier. -/
  | authorize (state codeChallenge : String)
  | returned (outcome : ConnectOutcome) (reason : String)
  | thrown (exception : DomainException)
  | crashed
  deriving DecidableEq, Repr

/-- The step a call is at. -/
inductive CalendarPhase where
  | begin (request : CalendarRequest)
  | beginConnect (organizationId userId : Nat)
  | takePendingState (parsed : ParsedState) (query : CallbackQuery)
  | mayManage (connect : StartedConnect) (query : CallbackQuery)
  | exchange (connect : StartedConnect) (code : String)
  | saveConnected (connect : StartedConnect) (accountEmail : Option String) (refreshToken : String)
  | disconnect (organizationId userId : Nat)
  | revoke (organizationId userId : Nat) (held : String)
  | status (organizationId userId : Nat)
  | done (reply : CalendarReply)
  deriving DecidableEq, Repr

/-- What a step takes from outside. -/
structure CalendarAnswers where
  nonce : Fin RANDOM_BYTES → UInt8
  verifier : Fin RANDOM_BYTES → UInt8
  /-- The provider's answer to a code and the verifier it is paired with. -/
  exchangeCode : (code codeVerifier : String) → Option GoogleGrant
  /-- Whether it withdraws a grant. -/
  revokes : Bool

def random (bytes : Fin RANDOM_BYTES → UInt8) : String := String.ofList (base64url (List.ofFn bytes))

def CalendarPhase.verdict (outcome : ConnectOutcome) (reason : String) : CalendarPhase :=
  .done (.returned outcome reason)

/-- A query value that is not one string, or is empty, is no value at all. -/
def asString (value : Option String) : Option String := value.filter (· ≠ "")

def canShowFacts : ConnectionStatus → Bool
  | .connected | .expired => true
  | .disconnected => false

/-- The account is for those who may manage integrations only. -/
def toCalendarConnectionDto (row : Option CalendarConnectionRow) (configured canSeeAccount : Bool) :
    CalendarConnectionDto :=
  let status := if configured then some ((row.map (·.status)).getD .disconnected) else none
  let facts := row.filter fun _ => status.any canShowFacts
  { status
    accountEmail := if canSeeAccount then facts.bind (·.accountEmail) else none
    connectedAt := facts.bind (·.connectedAt) }

section Calls

-- SHA-256 in hex and as the verifier's challenge, and whether the server has a client at all.
variable (sha256hex : String → String) (challengeOf : String → String) (configured : Bool)

def afterParse (query : CallbackQuery) : Option ParsedState → CalendarPhase
  | none => .verdict .failed "bad_state"
  | some parsed => .takePendingState parsed query

/-- The first step of a call: the guard of the routes that have one. -/
def beginCalendar (desk : CalendarDesk) : CalendarRequest → CalendarPhase
  | .status organizationId userId => .status organizationId userId
  | .start organizationId userId =>
    if desk.mayManage organizationId userId then
      if configured then .beginConnect organizationId userId
      else .done (.thrown (.conflict NOT_CONFIGURED))
    else .done (.thrown (missingPermission MANAGE_INTEGRATIONS))
  | .disconnect organizationId userId =>
    if desk.mayManage organizationId userId then .disconnect organizationId userId
    else .done (.thrown (missingPermission MANAGE_INTEGRATIONS))
  | .complete query =>
    if configured then afterParse query (parseState query.state)
    else .verdict .failed "not_configured"

def startConnect (desk : CalendarDesk) (answers : CalendarAnswers) (organizationId userId : Nat) :
    CalendarDesk × CalendarPhase :=
  let nonce := random answers.nonce
  let verifier := random answers.verifier
  ((beginConnect desk organizationId (sha256hex nonce) userId verifier).log
      (.started { organizationId, userId, nonce, verifier } desk.clock),
    .done (.authorize (formatState organizationId nonce) (challengeOf verifier)))

def afterTaking (desk : CalendarDesk) (parsed : ParsedState) (query : CallbackQuery) :
    CalendarDesk × PendingState → CalendarDesk × CalendarPhase
  | (taken, .found userId verifier live) =>
    let connect : StartedConnect :=
      { organizationId := parsed.organizationId, userId, nonce := parsed.nonce, verifier }
    (taken.log (.taken connect desk.clock),
      if live then .mayManage connect query else .verdict .failed "state_expired")
  | (untaken, .none) => (untaken, .verdict .failed "state_none")
  | (untaken, .mismatch) => (untaken, .verdict .failed "state_mismatch")

/-- The state is ours and consumed: what the provider says happened. -/
def afterConsent (connect : StartedConnect) (query : CallbackQuery) : CalendarPhase :=
  match asString query.error, asString query.code with
  | some error, _ =>
    if error = "access_denied" then .verdict .denied "access_denied"
    else .verdict .failed "google_error"
  | none, none => .verdict .failed "no_code"
  | none, some code => .exchange connect code

def afterExchange (desk : CalendarDesk) (connect : StartedConnect) (code : String) :
    Option GoogleGrant → CalendarDesk × CalendarPhase
  | none => (desk, .verdict .failed "exchange_failed")
  | some grant =>
    (desk.log (.exchanged code connect.verifier grant),
      if CALENDAR_EVENTS_SCOPE ∈ grant.grantedScopes then
        match grant.refreshToken.filter (· ≠ "") with
        | none => .verdict .failed "no_refresh_token"
        | some refreshToken => .saveConnected connect grant.accountEmail refreshToken
      else .verdict .denied "scope_withheld")

def afterDisconnect (organizationId userId : Nat) :
    CalendarDesk × Option String → CalendarDesk × CalendarPhase
  | (forgotten, some held) =>
    (forgotten, if configured then .revoke organizationId userId held
      else .status organizationId userId)
  | (forgotten, none) => (forgotten, .status organizationId userId)

def actOnCalendar (desk : CalendarDesk) (answers : CalendarAnswers) :
    CalendarPhase → CalendarDesk × CalendarPhase
  | .begin request => (desk, beginCalendar configured desk request)
  | .beginConnect organizationId userId =>
    startConnect sha256hex challengeOf desk answers organizationId userId
  | .takePendingState parsed query =>
    afterTaking desk parsed query
      (takePendingState desk parsed.organizationId (sha256hex parsed.nonce))
  | .mayManage connect query =>
    if desk.mayManage connect.organizationId connect.userId then
      (desk.log (.permitted connect.organizationId connect.userId), afterConsent connect query)
    else (desk, .verdict .failed "not_permitted")
  | .exchange connect code =>
    afterExchange desk connect code (answers.exchangeCode code connect.verifier)
  | .saveConnected connect accountEmail refreshToken =>
    ((saveConnected desk connect.organizationId accountEmail refreshToken connect.userId).log
        (.connected connect refreshToken), .verdict .connected "connected")
  | .disconnect organizationId userId =>
    afterDisconnect configured organizationId userId (disconnect desk organizationId)
  | .revoke organizationId userId held =>
    ({ desk with withdrawn := if answers.revokes then held :: desk.withdrawn else desk.withdrawn },
      .status organizationId userId)
  | .status organizationId userId =>
    (desk, .done (.connection (toCalendarConnectionDto (desk.rows organizationId) configured
      (desk.mayManage organizationId userId))))
  | .done reply => (desk, .done reply)

end Calls

/-- What else happens meanwhile. -/
inductive CalendarWorld where
  | tick (elapsed : Nat)
  | permissions (mayManage : (organizationId userId : Nat) → Bool)
  /-- The worker finds the grant refused. -/
  | expire (organizationId : Nat)

@[reducible] def expiredRow (row : CalendarConnectionRow) : CalendarConnectionRow :=
  if row.status = .connected then { row with status := .expired } else row

def changeCalendar (desk : CalendarDesk) : CalendarWorld → CalendarDesk
  | .tick elapsed => { desk with clock := desk.clock + elapsed }
  | .permissions mayManage => { desk with mayManage }
  | .expire organizationId =>
    match desk.rows organizationId with
    | none => desk
    | some row => desk.write organizationId (expiredRow row)

/-- Calls of admins, and of anybody who calls the callback, any number of them at once. -/
def calendarConnects (sha256hex challengeOf : String → String) (configured : Bool) :
    Handler CalendarDesk CalendarPhase CalendarRequest CalendarAnswers CalendarWorld where
  opened := .begin
  act := actOnCalendar sha256hex challengeOf configured
  outside := changeCalendar
  crashed := .done .crashed

end EventaApi.Source
