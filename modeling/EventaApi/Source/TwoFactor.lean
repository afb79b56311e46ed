import EventaApi.Source.Identity
import EventaApi.Library.Pool

/-!
# Two-factor sign-in

`AuthTwoFactorService`: enrolment with an authenticator app, and the one-time recovery
codes. The seed is encrypted at rest and only its plain text matters here; of a recovery
code only the hash is stored.
-/
namespace EventaApi.Source
open Library

def DIGITS : Nat := 6
def PERIOD_SECONDS : Nat := 30
def RECOVERY_CODE_COUNT : Nat := 8

/-- HOTP for one counter step, and the hash a recovery code is compared by. -/
structure TwoFactorCrypto where
  hotp : (secret : String) → (counter : Int) → String
  hashCode : (code : String) → String

/-- The code of the current step or of one either side. -/
def verifyTotp (crypto : TwoFactorCrypto) (secret code : String) (now : Instant) : Bool :=
  let candidate := code.toList.filter Char.isDigit
  let step : Int := ↑(now / 1000 / PERIOD_SECONDS)
  candidate.length = DIGITS &&
    [step - 1, step, step + 1].any fun counter => (crypto.hotp secret counter).toList = candidate

/-- A user's enrolment, one at most. -/
structure TwoFactor where
  id : Nat
  userId : Nat
  secret : String
  confirmedAt : Option Instant
  deriving DecidableEq, Repr

instance : Keyed TwoFactor := ⟨TwoFactor.id⟩

/-- A one-time backup code of an enrolment. -/
structure RecoveryCode where
  id : Nat
  twoFactorId : Nat
  codeHash : String
  usedAt : Option Instant
  deriving DecidableEq, Repr

instance : Keyed RecoveryCode := ⟨RecoveryCode.id⟩

inductive TwoFactorMail where
  | disabled (organizationId userId : Nat) (name email : String) (occurredAt : Instant)
  deriving DecidableEq, Repr

structure TwoFactorDesk where
  users : Table User
  twoFactors : Table TwoFactor
  recoveryCodes : Table RecoveryCode
  outbox : List TwoFactorMail
  clock : Instant

/-! ## The repository -/

/-- The user's enrolment. -/
def findTwoFactor (desk : TwoFactorDesk) (userId : Nat) : Option TwoFactor :=
  (desk.twoFactors.select fun row => row.userId = userId).head?

@[reducible] def pendingRow (secret : String) (row : TwoFactor) : TwoFactor :=
  { row with secret, confirmedAt := none }

/-- Start or restart enrolment: the user's row, confirmed or not, is simply replaced. -/
def upsertPending (desk : TwoFactorDesk) (userId : Nat) (secret : String) : TwoFactorDesk :=
  { desk with
    twoFactors :=
      if findTwoFactor desk userId = none then
        desk.twoFactors.insert fun id => { id, userId, secret, confirmedAt := none }
      else desk.twoFactors.update (fun row => row.userId = userId) (pendingRow secret) }

@[reducible] def confirmedRow (now : Instant) (row : TwoFactor) : TwoFactor :=
  { row with confirmedAt := some now }

@[reducible] def flagged (twoFactorEnabled : Bool) (row : User) : User :=
  { row with twoFactorEnabled }

/-- Replace the whole set; a set needs its enrolment, and codes of which no two are the same. -/
def replaceRecoveryCodes (desk : TwoFactorDesk) (twoFactorId : Nat) (codeHashes : List String) :
    Option TwoFactorDesk :=
  if (desk.twoFactors.find twoFactorId).isSome ∧ codeHashes.Nodup then
    some { desk with
      recoveryCodes := (desk.recoveryCodes.delete fun row => row.twoFactorId = twoFactorId).insertEach
        codeHashes fun codeHash id => { id, twoFactorId, codeHash, usedAt := none } }
  else none

/-- Confirm enrolment and flip the user's flag in one transaction. -/
def confirmTwoFactor (desk : TwoFactorDesk) (userId twoFactorId : Nat) (codeHashes : List String)
    (now : Instant) : Option TwoFactorDesk :=
  replaceRecoveryCodes
    { desk with
      twoFactors := desk.twoFactors.update (fun row => row.id = twoFactorId) (confirmedRow now)
      users := desk.users.update (fun row => row.id = userId) (flagged true) }
    twoFactorId codeHashes

/-- Turn it off: the enrolment and its codes go, the user's flag clears. -/
def disableTwoFactor (desk : TwoFactorDesk) (userId twoFactorId : Nat) : TwoFactorDesk :=
  { desk with
    recoveryCodes := desk.recoveryCodes.delete fun row => row.twoFactorId = twoFactorId
    twoFactors := desk.twoFactors.delete fun row => row.id = twoFactorId
    users := desk.users.update (fun row => row.id = userId) (flagged false) }

/-- The unused codes a presented one matches. -/
def Spendable (twoFactorId : Nat) (codeHash : String) (row : RecoveryCode) : Prop :=
  row.twoFactorId = twoFactorId ∧ row.codeHash = codeHash ∧ row.usedAt = none

instance (twoFactorId : Nat) (codeHash : String) : DecidablePred (Spendable twoFactorId codeHash) :=
  fun _ => inferInstanceAs (Decidable (_ ∧ _ ∧ _))

@[reducible] def spentCode (now : Instant) (row : RecoveryCode) : RecoveryCode :=
  { row with usedAt := some now }

/-- Spend an unused recovery code; false if it does not match or was used. -/
def consumeRecoveryCode (desk : TwoFactorDesk) (twoFactorId : Nat) (codeHash : String) :
    TwoFactorDesk × Bool :=
  ({ desk with
      recoveryCodes := desk.recoveryCodes.update (Spendable twoFactorId codeHash)
        (spentCode desk.clock) },
    desk.recoveryCodes.select (Spendable twoFactorId codeHash) ≠ [])

/-! ## The service -/

def ALREADY_ON : DomainException :=
  .conflict "Two-factor is already on. Turn it off first to re-enrol."
def ALREADY_CONFIRMED : DomainException := .conflict "Two-factor is already on."
def NOT_ON : DomainException := .validation "Two-factor is not on."
def TURN_ON_FIRST : DomainException := .validation "Turn two-factor on first."
def START_FIRST : DomainException := .notFound "Start two-factor setup first."
def BAD_CODE : DomainException :=
  .validation "That code is wrong or has expired — try the current one."

inductive TwoFactorRequest where
  | start (auth : AuthContext)
  | confirm (auth : AuthContext) (code : String)
  | disable (auth : AuthContext) (code : String)
  | regenerate (auth : AuthContext) (code : String)
  /-- The second step of a sign-in. -/
  | verify (organizationId userId : Nat) (code : String)
  deriving DecidableEq, Repr

/-- What a step may mint: a seed, or a set of codes. -/
structure Minted where
  secret : String
  codes : Fin RECOVERY_CODE_COUNT → String

inductive TwoFactorReply where
  | enrolment (secret : String)
  | recoveryCodes (codes : List String)
  | disabled
  | verified (accepted : Bool)
  | thrown (exception : DomainException)
  | crashed
  deriving DecidableEq, Repr

/-- What a request does next, with the enrolment it read and the code it was given. -/
inductive TwoFactorPhase where
  | load (request : TwoFactorRequest)
  | upsert (auth : AuthContext)
  | confirm (auth : AuthContext) (row : TwoFactor) (code : String) (checkedAt : Instant)
  | spendToDisable (auth : AuthContext) (row : TwoFactor) (code : String)
  | disable (auth : AuthContext) (row : TwoFactor)
  | notify (auth : AuthContext)
  | regenerate (auth : AuthContext) (row : TwoFactor)
  | spend (userId : Nat) (row : TwoFactor) (code : String)
  | done (reply : TwoFactorReply)
  deriving DecidableEq, Repr

section Requests

variable (crypto : TwoFactorCrypto)

def afterStart (auth : AuthContext) : Option TwoFactor → TwoFactorPhase
  | some row => if row.confirmedAt = none then .upsert auth else .done (.thrown ALREADY_ON)
  | none => .upsert auth

def afterConfirm (auth : AuthContext) (code : String) (now : Instant) :
    Option TwoFactor → TwoFactorPhase
  | none => .done (.thrown START_FIRST)
  | some row =>
    if row.confirmedAt ≠ none then .done (.thrown ALREADY_CONFIRMED)
    else if verifyTotp crypto row.secret code now then .confirm auth row code now
    else .done (.thrown BAD_CODE)

/-- A recovery code will do where the app's code does not. -/
def afterDisable (auth : AuthContext) (code : String) (now : Instant) :
    Option TwoFactor → TwoFactorPhase
  | none => .done (.thrown START_FIRST)
  | some row =>
    if row.confirmedAt = none then .done (.thrown NOT_ON)
    else if verifyTotp crypto row.secret code now then .disable auth row
    else .spendToDisable auth row code

def afterRegenerate (auth : AuthContext) (code : String) (now : Instant) :
    Option TwoFactor → TwoFactorPhase
  | none => .done (.thrown START_FIRST)
  | some row =>
    if row.confirmedAt = none then .done (.thrown TURN_ON_FIRST)
    else if verifyTotp crypto row.secret code now then .regenerate auth row
    else .done (.thrown BAD_CODE)

def afterVerify (userId : Nat) (code : String) (now : Instant) : Option TwoFactor → TwoFactorPhase
  | none => .done (.verified false)
  | some row =>
    if row.confirmedAt = none then .done (.verified false)
    else if verifyTotp crypto row.secret code now then .done (.verified true)
    else .spend userId row code

/-- The first step of each request: the user's enrolment, and what it allows. -/
def loadTwoFactor (desk : TwoFactorDesk) : TwoFactorRequest → TwoFactorPhase
  | .start auth => afterStart auth (findTwoFactor desk auth.userId)
  | .confirm auth code => afterConfirm crypto auth code desk.clock (findTwoFactor desk auth.userId)
  | .disable auth code => afterDisable crypto auth code desk.clock (findTwoFactor desk auth.userId)
  | .regenerate auth code =>
    afterRegenerate crypto auth code desk.clock (findTwoFactor desk auth.userId)
  | .verify _ userId code => afterVerify crypto userId code desk.clock (findTwoFactor desk userId)

/-- A set that was issued is answered, once; a violated constraint rolls its transaction back. -/
def issued (desk : TwoFactorDesk) (codes : List String) :
    Option TwoFactorDesk → TwoFactorDesk × TwoFactorPhase
  | some after => (after, .done (.recoveryCodes codes))
  | none => (desk, .done .crashed)

/-- One read, or one committed transaction. -/
def actOnTwoFactor (desk : TwoFactorDesk) (minted : Minted) :
    TwoFactorPhase → TwoFactorDesk × TwoFactorPhase
  | .load request => (desk, loadTwoFactor crypto desk request)
  | .upsert auth =>
    (upsertPending desk auth.userId minted.secret, .done (.enrolment minted.secret))
  | .confirm auth row _ _ =>
    let codes := List.ofFn minted.codes
    issued desk codes
      (confirmTwoFactor desk auth.userId row.id (codes.map crypto.hashCode) desk.clock)
  | .spendToDisable auth row code =>
    let (after, spent) := consumeRecoveryCode desk row.id (crypto.hashCode code)
    (after, if spent then .disable auth row else .done (.thrown BAD_CODE))
  | .disable auth row => (disableTwoFactor desk auth.userId row.id, .notify auth)
  | .notify auth =>
    match desk.users.find auth.userId with
    | some me =>
      ({ desk with outbox := desk.outbox ++
          [.disabled auth.organizationId auth.userId me.name me.email desk.clock] },
        .done .disabled)
    | none => (desk, .done .crashed)
  | .regenerate _ row =>
    let codes := List.ofFn minted.codes
    issued desk codes (replaceRecoveryCodes desk row.id (codes.map crypto.hashCode))
  | .spend _ row code =>
    let (after, spent) := consumeRecoveryCode desk row.id (crypto.hashCode code)
    (after, .done (.verified spent))
  | .done reply => (desk, .done reply)

end Requests

/-- Time passes. -/
def tickTwoFactor (desk : TwoFactorDesk) (now : Instant) : TwoFactorDesk :=
  { desk with clock := max desk.clock now }

/-- Two-factor requests of any users, any number of them at once. -/
def twoFactorRequests (crypto : TwoFactorCrypto) :
    Handler TwoFactorDesk TwoFactorPhase TwoFactorRequest Minted Instant where
  opened := .load
  act := actOnTwoFactor crypto
  outside := tickTwoFactor
  crashed := .done .crashed

end EventaApi.Source
