import EventaApi.Source.Payments
import EventaApi.Library.Pool
import Mathlib.Algebra.Ring.Int.Defs

/-!
# Payouts

`PayoutsService.balances` and `PayoutsService.retry`: the three headline figures, read
from the money that moved and from what payouts have been given of it, and the recovery
of a failed transfer, in which the status is read, the provider is called and its
outcome is written, each on its own.
-/
namespace EventaApi.Source
open Library

inductive PayoutStatus where
  | scheduled | processing | paid | failed
  deriving DecidableEq, Repr

/-- Money on its way to, or already in, the organizer's bank. -/
structure Payout where
  id : Nat
  reference : String
  amountSatang : Int
  currency : String
  /-- A masked descriptor, never an account number. -/
  bankAccount : String
  status : PayoutStatus
  failureReason : Option String := none
  /-- The provider's reference for the transfer, replaced on a retry. -/
  gatewayRef : Option String := none
  periodCovered : Option String := none
  requestedAt : Instant
  completedAt : Option Instant := none
  deriving DecidableEq, Repr

instance : Keyed Payout := ⟨Payout.id⟩

/-- What a payout settles of one payment. -/
structure PayoutItem where
  id : Nat
  payoutId : Nat
  paymentId : Nat
  /-- Gross, less what was refunded and the fee. -/
  netSatang : Int
  deriving DecidableEq, Repr

instance : Keyed PayoutItem := ⟨PayoutItem.id⟩

/-- Whether this workspace can be paid at all, and which account to pay. -/
structure PayoutAccount where
  connected : Bool
  accountId : Option String
  deriving DecidableEq, Repr

/-! ## The provider -/

/-- What a submission to the provider came to. -/
inductive Submitted where
  | payout (id : String) (failed : Bool) (failureMessage : Option String)
  | stripeError (message : String)
  | otherError
  deriving DecidableEq, Repr

structure Submission where
  idempotencyKey : String
  amountSatang : Int
  currency : String
  came : Submitted
  deriving DecidableEq, Repr

/-- The submissions that were carried out, one per idempotency key. -/
structure Provider where
  submissions : List Submission
  deriving DecidableEq, Repr

/-- What was first submitted under this key. -/
def Provider.recorded (provider : Provider) (idempotencyKey : String) : Option Submitted :=
  (provider.submissions.find? fun made => made.idempotencyKey = idempotencyKey).map Submission.came

/-- A key that was used returns what its first submission came to. -/
def Provider.createPayout (provider : Provider) (idempotencyKey : String) (amountSatang : Int)
    (currency : String) (fresh : Submitted) : Submitted × Provider :=
  match provider.recorded idempotencyKey with
  | some first => (first, provider)
  | none => (fresh,
    { submissions := provider.submissions ++
        [{ idempotencyKey, amountSatang, currency, came := fresh }] })

inductive RetriedStatus where
  | processing | failed
  deriving DecidableEq, Repr

structure RetriedPayout where
  /-- The provider's reference for the transfer; empty when there is none. -/
  payoutRef : String
  status : RetriedStatus
  failureReason : Option String
  deriving DecidableEq, Repr

/-- OUR payout reference, so that a double-tapped retry produces one transfer. -/
def retryKey (reference : String) : String := "payout-retry:" ++ reference

/-- A rejected payout is an outcome, not an error. -/
def toRetriedPayout : Submitted → RetriedPayout
  | .payout id failed failureMessage =>
    { payoutRef := id
      status := if failed then .failed else .processing
      failureReason := failureMessage }
  | .stripeError message =>
    { payoutRef := "", status := .failed, failureReason := some message }
  | .otherError => { payoutRef := "", status := .failed, failureReason := none }

/-- What the adapter answers when it has no key to submit with. -/
def UNSENT : RetriedPayout := { payoutRef := "", status := .failed, failureReason := none }

/-- Submit the money again, with the workspace's own key. -/
def retryPayout (provider : Provider) (secretKey : Option String) (row : Payout)
    (fresh : Submitted) : RetriedPayout × Provider :=
  match secretKey with
  | none => (UNSENT, provider)
  | some _ =>
    let (came, provider) := provider.createPayout (retryKey row.reference) row.amountSatang
      row.currency.toLower fresh
    (toRetriedPayout came, provider)

/-! ## The figures -/

/-- The audit row of one retry. -/
structure PayoutAudit where
  title : String
  actorUserId : Nat
  info : Option String
  deriving DecidableEq, Repr

structure PayoutOffice where
  ledger : Ledger
  payouts : Table Payout
  payoutItems : Table PayoutItem
  account : PayoutAccount
  secretKey : Option String
  provider : Provider
  auditEvents : List PayoutAudit
  clock : Instant

/-- The three headline figures, all null when no payout account is connected. -/
structure Balances where
  availableSatang : Option Int
  pendingSatang : Option Int
  paidOutSatang : Option Int
  payoutsConnected : Bool
  deriving DecidableEq, Repr

/-- What a `SELECT sum(...) WHERE` adds up. -/
def selectedSum {ρ : Type} [Keyed ρ] (table : Table ρ) (hit : ρ → Prop) [DecidablePred hit]
    (weight : ρ → Int) : Int :=
  ((table.select hit).map weight).sum

/-- Everything ever collected, net of refunds. -/
def lifetimeNetTakings (ledger : Ledger) : Int :=
  selectedSum ledger.payments (fun row => row.status = .paid ∨ row.status = .refunded)
    (fun row => (row.amountSatang : Int)) +
  selectedSum ledger.refunds (fun row => row.status = .succeeded)
    fun row => -(row.amountSatang : Int)

/-- Money already spoken for by a payout. -/
def allocatedSatang (payoutItems : Table PayoutItem) : Int :=
  (payoutItems.rows.map PayoutItem.netSatang).sum

/-- What payouts of these statuses come to. -/
def payoutsOf (payouts : Table Payout) (statuses : List PayoutStatus) : Int :=
  selectedSum payouts (fun row => row.status ∈ statuses) Payout.amountSatang

structure StatusTotals where
  pending : Int
  paid : Int
  deriving DecidableEq, Repr

/-- Failed payouts count as neither pending nor paid. -/
def totalsByStatus (payouts : Table Payout) : StatusTotals where
  pending := payoutsOf payouts [.scheduled, .processing]
  paid := payoutsOf payouts [.paid]

/-- The three headline balances. -/
def balances (office : PayoutOffice) : Balances :=
  if office.account.connected then
    let lifetime := lifetimeNetTakings office.ledger
    let allocated := allocatedSatang office.payoutItems
    let totals := totalsByStatus office.payouts
    { availableSatang := some (max 0 (lifetime - allocated))
      pendingSatang := some totals.pending
      paidOutSatang := some totals.paid
      payoutsConnected := true }
  else
    { availableSatang := none, pendingSatang := none, paidOutSatang := none
      payoutsConnected := false }

/-! ## Retrying -/

def NOT_FAILED : DomainException :=
  .conflict "Only a failed payout can be retried — this one has not failed."

def NOT_CONNECTED : DomainException :=
  .conflict "Connect a payout account before moving money to your bank."

def PAYOUT_NOT_FOUND : DomainException := .notFound "Payout not found."

def refusedByProvider (failureReason : Option String) : DomainException :=
  ⟨.internalError,
    "The provider refused the payout: " ++ failureReason.getD "no reason given" ++ "."⟩

/-- An Admin asks for a failed payout to be submitted again. -/
structure RetryRequest where
  reference : String
  userId : Nat
  deriving DecidableEq, Repr

inductive RetryReply where
  | retried (row : Payout)
  | thrown (exception : DomainException)
  | crashed
  deriving DecidableEq, Repr

/-- What a retry does next, with the row it loaded. -/
inductive RetryPhase where
  | load (request : RetryRequest)
  | findAccount (row : Payout) (userId : Nat)
  | submit (row : Payout) (userId : Nat)
  | record (reference : String) (outcome : RetriedPayout) (userId : Nat)
  | done (reply : RetryReply)
  deriving DecidableEq, Repr

def findByReference (payouts : Table Payout) (reference : String) : Option Payout :=
  (payouts.select fun row => row.reference = reference).head?

@[reducible] def retriedRow (outcome : RetriedPayout) (now : Instant) (row : Payout) : Payout :=
  { row with
    status := match outcome.status with
      | .processing => .processing
      | .failed => .failed
    gatewayRef := if outcome.payoutRef = "" then none else some outcome.payoutRef
    failureReason := outcome.failureReason
    requestedAt := now }

def retryAudit (reference : String) (outcome : RetriedPayout) (userId : Nat) : PayoutAudit where
  title := "Retried payout " ++ reference
  actorUserId := userId
  info := outcome.failureReason

/-- Write the outcome over the payout's row, whatever its status has become. -/
def markRetried (office : PayoutOffice) (reference : String) (outcome : RetriedPayout)
    (userId : Nat) : PayoutOffice :=
  { office with
    payouts := office.payouts.update (fun row => row.reference = reference)
      (retriedRow outcome office.clock)
    auditEvents := office.auditEvents ++ [retryAudit reference outcome userId] }

def afterLoadPayout (request : RetryRequest) : Option Payout → RetryPhase
  | none => .done (.thrown PAYOUT_NOT_FOUND)
  | some row =>
    if row.status ≠ .failed then .done (.thrown NOT_FAILED) else .findAccount row request.userId

/-- A refusal of the provider's is recorded, and then thrown. -/
def afterRetried (outcome : RetriedPayout) (row : Payout) : RetryReply :=
  match outcome.status with
  | .failed => .thrown (refusedByProvider outcome.failureReason)
  | .processing => .retried row

/-- One read, one call to the provider, or one committed transaction. -/
def actOnRetry (office : PayoutOffice) (fresh : Submitted) : RetryPhase → PayoutOffice × RetryPhase
  | .load request =>
    (office, afterLoadPayout request (findByReference office.payouts request.reference))
  | .findAccount row userId =>
    (office, if office.account.connected then .submit row userId
      else .done (.thrown NOT_CONNECTED))
  | .submit row userId =>
    let (outcome, provider) := retryPayout office.provider office.secretKey row fresh
    ({ office with provider }, .record row.reference outcome userId)
  | .record reference outcome userId =>
    let after := markRetried office reference outcome userId
    match findByReference after.payouts reference with
    | some row => (after, .done (afterRetried outcome row))
    | none => (office, .done .crashed)
  | .done reply => (office, .done reply)

/-- What else the figures and a retry depend on. -/
inductive PayoutEvent where
  | connect (account : PayoutAccount) (secretKey : Option String)
  | tick (now : Instant)
  deriving DecidableEq, Repr

def applyPayoutEvent (office : PayoutOffice) : PayoutEvent → PayoutOffice
  | .connect account secretKey => { office with account, secretKey }
  | .tick now => { office with clock := max office.clock now }

/-- Retries of failed payouts, any number of them at once. -/
def retries : Handler PayoutOffice RetryPhase RetryRequest Submitted PayoutEvent where
  opened := .load
  act := actOnRetry
  outside := applyPayoutEvent
  crashed := .done .crashed

end EventaApi.Source
