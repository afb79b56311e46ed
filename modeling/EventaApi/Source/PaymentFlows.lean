import EventaApi.Source.Payments
import EventaApi.Source.Transactions

/-!
# The payment flows, one committed step at a time

`PaymentsService` and `RefundsService` read, commit and ask the provider in separate
steps, and anything may run between two of them. A call's phase is what it does next
together with the values it read before; `act` does that one thing. A call that throws
or dies is done, and what it committed stays.
-/
namespace EventaApi.Source
open Library

/-! ## What a call carries -/

def ALREADY_REFUNDED : String := "This payment has already been refunded."

def NOT_PAID : String := "Only a completed payment can be refunded — this one never cleared."

def NO_GATEWAY_REF : String :=
  "This payment has no provider reference, so it cannot be refunded automatically."

def FINISHED_ELSEWHERE : String :=
  "This refund was finished by another request — reload to see where it stands."

/-- Stamped on every webhook row, so the ledger says who reported it. -/
def PROVIDER_NAME : String := "stripe"

structure RefundPaymentRequest where
  paymentId : Nat
  /-- Exactly-once: a double-clicked refund must issue one, not two. -/
  idempotencyKey : String
  issuedBy : Nat
  deriving DecidableEq, Repr

structure PayOrderInput where
  orderId : Nat
  method : PaymentMethod
  idempotencyKey : String
  deriving DecidableEq, Repr

inductive StartStatus where
  | requiresAction | succeeded | failed
  deriving DecidableEq, Repr

/-- The provider's answer to `start`. -/
structure StartedPayment where
  gatewayRef : String
  status : StartStatus
  deriving DecidableEq, Repr

/-- The provider's answer to `refund`; pending is a real outcome, not a failure. -/
structure RefundedPayment where
  refundRef : String
  status : RefundStatus
  failureReason : Option String := none
  deriving DecidableEq, Repr

structure RefundResult where
  refundId : Nat
  status : RefundStatus
  amountSatang : Satang
  deriving DecidableEq, Repr

/-- What finishing a pending refund came to. -/
inductive RefundCompletion where
  | settled | failed | unknown | alreadyFinal | amountMismatch | failedAfterSettled
  deriving DecidableEq, Repr

/-- `failed` marks the ones a person must look at. -/
def WEBHOOK_STATUS_FOR : RefundCompletion → WebhookStatus
  | .settled | .failed | .unknown | .alreadyFinal => .processed
  | .amountMismatch | .failedAfterSettled => .failed

/-- Who is completing a refund: the request that made it, or the provider's later report. -/
inductive Origin where
  | request
  | report (verified : VerifiedWebhook)
  deriving DecidableEq, Repr

/-- What a call answered. -/
inductive Reply where
  | received
  | refund (result : RefundResult)
  | intent (payment : Payment)
  | thrown (error : TxError)
  /-- The process died, or something outside this code threw. -/
  | crashed
  deriving DecidableEq, Repr

inductive Phase where
  | record (verified : VerifiedWebhook)
  | lookup (verified : VerifiedWebhook)
  | reconcile (verified : VerifiedWebhook) (payment : Payment) (settledRef : String)
  | settle (verified : VerifiedWebhook) (payment : Payment)
  | checkDuplicate (verified : VerifiedWebhook) (payment : Payment)
  | queueRefund (verified : VerifiedWebhook) (payment : Payment)
  | markFailed (verified : VerifiedWebhook) (payment : Payment)
  | releaseHolds (verified : VerifiedWebhook) (payment : Payment)
  | acknowledge (verified : VerifiedWebhook) (status : WebhookStatus)
  | findRefund (verified : VerifiedWebhook)
  | lostRace (verified : VerifiedWebhook)
  | requireRefundable (input : RefundPaymentRequest)
  | claim (input : RefundPaymentRequest) (payment : Payment)
  | askProvider (payment : Payment) (refund : Refund)
  | failRefund (origin : Origin) (refund : Refund) (reason : Option String)
  | recordPending (refund : Refund) (refundRef : String)
  | settleDuplicate (origin : Origin) (refund : Refund) (ledger : MarkRefundedInput)
  | voidOrder (origin : Origin) (refund : Refund) (ledger : MarkRefundedInput)
  | requirePayable (input : PayOrderInput)
  | startPayment (input : PayOrderInput) (order : Order)
  | attempt (input : PayOrderInput) (order : Order) (started : StartedPayment)
  | repoint (payment : Payment) (gatewayRef : String)
  | done (reply : Reply)
  deriving DecidableEq, Repr

/-! ## A payment's callback -/

def isRefundWebhook (verified : VerifiedWebhook) : Bool :=
  verified.type == .refundSucceeded || verified.type == .refundFailed

/-- Only a fresh claim goes on; a refund's callback never looks for a payment. -/
def afterRecord (verified : VerifiedWebhook) (fresh : Bool) : Phase :=
  if !fresh then .done .received
  else if isRefundWebhook verified then .findRefund verified
  else .lookup verified

/-- Only a right amount on an unpaid payment settles; a wrong one is left for a person. -/
def onSucceeded (verified : VerifiedWebhook) (payment : Payment) : Phase :=
  if verified.amountSatang ≠ payment.amountSatang then .acknowledge verified .failed
  else if payment.status ≠ .paid then .settle verified payment
  else .acknowledge verified .processed

def dispatch (verified : VerifiedWebhook) (payment : Payment) : Phase :=
  if verified.type = .succeeded then onSucceeded verified payment
  else .markFailed verified payment

/-- The payment the callback names, moved onto the reference it settled under. -/
def afterLookup (verified : VerifiedWebhook) : Option Payment → Phase
  | none => .acknowledge verified .processed
  | some payment =>
    match verified.settledRef with
    | none => dispatch verified payment
    | some settledRef =>
      if payment.gatewayRef = some settledRef then dispatch verified payment
      else .reconcile verified payment settledRef

/-- Only money that settled an order already paid for may be a duplicate. -/
def afterSettle (verified : VerifiedWebhook) (payment : Payment) (outcome : SettlementOutcome) :
    Phase :=
  if outcome = .alreadySettled then .checkDuplicate verified payment
  else .acknowledge verified .processed

def afterMarkFailed (verified : VerifiedWebhook) (payment : Payment) : Phase :=
  if verified.type = .expired then .releaseHolds verified payment
  else .acknowledge verified .processed

def settlementInput (payment : Payment) (mintQrToken : Nat → String) (now : Instant) :
    SettleOrderInput where
  orderId := payment.orderId
  mode := .payment
  mintQrToken := mintQrToken
  recordPayment := recordPaid payment now

/-- The refund a duplicate payment's money goes back through. -/
def duplicateRefund (order : Order) (payment : Payment) (now : Instant) : OutboxEvent :=
  .refundRequired order.id order.reference payment.amountSatang order.currency
    "duplicate_payment" now

/-! ## A refund and its callback -/

/-- A refund already finished: the report that matters is a failure after it settled. -/
def onFinished (refund : Refund) (verified : VerifiedWebhook) : RefundCompletion :=
  if refund.status = .succeeded ∧ verified.type = .refundFailed then .failedAfterSettled
  else .alreadyFinal

def markRefundedInput (refund : Refund) (gatewayRef : String) (now : Instant) :
    MarkRefundedInput where
  refundId := refund.id
  paymentId := refund.paymentId
  gatewayRef := gatewayRef
  now := now

/-- The refund a report names, and what is done about it. -/
def completePending (verified : VerifiedWebhook) (now : Instant) : Option Refund → Phase
  | none => .acknowledge verified (WEBHOOK_STATUS_FOR .unknown)
  | some refund =>
    if refund.status ≠ .pending then
      .acknowledge verified (WEBHOOK_STATUS_FOR (onFinished refund verified))
    else if verified.type = .refundFailed then
      .failRefund (.report verified) refund verified.declineReason
    else if verified.amountSatang ≠ refund.amountSatang then
      .acknowledge verified (WEBHOOK_STATUS_FOR .amountMismatch)
    else
      .settleDuplicate (.report verified) refund
        (markRefundedInput refund verified.gatewayRef now)

/-- Another event finished the refund between the read and the write. -/
def afterLostRace (verified : VerifiedWebhook) : Option Refund → Phase
  | none => .acknowledge verified (WEBHOOK_STATUS_FOR .unknown)
  | some current => .acknowledge verified (WEBHOOK_STATUS_FOR (onFinished current verified))

def requireRefundable (payment : Option Payment) : Except DomainException Payment :=
  match payment with
  | none => .error (.notFound "Payment not found.")
  | some payment =>
    if payment.status = .refunded then .error (.conflict ALREADY_REFUNDED)
    else if payment.status ≠ .paid then .error (.conflict NOT_PAID)
    else if payment.gatewayRef.all String.isEmpty then .error (.conflict NO_GATEWAY_REF)
    else .ok payment

def claimInput (input : RefundPaymentRequest) (payment : Payment) (now : Instant) :
    ClaimRefundInput where
  paymentId := payment.id
  orderId := payment.orderId
  amountSatang := payment.amountSatang
  currency := payment.currency
  issuedBy := input.issuedBy
  idempotencyKey := input.idempotencyKey
  now := now

def toResult (refund : Refund) (status : RefundStatus) : RefundResult where
  refundId := refund.id
  status := status
  amountSatang := refund.amountSatang

/-- A claim the provider never answered is asked again; any other is answered as it stands. -/
def replay (payment : Payment) (refund : Refund) : Phase :=
  if refund.status = .pending ∧ refund.gatewayRef.all String.isEmpty then
    .askProvider payment refund
  else .done (.refund (toResult refund refund.status))

def afterClaim (payment : Payment) (refund : Refund) (fresh : Bool) : Phase :=
  if fresh then .askProvider payment refund else replay payment refund

def afterProvider (refund : Refund) (now : Instant) : Option RefundedPayment → Phase
  | none => .done .crashed
  | some outcome =>
    match outcome.status with
    | .failed => .failRefund .request refund outcome.failureReason
    | .pending => .recordPending refund outcome.refundRef
    | .succeeded =>
      .settleDuplicate .request refund (markRefundedInput refund outcome.refundRef now)

def providerRefused (reason : Option String) : DomainException where
  code := .internalError
  message := "The provider refused the refund: " ++ reason.getD "no reason given" ++ "."

/-- The refund failed, if it was still pending. -/
def afterFailRefund (reason : Option String) (moved : Bool) : Origin → Phase
  | .request => .done (.thrown (.domain (providerRefused reason)))
  | .report verified =>
    if moved then .acknowledge verified (WEBHOOK_STATUS_FOR .failed) else .lostRace verified

def refundSettled (refund : Refund) : Origin → Phase
  | .request => .done (.refund (toResult refund .succeeded))
  | .report verified => .acknowledge verified (WEBHOOK_STATUS_FOR .settled)

def refundLost : Origin → Phase
  | .request => .done (.thrown (.domain (.conflict FINISHED_ELSEWHERE)))
  | .report verified => .lostRace verified

/-! ## Starting a payment -/

def requirePayable (order : Option Order) : Except DomainException Order :=
  match order with
  | none => .error (.notFound ORDER_GONE)
  | some order =>
    if order.paymentStatus = .paid then .error (.conflict "This order is already paid.")
    else if order.status = .expired then
      .error (.conflict "This order expired — the seats were released. Please book again.")
    else if order.status ≠ .pending then
      .error (.conflict "This order can no longer be paid.")
    else if order.totalSatang = 0 then
      .error (.conflict "This order is free — there is nothing to pay.")
    else .ok order

def attemptInput (input : PayOrderInput) (order : Order) (started : StartedPayment) :
    RecordAttemptInput where
  orderId := order.id
  method := input.method
  amountSatang := order.totalSatang
  currency := order.currency
  gatewayRef := started.gatewayRef
  idempotencyKey := input.idempotencyKey
  status := if started.status = .failed then .failed else .pending
  attempted := by split <;> simp

/-- An idempotent retry that was handed a new intent repoints its payment at it. -/
def afterAttempt (gatewayRef : String) : Option Payment → Phase
  | none => .done .crashed
  | some payment =>
    if payment.gatewayRef = some gatewayRef then .done (.intent payment)
    else .repoint payment gatewayRef

/-! ## One step of a call -/

/-- What the world outside tells a call at this step. -/
structure Answer where
  mintQrToken : Nat → String := fun _ => ""
  /-- `none`: the provider threw, whatever it did before. -/
  refunded : Option RefundedPayment := none
  started : Option StartedPayment := none

structure Acted where
  db : Db
  phase : Phase
  /-- The payment a refund was queued on behalf of. -/
  queued : Option Nat := none

/-- Do what the phase says: one read, one committed transaction or one provider call. -/
def act (db : Db) (now : Instant) (answer : Answer) : Phase → Acted
  | .record verified =>
    let (fresh, webhookEvents) := recordWebhook db.webhookEvents PROVIDER_NAME verified
    { db := { db with webhookEvents }, phase := afterRecord verified fresh }
  | .lookup verified =>
    { db, phase := afterLookup verified (findByGatewayRef db.ledger.payments verified.gatewayRef) }
  | .reconcile verified payment settledRef =>
    { db := { db with
        ledger.payments := updateGatewayRef db.ledger.payments payment.id settledRef }
      phase := dispatch verified { payment with gatewayRef := some settledRef } }
  | .settle verified payment =>
    match settleOrder db (settlementInput payment answer.mintQrToken now) now with
    | .ok (settlement, after) =>
      { db := after
        phase := afterSettle verified payment settlement.outcome
        queued := if settlement.outcome = .refundRequired then some payment.id else none }
    | .error error => { db, phase := .done (.thrown error) }
  | .checkDuplicate verified payment =>
    { db
      phase :=
        if otherPaidPaymentExists db.ledger.payments payment.orderId payment.id then
          .queueRefund verified payment
        else .acknowledge verified .processed }
  | .queueRefund verified payment =>
    match lockOrder db payment.orderId with
    | .ok order =>
      { db := { db with outbox := db.outbox ++ [duplicateRefund order payment now] }
        phase := .acknowledge verified .processed
        queued := some payment.id }
    | .error error => { db, phase := .done (.thrown error) }
  | .markFailed verified payment =>
    { db := { db with ledger.payments := markFailed db.ledger.payments payment.id }
      phase := afterMarkFailed verified payment }
  | .releaseHolds verified payment =>
    { db := releaseHoldsForOrder db payment.orderId, phase := .acknowledge verified .processed }
  | .acknowledge verified status =>
    { db := { db with
        webhookEvents := markWebhookProcessed db.webhookEvents verified.eventId status }
      phase := .done .received }
  | .findRefund verified =>
    { db
      phase := completePending verified now
        (findRefundByGatewayRef db.ledger.refunds verified.gatewayRef) }
  | .lostRace verified =>
    { db
      phase := afterLostRace verified
        (findRefundByGatewayRef db.ledger.refunds verified.gatewayRef) }
  | .requireRefundable input =>
    match requireRefundable (db.ledger.payments.find input.paymentId) with
    | .ok payment => { db, phase := .claim input payment }
    | .error exception => { db, phase := .done (.thrown (.domain exception)) }
  | .claim input payment =>
    match claimRefund db (claimInput input payment now) with
    | .ok ((refund, fresh), after) => { db := after, phase := afterClaim payment refund fresh }
    | .error error => { db, phase := .done (.thrown error) }
  | .askProvider _ refund => { db, phase := afterProvider refund now answer.refunded }
  | .failRefund origin refund reason =>
    let (moved, refunds) := markRefundFailed db.ledger.refunds refund.id reason
    { db := { db with ledger.refunds := refunds }, phase := afterFailRefund reason moved origin }
  | .recordPending refund refundRef =>
    { db := { db with ledger.refunds := markRefundPending db.ledger.refunds refund.id refundRef }
      phase := .done (.refund (toResult refund .pending)) }
  | .settleDuplicate origin refund ledger =>
    match settleDuplicateRefund db.ledger refund.orderId ledger with
    | (.settled, after) => { db := { db with ledger := after }, phase := refundSettled refund origin }
    | (.notPending, _) => { db, phase := refundLost origin }
    | (.solePayment, _) => { db, phase := .voidOrder origin refund ledger }
  | .voidOrder origin refund ledger =>
    match refundOrder db refund.orderId (recordRefund refund ledger) now with
    | .ok (_, after) => { db := after, phase := refundSettled refund origin }
    | .error .refundNoLongerPending => { db, phase := refundLost origin }
    | .error error => { db, phase := .done (.thrown error) }
  | .requirePayable input =>
    match requirePayable (db.orders.find input.orderId) with
    | .ok order => { db, phase := .startPayment input order }
    | .error exception => { db, phase := .done (.thrown (.domain exception)) }
  | .startPayment input order =>
    match answer.started with
    | some started => { db, phase := .attempt input order started }
    | none => { db, phase := .done .crashed }
  | .attempt input order started =>
    match upsertAttempt db (attemptInput input order started) with
    | .ok (payment, after) => { db := after, phase := afterAttempt started.gatewayRef payment }
    | .error error => { db, phase := .done (.thrown error) }
  | .repoint payment gatewayRef =>
    { db := { db with ledger.payments := updateGatewayRef db.ledger.payments payment.id gatewayRef }
      phase := .done (.intent { payment with gatewayRef := some gatewayRef }) }
  | .done reply => { db, phase := .done reply }

/-! ## The service as a machine -/

structure Call where
  id : Nat
  phase : Phase
  deriving DecidableEq, Repr

instance : Keyed Call := ⟨Call.id⟩

/-- What a client or the provider may ask. -/
inductive Request where
  | webhook (verified : VerifiedWebhook)
  | refund (input : RefundPaymentRequest)
  | pay (input : PayOrderInput)
  deriving DecidableEq, Repr

/-- Where a request starts; a callback of no interest is answered at once. -/
def Request.phase : Request → Phase
  | .webhook verified =>
    if verified.type = .ignored then .done .received else .record verified
  | .refund input => .requireRefundable input
  | .pay input => .requirePayable input

structure Service where
  office : Workspace
  calls : Table Call
  /-- How many refunds were queued on behalf of each payment. -/
  queued : Nat → Nat

/-- The transactions of checkout and of the organizer, none of which writes the ledger. -/
def Op.paysNothing : Op → Prop
  | .settleOrder input => input.mode = .approval ∧ input.recordPayment = id
  | .refundOrder _ _ | .recordLedger _ | .enqueue _ => False
  | _ => True

inductive Turn where
  | checkout (op : Op) (paysNothing : op.paysNothing)
  /-- The invoices module's own writes. -/
  | invoicing (write : Table Invoice → Table Invoice)
  | receive (request : Request)
  | advance (callId : Nat) (answer : Answer)
  | crash (callId : Nat)

def moveCall (calls : Table Call) (callId : Nat) (phase : Phase) : Table Call :=
  calls.update (fun call => call.id = callId) fun call => { call with phase }

def queuedAfter (queued : Nat → Nat) (onBehalfOf : Option Nat) (paymentId : Nat) : Nat :=
  if onBehalfOf = some paymentId then queued paymentId + 1 else queued paymentId

/-- One call does one step of its work. -/
def advance (service : Service) (call : Call) (answer : Answer) : Service :=
  let acted := act service.office.db service.office.clock answer call.phase
  { office := { service.office with db := acted.db }
    calls := moveCall service.calls call.id acted.phase
    queued := queuedAfter service.queued acted.queued }

def serve (service : Service) : Turn → Service
  | .checkout op _ => { service with office := step service.office op }
  | .invoicing write =>
    { service with
      office.db.ledger.invoices := write service.office.db.ledger.invoices }
  | .receive request =>
    { service with calls := service.calls.insert fun id => { id, phase := request.phase } }
  | .advance callId answer =>
    match service.calls.find callId with
    | some call => advance service call answer
    | none => service
  | .crash callId => { service with calls := moveCall service.calls callId (.done .crashed) }

end EventaApi.Source
