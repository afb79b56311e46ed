import EventaApi.Source.Settlement

/-!
# Payment attempts, refunds and the webhook log

`PaymentsRepository`'s transactions, the invoice writes that keep step with the money,
and the two hooks that write the ledger inside an order's own transaction. Each write
names the status it moves a row from, or names none.
-/
namespace EventaApi.Source
open Library

/-- A callback whose signature was verified. -/
structure VerifiedWebhook where
  /-- The provider's event id, which the webhook log dedupes on. -/
  eventId : String
  type : WebhookType
  /-- The charge's reference; for a refund event, the refund's own. -/
  gatewayRef : String
  /-- The reference the provider settled under, when it differs from the one stored. -/
  settledRef : Option String := none
  amountSatang : Satang
  declineReason : Option String := none
  deriving DecidableEq, Repr

/-! ## Attempts -/

/-- One payment attempt; money is the order's, never the caller's. -/
structure RecordAttemptInput where
  orderId : Nat
  method : PaymentMethod
  amountSatang : Satang
  currency : String
  gatewayRef : String
  idempotencyKey : String
  status : PaymentStatus
  attempted : status = .pending ∨ status = .failed

@[reducible] def attemptRow (input : RecordAttemptInput) (id : Nat) : Payment where
  id := id
  txn := input.gatewayRef
  orderId := input.orderId
  method := input.method
  amountSatang := input.amountSatang
  currency := input.currency
  status := input.status
  paidAt := none
  gatewayRef := some input.gatewayRef
  idempotencyKey := input.idempotencyKey

/-- Another row took the reference or the key, so the insert does nothing. -/
def attemptConflicts (payments : Table Payment) (input : RecordAttemptInput) : Bool :=
  payments.select (fun row =>
    row.txn = input.gatewayRef ∨ row.idempotencyKey = input.idempotencyKey) != []

/-- Record one attempt; replaying the key returns the row the first request created. -/
def upsertAttempt (db : Db) (input : RecordAttemptInput) :
    Except TxError (Option Payment × Db) :=
  let payments := db.ledger.payments
  if attemptConflicts payments input then
    .ok ((payments.select fun row => row.idempotencyKey = input.idempotencyKey).head?, db)
  else do
    foreignKey (db.orders.find input.orderId).isSome "payments.order_id"
    .ok (some (attemptRow input payments.next),
      { db with ledger.payments := payments.insert (attemptRow input) })

/-- The payment a provider callback refers to. -/
def findByGatewayRef (payments : Table Payment) (gatewayRef : String) : Option Payment :=
  (payments.select fun row => row.gatewayRef = some gatewayRef).head?

/-- Repoint a payment at the intent the buyer was actually handed. -/
def updateGatewayRef (payments : Table Payment) (paymentId : Nat) (gatewayRef : String) :
    Table Payment :=
  payments.update (fun row => row.id = paymentId)
    fun row => { row with gatewayRef := some gatewayRef }

@[reducible] def paidPayment (organization : Organization) (paidAt : Instant) (row : Payment) : Payment :=
  { row with
    status := .paid
    paidAt := some paidAt
    sellerName := some organization.name
    sellerAddress := some organization.address
    sellerTaxId := some organization.taxId }

/-- Flip a payment to paid, whatever it was, and stamp its receipt. -/
def markPaidIn (ledger : Ledger) (paymentId : Nat) (paidAt : Instant) : Ledger :=
  { ledger with
    payments := ledger.payments.update (fun row => row.id = paymentId)
      (paidPayment ledger.organization paidAt) }

/-- Only a pending attempt can fail. -/
def markFailed (payments : Table Payment) (paymentId : Nat) : Table Payment :=
  payments.update (fun row => row.id = paymentId ∧ row.status = .pending)
    fun row => { row with status := .failed }

/-- A different payment already settled this order. -/
def otherPaidPaymentExists (payments : Table Payment) (orderId exceptPaymentId : Nat) : Bool :=
  payments.select (fun row =>
    row.orderId = orderId ∧ row.status = .paid ∧ row.id ≠ exceptPaymentId) != []

/-! ## The webhook log -/

/-- Claim a callback: false only when it has already been processed to completion. -/
def recordWebhook (webhookEvents : Table WebhookEvent) (provider : String)
    (verified : VerifiedWebhook) : Bool × Table WebhookEvent :=
  match (webhookEvents.select fun row =>
      row.provider = provider ∧ row.providerEventId = verified.eventId).head? with
  | some existing => (existing.status != .processed, webhookEvents)
  | none => (true, webhookEvents.insert fun id =>
      { id, provider, providerEventId := verified.eventId, eventType := verified.type })

/-- Stamp the outcome. -/
def markWebhookProcessed (webhookEvents : Table WebhookEvent) (providerEventId : String)
    (status : WebhookStatus) : Table WebhookEvent :=
  webhookEvents.update (fun row => row.providerEventId = providerEventId)
    fun row => { row with status }

/-! ## Invoices -/

/-- The calendar day in Bangkok, which is seven hours ahead all year. -/
def bangkokToday (now : Instant) : Nat := (now + 7 * 3600000) / 86400000

/-- An invoice already issued against the order is paid with it. -/
def markPaidForOrderIn (invoices : Table Invoice) (orderId : Nat) (paidVia : PaymentMethod)
    (paidOn : Nat) : Table Invoice :=
  invoices.update (fun row => row.orderId = orderId ∧ row.status = .issued)
    fun row => { row with status := .paid, paidVia := some paidVia, paidOn := some paidOn }

def REFUND_VOID_REASON : String := "Refunded"

/-- The order's money went back: its live invoice is void. -/
def voidForRefundIn (invoices : Table Invoice) (orderId voidedBy : Nat) (now : Instant) :
    Table Invoice :=
  invoices.update (fun row => row.orderId = orderId ∧ row.status ≠ .void)
    fun row => { row with
      status := .void
      voidedAt := some now
      voidedBy := some voidedBy
      voidReason := some REFUND_VOID_REASON }

/-! ## Refunds -/

structure ClaimRefundInput where
  paymentId : Nat
  orderId : Nat
  amountSatang : Satang
  currency : String
  issuedBy : Nat
  idempotencyKey : String
  now : Instant
  deriving DecidableEq, Repr

@[reducible] def claimedRefund (input : ClaimRefundInput) (id : Nat) : Refund where
  id := id
  paymentId := input.paymentId
  orderId := input.orderId
  amountSatang := input.amountSatang
  currency := input.currency
  reason := none
  status := .pending
  issuedBy := input.issuedBy
  issuedAt := input.now
  settledAt := none
  gatewayRef := none
  idempotencyKey := input.idempotencyKey

/-- The refund this key already claimed, if any. -/
def findRefundByKey (refunds : Table Refund) (idempotencyKey : String) : Option Refund :=
  (refunds.select fun row => row.idempotencyKey = idempotencyKey).head?

/-- Reserve the right to refund: the key decides, and a second caller finds the first's row. -/
def claimRefund (db : Db) (input : ClaimRefundInput) :
    Except TxError ((Refund × Bool) × Db) :=
  let refunds := db.ledger.refunds
  match findRefundByKey refunds input.idempotencyKey with
  | some existing => .ok ((existing, false), db)
  | none => do
    foreignKey (db.ledger.payments.find input.paymentId).isSome "refunds.payment_id"
    foreignKey (db.orders.find input.orderId).isSome "refunds.order_id"
    .ok ((claimedRefund input refunds.next, true),
      { db with ledger.refunds := refunds.insert (claimedRefund input) })

/-- Keep the provider's reference on a refund that has not settled yet. -/
def markRefundPending (refunds : Table Refund) (refundId : Nat) (gatewayRef : String) :
    Table Refund :=
  refunds.update (fun row => row.id = refundId ∧ row.status = .pending)
    fun row => { row with gatewayRef := some gatewayRef }

/-- The refund a provider callback names, by the provider's refund reference. -/
def findRefundByGatewayRef (refunds : Table Refund) (gatewayRef : String) : Option Refund :=
  (refunds.select fun row => row.gatewayRef = some gatewayRef).head?

/-- The guard every write that finishes a refund makes. -/
def refundPending (refunds : Table Refund) (refundId : Nat) : Bool :=
  refunds.select (fun row => row.id = refundId ∧ row.status = .pending) != []

/-- The money did not move; false when the refund was no longer pending. -/
def markRefundFailed (refunds : Table Refund) (refundId : Nat) (reason : Option String) :
    Bool × Table Refund :=
  (refundPending refunds refundId,
    refunds.update (fun row => row.id = refundId ∧ row.status = .pending)
      fun row => { row with status := .failed, reason })

structure MarkRefundedInput where
  refundId : Nat
  paymentId : Nat
  gatewayRef : String
  now : Instant
  deriving DecidableEq, Repr

@[reducible] def succeededRefund (input : MarkRefundedInput) (row : Refund) : Refund :=
  { row with
    status := .succeeded
    gatewayRef := some input.gatewayRef
    settledAt := some input.now }

/-- Refund and payment as one flip. -/
def refundedLedger (ledger : Ledger) (input : MarkRefundedInput) : Ledger :=
  { ledger with
    refunds := ledger.refunds.update (fun row => row.id = input.refundId ∧ row.status = .pending)
      (succeededRefund input)
    payments := ledger.payments.update (fun row => row.id = input.paymentId)
      fun row => { row with status := .refunded } }

/-- Flip refund and payment; `none` when the refund was no longer pending, and nothing is written. -/
def markRefundedIn (ledger : Ledger) (input : MarkRefundedInput) : Option Ledger :=
  if refundPending ledger.refunds input.refundId then some (refundedLedger ledger input) else none

inductive DuplicateRefundSettlement where
  | settled | solePayment | notPending
  deriving DecidableEq, Repr

/-- Settle a refund on its own ledger lines, while another paid payment covers the order. -/
def settleDuplicateRefund (ledger : Ledger) (orderId : Nat) (input : MarkRefundedInput) :
    DuplicateRefundSettlement × Ledger :=
  if otherPaidPaymentExists ledger.payments orderId input.paymentId then
    match markRefundedIn ledger input with
    | some after => (.settled, after)
    | none => (.notPending, ledger)
  else (.solePayment, ledger)

/-! ## The hooks an order's transaction runs -/

/-- Inside the settlement: the payment flips to paid, and so does an invoice already issued. -/
def recordPaid (payment : Payment) (paidAt : Instant) (ledger : Ledger) : Ledger :=
  let marked := markPaidIn ledger payment.id paidAt
  { marked with
    invoices := markPaidForOrderIn marked.invoices payment.orderId payment.method
      (bangkokToday paidAt) }

/-- Inside the refund: a refund that is no longer pending rolls the order's writes back. -/
def recordRefund (refund : Refund) (input : MarkRefundedInput) (ledger : Ledger) :
    Except TxError Ledger :=
  match markRefundedIn ledger input with
  | none => .error .refundNoLongerPending
  | some marked => .ok { marked with
      invoices := voidForRefundIn marked.invoices refund.orderId refund.issuedBy input.now }

/-! ## What each write did -/

theorem otherPaidPaymentExists_iff {payments : Table Payment} {orderId exceptPaymentId : Nat} :
    otherPaidPaymentExists payments orderId exceptPaymentId = true ↔
      ∃ other ∈ payments, other.orderId = orderId ∧ other.status = .paid ∧
        other.id ≠ exceptPaymentId := by
  simp only [otherPaidPaymentExists, bne_iff_ne, Table.select_ne_nil]

theorem refundPending_iff {refunds : Table Refund} {refundId : Nat} :
    refundPending refunds refundId = true ↔
      ∃ refund ∈ refunds, refund.id = refundId ∧ refund.status = .pending := by
  simp only [refundPending, bne_iff_ne, Table.select_ne_nil]

theorem findByGatewayRef_some {payments : Table Payment} {gatewayRef : String}
    {payment : Payment} (found : findByGatewayRef payments gatewayRef = some payment) :
    payment ∈ payments ∧ payment.gatewayRef = some gatewayRef :=
  Table.mem_select.mp (List.mem_of_mem_head? found)

theorem findRefundByGatewayRef_some {refunds : Table Refund} {gatewayRef : String}
    {refund : Refund} (found : findRefundByGatewayRef refunds gatewayRef = some refund) :
    refund ∈ refunds ∧ refund.gatewayRef = some gatewayRef :=
  Table.mem_select.mp (List.mem_of_mem_head? found)

theorem findRefundByKey_some {refunds : Table Refund} {idempotencyKey : String}
    {refund : Refund} (found : findRefundByKey refunds idempotencyKey = some refund) :
    refund ∈ refunds ∧ refund.idempotencyKey = idempotencyKey :=
  Table.mem_select.mp (List.mem_of_mem_head? found)

theorem markRefundedIn_some {ledger after : Ledger} {input : MarkRefundedInput} :
    markRefundedIn ledger input = some after ↔
      refundPending ledger.refunds input.refundId = true ∧ after = refundedLedger ledger input := by
  unfold markRefundedIn
  split
  next pending => simp only [pending, true_and, Option.some.injEq, eq_comm]
  next missing => simp [missing]

theorem recordRefund_ok {refund : Refund} {input : MarkRefundedInput} {ledger after : Ledger} :
    recordRefund refund input ledger = .ok after ↔
      refundPending ledger.refunds input.refundId = true ∧
        after = { refundedLedger ledger input with
          invoices := voidForRefundIn ledger.invoices refund.orderId refund.issuedBy input.now } := by
  unfold recordRefund
  cases marked : markRefundedIn ledger input with
  | none =>
    have missing : ¬ refundPending ledger.refunds input.refundId = true := fun pending => by
      rw [markRefundedIn_some.mpr ⟨pending, rfl⟩] at marked
      cases marked
    simp [missing]
  | some flipped =>
    obtain ⟨pending, rfl⟩ := markRefundedIn_some.mp marked
    simp [pending, eq_comm, refundedLedger]

/-- A claim finds its key's refund and writes nothing, or writes a new pending one. -/
theorem claimRefund_cases {db after : Db} {input : ClaimRefundInput} {refund : Refund}
    {fresh : Bool} (success : claimRefund db input = .ok ((refund, fresh), after)) :
    (refund ∈ db.ledger.refunds ∧ fresh = false ∧ after = db) ∨
      (findRefundByKey db.ledger.refunds input.idempotencyKey = none ∧ fresh = true ∧
        refund = claimedRefund input db.ledger.refunds.next ∧
        after = { db with ledger.refunds := db.ledger.refunds.insert (claimedRefund input) }) := by
  simp only [claimRefund] at success
  split at success
  next existing found =>
    cases success
    exact Or.inl ⟨(findRefundByKey_some found).1, rfl, rfl⟩
  next unused =>
    obtain ⟨_, _, success⟩ := bind_ok success
    obtain ⟨_, _, success⟩ := bind_ok success
    cases success
    exact Or.inr ⟨unused, rfl, rfl, rfl⟩

/-- An attempt finds its key's row and writes nothing, or writes a new one. -/
theorem upsertAttempt_cases {db after : Db} {input : RecordAttemptInput}
    {payment : Option Payment} (success : upsertAttempt db input = .ok (payment, after)) :
    ((∀ row, payment = some row → row ∈ db.ledger.payments) ∧ after = db) ∨
      (payment = some (attemptRow input db.ledger.payments.next) ∧
        after = { db with ledger.payments := db.ledger.payments.insert (attemptRow input) }) := by
  simp only [upsertAttempt] at success
  split at success
  · cases success
    exact Or.inl ⟨fun row found => (Table.mem_select.mp (List.mem_of_mem_head? found)).1, rfl⟩
  · obtain ⟨_, _, success⟩ := bind_ok success
    cases success
    exact Or.inr ⟨rfl, rfl⟩

/-- A callback is claimed again, or logged for the first time. -/
theorem recordWebhook_cases (webhookEvents : Table WebhookEvent) (provider : String)
    (verified : VerifiedWebhook) :
    (recordWebhook webhookEvents provider verified).2 = webhookEvents ∨
      (recordWebhook webhookEvents provider verified).2 = webhookEvents.insert fun id =>
        { id, provider, providerEventId := verified.eventId, eventType := verified.type } := by
  unfold recordWebhook
  split
  · exact Or.inl rfl
  · exact Or.inr rfl

end EventaApi.Source
