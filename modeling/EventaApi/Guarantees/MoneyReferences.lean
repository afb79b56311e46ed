import EventaApi.Guarantees.Opening
import EventaApi.Guarantees.OrderHistory
import EventaApi.Guarantees.PaymentSteps

/-!
# What a call still knows of the rows it read

A call works with rows it read some steps ago, and anything may have run since. Ids,
the ids a row names and amounts never change, and money that came in was never not
received: so much of what a call read is still true. A refund is of a payment whose
money came in, a payment of an order that owed exactly its amount.
-/
namespace EventaApi.Guarantees
open Library Source

/-- The money came in; it may have gone back since. -/
def moneyIn (payment : Payment) : Prop := payment.status = .paid ∨ payment.status = .refunded

instance (payment : Payment) : Decidable (moneyIn payment) := inferInstanceAs (Decidable (_ ∨ _))

structure SamePayment (row read : Payment) : Prop where
  id : row.id = read.id
  orderId : row.orderId = read.orderId
  amountSatang : row.amountSatang = read.amountSatang

structure SameRefund (row read : Refund) : Prop where
  id : row.id = read.id
  paymentId : row.paymentId = read.paymentId
  orderId : row.orderId = read.orderId
  amountSatang : row.amountSatang = read.amountSatang

structure SameOrder (row read : Order) : Prop where
  id : row.id = read.id
  totalSatang : row.totalSatang = read.totalSatang

/-- No row is lost, and what identifies it stays. -/
structure Kept (db after : Db) : Prop where
  payments : ∀ row ∈ db.ledger.payments, ∃ new ∈ after.ledger.payments,
    SamePayment new row ∧ (moneyIn row → moneyIn new)
  refunds : ∀ row ∈ db.ledger.refunds, ∃ new ∈ after.ledger.refunds, SameRefund new row
  orders : ∀ row ∈ db.orders, ∃ new ∈ after.orders, SameOrder new row

theorem paymentStep_same {phase : Phase} {old new : Payment} (moved : PaymentStep phase old new) :
    SamePayment new old := by
  cases moved <;> exact ⟨rfl, rfl, rfl⟩

theorem paymentStep_moneyIn {phase : Phase} {old new : Payment}
    (moved : PaymentStep phase old new) (received : moneyIn old) : moneyIn new := by
  cases moved with
  | same | repointed => exact received
  | paid => exact Or.inl rfl
  | failed _ _ _ pending => simp [moneyIn, pending] at received
  | refunded => exact Or.inr rfl

/-- A payment is stamped the moment its money comes in, and never before. -/
theorem paymentStep_paidAt {phase : Phase} {old new : Payment} (moved : PaymentStep phase old new)
    (before : old.paidAt.isSome → moneyIn old) : new.paidAt.isSome → moneyIn new := by
  cases moved with
  | same | repointed => exact before
  | paid => exact fun _ => Or.inl rfl
  | refunded => exact fun _ => Or.inr rfl
  | failed _ _ _ pending =>
    intro stamped
    have received := before stamped
    simp [moneyIn, pending] at received

theorem refundStep_same {phase : Phase} {old new : Refund} (moved : RefundStep phase old new) :
    SameRefund new old := by
  cases moved <;> exact ⟨rfl, rfl, rfl, rfl⟩

theorem orderStep_same {now : Instant} {op : Op} {old new : Order}
    (moved : OrderStep now op old new) : SameOrder new old := by
  cases moved <;> exact ⟨rfl, rfl⟩

section Steps

variable {db : Db} {now : Instant} {phase : Phase} {acted : Acted}

/-- The operations of the workspace a payment flow's step runs. -/
def Flows (now : Instant) (phase : Phase) : Op → Prop
  | .settleOrder input => ∃ verified read mintQrToken, phase = .settle verified read ∧
    input = settlementInput read mintQrToken now
  | .refundOrder _ _ | .recordLedger _ | .enqueue _ | .releaseHoldsForOrder _ | .expireStale => True
  | _ => False

theorem settled_webhookEvents {input : SettleOrderInput} {order : Order} {settlement : Settlement}
    {after : Db} (settles : Settled db input order now settlement after) :
    after.webhookEvents = db.webhookEvents := by
  cases settles <;> rfl

/-- The webhook log aside, a payment flow's step is an operation of the workspace. -/
theorem acts_committed (acts : Acts db now phase acted) :
    ∃ op, Flows now phase op ∧
      Committed db now op { acted.db with webhookEvents := db.webhookEvents } := by
  cases acts with
  | read | logged | acknowledged => exact ⟨.expireStale, trivial, .idle _⟩
  | queued => exact ⟨.enqueue _, trivial, .enqueued _⟩
  | settled verified read mintQrToken order settlement after found settles =>
    refine ⟨.settleOrder (settlementInput read mintQrToken now), ⟨verified, read, _, rfl, rfl⟩, ?_⟩
    rw [← settled_webhookEvents settles]
    exact .settled _ order settlement after found settles
  | voided _ refund ledger order found =>
    exact ⟨.refundOrder refund.orderId (fun _ => .ok _), trivial,
      .refunded refund.orderId _ order _ found rfl⟩
  | released _ read =>
    rcases releaseHoldsForOrder_cases db read.orderId with same | ⟨order, found, idle, same⟩
    · refine ⟨.expireStale, trivial, ?_⟩
      rw [same]
      exact .idle _
    · refine ⟨.releaseHoldsForOrder read.orderId, trivial, ?_⟩
      rw [same]
      exact .releasedOrder read.orderId order found idle
  | reconciled _ read settledRef =>
    exact ⟨.recordLedger fun ledger =>
      { ledger with payments := updateGatewayRef ledger.payments read.id settledRef }, trivial,
      .recorded _⟩
  | repointed read gatewayRef =>
    exact ⟨.recordLedger fun ledger =>
      { ledger with payments := updateGatewayRef ledger.payments read.id gatewayRef }, trivial,
      .recorded _⟩
  | failed _ read =>
    exact ⟨.recordLedger fun ledger =>
      { ledger with payments := markFailed ledger.payments read.id }, trivial, .recorded _⟩
  | claimed input read =>
    exact ⟨.recordLedger fun ledger =>
      { ledger with refunds := ledger.refunds.insert (claimedRefund (claimInput input read now)) },
      trivial, .recorded _⟩
  | failedRefund _ refund reason =>
    exact ⟨.recordLedger fun ledger =>
      { ledger with refunds := (markRefundFailed ledger.refunds refund.id reason).2 }, trivial,
      .recorded _⟩
  | recordedPending refund refundRef =>
    exact ⟨.recordLedger fun ledger =>
      { ledger with refunds := markRefundPending ledger.refunds refund.id refundRef }, trivial,
      .recorded _⟩
  | duplicateRefunded _ _ input =>
    exact ⟨.recordLedger fun ledger => refundedLedger ledger input, trivial, .recorded _⟩
  | attempted input order started =>
    exact ⟨.recordLedger fun ledger =>
      { ledger with payments := ledger.payments.insert (attemptRow (attemptInput input order started)) },
      trivial, .recorded _⟩

/-- A payment flow moves an order's row as an operation of the workspace does. -/
theorem acts_order (acts : Acts db now phase acted) {id : Nat} {old : Order}
    (found : db.orders.find id = some old) :
    ∃ new op, acted.db.orders.find id = some new ∧ OrderStep now op old new := by
  obtain ⟨op, _, committed⟩ := acts_committed acts
  obtain ⟨new, found', moved⟩ := committed_order committed found
  exact ⟨new, op, found', moved⟩

theorem acts_kept (acts : Acts db now phase acted) : Kept db acted.db where
  payments := by
    intro row member
    obtain ⟨new, found, moved⟩ := acts_payment acts (Table.find_key member)
    exact ⟨new, (Table.find_eq_some.mp found).1, paymentStep_same moved, paymentStep_moneyIn moved⟩
  refunds := by
    intro row member
    obtain ⟨new, found, moved⟩ := acts_refund acts (Table.find_key member)
    exact ⟨new, (Table.find_eq_some.mp found).1, refundStep_same moved⟩
  orders := by
    intro row member
    obtain ⟨new, _, found, moved⟩ := acts_order acts (Table.find_key member)
    exact ⟨new, (Table.find_eq_some.mp found).1, orderStep_same moved⟩

/-- Checkout and the organizer write neither the ledger nor the webhook log. -/
theorem commit_ledger {after : Db} {op : Op} (free : op.paysNothing)
    (committed : Committed db now op after) :
    after.ledger = db.ledger ∧ after.webhookEvents = db.webhookEvents := by
  cases committed with
  | placed _ _ _ placement => exact ⟨placement.ledger, placement.webhookEvents⟩
  | settled input _ _ _ _ settles =>
    obtain ⟨_, unpaid⟩ := free
    cases settles <;> exact ⟨by simp [refuseSettlement, awaitingDb, ticketedDb, unpaid], rfl⟩
  | refunded | recorded | enqueued => exact free.elim
  | _ => exact ⟨rfl, rfl⟩

theorem step_ledger (office : Workspace) {op : Op} (free : op.paysNothing) :
    (step office op).db.ledger = office.db.ledger ∧
      (step office op).db.webhookEvents = office.db.webhookEvents := by
  rcases step_db office op with same | committed
  · rw [same]
    exact ⟨rfl, rfl⟩
  · exact commit_ledger free (commit_cases committed)

theorem step_order (office : Workspace) (op : Op) {id : Nat} {old : Order}
    (found : office.db.orders.find id = some old) :
    ∃ new, (step office op).db.orders.find id = some new ∧
      OrderStep office.clock op old new := by
  rcases step_db office op with same | committed
  · exact ⟨old, by rw [same]; exact found, .same _ _⟩
  · exact committed_order (commit_cases committed) found

theorem step_kept (office : Workspace) {op : Op} (free : op.paysNothing) :
    Kept office.db (step office op).db where
  payments := by
    rw [(step_ledger office free).1]
    exact fun row member => ⟨row, member, ⟨rfl, rfl, rfl⟩, id⟩
  refunds := by
    rw [(step_ledger office free).1]
    exact fun row member => ⟨row, member, ⟨rfl, rfl, rfl, rfl⟩⟩
  orders := by
    intro row member
    obtain ⟨new, found, moved⟩ := step_order office op (Table.find_key member)
    exact ⟨new, (Table.find_eq_some.mp found).1, orderStep_same moved⟩

end Steps

/-! ## What each phase knows -/

def PaymentStored (db : Db) (read : Payment) : Prop :=
  ∃ row ∈ db.ledger.payments, SamePayment row read

def RefundStored (db : Db) (read : Refund) : Prop :=
  ∃ row ∈ db.ledger.refunds, SameRefund row read

/-- A refund is not completed on the report of a payment's success. -/
def Reported (origin : Origin) : Prop :=
  ∀ verified, origin = .report verified → verified.type ≠ .succeeded

/-- What is still true of the values a phase carries. -/
def Knows (db : Db) : Phase → Prop
  | .reconcile _ payment _ => PaymentStored db payment
  | .settle verified payment | .checkDuplicate verified payment | .queueRefund verified payment =>
    verified.type = .succeeded ∧ PaymentStored db payment
  | .markFailed verified payment | .releaseHolds verified payment =>
    verified.type ≠ .succeeded ∧ PaymentStored db payment
  | .findRefund verified | .lostRace verified => verified.type ≠ .succeeded
  | .claim _ payment => ∃ row ∈ db.ledger.payments, SamePayment row payment ∧ moneyIn row
  | .askProvider _ refund | .recordPending refund _ => RefundStored db refund
  | .failRefund origin refund _ => Reported origin ∧ RefundStored db refund
  | .settleDuplicate origin refund ledger | .voidOrder origin refund ledger =>
    Reported origin ∧ RefundStored db refund ∧ ledger.refundId = refund.id ∧
      ledger.paymentId = refund.paymentId
  | .startPayment _ order | .attempt _ order _ =>
    order.totalSatang ≠ 0 ∧ ∃ row ∈ db.orders, SameOrder row order
  | _ => True

section Knowledge

variable {db after : Db} {now : Instant}

theorem paymentStored_kept (kept : Kept db after) {read : Payment} (known : PaymentStored db read) :
    PaymentStored after read := by
  obtain ⟨row, member, same⟩ := known
  obtain ⟨new, member', same', _⟩ := kept.payments row member
  exact ⟨new, member', same'.id.trans same.id, same'.orderId.trans same.orderId,
    same'.amountSatang.trans same.amountSatang⟩

theorem refundStored_kept (kept : Kept db after) {read : Refund} (known : RefundStored db read) :
    RefundStored after read := by
  obtain ⟨row, member, same⟩ := known
  obtain ⟨new, member', same'⟩ := kept.refunds row member
  exact ⟨new, member', same'.id.trans same.id, same'.paymentId.trans same.paymentId,
    same'.orderId.trans same.orderId, same'.amountSatang.trans same.amountSatang⟩

theorem knows_kept (kept : Kept db after) {phase : Phase} (knows : Knows db phase) :
    Knows after phase := by
  cases phase with
  | reconcile => exact paymentStored_kept kept knows
  | settle | checkDuplicate | queueRefund | markFailed | releaseHolds =>
    exact ⟨knows.1, paymentStored_kept kept knows.2⟩
  | askProvider | recordPending => exact refundStored_kept kept knows
  | failRefund => exact ⟨knows.1, refundStored_kept kept knows.2⟩
  | settleDuplicate | voidOrder =>
    exact ⟨knows.1, refundStored_kept kept knows.2.1, knows.2.2⟩
  | claim =>
    obtain ⟨row, member, same, received⟩ := knows
    obtain ⟨new, member', same', received'⟩ := kept.payments row member
    exact ⟨new, member', ⟨same'.id.trans same.id, same'.orderId.trans same.orderId,
      same'.amountSatang.trans same.amountSatang⟩, received' received⟩
  | startPayment | attempt =>
    obtain ⟨owes, row, member, same⟩ := knows
    obtain ⟨new, member', same'⟩ := kept.orders row member
    exact ⟨owes, new, member', same'.id.trans same.id, same'.totalSatang.trans same.totalSatang⟩
  | _ => exact knows

theorem knows_dispatch (verified : VerifiedWebhook) {payment : Payment}
    (known : PaymentStored db payment) : Knows db (dispatch verified payment) := by
  unfold dispatch
  split
  next succeeded =>
    unfold onSucceeded
    split
    · trivial
    · split
      · exact ⟨succeeded, known⟩
      · trivial
  next other => exact ⟨other, known⟩

theorem knows_afterLookup (verified : VerifiedWebhook) (payment : Option Payment)
    (known : ∀ row, payment = some row → PaymentStored db row) :
    Knows db (afterLookup verified payment) := by
  unfold afterLookup
  split
  · trivial
  next row =>
    have here := known row rfl
    split
    · exact knows_dispatch verified here
    · split
      · exact knows_dispatch verified here
      · exact here

theorem knows_completePending (verified : VerifiedWebhook) (refund : Option Refund)
    (report : verified.type ≠ .succeeded) (known : ∀ row, refund = some row → RefundStored db row) :
    Knows db (completePending verified now refund) := by
  have reported : Reported (.report verified) := fun other same => by
    cases same
    exact report
  unfold completePending
  split
  · trivial
  next row =>
    have here := known row rfl
    split
    · trivial
    · split
      · exact ⟨reported, here⟩
      · split
        · trivial
        · exact ⟨reported, here, rfl, rfl⟩

theorem knows_afterProvider (refund : Refund) (outcome : Option RefundedPayment)
    (known : RefundStored db refund) : Knows db (afterProvider refund now outcome) := by
  have requested : Reported .request := fun _ same => by cases same
  unfold afterProvider
  split
  · trivial
  · split
    · exact ⟨requested, known⟩
    · exact known
    · exact ⟨requested, known, rfl, rfl⟩

theorem knows_refundLost {origin : Origin} (reported : Reported origin) :
    Knows db (refundLost origin) := by
  cases origin with
  | request => trivial
  | report verified => exact reported verified rfl

theorem knows_refundSettled (refund : Refund) (origin : Origin) :
    Knows db (refundSettled refund origin) := by
  cases origin <;> trivial

theorem knows_afterFailRefund (reason : Option String) (moved : Bool) {origin : Origin}
    (reported : Reported origin) : Knows db (afterFailRefund reason moved origin) := by
  cases origin with
  | request => trivial
  | report verified =>
    cases moved with
    | true => trivial
    | false => exact reported verified rfl

theorem knows_afterRecord (verified : VerifiedWebhook) (fresh : Bool) :
    Knows db (afterRecord verified fresh) := by
  unfold afterRecord
  split
  · trivial
  · split
    next refund =>
      intro succeeded
      simp [isRefundWebhook, succeeded] at refund
    · trivial

theorem knows_afterAttempt (gatewayRef : String) (payment : Option Payment) :
    Knows db (afterAttempt gatewayRef payment) := by
  unfold afterAttempt
  split
  · trivial
  · split <;> trivial

/-- What a step that only read has seen, the next phase knows. -/
theorem saw_knows {phase next : Phase} (saw : Saw db phase next) (knows : Knows db phase) :
    Knows db next := by
  cases saw with
  | recorded verified fresh => exact knows_afterRecord verified fresh
  | looked verified payment found =>
    refine knows_afterLookup verified payment fun row same => ⟨row, ?_, rfl, rfl, rfl⟩
    exact (findByGatewayRef_some (found.trans same)).1
  | duplicate => exact knows
  | refundReported verified now refund found =>
    refine knows_completePending verified refund knows fun row same =>
      ⟨row, ?_, rfl, rfl, rfl, rfl⟩
    exact (findRefundByGatewayRef_some (found.trans same)).1
  | racedBy verified current => cases current <;> trivial
  | refundable input payment found paid =>
    exact ⟨payment, (Table.find_eq_some.mp found).1, ⟨rfl, rfl, rfl⟩, Or.inl paid⟩
  | replayed _ _ refund found =>
    unfold replay
    split
    · exact ⟨refund, found, rfl, rfl, rfl, rfl⟩
    · trivial
  | answered _ refund _ outcome => exact knows_afterProvider refund outcome knows
  | sole => exact knows
  | lostDuplicate | lostVoid => exact knows_refundLost knows.1
  | payable _ order found owes => exact ⟨owes, order, (Table.find_eq_some.mp found).1, rfl, rfl⟩
  | started => exact knows
  | attemptedBefore _ _ started payment => exact knows_afterAttempt started.gatewayRef payment
  | unsettled | unduplicated | orderGone | unrefundable | unclaimed | unvoided | unpayable
  | unstarted | unattempted | done => trivial

theorem acts_knows {phase : Phase} {acted : Acted} (acts : Acts db now phase acted)
    (knows : Knows db phase) : Knows acted.db acted.phase := by
  have kept := acts_kept acts
  cases acts with
  | read phase next saw => exact saw_knows saw knows
  | logged verified fresh => exact knows_afterRecord verified fresh
  | reconciled verified payment settledRef =>
    obtain ⟨row, member, same⟩ := paymentStored_kept kept knows
    exact knows_dispatch verified ⟨row, member, same.id, same.orderId, same.amountSatang⟩
  | settled verified payment _ _ settlement =>
    change Knows _ (afterSettle verified payment settlement.outcome)
    unfold afterSettle
    split
    · exact ⟨knows.1, paymentStored_kept kept knows.2⟩
    · trivial
  | failed verified payment =>
    change Knows _ (afterMarkFailed verified payment)
    unfold afterMarkFailed
    split
    · exact ⟨knows.1, paymentStored_kept kept knows.2⟩
    · trivial
  | claimed input payment =>
    exact ⟨_, Table.mem_insert.mpr (Or.inr rfl), rfl, rfl, rfl, rfl⟩
  | failedRefund origin refund reason moved =>
    exact knows_afterFailRefund reason moved knows.1
  | duplicateRefunded origin refund => exact knows_refundSettled refund origin
  | voided origin refund => exact knows_refundSettled refund origin
  | attempted _ _ started next answered =>
    change Knows _ next
    rw [answered]
    exact knows_afterAttempt started.gatewayRef _
  | acknowledged | queued | released | recordedPending | repointed => trivial

end Knowledge

/-! ## The ledger in step with itself -/

/-- Every reference of the ledger and of the calls in flight names a row that says the same. -/
structure Grounded (service : Service) : Prop where
  calls : ∀ call ∈ service.calls, Knows service.office.db call.phase
  refunds : ∀ refund ∈ service.office.db.ledger.refunds,
    ∃ payment ∈ service.office.db.ledger.payments, payment.id = refund.paymentId ∧
      payment.orderId = refund.orderId ∧ payment.amountSatang = refund.amountSatang ∧
      moneyIn payment
  payments : ∀ payment ∈ service.office.db.ledger.payments,
    ∃ order ∈ service.office.db.orders, order.id = payment.orderId ∧
      order.totalSatang = payment.amountSatang ∧ order.totalSatang ≠ 0
  paidAt : ∀ payment ∈ service.office.db.ledger.payments,
    payment.paidAt.isSome → moneyIn payment

/-- An event before its first order and its first payment. -/
structure Unpaid (service : Service) : Prop where
  orders : service.office.db.orders.rows = []
  payments : service.office.db.ledger.payments.rows = []
  refunds : service.office.db.ledger.refunds.rows = []
  webhookEvents : service.office.db.webhookEvents.rows = []
  calls : service.calls.rows = []
  queued : service.queued = fun _ => 0

theorem unpaid_grounded {service : Service} (unpaid : Unpaid service) : Grounded service where
  calls := fun _ stored => absurd stored (Table.not_mem_of_empty unpaid.calls _)
  refunds := fun _ stored => absurd stored (Table.not_mem_of_empty unpaid.refunds _)
  payments := fun _ stored => absurd stored (Table.not_mem_of_empty unpaid.payments _)
  paidAt := fun _ stored => absurd stored (Table.not_mem_of_empty unpaid.payments _)

/-- What holds of every call holds still once one of them has moved to a phase it holds of. -/
theorem forall_moveCall {calls : Table Call} {callId : Nat} {phase : Phase} {fact : Phase → Prop}
    (held : ∀ call ∈ calls, fact call.phase) (moved : fact phase) :
    ∀ call ∈ moveCall calls callId phase, fact call.phase := by
  intro call member
  obtain ⟨old, stored, rfl⟩ := Table.mem_update.mp member
  split
  · exact moved
  · exact held old stored

theorem refunds_kept {db after : Db} (kept : Kept db after) {refund : Refund}
    (referred : ∃ payment ∈ db.ledger.payments, payment.id = refund.paymentId ∧
      payment.orderId = refund.orderId ∧ payment.amountSatang = refund.amountSatang ∧
      moneyIn payment) :
    ∃ payment ∈ after.ledger.payments, payment.id = refund.paymentId ∧
      payment.orderId = refund.orderId ∧ payment.amountSatang = refund.amountSatang ∧
      moneyIn payment := by
  obtain ⟨row, member, id, orderId, amountSatang, received⟩ := referred
  obtain ⟨new, member', same, received'⟩ := kept.payments row member
  exact ⟨new, member', same.id.trans id, same.orderId.trans orderId,
    same.amountSatang.trans amountSatang, received' received⟩

theorem payments_kept {db after : Db} (kept : Kept db after) {payment : Payment}
    (referred : ∃ order ∈ db.orders, order.id = payment.orderId ∧
      order.totalSatang = payment.amountSatang ∧ order.totalSatang ≠ 0) :
    ∃ order ∈ after.orders, order.id = payment.orderId ∧
      order.totalSatang = payment.amountSatang ∧ order.totalSatang ≠ 0 := by
  obtain ⟨row, member, id, owed, owes⟩ := referred
  obtain ⟨new, member', same⟩ := kept.orders row member
  exact ⟨new, member', same.id.trans id, same.totalSatang.trans owed, by rwa [same.totalSatang]⟩

/-- Only a call's own step writes a payment or a refund. -/
theorem serve_ledger (service : Service) (turn : Turn) :
    ((serve service turn).office.db.ledger.payments = service.office.db.ledger.payments ∧
      (serve service turn).office.db.ledger.refunds = service.office.db.ledger.refunds) ∨
    ∃ callId answer call, turn = .advance callId answer ∧
      service.calls.find callId = some call ∧ serve service turn = advance service call answer := by
  cases turn with
  | checkout op free =>
    left
    simp [serve, (step_ledger service.office free).1]
  | invoicing | receive | crash => exact Or.inl ⟨rfl, rfl⟩
  | advance callId answer =>
    cases found : service.calls.find callId with
    | none =>
      left
      simp [serve, found]
    | some call => exact Or.inr ⟨callId, answer, call, rfl, found, by simp [serve, found]⟩

theorem invoicing_kept (service : Service) (write : Table Invoice → Table Invoice) :
    Kept service.office.db (serve service (.invoicing write)).office.db where
  payments := fun row member => ⟨row, member, ⟨rfl, rfl, rfl⟩, id⟩
  refunds := fun row member => ⟨row, member, ⟨rfl, rfl, rfl, rfl⟩⟩
  orders := fun row member => ⟨row, member, ⟨rfl, rfl⟩⟩

theorem serve_grounded (service : Service) (turn : Turn) (grounded : Grounded service) :
    Grounded (serve service turn) := by
  cases turn with
  | checkout op free =>
    have kept := step_kept service.office free
    have ledger := (step_ledger service.office free).1
    exact
      { calls := fun call member => knows_kept kept (grounded.calls call member)
        refunds := fun refund member =>
          refunds_kept kept (grounded.refunds refund (by simpa [serve, ledger] using member))
        payments := fun payment member =>
          payments_kept kept (grounded.payments payment (by simpa [serve, ledger] using member))
        paidAt := fun payment member =>
          grounded.paidAt payment (by simpa [serve, ledger] using member) }
  | invoicing write =>
    have kept := invoicing_kept service write
    exact
      { calls := fun call member => knows_kept kept (grounded.calls call member)
        refunds := grounded.refunds
        payments := grounded.payments
        paidAt := grounded.paidAt }
  | receive request =>
    refine ⟨fun call member => ?_, grounded.refunds, grounded.payments, grounded.paidAt⟩
    rcases Table.mem_insert.mp member with old | rfl
    · exact grounded.calls call old
    · cases request with
      | webhook verified =>
        simp only [Request.phase]
        split <;> trivial
      | refund | pay => trivial
  | crash callId =>
    exact ⟨forall_moveCall grounded.calls trivial, grounded.refunds, grounded.payments,
      grounded.paidAt⟩
  | advance callId answer =>
    simp only [serve]
    split
    next call found =>
      have acts := act_cases service.office.db service.office.clock answer call.phase
      have knows := grounded.calls call (Table.find_eq_some.mp found).1
      have kept := acts_kept acts
      refine ⟨?_, fun refund member => ?_, fun payment member => ?_, fun payment member => ?_⟩
      · exact forall_moveCall (fun call member => knows_kept kept (grounded.calls call member))
          (acts_knows acts knows)
      · rcases acts_refunds acts member with ⟨old, stored, moved⟩ | ⟨input, payment, at', _, rfl⟩
        · obtain ⟨_, paymentId, orderId, amountSatang⟩ := refundStep_same moved
          rw [paymentId, orderId, amountSatang]
          exact refunds_kept kept (grounded.refunds old stored)
        · rw [at'] at knows
          obtain ⟨row, stored, same, received⟩ := knows
          exact refunds_kept kept
            ⟨row, stored, same.id, same.orderId, same.amountSatang, received⟩
      · rcases acts_payments acts member with ⟨old, stored, moved⟩ | ⟨input, order, _, at', rfl⟩
        · obtain ⟨_, orderId, amountSatang⟩ := paymentStep_same moved
          rw [orderId, amountSatang]
          exact payments_kept kept (grounded.payments old stored)
        · rw [at'] at knows
          obtain ⟨owes, row, stored, same⟩ := knows
          exact payments_kept kept
            ⟨row, stored, same.id, same.totalSatang, by rwa [same.totalSatang]⟩
      · rcases acts_payments acts member with ⟨old, stored, moved⟩ | ⟨input, order, _, at', rfl⟩
        · exact paymentStep_paidAt moved (grounded.paidAt old stored)
        · exact fun stamped => by cases stamped
    · exact grounded

/-! ## Conditions on a run -/

/-- What the call is about to do. -/
def phaseOf (service : Service) (callId : Nat) : Phase :=
  match service.calls.find callId with
  | some call => call.phase
  | none => .done .crashed

/-- A condition on each step a call takes, in the state it is taken in. -/
def Stepping (condition : Service → Phase → Prop) (service : Service) : Turn → Prop
  | .advance callId _ => condition service (phaseOf service callId)
  | _ => True

theorem phaseOf_found {service : Service} {callId : Nat} {call : Call}
    (found : service.calls.find callId = some call) : phaseOf service callId = call.phase := by
  simp [phaseOf, found]

instance {condition : Service → Phase → Prop} [∀ service phase, Decidable (condition service phase)]
    (service : Service) (turn : Turn) : Decidable (Stepping condition service turn) :=
  match turn with
  | .advance callId _ => inferInstanceAs (Decidable (condition service (phaseOf service callId)))
  | .checkout _ _ | .invoicing _ | .receive _ | .crash _ => isTrue trivial

/-! ## A till, for concrete runs -/

/-- The box office before anybody has paid. -/
def till : Service where
  office := boxOffice
  calls := Table.empty
  queued := fun _ => 0

theorem till_unpaid : Unpaid till := ⟨rfl, rfl, rfl, rfl, rfl, rfl⟩

/-- An order for the one general place, which owes its price. -/
def sale : Turn := .checkout (.placeOrder (booking "sale" 0 0 none [] 1000 false)) trivial

/-- So many steps of one call. -/
def steps (callId count : Nat) : List Turn := List.replicate count (.advance callId {})

/-- An attempt to pay the first order, under the reference its key names. -/
def paying (callId : Nat) (key : String) : List Turn :=
  [.receive (.pay ⟨0, .card, key⟩), .advance callId {},
    .advance callId { started := some ⟨key, .requiresAction⟩ }, .advance callId {}]

/-- The provider's report that an attempt succeeded. -/
def success (eventId gatewayRef : String) : VerifiedWebhook where
  eventId := eventId
  type := .succeeded
  gatewayRef := gatewayRef
  amountSatang := 1000

/-- A success callback that runs to its end. -/
def landing (callId : Nat) (eventId gatewayRef : String) : List Turn :=
  .receive (.webhook (success eventId gatewayRef)) :: steps callId 4

/-- An organizer's request to refund a payment. -/
def refunding (paymentId : Nat) (key : String) : Turn :=
  .receive (.refund ⟨paymentId, key, 7⟩)

/-- The provider's answer that the money went back, and the call's own end. -/
def moneyBack (callId : Nat) (refundRef : String) : List Turn :=
  .advance callId { refunded := some { refundRef, status := .succeeded } } :: steps callId 2

/-- The sale paid for, and then refunded. -/
def soldAndRefunded : List Turn :=
  [sale] ++ paying 0 "pi_1" ++ landing 1 "evt_1" "pi_1" ++ [refunding 0 "first"] ++ steps 2 2 ++
    moneyBack 2 "re_1"

end EventaApi.Guarantees
