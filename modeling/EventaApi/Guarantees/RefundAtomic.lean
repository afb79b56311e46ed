import EventaApi.Guarantees.MoneyReferences

/-!
# A refund and its order move together

Whether a refund is of the order's last paid payment is decided in one transaction and
acted on in another. While no payment of the order lands between the two, and no
success lands on a refunded payment, a payment is refunded exactly when a refund of it
succeeded, and the order is voided in the transaction that takes its last paid payment.
-/
namespace EventaApi.Guarantees
open Library Source

/-- A refund found to be of this order's last paid payment, and not acted on yet. -/
def voiding (orderId : Nat) : Phase → Prop
  | .voidOrder _ refund _ => refund.orderId = orderId
  | _ => False

instance (orderId : Nat) (phase : Phase) : Decidable (voiding orderId phase) := by
  unfold voiding
  split <;> infer_instance

/-- A success lands neither on a refunded payment nor in the middle of its order's refund. -/
def LandsApart (service : Service) : Phase → Prop
  | .settle _ payment =>
    (∀ row ∈ service.office.db.ledger.payments.rows, row.id = payment.id →
      row.status ≠ .refunded) ∧
    ∀ call ∈ service.calls.rows, ¬ voiding payment.orderId call.phase
  | _ => True

instance (service : Service) : (phase : Phase) → Decidable (LandsApart service phase)
  | .settle _ _ => inferInstanceAs (Decidable ((∀ _ ∈ _, _) ∧ ∀ _ ∈ _, _))
  | .record _ | .lookup _ | .reconcile _ _ _ | .checkDuplicate _ _ | .queueRefund _ _
  | .markFailed _ _ | .releaseHolds _ _ | .acknowledge _ _ | .findRefund _ | .lostRace _
  | .requireRefundable _ | .claim _ _ | .askProvider _ _ | .failRefund _ _ _
  | .recordPending _ _ | .settleDuplicate _ _ _ | .voidOrder _ _ _ | .requirePayable _
  | .startPayment _ _ | .attempt _ _ _ | .repoint _ _ | .done _ => isTrue trivial

/-! ## A refund's row is finished once -/

theorem refundStep_final {phase : Phase} {old new : Refund} (moved : RefundStep phase old new)
    (final : old.status ≠ .pending) : new = old := by
  cases moved with
  | same => rfl
  | referenced _ _ pending | failed _ _ pending | succeeded _ _ _ _ pending =>
    exact absurd pending final

theorem serve_finalRefund {id : Nat} {refund : Refund} (final : refund.status ≠ .pending)
    (service : Service) (turn : Turn)
    (found : service.office.db.ledger.refunds.find id = some refund) :
    (serve service turn).office.db.ledger.refunds.find id = some refund := by
  rcases serve_ledger service turn with ⟨_, same⟩ | ⟨callId, answer, call, rfl, _, served⟩
  · rwa [same]
  · rw [served]
    obtain ⟨new, found', moved⟩ := acts_refund (act_cases _ _ answer call.phase) found
    rwa [refundStep_final moved final] at found'

/-! ## Refunded exactly when a refund succeeded -/

section Ledger

variable {db : Db} {now : Instant} {phase : Phase} {acted : Acted}

/-- A step that finishes a refund leaves both tables alone, or flips both. -/
theorem acts_finishing (acts : Acts db now phase acted) {ledger : MarkRefundedInput}
    (finishes : finishing phase = some ledger) :
    (acted.db.ledger.payments = db.ledger.payments ∧
      acted.db.ledger.refunds = db.ledger.refunds) ∨
    (refundPending db.ledger.refunds ledger.refundId = true ∧
      acted.db.ledger.payments = (refundedLedger db.ledger ledger).payments ∧
      acted.db.ledger.refunds = (refundedLedger db.ledger ledger).refunds) := by
  cases acts with
  | read => exact Or.inl ⟨rfl, rfl⟩
  | duplicateRefunded origin refund input _ pending =>
    cases finishes
    exact Or.inr ⟨pending, rfl, rfl⟩
  | voided origin refund input _ _ pending =>
    cases finishes
    exact Or.inr ⟨pending, rfl, rfl⟩
  | _ => cases finishes

/-- A payment is refunded exactly when a refund of it succeeded. -/
def RefundedExactly (db : Db) : Prop :=
  ∀ payment ∈ db.ledger.payments, payment.status = .refunded ↔
    ∃ refund ∈ db.ledger.refunds, refund.paymentId = payment.id ∧ refund.status = .succeeded

/-- What a phase that finishes a refund knows: the row it flips is of the payment it flips. -/
theorem finishing_known {ledger : MarkRefundedInput} (knows : Knows db phase)
    (finishes : finishing phase = some ledger) :
    ∃ row ∈ db.ledger.refunds, row.id = ledger.refundId ∧ row.paymentId = ledger.paymentId := by
  cases phase with
  | settleDuplicate _ refund | voidOrder _ refund =>
    cases finishes
    obtain ⟨_, ⟨row, member, same⟩, refundId, paymentId⟩ := knows
    exact ⟨row, member, same.id.trans refundId.symm, same.paymentId.trans paymentId.symm⟩
  | _ => cases finishes

/-- Flipping both together keeps them in step. -/
theorem refundedExactly_flip {ledger : MarkRefundedInput} {after : Db}
    (exactly : RefundedExactly db) (pending : refundPending db.ledger.refunds ledger.refundId = true)
    (named : ∃ row ∈ db.ledger.refunds, row.id = ledger.refundId ∧
      row.paymentId = ledger.paymentId)
    (payments : after.ledger.payments = (refundedLedger db.ledger ledger).payments)
    (refunds : after.ledger.refunds = (refundedLedger db.ledger ledger).refunds) :
    RefundedExactly after := by
  obtain ⟨row, stored, id, paymentId⟩ := named
  obtain ⟨other, stored', id', waiting⟩ := refundPending_iff.mp pending
  have same : other = row := Table.eq_of_key stored' stored (id'.trans id.symm)
  subst same
  -- The flipped row is the one refund of this payment that now succeeded.
  have flipped : succeededRefund ledger other ∈ after.ledger.refunds := by
    rw [refunds]
    exact Table.mem_update_of_hit stored ⟨id, waiting⟩
  intro payment member
  rw [payments] at member
  rcases Table.mem_update_cases member with ⟨old, before, mine, rfl⟩ | ⟨before, mine⟩
  · refine ⟨fun _ => ⟨_, flipped, paymentId.trans mine.symm, rfl⟩, fun _ => rfl⟩
  · rw [exactly payment before]
    constructor
    · rintro ⟨refund, held, ofOld, succeeded⟩
      refine ⟨refund, ?_, ofOld, succeeded⟩
      rw [refunds]
      exact Table.mem_update_of_miss held fun hit => by simp [succeeded] at hit
    · rintro ⟨refund, held, ofOld, succeeded⟩
      rw [refunds] at held
      obtain ⟨was, stored'', rfl⟩ := Table.mem_update.mp held
      by_cases hit : was.id = ledger.refundId ∧ was.status = .pending
      · have again : was = other := Table.eq_of_key stored'' stored (hit.1.trans id.symm)
        rw [if_pos hit, again] at ofOld
        exact absurd (ofOld.symm.trans paymentId) mine
      · rw [if_neg hit] at ofOld succeeded
        exact ⟨was, stored'', ofOld, succeeded⟩

/-- Every other step keeps what is refunded and what succeeded. -/
theorem refundedExactly_keep (exactly : RefundedExactly db) (acts : Acts db now phase acted)
    (idle : finishing phase = none)
    (referred : ∀ refund ∈ db.ledger.refunds,
      ∃ payment ∈ db.ledger.payments, payment.id = refund.paymentId)
    (apart : ∀ verified read, phase = .settle verified read → ∀ row ∈ db.ledger.payments,
      row.id = read.id → row.status ≠ .refunded) : RefundedExactly acted.db := by
  have payment_kept {old new : Payment} (stored : old ∈ db.ledger.payments)
      (moved : PaymentStep phase old new) : new.status = .refunded ↔ old.status = .refunded := by
    cases moved with
    | same | repointed => exact Iff.rfl
    | paid verified read _ _ _ named =>
      have unreturned := apart verified read rfl old stored named.symm
      simp [unreturned]
    | failed _ _ _ pending => simp [pending]
    | refunded _ _ _ finishes =>
      rw [idle] at finishes
      cases finishes
  have refund_kept {old new : Refund} (moved : RefundStep phase old new) :
      new.status = .succeeded ↔ old.status = .succeeded := by
    cases moved with
    | same | referenced => exact Iff.rfl
    | failed _ _ pending => simp [pending]
    | succeeded _ _ finishes =>
      rw [idle] at finishes
      cases finishes
  intro payment member
  rcases acts_payments acts member with ⟨old, before, moved⟩ | ⟨input, order, started, at', rfl⟩
  · have same := paymentStep_same moved
    rw [payment_kept before moved, exactly old before]
    constructor
    · rintro ⟨refund, held, ofOld, succeeded⟩
      obtain ⟨new, found, moved'⟩ := acts_refund acts (Table.find_key held)
      have again := refundStep_same moved'
      exact ⟨new, (Table.find_eq_some.mp found).1,
        again.paymentId.trans (ofOld.trans same.id.symm), (refund_kept moved').mpr succeeded⟩
    · rintro ⟨refund, held, ofNew, succeeded⟩
      rcases acts_refunds acts held with ⟨was, stored, moved'⟩ | ⟨_, _, _, _, rfl⟩
      · have again := refundStep_same moved'
        exact ⟨was, stored, again.paymentId.symm.trans (ofNew.trans same.id),
          (refund_kept moved').mp succeeded⟩
      · cases succeeded
  · -- A new attempt has no refund: every refund is of a payment that was there before it.
    have waiting : (attemptInput input order started).status ≠ .refunded := by
      rcases (attemptInput input order started).attempted with same | same <;> simp [same]
    refine iff_of_false waiting ?_
    rintro ⟨refund, held, ofNew, succeeded⟩
    rcases acts_refunds acts held with ⟨was, stored, moved⟩ | ⟨_, _, _, _, rfl⟩
    · obtain ⟨row, there, named⟩ := referred was stored
      have below : row.id < db.ledger.payments.next := Table.key_lt_next there
      have next : refund.paymentId = db.ledger.payments.next := ofNew
      have again := (refundStep_same moved).paymentId
      omega
    · cases succeeded

end Ledger

/-! ## The order's last paid payment -/

/-- A refund about to void its order is of the only payment that covers it. -/
def VoidsLast (service : Service) : Prop :=
  ∀ call ∈ service.calls, ∀ origin refund ledger, call.phase = .voidOrder origin refund ledger →
    otherPaidPaymentExists service.office.db.ledger.payments refund.orderId ledger.paymentId = false

/-- A call comes to void an order only by having found its payment alone. -/
theorem acts_voidOrder {db : Db} {now : Instant} {phase : Phase} {acted : Acted}
    (acts : Acts db now phase acted) {origin : Origin} {refund : Refund}
    {ledger : MarkRefundedInput} (next : acted.phase = .voidOrder origin refund ledger) :
    otherPaidPaymentExists db.ledger.payments refund.orderId ledger.paymentId = false ∧
      acted.db = db := by
  cases acts with
  | read phase next saw =>
    cases saw with
    | sole _ _ _ alone =>
      cases next
      exact ⟨alone, rfl⟩
    | looked _ payment => cases payment <;> grind [afterLookup, dispatch, onSucceeded]
    | refundReported _ _ found => cases found <;> grind [completePending]
    | racedBy _ current => cases current <;> grind [afterLostRace]
    | answered _ _ _ outcome => cases outcome <;> grind [afterProvider]
    | attemptedBefore _ _ _ payment => cases payment <;> grind [afterAttempt]
    | lostDuplicate origin | lostVoid origin => cases origin <;> cases next
    | recorded => grind [afterRecord]
    | replayed => grind [replay]
    | _ => cases next
  | logged => grind [afterRecord]
  | reconciled => grind [dispatch, onSucceeded]
  | settled => grind [afterSettle]
  | failed => grind [afterMarkFailed]
  | failedRefund origin _ _ moved => cases origin <;> cases moved <;> cases next
  | duplicateRefunded origin | voided origin => cases origin <;> cases next
  | attempted => grind [afterAttempt]
  | _ => cases next

/-- A payment comes to be paid only by a settlement of its own order. -/
theorem acts_paid {db : Db} {now : Instant} {phase : Phase} {acted : Acted}
    (acts : Acts db now phase acted) (knows : Knows db phase) {payment : Payment}
    (member : payment ∈ acted.db.ledger.payments) (paid : payment.status = .paid) :
    (∃ old ∈ db.ledger.payments, SamePayment payment old ∧ old.status = .paid) ∨
      ∃ verified read, phase = .settle verified read ∧ read.id = payment.id ∧
        read.orderId = payment.orderId := by
  rcases acts_payments acts member with ⟨old, stored, moved⟩ | ⟨input, order, started, _, rfl⟩
  · have same := paymentStep_same moved
    cases moved with
    | same | repointed => exact Or.inl ⟨_, stored, same, paid⟩
    | paid verified read _ _ _ named =>
      obtain ⟨row, stored', same'⟩ := knows.2
      have again : row = old := Table.eq_of_key stored' stored (same'.id.trans named)
      subst again
      exact Or.inr ⟨verified, read, rfl, named, same'.orderId.symm⟩
    | failed | refunded => cases paid
  · have waiting := (attemptInput input order started).attempted
    have status : (attemptInput input order started).status = .paid := paid
    rcases waiting with same | same <;> rw [same] at status <;> cases status

theorem serve_voidsLast (service : Service) (turn : Turn) (grounded : Grounded service)
    (last : VoidsLast service) (apart : Stepping LandsApart service turn) :
    VoidsLast (serve service turn) := by
  cases turn with
  | checkout op free =>
    intro call member origin refund ledger at'
    have kept := last call member origin refund ledger at'
    simpa [serve, (step_ledger service.office free).1] using kept
  | invoicing => exact last
  | receive request =>
    intro call member origin refund ledger at'
    rcases Table.mem_insert.mp member with old | rfl
    · exact last call old origin refund ledger at'
    · cases request with
      | webhook verified =>
        simp only [Request.phase] at at'
        split at at' <;> cases at'
      | refund | pay => cases at'
  | crash callId =>
    intro call member origin refund ledger at'
    obtain ⟨old, stored, rfl⟩ := Table.mem_update.mp member
    split at at'
    · cases at'
    next other =>
      rw [if_neg other] at member
      exact last old stored origin refund ledger at'
  | advance callId answer =>
    simp only [serve]
    split
    next acting found =>
      have acts := act_cases service.office.db service.office.clock answer acting.phase
      have knows := grounded.calls acting (Table.find_eq_some.mp found).1
      have condition : LandsApart service (phaseOf service callId) := apart
      rw [phaseOf_found found] at condition
      intro call member origin refund ledger at'
      rcases Table.mem_update_cases member with ⟨old, stored, mine, rfl⟩ | ⟨stored, mine⟩
      · obtain ⟨alone, same⟩ := acts_voidOrder acts at'
        change otherPaidPaymentExists (act _ _ _ _).db.ledger.payments _ _ = false
        rw [same]
        exact alone
      · by_contra covered
        obtain ⟨payment, member', ofOrder, paid, other⟩ :=
          otherPaidPaymentExists_iff.mp (Bool.eq_true_of_not_eq_false covered)
        rcases acts_paid acts knows member' paid with
          ⟨was, before, same, alreadyPaid⟩ | ⟨verified, read, at'', _, sameOrder⟩
        · have exists' := otherPaidPaymentExists_iff.mpr ⟨was, before,
            same.orderId.symm.trans ofOrder, alreadyPaid, fun clash => other (same.id.trans clash)⟩
          rw [last call stored origin refund ledger at'] at exists'
          cases exists'
        · rw [at''] at condition
          refine condition.2 call stored ?_
          rw [at']
          exact ofOrder.symm.trans sameOrder.symm
    · exact last

/-! ## Voiding the order -/

/-- The order is taken back whole: its tickets, their seats, its stock and its invoices. -/
structure Voided (before after : Db) (order : Order) : Prop where
  tickets : ∀ ticket ∈ after.tickets, ticket.orderId = order.id → ¬ ticket.live
  seats : ∀ assignment ∈ after.seatAssignments,
    assignment.ticketId ∈ (liveTickets before order.id).map Ticket.id →
      assignment.releasedAt ≠ none
  stock : after.ticketTypes = refundedStock before order
  invoices : ∀ invoice ∈ after.ledger.invoices, invoice.orderId = order.id →
    invoice.status = .void
  order : after.orders.find order.id = some (refundedOrder order order)

/-- The transaction that marks the order's last paid payment refunded, and voids the order. -/
structure RefundedLast (before after : Db) (payment : Payment) (order : Order) : Prop where
  mine : order.id = payment.orderId
  alone : otherPaidPaymentExists before.ledger.payments payment.orderId payment.id = false
  refunded : ∀ row ∈ after.ledger.payments, row.id = payment.id → row.status = .refunded
  voided : Voided before after order

theorem refundedDb_voided {db : Db} {order : Order} {ledger : Ledger} {now : Instant}
    {voidedBy : Nat} {voidedAt : Instant} (stored : order ∈ db.orders) :
    Voided db (refundedDb db order { ledger with
      invoices := voidForRefundIn db.ledger.invoices order.id voidedBy voidedAt } now) order where
  tickets := by
    intro ticket member mine live
    rcases Table.mem_update_cases member with ⟨old, _, hit, rfl⟩ | ⟨_, hit⟩
    · simp [Ticket.live] at live
    · exact hit ⟨mine, live⟩
  seats := by
    intro assignment member mine released
    rcases Table.mem_update_cases member with ⟨old, _, hit, rfl⟩ | ⟨_, hit⟩
    · cases released
    · exact hit ⟨mine, released⟩
  stock := rfl
  invoices := by
    intro invoice member mine
    rcases Table.mem_update_cases member with ⟨old, _, hit, rfl⟩ | ⟨_, hit⟩
    · rfl
    · by_contra open'
      exact hit ⟨mine, open'⟩
  order := by
    change (db.orders.update _ _).find order.id = _
    rw [Table.find_update, show db.orders.find order.id = some order from Table.find_key stored]
    simp

/-- The payment a refund is of, and the order it is for. -/
theorem refund_payment {service : Service} (grounded : Grounded service) {refund : Refund}
    {ledger : MarkRefundedInput} (stored : RefundStored service.office.db refund)
    (named : ledger.paymentId = refund.paymentId) :
    ∃ payment ∈ service.office.db.ledger.payments, payment.id = ledger.paymentId ∧
      payment.orderId = refund.orderId := by
  obtain ⟨row, member, same⟩ := stored
  obtain ⟨payment, there, id, orderId, _⟩ := grounded.refunds row member
  exact ⟨payment, there, (id.trans same.paymentId).trans named.symm, orderId.trans same.orderId⟩

/-- Finishing a refund leaves both ledgers alone, flips a covered payment, or voids the order. -/
theorem acts_finish {service : Service} {now : Instant} {phase : Phase} {acted : Acted}
    (acts : Acts service.office.db now phase acted) (grounded : Grounded service)
    (knows : Knows service.office.db phase)
    (last : ∀ origin refund ledger, phase = .voidOrder origin refund ledger →
      otherPaidPaymentExists service.office.db.ledger.payments refund.orderId ledger.paymentId =
        false)
    {ledger : MarkRefundedInput} (finishes : finishing phase = some ledger) :
    acted.db = service.office.db ∨
    ∃ payment ∈ service.office.db.ledger.payments, payment.id = ledger.paymentId ∧
      refundPending service.office.db.ledger.refunds ledger.refundId = true ∧
      ((otherPaidPaymentExists service.office.db.ledger.payments payment.orderId payment.id =
          true ∧ Untouched service.office.db acted.db) ∨
        ∃ order ∈ service.office.db.orders,
          RefundedLast service.office.db acted.db payment order) := by
  cases acts with
  | read => exact Or.inl rfl
  | duplicateRefunded origin refund input covered pending =>
    cases finishes
    obtain ⟨payment, there, id, orderId⟩ := refund_payment grounded knows.2.1 knows.2.2.2
    refine Or.inr ⟨payment, there, id, pending, Or.inl ⟨?_, rfl, rfl, rfl, rfl, rfl, rfl, rfl⟩⟩
    rw [orderId, id]
    exact covered
  | voided origin refund input order found pending =>
    cases finishes
    obtain ⟨payment, there, id, orderId⟩ := refund_payment grounded knows.2.1 knows.2.2.2
    obtain ⟨stored, named⟩ := Table.find_eq_some.mp found
    have named : order.id = refund.orderId := named
    refine Or.inr ⟨payment, there, id, pending, Or.inr ⟨order, stored, ?_⟩⟩
    exact
      { mine := named.trans orderId.symm
        alone := by
          rw [orderId, id]
          exact last origin refund ledger rfl
        refunded := by
          intro row member mine
          obtain ⟨old, _, rfl⟩ := Table.mem_update.mp member
          have hit : old.id = ledger.paymentId := by
            rw [← id, ← mine]
            split <;> rfl
          rw [if_pos hit]
        voided := by
          rw [← named]
          exact refundedDb_voided stored }
  | _ => cases finishes

/-! ## What every step preserves -/

structure RefundsInStep (service : Service) : Prop where
  grounded : Grounded service
  exactly : RefundedExactly service.office.db
  last : VoidsLast service

theorem unpaid_refundsInStep {service : Service} (unpaid : Unpaid service) :
    RefundsInStep service where
  grounded := unpaid_grounded unpaid
  exactly := fun _ stored => absurd stored (Table.not_mem_of_empty unpaid.payments _)
  last := fun _ stored => absurd stored (Table.not_mem_of_empty unpaid.calls _)

theorem serve_exactly (service : Service) (turn : Turn) (grounded : Grounded service)
    (exactly : RefundedExactly service.office.db) (apart : Stepping LandsApart service turn) :
    RefundedExactly (serve service turn).office.db := by
  rcases serve_ledger service turn with
    ⟨payments, refunds⟩ | ⟨callId, answer, call, rfl, found, served⟩
  · unfold RefundedExactly
    rw [payments, refunds]
    exact exactly
  · rw [served]
    have acts := act_cases service.office.db service.office.clock answer call.phase
    have knows := grounded.calls call (Table.find_eq_some.mp found).1
    have condition : LandsApart service (phaseOf service callId) := apart
    rw [phaseOf_found found] at condition
    change RefundedExactly (act _ _ _ _).db
    cases finishes : finishing call.phase with
    | none =>
      refine refundedExactly_keep exactly acts finishes (fun refund stored => ?_)
        fun verified read at' => ?_
      · obtain ⟨payment, there, named, _⟩ := grounded.refunds refund stored
        exact ⟨payment, there, named⟩
      · rw [at'] at condition
        exact condition.1
    | some ledger =>
      rcases acts_finishing acts finishes with ⟨payments, refunds⟩ | ⟨pending, payments, refunds⟩
      · unfold RefundedExactly
        rw [payments, refunds]
        exact exactly
      · exact refundedExactly_flip exactly pending (finishing_known knows finishes) payments refunds

theorem serve_refundsInStep (service : Service) (turn : Turn) (inStep : RefundsInStep service)
    (apart : Stepping LandsApart service turn) : RefundsInStep (serve service turn) where
  grounded := serve_grounded service turn inStep.grounded
  exactly := serve_exactly service turn inStep.grounded inStep.exactly apart
  last := serve_voidsLast service turn inStep.grounded inStep.last apart

/-- The work of a refund request or of a refund's callback, and no payment's. -/
def refundWork : Phase → Prop
  | .requireRefundable _ | .claim _ _ | .askProvider _ _ | .failRefund _ _ _
  | .recordPending _ _ | .findRefund _ | .lostRace _ | .settleDuplicate _ _ _
  | .voidOrder _ _ _ => True
  | _ => False

/-- The provider refused the refund, or another call finished its row first. -/
def refundLoses (db : Db) : Phase → Prop
  | .failRefund _ _ _ | .lostRace _ => True
  | .settleDuplicate _ _ ledger | .voidOrder _ _ ledger =>
    refundPending db.ledger.refunds ledger.refundId = false
  | _ => False

/-- What one more step does to a payment it refunds, and to the order of any refund it works on. -/
structure AtomicStep (before after : Db) (phase : Phase) : Prop where
  refunding : ∀ payment ∈ before.ledger.payments, payment.status ≠ .refunded →
    ∀ row ∈ after.ledger.payments, row.id = payment.id → row.status = .refunded →
      (otherPaidPaymentExists before.ledger.payments payment.orderId payment.id = true ∧
        Untouched before after) ∨
      ∃ order ∈ before.orders, RefundedLast before after payment order
  working : refundWork phase → Untouched before after ∨
    ∃ payment ∈ before.ledger.payments, ∃ order ∈ before.orders,
      RefundedLast before after payment order
  losing : refundLoses before phase → Untouched before after

theorem acts_atomic {service : Service} {now : Instant} {phase : Phase} {acted : Acted}
    (acts : Acts service.office.db now phase acted) (grounded : Grounded service)
    (knows : Knows service.office.db phase)
    (last : ∀ origin refund ledger, phase = .voidOrder origin refund ledger →
      otherPaidPaymentExists service.office.db.ledger.payments refund.orderId ledger.paymentId =
        false) : AtomicStep service.office.db acted.db phase where
  refunding := by
    intro payment stored unreturned row member same refunded
    obtain ⟨new, found, moved⟩ := acts_payment acts (Table.find_key stored)
    have again : new = row :=
      Table.eq_of_key (Table.find_eq_some.mp found).1 member
        ((Table.find_eq_some.mp found).2.trans same.symm)
    subst again
    cases finishes : finishing phase with
    | none =>
      cases moved with
      | same | repointed => exact absurd refunded unreturned
      | paid | failed => cases refunded
      | refunded _ _ _ finishes' =>
        rw [finishes] at finishes'
        cases finishes'
    | some ledger =>
      have mine : ledger.paymentId = payment.id := by
        cases moved with
        | same | repointed => exact absurd refunded unreturned
        | paid | failed => cases refunded
        | refunded _ _ _ finishes' named =>
          rw [finishes] at finishes'
          cases finishes'
          exact named
      rcases acts_finish acts grounded knows last finishes with
        same' | ⟨other, there, id, _, outcome⟩
      · rw [same'] at member
        have kept : new = payment := Table.eq_of_key member stored same
        rw [kept] at refunded
        exact absurd refunded unreturned
      · have equal : other = payment := Table.eq_of_key there stored (id.trans mine)
        rwa [equal] at outcome
  working := by
    intro work
    cases finishes : finishing phase with
    | none =>
      left
      refine acts_untouched acts ?_
      cases phase <;> first | rfl | exact work.elim | cases finishes
    | some ledger =>
      rcases acts_finish acts grounded knows last finishes with
        same | ⟨payment, there, _, _, covered | ⟨order, stored, refunded⟩⟩
      · rw [same]
        exact Or.inl (untouched_refl _)
      · exact Or.inl covered.2
      · exact Or.inr ⟨payment, there, order, stored, refunded⟩
  losing := by
    intro loses
    cases finishes : finishing phase with
    | none =>
      refine acts_untouched acts ?_
      cases phase <;> first | rfl | exact loses.elim | cases finishes
    | some ledger =>
      rcases acts_finish acts grounded knows last finishes with same | ⟨_, _, _, pending, _⟩
      · rw [same]
        exact untouched_refl _
      · have raced : refundPending service.office.db.ledger.refunds ledger.refundId = false := by
          cases phase with
          | settleDuplicate | voidOrder =>
            cases finishes
            exact loses
          | _ => cases finishes
        rw [pending] at raced
        cases raced

/-- While successes land apart from refunds, a refund and its order move together. -/
theorem refund_atomic {service : Service} (unpaid : Unpaid service) {turns : List Turn}
    (meets : Meets serve (Stepping LandsApart) service turns) :
    let reached := run serve service turns
    (∀ id refund later, reached.office.db.ledger.refunds.find id = some refund →
      refund.status ≠ .pending →
        (run serve reached later).office.db.ledger.refunds.find id = some refund) ∧
    RefundedExactly reached.office.db ∧
    ∀ callId answer, AtomicStep reached.office.db
      (serve reached (.advance callId answer)).office.db (phaseOf reached callId) := by
  have inStep : RefundsInStep (run serve service turns) :=
    run_invariant serve_refundsInStep (unpaid_refundsInStep unpaid) meets
  refine ⟨fun id refund later found final => ?_, inStep.exactly, fun callId answer => ?_⟩
  · exact run_invariant_always (serve_finalRefund final) later found
  · cases found : (run serve service turns).calls.find callId with
    | none =>
      have idle : phaseOf (run serve service turns) callId = .done .crashed := by
        simp [phaseOf, found]
      simp only [serve, found, idle]
      exact acts_atomic (@Acts.read _ (run serve service turns).office.clock _ _ (.done .crashed))
        inStep.grounded trivial fun _ _ _ clash => by cases clash
    | some call =>
      rw [phaseOf_found found]
      simp only [serve, found]
      have stored := (Table.find_eq_some.mp found).1
      exact acts_atomic (act_cases _ _ answer call.phase) inStep.grounded
        (inStep.grounded.calls call stored) fun origin refund ledger at' =>
          inStep.last call stored origin refund ledger at'

/-- After a sale and its refund, the payment is refunded because its refund succeeded. -/
theorem refund_atomic_till : RefundedExactly (run serve till soldAndRefunded).office.db :=
  (refund_atomic till_unpaid (by decide +kernel)).2.1

/-- Two attempts for one order; the second lands while the first's refund decides to void. -/
def voidedUnderneath : List Turn :=
  [sale] ++ paying 0 "pi_1" ++ paying 1 "pi_2" ++ landing 2 "evt_1" "pi_1" ++
    [refunding 0 "first"] ++ steps 3 2 ++
    [.advance 3 { refunded := some { refundRef := "re_1", status := .succeeded } }] ++ steps 3 1 ++
    [.receive (.webhook (success "evt_2" "pi_2"))] ++ steps 4 3

/-- The order is voided although its second payment is paid. -/
theorem order_voided_while_paid :
    let reached := run serve till voidedUnderneath
    let served := serve reached (.advance 3 {})
    (reached.office.db.ledger.payments.find 1).map Payment.status = some .paid ∧
      (reached.office.db.orders.find 0).map Order.status = some .confirmed ∧
      (served.office.db.ledger.payments.find 1).map Payment.status = some .paid ∧
      (served.office.db.orders.find 0).map Order.status = some .cancelled ∧
      served.office.db.tickets.rows.map Ticket.status = [.refunded] := by
  decide +kernel

end EventaApi.Guarantees
