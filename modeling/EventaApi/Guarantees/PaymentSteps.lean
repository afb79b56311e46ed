import EventaApi.Source.PaymentFlows

/-!
# What one step of a payment flow does

The inversion rule of `act`: a step reads, or makes one of fifteen writes. From it,
how the ledger's rows move: a payment in one of four ways, a refund in one of three,
and only the failing of an attempt and the finishing of a refund look at the status
they move a row from.
-/
namespace EventaApi.Guarantees
open Library Source

/-- What a step that writes nothing read, and where it goes from there. -/
inductive Saw (db : Db) : Phase → Phase → Prop where
  | recorded (verified : VerifiedWebhook) (fresh : Bool) :
      Saw db (.record verified) (afterRecord verified fresh)
  | looked (verified : VerifiedWebhook) (payment : Option Payment)
      (found : findByGatewayRef db.ledger.payments verified.gatewayRef = payment) :
      Saw db (.lookup verified) (afterLookup verified payment)
  | unsettled (verified : VerifiedWebhook) (payment : Payment) (error : TxError) :
      Saw db (.settle verified payment) (.done (.thrown error))
  | duplicate (verified : VerifiedWebhook) (payment : Payment)
      (other : otherPaidPaymentExists db.ledger.payments payment.orderId payment.id = true) :
      Saw db (.checkDuplicate verified payment) (.queueRefund verified payment)
  | unduplicated (verified : VerifiedWebhook) (payment : Payment)
      (alone : otherPaidPaymentExists db.ledger.payments payment.orderId payment.id = false) :
      Saw db (.checkDuplicate verified payment) (.acknowledge verified .processed)
  | orderGone (verified : VerifiedWebhook) (payment : Payment) (error : TxError)
      (missing : db.orders.find payment.orderId = none) :
      Saw db (.queueRefund verified payment) (.done (.thrown error))
  | refundReported (verified : VerifiedWebhook) (now : Instant) (refund : Option Refund)
      (found : findRefundByGatewayRef db.ledger.refunds verified.gatewayRef = refund) :
      Saw db (.findRefund verified) (completePending verified now refund)
  | racedBy (verified : VerifiedWebhook) (current : Option Refund) :
      Saw db (.lostRace verified) (afterLostRace verified current)
  | refundable (input : RefundPaymentRequest) (payment : Payment)
      (found : db.ledger.payments.find input.paymentId = some payment)
      (paid : payment.status = .paid) :
      Saw db (.requireRefundable input) (.claim input payment)
  | unrefundable (input : RefundPaymentRequest) (reply : Reply) :
      Saw db (.requireRefundable input) (.done reply)
  | replayed (input : RefundPaymentRequest) (payment : Payment) (refund : Refund)
      (found : refund ∈ db.ledger.refunds) :
      Saw db (.claim input payment) (replay payment refund)
  | unclaimed (input : RefundPaymentRequest) (payment : Payment) (reply : Reply) :
      Saw db (.claim input payment) (.done reply)
  | answered (payment : Payment) (refund : Refund) (now : Instant)
      (outcome : Option RefundedPayment) :
      Saw db (.askProvider payment refund) (afterProvider refund now outcome)
  | sole (origin : Origin) (refund : Refund) (ledger : MarkRefundedInput)
      (alone : otherPaidPaymentExists db.ledger.payments refund.orderId ledger.paymentId = false) :
      Saw db (.settleDuplicate origin refund ledger) (.voidOrder origin refund ledger)
  | lostDuplicate (origin : Origin) (refund : Refund) (ledger : MarkRefundedInput) :
      Saw db (.settleDuplicate origin refund ledger) (refundLost origin)
  | lostVoid (origin : Origin) (refund : Refund) (ledger : MarkRefundedInput) :
      Saw db (.voidOrder origin refund ledger) (refundLost origin)
  | unvoided (origin : Origin) (refund : Refund) (ledger : MarkRefundedInput) (reply : Reply) :
      Saw db (.voidOrder origin refund ledger) (.done reply)
  | payable (input : PayOrderInput) (order : Order)
      (found : db.orders.find input.orderId = some order) (owes : order.totalSatang ≠ 0) :
      Saw db (.requirePayable input) (.startPayment input order)
  | unpayable (input : PayOrderInput) (reply : Reply) :
      Saw db (.requirePayable input) (.done reply)
  | started (input : PayOrderInput) (order : Order) (started : StartedPayment) :
      Saw db (.startPayment input order) (.attempt input order started)
  | unstarted (input : PayOrderInput) (order : Order) (reply : Reply) :
      Saw db (.startPayment input order) (.done reply)
  | attemptedBefore (input : PayOrderInput) (order : Order) (started : StartedPayment)
      (payment : Option Payment) :
      Saw db (.attempt input order started) (afterAttempt started.gatewayRef payment)
  | unattempted (input : PayOrderInput) (order : Order) (started : StartedPayment)
      (reply : Reply) :
      Saw db (.attempt input order started) (.done reply)
  | done (reply : Reply) : Saw db (.done reply) (.done reply)

/-- What a step did. -/
inductive Acts (db : Db) (now : Instant) : Phase → Acted → Prop where
  | read (phase next : Phase) (saw : Saw db phase next) :
      Acts db now phase { db, phase := next }
  | logged (verified : VerifiedWebhook) (fresh : Bool) :
      Acts db now (.record verified)
        { db := { db with webhookEvents := db.webhookEvents.insert fun id =>
            { id, provider := PROVIDER_NAME, providerEventId := verified.eventId
              eventType := verified.type } }
          phase := afterRecord verified fresh }
  | acknowledged (verified : VerifiedWebhook) (status : WebhookStatus) :
      Acts db now (.acknowledge verified status)
        { db := { db with
            webhookEvents := markWebhookProcessed db.webhookEvents verified.eventId status }
          phase := .done .received }
  | reconciled (verified : VerifiedWebhook) (payment : Payment) (settledRef : String) :
      Acts db now (.reconcile verified payment settledRef)
        { db := { db with
            ledger.payments := updateGatewayRef db.ledger.payments payment.id settledRef }
          phase := dispatch verified { payment with gatewayRef := some settledRef } }
  | settled (verified : VerifiedWebhook) (payment : Payment) (mintQrToken : Nat → String)
      (order : Order) (settlement : Settlement) (after : Db)
      (found : db.orders.find payment.orderId = some order)
      (settles : Settled db (settlementInput payment mintQrToken now) order now settlement after) :
      Acts db now (.settle verified payment)
        { db := after
          phase := afterSettle verified payment settlement.outcome
          queued := if settlement.outcome = .refundRequired then some payment.id else none }
  | queued (verified : VerifiedWebhook) (payment : Payment) (order : Order)
      (found : db.orders.find payment.orderId = some order) :
      Acts db now (.queueRefund verified payment)
        { db := { db with outbox := db.outbox ++ [duplicateRefund order payment now] }
          phase := .acknowledge verified .processed
          queued := some payment.id }
  | failed (verified : VerifiedWebhook) (payment : Payment) :
      Acts db now (.markFailed verified payment)
        { db := { db with ledger.payments := markFailed db.ledger.payments payment.id }
          phase := afterMarkFailed verified payment }
  | released (verified : VerifiedWebhook) (payment : Payment) :
      Acts db now (.releaseHolds verified payment)
        { db := releaseHoldsForOrder db payment.orderId
          phase := .acknowledge verified .processed }
  | claimed (input : RefundPaymentRequest) (payment : Payment)
      (unused : findRefundByKey db.ledger.refunds input.idempotencyKey = none) :
      Acts db now (.claim input payment)
        { db := { db with ledger.refunds :=
            db.ledger.refunds.insert (claimedRefund (claimInput input payment now)) }
          phase := .askProvider payment
            (claimedRefund (claimInput input payment now) db.ledger.refunds.next) }
  | failedRefund (origin : Origin) (refund : Refund) (reason : Option String) (moved : Bool) :
      Acts db now (.failRefund origin refund reason)
        { db := { db with
            ledger.refunds := (markRefundFailed db.ledger.refunds refund.id reason).2 }
          phase := afterFailRefund reason moved origin }
  | recordedPending (refund : Refund) (refundRef : String) (reply : Reply) :
      Acts db now (.recordPending refund refundRef)
        { db := { db with
            ledger.refunds := markRefundPending db.ledger.refunds refund.id refundRef }
          phase := .done reply }
  | duplicateRefunded (origin : Origin) (refund : Refund) (ledger : MarkRefundedInput)
      (covered : otherPaidPaymentExists db.ledger.payments refund.orderId ledger.paymentId = true)
      (pending : refundPending db.ledger.refunds ledger.refundId = true) :
      Acts db now (.settleDuplicate origin refund ledger)
        { db := { db with ledger := refundedLedger db.ledger ledger }
          phase := refundSettled refund origin }
  | voided (origin : Origin) (refund : Refund) (ledger : MarkRefundedInput) (order : Order)
      (found : db.orders.find refund.orderId = some order)
      (pending : refundPending db.ledger.refunds ledger.refundId = true) :
      Acts db now (.voidOrder origin refund ledger)
        { db := refundedDb db order { refundedLedger db.ledger ledger with
            invoices := voidForRefundIn db.ledger.invoices refund.orderId refund.issuedBy
              ledger.now } now
          phase := refundSettled refund origin }
  | attempted (input : PayOrderInput) (order : Order) (started : StartedPayment)
      (next : Phase) (answered : next = afterAttempt started.gatewayRef
        (some (attemptRow (attemptInput input order started) db.ledger.payments.next))) :
      Acts db now (.attempt input order started)
        { db := { db with ledger.payments :=
            db.ledger.payments.insert (attemptRow (attemptInput input order started)) }
          phase := next }
  | repointed (payment : Payment) (gatewayRef : String) (reply : Reply) :
      Acts db now (.repoint payment gatewayRef)
        { db := { db with
            ledger.payments := updateGatewayRef db.ledger.payments payment.id gatewayRef }
          phase := .done reply }

private theorem requireRefundable_ok {found : Option Payment} {payment : Payment}
    (success : requireRefundable found = .ok payment) :
    found = some payment ∧ payment.status = .paid := by
  unfold requireRefundable at success
  split at success
  · cases success
  next row =>
    split at success
    · cases success
    · split at success
      · cases success
      next paid =>
        split at success
        · cases success
        · cases success
          exact ⟨rfl, by simpa using paid⟩

private theorem requirePayable_ok {found : Option Order} {order : Order}
    (success : requirePayable found = .ok order) :
    found = some order ∧ order.totalSatang ≠ 0 := by
  unfold requirePayable at success
  split at success
  · cases success
  next row =>
    split at success
    · cases success
    · split at success
      · cases success
      · split at success
        · cases success
        · split at success
          · cases success
          next owes =>
            cases success
            exact ⟨rfl, owes⟩

/-- The step rule of a call. -/
theorem act_cases (db : Db) (now : Instant) (answer : Answer) (phase : Phase) :
    Acts db now phase (act db now answer phase) := by
  cases phase with
  | record verified =>
    simp only [act]
    rcases recordWebhook_cases db.webhookEvents PROVIDER_NAME verified with same | logged
    · rw [same]
      exact .read _ _ (.recorded verified _)
    · rw [logged]
      exact .logged verified _
  | lookup verified => exact .read _ _ (.looked verified _ rfl)
  | reconcile verified payment settledRef => exact .reconciled verified payment settledRef
  | settle verified payment =>
    simp only [act]
    split
    next settlement after success =>
      obtain ⟨order, found, settles⟩ := settleOrder_cases success
      exact .settled verified payment _ order settlement after found settles
    next error _ => exact .read _ _ (.unsettled verified payment error)
  | checkDuplicate verified payment =>
    simp only [act]
    split
    next other => exact .read _ _ (.duplicate verified payment other)
    next alone => exact .read _ _ (.unduplicated verified payment (by simpa using alone))
  | queueRefund verified payment =>
    simp only [act]
    split
    next order locked => exact .queued verified payment order (lockOrder_ok.mp locked)
    next error refused =>
      refine .read _ _ (.orderGone verified payment error ?_)
      cases found : db.orders.find payment.orderId with
      | none => rfl
      | some order =>
        rw [lockOrder_ok.mpr found] at refused
        cases refused
  | markFailed verified payment => exact .failed verified payment
  | releaseHolds verified payment => exact .released verified payment
  | acknowledge verified status => exact .acknowledged verified status
  | findRefund verified => exact .read _ _ (.refundReported verified now _ rfl)
  | lostRace verified => exact .read _ _ (.racedBy verified _)
  | requireRefundable input =>
    simp only [act]
    split
    next payment success =>
      obtain ⟨found, paid⟩ := requireRefundable_ok success
      exact .read _ _ (.refundable input payment found paid)
    · exact .read _ _ (.unrefundable input _)
  | claim input payment =>
    simp only [act]
    split
    next refund fresh after success =>
      rcases claimRefund_cases success with ⟨found, rfl, rfl⟩ | ⟨unused, rfl, rfl, rfl⟩
      · exact .read _ _ (.replayed input payment refund found)
      · exact .claimed input payment unused
    · exact .read _ _ (.unclaimed input payment _)
  | askProvider payment refund => exact .read _ _ (.answered payment refund now _)
  | failRefund origin refund reason => exact .failedRefund origin refund reason _
  | recordPending refund refundRef => exact .recordedPending refund refundRef _
  | settleDuplicate origin refund ledger =>
    simp only [act, settleDuplicateRefund]
    cases covered : otherPaidPaymentExists db.ledger.payments refund.orderId ledger.paymentId with
    | false => exact .read _ _ (.sole origin refund ledger covered)
    | true =>
      cases marked : markRefundedIn db.ledger ledger with
      | none => exact .read _ _ (.lostDuplicate origin refund ledger)
      | some after =>
        obtain ⟨pending, rfl⟩ := markRefundedIn_some.mp marked
        exact .duplicateRefunded origin refund ledger covered pending
  | voidOrder origin refund ledger =>
    simp only [act]
    split
    next success =>
      obtain ⟨order, _, found, recorded, rfl⟩ := refundOrder_cases success
      obtain ⟨pending, rfl⟩ := recordRefund_ok.mp recorded
      exact .voided origin refund ledger order found pending
    · exact .read _ _ (.lostVoid origin refund ledger)
    · exact .read _ _ (.unvoided origin refund ledger _)
  | requirePayable input =>
    simp only [act]
    split
    next order success =>
      obtain ⟨found, owes⟩ := requirePayable_ok success
      exact .read _ _ (.payable input order found owes)
    · exact .read _ _ (.unpayable input _)
  | startPayment input order =>
    simp only [act]
    split
    next started _ => exact .read _ _ (.started input order started)
    · exact .read _ _ (.unstarted input order _)
  | attempt input order started =>
    simp only [act]
    split
    next payment after success =>
      rcases upsertAttempt_cases success with ⟨_, rfl⟩ | ⟨rfl, rfl⟩
      · exact .read _ _ (.attemptedBefore input order started payment)
      · exact .attempted input order started _ rfl
    · exact .read _ _ (.unattempted input order started _)
  | repoint payment gatewayRef => exact .repointed payment gatewayRef _
  | done reply => exact .read _ _ (.done reply)

/-! ## How a payment's row moves -/

/-- The refund a phase is about to finish. -/
def finishing : Phase → Option MarkRefundedInput
  | .settleDuplicate _ _ ledger | .voidOrder _ _ ledger => some ledger
  | _ => none

/-- What one step may make of a payment's row. -/
inductive PaymentStep : Phase → Payment → Payment → Prop where
  | same (phase : Phase) (payment : Payment) : PaymentStep phase payment payment
  | repointed (phase : Phase) (payment : Payment) (gatewayRef : String) :
      PaymentStep phase payment { payment with gatewayRef := some gatewayRef }
  | paid (verified : VerifiedWebhook) (read payment : Payment) (organization : Organization)
      (paidAt : Instant) (named : read.id = payment.id) :
      PaymentStep (.settle verified read) payment (paidPayment organization paidAt payment)
  | failed (verified : VerifiedWebhook) (read payment : Payment)
      (pending : payment.status = .pending) :
      PaymentStep (.markFailed verified read) payment { payment with status := .failed }
  | refunded (phase : Phase) (ledger : MarkRefundedInput) (payment : Payment)
      (finishes : finishing phase = some ledger) (named : ledger.paymentId = payment.id) :
      PaymentStep phase payment { payment with status := .refunded }

/-- What one step may make of a refund's row. -/
inductive RefundStep : Phase → Refund → Refund → Prop where
  | same (phase : Phase) (refund : Refund) : RefundStep phase refund refund
  | referenced (phase : Phase) (refund : Refund) (gatewayRef : String)
      (pending : refund.status = .pending) :
      RefundStep phase refund { refund with gatewayRef := some gatewayRef }
  | failed (phase : Phase) (refund : Refund) (reason : Option String)
      (pending : refund.status = .pending) :
      RefundStep phase refund { refund with status := .failed, reason }
  | succeeded (phase : Phase) (ledger : MarkRefundedInput) (refund : Refund)
      (finishes : finishing phase = some ledger) (named : ledger.refundId = refund.id)
      (pending : refund.status = .pending) :
      RefundStep phase refund (succeededRefund ledger refund)

section Ledger

variable {db : Db} {now : Instant} {phase : Phase} {acted : Acted}

/-- Whatever a payment's settlement comes to, the payment is recorded. -/
theorem settled_ledger {input : SettleOrderInput} {order : Order} {settlement : Settlement}
    {after : Db} (settles : Settled db input order now settlement after)
    (paying : input.mode = .payment) : after.ledger = input.recordPayment db.ledger := by
  cases settles with
  | unavailable _ _ deciding => rw [paying] at deciding; cases deciding
  | already | refused | awaits | completes => rfl

/-- A payment that is there stays there, moved in at most one of four ways. -/
theorem acts_payment (acts : Acts db now phase acted) {id : Nat} {old : Payment}
    (found : db.ledger.payments.find id = some old) :
    ∃ new, acted.db.ledger.payments.find id = some new ∧ PaymentStep phase old new := by
  have repoints (paymentId : Nat) (gatewayRef : String) :
      ∃ new, (updateGatewayRef db.ledger.payments paymentId gatewayRef).find id = some new ∧
        PaymentStep phase old new :=
    Table.exists_find_update found (fun _ => .repointed phase old gatewayRef)
      fun _ => .same phase old
  have refunds (ledger : MarkRefundedInput) (finishes : finishing phase = some ledger) :
      ∃ new, (refundedLedger db.ledger ledger).payments.find id = some new ∧
        PaymentStep phase old new :=
    Table.exists_find_update found (fun named => .refunded phase ledger old finishes named.symm)
      fun _ => .same phase old
  cases acts with
  | read | logged | acknowledged | queued | claimed | failedRefund | recordedPending =>
    exact ⟨old, found, .same _ _⟩
  | released verified payment =>
    rcases releaseHoldsForOrder_cases db payment.orderId with same | ⟨_, _, _, same⟩
    · exact ⟨old, by rw [same]; exact found, .same _ _⟩
    · exact ⟨old, by rw [same]; exact found, .same _ _⟩
  | reconciled _ payment settledRef => exact repoints payment.id settledRef
  | repointed payment gatewayRef => exact repoints payment.id gatewayRef
  | settled verified payment mintQrToken order settlement after _ settles =>
    rw [settled_ledger settles rfl]
    exact Table.exists_find_update found
      (fun named => .paid verified payment old _ now named.symm) fun _ => .same _ _
  | failed verified payment =>
    exact Table.exists_find_update found (fun hit => .failed verified payment old hit.2)
      fun _ => .same _ _
  | duplicateRefunded origin refund ledger => exact refunds ledger rfl
  | voided origin refund ledger => exact refunds ledger rfl
  | attempted => exact ⟨old, Table.find_insert_of_found found, .same _ _⟩

/-- A refund that is there stays there, and only a pending one is moved. -/
theorem acts_refund (acts : Acts db now phase acted) {id : Nat} {old : Refund}
    (found : db.ledger.refunds.find id = some old) :
    ∃ new, acted.db.ledger.refunds.find id = some new ∧ RefundStep phase old new := by
  have succeeds (ledger : MarkRefundedInput) (finishes : finishing phase = some ledger) :
      ∃ new, (refundedLedger db.ledger ledger).refunds.find id = some new ∧
        RefundStep phase old new :=
    Table.exists_find_update found
      (fun hit => .succeeded phase ledger old finishes hit.1.symm hit.2) fun _ => .same phase old
  cases acts with
  | read | logged | acknowledged | queued | reconciled | repointed | failed | attempted =>
    exact ⟨old, found, .same _ _⟩
  | released verified payment =>
    rcases releaseHoldsForOrder_cases db payment.orderId with same | ⟨_, _, _, same⟩
    · exact ⟨old, by rw [same]; exact found, .same _ _⟩
    · exact ⟨old, by rw [same]; exact found, .same _ _⟩
  | settled verified payment mintQrToken order settlement after _ settles =>
    exact ⟨old, by rw [settled_ledger settles rfl]; exact found, .same _ _⟩
  | claimed => exact ⟨old, Table.find_insert_of_found found, .same _ _⟩
  | failedRefund origin refund reason =>
    exact Table.exists_find_update found (fun hit => .failed _ old reason hit.2)
      fun _ => .same _ _
  | recordedPending refund refundRef =>
    exact Table.exists_find_update found (fun hit => .referenced _ old refundRef hit.2)
      fun _ => .same _ _
  | duplicateRefunded origin refund ledger => exact succeeds ledger rfl
  | voided origin refund ledger => exact succeeds ledger rfl

/-- A payment that was not there is the attempt this step wrote. -/
theorem acts_newPayment (acts : Acts db now phase acted) {payment : Payment}
    (member : payment ∈ acted.db.ledger.payments) :
    (∃ old, db.ledger.payments.find payment.id = some old) ∨
      ∃ input order started, phase = .attempt input order started ∧
        payment = attemptRow (attemptInput input order started) db.ledger.payments.next := by
  have stored (member : payment ∈ db.ledger.payments) :
      ∃ old, db.ledger.payments.find payment.id = some old := ⟨_, Table.find_key member⟩
  cases acts with
  | read | logged | acknowledged | queued | claimed | failedRefund | recordedPending =>
    exact Or.inl (stored member)
  | released verified read =>
    rcases releaseHoldsForOrder_cases db read.orderId with same | ⟨_, _, _, same⟩
    · exact Or.inl (stored (by rwa [same] at member))
    · exact Or.inl (stored (by rwa [same] at member))
  | reconciled | repointed | failed | duplicateRefunded | voided =>
    exact Or.inl (Table.exists_find_of_update member)
  | settled _ _ _ _ _ _ _ settles =>
    rw [settled_ledger settles rfl] at member
    exact Or.inl (Table.exists_find_of_update member)
  | attempted input order started =>
    rcases Table.mem_insert.mp member with old | rfl
    · exact Or.inl (stored old)
    · exact Or.inr ⟨input, order, started, rfl, rfl⟩

/-- A refund that was not there is the claim this step made, under a key nobody used before. -/
theorem acts_newRefund (acts : Acts db now phase acted) {refund : Refund}
    (member : refund ∈ acted.db.ledger.refunds) :
    (∃ old, db.ledger.refunds.find refund.id = some old) ∨
      ∃ input payment, phase = .claim input payment ∧
        findRefundByKey db.ledger.refunds input.idempotencyKey = none ∧
        refund = claimedRefund (claimInput input payment now) db.ledger.refunds.next := by
  have stored (member : refund ∈ db.ledger.refunds) :
      ∃ old, db.ledger.refunds.find refund.id = some old := ⟨_, Table.find_key member⟩
  cases acts with
  | read | logged | acknowledged | queued | reconciled | repointed | failed | attempted =>
    exact Or.inl (stored member)
  | released verified read =>
    rcases releaseHoldsForOrder_cases db read.orderId with same | ⟨_, _, _, same⟩
    · exact Or.inl (stored (by rwa [same] at member))
    · exact Or.inl (stored (by rwa [same] at member))
  | settled _ _ _ _ _ _ _ settles =>
    rw [settled_ledger settles rfl] at member
    exact Or.inl (stored member)
  | failedRefund | recordedPending | duplicateRefunded | voided =>
    exact Or.inl (Table.exists_find_of_update member)
  | claimed input payment unused =>
    rcases Table.mem_insert.mp member with old | rfl
    · exact Or.inl (stored old)
    · exact Or.inr ⟨input, payment, rfl, unused, rfl⟩

/-- Every payment after a step is one before it, moved, or a new attempt. -/
theorem acts_payments (acts : Acts db now phase acted) {payment : Payment}
    (member : payment ∈ acted.db.ledger.payments) :
    (∃ old ∈ db.ledger.payments, PaymentStep phase old payment) ∨
      ∃ input order started, phase = .attempt input order started ∧
        payment = attemptRow (attemptInput input order started) db.ledger.payments.next := by
  rcases acts_newPayment acts member with ⟨old, found⟩ | born
  · obtain ⟨new, found', moved⟩ := acts_payment acts found
    have same : some payment = some new := (Table.find_key member).symm.trans found'
    cases same
    exact Or.inl ⟨old, (Table.find_eq_some.mp found).1, moved⟩
  · exact Or.inr born

/-- Every refund after a step is one before it, moved, or a new claim. -/
theorem acts_refunds (acts : Acts db now phase acted) {refund : Refund}
    (member : refund ∈ acted.db.ledger.refunds) :
    (∃ old ∈ db.ledger.refunds, RefundStep phase old refund) ∨
      ∃ input payment, phase = .claim input payment ∧
        findRefundByKey db.ledger.refunds input.idempotencyKey = none ∧
        refund = claimedRefund (claimInput input payment now) db.ledger.refunds.next := by
  rcases acts_newRefund acts member with ⟨old, found⟩ | born
  · obtain ⟨new, found', moved⟩ := acts_refund acts found
    have same : some refund = some new := (Table.find_key member).symm.trans found'
    cases same
    exact Or.inl ⟨old, (Table.find_eq_some.mp found).1, moved⟩
  · exact Or.inr born

end Ledger

/-! ## What the ledger's own steps leave alone -/

/-- The order's side of the state, and its invoices, are as they were. -/
structure Untouched (before after : Db) : Prop where
  orders : after.orders = before.orders
  orderItems : after.orderItems = before.orderItems
  tickets : after.tickets = before.tickets
  ticketTypes : after.ticketTypes = before.ticketTypes
  seatAssignments : after.seatAssignments = before.seatAssignments
  seatHolds : after.seatHolds = before.seatHolds
  invoices : after.ledger.invoices = before.ledger.invoices

theorem untouched_refl (db : Db) : Untouched db db := ⟨rfl, rfl, rfl, rfl, rfl, rfl, rfl⟩

/-- A phase in which nothing but the ledger, the webhook log and the outbox is written. -/
def keepsOrder : Phase → Bool
  | .settle _ _ | .releaseHolds _ _ | .voidOrder _ _ _ => false
  | _ => true

theorem acts_untouched {db : Db} {now : Instant} {phase : Phase} {acted : Acted}
    (acts : Acts db now phase acted) (keeps : keepsOrder phase = true) :
    Untouched db acted.db := by
  cases acts with
  | settled | released | voided => cases keeps
  | read | logged | acknowledged | queued | claimed | failedRefund | recordedPending
  | reconciled | repointed | failed | duplicateRefunded | attempted =>
    exact ⟨rfl, rfl, rfl, rfl, rfl, rfl, rfl⟩

end EventaApi.Guarantees
