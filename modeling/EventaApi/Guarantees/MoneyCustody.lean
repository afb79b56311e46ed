import EventaApi.Guarantees.Deliveries

/-!
# Where captured money is

A paid payment whose refund nobody has queued stands behind an order that holds for
it; and of one order's paid payments, only one has neither its refund queued nor a
delivery about to look whether to queue it. Every orderly turn keeps both, and what
they rest on: what the calls in flight owe, and how often a refund was queued.
-/
namespace EventaApi.Guarantees
open Library Source

/-! ## The order's side -/

/-- Nobody in line has been asked about, and an order that owes is asked about once paid. -/
structure AskedOncePaid (order : Order) : Prop where
  waiting : order.status = .waitlisted → order.approvalRequestedAt = none
  awaiting : isAwaitingApproval order = true → order.totalSatang ≠ 0 → order.paymentStatus = .paid

theorem orderStep_asked {now : Instant} {op : Op} {old new : Order}
    (moved : OrderStep now op old new) (asked : AskedOncePaid old) : AskedOncePaid new := by
  cases moved with
  | same => exact asked
  | offered _ _ _ _ waiting =>
    have unasked := asked.waiting waiting
    refine ⟨(by simp), fun again => ?_⟩
    simp [isAwaitingApproval, unasked] at again
  | awaits _ _ _ _ pending =>
    exact ⟨fun again => by simp [pending] at again, fun _ _ => rfl⟩
  | refused | confirmed | rejected =>
    exact ⟨(by simp), by simp [isAwaitingApproval]⟩
  | refunded =>
    refine ⟨fun again => ?_, fun again => ?_⟩ <;>
      simp only [isAwaitingApproval, statusAfterRefund] at again <;>
      split at again <;> cases again

theorem orderBorn_asked {now : Instant} {op : Op} {order : Order} (born : OrderBorn now op order)
    (free : PlacesFree op) : AskedOncePaid order := by
  cases born with
  | joined => exact ⟨fun _ => rfl, nofun⟩
  | placed input =>
    refine ⟨fun again => ?_, fun again owes => ?_⟩
    · simp only [initialState] at again
      split at again <;> cases again
    · have takes : input.takesPlaces = true := by
        simp only [isAwaitingApproval, initialState] at again
        grind [PlaceOrderInput.takesPlaces]
      exact absurd (free takes) owes

/-- Neither checkout nor the organizer lets go of an order that holds for a payment. -/
theorem orderStep_holding {now : Instant} {op : Op} {old new : Order}
    (moved : OrderStep now op old new) (free : op.paysNothing) (asked : AskedOncePaid old)
    (owes : old.totalSatang ≠ 0) (holding : Holding old) : Holding new := by
  cases moved with
  | same => exact holding
  | offered _ _ _ _ waiting =>
    rcases holding with bought | awaiting | ⟨rejected, _⟩
    · simp [waiting] at bought
    · simp [isAwaitingApproval, waiting] at awaiting
    · simp [waiting] at rejected
  | refused _ _ _ paying | awaits _ _ _ paying =>
    rw [free.1] at paying
    cases paying
  | confirmed => exact Or.inl rfl
  | rejected input _ _ undecided rejectable =>
    rcases holding with bought | awaiting | ⟨rejected, _⟩
    · simp [isRejectable, AWAITING_DECISION, bought] at rejectable
    · have paid := asked.awaiting awaiting owes
      simp only [isAwaitingApproval, Bool.and_eq_true] at awaiting
      exact Or.inr (Or.inr ⟨rfl, by simp [rejectionRefunds, paid, awaiting.2]⟩)
    · exact absurd rejected undecided
  | refunded => exact free.elim

/-- A payment flow writes no new order. -/
theorem acts_orders {db : Db} {now : Instant} {phase : Phase} {acted : Acted}
    (acts : Acts db now phase acted) {order : Order} (member : order ∈ acted.db.orders) :
    ∃ old ∈ db.orders, ∃ op, OrderStep now op old order := by
  have there : ∃ old, db.orders.find order.id = some old := by
    have stored (member : order ∈ db.orders) : ∃ old, db.orders.find order.id = some old :=
      ⟨_, Table.find_key member⟩
    cases acts with
    | settled _ _ _ _ _ _ _ settles =>
      cases settles with
      | already | unavailable => exact stored member
      | refused | awaits | completes => exact Table.exists_find_of_update member
    | voided => exact Table.exists_find_of_update member
    | released _ payment =>
      rcases releaseHoldsForOrder_cases db payment.orderId with same | ⟨_, _, _, same⟩
      · exact stored (by rwa [same] at member)
      · exact stored (by rwa [same] at member)
    | read | logged | acknowledged | queued | claimed | failedRefund | recordedPending
    | reconciled | repointed | failed | duplicateRefunded | attempted => exact stored member
  obtain ⟨old, found⟩ := there
  obtain ⟨new, op, found', moved⟩ := acts_order acts found
  have same : some order = some new := (Table.find_key member).symm.trans found'
  cases same
  exact ⟨old, (Table.find_eq_some.mp found).1, op, moved⟩

/-! ## What is kept -/

/-- What the calls owe, and what the log says was processed. -/
structure Delivered (gateway : Gateway) (service : Service) : Prop where
  owes : ∀ call ∈ service.calls, Owes gateway service.office.db call.phase
  logged : ∀ row ∈ service.office.db.webhookEvents, row.status = .processed →
    (gateway.event row.providerEventId).type = .succeeded →
      Received service.office.db (gateway.paymentOf row.providerEventId)

/-- A payment's refund is queued once, and one delivery at most looks whether to queue it. -/
structure QueuedOnce (service : Service) : Prop where
  once : ∀ id, service.queued id ≤ 1
  received : ∀ id, service.queued id ≠ 0 → Received service.office.db id
  checked : ∀ call ∈ service.calls, ∀ id, checking id call.phase →
    service.queued id = 0 ∧ Received service.office.db id
  checkedOnce : ∀ call ∈ service.calls, ∀ other ∈ service.calls, ∀ id,
    checking id call.phase → checking id other.phase → call = other

/-- Nobody has queued this payment's refund, or is about to look whether to. -/
structure Unclaimed (service : Service) (paymentId : Nat) : Prop where
  unqueued : service.queued paymentId = 0
  unchecked : ∀ call ∈ service.calls, ¬ checking paymentId call.phase

/-- Orders hold for their paid payments, and for one unclaimed payment each. -/
structure Standing (service : Service) : Prop where
  held : ∀ payment ∈ service.office.db.ledger.payments, payment.status = .paid →
    service.queued payment.id = 0 →
      ∀ order ∈ service.office.db.orders, order.id = payment.orderId → Holding order
  sole : ∀ payment ∈ service.office.db.ledger.payments,
    ∀ other ∈ service.office.db.ledger.payments, payment.orderId = other.orderId →
      payment.status = .paid → other.status = .paid →
        Unclaimed service payment.id → Unclaimed service other.id → payment = other

structure InCustody (gateway : Gateway) (service : Service) : Prop where
  grounded : Grounded service
  last : VoidsLast service
  one : OneLive service.office.db.ledger.refunds
  asked : ∀ order ∈ service.office.db.orders, AskedOncePaid order
  delivered : Delivered gateway service
  queues : QueuedOnce service
  standing : Standing service

theorem unpaid_inCustody (gateway : Gateway) {service : Service} (unpaid : Unpaid service) :
    InCustody gateway service where
  grounded := unpaid_grounded unpaid
  last := (unpaid_refundsInStep unpaid).last
  one := (unpaid_soleRefunds unpaid).one
  asked := fun _ stored => absurd stored (Table.not_mem_of_empty unpaid.orders _)
  delivered :=
    { owes := fun _ stored => absurd stored (Table.not_mem_of_empty unpaid.calls _)
      logged := fun _ stored => absurd stored (Table.not_mem_of_empty unpaid.webhookEvents _) }
  queues :=
    { once := fun id => by simp [unpaid.queued]
      received := fun id queued => by simp [unpaid.queued] at queued
      checked := fun _ stored => absurd stored (Table.not_mem_of_empty unpaid.calls _)
      checkedOnce := fun _ stored => absurd stored (Table.not_mem_of_empty unpaid.calls _) }
  standing :=
    { held := fun _ stored => absurd stored (Table.not_mem_of_empty unpaid.payments _)
      sole := fun _ stored => absurd stored (Table.not_mem_of_empty unpaid.payments _) }

/-! ## A call's step -/

/-- The service once this call has done that. -/
def movedOn (service : Service) (acting : Call) (acted : Acted) : Service where
  office := { service.office with db := acted.db }
  calls := moveCall service.calls acting.id acted.phase
  queued := queuedAfter service.queued acted.queued

theorem mem_moveCall {calls : Table Call} {callId : Nat} {phase : Phase} {call : Call}
    (member : call ∈ moveCall calls callId phase) :
    (call.id = callId ∧ call.phase = phase) ∨ (call ∈ calls ∧ call.id ≠ callId) := by
  rcases Table.mem_update_cases member with ⟨old, stored, mine, rfl⟩ | ⟨stored, mine⟩
  · exact Or.inl ⟨mine, rfl⟩
  · exact Or.inr ⟨stored, mine⟩

theorem queuedAfter_eq_zero {queued : Nat → Nat} {onBehalfOf : Option Nat} {id : Nat} :
    queuedAfter queued onBehalfOf id = 0 ↔ onBehalfOf ≠ some id ∧ queued id = 0 := by
  unfold queuedAfter
  split <;> simp_all

section Step

variable {gateway : Gateway} {service : Service} {acting : Call} {now : Instant} {acted : Acted}

theorem acts_delivered (acts : Acts service.office.db now acting.phase acted)
    (custody : InCustody gateway service) (stored : acting ∈ service.calls)
    (own : FindsOwn gateway service acting.phase) :
    Delivered gateway (movedOn service acting acted) where
  owes := by
    have kept := acts_kept acts
    refine forall_moveCall (fun call member => owes_kept kept (custody.delivered.owes call member)) ?_
    exact acts_owes acts (custody.delivered.owes acting stored) (custody.grounded.calls acting stored)
      own fun id checks => (custody.queues.checked acting stored id checks).2
  logged := acts_logged acts (custody.delivered.owes acting stored) custody.delivered.logged

/-- A payment about to be settled has not been received yet. -/
theorem settle_unreceived {phase : Phase} {verified : VerifiedWebhook} {read : Payment}
    (unpaid : SettlesUnpaid service phase) (settles : phase = .settle verified read) :
    ¬ Received service.office.db read.id := by
  subst settles
  rintro ⟨row, member, named, money⟩
  exact unpaid row member named money

/-- A refund is queued for a payment received, for which none was queued before. -/
theorem queued_fresh (acts : Acts service.office.db now acting.phase acted)
    (custody : InCustody gateway service) (stored : acting ∈ service.calls)
    (unpaid : SettlesUnpaid service acting.phase) {id : Nat} (queued : acted.queued = some id) :
    service.queued id = 0 ∧ Received acted.db id := by
  rcases acts_queued acts (custody.grounded.calls acting stored) queued with
    ⟨verified, read, settles, named, received, _⟩ | checks
  · refine ⟨?_, received⟩
    by_contra before
    exact settle_unreceived unpaid settles (named ▸ custody.queues.received id before)
  · obtain ⟨none, received⟩ := custody.queues.checked acting stored id checks
    exact ⟨none, received_kept (acts_kept acts) received⟩

/-- A delivery comes to check a payment received, which nobody else is checking. -/
theorem checking_fresh (acts : Acts service.office.db now acting.phase acted)
    (custody : InCustody gateway service) (stored : acting ∈ service.calls)
    (unpaid : SettlesUnpaid service acting.phase) {id : Nat} (checks : checking id acted.phase) :
    acted.queued = none ∧ service.queued id = 0 ∧ Received acted.db id ∧
      ∀ other ∈ service.calls, checking id other.phase → other = acting := by
  obtain ⟨unqueued, before⟩ := acts_checking acts (custody.grounded.calls acting stored) checks
  refine ⟨unqueued, ?_⟩
  rcases before with before | ⟨verified, read, settles, named, received⟩
  · obtain ⟨none, received⟩ := custody.queues.checked acting stored id before
    exact ⟨none, received_kept (acts_kept acts) received, fun other member again =>
      custody.queues.checkedOnce other member acting stored id again before⟩
  · have unreceived : ¬ Received service.office.db id := named ▸ settle_unreceived unpaid settles
    refine ⟨?_, received, fun other member again => ?_⟩
    · by_contra queued
      exact unreceived (custody.queues.received id queued)
    · exact absurd (custody.queues.checked other member id again).2 unreceived

theorem acts_queuedOnce (acts : Acts service.office.db now acting.phase acted)
    (custody : InCustody gateway service) (stored : acting ∈ service.calls)
    (unpaid : SettlesUnpaid service acting.phase) : QueuedOnce (movedOn service acting acted) where
  once := by
    intro id
    change queuedAfter service.queued acted.queued id ≤ 1
    unfold queuedAfter
    split
    next queued =>
      have before := (queued_fresh acts custody stored unpaid queued).1
      omega
    · exact custody.queues.once id
  received := by
    intro id queued
    by_cases now' : acted.queued = some id
    · exact (queued_fresh acts custody stored unpaid now').2
    · have before : service.queued id ≠ 0 := fun none =>
        queued (queuedAfter_eq_zero.mpr ⟨now', none⟩)
      exact received_kept (acts_kept acts) (custody.queues.received id before)
  checked := by
    intro call member id checks
    rcases mem_moveCall member with ⟨_, phase⟩ | ⟨before, other⟩
    · rw [phase] at checks
      obtain ⟨unqueued, none, received, _⟩ := checking_fresh acts custody stored unpaid checks
      exact ⟨queuedAfter_eq_zero.mpr ⟨by simp [unqueued], none⟩, received⟩
    · obtain ⟨none, received⟩ := custody.queues.checked call before id checks
      refine ⟨queuedAfter_eq_zero.mpr ⟨fun queued => ?_, none⟩,
        received_kept (acts_kept acts) received⟩
      rcases acts_queued acts (custody.grounded.calls acting stored) queued with
        ⟨verified, read, settles, named, _⟩ | again
      · exact settle_unreceived unpaid settles (named ▸ received)
      · have same := custody.queues.checkedOnce call before acting stored id checks again
        exact other (congrArg Call.id same)
  checkedOnce := by
    intro call member other member' id checks again
    rcases mem_moveCall member with ⟨mine, phase⟩ | ⟨before, mine⟩
    · rcases mem_moveCall member' with ⟨mine', _⟩ | ⟨before', mine'⟩
      · exact Table.eq_of_key member member' (mine.trans mine'.symm)
      · rw [phase] at checks
        have same := (checking_fresh acts custody stored unpaid checks).2.2.2 other before' again
        exact absurd (congrArg Call.id same) mine'
    · rcases mem_moveCall member' with ⟨_, phase⟩ | ⟨before', _⟩
      · rw [phase] at again
        have same := (checking_fresh acts custody stored unpaid again).2.2.2 call before checks
        exact absurd (congrArg Call.id same) mine
      · exact custody.queues.checkedOnce call before other before' id checks again

/-- The order of a payment that no refund was queued for holds for it still. -/
theorem acts_held (acts : Acts service.office.db now acting.phase acted)
    (custody : InCustody gateway service) (stored : acting ∈ service.calls)
    (orderly : OrderlyStep gateway service acting.phase) {payment : Payment}
    (member : payment ∈ acted.db.ledger.payments) (paid : payment.status = .paid)
    (unqueued : (movedOn service acting acted).queued payment.id = 0) {order : Order}
    (placed : order ∈ acted.db.orders) (mine : order.id = payment.orderId) : Holding order := by
  obtain ⟨unpaid, apart, _, _, spares⟩ := orderly
  obtain ⟨elsewhere, before⟩ := queuedAfter_eq_zero.mp unqueued
  have knows := custody.grounded.calls acting stored
  have held := custody.standing.held
  rcases acts_paid acts knows member paid with
    ⟨old, was, same, alreadyPaid⟩ | ⟨verified, read, settles, named, sameOrder⟩
  · -- It was paid before: only a settlement or a void of this very order could let go of it.
    have stands (order : Order) (there : order ∈ service.office.db.orders)
        (mine : order.id = payment.orderId) : Holding order :=
      held old was alreadyPaid (same.id ▸ before) order there (mine.trans same.orderId)
    rcases acts_orderRow acts placed with
      there | ⟨verified, read, settles, ofOrder⟩ | ⟨origin, refund, ledger, voids, ofOrder, gone⟩
    · exact stands order there mine
    · have acts' := acts
      rw [settles] at acts'
      rcases acts_settle acts' with
        nothing | queued | ⟨_, orders, _⟩ | ⟨_, holding⟩
      · exact stands order (nothing ▸ placed) mine
      · rcases acts_queued acts knows queued with
          ⟨_, read', settles', _, _, refused, there, ofOrder', unconfirmed, idle⟩ | checks
        · cases settles.symm.trans settles'
          have due : refundDue refused := by
            rcases stands refused there (ofOrder'.trans (ofOrder.symm.trans mine)) with
              bought | awaiting | due
            · exact absurd bought unconfirmed
            · rw [idle] at awaiting
              cases awaiting
            · exact due
          rw [settles] at spares
          exact absurd due (spares refused there ofOrder')
        · rw [settles] at checks
          exact checks.elim
      · exact stands order (orders ▸ placed) mine
      · exact holding order placed ofOrder
    · have other : old.id ≠ ledger.paymentId := fun clash => by
        rw [gone payment member (same.id.trans clash)] at paid
        cases paid
      have covered := otherPaidPaymentExists_iff.mpr
        ⟨old, was, same.orderId.symm.trans (mine.symm.trans ofOrder), alreadyPaid, other⟩
      rw [custody.last acting stored origin refund ledger voids] at covered
      cases covered
  · -- It is paid only now, so its order was settled in this step.
    have acts' := acts
    rw [settles] at acts'
    have ofOrder : order.id = read.orderId := mine.trans sameOrder.symm
    rcases acts_settle acts' with nothing | queued | ⟨_, orders, settled, there, ofOrder', holding⟩ |
      ⟨_, holding⟩
    · refine absurd ?_ (settle_unreceived unpaid settles)
      exact ⟨payment, nothing ▸ member, named.symm, Or.inl paid⟩
    · exact absurd (queued.trans (congrArg some named)) elsewhere
    · rw [orders] at placed
      rwa [Table.eq_of_key placed there (ofOrder.trans ofOrder'.symm)]
    · exact holding order placed ofOrder

/-- A paid payment of the order whose only paid payment this is, is this one. -/
theorem eq_of_alone {payments : Table Payment} {payment other : Payment}
    (stored : payment ∈ payments)
    (alone : otherPaidPaymentExists payments payment.orderId payment.id = false)
    (member : other ∈ payments) (shared : other.orderId = payment.orderId)
    (paid : other.status = .paid) : other = payment := by
  by_contra apart
  have covered : otherPaidPaymentExists payments payment.orderId payment.id = true :=
    otherPaidPaymentExists_iff.mpr ⟨other, member, shared, paid, fun clash =>
      apart (Table.eq_of_key member stored clash)⟩
  rw [alone] at covered
  cases covered

/-- Of one order's paid payments, only one is unclaimed or found to be the only one. -/
theorem eq_of_unclaimed (standing : Standing service) {payment other : Payment}
    (stored : payment ∈ service.office.db.ledger.payments)
    (member : other ∈ service.office.db.ledger.payments)
    (shared : payment.orderId = other.orderId) (paid : payment.status = .paid)
    (paid' : other.status = .paid)
    (free : Unclaimed service payment.id ∨
      otherPaidPaymentExists service.office.db.ledger.payments payment.orderId payment.id = false)
    (free' : Unclaimed service other.id ∨
      otherPaidPaymentExists service.office.db.ledger.payments other.orderId other.id = false) :
    payment = other := by
  rcases free with free | alone
  · rcases free' with free' | alone
    · exact standing.sole payment stored other member shared paid paid' free free'
    · exact eq_of_alone member alone stored shared paid
  · exact (eq_of_alone stored alone member shared.symm paid').symm

/-- A payment unclaimed now was unclaimed before, or was just found to be the only paid one. -/
theorem acts_unclaimed (acts : Acts service.office.db now acting.phase acted)
    (custody : InCustody gateway service) (stored : acting ∈ service.calls) {payment : Payment}
    (was : payment ∈ service.office.db.ledger.payments)
    (unclaimed : Unclaimed (movedOn service acting acted) payment.id) :
    Unclaimed service payment.id ∨
      otherPaidPaymentExists service.office.db.ledger.payments payment.orderId payment.id =
        false := by
  obtain ⟨elsewhere, before⟩ := queuedAfter_eq_zero.mp unclaimed.unqueued
  by_cases checks : checking payment.id acting.phase
  · right
    rcases acts_checked acts checks with still | queued | ⟨read, ⟨verified, phase⟩, named, outcome⟩
    · have here : { acting with phase := acted.phase } ∈
          moveCall service.calls acting.id acted.phase := Table.mem_update_of_hit stored rfl
      exact absurd still (unclaimed.unchecked _ here)
    · exact absurd queued elsewhere
    · have known : PaymentStored service.office.db read := by
        have knows := custody.grounded.calls acting stored
        rcases phase with phase | phase <;> rw [phase] at knows <;> exact knows.2
      obtain ⟨row, there, same⟩ := known
      have again : row = payment := Table.eq_of_key there was (same.id.trans named)
      subst again
      rcases outcome with alone | missing
      · rw [same.orderId]
        exact alone
      · obtain ⟨order, placed, mine, _⟩ := custody.grounded.payments row was
        exact absurd (mine.trans same.orderId) (Table.find_eq_none.mp missing order placed)
  · refine Or.inl ⟨before, fun call member again => ?_⟩
    by_cases mine : call.id = acting.id
    · rw [Table.eq_of_key member stored mine] at again
      exact checks again
    · have here : call ∈ moveCall service.calls acting.id acted.phase :=
        Table.mem_update_of_miss member mine
      exact unclaimed.unchecked call here again

/-- A payment that comes to be paid beside an unclaimed one is claimed. -/
theorem acts_joined (acts : Acts service.office.db now acting.phase acted)
    (custody : InCustody gateway service) (unpaid : SettlesUnpaid service acting.phase)
    {old payment : Payment} (was : old ∈ service.office.db.ledger.payments)
    (alreadyPaid : old.status = .paid) (unqueued : service.queued old.id = 0)
    (stored : acting ∈ service.calls)
    (member : payment ∈ acted.db.ledger.payments) (paid : payment.status = .paid)
    (shared : old.orderId = payment.orderId) {verified : VerifiedWebhook} {read : Payment}
    (settles : acting.phase = .settle verified read) (named : read.id = payment.id)
    (sameOrder : read.orderId = payment.orderId)
    (unclaimed : Unclaimed (movedOn service acting acted) payment.id) : False := by
  obtain ⟨elsewhere, _⟩ := queuedAfter_eq_zero.mp unclaimed.unqueued
  have acts' := acts
  rw [settles] at acts'
  rcases acts_settle acts' with
    nothing | queued | ⟨checks, _⟩ | ⟨⟨order, there, ofOrder, pending, idle⟩, _⟩
  · exact settle_unreceived unpaid settles ⟨payment, nothing ▸ member, named.symm, Or.inl paid⟩
  · exact elsewhere (queued.trans (congrArg some named))
  · have here : { acting with phase := acted.phase } ∈
        moveCall service.calls acting.id acted.phase := Table.mem_update_of_hit stored rfl
    exact unclaimed.unchecked _ here (named ▸ checks)
  · have holding := custody.standing.held old was alreadyPaid unqueued order there
      (ofOrder.trans (sameOrder.trans shared.symm))
    rcases holding with bought | awaiting | ⟨rejected, _⟩
    · simp [pending] at bought
    · simp [idle] at awaiting
    · simp [pending] at rejected

theorem acts_standing (acts : Acts service.office.db now acting.phase acted)
    (custody : InCustody gateway service) (stored : acting ∈ service.calls)
    (orderly : OrderlyStep gateway service acting.phase) :
    Standing (movedOn service acting acted) where
  held := fun _ member paid unqueued _ placed mine =>
    acts_held acts custody stored orderly member paid unqueued placed mine
  sole := by
    intro payment member other member' shared paid paid' unclaimed unclaimed'
    have knows := custody.grounded.calls acting stored
    rcases acts_paid acts knows member paid with
      ⟨old, was, same, before⟩ | ⟨verified, read, settles, named, sameOrder⟩
    · rcases acts_paid acts knows member' paid' with
        ⟨old', was', same', before'⟩ | ⟨verified, read, settles, named, sameOrder⟩
      · have ofOrder : old.orderId = old'.orderId :=
          same.orderId.symm.trans (shared.trans same'.orderId)
        rw [same.id] at unclaimed
        rw [same'.id] at unclaimed'
        have equal := eq_of_unclaimed custody.standing was was' ofOrder before before'
          (acts_unclaimed acts custody stored was unclaimed)
          (acts_unclaimed acts custody stored was' unclaimed')
        exact Table.eq_of_key member member'
          (same.id.trans ((congrArg Payment.id equal).trans same'.id.symm))
      · have unqueued := (queuedAfter_eq_zero.mp unclaimed.unqueued).2
        exact (acts_joined acts custody orderly.1 was before (same.id ▸ unqueued) stored member'
          paid' (same.orderId.symm.trans shared) settles named sameOrder unclaimed').elim
    · rcases acts_paid acts knows member' paid' with
        ⟨old', was', same', before'⟩ | ⟨verified', read', settles', named', _⟩
      · have unqueued := (queuedAfter_eq_zero.mp unclaimed'.unqueued).2
        exact (acts_joined acts custody orderly.1 was' before' (same'.id ▸ unqueued) stored member
          paid (same'.orderId.symm.trans shared.symm) settles named sameOrder unclaimed).elim
      · cases settles.symm.trans settles'
        exact Table.eq_of_key member member' (named.symm.trans named')

theorem acts_inCustody (acts : Acts service.office.db now acting.phase acted)
    (custody : InCustody gateway service) (stored : acting ∈ service.calls)
    (orderly : OrderlyStep gateway service acting.phase)
    (grounded : Grounded (movedOn service acting acted))
    (last : VoidsLast (movedOn service acting acted)) :
    InCustody gateway (movedOn service acting acted) where
  grounded := grounded
  last := last
  one := acts_oneLive acts orderly.2.2.1 custody.one
  asked := by
    intro order member
    obtain ⟨old, there, _, moved⟩ := acts_orders acts member
    exact orderStep_asked moved (custody.asked old there)
  delivered := acts_delivered acts custody stored orderly.2.2.2.1
  queues := acts_queuedOnce acts custody stored orderly.1
  standing := acts_standing acts custody stored orderly

end Step

/-! ## Every other turn -/

section Turns

variable {gateway : Gateway} {service : Service}

theorem checkout_inCustody (custody : InCustody gateway service) (op : Op)
    (free : op.paysNothing) (places : PlacesFree op)
    (grounded : Grounded (serve service (.checkout op free)))
    (last : VoidsLast (serve service (.checkout op free))) :
    InCustody gateway (serve service (.checkout op free)) := by
  obtain ⟨ledger, webhookEvents⟩ := step_ledger service.office free
  have kept := step_kept service.office free
  have payments : (serve service (.checkout op free)).office.db.ledger.payments =
      service.office.db.ledger.payments := congrArg Ledger.payments ledger
  refine
    { grounded, last
      one := by
        change OneLive (step service.office op).db.ledger.refunds
        rw [ledger]
        exact custody.one
      asked := ?_
      delivered :=
        { owes := fun call member => owes_kept kept (custody.delivered.owes call member)
          logged := fun row member processed succeeded => ?_ }
      queues :=
        { once := custody.queues.once
          received := fun id queued => received_kept kept (custody.queues.received id queued)
          checked := fun call member id checks => ?_
          checkedOnce := custody.queues.checkedOnce }
      standing := { held := ?_, sole := ?_ } }
  · rcases step_db service.office op with same | committed
    · change ∀ order ∈ (step service.office op).db.orders, AskedOncePaid order
      rw [same]
      exact custody.asked
    · exact rows_committed (fun _ born => orderBorn_asked born places)
        (fun _ _ asked moved => orderStep_asked moved asked) (commit_cases committed) custody.asked
  · rw [show (serve service (.checkout op free)).office.db.webhookEvents = _ from webhookEvents]
      at member
    exact received_kept kept (custody.delivered.logged row member processed succeeded)
  · obtain ⟨none, received⟩ := custody.queues.checked call member id checks
    exact ⟨none, received_kept kept received⟩
  · intro payment member paid unqueued order placed mine
    rw [payments] at member
    obtain ⟨old, there, ofOrder, amount, owes⟩ := custody.grounded.payments payment member
    obtain ⟨new, found, moved⟩ := step_order service.office op (Table.find_key there)
    have same : new = order := Table.eq_of_key (Table.find_eq_some.mp found).1 placed
      ((Table.find_eq_some.mp found).2.trans (ofOrder.trans mine.symm))
    subst same
    exact orderStep_holding moved free (custody.asked old there) owes
      (custody.standing.held payment member paid unqueued old there ofOrder)
  · intro payment member other member' shared paid paid' unclaimed unclaimed'
    rw [payments] at member member'
    exact custody.standing.sole payment member other member' shared paid paid'
      ⟨unclaimed.unqueued, unclaimed.unchecked⟩ ⟨unclaimed'.unqueued, unclaimed'.unchecked⟩

/-- Calls come and go: what is kept stays kept while no check is started, or given up, in vain. -/
theorem recalled_inCustody (custody : InCustody gateway service) {calls : Table Call}
    (grounded : Grounded { service with calls }) (last : VoidsLast { service with calls })
    (owes : ∀ call ∈ calls, Owes gateway service.office.db call.phase)
    (started : ∀ call ∈ calls, ∀ id, checking id call.phase → call ∈ service.calls)
    (ended : ∀ payment ∈ service.office.db.ledger.payments,
      (∀ call ∈ calls, ¬ checking payment.id call.phase) →
        (∀ call ∈ service.calls, ¬ checking payment.id call.phase) ∨
          otherPaidPaymentExists service.office.db.ledger.payments payment.orderId payment.id =
            false) : InCustody gateway { service with calls } where
  grounded := grounded
  last := last
  one := custody.one
  asked := custody.asked
  delivered := { owes, logged := custody.delivered.logged }
  queues :=
    { once := custody.queues.once
      received := custody.queues.received
      checked := fun call member id checks =>
        custody.queues.checked call (started call member id checks) id checks
      checkedOnce := fun call member other member' id checks again =>
        custody.queues.checkedOnce call (started call member id checks) other
          (started other member' id again) id checks again }
  standing :=
    { held := custody.standing.held
      sole := fun payment member other member' shared paid paid' unclaimed unclaimed' =>
        eq_of_unclaimed custody.standing member member' shared paid paid'
          ((ended payment member unclaimed.unchecked).imp (⟨unclaimed.unqueued, ·⟩) id)
          ((ended other member' unclaimed'.unchecked).imp (⟨unclaimed'.unqueued, ·⟩) id) }

theorem receive_inCustody (custody : InCustody gateway service) (request : Request)
    (genuine : FromGateway gateway request) (grounded : Grounded (serve service (.receive request)))
    (last : VoidsLast (serve service (.receive request))) :
    InCustody gateway (serve service (.receive request)) := by
  have starts : (∀ id, ¬ checking id request.phase) ∧
      Owes gateway service.office.db request.phase := by
    cases request with
    | webhook verified =>
      simp only [Request.phase]
      split
      · exact ⟨fun _ checks => checks, trivial⟩
      · exact ⟨fun _ checks => checks, genuine⟩
    | refund | pay => exact ⟨fun _ checks => checks, trivial⟩
  refine recalled_inCustody custody grounded last (fun call member => ?_)
    (fun call member id checks => ?_) fun payment _ unchecked => Or.inl fun call member =>
      unchecked call (Table.mem_insert.mpr (Or.inl member))
  · rcases Table.mem_insert.mp member with old | rfl
    · exact custody.delivered.owes call old
    · exact starts.2
  · rcases Table.mem_insert.mp member with old | rfl
    · exact old
    · exact absurd checks (starts.1 id)

theorem crash_inCustody (custody : InCustody gateway service) (callId : Nat)
    (clean : DiesClean service (phaseOf service callId))
    (grounded : Grounded (serve service (.crash callId)))
    (last : VoidsLast (serve service (.crash callId))) :
    InCustody gateway (serve service (.crash callId)) := by
  refine recalled_inCustody custody grounded last
    (forall_moveCall custody.delivered.owes trivial) (fun call member id checks => ?_)
    fun payment stored unchecked => ?_
  · rcases mem_moveCall member with ⟨_, ended⟩ | ⟨before, _⟩
    · rw [ended] at checks
      exact checks.elim
    · exact before
  · by_cases alone : otherPaidPaymentExists service.office.db.ledger.payments payment.orderId
        payment.id = false
    · exact Or.inr alone
    · refine Or.inl fun call member checks => ?_
      by_cases mine : call.id = callId
      · have found : service.calls.find callId = some call := mine ▸ Table.find_key member
        rw [phaseOf_found found] at clean
        have knows := custody.grounded.calls call member
        cases at' : call.phase with
        | checkDuplicate verified read =>
          rw [at'] at clean checks knows
          obtain ⟨row, there, same⟩ := knows.2
          have again : row = payment := Table.eq_of_key there stored (same.id.trans checks)
          subst again
          refine alone ?_
          rw [same.orderId, same.id]
          exact clean
        | queueRefund =>
          rw [at'] at clean
          exact clean
        | _ =>
          rw [at'] at checks
          exact checks
      · exact unchecked call (Table.mem_update_of_miss member mine) checks

theorem invoicing_inCustody (custody : InCustody gateway service)
    (write : Table Invoice → Table Invoice)
    (grounded : Grounded (serve service (.invoicing write))) :
    InCustody gateway (serve service (.invoicing write)) := by
  have kept := invoicing_kept service write
  exact
    { grounded
      last := custody.last
      one := custody.one
      asked := custody.asked
      delivered :=
        { owes := fun call member => owes_kept kept (custody.delivered.owes call member)
          logged := custody.delivered.logged }
      queues := ⟨custody.queues.once, custody.queues.received, custody.queues.checked,
        custody.queues.checkedOnce⟩
      standing := ⟨custody.standing.held, fun payment member other member' shared paid paid'
        unclaimed unclaimed' => custody.standing.sole payment member other member' shared paid paid'
          ⟨unclaimed.unqueued, unclaimed.unchecked⟩ ⟨unclaimed'.unqueued, unclaimed'.unchecked⟩⟩ }

end Turns

/-- Every orderly turn keeps the money in custody. -/
theorem serve_inCustody {gateway : Gateway} (service : Service) (turn : Turn)
    (custody : InCustody gateway service) (orderly : Orderly gateway service turn) :
    InCustody gateway (serve service turn) := by
  have grounded := serve_grounded service turn custody.grounded
  have apart : Stepping LandsApart service turn := by
    cases turn with
    | advance => exact orderly.2.1
    | checkout | invoicing | receive | crash => trivial
  have last := serve_voidsLast service turn custody.grounded custody.last apart
  cases turn with
  | checkout op free => exact checkout_inCustody custody op free orderly grounded last
  | invoicing write => exact invoicing_inCustody custody write grounded
  | receive request => exact receive_inCustody custody request orderly grounded last
  | crash callId => exact crash_inCustody custody callId orderly grounded last
  | advance callId answer =>
    have condition : OrderlyStep gateway service (phaseOf service callId) := orderly
    cases found : service.calls.find callId with
    | none =>
      simp only [serve, found]
      exact custody
    | some call =>
      rw [phaseOf_found found] at condition
      simp only [serve, found] at grounded last ⊢
      exact acts_inCustody (act_cases _ _ answer call.phase) custody
        (Table.find_eq_some.mp found).1 condition grounded last

end EventaApi.Guarantees
