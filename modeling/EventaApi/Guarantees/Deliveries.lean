import EventaApi.Guarantees.LedgerForward
import EventaApi.Guarantees.RefundAtomic
import EventaApi.Guarantees.RefundOnce

/-!
# What a callback's delivery owes

A delivery settles, then looks for a duplicate, then queues a refund, and may die
between any two. A turn is orderly when it falls into none of the gaps this leaves.
What a delivery owes at each phase is stated of the phase; one step of it is described
as far as it concerns the money: which payment it comes to check, which refund it
queues, and what it makes of the order.
-/
namespace EventaApi.Guarantees
open Library Source

/-- The provider: what each event says, and the payment it is about. -/
structure Gateway where
  event : String → VerifiedWebhook
  paymentOf : String → Nat

/-- The money of this payment came in. -/
def Received (db : Db) (paymentId : Nat) : Prop :=
  ∃ row ∈ db.ledger.payments, row.id = paymentId ∧ moneyIn row

/-- A rejected registration whose refund is still reported as due. -/
def refundDue (order : Order) : Prop :=
  order.status = .rejected ∧ rejectionRefunds order = true

instance (order : Order) : Decidable (refundDue order) := inferInstanceAs (Decidable (_ ∧ _))

/-- The order stands for a payment: bought, awaiting a decision, or owing it back. -/
def Holding (order : Order) : Prop :=
  order.status = .confirmed ∨ isAwaitingApproval order = true ∨ refundDue order

/-- A delivery that settled this payment on a paid order, and has not queued its refund yet. -/
def checking (paymentId : Nat) : Phase → Prop
  | .checkDuplicate _ payment | .queueRefund _ payment => payment.id = paymentId
  | _ => False

/-! ## The condition on each turn -/

/-- A success event finds the payment it is about. -/
def FindsOwn (gateway : Gateway) (service : Service) : Phase → Prop
  | .lookup verified => verified.type = .succeeded →
    (findByGatewayRef service.office.db.ledger.payments verified.gatewayRef).map Payment.id =
      some (gateway.paymentOf verified.eventId)
  | _ => True

instance (gateway : Gateway) (service : Service) (phase : Phase) :
    Decidable (FindsOwn gateway service phase) := by
  unfold FindsOwn
  split <;> infer_instance

/-- No success settles on a rejected registration whose refund is due. -/
def SparesDue (service : Service) : Phase → Prop
  | .settle _ payment => ∀ order ∈ service.office.db.orders.rows, order.id = payment.orderId →
    ¬ refundDue order
  | _ => True

instance (service : Service) : (phase : Phase) → Decidable (SparesDue service phase)
  | .settle _ _ => inferInstanceAs (Decidable (∀ _ ∈ _, _))
  | .record _ | .lookup _ | .reconcile _ _ _ | .checkDuplicate _ _ | .queueRefund _ _
  | .markFailed _ _ | .releaseHolds _ _ | .acknowledge _ _ | .findRefund _ | .lostRace _
  | .requireRefundable _ | .claim _ _ | .askProvider _ _ | .failRefund _ _ _
  | .recordPending _ _ | .settleDuplicate _ _ _ | .voidOrder _ _ _ | .requirePayable _
  | .startPayment _ _ | .attempt _ _ _ | .repoint _ _ | .done _ => isTrue trivial

/-- What a call's step finds, each part a gap the code leaves open. -/
def OrderlyStep (gateway : Gateway) (service : Service) (phase : Phase) : Prop :=
  SettlesUnpaid service phase ∧ LandsApart service phase ∧ ClaimsAlone service phase ∧
    FindsOwn gateway service phase ∧ SparesDue service phase

instance (gateway : Gateway) (service : Service) (phase : Phase) :
    Decidable (OrderlyStep gateway service phase) :=
  inferInstanceAs (Decidable (_ ∧ _ ∧ _ ∧ _ ∧ _))

/-- A delivery that found a duplicate does not die before its refund is queued. -/
def DiesClean (service : Service) : Phase → Prop
  | .queueRefund _ _ => False
  | .checkDuplicate _ payment =>
    otherPaidPaymentExists service.office.db.ledger.payments payment.orderId payment.id = false
  | _ => True

instance (service : Service) (phase : Phase) : Decidable (DiesClean service phase) := by
  unfold DiesClean
  split <;> infer_instance

/-- The confirm endpoint's placement: places are taken at once only where nothing is owed. -/
def PlacesFree : Op → Prop
  | .placeOrder input => input.takesPlaces = true → input.totals.totalSatang = 0
  | _ => True

instance : (op : Op) → Decidable (PlacesFree op)
  | .placeOrder input =>
    inferInstanceAs (Decidable (input.takesPlaces = true → input.totals.totalSatang = 0))
  | .holdSeats _ | .holdQuantity _ | .release _ | .releaseUnattached _ | .expireStale
  | .joinWaitlist _ | .markOffered _ | .settleOrder _ | .rejectOrder _ | .refundOrder _ _
  | .releaseHoldsForOrder _ | .recordLedger _ | .enqueue _ | .tick _ => isTrue trivial

/-- A callback says what the provider says under its event's id. -/
def FromGateway (gateway : Gateway) : Request → Prop
  | .webhook verified => gateway.event verified.eventId = verified
  | _ => True

instance (gateway : Gateway) (request : Request) : Decidable (FromGateway gateway request) := by
  unfold FromGateway
  split <;> infer_instance

def Orderly (gateway : Gateway) (service : Service) : Turn → Prop
  | .checkout op _ => PlacesFree op
  | .invoicing _ => True
  | .receive request => FromGateway gateway request
  | .advance callId _ => OrderlyStep gateway service (phaseOf service callId)
  | .crash callId => DiesClean service (phaseOf service callId)

instance (gateway : Gateway) (service : Service) (turn : Turn) :
    Decidable (Orderly gateway service turn) := by
  unfold Orderly
  split <;> infer_instance

/-! ## What a delivery owes -/

theorem received_kept {db after : Db} (kept : Kept db after) {paymentId : Nat}
    (received : Received db paymentId) : Received after paymentId := by
  obtain ⟨row, member, named, money⟩ := received
  obtain ⟨new, member', same, money'⟩ := kept.payments row member
  exact ⟨new, member', same.id.trans named, money' money⟩

/-- What each phase carries is the provider's, and a success acknowledged was received. -/
def Owes (gateway : Gateway) (db : Db) : Phase → Prop
  | .record verified | .lookup verified | .markFailed verified _ | .releaseHolds verified _
  | .findRefund verified | .lostRace verified => gateway.event verified.eventId = verified
  | .reconcile verified payment _ => gateway.event verified.eventId = verified ∧
    (verified.type = .succeeded → payment.id = gateway.paymentOf verified.eventId ∧
      (payment.status = .paid → Received db payment.id))
  | .settle verified payment | .checkDuplicate verified payment | .queueRefund verified payment =>
    gateway.event verified.eventId = verified ∧ payment.id = gateway.paymentOf verified.eventId
  | .acknowledge verified status => gateway.event verified.eventId = verified ∧
    (status = .processed → verified.type = .succeeded →
      Received db (gateway.paymentOf verified.eventId))
  | .failRefund origin _ _ | .settleDuplicate origin _ _ | .voidOrder origin _ _ =>
    ∀ verified, origin = .report verified → gateway.event verified.eventId = verified
  | _ => True

section Deliveries

variable {gateway : Gateway} {db after : Db} {verified : VerifiedWebhook}

theorem owes_kept (kept : Kept db after) {phase : Phase} (owes : Owes gateway db phase) :
    Owes gateway after phase := by
  cases phase with
  | reconcile => exact ⟨owes.1, fun succeeded => ⟨(owes.2 succeeded).1, fun paid =>
      received_kept kept ((owes.2 succeeded).2 paid)⟩⟩
  | acknowledge => exact ⟨owes.1, fun processed succeeded =>
      received_kept kept (owes.2 processed succeeded)⟩
  | _ => exact owes

theorem owes_dispatch {payment : Payment} (genuine : gateway.event verified.eventId = verified)
    (own : verified.type = .succeeded → payment.id = gateway.paymentOf verified.eventId ∧
      (payment.status = .paid → Received db payment.id)) :
    Owes gateway db (dispatch verified payment) := by
  unfold dispatch
  split
  next succeeded =>
    obtain ⟨named, received⟩ := own succeeded
    unfold onSucceeded
    split
    · exact ⟨genuine, fun processed => by cases processed⟩
    · split
      · exact ⟨genuine, named⟩
      next paid => exact ⟨genuine, fun _ _ => named ▸ received (by simpa using paid)⟩
  · exact genuine

/-- The report of a refund owes nothing when it is acknowledged. -/
theorem owes_acknowledge (genuine : gateway.event verified.eventId = verified)
    (report : verified.type ≠ .succeeded) (status : WebhookStatus) :
    Owes gateway db (.acknowledge verified status) :=
  ⟨genuine, fun _ succeeded => absurd succeeded report⟩

theorem owes_completePending {now : Instant} (genuine : gateway.event verified.eventId = verified)
    (report : verified.type ≠ .succeeded) (refund : Option Refund) :
    Owes gateway db (completePending verified now refund) := by
  have reported (other : VerifiedWebhook) (same : Origin.report verified = .report other) :
      gateway.event other.eventId = other := by
    cases same
    exact genuine
  unfold completePending
  split
  · exact owes_acknowledge genuine report _
  · split
    · exact owes_acknowledge genuine report _
    · split
      · exact reported
      · split
        · exact owes_acknowledge genuine report _
        · exact reported

theorem owes_refundLost {origin : Origin}
    (genuine : ∀ verified, origin = .report verified → gateway.event verified.eventId = verified) :
    Owes gateway db (refundLost origin) := by
  cases origin with
  | request => trivial
  | report verified => exact genuine verified rfl

theorem owes_refundSettled {origin : Origin} (refund : Refund) (reported : Reported origin)
    (genuine : ∀ verified, origin = .report verified → gateway.event verified.eventId = verified) :
    Owes gateway db (refundSettled refund origin) := by
  cases origin with
  | request => trivial
  | report verified => exact owes_acknowledge (genuine verified rfl) (reported verified rfl) _

theorem owes_afterFailRefund {origin : Origin} (reason : Option String) (moved : Bool)
    (reported : Reported origin)
    (genuine : ∀ verified, origin = .report verified → gateway.event verified.eventId = verified) :
    Owes gateway db (afterFailRefund reason moved origin) := by
  cases origin with
  | request => trivial
  | report verified =>
    cases moved with
    | true => exact owes_acknowledge (genuine verified rfl) (reported verified rfl) _
    | false => exact genuine verified rfl

theorem owes_afterRecord (genuine : gateway.event verified.eventId = verified) (fresh : Bool) :
    Owes gateway db (afterRecord verified fresh) := by
  unfold afterRecord
  split
  · trivial
  · split <;> exact genuine

theorem owes_afterProvider (refund : Refund) (now : Instant) (outcome : Option RefundedPayment) :
    Owes gateway db (afterProvider refund now outcome) := by
  unfold afterProvider
  split
  · trivial
  · split
    · exact fun _ requested => by cases requested
    · trivial
    · exact fun _ requested => by cases requested

theorem owes_afterAttempt (gatewayRef : String) (payment : Option Payment) :
    Owes gateway db (afterAttempt gatewayRef payment) := by
  unfold afterAttempt
  split
  · trivial
  · split <;> trivial

end Deliveries

/-- A settlement that commits on a known payment takes its money in. -/
theorem settled_received {db after : Db} {now : Instant} {payment : Payment} {order : Order}
    {mintQrToken : Nat → String} {settlement : Settlement}
    (settles : Settled db (settlementInput payment mintQrToken now) order now settlement after)
    (known : PaymentStored db payment) : Received after payment.id := by
  obtain ⟨row, stored, same⟩ := known
  refine ⟨paidPayment db.ledger.organization now row, ?_, same.id, Or.inl rfl⟩
  rw [settled_ledger settles rfl]
  exact Table.mem_update_of_hit stored same.id

section Steps

variable {gateway : Gateway} {service : Service} {phase : Phase} {acted : Acted}

theorem saw_owes {next : Phase} (saw : Saw service.office.db phase next)
    (owes : Owes gateway service.office.db phase) (knows : Knows service.office.db phase)
    (own : FindsOwn gateway service phase)
    (received : ∀ id, checking id phase → Received service.office.db id) :
    Owes gateway service.office.db next := by
  cases saw with
  | recorded verified fresh => exact owes_afterRecord owes fresh
  | looked verified payment found =>
    cases payment with
    | none =>
      refine ⟨owes, fun _ succeeded => ?_⟩
      have missing := own succeeded
      rw [found] at missing
      cases missing
    | some payment =>
      have stored := (findByGatewayRef_some found).1
      have mine (succeeded : verified.type = .succeeded) :
          payment.id = gateway.paymentOf verified.eventId ∧
            (payment.status = .paid → Received service.office.db payment.id) := by
        have named := own succeeded
        rw [found] at named
        exact ⟨Option.some.inj named, fun paid => ⟨payment, stored, rfl, Or.inl paid⟩⟩
      unfold afterLookup
      simp only
      split
      · exact owes_dispatch owes mine
      · split
        · exact owes_dispatch owes mine
        · exact ⟨owes, mine⟩
  | duplicate => exact owes
  | unduplicated verified payment =>
    exact ⟨owes.1, fun _ _ => owes.2 ▸ received payment.id rfl⟩
  | refundReported verified now refund => exact owes_completePending owes knows refund
  | racedBy verified current => cases current <;> exact owes_acknowledge owes knows _
  | answered _ refund now outcome => exact owes_afterProvider refund now outcome
  | sole => exact owes
  | lostDuplicate | lostVoid => exact owes_refundLost owes
  | replayed =>
    unfold replay
    split <;> trivial
  | attemptedBefore _ _ started payment => exact owes_afterAttempt started.gatewayRef payment
  | refundable | payable | started | unsettled | orderGone | unrefundable | unclaimed | unvoided
  | unpayable | unstarted | unattempted | done => trivial

theorem acts_owes {now : Instant} (acts : Acts service.office.db now phase acted)
    (owes : Owes gateway service.office.db phase) (knows : Knows service.office.db phase)
    (own : FindsOwn gateway service phase)
    (received : ∀ id, checking id phase → Received service.office.db id) :
    Owes gateway acted.db acted.phase := by
  have kept := acts_kept acts
  cases acts with
  | read phase next saw => exact saw_owes saw owes knows own received
  | logged verified fresh => exact owes_afterRecord owes fresh
  | reconciled verified payment settledRef =>
    refine owes_dispatch owes.1 fun succeeded => ⟨(owes.2 succeeded).1, fun paid => ?_⟩
    exact received_kept kept ((owes.2 succeeded).2 paid)
  | settled verified payment _ _ settlement after _ settles =>
    change Owes gateway after (afterSettle verified payment settlement.outcome)
    unfold afterSettle
    split
    · exact owes
    · exact ⟨owes.1, fun _ _ => owes.2 ▸ settled_received settles knows.2⟩
  | queued verified payment =>
    exact ⟨owes.1, fun _ _ => owes.2 ▸ received_kept kept (received payment.id rfl)⟩
  | failed verified payment =>
    change Owes gateway _ (afterMarkFailed verified payment)
    unfold afterMarkFailed
    split
    · exact owes
    · exact owes_acknowledge owes knows.1 _
  | released => exact owes_acknowledge owes knows.1 _
  | failedRefund origin refund reason moved =>
    exact owes_afterFailRefund reason moved knows.1 owes
  | duplicateRefunded origin refund | voided origin refund =>
    exact owes_refundSettled refund knows.1 owes
  | attempted _ _ started next answered =>
    change Owes gateway _ next
    rw [answered]
    exact owes_afterAttempt started.gatewayRef _
  | acknowledged | claimed | recordedPending | repointed => trivial

/-- A row of the log is as it was, newly received, or marked by its own acknowledgement. -/
theorem acts_webhookEvent {db : Db} {now : Instant} (acts : Acts db now phase acted)
    {row : WebhookEvent} (member : row ∈ acted.db.webhookEvents) :
    row ∈ db.webhookEvents ∨ row.status = .received ∨
      ∃ verified, phase = .acknowledge verified row.status ∧
        row.providerEventId = verified.eventId := by
  cases acts with
  | logged verified =>
    rcases Table.mem_insert.mp member with old | rfl
    · exact Or.inl old
    · exact Or.inr (Or.inl rfl)
  | acknowledged verified status =>
    rcases Table.mem_update_cases member with ⟨old, stored, hit, rfl⟩ | ⟨stored, hit⟩
    · exact Or.inr (Or.inr ⟨verified, rfl, hit⟩)
    · exact Or.inl stored
  | settled _ _ _ _ _ _ _ settles => cases settles <;> exact Or.inl member
  | released _ payment =>
    rcases releaseHoldsForOrder_cases db payment.orderId with same | ⟨_, _, _, same⟩
    · rw [same] at member
      exact Or.inl member
    · rw [same] at member
      exact Or.inl member
  | read | reconciled | queued | failed | claimed | failedRefund | recordedPending
  | duplicateRefunded | voided | attempted | repointed => exact Or.inl member

/-- What a step logs as processed was received. -/
theorem acts_logged {now : Instant} (acts : Acts service.office.db now phase acted)
    (owes : Owes gateway service.office.db phase)
    (logged : ∀ row ∈ service.office.db.webhookEvents, row.status = .processed →
      (gateway.event row.providerEventId).type = .succeeded →
        Received service.office.db (gateway.paymentOf row.providerEventId)) :
    ∀ row ∈ acted.db.webhookEvents, row.status = .processed →
      (gateway.event row.providerEventId).type = .succeeded →
        Received acted.db (gateway.paymentOf row.providerEventId) := by
  intro row member processed succeeded
  refine received_kept (acts_kept acts) ?_
  rcases acts_webhookEvent acts member with before | received | ⟨verified, acknowledges, named⟩
  · exact logged row before processed succeeded
  · rw [received] at processed
    cases processed
  · rw [acknowledges] at owes
    rw [named] at succeeded ⊢
    rw [owes.1] at succeeded
    exact owes.2 processed succeeded

/-- A call comes to check a payment by settling it, or has been checking it. -/
theorem acts_checking {db : Db} {now : Instant} (acts : Acts db now phase acted)
    (knows : Knows db phase) {id : Nat} (next : checking id acted.phase) :
    acted.queued = none ∧ (checking id phase ∨
      ∃ verified read, phase = .settle verified read ∧ read.id = id ∧ Received acted.db id) := by
  cases acts with
  | read phase next saw =>
    refine ⟨rfl, ?_⟩
    cases saw with
    | duplicate => exact Or.inl next
    | looked _ payment => cases payment <;> grind [checking, afterLookup, dispatch, onSucceeded]
    | refundReported _ _ found => cases found <;> grind [checking, completePending]
    | racedBy _ current => cases current <;> exact next.elim
    | answered _ _ _ outcome => cases outcome <;> grind [checking, afterProvider]
    | attemptedBefore _ _ _ payment => cases payment <;> grind [checking, afterAttempt]
    | lostDuplicate origin | lostVoid origin => cases origin <;> exact next.elim
    | recorded => grind [checking, afterRecord]
    | replayed => grind [checking, replay]
    | _ => exact next.elim
  | settled verified payment _ _ settlement after _ settles =>
    have again : settlement.outcome = .alreadySettled := by
      by_contra other
      simp [afterSettle, other, checking] at next
    have named : payment.id = id := by simpa [afterSettle, again, checking] using next
    refine ⟨by simp [again], Or.inr ⟨verified, payment, rfl, named, ?_⟩⟩
    exact named ▸ settled_received settles knows.2
  | logged => grind [checking, afterRecord]
  | reconciled => grind [checking, dispatch, onSucceeded]
  | failed => grind [checking, afterMarkFailed]
  | failedRefund origin _ _ moved => cases origin <;> cases moved <;> exact next.elim
  | duplicateRefunded origin | voided origin => cases origin <;> exact next.elim
  | attempted => grind [checking, afterAttempt]
  | acknowledged | queued | released | claimed | recordedPending | repointed => exact next.elim

/-- A refund is queued by a settlement that was refused, or by the check that found a duplicate. -/
theorem acts_queued {db : Db} {now : Instant} (acts : Acts db now phase acted)
    (knows : Knows db phase) {id : Nat} (queued : acted.queued = some id) :
    (∃ verified read, phase = .settle verified read ∧ read.id = id ∧ Received acted.db id ∧
      ∃ order ∈ db.orders, order.id = read.orderId ∧ order.status ≠ .confirmed ∧
        isAwaitingApproval order = false) ∨
    checking id phase := by
  cases acts with
  | settled verified payment _ order settlement after found settles =>
    left
    have refused : settlement.outcome = .refundRequired := by
      by_contra other
      simp [other] at queued
    have named : payment.id = id := by simpa [refused] using queued
    obtain ⟨stored, mine⟩ := Table.find_eq_some.mp found
    refine ⟨verified, payment, rfl, named, named ▸ settled_received settles knows.2, order,
      stored, mine, ?_⟩
    cases settles with
    | refused _ _ unconfirmed idle => exact ⟨unconfirmed, idle⟩
    | already _ outcome | unavailable _ outcome | awaits _ outcome | completes _ outcome =>
      rw [outcome] at refused
      cases refused
  | queued verified payment =>
    right
    cases queued
    rfl
  | _ => cases queued

/-- What settling a payment comes to, as far as its money is concerned. -/
theorem acts_settle {db : Db} {now : Instant} {verified : VerifiedWebhook} {read : Payment}
    (acts : Acts db now (.settle verified read) acted) :
    acted.db = db ∨ acted.queued = some read.id ∨
      (checking read.id acted.phase ∧ acted.db.orders = db.orders ∧
        ∃ order ∈ db.orders, order.id = read.orderId ∧ Holding order) ∨
      ((∃ order ∈ db.orders, order.id = read.orderId ∧ order.status = .pending ∧
        isAwaitingApproval order = false) ∧
        ∀ order ∈ acted.db.orders, order.id = read.orderId → Holding order) := by
  cases acts with
  | read => exact Or.inl rfl
  | settled verified payment mintQrToken order settlement after found settles =>
    obtain ⟨stored, mine⟩ := Table.find_eq_some.mp found
    have mine : order.id = read.orderId := mine
    -- The order's row after a write by its key is the written one.
    have written {write : Order → Order} {keeps : ∀ row, Keyed.key (write row) = Keyed.key row}
        (holding : Holding (write order)) :
        ∀ row ∈ db.orders.update (fun row => row.id = order.id) write keeps,
          row.id = read.orderId → Holding row := by
      intro row member same
      rcases Table.mem_update_cases member with ⟨old, before, hit, rfl⟩ | ⟨before, hit⟩
      · rw [Table.eq_of_key before stored hit]
        exact holding
      · exact absurd (same.trans mine.symm) hit
    cases settles with
    | already _ outcome bought =>
      refine Or.inr (Or.inr (Or.inl ⟨?_, rfl, order, stored, mine, ?_⟩))
      · simp [afterSettle, outcome, checking]
      · exact bought.imp id fun waiting => Or.inl waiting.2
    | refused => exact Or.inr (Or.inl rfl)
    | unavailable _ _ deciding => cases deciding
    | awaits _ _ line _ pending idle =>
      refine Or.inr (Or.inr (Or.inr ⟨⟨order, stored, mine, pending, idle⟩, written ?_⟩))
      exact Or.inr (Or.inl (by simp [isAwaitingApproval, pending]))
    | completes _ _ line assignments isOpen unasked =>
      have pending : order.status = .pending := by
        simpa [isOpenFor, settlementInput] using isOpen
      refine Or.inr (Or.inr (Or.inr ⟨⟨order, stored, mine, pending, (unasked rfl).2⟩, written ?_⟩))
      exact Or.inl rfl

/-- An order's row changes only in the settlement or the void of that order. -/
theorem acts_orderRow {db : Db} {now : Instant} (acts : Acts db now phase acted) {order : Order}
    (member : order ∈ acted.db.orders) :
    order ∈ db.orders ∨
      (∃ verified read, phase = .settle verified read ∧ order.id = read.orderId) ∨
      ∃ origin refund ledger, phase = .voidOrder origin refund ledger ∧
        order.id = refund.orderId ∧
        ∀ row ∈ acted.db.ledger.payments, row.id = ledger.paymentId → row.status = .refunded := by
  have updated {row : Order} {write : Order → Order}
      {keeps : ∀ row, Keyed.key (write row) = Keyed.key row}
      (member : order ∈ db.orders.update (fun other => other.id = row.id) write keeps) :
      order ∈ db.orders ∨ order.id = row.id := by
    rcases Table.mem_update_cases member with ⟨old, before, hit, rfl⟩ | ⟨before, hit⟩
    · exact Or.inr ((keeps old).trans hit)
    · exact Or.inl before
  cases acts with
  | settled verified payment _ row _ _ found settles =>
    have mine : row.id = payment.orderId := (Table.find_eq_some.mp found).2
    have settle (outcome : order ∈ db.orders ∨ order.id = row.id) :
        order ∈ db.orders ∨
          (∃ verified' read, Phase.settle verified payment = .settle verified' read ∧
            order.id = read.orderId) :=
      outcome.imp id fun same => ⟨verified, payment, rfl, same.trans mine⟩
    refine (?_ : order ∈ db.orders ∨ _).imp id Or.inl
    cases settles with
    | already | unavailable => exact Or.inl member
    | refused | awaits | completes => exact settle (updated member)
  | voided origin refund ledger row found =>
    have mine : row.id = refund.orderId := (Table.find_eq_some.mp found).2
    refine (updated member).imp id fun same => Or.inr ⟨origin, refund, ledger, rfl,
      same.trans mine, fun payment paid named => ?_⟩
    rcases Table.mem_update_cases paid with ⟨old, _, hit, rfl⟩ | ⟨_, hit⟩
    · rfl
    · exact absurd named hit
  | released _ payment =>
    rcases releaseHoldsForOrder_cases db payment.orderId with same | ⟨_, _, _, same⟩
    · rw [same] at member
      exact Or.inl member
    · rw [same] at member
      exact Or.inl member
  | read | logged | acknowledged | queued | claimed | failedRefund | recordedPending
  | reconciled | repointed | failed | duplicateRefunded | attempted => exact Or.inl member

/-- A call that was checking still is, has queued the refund, or found no other paid payment. -/
theorem acts_checked {db : Db} {now : Instant} (acts : Acts db now phase acted) {id : Nat}
    (checks : checking id phase) :
    checking id acted.phase ∨ acted.queued = some id ∨
      ∃ payment, (∃ verified, phase = .checkDuplicate verified payment ∨
          phase = .queueRefund verified payment) ∧ payment.id = id ∧
        (otherPaidPaymentExists db.ledger.payments payment.orderId id = false ∨
          db.orders.find payment.orderId = none) := by
  cases acts with
  | read phase next saw =>
    cases saw with
    | duplicate => exact Or.inl checks
    | unduplicated verified payment alone =>
      have named : payment.id = id := checks
      subst named
      exact Or.inr (Or.inr ⟨payment, ⟨verified, Or.inl rfl⟩, rfl, Or.inl alone⟩)
    | orderGone verified payment _ missing =>
      exact Or.inr (Or.inr ⟨payment, ⟨verified, Or.inr rfl⟩, checks, Or.inr missing⟩)
    | _ => exact checks.elim
  | queued verified payment =>
    have named : payment.id = id := checks
    exact Or.inr (Or.inl (by rw [named]))
  | _ => exact checks.elim

end Steps

end EventaApi.Guarantees
