import EventaApi.Guarantees.Deliveries
import EventaApi.Guarantees.DecisionSteps
import EventaApi.Source.Confirm

/-!
# Confirmed implies paid

A settlement writes `paid` itself, so what keeps an unpaid order from being confirmed is
read before its transaction opens. It stays true until then: an open order that is paid
stays paid while it is open, because a refund closes it in the same transaction, a
closed order never opens again, and no order's total changes.
-/
namespace EventaApi.Guarantees
open Library Source

/-- The order is confirmed and its tickets admit. -/
def Sold (db : Db) (order : Order) : Prop :=
  order.status = .confirmed ∧ ∃ ticket ∈ db.tickets.rows, ticket.orderId = order.id ∧ ticket.live

instance (db : Db) (order : Order) : Decidable (Sold db order) := inferInstanceAs (Decidable (_ ∧ _))

/-- A payment of the order is recorded paid. -/
def PaidFor (db : Db) (orderId : Nat) : Prop :=
  ∃ payment ∈ db.ledger.payments.rows, payment.orderId = orderId ∧ payment.status = .paid

instance (db : Db) (orderId : Nat) : Decidable (PaidFor db orderId) :=
  inferInstanceAs (Decidable (∃ _ ∈ _, _))

/-- An open order that owes and says it is paid has a payment that is. -/
def PaidStands (db : Db) : Prop :=
  ∀ order ∈ db.orders, AWAITING_DECISION.contains order.status = true → order.totalSatang ≠ 0 →
    order.paymentStatus = .paid → PaidFor db order.id

/-- The order a call is about to approve gives nothing away unpaid, whatever its row says now. -/
def VettedFor (db : Db) (orderId : Nat) : Prop :=
  ∃ order, db.orders.find orderId = some order ∧ Vetted order

/-- What a call found out before its transaction. -/
def Vouches (db : Db) : DecisionPhase → Prop
  | .orderById orderId _ | .settleOrder orderId _ => VettedFor db orderId
  | .confirmFree _ entry => VettedFor db entry.order.id
  | _ => True

/-- The confirm endpoint prices its placements, and issues tickets for nothing only where nothing is owed. -/
def PricesPlaces (_ : Registrations) : DecisionTurn → Prop
  | .elsewhere (.checkout op _) _ => PlacesFree op
  | _ => True

instance (registrations : Registrations) : (turn : DecisionTurn) →
    Decidable (PricesPlaces registrations turn)
  | .elsewhere (.checkout op _) _ => inferInstanceAs (Decidable (PlacesFree op))
  | .elsewhere (.invoicing _) _ | .elsewhere (.receive _) _ | .elsewhere (.advance _ _) _
  | .elsewhere (.crash _) _ | .resize _ _ | .receive _ | .advance _ _ | .crash _ => isTrue trivial

theorem placeInput_placesFree (input : ConfirmOrderDto) (priced : PricedSelection)
    (entry : Option OrganizerEntry) (draws : Draws) (attempt : Nat) :
    PlacesFree (.placeOrder (placeInput input priced entry draws attempt)) := by
  intro takes
  have free : priced.paymentRequired = false := by
    simp only [PlaceOrderInput.takesPlaces, placeInput, placement, placementFor] at takes
    cases owes : priced.paymentRequired <;> simp_all
  simpa [PricedSelection.paymentRequired, placeInput] using free

/-! ## An order's own row -/

section Orders

variable {db after : Db} {now : Instant} {op : Op}

theorem orderStep_vetted {old new : Order} (moved : OrderStep now op old new) (vetted : Vetted old) :
    Vetted new := by
  cases moved with
  | same => exact vetted
  | offered _ _ _ _ waiting =>
    intro _ owes
    exact vetted (by simp [AWAITING_DECISION, waiting]) owes
  | awaits => exact fun _ _ => rfl
  | refused | confirmed | rejected =>
    intro open' _
    simp [AWAITING_DECISION] at open'
  | refunded =>
    intro open' _
    simp only [statusAfterRefund] at open'
    split at open' <;> simp [AWAITING_DECISION] at open'

/-- What was checked of an order before a transaction still holds in it. -/
theorem vettedFor_committed (committed : Committed db now op after) {orderId : Nat}
    (vetted : VettedFor db orderId) : VettedFor after orderId := by
  obtain ⟨order, found, checked⟩ := vetted
  obtain ⟨new, found', moved⟩ := committed_order committed found
  exact ⟨new, found', orderStep_vetted moved checked⟩

/-- A live ticket was live before, or its order was placed or settled now. -/
theorem committed_liveTicket (committed : Committed db now op after) {ticket : Ticket}
    (member : ticket ∈ after.tickets) (live : ticket.live) :
    ticket ∈ db.tickets ∨ ticket.orderId = db.orders.next ∨
      ∃ input order, op = .settleOrder input ∧ db.orders.find input.orderId = some order ∧
        isOpenFor input.mode order.status = true ∧ ticket.orderId = order.id := by
  cases committed with
  | placed input placed _ placement =>
    cases issues : input.issueTickets with
    | true =>
      rw [placement.ticketed issues] at member
      rcases Table.mem_insertEach.mp member with old | ⟨_, _, same⟩
      · exact Or.inl old
      · exact Or.inr (Or.inl (by rw [same]))
    | false =>
      rw [placement.unticketed issues] at member
      exact Or.inl member
  | settled input order settlement _ found settles =>
    cases settles with
    | completes _ _ line assignments isOpen =>
      rcases Table.mem_insertEach.mp member with old | ⟨_, _, same⟩
      · exact Or.inl old
      · exact Or.inr (Or.inr ⟨input, order, rfl, found, isOpen, by rw [same]⟩)
    | already | refused | unavailable | awaits => exact Or.inl member
  | refunded orderId recordRefund order ledger found =>
    obtain ⟨old, stored, same⟩ := Table.mem_update.mp member
    split at same
    · rw [same] at live
      simp [Ticket.live] at live
    · exact Or.inl (same ▸ stored)
  | idle | sweptSeats | heldSeats | sweptTier | heldQuantity | released | releasedUnattached
  | expired | joined | offered | rejected | releasedOrder | recorded | enqueued => exact Or.inl member

/-- How an order comes to be sold: it was, it was placed so, or it was open and is settled now. -/
theorem committed_sold (committed : Committed db now op after) {order : Order}
    (member : order ∈ after.orders) (sold : Sold after order) :
    (∃ old ∈ db.orders, old.id = order.id ∧ Sold db old) ∨
      (∃ input, op = .placeOrder input ∧ input.takesPlaces = true ∧
        order.totalSatang = input.totals.totalSatang) ∨
      ∃ input old, op = .settleOrder input ∧ input.orderId = order.id ∧
        db.orders.find order.id = some old ∧ isOpenFor input.mode old.status = true ∧
        order.totalSatang = old.totalSatang := by
  obtain ⟨confirmed, ticket, issued, mine, live⟩ := sold
  rcases committed_newOrder committed member with born | ⟨old, found⟩
  · cases born with
    | placed input =>
      refine Or.inr (Or.inl ⟨input, rfl, ?_, rfl⟩)
      cases issues : input.issueTickets <;>
        simp_all [initialState, PlaceOrderInput.takesPlaces]
    | joined => cases confirmed
  · obtain ⟨stored, same⟩ := Table.find_eq_some.mp found
    have same : old.id = order.id := same
    obtain ⟨new, found', moved⟩ := committed_order committed found
    cases (Table.find_key member).symm.trans found'
    have owes := (orderStep_same moved).totalSatang
    rcases committed_liveTicket committed issued live with before | fresh | settled
    · cases moved with
      | same => exact Or.inl ⟨order, stored, rfl, confirmed, ticket, before, mine, live⟩
      | confirmed input _ named isOpen =>
        exact Or.inr (Or.inr ⟨input, old, rfl, named, found, isOpen, rfl⟩)
      | awaits _ _ _ _ pending =>
        rw [show (awaitingOrder old now old).status = old.status from rfl, pending] at confirmed
        cases confirmed
      | offered | refused | rejected => cases confirmed
      | refunded =>
        simp only [statusAfterRefund] at confirmed
        split at confirmed <;> cases confirmed
    · have unborn := Table.key_lt_next stored
      rw [show Keyed.key old = order.id from same, ← mine, fresh] at unborn
      exact absurd unborn (lt_irrefl _)
    · obtain ⟨input, row, rfl, there, isOpen, ofOrder⟩ := settled
      have ofOrder : row.id = order.id := ofOrder.symm.trans mine
      obtain ⟨stored', named⟩ := Table.find_eq_some.mp there
      have equal : row = old := Table.eq_of_key stored' stored (ofOrder.trans same.symm)
      subst equal
      exact Or.inr (Or.inr ⟨input, row, rfl, named.symm.trans same, found, isOpen, owes⟩)

/-- Checkout and the organizer leave every payment alone, and pay for no open order. -/
theorem paidStands_committed (stands : PaidStands db) (committed : Committed db now op after)
    (free : op.paysNothing) : PaidStands after := by
  have ledger := (commit_ledger free committed).1
  intro order member awaits owes paid
  simp only [PaidFor, ledger]
  rcases committed_newOrder committed member with born | ⟨old, found⟩
  · cases born with
    | placed input =>
      cases issues : input.issueTickets <;> simp [initialState, issues, AWAITING_DECISION] at awaits paid
    | joined => cases paid
  · obtain ⟨stored, same⟩ := Table.find_eq_some.mp found
    have same : old.id = order.id := same
    obtain ⟨new, found', moved⟩ := committed_order committed found
    cases (Table.find_key member).symm.trans found'
    rw [← same]
    cases moved with
    | same => exact stands order stored awaits owes paid
    | offered _ _ _ _ waiting =>
      exact stands old stored (by simp [AWAITING_DECISION, waiting]) owes paid
    | refused _ _ _ paying | awaits _ _ _ paying =>
      rw [free.1] at paying
      cases paying
    | confirmed | rejected => simp [AWAITING_DECISION] at awaits
    | refunded => exact free.elim

end Orders

/-! ## A payment flow's step -/

section Payments

variable {db : Db} {now : Instant} {phase : Phase} {acted : Acted}

/-- The settlement of a payment records it paid, whatever becomes of its order. -/
theorem settled_paidFor {read : Payment} {mintQrToken : Nat → String} {order : Order}
    {settlement : Settlement} {after : Db}
    (settles : Settled db (settlementInput read mintQrToken now) order now settlement after)
    (stored : PaymentStored db read) : PaidFor after read.orderId := by
  obtain ⟨row, member, same⟩ := stored
  rw [PaidFor, settled_ledger settles rfl]
  exact ⟨_, Table.mem_update_of_hit member same.id, same.orderId, rfl⟩

/-- An order's paid payment stays, or another is, or the order is voided with it. -/
theorem acts_paidFor (acts : Acts db now phase acted) (knows : Knows db phase)
    (refunds : ∀ refund ∈ db.ledger.refunds, ∃ payment ∈ db.ledger.payments,
      payment.id = refund.paymentId ∧ payment.orderId = refund.orderId ∧
        payment.amountSatang = refund.amountSatang ∧ moneyIn payment)
    {orderId : Nat} (paid : PaidFor db orderId) :
    PaidFor acted.db orderId ∨ ∃ origin refund finished order,
      phase = .voidOrder origin refund finished ∧ refund.orderId = orderId ∧ order.id = orderId ∧
        ∃ ledger, acted.db = refundedDb db order ledger now := by
  obtain ⟨payment, stored, mine, status⟩ := paid
  -- The payment a refund finishes is the order's that the refund names.
  have refunded {refund : Refund} {ledger : MarkRefundedInput}
      (known : RefundStored db refund) (named : ledger.paymentId = refund.paymentId)
      (hit : payment.id = ledger.paymentId) : refund.orderId = orderId := by
    obtain ⟨row, there, same⟩ := known
    obtain ⟨other, stored', id, ofOrder, _⟩ := refunds row there
    have equal : other = payment := Table.eq_of_key stored' stored
      (id.trans (same.paymentId.trans (named.symm.trans hit.symm)))
    rw [← same.orderId, ← ofOrder, equal, mine]
  obtain ⟨new, found, moved⟩ := acts_payment acts (Table.find_key stored)
  have there := (Table.find_eq_some.mp found).1
  cases moved with
  | same | repointed => exact Or.inl ⟨_, there, mine, status⟩
  | paid => exact Or.inl ⟨_, there, mine, rfl⟩
  | failed _ _ _ pending =>
    rw [pending] at status
    cases status
  | refunded _ ledger _ finishes named =>
    cases acts with
    | read => exact Or.inl ⟨payment, stored, mine, status⟩
    | duplicateRefunded origin refund _ covered =>
      cases finishes
      obtain ⟨other, elsewhere, ofOrder, paid, miss⟩ := otherPaidPaymentExists_iff.mp covered
      exact Or.inl ⟨other, Table.mem_update_of_miss elsewhere miss,
        ofOrder.trans (refunded knows.2.1 knows.2.2.2 named.symm), paid⟩
    | voided origin refund _ order located =>
      cases finishes
      have ofOrder := refunded knows.2.1 knows.2.2.2 named.symm
      exact Or.inr ⟨origin, refund, ledger, order, rfl, ofOrder,
        (Table.find_eq_some.mp located).2.trans ofOrder, _, rfl⟩
    | _ => cases finishes

/-- Every step of a payment flow leaves the open orders that are paid with a payment that is. -/
theorem acts_paidStands (acts : Acts db now phase acted) (knows : Knows db phase)
    (refunds : ∀ refund ∈ db.ledger.refunds, ∃ payment ∈ db.ledger.payments,
      payment.id = refund.paymentId ∧ payment.orderId = refund.orderId ∧
        payment.amountSatang = refund.amountSatang ∧ moneyIn payment)
    (stands : PaidStands db) : PaidStands acted.db := by
  intro order member awaits owes paid
  obtain ⟨op, flows, committed⟩ := acts_committed acts
  have stillPaid {old : Order} (stored : old ∈ db.orders) (same : old.id = order.id)
      (awaits' : AWAITING_DECISION.contains old.status = true) (owes' : old.totalSatang ≠ 0)
      (paid' : old.paymentStatus = .paid) : PaidFor acted.db order.id := by
    rcases acts_paidFor acts knows refunds (stands old stored awaits' owes' paid') with
      still | ⟨_, _, _, row, _, _, ofOrder, ledger, voided⟩
    · exact same ▸ still
    · -- The order was voided with its payment, so it is not open.
      rw [voided] at member
      obtain ⟨before, _, rewritten⟩ := Table.mem_update.mp member
      split at rewritten
      · rw [rewritten] at awaits
        simp only [statusAfterRefund] at awaits
        split at awaits <;> simp [AWAITING_DECISION] at awaits
      next miss =>
        rw [rewritten] at same
        exact absurd (same.symm.trans ofOrder.symm) miss
  rcases committed_newOrder committed member with born | ⟨old, found⟩
  · cases born <;> exact flows.elim
  · obtain ⟨stored, same⟩ := Table.find_eq_some.mp found
    have same : old.id = order.id := same
    obtain ⟨new, found', moved⟩ := committed_order committed found
    cases (Table.find_key member).symm.trans found'
    cases moved with
    | same => exact stillPaid stored same awaits owes paid
    | offered | rejected => exact flows.elim
    | awaits input _ named =>
      obtain ⟨verified, read, mintQrToken, rfl, rfl⟩ := flows
      have named : read.orderId = old.id := named
      rw [show (awaitingOrder old now old).id = old.id from rfl, ← named]
      cases acts with
      | read => exact named ▸ stillPaid member rfl awaits owes paid
      | settled _ _ _ _ _ _ _ settles => exact settled_paidFor settles knows.2
    | refused | confirmed => simp [AWAITING_DECISION] at awaits
    | refunded =>
      simp only [statusAfterRefund] at awaits
      split at awaits <;> simp [AWAITING_DECISION] at awaits

end Payments

/-! ## What the calls and the tables keep -/

/-- Every call about to approve an order found out that nothing is given away unpaid. -/
structure Vouched (registrations : Registrations) : Prop where
  grounded : Grounded registrations.service
  stands : PaidStands registrations.service.office.db
  calls : ∀ call ∈ registrations.calls, Vouches registrations.service.office.db call.phase

/-- An event before its first order, its first payment and its first decision. -/
structure Undecided (registrations : Registrations) : Prop where
  unpaid : Unpaid registrations.service
  calls : registrations.calls.rows = []

theorem undecided_vouched {registrations : Registrations} (undecided : Undecided registrations) :
    Vouched registrations where
  grounded := unpaid_grounded undecided.unpaid
  stands := fun _ stored => absurd stored (Table.not_mem_of_empty undecided.unpaid.orders _)
  calls := fun _ stored => absurd stored (Table.not_mem_of_empty undecided.calls _)

theorem vouches_kept {db after : Db}
    (kept : ∀ orderId, VettedFor db orderId → VettedFor after orderId) {phase : DecisionPhase}
    (vouches : Vouches db phase) : Vouches after phase := by
  cases phase with
  | orderById | settleOrder | confirmFree => exact kept _ vouches
  | mustFind | waitlistEntry | holdForOffer | markOffered | giveBack | findOwnedById | frontOfLine
  | releasePlace | done => trivial

theorem frontOfLine_found {db : Db} {ticketTypeId : Nat} {entry : WaitlistEntry}
    (front : frontOfLine db ticketTypeId = some entry) :
    db.orders.find entry.order.id = some entry.order := by
  have member := argmin_member front
  simp only [waitlistFor, List.mem_filter, List.mem_filterMap] at member
  obtain ⟨⟨item, _, joined⟩, _⟩ := member
  obtain ⟨_, _, joined⟩ := Option.bind_eq_some_iff.mp joined
  obtain ⟨order, found, rfl⟩ := Option.map_eq_some_iff.mp joined
  rw [← (Table.find_eq_some.mp found).2] at found
  exact found

/-- A call moves on with what it found out. -/
theorem decisionActs_vouches {db : Db} {now : Instant} {phase : DecisionPhase}
    {acted : DecisionActed} (acts : DecisionActs db now phase acted) (vouches : Vouches db phase) :
    Vouches acted.db acted.phase := by
  cases acts with
  | led _ _ leads =>
    cases leads with
    | found _ _ order found vetted => exact ⟨order, found, vetted⟩
    | located => exact vouches
    | foundOwing | unlocated | unsettled | entered | unoffered | opened | lineEnded | ended =>
      trivial
  | tried line entry _ front _ serves =>
    rw [serves]
    split
    next free =>
      exact ⟨entry.order, frontOfLine_found front, vetted_of_free (by simpa [confirmsOnOffer] using free)⟩
    · trivial
  | heldPlace => exact vouches
  | approved _ approvedFor =>
    cases approvedFor with
    | organizer asked =>
      cases asked <;> (simp only [afterApproval]; split <;> trivial)
    | line =>
      simp only [afterApproval]
      split <;> trivial
  | offered _ offeredFor =>
    cases offeredFor <;> (simp only [afterOffer]; split <;> trivial)
  | gaveBack _ offeredFor => cases offeredFor <;> trivial
  | swept | heldOffer | released => trivial

section Turns

variable {registrations : Registrations}

theorem attend_vouched (registrations : Registrations) (turn : DecisionTurn)
    (vouched : Vouched registrations) : Vouched (attend registrations turn) := by
  cases turn with
  | elsewhere turn apart =>
    obtain ⟨op, serves, committed⟩ := serve_committed registrations.service turn
    refine ⟨serve_grounded _ turn vouched.grounded, ?_, fun call member =>
      vouches_kept (fun _ => vettedFor_committed committed) (vouched.calls call member)⟩
    cases turn with
    | checkout op' free =>
      cases serves
      have stands := paidStands_committed vouched.stands committed free
      exact stands
    | invoicing | receive | crash => exact vouched.stands
    | advance callId answer =>
      simp only [attend, serve]
      split
      next call found =>
        exact acts_paidStands (act_cases _ _ answer call.phase)
          (vouched.grounded.calls call (Table.find_eq_some.mp found).1) vouched.grounded.refunds
          vouched.stands
      next => exact vouched.stands
  | resize ticketTypeId total =>
    exact ⟨⟨vouched.grounded.calls, vouched.grounded.refunds, vouched.grounded.payments,
      vouched.grounded.paidAt⟩, vouched.stands, vouched.calls⟩
  | receive request =>
    refine ⟨vouched.grounded, vouched.stands, fun call member => ?_⟩
    rcases Table.mem_insert.mp member with old | rfl
    · exact vouched.calls call old
    · cases request <;> trivial
  | crash callId =>
    refine ⟨vouched.grounded, vouched.stands, fun call member => ?_⟩
    rcases mem_moveDecision member with ⟨_, ended⟩ | ⟨before, _⟩
    · rw [ended]
      trivial
    · exact vouched.calls call before
  | advance callId answer =>
    simp only [attend]
    split
    next call found =>
      have acts := actOrThrow_cases registrations answer call.phase
      obtain ⟨at', op, decides, committed⟩ := decisionActs_committed acts
      have vouches := vouched.calls call (Table.find_eq_some.mp found).1
      refine ⟨grounded_committed vouched.grounded decides.paysNothing committed,
        paidStands_committed vouched.stands committed decides.paysNothing, fun other member => ?_⟩
      rcases mem_moveDecision member with ⟨_, moved⟩ | ⟨before, _⟩
      · rw [moved]
        exact decisionActs_vouches acts vouches
      · exact vouches_kept (fun _ => vettedFor_committed committed) (vouched.calls other before)
    next => exact vouched

/-- A step of a payment flow that sells an order settles its payment. -/
theorem acts_sold {db : Db} {now : Instant} {phase : Phase} {acted : Acted}
    (acts : Acts db now phase acted) (knows : Knows db phase) {order : Order}
    (member : order ∈ acted.db.orders) (sold : Sold acted.db order) :
    (∃ old ∈ db.orders, old.id = order.id ∧ Sold db old) ∨ PaidFor acted.db order.id := by
  obtain ⟨op, flows, committed⟩ := acts_committed acts
  rcases committed_sold committed member sold with before | ⟨input, rfl, _⟩ |
    ⟨input, old, rfl, named, _⟩
  · exact Or.inl before
  · exact flows.elim
  · obtain ⟨verified, read, mintQrToken, rfl, rfl⟩ := flows
    cases acts with
    | read => exact Or.inl ⟨order, member, rfl, sold⟩
    | settled _ _ _ _ _ _ _ settles =>
      exact Or.inr (named ▸ settled_paidFor settles knows.2)

/-- A turn that sells an order which owes money leaves a payment of it recorded paid. -/
theorem attend_sold (registrations : Registrations) (turn : DecisionTurn)
    (vouched : Vouched registrations) (prices : PricesPlaces registrations turn) {order : Order}
    (member : order ∈ (attend registrations turn).service.office.db.orders)
    (owes : order.totalSatang ≠ 0)
    (sold : Sold (attend registrations turn).service.office.db order) :
    (∃ old ∈ registrations.service.office.db.orders, old.id = order.id ∧
        Sold registrations.service.office.db old) ∨
      PaidFor (attend registrations turn).service.office.db order.id := by
  cases turn with
  | resize | receive | crash => exact Or.inl ⟨order, member, rfl, sold⟩
  | elsewhere turn apart =>
    cases turn with
    | checkout op free =>
      obtain ⟨op', serves, committed⟩ := serve_committed registrations.service (.checkout op free)
      cases serves
      have places : PlacesFree op := prices
      have undecided : ¬ op.decides := apart
      rcases committed_sold committed member sold with before | ⟨input, made, takes, same⟩ |
        ⟨input, _, made, _⟩
      · exact Or.inl before
      · rw [made] at places
        exact absurd (same.trans (places takes)) owes
      · rw [made] at undecided
        exact absurd trivial undecided
    | invoicing | receive | crash => exact Or.inl ⟨order, member, rfl, sold⟩
    | advance callId answer =>
      simp only [attend, serve] at member sold ⊢
      split at member
      next call found =>
        rw [found] at sold
        exact acts_sold (act_cases _ _ answer call.phase)
          (vouched.grounded.calls call (Table.find_eq_some.mp found).1) member sold
      next missing =>
        rw [missing] at sold
        exact Or.inl ⟨order, member, rfl, sold⟩
  | advance callId answer =>
    simp only [attend] at member sold ⊢
    split at member
    next call found =>
      rw [found] at sold
      have acts := actOrThrow_cases registrations answer call.phase
      obtain ⟨at', op, decides, committed⟩ := decisionActs_committed acts
      have ledger := (commit_ledger decides.paysNothing committed).1
      rcases committed_sold committed member sold with before | ⟨input, rfl, _⟩ |
        ⟨input, old, rfl, named, there, isOpen, same⟩
      · exact Or.inl before
      · exact decides.elim
      · right
        obtain ⟨orderId, approvedFor, mintQrToken, settles, rfl⟩ := decides
        obtain ⟨read, found', vetted⟩ : VettedFor _ orderId := by
          have vouches := vouched.calls call (Table.find_eq_some.mp found).1
          rw [settles] at vouches
          exact vouches
        have named : orderId = order.id := named
        rw [named, there] at found'
        cases found'
        have paid := vouched.stands old (Table.find_eq_some.mp there).1 isOpen (same ▸ owes)
          (vetted isOpen (same ▸ owes))
        have sameOrder : old.id = order.id := (Table.find_eq_some.mp there).2
        rw [sameOrder] at paid
        simp only [PaidFor, advanceDecision, ledger]
        exact paid
    next missing =>
      rw [missing] at sold
      exact Or.inl ⟨order, member, rfl, sold⟩

end Turns

theorem advance_ledger (registrations : Registrations) (callId : Nat) (answer : DecisionAnswer) :
    (attend registrations (.advance callId answer)).service.office.db.ledger =
      registrations.service.office.db.ledger := by
  simp only [attend]
  split
  next call _ =>
    obtain ⟨_, _, decides, committed⟩ :=
      decisionActs_committed (actOrThrow_cases registrations answer call.phase)
    exact (commit_ledger decides.paysNothing committed).1
  next => rfl

/-- Whatever runs in between, an order that owes is sold only with a payment of it recorded paid,
and by an approval only where one was already. -/
theorem confirmed_implies_paid {start : Registrations} (undecided : Undecided start)
    {turns : List DecisionTurn} (turn : DecisionTurn)
    (prices : Meets attend PricesPlaces start (turns ++ [turn])) :
    let before := (run attend start turns).service.office.db
    let after := (attend (run attend start turns) turn).service.office.db
    ∀ order ∈ after.orders.rows, 0 < order.totalSatang → Sold after order →
      (∀ old ∈ before.orders.rows, old.id = order.id → ¬ Sold before old) →
        PaidFor after order.id ∧
          ∀ callId answer, turn = .advance callId answer → PaidFor before order.id := by
  intro before after order member owes sold unsold
  have vouched : Vouched (run attend start turns) :=
    run_invariant_always attend_vouched turns (undecided_vouched undecided)
  obtain ⟨_, priced, _⟩ := meets_append.mp prices
  rcases attend_sold _ turn vouched priced member (Nat.ne_of_gt owes) sold with
    ⟨old, stored, same, alreadySold⟩ | paid
  · exact absurd alreadySold (unsold old stored same)
  · refine ⟨paid, fun callId answer approving => ?_⟩
    have ledger : after.ledger = before.ledger := by
      simp only [after, approving]
      exact advance_ledger _ callId answer
    rw [PaidFor, ← ledger]
    exact paid

theorem desk_undecided : Undecided desk := ⟨till_unpaid, rfl⟩

/-- An order on an event that requires approval, paid for and then found approvable. -/
def paidThenChecked : List DecisionTurn :=
  elsewhere ([.checkout (.placeOrder (booking "sale" 0 0 none [] 1000 true)) trivial] ++
    paying 0 "pi_1" ++ landing 1 "evt_1" "pi_1") ++
  [.receive (.approve 0 7), .advance 0 {}, .advance 0 {}]

theorem confirmed_implies_paid_desk :
    let before := (run attend desk paidThenChecked).service.office.db
    let after := (attend (run attend desk paidThenChecked) (.advance 0 {})).service.office.db
    ∃ order ∈ after.orders.rows, order.totalSatang = 1000 ∧ Sold after order ∧
      PaidFor after order.id ∧ PaidFor before order.id := by
  have prices : Meets attend PricesPlaces desk (paidThenChecked ++ [.advance 0 {}]) := by
    decide +kernel
  have sells : ∃ order ∈ (attend (run attend desk paidThenChecked)
      (.advance 0 {})).service.office.db.orders.rows, order.totalSatang = 1000 ∧
        Sold (attend (run attend desk paidThenChecked) (.advance 0 {})).service.office.db order ∧
        ∀ old ∈ (run attend desk paidThenChecked).service.office.db.orders.rows,
          old.id = order.id → ¬ Sold (run attend desk paidThenChecked).service.office.db old := by
    decide +kernel
  obtain ⟨order, member, total, sold, unsold⟩ := sells
  obtain ⟨paid, already⟩ := confirmed_implies_paid desk_undecided (.advance 0 {}) prices order
    member (by rw [total]; decide) sold unsold
  exact ⟨order, member, total, sold, paid, already 0 {} rfl⟩

end EventaApi.Guarantees
