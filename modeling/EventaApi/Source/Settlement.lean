import EventaApi.Library.Tally
import EventaApi.Source.PlaceOrder

/-!
# Settling, rejecting and refunding an order

`CheckoutRepository.settleOrder` in its two modes, `rejectOrder`, `refundOrder` and
`releaseHoldsForOrder`. Each locks the order's row first; the payment ledger is
reached only through the hook the caller passes in.
-/
namespace EventaApi.Source
open Library

def ORDER_GONE : String := "This order isn't available."

def lockOrder (db : Db) (orderId : Nat) : Except TxError Order :=
  match db.orders.find orderId with
  | some order => .ok order
  | none => .error (.domain (.notFound ORDER_GONE))

/-! ## What the settlement judges -/

/-- The order's line; an order is written with exactly one. -/
def orderLine (db : Db) (orderId : Nat) : Option OrderItem :=
  (db.orderItems.select fun item => item.orderId = orderId).head?

/-- The seats of every hold stamped with the order, whatever became of the hold. -/
def heldSeatIds (holds : Table SeatHold) (orderId : Nat) : List Nat :=
  (holds.select fun hold => hold.orderId = some orderId).filterMap SeatHold.seatId

/-- Every seat that still exists sells under the order's ticket type. -/
def seatsSellUnder (db : Db) (eventId : Nat) (seatIds : List Nat) (ticketTypeId : Nat) : Bool :=
  seatIds.isEmpty ||
    (db.seats.select fun seat => seat.id ∈ seatIds).all fun seat =>
      seatSellsUnder seat.ticketTypeId ticketTypeId (mapHasTypedSeats db eventId)

def settlementLine (item : OrderItem) (tier : TicketType) : SettlementLine where
  orderItemId := item.id
  ticketTypeId := item.ticketTypeId
  quantity := item.quantity
  tierName := tier.name
  sold := tier.sold
  total := tier.total

def loadSettlement (db : Db) (order : Order) : SettlementContext :=
  let item := orderLine db order.id
  let seatIds := heldSeatIds db.seatHolds order.id
  { line := item.bind fun item =>
      (db.ticketTypes.find item.ticketTypeId).map (settlementLine item)
    seatIds
    takenSeatIds := assignedSeatIds db.seatAssignments seatIds
    seatTypesMatch := item.all fun item => seatsSellUnder db order.eventId seatIds item.ticketTypeId
    placesCounted := isAwaitingApproval order }

/-- One of the order's seats is no longer held for it. -/
def seatHoldLost (holds : Table SeatHold) (orderId : Nat) : Bool :=
  holds.select (fun hold =>
    hold.orderId = some orderId ∧ hold.seatId ≠ none ∧ hold.status ≠ .active) != []

/-! ## Writes -/

/-- Raise the tier's `sold` by the line, from the count read under its lock. -/
def countSale (ticketTypes : Table TicketType) (line : SettlementLine) : Table TicketType :=
  ticketTypes.update (fun row => row.id = line.ticketTypeId)
    fun row => { row with sold := line.sold + line.quantity }

/-- GA holds convert, for `sold` carries them now; seats stay held until the decision. -/
def holdForDecision (holds : Table SeatHold) (orderId : Nat) : Table SeatHold :=
  (holds.update (fun hold => hold.orderId = some orderId ∧ hold.seatId = none)
    fun hold => { hold with status := .converted, orderId := none }).update
    (fun hold => hold.orderId = some orderId ∧ hold.seatId ≠ none ∧ hold.status = .active)
    fun hold => { hold with expiresAt := DECISION_HOLD_EXPIRY }

/-- The seats an order still holds go back on sale. -/
def releaseActiveHolds (holds : Table SeatHold) (orderId : Nat) : Table SeatHold :=
  holds.update (fun hold => hold.orderId = some orderId ∧ hold.status = .active)
    fun hold => { hold with status := .released }

/-- The order's holds have become tickets. -/
def convertOrderHolds (holds : Table SeatHold) (orderId : Nat) : Table SeatHold :=
  holds.update (fun hold => hold.orderId = some orderId)
    fun hold => { hold with status := .converted, orderId := none }

/-- Lower each ticket type's `sold` by its count; `GREATEST(sold - n, 0)` is the truncation. -/
def giveBackStock (ticketTypes : Table TicketType) (byType : Tally Nat) : Table TicketType :=
  byType.sorted.foldl
    (fun types entry => types.update (fun row => row.id = entry.1)
      fun row => { row with sold := row.sold - entry.2 })
    ticketTypes

/-- What an order's lines counted, by ticket type. -/
def linesByType (db : Db) (orderId : Nat) : Tally Nat :=
  Tally.ofEntries ((db.orderItems.select fun item => item.orderId = orderId).map
    fun item => (item.ticketTypeId, item.quantity))

/-- Hand a waiting registration's counted places back to its tiers. -/
def givePlacesBack (db : Db) (orderId : Nat) : Table TicketType :=
  giveBackStock db.ticketTypes (linesByType db orderId)

def voidedByType (voided : List Ticket) : Tally Nat :=
  Tally.ofEntries (voided.map fun ticket => (ticket.ticketTypeId, 1))

/-- Lower each ticket type's `sold` by the tickets voided from it. -/
def returnStock (ticketTypes : Table TicketType) (voided : List Ticket) : Table TicketType :=
  giveBackStock ticketTypes (voidedByType voided)

/-! ## Settlement -/

inductive SettlementOutcome where
  | settled | alreadySettled | refundRequired | awaitingApproval | unavailable
  deriving DecidableEq, Repr

structure Settlement where
  outcome : SettlementOutcome
  reference : String
  ticketCount : Nat
  reason : Option String := none
  deriving DecidableEq, Repr

/-- Everything the settlement transaction needs, resolved before it opens. -/
structure SettleOrderInput where
  orderId : Nat
  mode : SettlementMode
  /-- The organizer, on the approval path only. -/
  decidedBy : Option Nat := none
  mintQrToken : Nat → String
  /-- Runs inside the settlement transaction: the ledger's flip to paid. -/
  recordPayment : Ledger → Ledger

@[reducible] def refusedOrder (order : Order) (now : Instant) (row : Order) : Order :=
  { row with
    status := .cancelled
    paymentStatus := .paid
    cancelledAt := some now
    version := order.version + 1 }

/-- The losing side of the race: cancel, release, refund, never a ticket. -/
def refuseSettlement (db : Db) (input : SettleOrderInput) (order : Order) (reason : String)
    (now : Instant) : Settlement × Db :=
  ({ outcome := .refundRequired, reference := order.reference, ticketCount := 0 },
    { db with
      orders := db.orders.update (fun row => row.id = order.id) (refusedOrder order now)
      seatHolds := releaseActiveHolds db.seatHolds order.id
      ledger := input.recordPayment db.ledger
      outbox := db.outbox ++ [.refundRequired order.id order.reference order.totalSatang
        order.currency reason now] })

/-- Paid for, and on the organizer's clock from now on. -/
@[reducible] def awaitingOrder (order : Order) (now : Instant) (row : Order) : Order :=
  { row with
    paymentStatus := .paid
    approvalRequestedAt := some now
    version := order.version + 1 }

/-- The places are counted and held, and the order is paid for: only the decision is left. -/
def awaitingDb (db : Db) (input : SettleOrderInput) (order : Order) (line : SettlementLine)
    (now : Instant) : Db :=
  { db with
    ticketTypes := countSale db.ticketTypes line
    seatHolds := holdForDecision db.seatHolds order.id
    orders := db.orders.update (fun row => row.id = order.id) (awaitingOrder order now)
    ledger := input.recordPayment db.ledger }

/-- The money arrived on an order that requires approval: its places wait for a decision. -/
def awaitDecision (db : Db) (input : SettleOrderInput) (order : Order) (line : SettlementLine)
    (now : Instant) : Settlement × Db :=
  if seatHoldLost db.seatHolds order.id then
    refuseSettlement db input order REFUND_REASON.seatsReleased now
  else
    ({ outcome := .awaitingApproval, reference := order.reference, ticketCount := 0 },
      awaitingDb db input order line now)

@[reducible] def settledTicket (input : SettleOrderInput) (order : Order) (line : SettlementLine)
    (admission id : Nat) : Ticket where
  id := id
  orderId := order.id
  orderItemId := line.orderItemId
  eventId := order.eventId
  ticketTypeId := line.ticketTypeId
  attendeeId := order.attendeeId
  qrToken := input.mintQrToken admission
  holderName := order.buyerName
  ticketLabel := line.tierName

/-- The order's row once its tickets exist. -/
@[reducible] def confirmedOrder (input : SettleOrderInput) (order : Order) (now : Instant) (row : Order) :
    Order :=
  { row with
    status := .confirmed
    paymentStatus := .paid
    confirmedAt := some now
    approvedAt := if input.mode = .approval then some now else row.approvedAt
    decidedBy := if input.mode = .approval then input.decidedBy else row.decidedBy
    version := order.version + 1 }

/-- Whether the confirmation says that money changed hands. -/
def saysPaid (mode : SettlementMode) (order : Order) : Bool :=
  match mode with
  | .payment => true
  | .approval => 0 < order.totalSatang

/-- One ticket per admission, the holds converted and the order confirmed. -/
def ticketedDb (db : Db) (input : SettleOrderInput) (order : Order) (placesCounted : Bool)
    (line : SettlementLine) (seatAssignments : Table SeatAssignment) (now : Instant) : Db :=
  { db with
    ticketTypes := if placesCounted then db.ticketTypes else countSale db.ticketTypes line
    tickets := db.tickets.insertEach (List.range line.quantity) (settledTicket input order line)
    seatAssignments
    seatHolds := convertOrderHolds db.seatHolds order.id
    orders := db.orders.update (fun row => row.id = order.id) (confirmedOrder input order now)
    ledger := input.recordPayment db.ledger
    outbox := db.outbox ++ [.registrationConfirmed order.id order.reference line.quantity
      order.totalSatang (saysPaid input.mode order)] }

/-- Issue the tickets, seat them, convert the holds and confirm the order. -/
def completeSettlement (db : Db) (input : SettleOrderInput) (order : Order)
    (context : SettlementContext) (line : SettlementLine) (now : Instant) :
    Except TxError (Settlement × Db) := do
  let seatAssignments ← assignSeats db.seatAssignments context.seatIds
    (List.range' db.tickets.next line.quantity)
  .ok ({ outcome := .settled, reference := order.reference, ticketCount := line.quantity },
    ticketedDb db input order context.placesCounted line seatAssignments now)

theorem line_of_unblocked {context : SettlementContext} {mode : SettlementMode}
    (passed : settlementBlocker context mode = none) : context.line.isSome := by
  obtain ⟨line, honoured⟩ := settlementBlocker_eq_none.mp passed
  simp [honoured.judged]

/-- The money arrived, or an organizer decided: complete the order, exactly once. -/
def settleOrder (db : Db) (input : SettleOrderInput) (now : Instant) :
    Except TxError (Settlement × Db) := do
  let order ← lockOrder db input.orderId
  if order.status = .confirmed then
    .ok ({ outcome := .alreadySettled, reference := order.reference, ticketCount := order.seats },
      { db with ledger := input.recordPayment db.ledger })
  -- Already paid for and waiting: a second payment, which the caller refunds as a duplicate.
  else if input.mode = .payment ∧ isAwaitingApproval order then
    .ok ({ outcome := .alreadySettled, reference := order.reference, ticketCount := 0 },
      { db with ledger := input.recordPayment db.ledger })
  else if !isOpenFor input.mode order.status then
    if input.mode = .approval then .error (.domain (.conflict DECIDED_ELSEWHERE))
    else .ok (refuseSettlement db input order REFUND_REASON.orderClosed now)
  else
    let context := loadSettlement db order
    match passed : settlementBlocker context input.mode with
    | some blocked =>
      if input.mode = .approval then
        .ok ({ outcome := .unavailable, reference := order.reference, ticketCount := 0
               reason := some blocked }, db)
      else .ok (refuseSettlement db input order blocked now)
    | none =>
      let line := context.line.get (line_of_unblocked passed)
      if input.mode = .payment ∧ order.requiresApproval then
        .ok (awaitDecision db input order line now)
      else completeSettlement db input order context line now

/-! ## Rejecting -/

structure RejectOrderInput where
  orderId : Nat
  decidedBy : Nat
  reason : Option String
  /-- The decider holds the refund permission. -/
  mayRefund : Bool

structure RejectedOrder where
  reference : String
  /-- Paid for while it waited, and not refunded yet: the caller refunds it. -/
  refundDue : Bool
  deriving DecidableEq, Repr

@[reducible] def rejectedOrder (input : RejectOrderInput) (order : Order) (now : Instant) (row : Order) :
    Order :=
  { row with
    status := .rejected
    rejectedAt := some now
    decidedBy := some input.decidedBy
    rejectionReason := input.reason
    version := order.version + 1 }

def rejectedDb (db : Db) (input : RejectOrderInput) (order : Order) (now : Instant) : Db :=
  { db with
    ticketTypes := if isAwaitingApproval order then givePlacesBack db order.id else db.ticketTypes
    orders := db.orders.update (fun row => row.id = order.id) (rejectedOrder input order now)
    seatHolds := releaseActiveHolds db.seatHolds order.id
    outbox := db.outbox ++ [.registrationRejected order.id order.reference input.reason] }

/-- The organizer refused a sign-up: its places go back, and a notice is queued. -/
def rejectOrder (db : Db) (input : RejectOrderInput) (now : Instant) :
    Except TxError (RejectedOrder × Db) := do
  let order ← lockOrder db input.orderId
  let refundDue := rejectionRefunds order
  if order.status = .rejected then .ok ({ reference := order.reference, refundDue }, db)
  else if !isRejectable order then .error (.domain (.conflict DECIDED_ELSEWHERE))
  else if refundDue && !input.mayRefund then .error (.domain (.conflict PAID_WHILE_DECIDING))
  else .ok ({ reference := order.reference, refundDue }, rejectedDb db input order now)

/-! ## Refunding and releasing -/

/-- A ticket that still admits someone. -/
def Ticket.live (ticket : Ticket) : Prop := ticket.status = .issued ∨ ticket.status = .checkedIn

instance (ticket : Ticket) : Decidable ticket.live := inferInstanceAs (Decidable (_ ∨ _))

structure RefundedOrder where
  ticketsVoided : Nat
  seatsReleased : Nat
  deriving DecidableEq, Repr

/-- The order's live tickets, which a refund takes back. -/
def liveTickets (db : Db) (orderId : Nat) : List Ticket :=
  db.tickets.select fun ticket => ticket.orderId = orderId ∧ ticket.live

/-- A live assignment of one of the tickets a refund voids. -/
def SeatAssignment.voidedWith (assignment : SeatAssignment) (voided : List Ticket) : Prop :=
  assignment.ticketId ∈ voided.map Ticket.id ∧ assignment.releasedAt = none

instance (assignment : SeatAssignment) (voided : List Ticket) :
    Decidable (assignment.voidedWith voided) := inferInstanceAs (Decidable (_ ∧ _))

/-- A waiting order's lines, and then the tickets voided, handed back to the tiers. -/
def refundedStock (db : Db) (order : Order) : Table TicketType :=
  returnStock (if isAwaitingApproval order then givePlacesBack db order.id else db.ticketTypes)
    (liveTickets db order.id)

@[reducible] def refundedOrder (order : Order) (row : Order) : Order :=
  { row with status := statusAfterRefund order.status, paymentStatus := .refunded }

def refundedDb (db : Db) (order : Order) (ledger : Ledger) (now : Instant) : Db :=
  { db with
    ticketTypes := refundedStock db order
    seatHolds := if isAwaitingApproval order then releaseActiveHolds db.seatHolds order.id
      else db.seatHolds
    tickets := db.tickets.update (fun ticket => ticket.orderId = order.id ∧ ticket.live)
      fun ticket => { ticket with status := .refunded }
    seatAssignments := db.seatAssignments.update
      (fun assignment => assignment.voidedWith (liveTickets db order.id))
      fun assignment => { assignment with releasedAt := some now }
    orders := db.orders.update (fun row => row.id = order.id) (refundedOrder order)
    ledger }

/-- Give the inventory back after a refund; `recordRefund` runs in the same transaction. -/
def refundOrder (db : Db) (orderId : Nat) (recordRefund : Ledger → Except TxError Ledger)
    (now : Instant) : Except TxError (RefundedOrder × Db) := do
  let order ← lockOrder db orderId
  let voided := liveTickets db order.id
  let released := db.seatAssignments.select fun assignment => assignment.voidedWith voided
  let ledger ← recordRefund db.ledger
  .ok ({ ticketsVoided := voided.length, seatsReleased := released.length },
    refundedDb db order ledger now)

/-- Give a lapsed payment attempt's holds back, while the order is on the checkout's clock. -/
def releaseHoldsForOrder (db : Db) (orderId : Nat) : Db :=
  match db.orders.find orderId with
  | none => db
  | some order =>
    if isOnCheckoutClock order then
      { db with seatHolds := releaseActiveHolds db.seatHolds orderId }
    else db

/-! ## What each transaction did -/

/-- Giving stock back lowers each tier by its count and leaves everything else alone. -/
theorem find_giveBackStock (ticketTypes : Table TicketType) (byType : Tally Nat) (key : Nat) :
    (giveBackStock ticketTypes byType).find key = (ticketTypes.find key).map fun tier =>
      { tier with sold := tier.sold - byType.count key } := by
  rw [← Tally.count_sorted]
  unfold giveBackStock
  generalize byType.sorted = entries
  induction entries generalizing ticketTypes with
  | nil => simp
  | cons entry rest ih =>
    rw [List.foldl_cons, ih, Table.find_update]
    cases found : ticketTypes.find key with
    | none => rfl
    | some tier =>
      have same : tier.id = key := (Table.find_eq_some.mp found).2
      by_cases hit : entry.1 = key
      · simp [same, hit, Nat.sub_sub]
      · simp [same, hit, Ne.symm hit]

/-- The five ways a settlement of a found order ends, each with the checks it passed. -/
inductive Settled (db : Db) (input : SettleOrderInput) (order : Order) (now : Instant) :
    Settlement → Db → Prop where
  | already (settlement : Settlement) (outcome : settlement.outcome = .alreadySettled)
      (bought : order.status = .confirmed ∨
        (input.mode = .payment ∧ isAwaitingApproval order = true)) :
      Settled db input order now settlement { db with ledger := input.recordPayment db.ledger }
  | refused (reason : String) (paying : input.mode = .payment)
      (unconfirmed : order.status ≠ .confirmed) (idle : isAwaitingApproval order = false) :
      Settled db input order now (refuseSettlement db input order reason now).1
        (refuseSettlement db input order reason now).2
  | unavailable (settlement : Settlement) (outcome : settlement.outcome = .unavailable)
      (deciding : input.mode = .approval)
      (blocked : settlementBlocker (loadSettlement db order) .approval = settlement.reason)
      (said : settlement.reason.isSome) :
      Settled db input order now settlement db
  | awaits (settlement : Settlement) (outcome : settlement.outcome = .awaitingApproval)
      (line : SettlementLine) (paying : input.mode = .payment) (pending : order.status = .pending)
      (idle : isAwaitingApproval order = false) (asks : order.requiresApproval = true)
      (honoured : Honoured (loadSettlement db order) line)
      (kept : seatHoldLost db.seatHolds order.id = false) :
      Settled db input order now settlement (awaitingDb db input order line now)
  | completes (settlement : Settlement) (outcome : settlement.outcome = .settled)
      (line : SettlementLine) (assignments : Table SeatAssignment)
      (isOpen : isOpenFor input.mode order.status = true)
      (unasked : input.mode = .payment →
        order.requiresApproval = false ∧ isAwaitingApproval order = false)
      (honoured : Honoured (loadSettlement db order) line)
      (seated : assignSeats db.seatAssignments (heldSeatIds db.seatHolds order.id)
        (List.range' db.tickets.next line.quantity) = .ok assignments) :
      Settled db input order now settlement
        (ticketedDb db input order (isAwaitingApproval order) line assignments now)

theorem lockOrder_ok {db : Db} {orderId : Nat} {order : Order} :
    lockOrder db orderId = .ok order ↔ db.orders.find orderId = some order := by
  unfold lockOrder
  split <;> simp_all

theorem orderLine_some {db : Db} {orderId : Nat} {item : OrderItem}
    (line : orderLine db orderId = some item) : item ∈ db.orderItems ∧ item.orderId = orderId :=
  Table.mem_select.mp (List.mem_of_mem_head? line)

/-- The line a settlement judges is the order's item with its tier's own count. -/
theorem loadSettlement_line {db : Db} {order : Order} {line : SettlementLine}
    (judged : (loadSettlement db order).line = some line) :
    ∃ item tier, item ∈ db.orderItems ∧ item.orderId = order.id ∧
      db.ticketTypes.find item.ticketTypeId = some tier ∧ line = settlementLine item tier := by
  obtain ⟨item, ordered, judged⟩ := Option.bind_eq_some_iff.mp judged
  obtain ⟨tier, found, rfl⟩ := Option.map_eq_some_iff.mp judged
  obtain ⟨stored, mine⟩ := orderLine_some ordered
  exact ⟨item, tier, stored, mine, found, rfl⟩

theorem settleOrder_cases {db : Db} {input : SettleOrderInput} {now : Instant}
    {settlement : Settlement} {after : Db}
    (success : settleOrder db input now = .ok (settlement, after)) :
    ∃ order, db.orders.find input.orderId = some order ∧
      Settled db input order now settlement after := by
  obtain ⟨order, locked, success⟩ := bind_ok success
  refine ⟨order, lockOrder_ok.mp locked, ?_⟩
  split at success
  next confirmed =>
    cases success
    exact .already _ rfl (Or.inl confirmed)
  next unconfirmed =>
  split at success
  next waiting =>
    cases success
    exact .already _ rfl (Or.inr waiting)
  next notWaiting =>
  have idle : input.mode = .payment → isAwaitingApproval order = false := fun paying => by
    simpa [paying] using notWaiting
  split at success
  next closed =>
    split at success
    · cases success
    next deciding =>
      have paying : input.mode = .payment := by cases mode : input.mode <;> simp_all
      cases success
      exact .refused _ paying unconfirmed (idle paying)
  next isOpen =>
  simp only [Bool.not_eq_true, Bool.not_eq_false'] at isOpen
  simp only at success
  split at success
  next blocked passed =>
    split at success
    next deciding =>
      cases success
      exact .unavailable _ rfl deciding (by rw [← deciding, passed]) rfl
    next deciding =>
      have paying : input.mode = .payment := by cases mode : input.mode <;> simp_all
      cases success
      exact .refused _ paying unconfirmed (idle paying)
  next passed =>
    obtain ⟨line, honoured⟩ := settlementBlocker_eq_none.mp passed
    simp only [honoured.judged, Option.get_some] at success
    split at success
    next asks =>
      simp only [awaitDecision, Except.ok.injEq] at success
      split at success
      · cases success
        exact .refused _ asks.1 unconfirmed (idle asks.1)
      next kept =>
        cases success
        refine .awaits _ rfl line asks.1 ?_ (idle asks.1) asks.2 honoured (by simpa using kept)
        simpa [isOpenFor, asks.1] using isOpen
    next unasked =>
      obtain ⟨assignments, seated, success⟩ := bind_ok success
      cases success
      refine .completes _ rfl line assignments isOpen (fun paying => ⟨?_, idle paying⟩) honoured
        seated
      simpa [paying] using unasked

/-- A rejection reports whether money is owed, and writes only the first time. -/
theorem rejectOrder_cases {db : Db} {input : RejectOrderInput} {now : Instant}
    {result : RejectedOrder} {after : Db}
    (success : rejectOrder db input now = .ok (result, after)) :
    ∃ order, db.orders.find input.orderId = some order ∧
      result.refundDue = rejectionRefunds order ∧
      ((order.status = .rejected ∧ after = db) ∨
        (order.status ≠ .rejected ∧ isRejectable order = true ∧
          after = rejectedDb db input order now)) := by
  obtain ⟨order, locked, success⟩ := bind_ok success
  refine ⟨order, lockOrder_ok.mp locked, ?_⟩
  simp only at success
  split at success
  next rejected =>
    cases success
    exact ⟨rfl, Or.inl ⟨rejected, rfl⟩⟩
  next undecided =>
    split at success
    · cases success
    next rejectable =>
      split at success
      · cases success
      · cases success
        exact ⟨rfl, Or.inr ⟨undecided, by simpa using rejectable, rfl⟩⟩

theorem refundOrder_cases {db : Db} {orderId : Nat}
    {recordRefund : Ledger → Except TxError Ledger} {now : Instant} {result : RefundedOrder}
    {after : Db} (success : refundOrder db orderId recordRefund now = .ok (result, after)) :
    ∃ order ledger, db.orders.find orderId = some order ∧ recordRefund db.ledger = .ok ledger ∧
      after = refundedDb db order ledger now := by
  obtain ⟨order, locked, success⟩ := bind_ok success
  obtain ⟨ledger, recorded, success⟩ := bind_ok success
  cases success
  exact ⟨order, ledger, lockOrder_ok.mp locked, recorded, rfl⟩

/-- Releasing a lapsed attempt's holds writes only while the order waits for money. -/
theorem releaseHoldsForOrder_cases (db : Db) (orderId : Nat) :
    releaseHoldsForOrder db orderId = db ∨
      ∃ order, db.orders.find orderId = some order ∧ isOnCheckoutClock order = true ∧
        releaseHoldsForOrder db orderId =
          { db with seatHolds := releaseActiveHolds db.seatHolds orderId } := by
  unfold releaseHoldsForOrder
  split
  · exact Or.inl rfl
  next order found =>
    split
    next waiting => exact Or.inr ⟨order, found, waiting, rfl⟩
    · exact Or.inl rfl

end EventaApi.Source
