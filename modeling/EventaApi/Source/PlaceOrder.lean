import EventaApi.Source.SeatHolds
import Mathlib.Data.List.Sort

/-!
# Placing an order

`CheckoutRepository.placeOrder`, statement by statement: replay, the checks on the
named holds, the order and its line, then either the tickets, the places counted
for a decision, or the holds attached until the money lands.
-/
namespace EventaApi.Source
open Library

structure Buyer where
  name : String
  email : String
  phone : Option String := none
  deriving DecidableEq, Repr

structure OrderTotals where
  subtotalSatang : Satang
  discountSatang : Satang := 0
  vatSatang : Satang := 0
  totalSatang : Satang
  deriving DecidableEq, Repr

/-- The fields an order row and its line are written from, whichever path writes them. -/
structure OrderInsert where
  reference : String
  idempotencyKey : String
  eventId : Nat
  buyer : Buyer
  ticketTypeId : Nat
  quantity : Nat
  unitPriceSatang : Satang
  totals : OrderTotals
  discountCodeId : Option Nat := none
  createdBy : Option Nat := none
  requiresApproval : Bool := false
  booking : 1 ≤ quantity ∧ quantity ≤ MAX_SEATS_PER_BOOKING

/-- A priced selection: its seats are distinct, one per admission, and its tokens are minted. -/
structure PlaceOrderInput extends OrderInsert where
  ticketTypeName : String
  /-- Reserved seating only; index-aligned with `qrTokens`. -/
  seatIds : List Nat
  holdIds : List Nat
  issueTickets : Bool
  awaitsDecision : Bool
  qrTokens : List String
  /-- The organizer's "Send confirmation" toggle. -/
  notify : Bool := true
  seated : seatIds = [] ∨ (seatIds.Nodup ∧ seatIds.length = quantity)
  minted : qrTokens.length = if issueTickets then quantity else 0

structure PlacedOrder where
  order : Order
  tickets : List Ticket
  replayed : Bool
  deriving DecidableEq, Repr

/-- Tickets in the order a replay reads them back. -/
def byId (tickets : List Ticket) : List Ticket :=
  tickets.insertionSort fun left right => left.id ≤ right.id

/-- The order this buyer's key already produced, if any. -/
def findByIdempotencyKey (db : Db) (idempotencyKey : String) : Option (Order × List Ticket) :=
  (db.orders.select fun order => order.idempotencyKey = idempotencyKey).head?.map fun order =>
    (order, byId (db.tickets.select fun ticket => ticket.orderId = order.id))

def HOLDS_RELEASED : String :=
  "Your seats were released while you were checking out. Please choose again."

/-- Every hold named is still active and unexpired. -/
def assertHoldsStillActive (holds : Table SeatHold) (holdIds : List Nat) (now : Instant) :
    Except TxError Unit :=
  let live := holds.select fun hold => hold.id ∈ holdIds ∧ hold.reserves now
  if live.length = holdIds.length then .ok ()
  else .error (.domain (.conflict HOLDS_RELEASED))

/-- Whether any seat of the event's map has a ticket type. -/
def mapHasTypedSeats (db : Db) (eventId : Nat) : Bool :=
  db.seats.rows.any fun seat =>
    seat.ticketTypeId.isSome &&
      match db.seatMaps.find seat.seatMapId with
      | none => false
      | some seatMap => seatMap.eventId == eventId && seatMap.deletedAt.isNone

def heldSeatsCheck (db : Db) (input : PlaceOrderInput) : HeldSeatsCheck where
  pricedSeatIds := input.seatIds
  heldSeatIds := (db.seatHolds.select fun hold => hold.id ∈ input.holdIds).filterMap SeatHold.seatId
  seatTypes := fun seatId => (db.seats.find seatId).map Seat.ticketTypeId
  ticketTypeId := input.ticketTypeId
  mapTyped := mapHasTypedSeats db input.eventId

/-- A reserved order holds exactly the seats it is priced for, each of its ticket type. -/
def assertHeldSeatsMatch (db : Db) (input : PlaceOrderInput) : Except TxError Unit :=
  if input.seatIds = [] ∨ heldSeatsMatch (heldSeatsCheck db input) then .ok ()
  else .error (.domain (.conflict "Your seats changed. Please choose again."))

/-- One row per person per workspace; a repeat buyer updates, never duplicates. -/
def upsertAttendee (attendees : Table Attendee) (buyer : Buyer) : Nat × Table Attendee :=
  match (attendees.select fun row => citext row.email = citext buyer.email).head? with
  | some existing =>
    (existing.id, attendees.update (fun row => row.id = existing.id)
      fun row => { row with name := buyer.name })
  | none =>
    (attendees.next, attendees.insert fun id =>
      { id, name := buyer.name, email := buyer.email, phone := buyer.phone })

@[reducible] def orderRow (input : OrderInsert) (attendeeId : Nat) (state : OrderState) (now : Instant)
    (id : Nat) : Order where
  id := id
  reference := input.reference
  idempotencyKey := input.idempotencyKey
  eventId := input.eventId
  attendeeId := attendeeId
  buyerName := input.buyer.name
  buyerEmail := input.buyer.email
  buyerPhone := input.buyer.phone
  status := state.status
  paymentStatus := state.paymentStatus
  requiresApproval := input.requiresApproval
  approvalRequestedAt := state.approvalRequestedAt
  seats := input.quantity
  subtotalSatang := input.totals.subtotalSatang
  discountCodeId := input.discountCodeId
  discountAmountSatang := input.totals.discountSatang
  vatAmountSatang := input.totals.vatSatang
  totalSatang := input.totals.totalSatang
  registeredAt := now
  createdBy := input.createdBy

/-- The order's row, refused when its reference or its discount code is not a new or a known one. -/
def insertOrder (db : Db) (input : OrderInsert) (attendeeId : Nat) (state : OrderState)
    (now : Instant) : Except TxError (Table Order) :=
  if (db.orders.select fun order => order.reference = input.reference) ≠ [] then
    .error (.uniqueViolation "uq_orders_org_reference")
  else do
    foreignKey (input.discountCodeId.all fun id => (db.discountCodes.find id).isSome)
      "orders.discount_code_id"
    .ok (db.orders.insert (orderRow input attendeeId state now))

@[reducible] def itemRow (input : OrderInsert) (orderId id : Nat) : OrderItem where
  id := id
  orderId := orderId
  ticketTypeId := input.ticketTypeId
  quantity := input.quantity
  unitPriceSatang := input.unitPriceSatang
  lineSubtotalSatang := input.totals.subtotalSatang

def insertOrderItem (db : Db) (input : OrderInsert) (orderId : Nat) :
    Except TxError (Table OrderItem) := do
  foreignKey (db.ticketTypes.find input.ticketTypeId).isSome "order_items.ticket_type_id"
  .ok (db.orderItems.insert (itemRow input orderId))

/-- Raise `sold` by the quantity, judged under the tier's lock. -/
def reserveAllocation (ticketTypes : Table TicketType) (ticketTypeId quantity : Nat) :
    Except TxError (Table TicketType) :=
  match ticketTypes.find ticketTypeId with
  | none => .error (.domain (.conflict "That ticket type is no longer on sale."))
  | some tier =>
    if exceedsAllocation tier.sold tier.total quantity then
      .error (.domain (.conflict
        "Those tickets sold out while you were checking out. Please choose again."))
    else
      .ok (ticketTypes.update (fun row => row.id = ticketTypeId)
        fun row => { row with sold := tier.sold + quantity })

/-- Bind each ticket to its seat; `uq_seat_active` refuses a seat that is bound already. -/
def assignSeats (assignments : Table SeatAssignment) (seatIds ticketIds : List Nat) :
    Except TxError (Table SeatAssignment) :=
  if seatIds = [] then .ok assignments
  else if seatIds.Nodup ∧ assignedSeatIds assignments seatIds = [] then
    .ok (assignments.insertEach (seatIds.zip ticketIds) fun seating id =>
      { id, seatId := seating.1, ticketId := seating.2 })
  else .error (.uniqueViolation "uq_seat_active")

@[reducible] def ticketRow (input : PlaceOrderInput) (orderId orderItemId attendeeId : Nat)
    (qrToken : String) (id : Nat) : Ticket where
  id := id
  orderId := orderId
  orderItemId := orderItemId
  eventId := input.eventId
  ticketTypeId := input.ticketTypeId
  attendeeId := attendeeId
  qrToken := qrToken
  holderName := input.buyer.name
  ticketLabel := input.ticketTypeName

structure Issued where
  ticketTypes : Table TicketType
  tickets : Table Ticket
  seatAssignments : Table SeatAssignment
  issued : List Ticket

/-- Count the places, mint one ticket per admission, and seat them. -/
def issueTickets (db : Db) (input : PlaceOrderInput) (orderId orderItemId attendeeId : Nat) :
    Except TxError Issued := do
  let ticketTypes ← reserveAllocation db.ticketTypes input.ticketTypeId input.quantity
  let issued := input.qrTokens.mapIdx fun index qrToken =>
    ticketRow input orderId orderItemId attendeeId qrToken (db.tickets.next + index)
  let seatAssignments ← assignSeats db.seatAssignments input.seatIds (issued.map Ticket.id)
  .ok
    { ticketTypes, seatAssignments, issued
      tickets := db.tickets.insertEach input.qrTokens
        (ticketRow input orderId orderItemId attendeeId) }

/-- Only an order that owes nothing and asks nobody is ticketed at once. -/
def mintTickets (db : Db) (input : PlaceOrderInput) (orderId orderItemId attendeeId : Nat) :
    Except TxError Issued :=
  if input.issueTickets then issueTickets db input orderId orderItemId attendeeId
  else .ok ⟨db.ticketTypes, db.tickets, db.seatAssignments, []⟩

/-- A converted hold has become a ticket or a counted place; it reserves nothing. -/
def convertHolds (holds : Table SeatHold) (holdIds : List Nat) : Table SeatHold :=
  holds.update (fun hold => hold.id ∈ holdIds)
    fun hold => { hold with status := .converted, orderId := none }

/-- Stamp the holds with the order; `expiresAt` replaces the timer of a decision hold. -/
def attachHolds (holds : Table SeatHold) (holdIds : List Nat) (orderId : Nat)
    (expiresAt : Option Instant) : Table SeatHold :=
  holds.update (fun hold => hold.id ∈ holdIds)
    fun hold => { hold with
      orderId := some orderId
      expiresAt := expiresAt.getD hold.expiresAt }

/-- A free registration now waiting for the organizer: its places are counted at once. -/
def reserveForDecision (db : Db) (input : PlaceOrderInput) (orderId : Nat) :
    Except TxError (Table TicketType × Table SeatHold) := do
  let ticketTypes ← reserveAllocation db.ticketTypes input.ticketTypeId input.quantity
  if input.seatIds ≠ [] then
    .ok (ticketTypes,
      attachHolds db.seatHolds input.holdIds orderId (some DECISION_HOLD_EXPIRY))
  else .ok (ticketTypes, convertHolds db.seatHolds input.holdIds)

/-- What becomes of the buyer's holds once their order exists. -/
def settleHolds (db : Db) (input : PlaceOrderInput) (orderId : Nat) :
    Except TxError (Table TicketType × Table SeatHold) :=
  if input.issueTickets then .ok (db.ticketTypes, convertHolds db.seatHolds input.holdIds)
  else if input.awaitsDecision then reserveForDecision db input orderId
  -- A paid order keeps its holds live but stamps them, so settlement can find its seats.
  else .ok (db.ticketTypes, attachHolds db.seatHolds input.holdIds orderId none)

def UNLIMITED_REDEMPTIONS : Nat := 0

/-- The code's use, counted in the order's own transaction. -/
def recordRedemption (db : Db) (input : PlaceOrderInput) (orderId : Nat) :
    Except TxError (Table DiscountCode × Table DiscountRedemption) :=
  match input.discountCodeId with
  | none => .ok (db.discountCodes, db.discountRedemptions)
  | some codeId =>
    let recorded := db.discountRedemptions.select fun row =>
      row.discountCodeId = codeId ∧ row.orderId = orderId
    if input.totals.discountSatang = 0 ∨ recorded ≠ [] then
      .ok (db.discountCodes, db.discountRedemptions)
    else
      if (db.discountCodes.select fun code => code.id = codeId ∧
          (code.redemptionLimit = UNLIMITED_REDEMPTIONS ∨ code.used < code.redemptionLimit)) = []
      then .error (.domain (.validation "This code has reached its redemption limit."))
      else
        .ok (db.discountCodes.update (fun code => code.id = codeId) fun code =>
            { code with
              used := code.used + 1
              status := if code.status ≠ .disabled ∧
                  code.redemptionLimit ≠ UNLIMITED_REDEMPTIONS ∧
                  code.used + 1 ≥ code.redemptionLimit then .expired else code.status },
          db.discountRedemptions.insert fun id =>
            { id, discountCodeId := codeId, orderId, buyerEmail := input.buyer.email
              amountSatang := input.totals.discountSatang })

/-- Everything after the replay check: the order, its line, its places and its holds. -/
def placeNew (db : Db) (input : PlaceOrderInput) (now : Instant) :
    Except TxError (PlacedOrder × Db) := do
  assertHoldsStillActive db.seatHolds input.holdIds now
  assertHeldSeatsMatch db input
  let (attendeeId, attendees) := upsertAttendee db.attendees input.buyer
  let state := initialState input.issueTickets input.awaitsDecision now
  let orders ← insertOrder db input.toOrderInsert attendeeId state now
  let order := orderRow input.toOrderInsert attendeeId state now db.orders.next
  let orderItems ← insertOrderItem db input.toOrderInsert order.id
  let minted ← mintTickets db input order.id db.orderItems.next attendeeId
  let (ticketTypes, seatHolds) ←
    settleHolds { db with ticketTypes := minted.ticketTypes } input order.id
  let (discountCodes, discountRedemptions) ← recordRedemption db input order.id
  let queued := if input.issueTickets && input.notify then
      [OutboxEvent.registrationConfirmed order.id order.reference minted.issued.length
        order.totalSatang (0 < order.totalSatang)]
    else []
  .ok ({ order, tickets := byId minted.issued, replayed := false },
    { db with
      attendees, orders, orderItems, ticketTypes, seatHolds, discountCodes, discountRedemptions
      tickets := minted.tickets
      seatAssignments := minted.seatAssignments
      outbox := db.outbox ++ queued })

/-- Place an order, and, when nothing is owed, issue its tickets, in one transaction. -/
def placeOrder (db : Db) (input : PlaceOrderInput) (now : Instant) :
    Except TxError (PlacedOrder × Db) :=
  match findByIdempotencyKey db input.idempotencyKey with
  | some (order, tickets) => .ok ({ order, tickets, replayed := true }, db)
  | none => placeNew db input now

/-! ## What placing an order did -/

/-- The order's row as it is first written. -/
@[reducible] def newOrder (db : Db) (input : PlaceOrderInput) (now : Instant) (id : Nat) : Order :=
  orderRow input.toOrderInsert (upsertAttendee db.attendees input.buyer).1
    (initialState input.issueTickets input.awaitsDecision now) now id

/-- Its places are counted in `sold` the moment it is placed. -/
def PlaceOrderInput.takesPlaces (input : PlaceOrderInput) : Bool :=
  input.issueTickets || input.awaitsDecision

/-- Its holds have done their work: tickets exist, or `sold` carries the places. -/
def PlaceOrderInput.convertsHolds (input : PlaceOrderInput) : Bool :=
  input.issueTickets || (input.awaitsDecision && input.seatIds == [])

def settledHolds (input : PlaceOrderInput) (holds : Table SeatHold) (orderId : Nat) :
    Table SeatHold :=
  if input.convertsHolds then convertHolds holds input.holdIds
  else attachHolds holds input.holdIds orderId
    (if input.awaitsDecision then some DECISION_HOLD_EXPIRY else none)

/-- A fresh order: which checks passed, and what each table holds after it. -/
structure Placed (db : Db) (input : PlaceOrderInput) (now : Instant) (placed : PlacedOrder)
    (after : Db) : Prop where
  unused : findByIdempotencyKey db input.idempotencyKey = none
  active : assertHoldsStillActive db.seatHolds input.holdIds now = .ok ()
  matched : assertHeldSeatsMatch db input = .ok ()
  typed : (db.ticketTypes.find input.ticketTypeId).isSome
  fresh : placed.replayed = false
  order : placed.order = newOrder db input now db.orders.next
  orders : after.orders = db.orders.insert (newOrder db input now)
  orderItems : after.orderItems = db.orderItems.insert (itemRow input.toOrderInsert db.orders.next)
  counted : input.takesPlaces →
    reserveAllocation db.ticketTypes input.ticketTypeId input.quantity = .ok after.ticketTypes
  uncounted : input.takesPlaces = false → after.ticketTypes = db.ticketTypes
  ticketed : input.issueTickets → after.tickets = db.tickets.insertEach input.qrTokens
    (ticketRow input db.orders.next db.orderItems.next (upsertAttendee db.attendees input.buyer).1)
  unticketed : input.issueTickets = false → after.tickets = db.tickets
  seated : input.issueTickets →
    assignSeats db.seatAssignments input.seatIds
      (List.range' db.tickets.next input.qrTokens.length) = .ok after.seatAssignments
  unseated : input.issueTickets = false → after.seatAssignments = db.seatAssignments
  seatHolds : after.seatHolds = settledHolds input db.seatHolds db.orders.next
  seats : after.seats = db.seats
  seatMaps : after.seatMaps = db.seatMaps
  ledger : after.ledger = db.ledger
  webhookEvents : after.webhookEvents = db.webhookEvents
  coded : ∀ codeId, input.discountCodeId = some codeId → (db.discountCodes.find codeId).isSome
  redeemed : recordRedemption db input db.orders.next =
    .ok (after.discountCodes, after.discountRedemptions)

/-- A confirm whose key is new and whose holds pass the checks. -/
def Accepts (db : Db) (now : Instant) (input : PlaceOrderInput) : Prop :=
  findByIdempotencyKey db input.idempotencyKey = none ∧
    assertHoldsStillActive db.seatHolds input.holdIds now = .ok () ∧
    assertHeldSeatsMatch db input = .ok ()

theorem Placed.accepts {db after : Db} {input : PlaceOrderInput} {now : Instant}
    {placed : PlacedOrder} (placement : Placed db input now placed after) :
    Accepts db now input :=
  ⟨placement.unused, placement.active, placement.matched⟩

theorem insertOrder_ok {db : Db} {input : OrderInsert} {attendeeId : Nat} {state : OrderState}
    {now : Instant} {orders : Table Order}
    (success : insertOrder db input attendeeId state now = .ok orders) :
    (∀ codeId, input.discountCodeId = some codeId → (db.discountCodes.find codeId).isSome) ∧
      orders = db.orders.insert (orderRow input attendeeId state now) := by
  unfold insertOrder at success
  split at success
  · cases success
  · obtain ⟨_, known, inserted⟩ := bind_ok success
    cases inserted
    refine ⟨fun codeId named => ?_, rfl⟩
    simpa [named] using foreignKey_ok.mp known

theorem insertOrderItem_ok {db : Db} {input : OrderInsert} {orderId : Nat}
    {items : Table OrderItem} (success : insertOrderItem db input orderId = .ok items) :
    (db.ticketTypes.find input.ticketTypeId).isSome ∧
      items = db.orderItems.insert (itemRow input orderId) := by
  obtain ⟨_, typed, inserted⟩ := bind_ok success
  cases inserted
  exact ⟨foreignKey_ok.mp typed, rfl⟩

/-- Every named hold exists and still reserves something, and none is named twice. -/
theorem assertHoldsStillActive_ok {holds : Table SeatHold} {holdIds : List Nat} {now : Instant}
    {done : Unit} (success : assertHoldsStillActive holds holdIds now = .ok done) :
    holdIds.Nodup ∧ ∀ id ∈ holdIds, ∃ hold ∈ holds, hold.id = id ∧ hold.reserves now := by
  simp only [assertHoldsStillActive] at success
  split at success
  next same =>
    let live := holds.select fun hold => hold.id ∈ holdIds ∧ hold.reserves now
    have distinct : (live.map SeatHold.id).Nodup := holds.distinct.sublist
      ((List.filter_sublist (l := holds.rows)).map SeatHold.id)
    have named : live.map SeatHold.id ⊆ holdIds := by
      intro id member
      obtain ⟨hold, selected, rfl⟩ := List.mem_map.mp member
      exact (Table.mem_select.mp selected).2.1
    have perm : (live.map SeatHold.id).Perm holdIds :=
      (List.subperm_of_subset distinct named).perm_of_length_le (by simp [live, same])
    refine ⟨perm.nodup_iff.mp distinct, fun id member => ?_⟩
    obtain ⟨hold, selected, rfl⟩ := List.mem_map.mp (perm.mem_iff.mpr member)
    obtain ⟨stored, _, reserves⟩ := Table.mem_select.mp selected
    exact ⟨hold, stored, rfl, reserves⟩
  · cases success

/-- A stored hold that is named still reserves something. -/
theorem reserves_of_named {holds : Table SeatHold} {holdIds : List Nat} {now : Instant}
    {done : Unit} (success : assertHoldsStillActive holds holdIds now = .ok done)
    {hold : SeatHold} (stored : hold ∈ holds) (named : hold.id ∈ holdIds) :
    hold.reserves now := by
  obtain ⟨other, member, same, reserves⟩ := (assertHoldsStillActive_ok success).2 _ named
  rwa [← Table.eq_of_key member stored same]

theorem assertHeldSeatsMatch_ok {db : Db} {input : PlaceOrderInput} {done : Unit} :
    assertHeldSeatsMatch db input = .ok done ↔
      input.seatIds = [] ∨ heldSeatsMatch (heldSeatsCheck db input) = true := by
  unfold assertHeldSeatsMatch
  split <;> simp_all

/-- The tier exists, the quantity fits, and `sold` rises by exactly the quantity. -/
theorem reserveAllocation_ok {ticketTypes after : Table TicketType}
    {ticketTypeId quantity : Nat} :
    reserveAllocation ticketTypes ticketTypeId quantity = .ok after ↔
      ∃ tier, ticketTypes.find ticketTypeId = some tier ∧ tier.sold + quantity ≤ tier.total ∧
        after = ticketTypes.update (fun row => row.id = ticketTypeId)
          fun row => { row with sold := tier.sold + quantity } := by
  unfold reserveAllocation exceedsAllocation
  cases ticketTypes.find ticketTypeId with
  | none => simp
  | some tier =>
    by_cases fits : tier.sold + quantity ≤ tier.total
    · simp [fits, Nat.not_lt.mpr fits, eq_comm]
    · simp [fits, Nat.lt_of_not_le fits]

theorem assignSeats_ok {assignments after : Table SeatAssignment} {seatIds ticketIds : List Nat} :
    assignSeats assignments seatIds ticketIds = .ok after ↔
      (seatIds = [] ∧ after = assignments) ∨
      (seatIds ≠ [] ∧ seatIds.Nodup ∧ assignedSeatIds assignments seatIds = [] ∧
        after = assignments.insertEach (seatIds.zip ticketIds) fun seating id =>
          { id, seatId := seating.1, ticketId := seating.2 }) := by
  unfold assignSeats
  by_cases named : seatIds = []
  · rw [if_pos named, Except.ok.injEq, eq_comm]
    simp [named]
  · rw [if_neg named]
    by_cases free : seatIds.Nodup ∧ assignedSeatIds assignments seatIds = []
    · rw [if_pos free, Except.ok.injEq, eq_comm]
      simp [named, free.1, free.2]
    · rw [if_neg free]
      simp only [reduceCtorEq, false_iff, not_or]
      exact ⟨fun claim => named claim.1, fun claim => free ⟨claim.2.1, claim.2.2.1⟩⟩

private theorem mapIdx_ids (input : PlaceOrderInput) (orderId itemId attendeeId next : Nat) :
    (input.qrTokens.mapIdx fun index qrToken =>
      ticketRow input orderId itemId attendeeId qrToken (next + index)).map Ticket.id =
      List.range' next input.qrTokens.length := by
  refine List.ext_getElem (by simp) fun index _ _ => ?_
  simp [ticketRow]

theorem issueTickets_ok {db : Db} {input : PlaceOrderInput} {orderId itemId attendeeId : Nat}
    {minted : Issued}
    (success : issueTickets db input orderId itemId attendeeId = .ok minted) :
    reserveAllocation db.ticketTypes input.ticketTypeId input.quantity = .ok minted.ticketTypes ∧
    minted.tickets = db.tickets.insertEach input.qrTokens
      (ticketRow input orderId itemId attendeeId) ∧
    assignSeats db.seatAssignments input.seatIds
      (List.range' db.tickets.next input.qrTokens.length) = .ok minted.seatAssignments := by
  obtain ⟨ticketTypes, reserved, success⟩ := bind_ok success
  obtain ⟨assignments, seated, success⟩ := bind_ok success
  cases success
  rw [mapIdx_ids] at seated
  exact ⟨reserved, rfl, seated⟩

theorem settleHolds_ok {db : Db} {input : PlaceOrderInput} {orderId : Nat}
    {ticketTypes : Table TicketType} {holds : Table SeatHold}
    (success : settleHolds db input orderId = .ok (ticketTypes, holds)) :
    holds = settledHolds input db.seatHolds orderId ∧
    (input.issueTickets = false → input.awaitsDecision →
      reserveAllocation db.ticketTypes input.ticketTypeId input.quantity = .ok ticketTypes) ∧
    (input.issueTickets ∨ input.awaitsDecision = false → ticketTypes = db.ticketTypes) := by
  unfold settleHolds at success
  unfold settledHolds PlaceOrderInput.convertsHolds
  cases tickets : input.issueTickets with
  | true =>
    simp only [tickets, if_true, Except.ok.injEq, Prod.mk.injEq] at success
    simp [success.1, success.2]
  | false =>
    cases decision : input.awaitsDecision with
    | false =>
      simp only [tickets, decision, Bool.false_eq_true, if_false, Except.ok.injEq,
        Prod.mk.injEq] at success
      simp [success.1, success.2]
    | true =>
      simp only [tickets, decision, Bool.false_eq_true, if_false, if_true] at success
      obtain ⟨reserved, counted, success⟩ := bind_ok success
      by_cases named : input.seatIds = []
      · simp only [named, ne_eq, not_true, if_false, Except.ok.injEq, Prod.mk.injEq] at success
        simp [named, success.1 ▸ counted, success.2]
      · simp only [named, ne_eq, not_false_iff, if_true, Except.ok.injEq,
          Prod.mk.injEq] at success
        simp [named, success.1 ▸ counted, success.2]

theorem placeNew_ok {db : Db} {input : PlaceOrderInput} {now : Instant} {placed : PlacedOrder}
    {after : Db} (unused : findByIdempotencyKey db input.idempotencyKey = none)
    (success : placeNew db input now = .ok (placed, after)) :
    Placed db input now placed after := by
  obtain ⟨_, active, success⟩ := bind_ok success
  obtain ⟨_, matched, success⟩ := bind_ok success
  obtain ⟨orders, ordered, success⟩ := bind_ok success
  obtain ⟨orderItems, itemized, success⟩ := bind_ok success
  obtain ⟨minted, issued, success⟩ := bind_ok success
  obtain ⟨⟨ticketTypes, seatHolds⟩, settled, success⟩ := bind_ok success
  obtain ⟨⟨codes, redemptions⟩, redeemed, success⟩ := bind_ok success
  cases success
  obtain ⟨typed, rfl⟩ := insertOrderItem_ok itemized
  obtain ⟨coded, rfl⟩ := insertOrder_ok ordered
  obtain ⟨rfl, decided, undecided⟩ := settleHolds_ok settled
  have common : minted.ticketTypes = db.ticketTypes → input.issueTickets = false →
      (input.takesPlaces = true →
        reserveAllocation db.ticketTypes input.ticketTypeId input.quantity = .ok ticketTypes) ∧
      (input.takesPlaces = false → ticketTypes = db.ticketTypes) := by
    intro same unissued
    simp only [same] at decided undecided
    simp only [PlaceOrderInput.takesPlaces, unissued, Bool.false_or]
    exact ⟨decided unissued, fun none => undecided (Or.inr none)⟩
  rcases Bool.eq_false_or_eq_true input.issueTickets with tickets | tickets
  · simp only [mintTickets, tickets, if_true] at issued
    obtain ⟨reserved, inserted, seated⟩ := issueTickets_ok issued
    have same := undecided (Or.inl tickets)
    simp only at same
    subst same
    exact
      { unused, active, matched, typed, coded, redeemed
        fresh := rfl
        order := rfl
        orders := rfl
        orderItems := rfl
        counted := fun _ => reserved
        uncounted := by simp [PlaceOrderInput.takesPlaces, tickets]
        ticketed := fun _ => inserted
        unticketed := by simp [tickets]
        seated := fun _ => seated
        unseated := by simp [tickets]
        seatHolds := rfl
        seats := rfl
        seatMaps := rfl
        ledger := rfl
        webhookEvents := rfl }
  · simp only [mintTickets, tickets, Bool.false_eq_true, if_false, Except.ok.injEq] at issued
    subst issued
    obtain ⟨counted, uncounted⟩ := common rfl tickets
    exact
      { unused, active, matched, typed, counted, uncounted, coded, redeemed
        fresh := rfl
        order := rfl
        orders := rfl
        orderItems := rfl
        ticketed := by simp [tickets]
        unticketed := fun _ => rfl
        seated := by simp [tickets]
        unseated := fun _ => rfl
        seatHolds := rfl
        seats := rfl
        seatMaps := rfl
        ledger := rfl
        webhookEvents := rfl }

/-- A successful call either replays an order and writes nothing, or places a new one. -/
theorem placeOrder_cases {db : Db} {input : PlaceOrderInput} {now : Instant}
    {placed : PlacedOrder} {after : Db} (success : placeOrder db input now = .ok (placed, after)) :
    (placed.replayed = true ∧ after = db) ∨ Placed db input now placed after := by
  unfold placeOrder at success
  split at success
  · cases success
    exact Or.inl ⟨rfl, rfl⟩
  next unused => exact Or.inr (placeNew_ok unused success)

end EventaApi.Source
