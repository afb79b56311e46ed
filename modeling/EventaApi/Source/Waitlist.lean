import EventaApi.Library.Ranking
import EventaApi.Source.Settlement
import Mathlib.Data.Prod.Lex

/-!
# The waitlist

`CheckoutRepository.joinWaitlist`, `frontOfLine` and `markOffered`: a place in line for
a sold-out ticket, who is next, and turning that place into an offer.
-/
namespace EventaApi.Source
open Library

/-- Ahead in line: an earlier registration, the id breaking a tie. -/
def Order.joinedBefore (order other : Order) : Prop :=
  order.registeredAt < other.registeredAt ∨
    (order.registeredAt = other.registeredAt ∧ order.id < other.id)

instance (order other : Order) : Decidable (order.joinedBefore other) :=
  inferInstanceAs (Decidable (_ ∨ _))

/-- Where an order stands: when it joined, the id breaking a tie. -/
def Order.place (order : Order) : Nat ×ₗ Nat := toLex (order.registeredAt, order.id)

theorem joinedBefore_iff {order other : Order} :
    order.joinedBefore other ↔ order.place < other.place := by
  simp [Order.joinedBefore, Order.place, Prod.Lex.toLex_lt_toLex]

/-- The line of a waitlisted order for this ticket type. -/
def waitsFor (db : Db) (ticketTypeId : Nat) (ahead : Order → Prop) [DecidablePred ahead]
    (item : OrderItem) : Bool :=
  item.ticketTypeId == ticketTypeId &&
    match db.orders.find item.orderId with
    | none => false
    | some order => order.status == .waitlisted && decide (ahead order)

/-- How many are ahead of this registration in line for the same ticket. -/
def waitlistAhead (db : Db) (orderId : Nat) : Nat :=
  match db.orders.find orderId, orderLine db orderId with
  | some order, some line =>
    (db.orderItems.rows.filter (waitsFor db line.ticketTypeId fun other =>
      other.id ≠ orderId ∧ other.joinedBefore order)).length
  | _, _ => 0

/-- A registration with the line it waits for. -/
structure WaitlistEntry where
  order : Order
  ticketTypeId : Nat
  quantity : Nat
  deriving DecidableEq, Repr

/-- An order item joined to its order and its ticket type. -/
def entryOf (db : Db) (item : OrderItem) : Option WaitlistEntry :=
  (db.ticketTypes.find item.ticketTypeId).bind fun _ =>
    (db.orders.find item.orderId).map fun order =>
      { order, ticketTypeId := item.ticketTypeId, quantity := item.quantity }

/-- A registration as an offer reads it. -/
def waitlistEntry (db : Db) (orderId : Nat) : Option WaitlistEntry :=
  ((db.orderItems.select fun item => item.orderId = orderId).filterMap (entryOf db)).head?

/-- Everybody waiting for this ticket type. -/
def waitlistFor (db : Db) (ticketTypeId : Nat) : List WaitlistEntry :=
  ((db.orderItems.select fun item => item.ticketTypeId = ticketTypeId).filterMap
    (entryOf db)).filter fun entry => entry.order.status = .waitlisted

/-- The earliest registration waiting for this ticket type. -/
def frontOfLine (db : Db) (ticketTypeId : Nat) : Option WaitlistEntry :=
  (waitlistFor db ticketTypeId).argmin fun entry => entry.order.place

/-- This buyer's entry for this ticket, if they are already in line. -/
def alreadyWaiting (db : Db) (input : OrderInsert) : Option Order :=
  (db.orders.select fun order =>
    order.eventId = input.eventId ∧ citext order.buyerEmail = citext input.buyer.email ∧
      order.status = .waitlisted ∧
      ∃ item ∈ db.orderItems.rows,
        item.orderId = order.id ∧ item.ticketTypeId = input.ticketTypeId).head?

structure JoinedWaitlist where
  order : Order
  /-- Where it stands; 1 is next in line. -/
  position : Nat
  deriving DecidableEq, Repr

/-- The entry and its line item, written together or not at all. -/
def insertWaitlistEntry (db : Db) (input : OrderInsert) (now : Instant) :
    Except TxError (Order × Db) := do
  let (attendeeId, attendees) := upsertAttendee db.attendees input.buyer
  let orders ← insertOrder db input attendeeId WAITLISTED now
  let order := orderRow input attendeeId WAITLISTED now db.orders.next
  let orderItems ← insertOrderItem db input order.id
  .ok (order, { db with attendees, orders, orderItems })

/-- The order this key or this buyer already has in line, else a new entry. -/
def existingEntry (db : Db) (input : OrderInsert) : Option Order :=
  ((findByIdempotencyKey db input.idempotencyKey).map Prod.fst).or (alreadyWaiting db input)

/-- Put a buyer in line for a sold-out ticket. -/
def joinWaitlist (db : Db) (input : OrderInsert) (now : Instant) :
    Except TxError (JoinedWaitlist × Db) :=
  match existingEntry db input with
  | some order => .ok ({ order, position := waitlistAhead db order.id + 1 }, db)
  | none => do
    let (order, joined) ← insertWaitlistEntry db input now
    .ok ({ order, position := waitlistAhead joined order.id + 1 }, joined)

structure MarkOfferedInput where
  orderId : Nat
  /-- None when the line offered it rather than an organizer. -/
  offeredBy : Option Nat
  offerExpiresAt : Instant

@[reducible] def offeredOrder (input : MarkOfferedInput) (order : Order) (skipped : Nat) (now : Instant)
    (row : Order) : Order :=
  { row with
    status := .pending
    offeredAt := some now
    offeredBy := input.offeredBy
    offerExpiresAt := some input.offerExpiresAt
    offerSkipped := some skipped
    version := order.version + 1 }

def offeredDb (db : Db) (input : MarkOfferedInput) (order : Order) (now : Instant) : Db :=
  { db with
    orders := db.orders.update (fun row => row.id = order.id)
      (offeredOrder input order (waitlistAhead db order.id) now)
    outbox := db.outbox ++ [.waitlistOffered order.id order.reference order.seats
      input.offerExpiresAt] }

/-- Turn a waitlist entry into an offer, whose seats are held already. -/
def markOffered (db : Db) (input : MarkOfferedInput) (now : Instant) :
    Except TxError Db := do
  let order ← lockOrder db input.orderId
  if order.status ≠ .waitlisted then .error (.domain (.conflict DECIDED_ELSEWHERE))
  else .ok (offeredDb db input order now)

/-! ## What each transaction did -/

/-- An entry's insert writes its order and its line. -/
theorem insertWaitlistEntry_ok {db : Db} {input : OrderInsert} {now : Instant} {order : Order}
    {after : Db} (success : insertWaitlistEntry db input now = .ok (order, after)) :
    ∃ attendeeId attendees, (db.ticketTypes.find input.ticketTypeId).isSome ∧
      order = orderRow input attendeeId WAITLISTED now db.orders.next ∧
      after = { db with
        attendees
        orders := db.orders.insert (orderRow input attendeeId WAITLISTED now)
        orderItems := db.orderItems.insert (itemRow input db.orders.next) } := by
  obtain ⟨orders, ordered, success⟩ := bind_ok success
  obtain ⟨orderItems, itemized, success⟩ := bind_ok success
  cases success
  obtain ⟨typed, rfl⟩ := insertOrderItem_ok itemized
  obtain ⟨_, rfl⟩ := insertOrder_ok ordered
  exact ⟨_, _, typed, rfl, rfl⟩

/-- Joining writes an order and its line, both new, or nothing. -/
theorem joinWaitlist_cases {db : Db} {input : OrderInsert} {now : Instant}
    {joined : JoinedWaitlist} {after : Db}
    (success : joinWaitlist db input now = .ok (joined, after)) :
    after = db ∨
      ∃ attendeeId attendees, (db.ticketTypes.find input.ticketTypeId).isSome ∧
        after = { db with
          attendees
          orders := db.orders.insert (orderRow input attendeeId WAITLISTED now)
          orderItems := db.orderItems.insert (itemRow input db.orders.next) } := by
  unfold joinWaitlist at success
  split at success
  · cases success
    exact Or.inl rfl
  · obtain ⟨⟨order, entered⟩, inserted, success⟩ := bind_ok success
    cases success
    obtain ⟨attendeeId, attendees, typed, _, written⟩ := insertWaitlistEntry_ok inserted
    exact Or.inr ⟨attendeeId, attendees, typed, written⟩

theorem markOffered_cases {db : Db} {input : MarkOfferedInput} {now : Instant} {after : Db}
    (success : markOffered db input now = .ok after) :
    ∃ order, db.orders.find input.orderId = some order ∧ order.status = .waitlisted ∧
      after = offeredDb db input order now := by
  obtain ⟨order, locked, success⟩ := bind_ok success
  split at success
  · cases success
  next waiting =>
    cases success
    exact ⟨order, lockOrder_ok.mp locked, by simpa using waiting, rfl⟩

end EventaApi.Source
