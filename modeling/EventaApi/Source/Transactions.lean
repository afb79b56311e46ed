import EventaApi.Library.Run
import EventaApi.Source.Waitlist

/-!
# The workspace as a machine

Every repository transaction that reads or writes orders, tickets, stock, seats or
holds is one step; one that throws leaves the state as it was. The payments module's
own transactions touch only the ledger and the outbox, so here they are any write
of those. The clock only moves forward, and no transaction reads `priced`: it
remembers which seats each order was priced for.
-/
namespace EventaApi.Source
open Library

structure Workspace where
  db : Db
  clock : Instant
  priced : Nat → List Nat

inductive Op where
  | holdSeats (input : HoldSeatsInput)
  | holdQuantity (input : HoldQuantityInput)
  | release (holdIds : List Nat)
  | releaseUnattached (holdIds : List Nat)
  | expireStale
  | placeOrder (input : PlaceOrderInput)
  | joinWaitlist (input : OrderInsert)
  | markOffered (input : MarkOfferedInput)
  | settleOrder (input : SettleOrderInput)
  | rejectOrder (input : RejectOrderInput)
  | refundOrder (orderId : Nat) (recordRefund : Ledger → Except TxError Ledger)
  | releaseHoldsForOrder (orderId : Nat)
  | recordLedger (write : Ledger → Ledger)
  | enqueue (event : OutboxEvent)
  | tick (elapsed : Nat)

/-- What an operation commits, if it commits. -/
def commit (db : Db) (now : Instant) : Op → Except TxError Db
  | .holdSeats input => (holdSeats db input now).map Prod.snd
  | .holdQuantity input => (holdQuantity db input now).map Prod.snd
  | .release holdIds => .ok (release db holdIds)
  | .releaseUnattached holdIds => .ok (releaseUnattached db holdIds)
  | .expireStale => .ok (expireStale db now).2
  | .placeOrder input => (placeOrder db input now).map Prod.snd
  | .joinWaitlist input => (joinWaitlist db input now).map Prod.snd
  | .markOffered input => markOffered db input now
  | .settleOrder input => (settleOrder db input now).map Prod.snd
  | .rejectOrder input => (rejectOrder db input now).map Prod.snd
  | .refundOrder orderId recordRefund => (refundOrder db orderId recordRefund now).map Prod.snd
  | .releaseHoldsForOrder orderId => .ok (releaseHoldsForOrder db orderId)
  | .recordLedger write => .ok { db with ledger := write db.ledger }
  | .enqueue event => .ok { db with outbox := db.outbox ++ [event] }
  | .tick _ => .ok db

/-- The seats each order was priced for, once this operation has run. -/
def pricedAfter (workspace : Workspace) : Op → Nat → List Nat
  | .placeOrder input, orderId =>
    match placeOrder workspace.db input workspace.clock with
    | .ok (placed, _) =>
      if placed.replayed = false ∧ orderId = placed.order.id then input.seatIds
      else workspace.priced orderId
    | .error _ => workspace.priced orderId
  | _, orderId => workspace.priced orderId

def Op.elapsed : Op → Nat
  | .tick elapsed => elapsed
  | _ => 0

def step (workspace : Workspace) (op : Op) : Workspace where
  db := match commit workspace.db workspace.clock op with
    | .ok after => after
    | .error _ => workspace.db
  clock := workspace.clock + op.elapsed
  priced := pricedAfter workspace op

/-- A step changes the tables only by committing. -/
theorem step_db (workspace : Workspace) (op : Op) :
    (step workspace op).db = workspace.db ∨
      commit workspace.db workspace.clock op = .ok (step workspace op).db := by
  cases committed : commit workspace.db workspace.clock op with
  | error _ =>
    left
    simp [step, committed]
  | ok after =>
    right
    simp [step, committed]

/-- Only a confirm prices an order. -/
theorem step_priced (workspace : Workspace) {op : Op} (other : ∀ input, op ≠ .placeOrder input) :
    (step workspace op).priced = workspace.priced := by
  cases op with
  | placeOrder input => exact absurd rfl (other input)
  | _ => rfl

/-- A confirm writes nothing, or places an order and remembers the seats it is priced for. -/
theorem step_placed (workspace : Workspace) (input : PlaceOrderInput) :
    ((step workspace (.placeOrder input)).db = workspace.db ∧
      (step workspace (.placeOrder input)).priced = workspace.priced) ∨
    ((∃ placed, Placed workspace.db input workspace.clock placed
        (step workspace (.placeOrder input)).db) ∧
      (step workspace (.placeOrder input)).priced = fun orderId =>
        if orderId = workspace.db.orders.next then input.seatIds else workspace.priced orderId) := by
  cases placing : placeOrder workspace.db input workspace.clock with
  | error refusal =>
    left
    refine ⟨by simp [step, commit, placing, Except.map], funext fun orderId => ?_⟩
    simp [step, pricedAfter, placing]
  | ok answer =>
    obtain ⟨placed, after⟩ := answer
    have stepped : (step workspace (.placeOrder input)).db = after := by
      simp [step, commit, placing, Except.map]
    rcases placeOrder_cases placing with ⟨replayed, same⟩ | placement
    · left
      refine ⟨stepped.trans same, funext fun orderId => ?_⟩
      simp [step, pricedAfter, placing, replayed]
    · right
      refine ⟨⟨placed, stepped ▸ placement⟩, funext fun orderId => ?_⟩
      have born : placed.order.id = workspace.db.orders.next := by
        rw [placement.order]
      simp [step, pricedAfter, placing, placement.fresh, born]

theorem map_snd_ok {ε α β : Type} {result : Except ε (α × β)} {after : β} :
    result.map Prod.snd = .ok after ↔ ∃ answer, result = .ok (answer, after) := by
  cases result with
  | error _ => simp [Except.map]
  | ok pair => simp [Except.map, Prod.ext_iff]

/-- The step rule: what every commit preserves, every step preserves. -/
theorem step_preserves {invariant : Db → Prop} {workspace : Workspace} {op : Op}
    (preserves : ∀ after, commit workspace.db workspace.clock op = .ok after → invariant after)
    (holds : invariant workspace.db) : invariant (step workspace op).db := by
  rcases step_db workspace op with same | committed
  · rwa [same]
  · exact preserves _ committed

/-- What a committed operation wrote, with the checks it passed; `idle` wrote nothing. -/
inductive Committed (db : Db) (now : Instant) : Op → Db → Prop where
  | idle (op : Op) : Committed db now op db
  | sweptSeats (input : HoldSeatsInput) :
      Committed db now (.holdSeats input) { db with
        seatHolds := expireLapsedForSeats db.seatHolds (distinctIds input.seatIds) now }
  | heldSeats (input : HoldSeatsInput)
      (available : ∀ id ∈ distinctIds input.seatIds,
        seatUnavailable db (expireLapsedForSeats db.seatHolds (distinctIds input.seatIds) now)
          input.eventId (distinctIds input.seatIds) id = false)
      (attached : ∀ orderId, input.orderId = some orderId → (db.orders.find orderId).isSome) :
      Committed db now (.holdSeats input) { db with
        seatHolds := (expireLapsedForSeats db.seatHolds (distinctIds input.seatIds) now).insertEach
          (distinctIds input.seatIds) (heldSeat input) }
  | sweptTier (input : HoldQuantityInput) :
      Committed db now (.holdQuantity input) { db with
        seatHolds := expireLapsedForTier db.seatHolds input.ticketTypeId now }
  | heldQuantity (input : HoldQuantityInput) (tier : TicketType)
      (found : db.ticketTypes.find input.ticketTypeId = some tier)
      (positive : 1 ≤ input.quantity)
      (fits : tier.sold + activeHeldQuantity
        (expireLapsedForTier db.seatHolds input.ticketTypeId now) input.ticketTypeId +
          input.quantity ≤ tier.total)
      (attached : ∀ orderId, input.orderId = some orderId → (db.orders.find orderId).isSome) :
      Committed db now (.holdQuantity input) { db with
        seatHolds := (expireLapsedForTier db.seatHolds input.ticketTypeId now).insert
          (heldQuantity input) }
  | released (holdIds : List Nat) : Committed db now (.release holdIds) (release db holdIds)
  | releasedUnattached (holdIds : List Nat) :
      Committed db now (.releaseUnattached holdIds) (releaseUnattached db holdIds)
  | expired : Committed db now .expireStale (expireStale db now).2
  | placed (input : PlaceOrderInput) (placed : PlacedOrder) (after : Db)
      (placement : Placed db input now placed after) :
      Committed db now (.placeOrder input) after
  | joined (input : OrderInsert) (attendeeId : Nat) (attendees : Table Attendee)
      (typed : (db.ticketTypes.find input.ticketTypeId).isSome) :
      Committed db now (.joinWaitlist input) { db with
        attendees
        orders := db.orders.insert (orderRow input attendeeId WAITLISTED now)
        orderItems := db.orderItems.insert (itemRow input db.orders.next) }
  | offered (input : MarkOfferedInput) (order : Order)
      (found : db.orders.find input.orderId = some order) (waiting : order.status = .waitlisted) :
      Committed db now (.markOffered input) (offeredDb db input order now)
  | settled (input : SettleOrderInput) (order : Order) (settlement : Settlement) (after : Db)
      (found : db.orders.find input.orderId = some order)
      (settles : Settled db input order now settlement after) :
      Committed db now (.settleOrder input) after
  | rejected (input : RejectOrderInput) (order : Order)
      (found : db.orders.find input.orderId = some order) (undecided : order.status ≠ .rejected)
      (rejectable : isRejectable order = true) :
      Committed db now (.rejectOrder input) (rejectedDb db input order now)
  | refunded (orderId : Nat) (recordRefund : Ledger → Except TxError Ledger) (order : Order)
      (ledger : Ledger) (found : db.orders.find orderId = some order)
      (recorded : recordRefund db.ledger = .ok ledger) :
      Committed db now (.refundOrder orderId recordRefund) (refundedDb db order ledger now)
  | releasedOrder (orderId : Nat) (order : Order) (found : db.orders.find orderId = some order)
      (waiting : isOnCheckoutClock order = true) :
      Committed db now (.releaseHoldsForOrder orderId)
        { db with seatHolds := releaseActiveHolds db.seatHolds orderId }
  | recorded (write : Ledger → Ledger) :
      Committed db now (.recordLedger write) { db with ledger := write db.ledger }
  | enqueued (event : OutboxEvent) :
      Committed db now (.enqueue event) { db with outbox := db.outbox ++ [event] }

/-- The commit rule: every committed operation wrote one of these. -/
theorem commit_cases {db after : Db} {now : Instant} {op : Op}
    (committed : commit db now op = .ok after) : Committed db now op after := by
  cases op with
  | holdSeats input =>
    obtain ⟨result, success⟩ := map_snd_ok.mp committed
    rcases holdSeats_cases success with rfl | rfl | ⟨available, attached, rfl⟩
    · exact .idle _
    · exact .sweptSeats input
    · exact .heldSeats input available attached
  | holdQuantity input =>
    obtain ⟨result, success⟩ := map_snd_ok.mp committed
    rcases holdQuantity_cases success with rfl | rfl | ⟨tier, found, positive, fits, attached, rfl⟩
    · exact .idle _
    · exact .sweptTier input
    · exact .heldQuantity input tier found positive fits attached
  | release holdIds =>
    cases committed
    exact .released holdIds
  | releaseUnattached holdIds =>
    cases committed
    exact .releasedUnattached holdIds
  | expireStale =>
    cases committed
    exact .expired
  | placeOrder input =>
    obtain ⟨placed, success⟩ := map_snd_ok.mp committed
    rcases placeOrder_cases success with ⟨_, rfl⟩ | placement
    · exact .idle _
    · exact .placed input placed after placement
  | joinWaitlist input =>
    obtain ⟨joined, success⟩ := map_snd_ok.mp committed
    rcases joinWaitlist_cases success with rfl | ⟨attendeeId, attendees, typed, rfl⟩
    · exact .idle _
    · exact .joined input attendeeId attendees typed
  | markOffered input =>
    obtain ⟨order, found, waiting, rfl⟩ := markOffered_cases committed
    exact .offered input order found waiting
  | settleOrder input =>
    obtain ⟨settlement, success⟩ := map_snd_ok.mp committed
    obtain ⟨order, found, settles⟩ := settleOrder_cases success
    exact .settled input order settlement after found settles
  | rejectOrder input =>
    obtain ⟨result, success⟩ := map_snd_ok.mp committed
    obtain ⟨order, found, _, ⟨_, rfl⟩ | ⟨undecided, rejectable, rfl⟩⟩ := rejectOrder_cases success
    · exact .idle _
    · exact .rejected input order found undecided rejectable
  | refundOrder orderId recordRefund =>
    obtain ⟨result, success⟩ := map_snd_ok.mp committed
    obtain ⟨order, ledger, found, recorded, rfl⟩ := refundOrder_cases success
    exact .refunded orderId recordRefund order ledger found recorded
  | releaseHoldsForOrder orderId =>
    cases committed
    rcases releaseHoldsForOrder_cases db orderId with same | ⟨order, found, waiting, same⟩
    · rw [same]
      exact .idle _
    · rw [same]
      exact .releasedOrder orderId order found waiting
  | recordLedger write =>
    cases committed
    exact .recorded write
  | enqueue event =>
    cases committed
    exact .enqueued event
  | tick elapsed =>
    cases committed
    exact .idle _

end EventaApi.Source
