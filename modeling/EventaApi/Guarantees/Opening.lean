import EventaApi.Guarantees.References

/-!
# Where a run starts

An event before its first order: ticket types with nothing sold, its seats, and
perhaps some holds no order has taken over.
-/
namespace EventaApi.Guarantees
open Library Source

structure Opening (db : Db) : Prop where
  orders : db.orders.rows = []
  orderItems : db.orderItems.rows = []
  tickets : db.tickets.rows = []
  seatAssignments : db.seatAssignments.rows = []
  unattached : ∀ hold ∈ db.seatHolds, hold.orderId = none
  unsold : ∀ tier ∈ db.ticketTypes, tier.sold = 0

theorem Opening.references {db : Db} (opening : Opening db) : References db where
  items := fun _ stored => absurd stored (Table.not_mem_of_empty opening.orderItems _)
  lined := fun _ stored => absurd stored (Table.not_mem_of_empty opening.orders _)
  sole := fun _ stored => absurd stored (Table.not_mem_of_empty opening.orderItems _)
  tickets := fun _ stored => absurd stored (Table.not_mem_of_empty opening.tickets _)
  holds := by
    intro hold stored orderId named
    rw [opening.unattached hold stored] at named
    cases named
  assignments := fun _ stored => absurd stored (Table.not_mem_of_empty opening.seatAssignments _)

/-! ## A small box office, for concrete runs -/

/-- General admission with one place, and a reserved event whose two seats are typed. -/
def boxOffice : Workspace where
  db :=
    { ticketTypes := ⟨[{ id := 0, eventId := 0, name := "General", sold := 0, total := 1 },
        { id := 1, eventId := 1, name := "Stalls", sold := 0, total := 2 }], 2,
        by decide, by decide⟩
      seatMaps := ⟨[{ id := 0, eventId := 1 }], 1, by decide, by decide⟩
      seats := ⟨[{ id := 0, seatMapId := 0, ticketTypeId := some 1 },
        { id := 1, seatMapId := 0, ticketTypeId := some 1 }], 2, by decide, by decide⟩
      orders := Table.empty
      orderItems := Table.empty
      tickets := Table.empty
      seatAssignments := Table.empty
      seatHolds := Table.empty
      attendees := Table.empty
      discountCodes := Table.empty
      discountRedemptions := Table.empty
      ledger :=
        { payments := Table.empty, refunds := Table.empty, invoices := Table.empty
          organization := ⟨"Organizer", "Bangkok", "0105500000000"⟩ }
      webhookEvents := Table.empty
      outbox := [] }
  clock := 0
  priced := fun _ => []

theorem boxOffice_opening : Opening boxOffice.db where
  orders := rfl
  orderItems := rfl
  tickets := rfl
  seatAssignments := rfl
  unattached := by decide +kernel
  unsold := by decide +kernel

/-- A reservation of the one general place. -/
def generalHold : HoldQuantityInput where
  eventId := 0
  ticketTypeId := 0
  quantity := 1
  expiresAt := 1000

/-- Somebody holds the one general place. -/
def heldOffice : Workspace := run step boxOffice [.holdQuantity generalHold]

/-- A reservation of one of the two stalls. -/
def stallHold (seatId : Nat) (expiresAt : Instant) : HoldSeatsInput where
  eventId := 1
  ticketTypeId := 1
  seatIds := [seatId]
  expiresAt := expiresAt

/-- One admission, placed as the confirm endpoint places it. -/
def booking (key : String) (eventId ticketTypeId : Nat) (seat : Option Nat) (holdIds : List Nat)
    (price : Satang) (requiresApproval : Bool) : PlaceOrderInput :=
  let placement := placementFor requiresApproval (0 < price) false
  { reference := key
    idempotencyKey := key
    eventId
    buyer := { name := key, email := key }
    ticketTypeId
    quantity := 1
    unitPriceSatang := price
    totals := { subtotalSatang := price, totalSatang := price }
    requiresApproval := placement.requiresApproval
    ticketTypeName := "Admission"
    seatIds := seat.toList
    holdIds
    issueTickets := placement.issueTickets
    awaitsDecision := placement.awaitsDecision
    qrTokens := if placement.issueTickets then [key] else []
    booking := by decide
    seated := by cases seat <;> simp
    minted := by split <;> rfl }

/-- The success webhook's settlement of an order, with no ledger to write. -/
def payment (orderId : Nat) : SettleOrderInput where
  orderId := orderId
  mode := .payment
  mintQrToken := fun _ => "QR"
  recordPayment := id

/-- An organizer's approval. -/
def approval (orderId : Nat) : SettleOrderInput where
  orderId := orderId
  mode := .approval
  decidedBy := some 7
  mintQrToken := fun _ => "QR"
  recordPayment := id

end EventaApi.Guarantees
