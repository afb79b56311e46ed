import EventaApi.Source.Discounts
import EventaApi.Source.Transactions

/-!
# Confirming a registration

`CheckoutService.priceSelection` and `CheckoutOrderService.confirm`: the selection is
resolved and priced against what the event, the tier, the seats and the code are now,
and only then placed. The pricing reads; `placeOrder` is the one write.
-/
namespace EventaApi.Source
open Library

/-! ## The request -/

structure ConfirmOrderDto where
  eventId : Nat
  ticketTypeId : Nat
  quantity : Option Nat := none
  seatIds : List Nat := []
  holdIds : List Nat := []
  discountCode : Option String := none
  buyer : Buyer
  idempotencyKey : String
  deriving DecidableEq, Repr

/-- An organizer entering the booking by hand. -/
structure OrganizerEntry where
  createdBy : Nat
  notify : Bool := true
  deriving DecidableEq, Repr

/-- What the workspace sells, and what it takes off and puts on a price. -/
structure Catalog where
  events : Table Event
  rates : OrgRates

/-! ## Resolving the selection -/

def LIVE_STATUSES : List EventStatus := [.planned, .upcoming, .live]

/-- Only a published, publicly visible, live event resolves. -/
def findPublishedForCheckout (events : Table Event) (eventId : Nat) : Option Event :=
  (events.find eventId).filter fun event =>
    event.visibility = .isPublic ∧ event.publishedAt.isSome ∧ event.status ∈ LIVE_STATUSES ∧
      event.deletedAt = none

/-- The organizer's own event: its visibility is not asked, its status is. -/
def findOwnedForCheckout (events : Table Event) (eventId : Nat) : Option Event :=
  (events.find eventId).filter fun event => event.status ∈ LIVE_STATUSES ∧ event.deletedAt = none

/-- Who is asking decides how the event is resolved; registration closes when it begins. -/
def loadEvent (events : Table Event) (now : Instant) (eventId : Nat)
    (entry : Option OrganizerEntry) : Except DomainException Event :=
  match entry with
  | some _ =>
    match findOwnedForCheckout events eventId with
    | some event => .ok event
    | none => .error (.notFound "That event isn't open for new registrations.")
  | none =>
    match findPublishedForCheckout events eventId with
    | none => .error (.notFound "This event isn't available.")
    | some event =>
      if now < event.startAt then .ok event
      else .error (.conflict "Registration is closed for this event.")

/-- A live tier of the event. -/
def findTier (ticketTypes : Table TicketType) (eventId ticketTypeId : Nat) :
    Option TicketType :=
  (ticketTypes.find ticketTypeId).filter fun tier =>
    tier.eventId = eventId ∧ tier.deletedAt = none

def requireTier (ticketTypes : Table TicketType) (eventId ticketTypeId : Nat) :
    Except DomainException TicketType :=
  match findTier ticketTypes eventId ticketTypeId with
  | some tier => .ok tier
  | none => .error (.notFound "That ticket type isn't available for this event.")

/-- The pick once the event's seating mode has judged it; general admission names no seat. -/
structure CheckoutSelection where
  seatIds : List Nat
  quantity : Nat
  booking : 1 ≤ quantity ∧ quantity ≤ MAX_SEATS_PER_BOOKING
  seated : seatIds = [] ∨ (seatIds.Nodup ∧ seatIds.length = quantity)
  deriving DecidableEq, Repr

def bookingSize : DomainException :=
  .validation s!"Choose between 1 and {MAX_SEATS_PER_BOOKING} tickets per booking."

def resolveReserved (seatIds : List Nat) : Except DomainException CheckoutSelection :=
  if seatIds = [] then
    .error (.validation "This event has reserved seating — please pick your seats.")
  else if distinct : seatIds.Nodup then
    if booking : 1 ≤ seatIds.length ∧ seatIds.length ≤ MAX_SEATS_PER_BOOKING then
      .ok { seatIds, quantity := seatIds.length, booking, seated := Or.inr ⟨distinct, rfl⟩ }
    else .error bookingSize
  else .error (.validation "The same seat was picked twice. Please choose again.")

def resolveGeneralAdmission (quantity : Option Nat) (seatIds : List Nat) :
    Except DomainException CheckoutSelection :=
  if seatIds ≠ [] then
    .error (.validation "This event is general admission — choose a quantity instead of seats.")
  else if booking : 1 ≤ quantity.getD 0 ∧ quantity.getD 0 ≤ MAX_SEATS_PER_BOOKING then
    .ok { seatIds := [], quantity := quantity.getD 0, booking, seated := Or.inl rfl }
  else .error bookingSize

def resolveSelection (seatingMode : SeatingMode) (input : ConfirmOrderDto) :
    Except DomainException CheckoutSelection :=
  match seatingMode with
  | .reserved => resolveReserved input.seatIds
  | .ga => resolveGeneralAdmission input.quantity input.seatIds

def assertWithinTierBounds (tier : TicketType) (count : Nat) : Except DomainException Unit :=
  if count < tier.minPerOrder then
    .error (.validation
      ("You must buy at least " ++ toString tier.minPerOrder ++ " of this ticket type per order."))
  else if tier.maxPerOrder < count then
    .error (.validation
      ("You can buy at most " ++ toString tier.maxPerOrder ++ " of this ticket type per order."))
  else .ok ()

/-- One seat of the event's map, and whether it can be picked right now. -/
structure CheckoutSeat where
  id : Nat
  ticketTypeId : Option Nat
  available : Bool
  deriving DecidableEq, Repr

/-- A hold on the seat that is not the caller's own. -/
def heldByAnother (db : Db) (now : Instant) (ownHoldIds : List Nat) (seatId : Nat) : Prop :=
  ∃ hold ∈ db.seatHolds.rows, hold.seatId = some seatId ∧ hold.reserves now ∧
    hold.id ∉ ownHoldIds

instance (db : Db) (now : Instant) (ownHoldIds : List Nat) (seatId : Nat) :
    Decidable (heldByAnother db now ownHoldIds seatId) := inferInstanceAs (Decidable (∃ _ ∈ _, _))

/-- A ticket's live assignment binds the seat. -/
def isAssigned (db : Db) (seatId : Nat) : Prop :=
  ∃ assignment ∈ db.seatAssignments.rows, assignment.seatId = seatId ∧
    assignment.releasedAt = none

instance (db : Db) (seatId : Nat) : Decidable (isAssigned db seatId) :=
  inferInstanceAs (Decidable (∃ _ ∈ _, _))

def seatsForEvent (db : Db) (eventId : Nat) (now : Instant) (ownHoldIds : List Nat) :
    List CheckoutSeat :=
  (db.seats.select fun seat => eventByMap db seat.seatMapId = some eventId).map fun seat =>
    { id := seat.id
      ticketTypeId := seat.ticketTypeId
      available := seat.status = .available ∧ ¬ heldByAnother db now ownHoldIds seat.id ∧
        ¬ isAssigned db seat.id }

def NOT_ON_SALE : String := "Those seats aren't on sale. Please choose different seats."

def OTHER_TICKET_TYPE : String :=
  "Those seats belong to a different ticket type. Please choose again."

def mapTyped (seats : List CheckoutSeat) : Bool := seats.any fun seat => seat.ticketTypeId.isSome

/-- A chosen seat exists, sells under the tier, and is still free. -/
def resolveSeat (seats : List CheckoutSeat) (ticketTypeId seatId : Nat) :
    Except DomainException Unit :=
  match seats.find? fun seat => seat.id = seatId with
  | none =>
    .error (.conflict "One of those seats is no longer available. Please choose again.")
  | some seat =>
    if seatSellsUnder seat.ticketTypeId ticketTypeId (mapTyped seats) = false then
      .error (.validation (if seat.ticketTypeId = none then NOT_ON_SALE else OTHER_TICKET_TYPE))
    else if seat.available = false then
      .error (.conflict "Some of those seats were just taken. Please choose different seats.")
    else .ok ()

/-- Every chosen seat, in the order asked. -/
def resolveSeats (seats : List CheckoutSeat) (ticketTypeId : Nat) :
    List Nat → Except DomainException Unit
  | [] => .ok ()
  | seatId :: rest => do
    resolveSeat seats ticketTypeId seatId
    resolveSeats seats ticketTypeId rest

/-! ## Pricing it -/

/-- The pricing's internals, which placing the order needs. -/
structure PricedSelection where
  eventId : Nat
  eventName : String
  requiresApproval : Bool
  ticketTypeId : Nat
  ticketTypeName : String
  selection : CheckoutSelection
  unitPriceSatang : Satang
  totals : OrderTotals
  discountCode : Option String
  discountCodeId : Option Nat
  deriving DecidableEq, Repr

def PricedSelection.paymentRequired (priced : PricedSelection) : Bool :=
  0 < priced.totals.totalSatang

/-- The service fee is charged on the discounted amount, and VAT restated on the total. -/
def priceOrder (rates : OrgRates) (subtotalSatang discountSatang : Satang) : OrderTotals :=
  let discount := min discountSatang subtotalSatang
  let discounted := subtotalSatang - discount
  let total := discounted + rates.serviceFeeOf discounted
  { subtotalSatang
    discountSatang := discount
    vatSatang := rates.vatOf total
    totalSatang := total }

/-- What the code the buyer typed takes off; no code takes nothing. -/
def discountFor (db : Db) (catalog : Catalog) (now : Instant) (input : ConfirmOrderDto)
    (subtotalSatang : Satang) : Except DomainException (Option DiscountQuoteResult) :=
  match input.discountCode.filter fun code => !code.isEmpty with
  | none => .ok none
  | some code =>
    (quote db catalog.events catalog.rates now
      { code, eventId := input.eventId, subtotalSatang, buyerEmail := some input.buyer.email }).map
      some

/-- The tier and the pick, resolved against what is on sale now. -/
def resolve (db : Db) (catalog : Catalog) (now : Instant) (input : ConfirmOrderDto)
    (entry : Option OrganizerEntry) :
    Except DomainException (Event × TicketType × CheckoutSelection) := do
  let event ← loadEvent catalog.events now input.eventId entry
  let tier ← requireTier db.ticketTypes event.id input.ticketTypeId
  let selection ← resolveSelection event.seatingMode input
  assertWithinTierBounds tier selection.quantity
  resolveSeats (seatsForEvent db event.id now input.holdIds) tier.id selection.seatIds
  .ok (event, tier, selection)

/-- Price the selection; reads only. -/
def priceSelection (db : Db) (catalog : Catalog) (now : Instant) (input : ConfirmOrderDto)
    (entry : Option OrganizerEntry) : Except DomainException PricedSelection := do
  let (event, tier, selection) ← resolve db catalog now input entry
  let subtotalSatang := tier.priceSatang * selection.quantity
  let discount ← discountFor db catalog now input subtotalSatang
  .ok
    { eventId := event.id
      eventName := event.name
      requiresApproval := event.requiresApproval
      ticketTypeId := tier.id
      ticketTypeName := tier.name
      selection
      unitPriceSatang := tier.priceSatang
      totals := priceOrder catalog.rates subtotalSatang
        ((discount.map DiscountQuoteResult.discountSatang).getD 0)
      discountCode := discount.map DiscountQuoteResult.code
      discountCodeId := discount.map DiscountQuoteResult.discountCodeId }

/-! ## Placing it -/

/-- What is drawn at random: a reference for each attempt, and a token for each ticket. -/
structure Draws where
  reference : Nat → String
  qrToken : Nat → String

def placement (priced : PricedSelection) (entry : Option OrganizerEntry) : Placement :=
  placementFor priced.requiresApproval priced.paymentRequired entry.isSome

/-- The order a confirm places, under the reference drawn for this attempt. -/
def placeInput (input : ConfirmOrderDto) (priced : PricedSelection)
    (entry : Option OrganizerEntry) (draws : Draws) (attempt : Nat) : PlaceOrderInput where
  reference := draws.reference attempt
  idempotencyKey := input.idempotencyKey
  eventId := priced.eventId
  buyer := input.buyer
  ticketTypeId := priced.ticketTypeId
  quantity := priced.selection.quantity
  unitPriceSatang := priced.unitPriceSatang
  totals := priced.totals
  discountCodeId := priced.discountCodeId
  createdBy := entry.map OrganizerEntry.createdBy
  requiresApproval := (placement priced entry).requiresApproval
  booking := priced.selection.booking
  ticketTypeName := priced.ticketTypeName
  seatIds := priced.selection.seatIds
  holdIds := input.holdIds
  issueTickets := (placement priced entry).issueTickets
  awaitsDecision := (placement priced entry).awaitsDecision
  qrTokens := if (placement priced entry).issueTickets then
      (List.range priced.selection.quantity).map draws.qrToken
    else []
  notify := (entry.map OrganizerEntry.notify).getD true
  seated := priced.selection.seated
  minted := by split <;> simp

/-- Retried only on the reference, and only so often; `left` attempts may follow this one. -/
def withFreshReference (place : Nat → Except TxError (PlacedOrder × Db)) (attempt : Nat) :
    Nat → Except TxError (PlacedOrder × Db)
  | 0 => place attempt
  | left + 1 =>
    match place attempt with
    | .error (.uniqueViolation constraint) =>
      if constraint = REFERENCE_CONSTRAINT then withFreshReference place (attempt + 1) left
      else .error (.uniqueViolation constraint)
    | result => result

structure IssuedTicketDto where
  id : Nat
  qrToken : String
  holderName : String
  ticketLabel : String
  status : IssuedTicketStatus
  deriving DecidableEq, Repr

def issuedTicket (ticket : Ticket) : IssuedTicketDto where
  id := ticket.id
  qrToken := ticket.qrToken
  holderName := ticket.holderName
  ticketLabel := ticket.ticketLabel
  status := ticket.status

structure OrderPlaced where
  orderId : Nat
  reference : String
  status : OrderStatus
  paymentStatus : PaymentStatus
  buyerEmail : String
  totalSatang : Satang
  vatSatang : Satang
  summary : PricedSelection
  tickets : List IssuedTicketDto
  paymentRequired : Bool
  awaitingApproval : Bool
  deriving DecidableEq, Repr

def toResponse (placed : PlacedOrder) (priced : PricedSelection) : OrderPlaced where
  orderId := placed.order.id
  reference := placed.order.reference
  status := placed.order.status
  paymentStatus := placed.order.paymentStatus
  buyerEmail := placed.order.buyerEmail
  totalSatang := placed.order.totalSatang
  vatSatang := placed.order.vatAmountSatang
  summary := priced
  tickets := placed.tickets.map issuedTicket
  paymentRequired := priced.paymentRequired
  awaitingApproval := isAwaitingApproval placed.order

def place (db : Db) (now : Instant) (input : ConfirmOrderDto) (priced : PricedSelection)
    (entry : Option OrganizerEntry) (draws : Draws) : Except TxError (PlacedOrder × Db) :=
  withFreshReference (fun attempt => placeOrder db (placeInput input priced entry draws attempt) now)
    1 (REFERENCE_ATTEMPTS - 1)

/-- Re-priced here, never taken from the request, and then placed. -/
def confirm (db : Db) (catalog : Catalog) (now : Instant) (input : ConfirmOrderDto)
    (entry : Option OrganizerEntry) (draws : Draws) : Except TxError (OrderPlaced × Db) :=
  match priceSelection db catalog now input entry with
  | .error exception => .error (.domain exception)
  | .ok priced => (place db now input priced entry draws).map fun (placed, after) =>
    (toResponse placed priced, after)

end EventaApi.Source
