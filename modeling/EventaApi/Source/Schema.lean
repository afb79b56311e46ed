import EventaApi.Library.Table

/-!
# The tables one workspace's transactions read and write

Every statement of the repositories is scoped to one workspace, so the state is
that workspace's slice of each table. Ids are the numbers their table's counter
gave out, instants are milliseconds since the epoch, money is satang.
-/
namespace EventaApi.Source
open Library

abbrev Instant := Nat
abbrev Satang := Nat

inductive OrderStatus where
  | confirmed | pending | waitlisted | cancelled | rejected | expired
  deriving DecidableEq, Repr

inductive PaymentStatus where
  | paid | pending | refunded | failed
  deriving DecidableEq, Repr

inductive IssuedTicketStatus where
  | issued | checkedIn | void | refunded | transferred
  deriving DecidableEq, Repr

inductive HoldStatus where
  | active | converted | expired | released
  deriving DecidableEq, Repr

inductive SeatStatus where
  | available | held | reserved | sold | blocked
  deriving DecidableEq, Repr

inductive RefundStatus where
  | pending | succeeded | failed
  deriving DecidableEq, Repr

inductive InvoiceStatus where
  | issued | paid | overdue | void
  deriving DecidableEq, Repr

inductive WebhookStatus where
  | received | processed | failed
  deriving DecidableEq, Repr

/-- What a verified provider callback turned out to mean. -/
inductive WebhookType where
  | succeeded | failed | expired | refundSucceeded | refundFailed | ignored
  deriving DecidableEq, Repr

inductive DiscountStatus where
  | active | scheduled | expired | disabled
  deriving DecidableEq, Repr

inductive DiscountType where
  | percent | fixed
  deriving DecidableEq, Repr

inductive EventStatus where
  | draft | planned | upcoming | live | completed | cancelled
  deriving DecidableEq, Repr

inductive Visibility where
  | isPublic | unlisted | isPrivate
  deriving DecidableEq, Repr

inductive SeatingMode where
  | reserved | ga
  deriving DecidableEq, Repr

inductive TicketStatus where
  | onsale | scheduled | paused | soldout
  deriving DecidableEq, Repr

inductive AdmissionType where
  | generalAdmission | reservedSeat
  deriving DecidableEq, Repr

inductive PaymentMethod where
  | card | promptPay | bankTransfer | applePay | googlePay
  deriving DecidableEq, Repr

structure Event where
  id : Nat
  name : String := ""
  status : EventStatus
  visibility : Visibility := .isPublic
  publishedAt : Option Instant := some 0
  seatingMode : SeatingMode := .ga
  requiresApproval : Bool := false
  startAt : Instant
  endAt : Option Instant := none
  deletedAt : Option Instant := none
  deriving DecidableEq, Repr

structure TicketType where
  id : Nat
  eventId : Nat
  name : String
  isFree : Bool := false
  priceSatang : Satang := 0
  status : TicketStatus := .onsale
  admissionType : AdmissionType := .generalAdmission
  minPerOrder : Nat := 1
  maxPerOrder : Nat := 8
  salesStartAt : Option Instant := none
  salesEndAt : Option Instant := none
  sold : Nat
  total : Nat
  deletedAt : Option Instant := none
  version : Nat := 1
  deriving DecidableEq, Repr

structure SeatLayout where
  rows : Nat
  seatsPerRow : Nat
  deriving DecidableEq, Repr

structure SeatMap where
  id : Nat
  eventId : Nat
  name : String := ""
  layout : Option SeatLayout := none
  totalSeats : Nat := 0
  deletedAt : Option Instant := none
  deriving DecidableEq, Repr

structure Seat where
  id : Nat
  seatMapId : Nat
  sectionName : Option String := some ""
  rowLabel : Option String := none
  seatNumber : String := ""
  ticketTypeId : Option Nat
  status : SeatStatus := .available
  deriving DecidableEq, Repr

/-- The booking header; money is satang. -/
structure Order where
  id : Nat
  reference : String
  idempotencyKey : String
  eventId : Nat
  attendeeId : Nat
  buyerName : String
  buyerEmail : String
  buyerPhone : Option String
  status : OrderStatus
  paymentStatus : PaymentStatus
  requiresApproval : Bool
  approvalRequestedAt : Option Instant
  seats : Nat
  subtotalSatang : Satang
  discountCodeId : Option Nat
  discountAmountSatang : Satang
  vatAmountSatang : Satang
  totalSatang : Satang
  currency : String := "THB"
  registeredAt : Instant
  confirmedAt : Option Instant := none
  approvedAt : Option Instant := none
  rejectedAt : Option Instant := none
  decidedBy : Option Nat := none
  rejectionReason : Option String := none
  offeredAt : Option Instant := none
  offeredBy : Option Nat := none
  offerExpiresAt : Option Instant := none
  offerSkipped : Option Nat := none
  cancelledAt : Option Instant := none
  createdBy : Option Nat
  version : Nat := 1
  deriving DecidableEq, Repr

/-- A quantity of one ticket type within an order. -/
structure OrderItem where
  id : Nat
  orderId : Nat
  ticketTypeId : Nat
  quantity : Nat
  unitPriceSatang : Satang
  lineSubtotalSatang : Satang
  deriving DecidableEq, Repr

structure Ticket where
  id : Nat
  orderId : Nat
  orderItemId : Nat
  eventId : Nat
  ticketTypeId : Nat
  attendeeId : Nat
  qrToken : String
  holderName : String
  ticketLabel : String
  status : IssuedTicketStatus := .issued
  checkedInAt : Option Instant := none
  deriving DecidableEq, Repr

/-- Binds an issued ticket to a seat; live until it is released. -/
structure SeatAssignment where
  id : Nat
  seatId : Nat
  ticketId : Nat
  releasedAt : Option Instant := none
  deriving DecidableEq, Repr

/-- A checkout reservation: one seat, or a quantity of a ticket type. -/
structure SeatHold where
  id : Nat
  eventId : Nat
  orderId : Option Nat
  ticketTypeId : Option Nat
  seatId : Option Nat
  quantity : Nat
  status : HoldStatus
  expiresAt : Instant
  deriving DecidableEq, Repr

structure Attendee where
  id : Nat
  name : String
  email : String
  phone : Option String
  deriving DecidableEq, Repr

/-- A promotion; a limit of 0 is none, and a code without an event applies to every one. -/
structure DiscountCode where
  id : Nat
  eventId : Option Nat := none
  code : String := ""
  type : DiscountType := .fixed
  value : Nat := 1
  status : DiscountStatus
  used : Nat
  redemptionLimit : Nat
  perPersonLimit : Nat := 0
  minOrderSatang : Satang := 0
  validFrom : Option Instant := none
  validUntil : Option Instant := none
  deletedAt : Option Instant := none
  version : Nat := 1
  deriving DecidableEq, Repr

structure DiscountRedemption where
  id : Nat
  discountCodeId : Nat
  orderId : Nat
  buyerEmail : String
  amountSatang : Satang
  deriving DecidableEq, Repr

structure Payment where
  id : Nat
  txn : String
  orderId : Nat
  method : PaymentMethod
  amountSatang : Satang
  currency : String
  status : PaymentStatus
  paidAt : Option Instant
  gatewayRef : Option String
  idempotencyKey : String
  sellerName : Option String := none
  sellerAddress : Option String := none
  sellerTaxId : Option String := none
  deriving DecidableEq, Repr

structure Refund where
  id : Nat
  paymentId : Nat
  orderId : Nat
  amountSatang : Satang
  currency : String
  reason : Option String
  status : RefundStatus
  issuedBy : Nat
  issuedAt : Instant
  settledAt : Option Instant
  gatewayRef : Option String
  idempotencyKey : String
  deriving DecidableEq, Repr

structure Invoice where
  id : Nat
  number : String
  orderId : Nat
  eventId : Nat
  buyerName : String
  buyerEmail : String
  sellerName : Option String
  sellerAddress : Option String
  sellerTaxId : Option String
  issuedAt : Nat
  dueAt : Nat
  subtotalSatang : Int
  vatAmountSatang : Satang
  amountSatang : Satang
  currency : String
  status : InvoiceStatus
  paidVia : Option PaymentMethod
  paidOn : Option Nat
  voidedAt : Option Instant
  voidedBy : Option Nat
  voidReason : Option String
  deriving DecidableEq, Repr

structure WebhookEvent where
  id : Nat
  provider : String
  providerEventId : String
  eventType : WebhookType
  status : WebhookStatus := .received
  deriving DecidableEq, Repr

instance : Keyed Event := ⟨Event.id⟩
instance : Keyed TicketType := ⟨TicketType.id⟩
instance : Keyed SeatMap := ⟨SeatMap.id⟩
instance : Keyed Seat := ⟨Seat.id⟩
instance : Keyed Order := ⟨Order.id⟩
instance : Keyed OrderItem := ⟨OrderItem.id⟩
instance : Keyed Ticket := ⟨Ticket.id⟩
instance : Keyed SeatAssignment := ⟨SeatAssignment.id⟩
instance : Keyed SeatHold := ⟨SeatHold.id⟩
instance : Keyed Attendee := ⟨Attendee.id⟩
instance : Keyed DiscountCode := ⟨DiscountCode.id⟩
instance : Keyed DiscountRedemption := ⟨DiscountRedemption.id⟩
instance : Keyed Payment := ⟨Payment.id⟩
instance : Keyed Refund := ⟨Refund.id⟩
instance : Keyed Invoice := ⟨Invoice.id⟩
instance : Keyed WebhookEvent := ⟨WebhookEvent.id⟩

/-- What a transaction queues beside its writes, by routing key. -/
inductive OutboxEvent where
  | registrationConfirmed (orderId : Nat) (reference : String) (ticketCount : Nat)
      (totalSatang : Satang) (paid : Bool)
  | registrationRejected (orderId : Nat) (reference : String) (reason : Option String)
  | waitlistOffered (orderId : Nat) (reference : String) (ticketCount : Nat)
      (offerExpiresAt : Instant)
  | refundRequired (orderId : Nat) (reference : String) (amountSatang : Satang)
      (currency reason : String) (occurredAt : Instant)
  deriving DecidableEq, Repr

/-- The workspace's legal identity, stamped on a receipt when a payment settles. -/
structure Organization where
  name : String
  address : String
  taxId : String
  deriving DecidableEq, Repr

/-- What a `recordPayment` or `recordRefund` hook may write: the money's own tables. -/
structure Ledger where
  payments : Table Payment
  refunds : Table Refund
  invoices : Table Invoice
  organization : Organization

structure Db where
  ticketTypes : Table TicketType
  seatMaps : Table SeatMap
  seats : Table Seat
  orders : Table Order
  orderItems : Table OrderItem
  tickets : Table Ticket
  seatAssignments : Table SeatAssignment
  seatHolds : Table SeatHold
  attendees : Table Attendee
  discountCodes : Table DiscountCode
  discountRedemptions : Table DiscountRedemption
  ledger : Ledger
  webhookEvents : Table WebhookEvent
  outbox : List OutboxEvent

inductive ErrorCode where
  | notFound | conflict | validation | unauthorized | forbidden | tooManyRequests | internalError
  deriving DecidableEq, Repr

structure DomainException where
  code : ErrorCode
  message : String
  deriving DecidableEq, Repr

def DomainException.conflict (message : String) : DomainException := ⟨.conflict, message⟩
def DomainException.notFound (message : String) : DomainException := ⟨.notFound, message⟩
def DomainException.validation (message : String) : DomainException := ⟨.validation, message⟩

/-- Why a transaction rolled back: a refusal of the code's, or a constraint of the schema's. -/
inductive TxError where
  | domain (exception : DomainException)
  | uniqueViolation (constraint : String)
  | foreignKeyViolation (reference : String)
  | refundNoLongerPending
  deriving DecidableEq, Repr

/-- A citext comparison ignores case. -/
def citext (text : String) : List Char := text.toList.map Char.toLower

theorem bind_eq_ok {ε α β : Type} {step : Except ε α} {next : α → Except ε β} {value : β} :
    (step >>= next) = .ok value ↔
      ∃ intermediate, step = .ok intermediate ∧ next intermediate = .ok value := by
  cases step with
  | error _ =>
    constructor
    · intro failed
      cases failed
    · rintro ⟨_, failed, _⟩
      cases failed
  | ok intermediate =>
    constructor
    · exact fun success => ⟨intermediate, rfl, success⟩
    · rintro ⟨_, same, success⟩
      cases same
      exact success

theorem exists_bind_ok {ε α β : Type} {step : Except ε α} {next : α → Except ε β} :
    (∃ value, (step >>= next) = .ok value) ↔
      ∃ intermediate, step = .ok intermediate ∧ ∃ value, next intermediate = .ok value := by
  simp only [bind_eq_ok]
  exact ⟨fun ⟨value, intermediate, first, rest⟩ => ⟨intermediate, first, value, rest⟩,
    fun ⟨intermediate, first, value, rest⟩ => ⟨value, intermediate, first, rest⟩⟩

/-- A transaction that got past one step. -/
theorem bind_ok {ε α β : Type} {step : Except ε α} {next : α → Except ε β} {value : β}
    (success : (step >>= next) = .ok value) :
    ∃ intermediate, step = .ok intermediate ∧ next intermediate = .ok value :=
  bind_eq_ok.mp success

end EventaApi.Source
