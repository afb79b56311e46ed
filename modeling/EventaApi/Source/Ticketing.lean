import EventaApi.Source.EventSeating

/-!
# Ticket types

`TicketingService` and `TicketingRepository`: creating, changing, pausing, resuming, removing and
copying the ticket types of an event. A request decides on the row it loaded; its write is to the
version it loaded, and a sale does not count a version.
-/
namespace EventaApi.Source
open Library

/-! ## Inputs -/

structure CreateTicketInput where
  name : String
  isFree : Option Bool := none
  priceSatang : Option Satang := none
  total : Option Nat := none
  admissionType : Option AdmissionType := none
  minPerOrder : Option Nat := none
  maxPerOrder : Option Nat := none
  salesStartAt : Option Instant := none
  salesEndAt : Option Instant := none
  deriving DecidableEq, Repr

/-- What an update may set; a field that may not be null may still be sent as null. -/
structure TicketPatch where
  name : Patch String := none
  isFree : Patch Bool := none
  priceSatang : Patch Satang := none
  total : Patch Nat := none
  admissionType : Patch AdmissionType := none
  minPerOrder : Patch Nat := none
  maxPerOrder : Patch Nat := none
  salesStartAt : Patch Instant := none
  salesEndAt : Patch Instant := none
  deriving DecidableEq, Repr

structure UpdateTicketInput extends TicketPatch where
  version : Patch Nat := none
  deriving DecidableEq, Repr

structure NewTicketValues where
  eventId : Nat
  name : String
  isFree : Bool
  priceSatang : Satang
  total : Nat
  admissionType : AdmissionType
  status : TicketStatus
  minPerOrder : Nat
  maxPerOrder : Nat
  salesStartAt : Option Instant
  salesEndAt : Option Instant
  deriving DecidableEq, Repr

/-- The ticket types of an event's typed seats where its seat map sets the quantities; none on
any other event. -/
abbrev SeatQuantities := Option (List Nat)

/-! ## Requests -/

inductive TicketRequest where
  | create (eventId : Nat) (input : CreateTicketInput)
  | update (eventId ticketId : Nat) (input : UpdateTicketInput)
  | pause (eventId ticketId : Nat)
  | resume (eventId ticketId : Nat)
  | delete (eventId ticketId : Nat)
  | clone (srcEventId destEventId : Nat)
  deriving DecidableEq, Repr

inductive TicketReply where
  | ticket (row : TicketType)
  | removed (ticketId : Nat)
  | retired (ticketId : Nat)
  | cloned
  | thrown (exception : DomainException)
  | crashed
  deriving DecidableEq, Repr

/-- What a request asks an event's seat quantities for. -/
inductive SeatsUse where
  | create (input : CreateTicketInput)
  | update (ticketId : Nat) (input : UpdateTicketInput)
  | delete (ticket : TicketType)
  | respond (row : TicketType)
  deriving DecidableEq, Repr

/-- What a request does next, with what it has read. -/
inductive TicketPhase where
  | first (request : TicketRequest)
  /-- The event is read, and then its seats. -/
  | forEvent (eventId : Nat) (use : SeatsUse)
  | seats (event : EventRecord) (use : SeatsUse)
  | nameFree (eventId : Nat) (seats : SeatQuantities) (input : CreateTicketInput)
  | insert (values : NewTicketValues)
  | load (eventId ticketId : Nat) (seats : SeatQuantities) (input : UpdateTicketInput)
  | rename (ticket : TicketType) (seats : SeatQuantities) (input : UpdateTicketInput)
  | save (ticket : TicketType) (input : UpdateTicketInput) (status : TicketStatus)
  | setStatus (ticket : TicketType) (status : TicketStatus)
  | count (ticket : TicketType)
  | holds (ticket : TicketType)
  | remove (ticket : TicketType)
  | copies (destEventId : Nat) (rows : List TicketType)
  | done (reply : TicketReply)
  deriving DecidableEq, Repr

/-! ## Errors -/

def TICKET_NAME_TAKEN : DomainException :=
  .conflict "A ticket type with this name already exists for this event."
def STALE_TICKET : DomainException :=
  .conflict "This ticket type changed elsewhere. Reload and try again."
def SALES_ENDED : DomainException := .conflict
  "Sales for this ticket type have already ended — extend the sales end date first."
def LAST_TICKET_TYPE : DomainException := .validation
  "An event must keep at least one ticket type — this is the last one."
def BEING_CHECKED_OUT : DomainException := .conflict
  "Someone is checking out with this ticket type — pause it and try again shortly."

def noTicket (ticketId : Nat) : DomainException :=
  .notFound ("Ticket type " ++ toString ticketId ++ " not found for this event.")

def ticketRefused (exception : DomainException) : TicketPhase := .done (.thrown exception)

/-- A rule that refuses ends the request. -/
def orRefused (judged : Except DomainException Unit) (next : TicketPhase) : TicketPhase :=
  match judged with
  | .ok () => next
  | .error exception => ticketRefused exception

/-! ## The repository -/

def findTicketType (db : Db) (eventId ticketId : Nat) : Option TicketType :=
  (db.ticketTypes.find ticketId).filter fun row => row.eventId = eventId ∧ row.deletedAt = none

/-- A live type of the event, other than the one excluded, has this name. -/
def nameExists (db : Db) (eventId : Nat) (name : String) (excludeId : Option Nat) : Bool :=
  (liveTiers db eventId).any fun row => row.name = name ∧ some row.id ≠ excludeId

@[reducible] def insertedTier (values : NewTicketValues) (id : Nat) : TicketType where
  id := id
  eventId := values.eventId
  name := values.name
  isFree := values.isFree
  priceSatang := values.priceSatang
  status := values.status
  admissionType := values.admissionType
  minPerOrder := values.minPerOrder
  maxPerOrder := values.maxPerOrder
  salesStartAt := values.salesStartAt
  salesEndAt := values.salesEndAt
  sold := 0
  total := values.total

/-- The version that was loaded, of a type that is live. -/
def AtTierVersion (ticket row : TicketType) : Prop :=
  row.id = ticket.id ∧ row.version = ticket.version ∧ row.deletedAt = none

instance (ticket : TicketType) : DecidablePred (AtTierVersion ticket) :=
  fun _ => inferInstanceAs (Decidable (_ ∧ _ ∧ _))

/-- A value sent as null for a column that takes none. -/
def hasNull (values : TicketPatch) : Bool :=
  values.name = some none || values.isFree = some none || values.priceSatang = some none ||
    values.total = some none || values.admissionType = some none ||
    values.minPerOrder = some none || values.maxPerOrder = some none

@[reducible] def patchedTier (ticket : TicketType) (values : TicketPatch) (status : TicketStatus)
    (row : TicketType) : TicketType :=
  { row with
    name := values.name.join.getD row.name
    isFree := values.isFree.join.getD row.isFree
    priceSatang := values.priceSatang.join.getD row.priceSatang
    total := values.total.join.getD row.total
    admissionType := values.admissionType.join.getD row.admissionType
    minPerOrder := values.minPerOrder.join.getD row.minPerOrder
    maxPerOrder := values.maxPerOrder.join.getD row.maxPerOrder
    salesStartAt := values.salesStartAt.getD row.salesStartAt
    salesEndAt := values.salesEndAt.getD row.salesEndAt
    status
    version := ticket.version + 1 }

/-- The checks of the table. -/
def TierChecked (row : TicketType) : Prop :=
  row.sold ≤ row.total ∧ (row.isFree = true → row.priceSatang = 0)

instance : DecidablePred TierChecked :=
  fun _ => inferInstanceAs (Decidable (_ ∧ (_ → _)))

/-- What refers to the type and keeps it. -/
def IsReferenced (db : Db) (ticketId : Nat) : Prop :=
  (∃ item ∈ db.orderItems.rows, item.ticketTypeId = ticketId) ∨
    ∃ ticket ∈ db.tickets.rows, ticket.ticketTypeId = ticketId

instance (db : Db) (ticketId : Nat) : Decidable (IsReferenced db ticketId) :=
  inferInstanceAs (Decidable ((∃ _ ∈ db.orderItems.rows, _) ∨ ∃ _ ∈ db.tickets.rows, _))

/-- A type that nothing was sold of. -/
def IsUnsold (ticketId : Nat) (row : TicketType) : Prop := row.id = ticketId ∧ row.sold = 0

instance (ticketId : Nat) : DecidablePred (IsUnsold ticketId) :=
  fun _ => inferInstanceAs (Decidable (_ ∧ _))

@[reducible] def unsetSeat (seat : Seat) : Seat := { seat with ticketTypeId := none }

/-- Erase a type outright; its seats lose their type, its holds go with it. -/
def hardDeleteTier (db : Db) (ticketId : Nat) : Except TxError Db :=
  if (db.ticketTypes.select (IsUnsold ticketId)) = [] then .ok db
  else if IsReferenced db ticketId then .error (.foreignKeyViolation "ticket_types.id")
  else .ok { db with
    ticketTypes := db.ticketTypes.delete (IsUnsold ticketId)
    seats := db.seats.update (fun seat => seat.ticketTypeId = some ticketId) unsetSeat
    seatHolds := db.seatHolds.delete fun hold => hold.ticketTypeId = some ticketId }

@[reducible] def retiredTier (now : Instant) (row : TicketType) : TicketType :=
  { row with deletedAt := some now }

def softDeleteTier (db : Db) (ticketId : Nat) (now : Instant) : Db :=
  { db with
    ticketTypes := db.ticketTypes.update (fun row => row.id = ticketId ∧ row.deletedAt = none)
      (retiredTier now) }

def hasActiveHolds (db : Db) (ticketId : Nat) (now : Instant) : Bool :=
  db.seatHolds.rows.any fun hold => hold.ticketTypeId = some ticketId ∧ hold.reserves now

/-! ## What each request decides -/

/-- The type as it will be once the input is applied: what the rules judge. -/
structure MergedTicket where
  status : TicketStatus
  sold : Nat
  total : Nat
  priceSatang : Satang
  minPerOrder : Nat
  maxPerOrder : Nat
  salesStartAt : Option Instant
  salesEndAt : Option Instant
  deriving DecidableEq, Repr

def mergeTicket (ticket : TicketType) (input : TicketPatch) : MergedTicket where
  status := ticket.status
  sold := ticket.sold
  total := input.total.join.getD ticket.total
  priceSatang :=
    if input.isFree = some (some true) then 0 else input.priceSatang.join.getD ticket.priceSatang
  minPerOrder := input.minPerOrder.join.getD ticket.minPerOrder
  maxPerOrder := input.maxPerOrder.join.getD ticket.maxPerOrder
  salesStartAt := input.salesStartAt.getD ticket.salesStartAt
  salesEndAt := input.salesEndAt.getD ticket.salesEndAt

def buildTicketValues (input : TicketPatch) : TicketPatch :=
  { input with
    name := input.name.map fun name => name.map fun name => String.ofList (trim name)
    priceSatang := if input.isFree = some (some true) then some (some 0) else input.priceSatang }

/-- A new type's values; where the seat map sets quantities it has no seats yet. -/
def newTicketValues (eventId : Nat) (seats : SeatQuantities) (input : CreateTicketInput)
    (now : Instant) : NewTicketValues :=
  let isFree := input.isFree.getD false
  let total := if seats.isSome then 0 else input.total.getD 0
  { eventId
    name := String.ofList (trim input.name)
    isFree
    priceSatang := if isFree then 0 else input.priceSatang.getD 0
    total
    admissionType := input.admissionType.getD .generalAdmission
    status := resolveTicketStatus .scheduled 0 total input.salesStartAt now
    minPerOrder := input.minPerOrder.getD 1
    maxPerOrder := input.maxPerOrder.getD MAX_SEATS_PER_BOOKING
    salesStartAt := input.salesStartAt
    salesEndAt := input.salesEndAt }

def decideCreate (values : NewTicketValues) : TicketPhase :=
  orRefused (assertWholeBaht values.priceSatang)
    (orRefused (assertTicketWindow values.salesStartAt values.salesEndAt)
      (orRefused (assertPerOrderBounds values.minPerOrder values.maxPerOrder values.total false)
        (.insert values)))

/-- The merged values are judged, and their status derived. -/
def decideSave (ticket : TicketType) (seats : SeatQuantities) (input : UpdateTicketInput)
    (now : Instant) : TicketPhase :=
  let merged := mergeTicket ticket input.toTicketPatch
  orRefused (assertQuantityNotBelowSold merged.total ticket.sold)
    (orRefused (assertWholeBaht merged.priceSatang)
      (orRefused (assertTicketWindow merged.salesStartAt merged.salesEndAt)
        (orRefused (assertPerOrderBounds merged.minPerOrder merged.maxPerOrder merged.total
            seats.isSome)
          (.save ticket input
            (resolveTicketStatus merged.status merged.sold merged.total merged.salesStartAt
              now)))))

/-- What an update asks of the type it loaded. -/
def decideLoaded (ticket : TicketType) (seats : SeatQuantities) (input : UpdateTicketInput)
    (now : Instant) : TicketPhase :=
  if input.version.any fun version => version ≠ some ticket.version then
    ticketRefused STALE_TICKET
  else
    orRefused (assertChangeAllowedAfterSales ticket input.priceSatang input.isFree)
      (orRefused
        (match seats with
          | some typed => assertQuantityFromSeats input.total (typed.count ticket.id)
          | none => .ok ())
        (if input.name = none then decideSave ticket seats input now
          else .rename ticket seats input))

/-- A name that is null is an error of its own. -/
def decideRename (db : Db) (ticket : TicketType) (seats : SeatQuantities)
    (input : UpdateTicketInput) (now : Instant) : TicketPhase :=
  match input.name.join with
  | none => .done .crashed
  | some name =>
    if nameExists db ticket.eventId (String.ofList (trim name)) (some ticket.id) then
      ticketRefused TICKET_NAME_TAKEN
    else decideSave ticket seats input now

/-- Resolved from a baseline that is not paused. -/
def decideResume (ticket : TicketType) (now : Instant) : TicketPhase :=
  if ticket.salesEndAt.any fun ends => ends < now then ticketRefused SALES_ENDED
  else .setStatus ticket
    (resolveTicketStatus .onsale ticket.sold ticket.total ticket.salesStartAt now)

/-- A copy has sold nothing and has no sales window. -/
def copiedValues (destEventId : Nat) (row : TicketType) (now : Instant) : NewTicketValues where
  eventId := destEventId
  name := row.name
  isFree := row.isFree
  priceSatang := row.priceSatang
  total := row.total
  admissionType := row.admissionType
  status := resolveTicketStatus row.status 0 row.total none now
  minPerOrder := row.minPerOrder
  maxPerOrder := row.maxPerOrder
  salesStartAt := none
  salesEndAt := none

/-- The request goes on with the type it loads. -/
def withTicket (db : Db) (eventId ticketId : Nat) (next : TicketType → TicketPhase) :
    TicketPhase :=
  match findTicketType db eventId ticketId with
  | some ticket => next ticket
  | none => ticketRefused (noTicket ticketId)

def beginTicket (desk : SeatingDesk) : TicketRequest → TicketPhase
  | .create eventId input => .forEvent eventId (.create input)
  | .update eventId ticketId input => .forEvent eventId (.update ticketId input)
  | .pause eventId ticketId =>
    withTicket desk.workspace.db eventId ticketId fun ticket => .setStatus ticket .paused
  | .resume eventId ticketId =>
    withTicket desk.workspace.db eventId ticketId fun ticket =>
      decideResume ticket desk.workspace.clock
  | .delete eventId ticketId => withTicket desk.workspace.db eventId ticketId .count
  | .clone srcEventId destEventId =>
    .copies destEventId (liveTiers desk.workspace.db srcEventId)

/-- The event's seats have been read. -/
def useSeats (event : EventRecord) (typed : List Nat) (use : SeatsUse) : TicketPhase :=
  let seats : SeatQuantities :=
    if quantityFromSeats event.content.seatingMode (typed ≠ []) then some typed else none
  match use with
  | .create input => .nameFree event.id seats input
  | .update ticketId input => .load event.id ticketId seats input
  | .delete ticket =>
    orRefused (assertNoSeats ticket.name ((seats.getD []).count ticket.id)) (.holds ticket)
  | .respond row => .done (.ticket row)

/-! ## Steps -/

/-- `TicketingRepository.insert`: the event must be there. -/
def insertTier (desk : SeatingDesk) (values : NewTicketValues) (next : TicketType → TicketPhase) :
    SeatingDesk × TicketPhase :=
  if (desk.events.events.find values.eventId).isSome then
    ({ desk with workspace := { desk.workspace with
        db := { desk.workspace.db with
          ticketTypes := desk.workspace.db.ticketTypes.insert (insertedTier values) } } },
      next (insertedTier values desk.workspace.db.ticketTypes.next))
  else (desk, .done .crashed)

/-- `TicketingRepository.update`: it writes at the version that was loaded, and what it writes
must pass the table's checks. -/
def updateTier (desk : SeatingDesk) (ticket : TicketType) (values : TicketPatch)
    (status : TicketStatus) (next : TicketType → TicketPhase) : SeatingDesk × TicketPhase :=
  match (desk.workspace.db.ticketTypes.select (AtTierVersion ticket)).head? with
  | none => (desk, ticketRefused STALE_TICKET)
  | some row =>
    let written := patchedTier ticket values status row
    if hasNull values = false ∧ TierChecked written then
      ({ desk with workspace := { desk.workspace with
          db := { desk.workspace.db with
            ticketTypes := desk.workspace.db.ticketTypes.update (AtTierVersion ticket)
              (patchedTier ticket values status) } } },
        next written)
    else (desk, .done .crashed)

/-- The removal's transaction: judged once more, and by the row that was loaded either erased or
retired. What it removed is not asked. -/
def removeTier (desk : SeatingDesk) (ticket : TicketType) : SeatingDesk × TicketPhase :=
  let db := desk.workspace.db
  match assertNoSeats ticket.name (seatsOfTicketType db ticket.id) with
  | .error exception => (desk, ticketRefused exception)
  | .ok () =>
    if ticket.sold = 0 then
      match hardDeleteTier db ticket.id with
      | .ok after =>
        ({ desk with workspace := { desk.workspace with db := after } },
          .done (.removed ticket.id))
      | .error _ => (desk, .done .crashed)
    else
      ({ desk with workspace := { desk.workspace with
          db := softDeleteTier db ticket.id desk.workspace.clock } },
        .done (.retired ticket.id))

/-- One read, or one committed transaction. -/
def actOnTickets (desk : SeatingDesk) (_ : Unit) : TicketPhase → SeatingDesk × TicketPhase
  | .first request => (desk, beginTicket desk request)
  | .forEvent eventId use =>
    (desk, match findEvent desk.events eventId with
      | some event => .seats event use
      | none => ticketRefused (noEvent eventId))
  | .seats event use => (desk, useSeats event (typedSeats desk.workspace.db event.id) use)
  | .nameFree eventId seats input =>
    let values := newTicketValues eventId seats input desk.workspace.clock
    (desk, if nameExists desk.workspace.db eventId values.name none then
        ticketRefused TICKET_NAME_TAKEN
      else decideCreate values)
  | .insert values => insertTier desk values fun row => .done (.ticket row)
  | .load eventId ticketId seats input =>
    (desk, withTicket desk.workspace.db eventId ticketId fun ticket =>
      decideLoaded ticket seats input desk.workspace.clock)
  | .rename ticket seats input =>
    (desk, decideRename desk.workspace.db ticket seats input desk.workspace.clock)
  | .save ticket input status =>
    updateTier desk ticket (buildTicketValues input.toTicketPatch) status
      fun row => .done (.ticket row)
  | .setStatus ticket status =>
    updateTier desk ticket {} status fun row => .forEvent row.eventId (.respond row)
  | .count ticket =>
    (desk, if (liveTiers desk.workspace.db ticket.eventId).length ≤ 1 then
        ticketRefused LAST_TICKET_TYPE
      else .forEvent ticket.eventId (.delete ticket))
  | .holds ticket =>
    (desk, if hasActiveHolds desk.workspace.db ticket.id desk.workspace.clock then
        ticketRefused BEING_CHECKED_OUT
      else .remove ticket)
  | .remove ticket => removeTier desk ticket
  | .copies _ [] => (desk, .done .cloned)
  | .copies destEventId (row :: rest) =>
    insertTier desk (copiedValues destEventId row desk.workspace.clock)
      fun _ => .copies destEventId rest
  | .done reply => (desk, .done reply)

/-- A booking, a step of a request about events, or the save of a map whose seats have types. -/
inductive TicketWorld where
  | booking (op : Op)
  | eventStep (answers : EventAnswers) (phase : EventPhase)
  | seatQuantities (event : EventRecord) (input : ConfigureReservedInput)

/-- A save of the map of an event leaves one of its seats with a type. -/
def typesSeats (db : Db) (eventId : Nat) (input : ConfigureReservedInput) (now : Instant) : Bool :=
  !allUntyped (layoutAfter (reservedSnapshot db eventId now).seats input)

def changeTickets (texts : EventTexts) (desk : SeatingDesk) : TicketWorld → SeatingDesk
  | .booking op => { desk with workspace := step desk.workspace op }
  | .eventStep answers phase =>
    { desk with events := (actOnEvents texts desk.events answers phase).1 }
  | .seatQuantities event input =>
    if typesSeats desk.workspace.db event.id input desk.workspace.clock then
      match savedReserved desk event input with
      | .ok db => { desk with workspace := { desk.workspace with db } }
      | .error _ => desk
    else desk

/-- Requests about the ticket types of one workspace's events, any number of them at once. -/
def ticketRequests (texts : EventTexts) :
    Handler SeatingDesk TicketPhase TicketRequest Unit TicketWorld where
  opened := .first
  act := actOnTickets
  outside := changeTickets texts
  crashed := .done .crashed

end EventaApi.Source
