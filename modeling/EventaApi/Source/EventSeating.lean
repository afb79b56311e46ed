import EventaApi.Source.Events
import EventaApi.Source.TicketRules

/-!
# Seat maps

`EventSeatingPolicy` plans a reserved map from what the save has read, and
`EventSeatingRepository` writes the plan in one transaction. `EventSeatingService` then changes
the event itself, in a transaction of its own.
-/
namespace EventaApi.Source
open Library

/-! ## Positions -/

structure ConfigureReservedInput where
  name : String
  rows : Nat
  seatsPerRow : Nat
  /-- Every seat of a row gets the row's entry. -/
  rowTicketTypes : Option (List (Option Nat))
  /-- Each seat gets its own entry. -/
  seatTicketTypes : Option (List (List (Option Nat)))
  deriving DecidableEq, Repr

/-- A place of the rows × seatsPerRow grid, both counted from 1. -/
structure SeatPosition where
  row : Nat
  number : Nat
  deriving DecidableEq, Repr

/-- A position with the ticket type it sells, none for no type. -/
structure NewSeatPosition extends SeatPosition where
  ticketTypeId : Option Nat
  deriving DecidableEq, Repr

abbrev SeatingPlanLayout := List NewSeatPosition

/-- Stable identity of a seat position. -/
def positionKey (sectionName rowLabel : Option String) (seatNumber : String) : String :=
  sectionName.getD "" ++ "|" ++ rowLabel.getD "" ++ "|" ++ seatNumber

def SeatPosition.rowLabel (position : SeatPosition) : String := toString position.row

def SeatPosition.seatNumber (position : SeatPosition) : String := toString position.number

def SeatPosition.key (position : SeatPosition) : String :=
  positionKey (some "") (some position.rowLabel) position.seatNumber

def Seat.key (seat : Seat) : String := positionKey seat.sectionName seat.rowLabel seat.seatNumber

def gridPositions (rows seatsPerRow : Nat) : List SeatPosition :=
  (List.range rows).flatMap fun row =>
    (List.range seatsPerRow).map fun number => { row := row + 1, number := number + 1 }

/-- What a map made of the entries holds at the key: a later entry replaces an earlier one. -/
def entryAt {α : Type} (entries : List (String × α)) (key : String) : Option α :=
  entries.reverse.lookup key

/-- The type sent for a position; none when no list was sent. -/
def sentTypeAt (input : ConfigureReservedInput) (position : SeatPosition) :
    Option (Option Nat) :=
  match input.seatTicketTypes with
  | some seats => seats[position.row - 1]?.bind fun row => row[position.number - 1]?
  | none => input.rowTicketTypes.bind fun rows => rows[position.row - 1]?

/-- Every seat of the grid with the type it will sell: the one sent, or, when nothing is sent,
the type it carries now. A new seat gets none. -/
def layoutAfter (seats : List Seat) (input : ConfigureReservedInput) : SeatingPlanLayout :=
  let current := seats.map fun seat => (seat.key, seat.ticketTypeId)
  (gridPositions input.rows input.seatsPerRow).map fun position =>
    { position with
      ticketTypeId := (sentTypeAt input position).getD (entryAt current position.key).join }

/-! ## The policy -/

def SOLD_SEATS_STAY : DomainException := .validation
  "Seats that are already sold cannot be removed from a published event."

def ONLINE_NOTE : DomainException := .validation
  "Online events have no seating — a join link is emailed after registration."

def assertOnePerRow (rows sent : Nat) : Except DomainException Unit :=
  if sent = rows then .ok ()
  else .error (.validation ("Send one ticket type per row: this map has " ++ toString rows ++
    " rows, but " ++ toString sent ++ " were sent."))

def assertOnePerSeat (seatsPerRow : Nat) :
    List (List (Option Nat)) → (row : Nat) → Except DomainException Unit
  | [], _ => .ok ()
  | seats :: rest, row =>
    if seats.length = seatsPerRow then assertOnePerSeat seatsPerRow rest (row + 1)
    else .error (.validation ("Send one ticket type per seat: row " ++ toString row ++ " has " ++
      toString seatsPerRow ++ " seats, but " ++ toString seats.length ++ " were sent."))

/-- The ticket types come as one list or the other. -/
def assertTypeShape (input : ConfigureReservedInput) : Except DomainException Unit :=
  match input.rowTicketTypes, input.seatTicketTypes with
  | some _, some _ =>
    .error (.validation "Send rowTicketTypes or seatTicketTypes, not both.")
  | some rows, none => assertOnePerRow input.rows rows.length
  | none, some seats => do
    assertOnePerRow input.rows seats.length
    assertOnePerSeat input.seatsPerRow seats 1
  | none, none => .ok ()

def strayType (position : NewSeatPosition) (sentByRow : Bool) : DomainException :=
  let whose :=
    if sentByRow then "Row " ++ position.rowLabel ++ "'s"
    else "Row " ++ position.rowLabel ++ " seat " ++ position.seatNumber ++ "'s"
  .validation (whose ++ " ticket type isn't one of this event's ticket types.")

/-- Every type must be a live ticket type of this event. -/
def assertLiveTypes (layout : SeatingPlanLayout) (tiers : List TicketType) (sentByRow : Bool) :
    Except DomainException Unit :=
  match layout.find? fun position =>
      position.ticketTypeId.any fun typed => typed ∉ tiers.map TicketType.id with
  | some stray => .error (strayType stray sentByRow)
  | none => .ok ()

/-- No seat of the layout has a ticket type. -/
def allUntyped (layout : SeatingPlanLayout) : Bool :=
  layout.all fun position => position.ticketTypeId = none

/-- Once a published event's seats have ticket types, every seat needs one. -/
def assertEverySeatTyped (layout : SeatingPlanLayout) (published : Bool) :
    Except DomainException Unit :=
  if published = false ∨ allUntyped layout then .ok ()
  else
    match layout.find? fun position => position.ticketTypeId = none with
    | some untyped => .error (.validation ("Give every seat in row " ++ untyped.rowLabel ++
        " a ticket type. Every seat of a published event needs one."))
    | none => .ok ()

/-- A published event must never lose seats that are already sold. -/
def assertNoSoldSeatRemoved (removed : List Seat) (published : Bool) :
    Except DomainException Unit :=
  if published ∧ ∃ seat ∈ removed, seat.status = .sold then .error SOLD_SEATS_STAY else .ok ()

/-- Existing seats moving to one ticket type, none for no type. -/
structure SeatRetype where
  ticketTypeId : Option Nat
  seatIds : List Nat
  deriving DecidableEq, Repr

def addToGroup (ticketTypeId : Option Nat) (seatId : Nat) : List SeatRetype → List SeatRetype
  | [] => [⟨ticketTypeId, [seatId]⟩]
  | group :: rest =>
    if group.ticketTypeId = ticketTypeId then
      { group with seatIds := group.seatIds ++ [seatId] } :: rest
    else group :: addToGroup ticketTypeId seatId rest

/-- Seats grouped by the type they move to, groups in order of first seat. -/
def groupByType (seats : List Seat) (typeOf : Seat → Option Nat) : List SeatRetype :=
  seats.foldl (fun groups seat => addToGroup (typeOf seat) seat.id groups) []

def lockedSeat (seat : Seat) : DomainException :=
  .conflict ("Row " ++ seat.rowLabel.getD "null" ++ " seat " ++ seat.seatNumber ++
    " is booked or held, so its ticket type can't change.")

/-- The type the layout gives a seat. -/
def typeIn (layout : SeatingPlanLayout) (seat : Seat) : Option Nat :=
  (entryAt (layout.map fun position => (position.key, position.ticketTypeId)) seat.key).join

/-- The kept seats whose type changes. -/
def movingSeats (kept : List Seat) (layout : SeatingPlanLayout) : List Seat :=
  kept.filter fun seat => seat.ticketTypeId ≠ typeIn layout seat

/-- A seat booked or held keeps the type it was sold or held under. -/
def retypedSeats (kept : List Seat) (layout : SeatingPlanLayout) (occupiedSeatIds : List Nat) :
    Except DomainException (List SeatRetype) :=
  match (movingSeats kept layout).find? fun seat => seat.id ∈ occupiedSeatIds with
  | some locked => .error (lockedSeat locked)
  | none => .ok (groupByType (movingSeats kept layout) (typeIn layout))

/-- Seats per live ticket type once the save lands; none when no seat carries a type. -/
def seatsByTier (layout : SeatingPlanLayout) (tiers : List TicketType) :
    Option (List (Nat × Nat)) :=
  if allUntyped layout then none
  else some (tiers.map fun tier =>
    (tier.id, (layout.filter fun position => position.ticketTypeId = some tier.id).length))

/-- The seat is at one of the layout's positions. -/
def IsKept (layout : SeatingPlanLayout) (seat : Seat) : Prop :=
  seat.key ∈ layout.map fun position => position.key

instance (layout : SeatingPlanLayout) : DecidablePred (IsKept layout) :=
  fun _ => inferInstanceAs (Decidable (_ ∈ _))

/-- What a reserved save reads under its locks before deciding anything. -/
structure ReservedSnapshot where
  seats : List Seat
  tiers : List TicketType
  occupiedSeatIds : List Nat
  deriving DecidableEq, Repr

/-- What a reserved save writes. -/
structure ReservedPlan where
  added : List NewSeatPosition
  removedSeatIds : List Nat
  retyped : List SeatRetype
  seatsByTier : Option (List (Nat × Nat))
  deriving DecidableEq, Repr

def planReserved (snapshot : ReservedSnapshot) (input : ConfigureReservedInput)
    (published : Bool) : Except DomainException ReservedPlan := do
  let layout := layoutAfter snapshot.seats input
  assertLiveTypes layout snapshot.tiers input.rowTicketTypes.isSome
  assertEverySeatTyped layout published
  let removed := snapshot.seats.filter fun seat => ¬ IsKept layout seat
  assertNoSoldSeatRemoved removed published
  let kept := snapshot.seats.filter (IsKept layout)
  let retyped ← retypedSeats kept layout snapshot.occupiedSeatIds
  return {
    added := layout.filter fun position => position.key ∉ snapshot.seats.map Seat.key
    removedSeatIds := removed.map Seat.id
    retyped
    seatsByTier := seatsByTier layout snapshot.tiers }

/-! ## The repository -/

/-- The live seat maps of an event. -/
def IsMapOf (eventId : Nat) (seatMap : SeatMap) : Prop :=
  seatMap.eventId = eventId ∧ seatMap.deletedAt = none

instance (eventId : Nat) : DecidablePred (IsMapOf eventId) :=
  fun _ => inferInstanceAs (Decidable (_ ∧ _))

def findMap (db : Db) (eventId : Nat) : Option SeatMap :=
  (db.seatMaps.select (IsMapOf eventId)).head?

def seatsOfMap (db : Db) (seatMapId : Nat) : List Seat :=
  db.seats.select fun seat => seat.seatMapId = seatMapId

/-- Of the seats, the ones booked or held right now. -/
def occupiedSeatIdsIn (db : Db) (seatIds : List Nat) (now : Instant) : List Nat :=
  (db.seatHolds.select fun hold => hold.reserves now).filterMap
      (fun hold => hold.seatId.filter fun seatId => seatId ∈ seatIds) ++
    assignedSeatIds db.seatAssignments seatIds

def reservedSnapshot (db : Db) (eventId : Nat) (now : Instant) : ReservedSnapshot :=
  let seats := (findMap db eventId).toList.flatMap fun seatMap => seatsOfMap db seatMap.id
  { seats
    tiers := liveTiers db eventId
    occupiedSeatIds := occupiedSeatIdsIn db (seats.map Seat.id) now }

@[reducible] def laidOutMap (input : ConfigureReservedInput) (seatMap : SeatMap) : SeatMap :=
  { seatMap with
    name := input.name
    layout := some ⟨input.rows, input.seatsPerRow⟩
    totalSeats := input.rows * input.seatsPerRow }

@[reducible] def newMap (eventId : Nat) (input : ConfigureReservedInput) (id : Nat) : SeatMap :=
  laidOutMap input { id, eventId }

/-- Create the map, or rewrite its layout; a map that is deleted still takes the event's place. -/
def saveMap (db : Db) (eventId : Nat) (input : ConfigureReservedInput) (eventExists : Bool) :
    Except TxError (Nat × Db) :=
  match findMap db eventId with
  | some seatMap =>
    .ok (seatMap.id, { db with
      seatMaps := db.seatMaps.update (fun row => row.id = seatMap.id) (laidOutMap input) })
  | none =>
    if ∃ seatMap ∈ db.seatMaps.rows, seatMap.eventId = eventId then
      .error (.uniqueViolation "uq_seat_maps_event")
    else if eventExists = false then .error (.foreignKeyViolation "seat_maps.event_id")
    else .ok (db.seatMaps.next, { db with
      seatMaps := db.seatMaps.insert (newMap eventId input) })

/-- Seats take their holds along; an assignment keeps its seat, released or not. -/
def deleteSeats (db : Db) (seatIds : List Nat) : Except TxError Db :=
  if ∃ assignment ∈ db.seatAssignments.rows, assignment.seatId ∈ seatIds then
    .error (.foreignKeyViolation "seat_assignments.seat_id")
  else .ok { db with
    seats := db.seats.delete fun seat => seat.id ∈ seatIds
    seatHolds := db.seatHolds.delete fun hold => ∃ seatId ∈ hold.seatId, seatId ∈ seatIds }

@[reducible] def retypedSeat (group : SeatRetype) (seat : Seat) : Seat :=
  { seat with ticketTypeId := group.ticketTypeId }

/-- One statement per new type. -/
def retypeSeats (seats : Table Seat) (retyped : List SeatRetype) : Table Seat :=
  retyped.foldl (fun seats group =>
    seats.update (fun seat => seat.id ∈ group.seatIds) (retypedSeat group)) seats

@[reducible] def insertedSeat (seatMapId : Nat) (position : NewSeatPosition) (id : Nat) : Seat where
  id := id
  seatMapId := seatMapId
  sectionName := some ""
  rowLabel := some position.rowLabel
  seatNumber := position.seatNumber
  ticketTypeId := position.ticketTypeId

def writeSeats (db : Db) (seatMapId : Nat) (plan : ReservedPlan) : Except TxError Db := do
  let kept ← deleteSeats db plan.removedSeatIds
  return { kept with
    seats := (retypeSeats kept.seats plan.retyped).insertEach plan.added
      (insertedSeat seatMapId) }

/-- The type's quantity, 0 for one that is not counted. -/
def countedSeats (counts : List (Nat × Nat)) (ticketTypeId : Nat) : Nat :=
  (counts.lookup ticketTypeId).getD 0

def domainError {α : Type} : Except DomainException α → Except TxError α
  | .ok value => .ok value
  | .error exception => .error (.domain exception)

/-- Apply a reserved layout in one transaction. -/
def applyReserved (db : Db) (eventId : Nat) (input : ConfigureReservedInput)
    (published eventExists : Bool) (now : Instant) : Except TxError (Nat × Db) := do
  let plan ← domainError (planReserved (reservedSnapshot db eventId now) input published)
  let (seatMapId, mapped) ← saveMap db eventId input eventExists
  let seated ← writeSeats mapped seatMapId plan
  match plan.seatsByTier with
  | some counts =>
    let counted ← domainError (setSeatQuantitiesIn seated eventId (countedSeats counts) now)
    return (seatMapId, counted)
  | none => return (seatMapId, seated)

/-- The seats that go with the event's seat map. -/
def seatsOfEvent (db : Db) (eventId : Nat) : List Seat :=
  db.seats.select fun seat => ∃ seatMap ∈ db.seatMaps.find seat.seatMapId, IsMapOf eventId seatMap

/-- Remove the event's seat map. -/
def clearSeating (db : Db) (eventId : Nat) : Except TxError Db := do
  let unseated ← deleteSeats db ((seatsOfEvent db eventId).map Seat.id)
  return { unseated with seatMaps := unseated.seatMaps.delete (IsMapOf eventId) }

/-! ## Requests -/

/-- The workspace's bookings, and its events. -/
structure SeatingDesk where
  workspace : Workspace
  events : EventDesk

inductive SeatingRequest where
  | configureReserved (eventId : Nat) (input : ConfigureReservedInput)
  | configureGeneral (eventId headcount : Nat)
  deriving DecidableEq, Repr

inductive SeatingReply where
  | configured (event : EventRecord)
  | thrown (exception : DomainException)
  | crashed
  deriving DecidableEq, Repr

/-- What a request does next. -/
inductive SeatingPhase where
  | first (request : SeatingRequest)
  | apply (event : EventRecord) (input : ConfigureReservedInput)
  | existing (event : EventRecord) (headcount : Nat)
  | clear (event : EventRecord) (headcount : Nat)
  /-- The event's own update, once the seats are written or there were none to clear. -/
  | updating (event : EventRecord) (wrote : Bool) (phase : EventPhase)
  | done (reply : SeatingReply)
  deriving DecidableEq, Repr

def seatingUpdate (seatingMode : SeatingMode) (capacity : Option (Option Nat)) :
    UpdateEventInput where
  name := none
  description := none
  type := none
  categoryId := none
  startAt := none
  endAt := none
  timezone := none
  venueName := none
  venueAddress := none
  city := none
  isOnline := none
  onlineNote := none
  seatingMode := some seatingMode
  capacity := capacity
  waitlistEnabled := none
  requiresApproval := none
  coverImage := none
  accentColor := none
  contactEmail := none
  landingTemplateId := none
  version := none

def toGeneral (event : EventRecord) (headcount : Nat) : EventPhase :=
  .first (.update event.id (seatingUpdate .ga (some (some headcount))))

def toReserved (event : EventRecord) : EventPhase :=
  .first (.update event.id (seatingUpdate .reserved none))

def seatingRefused (exception : DomainException) : SeatingPhase := .done (.thrown exception)

/-- The event, if it is there and in person. -/
def withSeatedEvent (desk : SeatingDesk) (eventId : Nat) (next : EventRecord → SeatingPhase) :
    SeatingPhase :=
  match findEvent desk.events eventId with
  | none => seatingRefused (noEvent eventId)
  | some event => if event.content.isOnline then seatingRefused ONLINE_NOTE else next event

def beginSeating (desk : SeatingDesk) : SeatingRequest → SeatingPhase
  | .configureReserved eventId input =>
    withSeatedEvent desk eventId fun event =>
      match assertTypeShape input with
      | .error exception => seatingRefused exception
      | .ok () => .apply event input
  | .configureGeneral eventId headcount =>
    withSeatedEvent desk eventId fun event => .existing event headcount

/-- Any event past its draft. -/
def isPublished (event : EventRecord) : Bool := event.status ≠ .draft

def failedSave : TxError → SeatingPhase
  | .domain exception => seatingRefused exception
  | .uniqueViolation _ | .foreignKeyViolation _ | .refundNoLongerPending => .done .crashed

/-- The map is read with its seats, and of a published event none may be sold. -/
def decideGeneral (desk : SeatingDesk) (event : EventRecord) (headcount : Nat) : SeatingPhase :=
  match findMap desk.workspace.db event.id with
  | none => .updating event false (toGeneral event headcount)
  | some seatMap =>
    match assertNoSoldSeatRemoved (seatsOfMap desk.workspace.db seatMap.id) (isPublished event) with
    | .error exception => seatingRefused exception
    | .ok () => .clear event headcount

/-- A write that committed goes on to the event; one that failed wrote nothing. -/
def seatsWritten (desk : SeatingDesk) (event : EventRecord) (written : Except TxError Db)
    (next : EventPhase) : SeatingDesk × SeatingPhase :=
  match written with
  | .ok db => ({ desk with workspace := { desk.workspace with db } }, .updating event true next)
  | .error failure => (desk, failedSave failure)

def afterUpdate (event : EventRecord) (wrote : Bool) : EventPhase → SeatingPhase
  | .done (.event updated) => .done (.configured updated)
  | .done (.thrown exception _) => seatingRefused exception
  | .done _ => .done .crashed
  | phase => .updating event wrote phase

/-- The save of an event's reserved map: what it commits, if it commits. -/
def savedReserved (desk : SeatingDesk) (event : EventRecord) (input : ConfigureReservedInput) :
    Except TxError Db :=
  (applyReserved desk.workspace.db event.id input (isPublished event)
    (desk.events.events.find event.id).isSome desk.workspace.clock).map Prod.snd

/-- One read, or one committed transaction. -/
def actOnSeating (texts : EventTexts) (desk : SeatingDesk) (answers : EventAnswers) :
    SeatingPhase → SeatingDesk × SeatingPhase
  | .first request => (desk, beginSeating desk request)
  | .apply event input =>
    seatsWritten desk event (savedReserved desk event input) (toReserved event)
  | .existing event headcount => (desk, decideGeneral desk event headcount)
  | .clear event headcount =>
    seatsWritten desk event (clearSeating desk.workspace.db event.id) (toGeneral event headcount)
  | .updating event wrote phase =>
    let acted := actOnEvents texts desk.events answers phase
    ({ desk with events := acted.1 }, afterUpdate event wrote acted.2)
  | .done reply => (desk, .done reply)

/-- A booking, or a step of a request about events. -/
inductive SeatingWorld where
  | booking (op : Op)
  | eventStep (answers : EventAnswers) (phase : EventPhase)

def changeSeating (texts : EventTexts) (desk : SeatingDesk) : SeatingWorld → SeatingDesk
  | .booking op => { desk with workspace := step desk.workspace op }
  | .eventStep answers phase =>
    { desk with events := (actOnEvents texts desk.events answers phase).1 }

/-- Requests about the seats of one workspace's events, any number of them at once. -/
def seatingRequests (texts : EventTexts) :
    Handler SeatingDesk SeatingPhase SeatingRequest EventAnswers SeatingWorld where
  opened := .first
  act := actOnSeating texts
  outside := changeSeating texts
  crashed := .done .crashed

end EventaApi.Source
