import EventaApi.Source.Transactions

/-!
# The door

`CheckInService` and `CheckInRepository`: a scan, a manual admission and an undo. A
request reads the event, then the ticket, and writes in a transaction of its own, so
anything may run between its read and its write. Every station brings its own clock:
each step of a request is taken at an instant of its own.
-/
namespace EventaApi.Source
open Library

/-! ## What the door keeps -/

inductive CheckInMethod where
  | qr | manual | upload
  deriving DecidableEq, Repr

inductive ScanOutcome where
  | admitted | alreadyCheckedIn | invalid | wrongEvent | cancelled
  deriving DecidableEq, Repr

/-- Exactly one live admission per ticket: `uq_check_ins_ticket`. -/
structure CheckIn where
  id : Nat
  eventId : Nat
  ticketId : Nat
  attendeeId : Nat
  checkedInAt : Instant
  method : CheckInMethod
  checkedInBy : Nat
  stationId : Option String
  deriving DecidableEq, Repr

/-- One row of the append-only scan ledger. -/
structure ScanAttempt where
  id : Nat
  eventId : Nat
  outcome : ScanOutcome
  method : CheckInMethod
  ticketId : Option Nat
  /-- Which event the pass belonged to, when it is not the station's. -/
  ticketEventId : Option Nat
  tokenFingerprint : Option String
  stationId : Option String
  scannedBy : Nat
  scannedAt : Instant
  deriving DecidableEq, Repr

structure AuditEvent where
  id : Nat
  type : String
  title : String
  actorUserId : Nat
  deriving DecidableEq, Repr

instance : Keyed CheckIn := ⟨CheckIn.id⟩
instance : Keyed ScanAttempt := ⟨ScanAttempt.id⟩
instance : Keyed AuditEvent := ⟨AuditEvent.id⟩

/-! ## What a request carries -/

structure ScanContext where
  method : CheckInMethod
  stationId : Option String
  /-- None when no code was presented at all; never the raw token. -/
  tokenFingerprint : Option String
  deriving DecidableEq, Repr

/-- The slice of a ticket the door needs to decide whether to admit it. -/
structure AdmissibleTicket where
  id : Nat
  eventId : Nat
  attendeeId : Nat
  holderName : String
  ticketLabel : String
  status : IssuedTicketStatus
  deriving DecidableEq, Repr

def ticketColumns (ticket : Ticket) : AdmissibleTicket where
  id := ticket.id
  eventId := ticket.eventId
  attendeeId := ticket.attendeeId
  holderName := ticket.holderName
  ticketLabel := ticket.ticketLabel
  status := ticket.status

/-- Everything one admission writes. -/
structure AdmitInput extends ScanContext where
  eventId : Nat
  ticketId : Nat
  attendeeId : Nat
  checkedInBy : Nat
  now : Instant
  deriving DecidableEq, Repr

structure AdmitOutcome where
  checkedInAt : Instant
  /-- False when this scan found them already inside. -/
  inserted : Bool
  deriving DecidableEq, Repr

/-- What the door shows after reading a code. -/
structure ScanResult where
  outcome : ScanOutcome
  ticketId : Option Nat
  holderName : Option String
  ticketLabel : Option String
  checkedInAt : Option Instant
  deriving DecidableEq, Repr

/-- Why somebody is turned away. -/
inductive Refusal where
  | invalid | wrongEvent | cancelled
  deriving DecidableEq, Repr

def Refusal.outcome : Refusal → ScanOutcome
  | .invalid => .invalid
  | .wrongEvent => .wrongEvent
  | .cancelled => .cancelled

/-- The code that was read, or the ticket found by hand when the code will not scan. -/
inductive Pass where
  | scan (qrToken : String)
  | admitManually (ticketId : Nat) (method : Option CheckInMethod)
  deriving DecidableEq, Repr

/-- A pass presented at a station, and who works it. -/
structure PassRequest where
  eventId : Nat
  pass : Pass
  stationId : Option String
  userId : Nat
  deriving DecidableEq, Repr

structure UndoRequest where
  eventId : Nat
  ticketId : Nat
  undoneBy : Nat
  deriving DecidableEq, Repr

inductive DoorRequest where
  | present (request : PassRequest)
  | undo (request : UndoRequest)
  deriving DecidableEq, Repr

def DoorRequest.eventId : DoorRequest → Nat
  | .present request => request.eventId
  | .undo request => request.eventId

inductive DoorReply where
  | scanned (result : ScanResult)
  | undone
  | thrown (error : TxError)
  | crashed
  deriving DecidableEq, Repr

inductive DoorPhase where
  | requireOpenDoor (request : DoorRequest)
  | findTicket (request : PassRequest)
  | refuse (request : PassRequest) (scan : ScanContext) (refusal : Refusal)
      (ticket : Option AdmissibleTicket) (now : Instant)
  | admitTicket (request : PassRequest) (scan : ScanContext) (ticket : AdmissibleTicket)
      (now : Instant)
  | undo (request : UndoRequest)
  | done (reply : DoorReply)
  deriving DecidableEq, Repr

structure DoorCall where
  id : Nat
  phase : DoorPhase
  deriving DecidableEq, Repr

instance : Keyed DoorCall := ⟨DoorCall.id⟩

/-- The door beside the workspace it admits to; no transaction reads `presented`. -/
structure Door where
  office : Workspace
  events : Table Event
  checkIns : Table CheckIn
  scanAttempts : Table ScanAttempt
  auditEvents : Table AuditEvent
  calls : Table DoorCall
  /-- SHA-256 in hex, the runtime's own. -/
  sha256 : String → String
  /-- The times presented for each ticket since its last undo. -/
  presented : Nat → List Instant

/-! ## The rules of the door -/

def HOURS : Nat := 3600000
def CHECKIN_OPENS_BEFORE_START_MS : Nat := 2 * HOURS
def CHECKIN_GRACE_AFTER_END_MS : Nat := 1 * HOURS

def DOOR_SHUT : String := "Check-in is not open for this event yet — or has already closed."
def NEVER_ADMITTED : String := "That ticket has not been checked in."
def AUDIT_TYPE : String := "checkin"

def ADMITTING_STATUSES : List EventStatus := [.planned, .upcoming, .live]

/-- A ticket in one of these states is not entitled to entry. -/
def DENIED_STATUSES : List IssuedTicketStatus := [.void, .refunded, .transferred]

/-- Doors open two hours ahead and close an hour after the end, or after the start. -/
def isCheckInOpen (event : Event) (now : Instant) : Bool :=
  ADMITTING_STATUSES.contains event.status &&
    (decide (event.startAt - CHECKIN_OPENS_BEFORE_START_MS ≤ now) &&
      decide (now ≤ event.endAt.getD event.startAt + CHECKIN_GRACE_AFTER_END_MS))

/-- The two outcomes of the single-statement admit. -/
def admissionOutcome (inserted : Bool) : ScanOutcome :=
  if inserted then .admitted else .alreadyCheckedIn

def findForCheckIn (events : Table Event) (eventId : Nat) : Option Event :=
  (events.find eventId).filter fun event => event.deletedAt.isNone

def requireOpenDoor (events : Table Event) (eventId : Nat) (now : Instant) :
    Except DomainException Event :=
  match findForCheckIn events eventId with
  | none => .error (.notFound "Event not found.")
  | some event => if isCheckInOpen event now then .ok event else .error (.conflict DOOR_SHUT)

def findTicketByToken (tickets : Table Ticket) (qrToken : String) : Option AdmissibleTicket :=
  (tickets.select fun ticket => ticket.qrToken = qrToken).head?.map ticketColumns

def findTicketById (tickets : Table Ticket) (ticketId : Nat) : Option AdmissibleTicket :=
  (tickets.find ticketId).map ticketColumns

/-- The ticket a pass names, and what the door was holding when it asked. -/
def findTicket (door : Door) (request : PassRequest) : Option AdmissibleTicket × ScanContext :=
  match request.pass with
  | .scan qrToken =>
    (findTicketByToken door.office.db.tickets qrToken,
      ⟨.qr, request.stationId, some (door.sha256 qrToken)⟩)
  | .admitManually ticketId method =>
    (findTicketById door.office.db.tickets ticketId,
      ⟨method.getD .manual, request.stationId, none⟩)

/-- The five outcomes, decided in the order the door needs. -/
def afterFindTicket (request : PassRequest) (scan : ScanContext) (now : Instant) :
    Option AdmissibleTicket → DoorPhase
  | none => .refuse request scan .invalid none now
  | some ticket =>
    if ticket.eventId ≠ request.eventId then .refuse request scan .wrongEvent (some ticket) now
    else if DENIED_STATUSES.contains ticket.status then
      .refuse request scan .cancelled (some ticket) now
    else .admitTicket request scan ticket now

def admitInput (request : PassRequest) (scan : ScanContext) (ticket : AdmissibleTicket)
    (now : Instant) : AdmitInput :=
  { scan with
    eventId := request.eventId
    ticketId := ticket.id
    attendeeId := ticket.attendeeId
    checkedInBy := request.userId
    now }

/-- Which event a refused pass belonged to, when it is not this station's. -/
def otherEventId (eventId : Nat) (ticket : Option AdmissibleTicket) : Option Nat :=
  (ticket.map AdmissibleTicket.eventId).filter fun ticketEventId => ticketEventId ≠ eventId

def refused (refusal : Refusal) (ticket : Option AdmissibleTicket) : ScanResult where
  outcome := refusal.outcome
  ticketId := ticket.map AdmissibleTicket.id
  holderName := ticket.map AdmissibleTicket.holderName
  ticketLabel := ticket.map AdmissibleTicket.ticketLabel
  checkedInAt := none

def admittedResult (ticket : AdmissibleTicket) (outcome : AdmitOutcome) : ScanResult where
  outcome := admissionOutcome outcome.inserted
  ticketId := some ticket.id
  holderName := some ticket.holderName
  ticketLabel := some ticket.ticketLabel
  checkedInAt := some outcome.checkedInAt

/-! ## The door's transactions -/

@[reducible] def refusedAttempt (request : PassRequest) (scan : ScanContext) (refusal : Refusal)
    (ticket : Option AdmissibleTicket) (now : Instant) (id : Nat) : ScanAttempt where
  id := id
  eventId := request.eventId
  outcome := refusal.outcome
  method := scan.method
  ticketId := ticket.map AdmissibleTicket.id
  ticketEventId := otherEventId request.eventId ticket
  tokenFingerprint := scan.tokenFingerprint
  stationId := scan.stationId
  scannedBy := request.userId
  scannedAt := now

@[reducible] def admittedAttempt (input : AdmitInput) (inserted : Bool) (id : Nat) :
    ScanAttempt where
  id := id
  eventId := input.eventId
  outcome := admissionOutcome inserted
  method := input.method
  ticketId := some input.ticketId
  ticketEventId := none
  tokenFingerprint := input.tokenFingerprint
  stationId := input.stationId
  scannedBy := input.checkedInBy
  scannedAt := input.now

@[reducible] def checkInRow (input : AdmitInput) (id : Nat) : CheckIn where
  id := id
  eventId := input.eventId
  ticketId := input.ticketId
  attendeeId := input.attendeeId
  checkedInAt := input.now
  method := input.method
  checkedInBy := input.checkedInBy
  stationId := input.stationId

/-- Insert the admission, or keep the earliest arrival of the one already there. -/
def upsertCheckIn (door : Door) (input : AdmitInput) :
    Except TxError (AdmitOutcome × Table CheckIn) :=
  match (door.checkIns.select fun row => row.ticketId = input.ticketId).head? with
  | some row =>
    .ok (⟨min row.checkedInAt input.now, false⟩,
      door.checkIns.update (fun row => row.ticketId = input.ticketId)
        fun row => { row with checkedInAt := min row.checkedInAt input.now })
  | none => do
    foreignKey (door.office.db.tickets.find input.ticketId).isSome "check_ins.ticket_id"
    .ok (⟨input.now, true⟩, door.checkIns.insert (checkInRow input))

def markCheckedIn (tickets : Table Ticket) (ticketId : Nat) (checkedInAt : Instant) :
    Table Ticket :=
  tickets.update (fun ticket => ticket.id = ticketId)
    fun ticket => { ticket with status := .checkedIn, checkedInAt := some checkedInAt }

def admittedDoor (door : Door) (input : AdmitInput) (outcome : AdmitOutcome)
    (checkIns : Table CheckIn) : Door :=
  { door with
    office.db.tickets := markCheckedIn door.office.db.tickets input.ticketId outcome.checkedInAt
    checkIns
    scanAttempts := door.scanAttempts.insert (admittedAttempt input outcome.inserted)
    presented := Function.update door.presented input.ticketId
      (input.now :: door.presented input.ticketId) }

/-- Admit one ticket, exactly once, with its projection and its ledger row. -/
def admitTicket (door : Door) (input : AdmitInput) : Except TxError (AdmitOutcome × Door) := do
  let (outcome, checkIns) ← upsertCheckIn door input
  .ok (outcome, admittedDoor door input outcome checkIns)

def recordScanAttempt (door : Door) (attempt : Nat → ScanAttempt)
    (keyed : ∀ id, Keyed.key (attempt id) = id) : Door :=
  { door with scanAttempts := door.scanAttempts.insert attempt keyed }

def undoTitle (ticketId : Nat) : String := "Undid check-in for ticket " ++ toString ticketId

def markUndone (tickets : Table Ticket) (ticketId : Nat) : Table Ticket :=
  tickets.update (fun ticket => ticket.id = ticketId)
    fun ticket => { ticket with status := .issued, checkedInAt := none }

def undoneDoor (door : Door) (request : UndoRequest) : Door :=
  { door with
    office.db.tickets := markUndone door.office.db.tickets request.ticketId
    checkIns := door.checkIns.delete fun row =>
      row.eventId = request.eventId ∧ row.ticketId = request.ticketId
    auditEvents := door.auditEvents.insert fun id =>
      { id, type := AUDIT_TYPE, title := undoTitle request.ticketId
        actorUserId := request.undoneBy }
    presented := Function.update door.presented request.ticketId [] }

/-- Reverse an admission; false when there was nothing to undo. -/
def undo (door : Door) (request : UndoRequest) : Bool × Door :=
  if (door.checkIns.select fun row =>
      row.eventId = request.eventId ∧ row.ticketId = request.ticketId) = [] then (false, door)
  else (true, undoneDoor door request)

/-! ## The door as a machine -/

/-- Do what the phase says, at the station's own instant: one read or one transaction. -/
def actAtDoor (door : Door) (now : Instant) : DoorPhase → Door × DoorPhase
  | .requireOpenDoor request =>
    match requireOpenDoor door.events request.eventId now with
    | .error exception => (door, .done (.thrown (.domain exception)))
    | .ok _ =>
      match request with
      | .present request => (door, .findTicket request)
      | .undo request => (door, .undo request)
  | .findTicket request =>
    let (ticket, scan) := findTicket door request
    (door, afterFindTicket request scan now ticket)
  | .refuse request scan refusal ticket scannedAt =>
    (recordScanAttempt door (refusedAttempt request scan refusal ticket scannedAt) fun _ => rfl,
      .done (.scanned (refused refusal ticket)))
  | .admitTicket request scan ticket scannedAt =>
    match admitTicket door (admitInput request scan ticket scannedAt) with
    | .ok (outcome, after) => (after, .done (.scanned (admittedResult ticket outcome)))
    | .error error => (door, .done (.thrown error))
  | .undo request =>
    match undo door request with
    | (true, after) => (after, .done .undone)
    | (false, _) => (door, .done (.thrown (.domain (.notFound NEVER_ADMITTED))))
  | .done reply => (door, .done reply)

inductive DoorTurn where
  | checkout (op : Op)
  /-- The events module's own writes. -/
  | organize (write : Table Event → Table Event)
  | receive (request : DoorRequest)
  | advance (callId : Nat) (now : Instant)
  | crash (callId : Nat)

def moveDoorCall (door : Door) (callId : Nat) (phase : DoorPhase) : Door :=
  { door with
    calls := door.calls.update (fun call => call.id = callId) fun call => { call with phase } }

def serveDoor (door : Door) : DoorTurn → Door
  | .checkout op => { door with office := step door.office op }
  | .organize write => { door with events := write door.events }
  | .receive request =>
    { door with calls := door.calls.insert fun id => { id, phase := .requireOpenDoor request } }
  | .advance callId now =>
    match door.calls.find callId with
    | none => door
    | some call =>
      let (acted, phase) := actAtDoor door now call.phase
      moveDoorCall acted callId phase
  | .crash callId => moveDoorCall door callId (.done .crashed)

/-! ## What each step did -/

/-- A committed admission found nobody inside, or found the ticket's own row. -/
theorem admit_cases {door after : Door} {input : AdmitInput} {outcome : AdmitOutcome}
    (success : admitTicket door input = .ok (outcome, after)) :
    ((∀ row ∈ door.checkIns, row.ticketId ≠ input.ticketId) ∧
      (door.office.db.tickets.find input.ticketId).isSome ∧ outcome = ⟨input.now, true⟩ ∧
      after = admittedDoor door input outcome (door.checkIns.insert (checkInRow input))) ∨
    ∃ row ∈ door.checkIns, row.ticketId = input.ticketId ∧
      outcome = ⟨min row.checkedInAt input.now, false⟩ ∧
      after = admittedDoor door input outcome (door.checkIns.update
        (fun row => row.ticketId = input.ticketId)
        fun row => { row with checkedInAt := min row.checkedInAt input.now }) := by
  obtain ⟨⟨outcome', checkIns⟩, upserted, success⟩ := bind_ok success
  cases success
  unfold upsertCheckIn at upserted
  split at upserted
  next row found =>
    obtain ⟨stored, inside⟩ := Table.mem_select.mp (List.mem_of_mem_head? found)
    cases upserted
    exact Or.inr ⟨row, stored, inside, rfl, rfl⟩
  next absent =>
    obtain ⟨_, known, upserted⟩ := bind_ok upserted
    cases upserted
    refine Or.inl ⟨?_, foreignKey_ok.mp known, rfl, rfl⟩
    intro row stored inside
    have none := List.head?_eq_none_iff.mp absent
    exact Table.select_ne_nil.mpr ⟨row, stored, inside⟩ none

/-- What one step of a request did: a read, or one of the door's four writes. -/
inductive DoorActs (door : Door) : DoorPhase → Door → DoorPhase → Prop where
  | read (phase next : DoorPhase)
      (news : ∀ result, next = .done (.scanned result) → phase = next) :
      DoorActs door phase door next
  | refused (request : PassRequest) (scan : ScanContext) (refusal : Refusal)
      (ticket : Option AdmissibleTicket) (at' : Instant) :
      DoorActs door (.refuse request scan refusal ticket at')
        (recordScanAttempt door (refusedAttempt request scan refusal ticket at') fun _ => rfl)
        (.done (.scanned (refused refusal ticket)))
  | admitted (request : PassRequest) (scan : ScanContext) (ticket : AdmissibleTicket)
      (at' : Instant) (absent : ∀ row ∈ door.checkIns, row.ticketId ≠ ticket.id)
      (known : (door.office.db.tickets.find ticket.id).isSome) :
      DoorActs door (.admitTicket request scan ticket at')
        (admittedDoor door (admitInput request scan ticket at') ⟨at', true⟩
          (door.checkIns.insert (checkInRow (admitInput request scan ticket at'))))
        (.done (.scanned (admittedResult ticket ⟨at', true⟩)))
  | again (request : PassRequest) (scan : ScanContext) (ticket : AdmissibleTicket)
      (at' : Instant) (row : CheckIn) (stored : row ∈ door.checkIns)
      (inside : row.ticketId = ticket.id) :
      DoorActs door (.admitTicket request scan ticket at')
        (admittedDoor door (admitInput request scan ticket at') ⟨min row.checkedInAt at', false⟩
          (door.checkIns.update (fun row => row.ticketId = ticket.id)
            fun row => { row with checkedInAt := min row.checkedInAt at' }))
        (.done (.scanned (admittedResult ticket ⟨min row.checkedInAt at', false⟩)))
  | undone (request : UndoRequest)
      (found : ∃ row ∈ door.checkIns,
        row.eventId = request.eventId ∧ row.ticketId = request.ticketId) :
      DoorActs door (.undo request) (undoneDoor door request) (.done .undone)

theorem actAtDoor_cases (door : Door) (now : Instant) (phase : DoorPhase) :
    DoorActs door phase (actAtDoor door now phase).1 (actAtDoor door now phase).2 := by
  cases phase with
  | requireOpenDoor request =>
    simp only [actAtDoor]
    split
    · exact .read _ _ (by simp)
    · cases request with
      | present request => exact .read _ _ (by simp)
      | undo request => exact .read _ _ (by simp)
  | findTicket request =>
    refine .read _ _ fun result ended => ?_
    simp only [actAtDoor, afterFindTicket] at ended
    split at ended
    · cases ended
    · split at ended
      · cases ended
      · split at ended <;> cases ended
  | refuse request scan refusal ticket at' => exact .refused request scan refusal ticket at'
  | admitTicket request scan ticket at' =>
    simp only [actAtDoor]
    split
    next outcome after success =>
      rcases admit_cases success with ⟨absent, known, rfl, rfl⟩ | ⟨row, stored, inside, rfl, rfl⟩
      · exact .admitted request scan ticket at' absent known
      · exact .again request scan ticket at' row stored inside
    · exact .read _ _ (by simp)
  | undo request =>
    simp only [actAtDoor, undo]
    split
    next some after success =>
      split at success
      · cases success
      next found =>
        cases success
        obtain ⟨row, stored, named⟩ := Table.select_ne_nil.mp found
        exact .undone request ⟨row, stored, named⟩
    · exact .read _ _ (by simp)
  | done reply => exact .read _ _ fun _ _ => rfl

/-- A turn at the door moves one call, or is somebody else's. -/
theorem serveDoor_advance {door : Door} {callId : Nat} {call : DoorCall} (now : Instant)
    (found : door.calls.find callId = some call) :
    serveDoor door (.advance callId now) =
      moveDoorCall (actAtDoor door now call.phase).1 callId
        (actAtDoor door now call.phase).2 := by
  simp [serveDoor, found]

end EventaApi.Source
