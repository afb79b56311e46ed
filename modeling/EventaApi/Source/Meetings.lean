import EventaApi.Source.Discounts
import EventaApi.Source.Payments
import EventaApi.Library.Pool

/-!
# Meetings

`MeetingsService` and `MeetingsRepository`: booking a meeting, moving it, calling it off and
asking the calendar again. A write commits with its outbox event beside it, and the worker
reports back what the calendar made of it. A day is its number since the epoch and a time of
day its minutes since midnight, both of Bangkok's clock.
-/
namespace EventaApi.Source
open Library

inductive MeetingType where
  | venue | sponsor | vendor | speaker | internal
  deriving DecidableEq, Repr

inductive MeetingMode where
  | video | inPerson | phone
  deriving DecidableEq, Repr

inductive MeetingStatus where
  | scheduled | cancelled
  deriving DecidableEq, Repr

inductive MeetingSyncStatus where
  | pending | synced | failed
  /-- No calendar is connected. -/
  | notConnected
  deriving DecidableEq, Repr

structure Meeting where
  id : Nat
  title : String
  meetingDate : Nat
  startTime : Nat
  endTime : Nat
  type : MeetingType
  mode : MeetingMode
  status : MeetingStatus
  person : String
  role : Option String
  guestEmail : String
  eventId : Option Nat
  link : Option String
  location : Option String
  notes : Option String
  cancellationReason : Option String
  cancelledAt : Option Instant
  syncStatus : MeetingSyncStatus
  /-- The calendar's own id for the meeting. -/
  externalEventId : Option String
  syncError : Option String
  idempotencyKey : String
  createdBy : Nat
  deletedAt : Option Instant
  version : Nat
  deriving DecidableEq, Repr

instance : Keyed Meeting := ⟨Meeting.id⟩

/-- An event, as far as a meeting about it looks at it. -/
structure MeetingEvent where
  id : Nat
  venueName : Option String
  deletedAt : Option Instant
  deriving DecidableEq, Repr

instance : Keyed MeetingEvent := ⟨MeetingEvent.id⟩

inductive MeetingSyncIntent where
  | create | update | cancel
  deriving DecidableEq, Repr

/-- What the calendar is asked for: `MEETING_SYNC_REQUESTED` and its payload. -/
structure MeetingSync where
  meetingId : Nat
  intent : MeetingSyncIntent
  title : String
  startsAt : Int
  endsAt : Int
  guestEmail : String
  person : String
  mode : MeetingMode
  needsLink : Bool
  location : Option String
  notes : Option String
  externalEventId : Option String
  cancellationReason : Option String
  occurredAt : Instant
  deriving DecidableEq, Repr

structure MeetingDesk where
  meetings : Table Meeting
  events : Table MeetingEvent
  outbox : List MeetingSync
  clock : Instant

/-! ## Constants -/

def MIN_TITLE : Nat := 3
def PHONE_LOCATION : String := "Phone call"
def MEETING_TITLE_REQUIRED : DomainException :=
  .validation s!"Give the meeting a title of at least {MIN_TITLE} characters."
def DATE_PAST : DomainException :=
  .validation "That date has already passed — choose today or later."
def END_BEFORE_START : DomainException :=
  .validation "The end time must be after the start time."
def MEETING_GONE : DomainException := .notFound "That meeting isn't available."
def ALREADY_CANCELLED : DomainException :=
  .conflict "This meeting was cancelled and can no longer be edited."
def CHANGED_UNDERNEATH : DomainException :=
  .conflict "Someone else changed this meeting — reload it and try again."
def NO_SUCH_EVENT : DomainException := .validation "That event isn't in this workspace."

/-! ## When and where -/

/-- Everything that must hold before a meeting is written. -/
def assertSchedulable (title : String) (date startTime endTime : Nat) (now : Instant) :
    Except DomainException Unit :=
  if utf16Length (trim title) < MIN_TITLE then .error MEETING_TITLE_REQUIRED
  else if date < bangkokToday now then .error DATE_PAST
  else if endTime ≤ startTime then .error END_BEFORE_START
  else .ok ()

structure MeetingPlace where
  location : Option String
  /-- The calendar must mint a link. -/
  needsLink : Bool
  deriving DecidableEq, Repr

/-- Where the meeting happens is decided by its mode. -/
def placeOf (mode : MeetingMode) (eventVenue : Option String) : MeetingPlace :=
  match mode with
  | .video => ⟨none, true⟩
  | .phone => ⟨some PHONE_LOCATION, false⟩
  | .inPerson => ⟨eventVenue, false⟩

/-- The instant of a time of day in Bangkok. -/
def startsAt (meetingDate time : Nat) : Int :=
  (meetingDate * 86400000 + time * 60000 : Nat) - 7 * 3600000

/-! ## Commands -/

structure ScheduleMeetingCommand where
  title : String
  date : Nat
  startTime : Nat
  endTime : Nat
  type : MeetingType
  mode : MeetingMode
  person : String
  role : Option String
  guestEmail : String
  eventId : Option Nat
  notes : Option String
  idempotencyKey : Option String
  deriving DecidableEq, Repr

/-- What is changed, and the version it is changed of; what may be empty may be sent as null. -/
structure RescheduleMeetingCommand where
  version : Nat
  title : Option String
  date : Option Nat
  startTime : Option Nat
  endTime : Option Nat
  type : Option MeetingType
  mode : Option MeetingMode
  person : Option String
  role : Option (Option String)
  guestEmail : Option String
  eventId : Option (Option Nat)
  notes : Option (Option String)
  deriving DecidableEq, Repr

structure NewMeeting where
  title : String
  meetingDate : Nat
  startTime : Nat
  endTime : Nat
  type : MeetingType
  mode : MeetingMode
  person : String
  role : Option String
  guestEmail : String
  eventId : Option Nat
  location : Option String
  notes : Option String
  idempotencyKey : String
  createdBy : Nat
  deriving DecidableEq, Repr

/-- The fields a reschedule may move; status and sync state are not among them. -/
structure MeetingPatch where
  title : String
  meetingDate : Nat
  startTime : Nat
  endTime : Nat
  type : MeetingType
  mode : MeetingMode
  person : String
  role : Option String
  guestEmail : String
  eventId : Option Nat
  location : Option String
  notes : Option String
  /-- The link goes with the mode that needed it. -/
  dropsLink : Bool
  deriving DecidableEq, Repr

/-- `{ ...toCommand(current), ...defined(command) }`. -/
def mergeMeeting (current : Meeting) (command : RescheduleMeetingCommand) :
    ScheduleMeetingCommand where
  title := command.title.getD current.title
  date := command.date.getD current.meetingDate
  startTime := command.startTime.getD current.startTime
  endTime := command.endTime.getD current.endTime
  type := command.type.getD current.type
  mode := command.mode.getD current.mode
  person := command.person.getD current.person
  role := command.role.getD current.role
  guestEmail := command.guestEmail.getD current.guestEmail
  eventId := command.eventId.getD current.eventId
  notes := command.notes.getD current.notes
  idempotencyKey := none

def newMeeting (userId : Nat) (command : ScheduleMeetingCommand) (place : MeetingPlace)
    (randomUUID : String) : NewMeeting where
  title := String.ofList (trim command.title)
  meetingDate := command.date
  startTime := command.startTime
  endTime := command.endTime
  type := command.type
  mode := command.mode
  person := String.ofList (trim command.person)
  role := command.role
  guestEmail := command.guestEmail
  eventId := command.eventId
  location := place.location
  notes := command.notes
  idempotencyKey := command.idempotencyKey.getD randomUUID
  createdBy := userId

def meetingPatch (merged : ScheduleMeetingCommand) (place : MeetingPlace) : MeetingPatch where
  title := String.ofList (trim merged.title)
  meetingDate := merged.date
  startTime := merged.startTime
  endTime := merged.endTime
  type := merged.type
  mode := merged.mode
  person := String.ofList (trim merged.person)
  role := merged.role
  guestEmail := merged.guestEmail
  eventId := merged.eventId
  location := place.location
  notes := merged.notes
  dropsLink := !place.needsLink

/-! ## The repository -/

@[reducible] def insertedMeeting (input : NewMeeting) (id : Nat) : Meeting where
  id := id
  title := input.title
  meetingDate := input.meetingDate
  startTime := input.startTime
  endTime := input.endTime
  type := input.type
  mode := input.mode
  status := .scheduled
  person := input.person
  role := input.role
  guestEmail := input.guestEmail
  eventId := input.eventId
  link := none
  location := input.location
  notes := input.notes
  cancellationReason := none
  cancelledAt := none
  syncStatus := .pending
  externalEventId := none
  syncError := none
  idempotencyKey := input.idempotencyKey
  createdBy := input.createdBy
  deletedAt := none
  version := 1

@[reducible] def rescheduledRow (expectedVersion : Nat) (patch : MeetingPatch) (row : Meeting) :
    Meeting :=
  { row with
    title := patch.title
    meetingDate := patch.meetingDate
    startTime := patch.startTime
    endTime := patch.endTime
    type := patch.type
    mode := patch.mode
    person := patch.person
    role := patch.role
    guestEmail := patch.guestEmail
    eventId := patch.eventId
    link := if patch.dropsLink then none else row.link
    location := patch.location
    notes := patch.notes
    syncStatus := .pending
    syncError := none
    version := expectedVersion + 1 }

@[reducible] def cancelledRow (reason : Option String) (now : Instant) (row : Meeting) : Meeting :=
  { row with
    status := .cancelled
    cancellationReason := reason
    cancelledAt := some now
    syncStatus := .pending }

@[reducible] def requeuedRow (row : Meeting) : Meeting :=
  { row with syncStatus := .pending, syncError := none }

/-- The version the organizer was looking at, of a meeting that is on. -/
def Reschedulable (id expectedVersion : Nat) (row : Meeting) : Prop :=
  row.id = id ∧ row.version = expectedVersion ∧ row.status = .scheduled ∧ row.deletedAt = none

instance (id expectedVersion : Nat) : DecidablePred (Reschedulable id expectedVersion) :=
  fun _ => inferInstanceAs (Decidable (_ ∧ _ ∧ _ ∧ _))

def Cancellable (id : Nat) (row : Meeting) : Prop :=
  row.id = id ∧ row.status = .scheduled ∧ row.deletedAt = none

instance (id : Nat) : DecidablePred (Cancellable id) :=
  fun _ => inferInstanceAs (Decidable (_ ∧ _ ∧ _))

def Retriable (id : Nat) (row : Meeting) : Prop := row.id = id ∧ row.deletedAt = none

instance (id : Nat) : DecidablePred (Retriable id) :=
  fun _ => inferInstanceAs (Decidable (_ ∧ _))

/-- Not synced, from today on; a cancelled one only if a calendar already holds it. -/
def Unsynced (today : Nat) (row : Meeting) : Prop :=
  row.deletedAt = none ∧ row.syncStatus ≠ .synced ∧ today ≤ row.meetingDate ∧
    (row.status = .scheduled ∨ row.externalEventId.isSome = true)

instance (today : Nat) : DecidablePred (Unsynced today) :=
  fun _ => inferInstanceAs (Decidable (_ ∧ _ ∧ _ ∧ (_ ∨ _)))

def findMeeting (desk : MeetingDesk) (id : Nat) : Option Meeting :=
  (desk.meetings.find id).filter fun row => row.deletedAt = none

/-- Rewrite the meetings a clause selects, with one sync event for each row it returns. -/
def writeMeetings (desk : MeetingDesk) (hit : Meeting → Prop) [DecidablePred hit]
    (write : Meeting → Meeting) (keeps : ∀ row, Keyed.key (write row) = Keyed.key row)
    (buildSync : Meeting → MeetingSync) : MeetingDesk × List Meeting :=
  let returned := (desk.meetings.select hit).map write
  ({ desk with
      meetings := desk.meetings.update hit write keeps
      outbox := desk.outbox ++ returned.map buildSync },
    returned)

/-- The event a meeting is about is there, if it is about one. -/
def KnownEvent (desk : MeetingDesk) (eventId : Option Nat) : Prop :=
  ∀ id ∈ eventId, (desk.events.find id).isSome = true

instance (desk : MeetingDesk) (eventId : Option Nat) : Decidable (KnownEvent desk eventId) :=
  inferInstanceAs (Decidable (∀ _ ∈ eventId, _))

def byIdempotencyKey (desk : MeetingDesk) (idempotencyKey : String) : Option Meeting :=
  (desk.meetings.select fun row => row.idempotencyKey = idempotencyKey).head?

/-! ## The service -/

/-- A retry recreates the invite when the calendar never got one at all. -/
def intentFor (row : Meeting) : MeetingSyncIntent :=
  if row.externalEventId.any fun id => id ≠ "" then .update else .create

def syncEvent (row : Meeting) (intent : MeetingSyncIntent) (needsLink : Bool) (now : Instant) :
    MeetingSync where
  meetingId := row.id
  intent := intent
  title := row.title
  startsAt := startsAt row.meetingDate row.startTime
  endsAt := startsAt row.meetingDate row.endTime
  guestEmail := row.guestEmail
  person := row.person
  mode := row.mode
  needsLink := needsLink
  location := row.location
  notes := row.notes
  externalEventId := row.externalEventId
  cancellationReason := row.cancellationReason
  occurredAt := now

/-- The event's venue, and no event of another workspace. -/
def venueFor (desk : MeetingDesk) : Option Nat → Except DomainException (Option String)
  | none => .ok none
  | some eventId =>
    match (desk.events.find eventId).filter fun event => event.deletedAt = none with
    | some event => .ok event.venueName
    | none => .error NO_SUCH_EVENT

inductive MeetingRequest where
  | schedule (userId : Nat) (command : ScheduleMeetingCommand)
  | reschedule (id : Nat) (command : RescheduleMeetingCommand)
  | cancel (id : Nat) (reason : Option String)
  | retrySync (id : Nat)
  | resyncUnsynced
  deriving DecidableEq, Repr

inductive MeetingReply where
  | scheduled (meeting : Meeting) (created : Bool)
  | meeting (row : Meeting)
  | resynced (count : Nat)
  | thrown (exception : DomainException)
  | crashed
  deriving DecidableEq, Repr

/-- What a request does next, with what it read and the moment it began. -/
inductive MeetingPhase where
  | first (request : MeetingRequest)
  | insert (input : NewMeeting) (needsLink : Bool) (now : Instant)
  | locate (id version : Nat) (merged : ScheduleMeetingCommand) (now : Instant)
  | move (id version : Nat) (patch : MeetingPatch) (needsLink : Bool) (now : Instant)
  | retry (meeting : Meeting) (now : Instant)
  | done (reply : MeetingReply)
  deriving DecidableEq, Repr

def afterReschedule (current : Meeting) (command : RescheduleMeetingCommand) (now : Instant) :
    MeetingPhase :=
  if current.status = .cancelled then .done (.thrown ALREADY_CANCELLED)
  else
    let merged := mergeMeeting current command
    match assertSchedulable merged.title merged.date merged.startTime merged.endTime now with
    | .error exception => .done (.thrown exception)
    | .ok () => .locate current.id command.version merged now

/-- The checks of a booking, and its event's venue. -/
def beforeInsert (desk : MeetingDesk) (userId : Nat) (command : ScheduleMeetingCommand)
    (randomUUID : String) : MeetingPhase :=
  match assertSchedulable command.title command.date command.startTime command.endTime
      desk.clock with
  | .error exception => .done (.thrown exception)
  | .ok () =>
    match venueFor desk command.eventId with
    | .error exception => .done (.thrown exception)
    | .ok venue =>
      let place := placeOf command.mode venue
      .insert (newMeeting userId command place randomUUID) place.needsLink desk.clock

/-- The second attempt of one key inserts nothing and asks the calendar for nothing. -/
def insertMeeting (desk : MeetingDesk) (input : NewMeeting) (needsLink : Bool) (now : Instant) :
    MeetingDesk × MeetingPhase :=
  match byIdempotencyKey desk input.idempotencyKey with
  | some existing => (desk, .done (.scheduled existing false))
  | none =>
    if KnownEvent desk input.eventId then
      let inserted := insertedMeeting input desk.meetings.next
      ({ desk with
          meetings := desk.meetings.insert (insertedMeeting input)
          outbox := desk.outbox ++ [syncEvent inserted .create needsLink now] },
        .done (.scheduled inserted true))
    else (desk, .done .crashed)

/-- The reply of a write that returns its row, or finds none. -/
def written (missing : DomainException) (saved : MeetingDesk × List Meeting) :
    MeetingDesk × MeetingPhase :=
  (saved.1, .done (match saved.2.head? with
    | some row => .meeting row
    | none => .thrown missing))

def cancelMeeting (desk : MeetingDesk) (id : Nat) (reason : Option String) :
    MeetingDesk × MeetingPhase :=
  written ALREADY_CANCELLED
    (writeMeetings desk (Cancellable id) (cancelledRow reason desk.clock) (fun _ => rfl)
      fun row => syncEvent row .cancel false desk.clock)

/-- The intent is read off the row. -/
def resyncUnsynced (desk : MeetingDesk) : MeetingDesk × MeetingPhase :=
  let saved := writeMeetings desk (Unsynced (bangkokToday desk.clock)) requeuedRow (fun _ => rfl)
    fun row =>
      if row.status = .cancelled then syncEvent row .cancel false desk.clock
      else syncEvent row (intentFor row) (row.mode = .video) desk.clock
  (saved.1, .done (.resynced saved.2.length))

def rescheduleMeeting (desk : MeetingDesk) (id version : Nat) (patch : MeetingPatch)
    (needsLink : Bool) (now : Instant) : MeetingDesk × MeetingPhase :=
  if KnownEvent desk patch.eventId ∨ desk.meetings.select (Reschedulable id version) = [] then
    written CHANGED_UNDERNEATH
      (writeMeetings desk (Reschedulable id version) (rescheduledRow version patch) (fun _ => rfl)
        fun row => syncEvent row .update needsLink now)
  else (desk, .done .crashed)

/-- The intent of a cancelled meeting is read off the meeting as it was found. -/
def retrySync (desk : MeetingDesk) (meeting : Meeting) (now : Instant) :
    MeetingDesk × MeetingPhase :=
  written MEETING_GONE
    (writeMeetings desk (Retriable meeting.id) requeuedRow (fun _ => rfl) fun row =>
      syncEvent row (if meeting.status = .cancelled then .cancel else intentFor row)
        (row.mode = .video) now)

/-- One read, or one committed transaction. -/
def actOnMeetings (desk : MeetingDesk) (randomUUID : String) :
    MeetingPhase → MeetingDesk × MeetingPhase
  | .first (.schedule userId command) => (desk, beforeInsert desk userId command randomUUID)
  | .first (.reschedule id command) =>
    (desk, match findMeeting desk id with
      | some current => afterReschedule current command desk.clock
      | none => .done (.thrown MEETING_GONE))
  | .first (.cancel id reason) => cancelMeeting desk id reason
  | .first (.retrySync id) =>
    (desk, match findMeeting desk id with
      | some meeting => .retry meeting desk.clock
      | none => .done (.thrown MEETING_GONE))
  | .first .resyncUnsynced => resyncUnsynced desk
  | .insert input needsLink now => insertMeeting desk input needsLink now
  | .locate id version merged now =>
    (desk, match venueFor desk merged.eventId with
      | .ok venue =>
        let place := placeOf merged.mode venue
        .move id version (meetingPatch merged place) place.needsLink now
      | .error exception => .done (.thrown exception))
  | .move id version patch needsLink now => rescheduleMeeting desk id version patch needsLink now
  | .retry meeting now => retrySync desk meeting now
  | .done reply => (desk, .done reply)

/-! ## The rest of the world -/

@[reducible] def reportedRow (syncStatus : MeetingSyncStatus)
    (externalEventId link syncError : Option String) (row : Meeting) : Meeting :=
  { row with syncStatus, externalEventId, link, syncError }

@[reducible] def withoutEvent (row : Meeting) : Meeting := { row with eventId := none }

@[reducible] def venueRow (venueName : Option String) (deletedAt : Option Instant)
    (row : MeetingEvent) : MeetingEvent := { row with venueName, deletedAt }

inductive MeetingWorld where
  | tick (now : Instant)
  /-- The worker says what the calendar made of a meeting. -/
  | reported (id : Nat) (syncStatus : MeetingSyncStatus)
      (externalEventId link syncError : Option String)
  | eventCreated (venueName : Option String)
  | eventChanged (eventId : Nat) (venueName : Option String) (deletedAt : Option Instant)
  /-- An event's row goes, and its meetings become general. -/
  | eventDeleted (eventId : Nat)
  deriving DecidableEq, Repr

def changeMeetings (desk : MeetingDesk) : MeetingWorld → MeetingDesk
  | .tick now => { desk with clock := max desk.clock now }
  | .reported id syncStatus externalEventId link syncError =>
    { desk with
      meetings := desk.meetings.update (fun row => row.id = id)
        (reportedRow syncStatus externalEventId link syncError) }
  | .eventCreated venueName =>
    { desk with events := desk.events.insert fun id => { id, venueName, deletedAt := none } }
  | .eventChanged eventId venueName deletedAt =>
    { desk with
      events := desk.events.update (fun row => row.id = eventId) (venueRow venueName deletedAt) }
  | .eventDeleted eventId =>
    { desk with
      events := desk.events.delete fun row => row.id = eventId
      meetings := desk.meetings.update (fun row => row.eventId = some eventId) withoutEvent }

/-- Requests about meetings of one workspace, any number of them at once. -/
def meetingRequests : Handler MeetingDesk MeetingPhase MeetingRequest String MeetingWorld where
  opened := .first
  act := actOnMeetings
  outside := changeMeetings
  crashed := .done .crashed

end EventaApi.Source
