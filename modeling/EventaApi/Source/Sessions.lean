import EventaApi.Source.Discounts
import EventaApi.Library.Pool

/-!
# The agenda

`SessionsService` and `SessionsRepository`: adding, changing and removing the sessions of an
event. A request checks its room and its speakers against the agenda it reads, and writes in
a transaction of its own; an update writes to the version it read.
-/
namespace EventaApi.Source
open Library

/-! ## Times -/

/-- A time of day, with or without its seconds. -/
structure TimeOfDay where
  hours : Nat
  minutes : Nat
  seconds : Option Nat
  deriving DecidableEq, Repr

def toSeconds (time : TimeOfDay) : Nat :=
  time.hours * 3600 + time.minutes * 60 + time.seconds.getD 0

/-- A `time` column writes out its seconds. -/
def storedTime (time : TimeOfDay) : TimeOfDay :=
  { time with seconds := some (time.seconds.getD 0) }

def twoDigits (value : Nat) : String := (if value < 10 then "0" else "") ++ toString value

/-- A time an organizer reads. -/
def short : Option TimeOfDay → String
  | some time => twoDigits time.hours ++ ":" ++ twoDigits time.minutes
  | none => ""

/-! ## Rows -/

inductive SessionType where
  | keynote | panel | workshop | talk | pause
  deriving DecidableEq, Repr

inductive SessionColor where
  | blue | green | amber | rose | slate
  deriving DecidableEq, Repr

/-- One colour per session type. -/
def colourForType : SessionType → SessionColor
  | .keynote => .blue
  | .panel => .green
  | .workshop => .amber
  | .talk => .rose
  | .pause => .slate

structure Session where
  id : Nat
  eventId : Nat
  day : Nat
  startTime : TimeOfDay
  endTime : Option TimeOfDay
  title : String
  type : SessionType
  room : Option String
  description : Option String
  sortOrder : Nat
  deletedAt : Option Instant
  version : Nat
  deriving DecidableEq, Repr

instance : Keyed Session := ⟨Session.id⟩

structure Speaker where
  id : Nat
  eventId : Nat
  name : String
  deletedAt : Option Instant
  deriving DecidableEq, Repr

instance : Keyed Speaker := ⟨Speaker.id⟩

structure SessionSpeaker where
  id : Nat
  sessionId : Nat
  speakerId : Nat
  sortOrder : Nat
  deriving DecidableEq, Repr

instance : Keyed SessionSpeaker := ⟨SessionSpeaker.id⟩

/-- When and where a session sits. -/
structure SessionWhen where
  day : Nat
  startTime : TimeOfDay
  endTime : Option TimeOfDay
  room : Option String
  deriving DecidableEq, Repr

def snapshot (row : Session) : SessionWhen := ⟨row.day, row.startTime, row.endTime, row.room⟩

/-- The notice that a session moved. -/
structure SessionChanged where
  eventId : Nat
  sessionId : Nat
  title : String
  previous : SessionWhen
  current : SessionWhen
  occurredAt : Instant
  deriving DecidableEq, Repr

structure SessionDesk where
  events : Table Event
  sessions : Table Session
  speakers : Table Speaker
  sessionSpeakers : Table SessionSpeaker
  outbox : List SessionChanged
  clock : Instant

/-! ## Requests -/

structure CreateSessionInput where
  day : Nat
  startTime : TimeOfDay
  endTime : Option TimeOfDay
  title : String
  type : SessionType
  room : Option String
  description : Option String
  sortOrder : Option Nat
  speakerIds : Option (List Nat)
  confirmSpeakerClash : Bool
  deriving DecidableEq, Repr

/-- What is left out stays; what may be empty may be sent as null. -/
structure UpdateSessionInput where
  day : Option Nat
  startTime : Option TimeOfDay
  endTime : Option (Option TimeOfDay)
  title : Option String
  type : Option SessionType
  room : Option (Option String)
  description : Option (Option String)
  sortOrder : Option Nat
  speakerIds : Option (List Nat)
  confirmSpeakerClash : Bool
  version : Option Nat
  notifyAttendees : Bool
  deriving DecidableEq, Repr

structure NewSessionValues where
  eventId : Nat
  day : Nat
  startTime : TimeOfDay
  endTime : Option TimeOfDay
  title : String
  type : SessionType
  room : Option String
  description : Option String
  sortOrder : Nat
  deriving DecidableEq, Repr

/-- The columns an update sets. -/
structure SessionValues where
  day : Option Nat
  startTime : Option TimeOfDay
  endTime : Option (Option TimeOfDay)
  title : Option String
  type : Option SessionType
  room : Option (Option String)
  description : Option (Option String)
  sortOrder : Option Nat
  deriving DecidableEq, Repr

def buildSessionValues (input : UpdateSessionInput) : SessionValues where
  day := input.day
  startTime := input.startTime
  endTime := input.endTime
  title := input.title.map fun title => String.ofList (trim title)
  type := input.type
  room := input.room
  description := input.description
  sortOrder := input.sortOrder

/-- `{ ...session, ...values }`. -/
@[reducible] def mergedSession (values : SessionValues) (session : Session) : Session :=
  { session with
    day := values.day.getD session.day
    startTime := values.startTime.getD session.startTime
    endTime := values.endTime.getD session.endTime
    title := values.title.getD session.title
    type := values.type.getD session.type
    room := values.room.getD session.room
    description := values.description.getD session.description
    sortOrder := values.sortOrder.getD session.sortOrder }

/-- What a row keeps of the times it is given. -/
@[reducible] def storedSession (row : Session) : Session :=
  { row with startTime := storedTime row.startTime, endTime := row.endTime.map storedTime }

@[reducible] def newSession (values : NewSessionValues) (id : Nat) : Session where
  id := id
  eventId := values.eventId
  day := values.day
  startTime := values.startTime
  endTime := values.endTime
  title := values.title
  type := values.type
  room := values.room
  description := values.description
  sortOrder := values.sortOrder
  deletedAt := none
  version := 1

/-- What a request writes: a new session, or values over one it read. -/
inductive SessionWrite where
  | create (values : NewSessionValues)
  | update (session : Session) (values : SessionValues)
  deriving DecidableEq, Repr

/-- The session as the checks see it; one that is not there yet has no key. -/
def SessionWrite.candidate : SessionWrite → Session
  | .create values => newSession values 0
  | .update session values => mergedSession values session

def SessionWrite.excludeId : SessionWrite → Option Nat
  | .create _ => none
  | .update session _ => some session.id

structure SessionDraft where
  write : SessionWrite
  speakerIds : Option (List Nat)
  confirmSpeakerClash : Bool
  notifyAttendees : Bool
  deriving DecidableEq, Repr

inductive SessionRequest where
  | create (eventId : Nat) (input : CreateSessionInput)
  | update (eventId sessionId : Nat) (input : UpdateSessionInput)
  | delete (eventId sessionId : Nat) (confirm : Bool)
  deriving DecidableEq, Repr

structure SessionSpeakerRef where
  id : Nat
  name : String
  deriving DecidableEq, Repr

inductive SessionReply where
  | session (row : Session) (color : SessionColor) (speakers : List SessionSpeakerRef)
      (warning : Option String)
  | removed
  | thrown (exception : DomainException)
  | crashed
  deriving DecidableEq, Repr

/-- The step a request is at, with the sessions its room check read. -/
inductive SessionPhase where
  | first (request : SessionRequest)
  | speakers (draft : SessionDraft)
  | current (draft : SessionDraft)
  | room (draft : SessionDraft) (speakerIds : List Nat)
  | clashes (draft : SessionDraft) (speakerIds : List Nat) (others : List Session)
  | status (draft : SessionDraft) (others : List Session) (warning : Option String)
  | save (draft : SessionDraft) (others : List Session) (warning : Option String) (notify : Bool)
  | respond (row : Session) (warning : Option String)
  | remove (sessionId : Nat)
  | done (reply : SessionReply)
  deriving DecidableEq, Repr

/-! ## Constants -/

def CONFIRM_REMOVAL : DomainException := .conflict
  "Removing this session will NOT notify attendees who bookmarked it, and cannot be undone. Re-send with confirm=true to proceed."
def SESSION_STALE : DomainException :=
  .conflict "This session changed elsewhere. Reload and try again."
def SESSION_TITLE_REQUIRED : DomainException := .validation "A session needs a title."
def SESSION_END_BEFORE_START : DomainException :=
  .validation "A session end time must be after its start time."
def LIVE_EVENT_STATUSES : List EventStatus := [.upcoming, .live]

def eventNotFound (eventId : Nat) : DomainException :=
  .notFound ("Event " ++ toString eventId ++ " not found.")

def sessionNotFound (sessionId : Nat) : DomainException :=
  .notFound ("Session " ++ toString sessionId ++ " not found for this event.")

/-! ## Reads -/

def getEvent (desk : SessionDesk) (eventId : Nat) : Option Event :=
  (desk.events.find eventId).filter fun event => event.deletedAt = none

def findSession (desk : SessionDesk) (eventId sessionId : Nat) : Option Session :=
  (desk.sessions.find sessionId).filter fun row => row.eventId = eventId ∧ row.deletedAt = none

/-- Which of the ids are live speakers of this event. -/
def validSpeakerIds (desk : SessionDesk) (eventId : Nat) (ids : List Nat) : List Nat :=
  (desk.speakers.select fun row =>
    row.eventId = eventId ∧ row.id ∈ ids ∧ row.deletedAt = none).map Speaker.id

def currentSpeakerIds (desk : SessionDesk) (sessionId : Nat) : List Nat :=
  (desk.sessionSpeakers.select fun link => link.sessionId = sessionId).map
    SessionSpeaker.speakerId

/-- A live session of the event, day and room, other than the one excluded. -/
def InRoom (eventId day : Nat) (room : String) (excludeId : Option Nat) (row : Session) : Prop :=
  row.eventId = eventId ∧ row.day = day ∧ row.room = some room ∧ row.deletedAt = none ∧
    excludeId ≠ some row.id

instance (eventId day : Nat) (room : String) (excludeId : Option Nat) :
    DecidablePred (InRoom eventId day room excludeId) :=
  fun _ => inferInstanceAs (Decidable (_ ∧ _ ∧ _ ∧ _ ∧ _))

def sameRoomSessions (desk : SessionDesk) (eventId day : Nat) (room : String)
    (excludeId : Option Nat) : List Session :=
  desk.sessions.select (InRoom eventId day room excludeId)

structure SpeakerClashCandidate where
  title : String
  startTime : TimeOfDay
  endTime : Option TimeOfDay
  speakerName : String
  deriving DecidableEq, Repr

/-- The live sessions of the day that already feature any of the speakers. -/
def speakerSessions (desk : SessionDesk) (eventId day : Nat) (speakerIds : List Nat)
    (excludeId : Option Nat) : List SpeakerClashCandidate :=
  desk.sessionSpeakers.rows.filterMap fun link => do
    let session ← desk.sessions.find link.sessionId
    let speaker ← desk.speakers.find link.speakerId
    if session.eventId = eventId ∧ session.day = day ∧ link.speakerId ∈ speakerIds ∧
        session.deletedAt = none ∧ excludeId ≠ some session.id then
      some { title := session.title, startTime := session.startTime, endTime := session.endTime
             speakerName := speaker.name }
    else none

/-- The live speakers of a session, in the order they are linked. -/
def speakersFor (desk : SessionDesk) (sessionId : Nat) : List SessionSpeakerRef :=
  let links := (desk.sessionSpeakers.select fun link => link.sessionId = sessionId).insertionSort
    fun left right => left.sortOrder ≤ right.sortOrder
  links.filterMap fun link =>
    ((desk.speakers.find link.speakerId).filter fun row => row.deletedAt = none).map fun row =>
      ⟨row.id, row.name⟩

/-! ## Checks -/

/-- Half-open, so that sessions back to back do not clash. -/
def overlaps (start : TimeOfDay) (ends : Option TimeOfDay) (otherStart : TimeOfDay)
    (otherEnds : Option TimeOfDay) : Bool :=
  match ends, otherEnds with
  | some ends, some otherEnds =>
    toSeconds start < toSeconds otherEnds ∧ toSeconds otherStart < toSeconds ends
  | _, _ => false

def requireTitle (title : String) : Except DomainException String :=
  if trim title = [] then .error SESSION_TITLE_REQUIRED else .ok (String.ofList (trim title))

def assertTimes (startTime : TimeOfDay) (endTime : Option TimeOfDay) :
    Except DomainException Unit :=
  if endTime.any fun ends => toSeconds ends ≤ toSeconds startTime then
    .error SESSION_END_BEFORE_START
  else .ok ()

def roomTaken (room : String) (clash : Session) : DomainException :=
  .conflict (room ++ " is already booked for \"" ++ clash.title ++ "\" from " ++
    short (some clash.startTime) ++ " to " ++ short clash.endTime ++
    ". Choose another room or time.")

/-- What the room check reads: nothing where there is no room or no end to check. -/
def roomCandidates (desk : SessionDesk) (candidate : Session) (excludeId : Option Nat) :
    List Session :=
  match candidate.room, candidate.endTime with
  | some room, some _ =>
    if room = "" then [] else sameRoomSessions desk candidate.eventId candidate.day room excludeId
  | _, _ => []

def roomClash (candidate : Session) (others : List Session) : Option Session :=
  others.find? fun other =>
    overlaps candidate.startTime candidate.endTime other.startTime other.endTime

/-- Refused once, and allowed when it is confirmed. -/
def checkSpeakers (desk : SessionDesk) (candidate : Session) (excludeId : Option Nat)
    (speakerIds : List Nat) (confirmed : Bool) : Except DomainException (Option String) :=
  if speakerIds = [] ∨ candidate.endTime = none then .ok none
  else
    let booked := speakerSessions desk candidate.eventId candidate.day speakerIds excludeId
    let clashes := booked.filter fun other =>
      overlaps candidate.startTime candidate.endTime other.startTime other.endTime
    if clashes = [] then .ok none
    else
      let who := String.intercalate ", " (clashes.map SpeakerClashCandidate.speakerName).eraseDups
      let what := String.intercalate ", " (clashes.map fun clash => "\"" ++ clash.title ++ "\"")
      let note := who ++ " is already speaking in " ++ what ++ " at this time."
      if confirmed then .ok (some note)
      else .error (.conflict (note ++ " Confirm to assign them anyway."))

/-- Every id is a live speaker of the event; without ids the links are left alone. -/
def resolveSpeakers (desk : SessionDesk) (eventId : Nat) :
    Option (List Nat) → Except DomainException (Option (List Nat))
  | none => .ok none
  | some ids =>
    let unique := ids.eraseDups
    let valid := validSpeakerIds desk eventId unique
    let missing := unique.filter fun id => id ∉ valid
    if missing = [] then .ok (some unique)
    else .error (.validation ("These speakers are not on this event: " ++
      String.intercalate ", " (missing.map toString) ++ "."))

def shouldNotify (before after : Session) (eventStatus : EventStatus) (requested : Bool) : Bool :=
  requested && decide (eventStatus ∈ LIVE_EVENT_STATUSES) &&
    decide (snapshot before ≠ snapshot after)

/-! ## Writes -/

/-- The version that was read, of a session that is still there. -/
def AsRead (session row : Session) : Prop :=
  row.id = session.id ∧ row.version = session.version ∧ row.deletedAt = none

instance (session : Session) : DecidablePred (AsRead session) :=
  fun _ => inferInstanceAs (Decidable (_ ∧ _ ∧ _))

@[reducible] def savedSession (session : Session) (values : SessionValues) (row : Session) :
    Session :=
  storedSession { mergedSession values row with version := session.version + 1 }

/-- The row a save stores; none where the version has moved on. -/
def rowToSave (desk : SessionDesk) : SessionWrite → Option Session
  | .create values => some (storedSession (newSession values desk.sessions.next))
  | .update session values =>
    ((desk.sessions.find session.id).filter (AsRead session)).map (savedSession session values)

def storeSession (desk : SessionDesk) : SessionWrite → Table Session
  | .create values => desk.sessions.insert fun id => storedSession (newSession values id)
  | .update session values =>
    desk.sessions.update (AsRead session) (savedSession session values)

/-- The constraints of a session and of its links. -/
def SessionAllowed (desk : SessionDesk) (row : Session) (speakerIds : Option (List Nat)) : Prop :=
  (desk.events.find row.eventId).isSome = true ∧
    (∀ ends ∈ row.endTime, toSeconds row.startTime < toSeconds ends) ∧
    ∀ ids ∈ speakerIds, ∀ id ∈ ids, (desk.speakers.find id).isSome = true

instance (desk : SessionDesk) (row : Session) (speakerIds : Option (List Nat)) :
    Decidable (SessionAllowed desk row speakerIds) :=
  inferInstanceAs (Decidable (_ ∧ (∀ _ ∈ row.endTime, _) ∧ ∀ _ ∈ speakerIds, ∀ _ ∈ _, _))

/-- Replace a session's speaker links, in their order. -/
def writeSpeakers (links : Table SessionSpeaker) (sessionId : Nat) :
    Option (List Nat) → Table SessionSpeaker
  | none => links
  | some speakerIds =>
    (links.delete fun link => link.sessionId = sessionId).insertEach speakerIds.zipIdx
      fun ranked id => { id, sessionId, speakerId := ranked.1, sortOrder := ranked.2 }

/-- The notice says where the session was as well as where it is. -/
def changeNotice (before row : Session) (now : Instant) : SessionChanged where
  eventId := row.eventId
  sessionId := row.id
  title := row.title
  previous := snapshot before
  current := snapshot row
  occurredAt := now

def noticesOf (write : SessionWrite) (row : Session) (notify : Bool) (now : Instant) :
    List SessionChanged :=
  match write with
  | .create _ => []
  | .update session _ => if notify then [changeNotice session row now] else []

def saveSession (desk : SessionDesk) (draft : SessionDraft) (warning : Option String)
    (notify : Bool) : SessionDesk × SessionPhase :=
  match rowToSave desk draft.write with
  | none => (desk, .done (.thrown SESSION_STALE))
  | some row =>
    if SessionAllowed desk row draft.speakerIds then
      ({ desk with
          sessions := storeSession desk draft.write
          sessionSpeakers := writeSpeakers desk.sessionSpeakers row.id draft.speakerIds
          outbox := desk.outbox ++ noticesOf draft.write row notify desk.clock },
        .respond row warning)
    else (desk, .done .crashed)

@[reducible] def removedSession (now : Instant) (row : Session) : Session :=
  { row with deletedAt := some now }

/-! ## The service -/

def beforeCreate (desk : SessionDesk) (eventId : Nat) (input : CreateSessionInput) : SessionPhase :=
  match getEvent desk eventId with
  | none => .done (.thrown (eventNotFound eventId))
  | some _ =>
    match requireTitle input.title, assertTimes input.startTime input.endTime with
    | .error exception, _ | _, .error exception => .done (.thrown exception)
    | .ok title, .ok () =>
      let values : NewSessionValues :=
        { eventId, title, day := input.day, startTime := input.startTime, endTime := input.endTime
          type := input.type, room := input.room, description := input.description
          sortOrder := input.sortOrder.getD 0 }
      .speakers { write := .create values, speakerIds := input.speakerIds
                  confirmSpeakerClash := input.confirmSpeakerClash, notifyAttendees := false }

def beforeUpdate (desk : SessionDesk) (eventId sessionId : Nat) (input : UpdateSessionInput) :
    SessionPhase :=
  match findSession desk eventId sessionId with
  | none => .done (.thrown (sessionNotFound sessionId))
  | some session =>
    if input.version.any fun version => version ≠ session.version then
      .done (.thrown SESSION_STALE)
    else if input.title.any fun title => trim title = [] then
      .done (.thrown SESSION_TITLE_REQUIRED)
    else
      let values := buildSessionValues input
      let candidate := mergedSession values session
      match assertTimes candidate.startTime candidate.endTime with
      | .error exception => .done (.thrown exception)
      | .ok () =>
        .speakers { write := .update session values, speakerIds := input.speakerIds
                    confirmSpeakerClash := input.confirmSpeakerClash
                    notifyAttendees := input.notifyAttendees }

def beforeDelete (desk : SessionDesk) (eventId sessionId : Nat) (confirm : Bool) : SessionPhase :=
  match findSession desk eventId sessionId with
  | none => .done (.thrown (sessionNotFound sessionId))
  | some session =>
    if confirm then .remove session.id else .done (.thrown CONFIRM_REMOVAL)

/-- A patch that leaves the speakers alone is checked against the ones there are. -/
def afterSpeakers (draft : SessionDraft) : SessionPhase :=
  match draft.write, draft.speakerIds with
  | .update _ _, none => .current draft
  | _, speakerIds => .room draft (speakerIds.getD [])

def afterRoom (draft : SessionDraft) (speakerIds : List Nat) (others : List Session) :
    SessionPhase :=
  let candidate := draft.write.candidate
  match roomClash candidate others with
  | some clash => .done (.thrown (roomTaken (candidate.room.getD "") clash))
  | none => .clashes draft speakerIds others

def afterClashes (draft : SessionDraft) (others : List Session) (warning : Option String) :
    SessionPhase :=
  match draft.write with
  | .create _ => .save draft others warning false
  | .update _ _ => .status draft others warning

def afterStatus (draft : SessionDraft) (others : List Session) (warning : Option String)
    (status : EventStatus) : SessionPhase :=
  match draft.write with
  | .create _ => .save draft others warning false
  | .update session values =>
    .save draft others warning
      (shouldNotify session (mergedSession values session) status draft.notifyAttendees)

/-- One read, or one committed transaction. -/
def actOnSessions (desk : SessionDesk) : SessionPhase → SessionDesk × SessionPhase
  | .first (.create eventId input) => (desk, beforeCreate desk eventId input)
  | .first (.update eventId sessionId input) => (desk, beforeUpdate desk eventId sessionId input)
  | .first (.delete eventId sessionId confirm) =>
    (desk, beforeDelete desk eventId sessionId confirm)
  | .speakers draft =>
    (desk, match resolveSpeakers desk draft.write.candidate.eventId draft.speakerIds with
      | .error exception => .done (.thrown exception)
      | .ok speakerIds => afterSpeakers { draft with speakerIds })
  | .current draft => (desk, .room draft (currentSpeakerIds desk draft.write.candidate.id))
  | .room draft speakerIds =>
    (desk, afterRoom draft speakerIds
      (roomCandidates desk draft.write.candidate draft.write.excludeId))
  | .clashes draft speakerIds others =>
    (desk, match checkSpeakers desk draft.write.candidate draft.write.excludeId speakerIds
        draft.confirmSpeakerClash with
      | .error exception => .done (.thrown exception)
      | .ok warning => afterClashes draft others warning)
  | .status draft others warning =>
    (desk, match getEvent desk draft.write.candidate.eventId with
      | none => .done (.thrown (eventNotFound draft.write.candidate.eventId))
      | some event => afterStatus draft others warning event.status)
  | .save draft _ warning notify => saveSession desk draft warning notify
  | .respond row warning =>
    (desk, .done (.session row (colourForType row.type) (speakersFor desk row.id) warning))
  | .remove sessionId =>
    ({ desk with
        sessions := desk.sessions.update (fun row => row.id = sessionId)
          (removedSession desk.clock) },
      .done .removed)
  | .done reply => (desk, .done reply)

/-! ## The rest of the console -/

@[reducible] def eventRow (status : EventStatus) (deletedAt : Option Instant) (row : Event) :
    Event := { row with status, deletedAt }

@[reducible] def speakerRow (name : String) (deletedAt : Option Instant) (row : Speaker) :
    Speaker := { row with name, deletedAt }

inductive SessionWorld where
  | tick (now : Instant)
  | eventCreated (event : Event)
  | eventChanged (eventId : Nat) (status : EventStatus) (deletedAt : Option Instant)
  /-- An event's row goes with its sessions, its speakers and their links. -/
  | eventDeleted (eventId : Nat)
  | speakerAdded (eventId : Nat) (name : String)
  | speakerChanged (speakerId : Nat) (name : String) (deletedAt : Option Instant)
  deriving DecidableEq, Repr

def changeProgram (desk : SessionDesk) : SessionWorld → SessionDesk
  | .tick now => { desk with clock := max desk.clock now }
  | .eventCreated event => { desk with events := desk.events.insert fun id => { event with id } }
  | .eventChanged eventId status deletedAt =>
    { desk with
      events := desk.events.update (fun row => row.id = eventId) (eventRow status deletedAt) }
  | .eventDeleted eventId =>
    let sessions := (desk.sessions.select fun row => row.eventId = eventId).map Session.id
    let speakers := (desk.speakers.select fun row => row.eventId = eventId).map Speaker.id
    { desk with
      events := desk.events.delete fun row => row.id = eventId
      sessions := desk.sessions.delete fun row => row.eventId = eventId
      speakers := desk.speakers.delete fun row => row.eventId = eventId
      sessionSpeakers := desk.sessionSpeakers.delete fun link =>
        link.sessionId ∈ sessions ∨ link.speakerId ∈ speakers }
  | .speakerAdded eventId name =>
    { desk with speakers := desk.speakers.insert fun id => { id, eventId, name, deletedAt := none } }
  | .speakerChanged speakerId name deletedAt =>
    { desk with
      speakers := desk.speakers.update (fun row => row.id = speakerId) (speakerRow name deletedAt) }

/-- Requests about the agendas of one workspace, any number of them at once. -/
def sessionRequests : Handler SessionDesk SessionPhase SessionRequest Unit SessionWorld where
  opened := .first
  act := fun desk _ phase => actOnSessions desk phase
  outside := changeProgram
  crashed := .done .crashed

end EventaApi.Source
