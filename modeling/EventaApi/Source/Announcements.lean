import EventaApi.Source.Access
import EventaApi.Source.CalendarConnection
import EventaApi.Source.CalendarFile
import EventaApi.Source.Events

/-!
# Announcements

`AttendeeBroadcastService`, `AnnouncementsService` and its repository. A broadcast is sent at once,
with its entry in the outbox, or scheduled and sent by the worker's sweep, which in one transaction
marks it sent and writes the same entry. Until then it may be cancelled or moved. Every read and
every transaction of a call is a step of its own.
-/
namespace EventaApi.Source
open Library

inductive AnnouncementStatus where
  | scheduled | sent | cancelled
  deriving DecidableEq, Repr

structure Announcement where
  id : Nat
  organizationId : Nat
  eventId : Nat
  subject : String
  body : String
  /-- Nobody has counted the audience of one that has not gone. -/
  recipientCount : Option Nat := none
  sentByUserId : Option Nat
  status : AnnouncementStatus := .sent
  scheduledFor : Option Instant := none
  sentAt : Option Instant := none
  cancelledAt : Option Instant := none
  /-- Nobody, where the worker dropped it. -/
  cancelledByUserId : Option Nat := none
  updatedAt : Instant
  deriving DecidableEq, Repr

instance : Keyed Announcement := ⟨Announcement.id⟩

/-- `ck_announcements_state` -/
def Announcement.CheckState (row : Announcement) : Prop :=
  (row.status = .sent ∧ row.sentAt.isSome ∧ row.recipientCount.isSome) ∨
  (row.status = .scheduled ∧ row.scheduledFor.isSome ∧ row.sentAt = none) ∨
  (row.status = .cancelled ∧ row.cancelledAt.isSome ∧ row.sentAt = none)

instance : DecidablePred Announcement.CheckState :=
  fun _ => inferInstanceAs (Decidable (_ ∨ _ ∨ _))

/-- The payload of the outbox entry that makes the worker write to an event's attendees. -/
structure AttendeesEmail where
  organizationId : Nat
  eventId : Nat
  subject : String
  message : String
  requestedByUserId : Option Nat
  recipientCount : Nat
  occurredAt : Instant
  deriving DecidableEq, Repr

/-- An entry of the outbox, and the announcement whose row was written with it. -/
structure QueuedSend where
  announcementId : Nat
  email : AttendeesEmail
  deriving DecidableEq, Repr

/-- A send time that was accepted: when it was checked, and what for. -/
structure AcceptedTime where
  announcementId : Nat
  checkedAt : Instant
  sendAt : Instant
  deriving DecidableEq, Repr

structure AnnouncementDesk where
  announcements : Table Announcement
  events : (organizationId : Nat) → Table Event
  outbox : List QueuedSend
  /-- The send times that were written, the latest first. -/
  accepted : List AcceptedTime
  granted : (organizationId userId : Nat) → List PermissionKey
  clock : Instant

/-! ## Send times -/

def MIN_SCHEDULE_LEAD_MS : Nat := 5 * 60000
def MAX_SCHEDULE_AHEAD_MS : Nat := 365 * DAY_MS

def TOO_SOON : String :=
  "Pick a send time at least 5 minutes from now, so there is still time to change it."
def TOO_FAR : String :=
  "Pick a send time within the next year — anything later is probably a typo."
def ALREADY_SENT : String :=
  "This announcement has already started sending and can no longer be changed."
def ANNOUNCEMENT_ALREADY_CANCELLED : String :=
  "This announcement was cancelled and can no longer be changed."
def CHANGED_MEANWHILE : String :=
  "This announcement changed while you were looking at it. Reload to see where it stands."
def ANNOUNCEMENT_NOT_FOUND : DomainException := .notFound "Announcement not found."

/-- What a send time is refused for, on the field it names. -/
def Announcement.assertSchedulable (sendAt now : Instant) : Option String :=
  let lead : Int := sendAt - now
  if lead < MIN_SCHEDULE_LEAD_MS then some TOO_SOON
  else if lead > MAX_SCHEDULE_AHEAD_MS then some TOO_FAR
  else none

def whyUnchangeable : AnnouncementStatus → String
  | .sent => ALREADY_SENT
  | .cancelled => ANNOUNCEMENT_ALREADY_CANCELLED
  | .scheduled => CHANGED_MEANWHILE

def unchangeableBecause (status : AnnouncementStatus) : DomainException :=
  .conflict (whyUnchangeable status)

/-! ## The repository -/

/-- What an organizer is broadcasting. -/
structure Broadcast where
  organizationId : Nat
  eventId : Nat
  subject : String
  body : String
  sentByUserId : Nat
  deriving DecidableEq, Repr

def attendeesEmailRequestedEvent (broadcast : Broadcast) (recipientCount : Nat)
    (occurredAt : Instant) : AttendeesEmail where
  organizationId := broadcast.organizationId
  eventId := broadcast.eventId
  subject := broadcast.subject
  message := broadcast.body
  requestedByUserId := some broadcast.sentByUserId
  recipientCount
  occurredAt

/-- The row and its entry in the outbox, together. -/
def recordAnnouncement (desk : AnnouncementDesk) (broadcast : Broadcast) (recipientCount : Nat)
    (sentAt : Instant) : AnnouncementDesk :=
  { desk with
    announcements := desk.announcements.insert fun id =>
      { id
        organizationId := broadcast.organizationId
        eventId := broadcast.eventId
        subject := broadcast.subject
        body := broadcast.body
        recipientCount := some recipientCount
        sentByUserId := some broadcast.sentByUserId
        sentAt := some sentAt
        updatedAt := desk.clock }
    outbox := desk.outbox ++
      [⟨desk.announcements.next, attendeesEmailRequestedEvent broadcast recipientCount sentAt⟩] }

/-- The row alone. -/
def recordScheduled (desk : AnnouncementDesk) (broadcast : Broadcast)
    (checkedAt scheduledFor : Instant) : AnnouncementDesk :=
  { desk with
    announcements := desk.announcements.insert fun id =>
      { id
        organizationId := broadcast.organizationId
        eventId := broadcast.eventId
        subject := broadcast.subject
        body := broadcast.body
        sentByUserId := some broadcast.sentByUserId
        status := .scheduled
        scheduledFor := some scheduledFor
        updatedAt := desk.clock }
    accepted := ⟨desk.announcements.next, checkedAt, scheduledFor⟩ :: desk.accepted }

/-- The condition of the update: the caller's, and not gone yet. -/
def StillScheduled (organizationId id : Nat) (row : Announcement) : Prop :=
  row.id = id ∧ row.organizationId = organizationId ∧ row.status = .scheduled

instance (organizationId id : Nat) : DecidablePred (StillScheduled organizationId id) :=
  fun _ => inferInstanceAs (Decidable (_ ∧ _ ∧ _))

@[reducible] def cancelledBy (userId : Nat) (now : Instant) (row : Announcement) : Announcement :=
  { row with
    status := .cancelled
    cancelledAt := some now
    cancelledByUserId := some userId
    updatedAt := now }

@[reducible] def movedTo (sendAt now : Instant) (row : Announcement) : Announcement :=
  { row with scheduledFor := some sendAt, updatedAt := now }

/-- An announcement as the history shows it, with the event it went to named. -/
structure AnnouncementListRow where
  id : String
  eventId : Nat
  eventName : Option String
  subject : String
  body : String
  status : AnnouncementStatus
  scheduledFor : Option Instant
  sentAt : Option Instant
  cancelledAt : Option Instant
  recipientCount : Option Nat
  deriving DecidableEq, Repr

/-- The event may be gone: the announcement outlives it. -/
def toListRow (desk : AnnouncementDesk) (row : Announcement) : AnnouncementListRow where
  id := toString row.id
  eventId := row.eventId
  eventName := ((desk.events row.organizationId).find row.eventId).map Event.name
  subject := row.subject
  body := row.body
  status := row.status
  scheduledFor := row.scheduledFor
  sentAt := row.sentAt
  cancelledAt := row.cancelledAt
  recipientCount := row.recipientCount

/-- Nothing if it is not the caller's. -/
def findAnnouncement (desk : AnnouncementDesk) (organizationId id : Nat) :
    Option AnnouncementListRow :=
  ((desk.announcements.find id).filter fun row => row.organizationId = organizationId).map
    (toListRow desk)

/-! ## Calls -/

/-- The sent part of a request to email all attendees. -/
structure EmailAttendeesDto where
  subject : String
  message : String
  sendAt : Option Instant := none
  deriving DecidableEq, Repr

inductive AnnouncementRequest where
  | emailAll (auth : AuthContext) (eventId : Nat) (input : EmailAttendeesDto)
  | cancel (auth : AuthContext) (id : Nat)
  | reschedule (auth : AuthContext) (id : Nat) (sendAt : Instant)
  deriving DecidableEq, Repr

inductive AnnouncementReply where
  | broadcast (eventId recipients : Nat) (queued : Bool) (scheduledFor : Option Instant)
  | entry (shown : AnnouncementListRow)
  | thrown (exception : DomainException)
  | invalidField (field message : String)
  | crashed
  deriving DecidableEq, Repr

/-- The step a call is at. -/
inductive AnnouncementPhase where
  | begin (request : AnnouncementRequest)
  | getEvent (auth : AuthContext) (eventId : Nat) (input : EmailAttendeesDto)
  | attendeeCount (broadcast : Broadcast) (sendAt : Option Instant)
  | record (broadcast : Broadcast) (recipientCount : Nat) (sentAt : Instant)
  | recordScheduled (broadcast : Broadcast) (recipients : Nat) (checkedAt sendAt : Instant)
  | cancel (auth : AuthContext) (id : Nat) (now : Instant)
  | reschedule (auth : AuthContext) (id : Nat) (sendAt now : Instant)
  | refuseChange (auth : AuthContext) (id : Nat)
  | done (request : Option (Nat × Nat)) (reply : AnnouncementReply)
  deriving DecidableEq, Repr

/-- What a route asks of its caller. -/
def AnnouncementRequest.permission : AnnouncementRequest → PermissionKey
  | .emailAll _ _ _ => .regView
  | .cancel _ _ | .reschedule _ _ _ => .regManage

def AnnouncementRequest.auth : AnnouncementRequest → AuthContext
  | .emailAll auth _ _ | .cancel auth _ | .reschedule auth _ _ => auth

/-- A call that is past its guard. -/
def AnnouncementRequest.start (now : Instant) : AnnouncementRequest → AnnouncementPhase
  | .emailAll auth eventId input => .getEvent auth eventId input
  | .cancel auth id => .cancel auth id now
  | .reschedule auth id sendAt =>
    match Announcement.assertSchedulable sendAt now with
    | some message => .done none (.invalidField "sendAt" message)
    | none => .reschedule auth id sendAt now

/-- What is counted: the record is written at once, or the send time checked first. -/
def afterCount (broadcast : Broadcast) (recipients : Nat) (now : Instant) :
    Option Instant → AnnouncementPhase
  | none => .record broadcast recipients now
  | some sendAt =>
    match Announcement.assertSchedulable sendAt now with
    | some message => .done none (.invalidField "sendAt" message)
    | none => .recordScheduled broadcast recipients now sendAt

/-- Change one that has not gone, if it is the caller's; the reply shows it as it is then. -/
def changeScheduled (desk : AnnouncementDesk) (auth : AuthContext) (id : Nat)
    (change : Announcement → Announcement)
    (keeps : ∀ row, Keyed.key (change row) = Keyed.key row) (accepts : List AcceptedTime) :
    AnnouncementDesk × AnnouncementPhase :=
  if desk.announcements.select (StillScheduled auth.organizationId id) = [] then
    (desk, .refuseChange auth id)
  else
    let changed : AnnouncementDesk := { desk with
      announcements := desk.announcements.update (StillScheduled auth.organizationId id) change keeps
      accepted := accepts ++ desk.accepted }
    match findAnnouncement changed auth.organizationId id with
    | some shown => (changed, .done (some (auth.organizationId, id)) (.entry shown))
    | none => (changed, .refuseChange auth id)

/-- One step of a call; the answer is how many attendees the event has. -/
def actOnAnnouncements (desk : AnnouncementDesk) (attendees : Nat) :
    AnnouncementPhase → AnnouncementDesk × AnnouncementPhase
  | .begin request =>
    let auth := request.auth
    if (desk.granted auth.organizationId auth.userId).contains request.permission then
      (desk, request.start desk.clock)
    else (desk, .done none (.thrown (missingPermission request.permission)))
  | .getEvent auth eventId input =>
    match ((desk.events auth.organizationId).find eventId).filter fun event =>
      event.deletedAt = none with
    | some event =>
      (desk, .attendeeCount
        { organizationId := auth.organizationId, eventId := event.id, subject := input.subject,
          body := input.message, sentByUserId := auth.userId } input.sendAt)
    | none => (desk, .done none (.thrown (noEvent eventId)))
  | .attendeeCount broadcast sendAt => (desk, afterCount broadcast attendees desk.clock sendAt)
  | .record broadcast recipients sentAt =>
    (recordAnnouncement desk broadcast recipients sentAt,
      .done (some (broadcast.organizationId, desk.announcements.next))
        (.broadcast broadcast.eventId recipients true none))
  | .recordScheduled broadcast recipients checkedAt sendAt =>
    (recordScheduled desk broadcast checkedAt sendAt,
      .done (some (broadcast.organizationId, desk.announcements.next))
        (.broadcast broadcast.eventId recipients false (some sendAt)))
  | .cancel auth id now =>
    changeScheduled desk auth id (cancelledBy auth.userId now) (fun _ => rfl) []
  | .reschedule auth id sendAt now =>
    changeScheduled desk auth id (movedTo sendAt now) (fun _ => rfl) [⟨id, now, sendAt⟩]
  | .refuseChange auth id =>
    match findAnnouncement desk auth.organizationId id with
    | some current =>
      (desk, .done (some (auth.organizationId, id)) (.thrown (unchangeableBecause current.status)))
    | none => (desk, .done none (.thrown ANNOUNCEMENT_NOT_FOUND))
  | .done request reply => (desk, .done request reply)

/-! ## What happens meanwhile -/

inductive AnnouncementWorld where
  /-- The worker's sweep looks at one announcement, and counts its audience. -/
  | sweep (id recipientCount : Nat)
  | writes (events : (organizationId : Nat) → Table Event)
  | grants (granted : (organizationId userId : Nat) → List PermissionKey)
  | tick (elapsed : Nat)

/-- Scheduled, and its time has come. -/
def IsDue (desk : AnnouncementDesk) (id : Nat) (row : Announcement) : Prop :=
  row.id = id ∧ row.status = .scheduled ∧ row.scheduledFor.any fun sendAt => sendAt ≤ desk.clock

instance (desk : AnnouncementDesk) (id : Nat) : DecidablePred (IsDue desk id) :=
  fun _ => inferInstanceAs (Decidable (_ ∧ _ ∧ _))

/-- The event is there still. -/
def HasEvent (desk : AnnouncementDesk) (row : Announcement) : Prop :=
  ∃ event ∈ (desk.events row.organizationId).find row.eventId, event.deletedAt = none

instance (desk : AnnouncementDesk) : DecidablePred (HasEvent desk) := fun row =>
  inferInstanceAs (Decidable (∃ event ∈ (desk.events row.organizationId).find row.eventId, _))

@[reducible] def sentBySweep (now : Instant) (recipientCount : Nat) (row : Announcement) : Announcement :=
  { row with
    status := .sent
    sentAt := some now
    recipientCount := some recipientCount
    updatedAt := now }

@[reducible] def droppedBySweep (now : Instant) (row : Announcement) : Announcement :=
  { row with status := .cancelled, cancelledAt := some now, updatedAt := now }

/-- The worker's transaction for one due announcement, with the lock on its row: it is marked sent
and its entry written, or dropped where its event is gone. -/
def sweep (desk : AnnouncementDesk) (id recipientCount : Nat) : AnnouncementDesk :=
  match (desk.announcements.find id).filter fun row => IsDue desk id row with
  | none => desk
  | some row =>
    if HasEvent desk row then
      { desk with
        announcements := desk.announcements.update (fun other => other.id = id)
          (sentBySweep desk.clock recipientCount)
        outbox := desk.outbox ++ [⟨id,
          { organizationId := row.organizationId, eventId := row.eventId, subject := row.subject
            message := row.body, requestedByUserId := row.sentByUserId, recipientCount
            occurredAt := desk.clock }⟩] }
    else
      { desk with
        announcements := desk.announcements.update (fun other => other.id = id)
          (droppedBySweep desk.clock) }

def AnnouncementDesk.outside (desk : AnnouncementDesk) : AnnouncementWorld → AnnouncementDesk
  | .sweep id recipientCount => sweep desk id recipientCount
  | .writes events => { desk with events }
  | .grants granted => { desk with granted }
  | .tick elapsed => { desk with clock := desk.clock + elapsed }

def announcementRequests :
    Handler AnnouncementDesk AnnouncementPhase AnnouncementRequest Nat AnnouncementWorld where
  opened := .begin
  act := actOnAnnouncements
  outside := AnnouncementDesk.outside
  crashed := .done none .crashed

end EventaApi.Source
