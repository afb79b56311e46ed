import EventaApi.Source.AttendeeContact
import EventaApi.Source.Events

/-!
# Inviting someone to an event

`InvitationsService` and its repository. An invite is recorded and mailed in one transaction, and a
repeat within a day of the last mail is suppressed by the condition of the upsert. The clock is
read before the transaction, and calls may overtake each other between the two.
-/
namespace EventaApi.Source
open Library

def INVITE_DEDUPE_WINDOW_MS : Nat := 24 * 60 * 60 * 1000
def INVITE_SENT_VERSION : Nat := 1

structure InvitedEvent where
  id : Nat
  organizationId : Nat
  name : String
  slug : String
  deletedAt : Option Instant := none
  deriving DecidableEq, Repr

instance : Keyed InvitedEvent := ⟨InvitedEvent.id⟩

structure EventInvitation where
  id : Nat
  organizationId : Nat
  eventId : Nat
  recipientName : String
  recipientEmail : String
  message : Option String
  invitedBy : Option Nat
  sentAt : Instant
  deriving DecidableEq, Repr

instance : Keyed EventInvitation := ⟨EventInvitation.id⟩

/-- The mail that is queued, with its link into the event's registration. -/
structure InviteSent where
  version : Nat := INVITE_SENT_VERSION
  organizationId : Nat
  invitationId : String
  eventId : Nat
  eventName : String
  recipientName : String
  recipientEmail : String
  message : Option String
  registerUrl : String
  sentAt : Instant
  deriving DecidableEq, Repr

structure InvitationDesk where
  events : Table InvitedEvent
  invitations : Table EventInvitation
  outbox : List InviteSent
  granted : (organizationId userId : Nat) → List PermissionKey
  clock : Instant

/-! ## The repository -/

structure RecordInviteInput where
  organizationId : Nat
  eventId : Nat
  recipientName : String
  recipientEmail : String
  message : Option String
  invitedBy : Nat
  now : Instant
  deriving DecidableEq, Repr

/-- Anything sent before this is stale enough to send again. -/
def RecordInviteInput.resendCutoff (input : RecordInviteInput) : Int :=
  input.now - INVITE_DEDUPE_WINDOW_MS

/-- `uq_event_invitations_recipient`: addresses are citext. -/
def IsSameRecipient (organizationId eventId : Nat) (recipientEmail : String)
    (row : EventInvitation) : Prop :=
  row.organizationId = organizationId ∧ row.eventId = eventId ∧
    citext row.recipientEmail = citext recipientEmail

instance (organizationId eventId : Nat) (recipientEmail : String) :
    DecidablePred (IsSameRecipient organizationId eventId recipientEmail) :=
  fun _ => inferInstanceAs (Decidable (_ ∧ _ ∧ _))

@[reducible] def resent (input : RecordInviteInput) (row : EventInvitation) : EventInvitation :=
  { row with
    sentAt := input.now
    recipientName := input.recipientName
    message := input.message }

/-- The upsert, and its row's `sent_at` where it wrote one. -/
def upsertInvitation (invitations : Table EventInvitation) (input : RecordInviteInput) :
    Table EventInvitation × Option Instant :=
  let same := IsSameRecipient input.organizationId input.eventId input.recipientEmail
  match invitations.select same with
  | [] =>
    (invitations.insert fun id =>
      { id
        organizationId := input.organizationId
        eventId := input.eventId
        recipientName := input.recipientName
        recipientEmail := input.recipientEmail
        message := input.message
        invitedBy := some input.invitedBy
        sentAt := input.now }, some input.now)
  | row :: _ =>
    if row.sentAt < input.resendCutoff then
      (invitations.update (fun other => other.id = row.id) (resent input), some input.now)
    else (invitations, none)

/-- The invite's record and its mail, together or not at all. -/
def recordInvite (desk : InvitationDesk) (input : RecordInviteInput)
    (event : Instant → InviteSent) : InvitationDesk × Option Instant :=
  match upsertInvitation desk.invitations input with
  | (_, none) => (desk, none)
  | (invitations, some sentAt) =>
    ({ desk with invitations, outbox := desk.outbox ++ [event sentAt] }, some sentAt)

/-! ## The service -/

structure SendInviteInput where
  eventId : Nat
  recipientName : String
  recipientEmail : String
  message : Option String := none
  deriving DecidableEq, Repr

structure InviteRequest where
  auth : AuthContext
  input : SendInviteInput
  deriving DecidableEq, Repr

/-- What sending turned out to mean. -/
structure InviteOutcome where
  /-- Not where one went out within the window. -/
  sent : Bool
  recipientEmail : String
  sentAt : Instant
  deriving DecidableEq, Repr

inductive InviteReply where
  | invited (outcome : InviteOutcome)
  | thrown (exception : DomainException)
  | crashed
  deriving DecidableEq, Repr

/-- The step a call is at. -/
inductive InvitePhase where
  | begin (request : InviteRequest)
  | getEvent (request : InviteRequest)
  | record (request : InviteRequest) (event : InvitedEvent) (input : RecordInviteInput)
  | done (request : Option RecordInviteInput) (reply : InviteReply)
  deriving DecidableEq, Repr

section Service

-- The address in lower case, and where the public site is.
variable (toLowerCase : String → String) (publicWebUrl : String)

/-- What is recorded: the texts trimmed, an empty message none at all. -/
def recordInviteInput (request : InviteRequest) (now : Instant) : RecordInviteInput where
  organizationId := request.auth.organizationId
  eventId := request.input.eventId
  recipientName := trimmed request.input.recipientName
  recipientEmail := toLowerCase (trimmed request.input.recipientEmail)
  message := (request.input.message.map trimmed).filter (· ≠ "")
  invitedBy := request.auth.userId
  now

def inviteSentEvent (event : InvitedEvent) (input : RecordInviteInput) (sentAt : Instant) :
    InviteSent where
  organizationId := input.organizationId
  invitationId := toString input.eventId ++ ":" ++ input.recipientEmail
  eventId := input.eventId
  eventName := event.name
  recipientName := input.recipientName
  recipientEmail := input.recipientEmail
  message := input.message
  registerUrl := publicWebUrl ++ "/e/" ++ event.slug
  sentAt

/-- One step of a call. The event is the caller's own, or nothing is written. -/
def actOnInvites (desk : InvitationDesk) (_ : Unit) : InvitePhase → InvitationDesk × InvitePhase
  | .begin request =>
    if (desk.granted request.auth.organizationId request.auth.userId).contains .regManage then
      (desk, .getEvent request)
    else (desk, .done none (.thrown (missingPermission .regManage)))
  | .getEvent request =>
    match (desk.events.find request.input.eventId).filter fun event =>
      event.organizationId = request.auth.organizationId ∧ event.deletedAt = none with
    | some event =>
      (desk, .record request event (recordInviteInput toLowerCase request desk.clock))
    | none => (desk, .done none (.thrown (noEvent request.input.eventId)))
  | .record _ event input =>
    match recordInvite desk input (inviteSentEvent publicWebUrl event input) with
    | (recorded, some sentAt) =>
      (recorded, .done (some input) (.invited ⟨true, input.recipientEmail, sentAt⟩))
    | (recorded, none) =>
      (recorded, .done (some input) (.invited ⟨false, input.recipientEmail, input.now⟩))
  | .done request reply => (desk, .done request reply)

end Service

/-- What the other modules do meanwhile. -/
inductive InvitationWorld where
  | writes (events : Table InvitedEvent)
  | grants (granted : (organizationId userId : Nat) → List PermissionKey)
  | tick (elapsed : Nat)

def InvitationDesk.outside (desk : InvitationDesk) : InvitationWorld → InvitationDesk
  | .writes events => { desk with events }
  | .grants granted => { desk with granted }
  | .tick elapsed => { desk with clock := desk.clock + elapsed }

def inviteRequests (toLowerCase : String → String) (publicWebUrl : String) :
    Handler InvitationDesk InvitePhase InviteRequest Unit InvitationWorld where
  opened := .begin
  act := actOnInvites toLowerCase publicWebUrl
  outside := InvitationDesk.outside
  crashed := .done none .crashed

end EventaApi.Source
