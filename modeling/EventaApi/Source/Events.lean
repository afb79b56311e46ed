import EventaApi.Source.Discounts
import EventaApi.Library.Pool

/-!
# The life of an event

`EventsService` and `EventsRepository`: drafting, changing, publishing, taking offline,
cancelling and deleting an event. Each operation loads the event, decides, and writes in a
transaction of its own; every write but the deletion is to the version that was loaded.
-/
namespace EventaApi.Source
open Library

/-! ## Rows -/

inductive EventType where
  | conference | networking | workshop | charity | sports | concert | exhibition | seminar
  deriving DecidableEq, Repr

inductive EventBucket where
  | active | completed
  deriving DecidableEq, Repr

inductive TemplateId where
  | aurora | noir | minimal | atlas
  deriving DecidableEq, Repr

/-- What an update may set. -/
structure EventContent where
  name : String
  description : Option String
  type : EventType
  categoryId : Option Nat
  startAt : Instant
  endAt : Option Instant
  timezone : String
  venueName : Option String
  venueAddress : Option String
  city : Option String
  isOnline : Bool
  onlineNote : Option String
  seatingMode : SeatingMode
  capacity : Option Nat
  waitlistEnabled : Bool
  requiresApproval : Bool
  coverImage : Option String
  accentColor : Option String
  contactEmail : Option String
  landingTemplateId : Option TemplateId
  deriving DecidableEq, Repr

/-- What a new event is given; the rest is its row's own. -/
structure NewEventValues where
  slug : String
  content : EventContent
  status : EventStatus
  bucket : EventBucket
  visibility : Visibility
  organizerName : String
  createdBy : Nat
  deriving DecidableEq, Repr

structure EventRecord extends NewEventValues where
  id : Nat
  publishedAt : Option Instant
  cancelledAt : Option Instant
  deletedAt : Option Instant
  version : Nat
  deriving DecidableEq, Repr

instance : Keyed EventRecord := ⟨EventRecord.id⟩

/-- The event's bucket is derived from its lifecycle status. -/
def bucketForStatus : EventStatus → EventBucket
  | .completed | .cancelled => .completed
  | .draft | .planned | .upcoming | .live => .active

inductive EventNotice where
  | published (eventId : Nat) (slug name : String) (publishedBy : Nat) (occurredAt : Instant)
  | cancelled (eventId : Nat) (slug name reason : String) (cancelledBy : Nat)
      (occurredAt : Instant)
  deriving DecidableEq, Repr

structure EventDesk where
  events : Table EventRecord
  outbox : List EventNotice
  clock : Instant

/-! ## Requests -/

structure CreateEventInput where
  name : String
  type : EventType
  startAt : Instant
  description : Option String
  categoryId : Option Nat
  organizerName : Option String
  deriving DecidableEq, Repr

/-- What is left out stays; what may be empty may be sent as null. -/
structure UpdateEventInput where
  name : Option String
  description : Option (Option String)
  type : Option EventType
  categoryId : Option (Option Nat)
  startAt : Option Instant
  endAt : Option (Option Instant)
  timezone : Option String
  venueName : Option (Option String)
  venueAddress : Option (Option String)
  city : Option (Option String)
  isOnline : Option Bool
  onlineNote : Option (Option String)
  seatingMode : Option SeatingMode
  capacity : Option (Option Nat)
  waitlistEnabled : Option Bool
  requiresApproval : Option Bool
  coverImage : Option (Option String)
  accentColor : Option (Option String)
  contactEmail : Option (Option String)
  landingTemplateId : Option TemplateId
  version : Option Nat
  deriving DecidableEq, Repr

structure PublishEventInput where
  visibility : Option Visibility
  landingTemplateId : Option TemplateId
  confirmPastStart : Bool
  version : Option Nat
  deriving DecidableEq, Repr

inductive EventRequest where
  | create (userId : Nat) (input : CreateEventInput)
  | duplicate (userId eventId : Nat)
  | update (eventId : Nat) (input : UpdateEventInput)
  | publish (userId eventId : Nat) (input : PublishEventInput)
  | unpublish (eventId : Nat) (version : Option Nat)
  | delete (eventId : Nat) (version : Option Nat)
  | cancel (userId eventId : Nat) (reason : String) (version : Option Nat)
  deriving DecidableEq, Repr

structure SeatsReadiness where
  seatsWithoutType : Nat
  ticketTypesWithoutSeats : List String
  deriving DecidableEq, Repr

/-- What the other contexts answer at a step. -/
structure EventAnswers where
  categoryExists : Bool
  organizationName : String
  /-- The event's ticket types, and what they sold. -/
  activeCount : Nat
  soldCount : Nat
  seatsReadiness : SeatsReadiness
  /-- A row that keeps its event refers to it. -/
  referenced : Bool
  deriving DecidableEq, Repr

inductive EventReply where
  | event (row : EventRecord)
  | deleted
  | thrown (exception : DomainException) (details : List String)
  | crashed
  deriving DecidableEq, Repr

/-- What a request does next, with the event it loaded. -/
inductive EventPhase where
  | first (request : EventRequest)
  | slug (userId : Nat) (content : EventContent) (visibility : Visibility)
      (organizerName : Option String)
  | insert (values : NewEventValues)
  | category (event : EventRecord) (input : UpdateEventInput)
  | update (event : EventRecord) (input : UpdateEventInput)
  | readiness (userId : Nat) (event : EventRecord) (input : PublishEventInput)
  | publish (userId : Nat) (event : EventRecord) (input : PublishEventInput)
  | announcePublished (userId : Nat) (event : EventRecord)
  | unpublish (event : EventRecord)
  | sold (event : EventRecord)
  | delete (event : EventRecord)
  | cancel (userId : Nat) (event : EventRecord) (reason : String)
  | announceCancelled (userId : Nat) (event : EventRecord) (reason : String)
  | done (reply : EventReply)
  deriving DecidableEq, Repr

/-! ## Constants -/

def HAS_REGISTRATIONS : DomainException := .conflict
  "This event has registrations and can't be deleted. Cancel it instead to refund and notify attendees."
def ALREADY_PUBLISHED : DomainException := .conflict "This event is already published."
def NOT_PUBLISHED : DomainException := .conflict "This event is not published."
def PUBLISHED_KEPT : DomainException := .conflict
  "A published event cannot be deleted. Cancel it instead to refund and notify attendees."
def REASON_REQUIRED : DomainException := .validation "A cancellation reason is required."
def NO_LONGER_CANCELLED : DomainException := .conflict "This event can no longer be cancelled."
def STALE_EVENT : DomainException :=
  .conflict "This event changed elsewhere. Reload the latest version and try again."
def STARTS_IN_PAST : DomainException := .validation
  "This event's start date is already in the past. Confirm to publish it anyway."
def EVENT_END_BEFORE_START : DomainException :=
  .validation "End time must be after the start time."
def EVENT_SLUG_FALLBACK : String := "event"
def SEATING_GAP : String := "seating"
def UNTYPED_SEATS : String := "Give every seat a ticket type before publishing."

def noEvent (eventId : Nat) : DomainException :=
  .notFound ("Event " ++ toString eventId ++ " not found.")

def noCategory (categoryId : Nat) : DomainException :=
  .notFound ("Category " ++ toString categoryId ++ " not found in this workspace.")

inductive PublishRequirement where
  | title | description | location | tickets
  deriving DecidableEq, Repr

def PublishRequirement.key : PublishRequirement → String
  | .title => "title"
  | .description => "description"
  | .location => "location"
  | .tickets => "tickets"

def PUBLISH_REQUIREMENTS : PublishRequirement → String
  | .title => "a title"
  | .description => "a description"
  | .location => "a venue or an online link"
  | .tickets => "at least one ticket type"

/-! ## Texts -/

/-- The two texts made outside: lower case in its compatibility decomposition, and rich text
with nothing unsafe left in it. -/
structure EventTexts where
  decomposed : String → String
  sanitizeDescription : String → String

def inSlug (char : Char) : Bool := char.isLower || char.isDigit

/-- One hyphen for every run of what a slug may not have. -/
def hyphenate : (after : Bool) → List Char → List Char
  | _, [] => []
  | after, char :: rest =>
    if inSlug char then char :: hyphenate false rest
    else if after then hyphenate true rest
    else '-' :: hyphenate true rest

def trimHyphens (text : List Char) : List Char :=
  (text.reverse.dropWhile (· = '-')).reverse

def slugify (texts : EventTexts) (name fallback : String) : String :=
  let hyphenated := hyphenate false (texts.decomposed name).toList
  let slug := trimHyphens ((trimHyphens (hyphenated.dropWhile (· = '-'))).take 80)
  if 3 ≤ slug.length then String.ofList slug else fallback

def isBlank (text : Option String) : Bool := text.all fun text => trim text = []

/-- The description of a new event; one that is cleaned to nothing is none. -/
def cleanDescription (texts : EventTexts) (html : Option String) : Option String :=
  (html.map texts.sanitizeDescription).filter fun cleaned => cleaned ≠ ""

/-! ## The repository -/

def findEvent (desk : EventDesk) (eventId : Nat) : Option EventRecord :=
  (desk.events.find eventId).filter fun row => row.deletedAt = none

def existingSlugs (desk : EventDesk) (base : String) : List String :=
  (desk.events.rows.map fun row => row.slug).filter fun slug =>
    base.toList.isPrefixOf slug.toList

/-- The first of the slug and its numbered ones that is not taken. -/
def uniqueSlug (texts : EventTexts) (desk : EventDesk) (name : String) : String :=
  let base := slugify texts name EVENT_SLUG_FALLBACK
  let taken := existingSlugs desk base
  let numbered := (List.range (taken.length + 1)).map fun i => base ++ "-" ++ toString (i + 2)
  ((base :: numbered).find? fun slug => slug ∉ taken).getD base

@[reducible] def insertedEvent (values : NewEventValues) (id : Nat) : EventRecord :=
  { values with id, publishedAt := none, cancelledAt := none, deletedAt := none, version := 1 }

/-- The version that was loaded, of an event that is still there. -/
def AtVersion (event row : EventRecord) : Prop :=
  row.id = event.id ∧ row.version = event.version ∧ row.deletedAt = none

instance (event : EventRecord) : DecidablePred (AtVersion event) :=
  fun _ => inferInstanceAs (Decidable (_ ∧ _ ∧ _))

@[reducible] def updatedEvent (event : EventRecord) (values : EventRecord → EventRecord)
    (row : EventRecord) : EventRecord :=
  { values row with id := row.id, version := event.version + 1 }

/-- Only writes when the version still matches; the row it returns, if there is one. -/
def updateEvents (desk : EventDesk) (event : EventRecord) (values : EventRecord → EventRecord) :
    EventDesk × Option EventRecord :=
  ({ desk with events := desk.events.update (AtVersion event) (updatedEvent event values) },
    (desk.events.select (AtVersion event)).head?.map (updatedEvent event values))

/-! ## The values of each write -/

def patchedContent (texts : EventTexts) (input : UpdateEventInput) (content : EventContent) :
    EventContent where
  name := input.name.getD content.name
  description :=
    (input.description.map fun html => html.map texts.sanitizeDescription).getD content.description
  type := input.type.getD content.type
  categoryId := input.categoryId.getD content.categoryId
  startAt := input.startAt.getD content.startAt
  endAt := input.endAt.getD content.endAt
  timezone := input.timezone.getD content.timezone
  venueName := input.venueName.getD content.venueName
  venueAddress := input.venueAddress.getD content.venueAddress
  city := input.city.getD content.city
  isOnline := input.isOnline.getD content.isOnline
  onlineNote := input.onlineNote.getD content.onlineNote
  seatingMode := input.seatingMode.getD content.seatingMode
  capacity := input.capacity.getD content.capacity
  waitlistEnabled := input.waitlistEnabled.getD content.waitlistEnabled
  requiresApproval := input.requiresApproval.getD content.requiresApproval
  coverImage := input.coverImage.getD content.coverImage
  accentColor := input.accentColor.getD content.accentColor
  contactEmail := input.contactEmail.getD content.contactEmail
  landingTemplateId := (input.landingTemplateId.map some).getD content.landingTemplateId

@[reducible] def contentValues (texts : EventTexts) (input : UpdateEventInput)
    (row : EventRecord) : EventRecord :=
  { row with content := patchedContent texts input row.content }

@[reducible] def publishValues (input : PublishEventInput) (now : Instant) (row : EventRecord) :
    EventRecord :=
  { row with
    status := .upcoming
    bucket := bucketForStatus .upcoming
    publishedAt := some now
    visibility := input.visibility.getD row.visibility
    content := { row.content with
      landingTemplateId := (input.landingTemplateId.map some).getD row.content.landingTemplateId } }

@[reducible] def unpublishValues (row : EventRecord) : EventRecord :=
  { row with
    status := .draft
    bucket := bucketForStatus .draft
    visibility := .isPrivate
    publishedAt := none }

@[reducible] def cancelValues (now : Instant) (row : EventRecord) : EventRecord :=
  { row with
    status := .cancelled
    bucket := bucketForStatus .cancelled
    cancelledAt := some now }

/-- A draft with the column defaults. -/
def draftContent (texts : EventTexts) (input : CreateEventInput) : EventContent where
  name := input.name
  description := cleanDescription texts input.description
  type := input.type
  categoryId := input.categoryId
  startAt := input.startAt
  endAt := none
  timezone := "Asia/Bangkok"
  venueName := none
  venueAddress := none
  city := none
  isOnline := false
  onlineNote := none
  seatingMode := .ga
  capacity := none
  waitlistEnabled := false
  requiresApproval := false
  coverImage := none
  accentColor := none
  contactEmail := none
  landingTemplateId := none

/-! ## What each request checks -/

/-- The version the client saw is the one loaded. -/
def seesVersion (version : Option Nat) (event : EventRecord) : Bool :=
  version.all fun version => version = event.version

def eventRefused (exception : DomainException) : EventPhase := .done (.thrown exception [])

def assertEndAfterStart (input : UpdateEventInput) (event : EventRecord) : Bool :=
  let startAt := input.startAt.getD event.content.startAt
  (input.endAt.getD event.content.endAt).all fun endAt => startAt < endAt

/-- Which required items an event is still missing before it can go public. -/
def readinessGaps (event : EventRecord) (activeCount : Nat) : List PublishRequirement :=
  (if isBlank (some event.content.name) then [.title] else []) ++
    (if isBlank event.content.description then [.description] else []) ++
    (if isBlank event.content.venueName && !event.content.isOnline then [.location] else []) ++
    (if activeCount < 1 then [.tickets] else [])

def seatlessTicketType (name : String) : String :=
  name ++ " has no seats. Give it some seats or remove it."

def seatingGaps (event : EventRecord) (readiness : SeatsReadiness) : List String :=
  if event.content.seatingMode ≠ .reserved ∨ event.content.isOnline then []
  else
    (if 0 < readiness.seatsWithoutType then [UNTYPED_SEATS] else []) ++
      readiness.ticketTypesWithoutSeats.map seatlessTicketType

/-- One refusal naming everything still missing, the seating sentences last. -/
def notReady (gaps : List PublishRequirement) (seatGaps : List String) : EventPhase :=
  let items := String.intercalate ", " (gaps.map PUBLISH_REQUIREMENTS)
  let sentences :=
    (if gaps = [] then [] else ["Cannot publish yet — please add " ++ items ++ "."]) ++ seatGaps
  .done (.thrown (.validation (String.intercalate " " sentences))
    (gaps.map PublishRequirement.key ++ if seatGaps = [] then [] else [SEATING_GAP]))

def decideUpdate (event : EventRecord) (input : UpdateEventInput) : EventPhase :=
  if seesVersion input.version event = false then eventRefused STALE_EVENT
  else if assertEndAfterStart input event = false then eventRefused EVENT_END_BEFORE_START
  else .category event input

def decidePublish (userId : Nat) (event : EventRecord) (input : PublishEventInput) :
    EventPhase :=
  if event.status ≠ .draft then eventRefused ALREADY_PUBLISHED
  else if seesVersion input.version event = false then eventRefused STALE_EVENT
  else .readiness userId event input

def decideUnpublish (event : EventRecord) (version : Option Nat) : EventPhase :=
  if event.status = .draft then eventRefused NOT_PUBLISHED
  else if seesVersion version event = false then eventRefused STALE_EVENT
  else .unpublish event

def decideDelete (event : EventRecord) (version : Option Nat) : EventPhase :=
  if seesVersion version event = false then eventRefused STALE_EVENT
  else if event.status ≠ .draft then eventRefused PUBLISHED_KEPT
  else .sold event

def decideCancel (userId : Nat) (event : EventRecord) (reason : String)
    (version : Option Nat) : EventPhase :=
  if seesVersion version event = false then eventRefused STALE_EVENT
  else if trim reason = [] then eventRefused REASON_REQUIRED
  else if event.status = .cancelled ∨ event.status = .completed then
    eventRefused NO_LONGER_CANCELLED
  else .cancel userId event (String.ofList (trim reason))

def afterReadiness (userId : Nat) (event : EventRecord) (input : PublishEventInput)
    (answers : EventAnswers) (now : Instant) : EventPhase :=
  let gaps := readinessGaps event answers.activeCount
  let seatGaps := seatingGaps event answers.seatsReadiness
  if gaps ≠ [] ∨ seatGaps ≠ [] then notReady gaps seatGaps
  else if event.content.startAt < now ∧ input.confirmPastStart = false then
    eventRefused STARTS_IN_PAST
  else .publish userId event input

/-- A request about an event goes on with the one it loads. -/
def withEvent (desk : EventDesk) (eventId : Nat) (next : EventRecord → EventPhase) : EventPhase :=
  match findEvent desk eventId with
  | some event => next event
  | none => eventRefused (noEvent eventId)

def beginEvent (texts : EventTexts) (desk : EventDesk) (answers : EventAnswers) :
    EventRequest → EventPhase
  | .create userId input =>
    match input.categoryId, answers.categoryExists with
    | some categoryId, false => eventRefused (noCategory categoryId)
    | _, _ => .slug userId (draftContent texts input) .isPrivate input.organizerName
  | .duplicate userId eventId =>
    withEvent desk eventId fun event =>
      .slug userId { event.content with name := event.content.name ++ " (Copy)" } event.visibility
        (some event.organizerName)
  | .update eventId input => withEvent desk eventId fun event => decideUpdate event input
  | .publish userId eventId input =>
    withEvent desk eventId fun event => decidePublish userId event input
  | .unpublish eventId version =>
    withEvent desk eventId fun event => decideUnpublish event version
  | .delete eventId version => withEvent desk eventId fun event => decideDelete event version
  | .cancel userId eventId reason version =>
    withEvent desk eventId fun event => decideCancel userId event reason version

/-! ## Steps -/

/-- A write that found its version goes on with the row; one that did not is stale. -/
def unlessStale (written : EventDesk × Option EventRecord) (next : EventRecord → EventPhase) :
    EventDesk × EventPhase :=
  (written.1, match written.2 with
    | some row => next row
    | none => eventRefused STALE_EVENT)

def insertEvent (desk : EventDesk) (values : NewEventValues) : EventDesk × EventPhase :=
  if (desk.events.select fun row => row.slug = values.slug) = [] then
    ({ desk with events := desk.events.insert (insertedEvent values) },
      .done (.event (insertedEvent values desk.events.next)))
  else (desk, .done .crashed)

/-- The rows that keep their event refuse to be orphaned; of its status nothing is asked. -/
def hardDeleteEvent (desk : EventDesk) (event : EventRecord) (referenced : Bool) :
    EventDesk × EventPhase :=
  if (desk.events.find event.id).isSome ∧ referenced then (desk, eventRefused HAS_REGISTRATIONS)
  else ({ desk with events := desk.events.delete fun row => row.id = event.id }, .done .deleted)

/-- One read, or one committed transaction. -/
def actOnEvents (texts : EventTexts) (desk : EventDesk) (answers : EventAnswers) :
    EventPhase → EventDesk × EventPhase
  | .first request => (desk, beginEvent texts desk answers request)
  | .slug createdBy content visibility organizerName =>
    (desk, .insert
      { slug := uniqueSlug texts desk content.name, content, status := .draft
        bucket := bucketForStatus .draft, visibility
        organizerName := organizerName.getD answers.organizationName, createdBy })
  | .insert values => insertEvent desk values
  | .category event input =>
    (desk, match input.categoryId, answers.categoryExists with
      | some (some categoryId), false => eventRefused (noCategory categoryId)
      | _, _ => .update event input)
  | .update event input =>
    unlessStale (updateEvents desk event (contentValues texts input)) fun row => .done (.event row)
  | .readiness userId event input => (desk, afterReadiness userId event input answers desk.clock)
  | .publish userId event input =>
    unlessStale (updateEvents desk event (publishValues input desk.clock))
      fun row => .announcePublished userId row
  | .announcePublished userId event =>
    ({ desk with outbox := desk.outbox ++
        [.published event.id event.slug event.content.name userId desk.clock] },
      .done (.event event))
  | .unpublish event =>
    unlessStale (updateEvents desk event unpublishValues) fun row => .done (.event row)
  | .sold event =>
    (desk, if 0 < answers.soldCount then eventRefused HAS_REGISTRATIONS else .delete event)
  | .delete event => hardDeleteEvent desk event answers.referenced
  | .cancel userId event reason =>
    unlessStale (updateEvents desk event (cancelValues desk.clock))
      fun row => .announceCancelled userId row reason
  | .announceCancelled userId event reason =>
    ({ desk with outbox := desk.outbox ++
        [.cancelled event.id event.slug event.content.name reason userId desk.clock] },
      .done (.event event))
  | .done reply => (desk, .done reply)

/-! ## The rest of the console -/

/-- What the public page's editor may set; it leaves the version alone. -/
structure PageValues where
  slug : String
  landingTemplateId : Option TemplateId
  accentColor : Option String
  visibility : Visibility
  deriving DecidableEq, Repr

@[reducible] def pageRow (values : PageValues) (row : EventRecord) : EventRecord :=
  { row with
    slug := values.slug
    visibility := values.visibility
    content := { row.content with
      landingTemplateId := values.landingTemplateId, accentColor := values.accentColor } }

inductive EventWorld where
  | tick (now : Instant)
  | pageUpdated (eventId : Nat) (values : PageValues)
  deriving DecidableEq, Repr

def changeEvents (desk : EventDesk) : EventWorld → EventDesk
  | .tick now => { desk with clock := max desk.clock now }
  | .pageUpdated eventId values =>
    { desk with events := desk.events.update (fun row => row.id = eventId) (pageRow values) }

/-- Requests about the events of one workspace, any number of them at once. -/
def eventRequests (texts : EventTexts) :
    Handler EventDesk EventPhase EventRequest EventAnswers EventWorld where
  opened := .first
  act := actOnEvents texts
  outside := changeEvents
  crashed := .done .crashed

end EventaApi.Source
