import EventaApi.Source.CalendarConnection
import EventaApi.Source.Discounts
import EventaApi.Source.PlaceOrder

/-!
# Correcting an attendee's contact details

`AttendeeContactService` and what it uses of `AttendeeDirectoryRepository`, among bookings that
adopt or add attendees meanwhile. A save corrects the record, re-points the orders that messages
are sent by, and records the edit, in one transaction.
-/
namespace EventaApi.Source
open Library

/-! ## Tables -/

inductive AttendeeTag where
  | vip | speaker | sponsor | student
  deriving DecidableEq, Repr

/-- A row of `attendees`. -/
structure DirectoryAttendee where
  id : Nat
  name : String
  /-- `citext`, unique in the workspace, removed rows included. -/
  email : String
  phone : Option String
  company : Option String := none
  tag : Option AttendeeTag := none
  firstSeenAt : Instant
  deletedAt : Option Instant := none
  version : Nat := 1
  deriving DecidableEq, Repr

instance directoryAttendeeKeyed : Keyed DirectoryAttendee := ⟨DirectoryAttendee.id⟩

/-- What the directory and messaging read of an order. -/
structure DirectoryOrder where
  id : Nat
  attendeeId : Nat
  eventId : Nat
  buyerName : String
  buyerEmail : String
  buyerPhone : Option String
  status : OrderStatus
  registeredAt : Instant
  deletedAt : Option Instant := none
  deriving DecidableEq, Repr

instance directoryOrderKeyed : Keyed DirectoryOrder := ⟨DirectoryOrder.id⟩

structure DirectoryTicket where
  id : Nat
  orderId : Nat
  status : IssuedTicketStatus := .issued
  deriving DecidableEq, Repr

instance directoryTicketKeyed : Keyed DirectoryTicket := ⟨DirectoryTicket.id⟩

/-- A row of `audit_events`. -/
structure ContactAudit where
  type : String
  title : String
  «meta» : String
  actorUserId : Nat
  deriving DecidableEq, Repr

inductive ContactField where
  | name | email | phone
  deriving DecidableEq, Repr

def CONTACT_FIELDS : List ContactField := [.name, .email, .phone]

def ContactField.text : ContactField → String
  | .name => "name"
  | .email => "email"
  | .phone => "phone"

/-- The values a save is moving; absent ones are left alone, and a phone may be cleared. -/
structure ContactChanges where
  name : Option String := none
  email : Option String := none
  phone : Option (Option String) := none
  deriving DecidableEq, Repr

/-- Just enough of the row to decide what is changing and guard the write. -/
structure AttendeeContactRow where
  id : Nat
  name : String
  email : String
  phone : Option String
  version : Nat
  deriving DecidableEq, Repr

/-- A save that went through: what it had read, and the row it replaced. -/
structure ContactSave where
  opened : AttendeeContactRow
  wanted : ContactChanges
  /-- The version the form was opened on, where the client sent it. -/
  sent : Option Nat
  replaced : DirectoryAttendee
  deriving DecidableEq, Repr

structure DirectoryDesk where
  attendees : Table DirectoryAttendee
  orders : Table DirectoryOrder
  tickets : Table DirectoryTicket
  /-- The latest first. -/
  auditEvents : List ContactAudit
  /-- Who may manage registrations. -/
  mayManage : (userId : Nat) → Bool
  clock : Instant
  /-- The saves that went through, the latest first. -/
  saves : List ContactSave

/-! ## Texts -/

def CONTACT_AUDIT_TYPE : String := "attendee"
def CONTACT_AUDIT_TITLE : String := "Updated contact details"
def ATTENDEE_NOT_FOUND : String := "That attendee is not in this workspace."
def NOTHING_TO_CHANGE : String := "Send a name, email or phone number to change."
def BLANK_NAME : String := "Enter the attendee’s name."
def MOVED_ELSEWHERE : String :=
  "This attendee changed while you had the form open. Reload and try again."
def EMAIL_IN_USE : String :=
  "That email address already belongs to another attendee in this workspace. " ++
  "Merge the two records instead of overwriting — a second record on the same " ++
  "address would split one person’s registrations in two. Search the directory " ++
  "for the address to open the record that holds it."
def EMAIL_IN_USE_BY_REMOVED : String :=
  "That email address is still held by an attendee record that was removed " ++
  "from this workspace, so it cannot be reused yet. Merge the two records " ++
  "rather than taking the address, or the removed record’s history will be " ++
  "attached to this person."

def UQ_ATTENDEES_ORG_EMAIL : String := "uq_attendees_org_email"
def MANAGE_REGISTRATIONS : PermissionKey := .regManage

/-- The trailing separator keeps the prefix of one attendee from matching another. -/
def contactAuditSubject (attendeeId : Nat) : String := "attendee #" ++ toString attendeeId ++ " ·"

/-- Which record, and which fields moved, never the values. -/
def contactAuditMeta (attendeeId : Nat) (fields : List ContactField) : String :=
  contactAuditSubject attendeeId ++ " changed: " ++ ", ".intercalate (fields.map ContactField.text)

/-! ## The repository -/

/-- One directory row. -/
structure AttendeeRow where
  id : Nat
  name : String
  email : String
  phone : Option String
  company : Option String
  tag : Option AttendeeTag
  firstSeenAt : Instant
  lastActivityAt : Option Instant
  eventCount : Nat
  ticketCount : Nat
  checkedInCount : Nat
  version : Nat
  deriving DecidableEq, Repr

/-- `statsCte`, for one attendee: its registrations that were not cancelled. -/
def statsCte (desk : DirectoryDesk) (row : DirectoryAttendee) : AttendeeRow :=
  let orders := desk.orders.select fun order => order.attendeeId = row.id ∧ order.status ≠ .cancelled
  let tickets := desk.tickets.select fun ticket => ticket.orderId ∈ orders.map DirectoryOrder.id
  { id := row.id, name := row.name, email := row.email, phone := row.phone, company := row.company
    tag := row.tag, firstSeenAt := row.firstSeenAt
    lastActivityAt := (orders.map DirectoryOrder.registeredAt).max?
    eventCount := (orders.map DirectoryOrder.eventId).dedup.length
    ticketCount := tickets.length
    checkedInCount := (tickets.filter fun ticket => ticket.status = .checkedIn).length
    version := row.version }

def findDirectoryEntry (desk : DirectoryDesk) (attendeeId : Nat) : Option AttendeeRow :=
  ((desk.attendees.find attendeeId).filter fun row => row.deletedAt.isNone).map (statsCte desk)

def contactRow (row : DirectoryAttendee) : AttendeeContactRow where
  id := row.id
  name := row.name
  email := row.email
  phone := row.phone
  version := row.version

/-- A removed record is not editable. -/
def findContact (desk : DirectoryDesk) (attendeeId : Nat) : Option AttendeeContactRow :=
  ((desk.attendees.find attendeeId).filter fun row => row.deletedAt.isNone).map contactRow

structure EmailHolder where
  id : Nat
  removed : Bool
  deriving DecidableEq, Repr

/-- Who holds an address already, removed or not. -/
def findAttendeeIdByEmail (desk : DirectoryDesk) (email : String) : Option EmailHolder :=
  (desk.attendees.select fun row => citext row.email = citext email).head?.map fun row =>
    { id := row.id, removed := row.deletedAt.isSome }

structure SaveContactInput where
  changes : ContactChanges
  fields : List ContactField
  expectedVersion : Nat
  actorUserId : Nat
  deriving DecidableEq, Repr

/-- The row the guarded write finds. -/
def IsAtVersion (attendeeId version : Nat) (row : DirectoryAttendee) : Prop :=
  row.id = attendeeId ∧ row.deletedAt = none ∧ row.version = version

instance (attendeeId version : Nat) : DecidablePred (IsAtVersion attendeeId version) :=
  fun _ => inferInstanceAs (Decidable (_ ∧ _))

@[reducible] def corrected (input : SaveContactInput) (row : DirectoryAttendee) :
    DirectoryAttendee :=
  { row with
    name := input.changes.name.getD row.name
    email := input.changes.email.getD row.email
    phone := input.changes.phone.getD row.phone
    version := input.expectedVersion + 1 }

/-- Only a live order is re-pointed, cancelled ones included. -/
def IsRouted (attendeeId : Nat) (order : DirectoryOrder) : Prop :=
  order.attendeeId = attendeeId ∧ order.deletedAt = none

instance (attendeeId : Nat) : DecidablePred (IsRouted attendeeId) :=
  fun _ => inferInstanceAs (Decidable (_ ∧ _))

/-- `toBuyerColumns`, as they are written. -/
@[reducible] def repointed (changes : ContactChanges) (order : DirectoryOrder) : DirectoryOrder :=
  { order with
    buyerName := changes.name.getD order.buyerName
    buyerEmail := changes.email.getD order.buyerEmail
    buyerPhone := changes.phone.getD order.buyerPhone }

def repointMessageRouting (orders : Table DirectoryOrder) (attendeeId : Nat)
    (input : SaveContactInput) : Table DirectoryOrder :=
  orders.update (IsRouted attendeeId) (repointed input.changes)

def recordContactEdit (attendeeId : Nat) (input : SaveContactInput) : ContactAudit where
  type := CONTACT_AUDIT_TYPE
  title := CONTACT_AUDIT_TITLE
  «meta» := contactAuditMeta attendeeId input.fields
  actorUserId := input.actorUserId

/-- The write that found its row. -/
def savedContact (desk : DirectoryDesk) (attendeeId : Nat) (input : SaveContactInput)
    (save : ContactSave) : DirectoryDesk :=
  { desk with
    attendees := desk.attendees.update (IsAtVersion attendeeId input.expectedVersion)
      (corrected input)
    orders := repointMessageRouting desk.orders attendeeId input
    auditEvents := recordContactEdit attendeeId input :: desk.auditEvents
    saves := save :: desk.saves }

/-- Correct the record, re-point what messages are sent by, and record it; nothing where the
guarded write matches nothing. -/
def saveContact (desk : DirectoryDesk) (attendeeId : Nat) (input : SaveContactInput)
    (save : DirectoryAttendee → ContactSave) :
    Except TxError (DirectoryDesk × Option AttendeeRow) :=
  match (desk.attendees.select (IsAtVersion attendeeId input.expectedVersion)).head? with
  | none => .ok (desk, none)
  | some row =>
    if desk.attendees.select (fun other => other.id ≠ attendeeId ∧
        citext other.email = citext (corrected input row).email) = [] then
      let saved := savedContact desk attendeeId input (save row)
      .ok (saved, findDirectoryEntry saved attendeeId)
    else .error (.uniqueViolation UQ_ATTENDEES_ORG_EMAIL)

/-! ## The service -/

/-- A body of the request; a field may be absent, `null` or a text. -/
structure UpdateAttendeeContactInput where
  name : Option (Option String) := none
  email : Option (Option String) := none
  phone : Option (Option String) := none
  version : Option (Option Nat) := none
  deriving DecidableEq, Repr

structure ContactRequest where
  userId : Nat
  attendeeId : Nat
  input : UpdateAttendeeContactInput
  deriving DecidableEq, Repr

inductive ContactReply where
  | updated (entry : AttendeeRow)
  | thrown (exception : DomainException)
  | invalidField (field message : String)
  /-- A conflict with a code of its own. -/
  | emailInUse (message : String)
  | crashed
  deriving DecidableEq, Repr

/-- The step a request is at. -/
inductive ContactPhase where
  | begin (request : ContactRequest)
  | require (request : ContactRequest) (wanted : ContactChanges)
  | assertAddressIsFree (request : ContactRequest) (wanted : ContactChanges)
      (current : AttendeeContactRow) (email : String)
  | apply (request : ContactRequest) (wanted : ContactChanges) (current : AttendeeContactRow)
  | currentEntry (request : ContactRequest)
  | done (request : ContactRequest) (reply : ContactReply)
  deriving DecidableEq, Repr

def trimmed (text : String) : String := String.ofList (trim text)

/-- A phone that is emptied is cleared. -/
def trimmedPhone (phone : Option String) : Option String := (phone.map trimmed).filter (· ≠ "")

/-- Trim what was typed; trimming a `null` name or address throws. -/
def normalise (input : UpdateAttendeeContactInput) : Except ContactReply ContactChanges :=
  if input.name = some none ∨ input.email = some none then .error .crashed
  else
    let changes : ContactChanges :=
      { name := input.name.join.map trimmed
        email := input.email.join.map trimmed
        phone := input.phone.map trimmedPhone }
    if changes = {} then .error (.thrown (.validation NOTHING_TO_CHANGE))
    else if changes.name = some "" then .error (.invalidField "name" BLANK_NAME)
    else .ok changes

/-- Which fields a save moves; another capitalisation counts. -/
def changedFields (current : AttendeeContactRow) (wanted : ContactChanges) : List ContactField :=
  CONTACT_FIELDS.filter fun
    | .name => wanted.name.any (· ≠ current.name)
    | .email => wanted.email.any (· ≠ current.email)
    | .phone => wanted.phone.any (· ≠ current.phone)

def onlyFields (wanted : ContactChanges) (fields : List ContactField) : ContactChanges where
  name := if .name ∈ fields then wanted.name else none
  email := if .email ∈ fields then wanted.email else none
  phone := if .phone ∈ fields then wanted.phone else none

def emailInUse (removed : Bool) : ContactReply :=
  .emailInUse (if removed then EMAIL_IN_USE_BY_REMOVED else EMAIL_IN_USE)

def movedElsewhere : ContactReply := .thrown (.conflict MOVED_ELSEWHERE)

def beginContact (desk : DirectoryDesk) (request : ContactRequest) : ContactPhase :=
  if desk.mayManage request.userId then
    match normalise request.input with
    | .ok wanted => .require request wanted
    | .error reply => .done request reply
  else .done request (.thrown (missingPermission MANAGE_REGISTRATIONS))

/-- The version that was sent is compared with the one that is there; `null` is none of them. -/
def afterRequire (request : ContactRequest) (wanted : ContactChanges) :
    Option AttendeeContactRow → ContactPhase
  | none => .done request (.thrown (.notFound ATTENDEE_NOT_FOUND))
  | some current =>
    if request.input.version.all (· = some current.version) then
      match wanted.email with
      | some email => .assertAddressIsFree request wanted current email
      | none => .apply request wanted current
    else .done request movedElsewhere

def afterAddress (request : ContactRequest) (wanted : ContactChanges)
    (current : AttendeeContactRow) : Option EmailHolder → ContactPhase
  | none => .apply request wanted current
  | some holder =>
    if holder.id = request.attendeeId then .apply request wanted current
    else .done request (emailInUse holder.removed)

/-- What was read when the address is taken meanwhile is the answer the check would have given. -/
def afterSave (desk : DirectoryDesk) (request : ContactRequest) :
    Except TxError (DirectoryDesk × Option AttendeeRow) → DirectoryDesk × ContactPhase
  | .ok (saved, some row) => (saved, .done request (.updated row))
  | .ok (saved, none) => (saved, .done request movedElsewhere)
  | .error (.uniqueViolation constraint) =>
    if constraint = UQ_ATTENDEES_ORG_EMAIL then (desk, .done request (emailInUse false))
    else (desk, .done request .crashed)
  | .error _ => (desk, .done request .crashed)

/-- Save what moved; a form saved untouched writes nothing. -/
def applyContact (desk : DirectoryDesk) (request : ContactRequest) (wanted : ContactChanges)
    (current : AttendeeContactRow) : DirectoryDesk × ContactPhase :=
  let fields := changedFields current wanted
  if fields = [] then (desk, .currentEntry request)
  else
    afterSave desk request (saveContact desk current.id
      { changes := onlyFields wanted fields, fields, expectedVersion := current.version
        actorUserId := request.userId }
      fun replaced => { opened := current, wanted, sent := request.input.version.join, replaced })

def afterEntry (request : ContactRequest) : Option AttendeeRow → ContactPhase
  | some row => .done request (.updated row)
  | none => .done request (.thrown (.notFound ATTENDEE_NOT_FOUND))

def actOnContact (desk : DirectoryDesk) (_ : Unit) : ContactPhase → DirectoryDesk × ContactPhase
  | .begin request => (desk, beginContact desk request)
  | .require request wanted =>
    (desk, afterRequire request wanted (findContact desk request.attendeeId))
  | .assertAddressIsFree request wanted current email =>
    (desk, afterAddress request wanted current (findAttendeeIdByEmail desk email))
  | .apply request wanted current => applyContact desk request wanted current
  | .currentEntry request =>
    (desk, afterEntry request (findDirectoryEntry desk request.attendeeId))
  | .done request reply => (desk, .done request reply)

/-! ## Bookings, and what else happens -/

/-- A booking's attendee: whoever holds the address, removed or not, renamed, or a new one. -/
def adoptAttendee (attendees : Table DirectoryAttendee) (buyer : Buyer) (now : Instant) :
    Nat × Table DirectoryAttendee :=
  match (attendees.select fun row => citext row.email = citext buyer.email).head? with
  | some existing =>
    (existing.id, attendees.update (fun row => row.id = existing.id)
      fun row => { row with name := buyer.name })
  | none =>
    (attendees.next, attendees.insert fun id =>
      { id, name := buyer.name, email := buyer.email, phone := buyer.phone, firstSeenAt := now })

def bookedOrder (buyer : Buyer) (attendeeId eventId : Nat) (status : OrderStatus) (now : Instant)
    (id : Nat) : DirectoryOrder where
  id := id
  attendeeId := attendeeId
  eventId := eventId
  buyerName := buyer.name
  buyerEmail := buyer.email
  buyerPhone := buyer.phone
  status := status
  registeredAt := now

inductive DirectoryWorld where
  | tick (elapsed : Nat)
  | permissions (mayManage : (userId : Nat) → Bool)
  /-- An order is placed, or a place in line taken. -/
  | booked (buyer : Buyer) (eventId : Nat) (status : OrderStatus) (tickets : Nat)
  | decided (orderId : Nat) (status : OrderStatus)
  | scanned (ticketId : Nat) (status : IssuedTicketStatus)
  | removeAttendee (attendeeId : Nat)
  | removeOrder (orderId : Nat)

def changeDirectory (desk : DirectoryDesk) : DirectoryWorld → DirectoryDesk
  | .tick elapsed => { desk with clock := desk.clock + elapsed }
  | .permissions mayManage => { desk with mayManage }
  | .booked buyer eventId status tickets =>
    let (attendeeId, attendees) := adoptAttendee desk.attendees buyer desk.clock
    { desk with
      attendees
      orders := desk.orders.insert (bookedOrder buyer attendeeId eventId status desk.clock)
      tickets := desk.tickets.insertEach (List.replicate tickets desk.orders.next) fun orderId id =>
        { id, orderId } }
  | .decided orderId status =>
    { desk with
      orders := desk.orders.update (fun order => order.id = orderId) fun order =>
        { order with status } }
  | .scanned ticketId status =>
    { desk with
      tickets := desk.tickets.update (fun ticket => ticket.id = ticketId) fun ticket =>
        { ticket with status } }
  | .removeAttendee attendeeId =>
    { desk with
      attendees := desk.attendees.update (fun row => row.id = attendeeId) fun row =>
        { row with deletedAt := some desk.clock } }
  | .removeOrder orderId =>
    { desk with
      orders := desk.orders.update (fun order => order.id = orderId) fun order =>
        { order with deletedAt := some desk.clock } }

/-- Requests to correct contact details, any number of them at once. -/
def contactEdits : Handler DirectoryDesk ContactPhase ContactRequest Unit DirectoryWorld where
  opened := .begin
  act := actOnContact
  outside := changeDirectory
  crashed := .done ⟨0, 0, {}⟩ .crashed

end EventaApi.Source
