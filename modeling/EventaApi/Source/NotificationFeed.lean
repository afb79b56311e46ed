import EventaApi.Library.Newest
import EventaApi.Source.NotificationGrouping
import EventaApi.Source.Access
import EventaApi.Source.Payouts

/-!
# The notification feed

`NotificationFeedService`, the adapters behind its ports and the watermark of each member. The
feed is derived: every load reads the registrations, the payments and the payouts anew, each in a
transaction of its own, and all that is stored is how far a member has read. Instants are
milliseconds, and an item's `at` is `occurredAt` here.
-/
namespace EventaApi.Source
open Library

def FEED_WINDOW_DAYS : Nat := 30
def FEED_LIMIT : Nat := 100

/-- An alert is a payment that was declined. -/
inductive FeedKind where
  | registration | payment | payout | alert
  deriving DecidableEq, Repr

structure FeedItem where
  id : String
  kind : FeedKind
  occurredAt : Int
  eventId : Option Nat
  eventName : Option String
  personName : Option String
  amountSatang : Option Int
  seats : Option Nat
  reference : Option String
  deriving DecidableEq, Repr

/-! ## What the feed reads -/

structure FeedOrder where
  id : Nat
  organizationId : Nat
  eventId : Nat
  buyerName : String
  seats : Nat
  status : OrderStatus
  registeredAt : Instant
  deletedAt : Option Instant := none
  deriving DecidableEq, Repr

instance : Keyed FeedOrder := ⟨FeedOrder.id⟩

structure FeedPayment where
  id : Nat
  organizationId : Nat
  eventId : Nat
  payerName : String
  amountSatang : Satang
  status : PaymentStatus
  paidAt : Option Instant
  createdAt : Instant
  deriving DecidableEq, Repr

instance : Keyed FeedPayment := ⟨FeedPayment.id⟩

structure FeedPayout where
  id : Nat
  organizationId : Nat
  /-- A payout may settle several events, and then has none of its own. -/
  eventId : Option Nat
  amountSatang : Int
  reference : String
  status : PayoutStatus
  completedAt : Option Instant
  deriving DecidableEq, Repr

instance : Keyed FeedPayout := ⟨FeedPayout.id⟩

structure FeedTables where
  events : Table Event
  orders : Table FeedOrder
  payments : Table FeedPayment
  payouts : Table FeedPayout

/-- How far a member has read. -/
structure NotificationRead where
  id : Nat
  organizationId : Nat
  userId : Nat
  readAt : Instant
  deriving DecidableEq, Repr

instance : Keyed NotificationRead := ⟨NotificationRead.id⟩

/-! ## The ports -/

section Ports

variable (tables : FeedTables) (organizationId : Nat) (since : Int)

/-- The confirmed registrations of the window, with no money on them. -/
def registrationItems : List FeedItem :=
  (tables.orders.select fun row => row.organizationId = organizationId ∧ row.status = .confirmed ∧
    row.deletedAt = none ∧ since ≤ row.registeredAt).flatMap fun row =>
      (tables.events.find row.eventId).toList.map fun event =>
        { id := "order:" ++ toString row.id
          kind := .registration
          occurredAt := row.registeredAt
          eventId := some event.id
          eventName := some event.name
          personName := some row.buyerName
          amountSatang := none
          seats := some row.seats
          reference := none }

/-- `coalesce(paid_at, created_at)` -/
def FeedPayment.happenedAt (row : FeedPayment) : Instant := row.paidAt.getD row.createdAt

/-- The payments of the window that settled, and those that were declined. -/
def paymentItems : List FeedItem :=
  (tables.payments.select fun row => row.organizationId = organizationId ∧
    (row.status = .paid ∨ row.status = .failed) ∧ since ≤ row.happenedAt).flatMap fun row =>
      (tables.events.find row.eventId).toList.map fun event =>
        { id := "payment:" ++ toString row.id
          kind := if row.status = .paid then .payment else .alert
          occurredAt := row.happenedAt
          eventId := some event.id
          eventName := some event.name
          personName := some row.payerName
          amountSatang := some row.amountSatang
          seats := none
          reference := none }

/-- The payouts that reached the bank in the window, with their event where they have one. -/
def payoutItems : List FeedItem :=
  (tables.payouts.select fun row => row.organizationId = organizationId ∧ row.status = .paid ∧
    row.completedAt.any fun completedAt => since ≤ completedAt).filterMap fun row =>
      row.completedAt.map fun completedAt =>
        let event := row.eventId.bind tables.events.find
        { id := "payout:" ++ toString row.id
          kind := .payout
          occurredAt := completedAt
          eventId := event.map (·.id)
          eventName := event.map (·.name)
          personName := none
          amountSatang := some row.amountSatang
          seats := none
          reference := some row.reference }

end Ports

/-- An order the rows may come in: the newest first. Rows that tie are in any. -/
structure NewestFirst where
  arrange : List FeedItem → List FeedItem
  same : ∀ items, (arrange items).Perm items
  descending : ∀ items, (arrange items).Pairwise fun former latter =>
    latter.occurredAt ≤ former.occurredAt

/-- `orderBy(desc(at)).limit(limit)` -/
def NewestFirst.limited (order : NewestFirst) (items : List FeedItem) : List FeedItem :=
  (order.arrange items).take FEED_LIMIT

/-! ## The watermark -/

structure NotificationDesk where
  tables : FeedTables
  /-- What a member holds in a workspace. -/
  granted : (organizationId userId : Nat) → List PermissionKey
  reads : Table NotificationRead
  clock : Instant

/-- The member's own row. -/
def NotificationRead.IsOf (auth : AuthContext) (row : NotificationRead) : Prop :=
  row.organizationId = auth.organizationId ∧ row.userId = auth.userId

instance (auth : AuthContext) : DecidablePred (NotificationRead.IsOf auth) :=
  fun _ => inferInstanceAs (Decidable (_ ∧ _))

/-- Nothing when this member has never marked their feed read. -/
def readAtFor (desk : NotificationDesk) (auth : AuthContext) : Option Instant :=
  (desk.reads.select (NotificationRead.IsOf auth)).head?.map NotificationRead.readAt

/-- Move the watermark: the row may not exist yet. -/
def markReadAt (desk : NotificationDesk) (auth : AuthContext) (readAt : Instant) :
    NotificationDesk :=
  { desk with
    reads :=
      if desk.reads.select (NotificationRead.IsOf auth) = [] then
        desk.reads.insert fun id =>
          { id, organizationId := auth.organizationId, userId := auth.userId, readAt }
      else desk.reads.update (NotificationRead.IsOf auth) fun row => { row with readAt } }

/-! ## The view -/

structure FeedItemView extends FeedItem where
  unread : Bool
  deriving DecidableEq, Repr

structure FeedCounts where
  all : Nat
  unread : Nat
  deriving DecidableEq, Repr

structure NotificationFeedView where
  counts : FeedCounts
  groups : List (FeedGroup FeedItemView)
  readAt : Option Instant
  deriving DecidableEq, Repr

/-- At the watermark an item is read. -/
def isUnread (item : FeedItem) (readAt : Option Instant) : Bool :=
  readAt.all fun readAt => (readAt : Int) < item.occurredAt

/-- What is read of the feed, before it is put together. -/
structure FeedReads where
  signUps : List FeedItem
  money : List FeedItem
  transfers : List FeedItem
  readAt : Option Instant
  deriving DecidableEq, Repr

/-- The newest of all that was read. -/
def FeedReads.items (reads : FeedReads) : List FeedItemView :=
  ((latestFirst FeedItem.occurredAt (reads.signUps ++ reads.money ++ reads.transfers)).take
    FEED_LIMIT).map fun item => { item with unread := isUnread item reads.readAt }

/-- The counts are over the whole feed, never over the filter. -/
def FeedReads.view (reads : FeedReads) (unreadOnly : Bool) (now : Instant) :
    NotificationFeedView where
  counts := { all := reads.items.length, unread := (reads.items.filter (·.unread)).length }
  groups := groupByRecency (·.occurredAt)
    (if unreadOnly then reads.items.filter (·.unread) else reads.items) now
  readAt := reads.readAt

/-! ## Calls -/

inductive NotificationRequest where
  | load (auth : AuthContext) (unreadOnly : Bool)
  | markAllRead (auth : AuthContext)
  deriving DecidableEq, Repr

inductive NotificationReply where
  | feed (view : NotificationFeedView)
  | marked (readAt : Instant) (unread : Nat)
  | crashed
  deriving DecidableEq, Repr

/-- A load whose reads are under way, each done or not. -/
structure FeedLoad where
  auth : AuthContext
  unreadOnly : Bool
  now : Instant
  granted : List PermissionKey
  signUps : Option (List FeedItem) := none
  money : Option (List FeedItem) := none
  transfers : Option (List FeedItem) := none
  readAt : Option (Option Instant) := none
  deriving DecidableEq, Repr

inductive FeedPort where
  | registrations | payments | payouts | reads
  deriving DecidableEq, Repr

inductive NotificationPhase where
  | begin (request : NotificationRequest)
  | getFor (auth : AuthContext) (unreadOnly : Bool) (now : Instant)
  | reading (load : FeedLoad)
  | markReadAt (auth : AuthContext) (readAt : Instant)
  | done (request : NotificationRequest) (reply : NotificationReply)
  | crashed
  deriving DecidableEq, Repr

/-- Which of the reads is done next, and the order its rows come in. -/
structure FeedAnswer where
  port : FeedPort
  order : NewestFirst

def FeedLoad.since (load : FeedLoad) : Int := load.now - FEED_WINDOW_DAYS * DAY_MS

/-- What a port is asked for: nothing, where the reader is not entitled to it. -/
def FeedLoad.entitled (load : FeedLoad) (key : PermissionKey) (order : NewestFirst)
    (items : List FeedItem) : List FeedItem :=
  if load.granted.contains key then order.limited items else []

/-- One of the four reads, which are each done once and in any order. -/
def FeedLoad.read (desk : NotificationDesk) (load : FeedLoad) (answer : FeedAnswer) : FeedLoad :=
  let org := load.auth.organizationId
  match answer.port with
  | .registrations => { load with
      signUps := load.signUps <|> some (load.entitled .regView answer.order
        (registrationItems desk.tables org load.since)) }
  | .payments => { load with
      money := load.money <|> some (load.entitled .finView answer.order
        (paymentItems desk.tables org load.since)) }
  | .payouts => { load with
      transfers := load.transfers <|> some (load.entitled .finView answer.order
        (payoutItems desk.tables org load.since)) }
  | .reads => { load with readAt := load.readAt <|> some (readAtFor desk load.auth) }

/-- All four reads, once they are done. -/
def FeedLoad.complete (load : FeedLoad) : Option FeedReads := do
  return { signUps := ← load.signUps, money := ← load.money, transfers := ← load.transfers,
           readAt := ← load.readAt }

def FeedLoad.settle (load : FeedLoad) : NotificationPhase :=
  match load.complete with
  | some reads =>
    .done (.load load.auth load.unreadOnly) (.feed (reads.view load.unreadOnly load.now))
  | none => .reading load

/-- One step of a call: a read of its own, or the upsert. -/
def actNotification (desk : NotificationDesk) (answer : FeedAnswer) :
    NotificationPhase → NotificationDesk × NotificationPhase
  | .begin (.load auth unreadOnly) => (desk, .getFor auth unreadOnly desk.clock)
  | .getFor auth unreadOnly now =>
    (desk, .reading
      { auth, unreadOnly, now, granted := desk.granted auth.organizationId auth.userId })
  | .reading load => (desk, (load.read desk answer).settle)
  | .begin (.markAllRead auth) => (desk, .markReadAt auth desk.clock)
  | .markReadAt auth readAt =>
    (markReadAt desk auth readAt, .done (.markAllRead auth) (.marked readAt 0))
  | .done request reply => (desk, .done request reply)
  | .crashed => (desk, .crashed)

/-- What the other modules do meanwhile. -/
inductive NotificationWorld where
  | writes (tables : FeedTables)
  | grants (granted : (organizationId userId : Nat) → List PermissionKey)
  | tick (elapsed : Nat)

def NotificationDesk.outside (desk : NotificationDesk) : NotificationWorld → NotificationDesk
  | .writes tables => { desk with tables }
  | .grants granted => { desk with granted }
  | .tick elapsed => { desk with clock := desk.clock + elapsed }

def notifications :
    Handler NotificationDesk NotificationPhase NotificationRequest FeedAnswer NotificationWorld where
  opened := .begin
  act := actNotification
  outside := NotificationDesk.outside
  crashed := .crashed

end EventaApi.Source
