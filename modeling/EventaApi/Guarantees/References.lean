import EventaApi.Source.Transactions

/-!
# Every row refers to rows that exist

The schema's foreign keys, and the shape the code gives an order: exactly one line.
Every committed operation keeps them, so every state of every run has them.
-/
namespace EventaApi.Guarantees
open Library Source

/-- Every hold an order has taken over names an order that exists. -/
def HoldsBacked (orders : Table Order) (holds : Table SeatHold) : Prop :=
  ∀ hold ∈ holds, ∀ orderId, hold.orderId = some orderId → (orders.find orderId).isSome

structure References (db : Db) : Prop where
  items : ∀ item ∈ db.orderItems, (db.orders.find item.orderId).isSome
  lined : ∀ order ∈ db.orders, ∃ item ∈ db.orderItems, item.orderId = order.id
  sole : ∀ item ∈ db.orderItems, ∀ other ∈ db.orderItems,
    item.orderId = other.orderId → item = other
  tickets : ∀ ticket ∈ db.tickets, (db.orders.find ticket.orderId).isSome
  holds : HoldsBacked db.orders db.seatHolds
  assignments : ∀ assignment ∈ db.seatAssignments, (db.tickets.find assignment.ticketId).isSome

section Holds

variable {orders : Table Order} {holds : Table SeatHold}

theorem HoldsBacked.update {hit : SeatHold → Prop} [DecidablePred hit]
    {write : SeatHold → SeatHold} {keeps : ∀ hold, Keyed.key (write hold) = Keyed.key hold}
    (backed : HoldsBacked orders holds)
    (written : ∀ hold, (write hold).orderId = hold.orderId ∨ (write hold).orderId = none) :
    HoldsBacked orders (holds.update hit write keeps) := by
  intro hold member orderId named
  obtain ⟨old, stored, rfl⟩ := Table.mem_update.mp member
  split at named
  · rcases written old with same | gone
    · exact backed old stored orderId (same ▸ named)
    · rw [gone] at named
      cases named
  · exact backed old stored orderId named

theorem HoldsBacked.releaseActive {orderId : Nat} (backed : HoldsBacked orders holds) :
    HoldsBacked orders (releaseActiveHolds holds orderId) :=
  backed.update fun _ => Or.inl rfl

theorem HoldsBacked.expireSeats {seatIds : List Nat} {now : Instant}
    (backed : HoldsBacked orders holds) :
    HoldsBacked orders (expireLapsedForSeats holds seatIds now) :=
  backed.update fun _ => Or.inl rfl

theorem HoldsBacked.expireTier {ticketTypeId : Nat} {now : Instant}
    (backed : HoldsBacked orders holds) :
    HoldsBacked orders (expireLapsedForTier holds ticketTypeId now) :=
  backed.update fun _ => Or.inl rfl

theorem HoldsBacked.convertOrder {orderId : Nat} (backed : HoldsBacked orders holds) :
    HoldsBacked orders (convertOrderHolds holds orderId) :=
  backed.update fun _ => Or.inr rfl

theorem HoldsBacked.forDecision {orderId : Nat} (backed : HoldsBacked orders holds) :
    HoldsBacked orders (holdForDecision holds orderId) :=
  HoldsBacked.update (HoldsBacked.update backed fun _ => Or.inr rfl) fun _ => Or.inl rfl

theorem HoldsBacked.grow {grown : Table Order} (backed : HoldsBacked orders holds)
    (keeps : ∀ orderId, (orders.find orderId).isSome → (grown.find orderId).isSome) :
    HoldsBacked grown holds :=
  fun hold member orderId named => keeps orderId (backed hold member orderId named)

theorem HoldsBacked.attach {holdIds : List Nat} {orderId : Nat} {expiresAt : Option Instant}
    (backed : HoldsBacked orders holds) (exists' : (orders.find orderId).isSome) :
    HoldsBacked orders (attachHolds holds holdIds orderId expiresAt) := by
  intro hold member named same
  obtain ⟨old, stored, rfl⟩ := Table.mem_update.mp member
  split at same
  · cases same
    exact exists'
  · exact backed old stored named same

theorem HoldsBacked.convert {holdIds : List Nat} (backed : HoldsBacked orders holds) :
    HoldsBacked orders (convertHolds holds holdIds) :=
  backed.update fun _ => Or.inr rfl

theorem HoldsBacked.settled {input : PlaceOrderInput} {orderId : Nat}
    (backed : HoldsBacked orders holds) (exists' : (orders.find orderId).isSome) :
    HoldsBacked orders (settledHolds input holds orderId) := by
  unfold settledHolds
  split
  · exact backed.convert
  · exact backed.attach exists'

theorem HoldsBacked.insertEach {ids : List Nat} {input : HoldSeatsInput}
    (backed : HoldsBacked orders holds)
    (attached : ∀ orderId, input.orderId = some orderId → (orders.find orderId).isSome) :
    HoldsBacked orders (holds.insertEach ids (heldSeat input)) := by
  intro hold member orderId named
  rcases Table.mem_insertEach.mp member with old | ⟨_, _, rfl⟩
  · exact backed hold old orderId named
  · exact attached orderId named

theorem HoldsBacked.insert {input : HoldQuantityInput} (backed : HoldsBacked orders holds)
    (attached : ∀ orderId, input.orderId = some orderId → (orders.find orderId).isSome) :
    HoldsBacked orders (holds.insert (heldQuantity input)) := by
  intro hold member orderId named
  rcases Table.mem_insert.mp member with old | rfl
  · exact backed hold old orderId named
  · exact attached orderId named

end Holds

section Orders

variable {db : Db}

/-- Only the holds changed, and each still names an order that exists. -/
theorem References.withHolds {holds : Table SeatHold} (refs : References db)
    (backed : HoldsBacked db.orders holds) : References { db with seatHolds := holds } :=
  { refs with holds := backed }

/-- A new order and its one line. -/
theorem References.insertOrder (refs : References db) {order : Nat → Order}
    {keyedOrder : ∀ key, Keyed.key (order key) = key} {item : Nat → OrderItem}
    {keyedItem : ∀ key, Keyed.key (item key) = key}
    (line : ∀ key, (item key).orderId = db.orders.next) :
    References { db with
      orders := db.orders.insert order keyedOrder
      orderItems := db.orderItems.insert item keyedItem } where
  items := by
    intro row member
    rcases Table.mem_insert.mp member with old | rfl
    · exact Table.isSome_find_insert (refs.items row old)
    · rw [line]
      simp [Table.find_insert]
  lined := by
    intro row member
    rcases Table.mem_insert.mp member with old | rfl
    · obtain ⟨item', stored, same⟩ := refs.lined row old
      exact ⟨item', Table.mem_insert.mpr (Or.inl stored), same⟩
    · exact ⟨_, Table.mem_insert.mpr (Or.inr rfl), by rw [line]; exact (keyedOrder _).symm⟩
  sole := by
    have older : ∀ row ∈ db.orderItems, row.orderId ≠ db.orders.next := by
      intro row stored same
      have found := refs.items row stored
      rw [same, Table.find_next] at found
      cases found
    intro row member other member' same
    rcases Table.mem_insert.mp member with old | rfl <;>
      rcases Table.mem_insert.mp member' with old' | rfl
    · exact refs.sole row old other old' same
    · exact absurd (same.trans (line _)) (older row old)
    · exact absurd (same.symm.trans (line _)) (older other old')
    · rfl
  tickets := fun ticket stored => Table.isSome_find_insert (refs.tickets ticket stored)
  holds := refs.holds.grow fun _ => Table.isSome_find_insert
  assignments := refs.assignments

/-- Rewriting an order keeps every reference to it. -/
theorem References.rewrite {after : Db} (refs : References db) {hit : Order → Prop}
    [DecidablePred hit] {write : Order → Order}
    {keeps : ∀ row, Keyed.key (write row) = Keyed.key row}
    (orders : after.orders = db.orders.update hit write keeps)
    (orderItems : after.orderItems = db.orderItems) (tickets : after.tickets = db.tickets)
    (seatAssignments : after.seatAssignments = db.seatAssignments)
    (backed : HoldsBacked db.orders after.seatHolds) : References after where
  items := fun item stored => by
    rw [orders, Table.isSome_find_update]
    exact refs.items item (orderItems ▸ stored)
  lined := by
    intro row member
    rw [orders] at member
    obtain ⟨old, stored, rfl⟩ := Table.mem_update.mp member
    obtain ⟨item, line, same⟩ := refs.lined old stored
    refine ⟨item, orderItems ▸ line, ?_⟩
    split
    · exact same.trans (keeps old).symm
    · exact same
  sole := orderItems ▸ refs.sole
  tickets := fun ticket stored => by
    rw [orders, Table.isSome_find_update]
    exact refs.tickets ticket (tickets ▸ stored)
  holds := backed.grow fun _ found => by rwa [orders, Table.isSome_find_update]
  assignments := by
    rw [seatAssignments, tickets]
    exact refs.assignments

/-- New tickets of an order that exists. -/
theorem References.insertTickets (refs : References db) {α : Type} {values : List α}
    {each : α → Nat → Ticket} {keyed : ∀ value key, Keyed.key (each value key) = key}
    {orderId : Nat} (exists' : (db.orders.find orderId).isSome)
    (bought : ∀ value key, (each value key).orderId = orderId) :
    References { db with tickets := db.tickets.insertEach values each keyed } where
  items := refs.items
  lined := refs.lined
  sole := refs.sole
  tickets := by
    intro ticket member
    change ticket ∈ db.tickets.insertEach values each keyed at member
    rcases Table.mem_insertEach.mp member with old | ⟨_, _, rfl⟩
    · exact refs.tickets ticket old
    · rwa [bought]
  holds := refs.holds
  assignments := by
    intro assignment stored
    change ((db.tickets.insertEach values each keyed).find assignment.ticketId).isSome
    exact Table.isSome_find_insertEach (refs.assignments assignment stored)

/-- Seats bound to tickets that exist. -/
theorem References.assignSeats (refs : References db) {seatIds ticketIds : List Nat}
    {after : Table SeatAssignment}
    (seated : Source.assignSeats db.seatAssignments seatIds ticketIds = .ok after)
    (issued : ∀ id ∈ ticketIds, (db.tickets.find id).isSome) :
    References { db with seatAssignments := after } := by
  refine { refs with assignments := ?_ }
  rcases assignSeats_ok.mp seated with ⟨_, rfl⟩ | ⟨_, _, _, rfl⟩
  · exact refs.assignments
  · intro assignment member
    rcases Table.mem_insertEach.mp member with old | ⟨index, inRange, rfl⟩
    · exact refs.assignments assignment old
    · exact issued _ (List.of_mem_zip (List.getElem_mem inRange)).2

/-- Voiding tickets and releasing their seats rewrites rows in place. -/
theorem References.voidTickets (refs : References db) {hit : Ticket → Prop} [DecidablePred hit]
    {write : Ticket → Ticket} {keeps : ∀ row, Keyed.key (write row) = Keyed.key row}
    {free : SeatAssignment → Prop} [DecidablePred free] {unbind : SeatAssignment → SeatAssignment}
    {keeps' : ∀ row, Keyed.key (unbind row) = Keyed.key row}
    (bought : ∀ ticket, (write ticket).orderId = ticket.orderId)
    (bound : ∀ assignment, (unbind assignment).ticketId = assignment.ticketId) :
    References { db with
      tickets := db.tickets.update hit write keeps
      seatAssignments := db.seatAssignments.update free unbind keeps' } where
  items := refs.items
  lined := refs.lined
  sole := refs.sole
  tickets := by
    intro ticket member
    obtain ⟨old, stored, rfl⟩ := Table.mem_update.mp member
    split
    · rw [bought]
      exact refs.tickets old stored
    · exact refs.tickets old stored
  holds := refs.holds
  assignments := by
    intro assignment member
    obtain ⟨old, stored, rfl⟩ := Table.mem_update.mp member
    rw [Table.isSome_find_update]
    split
    · rw [bound]
      exact refs.assignments old stored
    · exact refs.assignments old stored

theorem References.refunded (refs : References db) (order : Order) (ledger : Ledger)
    (now : Instant) : References (refundedDb db order ledger now) := by
  have voided : References { db with
      tickets := (refundedDb db order ledger now).tickets
      seatAssignments := (refundedDb db order ledger now).seatAssignments } :=
    refs.voidTickets (fun _ => rfl) (fun _ => rfl)
  refine voided.rewrite rfl rfl rfl rfl ?_
  unfold refundedDb
  dsimp only
  split
  · exact refs.holds.releaseActive
  · exact refs.holds

end Orders

section Commit

variable {db after : Db} {now : Instant}

/-- The references read five tables and nothing else. -/
theorem References.congr (refs : References db) (orders : after.orders = db.orders)
    (orderItems : after.orderItems = db.orderItems) (tickets : after.tickets = db.tickets)
    (seatHolds : after.seatHolds = db.seatHolds)
    (seatAssignments : after.seatAssignments = db.seatAssignments) : References after where
  items := by
    rw [orders, orderItems]
    exact refs.items
  lined := by
    rw [orders, orderItems]
    exact refs.lined
  sole := by
    rw [orderItems]
    exact refs.sole
  tickets := by
    rw [orders, tickets]
    exact refs.tickets
  holds := by
    rw [orders, seatHolds]
    exact refs.holds
  assignments := by
    rw [tickets, seatAssignments]
    exact refs.assignments

theorem References.placed (refs : References db) {input : PlaceOrderInput} {placed : PlacedOrder}
    (placement : Placed db input now placed after) : References after := by
  have ordered : References { db with
      orders := db.orders.insert (newOrder db input now)
      orderItems := db.orderItems.insert (itemRow input.toOrderInsert db.orders.next) } :=
    refs.insertOrder fun _ => rfl
  have exists' : ((db.orders.insert (newOrder db input now)).find db.orders.next).isSome := by
    rw [Table.find_insert, if_pos rfl]
    rfl
  have held : References { db with
      orders := db.orders.insert (newOrder db input now)
      orderItems := db.orderItems.insert (itemRow input.toOrderInsert db.orders.next)
      seatHolds := settledHolds input db.seatHolds db.orders.next } :=
    ordered.withHolds (ordered.holds.settled exists')
  rcases Bool.eq_false_or_eq_true input.issueTickets with issues | none
  · have ticketed : References { db with
        orders := db.orders.insert (newOrder db input now)
        orderItems := db.orderItems.insert (itemRow input.toOrderInsert db.orders.next)
        seatHolds := settledHolds input db.seatHolds db.orders.next
        tickets := db.tickets.insertEach input.qrTokens
          (ticketRow input db.orders.next db.orderItems.next
            (upsertAttendee db.attendees input.buyer).1) } :=
      held.insertTickets exists' fun _ _ => rfl
    have seated := ticketed.assignSeats (placement.seated issues)
      (fun id fresh => Table.isSome_find_inserted fresh)
    exact seated.congr placement.orders placement.orderItems (placement.ticketed issues)
      placement.seatHolds rfl
  · exact held.congr placement.orders placement.orderItems (placement.unticketed none)
      placement.seatHolds (placement.unseated none)

theorem References.settled (refs : References db) {input : SettleOrderInput} {order : Order}
    {settlement : Settlement} (found : db.orders.find input.orderId = some order)
    (settles : Settled db input order now settlement after) : References after := by
  have stored := (Table.find_eq_some.mp found).1
  cases settles with
  | already => exact refs.congr rfl rfl rfl rfl rfl
  | refused reason => exact refs.rewrite rfl rfl rfl rfl refs.holds.releaseActive
  | unavailable => exact refs
  | awaits => exact refs.rewrite rfl rfl rfl rfl refs.holds.forDecision
  | completes _ _ line _ _ _ _ seated =>
    have ticketed : References { db with
        tickets := db.tickets.insertEach (List.range line.quantity)
          (settledTicket input order line) } :=
      refs.insertTickets (Table.isSome_find_of_mem stored) fun _ _ => rfl
    have bound := ticketed.assignSeats seated fun id fresh =>
      Table.isSome_find_inserted (by simpa using fresh)
    exact bound.rewrite rfl rfl rfl rfl refs.holds.convertOrder

/-- Every committed operation keeps every reference. -/
theorem References.committed (refs : References db) {op : Op}
    (committed : Committed db now op after) : References after := by
  cases committed with
  | idle => exact refs
  | sweptSeats | sweptTier | released | releasedUnattached | expired | releasedOrder =>
    exact refs.withHolds (refs.holds.update fun _ => Or.inl rfl)
  | heldSeats _ _ attached =>
    exact refs.withHolds (refs.holds.expireSeats.insertEach attached)
  | heldQuantity _ _ _ _ _ attached =>
    exact refs.withHolds (refs.holds.expireTier.insert attached)
  | placed _ _ _ placement => exact refs.placed placement
  | joined => exact (refs.insertOrder fun _ => rfl).congr rfl rfl rfl rfl rfl
  | offered => exact refs.rewrite rfl rfl rfl rfl refs.holds
  | settled _ _ _ _ found settles => exact refs.settled found settles
  | rejected => exact refs.rewrite rfl rfl rfl rfl refs.holds.releaseActive
  | refunded => exact refs.refunded _ _ _
  | recorded | enqueued => exact refs.congr rfl rfl rfl rfl rfl

/-- Every line's ticket type exists. -/
def TypedLines (db : Db) : Prop :=
  ∀ item ∈ db.orderItems, (db.ticketTypes.find item.ticketTypeId).isSome

theorem TypedLines.types (typed : TypedLines db)
    (types : ∀ key, (db.ticketTypes.find key).isSome → (after.ticketTypes.find key).isSome)
    (items : after.orderItems = db.orderItems) : TypedLines after :=
  fun item member => types _ (typed item (items ▸ member))

theorem TypedLines.committed {op : Op} (typed : TypedLines db)
    (committed : Committed db now op after) : TypedLines after := by
  have given {byType : Tally Nat} {types : Table TicketType} (key : Nat)
      (known : (types.find key).isSome) : ((giveBackStock types byType).find key).isSome := by
    rwa [find_giveBackStock, Option.isSome_map]
  have sold {types : Table TicketType} {line : SettlementLine} (key : Nat)
      (known : (types.find key).isSome) : ((countSale types line).find key).isSome := by
    rwa [countSale, Table.isSome_find_update]
  cases committed with
  | idle | sweptSeats | heldSeats | sweptTier | heldQuantity | released | releasedUnattached
  | expired | releasedOrder | recorded | enqueued | offered => exact typed
  | placed input _ _ placement =>
    have types : ∀ key, (db.ticketTypes.find key).isSome → (after.ticketTypes.find key).isSome := by
      intro key known
      rcases Bool.eq_false_or_eq_true input.takesPlaces with takes | none
      · obtain ⟨_, _, _, counted⟩ := reserveAllocation_ok.mp (placement.counted takes)
        rwa [counted, Table.isSome_find_update]
      · rwa [placement.uncounted none]
    intro item member
    rw [placement.orderItems] at member
    rcases Table.mem_insert.mp member with old | rfl
    · exact types _ (typed item old)
    · exact types _ placement.typed
  | joined _ _ _ known =>
    intro item member
    rcases Table.mem_insert.mp member with old | rfl
    · exact typed item old
    · exact known
  | settled _ _ _ _ _ settles =>
    cases settles with
    | already | unavailable | refused => exact typed
    | awaits => exact typed.types sold rfl
    | completes =>
      refine typed.types (fun key known => ?_) rfl
      unfold ticketedDb
      dsimp only
      split
      · exact known
      · exact sold key known
  | rejected =>
    refine typed.types (fun key known => ?_) rfl
    unfold rejectedDb
    dsimp only
    split
    · exact given key known
    · exact known
  | refunded =>
    refine typed.types (fun key known => ?_) rfl
    unfold refundedDb refundedStock returnStock
    dsimp only
    refine given key ?_
    split
    · exact given key known
    · exact known

end Commit

theorem References.step {workspace : Workspace} (refs : References workspace.db) (op : Op) :
    References (step workspace op).db :=
  step_preserves (fun _ committed => refs.committed (commit_cases committed)) refs

/-- The state of every run refers only to rows that exist. -/
theorem references_run {start : Workspace} (ops : List Op) (initial : References start.db) :
    References (run step start ops).db := by
  have each : ∀ workspace op, References workspace.db → References (step workspace op).db :=
    fun _ op refs => refs.step op
  exact run_invariant_always each ops initial

end EventaApi.Guarantees
