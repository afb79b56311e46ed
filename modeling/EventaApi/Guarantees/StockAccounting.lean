import EventaApi.Guarantees.Opening
import EventaApi.Guarantees.OrderHistory

/-!
# Stock accounting

`sold` counts exactly the live tickets of a ticket type and the places of the
orders that wait for a decision. Every committed operation keeps that equation, so
no tier is ever oversold and giving stock back never clips at zero.
-/
namespace EventaApi.Guarantees
open Library Source

/-- The live tickets of a ticket type. -/
def liveOf (tickets : Table Ticket) (ticketTypeId : Nat) : Nat :=
  tickets.sum fun ticket => if ticket.ticketTypeId = ticketTypeId ∧ ticket.live then 1 else 0

/-- Whether an order waits for the organizer's decision. -/
def awaits (orders : Table Order) (orderId : Nat) : Bool :=
  (orders.find orderId).any isAwaitingApproval

/-- The places of a ticket type that waiting orders' lines count. -/
def awaitingOf (orders : Table Order) (items : Table OrderItem) (ticketTypeId : Nat) : Nat :=
  items.sum fun item =>
    if item.ticketTypeId = ticketTypeId ∧ awaits orders item.orderId then item.quantity else 0

structure TierAccounted (db : Db) (tier : TicketType) : Prop where
  counted : tier.sold = liveOf db.tickets tier.id + awaitingOf db.orders db.orderItems tier.id
  within : tier.sold ≤ tier.total

def StockAccounted (db : Db) : Prop := ∀ tier ∈ db.ticketTypes, TierAccounted db tier

/-! ## An order's lines -/

/-- What one order's lines count of a ticket type. -/
def lineQuantity (items : Table OrderItem) (orderId ticketTypeId : Nat) : Nat :=
  items.sum fun item =>
    if item.orderId = orderId ∧ item.ticketTypeId = ticketTypeId then item.quantity else 0

theorem count_linesByType (db : Db) (orderId ticketTypeId : Nat) :
    (linesByType db orderId).count ticketTypeId =
      lineQuantity db.orderItems orderId ticketTypeId := by
  unfold linesByType lineQuantity
  rw [Tally.count_ofEntries, Tally.count, List.map_map]
  refine (Table.sum_select).trans (Table.sum_congr fun item _ => ?_)
  simp only [Function.comp_apply]
  split <;> simp_all

/-- An order's one line is all that its lines count. -/
theorem lineQuantity_sole {db : Db} (refs : References db) {item : OrderItem}
    (stored : item ∈ db.orderItems) (ticketTypeId : Nat) :
    lineQuantity db.orderItems item.orderId ticketTypeId =
      if item.ticketTypeId = ticketTypeId then item.quantity else 0 := by
  have others : ∀ other ∈ db.orderItems, Keyed.key other ≠ Keyed.key item →
      (if other.orderId = item.orderId ∧ other.ticketTypeId = ticketTypeId then other.quantity
        else 0) = 0 := by
    intro other stored' different
    rw [if_neg]
    rintro ⟨same, _⟩
    exact different (congrArg Keyed.key (refs.sole other stored' item stored same))
  simpa [lineQuantity] using Table.sum_exchange stored others

/-! ## Moving one order in or out of waiting -/

theorem awaits_update {orders : Table Order} {order : Order} {write : Order → Order}
    {keeps : ∀ row, Keyed.key (write row) = Keyed.key row}
    (found : orders.find order.id = some order) (orderId : Nat) :
    awaits (orders.update (fun row => row.id = order.id) write keeps) orderId =
      if orderId = order.id then isAwaitingApproval (write order) else awaits orders orderId := by
  unfold awaits
  by_cases same : orderId = order.id
  · subst same
    simp [Table.find_update, found]
  · rw [if_neg same, Table.find_update_of_miss]
    intro row _ key hit
    exact same (key.symm.trans hit)

/-- Rewriting one order moves its lines between waiting and not, and no other order's. -/
theorem awaitingOf_update {orders : Table Order} {order : Order} {write : Order → Order}
    {keeps : ∀ row, Keyed.key (write row) = Keyed.key row} {items : Table OrderItem}
    (found : orders.find order.id = some order) (ticketTypeId : Nat) :
    awaitingOf (orders.update (fun row => row.id = order.id) write keeps) items ticketTypeId +
        (if isAwaitingApproval order then lineQuantity items order.id ticketTypeId else 0) =
      awaitingOf orders items ticketTypeId +
        (if isAwaitingApproval (write order) then lineQuantity items order.id ticketTypeId
          else 0) := by
  have before : awaits orders order.id = isAwaitingApproval order := by simp [awaits, found]
  have lines (flag : Bool) : (if flag then lineQuantity items order.id ticketTypeId else 0) =
      items.sum fun item => if flag ∧ item.orderId = order.id ∧ item.ticketTypeId = ticketTypeId
        then item.quantity else 0 := by
    cases flag
    · simp
    · simp [lineQuantity]
  unfold awaitingOf
  rw [lines, lines, ← Table.sum_add, ← Table.sum_add]
  refine Table.sum_congr fun item _ => ?_
  rw [awaits_update found]
  by_cases mine : item.orderId = order.id
  · rw [if_pos mine, mine, before]
    by_cases typed : item.ticketTypeId = ticketTypeId
    · simp [typed, Nat.add_comm]
    · simp [typed]
  · simp [mine]

/-- Rewriting an order that did not wait and does not wait moves nothing. -/
theorem awaitingOf_update_idle {orders : Table Order} {order : Order} {write : Order → Order}
    {keeps : ∀ row, Keyed.key (write row) = Keyed.key row} {items : Table OrderItem}
    (found : orders.find order.id = some order) (before : isAwaitingApproval order = false)
    (after : isAwaitingApproval (write order) = false) (ticketTypeId : Nat) :
    awaitingOf (orders.update (fun row => row.id = order.id) write keeps) items ticketTypeId =
      awaitingOf orders items ticketTypeId := by
  have moved : awaitingOf (orders.update (fun row => row.id = order.id) write keeps) items
      ticketTypeId + _ = _ := awaitingOf_update found ticketTypeId
  simpa [before, after] using moved

/-- A new order and its line count only when it starts out waiting. -/
theorem awaitingOf_insert {db : Db} (refs : References db) {order : Nat → Order}
    {keyedOrder : ∀ key, Keyed.key (order key) = key} {item : Nat → OrderItem}
    {keyedItem : ∀ key, Keyed.key (item key) = key}
    (line : ∀ key, (item key).orderId = db.orders.next) (ticketTypeId : Nat) :
    awaitingOf (db.orders.insert order keyedOrder) (db.orderItems.insert item keyedItem)
        ticketTypeId =
      awaitingOf db.orders db.orderItems ticketTypeId +
        (if (item db.orderItems.next).ticketTypeId = ticketTypeId ∧
            isAwaitingApproval (order db.orders.next) then
          (item db.orderItems.next).quantity else 0) := by
  unfold awaitingOf
  rw [Table.sum_insert]
  congr 1
  · refine Table.sum_congr fun old stored => ?_
    have older : old.orderId ≠ db.orders.next := by
      intro same
      have exists' := refs.items old stored
      rw [same, Table.find_next] at exists'
      cases exists'
    have same : awaits (db.orders.insert order keyedOrder) old.orderId =
        awaits db.orders old.orderId := by
      simp [awaits, Table.find_insert_of_ne older]
    rw [same]
  · simp [awaits, line, Table.find_insert]

/-! ## Tickets -/

/-- New tickets of one type are all live. -/
theorem liveOf_insertEach {tickets : Table Ticket} {α : Type} {values : List α}
    {each : α → Nat → Ticket} {keyed : ∀ value key, Keyed.key (each value key) = key}
    {sold : Nat} (typed : ∀ value key, (each value key).ticketTypeId = sold)
    (issued : ∀ value key, (each value key).status = .issued) (ticketTypeId : Nat) :
    liveOf (tickets.insertEach values each keyed) ticketTypeId =
      liveOf tickets ticketTypeId + if sold = ticketTypeId then values.length else 0 := by
  have weighs : ∀ value key, (if (each value key).ticketTypeId = ticketTypeId ∧
      (each value key).live then 1 else 0) = if sold = ticketTypeId then 1 else 0 := by
    intro value key
    simp [typed, Ticket.live, issued]
  unfold liveOf
  rw [Table.sum_insertEach weighs]
  by_cases same : sold = ticketTypeId
  · simp [same]
  · simp [same]

/-- Voiding an order's live tickets takes exactly those out of the count. -/
theorem liveOf_voided (tickets : Table Ticket) (orderId ticketTypeId : Nat) :
    liveOf (tickets.update (fun ticket => ticket.orderId = orderId ∧ ticket.live)
        fun ticket => { ticket with status := .refunded }) ticketTypeId +
      (voidedByType (tickets.select fun ticket => ticket.orderId = orderId ∧ ticket.live)).count
        ticketTypeId = liveOf tickets ticketTypeId := by
  unfold liveOf voidedByType
  rw [Tally.count_ofEntries, Tally.count, List.map_map]
  simp only [Function.comp_def, Table.sum_select, Table.sum_update]
  rw [← Table.sum_add]
  refine Table.sum_congr fun ticket _ => ?_
  have dead : ¬ ({ ticket with status := .refunded } : Ticket).live := by simp [Ticket.live]
  by_cases hit : ticket.orderId = orderId ∧ ticket.live
  · rw [if_pos hit, if_pos hit, if_neg fun claim => dead claim.2]
    simp [hit.2]
  · rw [if_neg hit, if_neg hit, Nat.add_zero]

/-! ## What a change of stock must match -/

section Moves

variable {db after : Db}

/-- The places a ticket type has given away: admitted, or counted for a decision. -/
def placesOf (db : Db) (ticketTypeId : Nat) : Nat :=
  liveOf db.tickets ticketTypeId + awaitingOf db.orders db.orderItems ticketTypeId

theorem StockAccounted.keep (accounted : StockAccounted db)
    (types : after.ticketTypes = db.ticketTypes)
    (moved : ∀ ticketTypeId, placesOf after ticketTypeId = placesOf db ticketTypeId) :
    StockAccounted after := by
  intro tier member
  have old := accounted tier (types ▸ member)
  exact ⟨old.counted.trans (moved tier.id).symm, old.within⟩

theorem StockAccounted.sell (accounted : StockAccounted db) {tier : TicketType} {quantity : Nat}
    (found : db.ticketTypes.find tier.id = some tier) (fits : tier.sold + quantity ≤ tier.total)
    (types : after.ticketTypes = db.ticketTypes.update (fun row => row.id = tier.id)
      fun row => { row with sold := tier.sold + quantity })
    (moved : ∀ ticketTypeId, placesOf after ticketTypeId =
      placesOf db ticketTypeId + if tier.id = ticketTypeId then quantity else 0) :
    StockAccounted after := by
  intro row member
  rw [types] at member
  obtain ⟨old, stored, rfl⟩ := Table.mem_update.mp member
  have stock := (accounted old stored).counted
  split
  next same =>
    have selected : old = tier :=
      Table.eq_of_key stored (Table.find_eq_some.mp found).1 same
    subst selected
    refine ⟨?_, fits⟩
    have now := moved old.id
    rw [if_pos rfl] at now
    unfold placesOf at now
    simp only
    omega
  next different =>
    refine ⟨?_, (accounted old stored).within⟩
    have now := moved old.id
    rw [if_neg (Ne.symm different)] at now
    unfold placesOf at now
    omega

theorem StockAccounted.giveBack (accounted : StockAccounted db) {given : Nat → Nat}
    (types : ∀ key, after.ticketTypes.find key = (db.ticketTypes.find key).map fun tier =>
      { tier with sold := tier.sold - given key })
    (moved : ∀ ticketTypeId, placesOf after ticketTypeId + given ticketTypeId =
      placesOf db ticketTypeId) : StockAccounted after := by
  intro row member
  have found := Table.find_key member
  rw [types] at found
  obtain ⟨tier, stored, written⟩ := Option.map_eq_some_iff.mp found
  obtain ⟨old, same⟩ := Table.find_eq_some.mp stored
  rw [← same] at written
  subst written
  have stock := accounted tier old
  have now := moved tier.id
  have counted := stock.counted
  unfold placesOf at now
  refine ⟨?_, ?_⟩
  · change tier.sold - given tier.id =
      liveOf after.tickets tier.id + awaitingOf after.orders after.orderItems tier.id
    omega
  · exact Nat.le_trans (Nat.sub_le _ _) stock.within

end Moves

/-! ## Each operation -/

section Operations

variable {db after : Db} {now : Instant}

/-- Placing an order gives away its quantity when it is ticketed or awaits a decision. -/
theorem placesOf_placed (refs : References db) {input : PlaceOrderInput} {placed : PlacedOrder}
    (placement : Placed db input now placed after) (ticketTypeId : Nat) :
    placesOf after ticketTypeId = placesOf db ticketTypeId +
      if input.ticketTypeId = ticketTypeId ∧ input.takesPlaces then input.quantity else 0 := by
  have waiting : awaitingOf after.orders after.orderItems ticketTypeId =
      awaitingOf db.orders db.orderItems ticketTypeId +
        if input.ticketTypeId = ticketTypeId ∧
          isAwaitingApproval (newOrder db input now db.orders.next) then input.quantity else 0 := by
    rw [placement.orders, placement.orderItems]
    exact awaitingOf_insert refs (fun _ => rfl) ticketTypeId
  unfold placesOf
  rw [waiting]
  rcases Bool.eq_false_or_eq_true input.issueTickets with issues | none
  · have minted := input.minted
    rw [if_pos issues] at minted
    have live : liveOf after.tickets ticketTypeId = liveOf db.tickets ticketTypeId +
        if input.ticketTypeId = ticketTypeId then input.quantity else 0 := by
      rw [placement.ticketed issues, ← minted]
      refine liveOf_insertEach ?_ ?_ ticketTypeId <;> exact fun _ _ => rfl
    rw [live]
    simp [initialState, isAwaitingApproval, issues,
      PlaceOrderInput.takesPlaces, Nat.add_right_comm]
  · rw [placement.unticketed none]
    cases decision : input.awaitsDecision <;>
      simp [initialState, isAwaitingApproval, none, decision,
        PlaceOrderInput.takesPlaces, Nat.add_assoc]

theorem StockAccounted.placed (accounted : StockAccounted db) (refs : References db)
    {input : PlaceOrderInput} {placed : PlacedOrder}
    (placement : Placed db input now placed after) : StockAccounted after := by
  rcases Bool.eq_false_or_eq_true input.takesPlaces with takes | none
  · obtain ⟨tier, found, fits, types⟩ := reserveAllocation_ok.mp (placement.counted takes)
    have same : tier.id = input.ticketTypeId := (Table.find_eq_some.mp found).2
    refine accounted.sell (Table.find_self found) fits (by rw [types, same]) fun x => ?_
    rw [placesOf_placed refs placement, same]
    simp [takes]
  · refine accounted.keep (placement.uncounted none) fun x => ?_
    rw [placesOf_placed refs placement]
    simp [none]

/-- Settling gives away the line's quantity unless its places were counted already. -/
theorem placesOf_ticketed (refs : References db) {input : SettleOrderInput} {order : Order}
    {item : OrderItem} {tier : TicketType} {assignments : Table SeatAssignment}
    (found : db.orders.find order.id = some order) (stored : item ∈ db.orderItems)
    (mine : item.orderId = order.id) (ticketTypeId : Nat) :
    placesOf (ticketedDb db input order (isAwaitingApproval order) (settlementLine item tier)
        assignments now) ticketTypeId =
      placesOf db ticketTypeId +
        if item.ticketTypeId = ticketTypeId ∧ isAwaitingApproval order = false then item.quantity
        else 0 := by
  have live : liveOf (ticketedDb db input order (isAwaitingApproval order)
      (settlementLine item tier) assignments now).tickets ticketTypeId = liveOf db.tickets
        ticketTypeId + if item.ticketTypeId = ticketTypeId then item.quantity else 0 := by
    have length : (List.range item.quantity).length = item.quantity := List.length_range
    rw [← length]
    refine liveOf_insertEach ?_ ?_ ticketTypeId <;> exact fun _ _ => rfl
  have waiting : awaitingOf (db.orders.update (fun row => row.id = order.id)
      (confirmedOrder input order now)) db.orderItems ticketTypeId + _ = _ :=
    awaitingOf_update found ticketTypeId
  have confirmed : isAwaitingApproval (confirmedOrder input order now order) = false := rfl
  rw [confirmed, ← mine, lineQuantity_sole refs stored] at waiting
  unfold placesOf
  rw [live]
  simp only [ticketedDb]
  cases counted : isAwaitingApproval order <;> simp_all <;> omega

/-- A waiting order whose money just landed gives away its line's quantity. -/
theorem placesOf_awaiting (refs : References db) {input : SettleOrderInput} {order : Order}
    {item : OrderItem} {tier : TicketType} (found : db.orders.find order.id = some order)
    (pending : order.status = .pending) (idle : isAwaitingApproval order = false)
    (stored : item ∈ db.orderItems) (mine : item.orderId = order.id) (ticketTypeId : Nat) :
    placesOf (awaitingDb db input order (settlementLine item tier) now) ticketTypeId =
      placesOf db ticketTypeId + if item.ticketTypeId = ticketTypeId then item.quantity else 0 := by
  have waiting : awaitingOf (awaitingDb db input order (settlementLine item tier) now).orders
      db.orderItems ticketTypeId + _ = _ := awaitingOf_update found ticketTypeId
  have asked : isAwaitingApproval (awaitingOrder order now order) = true := by
    simp [isAwaitingApproval, pending]
  rw [idle, asked, ← mine, lineQuantity_sole refs stored] at waiting
  simp only [Bool.false_eq_true, if_false, if_true, Nat.add_zero] at waiting
  change liveOf db.tickets ticketTypeId + awaitingOf (awaitingDb db input order
    (settlementLine item tier) now).orders db.orderItems ticketTypeId = _
  unfold placesOf
  rw [waiting, Nat.add_assoc]

theorem StockAccounted.settled (accounted : StockAccounted db) (refs : References db)
    {input : SettleOrderInput} {order : Order} {settlement : Settlement}
    (found : db.orders.find order.id = some order)
    (settles : Settled db input order now settlement after) : StockAccounted after := by
  cases settles with
  | already => exact accounted.keep rfl fun _ => rfl
  | refused _ _ _ idle =>
    refine accounted.keep rfl fun x => ?_
    unfold placesOf
    exact congrArg _ (awaitingOf_update_idle found idle rfl x)
  | unavailable => exact accounted
  | awaits _ _ line _ pending idle _ honoured _ =>
    obtain ⟨item, tier, stored, mine, typed, rfl⟩ := loadSettlement_line honoured.judged
    have same : tier.id = item.ticketTypeId := (Table.find_eq_some.mp typed).2
    refine accounted.sell (Table.find_self typed) (honoured.fits idle) ?_ fun x => ?_
    · rw [same]
      rfl
    · rw [same]
      exact placesOf_awaiting refs found pending idle stored mine x
  | completes _ _ line assignments _ _ honoured _ =>
    obtain ⟨item, tier, stored, mine, typed, rfl⟩ := loadSettlement_line honoured.judged
    have same : tier.id = item.ticketTypeId := (Table.find_eq_some.mp typed).2
    have moved : ∀ x, placesOf (ticketedDb db input order (isAwaitingApproval order)
        (settlementLine item tier) assignments now) x = _ := placesOf_ticketed refs found stored mine
    cases counted : isAwaitingApproval order with
    | true =>
      refine accounted.keep ?_ fun x => ?_
      · simp [ticketedDb]
      · simpa [counted] using moved x
    | false =>
      refine accounted.sell (Table.find_self typed) (honoured.fits counted) ?_ fun x => ?_
      · rw [same]
        rfl
      · rw [same]
        simpa [counted, settlementLine] using moved x

theorem StockAccounted.rejected (accounted : StockAccounted db) {input : RejectOrderInput}
    {order : Order} (found : db.orders.find order.id = some order) :
    StockAccounted (rejectedDb db input order now) := by
  have moved : ∀ x, awaitingOf (db.orders.update (fun row => row.id = order.id)
      (rejectedOrder input order now)) db.orderItems x + _ = _ := awaitingOf_update found
  have decided : isAwaitingApproval (rejectedOrder input order now order) = false := rfl
  simp only [decided] at moved
  cases waiting : isAwaitingApproval order with
  | true =>
    have types : (rejectedDb db input order now).ticketTypes =
        giveBackStock db.ticketTypes (linesByType db order.id) := if_pos waiting
    refine accounted.giveBack (fun key => by rw [types]; exact find_giveBackStock _ _ key)
      fun x => ?_
    have now' := moved x
    simp only [waiting, if_true, Bool.false_eq_true, if_false, Nat.add_zero] at now'
    rw [count_linesByType]
    simp only [placesOf, rejectedDb]
    omega
  | false =>
    refine accounted.keep (by simp [rejectedDb, waiting]) fun x => ?_
    have now' := moved x
    simp only [waiting, Bool.false_eq_true, if_false, Nat.add_zero] at now'
    simp only [placesOf, rejectedDb]
    omega

/-- What a refund hands back: a waiting order's lines, and the tickets it voids. -/
def refundedQuantity (db : Db) (order : Order) (ticketTypeId : Nat) : Nat :=
  (if isAwaitingApproval order then lineQuantity db.orderItems order.id ticketTypeId else 0) +
    (voidedByType (liveTickets db order.id)).count ticketTypeId

theorem find_refundedStock (db : Db) (order : Order) (key : Nat) :
    (refundedStock db order).find key = (db.ticketTypes.find key).map fun tier =>
      { tier with sold := tier.sold - refundedQuantity db order key } := by
  unfold refundedStock returnStock refundedQuantity
  rw [find_giveBackStock]
  cases waiting : isAwaitingApproval order with
  | true =>
    simp only [if_true, givePlacesBack, find_giveBackStock, count_linesByType, Option.map_map,
      Function.comp_def, Nat.sub_sub]
  | false => simp

theorem StockAccounted.refunded (accounted : StockAccounted db) {order : Order} {ledger : Ledger}
    (found : db.orders.find order.id = some order) :
    StockAccounted (refundedDb db order ledger now) := by
  refine accounted.giveBack (find_refundedStock db order) fun x => ?_
  have voided := liveOf_voided db.tickets order.id x
  have moved : awaitingOf (refundedDb db order ledger now).orders db.orderItems x + _ = _ :=
    awaitingOf_update found x
  have closed : isAwaitingApproval (refundedOrder order order) = false := by
    simp only [isAwaitingApproval, statusAfterRefund]
    split <;> rfl
  rw [closed] at moved
  change liveOf (db.tickets.update (fun ticket => ticket.orderId = order.id ∧ ticket.live)
    fun ticket => { ticket with status := .refunded }) x +
      awaitingOf (refundedDb db order ledger now).orders db.orderItems x + _ = _
  simp only [Bool.false_eq_true, if_false, Nat.add_zero] at moved
  unfold placesOf refundedQuantity liveTickets
  omega

/-- Every committed operation keeps the equation of every tier. -/
theorem StockAccounted.committed (accounted : StockAccounted db) (refs : References db)
    (unasked : WaitlistUnasked db) {op : Op} (committed : Committed db now op after) :
    StockAccounted after := by
  cases committed with
  | idle => exact accounted
  | sweptSeats | heldSeats | sweptTier | heldQuantity | released | releasedUnattached | expired
  | releasedOrder | recorded | enqueued => exact accounted.keep rfl fun _ => rfl
  | placed _ _ _ placement => exact accounted.placed refs placement
  | joined input attendeeId =>
    refine accounted.keep rfl fun x => ?_
    have unchanged : awaitingOf (db.orders.insert (orderRow input attendeeId WAITLISTED now))
        (db.orderItems.insert (itemRow input db.orders.next)) x = _ :=
      awaitingOf_insert refs (fun _ => rfl) x
    simpa [placesOf, orderRow, WAITLISTED, isAwaitingApproval] using unchanged
  | offered input order found waiting =>
    have idle : isAwaitingApproval order = false := by simp [isAwaitingApproval, waiting]
    have stored := (Table.find_eq_some.mp found).1
    refine accounted.keep rfl fun x => ?_
    unfold placesOf
    refine congrArg _ (awaitingOf_update_idle (Table.find_self found) idle ?_ x)
    simp [isAwaitingApproval, unasked order stored waiting]
  | settled _ _ _ _ found settles => exact accounted.settled refs (Table.find_self found) settles
  | rejected _ _ found => exact accounted.rejected (Table.find_self found)
  | refunded _ _ _ _ found => exact accounted.refunded (Table.find_self found)

end Operations

/-! ## Giving back never clips -/

/-- Each entry in turn is covered by the count it is taken from: no `GREATEST` clips at zero. -/
def GivesBackInFull : Table TicketType → Tally Nat → Prop
  | _, [] => True
  | types, entry :: rest =>
    (∀ tier, types.find entry.1 = some tier → entry.2 ≤ tier.sold) ∧
      GivesBackInFull (types.update (fun row => row.id = entry.1)
        fun row => { row with sold := row.sold - entry.2 }) rest

theorem GivesBackInFull.of_count {types : Table TicketType} {entries : Tally Nat}
    (covered : ∀ key tier, types.find key = some tier → entries.count key ≤ tier.sold) :
    GivesBackInFull types entries := by
  induction entries generalizing types with
  | nil => trivial
  | cons entry rest ih =>
    refine ⟨fun tier found => ?_, ih fun key row found => ?_⟩
    · have bound := covered _ _ found
      rw [Tally.count_cons, if_pos rfl] at bound
      omega
    · rw [Table.find_update] at found
      obtain ⟨tier, old, rfl⟩ := Option.map_eq_some_iff.mp found
      have same : tier.id = key := (Table.find_eq_some.mp old).2
      have bound := covered key tier old
      rw [Tally.count_cons] at bound
      by_cases hit : entry.1 = key
      · rw [if_pos hit] at bound
        rw [if_pos (same.trans hit.symm)]
        simp only
        omega
      · rw [if_neg hit, Nat.zero_add] at bound
        rwa [if_neg fun clash => hit (clash.symm.trans same)]

/-- One order's waiting lines and live tickets are among the places its tiers gave away. -/
theorem refundedQuantity_le (db : Db) {order : Order}
    (found : db.orders.find order.id = some order) (ticketTypeId : Nat) :
    refundedQuantity db order ticketTypeId ≤ placesOf db ticketTypeId := by
  have voided := liveOf_voided db.tickets order.id ticketTypeId
  have lines : (if isAwaitingApproval order then
      lineQuantity db.orderItems order.id ticketTypeId else 0) ≤
        awaitingOf db.orders db.orderItems ticketTypeId := by
    split
    next waiting =>
      refine Table.sum_le_sum fun item _ => ?_
      split
      next mine =>
        have asked : awaits db.orders item.orderId = true := by simp [awaits, mine.1, found, waiting]
        rw [if_pos ⟨mine.2, asked⟩]
      · exact Nat.zero_le _
    · exact Nat.zero_le _
  unfold refundedQuantity placesOf liveTickets
  omega

/-- What the two give-backs take is covered, wherever the tiers are accounted. -/
theorem StockAccounted.givesBackInFull {db : Db} (accounted : StockAccounted db) {order : Order}
    (stored : order ∈ db.orders) :
    (isAwaitingApproval order = true →
      GivesBackInFull db.ticketTypes (linesByType db order.id).sorted) ∧
    GivesBackInFull
      (if isAwaitingApproval order then givePlacesBack db order.id else db.ticketTypes)
      (voidedByType (liveTickets db order.id)).sorted := by
  have bound (key : Nat) (tier : TicketType) (found : db.ticketTypes.find key = some tier) :
      refundedQuantity db order key ≤ tier.sold := by
    obtain ⟨member, same⟩ := Table.find_eq_some.mp found
    change tier.id = key at same
    rw [(accounted tier member).counted, same]
    exact refundedQuantity_le db (Table.find_key stored) key
  unfold refundedQuantity at bound
  constructor
  · intro waiting
    refine .of_count fun key tier found => ?_
    have total := bound key tier found
    rw [if_pos waiting] at total
    rw [Tally.count_sorted, count_linesByType]
    omega
  · refine .of_count fun key row found => ?_
    rw [Tally.count_sorted]
    cases waiting : isAwaitingApproval order with
    | true =>
      rw [waiting, if_pos rfl, givePlacesBack, find_giveBackStock] at found
      obtain ⟨tier, old, rfl⟩ := Option.map_eq_some_iff.mp found
      have total := bound key tier old
      rw [if_pos waiting, ← count_linesByType] at total
      simp only
      omega
    | false =>
      simp only [waiting, Bool.false_eq_true, if_false] at found
      have total := bound key row found
      omega

/-! ## Every run -/

structure Accounts (db : Db) : Prop where
  references : References db
  waitlist : WaitlistUnasked db
  stock : StockAccounted db

theorem Opening.accounts {db : Db} (opening : Opening db) : Accounts db where
  references := opening.references
  waitlist := fun _ stored => absurd stored (Table.not_mem_of_empty opening.orders _)
  stock := by
    intro tier member
    have unsold := opening.unsold tier member
    refine ⟨?_, by omega⟩
    rw [unsold, liveOf, awaitingOf, Table.sum_of_empty opening.tickets,
      Table.sum_of_empty opening.orderItems]

theorem Accounts.step {workspace : Workspace} (accounts : Accounts workspace.db) (op : Op) :
    Accounts (step workspace op).db :=
  step_preserves (fun _ committed =>
    { references := accounts.references.committed (commit_cases committed)
      waitlist := accounts.waitlist.committed (commit_cases committed)
      stock := accounts.stock.committed accounts.references accounts.waitlist
        (commit_cases committed) }) accounts

theorem accounts_run {start : Workspace} (opening : Opening start.db) (ops : List Op) :
    Accounts (run step start ops).db := by
  have each : ∀ workspace op, Accounts workspace.db → Accounts (step workspace op).db :=
    fun _ op accounts => accounts.step op
  exact run_invariant_always each ops opening.accounts

/-- In every state of every run from an event with no orders, each tier's `sold` is its live
tickets plus the places of orders awaiting a decision, it is within the allocation, and neither
give-back of a rejection or a refund would clip. -/
theorem stock_accounting (start : Workspace) (opening : Opening start.db) (ops : List Op) :
    let db := (run step start ops).db
    (∀ tier ∈ db.ticketTypes,
      tier.sold = liveOf db.tickets tier.id + awaitingOf db.orders db.orderItems tier.id ∧
        tier.sold ≤ tier.total) ∧
    ∀ order ∈ db.orders,
      (isAwaitingApproval order = true →
        GivesBackInFull db.ticketTypes (linesByType db order.id).sorted) ∧
      GivesBackInFull
        (if isAwaitingApproval order then givePlacesBack db order.id else db.ticketTypes)
        (voidedByType (liveTickets db order.id)).sorted := by
  have accounts := accounts_run opening ops
  refine ⟨fun tier member => ?_, fun order stored => accounts.stock.givesBackInFull stored⟩
  have tierAccounted := accounts.stock tier member
  exact ⟨tierAccounted.counted, tierAccounted.within⟩

/-- A free order takes the one general place, and the account says so. -/
theorem stock_accounting_boxOffice :
    let db := (run step boxOffice [.placeOrder (booking "A" 0 0 none [] 0 false)]).db
    db.ticketTypes.rows.map TicketType.sold = [1, 0] ∧
      ∀ tier ∈ db.ticketTypes,
        tier.sold = liveOf db.tickets tier.id + awaitingOf db.orders db.orderItems tier.id ∧
          tier.sold ≤ tier.total :=
  ⟨by decide +kernel, (stock_accounting boxOffice boxOffice_opening _).1⟩

end EventaApi.Guarantees
