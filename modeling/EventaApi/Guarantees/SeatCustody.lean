import EventaApi.Guarantees.Opening
import EventaApi.Guarantees.OrderHistory

/-!
# Who holds which seat

A reserved order travels as the seats it was priced for, then as the holds stamped
with it, and only at settlement as assignments. As long as no confirm names a hold
another order already has, the holds stamped with a pending order are exactly the
seats it was priced for, whatever becomes of their status, and each sells under the
order line's ticket type.
-/
namespace EventaApi.Guarantees
open Library Source

/-- No two active holds reserve one seat. -/
def SoleHolder (holds : Table SeatHold) : Prop :=
  ∀ hold ∈ holds, ∀ other ∈ holds, hold.status = .active → other.status = .active →
    ∀ seatId, hold.seatId = some seatId → other.seatId = some seatId → hold = other

/-! ## One active hold a seat -/

section Sole

variable {holds : Table SeatHold}

theorem SoleHolder.update {hit : SeatHold → Prop} [DecidablePred hit] {write : SeatHold → SeatHold}
    {keeps : ∀ hold, Keyed.key (write hold) = Keyed.key hold} (sole : SoleHolder holds)
    (quiet : ∀ hold, (write hold).seatId = hold.seatId ∧
      ((write hold).status = .active → hold.status = .active)) :
    SoleHolder (holds.update hit write keeps) := by
  have before {hold : SeatHold} : (if hit hold then write hold else hold).seatId = hold.seatId ∧
      ((if hit hold then write hold else hold).status = .active → hold.status = .active) := by
    split
    · exact quiet hold
    · exact ⟨rfl, id⟩
  intro hold member other member' active active' seatId seated seated'
  obtain ⟨old, stored, rfl⟩ := Table.mem_update.mp member
  obtain ⟨old', stored', rfl⟩ := Table.mem_update.mp member'
  rw [before.1] at seated seated'
  have same := sole old stored old' stored' (before.2 active) (before.2 active') seatId seated
    seated'
  rw [same]

theorem mem_activeHeldSeatIds {seatIds : List Nat} {hold : SeatHold} {seatId : Nat}
    (stored : hold ∈ holds) (active : hold.status = .active) (seated : hold.seatId = some seatId)
    (named : seatId ∈ seatIds) : seatId ∈ activeHeldSeatIds holds seatIds :=
  List.mem_filterMap.mpr
    ⟨hold, Table.mem_select.mpr ⟨stored, ⟨seatId, named, seated⟩, active⟩, seated⟩

/-- A seat that can be held is neither held nor assigned. -/
theorem available_of_not_unavailable {db : Db} {eventId : Nat} {ids : List Nat} {seatId : Nat}
    (available : seatUnavailable db holds eventId ids seatId = false) :
    seatId ∉ activeHeldSeatIds holds ids ∧ seatId ∉ assignedSeatIds db.seatAssignments ids := by
  unfold seatUnavailable at available
  split at available
  · cases available
  · simp only [Bool.or_eq_false_iff, List.contains_eq_mem, decide_eq_false_iff_not] at available
    exact ⟨available.1.2, available.2⟩

theorem SoleHolder.insertEach {db : Db} {input : HoldSeatsInput} (sole : SoleHolder holds)
    (available : ∀ id ∈ distinctIds input.seatIds,
      seatUnavailable db holds input.eventId (distinctIds input.seatIds) id = false) :
    SoleHolder (holds.insertEach (distinctIds input.seatIds) (heldSeat input)) := by
  have unheld {index : Nat} (inRange : index < (distinctIds input.seatIds).length) {old : SeatHold}
      (stored : old ∈ holds) (active : old.status = .active)
      (seated : old.seatId = some (distinctIds input.seatIds)[index]) : False :=
    (available_of_not_unavailable (available _ (List.getElem_mem inRange))).1
      (mem_activeHeldSeatIds stored active seated (List.getElem_mem inRange))
  intro hold member other member' active active' seatId seated seated'
  rcases Table.mem_insertEach.mp member with old | ⟨index, inRange, rfl⟩ <;>
    rcases Table.mem_insertEach.mp member' with old' | ⟨index', inRange', rfl⟩
  · exact sole hold old other old' active active' seatId seated seated'
  · cases seated'
    exact absurd (unheld inRange' old active seated) id
  · cases seated
    exact absurd (unheld inRange old' active' seated') id
  · have same : (distinctIds input.seatIds)[index] = (distinctIds input.seatIds)[index'] :=
      (Option.some.inj seated).trans (Option.some.inj seated').symm
    obtain rfl := ((nodup_distinctIds input.seatIds).getElem_inj_iff).mp same
    rfl

theorem SoleHolder.insertQuantity {input : HoldQuantityInput} (sole : SoleHolder holds) :
    SoleHolder (holds.insert (heldQuantity input)) := by
  intro hold member other member' active active' seatId seated seated'
  rcases Table.mem_insert.mp member with old | rfl
  · rcases Table.mem_insert.mp member' with old' | rfl
    · exact sole hold old other old' active active' seatId seated seated'
    · cases seated'
  · cases seated

theorem SoleHolder.committed {db after : Db} {now : Instant} {op : Op}
    (sole : SoleHolder db.seatHolds) (committed : Committed db now op after) :
    SoleHolder after.seatHolds := by
  cases committed with
  | idle | joined | offered | recorded | enqueued => exact sole
  | sweptSeats | sweptTier | released | releasedUnattached | expired | releasedOrder | rejected =>
    exact sole.update fun _ => ⟨rfl, fun active => by cases active⟩
  | heldSeats input available =>
    have swept : SoleHolder (expireLapsedForSeats db.seatHolds (distinctIds input.seatIds) now) :=
      sole.update fun _ => ⟨rfl, fun active => by cases active⟩
    exact swept.insertEach available
  | heldQuantity input =>
    have swept : SoleHolder (expireLapsedForTier db.seatHolds input.ticketTypeId now) :=
      sole.update fun _ => ⟨rfl, fun active => by cases active⟩
    exact swept.insertQuantity
  | placed input _ _ placement =>
    rw [placement.seatHolds]
    unfold settledHolds
    split
    · exact sole.update fun _ => ⟨rfl, fun active => by cases active⟩
    · exact sole.update fun _ => ⟨rfl, id⟩
  | settled _ _ _ _ _ settles =>
    cases settles with
    | already | unavailable => exact sole
    | refused | completes => exact sole.update fun _ => ⟨rfl, fun active => by cases active⟩
    | awaits =>
      refine SoleHolder.update (SoleHolder.update sole fun _ => ⟨rfl, fun active => by cases active⟩) ?_
      exact fun _ => ⟨rfl, id⟩
  | refunded _ _ order =>
    unfold refundedDb
    dsimp only
    split
    · exact sole.update fun _ => ⟨rfl, fun active => by cases active⟩
    · exact sole

end Sole

/-! ## The seats stamped with an order -/

/-- No reservation is made in an order's name, and no confirm takes over a hold an order has. -/
def SparesHolds (db : Db) (now : Instant) : Op → Prop
  | .holdSeats input => input.orderId = none
  | .placeOrder input =>
    Accepts db now input → ∀ hold ∈ db.seatHolds, hold.id ∈ input.holdIds → hold.orderId = none
  | _ => True

section Held

variable {db after : Db} {now : Instant}

/-- Ending, reviving or sweeping a hold leaves it stamped with its order and its seat. -/
theorem heldSeatIds_update {holds : Table SeatHold} {hit : SeatHold → Prop} [DecidablePred hit]
    {write : SeatHold → SeatHold} {keeps : ∀ hold, Keyed.key (write hold) = Keyed.key hold}
    {orderId : Nat}
    (same : ∀ hold, (write hold).orderId = hold.orderId ∧ (write hold).seatId = hold.seatId) :
    heldSeatIds (holds.update hit write keeps) orderId = heldSeatIds holds orderId :=
  Table.filterMap_select_update fun hold _ _ => by rw [(same hold).1, (same hold).2]

theorem heldSeatIds_convertOther {holds : Table SeatHold} {settled orderId : Nat}
    (other : settled ≠ orderId) :
    heldSeatIds (convertOrderHolds holds settled) orderId = heldSeatIds holds orderId := by
  refine Table.filterMap_select_update fun hold _ mine => ?_
  simp [mine, other]

/-- Waiting for the decision, an order drops its quantity holds and keeps its seats. -/
theorem heldSeatIds_forDecision {holds : Table SeatHold} {settled orderId : Nat} :
    heldSeatIds (holdForDecision holds settled) orderId = heldSeatIds holds orderId := by
  refine Eq.trans (heldSeatIds_update fun _ => ⟨rfl, rfl⟩) ?_
  refine Table.filterMap_select_update fun hold _ mine => ?_
  simp [mine.2]

/-- Operations but a confirm leave the seats stamped with an order that stays unconfirmed. -/
theorem heldSeatIds_committed {op : Op} (spares : SparesHolds db now op)
    (other : ∀ input, op ≠ .placeOrder input) (committed : Committed db now op after) {id : Nat}
    (open' : ∀ order, after.orders.find id = some order → order.status ≠ .confirmed) :
    heldSeatIds after.seatHolds id = heldSeatIds db.seatHolds id := by
  cases committed with
  | idle | joined | offered | recorded | enqueued => rfl
  | sweptSeats | sweptTier | released | releasedUnattached | expired | releasedOrder | rejected =>
    exact heldSeatIds_update fun _ => ⟨rfl, rfl⟩
  | heldSeats input =>
    have unowned : input.orderId = none := spares
    unfold heldSeatIds
    rw [Table.select_insertEach_of_miss fun _ _ => by simp [unowned]]
    exact heldSeatIds_update fun _ => ⟨rfl, rfl⟩
  | heldQuantity input =>
    have swept : heldSeatIds (expireLapsedForTier db.seatHolds input.ticketTypeId now) id =
        heldSeatIds db.seatHolds id := heldSeatIds_update fun _ => ⟨rfl, rfl⟩
    rw [← swept]
    unfold heldSeatIds
    rw [Table.select_insert, List.filterMap_append]
    split <;> simp [heldQuantity]
  | placed input => exact absurd rfl (other input)
  | settled input order _ _ found settles =>
    cases settles with
    | already | unavailable => rfl
    | refused => exact heldSeatIds_update fun _ => ⟨rfl, rfl⟩
    | awaits => exact heldSeatIds_forDecision
    | completes _ _ line assignments =>
      refine heldSeatIds_convertOther fun same => ?_
      subst same
      have stored : db.orders.find order.id = some order := Table.find_self found
      refine open' (confirmedOrder input order now order) ?_ rfl
      change (db.orders.update (fun row => row.id = order.id) _).find order.id = _
      rw [Table.find_update, stored]
      simp
  | refunded _ _ order =>
    unfold refundedDb
    dsimp only
    split
    · exact heldSeatIds_update fun _ => ⟨rfl, rfl⟩
    · rfl

/-- The seats of the holds a confirm names, which are its own and each held once. -/
theorem heldSeatIds_named {input : PlaceOrderInput} (sole : SoleHolder db.seatHolds)
    (accepts : Accepts db now input) (reserved : input.seatIds ≠ []) :
    ((db.seatHolds.select fun hold => hold.id ∈ input.holdIds).filterMap SeatHold.seatId).Perm
      input.seatIds := by
  obtain ⟨_, active, matched⟩ := accepts
  have match' : heldSeatsMatch (heldSeatsCheck db input) = true :=
    (assertHeldSeatsMatch_ok.mp matched).resolve_left reserved
  have distinct : (db.seatHolds.select fun hold => hold.id ∈ input.holdIds).Pairwise
      fun hold other => ∀ seatId, hold.seatId = some seatId → ∀ seatId', other.seatId = some seatId' →
        seatId ≠ seatId' := by
    refine Table.nodup_select.pairwise_of_forall_ne fun hold member other member' different => ?_
    obtain ⟨stored, named⟩ := Table.mem_select.mp member
    obtain ⟨stored', named'⟩ := Table.mem_select.mp member'
    rintro seatId seated _ seated' rfl
    exact different (sole hold stored other stored' (reserves_of_named active stored named).1
      (reserves_of_named active stored' named').1 seatId seated seated')
  have nodup : input.seatIds.Nodup := (input.seated.resolve_left reserved).1
  refine (List.perm_ext_iff_of_nodup (List.pairwise_filterMap.mpr distinct) nodup).mpr ?_
  exact heldSeatsMatch_same match'

/-- A new order that keeps its holds is stamped on exactly the seats it is priced for. -/
theorem heldSeatIds_attached {input : PlaceOrderInput} (sole : SoleHolder db.seatHolds)
    (backed : HoldsBacked db.orders db.seatHolds) (accepts : Accepts db now input)
    (reserved : input.seatIds ≠ []) (keeps : input.convertsHolds = false) :
    (heldSeatIds (settledHolds input db.seatHolds db.orders.next) db.orders.next).Perm
      input.seatIds := by
  refine List.Perm.trans (List.Perm.of_eq ?_) (heldSeatIds_named sole accepts reserved)
  have unborn : ∀ hold ∈ db.seatHolds, hold.orderId ≠ some db.orders.next := by
    intro hold stored mine
    have exists' := backed hold stored _ mine
    rw [Table.find_next] at exists'
    cases exists'
  unfold settledHolds
  rw [if_neg (by simp [keeps])]
  refine Table.filterMap_select_written fun hold stored => ?_
  by_cases named : hold.id ∈ input.holdIds
  · simp [named]
  · simp [named, unborn hold stored]

/-- A confirm that takes over nobody's hold leaves the seats of every other order. -/
theorem heldSeatIds_placed {input : PlaceOrderInput}
    (free : ∀ hold ∈ db.seatHolds, hold.id ∈ input.holdIds → hold.orderId = none) {id : Nat}
    (older : id ≠ db.orders.next) :
    heldSeatIds (settledHolds input db.seatHolds db.orders.next) id =
      heldSeatIds db.seatHolds id := by
  unfold settledHolds
  split
  · refine Table.filterMap_select_update fun hold stored named => ?_
    simp [free hold stored named]
  · refine Table.filterMap_select_update fun hold stored named => ?_
    simp [free hold stored named, Ne.symm older]

end Held

/-! ## What a priced order is owed -/

/-- A priced seat exists and sells under the ticket type on the event's map. -/
def SeatSells (db : Db) (eventId ticketTypeId seatId : Nat) : Prop :=
  ∃ seat ∈ db.seats, seat.id = seatId ∧
    seatSellsUnder seat.ticketTypeId ticketTypeId (mapHasTypedSeats db eventId) = true

/-- The seats each order was priced for, as the tables keep them until its settlement. -/
structure Custody (priced : Nat → List Nat) (db : Db) : Prop where
  references : References db
  sole : SoleHolder db.seatHolds
  born : ∀ id, priced id ≠ [] → (db.orders.find id).isSome
  nodup : ∀ id, (priced id).Nodup
  counted : ∀ item ∈ db.orderItems, priced item.orderId ≠ [] →
    (priced item.orderId).length = item.quantity
  sells : ∀ order ∈ db.orders, ∀ item ∈ db.orderItems, item.orderId = order.id →
    ∀ seatId ∈ priced order.id, SeatSells db order.eventId item.ticketTypeId seatId
  queued : ∀ order ∈ db.orders, order.status = .waitlisted → priced order.id = []
  held : ∀ order ∈ db.orders, order.status = .pending → priced order.id ≠ [] →
    (heldSeatIds db.seatHolds order.id).Perm (priced order.id)

section Custody

variable {db after : Db} {now : Instant} {priced : Nat → List Nat}

/-- No operation touches the seats or their map, and none but a new order adds a line. -/
structure SameVenue (db after : Db) : Prop where
  seats : after.seats = db.seats
  seatMaps : after.seatMaps = db.seatMaps

theorem committed_venue {op : Op} (committed : Committed db now op after) : SameVenue db after := by
  cases committed with
  | placed _ _ _ placement => exact ⟨placement.seats, placement.seatMaps⟩
  | settled _ _ _ _ _ settles => cases settles <;> exact ⟨rfl, rfl⟩
  | _ => exact ⟨rfl, rfl⟩

theorem SeatSells.venue {eventId ticketTypeId seatId : Nat} (same : SameVenue db after)
    (sells : SeatSells db eventId ticketTypeId seatId) :
    SeatSells after eventId ticketTypeId seatId := by
  have typed : mapHasTypedSeats after eventId = mapHasTypedSeats db eventId := by
    unfold mapHasTypedSeats
    rw [same.seats, same.seatMaps]
  obtain ⟨seat, stored, named, under⟩ := sells
  exact ⟨seat, same.seats ▸ stored, named, by rwa [typed]⟩

/-- The row an order had before an operation that prices nothing, if seats are priced for it. -/
theorem Custody.old {op : Op} (custody : Custody priced db) (committed : Committed db now op after)
    {order : Order} (member : order ∈ after.orders) (reserved : priced order.id ≠ []) :
    ∃ old ∈ db.orders, old.id = order.id ∧ OrderStep now op old order := by
  obtain ⟨old, found⟩ := Option.isSome_iff_exists.mp (custody.born order.id reserved)
  obtain ⟨new, found', moved⟩ := committed_order committed found
  obtain ⟨stored, same⟩ := Table.find_eq_some.mp found
  have again : after.orders.find order.id = some order := Table.find_key member
  rw [again] at found'
  cases found'
  exact ⟨old, stored, same, moved⟩

/-- Every operation but a confirm keeps custody, when it takes over nobody's hold. -/
theorem Custody.committed {op : Op} (custody : Custody priced db)
    (spares : SparesHolds db now op) (other : ∀ input, op ≠ .placeOrder input)
    (committed : Committed db now op after) : Custody priced after where
  references := custody.references.committed committed
  sole := custody.sole.committed committed
  born := by
    intro id reserved
    obtain ⟨order, found⟩ := Option.isSome_iff_exists.mp (custody.born id reserved)
    obtain ⟨new, found', _⟩ := committed_order committed found
    simp [found']
  nodup := custody.nodup
  counted := by
    intro item member reserved
    rcases committed_items committed item member with old | fresh
    · exact custody.counted item old reserved
    · have exists' := custody.born item.orderId reserved
      rw [fresh, Table.find_next] at exists'
      cases exists'
  sells := by
    intro order member item member' mine seatId named
    have reserved : priced order.id ≠ [] := List.ne_nil_of_mem named
    obtain ⟨old, stored, same, moved⟩ := custody.old committed member reserved
    rcases committed_items committed item member' with line | fresh
    · rw [moved.eventId]
      exact (custody.sells old stored item line (mine.trans same.symm) seatId
        (by rwa [same])).venue (committed_venue committed)
    · have exists' := custody.born order.id reserved
      rw [← mine, fresh, Table.find_next] at exists'
      cases exists'
  queued := by
    intro order member waiting
    by_contra reserved
    obtain ⟨old, stored, same, moved⟩ := custody.old committed member reserved
    exact reserved (same ▸ custody.queued old stored (moved.waitlisted waiting))
  held := by
    intro order member pending reserved
    obtain ⟨old, stored, same, moved⟩ := custody.old committed member reserved
    have unmoved : heldSeatIds after.seatHolds order.id = heldSeatIds db.seatHolds order.id := by
      refine heldSeatIds_committed spares other committed fun row found confirmed => ?_
      have again : after.orders.find order.id = some order := Table.find_key member
      rw [again] at found
      cases found
      rw [pending] at confirmed
      cases confirmed
    rw [unmoved, ← same]
    rcases moved.pending pending with before | waiting
    · exact custody.held old stored before (by rwa [same])
    · exact absurd (same ▸ custody.queued old stored waiting) reserved

/-- The seats each order is priced for once a confirm has placed the next one. -/
def pricedWith (priced : Nat → List Nat) (orderId : Nat) (seatIds : List Nat) (id : Nat) :
    List Nat :=
  if id = orderId then seatIds else priced id

@[simp] theorem pricedWith_self {orderId : Nat} {seatIds : List Nat} :
    pricedWith priced orderId seatIds orderId = seatIds := if_pos rfl

theorem pricedWith_of_ne {orderId id : Nat} {seatIds : List Nat} (other : id ≠ orderId) :
    pricedWith priced orderId seatIds id = priced id := if_neg other

/-- A confirm prices distinct seats that sell under its ticket type. -/
theorem placed_sells {input : PlaceOrderInput} {placed : PlacedOrder}
    (placement : Placed db input now placed after) {seatId : Nat} (named : seatId ∈ input.seatIds) :
    SeatSells db input.eventId input.ticketTypeId seatId := by
  have reserved : input.seatIds ≠ [] := List.ne_nil_of_mem named
  have sells := heldSeatsMatch_sells
    ((assertHeldSeatsMatch_ok.mp placement.matched).resolve_left reserved) named
  unfold pricedSeatSells heldSeatsCheck at sells
  dsimp only at sells
  split at sells
  · cases sells
  next typed =>
    obtain ⟨seat, found, rfl⟩ := Option.map_eq_some_iff.mp typed
    obtain ⟨stored, same⟩ := Table.find_eq_some.mp found
    exact ⟨seat, stored, same, sells⟩

/-- A row of the orders after a confirm: an older order, or the one it placed. -/
theorem placed_orders {input : PlaceOrderInput} {placed : PlacedOrder}
    (placement : Placed db input now placed after) {order : Order} (member : order ∈ after.orders) :
    (order ∈ db.orders ∧ order.id ≠ db.orders.next) ∨
      (order = newOrder db input now db.orders.next ∧ order.id = db.orders.next) := by
  rw [placement.orders] at member
  rcases Table.mem_insert.mp member with old | rfl
  · exact Or.inl ⟨old, Nat.ne_of_lt (Table.key_lt_next old)⟩
  · exact Or.inr ⟨rfl, rfl⟩

/-- A line after a confirm: an older order's, or the one it wrote. -/
theorem placed_items {input : PlaceOrderInput} {placed : PlacedOrder}
    (placement : Placed db input now placed after) (references : References db) {item : OrderItem}
    (member : item ∈ after.orderItems) :
    (item ∈ db.orderItems ∧ item.orderId ≠ db.orders.next) ∨
      item = itemRow input.toOrderInsert db.orders.next db.orderItems.next := by
  rw [placement.orderItems] at member
  rcases Table.mem_insert.mp member with old | rfl
  · refine Or.inl ⟨old, fun fresh => ?_⟩
    have exists' := references.items item old
    rw [fresh, Table.find_next] at exists'
    cases exists'
  · exact Or.inr rfl

/-- An order that starts out pending keeps the holds of its seats. -/
theorem keepsHolds_of_pending {input : PlaceOrderInput}
    (pending : (newOrder db input now db.orders.next).status = .pending)
    (reserved : input.seatIds ≠ []) : input.convertsHolds = false := by
  rcases Bool.eq_false_or_eq_true input.issueTickets with issues | none
  · simp [initialState, issues] at pending
  · simp [PlaceOrderInput.convertsHolds, none, reserved]

theorem Custody.placed {input : PlaceOrderInput} {placed : PlacedOrder}
    (custody : Custody priced db)
    (free : ∀ hold ∈ db.seatHolds, hold.id ∈ input.holdIds → hold.orderId = none)
    (placement : Placed db input now placed after) :
    Custody (pricedWith priced db.orders.next input.seatIds) after where
  references := custody.references.placed placement
  sole := custody.sole.committed (.placed input placed after placement)
  born := by
    intro id reserved
    rw [placement.orders]
    by_cases fresh : id = db.orders.next
    · rw [Table.find_insert, if_pos fresh]
      rfl
    · rw [pricedWith_of_ne fresh] at reserved
      exact Table.isSome_find_insert (custody.born id reserved)
  nodup := by
    intro id
    unfold pricedWith
    split
    · rcases input.seated with none | reserved
      · simp [none]
      · exact reserved.1
    · exact custody.nodup id
  counted := by
    intro item member reserved
    rcases placed_items placement custody.references member with ⟨old, older⟩ | rfl
    · rw [pricedWith_of_ne older] at reserved ⊢
      exact custody.counted item old reserved
    · simp only [pricedWith_self] at reserved ⊢
      exact (input.seated.resolve_left reserved).2
  sells := by
    intro order member item member' mine seatId named
    refine SeatSells.venue ⟨placement.seats, placement.seatMaps⟩ ?_
    rcases placed_orders placement member with ⟨old, older⟩ | ⟨rfl, fresh⟩
    · rw [pricedWith_of_ne older] at named
      rcases placed_items placement custody.references member' with ⟨line, _⟩ | rfl
      · exact custody.sells order old item line mine seatId named
      · exact absurd mine.symm older
    · rw [fresh, pricedWith_self] at named
      rcases placed_items placement custody.references member' with ⟨_, other⟩ | rfl
      · exact absurd (mine.trans fresh) other
      · exact placed_sells placement named
  queued := by
    intro order member waiting
    rcases placed_orders placement member with ⟨old, older⟩ | ⟨rfl, _⟩
    · rw [pricedWith_of_ne older]
      exact custody.queued order old waiting
    · cases issues : input.issueTickets <;>
        simp [initialState, issues] at waiting
  held := by
    intro order member pending reserved
    rw [placement.seatHolds]
    rcases placed_orders placement member with ⟨old, older⟩ | ⟨rfl, fresh⟩
    · rw [pricedWith_of_ne older] at reserved ⊢
      rw [heldSeatIds_placed free older]
      exact custody.held order old pending reserved
    · rw [fresh, pricedWith_self] at reserved ⊢
      exact heldSeatIds_attached custody.sole custody.references.holds placement.accepts reserved
        (keepsHolds_of_pending pending reserved)

end Custody

/-- One step keeps custody of every priced seat when it takes over nobody's hold. -/
theorem Custody.step {workspace : Workspace} {op : Op}
    (custody : Custody workspace.priced workspace.db)
    (spares : SparesHolds workspace.db workspace.clock op) :
    Custody (Source.step workspace op).priced (Source.step workspace op).db := by
  by_cases confirm : ∃ input, op = .placeOrder input
  · obtain ⟨input, rfl⟩ := confirm
    rcases step_placed workspace input with ⟨same, priced⟩ | ⟨⟨placed, placement⟩, priced⟩
    · rwa [same, priced]
    · rw [priced]
      exact custody.placed (spares placement.accepts) placement
  · have other : ∀ input, op ≠ .placeOrder input := fun input same => confirm ⟨input, same⟩
    rw [step_priced workspace other]
    exact step_preserves
      (fun _ committed => custody.committed spares other (commit_cases committed)) custody

theorem Opening.custody {workspace : Workspace} (opening : Opening workspace.db)
    (sole : SoleHolder workspace.db.seatHolds) (unpriced : ∀ id, workspace.priced id = []) :
    Custody workspace.priced workspace.db where
  references := opening.references
  sole := sole
  born := fun id reserved => absurd (unpriced id) reserved
  nodup := fun id => by simp [unpriced id]
  counted := fun _ _ reserved => absurd (unpriced _) reserved
  sells := fun _ _ _ _ _ _ named => absurd (unpriced _) (List.ne_nil_of_mem named)
  queued := fun _ _ _ => unpriced _
  held := fun _ _ _ reserved => absurd (unpriced _) reserved

end EventaApi.Guarantees
