import EventaApi.Guarantees.SeatCustody

/-!
# A confirmed reserved order is seated

Settlement rereads the seats from the holds stamped with the order and skips every
seat check when it finds none. With the seats in the order's custody it finds exactly
the ones priced, so each ticket it mints is bound to one of them; a hold that another
confirm took over leaves a confirmed order without a seat.
-/
namespace EventaApi.Guarantees
open Library Source

/-- Every ticket of an order, whatever became of it. -/
def ticketsOf (db : Db) (orderId : Nat) : List Ticket :=
  db.tickets.select fun ticket => ticket.orderId = orderId

/-- The live seat assignments of an order's tickets. -/
def boundTo (db : Db) (orderId : Nat) : List SeatAssignment :=
  db.seatAssignments.select fun assignment =>
    assignment.releasedAt = none ∧ assignment.ticketId ∈ (ticketsOf db orderId).map Ticket.id

/-- Its tickets are live, one live assignment each, on exactly these seats. -/
structure Seated (db : Db) (orderId : Nat) (seatIds : List Nat) : Prop where
  live : ∀ ticket ∈ ticketsOf db orderId, ticket.live
  bound : ((boundTo db orderId).map SeatAssignment.ticketId).Perm
    ((ticketsOf db orderId).map Ticket.id)
  seats : ((boundTo db orderId).map SeatAssignment.seatId).Perm seatIds

section Tables

variable {db after : Db} {orderId : Nat}

/-- An order's tickets and seats are read off two tables. -/
theorem seats_unmoved (tickets : after.tickets = db.tickets)
    (assignments : after.seatAssignments = db.seatAssignments) (orderId : Nat) :
    ticketsOf after orderId = ticketsOf db orderId ∧ boundTo after orderId = boundTo db orderId := by
  unfold boundTo ticketsOf
  rw [tickets, assignments]
  exact ⟨rfl, rfl⟩

theorem Seated.congr {seatIds : List Nat} (seated : Seated db orderId seatIds)
    (tickets : ticketsOf after orderId = ticketsOf db orderId)
    (bound : boundTo after orderId = boundTo db orderId) : Seated after orderId seatIds where
  live := tickets ▸ seated.live
  bound := by
    rw [tickets, bound]
    exact seated.bound
  seats := by
    rw [bound]
    exact seated.seats

/-- The tickets a batch mints for an order that had none. -/
theorem ticketsOf_minted {α : Type} {values : List α} {each : α → Nat → Ticket}
    {keyed : ∀ value key, Keyed.key (each value key) = key} (unissued : ticketsOf db orderId = [])
    (tickets : after.tickets = db.tickets.insertEach values each keyed)
    (mine : ∀ value key, (each value key).orderId = orderId) :
    ticketsOf after orderId = values.mapIdx fun index value => each value (db.tickets.next + index) := by
  unfold ticketsOf at unissued ⊢
  rw [tickets, Table.select_insertEach, unissued, List.nil_append, List.filter_eq_self]
  intro ticket member
  obtain ⟨_, _, rfl⟩ := List.mem_mapIdx.mp member
  simp [mine]

theorem map_id_minted {α : Type} {values : List α} {each : α → Nat → Ticket} {next : Nat}
    (keyed : ∀ value key, Keyed.key (each value key) = key) :
    (values.mapIdx fun index value => each value (next + index)).map Ticket.id =
      List.range' next values.length := by
  refine List.ext_getElem (by simp) fun index _ _ => ?_
  rw [List.getElem_map, List.getElem_mapIdx, List.getElem_range', Nat.one_mul]
  exact keyed _ _

/-- What `assignSeats` writes: each seat with the ticket at its place. -/
theorem boundTo_assigned (refs : References db) {seatIds : List Nat} {quantity : Nat}
    (length : seatIds.length = quantity) (reserved : seatIds ≠ [])
    (ids : (ticketsOf after orderId).map Ticket.id = List.range' db.tickets.next quantity)
    (seated : assignSeats db.seatAssignments seatIds (List.range' db.tickets.next quantity) =
      .ok after.seatAssignments) :
    (boundTo after orderId).map SeatAssignment.ticketId =
        (ticketsOf after orderId).map Ticket.id ∧
      (boundTo after orderId).map SeatAssignment.seatId = seatIds := by
  rcases assignSeats_ok.mp seated with ⟨none, _⟩ | ⟨_, _, _, assignments⟩
  · exact absurd none reserved
  · have older : (db.seatAssignments.select fun assignment => assignment.releasedAt = none ∧
        assignment.ticketId ∈ List.range' db.tickets.next quantity) = [] := by
      refine List.filter_eq_nil_iff.mpr fun assignment stored => ?_
      obtain ⟨ticket, found⟩ := Option.isSome_iff_exists.mp (refs.assignments assignment stored)
      obtain ⟨member, same⟩ := Table.find_eq_some.mp found
      have below := Table.key_lt_next member
      simp only [decide_eq_true_eq, List.mem_range'_1]
      omega
    have sameLength : seatIds.length = (List.range' db.tickets.next quantity).length := by
      rw [length, List.length_range']
    unfold boundTo
    rw [ids, assignments, Table.select_insertEach, older, List.nil_append,
      List.filter_eq_self.mpr]
    · refine ⟨?_, ?_⟩
      · refine List.ext_getElem (by simp [length]) fun index _ _ => by simp
      · refine List.ext_getElem (by simp [length]) fun index _ _ => by simp
    · intro assignment member
      obtain ⟨index, inRange, rfl⟩ := List.mem_mapIdx.mp member
      simpa using (List.of_mem_zip (List.getElem_mem inRange)).2

/-- Minting an order's tickets and assigning as many seats seats it. -/
theorem seated_minted (refs : References db) {α : Type} {values : List α}
    {each : α → Nat → Ticket} {keyed : ∀ value key, Keyed.key (each value key) = key}
    (unissued : ticketsOf db orderId = [])
    (tickets : after.tickets = db.tickets.insertEach values each keyed)
    (mine : ∀ value key, (each value key).orderId = orderId)
    (issued : ∀ value key, (each value key).status = .issued) {seatIds : List Nat}
    (length : seatIds.length = values.length) (reserved : seatIds ≠ [])
    (seated : assignSeats db.seatAssignments seatIds
      (List.range' db.tickets.next values.length) = .ok after.seatAssignments) :
    Seated after orderId seatIds := by
  have minted := ticketsOf_minted unissued tickets mine
  have ids : (ticketsOf after orderId).map Ticket.id =
      List.range' db.tickets.next values.length := by
    rw [minted]
    exact map_id_minted keyed
  obtain ⟨bound, seats⟩ := boundTo_assigned refs length reserved ids seated
  refine ⟨fun ticket member => ?_, List.Perm.of_eq bound, List.Perm.of_eq seats⟩
  rw [minted] at member
  obtain ⟨_, _, rfl⟩ := List.mem_mapIdx.mp member
  exact Or.inl (issued _ _)

/-- Another order's tickets and seats leave this one's as they were. -/
theorem seats_otherMinted {other : Nat} (different : other ≠ orderId)
    {α : Type} {values : List α} {each : α → Nat → Ticket}
    {keyed : ∀ value key, Keyed.key (each value key) = key}
    (tickets : after.tickets = db.tickets.insertEach values each keyed)
    (theirs : ∀ value key, (each value key).orderId = other) {seatIds : List Nat} {quantity : Nat}
    (seated : assignSeats db.seatAssignments seatIds (List.range' db.tickets.next quantity) =
      .ok after.seatAssignments) :
    ticketsOf after orderId = ticketsOf db orderId ∧ boundTo after orderId = boundTo db orderId := by
  have same : ticketsOf after orderId = ticketsOf db orderId := by
    unfold ticketsOf
    rw [tickets]
    exact Table.select_insertEach_of_miss fun _ _ => by simp [theirs, different]
  refine ⟨same, ?_⟩
  unfold boundTo
  rw [same]
  rcases assignSeats_ok.mp seated with ⟨_, assignments⟩ | ⟨_, _, _, assignments⟩
  · rw [assignments]
  · rw [assignments, Table.select_insertEach, List.append_right_eq_self, List.filter_eq_nil_iff]
    intro assignment member
    obtain ⟨index, inRange, rfl⟩ := List.mem_mapIdx.mp member
    have fresh := (List.of_mem_zip (List.getElem_mem inRange)).2
    simp only [decide_eq_true_eq, true_and, List.mem_map, not_exists, not_and]
    intro ticket mine clash
    have below := Table.key_lt_next (Table.mem_select.mp mine).1
    have above := (List.mem_range'_1.mp (clash ▸ fresh)).1
    exact absurd below (Nat.not_lt.mpr above)

/-- Voiding another order's tickets leaves this one's as they were. -/
theorem seats_otherRefunded {order : Order} (different : order.id ≠ orderId) (ledger : Ledger)
    (now : Instant) :
    ticketsOf (refundedDb db order ledger now) orderId = ticketsOf db orderId ∧
      boundTo (refundedDb db order ledger now) orderId = boundTo db orderId := by
  have same : ticketsOf (refundedDb db order ledger now) orderId = ticketsOf db orderId :=
    Table.select_update_of_miss fun ticket _ hit => by simp [hit.1, different]
  refine ⟨same, ?_⟩
  unfold boundTo
  rw [same]
  refine Table.select_update_of_miss fun assignment _ hit => ⟨fun mine => ?_, by simp⟩
  obtain ⟨voided, taken, same'⟩ := List.mem_map.mp hit.1
  obtain ⟨ticket, own, same''⟩ := List.mem_map.mp mine.2
  obtain ⟨stored, theirs, _⟩ := Table.mem_select.mp taken
  obtain ⟨stored', ours⟩ := Table.mem_select.mp own
  have equal : voided = ticket := Table.eq_of_key stored stored' (same'.trans same''.symm)
  exact different (theirs.symm.trans (equal ▸ ours))

end Tables

/-! ## Along a run -/

/-- Custody until the settlement, seats after it. -/
structure Seating (priced : Nat → List Nat) (db : Db) : Prop where
  custody : Custody priced db
  unissued : ∀ order ∈ db.orders, order.status = .pending ∨ order.status = .waitlisted →
    ticketsOf db order.id = []
  seated : ∀ order ∈ db.orders, order.status = .confirmed → priced order.id ≠ [] →
    Seated db order.id (priced order.id)

section Steps

variable {db after : Db} {now : Instant} {priced : Nat → List Nat}

theorem Seating.keep (seating : Seating priced db) (custody : Custody priced after)
    (orders : after.orders = db.orders) (tickets : after.tickets = db.tickets)
    (assignments : after.seatAssignments = db.seatAssignments) : Seating priced after := by
  have same := seats_unmoved tickets assignments
  refine ⟨custody, fun order member open' => ?_, fun order member confirmed reserved => ?_⟩
  · rw [(same order.id).1]
    exact seating.unissued order (orders ▸ member) open'
  · exact (seating.seated order (orders ▸ member) confirmed reserved).congr (same order.id).1
      (same order.id).2

/-- One order's row is rewritten; the tickets and seats of the others are as they were. -/
theorem Seating.rewrite (seating : Seating priced db) (custody : Custody priced after)
    {order : Order} {write : Order → Order}
    {keeps : ∀ row, Keyed.key (write row) = Keyed.key row} (stored : order ∈ db.orders)
    (orders : after.orders = db.orders.update (fun row => row.id = order.id) write keeps)
    (others : ∀ orderId, order.id ≠ orderId → ticketsOf after orderId = ticketsOf db orderId ∧
      boundTo after orderId = boundTo db orderId)
    (unissued : (write order).status = .pending ∨ (write order).status = .waitlisted →
      ticketsOf after order.id = [])
    (seated : (write order).status = .confirmed → priced order.id ≠ [] →
      Seated after order.id (priced order.id)) : Seating priced after := by
  have rows {row : Order} (member : row ∈ after.orders) :
      (row = write order ∧ row.id = order.id) ∨ (row ∈ db.orders ∧ order.id ≠ row.id) := by
    rw [orders] at member
    obtain ⟨old, before, rfl⟩ := Table.mem_update.mp member
    by_cases hit : old.id = order.id
    · have selected : old = order := Table.eq_of_key before stored hit
      subst selected
      rw [if_pos rfl]
      exact Or.inl ⟨rfl, keeps old⟩
    · rw [if_neg hit]
      exact Or.inr ⟨before, Ne.symm hit⟩
  refine ⟨custody, fun row member open' => ?_, fun row member confirmed reserved => ?_⟩
  · rcases rows member with ⟨rfl, same⟩ | ⟨before, other⟩
    · rw [same]
      exact unissued open'
    · rw [(others row.id other).1]
      exact seating.unissued row before open'
  · rcases rows member with ⟨rfl, same⟩ | ⟨before, other⟩
    · rw [same] at reserved ⊢
      exact seated confirmed reserved
    · exact (seating.seated row before confirmed reserved).congr (others row.id other).1
        (others row.id other).2

/-- An unconfirmed order's row moves and stays unconfirmed. -/
theorem Seating.unconfirmed (seating : Seating priced db) (custody : Custody priced after)
    {order : Order} {write : Order → Order}
    {keeps : ∀ row, Keyed.key (write row) = Keyed.key row} (stored : order ∈ db.orders)
    (orders : after.orders = db.orders.update (fun row => row.id = order.id) write keeps)
    (tickets : after.tickets = db.tickets)
    (assignments : after.seatAssignments = db.seatAssignments)
    (unissued : (write order).status = .pending ∨ (write order).status = .waitlisted →
      order.status = .pending ∨ order.status = .waitlisted)
    (open' : (write order).status ≠ .confirmed) : Seating priced after := by
  have same := seats_unmoved tickets assignments
  refine seating.rewrite custody stored orders (fun orderId _ => same orderId) (fun open'' => ?_)
    fun confirmed => absurd confirmed open'
  rw [(same order.id).1]
  exact seating.unissued order stored (unissued open'')

theorem isOpenFor_awaiting {mode : SettlementMode} {status : OrderStatus}
    (isOpen : isOpenFor mode status = true) : status = .pending ∨ status = .waitlisted := by
  cases mode <;> cases status <;> simp [isOpenFor, AWAITING_DECISION] at isOpen ⊢

/-- A settlement that mints tickets seats a reserved order on the seats it was priced for. -/
theorem Seating.completes (seating : Seating priced db) {input : SettleOrderInput} {order : Order}
    {line : SettlementLine} {assignments : Table SeatAssignment}
    (custody : Custody priced
      (ticketedDb db input order (isAwaitingApproval order) line assignments now))
    (stored : order ∈ db.orders) (isOpen : isOpenFor input.mode order.status = true)
    (honoured : Honoured (loadSettlement db order) line)
    (seated : assignSeats db.seatAssignments (heldSeatIds db.seatHolds order.id)
      (List.range' db.tickets.next line.quantity) = .ok assignments) :
    Seating priced
      (ticketedDb db input order (isAwaitingApproval order) line assignments now) := by
  refine seating.rewrite custody stored rfl (fun orderId other => ?_) ?_ fun _ reserved => ?_
  · exact seats_otherMinted other rfl (fun _ _ => rfl) seated
  · rintro (pending | waiting)
    · cases pending
    · cases waiting
  · have pending : order.status = .pending := by
      refine (isOpenFor_awaiting isOpen).resolve_right fun waiting => reserved ?_
      exact seating.custody.queued order stored waiting
    have held := seating.custody.held order stored pending reserved
    obtain ⟨item, tier, line', mine, _, rfl⟩ := loadSettlement_line honoured.judged
    have counted := seating.custody.counted item line' (by rwa [mine])
    rw [mine] at counted
    have length : (heldSeatIds db.seatHolds order.id).length = (List.range item.quantity).length := by
      rw [held.length_eq, counted, List.length_range]
    have fresh : Seated (ticketedDb db input order (isAwaitingApproval order)
        (settlementLine item tier) assignments now) order.id
        (heldSeatIds db.seatHolds order.id) := by
      refine seated_minted seating.custody.references
        (seating.unissued order stored (Or.inl pending)) rfl (fun _ _ => rfl) (fun _ _ => rfl)
        length (fun none => reserved ?_) ?_
      · exact List.perm_nil.mp (none ▸ held).symm
      · rw [List.length_range]
        exact seated
    exact ⟨fresh.live, fresh.bound, fresh.seats.trans held⟩

theorem Seating.committed {op : Op} (seating : Seating priced db)
    (spares : SparesHolds db now op) (other : ∀ input, op ≠ .placeOrder input)
    (committed : Committed db now op after) : Seating priced after := by
  have custody := seating.custody.committed spares other committed
  cases committed with
  | idle | sweptSeats | heldSeats | sweptTier | heldQuantity | released | releasedUnattached
  | expired | releasedOrder | recorded | enqueued => exact seating.keep custody rfl rfl rfl
  | placed input => exact absurd rfl (other input)
  | joined input attendeeId =>
    have bought := seating.custody.references.tickets
    refine ⟨custody, fun order member open' => ?_, fun order member confirmed reserved => ?_⟩
    · rcases Table.mem_insert.mp member with old | rfl
      · exact seating.unissued order old open'
      · refine List.filter_eq_nil_iff.mpr fun ticket issued mine => ?_
        have exists' := bought ticket issued
        rw [of_decide_eq_true mine] at exists'
        exact absurd exists' (by simp [Table.find_next])
    · rcases Table.mem_insert.mp member with old | rfl
      · exact (seating.seated order old confirmed reserved).congr rfl rfl
      · cases confirmed
  | offered input order found waiting =>
    exact seating.unconfirmed custody (Table.find_eq_some.mp found).1 rfl rfl rfl
      (fun _ => Or.inr waiting) fun confirmed => by cases confirmed
  | settled input order _ _ found settles =>
    have stored := (Table.find_eq_some.mp found).1
    cases settles with
    | already => exact seating.keep custody rfl rfl rfl
    | unavailable => exact seating
    | refused => exact seating.unconfirmed custody stored rfl rfl rfl (fun open' => by
        rcases open' with pending | waiting
        · cases pending
        · cases waiting) fun confirmed => by cases confirmed
    | awaits _ _ _ _ pending =>
      refine seating.unconfirmed custody stored rfl rfl rfl (fun _ => Or.inl pending) ?_
      simp [pending]
    | completes _ _ line assignments isOpen _ honoured seated =>
      exact seating.completes custody stored isOpen honoured seated
  | rejected input order found =>
    exact seating.unconfirmed custody (Table.find_eq_some.mp found).1 rfl rfl rfl (fun open' => by
      rcases open' with pending | waiting
      · cases pending
      · cases waiting) fun confirmed => by cases confirmed
  | refunded _ _ order ledger found =>
    have closed : statusAfterRefund order.status ≠ .pending ∧
        statusAfterRefund order.status ≠ .waitlisted ∧
        statusAfterRefund order.status ≠ .confirmed := by
      unfold statusAfterRefund
      split <;> decide
    refine seating.rewrite custody (Table.find_eq_some.mp found).1 rfl
      (fun orderId different => seats_otherRefunded different ledger now) (fun open' => ?_)
      fun confirmed => absurd confirmed closed.2.2
    rcases open' with pending | waiting
    · exact absurd pending closed.1
    · exact absurd waiting closed.2.1

/-- A confirm seats a reserved order at once, or leaves its seats in its custody. -/
theorem Seating.placed {input : PlaceOrderInput} {placed : PlacedOrder}
    (seating : Seating priced db)
    (free : ∀ hold ∈ db.seatHolds, hold.id ∈ input.holdIds → hold.orderId = none)
    (placement : Placed db input now placed after) :
    Seating (pricedWith priced db.orders.next input.seatIds) after := by
  have refs := seating.custody.references
  have unissued : ticketsOf db db.orders.next = [] := by
    refine List.filter_eq_nil_iff.mpr fun ticket issued mine => ?_
    have exists' := refs.tickets ticket issued
    rw [of_decide_eq_true mine, Table.find_next] at exists'
    cases exists'
  have others : ∀ orderId, orderId ≠ db.orders.next →
      ticketsOf after orderId = ticketsOf db orderId ∧ boundTo after orderId = boundTo db orderId := by
    intro orderId older
    rcases Bool.eq_false_or_eq_true input.issueTickets with issues | none
    · exact seats_otherMinted (Ne.symm older) (placement.ticketed issues) (fun _ _ => rfl)
        (placement.seated issues)
    · exact seats_unmoved (placement.unticketed none) (placement.unseated none) orderId
  refine ⟨seating.custody.placed free placement, fun order member open' => ?_,
    fun order member confirmed reserved => ?_⟩
  · rcases placed_orders placement member with ⟨old, older⟩ | ⟨rfl, fresh⟩
    · rw [(others order.id older).1]
      exact seating.unissued order old open'
    · rw [fresh]
      rcases Bool.eq_false_or_eq_true input.issueTickets with issues | none
      · simp [initialState, issues] at open'
      · rw [(seats_unmoved (placement.unticketed none) (placement.unseated none) _).1]
        exact unissued
  · rcases placed_orders placement member with ⟨old, older⟩ | ⟨rfl, fresh⟩
    · rw [pricedWith_of_ne older] at reserved ⊢
      exact (seating.seated order old confirmed reserved).congr (others order.id older).1
        (others order.id older).2
    · rw [fresh, pricedWith_self] at reserved ⊢
      rcases Bool.eq_false_or_eq_true input.issueTickets with issues | none
      · have minted := input.minted
        rw [if_pos issues] at minted
        refine seated_minted refs unissued (placement.ticketed issues) (fun _ _ => rfl)
          (fun _ _ => rfl) ?_ reserved (placement.seated issues)
        rw [minted]
        exact (input.seated.resolve_left reserved).2
      · simp [initialState, none] at confirmed

theorem Seating.step {workspace : Workspace} {op : Op}
    (seating : Seating workspace.priced workspace.db)
    (spares : SparesHolds workspace.db workspace.clock op) :
    Seating (Source.step workspace op).priced (Source.step workspace op).db := by
  by_cases confirm : ∃ input, op = .placeOrder input
  · obtain ⟨input, rfl⟩ := confirm
    rcases step_placed workspace input with ⟨same, priced⟩ | ⟨⟨placed, placement⟩, priced⟩
    · rwa [same, priced]
    · rw [priced]
      exact seating.placed (spares placement.accepts) placement
  · have other : ∀ input, op ≠ .placeOrder input := fun input same => confirm ⟨input, same⟩
    rw [step_priced workspace other]
    exact step_preserves
      (fun _ committed => seating.committed spares other (commit_cases committed)) seating

end Steps

theorem Opening.seating {workspace : Workspace} (opening : Opening workspace.db)
    (sole : SoleHolder workspace.db.seatHolds) (unpriced : ∀ id, workspace.priced id = []) :
    Seating workspace.priced workspace.db where
  custody := opening.custody sole unpriced
  unissued := fun _ stored => absurd stored (Table.not_mem_of_empty opening.orders _)
  seated := fun _ stored => absurd stored (Table.not_mem_of_empty opening.orders _)

/-- A confirmed order's live tickets are all its tickets. -/
theorem Seated.liveTickets {db : Db} {orderId : Nat} {seatIds : List Nat}
    (seated : Seated db orderId seatIds) : liveTickets db orderId = ticketsOf db orderId := by
  refine List.filter_congr fun ticket stored => ?_
  by_cases mine : ticket.orderId = orderId
  · simp [mine, seated.live ticket (Table.mem_select.mpr ⟨stored, mine⟩)]
  · simp [mine]

/-- In every run in which no confirm takes over a hold an order has, a confirmed order priced for
seats has one live assignment for each live ticket, on exactly those seats, all distinct, each
selling under the ticket type of its line. -/
theorem confirmed_order_seated (start : Workspace) (opening : Opening start.db)
    (sole : SoleHolder start.db.seatHolds) (unpriced : ∀ id, start.priced id = []) (ops : List Op)
    (spares : Meets step (fun workspace => SparesHolds workspace.db workspace.clock) start ops) :
    let after := run step start ops
    ∀ order ∈ after.db.orders, order.status = .confirmed → after.priced order.id ≠ [] →
      ((boundTo after.db order.id).map SeatAssignment.ticketId).Perm
        ((liveTickets after.db order.id).map Ticket.id) ∧
      ((boundTo after.db order.id).map SeatAssignment.seatId).Perm (after.priced order.id) ∧
      ((boundTo after.db order.id).map SeatAssignment.seatId).Nodup ∧
      ∀ item ∈ after.db.orderItems, item.orderId = order.id →
        ∀ seatId ∈ (boundTo after.db order.id).map SeatAssignment.seatId,
          SeatSells after.db order.eventId item.ticketTypeId seatId := by
  intro after order member confirmed reserved
  have each : ∀ workspace op, Seating workspace.priced workspace.db →
      SparesHolds workspace.db workspace.clock op →
        Seating (step workspace op).priced (step workspace op).db :=
    fun _ _ seating spared => seating.step spared
  have seating : Seating after.priced after.db :=
    @run_invariant _ _ step (fun workspace => Seating workspace.priced workspace.db) _ each start
      ops (opening.seating sole unpriced) spares
  have seated := seating.seated order member confirmed reserved
  refine ⟨?_, seated.seats, ?_, fun item line mine seatId assigned => ?_⟩
  · rw [seated.liveTickets]
    exact seated.bound
  · exact seated.seats.nodup_iff.mpr (seating.custody.nodup order.id)
  · exact seating.custody.sells order member item line mine seatId
      (seated.seats.mem_iff.mp assigned)

/-- A held seat, paid for: its one ticket is bound to it. -/
theorem confirmed_order_seated_boxOffice :
    let after := run step boxOffice [.holdSeats (stallHold 0 1000),
      .placeOrder (booking "A" 1 1 (some 0) [0] 100 false), .settleOrder (payment 0)]
    after.db.orders.rows.map Order.status = [.confirmed] ∧ after.priced 0 = [0] ∧
      ∀ order ∈ after.db.orders, order.status = .confirmed → after.priced order.id ≠ [] →
        ((boundTo after.db order.id).map SeatAssignment.seatId).Perm (after.priced order.id) := by
  have spares : Meets step (fun workspace => SparesHolds workspace.db workspace.clock) boxOffice
      [.holdSeats (stallHold 0 1000), .placeOrder (booking "A" 1 1 (some 0) [0] 100 false),
        .settleOrder (payment 0)] := by
    refine ⟨rfl, fun _ => ?_, trivial, trivial⟩
    decide +kernel
  have sole : SoleHolder boxOffice.db.seatHolds :=
    fun _ stored => absurd stored (Table.not_mem_of_empty rfl _)
  refine ⟨by decide +kernel, by decide +kernel, fun order member confirmed reserved => ?_⟩
  exact (confirmed_order_seated boxOffice boxOffice_opening sole (fun _ => rfl) _ spares order
    member confirmed reserved).2.1

/-- A second confirm takes over the hold of a paid order, which then settles without a seat. -/
theorem confirmed_order_unseated :
    let after := run step boxOffice [.holdSeats (stallHold 0 1000),
      .placeOrder (booking "A" 1 1 (some 0) [0] 100 false),
      .placeOrder (booking "B" 1 1 (some 0) [0] 100 false), .settleOrder (payment 0)]
    ¬ ∀ order ∈ after.db.orders, order.status = .confirmed → after.priced order.id ≠ [] →
      ((boundTo after.db order.id).map SeatAssignment.ticketId).Perm
        ((liveTickets after.db order.id).map Ticket.id) := by
  decide +kernel

end EventaApi.Guarantees
