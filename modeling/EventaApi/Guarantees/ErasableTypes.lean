import EventaApi.Guarantees.StockAccounting

/-!
# Ticket types with nothing sold

A ticket type is erased when nothing of it is sold and no hold of it is active. An order's line
refers to its type for good, but the type's places may all come back and its holds may all lapse
or be released while the line is still there. So a type that may be erased is one nothing refers
to exactly as long as each step leaves every type with a line a place sold or a hold.
-/
namespace EventaApi.Guarantees
open Library Source

/-! ## What is asked of ticket types -/

/-- A hold of the ticket type reserves something. -/
def OnHold (holds : Table SeatHold) (now : Instant) (ticketTypeId : Nat) : Prop :=
  ∃ hold ∈ holds, hold.ticketTypeId = some ticketTypeId ∧ hold.reserves now

/-- What `deleteTicket` asks before it erases. -/
def Erasable (workspace : Workspace) (tier : TicketType) : Prop :=
  tier.sold = 0 ∧ ¬ OnHold workspace.db.seatHolds workspace.clock tier.id

def HasLine (db : Db) (ticketTypeId : Nat) : Prop :=
  ∃ item ∈ db.orderItems.rows, item.ticketTypeId = ticketTypeId

/-- No order line, issued ticket or seat assignment refers to the ticket type. -/
def Unreferenced (db : Db) (ticketTypeId : Nat) : Prop :=
  ¬ HasLine db ticketTypeId ∧ (∀ ticket ∈ db.tickets, ticket.ticketTypeId ≠ ticketTypeId) ∧
    ∀ assignment ∈ db.seatAssignments, ∀ ticket ∈ db.tickets.find assignment.ticketId,
      ticket.ticketTypeId ≠ ticketTypeId

def ErasesCleanly (workspace : Workspace) : Prop :=
  ∀ tier ∈ workspace.db.ticketTypes, Erasable workspace tier → Unreferenced workspace.db tier.id

/-! ## What a step takes from a ticket type -/

/-- The step writes an order line of the ticket type. -/
def writesLine (db : Db) (ticketTypeId : Nat) : Op → Prop
  | .placeOrder input =>
    findByIdempotencyKey db input.idempotencyKey = none ∧ input.ticketTypeId = ticketTypeId
  | .joinWaitlist input => existingEntry db input = none ∧ input.ticketTypeId = ticketTypeId
  | _ => False

/-- How many places the step gives back, of those sold. -/
def givesBack (db : Db) (ticketTypeId : Nat) : Op → Nat
  | .rejectOrder input =>
    match db.orders.find input.orderId with
    | some order =>
      if isAwaitingApproval order then lineQuantity db.orderItems order.id ticketTypeId else 0
    | none => 0
  | .refundOrder orderId _ =>
    match db.orders.find orderId with
    | some order => refundedQuantity db order ticketTypeId
    | none => 0
  | _ => 0

/-- The settlement is not refused, and its order's line is of the ticket type. -/
def SettlesFor (db : Db) (input : SettleOrderInput) (ticketTypeId : Nat) : Prop :=
  ∃ order ∈ db.orders.find input.orderId,
    isOpenFor input.mode order.status = true ∧
    settlementBlocker (loadSettlement db order) input.mode = none ∧
    (input.mode = .payment → order.requiresApproval = true →
      seatHoldLost db.seatHolds order.id = false) ∧
    ∃ item ∈ orderLine db order.id, item.ticketTypeId = ticketTypeId

/-- The step sells a place of the ticket type. -/
def sells (db : Db) (ticketTypeId : Nat) : Op → Prop
  | .placeOrder input => input.takesPlaces = true ∧ input.ticketTypeId = ticketTypeId
  | .settleOrder input => SettlesFor db input ticketTypeId
  | _ => False

/-- The hold reserves nothing once the step is done. -/
def endsHold (workspace : Workspace) (hold : SeatHold) : Op → Prop
  | .release holdIds => hold.id ∈ holdIds
  | .releaseUnattached holdIds => hold.id ∈ holdIds ∧ hold.orderId = none
  | .releaseHoldsForOrder orderId => hold.orderId = some orderId ∧
    ∃ order ∈ workspace.db.orders.find orderId, isOnCheckoutClock order = true
  | .placeOrder input => hold.id ∈ input.holdIds ∧ input.takesPlaces = true
  | .settleOrder input => hold.orderId = some input.orderId
  | .rejectOrder input => hold.orderId = some input.orderId
  | .refundOrder orderId _ => hold.orderId = some orderId ∧
    ∃ order ∈ workspace.db.orders.find orderId, isAwaitingApproval order = true
  | .tick elapsed => hold.expiresAt ≤ workspace.clock + elapsed
  | _ => False

/-- A place sold that the step does not give back or that it sells, or a hold that outlasts it. -/
def LeavesPlace (workspace : Workspace) (op : Op) (tier : TicketType) : Prop :=
  givesBack workspace.db tier.id op < tier.sold ∨ sells workspace.db tier.id op ∨
    ∃ hold ∈ workspace.db.seatHolds.rows, hold.ticketTypeId = some tier.id ∧
      hold.reserves workspace.clock ∧ ¬ endsHold workspace hold op

/-- Where the step commits, it leaves every ticket type that an order line refers to a place. -/
def LeavesPlaces (workspace : Workspace) (op : Op) : Prop :=
  (commit workspace.db workspace.clock op).isOk = true →
    ∀ tier ∈ workspace.db.ticketTypes.rows,
      HasLine workspace.db tier.id ∨ writesLine workspace.db tier.id op →
        LeavesPlace workspace op tier

instance (db : Db) (ticketTypeId : Nat) : Decidable (HasLine db ticketTypeId) :=
  inferInstanceAs (Decidable (∃ _ ∈ db.orderItems.rows, _))

instance (db : Db) (ticketTypeId : Nat) : DecidablePred (writesLine db ticketTypeId)
  | .placeOrder _ | .joinWaitlist _ => inferInstanceAs (Decidable (_ ∧ _))
  | .holdSeats _ | .holdQuantity _ | .release _ | .releaseUnattached _ | .expireStale
  | .markOffered _ | .settleOrder _ | .rejectOrder _ | .refundOrder _ _ | .releaseHoldsForOrder _
  | .recordLedger _ | .enqueue _ | .tick _ => isFalse id

instance (db : Db) (input : SettleOrderInput) (ticketTypeId : Nat) :
    Decidable (SettlesFor db input ticketTypeId) :=
  inferInstanceAs (Decidable (∃ order ∈ db.orders.find input.orderId, _ ∧ _ ∧ (_ → _ → _) ∧
    ∃ _ ∈ orderLine db order.id, _))

instance (db : Db) (ticketTypeId : Nat) : DecidablePred (sells db ticketTypeId)
  | .placeOrder _ => inferInstanceAs (Decidable (_ ∧ _))
  | .settleOrder input => inferInstanceAs (Decidable (SettlesFor db input ticketTypeId))
  | .holdSeats _ | .holdQuantity _ | .release _ | .releaseUnattached _ | .expireStale
  | .joinWaitlist _ | .markOffered _ | .rejectOrder _ | .refundOrder _ _ | .releaseHoldsForOrder _
  | .recordLedger _ | .enqueue _ | .tick _ => isFalse id

instance (workspace : Workspace) (hold : SeatHold) : DecidablePred (endsHold workspace hold)
  | .release holdIds => inferInstanceAs (Decidable (hold.id ∈ holdIds))
  | .releaseUnattached _ | .placeOrder _ => inferInstanceAs (Decidable (_ ∧ _))
  | .releaseHoldsForOrder orderId | .refundOrder orderId _ =>
    inferInstanceAs (Decidable (_ ∧ ∃ _ ∈ workspace.db.orders.find orderId, _))
  | .settleOrder input => inferInstanceAs (Decidable (hold.orderId = some input.orderId))
  | .rejectOrder input => inferInstanceAs (Decidable (hold.orderId = some input.orderId))
  | .tick elapsed => inferInstanceAs (Decidable (hold.expiresAt ≤ workspace.clock + elapsed))
  | .holdSeats _ | .holdQuantity _ | .expireStale | .joinWaitlist _ | .markOffered _
  | .recordLedger _ | .enqueue _ => isFalse id

instance (workspace : Workspace) (op : Op) : DecidablePred (LeavesPlace workspace op) :=
  fun _ => inferInstanceAs (Decidable (_ ∨ _ ∨ ∃ _ ∈ workspace.db.seatHolds.rows, _))

instance (workspace : Workspace) (op : Op) : Decidable (LeavesPlaces workspace op) :=
  inferInstanceAs (Decidable (_ → ∀ _ ∈ workspace.db.ticketTypes.rows, _ ∨ _ → _))

/-! ## What lines and tickets refer to -/

/-- Every ticket's type has a line, and every line is of something. -/
structure LinesHeld (db : Db) : Prop where
  tickets : ∀ ticket ∈ db.tickets, HasLine db ticket.ticketTypeId
  positive : ∀ item ∈ db.orderItems, 1 ≤ item.quantity

/-- Every ticket type with a line has a place sold or a hold. -/
def PlacesClaimed (db : Db) (now : Instant) : Prop :=
  ∀ tier ∈ db.ticketTypes, HasLine db tier.id → 0 < tier.sold ∨ OnHold db.seatHolds now tier.id

/-- What refers to a ticket type does so by an order line. -/
theorem erasesCleanly_iff {workspace : Workspace} (held : LinesHeld workspace.db) :
    ErasesCleanly workspace ↔ PlacesClaimed workspace.db workspace.clock := by
  constructor
  · intro clean tier stored lined
    by_contra unclaimed
    rw [not_or, Nat.not_lt, Nat.le_zero] at unclaimed
    exact (clean tier stored unclaimed).1 lined
  · rintro claimed tier stored ⟨unsold, free⟩
    have unlined : ¬ HasLine workspace.db tier.id := by
      intro lined
      rcases claimed tier stored lined with sold | held
      · exact Nat.lt_irrefl 0 (unsold ▸ sold)
      · exact free held
    refine ⟨unlined, fun ticket issued same => ?_, fun assignment _ ticket issued same => ?_⟩
    · exact unlined (same ▸ held.tickets ticket issued)
    · exact unlined (same ▸ held.tickets ticket (Table.find_eq_some.mp issued).1)

section Lines

variable {db after : Db} {now : Instant}

theorem HasLine.grow {ticketTypeId : Nat} (lined : HasLine db ticketTypeId)
    (items : ∀ item ∈ db.orderItems, item ∈ after.orderItems) : HasLine after ticketTypeId := by
  obtain ⟨item, stored, same⟩ := lined
  exact ⟨item, items item stored, same⟩

theorem LinesHeld.congr (held : LinesHeld db) (tickets : after.tickets = db.tickets)
    (items : after.orderItems = db.orderItems) : LinesHeld after where
  tickets := fun ticket issued =>
    (held.tickets ticket (tickets ▸ issued)).grow (items ▸ fun _ stored => stored)
  positive := fun item stored => held.positive item (items ▸ stored)

/-- A new line of one or more places, and perhaps its tickets. -/
theorem LinesHeld.insert (held : LinesHeld db) {input : OrderInsert} {orderId : Nat}
    (items : after.orderItems = db.orderItems.insert (itemRow input orderId))
    (tickets : ∀ ticket ∈ after.tickets,
      ticket ∈ db.tickets ∨ ticket.ticketTypeId = input.ticketTypeId) : LinesHeld after where
  tickets := fun ticket issued => by
    rcases tickets ticket issued with old | same
    · refine (held.tickets ticket old).grow fun item stored => ?_
      rw [items]
      exact Table.mem_insert.mpr (Or.inl stored)
    · refine ⟨itemRow input orderId db.orderItems.next, ?_, same.symm⟩
      rw [items]
      exact Table.mem_insert.mpr (Or.inr rfl)
  positive := fun item stored => by
    rw [items] at stored
    rcases Table.mem_insert.mp stored with old | rfl
    · exact held.positive item old
    · exact input.booking.1

theorem LinesHeld.committed {op : Op} (held : LinesHeld db)
    (committed : Committed db now op after) : LinesHeld after := by
  cases committed with
  | idle | sweptSeats | heldSeats | sweptTier | heldQuantity | released | releasedUnattached
  | expired | releasedOrder | recorded | enqueued | offered | rejected =>
    exact held.congr rfl rfl
  | placed input placed _ placement =>
    refine held.insert placement.orderItems fun ticket issued => ?_
    rcases Bool.eq_false_or_eq_true input.issueTickets with issues | none
    · rw [placement.ticketed issues] at issued
      rcases Table.mem_insertEach.mp issued with old | ⟨_, _, rfl⟩
      · exact Or.inl old
      · exact Or.inr rfl
    · rw [placement.unticketed none] at issued
      exact Or.inl issued
  | joined input => exact held.insert rfl fun ticket issued => Or.inl issued
  | settled input order settlement _ found settles =>
    cases settles with
    | already | refused | unavailable | awaits => exact held.congr rfl rfl
    | completes _ _ line _ _ _ honoured =>
      obtain ⟨item, tier, stored, _, _, rfl⟩ := loadSettlement_line honoured.judged
      refine ⟨fun ticket issued => ?_, held.positive⟩
      rcases Table.mem_insertEach.mp issued with old | ⟨_, _, rfl⟩
      · exact held.tickets ticket old
      · exact ⟨item, stored, rfl⟩
  | refunded orderId _ order ledger =>
    refine ⟨fun ticket issued => ?_, held.positive⟩
    obtain ⟨old, stored, rfl⟩ := Table.mem_update.mp issued
    split <;> exact held.tickets old stored

end Lines

/-! ## One step -/

section Steps

variable {workspace : Workspace} {op : Op} {after : Db} {now : Instant}

/-- What is left of a ticket type by the step's account is there once the step is done. -/
structure PlacesLeft (workspace : Workspace) (op : Op) (after : Db) (now : Instant) : Prop where
  lines : ∀ ticketTypeId, HasLine after ticketTypeId →
    HasLine workspace.db ticketTypeId ∨ writesLine workspace.db ticketTypeId op
  types : ∀ tier ∈ after.ticketTypes, ∃ old ∈ workspace.db.ticketTypes, old.id = tier.id ∧
    (givesBack workspace.db old.id op < old.sold ∨ sells workspace.db old.id op → 0 < tier.sold)
  holds : ∀ hold ∈ workspace.db.seatHolds, hold.reserves workspace.clock →
    ¬ endsHold workspace hold op →
      ∃ kept ∈ after.seatHolds, kept.ticketTypeId = hold.ticketTypeId ∧ kept.reserves now

theorem PlacesLeft.claimed (accounted : PlacesLeft workspace op after now)
    (leaves : ∀ tier ∈ workspace.db.ticketTypes, HasLine workspace.db tier.id ∨
      writesLine workspace.db tier.id op → LeavesPlace workspace op tier) :
    PlacesClaimed after now := by
  intro tier stored lined
  obtain ⟨old, there, same, sold⟩ := accounted.types tier stored
  rcases leaves old there (same ▸ accounted.lines tier.id lined) with
    left | sells | ⟨hold, held, typed, reserves, outlasts⟩
  · exact Or.inl (sold (Or.inl left))
  · exact Or.inl (sold (Or.inr sells))
  · obtain ⟨kept, member, type, still⟩ := accounted.holds hold held reserves outlasts
    exact Or.inr ⟨kept, member, type.trans (typed.trans (congrArg some same)), still⟩

/-- A step that writes holds only. -/
theorem PlacesLeft.ofHolds (types : after.ticketTypes = workspace.db.ticketTypes)
    (items : after.orderItems = workspace.db.orderItems)
    (unsold : ∀ ticketTypeId, ¬ sells workspace.db ticketTypeId op)
    (holds : ∀ hold ∈ workspace.db.seatHolds, hold.reserves workspace.clock →
      ¬ endsHold workspace hold op →
        ∃ kept ∈ after.seatHolds, kept.ticketTypeId = hold.ticketTypeId ∧ kept.reserves now) :
    PlacesLeft workspace op after now where
  lines := fun _ lined => Or.inl (lined.grow (items ▸ fun _ stored => stored))
  types := fun tier stored => by
    refine ⟨tier, types ▸ stored, rfl, ?_⟩
    rintro (left | sells)
    · exact Nat.zero_lt_of_lt left
    · exact absurd sells (unsold tier.id)
  holds := holds

/-- A hold that an update of the holds misses is still there. -/
theorem kept_of_miss {holds : Table SeatHold} {hit : SeatHold → Prop} [DecidablePred hit]
    {write : SeatHold → SeatHold} {keeps : ∀ hold, Keyed.key (write hold) = Keyed.key hold}
    {hold : SeatHold} (stored : hold ∈ holds) (reserves : hold.reserves now) (miss : ¬ hit hold) :
    ∃ kept ∈ holds.update hit write keeps,
      kept.ticketTypeId = hold.ticketTypeId ∧ kept.reserves now :=
  ⟨hold, Table.mem_update_of_miss stored miss, rfl, reserves⟩

/-- Giving places back leaves the type what it did not give. -/
theorem sold_giveBack {types : Table TicketType} {given : Nat → Nat}
    (find : ∀ key, types.find key = (workspace.db.ticketTypes.find key).map fun tier =>
      { tier with sold := tier.sold - given key }) {tier : TicketType} (stored : tier ∈ types) :
    ∃ old ∈ workspace.db.ticketTypes, old.id = tier.id ∧
      (given old.id < old.sold → 0 < tier.sold) := by
  have found := find tier.id
  rw [show types.find tier.id = some tier from Table.find_key stored] at found
  obtain ⟨old, there, written⟩ := Option.map_eq_some_iff.mp found.symm
  obtain ⟨member, same⟩ := Table.find_eq_some.mp there
  have sold : old.sold - given tier.id = tier.sold := congrArg TicketType.sold written
  refine ⟨old, member, same, fun left => ?_⟩
  rw [← sold]
  exact Nat.sub_pos_of_lt (same ▸ left)

theorem counted_sold {types : Table TicketType} {ticketTypeId quantity sold : Nat}
    (positive : 1 ≤ quantity) {tier : TicketType}
    (stored : tier ∈ types.update (fun row => row.id = ticketTypeId)
      fun row => { row with sold := sold + quantity }) :
    ∃ old ∈ types, old.id = tier.id ∧
      (0 < old.sold ∨ old.id = ticketTypeId → 0 < tier.sold) := by
  obtain ⟨old, there, rfl⟩ := Table.mem_update.mp stored
  refine ⟨old, there, ?_, ?_⟩
  · split <;> rfl
  · split
    · exact fun _ => Nat.lt_of_lt_of_le positive (Nat.le_add_left _ _)
    · next other => exact fun left => left.resolve_right other

theorem placed_accounted {input : PlaceOrderInput} {placed : PlacedOrder}
    (placement : Placed workspace.db input workspace.clock placed after) :
    PlacesLeft workspace (.placeOrder input) after workspace.clock where
  lines := fun ticketTypeId lined => by
    obtain ⟨item, stored, same⟩ := lined
    rw [← Table.mem_def, placement.orderItems] at stored
    rcases Table.mem_insert.mp stored with old | rfl
    · exact Or.inl ⟨item, old, same⟩
    · exact Or.inr ⟨placement.unused, same⟩
  types := fun tier stored => by
    rcases Bool.eq_false_or_eq_true input.takesPlaces with takes | none
    · obtain ⟨seller, _, _, types⟩ := reserveAllocation_ok.mp (placement.counted takes)
      rw [types] at stored
      obtain ⟨old, there, same, sold⟩ := counted_sold input.booking.1 stored
      refine ⟨old, there, same, ?_⟩
      rintro (left | ⟨_, sells⟩)
      · exact sold (Or.inl (Nat.zero_lt_of_lt left))
      · exact sold (Or.inr sells.symm)
    · rw [placement.uncounted none] at stored
      refine ⟨tier, stored, rfl, ?_⟩
      rintro (left | ⟨takes, _⟩)
      · exact Nat.zero_lt_of_lt left
      · rw [none] at takes
        cases takes
  holds := fun hold stored reserves outlasts => by
    rw [placement.seatHolds]
    unfold settledHolds
    by_cases named : hold.id ∈ input.holdIds
    · have none : input.takesPlaces = false := by
        by_contra takes
        exact outlasts ⟨named, by simpa using takes⟩
      obtain ⟨unissued, undecided⟩ : input.issueTickets = false ∧ input.awaitsDecision = false := by
        simpa [PlaceOrderInput.takesPlaces] using none
      rw [if_neg (by simp [PlaceOrderInput.convertsHolds, unissued, undecided])]
      refine ⟨_, Table.mem_update_of_hit stored named, rfl, reserves.1, ?_⟩
      simpa [undecided] using reserves.2
    · split
      · exact kept_of_miss stored reserves named
      · exact kept_of_miss stored reserves named

/-- A settlement that nothing stands against is not refused. -/
theorem settles_notRefused {db : Db} {input : SettleOrderInput} {ticketTypeId : Nat}
    (settles : SettlesFor db input ticketTypeId) {settlement : Settlement}
    (success : settleOrder db input now = .ok (settlement, after)) :
    settlement.outcome ≠ .refundRequired := by
  obtain ⟨order, found, isOpen, unblocked, kept, _⟩ := settles
  obtain ⟨locked, same, success⟩ := bind_ok success
  cases (lockOrder_ok.mp same).symm.trans found
  split at success
  · cases success
    simp
  · split at success
    · cases success
      simp
    · rw [if_neg (by simp [isOpen])] at success
      simp only at success
      split at success
      · next blocked passed =>
        cases unblocked.symm.trans passed
      · split at success
        · next asks =>
          simp only [awaitDecision, kept asks.1 asks.2, Bool.false_eq_true, if_false] at success
          cases success
          simp
        · obtain ⟨_, _, success⟩ := bind_ok success
          cases success
          simp

/-- A line that is settled for sells its places. -/
theorem countSale_left {db : Db} {order : Order} {line : SettlementLine}
    (held : LinesHeld db) (judged : (loadSettlement db order).line = some line)
    {tier : TicketType} (stored : tier ∈ countSale db.ticketTypes line) :
    ∃ old ∈ db.ticketTypes, old.id = tier.id ∧
      (0 < old.sold ∨ (∃ item ∈ orderLine db order.id, item.ticketTypeId = old.id) →
        0 < tier.sold) := by
  obtain ⟨item, ordered, judged⟩ := Option.bind_eq_some_iff.mp judged
  obtain ⟨type, found, rfl⟩ := Option.map_eq_some_iff.mp judged
  have positive : 1 ≤ item.quantity := held.positive item (orderLine_some ordered).1
  obtain ⟨old, there, same, sold⟩ := counted_sold positive stored
  refine ⟨old, there, same, ?_⟩
  rintro (before | ⟨other, mine, typed⟩)
  · exact sold (Or.inl before)
  · cases ordered.symm.trans mine
    exact sold (Or.inr typed.symm)

/-- The places of an order that waits for a decision are counted among those sold. -/
theorem sold_of_waiting {db : Db} (accounted : StockAccounted db) (held : LinesHeld db)
    {order : Order} (found : db.orders.find order.id = some order)
    (waiting : isAwaitingApproval order = true) {item : OrderItem}
    (line : item ∈ orderLine db order.id) {tier : TicketType} (stored : tier ∈ db.ticketTypes)
    (typed : item.ticketTypeId = tier.id) : 0 < tier.sold := by
  obtain ⟨there, mine⟩ := orderLine_some line
  have counted : lineQuantity db.orderItems order.id tier.id ≤ tier.sold := by
    have total := refundedQuantity_le db found tier.id
    rw [refundedQuantity, if_pos waiting] at total
    rw [(accounted tier stored).counted]
    exact (Nat.le_add_right _ _).trans total
  have quantity : item.quantity ≤ lineQuantity db.orderItems order.id tier.id := by
    unfold lineQuantity
    refine le_trans (le_of_eq ?_) (Table.weight_le_sum there)
    exact (if_pos ⟨mine, typed⟩).symm
  exact (held.positive item there).trans (quantity.trans counted)

theorem settled_left {input : SettleOrderInput} {settlement : Settlement}
    (accounted : StockAccounted workspace.db)
    (held : LinesHeld workspace.db) (claimed : PlacesClaimed workspace.db workspace.clock)
    (success : settleOrder workspace.db input workspace.clock = .ok (settlement, after))
    (leaves : LeavesPlaces workspace (.settleOrder input)) :
    PlacesClaimed after workspace.clock := by
  obtain ⟨order, found, settles⟩ := settleOrder_cases success
  have kept := leaves (by simp only [commit, success]; rfl)
  have named : order.id = input.orderId := (Table.find_eq_some.mp found).2
  have mine {ticketTypeId : Nat} (for' : SettlesFor workspace.db input ticketTypeId) :
      ∃ item ∈ orderLine workspace.db order.id, item.ticketTypeId = ticketTypeId := by
    obtain ⟨other, there, _, _, _, line⟩ := for'
    cases found.symm.trans there
    exact line
  cases settles with
  | already | unavailable => exact claimed
  | refused reason =>
    have unsold (ticketTypeId : Nat) : ¬ sells workspace.db ticketTypeId (.settleOrder input) :=
      fun for' => settles_notRefused for' success rfl
    have left : PlacesLeft workspace (.settleOrder input)
        (refuseSettlement workspace.db input order reason workspace.clock).2 workspace.clock := by
      refine .ofHolds rfl rfl unsold fun hold stored reserves outlasts => ?_
      exact kept_of_miss stored reserves fun hit => outlasts (hit.1.trans (congrArg some named))
    exact left.claimed kept
  | awaits _ _ line _ _ _ _ honoured =>
    refine PlacesLeft.claimed ⟨fun _ lined => Or.inl lined, fun tier stored => ?_, ?_⟩ kept
    · obtain ⟨old, there, same, sold⟩ := countSale_left held honoured.judged stored
      exact ⟨old, there, same, fun left => sold (left.imp Nat.zero_lt_of_lt mine)⟩
    · intro hold stored reserves outlasts
      have apart : hold.orderId ≠ some order.id := fun same =>
        outlasts (same.trans (congrArg some named))
      refine kept_of_miss (Table.mem_update_of_miss stored ?_) reserves ?_
      · exact fun hit => apart hit.1
      · exact fun hit => apart hit.1
  | completes _ _ line _ _ _ honoured =>
    refine PlacesLeft.claimed ⟨fun _ lined => Or.inl lined, fun tier stored => ?_, ?_⟩ kept
    · simp only [ticketedDb] at stored
      cases waiting : isAwaitingApproval order with
      | true =>
        rw [waiting, if_pos rfl] at stored
        refine ⟨tier, stored, rfl, ?_⟩
        rintro (left | for')
        · exact Nat.zero_lt_of_lt left
        · obtain ⟨item, line, typed⟩ := mine for'
          exact sold_of_waiting accounted held (Table.find_self found) waiting line stored typed
      | false =>
        rw [waiting, if_neg Bool.false_ne_true] at stored
        obtain ⟨old, there, same, sold⟩ := countSale_left held honoured.judged stored
        exact ⟨old, there, same, fun left => sold (left.imp Nat.zero_lt_of_lt mine)⟩
    · intro hold stored reserves outlasts
      exact kept_of_miss stored reserves fun same =>
        outlasts (same.trans (congrArg some named))

theorem joined_left {input : OrderInsert} {joined : JoinedWaitlist}
    (claimed : PlacesClaimed workspace.db workspace.clock)
    (success : joinWaitlist workspace.db input workspace.clock = .ok (joined, after))
    (leaves : LeavesPlaces workspace (.joinWaitlist input)) :
    PlacesClaimed after workspace.clock := by
  have kept := leaves (by simp only [commit, success]; rfl)
  cases entry : existingEntry workspace.db input with
  | some order =>
    rw [joinWaitlist, entry] at success
    cases success
    exact claimed
  | none =>
    rcases joinWaitlist_cases success with rfl | ⟨_, _, _, rfl⟩
    · exact claimed
    · refine PlacesLeft.claimed ⟨?_, fun tier stored => ?_, ?_⟩ kept
      · rintro ticketTypeId ⟨item, stored, same⟩
        rcases Table.mem_insert.mp stored with old | rfl
        · exact Or.inl ⟨item, old, same⟩
        · exact Or.inr ⟨entry, same⟩
      · refine ⟨tier, stored, rfl, ?_⟩
        rintro (left | sells)
        · exact Nat.zero_lt_of_lt left
        · exact sells.elim
      · exact fun hold stored reserves _ => ⟨hold, stored, rfl, reserves⟩

theorem rejected_left {input : RejectOrderInput} {order : Order}
    (found : workspace.db.orders.find input.orderId = some order) :
    PlacesLeft workspace (.rejectOrder input) (rejectedDb workspace.db input order workspace.clock)
      workspace.clock where
  lines := fun _ lined => Or.inl lined
  types := fun tier stored => by
    simp only [givesBack, found]
    cases waiting : isAwaitingApproval order with
    | true =>
      rw [rejectedDb, waiting, if_pos rfl, givePlacesBack] at stored
      obtain ⟨old, there, same, sold⟩ := sold_giveBack (find_giveBackStock _ _) stored
      rw [count_linesByType] at sold
      refine ⟨old, there, same, ?_⟩
      rintro (left | sells)
      · exact sold left
      · exact sells.elim
    | false =>
      rw [rejectedDb, waiting, if_neg Bool.false_ne_true] at stored
      refine ⟨tier, stored, rfl, ?_⟩
      rintro (left | sells)
      · exact left
      · exact sells.elim
  holds := fun hold stored reserves outlasts => by
    have named : order.id = input.orderId := (Table.find_eq_some.mp found).2
    exact kept_of_miss stored reserves fun hit => outlasts (hit.1.trans (congrArg some named))

theorem refunded_left {orderId : Nat} {recordRefund : Ledger → Except TxError Ledger}
    {order : Order} {ledger : Ledger}
    (found : workspace.db.orders.find orderId = some order) :
    PlacesLeft workspace (.refundOrder orderId recordRefund)
      (refundedDb workspace.db order ledger workspace.clock) workspace.clock where
  lines := fun _ lined => Or.inl lined
  types := fun tier stored => by
    simp only [givesBack, found]
    obtain ⟨old, there, same, sold⟩ := sold_giveBack (find_refundedStock _ _) stored
    refine ⟨old, there, same, ?_⟩
    rintro (left | sells)
    · exact sold left
    · exact sells.elim
  holds := fun hold stored reserves outlasts => by
    have named : order.id = orderId := (Table.find_eq_some.mp found).2
    simp only [refundedDb]
    split
    · next waiting =>
      exact kept_of_miss stored reserves fun hit =>
        outlasts ⟨hit.1.trans (congrArg some named), order, found, waiting⟩
    · exact ⟨hold, stored, rfl, reserves⟩

/-- A sweep of what has lapsed misses every hold that reserves something. -/
theorem kept_of_expireSeats {holds : Table SeatHold} {seatIds : List Nat} {hold : SeatHold}
    (stored : hold ∈ holds) (reserves : hold.reserves now) :
    ∃ kept ∈ expireLapsedForSeats holds seatIds now,
      kept.ticketTypeId = hold.ticketTypeId ∧ kept.reserves now :=
  kept_of_miss stored reserves fun hit => absurd reserves.2 (Nat.not_lt.mpr hit.2.2)

theorem kept_of_expireTier {holds : Table SeatHold} {ticketTypeId : Nat} {hold : SeatHold}
    (stored : hold ∈ holds) (reserves : hold.reserves now) :
    ∃ kept ∈ expireLapsedForTier holds ticketTypeId now,
      kept.ticketTypeId = hold.ticketTypeId ∧ kept.reserves now :=
  kept_of_miss stored reserves fun hit => absurd reserves.2 (Nat.not_lt.mpr hit.2.2)

/-- A step that leaves every ticket type with a line a place leaves it one. -/
theorem step_claimed (accounted : StockAccounted workspace.db) (held : LinesHeld workspace.db)
    (claimed : PlacesClaimed workspace.db workspace.clock) (leaves : LeavesPlaces workspace op) :
    PlacesClaimed (step workspace op).db (step workspace op).clock := by
  cases committed : commit workspace.db workspace.clock op with
  | error refusal =>
    have same : (step workspace op).db = workspace.db := by simp [step, committed]
    have still : (step workspace op).clock = workspace.clock := by
      cases op with
      | tick => cases committed
      | _ => rfl
    rw [same, still]
    exact claimed
  | ok after =>
    have done : (step workspace op).db = after := by simp [step, committed]
    have kept := leaves (by rw [committed]; rfl)
    rw [done]
    cases op with
    | holdSeats input =>
      obtain ⟨_, success⟩ := map_snd_ok.mp committed
      refine PlacesLeft.claimed ?_ kept
      refine .ofHolds ?_ ?_ (fun _ => id) fun hold stored reserves _ => ?_
      · rcases holdSeats_cases success with rfl | rfl | ⟨_, _, rfl⟩ <;> rfl
      · rcases holdSeats_cases success with rfl | rfl | ⟨_, _, rfl⟩ <;> rfl
      · rcases holdSeats_cases success with rfl | rfl | ⟨_, _, rfl⟩
        · exact ⟨hold, stored, rfl, reserves⟩
        · exact kept_of_expireSeats stored reserves
        · obtain ⟨row, member, same⟩ := kept_of_expireSeats stored reserves
          exact ⟨row, Table.mem_insertEach.mpr (Or.inl member), same⟩
    | holdQuantity input =>
      obtain ⟨_, success⟩ := map_snd_ok.mp committed
      refine PlacesLeft.claimed ?_ kept
      refine .ofHolds ?_ ?_ (fun _ => id) fun hold stored reserves _ => ?_
      · rcases holdQuantity_cases success with rfl | rfl | ⟨_, _, _, _, _, rfl⟩ <;> rfl
      · rcases holdQuantity_cases success with rfl | rfl | ⟨_, _, _, _, _, rfl⟩ <;> rfl
      · rcases holdQuantity_cases success with rfl | rfl | ⟨_, _, _, _, _, rfl⟩
        · exact ⟨hold, stored, rfl, reserves⟩
        · exact kept_of_expireTier stored reserves
        · obtain ⟨row, member, same⟩ := kept_of_expireTier stored reserves
          exact ⟨row, Table.mem_insert.mpr (Or.inl member), same⟩
    | release holdIds =>
      cases committed
      refine PlacesLeft.claimed ?_ kept
      refine .ofHolds rfl rfl (fun _ => id) fun hold stored reserves outlasts => ?_
      exact kept_of_miss stored reserves fun hit => outlasts hit.1
    | releaseUnattached holdIds =>
      cases committed
      refine PlacesLeft.claimed ?_ kept
      refine .ofHolds rfl rfl (fun _ => id) fun hold stored reserves outlasts => ?_
      exact kept_of_miss stored reserves fun hit => outlasts ⟨hit.1, hit.2.2⟩
    | expireStale =>
      cases committed
      refine PlacesLeft.claimed ?_ kept
      refine .ofHolds rfl rfl (fun _ => id) fun hold stored reserves _ => ?_
      exact kept_of_miss stored reserves fun hit => absurd reserves.2 (Nat.not_lt.mpr hit.2)
    | placeOrder input =>
      obtain ⟨placed, success⟩ := map_snd_ok.mp committed
      rcases placeOrder_cases success with ⟨_, rfl⟩ | placement
      · exact claimed
      · exact (placed_accounted placement).claimed kept
    | joinWaitlist input =>
      obtain ⟨_, success⟩ := map_snd_ok.mp committed
      have joined : PlacesClaimed after workspace.clock := joined_left claimed success leaves
      exact joined
    | markOffered input =>
      obtain ⟨order, _, _, rfl⟩ := markOffered_cases committed
      exact claimed
    | settleOrder input =>
      obtain ⟨settlement, success⟩ := map_snd_ok.mp committed
      have settled : PlacesClaimed after workspace.clock :=
        settled_left accounted held claimed success leaves
      exact settled
    | rejectOrder input =>
      obtain ⟨_, success⟩ := map_snd_ok.mp committed
      obtain ⟨order, found, _, ⟨_, rfl⟩ | ⟨_, _, rfl⟩⟩ := rejectOrder_cases success
      · exact claimed
      · exact (rejected_left found).claimed kept
    | refundOrder orderId recordRefund =>
      obtain ⟨_, success⟩ := map_snd_ok.mp committed
      obtain ⟨order, ledger, found, _, rfl⟩ := refundOrder_cases success
      exact (refunded_left found).claimed kept
    | releaseHoldsForOrder orderId =>
      cases committed
      rcases releaseHoldsForOrder_cases workspace.db orderId with
        same | ⟨order, found, waiting, same⟩
      · rw [same]
        exact claimed
      · rw [same]
        refine PlacesLeft.claimed ?_ kept
        refine .ofHolds rfl rfl (fun _ => id) fun hold stored reserves outlasts => ?_
        exact kept_of_miss stored reserves fun hit => outlasts ⟨hit.1, order, found, waiting⟩
    | recordLedger | enqueue =>
      cases committed
      exact claimed
    | tick elapsed =>
      cases committed
      refine PlacesLeft.claimed ?_ kept
      refine .ofHolds rfl rfl (fun _ => id) fun hold stored reserves outlasts => ?_
      exact ⟨hold, stored, rfl, reserves.1, Nat.lt_of_not_le outlasts⟩

end Steps

/-! ## Every run -/

/-- Where each step of a run from an event with no orders leaves every ticket type with a line a
place, nothing refers to a type that may be erased. -/
theorem erasesCleanly_run {start : Workspace} (opening : Opening start.db) {ops : List Op}
    (leaves : Meets step LeavesPlaces start ops) : Throughout step ErasesCleanly start ops := by
  let Sound (workspace : Workspace) : Prop := Accounts workspace.db ∧ LinesHeld workspace.db ∧
    PlacesClaimed workspace.db workspace.clock
  have initial : Sound start := by
    refine ⟨opening.accounts, ⟨fun ticket stored => ?_, fun item stored => ?_⟩, ?_⟩
    · exact absurd stored (Table.not_mem_of_empty opening.tickets ticket)
    · exact absurd stored (Table.not_mem_of_empty opening.orderItems item)
    · rintro tier _ ⟨item, stored, _⟩
      exact absurd stored (Table.not_mem_of_empty opening.orderItems item)
  have keeps (workspace : Workspace) (op : Op) (sound : Sound workspace)
      (left : LeavesPlaces workspace op) : Sound (step workspace op) := by
    obtain ⟨accounts, held, claimed⟩ := sound
    refine ⟨accounts.step op, ?_, step_claimed accounts.stock held claimed left⟩
    exact step_preserves (fun _ committed => held.committed (commit_cases committed)) held
  exact Meets.throughout keeps (fun _ sound => (erasesCleanly_iff sound.2.1).mpr sound.2.2) initial
    leaves

/-- A free registration takes the general place it holds, and time passes. -/
def soldAtOnce : List Op :=
  [.holdQuantity generalHold, .placeOrder (booking "A" 0 0 none [0] 0 false), .tick 2000]

theorem erasesCleanly_run_soldAtOnce : Throughout step ErasesCleanly boxOffice soldAtOnce :=
  erasesCleanly_run boxOffice_opening (by decide +kernel)

/-! ## A hold that lapses -/

/-- The one general place is held, an order for it waits for its money, and the hold lapses. -/
def lapsedCheckout : List Op :=
  [.holdQuantity generalHold, .placeOrder (booking "A" 0 0 none [0] 100 false), .tick 2000]

/-- Nothing is sold or held any more, and the order still refers to the type. -/
theorem lapsedCheckout_refers : ¬ ∀ (start : Workspace) (ops : List Op),
    Opening start.db → Throughout step ErasesCleanly start ops := by
  intro clean
  have final := clean boxOffice lapsedCheckout boxOffice_opening lapsedCheckout List.prefix_rfl
  let lapsed := run step boxOffice lapsedCheckout
  obtain ⟨tier, stored, unsold, lapse, item, there, same⟩ :
      ∃ tier ∈ lapsed.db.ticketTypes.rows, tier.sold = 0 ∧
        (∀ hold ∈ lapsed.db.seatHolds.rows,
          ¬ (hold.ticketTypeId = some tier.id ∧ hold.reserves lapsed.clock)) ∧
        ∃ item ∈ lapsed.db.orderItems.rows, item.ticketTypeId = tier.id := by
    decide +kernel
  have erasable : Erasable lapsed tier := ⟨unsold, fun ⟨hold, held, same, reserves⟩ =>
    lapse hold held ⟨same, reserves⟩⟩
  exact (final tier stored erasable).1 ⟨item, there, same⟩

end EventaApi.Guarantees
