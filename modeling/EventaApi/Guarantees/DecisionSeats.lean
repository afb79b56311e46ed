import EventaApi.Guarantees.SeatCustody

/-!
# A seat kept for a decision stays kept

Between the money and the organizer's answer a reserved seat is protected by its hold
alone, active until a date no clock reaches. Seats under an unexpired hold are never
assigned to anybody else by a confirm, but a payment that lands after its own hold
lapsed seats its order on the strength of the assignments alone, whoever holds the seat
by then. With that excluded, a waiting order's seats stay free and its approval can only
meet what the organizer changed.
-/
namespace EventaApi.Guarantees
open Library Source

/-- Somebody's ticket is bound to the seat. -/
def Taken (assignments : Table SeatAssignment) (seatId : Nat) : Prop :=
  ∃ assignment ∈ assignments, assignment.seatId = seatId ∧ assignment.releasedAt = none

/-- A seat somebody's unexpired hold reserves is nobody's yet. -/
def ReservedFree (db : Db) (now : Instant) : Prop :=
  ∀ hold ∈ db.seatHolds, hold.reserves now →
    ∀ seatId, hold.seatId = some seatId → ¬ Taken db.seatAssignments seatId

/-- The hold that keeps a seat for an order until its decision. -/
def KeptFor (holds : Table SeatHold) (orderId seatId : Nat) : Prop :=
  ∃ hold ∈ holds, hold.orderId = some orderId ∧ hold.seatId = some seatId ∧
    hold.status = .active ∧ hold.expiresAt = DECISION_HOLD_EXPIRY

/-- What keeps the seats of waiting orders: each operation respects the holds of the others. -/
def RespectsHolds (db : Db) (now : Instant) : Op → Prop
  | .release holdIds => ∀ hold ∈ db.seatHolds, hold.id ∈ holdIds → hold.seatId = none
  | .settleOrder input =>
    ∀ order ∈ db.orders, order.id = input.orderId →
      settlementBlocker (loadSettlement db order) input.mode = none →
      ∀ seatId ∈ heldSeatIds db.seatHolds order.id, ∀ hold ∈ db.seatHolds,
        hold.seatId = some seatId → hold.reserves now → hold.orderId = some order.id
  | .tick elapsed => now + elapsed < DECISION_HOLD_EXPIRY
  | op => SparesHolds db now op

/-- A settlement seats its order nowhere that somebody else's unexpired hold reserves. -/
def SeatsOwn (db : Db) (now : Instant) : Op → Prop
  | .settleOrder input =>
    ∀ order ∈ db.orders, order.id = input.orderId → isOpenFor input.mode order.status = true →
      (input.mode = .payment → order.requiresApproval = false) →
      ∀ line, Honoured (loadSettlement db order) line →
      ∀ seatId ∈ heldSeatIds db.seatHolds order.id, ∀ hold ∈ db.seatHolds,
        hold.seatId = some seatId → hold.reserves now → hold.orderId = some order.id
  | _ => True

theorem RespectsHolds.seatsOwn {db : Db} {now : Instant} {op : Op}
    (respects : RespectsHolds db now op) : SeatsOwn db now op := by
  cases op with
  | settleOrder input =>
    exact fun order stored same _ _ line honoured =>
      respects order stored same (settlementBlocker_eq_none.mpr ⟨line, honoured⟩)
  | _ => trivial

theorem RespectsHolds.spares {db : Db} {now : Instant} {op : Op} (respects : RespectsHolds db now op) :
    SparesHolds db now op := by
  cases op with
  | holdSeats | placeOrder => exact respects
  | _ => trivial

instance (assignments : Table SeatAssignment) (seatId : Nat) : Decidable (Taken assignments seatId) :=
  inferInstanceAs (Decidable (∃ assignment ∈ assignments.rows, _))

section Taken

variable {assignments after : Table SeatAssignment} {seatId : Nat}

theorem assignedSeatIds_eq_nil {seatIds : List Nat} :
    assignedSeatIds assignments seatIds = [] ↔ ∀ seatId ∈ seatIds, ¬ Taken assignments seatId := by
  unfold assignedSeatIds
  rw [List.map_eq_nil_iff, List.eq_nil_iff_forall_not_mem]
  constructor
  · rintro none seatId named ⟨assignment, stored, rfl, live⟩
    exact none assignment (Table.mem_select.mpr ⟨stored, named, live⟩)
  · intro free assignment picked
    obtain ⟨stored, named, live⟩ := Table.mem_select.mp picked
    exact free _ named ⟨assignment, stored, rfl, live⟩

theorem mem_assignedSeatIds {seatIds : List Nat} (named : seatId ∈ seatIds)
    (taken : Taken assignments seatId) : seatId ∈ assignedSeatIds assignments seatIds := by
  obtain ⟨assignment, stored, rfl, live⟩ := taken
  exact List.mem_map_of_mem (Table.mem_select.mpr ⟨stored, named, live⟩)

/-- Seating tickets takes the seats named, and no other. -/
theorem taken_assignSeats {seatIds ticketIds : List Nat}
    (seated : assignSeats assignments seatIds ticketIds = .ok after)
    (taken : Taken after seatId) : Taken assignments seatId ∨ seatId ∈ seatIds := by
  rcases assignSeats_ok.mp seated with ⟨_, rfl⟩ | ⟨_, _, _, rfl⟩
  · exact Or.inl taken
  · obtain ⟨assignment, member, rfl, live⟩ := taken
    rcases Table.mem_insertEach.mp member with old | ⟨index, inRange, rfl⟩
    · exact Or.inl ⟨assignment, old, rfl, live⟩
    · exact Or.inr (List.of_mem_zip (List.getElem_mem inRange)).1

end Taken

theorem mem_heldSeatIds {holds : Table SeatHold} {orderId seatId : Nat} :
    seatId ∈ heldSeatIds holds orderId ↔
      ∃ hold ∈ holds, hold.orderId = some orderId ∧ hold.seatId = some seatId := by
  simp [heldSeatIds, List.mem_filterMap, Table.mem_select, and_assoc]

/-! ## Reserved seats are free -/

section Reserved

variable {db after : Db} {now : Instant}

/-- No hold is revived and no seat is taken. -/
theorem ReservedFree.update (free : ReservedFree db now) {hit : SeatHold → Prop}
    [DecidablePred hit] {write : SeatHold → SeatHold}
    {keeps : ∀ hold, Keyed.key (write hold) = Keyed.key hold}
    (holds : after.seatHolds = db.seatHolds.update hit write keeps)
    (taken : ∀ seatId, Taken after.seatAssignments seatId → Taken db.seatAssignments seatId)
    (quiet : ∀ hold ∈ db.seatHolds, hit hold → (write hold).seatId = hold.seatId ∧
      ((write hold).reserves now → hold.reserves now)) : ReservedFree after now := by
  intro hold member reserves seatId seated claimed
  rw [holds] at member
  rcases Table.mem_update_cases member with ⟨old, stored, selected, rfl⟩ | ⟨stored, selected⟩
  · obtain ⟨same, revives⟩ := quiet old stored selected
    rw [same] at seated
    exact free old stored (revives reserves) seatId seated (taken seatId claimed)
  · exact free hold stored reserves seatId seated (taken seatId claimed)

theorem ReservedFree.heldSeats (free : ReservedFree db now) {input : HoldSeatsInput}
    (available : ∀ id ∈ distinctIds input.seatIds,
      seatUnavailable db (expireLapsedForSeats db.seatHolds (distinctIds input.seatIds) now)
        input.eventId (distinctIds input.seatIds) id = false) :
    ReservedFree { db with
      seatHolds := (expireLapsedForSeats db.seatHolds (distinctIds input.seatIds) now).insertEach
        (distinctIds input.seatIds) (heldSeat input) } now := by
  have swept : ReservedFree { db with
      seatHolds := expireLapsedForSeats db.seatHolds (distinctIds input.seatIds) now } now :=
    free.update rfl (fun _ => id) fun _ _ _ => ⟨rfl, fun reserves => by cases reserves.1⟩
  intro hold member reserves seatId seated claimed
  rcases Table.mem_insertEach.mp member with old | ⟨index, inRange, rfl⟩
  · exact swept hold old reserves seatId seated claimed
  · cases seated
    exact (available_of_not_unavailable (available _ (List.getElem_mem inRange))).2
      (mem_assignedSeatIds (List.getElem_mem inRange) claimed)

theorem ReservedFree.heldQuantity (free : ReservedFree db now) {input : HoldQuantityInput} :
    ReservedFree { db with
      seatHolds := (expireLapsedForTier db.seatHolds input.ticketTypeId now).insert
        (Source.heldQuantity input) } now := by
  have swept : ReservedFree { db with
      seatHolds := expireLapsedForTier db.seatHolds input.ticketTypeId now } now :=
    free.update rfl (fun _ => id) fun _ _ _ => ⟨rfl, fun reserves => by cases reserves.1⟩
  intro hold member reserves seatId seated claimed
  rcases Table.mem_insert.mp member with old | rfl
  · exact swept hold old reserves seatId seated claimed
  · cases seated

/-- A confirm that tickets at once converts the only holds on the seats it takes. -/
theorem ReservedFree.placed (free : ReservedFree db now) (sole : SoleHolder db.seatHolds)
    {input : PlaceOrderInput} {placed : PlacedOrder}
    (placement : Placed db input now placed after) : ReservedFree after now := by
  have quiet : ∀ hold ∈ db.seatHolds, hold.id ∈ input.holdIds → hold.reserves now :=
    fun hold stored named => reserves_of_named placement.active stored named
  rcases Bool.eq_false_or_eq_true input.issueTickets with issues | none
  · have converts : input.convertsHolds = true := by simp [PlaceOrderInput.convertsHolds, issues]
    intro hold member reserves seatId seated claimed
    have holds := placement.seatHolds
    rw [settledHolds, if_pos converts] at holds
    rw [holds] at member
    rcases Table.mem_update_cases member with ⟨old, stored, named, rfl⟩ | ⟨stored, named⟩
    · cases reserves.1
    · rcases taken_assignSeats (placement.seated issues) claimed with before | mine
      · exact free hold stored reserves seatId seated before
      · have reserved : input.seatIds ≠ [] := List.ne_nil_of_mem mine
        have own := (heldSeatIds_named sole placement.accepts reserved).mem_iff.mpr mine
        obtain ⟨other, picked, seated'⟩ := List.mem_filterMap.mp own
        obtain ⟨stored', named'⟩ := Table.mem_select.mp picked
        have same := sole hold stored other stored' reserves.1 (quiet other stored' named').1 seatId
          seated seated'
        exact named (same ▸ named')
  · have unmoved : ∀ seatId, Taken after.seatAssignments seatId →
        Taken db.seatAssignments seatId := by
      rw [placement.unseated none]
      exact fun _ => id
    have holds := placement.seatHolds
    unfold settledHolds at holds
    split at holds
    · exact free.update holds unmoved fun _ _ _ => ⟨rfl, fun reserves => by cases reserves.1⟩
    · exact free.update holds unmoved fun hold stored named => ⟨rfl, fun _ => quiet hold stored named⟩

theorem ReservedFree.settled (free : ReservedFree db now) {input : SettleOrderInput} {order : Order}
    {settlement : Settlement}
    (own : isOpenFor input.mode order.status = true →
      (input.mode = .payment → order.requiresApproval = false) →
      ∀ line, Honoured (loadSettlement db order) line →
      ∀ seatId ∈ heldSeatIds db.seatHolds order.id, ∀ hold ∈ db.seatHolds,
        hold.seatId = some seatId → hold.reserves now → hold.orderId = some order.id)
    (settles : Settled db input order now settlement after) : ReservedFree after now := by
  cases settles with
  | already => exact free
  | unavailable => exact free
  | refused => exact free.update rfl (fun _ => id) fun _ _ _ =>
      ⟨rfl, fun reserves => by cases reserves.1⟩
  | awaits _ _ line _ _ _ _ honoured =>
    have unclaimed := assignedSeatIds_eq_nil.mp honoured.free
    have converted : ReservedFree { db with
        seatHolds := (db.seatHolds.update
          (fun hold => hold.orderId = some order.id ∧ hold.seatId = none)
          fun hold => { hold with status := .converted, orderId := none }) } now :=
      free.update rfl (fun _ => id) fun _ _ _ => ⟨rfl, fun reserves => by cases reserves.1⟩
    intro hold member reserves seatId seated claimed
    obtain ⟨old, stored, rfl⟩ := Table.mem_update.mp member
    by_cases mine : old.orderId = some order.id ∧ old.seatId ≠ none ∧ old.status = .active
    · rw [if_pos mine] at seated
      refine unclaimed seatId ?_ claimed
      rw [← heldSeatIds_forDecision]
      exact mem_heldSeatIds.mpr ⟨_, member, by rw [if_pos mine]; exact ⟨mine.1, seated⟩⟩
    · rw [if_neg mine] at reserves seated
      exact converted old stored reserves seatId seated claimed
  | completes _ _ line assignments isOpen unasked honoured seated =>
    have alone := own isOpen (fun paying => (unasked paying).1) line honoured
    intro hold member reserves seatId named claimed
    rcases Table.mem_update_cases member with ⟨old, stored, mine, rfl⟩ | ⟨stored, mine⟩
    · cases reserves.1
    · rcases taken_assignSeats seated claimed with before | taken
      · exact free hold stored reserves seatId named before
      · exact mine (alone seatId taken hold stored named reserves)

theorem ReservedFree.committed {op : Op} (free : ReservedFree db now)
    (sole : SoleHolder db.seatHolds) (own : SeatsOwn db now op)
    (committed : Committed db now op after) : ReservedFree after now := by
  cases committed with
  | idle | joined | offered | recorded | enqueued => exact free
  | sweptSeats | sweptTier | released | releasedUnattached | expired | releasedOrder | rejected =>
    exact free.update rfl (fun _ => id) fun _ _ _ => ⟨rfl, fun reserves => by cases reserves.1⟩
  | heldSeats input available => exact free.heldSeats available
  | heldQuantity => exact free.heldQuantity
  | placed _ _ _ placement => exact free.placed sole placement
  | settled input order _ _ found settles =>
    obtain ⟨stored, same⟩ := Table.find_eq_some.mp found
    exact free.settled (own order stored same) settles
  | refunded _ _ order ledger =>
    have unbound : ∀ seatId, Taken (refundedDb db order ledger now).seatAssignments seatId →
        Taken db.seatAssignments seatId := by
      rintro seatId ⟨assignment, member, rfl, live⟩
      obtain ⟨old, stored, rfl⟩ := Table.mem_update.mp member
      split at live
      · cases live
      next kept => exact ⟨old, stored, by rw [if_neg kept], live⟩
    cases waiting : isAwaitingApproval order with
    | true =>
      have holds : (refundedDb db order ledger now).seatHolds =
          releaseActiveHolds db.seatHolds order.id := if_pos waiting
      exact free.update holds unbound fun _ _ _ => ⟨rfl, fun reserves => by cases reserves.1⟩
    | false =>
      have holds : (refundedDb db order ledger now).seatHolds = db.seatHolds :=
        if_neg (by simp [waiting])
      intro hold member reserves seatId seated claimed
      rw [holds] at member
      exact free hold member reserves seatId seated (unbound seatId claimed)

end Reserved

/-! ## The hold lasts until the decision -/

section Kept

variable {db after : Db} {now : Instant} {holds : Table SeatHold} {orderId seatId : Nat}

/-- A write that leaves the order's keeping hold alone. -/
theorem KeptFor.update {hit : SeatHold → Prop} [DecidablePred hit] {write : SeatHold → SeatHold}
    {keeps : ∀ hold, Keyed.key (write hold) = Keyed.key hold} (kept : KeptFor holds orderId seatId)
    (survives : ∀ hold ∈ holds, hold.orderId = some orderId → hold.seatId = some seatId →
      hold.status = .active → hold.expiresAt = DECISION_HOLD_EXPIRY → ¬ hit hold) :
    KeptFor (holds.update hit write keeps) orderId seatId := by
  obtain ⟨hold, stored, mine, seated, active, lasting⟩ := kept
  exact ⟨hold, Table.mem_update_of_miss stored (survives hold stored mine seated active lasting),
    mine, seated, active, lasting⟩

theorem KeptFor.insertEach {α : Type} {values : List α} {each : α → Nat → SeatHold}
    {keyed : ∀ value key, Keyed.key (each value key) = key} (kept : KeptFor holds orderId seatId) :
    KeptFor (holds.insertEach values each keyed) orderId seatId := by
  obtain ⟨hold, stored, same⟩ := kept
  exact ⟨hold, Table.mem_insertEach.mpr (Or.inl stored), same⟩

/-- A keeping hold has not lapsed before the decision's date. -/
theorem not_lapsed {hold : SeatHold} (early : now < DECISION_HOLD_EXPIRY)
    (lasting : hold.expiresAt = DECISION_HOLD_EXPIRY) : ¬ hold.expiresAt ≤ now := by
  rw [lasting]
  exact Nat.not_le.mpr early

theorem KeptFor.releasedFor {released : Nat} (kept : KeptFor holds orderId seatId)
    (other : released ≠ orderId) : KeptFor (releaseActiveHolds holds released) orderId seatId :=
  kept.update fun _ _ mine _ _ _ hit => other (Option.some.inj (hit.1.symm.trans mine))

/-- The order's own settlement keeps its seats until the date no clock reaches. -/
theorem keptFor_awaiting (kept : seatHoldLost holds orderId = false)
    (mine : seatId ∈ heldSeatIds holds orderId) :
    KeptFor (holdForDecision holds orderId) orderId seatId := by
  obtain ⟨hold, stored, own, seated⟩ := mem_heldSeatIds.mp mine
  have none : holds.select (fun hold =>
      hold.orderId = some orderId ∧ hold.seatId ≠ none ∧ hold.status ≠ .active) = [] := by
    simpa [seatHoldLost] using kept
  have active : hold.status = .active := by
    by_contra lost
    have picked : hold ∈ holds.select fun hold =>
        hold.orderId = some orderId ∧ hold.seatId ≠ Option.none ∧ hold.status ≠ .active :=
      Table.mem_select.mpr ⟨stored, own, by simp [seated], lost⟩
    rw [none] at picked
    cases picked
  have unconverted : hold ∈ holds.update
      (fun hold => hold.orderId = some orderId ∧ hold.seatId = Option.none)
      fun hold => { hold with status := .converted, orderId := Option.none } :=
    Table.mem_update_of_miss stored (by simp [seated])
  exact ⟨_, Table.mem_update_of_hit unconverted ⟨own, by simp [seated], active⟩, own, seated,
    active, rfl⟩

/-- A free order that waits for a decision keeps its seats from the start. -/
theorem keptFor_placed {input : PlaceOrderInput} (sole : SoleHolder db.seatHolds)
    (accepts : Accepts db now input) (decides : input.awaitsDecision = true)
    (keeps : input.convertsHolds = false) (named : seatId ∈ input.seatIds) :
    KeptFor (settledHolds input db.seatHolds orderId) orderId seatId := by
  have own := (heldSeatIds_named sole accepts (List.ne_nil_of_mem named)).mem_iff.mpr named
  obtain ⟨hold, picked, seated⟩ := List.mem_filterMap.mp own
  obtain ⟨stored, mine⟩ := Table.mem_select.mp picked
  have active := (reserves_of_named accepts.2.1 stored mine).1
  unfold settledHolds
  rw [if_neg (by simp [keeps]), if_pos decides]
  exact ⟨_, Table.mem_update_of_hit stored mine, rfl, seated, active, rfl⟩

/-- Operations other than a confirm leave the keeping hold of an order that goes on waiting. -/
theorem KeptFor.committed {op : Op} (kept : KeptFor db.seatHolds orderId seatId)
    (early : now < DECISION_HOLD_EXPIRY) (respects : RespectsHolds db now op)
    (other : ∀ input, op ≠ .placeOrder input) (committed : Committed db now op after)
    (waits : ∀ order, db.orders.find orderId = some order → isAwaitingApproval order = true)
    (waits' : ∀ order, after.orders.find orderId = some order → isAwaitingApproval order = true) :
    KeptFor after.seatHolds orderId seatId := by
  have moved {order : Order} {write : Order → Order}
      {keeps : ∀ row, Keyed.key (write row) = Keyed.key row} {id : Nat}
      (found : db.orders.find id = some order)
      (orders : after.orders = db.orders.update (fun row => row.id = order.id) write keeps)
      (decided : isAwaitingApproval (write order) = false) : order.id ≠ orderId := by
    rintro rfl
    have stored : db.orders.find order.id = some order := Table.find_self found
    have waiting := waits' (write order) (by rw [orders, Table.find_update, stored]; simp)
    rw [decided] at waiting
    cases waiting
  cases committed with
  | idle | joined | offered | recorded | enqueued => exact kept
  | sweptSeats => exact kept.update fun _ _ _ _ _ lasting hit => not_lapsed early lasting hit.2.2
  | sweptTier => exact kept.update fun _ _ _ _ _ lasting hit => not_lapsed early lasting hit.2.2
  | expired => exact kept.update fun _ _ _ _ _ lasting hit => not_lapsed early lasting hit.2
  | heldSeats =>
    refine KeptFor.insertEach ?_
    exact kept.update fun _ _ _ _ _ lasting hit => not_lapsed early lasting hit.2.2
  | heldQuantity input =>
    have swept : KeptFor (expireLapsedForTier db.seatHolds input.ticketTypeId now) orderId seatId :=
      kept.update fun _ _ _ _ _ lasting hit => not_lapsed early lasting hit.2.2
    obtain ⟨hold, stored, same⟩ := swept
    exact ⟨hold, Table.mem_insert.mpr (Or.inl stored), same⟩
  | released holdIds =>
    refine kept.update fun hold stored _ seated _ _ hit => ?_
    rw [respects hold stored hit.1] at seated
    cases seated
  | releasedUnattached =>
    refine kept.update fun hold _ mine _ _ _ hit => ?_
    rw [hit.2.2] at mine
    cases mine
  | placed input => exact absurd rfl (other input)
  | settled input order _ _ found settles =>
    cases settles with
    | already | unavailable => exact kept
    | refused => exact kept.releasedFor (moved found rfl rfl)
    | awaits _ _ _ _ _ idle =>
      have different : order.id ≠ orderId := by
        rintro rfl
        rw [waits order (Table.find_self found)] at idle
        cases idle
      refine KeptFor.update (KeptFor.update kept ?_) ?_
      · exact fun _ _ mine _ _ _ hit => different (Option.some.inj (hit.1.symm.trans mine))
      · exact fun _ _ mine _ _ _ hit => different (Option.some.inj (hit.1.symm.trans mine))
    | completes =>
      have different := moved found rfl rfl
      exact kept.update fun _ _ mine _ _ _ hit =>
        different (Option.some.inj (hit.symm.trans mine))
  | rejected _ _ found => exact kept.releasedFor (moved found rfl rfl)
  | refunded _ _ order _ found =>
    have decided : isAwaitingApproval (refundedOrder order order) = false := by
      simp only [isAwaitingApproval, statusAfterRefund]
      split <;> rfl
    unfold refundedDb
    dsimp only
    split
    · exact kept.releasedFor (moved found rfl decided)
    · exact kept
  | releasedOrder _ order found waiting =>
    refine kept.releasedFor ?_
    rintro rfl
    have asked := waits order found
    simp only [isAwaitingApproval, isOnCheckoutClock, Bool.and_eq_true] at asked waiting
    obtain ⟨_, asked⟩ := asked
    rw [Option.isNone_iff_eq_none.mp waiting.2] at asked
    cases asked

end Kept

/-! ## Along a run -/

/-- What approving a waiting reserved order relies on. -/
structure SeatsKept (priced : Nat → List Nat) (db : Db) (now : Instant) : Prop where
  custody : Custody priced db
  early : now < DECISION_HOLD_EXPIRY
  free : ReservedFree db now
  kept : ∀ order ∈ db.orders, isAwaitingApproval order = true → ∀ seatId ∈ priced order.id,
    KeptFor db.seatHolds order.id seatId
  typed : TypedLines db

section Steps

variable {db after : Db} {now : Instant} {priced : Nat → List Nat}

/-- An order with priced seats that waits after an operation waited before it, or was just paid. -/
theorem Custody.waiting {op : Op} (custody : Custody priced db)
    (other : ∀ input, op ≠ .placeOrder input) (committed : Committed db now op after)
    {order : Order} (member : order ∈ after.orders) (waits : isAwaitingApproval order = true)
    (reserved : priced order.id ≠ []) :
    order ∈ db.orders ∨ (seatHoldLost db.seatHolds order.id = false ∧
      after.seatHolds = holdForDecision db.seatHolds order.id ∧
      ∃ old ∈ db.orders, old.id = order.id ∧ old.status = .pending) := by
  have rewritten {row : Order} {write : Order → Order}
      {keeps : ∀ row, Keyed.key (write row) = Keyed.key row} (stored : row ∈ db.orders)
      (member : order ∈ db.orders.update (fun other => other.id = row.id) write keeps) :
      order ∈ db.orders ∨ (order = write row ∧ row.id = order.id) := by
    obtain ⟨old, before, rfl⟩ := Table.mem_update.mp member
    by_cases hit : old.id = row.id
    · have selected : old = row := Table.eq_of_key before stored hit
      subst selected
      exact Or.inr ⟨if_pos rfl, by rw [if_pos rfl]; exact (keeps old).symm⟩
    · rw [if_neg hit]
      exact Or.inl before
  cases committed with
  | idle | sweptSeats | heldSeats | sweptTier | heldQuantity | released | releasedUnattached
  | expired | releasedOrder | recorded | enqueued => exact Or.inl member
  | placed input => exact absurd rfl (other input)
  | joined =>
    rcases Table.mem_insert.mp member with old | rfl
    · exact Or.inl old
    · cases waits
  | offered input row found waiting =>
    have stored := (Table.find_eq_some.mp found).1
    rcases rewritten stored member with old | ⟨_, same⟩
    · exact Or.inl old
    · exact absurd (same ▸ custody.queued row stored waiting) reserved
  | settled input row _ _ found settles =>
    have stored := (Table.find_eq_some.mp found).1
    cases settles with
    | already | unavailable => exact Or.inl member
    | refused | completes =>
      rcases rewritten stored member with old | ⟨rfl, _⟩
      · exact Or.inl old
      · cases waits
    | awaits _ _ _ _ pending _ _ _ kept =>
      rcases rewritten stored member with old | ⟨_, same⟩
      · exact Or.inl old
      · rw [← same]
        exact Or.inr ⟨kept, rfl, row, stored, rfl, pending⟩
  | rejected input row found =>
    rcases rewritten (Table.find_eq_some.mp found).1 member with old | ⟨rfl, _⟩
    · exact Or.inl old
    · cases waits
  | refunded _ _ row _ found =>
    rcases rewritten (Table.find_eq_some.mp found).1 member with old | ⟨rfl, _⟩
    · exact Or.inl old
    · simp only [isAwaitingApproval, statusAfterRefund] at waits
      split at waits <;> cases waits

theorem SeatsKept.committed {op : Op} (seats : SeatsKept priced db now)
    (respects : RespectsHolds db now op) (other : ∀ input, op ≠ .placeOrder input)
    (committed : Committed db now op after) : SeatsKept priced after now where
  custody := seats.custody.committed respects.spares other committed
  early := seats.early
  free := seats.free.committed seats.custody.sole respects.seatsOwn committed
  kept := by
    intro order member waits seatId named
    have reserved : priced order.id ≠ [] := List.ne_nil_of_mem named
    rcases seats.custody.waiting other committed member waits reserved with
      before | ⟨kept, holds, old, stored, same, pending⟩
    · refine KeptFor.committed (seats.kept order before waits seatId named) seats.early respects
        other committed (fun row found => ?_) fun row found => ?_
      · have again : db.orders.find order.id = some order := Table.find_key before
        rw [again] at found
        cases found
        exact waits
      · have again : after.orders.find order.id = some order := Table.find_key member
        rw [again] at found
        cases found
        exact waits
    · rw [holds]
      refine keptFor_awaiting kept ?_
      rw [← same] at named reserved ⊢
      exact (seats.custody.held old stored pending reserved).mem_iff.mpr named
  typed := seats.typed.committed committed

theorem SeatsKept.placed {input : PlaceOrderInput} {placed : PlacedOrder}
    (seats : SeatsKept priced db now)
    (free : ∀ hold ∈ db.seatHolds, hold.id ∈ input.holdIds → hold.orderId = none)
    (placement : Placed db input now placed after) :
    SeatsKept (pricedWith priced db.orders.next input.seatIds) after now where
  custody := seats.custody.placed free placement
  early := seats.early
  free := seats.free.placed seats.custody.sole placement
  kept := by
    intro order member waits seatId named
    rw [placement.seatHolds]
    rcases placed_orders placement member with ⟨old, older⟩ | ⟨rfl, fresh⟩
    · rw [pricedWith_of_ne older] at named
      have kept := seats.kept order old waits seatId named
      have unnamed : ∀ hold ∈ db.seatHolds, hold.orderId = some order.id →
          hold.seatId = some seatId → hold.status = .active →
          hold.expiresAt = DECISION_HOLD_EXPIRY → hold.id ∉ input.holdIds := by
        intro hold stored mine _ _ _ hit
        rw [free hold stored hit] at mine
        cases mine
      unfold settledHolds
      split
      · exact kept.update unnamed
      · exact kept.update unnamed
    · rw [fresh, pricedWith_self] at named
      rw [fresh]
      rcases Bool.eq_false_or_eq_true input.issueTickets with issues | none
      · simp [initialState, isAwaitingApproval, issues] at waits
      · have decides : input.awaitsDecision = true := by
          rcases Bool.eq_false_or_eq_true input.awaitsDecision with decides | idle
          · exact decides
          · simp [initialState, isAwaitingApproval, none, idle] at waits
        have keeps : input.convertsHolds = false := by
          simp [PlaceOrderInput.convertsHolds, none, List.ne_nil_of_mem named]
        exact keptFor_placed seats.custody.sole placement.accepts decides keeps named
  typed := seats.typed.committed (.placed input placed after placement)

theorem ReservedFree.later {later : Instant} (free : ReservedFree db now) (le : now ≤ later) :
    ReservedFree db later :=
  fun hold stored reserves => free hold stored ⟨reserves.1, Nat.lt_of_le_of_lt le reserves.2⟩

theorem SeatsKept.step {workspace : Workspace} {op : Op}
    (seats : SeatsKept workspace.priced workspace.db workspace.clock)
    (respects : RespectsHolds workspace.db workspace.clock op) :
    SeatsKept (Source.step workspace op).priced (Source.step workspace op).db
      (Source.step workspace op).clock := by
  have sameTime : SeatsKept (Source.step workspace op).priced (Source.step workspace op).db
      workspace.clock := by
    by_cases confirm : ∃ input, op = .placeOrder input
    · obtain ⟨input, rfl⟩ := confirm
      rcases step_placed workspace input with ⟨same, priced⟩ | ⟨⟨placed, placement⟩, priced⟩
      · rwa [same, priced]
      · rw [priced]
        exact seats.placed (respects placement.accepts) placement
    · have other : ∀ input, op ≠ .placeOrder input := fun input same => confirm ⟨input, same⟩
      rw [step_priced workspace other]
      let at' (db : Db) : Prop := SeatsKept workspace.priced db workspace.clock
      have kept : at' (Source.step workspace op).db := step_preserves
        (fun _ committed => seats.committed respects other (commit_cases committed)) seats
      exact kept
  refine { sameTime with
    early := ?_
    free := sameTime.free.later (Nat.le_add_right _ _) }
  cases op with
  | tick elapsed => exact respects
  | _ => exact sameTime.early

end Steps

/-! ## Approving -/

/-- An approval of a waiting order with free seats is refused with a blocker, or settles. -/
theorem approve_cases {db : Db} {input : SettleOrderInput} (now : Instant) {order : Order}
    (found : db.orders.find input.orderId = some order) (deciding : input.mode = .approval)
    (waits : isAwaitingApproval order = true)
    (distinct : (heldSeatIds db.seatHolds order.id).Nodup)
    (free : assignedSeatIds db.seatAssignments (heldSeatIds db.seatHolds order.id) = []) :
    ∃ settlement after, settleOrder db input now = .ok (settlement, after) ∧
      ((settlement.outcome = .unavailable ∧ settlement.reason.isSome ∧
          settlement.reason = settlementBlocker (loadSettlement db order) .approval) ∨
        settlement.outcome = .settled) := by
  have pending : order.status = .pending := by
    simp only [isAwaitingApproval, Bool.and_eq_true, beq_iff_eq] at waits
    exact waits.1
  have isOpen : isOpenFor .approval .pending = true := rfl
  have assigns (tickets : List Nat) : ∃ assignments,
      assignSeats db.seatAssignments (heldSeatIds db.seatHolds order.id) tickets =
        .ok assignments := by
    unfold assignSeats
    split
    · exact ⟨_, rfl⟩
    · rw [if_pos ⟨distinct, free⟩]
      exact ⟨_, rfl⟩
  simp only [settleOrder, lockOrder, found, bind, Except.bind, isOpen, pending, deciding,
    Bool.not_true, Bool.false_eq_true, reduceCtorEq, if_false, if_true, false_and]
  split
  next blocked passed =>
    refine ⟨_, _, rfl, Or.inl ⟨rfl, rfl, ?_⟩⟩
    rw [deciding] at passed
    exact passed.symm
  next passed =>
    obtain ⟨assignments, seated⟩ := assigns (List.range' db.tickets.next
      ((loadSettlement db order).line.get (line_of_unblocked passed)).quantity)
    have seats : (loadSettlement db order).seatIds = heldSeatIds db.seatHolds order.id := rfl
    simp only [completeSettlement, seats, seated, bind, Except.bind]
    exact ⟨_, _, rfl, Or.inr rfl⟩

/-- A waiting order's blockers when its seats are free and complete: only what the organizer
can change. -/
theorem blocker_of_kept {context : SettlementContext} {blocked : String}
    (counted : context.placesCounted = true) (free : context.takenSeatIds = [])
    (complete : ∀ line, context.line = some line → context.seatIds.length = line.quantity)
    (refused : settlementBlocker context .approval = some blocked) :
    (context.line = none ∧ blocked = (BLOCKERS .approval).noTier) ∨
      (context.seatTypesMatch = false ∧ blocked = (BLOCKERS .approval).seatMismatch) := by
  unfold settlementBlocker at refused
  cases judged : context.line with
  | none =>
    simp only [judged, Option.some.injEq] at refused
    exact Or.inl ⟨rfl, refused.symm⟩
  | some line =>
    have same := complete line judged
    cases sells : context.seatTypesMatch with
    | true => simp [judged, counted, free, same, sells] at refused
    | false =>
      simp only [judged, counted, free, same, sells] at refused
      simp only [Bool.not_true, Bool.false_and, Bool.false_eq_true, if_false, List.length_nil,
        Nat.lt_irrefl, gt_iff_lt, bne_self_eq_false, Bool.and_false, Bool.not_false, if_true,
        Option.some.injEq] at refused
      exact Or.inr ⟨rfl, refused.symm⟩

section Approval

variable {db : Db} {now : Instant} {priced : Nat → List Nat} {order : Order}

theorem SeatsKept.waiting_pending (waits : isAwaitingApproval order = true) :
    order.status = .pending := by
  simp only [isAwaitingApproval, Bool.and_eq_true, beq_iff_eq] at waits
  exact waits.1

/-- Nobody's ticket is bound to a waiting order's seats. -/
theorem SeatsKept.untaken (seats : SeatsKept priced db now) (stored : order ∈ db.orders)
    (waits : isAwaitingApproval order = true) {seatId : Nat} (named : seatId ∈ priced order.id) :
    ¬ Taken db.seatAssignments seatId := by
  obtain ⟨hold, member, _, seated, active, lasting⟩ := seats.kept order stored waits seatId named
  exact seats.free hold member ⟨active, lasting ▸ seats.early⟩ seatId seated

/-- Approving a waiting reserved order settles it, unless the organizer changed its ticket type or
its map, and then says so. -/
theorem SeatsKept.approves (seats : SeatsKept priced db now) (stored : order ∈ db.orders)
    (waits : isAwaitingApproval order = true) (reserved : priced order.id ≠ [])
    {input : SettleOrderInput} (deciding : input.mode = .approval)
    (named : input.orderId = order.id) (ticketTypes : Table TicketType) (seatRows : Table Seat)
    (seatMaps : Table SeatMap) :
    let edited := { db with ticketTypes, seats := seatRows, seatMaps }
    ∃ settlement after, settleOrder edited input now = .ok (settlement, after) ∧
      (settlement.outcome = .settled ∨ (settlement.outcome = .unavailable ∧
        (((loadSettlement edited order).line = none ∧
            settlement.reason = some (BLOCKERS .approval).noTier) ∨
          ((loadSettlement edited order).seatTypesMatch = false ∧
            settlement.reason = some (BLOCKERS .approval).seatMismatch)))) := by
  intro edited
  have pending := SeatsKept.waiting_pending waits
  have held := seats.custody.held order stored pending reserved
  have distinct : (heldSeatIds db.seatHolds order.id).Nodup :=
    held.nodup_iff.mpr (seats.custody.nodup order.id)
  have free : assignedSeatIds db.seatAssignments (heldSeatIds db.seatHolds order.id) = [] :=
    assignedSeatIds_eq_nil.mpr fun seatId mine =>
      seats.untaken stored waits (held.mem_iff.mp mine)
  have found : edited.orders.find input.orderId = some order := by
    rw [named]
    exact Table.find_key stored
  obtain ⟨settlement, after, success, outcome⟩ :=
    approve_cases now found deciding waits distinct free
  refine ⟨settlement, after, success, ?_⟩
  rcases outcome with ⟨unavailable, said, blocked⟩ | settled
  · obtain ⟨reason, reasoned⟩ := Option.isSome_iff_exists.mp said
    rw [reasoned] at blocked ⊢
    have why := blocker_of_kept waits free (fun line judged => ?_) blocked.symm
    · right
      simpa [unavailable] using why
    · obtain ⟨item, tier, line', mine, _, rfl⟩ := loadSettlement_line judged
      have counted := seats.custody.counted item line' (by rwa [mine])
      rw [mine] at counted
      exact held.length_eq.trans counted
  · exact Or.inl settled

/-- With the ticket type and the map as they were, the approval settles. -/
theorem SeatsKept.approved (seats : SeatsKept priced db now) (stored : order ∈ db.orders)
    (waits : isAwaitingApproval order = true) (reserved : priced order.id ≠ [])
    {input : SettleOrderInput} (deciding : input.mode = .approval)
    (named : input.orderId = order.id) :
    ∃ settlement after, settleOrder db input now = .ok (settlement, after) ∧
      settlement.outcome = .settled := by
  obtain ⟨settlement, after, success, outcome⟩ := seats.approves stored waits reserved deciding
    named db.ticketTypes db.seats db.seatMaps
  refine ⟨settlement, after, success, outcome.resolve_right ?_⟩
  obtain ⟨item, line, mine⟩ := seats.custody.references.lined order stored
  have ordered : orderLine db order.id = some item := by
    obtain ⟨first, found⟩ : ∃ first, orderLine db order.id = some first := by
      unfold orderLine
      cases picked : db.orderItems.select fun item => item.orderId = order.id with
      | nil =>
        have there : item ∈ db.orderItems.select fun item => item.orderId = order.id :=
          Table.mem_select.mpr ⟨line, mine⟩
        rw [picked] at there
        cases there
      | cons first rest => exact ⟨first, rfl⟩
    obtain ⟨stored', mine'⟩ := orderLine_some found
    rw [found, seats.custody.references.sole first stored' item line (mine'.trans mine.symm)]
  obtain ⟨tier, typed⟩ := Option.isSome_iff_exists.mp (seats.typed item line)
  rintro ⟨_, ⟨none, _⟩ | ⟨mismatch, _⟩⟩
  · simp [loadSettlement, ordered, typed] at none
  · have held := seats.custody.held order stored (SeatsKept.waiting_pending waits) reserved
    have sells : seatsSellUnder db order.eventId (heldSeatIds db.seatHolds order.id)
        item.ticketTypeId = true := by
      refine Bool.or_eq_true_iff.mpr (Or.inr (List.all_eq_true.mpr fun seat picked => ?_))
      obtain ⟨there, own⟩ := Table.mem_select.mp picked
      obtain ⟨other, there', same, under⟩ := seats.custody.sells order stored item line mine seat.id
        (held.mem_iff.mp own)
      rwa [← Table.eq_of_key there' there same]
    simp [loadSettlement, ordered, sells] at mismatch

end Approval

theorem Opening.seatsKept {workspace : Workspace} (opening : Opening workspace.db)
    (sole : SoleHolder workspace.db.seatHolds) (unpriced : ∀ id, workspace.priced id = [])
    (early : workspace.clock < DECISION_HOLD_EXPIRY) :
    SeatsKept workspace.priced workspace.db workspace.clock where
  custody := opening.custody sole unpriced
  early := early
  free := fun _ _ _ _ _ ⟨_, stored, _⟩ =>
    absurd stored (Table.not_mem_of_empty opening.seatAssignments _)
  kept := fun _ stored => absurd stored (Table.not_mem_of_empty opening.orders _)
  typed := fun _ stored => absurd stored (Table.not_mem_of_empty opening.orderItems _)

end EventaApi.Guarantees
