import EventaApi.Source.CheckoutRules

/-!
# The seat-hold engine

`SeatHoldRepository`'s transactions: reserve seats or a quantity for a buyer while
they check out, release a reservation, and sweep the lapsed ones.
-/
namespace EventaApi.Source
open Library

/-- `[...new Set(ids)]`: each id once, where it first stands. -/
def distinctIds (ids : List Nat) : List Nat := ids.reverse.dedup.reverse

@[simp] theorem mem_distinctIds {ids : List Nat} {id : Nat} : id ∈ distinctIds ids ↔ id ∈ ids := by
  simp [distinctIds]

theorem nodup_distinctIds (ids : List Nat) : (distinctIds ids).Nodup := by
  simp [distinctIds, List.nodup_dedup]

/-- A hold that reserves inventory at `now`; a lapsed one reserves nothing. -/
def SeatHold.reserves (hold : SeatHold) (now : Instant) : Prop :=
  hold.status = .active ∧ now < hold.expiresAt

instance (hold : SeatHold) (now : Instant) : Decidable (hold.reserves now) :=
  inferInstanceAs (Decidable (_ ∧ _))

inductive HoldSeatsResult where
  | held (holdIds : List Nat)
  | unavailable (unavailableSeatIds : List Nat)
  deriving DecidableEq, Repr

inductive HoldQuantityResult where
  | held (holdId : Nat)
  | unavailable (available : Nat)
  deriving DecidableEq, Repr

structure HoldSeatsInput where
  eventId : Nat
  ticketTypeId : Nat
  seatIds : List Nat
  expiresAt : Instant
  orderId : Option Nat := none
  deriving Repr

structure HoldQuantityInput where
  eventId : Nat
  ticketTypeId : Nat
  quantity : Nat
  expiresAt : Instant
  orderId : Option Nat := none
  deriving Repr

/-- The hold a seat reservation writes for one seat. -/
@[reducible] def heldSeat (input : HoldSeatsInput) (seatId id : Nat) : SeatHold where
  id := id
  eventId := input.eventId
  orderId := input.orderId
  ticketTypeId := some input.ticketTypeId
  seatId := some seatId
  quantity := 1
  status := .active
  expiresAt := input.expiresAt

/-- The hold a quantity reservation writes. -/
@[reducible] def heldQuantity (input : HoldQuantityInput) (id : Nat) : SeatHold where
  id := id
  eventId := input.eventId
  orderId := input.orderId
  ticketTypeId := some input.ticketTypeId
  seatId := none
  quantity := input.quantity
  status := .active
  expiresAt := input.expiresAt

/-- The event each seat map belongs to, read off the maps of `seatMapId`. -/
def eventByMap (db : Db) (seatMapId : Nat) : Option Nat :=
  (db.seatMaps.find seatMapId).map SeatMap.eventId

def expireLapsedForSeats (holds : Table SeatHold) (seatIds : List Nat) (now : Instant) :
    Table SeatHold :=
  holds.update
    (fun hold => (∃ seatId ∈ seatIds, hold.seatId = some seatId) ∧ hold.status = .active ∧
      hold.expiresAt ≤ now)
    fun hold => { hold with status := .expired }

def expireLapsedForTier (holds : Table SeatHold) (ticketTypeId : Nat) (now : Instant) :
    Table SeatHold :=
  holds.update
    (fun hold => hold.ticketTypeId = some ticketTypeId ∧ hold.status = .active ∧
      hold.expiresAt ≤ now)
    fun hold => { hold with status := .expired }

def activeHeldSeatIds (holds : Table SeatHold) (seatIds : List Nat) : List Nat :=
  (holds.select fun hold =>
    (∃ seatId ∈ seatIds, hold.seatId = some seatId) ∧ hold.status = .active).filterMap
      SeatHold.seatId

/-- The seats of `seatIds` a live assignment binds. -/
def assignedSeatIds (assignments : Table SeatAssignment) (seatIds : List Nat) : List Nat :=
  (assignments.select fun assignment =>
    assignment.seatId ∈ seatIds ∧ assignment.releasedAt = none).map SeatAssignment.seatId

def activeHeldQuantity (holds : Table SeatHold) (ticketTypeId : Nat) : Nat :=
  holds.sum fun hold =>
    if hold.ticketTypeId = some ticketTypeId ∧ hold.status = .active then hold.quantity else 0

/-- Holdable: it exists, on this event's map, available, neither held nor assigned. -/
def seatUnavailable (db : Db) (holds : Table SeatHold) (eventId : Nat) (ids : List Nat)
    (seatId : Nat) : Bool :=
  match db.seats.find seatId with
  | none => true
  | some seat =>
    eventByMap db seat.seatMapId != some eventId || seat.status != .available ||
      (activeHeldSeatIds holds ids).contains seatId ||
      (assignedSeatIds db.seatAssignments ids).contains seatId

def foreignKey (held : Bool) (reference : String) : Except TxError Unit :=
  if held then .ok () else .error (.foreignKeyViolation reference)

/-- Reserve specific seats, all or nothing. -/
def holdSeats (db : Db) (input : HoldSeatsInput) (now : Instant) :
    Except TxError (HoldSeatsResult × Db) :=
  let ids := distinctIds input.seatIds
  if ids = [] then .ok (.unavailable [], db)
  else
    let holds := expireLapsedForSeats db.seatHolds ids now
    let unavailableSeatIds := ids.filter (seatUnavailable db holds input.eventId ids)
    if unavailableSeatIds ≠ [] then
      .ok (.unavailable unavailableSeatIds, { db with seatHolds := holds })
    else do
      foreignKey (db.ticketTypes.find input.ticketTypeId).isSome "seat_holds.ticket_type_id"
      foreignKey (input.orderId.all fun id => (db.orders.find id).isSome) "seat_holds.order_id"
      .ok (.held (List.range' holds.next ids.length),
        { db with seatHolds := holds.insertEach ids (heldSeat input) })

/-- Reserve a quantity against a ticket type, only while the places left still cover it. -/
def holdQuantity (db : Db) (input : HoldQuantityInput) (now : Instant) :
    Except TxError (HoldQuantityResult × Db) :=
  if input.quantity < 1 then .ok (.unavailable 0, db)
  else
    match db.ticketTypes.find input.ticketTypeId with
    | none => .ok (.unavailable 0, db)
    | some tier =>
      if tier.eventId ≠ input.eventId ∨ tier.deletedAt ≠ none then .ok (.unavailable 0, db)
      else
        let holds := expireLapsedForTier db.seatHolds input.ticketTypeId now
        let held := activeHeldQuantity holds input.ticketTypeId
        let available := tier.total - tier.sold - held
        if input.quantity > available then
          .ok (.unavailable available, { db with seatHolds := holds })
        else do
          foreignKey (input.orderId.all fun id => (db.orders.find id).isSome)
            "seat_holds.order_id"
          .ok (.held holds.next, { db with seatHolds := holds.insert (heldQuantity input) })

/-- Release active holds early, whoever holds them. -/
def release (db : Db) (holdIds : List Nat) : Db :=
  { db with
    seatHolds := db.seatHolds.update (fun hold => hold.id ∈ holdIds ∧ hold.status = .active)
      fun hold => { hold with status := .released } }

/-- Release active holds that no order has taken over. -/
def releaseUnattached (db : Db) (holdIds : List Nat) : Db :=
  { db with
    seatHolds := db.seatHolds.update
      (fun hold => hold.id ∈ holdIds ∧ hold.status = .active ∧ hold.orderId = none)
      fun hold => { hold with status := .released } }

/-- Flip lapsed active holds to expired; returns how many. -/
def expireStale (db : Db) (now : Instant) : Nat × Db :=
  ((db.seatHolds.select fun hold => hold.status = .active ∧ hold.expiresAt ≤ now).length,
    { db with
      seatHolds := db.seatHolds.update (fun hold => hold.status = .active ∧ hold.expiresAt ≤ now)
        fun hold => { hold with status := .expired } })

/-! ## What each transaction did -/

theorem foreignKey_ok {held : Bool} {reference : String} {done : Unit} :
    foreignKey held reference = .ok done ↔ held = true := by
  unfold foreignKey
  split <;> simp_all

/-- Holding seats writes nothing, sweeps what lapsed on them, or sweeps and then holds them all. -/
theorem holdSeats_cases {db : Db} {input : HoldSeatsInput} {now : Instant}
    {result : HoldSeatsResult} {after : Db}
    (success : holdSeats db input now = .ok (result, after)) :
    let ids := distinctIds input.seatIds
    let swept := expireLapsedForSeats db.seatHolds ids now
    after = db ∨ after = { db with seatHolds := swept } ∨
      ((∀ id ∈ ids, seatUnavailable db swept input.eventId ids id = false) ∧
        (∀ orderId, input.orderId = some orderId → (db.orders.find orderId).isSome) ∧
        after = { db with seatHolds := swept.insertEach ids (heldSeat input) }) := by
  simp only [holdSeats] at success
  split at success
  · cases success
    exact Or.inl rfl
  · split at success
    · cases success
      exact Or.inr (Or.inl rfl)
    next available =>
      obtain ⟨_, _, success⟩ := bind_ok success
      obtain ⟨_, attached, success⟩ := bind_ok success
      cases success
      refine Or.inr (Or.inr ⟨?_, ?_, rfl⟩)
      · intro id member
        simpa using (List.filter_eq_nil_iff.mp (not_not.mp available)) id member
      · intro orderId named
        simpa [named] using foreignKey_ok.mp attached

/-- Holding a quantity writes nothing, sweeps the tier's lapsed holds, or also holds it. -/
theorem holdQuantity_cases {db : Db} {input : HoldQuantityInput} {now : Instant}
    {result : HoldQuantityResult} {after : Db}
    (success : holdQuantity db input now = .ok (result, after)) :
    let swept := expireLapsedForTier db.seatHolds input.ticketTypeId now
    after = db ∨ after = { db with seatHolds := swept } ∨
      ∃ tier, db.ticketTypes.find input.ticketTypeId = some tier ∧ 1 ≤ input.quantity ∧
        tier.sold + activeHeldQuantity swept input.ticketTypeId + input.quantity ≤ tier.total ∧
        (∀ orderId, input.orderId = some orderId → (db.orders.find orderId).isSome) ∧
        after = { db with seatHolds := swept.insert (heldQuantity input) } := by
  simp only [holdQuantity] at success
  split at success
  · cases success
    exact Or.inl rfl
  next positive =>
  split at success
  · cases success
    exact Or.inl rfl
  next tier found =>
  split at success
  · cases success
    exact Or.inl rfl
  · split at success
    · cases success
      exact Or.inr (Or.inl rfl)
    next enough =>
      obtain ⟨_, attached, success⟩ := bind_ok success
      cases success
      refine Or.inr (Or.inr ⟨tier, found, by omega, by omega, ?_, rfl⟩)
      intro orderId named
      simpa [named] using foreignKey_ok.mp attached

end EventaApi.Source
