import EventaApi.Guarantees.StockAccounting

/-!
# A hold promises its own places

A quantity hold is granted against what is neither sold nor held, but a confirm
spends places against `sold` alone: it never asks whether its own holds keep the
quantity it takes. So the sold places and the promised ones stay within the
allocation along every run in which each sale is covered by the order's own holds
and by places nobody holds, and a confirm that names no hold can break the promise
made to somebody else.
-/
namespace EventaApi.Guarantees
open Library Source

/-- The places of a ticket type that unexpired active holds reserve, among those a clause picks. -/
def promisedTo (holds : Table SeatHold) (ticketTypeId : Nat) (now : Instant)
    (picked : SeatHold → Prop) [DecidablePred picked] : Nat :=
  holds.sum fun hold =>
    if hold.ticketTypeId = some ticketTypeId ∧ hold.reserves now ∧ picked hold then hold.quantity
    else 0

/-- The places of a ticket type that unexpired active holds reserve. -/
def promised (holds : Table SeatHold) (ticketTypeId : Nat) (now : Instant) : Nat :=
  promisedTo holds ticketTypeId now fun _ => True

/-- What is sold and what is promised fit in the allocation. -/
def WithinAllocation (db : Db) (now : Instant) (ticketTypeId : Nat) : Prop :=
  ∀ tier ∈ db.ticketTypes, tier.id = ticketTypeId →
    tier.sold + promised db.seatHolds ticketTypeId now ≤ tier.total

/-- A general-admission type is held by quantity, never by seat. -/
def HeldByQuantity (holds : Table SeatHold) (ticketTypeId : Nat) : Prop :=
  ∀ hold ∈ holds, hold.ticketTypeId = some ticketTypeId → hold.seatId = none

/-! ## How a write moves the promised places -/

section Promised

variable {holds : Table SeatHold} {ticketTypeId : Nat} {now : Instant}

/-- A write that revives no hold and moves no hold to this type promises nothing more. -/
theorem promised_update_le {hit : SeatHold → Prop} [DecidablePred hit]
    {write : SeatHold → SeatHold} {keeps : ∀ hold, Keyed.key (write hold) = Keyed.key hold}
    (quiet : ∀ hold ∈ holds, hit hold → (write hold).ticketTypeId = some ticketTypeId →
      (write hold).reserves now → hold.ticketTypeId = some ticketTypeId ∧ hold.reserves now ∧
        (write hold).quantity = hold.quantity) :
    promised (holds.update hit write keeps) ticketTypeId now ≤
      promised holds ticketTypeId now := by
  unfold promised promisedTo
  rw [Table.sum_update]
  refine Table.sum_le_sum fun hold stored => ?_
  simp only [and_true]
  by_cases selected : hit hold
  · rw [if_pos selected]
    split
    next counts =>
      obtain ⟨typed, reserves, same⟩ := quiet hold stored selected counts.1 counts.2
      rw [if_pos ⟨typed, reserves⟩, same]
    · exact Nat.zero_le _
  · rw [if_neg selected]

/-- A write that ends the holds it touches leaves exactly what the others promise. -/
theorem promised_end {hit : SeatHold → Prop} [DecidablePred hit]
    {write : SeatHold → SeatHold} {keeps : ∀ hold, Keyed.key (write hold) = Keyed.key hold}
    (ends : ∀ hold, ¬ (write hold).reserves now) :
    promised (holds.update hit write keeps) ticketTypeId now =
      promisedTo holds ticketTypeId now fun hold => ¬ hit hold := by
  unfold promised promisedTo
  rw [Table.sum_update]
  refine Table.sum_congr fun hold _ => ?_
  by_cases selected : hit hold
  · simp [selected, ends]
  · simp [selected]

/-- The promised places split between the holds a clause picks and the others. -/
theorem promised_split (picked : SeatHold → Prop) [DecidablePred picked] :
    promisedTo holds ticketTypeId now picked +
      promisedTo holds ticketTypeId now (fun hold => ¬ picked hold) =
        promised holds ticketTypeId now := by
  unfold promised promisedTo
  rw [← Table.sum_add]
  refine Table.sum_congr fun hold _ => ?_
  by_cases mine : picked hold <;> simp [mine]

theorem promisedTo_le (picked : SeatHold → Prop) [DecidablePred picked] :
    promisedTo holds ticketTypeId now picked ≤ promised holds ticketTypeId now := by
  rw [← promised_split picked]
  exact Nat.le_add_right _ _

/-- Time only ends promises. -/
theorem promised_later {later : Instant} (le : now ≤ later) :
    promised holds ticketTypeId later ≤ promised holds ticketTypeId now := by
  refine Table.sum_le_sum fun hold _ => ?_
  simp only [and_true]
  split
  next counts =>
    rw [if_pos ⟨counts.1, counts.2.1, Nat.lt_of_le_of_lt le counts.2.2⟩]
  · exact Nat.zero_le _

theorem promised_le_active :
    promised holds ticketTypeId now ≤ activeHeldQuantity holds ticketTypeId := by
  refine Table.sum_le_sum fun hold _ => ?_
  simp only [and_true]
  split
  next counts => rw [if_pos ⟨counts.1, counts.2.1⟩]
  · exact Nat.zero_le _

end Promised

/-! ## The condition on a sale -/

/-- A quantity of the type fits beside what is sold and what holds other than its own promise. -/
def CoveredBy (db : Db) (now : Instant) (ticketTypeId quantity : Nat) (own : SeatHold → Prop)
    [DecidablePred own] : Prop :=
  ∀ tier ∈ db.ticketTypes, tier.id = ticketTypeId →
    tier.sold + quantity + promisedTo db.seatHolds ticketTypeId now (fun hold => ¬ own hold) ≤
      tier.total

/-- A settlement that raises `sold`: open, unblocked, not counted before, no seat lost. -/
def CountsSale (db : Db) (input : SettleOrderInput) (order : Order) : Prop :=
  isOpenFor input.mode order.status = true ∧ isAwaitingApproval order = false ∧
    settlementBlocker (loadSettlement db order) input.mode = none ∧
    (input.mode = .payment → order.requiresApproval = true →
      seatHoldLost db.seatHolds order.id = false)

/-- Each sale of the type is covered; the type is held by quantity only. -/
def KeepsPromises (ticketTypeId : Nat) (db : Db) (now : Instant) : Op → Prop
  | .holdSeats input => input.ticketTypeId ≠ ticketTypeId
  | .placeOrder input =>
    Accepts db now input → input.takesPlaces = true → input.ticketTypeId = ticketTypeId →
      CoveredBy db now ticketTypeId input.quantity fun hold =>
        input.convertsHolds = true ∧ hold.id ∈ input.holdIds
  | .settleOrder input =>
    ∀ order ∈ db.orders, order.id = input.orderId → CountsSale db input order →
      ∀ item ∈ db.orderItems, item.orderId = order.id → item.ticketTypeId = ticketTypeId →
        CoveredBy db now ticketTypeId item.quantity fun hold => hold.orderId = some order.id
  | _ => True

/-! ## Each operation -/

section Operations

variable {db after : Db} {now : Instant} {ticketTypeId : Nat}

/-- Nothing more is sold and nothing more is promised. -/
theorem WithinAllocation.mono (within : WithinAllocation db now ticketTypeId)
    (types : ∀ tier ∈ after.ticketTypes, tier.id = ticketTypeId →
      ∃ old ∈ db.ticketTypes, old.id = ticketTypeId ∧ tier.sold ≤ old.sold ∧
        old.total = tier.total)
    (holds : promised after.seatHolds ticketTypeId now ≤ promised db.seatHolds ticketTypeId now) :
    WithinAllocation after now ticketTypeId := by
  intro tier member same
  obtain ⟨old, stored, same', sold, total⟩ := types tier member same
  have bound := within old stored same'
  omega

theorem WithinAllocation.holds (within : WithinAllocation db now ticketTypeId)
    (types : after.ticketTypes = db.ticketTypes)
    (holds : promised after.seatHolds ticketTypeId now ≤ promised db.seatHolds ticketTypeId now) :
    WithinAllocation after now ticketTypeId :=
  within.mono (fun tier member same => ⟨tier, types ▸ member, same, Nat.le_refl _, rfl⟩) holds

/-- A covered sale whose own holds end with it. -/
theorem CoveredBy.within {tier : TicketType} {quantity : Nat} {own : SeatHold → Prop}
    [DecidablePred own] (covered : CoveredBy db now tier.id quantity own)
    (stored : tier ∈ db.ticketTypes)
    (types : after.ticketTypes = db.ticketTypes.update (fun row => row.id = tier.id)
      fun row => { row with sold := tier.sold + quantity })
    (kept : promised after.seatHolds tier.id now ≤
      promisedTo db.seatHolds tier.id now fun hold => ¬ own hold) :
    WithinAllocation after now tier.id := by
  intro row member same
  rw [types] at member
  obtain ⟨old, stored', rfl⟩ := Table.mem_update.mp member
  by_cases hit : old.id = tier.id
  · have selected : old = tier := Table.eq_of_key stored' stored hit
    subst selected
    have bound := covered old stored rfl
    simp only [if_true]
    omega
  · rw [if_neg hit] at same
    exact absurd same hit

/-- A sale of another type leaves this one's count alone. -/
theorem WithinAllocation.otherSale (within : WithinAllocation db now ticketTypeId)
    {soldType sold : Nat} (different : soldType ≠ ticketTypeId)
    (types : after.ticketTypes = db.ticketTypes.update (fun row => row.id = soldType)
      fun row => { row with sold := sold })
    (holds : promised after.seatHolds ticketTypeId now ≤ promised db.seatHolds ticketTypeId now) :
    WithinAllocation after now ticketTypeId := by
  refine within.mono (fun row member same => ?_) holds
  rw [types] at member
  rcases Table.mem_update_cases member with ⟨old, stored, hit, rfl⟩ | ⟨stored, hit⟩
  · exact absurd (hit.symm.trans same) different
  · exact ⟨row, stored, same, Nat.le_refl _, rfl⟩

/-- Stock given back. -/
theorem WithinAllocation.lowered (within : WithinAllocation db now ticketTypeId)
    {given : Nat → Nat}
    (types : ∀ key, after.ticketTypes.find key = (db.ticketTypes.find key).map fun tier =>
      { tier with sold := tier.sold - given key })
    (holds : promised after.seatHolds ticketTypeId now ≤ promised db.seatHolds ticketTypeId now) :
    WithinAllocation after now ticketTypeId := by
  refine within.mono (fun row member same => ?_) holds
  have found := Table.find_key member
  rw [types] at found
  obtain ⟨tier, stored, written⟩ := Option.map_eq_some_iff.mp found
  obtain ⟨old, _⟩ := Table.find_eq_some.mp stored
  rw [← written] at same ⊢
  exact ⟨tier, old, same, Nat.sub_le _ _, rfl⟩

theorem promised_released (holds : Table SeatHold) (orderId : Nat) :
    promised (releaseActiveHolds holds orderId) ticketTypeId now ≤
      promised holds ticketTypeId now :=
  promised_update_le fun _ _ _ _ reserves => by cases reserves.1

theorem promised_settledHolds {input : PlaceOrderInput} {holds : Table SeatHold} {orderId : Nat}
    (active : assertHoldsStillActive holds input.holdIds now = .ok ()) :
    promised (settledHolds input holds orderId) ticketTypeId now ≤
      promisedTo holds ticketTypeId now fun hold =>
        ¬ (input.convertsHolds = true ∧ hold.id ∈ input.holdIds) := by
  unfold settledHolds
  rcases Bool.eq_false_or_eq_true input.convertsHolds with converts | keeps
  · rw [if_pos converts]
    refine Nat.le_of_eq ((promised_end fun _ reserves => by cases reserves.1).trans ?_)
    refine Table.sum_congr fun hold _ => ?_
    simp [converts]
  · have all : promised holds ticketTypeId now = promisedTo holds ticketTypeId now fun hold =>
        ¬ (input.convertsHolds = true ∧ hold.id ∈ input.holdIds) := by
      refine Table.sum_congr fun hold _ => ?_
      simp [keeps]
    rw [if_neg (by simp [keeps]), ← all]
    refine promised_update_le fun hold stored named typed _ => ?_
    exact ⟨typed, reserves_of_named active stored named, rfl⟩

theorem WithinAllocation.placed (within : WithinAllocation db now ticketTypeId)
    {input : PlaceOrderInput} {placed : PlacedOrder}
    (placement : Placed db input now placed after)
    (covered : input.takesPlaces = true → input.ticketTypeId = ticketTypeId →
      CoveredBy db now ticketTypeId input.quantity fun hold =>
        input.convertsHolds = true ∧ hold.id ∈ input.holdIds) :
    WithinAllocation after now ticketTypeId := by
  have kept : promised (settledHolds input db.seatHolds db.orders.next) ticketTypeId now ≤
      promisedTo db.seatHolds ticketTypeId now fun hold =>
        ¬ (input.convertsHolds = true ∧ hold.id ∈ input.holdIds) :=
    promised_settledHolds placement.active
  rw [← placement.seatHolds] at kept
  have fewer : promised after.seatHolds ticketTypeId now ≤
      promised db.seatHolds ticketTypeId now := Nat.le_trans kept (promisedTo_le _)
  rcases Bool.eq_false_or_eq_true input.takesPlaces with takes | none
  · obtain ⟨tier, found, _, types⟩ := reserveAllocation_ok.mp (placement.counted takes)
    obtain ⟨stored, same⟩ := Table.find_eq_some.mp found
    change tier.id = input.ticketTypeId at same
    by_cases typed : input.ticketTypeId = ticketTypeId
    · have sale := covered takes typed
      have named : tier.id = ticketTypeId := same.trans typed
      rw [← named] at sale kept ⊢
      exact sale.within stored (by rw [types, same]) kept
    · exact within.otherSale typed types fewer
  · exact within.holds (placement.uncounted none) fewer

theorem WithinAllocation.settled (within : WithinAllocation db now ticketTypeId)
    (general : HeldByQuantity db.seatHolds ticketTypeId) {input : SettleOrderInput} {order : Order}
    {settlement : Settlement}
    (covered : CountsSale db input order → ∀ item ∈ db.orderItems, item.orderId = order.id →
      item.ticketTypeId = ticketTypeId → CoveredBy db now ticketTypeId item.quantity fun hold =>
        hold.orderId = some order.id)
    (settles : Settled db input order now settlement after) :
    WithinAllocation after now ticketTypeId := by
  have sale {item : OrderItem} {tier : TicketType} (counts : CountsSale db input order)
      (stored : item ∈ db.orderItems) (mine : item.orderId = order.id)
      (typed : db.ticketTypes.find item.ticketTypeId = some tier)
      (types : after.ticketTypes = countSale db.ticketTypes (settlementLine item tier))
      (kept : promised after.seatHolds ticketTypeId now ≤ promisedTo db.seatHolds ticketTypeId now
        fun hold => ¬ hold.orderId = some order.id) :
      WithinAllocation after now ticketTypeId := by
    obtain ⟨member, same⟩ := Table.find_eq_some.mp typed
    change tier.id = item.ticketTypeId at same
    by_cases named : item.ticketTypeId = ticketTypeId
    · have fits := covered counts item stored mine named
      have named' : tier.id = ticketTypeId := same.trans named
      rw [← named'] at fits kept ⊢
      exact fits.within member (by rw [types, same]; rfl) kept
    · exact within.otherSale named types (Nat.le_trans kept (promisedTo_le _))
  have converted : promised (convertOrderHolds db.seatHolds order.id) ticketTypeId now =
      promisedTo db.seatHolds ticketTypeId now fun hold => ¬ hold.orderId = some order.id :=
    promised_end fun _ reserves => by cases reserves.1
  cases settles with
  | already => exact within.holds rfl (Nat.le_refl _)
  | refused => exact within.holds rfl (promised_released _ _)
  | unavailable => exact within
  | awaits _ _ line paying pending idle asks honoured kept =>
    obtain ⟨item, tier, stored, mine, typed, rfl⟩ := loadSettlement_line honoured.judged
    have counts : CountsSale db input order :=
      ⟨by simp [isOpenFor, paying, pending], idle, settlementBlocker_eq_none.mpr ⟨_, honoured⟩,
        fun _ _ => kept⟩
    refine sale counts stored mine typed rfl (Nat.le_of_eq ?_)
    unfold promised promisedTo awaitingDb holdForDecision
    simp only [Table.sum_update]
    refine Table.sum_congr fun hold member => ?_
    by_cases own : hold.orderId = some order.id
    · by_cases mineTyped : hold.ticketTypeId = some ticketTypeId
      · have unseated := general hold member mineTyped
        simp [own, unseated, SeatHold.reserves]
      · by_cases unseated : hold.seatId = none
        · simp [own, unseated, mineTyped]
        · by_cases active : hold.status = .active <;> simp [own, unseated, mineTyped, active]
    · simp [own]
  | completes _ _ line assignments isOpen unasked honoured _ =>
    obtain ⟨item, tier, stored, mine, typed, rfl⟩ := loadSettlement_line honoured.judged
    cases counted : isAwaitingApproval order with
    | true =>
      refine within.holds ?_ ?_
      · simp [ticketedDb]
      · exact Nat.le_trans (Nat.le_of_eq converted) (promisedTo_le _)
    | false =>
      have counts : CountsSale db input order :=
        ⟨isOpen, counted, settlementBlocker_eq_none.mpr ⟨_, honoured⟩, fun paying asks => by
          rw [(unasked paying).1] at asks
          cases asks⟩
      rw [counted] at sale
      exact sale counts stored mine typed rfl (Nat.le_of_eq converted)

/-- A reservation is granted only against places neither sold nor held. -/
theorem WithinAllocation.heldQuantity {input : HoldQuantityInput} {tier : TicketType}
    (found : db.ticketTypes.find input.ticketTypeId = some tier)
    (fits : tier.sold + activeHeldQuantity
      (expireLapsedForTier db.seatHolds input.ticketTypeId now) input.ticketTypeId +
        input.quantity ≤ tier.total)
    (within : WithinAllocation db now ticketTypeId) :
    WithinAllocation { db with
      seatHolds := (expireLapsedForTier db.seatHolds input.ticketTypeId now).insert
        (Source.heldQuantity input) } now ticketTypeId := by
  have swept : promised (expireLapsedForTier db.seatHolds input.ticketTypeId now) ticketTypeId
      now ≤ promised db.seatHolds ticketTypeId now :=
    promised_update_le fun _ _ _ _ reserves => by cases reserves.1
  have inserted : promised ((expireLapsedForTier db.seatHolds input.ticketTypeId now).insert
      (Source.heldQuantity input)) ticketTypeId now ≤
        promised (expireLapsedForTier db.seatHolds input.ticketTypeId now) ticketTypeId now +
          if input.ticketTypeId = ticketTypeId then input.quantity else 0 := by
    unfold promised promisedTo
    rw [Table.sum_insert]
    refine Nat.add_le_add_left ?_ _
    by_cases typed : input.ticketTypeId = ticketTypeId
    · simp only [Source.heldQuantity, typed, if_true]
      split
      · exact Nat.le_refl _
      · exact Nat.zero_le _
    · simp [Source.heldQuantity, typed]
  by_cases typed : input.ticketTypeId = ticketTypeId
  · subst typed
    rw [if_pos rfl] at inserted
    intro row member same
    have selected : row = tier := Table.eq_of_key member (Table.find_eq_some.mp found).1
      (same.trans (Table.find_eq_some.mp found).2.symm)
    subst selected
    have active : promised (expireLapsedForTier db.seatHolds input.ticketTypeId now)
        input.ticketTypeId now ≤ activeHeldQuantity
          (expireLapsedForTier db.seatHolds input.ticketTypeId now) input.ticketTypeId :=
      promised_le_active
    dsimp only
    omega
  · rw [if_neg typed] at inserted
    exact within.holds rfl (Nat.le_trans inserted swept)

/-- Holding seats of another type promises no place of this one. -/
theorem promised_heldSeats {holds : Table SeatHold} {input : HoldSeatsInput} {ids : List Nat}
    (other : input.ticketTypeId ≠ ticketTypeId) :
    promised (holds.insertEach ids (heldSeat input)) ticketTypeId now =
      promised holds ticketTypeId now := by
  have weighs : ∀ seatId id, (if (heldSeat input seatId id).ticketTypeId = some ticketTypeId ∧
      (heldSeat input seatId id).reserves now ∧ True then (heldSeat input seatId id).quantity
      else 0) = (fun _ : Nat => 0) seatId := by
    intro seatId id
    simp [heldSeat, other]
  unfold promised promisedTo
  rw [Table.sum_insertEach weighs]
  simp

/-- Every committed operation that keeps promises leaves the type within its allocation. -/
theorem WithinAllocation.committed {op : Op} (within : WithinAllocation db now ticketTypeId)
    (general : HeldByQuantity db.seatHolds ticketTypeId) (keeps : KeepsPromises ticketTypeId db now op)
    (committed : Committed db now op after) : WithinAllocation after now ticketTypeId := by
  cases committed with
  | idle | offered | joined | recorded | enqueued => exact within.holds rfl (Nat.le_refl _)
  | sweptSeats | sweptTier | released | releasedUnattached | expired | releasedOrder =>
    exact within.holds rfl (promised_update_le fun _ _ _ _ reserves => by cases reserves.1)
  | heldSeats input =>
    refine within.holds rfl (Nat.le_trans (Nat.le_of_eq (promised_heldSeats keeps)) ?_)
    exact promised_update_le fun _ _ _ _ reserves => by cases reserves.1
  | heldQuantity input tier found _ fits => exact within.heldQuantity found fits
  | placed input _ _ placement =>
    exact within.placed placement
      (keeps placement.accepts)
  | settled input order _ _ found settles =>
    obtain ⟨stored, same⟩ := Table.find_eq_some.mp found
    exact within.settled general (keeps order stored same) settles
  | rejected input order =>
    cases waiting : isAwaitingApproval order with
    | true =>
      have types : (rejectedDb db input order now).ticketTypes =
          giveBackStock db.ticketTypes (linesByType db order.id) := if_pos waiting
      exact within.lowered (fun key => by rw [types]; exact find_giveBackStock _ _ key)
        (promised_released _ _)
    | false =>
      have types : (rejectedDb db input order now).ticketTypes = db.ticketTypes :=
        if_neg (by simp [waiting])
      exact within.holds types (promised_released _ _)
  | refunded _ _ order ledger =>
    refine within.lowered (find_refundedStock db order) ?_
    cases waiting : isAwaitingApproval order with
    | true =>
      simp only [refundedDb, waiting, if_true]
      exact promised_released _ _
    | false => simp [refundedDb, waiting]

theorem HeldByQuantity.update {holds : Table SeatHold} {hit : SeatHold → Prop} [DecidablePred hit]
    {write : SeatHold → SeatHold} {keeps : ∀ hold, Keyed.key (write hold) = Keyed.key hold}
    (general : HeldByQuantity holds ticketTypeId)
    (same : ∀ hold, (write hold).ticketTypeId = hold.ticketTypeId ∧
      (write hold).seatId = hold.seatId) :
    HeldByQuantity (holds.update hit write keeps) ticketTypeId := by
  intro hold member typed
  rcases Table.mem_update_cases member with ⟨old, stored, selected, rfl⟩ | ⟨stored, selected⟩
  · rw [(same old).1] at typed
    rw [(same old).2]
    exact general old stored typed
  · exact general hold stored typed

/-- No operation but a seat hold of the type puts a seat on a hold of the type. -/
theorem HeldByQuantity.committed {op : Op} (general : HeldByQuantity db.seatHolds ticketTypeId)
    (keeps : KeepsPromises ticketTypeId db now op) (committed : Committed db now op after) :
    HeldByQuantity after.seatHolds ticketTypeId := by
  cases committed with
  | idle | offered | joined | recorded | enqueued => exact general
  | sweptSeats | sweptTier | released | releasedUnattached | expired | releasedOrder | rejected =>
    exact general.update fun _ => ⟨rfl, rfl⟩
  | heldSeats input =>
    intro hold member typed
    rcases Table.mem_insertEach.mp member with old | ⟨_, _, rfl⟩
    · have swept : HeldByQuantity (expireLapsedForSeats db.seatHolds
          (distinctIds input.seatIds) now) ticketTypeId := general.update fun _ => ⟨rfl, rfl⟩
      exact swept hold old typed
    · exact absurd (Option.some.inj typed) keeps
  | heldQuantity input =>
    intro hold member typed
    rcases Table.mem_insert.mp member with old | rfl
    · have swept : HeldByQuantity (expireLapsedForTier db.seatHolds input.ticketTypeId now)
          ticketTypeId := general.update fun _ => ⟨rfl, rfl⟩
      exact swept hold old typed
    · rfl
  | placed input _ _ placement =>
    rw [placement.seatHolds]
    unfold settledHolds
    split
    · exact general.update fun _ => ⟨rfl, rfl⟩
    · exact general.update fun _ => ⟨rfl, rfl⟩
  | settled _ _ _ _ _ settles =>
    cases settles with
    | already | unavailable => exact general
    | refused | completes => exact general.update fun _ => ⟨rfl, rfl⟩
    | awaits =>
      exact HeldByQuantity.update (HeldByQuantity.update general fun _ => ⟨rfl, rfl⟩)
        fun _ => ⟨rfl, rfl⟩
  | refunded _ _ order =>
    unfold refundedDb
    dsimp only
    split
    · exact general.update fun _ => ⟨rfl, rfl⟩
    · exact general

end Operations

/-! ## Every run -/

/-- The promises of one general-admission type, in the state a run has reached. -/
structure Promises (ticketTypeId : Nat) (workspace : Workspace) : Prop where
  general : HeldByQuantity workspace.db.seatHolds ticketTypeId
  within : WithinAllocation workspace.db workspace.clock ticketTypeId

theorem Promises.step {ticketTypeId : Nat} {workspace : Workspace} {op : Op}
    (promises : Promises ticketTypeId workspace)
    (keeps : KeepsPromises ticketTypeId workspace.db workspace.clock op) :
    Promises ticketTypeId (step workspace op) := by
  let at' (db : Db) : Prop := HeldByQuantity db.seatHolds ticketTypeId ∧
    WithinAllocation db workspace.clock ticketTypeId
  have kept : at' (Source.step workspace op).db :=
    step_preserves (fun _ committed =>
      ⟨promises.general.committed keeps (commit_cases committed),
        promises.within.committed promises.general keeps (commit_cases committed)⟩)
      ⟨promises.general, promises.within⟩
  refine ⟨kept.1, fun tier member same => Nat.le_trans ?_ (kept.2 tier member same)⟩
  exact Nat.add_le_add_left (promised_later (Nat.le_add_right _ _)) _

/-- Before the first order, holds within the allocation of a type held by quantity only. -/
theorem Opening.promises {workspace : Workspace} {ticketTypeId : Nat}
    (opening : Opening workspace.db)
    (general : HeldByQuantity workspace.db.seatHolds ticketTypeId)
    (within : ∀ tier ∈ workspace.db.ticketTypes, tier.id = ticketTypeId →
      promised workspace.db.seatHolds ticketTypeId workspace.clock ≤ tier.total) :
    Promises ticketTypeId workspace where
  general := general
  within := by
    intro tier member same
    rw [opening.unsold tier member, Nat.zero_add]
    exact within tier member same

/-- In every state of a run whose every sale of a general-admission type is covered by the order's
own holds and by places nobody holds, what is sold and what is promised fit in the allocation. -/
theorem promises_kept (ticketTypeId : Nat) (start : Workspace) (opening : Opening start.db)
    (unheld : start.db.seatHolds.rows = []) (ops : List Op)
    (keeps : Meets step (fun workspace => KeepsPromises ticketTypeId workspace.db workspace.clock)
      start ops) :
    ∀ tier ∈ (run step start ops).db.ticketTypes, tier.id = ticketTypeId →
      tier.sold + promised (run step start ops).db.seatHolds ticketTypeId
        (run step start ops).clock ≤ tier.total := by
  have initial : Promises ticketTypeId start := by
    refine opening.promises (fun hold member => ?_) fun tier _ _ => ?_
    · exact absurd member (Table.not_mem_of_empty unheld hold)
    · rw [promised, promisedTo, Table.sum_of_empty unheld]
      exact Nat.zero_le _
  have each : ∀ workspace op, Promises ticketTypeId workspace →
      KeepsPromises ticketTypeId workspace.db workspace.clock op →
        Promises ticketTypeId (Source.step workspace op) :=
    fun _ _ promises kept => promises.step kept
  exact (run_invariant each initial keeps).within

/-- The buyer who reserved the place confirms with that hold. -/
theorem promises_kept_boxOffice :
    let after := run step boxOffice
      [.holdQuantity generalHold, .placeOrder (booking "A" 0 0 none [0] 0 false)]
    ∀ tier ∈ after.db.ticketTypes, tier.id = 0 →
      tier.sold + promised after.db.seatHolds 0 after.clock ≤ tier.total := by
  refine promises_kept 0 boxOffice boxOffice_opening rfl _ ⟨trivial, ?_, trivial⟩
  intro _ _ _
  unfold CoveredBy
  decide +kernel

/-- A buyer who names no hold is sold the place another buyer's unexpired hold promises. -/
theorem promise_broken :
    let after := run step boxOffice
      [.holdQuantity generalHold, .placeOrder (booking "B" 0 0 none [] 0 false)]
    ¬ ∀ tier ∈ after.db.ticketTypes, tier.id = 0 →
      tier.sold + promised after.db.seatHolds 0 after.clock ≤ tier.total := by
  decide +kernel

end EventaApi.Guarantees
