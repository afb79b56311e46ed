import EventaApi.Guarantees.DecisionSeats
import EventaApi.Guarantees.RepeatedConfirm

/-!
# The seat-selling rules agree

A map sells a seat as its own ticket type, or, where none of its seats has one, as any. The pick,
the placing and the settlement each ask for this over rows of their own, and over the same map
they answer the same. What is left to a settlement is the seat itself: it is there for the order
unless a payment that came after its own hold had lapsed took it.
-/
namespace EventaApi.Guarantees
open Library Source

/-! ## The rule -/

/-- The seats of an event's map, each with its type. -/
def typesOfSeats (db : Db) (eventId : Nat) : List (Nat × Option Nat) :=
  (db.seats.select fun seat => eventByMap db seat.seatMapId = some eventId).map fun seat =>
    (seat.id, seat.ticketTypeId)

/-- The map sells the seat under the ticket type. -/
def SellsAs (types : List (Nat × Option Nat)) (ticketTypeId seatId : Nat) : Prop :=
  (seatId, some ticketTypeId) ∈ types ∨ (seatId, none) ∈ types ∧ ∀ entry ∈ types, entry.2 = none

/-- The map has the same seats, each of the same type. -/
def SameTypes (before after : Db) (eventId : Nat) : Prop :=
  ∀ entry, entry ∈ typesOfSeats before eventId ↔ entry ∈ typesOfSeats after eventId

section Rule

variable {db before after : Db} {eventId ticketTypeId seatId : Nat}

theorem mem_typesOfSeats {entry : Nat × Option Nat} : entry ∈ typesOfSeats db eventId ↔
    ∃ seat ∈ db.seats, eventByMap db seat.seatMapId = some eventId ∧
      (seat.id, seat.ticketTypeId) = entry := by
  simp [typesOfSeats, Table.mem_select, and_assoc]

theorem SellsAs.same (same : SameTypes before after eventId)
    (sells : SellsAs (typesOfSeats before eventId) ticketTypeId seatId) :
    SellsAs (typesOfSeats after eventId) ticketTypeId seatId := by
  rcases sells with own | ⟨untyped, blank⟩
  · exact Or.inl ((same _).mp own)
  · exact Or.inr ⟨(same _).mp untyped, fun entry listed => blank entry ((same entry).mpr listed)⟩

/-- A map none of whose seats has a type is untyped for whoever asks. -/
theorem mapHasTypedSeats_of_blank (blank : ∀ entry ∈ typesOfSeats db eventId, entry.2 = none) :
    mapHasTypedSeats db eventId = false := by
  unfold mapHasTypedSeats
  rw [List.any_eq_false]
  intro seat stored typed
  simp only [Bool.and_eq_true] at typed
  obtain ⟨type, live⟩ := typed
  split at live
  · cases live
  next seatMap found =>
    simp only [Bool.and_eq_true, beq_iff_eq] at live
    have ofEvent : eventByMap db seat.seatMapId = some eventId := by
      rw [eventByMap, found, ← live.1]
      rfl
    have none : seat.ticketTypeId = .none :=
      blank _ (mem_typesOfSeats.mpr ⟨seat, stored, ofEvent, rfl⟩)
    rw [none] at type
    cases type

/-- What the map sells, a stored seat of it sells as, whichever rows are read. -/
theorem SellsAs.seat (sells : SellsAs (typesOfSeats db eventId) ticketTypeId seatId) {seat : Seat}
    (stored : seat ∈ db.seats) (named : seat.id = seatId) :
    seatSellsUnder seat.ticketTypeId ticketTypeId (mapHasTypedSeats db eventId) = true := by
  have typed {type : Option Nat} (listed : (seatId, type) ∈ typesOfSeats db eventId) :
      seat.ticketTypeId = type := by
    obtain ⟨other, stored', _, same⟩ := mem_typesOfSeats.mp listed
    have one : seat = other :=
      Table.eq_of_key stored stored' (named.trans (congrArg Prod.fst same).symm)
    rw [one]
    exact congrArg Prod.snd same
  rcases sells with own | ⟨untyped, blank⟩
  · simp [typed own, seatSellsUnder]
  · simp [typed untyped, seatSellsUnder, mapHasTypedSeats_of_blank blank]

theorem SellsAs.there (sells : SellsAs (typesOfSeats db eventId) ticketTypeId seatId) :
    ∃ seat ∈ db.seats, seat.id = seatId := by
  have there {type : Option Nat} (listed : (seatId, type) ∈ typesOfSeats db eventId) :
      ∃ seat ∈ db.seats, seat.id = seatId := by
    obtain ⟨seat, stored, _, same⟩ := mem_typesOfSeats.mp listed
    exact ⟨seat, stored, congrArg Prod.fst same⟩
  rcases sells with own | ⟨untyped, _⟩
  · exact there own
  · exact there untyped

/-- The map as the pick reads it has a type exactly when one of its seats does. -/
theorem mapTyped_seatsForEvent {now : Instant} {ownHoldIds : List Nat} :
    mapTyped (seatsForEvent db eventId now ownHoldIds) = false ↔
      ∀ entry ∈ typesOfSeats db eventId, entry.2 = none := by
  unfold mapTyped seatsForEvent typesOfSeats
  simp only [List.any_map, List.any_eq_false, List.forall_mem_map, Function.comp_apply]
  refine forall₂_congr fun seat _ => ?_
  cases seat.ticketTypeId <;> simp

/-- A seat that can be picked is one the map sells. -/
theorem SeatOnOffer.sellsAs {now : Instant} {ownHoldIds : List Nat} {seat : Seat}
    (stored : seat ∈ db.seats) (offer : SeatOnOffer db eventId now ownHoldIds ticketTypeId seat) :
    SellsAs (typesOfSeats db eventId) ticketTypeId seat.id := by
  have listed := mem_typesOfSeats.mpr ⟨seat, stored, offer.ofEvent, rfl⟩
  have sells := offer.sells
  cases type : seat.ticketTypeId with
  | none =>
    rw [type] at sells listed
    simp only [seatSellsUnder, Bool.not_eq_true'] at sells
    exact Or.inr ⟨listed, mapTyped_seatsForEvent.mp sells⟩
  | some own =>
    rw [type] at sells listed
    simp only [seatSellsUnder, beq_iff_eq] at sells
    exact Or.inl (sells ▸ listed)

end Rule

/-! ## What is asked of the three -/

/-- A turn of a workspace that sells: an operation, or a save of seat maps, whatever it writes;
a hold goes with its seat. -/
inductive SaleTurn where
  | op (op : Op)
  | saveMaps (seats : Table Seat) (seatMaps : Table SeatMap)

def serveSale (workspace : Workspace) : SaleTurn → Workspace
  | .op op => step workspace op
  | .saveMaps seats seatMaps =>
    { workspace with
      db := { workspace.db with
        seats
        seatMaps
        seatHolds := workspace.db.seatHolds.delete fun hold =>
          hold.seatId.any fun seatId => (seats.find seatId).isNone } }

/-- The pick is accepted: the selection, and its seats as they are now. -/
def Picks (workspace : Workspace) (eventId : Nat) (input : ConfirmOrderDto)
    (selection : CheckoutSelection) : Prop :=
  resolveSelection .reserved input = .ok selection ∧
    resolveSeats (seatsForEvent workspace.db eventId workspace.clock input.holdIds)
      input.ticketTypeId selection.seatIds = .ok ()

/-- The order to be placed is the pick's. -/
structure OrdersPick (eventId : Nat) (input : ConfirmOrderDto) (selection : CheckoutSelection)
    (placing : PlaceOrderInput) : Prop where
  eventId : placing.eventId = eventId
  ticketTypeId : placing.ticketTypeId = input.ticketTypeId
  seatIds : placing.seatIds = selection.seatIds
  holdIds : placing.holdIds = input.holdIds

/-- The holds are active holds on exactly the seats. -/
def HoldsExactly (workspace : Workspace) (holdIds seatIds : List Nat) : Prop :=
  (∀ holdId ∈ holdIds, ∃ hold ∈ workspace.db.seatHolds, hold.id = holdId ∧
    hold.reserves workspace.clock ∧ ∃ seatId ∈ seatIds, hold.seatId = some seatId) ∧
  ∀ seatId ∈ seatIds, ∃ hold ∈ workspace.db.seatHolds, hold.id ∈ holdIds ∧
    hold.seatId = some seatId

/-- The seats are still held for the order. -/
def StaysHeld (workspace : Workspace) (orderId : Nat) (seatIds : List Nat) : Prop :=
  (heldSeatIds workspace.db.seatHolds orderId).Perm seatIds ∧
    ∀ seatId ∈ seatIds, ∃ hold ∈ workspace.db.seatHolds, hold.orderId = some orderId ∧
      hold.seatId = some seatId ∧ hold.reserves workspace.clock

/-- The order is placed anew. -/
def PlacesAnew (workspace : Workspace) (placing : PlaceOrderInput) : Prop :=
  ∃ placed after, placeOrder workspace.db placing workspace.clock = .ok (placed, after) ∧
    placed.replayed = false

/-- The seat part of a settlement passes. -/
structure SeatsPass (context : SettlementContext) : Prop where
  free : context.takenSeatIds = []
  complete : ∀ line ∈ context.line, context.seatIds.length = line.quantity
  sells : context.seatTypesMatch = true

structure RulesAgree (start : Workspace) (turns : List SaleTurn) : Prop where
  /-- A pick that is accepted and held is placed. -/
  placed : ∀ first during last, turns = first ++ during ++ last →
    let picked := run serveSale start first
    let placing := run serveSale picked during
    ∀ eventId input selection, Picks picked eventId input selection →
      SameTypes picked.db placing.db eventId →
      HoldsExactly placing input.holdIds selection.seatIds →
      ∀ order, OrdersPick eventId input selection order →
        assertHeldSeatsMatch placing.db order = .ok ()
  /-- Placed, and still held on the same map, its seats are settled. -/
  settled : ∀ first during order last rest,
    turns = first ++ during ++ .op (.placeOrder order) :: last ++ rest →
    let picked := run serveSale start first
    let placing := run serveSale picked during
    let settling := run serveSale (serveSale placing (.op (.placeOrder order))) last
    ∀ eventId input selection, Picks picked eventId input selection →
      OrdersPick eventId input selection order → PlacesAnew placing order →
      SameTypes picked.db settling.db eventId →
      StaysHeld settling placing.db.orders.next selection.seatIds →
      ∀ row ∈ settling.db.orders, row.id = placing.db.orders.next →
        SeatsPass (loadSettlement settling.db row)
  /-- What is placed was picked: distinct seats of the map that it sells under the type, then and
  at the placing, and the holds are on these seats. -/
  refused : ∀ first during last, turns = first ++ during ++ last →
    let picked := run serveSale start first
    let placing := run serveSale picked during
    ∀ eventId input selection, Picks picked eventId input selection →
      ∀ order, OrdersPick eventId input selection order → PlacesAnew placing order →
        input.seatIds.Nodup ∧
        (∀ seatId ∈ input.seatIds,
          SellsAs (typesOfSeats picked.db eventId) input.ticketTypeId seatId ∧
            SeatSells placing.db eventId input.ticketTypeId seatId) ∧
        ∀ seatId, seatId ∈ input.seatIds ↔
          ∃ hold ∈ placing.db.seatHolds, hold.id ∈ input.holdIds ∧ hold.seatId = some seatId

/-! ## Picking and placing -/

section Placing

variable {workspace : Workspace} {eventId : Nat} {input : ConfirmOrderDto}
variable {selection : CheckoutSelection} {order : PlaceOrderInput}

/-- A pick that is accepted names distinct seats, and some. -/
theorem Picks.picked (picks : Picks workspace eventId input selection) :
    selection.seatIds = input.seatIds ∧ input.seatIds.Nodup ∧ input.seatIds ≠ [] := by
  obtain ⟨⟨distinct, least, _⟩, seatIds, _⟩ := resolveSelection_ok.mp picks.1
  exact ⟨seatIds, distinct, List.ne_nil_of_length_pos least⟩

theorem Picks.sellsAs (picks : Picks workspace eventId input selection) {seatId : Nat}
    (named : seatId ∈ selection.seatIds) :
    SellsAs (typesOfSeats workspace.db eventId) input.ticketTypeId seatId := by
  obtain ⟨seat, stored, rfl, offer⟩ := resolveSeat_ok.mp (resolveSeats_ok.mp picks.2 seatId named)
  exact offer.sellsAs stored

/-- The seats of the holds the order names. -/
theorem mem_heldSeatsCheck {db : Db} {seatId : Nat} :
    seatId ∈ (heldSeatsCheck db order).heldSeatIds ↔
      ∃ hold ∈ db.seatHolds, hold.id ∈ order.holdIds ∧ hold.seatId = some seatId := by
  simp [heldSeatsCheck, List.mem_filterMap, Table.mem_select, and_assoc]

theorem HoldsExactly.same {seatIds : List Nat} (exactly : HoldsExactly workspace order.holdIds seatIds)
    (seatId : Nat) :
    seatId ∈ (heldSeatsCheck workspace.db order).heldSeatIds ↔ seatId ∈ seatIds := by
  rw [mem_heldSeatsCheck]
  constructor
  · rintro ⟨hold, stored, named, seated⟩
    obtain ⟨other, stored', same, _, seatId', inside, seated'⟩ := exactly.1 _ named
    have one : hold = other := Table.eq_of_key stored stored' same.symm
    rw [one, seated', Option.some.injEq] at seated
    exact seated ▸ inside
  · exact exactly.2 seatId

/-- The placing accepts what the pick accepted. -/
theorem Picks.places {placing : Workspace} (picks : Picks workspace eventId input selection)
    (same : SameTypes workspace.db placing.db eventId)
    (exactly : HoldsExactly placing input.holdIds selection.seatIds)
    (orders : OrdersPick eventId input selection order) :
    assertHeldSeatsMatch placing.db order = .ok () := by
  rw [← orders.holdIds, ← orders.seatIds] at exactly
  refine assertHeldSeatsMatch_ok.mpr (Or.inr (heldSeatsMatch_iff.mpr ⟨exactly.same, ?_⟩))
  intro seatId priced
  have named : seatId ∈ selection.seatIds := orders.seatIds ▸ priced
  have sells := (picks.sellsAs named).same same
  obtain ⟨seat, stored, rfl⟩ := sells.there
  have found : placing.db.seats.find seat.id = some seat := Table.find_key stored
  rw [← orders.ticketTypeId, ← orders.eventId] at sells
  simp only [pricedSeatSells, heldSeatsCheck, found, Option.map_some]
  exact sells.seat stored rfl

theorem PlacesAnew.placed (places : PlacesAnew workspace order) :
    ∃ placed after, placeOrder workspace.db order workspace.clock = .ok (placed, after) ∧
      Placed workspace.db order workspace.clock placed after := by
  obtain ⟨placed, after, success, fresh⟩ := places
  rcases placeOrder_cases success with ⟨replayed, _⟩ | placement
  · rw [replayed] at fresh
    cases fresh
  · exact ⟨placed, after, success, placement⟩

end Placing

/-! ## Until it is settled -/

/-- What every turn keeps: one active hold a seat, no ticket bound under it, and every order's
own line. -/
structure SeatsSound (workspace : Workspace) : Prop where
  sole : SoleHolder workspace.db.seatHolds
  free : ReservedFree workspace.db workspace.clock
  references : References workspace.db

/-- No settlement of the turn seats its order where somebody else's unexpired hold reserves. -/
def TurnSeatsOwn (workspace : Workspace) : SaleTurn → Prop
  | .op op => SeatsOwn workspace.db workspace.clock op
  | .saveMaps _ _ => True

/-- The order is of the event, and each line of it is for so many of the type. -/
def LinedAs (orderId eventId ticketTypeId quantity : Nat) (workspace : Workspace) : Prop :=
  (∃ row, workspace.db.orders.find orderId = some row ∧ row.eventId = eventId) ∧
    ∀ item ∈ workspace.db.orderItems, item.orderId = orderId →
      item.ticketTypeId = ticketTypeId ∧ item.quantity = quantity

section Turns

variable {workspace : Workspace}

theorem SeatsSound.saveMaps (sound : SeatsSound workspace) (seats : Table Seat)
    (seatMaps : Table SeatMap) : SeatsSound (serveSale workspace (.saveMaps seats seatMaps)) where
  sole := fun hold member other member' => sound.sole hold (Table.mem_delete.mp member).1 other
    (Table.mem_delete.mp member').1
  free := fun hold member => sound.free hold (Table.mem_delete.mp member).1
  references :=
    { items := sound.references.items
      lined := sound.references.lined
      sole := sound.references.sole
      tickets := sound.references.tickets
      holds := fun hold member => sound.references.holds hold (Table.mem_delete.mp member).1
      assignments := sound.references.assignments }

theorem SeatsSound.serve (sound : SeatsSound workspace) {turn : SaleTurn}
    (own : TurnSeatsOwn workspace turn) : SeatsSound (serveSale workspace turn) := by
  cases turn with
  | saveMaps seats seatMaps => exact sound.saveMaps seats seatMaps
  | op op =>
    have free : ReservedFree (step workspace op).db workspace.clock := by
      rcases step_db workspace op with same | committed
      · rw [same]
        exact sound.free
      · exact sound.free.committed sound.sole own (commit_cases committed)
    let solely (db : Db) : Prop := SoleHolder db.seatHolds
    have sole : solely (step workspace op).db := step_preserves
      (fun _ committed => sound.sole.committed (commit_cases committed)) sound.sole
    exact
      { sole
        free := free.later (Nat.le_add_right _ _)
        references := step_preserves
          (fun _ committed => sound.references.committed (commit_cases committed))
          sound.references }

theorem LinedAs.serve {orderId eventId ticketTypeId quantity : Nat}
    (lined : LinedAs orderId eventId ticketTypeId quantity workspace) (turn : SaleTurn) :
    LinedAs orderId eventId ticketTypeId quantity (serveSale workspace turn) := by
  cases turn with
  | saveMaps => exact lined
  | op op =>
    obtain ⟨⟨row, found, ofEvent⟩, lines⟩ := lined
    let lined (db : Db) : Prop := (∃ row, db.orders.find orderId = some row ∧ row.eventId = eventId) ∧
      ∀ item ∈ db.orderItems, item.orderId = orderId →
        item.ticketTypeId = ticketTypeId ∧ item.quantity = quantity
    have kept : lined (step workspace op).db := by
      refine step_preserves (fun after success => ?_) ⟨⟨row, found, ofEvent⟩, lines⟩
      have committed := commit_cases success
      obtain ⟨new, found', moved⟩ := committed_order committed found
      refine ⟨⟨new, found', moved.eventId.trans ofEvent⟩, fun item member mine => ?_⟩
      rcases committed_items committed item member with old | fresh
      · exact lines item old mine
      · rw [← mine, fresh, Table.find_next] at found
        cases found
    exact kept

/-- A new order's line is what was ordered. -/
theorem linedAs_placed {order : PlaceOrderInput} (sound : SeatsSound workspace)
    (places : PlacesAnew workspace order) :
    LinedAs workspace.db.orders.next order.eventId order.ticketTypeId order.quantity
      (serveSale workspace (.op (.placeOrder order))) := by
  obtain ⟨placed, after, success, placement⟩ := places.placed
  have stepped : (step workspace (.placeOrder order)).db = after := by
    simp [step, commit, success, Except.map]
  constructor
  · refine ⟨newOrder workspace.db order workspace.clock workspace.db.orders.next, ?_, rfl⟩
    change (step workspace _).db.orders.find _ = _
    rw [stepped, placement.orders, Table.find_insert, if_pos rfl]
  · intro item member mine
    change item ∈ (step workspace (.placeOrder order)).db.orderItems at member
    rw [stepped] at member
    rcases placed_items placement sound.references member with ⟨_, older⟩ | rfl
    · exact absurd mine older
    · exact ⟨rfl, rfl⟩

/-- The seats an order still holds pass its settlement on a map that sells them. -/
theorem seatsPass {row : Order} {ticketTypeId quantity : Nat} {seatIds : List Nat}
    (sound : SeatsSound workspace)
    (lined : LinedAs row.id row.eventId ticketTypeId quantity workspace)
    (size : seatIds.length = quantity) (held : StaysHeld workspace row.id seatIds)
    (sells : ∀ seatId ∈ seatIds,
      SellsAs (typesOfSeats workspace.db row.eventId) ticketTypeId seatId) :
    SeatsPass (loadSettlement workspace.db row) where
  free := by
    refine assignedSeatIds_eq_nil.mpr fun seatId mine => ?_
    obtain ⟨hold, stored, _, seated, reserves⟩ := held.2 seatId (held.1.mem_iff.mp mine)
    exact sound.free hold stored reserves seatId seated
  complete := by
    intro line judged
    obtain ⟨item, tier, stored, mine, _, rfl⟩ := loadSettlement_line judged
    have many : item.quantity = quantity := (lined.2 item stored mine).2
    exact held.1.length_eq.trans (size.trans many.symm)
  sells := by
    cases ordered : orderLine workspace.db row.id with
    | none => simp [loadSettlement, ordered]
    | some item =>
      obtain ⟨stored, mine⟩ := orderLine_some ordered
      have type := (lined.2 item stored mine).1
      simp only [loadSettlement, ordered, Option.all_some, type]
      refine Bool.or_eq_true_iff.mpr (Or.inr (List.all_eq_true.mpr fun seat picked => ?_))
      obtain ⟨there, own⟩ := Table.mem_select.mp picked
      exact (sells seat.id (held.1.mem_iff.mp own)).seat there rfl

end Turns

/-! ## Every run -/

theorem Opening.seatsSound {workspace : Workspace} (opening : Opening workspace.db)
    (sole : SoleHolder workspace.db.seatHolds) : SeatsSound workspace where
  sole := sole
  free := fun _ _ _ _ _ ⟨_, stored, _⟩ =>
    absurd stored (Table.not_mem_of_empty opening.seatAssignments _)
  references := opening.references

/-- In every run in which no settlement seats its order where somebody else's unexpired hold
reserves, the pick, the placing and the settlement agree on the seats. -/
theorem rules_agree (start : Workspace) (opening : Opening start.db)
    (sole : SoleHolder start.db.seatHolds) (turns : List SaleTurn)
    (own : Meets serveSale TurnSeatsOwn start turns) : RulesAgree start turns where
  placed := by
    intro first during last _ picked placing eventId input selection picks same exactly order orders
    exact picks.places same exactly orders
  settled := by
    intro first during order last rest split picked placing settling eventId input selection picks
      orders places same held row stored named
    have keeps : ∀ workspace turn, SeatsSound workspace → TurnSeatsOwn workspace turn →
        SeatsSound (serveSale workspace turn) := fun _ _ sound own => sound.serve own
    rw [split] at own
    obtain ⟨before, after⟩ := meets_append.mp (meets_append.mp own).1
    have sound : SeatsSound placing := by
      have reached := run_invariant keeps (opening.seatsSound sole) before
      rwa [run_append] at reached
    rw [run_append] at after
    have sound' : SeatsSound settling := run_invariant keeps (keeps _ _ sound after.1) after.2
    have lined : LinedAs placing.db.orders.next order.eventId order.ticketTypeId order.quantity
        settling := run_invariant_always (fun _ turn lined => lined.serve turn) last
          (linedAs_placed sound places)
    rw [← named] at lined held
    have ofEvent : row.eventId = order.eventId := by
      obtain ⟨⟨found, there, ofEvent⟩, _⟩ := lined
      have here : settling.db.orders.find row.id = some row := Table.find_key stored
      rw [there] at here
      cases here
      exact ofEvent
    obtain ⟨chosen, _, some⟩ := picks.picked
    have seated := order.seated
    rw [orders.seatIds, chosen] at seated
    have size : selection.seatIds.length = order.quantity := chosen ▸ (seated.resolve_left some).2
    refine seatsPass sound' (ofEvent ▸ lined) size held fun seatId inside => ?_
    rw [ofEvent, orders.eventId, orders.ticketTypeId]
    exact (picks.sellsAs inside).same same
  refused := by
    intro first during last _ picked placing eventId input selection picks order orders places
    obtain ⟨placed, after, _, placement⟩ := places.placed
    obtain ⟨chosen, distinct, some⟩ := picks.picked
    have seatIds : order.seatIds = input.seatIds := orders.seatIds.trans chosen
    have match' : heldSeatsMatch (heldSeatsCheck placing.db order) = true :=
      (assertHeldSeatsMatch_ok.mp placement.matched).resolve_left (seatIds ▸ some)
    refine ⟨distinct, fun seatId named => ⟨picks.sellsAs (chosen ▸ named), ?_⟩, fun seatId => ?_⟩
    · rw [← orders.eventId, ← orders.ticketTypeId]
      exact placed_sells placement (seatIds ▸ named)
    · rw [← seatIds, ← orders.holdIds, ← mem_heldSeatsCheck]
      exact (heldSeatsMatch_same match' seatId).symm

/-- What a confirm places is what its pricing picked. -/
theorem priceSelection_picks {workspace : Workspace} {catalog : Catalog} {input : ConfirmOrderDto}
    {entry : Option OrganizerEntry} {priced : PricedSelection}
    (success : priceSelection workspace.db catalog workspace.clock input entry = .ok priced)
    {event : Event} (listed : catalog.events.find input.eventId = some event)
    (reserved : event.seatingMode = .reserved) (draws : Draws) (attempt : Nat) :
    Picks workspace event.id input priced.selection ∧
      OrdersPick event.id input priced.selection (placeInput input priced entry draws attempt) := by
  unfold priceSelection at success
  obtain ⟨⟨found, tier, selection⟩, resolved, success⟩ := bind_ok success
  obtain ⟨discount, _, success⟩ := bind_ok success
  cases success
  obtain ⟨loaded, required, selected, _, seated⟩ := resolve_ok.mp resolved
  obtain ⟨found', _⟩ := loadEvent_ok.mp loaded
  cases listed.symm.trans found'
  have typed : tier.id = input.ticketTypeId :=
    (Table.find_eq_some.mp (requireTier_ok.mp required).1).2
  rw [reserved] at selected
  exact ⟨⟨selected, typed ▸ seated⟩, rfl, typed, rfl, rfl⟩

/-! ## A late payment takes a held seat -/

/-- The pick of the first stall, with this hold. -/
def stallPick (key : String) (holdId : Nat) : ConfirmOrderDto where
  eventId := 1
  ticketTypeId := 1
  seatIds := [0]
  holdIds := [holdId]
  buyer := { name := key, email := key }
  idempotencyKey := key

theorem stall_booking : 1 ≤ 1 ∧ 1 ≤ MAX_SEATS_PER_BOOKING := by decide

theorem stall_seated : [0] = [] ∨ [0].Nodup ∧ [0].length = 1 := by decide

def stallSelection : CheckoutSelection where
  seatIds := [0]
  quantity := 1
  booking := stall_booking
  seated := stall_seated

theorem boxOffice_sole : SoleHolder boxOffice.db.seatHolds :=
  fun _ stored => absurd stored (Table.not_mem_of_empty rfl _)

/-- A stall that is held is placed and paid for. -/
theorem rules_agree_stall : RulesAgree boxOffice
    [.op (.holdSeats (stallHold 0 1000)), .op (.placeOrder (booking "A" 1 1 (some 0) [0] 100 false)),
      .op (.settleOrder (payment 0))] := by
  refine rules_agree boxOffice boxOffice_opening boxOffice_sole _ ⟨trivial, trivial, ?_, trivial⟩
  intro order stored same _ _ line _ seatId _ hold stored' _ _
  have mine : ∀ hold ∈ (run serveSale boxOffice [.op (.holdSeats (stallHold 0 1000)),
      .op (.placeOrder (booking "A" 1 1 (some 0) [0] 100 false))]).db.seatHolds,
      hold.orderId = some 0 := by decide +kernel
  rw [same]
  exact mine hold stored'

/-- The hold of an order lapses, and another order is placed on the seat; then the first is paid for
after all. -/
def lateBefore : List SaleTurn :=
  [.op (.holdSeats (stallHold 0 10)), .op (.placeOrder (booking "A" 1 1 (some 0) [0] 100 false)),
    .op (.tick 20), .op (.holdSeats (stallHold 0 1000))]

def latePlaced : Op := .placeOrder (booking "B" 1 1 (some 0) [1] 100 false)

def latePaid : List SaleTurn := [.op (.settleOrder (payment 0))]

def lateOffice : Workspace :=
  run serveSale (serveSale (run serveSale boxOffice lateBefore) (.op latePlaced)) latePaid

/-- The seat is held for the other order, and its settlement is refused. -/
theorem late_payment_disagrees : ¬ ∀ (start : Workspace) (turns : List SaleTurn),
    Opening start.db → SoleHolder start.db.seatHolds → RulesAgree start turns := by
  intro agree
  have agrees := agree boxOffice (lateBefore ++ [] ++ .op latePlaced :: latePaid ++ [])
    boxOffice_opening boxOffice_sole
  have passes := agrees.settled lateBefore [] _ latePaid [] rfl 1 (stallPick "B" 1) stallSelection
    ⟨by decide +kernel, by decide +kernel⟩ ⟨rfl, rfl, rfl, rfl⟩
  have fresh : (placeOrder (run serveSale boxOffice lateBefore).db
      (booking "B" 1 1 (some 0) [1] 100 false)
      (run serveSale boxOffice lateBefore).clock).toOption.map (fun done => done.1.replayed) =
        some false := by decide +kernel
  obtain ⟨done, placing, replayed⟩ := Option.map_eq_some_iff.mp fresh
  have places : PlacesAnew (run serveSale boxOffice lateBefore)
      (booking "B" 1 1 (some 0) [1] 100 false) :=
    ⟨done.1, done.2, toOption_eq_some.mp placing, replayed⟩
  have map : typesOfSeats (run serveSale boxOffice lateBefore).db 1 =
      typesOfSeats lateOffice.db 1 := by decide +kernel
  have held : (heldSeatIds lateOffice.db.seatHolds 1).Perm [0] ∧
      ∀ seatId ∈ [0], ∃ hold ∈ lateOffice.db.seatHolds.rows, hold.orderId = some 1 ∧
        hold.seatId = some seatId ∧ hold.reserves lateOffice.clock := by decide +kernel
  have next : (run serveSale (run serveSale boxOffice lateBefore) []).db.orders.next = 1 := by
    decide +kernel
  obtain ⟨row, found⟩ : ∃ row, lateOffice.db.orders.find 1 = some row :=
    Option.isSome_iff_exists.mp (by decide +kernel)
  obtain ⟨stored, named⟩ := Table.find_eq_some.mp found
  have named' : row.id = 1 := named
  have free : assignedSeatIds lateOffice.db.seatAssignments
      (heldSeatIds lateOffice.db.seatHolds row.id) = [] :=
    (passes places (fun entry => by rw [run_nil, map]; rfl) (by rw [next]; exact held) row stored
      (named'.trans next.symm)).free
  have taken : assignedSeatIds lateOffice.db.seatAssignments
      (heldSeatIds lateOffice.db.seatHolds 1) = [0] := by decide +kernel
  rw [named', taken] at free
  cases free

end EventaApi.Guarantees
