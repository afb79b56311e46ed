import EventaApi.Guarantees.DiscountLimits

/-!
# A confirm sent twice

The key finds the order it placed, whatever ran since: no statement deletes an order
or rewrites what identifies it, so a repeat that reaches `placeOrder` is answered with
the first order and writes nothing. But it reaches `placeOrder` only through the
pricing, which judges the same selection again on what the first confirm left: its own
seats, its own use of the code, and whatever closed meanwhile.
-/
namespace EventaApi.Guarantees
open Library Source

/-! ## What the pricing asks -/

/-- The event can be registered for; only the organizer may enter one that is not public. -/
structure TakesRegistrations (event : Event) (now : Instant) (entry : Option OrganizerEntry) :
    Prop where
  status : event.status ∈ LIVE_STATUSES
  undeleted : event.deletedAt = none
  published : entry = none →
    event.visibility = .isPublic ∧ event.publishedAt.isSome ∧ now < event.startAt

/-- The seats a pick names under the event's seating mode. -/
def seatsPicked (seatingMode : SeatingMode) (input : ConfirmOrderDto) : List Nat :=
  match seatingMode with
  | .reserved => input.seatIds
  | .ga => []

/-- The places a pick asks for. -/
def placesPicked (seatingMode : SeatingMode) (input : ConfirmOrderDto) : Nat :=
  match seatingMode with
  | .reserved => input.seatIds.length
  | .ga => input.quantity.getD 0

/-- Reserved seating takes distinct seats, general admission none. -/
def picksWell (seatingMode : SeatingMode) (seatIds : List Nat) : Prop :=
  match seatingMode with
  | .reserved => seatIds.Nodup
  | .ga => seatIds = []

/-- A seat of the event's map that sells under the tier, and that nobody has. -/
structure SeatOnOffer (db : Db) (eventId : Nat) (now : Instant) (ownHoldIds : List Nat)
    (ticketTypeId : Nat) (seat : Seat) : Prop where
  ofEvent : eventByMap db seat.seatMapId = some eventId
  sells : seatSellsUnder seat.ticketTypeId ticketTypeId
    (mapTyped (seatsForEvent db eventId now ownHoldIds)) = true
  available : seat.status = .available
  unheld : ¬ heldByAnother db now ownHoldIds seat.id
  unassigned : ¬ isAssigned db seat.id

/-- The code may be used on this subtotal now. -/
structure CodeUsable (code : DiscountCode) (now : Instant) (subtotalSatang : Satang) : Prop where
  enabled : code.status ≠ .disabled
  opened : ∀ opens, code.validFrom = some opens → opens ≤ now
  unexpired : isPastWindow code now = false
  unexhausted : isExhausted code = false
  minimum : code.minOrderSatang ≤ subtotalSatang

/-- The buyer may use the code once more. -/
def BuyerMayUse (redemptions : Table DiscountRedemption) (code : DiscountCode) (email : String) :
    Prop :=
  code.perPersonLimit = 0 ∨ email.isEmpty ∨
    redemptionsByBuyer redemptions code.id email < code.perPersonLimit

/-- What is asked for is on sale: the event, the tier, the seats and the code. -/
structure OnSale (db : Db) (catalog : Catalog) (now : Instant) (input : ConfirmOrderDto)
    (entry : Option OrganizerEntry) (event : Event) (tier : TicketType) : Prop where
  listed : catalog.events.find input.eventId = some event
  registers : TakesRegistrations event now entry
  stocked : db.ticketTypes.find input.ticketTypeId = some tier
  offered : tier.eventId = event.id ∧ tier.deletedAt = none
  picked : picksWell event.seatingMode input.seatIds
  booking : 1 ≤ placesPicked event.seatingMode input ∧
    placesPicked event.seatingMode input ≤ MAX_SEATS_PER_BOOKING
  bounds : tier.minPerOrder ≤ placesPicked event.seatingMode input ∧
    placesPicked event.seatingMode input ≤ tier.maxPerOrder
  seated : ∀ seatId ∈ seatsPicked event.seatingMode input, ∃ seat ∈ db.seats, seat.id = seatId ∧
    SeatOnOffer db event.id now input.holdIds tier.id seat
  coded : ∀ typed, input.discountCode.filter (fun code => !code.isEmpty) = some typed →
    tier.priceSatang * placesPicked event.seatingMode input ≠ 0 ∧
      ∃ text code, normaliseCode typed = .ok text ∧
        findUsable db.discountCodes text input.eventId = some code ∧
        CodeUsable code now (tier.priceSatang * placesPicked event.seatingMode input) ∧
        BuyerMayUse db.discountRedemptions code input.buyer.email

def StillSells (db : Db) (catalog : Catalog) (now : Instant) (input : ConfirmOrderDto)
    (entry : Option OrganizerEntry) : Prop :=
  ∃ event tier, OnSale db catalog now input entry event tier

section Pricing

variable {db : Db} {catalog : Catalog} {now : Instant} {input : ConfirmOrderDto}
variable {entry : Option OrganizerEntry}

theorem loadEvent_ok {events : Table Event} {eventId : Nat} {event : Event} :
    loadEvent events now eventId entry = .ok event ↔
      events.find eventId = some event ∧ TakesRegistrations event now entry := by
  cases entry with
  | none =>
    simp only [loadEvent, findPublishedForCheckout]
    constructor
    · intro success
      split at success
      · cases success
      next found =>
        split at success
        next early =>
          cases success
          obtain ⟨found, listed⟩ := Option.filter_eq_some_iff.mp found
          obtain ⟨visible, published, status, undeleted⟩ := of_decide_eq_true listed
          exact ⟨found, status, undeleted, fun _ => ⟨visible, published, early⟩⟩
        · cases success
    · rintro ⟨found, status, undeleted, published⟩
      obtain ⟨visible, published, early⟩ := published rfl
      simp [found, Option.filter_some, visible, published, status, undeleted, early]
  | some _ =>
    simp only [loadEvent, findOwnedForCheckout]
    constructor
    · intro success
      split at success
      next found =>
        cases success
        obtain ⟨found, listed⟩ := Option.filter_eq_some_iff.mp found
        obtain ⟨status, undeleted⟩ := of_decide_eq_true listed
        exact ⟨found, status, undeleted, fun none => by cases none⟩
      · cases success
    · rintro ⟨found, status, undeleted, _⟩
      simp [found, Option.filter_some, status, undeleted]

theorem requireTier_ok {ticketTypes : Table TicketType} {eventId ticketTypeId : Nat}
    {tier : TicketType} :
    requireTier ticketTypes eventId ticketTypeId = .ok tier ↔
      ticketTypes.find ticketTypeId = some tier ∧ tier.eventId = eventId ∧
        tier.deletedAt = none := by
  unfold requireTier findTier
  constructor
  · intro success
    split at success
    next found =>
      cases success
      obtain ⟨found, offered⟩ := Option.filter_eq_some_iff.mp found
      exact ⟨found, of_decide_eq_true offered⟩
    · cases success
  · rintro ⟨found, same, undeleted⟩
    simp [found, Option.filter_some, same, undeleted]

theorem resolveSelection_ok {seatingMode : SeatingMode} {selection : CheckoutSelection} :
    resolveSelection seatingMode input = .ok selection ↔
      (picksWell seatingMode input.seatIds ∧ 1 ≤ placesPicked seatingMode input ∧
        placesPicked seatingMode input ≤ MAX_SEATS_PER_BOOKING) ∧
      selection.seatIds = seatsPicked seatingMode input ∧
      selection.quantity = placesPicked seatingMode input := by
  obtain ⟨seatIds, quantity, _, _⟩ := selection
  cases seatingMode with
  | reserved =>
    simp only [resolveSelection, resolveReserved, picksWell, placesPicked, seatsPicked]
    by_cases none : input.seatIds = []
    · simp [none]
    · by_cases distinct : input.seatIds.Nodup
      · by_cases booking : 1 ≤ input.seatIds.length ∧ input.seatIds.length ≤ MAX_SEATS_PER_BOOKING
        · simp [none, distinct, booking, eq_comm]
        · simp [none, distinct, booking]
      · simp [none, distinct]
  | ga =>
    simp only [resolveSelection, resolveGeneralAdmission, picksWell, placesPicked, seatsPicked]
    by_cases none : input.seatIds = []
    · by_cases booking : 1 ≤ input.quantity.getD 0 ∧ input.quantity.getD 0 ≤ MAX_SEATS_PER_BOOKING
      · simp [none, booking, eq_comm]
      · simp [none, booking]
    · simp [none]

theorem exists_selection {seatingMode : SeatingMode} (picked : picksWell seatingMode input.seatIds)
    (booking : 1 ≤ placesPicked seatingMode input ∧
      placesPicked seatingMode input ≤ MAX_SEATS_PER_BOOKING) :
    ∃ selection, resolveSelection seatingMode input = .ok selection := by
  cases seatingMode with
  | reserved =>
    exact ⟨⟨input.seatIds, input.seatIds.length, booking, Or.inr ⟨picked, rfl⟩⟩,
      resolveSelection_ok.mpr ⟨⟨picked, booking⟩, rfl, rfl⟩⟩
  | ga =>
    exact ⟨⟨[], input.quantity.getD 0, booking, Or.inl rfl⟩,
      resolveSelection_ok.mpr ⟨⟨picked, booking⟩, rfl, rfl⟩⟩

theorem assertWithinTierBounds_ok {tier : TicketType} {count : Nat} :
    assertWithinTierBounds tier count = .ok () ↔
      tier.minPerOrder ≤ count ∧ count ≤ tier.maxPerOrder := by
  unfold assertWithinTierBounds
  split
  · simp
    omega
  · split
    · simp
      omega
    · simp
      omega

/-- The seat as the checkout reads it. -/
def checkoutSeat (db : Db) (now : Instant) (ownHoldIds : List Nat) (seat : Seat) : CheckoutSeat where
  id := seat.id
  ticketTypeId := seat.ticketTypeId
  available := seat.status = .available ∧ ¬ heldByAnother db now ownHoldIds seat.id ∧
    ¬ isAssigned db seat.id

/-- A seat is read by its id if it is of the event's map. -/
theorem find?_seatsForEvent {eventId : Nat} {ownHoldIds : List Nat} {seatId : Nat}
    {read : CheckoutSeat} :
    (seatsForEvent db eventId now ownHoldIds).find? (fun seat => seat.id = seatId) = some read ↔
      ∃ seat ∈ db.seats, seat.id = seatId ∧ eventByMap db seat.seatMapId = some eventId ∧
        read = checkoutSeat db now ownHoldIds seat := by
  have reads (read : CheckoutSeat) (found : (seatsForEvent db eventId now ownHoldIds).find?
      (fun seat => seat.id = seatId) = some read) :
      ∃ seat ∈ db.seats, seat.id = seatId ∧ eventByMap db seat.seatMapId = some eventId ∧
        read = checkoutSeat db now ownHoldIds seat := by
    have named : read.id = seatId := by simpa using List.find?_some found
    obtain ⟨seat, selected, rfl⟩ := List.mem_map.mp (List.mem_of_find?_eq_some found)
    obtain ⟨stored, ofEvent⟩ := Table.mem_select.mp selected
    exact ⟨seat, stored, named, ofEvent, rfl⟩
  refine ⟨reads read, ?_⟩
  rintro ⟨seat, stored, named, ofEvent, rfl⟩
  have member : checkoutSeat db now ownHoldIds seat ∈ seatsForEvent db eventId now ownHoldIds :=
    List.mem_map.mpr ⟨seat, Table.mem_select.mpr ⟨stored, ofEvent⟩, rfl⟩
  cases found : (seatsForEvent db eventId now ownHoldIds).find? fun seat => seat.id = seatId with
  | none => exact absurd (decide_eq_true named) (List.find?_eq_none.mp found _ member)
  | some other =>
    obtain ⟨seat', stored', named', _, rfl⟩ := reads other found
    have one : seat' = seat := Table.eq_of_key stored' stored (named'.trans named.symm)
    rw [one]

theorem resolveSeat_ok {eventId : Nat} {ownHoldIds : List Nat} {ticketTypeId seatId : Nat} :
    resolveSeat (seatsForEvent db eventId now ownHoldIds) ticketTypeId seatId = .ok () ↔
      ∃ seat ∈ db.seats, seat.id = seatId ∧
        SeatOnOffer db eventId now ownHoldIds ticketTypeId seat := by
  unfold resolveSeat
  constructor
  · intro success
    split at success
    · cases success
    next read found =>
      obtain ⟨seat, stored, named, ofEvent, rfl⟩ := find?_seatsForEvent.mp found
      split at success
      · cases success
      next sells =>
        split at success
        · cases success
        next free =>
          obtain ⟨available, unheld, unassigned⟩ :=
            of_decide_eq_true ((Bool.not_eq_false _).mp free)
          exact ⟨seat, stored, named, ofEvent, (Bool.not_eq_false _).mp sells, available, unheld,
            unassigned⟩
  · rintro ⟨seat, stored, named, ofEvent, sells, available, unheld, unassigned⟩
    rw [find?_seatsForEvent.mpr ⟨seat, stored, named, ofEvent, rfl⟩]
    simp [checkoutSeat, sells, available, unheld, unassigned]

theorem resolveSeats_ok {seats : List CheckoutSeat} {ticketTypeId : Nat} {seatIds : List Nat} :
    resolveSeats seats ticketTypeId seatIds = .ok () ↔
      ∀ seatId ∈ seatIds, resolveSeat seats ticketTypeId seatId = .ok () := by
  induction seatIds with
  | nil => simp [resolveSeats]
  | cons seatId rest ih =>
    simp only [resolveSeats, bind_eq_ok, ih, List.forall_mem_cons]
    exact ⟨fun ⟨_, first, rest⟩ => ⟨first, rest⟩, fun ⟨first, rest⟩ => ⟨(), first, rest⟩⟩

theorem assertUsable_ok {code : DiscountCode} {quoting : DiscountQuoteInput}
    (applies : code.eventId = none ∨ code.eventId = some quoting.eventId) :
    assertUsable code quoting now = .ok () ↔ CodeUsable code now quoting.subtotalSatang := by
  have inScope : ¬ (code.eventId ≠ none ∧ code.eventId ≠ some quoting.eventId) := by tauto
  unfold assertUsable
  simp only [inScope, if_false]
  constructor
  · intro success
    split at success
    · cases success
    next enabled =>
      split at success
      · cases success
      next opened =>
        split at success
        · cases success
        next unexpired =>
          split at success
          · cases success
          next unexhausted =>
            split at success
            · cases success
            next minimum =>
              refine ⟨enabled, fun opens from' => ?_, (Bool.not_eq_true _).mp unexpired,
                (Bool.not_eq_true _).mp unexhausted, not_lt.mp minimum⟩
              simpa [from'] using opened
  · rintro ⟨enabled, opened, unexpired, unexhausted, minimum⟩
    have begun : ¬ code.validFrom.any fun opens => now < opens := by
      cases from' : code.validFrom with
      | none => simp
      | some opens => simpa using opened opens from'
    simp [enabled, begun, unexpired, unexhausted, minimum]

theorem assertBuyerHasRoom_ok {redemptions : Table DiscountRedemption} {code : DiscountCode}
    {email : String} :
    assertBuyerHasRoom redemptions code (some email) = .ok () ↔
      BuyerMayUse redemptions code email := by
  unfold assertBuyerHasRoom BuyerMayUse
  split
  next unlimited =>
    simp only [Option.all_some] at unlimited
    simp only [true_iff]
    tauto
  next limited =>
    simp only [Option.all_some, not_or] at limited
    split
    · simp_all
    · simp_all

theorem quote_ok {events : Table Event} {rates : OrgRates} {quoting : DiscountQuoteInput}
    {email : String} (buyer : quoting.buyerEmail = some email) {event : Event}
    (listed : events.find quoting.eventId = some event) (undeleted : event.deletedAt = none) :
    (∃ result, quote db events rates now quoting = .ok result) ↔
      quoting.subtotalSatang ≠ 0 ∧ ∃ text code, normaliseCode quoting.code = .ok text ∧
        findUsable db.discountCodes text quoting.eventId = some code ∧
        CodeUsable code now quoting.subtotalSatang ∧
        BuyerMayUse db.discountRedemptions code email := by
  unfold quote
  by_cases free : quoting.subtotalSatang = 0
  · simp [free]
  · rw [if_neg free, if_neg (by simp [listed, Option.filter_some, undeleted])]
    simp only [exists_bind_ok, free, ne_eq, not_false_iff, true_and]
    constructor
    · rintro ⟨text, normal, result, success⟩
      split at success
      · cases success
      next code found =>
        obtain ⟨_, usable, success⟩ := bind_ok success
        obtain ⟨_, room, _⟩ := bind_ok success
        rw [buyer] at room
        obtain ⟨_, _, _, applies⟩ := findUsable_mem found
        exact ⟨text, code, normal, found, (assertUsable_ok applies).mp usable,
          assertBuyerHasRoom_ok.mp room⟩
    · rintro ⟨text, code, normal, found, usable, room⟩
      obtain ⟨_, _, _, applies⟩ := findUsable_mem found
      refine ⟨text, normal, ?_⟩
      rw [found]
      refine exists_bind_ok.mpr ⟨(), (assertUsable_ok applies).mpr usable, ?_⟩
      refine exists_bind_ok.mpr ⟨(), ?_, _, rfl⟩
      rw [buyer]
      exact assertBuyerHasRoom_ok.mpr room

theorem discountFor_ok {event : Event} (listed : catalog.events.find input.eventId = some event)
    (undeleted : event.deletedAt = none) {subtotalSatang : Satang} :
    (∃ discount, discountFor db catalog now input subtotalSatang = .ok discount) ↔
      ∀ typed, input.discountCode.filter (fun code => !code.isEmpty) = some typed →
        subtotalSatang ≠ 0 ∧ ∃ text code, normaliseCode typed = .ok text ∧
          findUsable db.discountCodes text input.eventId = some code ∧
          CodeUsable code now subtotalSatang ∧
          BuyerMayUse db.discountRedemptions code input.buyer.email := by
  unfold discountFor
  cases given : input.discountCode.filter fun code => !code.isEmpty with
  | none => simp
  | some typed =>
    have mapped {result : Except DomainException DiscountQuoteResult} :
        (∃ discount, result.map some = .ok discount) ↔ ∃ quoted, result = .ok quoted := by
      cases result with
      | error => simp [Except.map]
      | ok quoted => simp [Except.map]
    rw [mapped, quote_ok rfl listed undeleted]
    simp only [Option.some.injEq, forall_eq']

theorem resolve_ok {event : Event} {tier : TicketType} {selection : CheckoutSelection} :
    resolve db catalog now input entry = .ok (event, tier, selection) ↔
      loadEvent catalog.events now input.eventId entry = .ok event ∧
      requireTier db.ticketTypes event.id input.ticketTypeId = .ok tier ∧
      resolveSelection event.seatingMode input = .ok selection ∧
      assertWithinTierBounds tier selection.quantity = .ok () ∧
      resolveSeats (seatsForEvent db event.id now input.holdIds) tier.id selection.seatIds =
        .ok () := by
  unfold resolve
  simp only [bind_eq_ok, Except.ok.injEq, Prod.mk.injEq]
  constructor
  · rintro ⟨_, loaded, _, required, _, selected, _, bounded, _, seated, rfl, rfl, rfl⟩
    exact ⟨loaded, required, selected, bounded, seated⟩
  · rintro ⟨loaded, required, selected, bounded, seated⟩
    exact ⟨_, loaded, _, required, _, selected, _, bounded, _, seated, rfl, rfl, rfl⟩

/-- The pricing lets a request through exactly when what it asks for is on sale. -/
theorem priceSelection_ok :
    (∃ priced, priceSelection db catalog now input entry = .ok priced) ↔
      StillSells db catalog now input entry := by
  have resolved : (∃ priced, priceSelection db catalog now input entry = .ok priced) ↔
      ∃ event tier selection, resolve db catalog now input entry = .ok (event, tier, selection) ∧
        ∃ discount, discountFor db catalog now input (tier.priceSatang * selection.quantity) =
          .ok discount := by
    unfold priceSelection
    simp only [bind_eq_ok]
    constructor
    · rintro ⟨_, ⟨event, tier, selection⟩, resolved, discount, found, _⟩
      exact ⟨event, tier, selection, resolved, discount, found⟩
    · rintro ⟨event, tier, selection, resolved, discount, found⟩
      exact ⟨_, (event, tier, selection), resolved, discount, found, rfl⟩
  rw [resolved]
  constructor
  · rintro ⟨event, tier, selection, success, discounted⟩
    obtain ⟨loaded, required, selected, bounded, seated⟩ := resolve_ok.mp success
    obtain ⟨listed, registers⟩ := loadEvent_ok.mp loaded
    obtain ⟨stocked, offered⟩ := requireTier_ok.mp required
    obtain ⟨⟨picked, booking⟩, seatIds, quantity⟩ := resolveSelection_ok.mp selected
    rw [quantity] at bounded discounted
    rw [seatIds] at seated
    exact ⟨event, tier, listed, registers, stocked, offered, picked, booking,
      assertWithinTierBounds_ok.mp bounded,
      fun seatId member => resolveSeat_ok.mp (resolveSeats_ok.mp seated seatId member),
      (discountFor_ok listed registers.undeleted).mp discounted⟩
  · rintro ⟨event, tier, sale⟩
    obtain ⟨selection, selected⟩ := exists_selection sale.picked sale.booking
    obtain ⟨_, seatIds, quantity⟩ := resolveSelection_ok.mp selected
    refine ⟨event, tier, selection, resolve_ok.mpr ⟨loadEvent_ok.mpr ⟨sale.listed, sale.registers⟩,
      requireTier_ok.mpr ⟨sale.stocked, sale.offered⟩, selected, ?_, ?_⟩, ?_⟩
    · rw [quantity]
      exact assertWithinTierBounds_ok.mpr sale.bounds
    · rw [seatIds]
      exact resolveSeats_ok.mpr fun seatId member => resolveSeat_ok.mpr (sale.seated seatId member)
    · rw [quantity]
      exact (discountFor_ok sale.listed sale.registers.undeleted).mpr sale.coded

end Pricing

/-! ## What runs between the two -/

/-- Any other write in the workspace: it may rewrite orders, but not what identifies one. -/
structure OtherWrite where
  write : Db → Db
  rewrite : Order → Order
  keeps : ∀ order, Keyed.key (rewrite order) = Keyed.key order
  identified : ∀ order, (rewrite order).idempotencyKey = order.idempotencyKey ∧
    (rewrite order).reference = order.reference
  orders : ∀ db, (write db).orders = db.orders.update (fun _ => True) rewrite keeps

inductive CounterTurn where
  | desk (turn : DeskTurn)
  /-- The tiers', the seats' and the contacts' edits, the door, and whatever else writes. -/
  | other (write : OtherWrite)

def withDb (desk : Promotions) (db : Db) : Promotions :=
  { desk with office := { desk.office with db } }

def serveCounter (desk : Promotions) : CounterTurn → Promotions
  | .desk turn => servePromotions desk turn
  | .other other => withDb desk (other.write desk.office.db)

/-! ## The order a key finds -/

/-- The key finds the order of this id and reference. -/
def KeyFinds (db : Db) (key : String) (id : Nat) (reference : String) : Prop :=
  ∃ order, (db.orders.select fun order => order.idempotencyKey = key).head? = some order ∧
    order.id = id ∧ order.reference = reference

section Finding

variable {db after : Db} {key : String} {id : Nat} {reference : String}

theorem keyFinds_same (finds : KeyFinds db key id reference) (same : after.orders = db.orders) :
    KeyFinds after key id reference := by
  unfold KeyFinds
  rw [same]
  exact finds

theorem keyFinds_insert {build : Nat → Order} {keyed : ∀ id, Keyed.key (build id) = id}
    (finds : KeyFinds db key id reference) (inserts : after.orders = db.orders.insert build keyed) :
    KeyFinds after key id reference := by
  obtain ⟨order, first, named⟩ := finds
  unfold KeyFinds
  rw [inserts]
  exact ⟨order, Table.head?_select_insert first, named⟩

theorem keyFinds_update {hit : Order → Prop} [DecidablePred hit] {write : Order → Order}
    {keeps : ∀ row, Keyed.key (write row) = Keyed.key row}
    (finds : KeyFinds db key id reference) (updates : after.orders = db.orders.update hit write keeps)
    (identified : ∀ row, (write row).idempotencyKey = row.idempotencyKey ∧
      (write row).reference = row.reference) :
    KeyFinds after key id reference := by
  obtain ⟨order, first, rfl, rfl⟩ := finds
  unfold KeyFinds
  rw [updates]
  have kept (row : Order) : (write row).idempotencyKey = key ↔ row.idempotencyKey = key := by
    rw [(identified row).1]
  refine ⟨_, Table.head?_select_update kept first, ?_⟩
  split
  · exact ⟨keeps order, (identified order).2⟩
  · exact ⟨rfl, rfl⟩

theorem committed_keyFinds {now : Instant} {op : Op} (finds : KeyFinds db key id reference)
    (committed : Committed db now op after) : KeyFinds after key id reference := by
  cases committed with
  | idle | sweptSeats | heldSeats | sweptTier | heldQuantity | released | releasedUnattached
  | expired | releasedOrder | recorded | enqueued => exact keyFinds_same finds rfl
  | placed _ _ _ placement => exact keyFinds_insert finds placement.orders
  | joined => exact keyFinds_insert finds rfl
  | offered | rejected | refunded => exact keyFinds_update finds rfl fun _ => ⟨rfl, rfl⟩
  | settled _ _ _ _ _ settles =>
    cases settles with
    | already | unavailable => exact keyFinds_same finds rfl
    | refused | awaits | completes => exact keyFinds_update finds rfl fun _ => ⟨rfl, rfl⟩

theorem step_keyFinds {office : Workspace} (finds : KeyFinds office.db key id reference) (op : Op) :
    KeyFinds (step office op).db key id reference := by
  rcases step_db office op with same | committed
  · rwa [same]
  · exact committed_keyFinds finds (commit_cases committed)

theorem acts_keyFinds {office : Workspace} {draws : Draws} {phase : DeskPhase} {acted : DeskActed}
    (finds : KeyFinds office.db key id reference) (acts : DeskActs office draws phase acted) :
    KeyFinds acted.office.db key id reference := by
  cases acts with
  | placed => exact step_keyFinds finds _
  | erased => exact keyFinds_update finds rfl fun _ => ⟨rfl, rfl⟩
  | _ => exact keyFinds_same finds rfl

/-- No turn takes the order from its key. -/
theorem serve_keyFinds (desk : Promotions) (turn : CounterTurn)
    (finds : KeyFinds desk.office.db key id reference) :
    KeyFinds (serveCounter desk turn).office.db key id reference := by
  cases turn with
  | desk turn =>
    change KeyFinds (servePromotions desk turn).office.db key id reference
    rcases servePromotions_cases desk turn with
      ⟨op, _, _, office⟩ | office | ⟨_, _, _, _, _, acted, acts, office, _⟩
    · rw [office]
      exact step_keyFinds finds op
    · rwa [office]
    · rw [office]
      exact acts_keyFinds finds acts
  | other other => exact keyFinds_update finds (other.orders desk.office.db) other.identified

/-- A key that finds an order is answered with it, and nothing is written. -/
theorem placeOrder_replays (finds : KeyFinds db key id reference) (input : PlaceOrderInput)
    (named : input.idempotencyKey = key) (now : Instant) :
    ∃ order, order.id = id ∧ order.reference = reference ∧ placeOrder db input now =
      .ok ({ order, tickets := byId (db.tickets.select fun ticket => ticket.orderId = id)
             replayed := true }, db) := by
  obtain ⟨order, first, rfl, same⟩ := finds
  refine ⟨order, rfl, same, ?_⟩
  simp [placeOrder, findByIdempotencyKey, named, first]

end Finding

/-! ## Placing -/

section Placing

variable {db after : Db} {now : Instant} {input : ConfirmOrderDto} {priced : PricedSelection}
variable {entry : Option OrganizerEntry} {draws : Draws} {placed : PlacedOrder}

/-- A placement that succeeded did so under one of the references drawn. -/
theorem withFreshReference_ok {attempt left : Nat}
    {placing : Nat → Except TxError (PlacedOrder × Db)} {result : PlacedOrder × Db}
    (success : withFreshReference placing attempt left = .ok result) :
    ∃ attempt, placing attempt = .ok result := by
  induction left generalizing attempt with
  | zero => exact ⟨attempt, success⟩
  | succ left ih =>
    unfold withFreshReference at success
    split at success
    · split at success
      · exact ih success
      · cases success
    · exact ⟨attempt, success⟩

/-- The order a confirm answers with is the one its key finds from then on. -/
theorem place_keyFinds (success : place db now input priced entry draws = .ok (placed, after)) :
    KeyFinds after input.idempotencyKey placed.order.id placed.order.reference := by
  obtain ⟨attempt, success⟩ := withFreshReference_ok success
  unfold placeOrder findByIdempotencyKey at success
  split at success
  next order tickets found =>
    cases success
    obtain ⟨first, same, pair⟩ := Option.map_eq_some_iff.mp found
    cases pair
    exact ⟨order, same, rfl, rfl⟩
  next unused =>
    have placement := placeNew_ok unused success
    rw [placement.order]
    refine ⟨newOrder db (placeInput input priced entry draws attempt) now db.orders.next, ?_,
      rfl, rfl⟩
    have mine : (newOrder db (placeInput input priced entry draws attempt) now
        db.orders.next).idempotencyKey = input.idempotencyKey := rfl
    rw [placement.orders, Table.select_insert, if_pos mine]
    have none : (db.orders.select fun order => order.idempotencyKey = input.idempotencyKey) = [] :=
      List.head?_eq_none_iff.mp (Option.map_eq_none_iff.mp unused)
    rw [none]
    rfl

theorem place_replays {id : Nat} {reference : String}
    (finds : KeyFinds db input.idempotencyKey id reference) (now : Instant)
    (priced : PricedSelection) (entry : Option OrganizerEntry) (draws : Draws) :
    ∃ order, order.id = id ∧ order.reference = reference ∧
      place db now input priced entry draws =
        .ok ({ order, tickets := byId (db.tickets.select fun ticket => ticket.orderId = id)
               replayed := true }, db) := by
  obtain ⟨order, named, same, replays⟩ :=
    placeOrder_replays finds (placeInput input priced entry draws 1) rfl now
  refine ⟨order, named, same, ?_⟩
  unfold place withFreshReference REFERENCE_ATTEMPTS
  simp [replays]

end Placing

/-! ## The repeat -/

/-- A confirm that is priced in one state and placed in a later one. -/
def confirmAcross (reading placing : Promotions) (input : ConfirmOrderDto)
    (entry : Option OrganizerEntry) (draws : Draws) : Except TxError (OrderPlaced × Db) :=
  match priceSelection reading.office.db reading.catalog reading.office.clock input entry with
  | .error exception => .error (.domain exception)
  | .ok priced => (place placing.office.db placing.office.clock input priced entry draws).map
    fun (placed, after) => (toResponse placed priced, after)

/-- The same order, reference and tickets. -/
structure SameAnswer (again first : OrderPlaced) : Prop where
  orderId : again.orderId = first.orderId
  reference : again.reference = first.reference
  tickets : again.tickets = first.tickets

/-- The order's tickets are those the first answer showed. -/
def TicketsAsAnswered (db : Db) (first : OrderPlaced) : Prop :=
  (byId (db.tickets.select fun ticket => ticket.orderId = first.orderId)).map issuedTicket =
    first.tickets

instance (db : Db) (first : OrderPlaced) : Decidable (TicketsAsAnswered db first) :=
  inferInstanceAs (Decidable (_ = _))

theorem confirmAcross_again {reading placing : Promotions} {input : ConfirmOrderDto}
    {entry : Option OrganizerEntry} {draws : Draws} {first : OrderPlaced}
    (finds : KeyFinds placing.office.db input.idempotencyKey first.orderId first.reference) :
    (∃ again, confirmAcross reading placing input entry draws = .ok (again, placing.office.db) ∧
      SameAnswer again first) ↔
      StillSells reading.office.db reading.catalog reading.office.clock input entry ∧
        TicketsAsAnswered placing.office.db first := by
  rw [← priceSelection_ok]
  unfold confirmAcross
  cases priceSelection reading.office.db reading.catalog reading.office.clock input entry with
  | error => simp
  | ok priced =>
    obtain ⟨order, named, same, replays⟩ :=
      place_replays finds placing.office.clock priced entry draws
    simp only [replays, Except.map]
    constructor
    · rintro ⟨_, success, answer⟩
      cases success
      exact ⟨⟨priced, rfl⟩, answer.tickets⟩
    · rintro ⟨_, tickets⟩
      exact ⟨_, rfl, named, same, tickets⟩

/-- Priced and placed in one state, it is `confirm`. -/
theorem confirmAcross_self (desk : Promotions) (input : ConfirmOrderDto)
    (entry : Option OrganizerEntry) (draws : Draws) :
    confirmAcross desk desk input entry draws =
      confirm desk.office.db desk.catalog desk.office.clock input entry draws := rfl

theorem confirmAcross_keyFinds {reading placing : Promotions} {input : ConfirmOrderDto}
    {entry : Option OrganizerEntry} {draws : Draws} {answer : OrderPlaced} {after : Db}
    (success : confirmAcross reading placing input entry draws = .ok (answer, after)) :
    KeyFinds after input.idempotencyKey answer.orderId answer.reference := by
  unfold confirmAcross at success
  split at success
  · cases success
  next priced _ =>
    cases placing : place placing.office.db placing.office.clock input priced entry draws with
    | error error =>
      rw [placing] at success
      cases success
    | ok result =>
      rw [placing] at success
      cases success
      exact place_keyFinds placing

/-- A repeat answers as the first did, and writes nothing, exactly when the pricing lets it pass. -/
theorem confirm_again {earlier desk : Promotions} {input : ConfirmOrderDto}
    {entry : Option OrganizerEntry} {draws : Draws} {first : OrderPlaced} {after : Db}
    (success : confirmAcross earlier desk input entry draws = .ok (first, after))
    (turns meanwhile : List CounterTurn) (redraws : Draws) :
    let reading := run serveCounter (withDb desk after) turns
    let placing := run serveCounter reading meanwhile
    (∃ again, confirmAcross reading placing input entry redraws =
      .ok (again, placing.office.db) ∧ SameAnswer again first) ↔
      StillSells reading.office.db reading.catalog reading.office.clock input entry ∧
        TicketsAsAnswered placing.office.db first := by
  intro reading placing
  have found : KeyFinds (withDb desk after).office.db input.idempotencyKey first.orderId
      first.reference := confirmAcross_keyFinds success
  have early : KeyFinds reading.office.db input.idempotencyKey first.orderId first.reference :=
    run_invariant_always serve_keyFinds turns found
  have late : KeyFinds placing.office.db input.idempotencyKey first.orderId first.reference :=
    run_invariant_always serve_keyFinds meanwhile early
  exact confirmAcross_again late

theorem toOption_eq_some {ε α : Type} {result : Except ε α} {value : α} :
    result.toOption = some value ↔ result = .ok value := by
  cases result <;> simp [Except.toOption]

/-- One ticket, with or without a code. -/
def asking (discountCode : Option String) : ConfirmOrderDto where
  eventId := 0
  ticketTypeId := 0
  quantity := some 1
  discountCode := discountCode
  buyer := { name := "Anan", email := "anan@example.com" }
  idempotencyKey := "key"

def drawn (reference : String) : Draws where
  reference := fun _ => reference
  qrToken := fun _ => ""

/-- The buyer's first confirm at the promotion. -/
def firstConfirm (discountCode : Option String) : Except TxError (OrderPlaced × Db) :=
  confirmAcross promotion promotion (asking discountCode) none (drawn "ORD-1")

/-- Somebody else buys with the code meanwhile. -/
def othersBuy : List CounterTurn :=
  [.desk (applying "other"), .desk (onward 0 ""), .desk (onward 0 "ORD-2")]

theorem confirm_again_promotion :
    ∃ first after, firstConfirm none = .ok (first, after) ∧
      let later := run serveCounter (withDb promotion after) othersBuy
      later.office.db.orders.rows.length = 2 ∧
      ∃ again, confirm later.office.db later.catalog later.office.clock (asking none) none
        (drawn "ORD-3") = .ok (again, later.office.db) ∧ SameAnswer again first := by
  have sold : (firstConfirm none).toOption.isSome := by decide +kernel
  have repeats : ∀ answer ∈ (firstConfirm none).toOption,
      let later := run serveCounter (withDb promotion answer.2) othersBuy
      later.office.db.orders.rows.length = 2 ∧
        (priceSelection later.office.db later.catalog later.office.clock (asking none)
          none).toOption.isSome ∧ TicketsAsAnswered later.office.db answer.1 := by decide +kernel
  obtain ⟨⟨first, after⟩, answered⟩ := Option.isSome_iff_exists.mp sold
  obtain ⟨two, priced, tickets⟩ := repeats _ answered
  have success := toOption_eq_some.mp answered
  obtain ⟨priced, passes⟩ := Option.isSome_iff_exists.mp priced
  exact ⟨first, after, success, two, (confirm_again success othersBuy [] (drawn "ORD-3")).mpr
    ⟨priceSelection_ok.mp ⟨priced, toOption_eq_some.mp passes⟩, tickets⟩⟩

/-- The buyer's own use of the code is held against the repeat. -/
theorem repeat_refused :
    ∃ first after, firstConfirm (some "promo") = .ok (first, after) ∧
      ∀ redraws, confirm after promotion.catalog promotion.office.clock (asking (some "promo")) none
        redraws = .error (.domain (.validation "You've already used \"PROMO\".")) := by
  have sold : (firstConfirm (some "promo")).toOption.isSome := by decide +kernel
  have refused : ∀ answer ∈ (firstConfirm (some "promo")).toOption,
      priceSelection answer.2 promotion.catalog promotion.office.clock (asking (some "promo")) none =
        .error (.validation "You've already used \"PROMO\".") := by decide +kernel
  obtain ⟨⟨first, after⟩, answered⟩ := Option.isSome_iff_exists.mp sold
  refine ⟨first, after, toOption_eq_some.mp answered, fun redraws => ?_⟩
  unfold confirm
  rw [refused _ answered]

end EventaApi.Guarantees
