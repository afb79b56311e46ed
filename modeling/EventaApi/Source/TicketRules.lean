import EventaApi.Source.Discounts
import EventaApi.Source.Transactions

/-!
# The rules of ticket types

`TicketingPolicy` judges the values of a ticket type, and `TicketQuantityAdapter` gives the
ticket types of an event whose seats are typed the seats they hold as their quantities.
-/
namespace EventaApi.Source
open Library

/-! ## The policy -/

/-- A window must move forwards. -/
def assertTicketWindow (startAt endAt : Option Instant) : Except DomainException Unit :=
  match startAt, endAt with
  | some starts, some ends =>
    if starts < ends then .ok ()
    else .error (.validation "The sales end date must come after the sales start date.")
  | _, _ => .ok ()

def perOrderAboveTotal (maxPerOrder total : Nat) : DomainException :=
  .validation ("The per-order limit (" ++ toString maxPerOrder ++ ") can't exceed the " ++
    toString total ++ " seats available.")

/-- The per-order limit sits inside two ceilings: the platform's, and the tier's own allocation
unless the seat map sets it. -/
def assertPerOrderBounds (minPerOrder maxPerOrder total : Nat) (quantityFromSeats : Bool) :
    Except DomainException Unit :=
  if maxPerOrder > MAX_SEATS_PER_BOOKING then
    .error (.validation ("A per-order limit can't exceed " ++ toString MAX_SEATS_PER_BOOKING ++
      " seats."))
  else if minPerOrder < 1 ∨ minPerOrder > maxPerOrder then
    .error (.validation
      "The minimum per order must be at least 1 and no more than the maximum.")
  else if quantityFromSeats = false ∧ total ≠ UNLIMITED ∧ maxPerOrder > total then
    .error (perOrderAboveTotal maxPerOrder total)
  else .ok ()

/-- Prices are set in whole baht. -/
def assertWholeBaht (priceSatang : Satang) : Except DomainException Unit :=
  if priceSatang % SATANG_PER_BAHT = 0 then .ok ()
  else .error (.validation "Prices are set in whole baht — drop the stray satang.")

/-- A field of a patch: left out, null, or a value. -/
abbrev Patch (α : Type) := Option (Option α)

def PRICE_FROZEN : DomainException := .conflict
  ("The price and paid/free setting can't change after sales began — " ++
    "create a new ticket type instead.")

/-- Once a seat is sold, price and paid/free are frozen. -/
def assertChangeAllowedAfterSales (tier : TicketType) (priceSatang : Patch Satang)
    (isFree : Patch Bool) : Except DomainException Unit :=
  if tier.sold = 0 then .ok ()
  else if (∃ price ∈ priceSatang, price ≠ some tier.priceSatang) ∨
      ∃ free ∈ isFree, free ≠ some tier.isFree then .error PRICE_FROZEN
  else .ok ()

def assertQuantityNotBelowSold (total sold : Nat) : Except DomainException Unit :=
  if sold ≤ total then .ok ()
  else .error (.validation ("Cannot set the quantity (" ++ toString total ++ ") below the " ++
    toString sold ++ " already sold."))

/-- A reserved event whose seat map gives any seat a ticket type takes every ticket type's
quantity from its seats. -/
def quantityFromSeats (seatingMode : SeatingMode) (hasTypedSeats : Bool) : Bool :=
  seatingMode = .reserved && hasTypedSeats

/-- Where the seat map sets the quantity, only that same number may be sent. -/
def assertQuantityFromSeats (total : Patch Nat) (seats : Nat) : Except DomainException Unit :=
  if total = none ∨ total = some (some seats) then .ok ()
  else .error (.conflict
    "This event's ticket quantities come from its seat map. Give rows to a ticket type instead.")

/-- A type that still sells seats can't go. -/
def assertNoSeats (name : String) (seats : Nat) : Except DomainException Unit :=
  if seats = 0 then .ok ()
  else .error (.conflict (name ++ " still has seats. Give them to another ticket type first."))

def assertSeatsCoverSold (name : String) (sold seats : Nat) : Except DomainException Unit :=
  if sold ≤ seats then .ok ()
  else .error (.conflict (name ++ " has sold " ++ toString sold ++ " tickets, more than the " ++
    toString seats ++ " seats it now holds."))

/-- Availability derived from the window and the inventory; `paused` is a human's. -/
def resolveTicketStatus (status : TicketStatus) (sold total : Nat) (salesStartAt : Option Instant)
    (now : Instant) : TicketStatus :=
  if status = .paused then .paused
  else if total ≠ UNLIMITED ∧ total ≤ sold then .soldout
  else if salesStartAt.any fun starts => now < starts then .scheduled
  else .onsale

/-! ## Seats and quantities -/

/-- The ticket types of the seats on an event's live map, one entry for each typed seat. -/
def typedSeats (db : Db) (eventId : Nat) : List Nat :=
  db.seats.rows.filterMap fun seat =>
    (db.seatMaps.find seat.seatMapId).bind fun seatMap =>
      if seatMap.eventId = eventId ∧ seatMap.deletedAt = none then seat.ticketTypeId else none

/-- The seats of live maps that sell a ticket type. -/
def seatsOfTicketType (db : Db) (ticketTypeId : Nat) : Nat :=
  (db.seats.select fun seat => seat.ticketTypeId = some ticketTypeId ∧
    ∃ seatMap ∈ db.seatMaps.find seat.seatMapId, seatMap.deletedAt = none).length

/-- The event's live ticket types. -/
def liveTiers (db : Db) (eventId : Nat) : List TicketType :=
  db.ticketTypes.select fun tier => tier.eventId = eventId ∧ tier.deletedAt = none

def assertEveryTypeCovered (seatsOf : Nat → Nat) : List TicketType → Except DomainException Unit
  | [] => .ok ()
  | tier :: rest =>
    match assertSeatsCoverSold tier.name tier.sold (seatsOf tier.id) with
    | .error exception => .error exception
    | .ok () => assertEveryTypeCovered seatsOf rest

@[reducible] def reseatedTier (seatsOf : Nat → Nat) (now : Instant) (tier : TicketType) :
    TicketType :=
  { tier with
    total := seatsOf tier.id
    status := resolveTicketStatus tier.status tier.sold (seatsOf tier.id) tier.salesStartAt now
    version := tier.version + 1 }

/-- Every type is checked before any is written. -/
def setSeatQuantitiesIn (db : Db) (eventId : Nat) (seatsOf : Nat → Nat) (now : Instant) :
    Except DomainException Db :=
  match assertEveryTypeCovered seatsOf (liveTiers db eventId) with
  | .error exception => .error exception
  | .ok () =>
    .ok { db with
      ticketTypes := db.ticketTypes.update
        (fun tier => tier.eventId = eventId ∧ tier.deletedAt = none ∧ seatsOf tier.id ≠ tier.total)
        (reseatedTier seatsOf now) }

/-! ## What passes -/

theorem assertTicketWindow_ok {startAt endAt : Option Instant} :
    assertTicketWindow startAt endAt = .ok () ↔
      ∀ starts ∈ startAt, ∀ ends ∈ endAt, starts < ends := by
  cases startAt <;> cases endAt <;> simp [assertTicketWindow]

theorem assertPerOrderBounds_ok {minPerOrder maxPerOrder total : Nat} {fromSeats : Bool} :
    assertPerOrderBounds minPerOrder maxPerOrder total fromSeats = .ok () ↔
      1 ≤ minPerOrder ∧ minPerOrder ≤ maxPerOrder ∧ maxPerOrder ≤ MAX_SEATS_PER_BOOKING ∧
        (fromSeats = false → total = UNLIMITED ∨ maxPerOrder ≤ total) := by
  unfold assertPerOrderBounds
  split
  · simp only [reduceCtorEq, false_iff]
    omega
  · split
    · simp only [reduceCtorEq, false_iff]
      omega
    · split
      · next above =>
        simp only [reduceCtorEq, false_iff]
        rintro ⟨_, _, _, within⟩
        rcases within above.1 with unlimited | covered
        · exact above.2.1 unlimited
        · exact Nat.not_lt.mpr covered above.2.2
      · next within =>
        simp only [true_iff]
        refine ⟨by omega, by omega, by omega, fun typed => ?_⟩
        by_contra above
        exact within ⟨typed, by omega, by omega⟩

theorem assertWholeBaht_ok {priceSatang : Satang} :
    assertWholeBaht priceSatang = .ok () ↔ priceSatang % SATANG_PER_BAHT = 0 := by
  unfold assertWholeBaht
  split <;> simp [*]

theorem assertNoSeats_ok {name : String} {seats : Nat} :
    assertNoSeats name seats = .ok () ↔ seats = 0 := by
  unfold assertNoSeats
  split <;> simp [*]

theorem assertEveryTypeCovered_ok {seatsOf : Nat → Nat} {tiers : List TicketType}
    (ok : assertEveryTypeCovered seatsOf tiers = .ok ()) :
    ∀ tier ∈ tiers, tier.sold ≤ seatsOf tier.id := by
  induction tiers with
  | nil => exact fun _ member => absurd member List.not_mem_nil
  | cons tier rest ih =>
    unfold assertEveryTypeCovered assertSeatsCoverSold at ok
    split at ok
    · cases ok
    · next covers =>
      split at covers
      · next covered =>
        intro other member
        rcases List.mem_cons.mp member with rfl | later
        · exact covered
        · exact ih ok other later
      · cases covers

/-- Giving types their seats writes totals and statuses, and never below what is sold. -/
theorem setSeatQuantitiesIn_ok {db after : Db} {eventId : Nat} {seatsOf : Nat → Nat} {now : Instant}
    (ok : setSeatQuantitiesIn db eventId seatsOf now = .ok after) :
    (∀ tier ∈ liveTiers db eventId, tier.sold ≤ seatsOf tier.id) ∧
      after = { db with
        ticketTypes := db.ticketTypes.update
          (fun tier => tier.eventId = eventId ∧ tier.deletedAt = none ∧
            seatsOf tier.id ≠ tier.total) (reseatedTier seatsOf now) } := by
  unfold setSeatQuantitiesIn at ok
  split at ok
  · cases ok
  · next covered =>
    cases ok
    exact ⟨assertEveryTypeCovered_ok covered, rfl⟩

end EventaApi.Source
