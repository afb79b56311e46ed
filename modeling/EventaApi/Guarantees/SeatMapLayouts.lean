import EventaApi.Guarantees.SeatCustody
import EventaApi.Guarantees.SeatMapSaves
import Mathlib.Data.List.Perm.Basic

/-!
# What a saved seat map looks like

A map that is saved is the grid that was asked for, each seat with the type that was sent for it,
or, where none was sent, with the one it had. The counts are those of the new map. A save judges
an event by what it loaded, though, and writes the event after the map: an event that was
published meanwhile gets a map a draft may have, and one that was edited or deleted refuses a
request that has written its map.
-/
namespace EventaApi.Guarantees
open Library Source

/-! ## What is asked of a map -/

/-- The seat stands at the position. -/
def StandsAt (position : SeatPosition) (seat : Seat) : Prop :=
  seat.sectionName = some "" ∧ seat.rowLabel = some position.rowLabel ∧
    seat.seatNumber = position.seatNumber

/-- Every seat is of a map and at a position of its own. -/
structure WellPlaced (db : Db) : Prop where
  mapped : ∀ seat ∈ db.seats, (db.seatMaps.find seat.seatMapId).isSome
  stands : ∀ seat ∈ db.seats, ∃ position, StandsAt position seat
  apart : ∀ seat ∈ db.seats, ∀ other ∈ db.seats, seat.seatMapId = other.seatMapId →
    seat.key = other.key → seat = other

/-- The save has made of the event's map what the request asked for. -/
structure AsAsked (before : Db) (now : Instant) (eventId : Nat) (input : ConfigureReservedInput)
    (published : Bool) (seatMapId : Nat) (after : Db) : Prop where
  mapOf : ∃ seatMap ∈ findMap after eventId, seatMap.id = seatMapId
  /-- The seats of the grid's positions, and no other, are the map's. -/
  placed : ∀ seat ∈ after.seats, seat.seatMapId = seatMapId →
    ∃ position ∈ gridPositions input.rows input.seatsPerRow, StandsAt position seat
  filled : ∀ position ∈ gridPositions input.rows input.seatsPerRow,
    ∃ seat ∈ after.seats, seat.seatMapId = seatMapId ∧ StandsAt position seat
  once : ∀ seat ∈ after.seats, seat.seatMapId = seatMapId → ∀ other ∈ after.seats,
    other.seatMapId = seatMapId → ∀ position, StandsAt position seat → StandsAt position other →
      seat = other
  /-- A seat at a position that stays is kept. -/
  kept : ∀ seat ∈ before.seats, seat.seatMapId = seatMapId →
    ∀ position ∈ gridPositions input.rows input.seatsPerRow, StandsAt position seat →
      ∃ row ∈ after.seats.find seat.id, row.seatMapId = seatMapId ∧ StandsAt position row
  bySeat : ∀ seats ∈ input.seatTicketTypes, ∀ seat ∈ after.seats, seat.seatMapId = seatMapId →
    ∀ position, StandsAt position seat →
      ∃ row, seats[position.row - 1]? = some row ∧
        row[position.number - 1]? = some seat.ticketTypeId
  byRow : ∀ rows ∈ input.rowTicketTypes, ∀ seat ∈ after.seats, seat.seatMapId = seatMapId →
    ∀ position, StandsAt position seat → rows[position.row - 1]? = some seat.ticketTypeId
  carried : input.seatTicketTypes = none → input.rowTicketTypes = none →
    ∀ seat ∈ after.seats, seat.seatMapId = seatMapId →
      seat ∈ before.seats ∨ before.seats.find seat.id = none ∧ seat.ticketTypeId = none
  occupied : ∀ seat ∈ before.seats,
    seat.id ∈ occupiedSeatIdsIn before [seat.id] now →
      ∀ row ∈ after.seats.find seat.id, row.ticketTypeId = seat.ticketTypeId
  live : ∀ seat ∈ after.seats, seat.seatMapId = seatMapId → ∀ typed ∈ seat.ticketTypeId,
    ∃ tier ∈ liveTiers after eventId, tier.id = typed
  whole : published = true →
    (∀ seat ∈ after.seats, seat.seatMapId = seatMapId → seat.ticketTypeId ≠ none) ∨
      ∀ seat ∈ after.seats, seat.seatMapId = seatMapId → seat.ticketTypeId = none
  counted : (∃ seat ∈ after.seats, seat.seatMapId = seatMapId ∧ seat.ticketTypeId ≠ none) →
    ∀ tier ∈ liveTiers after eventId, tier.sold ≤ tier.total ∧
      tier.total = (after.seats.select fun seat =>
        seat.seatMapId = seatMapId ∧ seat.ticketTypeId = some tier.id).length

/-- The event, as it is stored, is past its draft. -/
def PublishedNow (desk : SeatingDesk) (event : EventRecord) : Bool :=
  (desk.events.events.find event.id).any isPublished

/-- The request has saved its map, and has the event's own update left to make. -/
def HasSavedMap : SeatingPhase → Prop
  | .updating _ wrote (.first (.update _ input)) | .updating _ wrote (.update _ input) =>
    wrote = true ∧ input.seatingMode = some .reserved
  | _ => False

/-- A step that saves a map does what was asked, and one that refuses the request writes nothing
and comes after no save. -/
structure SavesAsAsked (texts : EventTexts) (desk : SeatingDesk) (answers : EventAnswers)
    (phase : SeatingPhase) : Prop where
  saves : ∀ event input, phase = .apply event input →
    IsRefusal (actOnSeating texts desk answers phase).2 ∨
      ∃ seatMapId, AsAsked desk.workspace.db desk.workspace.clock event.id input
        (PublishedNow desk event) seatMapId (actOnSeating texts desk answers phase).1.workspace.db
  refusals : IsRefusal (actOnSeating texts desk answers phase).2 →
    (actOnSeating texts desk answers phase).1 = desk ∧ ¬ HasSavedMap phase

/-! ## What a save depends on -/

/-- The layout a save plans. -/
abbrev plannedLayout (db : Db) (eventId : Nat) (now : Instant) (input : ConfigureReservedInput) :
    SeatingPlanLayout :=
  layoutAfter (reservedSnapshot db eventId now).seats input

/-- The layout gives every seat a type, or none. -/
def TypesAllOrNone (layout : SeatingPlanLayout) : Prop :=
  (∀ position ∈ layout, position.ticketTypeId ≠ none) ∨
    ∀ position ∈ layout, position.ticketTypeId = none

/-- Where the event was published since the save loaded it, a map that is committed has a type at
every seat or at none. -/
def WholeOnSale (desk : SeatingDesk) : SeatingPhase → Prop
  | .apply event input => isPublished event = false → PublishedNow desk event = true →
    commits desk (.apply event input) = true → TypesAllOrNone
      (plannedLayout desk.workspace.db event.id desk.workspace.clock input)
  | _ => True

/-- Once the map is saved, the event is still there, in order, and at the version its own update
loaded. -/
def EventStays (desk : SeatingDesk) : SeatingPhase → Prop
  | .updating _ wrote (.first (.update eventId input)) => wrote = true →
    input.seatingMode = some .reserved →
      ∃ row ∈ findEvent desk.events eventId, assertEndAfterStart input row = true
  | .updating _ wrote (.update loaded input) => wrote = true →
    input.seatingMode = some .reserved → ∃ row ∈ desk.events.events.rows, AtVersion loaded row
  | _ => True

def EventUntouched (desk : SeatingDesk) (_ : EventAnswers) (phase : SeatingPhase) : Prop :=
  WholeOnSale desk phase ∧ EventStays desk phase

instance : DecidablePred TypesAllOrNone := fun _ => inferInstanceAs (Decidable (_ ∨ _))

instance (desk : SeatingDesk) : DecidablePred (WholeOnSale desk)
  | .apply event input => inferInstanceAs (Decidable (_ → _ → commits desk (.apply event input) =
      true → TypesAllOrNone _))
  | .first _ | .existing _ _ | .clear _ _ | .updating _ _ _ | .done _ => isTrue trivial

instance (desk : SeatingDesk) : DecidablePred (EventStays desk)
  | .updating _ _ (.first (.update eventId _)) =>
    inferInstanceAs (Decidable (_ → _ → ∃ _ ∈ findEvent desk.events eventId, _))
  | .updating _ _ (.update _ _) =>
    inferInstanceAs (Decidable (_ → _ → ∃ _ ∈ desk.events.events.rows, _))
  | .updating _ _ (.first (.create _ _)) | .updating _ _ (.first (.duplicate _ _))
  | .updating _ _ (.first (.publish _ _ _)) | .updating _ _ (.first (.unpublish _ _))
  | .updating _ _ (.first (.delete _ _)) | .updating _ _ (.first (.cancel _ _ _ _))
  | .updating _ _ (.slug _ _ _ _) | .updating _ _ (.insert _) | .updating _ _ (.category _ _)
  | .updating _ _ (.readiness _ _ _) | .updating _ _ (.publish _ _ _)
  | .updating _ _ (.announcePublished _ _) | .updating _ _ (.unpublish _)
  | .updating _ _ (.sold _) | .updating _ _ (.delete _) | .updating _ _ (.cancel _ _ _)
  | .updating _ _ (.announceCancelled _ _ _) | .updating _ _ (.done _)
  | .first _ | .apply _ _ | .existing _ _ | .clear _ _ | .done _ => isTrue trivial

instance (desk : SeatingDesk) (answers : EventAnswers) :
    DecidablePred (EventUntouched desk answers) :=
  fun _ => inferInstanceAs (Decidable (_ ∧ _))

/-! ## Positions -/

section Positions

variable {position other : SeatPosition} {seat : Seat}

theorem StandsAt.key (stands : StandsAt position seat) : seat.key = position.key := by
  obtain ⟨sectionName, rowLabel, seatNumber⟩ := stands
  unfold Seat.key SeatPosition.key
  rw [sectionName, rowLabel, seatNumber]

theorem StandsAt.of_key (stands : StandsAt other seat) (same : seat.key = position.key) :
    StandsAt position seat := by
  have alike : other = position := SeatPosition.key_inj (stands.key.symm.trans same)
  exact alike ▸ stands

theorem mem_gridPositions {rows seatsPerRow : Nat} : position ∈ gridPositions rows seatsPerRow ↔
    1 ≤ position.row ∧ position.row ≤ rows ∧ 1 ≤ position.number ∧
      position.number ≤ seatsPerRow := by
  obtain ⟨row, number⟩ := position
  simp only [gridPositions, List.mem_flatMap, List.mem_range, List.mem_map, SeatPosition.mk.injEq]
  constructor
  · rintro ⟨row, inRows, number, inRow, rfl, rfl⟩
    omega
  · rintro ⟨first, last, first', last'⟩
    exact ⟨row - 1, by omega, number - 1, by omega, by omega, by omega⟩

theorem nodup_gridPositions (rows seatsPerRow : Nat) : (gridPositions rows seatsPerRow).Nodup := by
  unfold gridPositions
  rw [List.nodup_flatMap]
  constructor
  · intro row _
    refine List.Nodup.map ?_ List.nodup_range
    intro number number' same
    simpa using same
  · refine List.Pairwise.imp ?_ List.nodup_range
    intro row row' different position inFirst inSecond
    obtain ⟨_, _, rfl⟩ := List.mem_map.mp inFirst
    obtain ⟨_, _, same⟩ := List.mem_map.mp inSecond
    simp only [SeatPosition.mk.injEq, Nat.add_right_cancel_iff] at same
    exact different same.1.symm

end Positions

/-! ## The lists that are sent -/

section Lists

variable {input : ConfigureReservedInput}

theorem assertOnePerRow_ok {rows sent : Nat} :
    assertOnePerRow rows sent = .ok () ↔ sent = rows := by
  unfold assertOnePerRow
  split <;> simp_all

theorem assertOnePerSeat_ok {seatsPerRow : Nat} {seats : List (List (Option Nat))} {row : Nat} :
    assertOnePerSeat seatsPerRow seats row = .ok () ↔
      ∀ types ∈ seats, types.length = seatsPerRow := by
  induction seats generalizing row with
  | nil => simp [assertOnePerSeat]
  | cons types rest ih =>
    unfold assertOnePerSeat
    split
    next complete => rw [ih, List.forall_mem_cons, and_iff_right complete]
    next short => simp [short]

/-- The ticket types come as one list, with an entry for each row, or each seat. -/
theorem assertTypeShape_ok : assertTypeShape input = .ok () ↔
    (input.rowTicketTypes = none ∨ input.seatTicketTypes = none) ∧
      (∀ rows ∈ input.rowTicketTypes, rows.length = input.rows) ∧
      ∀ seats ∈ input.seatTicketTypes, seats.length = input.rows ∧
        ∀ types ∈ seats, types.length = input.seatsPerRow := by
  unfold assertTypeShape
  cases byRow : input.rowTicketTypes with
  | none =>
    cases bySeat : input.seatTicketTypes with
    | none => simp
    | some seats =>
      constructor
      · intro shaped
        obtain ⟨_, rows, shaped⟩ := bind_ok shaped
        simpa using ⟨assertOnePerRow_ok.mp rows, assertOnePerSeat_ok.mp shaped⟩
      · rintro ⟨_, _, shaped⟩
        obtain ⟨rows, complete⟩ := shaped seats rfl
        simp only [assertOnePerRow_ok.mpr rows, bind, Except.bind]
        exact assertOnePerSeat_ok.mpr complete
  | some rows =>
    cases bySeat : input.seatTicketTypes with
    | none => simpa using assertOnePerRow_ok
    | some seats => simp

variable {position : SeatPosition}

/-- A list that is sent has an entry for each position of the grid. -/
theorem sentTypeAt_bySeat (shaped : assertTypeShape input = .ok ())
    {seats : List (List (Option Nat))} (sent : input.seatTicketTypes = some seats)
    (inGrid : position ∈ gridPositions input.rows input.seatsPerRow) :
    ∃ row type, seats[position.row - 1]? = some row ∧ row[position.number - 1]? = some type ∧
      sentTypeAt input position = some type := by
  obtain ⟨size, complete⟩ := (assertTypeShape_ok.mp shaped).2.2 seats sent
  obtain ⟨first, last, first', last'⟩ := mem_gridPositions.mp inGrid
  have there : position.row - 1 < seats.length := by omega
  have row := complete _ (List.getElem_mem there)
  have inRow : position.number - 1 < seats[position.row - 1].length := by omega
  refine ⟨_, _, List.getElem?_eq_getElem there, List.getElem?_eq_getElem inRow, ?_⟩
  simp only [sentTypeAt, sent, List.getElem?_eq_getElem there, Option.bind_some,
    List.getElem?_eq_getElem inRow]

theorem sentTypeAt_byRow (shaped : assertTypeShape input = .ok ()) {rows : List (Option Nat)}
    (sent : input.rowTicketTypes = some rows)
    (inGrid : position ∈ gridPositions input.rows input.seatsPerRow) :
    ∃ type, rows[position.row - 1]? = some type ∧ sentTypeAt input position = some type := by
  obtain ⟨one, size, _⟩ := assertTypeShape_ok.mp shaped
  have bySeat : input.seatTicketTypes = none := one.resolve_left (by simp [sent])
  obtain ⟨first, last, _⟩ := mem_gridPositions.mp inGrid
  have there : position.row - 1 < rows.length := by
    have complete := size rows sent
    omega
  refine ⟨_, List.getElem?_eq_getElem there, ?_⟩
  simp only [sentTypeAt, bySeat, sent, Option.bind_some, List.getElem?_eq_getElem there]

end Lists

/-! ## The layout -/

section Layout

variable {seats : List Seat} {input : ConfigureReservedInput}

theorem mem_layoutAfter {position : NewSeatPosition} : position ∈ layoutAfter seats input ↔
    position.toSeatPosition ∈ gridPositions input.rows input.seatsPerRow ∧
      position.ticketTypeId = (sentTypeAt input position.toSeatPosition).getD
        (entryAt (seats.map fun seat => (seat.key, seat.ticketTypeId)) position.key).join := by
  simp only [layoutAfter, List.mem_map]
  constructor
  · rintro ⟨place, inGrid, rfl⟩
    exact ⟨inGrid, rfl⟩
  · rintro ⟨inGrid, type⟩
    refine ⟨position.toSeatPosition, inGrid, ?_⟩
    rw [← type]

/-- The layout's one entry for a position. -/
theorem layoutAfter_at {place : SeatPosition}
    (inGrid : place ∈ gridPositions input.rows input.seatsPerRow) :
    ∃ position ∈ layoutAfter seats input, position.toSeatPosition = place := by
  unfold layoutAfter
  exact ⟨_, List.mem_map_of_mem inGrid, rfl⟩

theorem nodup_layoutAfter : (layoutAfter seats input).Nodup := by
  refine List.Nodup.map ?_ (nodup_gridPositions _ _)
  intro place other same
  exact congrArg NewSeatPosition.toSeatPosition same

/-- Positions of a layout with one key are one. -/
theorem layoutAfter_inj {first second : NewSeatPosition} (laid : first ∈ layoutAfter seats input)
    (laid' : second ∈ layoutAfter seats input) (same : first.key = second.key) :
    first = second := by
  unfold layoutAfter at laid laid'
  obtain ⟨place, _, rfl⟩ := List.mem_map.mp laid
  obtain ⟨place', _, rfl⟩ := List.mem_map.mp laid'
  have alike : place = place' := SeatPosition.key_inj same
  rw [alike]

/-- Where no list is sent, a seat's position has the type it had. -/
theorem layoutAfter_carried (apart : ∀ seat ∈ seats, ∀ other ∈ seats, seat.key = other.key →
      seat = other) (unsent : input.seatTicketTypes = none ∧ input.rowTicketTypes = none)
    {position : NewSeatPosition} (laid : position ∈ layoutAfter seats input) :
    (∀ seat ∈ seats, seat.key = position.key → position.ticketTypeId = seat.ticketTypeId) ∧
      (position.key ∉ seats.map Seat.key → position.ticketTypeId = none) := by
  have type := (mem_layoutAfter.mp laid).2
  simp only [sentTypeAt, unsent.1, unsent.2, Option.bind_none, Option.getD_none] at type
  constructor
  · intro seat stored same
    have entry : entryAt (seats.map fun seat => (seat.key, seat.ticketTypeId)) position.key =
        some seat.ticketTypeId := by
      refine lookup_of_only (fun entry member named => ?_) ?_
      · obtain ⟨other, there, rfl⟩ := List.mem_map.mp (List.mem_reverse.mp member)
        rw [apart other there seat stored (named.trans same.symm)]
      · exact ⟨_, List.mem_reverse.mpr (List.mem_map_of_mem stored), same⟩
    rw [type, entry]
    rfl
  · intro fresh
    have entry : entryAt (seats.map fun seat => (seat.key, seat.ticketTypeId)) position.key =
        none := by
      refine List.lookup_eq_none_iff.mpr fun entry member => ?_
      obtain ⟨other, there, rfl⟩ := List.mem_map.mp (List.mem_reverse.mp member)
      have different : position.key ≠ other.key := fun same =>
        fresh (List.mem_map.mpr ⟨other, there, same.symm⟩)
      simpa using different
    rw [type, entry]
    rfl

variable {snapshot : ReservedSnapshot} {published : Bool} {plan : ReservedPlan}

/-- A plan that was not refused gives live types only, and to the seats of a published event all
or none. -/
theorem planReserved_types (planned : planReserved snapshot input published = .ok plan) :
    (∀ position ∈ layoutAfter snapshot.seats input, ∀ typed ∈ position.ticketTypeId,
        ∃ tier ∈ snapshot.tiers, tier.id = typed) ∧
      assertEverySeatTyped (layoutAfter snapshot.seats input) published = .ok () := by
  unfold planReserved at planned
  obtain ⟨_, live, planned⟩ := bind_ok planned
  obtain ⟨_, every, planned⟩ := bind_ok planned
  refine ⟨fun position laid typed type => ?_, every⟩
  unfold assertLiveTypes at live
  split at live
  · cases live
  next none =>
    have found := List.find?_eq_none.mp none position laid
    rw [Option.mem_def.mp type] at found
    simpa using found

theorem assertEverySeatTyped_ok {layout : SeatingPlanLayout} :
    assertEverySeatTyped layout true = .ok () ↔ TypesAllOrNone layout := by
  unfold assertEverySeatTyped
  by_cases untyped : allUntyped layout = true
  · rw [if_pos (Or.inr untyped)]
    exact iff_of_true rfl (Or.inr (by simpa [allUntyped] using untyped))
  · have typed : ¬ ∀ position ∈ layout, position.ticketTypeId = none := by
      simpa [allUntyped] using untyped
    unfold TypesAllOrNone
    rw [if_neg (by simp [untyped]), or_iff_left typed]
    split
    next gap found =>
      simp only [reduceCtorEq, false_iff]
      intro every
      exact every gap (List.mem_of_find?_eq_some found)
        (by simpa using List.find?_some found)
    next none =>
      refine iff_of_true rfl fun position laid => ?_
      simpa using List.find?_eq_none.mp none position laid

end Layout

/-! ## The map that is saved -/

/-- A seat found occupied by itself is so among others. -/
theorem occupiedSeatIdsIn_mono {db : Db} {seatIds : List Nat} {seatId : Nat} {now : Instant}
    (listed : seatId ∈ seatIds) (occupied : seatId ∈ occupiedSeatIdsIn db [seatId] now) :
    seatId ∈ occupiedSeatIdsIn db seatIds now := by
  unfold occupiedSeatIdsIn at occupied ⊢
  rcases List.mem_append.mp occupied with held | booked
  · obtain ⟨hold, reserving, named⟩ := List.mem_filterMap.mp held
    obtain ⟨mine, _⟩ := Option.filter_eq_some_iff.mp named
    refine List.mem_append_left _ (List.mem_filterMap.mpr ⟨hold, reserving, ?_⟩)
    rw [mine, Option.filter_some, if_pos (by simpa using listed)]
  · obtain ⟨assignment, assigned, same⟩ := List.mem_map.mp booked
    obtain ⟨stored, _, live⟩ := Table.mem_select.mp assigned
    refine List.mem_append_right _ (List.mem_map.mpr ⟨assignment, ?_, same⟩)
    exact Table.mem_select.mpr ⟨stored, same ▸ listed, live⟩

/-- The entry for a type whose seats are counted. -/
theorem countedSeats_mem {tiers : List TicketType} (seatsOf : Nat → Nat) {tier : TicketType}
    (member : tier ∈ tiers) :
    countedSeats (tiers.map fun tier => (tier.id, seatsOf tier.id)) tier.id = seatsOf tier.id := by
  induction tiers with
  | nil => exact absurd member List.not_mem_nil
  | cons first rest ih =>
    unfold countedSeats at ih ⊢
    rw [List.map_cons, List.lookup_cons]
    by_cases same : tier.id = first.id
    · simp [same]
    · have later : tier ∈ rest := (List.mem_cons.mp member).resolve_left fun head =>
        same (congrArg TicketType.id head)
      rw [beq_eq_false_iff_ne.mpr same]
      exact ih later

section Saved

variable {db after : Db} {eventId seatMapId : Nat} {now : Instant} {plan : ReservedPlan}
variable {input : ConfigureReservedInput}

/-- A save that went through has saved the map, and changed no map after it. -/
theorem applyReserved_map {published eventExists : Bool}
    (applied : applyReserved db eventId input published eventExists now = .ok (seatMapId, after)) :
    ∃ mapped, saveMap db eventId input eventExists = .ok (seatMapId, mapped) ∧
      after.seatMaps = mapped.seatMaps := by
  unfold applyReserved at applied
  obtain ⟨plan, _, applied⟩ := bind_ok applied
  obtain ⟨⟨mapId, mapped⟩, saved, applied⟩ := bind_ok applied
  obtain ⟨seated, wrote, applied⟩ := bind_ok applied
  unfold writeSeats at wrote
  obtain ⟨left, deleted, wrote⟩ := bind_ok wrote
  obtain ⟨_, rfl⟩ := deleteSeats_ok.mp deleted
  cases wrote
  split at applied
  · obtain ⟨counted, quantities, applied⟩ := bind_ok applied
    obtain ⟨_, rfl⟩ := setSeatQuantitiesIn_ok (domainError_ok.mp quantities)
    cases applied
    exact ⟨mapped, saved, rfl⟩
  · cases applied
    exact ⟨mapped, saved, rfl⟩

/-- The map that is saved is the event's; an event without one gets a new one. -/
theorem saveMap_first {mapped : Db} {eventExists : Bool}
    (saved : saveMap db eventId input eventExists = .ok (seatMapId, mapped)) :
    (findMap db eventId = none → seatMapId = db.seatMaps.next) ∧
      ∃ seatMap ∈ findMap mapped eventId, seatMap.id = seatMapId := by
  unfold saveMap at saved
  split at saved
  next seatMap found =>
    cases saved
    refine ⟨fun none => ?_, laidOutMap input seatMap, ?_, rfl⟩
    · rw [none] at found
      cases found
    · have alike (row : SeatMap) : IsMapOf eventId (laidOutMap input row) ↔ IsMapOf eventId row :=
        Iff.rfl
      have first : findMap
          { db with
            seatMaps := db.seatMaps.update (fun row => row.id = seatMap.id) (laidOutMap input) }
          eventId = some (if seatMap.id = seatMap.id then laidOutMap input seatMap else seatMap) :=
        Table.head?_select_update alike found
      rwa [if_pos rfl] at first
  next missing =>
    split at saved
    · cases saved
    · split at saved
      · cases saved
      · cases saved
        refine ⟨fun _ => rfl, newMap eventId input db.seatMaps.next, ?_, rfl⟩
        have empty : db.seatMaps.select (IsMapOf eventId) = [] := List.head?_eq_none_iff.mp missing
        have mine : IsMapOf eventId (newMap eventId input db.seatMaps.next) := ⟨rfl, rfl⟩
        unfold findMap
        rw [Table.select_insert, empty, if_pos mine]
        rfl

/-- What a save that went through was: a plan for a layout with fitting types, written to the
map. -/
structure LaidOut (db : Db) (eventId : Nat) (now : Instant) (input : ConfigureReservedInput)
    (published : Bool) (plan : ReservedPlan) (seatMapId : Nat) (after : Db) : Prop where
  before : WellPlaced db
  planned : Planned (reservedSnapshot db eventId now) input plan
  saved : SavedPlan db eventId now plan seatMapId after
  fresh : findMap db eventId = none → seatMapId = db.seatMaps.next
  first : ∃ seatMap ∈ findMap after eventId, seatMap.id = seatMapId
  live : ∀ position ∈ plannedLayout db eventId now input, ∀ typed ∈ position.ticketTypeId,
    ∃ tier ∈ liveTiers db eventId, tier.id = typed
  every : assertEverySeatTyped (plannedLayout db eventId now input) published = .ok ()

theorem applyReserved_laidOut {published eventExists : Bool} (placed : WellPlaced db)
    (applied : applyReserved db eventId input published eventExists now = .ok (seatMapId, after)) :
    ∃ plan, LaidOut db eventId now input published plan seatMapId after := by
  obtain ⟨plan, planned, saved⟩ := applyReserved_ok applied
  obtain ⟨live, every⟩ := planReserved_types planned
  obtain ⟨mapped, mapSaved, same⟩ := applyReserved_map applied
  obtain ⟨fresh, first⟩ := saveMap_first mapSaved
  unfold findMap at first
  rw [← same] at first
  exact ⟨plan, placed, planReserved_ok planned, saved, fresh, first, live, every⟩

section LaidOut

variable {published : Bool} (laid : LaidOut db eventId now input published plan seatMapId after)
include laid

theorem LaidOut.mem_added {position : NewSeatPosition} : position ∈ plan.added ↔
    position ∈ plannedLayout db eventId now input ∧
      position.key ∉ (reservedSnapshot db eventId now).seats.map Seat.key := by
  rw [laid.planned.added, List.mem_filter, decide_eq_true_eq]

/-- The seats a save is planned on are those of the map it saves. -/
theorem LaidOut.onMap {seat : Seat} (stored : seat ∈ db.seats) :
    seat ∈ (reservedSnapshot db eventId now).seats ↔ seat.seatMapId = seatMapId := by
  rw [mem_snapshot]
  constructor
  · rintro ⟨_, seatMap, found, mine⟩
    exact mine.trans (laid.saved.seatMap.same seatMap found)
  · intro mine
    cases found : findMap db eventId with
    | none =>
      have there := laid.before.mapped seat stored
      rw [mine, laid.fresh found, Table.find_next] at there
      cases there
    | some seatMap =>
      exact ⟨stored, seatMap, rfl, mine.trans (laid.saved.seatMap.same seatMap found).symm⟩

/-- Where a seat comes from: it is another map's and as it was, it stayed at a position of the
layout with the layout's type, or it was added there. -/
theorem LaidOut.origin {seat : Seat} (stored : seat ∈ after.seats) :
    (seat ∈ db.seats ∧ seat.seatMapId ≠ seatMapId) ∨
    (∃ old ∈ db.seats, old.seatMapId = seatMapId ∧
      IsKept (plannedLayout db eventId now input) old ∧
      seat = { old with ticketTypeId := typeIn (plannedLayout db eventId now input) old }) ∨
    ∃ (index : Nat) (inRange : index < plan.added.length),
      seat = insertedSeat seatMapId plan.added[index] (db.seats.next + index) := by
  have found : after.seats.find seat.id = some seat := Table.find_key stored
  have written := laid.saved.seats
  rw [written] at stored
  rcases Table.mem_insertEach.mp stored with old | ⟨index, inRange, rfl⟩
  · have left :
        ((db.seats.delete fun seat => seat.id ∈ plan.removedSeatIds).find seat.id).isSome := by
      rw [← isSome_find_retypeSeats]
      exact Table.isSome_find_of_mem old
    obtain ⟨before, there⟩ := Option.isSome_iff_exists.mp left
    obtain ⟨kept, named⟩ := Table.find_eq_some.mp there
    obtain ⟨stored', unremoved⟩ := Table.mem_delete.mp kept
    rw [← (named : before.id = seat.id)] at found
    by_cases mine : before.seatMapId = seatMapId
    · have onMap := (laid.onMap stored').mpr mine
      have inLayout : IsKept (plannedLayout db eventId now input) before := by
        by_contra out
        exact unremoved (laid.planned.mem_removed.mpr ⟨before, onMap, rfl, out⟩)
      refine Or.inr (Or.inl ⟨before, stored', mine, inLayout, ?_⟩)
      have now' := laid.saved.kept laid.planned onMap inLayout
      exact Option.some.inj (found.symm.trans now')
    · refine Or.inl ?_
      have now' := laid.saved.stays stored' unremoved fun group member listed => ?_
      · cases found.symm.trans now'
        exact ⟨stored', mine⟩
      · obtain ⟨_, other, onMap, same⟩ := laid.planned.mem_retyped member listed
        have one : other = before :=
          Table.eq_of_key (mem_snapshot.mp onMap).1 stored' same
        exact mine ((laid.onMap stored').mp (one ▸ onMap))
  · refine Or.inr (Or.inr ⟨index, inRange, ?_⟩)
    rw [next_retypeSeats, Table.next_delete]

/-- Every seat of the saved map is at a position of the layout, with its type; it was there before,
or it is new. -/
theorem LaidOut.seat {seat : Seat} (stored : seat ∈ after.seats)
    (mine : seat.seatMapId = seatMapId) :
    ∃ position ∈ plannedLayout db eventId now input, StandsAt position.toSeatPosition seat ∧
      seat.ticketTypeId = position.ticketTypeId ∧
      ((∃ old ∈ db.seats, old.seatMapId = seatMapId ∧ old.key = position.key ∧
          seat = { old with ticketTypeId := position.ticketTypeId }) ∨
        (position.key ∉ (reservedSnapshot db eventId now).seats.map Seat.key ∧
          db.seats.find seat.id = none)) := by
  rcases laid.origin stored with
    ⟨_, other⟩ | ⟨old, stored', _, inLayout, rfl⟩ | ⟨index, inRange, rfl⟩
  · exact absurd mine other
  · obtain ⟨position, laidOut, same⟩ := List.mem_map.mp inLayout
    obtain ⟨place, stands⟩ := laid.before.stands old stored'
    have type := typeIn_layoutAfter laidOut same.symm
    refine ⟨position, laidOut, stands.of_key same.symm, type, Or.inl ?_⟩
    refine ⟨old, stored', mine, same.symm, ?_⟩
    rw [type]
  · have added := laid.mem_added.mp (List.getElem_mem inRange)
    refine ⟨_, added.1, ⟨rfl, rfl, rfl⟩, rfl, Or.inr ⟨added.2, ?_⟩⟩
    refine Table.find_eq_none.mpr fun row stored' named => ?_
    have older : row.id < db.seats.next := Table.key_lt_next stored'
    have same : row.id = db.seats.next + index := named
    omega

/-- Every position of the layout has its seat. -/
theorem LaidOut.filled {position : NewSeatPosition}
    (laidOut : position ∈ plannedLayout db eventId now input) :
    ∃ seat ∈ after.seats, seat.seatMapId = seatMapId ∧ StandsAt position.toSeatPosition seat ∧
      seat.ticketTypeId = position.ticketTypeId := by
  by_cases there : position.key ∈ (reservedSnapshot db eventId now).seats.map Seat.key
  · obtain ⟨old, onMap, same⟩ := List.mem_map.mp there
    have inLayout : IsKept (plannedLayout db eventId now input) old :=
      List.mem_map.mpr ⟨position, laidOut, same.symm⟩
    have stored' := (mem_snapshot.mp onMap).1
    obtain ⟨place, stands⟩ := laid.before.stands old stored'
    obtain ⟨stored, _⟩ := Table.find_eq_some.mp (laid.saved.kept laid.planned onMap inLayout)
    exact ⟨_, stored, (laid.onMap stored').mp onMap, stands.of_key same,
      typeIn_layoutAfter laidOut same⟩
  · obtain ⟨index, inRange, rfl⟩ := List.getElem_of_mem (laid.mem_added.mpr ⟨laidOut, there⟩)
    refine ⟨insertedSeat seatMapId plan.added[index] (db.seats.next + index), ?_, rfl,
      ⟨rfl, rfl, rfl⟩, rfl⟩
    rw [laid.saved.seats]
    refine Table.mem_insertEach.mpr (Or.inr ⟨index, inRange, ?_⟩)
    rw [next_retypeSeats, Table.next_delete]

theorem LaidOut.nodup_added : plan.added.Nodup := by
  rw [laid.planned.added]
  exact nodup_layoutAfter.filter _

/-- No position of the saved map is taken twice. -/
theorem LaidOut.apart {seat other : Seat} (stored : seat ∈ after.seats)
    (mine : seat.seatMapId = seatMapId) (stored' : other ∈ after.seats)
    (mine' : other.seatMapId = seatMapId) (same : seat.key = other.key) : seat = other := by
  have unlike {old : Seat} (there : old ∈ db.seats) (onMap : old.seatMapId = seatMapId)
      {index : Nat} (inRange : index < plan.added.length)
      (named : old.key = plan.added[index].key) : False :=
    (laid.mem_added.mp (List.getElem_mem inRange)).2
      (List.mem_map.mpr ⟨old, (laid.onMap there).mpr onMap, named⟩)
  have addedKey (position : NewSeatPosition) (id : Nat) :
      (insertedSeat seatMapId position id).key = position.key := rfl
  rcases laid.origin stored with ⟨_, no⟩ | ⟨old, there, onMap, _, rfl⟩ | ⟨index, inRange, rfl⟩
  · exact absurd mine no
  · rcases laid.origin stored' with ⟨_, no⟩ | ⟨old', there', onMap', _, rfl⟩ | ⟨index, inRange, rfl⟩
    · exact absurd mine' no
    · have one : old = old' :=
        laid.before.apart old there old' there' (onMap.trans onMap'.symm) same
      rw [one]
    · exact (unlike there onMap inRange same).elim
  · rcases laid.origin stored' with
      ⟨_, no⟩ | ⟨old', there', onMap', _, rfl⟩ | ⟨index', inRange', rfl⟩
    · exact absurd mine' no
    · exact (unlike there' onMap' inRange same.symm).elim
    · rw [addedKey, addedKey] at same
      have one : plan.added[index] = plan.added[index'] :=
        layoutAfter_inj (laid.mem_added.mp (List.getElem_mem inRange)).1
          (laid.mem_added.mp (List.getElem_mem inRange')).1 same
      obtain rfl := laid.nodup_added.getElem_inj_iff.mp one
      rfl

/-- A save leaves every seat of every map at a position of its own. -/
theorem LaidOut.wellPlaced : WellPlaced after where
  mapped := by
    intro seat stored
    have own : (after.seatMaps.find seatMapId).isSome := by
      obtain ⟨seatMap, there, _⟩ := laid.saved.seatMap.there
      exact Option.isSome_iff_exists.mpr ⟨seatMap, there⟩
    rcases laid.origin stored with ⟨old, _⟩ | ⟨old, _, mine, _, rfl⟩ | ⟨index, inRange, rfl⟩
    · obtain ⟨seatMap, found⟩ := Option.isSome_iff_exists.mp (laid.before.mapped seat old)
      obtain ⟨row, there, _⟩ := laid.saved.seatMap.kept _ seatMap found
      exact Option.isSome_iff_exists.mpr ⟨row, there⟩
    · exact mine ▸ own
    · exact own
  stands := by
    intro seat stored
    rcases laid.origin stored with ⟨old, _⟩ | ⟨old, there, _, _, rfl⟩ | ⟨index, inRange, rfl⟩
    · exact laid.before.stands seat old
    · exact laid.before.stands old there
    · exact ⟨_, rfl, rfl, rfl⟩
  apart := by
    intro seat stored other stored' sameMap same
    by_cases mine : seat.seatMapId = seatMapId
    · exact laid.apart stored mine stored' (sameMap.symm.trans mine) same
    · have before {seat : Seat} (stored : seat ∈ after.seats)
          (elsewhere : seat.seatMapId ≠ seatMapId) : seat ∈ db.seats := by
        rcases laid.origin stored with ⟨old, _⟩ | ⟨old, _, onMap, _, rfl⟩ | ⟨index, inRange, rfl⟩
        · exact old
        · exact absurd onMap elsewhere
        · exact absurd rfl elsewhere
      exact laid.before.apart seat (before stored mine) other
        (before stored' fun onMap => mine (sameMap.trans onMap)) sameMap same

/-- The map has as many seats of a type as the layout. -/
theorem LaidOut.count (type : Option Nat) :
    (after.seats.select fun seat => seat.seatMapId = seatMapId ∧ seat.ticketTypeId = type).length =
      ((plannedLayout db eventId now input).filter fun position =>
        position.ticketTypeId = type).length := by
  let seats := after.seats.select fun seat => seat.seatMapId = seatMapId ∧ seat.ticketTypeId = type
  let positions := (plannedLayout db eventId now input).filter fun position =>
    position.ticketTypeId = type
  have keys : (seats.map Seat.key).Perm (positions.map fun position => position.key) := by
    refine (List.perm_ext_iff_of_nodup ?_ ?_).mpr fun key => ?_
    · refine Table.nodup_select.map_on fun seat picked other picked' same => ?_
      obtain ⟨stored, mine, _⟩ := Table.mem_select.mp picked
      obtain ⟨stored', mine', _⟩ := Table.mem_select.mp picked'
      exact laid.apart stored mine stored' mine' same
    · refine (nodup_layoutAfter.filter _).map_on fun position picked other picked' same => ?_
      exact layoutAfter_inj (List.mem_filter.mp picked).1 (List.mem_filter.mp picked').1 same
    · simp only [List.mem_map]
      constructor
      · rintro ⟨seat, picked, rfl⟩
        obtain ⟨stored, mine, typed⟩ := Table.mem_select.mp picked
        obtain ⟨position, laidOut, stands, same, _⟩ := laid.seat stored mine
        exact ⟨position, List.mem_filter.mpr ⟨laidOut, decide_eq_true (same ▸ typed)⟩,
          stands.key.symm⟩
      · rintro ⟨position, picked, rfl⟩
        obtain ⟨laidOut, typed⟩ := List.mem_filter.mp picked
        obtain ⟨seat, stored, mine, stands, same⟩ := laid.filled laidOut
        refine ⟨seat, Table.mem_select.mpr ⟨stored, mine, ?_⟩, stands.key⟩
        exact same.trans (of_decide_eq_true typed)
  have many := keys.length_eq
  rw [List.length_map, List.length_map] at many
  exact many

/-- The types stay; where seats are typed, each has as many as the layout gives it, and never fewer
than are sold. -/
theorem LaidOut.tier {tier : TicketType} (stored : tier ∈ liveTiers after eventId) :
    (∃ old ∈ liveTiers db eventId, old.id = tier.id) ∧
      (allUntyped (plannedLayout db eventId now input) = false →
        tier.sold ≤ tier.total ∧ tier.total = ((plannedLayout db eventId now input).filter
          fun position => position.ticketTypeId = some tier.id).length) := by
  have counted := laid.planned.counted
  unfold seatsByTier at counted
  rcases laid.saved.types with ⟨uncounted, types⟩ | ⟨counts, some, covers, types⟩
  · unfold liveTiers at stored
    rw [types] at stored
    refine ⟨⟨tier, stored, rfl⟩, fun typed => ?_⟩
    rw [counted, if_neg (by simp [typed])] at uncounted
    cases uncounted
  · obtain ⟨there, mine, live⟩ := Table.mem_select.mp stored
    rw [types] at there
    obtain ⟨old, before, written⟩ := Table.mem_update.mp there
    have same : tier.id = old.id ∧ tier.eventId = old.eventId ∧ tier.deletedAt = old.deletedAt ∧
        tier.sold = old.sold := by
      rw [written]
      split <;> exact ⟨rfl, rfl, rfl, rfl⟩
    obtain ⟨sameId, sameEvent, sameEnd, sameSold⟩ := same
    rw [sameEvent] at mine
    rw [sameEnd] at live
    have oldLive : old ∈ liveTiers db eventId := Table.mem_select.mpr ⟨before, mine, live⟩
    have total : tier.total = countedSeats counts old.id := by
      rw [written]
      split
      next => rfl
      next miss =>
        by_contra differs
        exact miss ⟨mine, live, fun same => differs same.symm⟩
    refine ⟨⟨old, oldLive, sameId.symm⟩, fun typed => ?_⟩
    rw [counted, if_neg (by simp [typed]), Option.some.injEq] at some
    rw [total, sameId, sameSold]
    refine ⟨covers old oldLive, ?_⟩
    rw [← some]
    exact countedSeats_mem (fun id => ((plannedLayout db eventId now input).filter fun position =>
      position.ticketTypeId = Option.some id).length) oldLive

theorem LaidOut.tier_stays {tier : TicketType} (stored : tier ∈ liveTiers db eventId) :
    ∃ row ∈ liveTiers after eventId, row.id = tier.id := by
  rcases laid.saved.types with ⟨_, types⟩ | ⟨counts, _, _, types⟩
  · refine ⟨tier, ?_, rfl⟩
    unfold liveTiers
    rwa [types]
  · obtain ⟨there, mine, live⟩ := Table.mem_select.mp stored
    unfold liveTiers
    rw [types]
    refine ⟨_, Table.mem_select.mpr ⟨Table.mem_update.mpr ⟨tier, there, rfl⟩, ?_⟩, ?_⟩
    · split <;> exact ⟨mine, live⟩
    · split <;> rfl

/-- A seat that is booked or held is gone, or has the type it had. -/
theorem LaidOut.occupied {seat row : Seat} (stored : seat ∈ db.seats)
    (occupied : seat.id ∈ occupiedSeatIdsIn db [seat.id] now)
    (there : after.seats.find seat.id = some row) : row.ticketTypeId = seat.ticketTypeId := by
  by_cases removed : seat.id ∈ plan.removedSeatIds
  · cases (laid.saved.gone stored removed).symm.trans there
  · have stays := laid.saved.stays stored removed fun group member listed => by
      obtain ⟨free, other, onMap, same⟩ := laid.planned.mem_retyped member listed
      exact free (occupiedSeatIdsIn_mono (List.mem_map.mpr ⟨other, onMap, same⟩) occupied)
    rw [stays] at there
    cases there
    rfl

/-- A seat of the map stands in the grid, and has the type that is sent for its position. -/
theorem LaidOut.inGrid {seat : Seat} (stored : seat ∈ after.seats)
    (mine : seat.seatMapId = seatMapId) {position : SeatPosition} (stands : StandsAt position seat) :
    position ∈ gridPositions input.rows input.seatsPerRow ∧
      ∀ {type}, sentTypeAt input position = some type → seat.ticketTypeId = type := by
  obtain ⟨place, laidOut, there, typed, _⟩ := laid.seat stored mine
  obtain rfl : position = place.toSeatPosition :=
    SeatPosition.key_inj (stands.key.symm.trans there.key)
  obtain ⟨inside, given⟩ := mem_layoutAfter.mp laidOut
  refine ⟨inside, fun {type} sent => ?_⟩
  rw [typed, given, sent, Option.getD_some]

/-- Where no list is sent, a seat of the map is one that was there, or is new and has no type. -/
theorem LaidOut.carried (unsent : input.seatTicketTypes = none ∧ input.rowTicketTypes = none)
    {seat : Seat} (stored : seat ∈ after.seats) (mine : seat.seatMapId = seatMapId) :
    seat ∈ db.seats ∨ db.seats.find seat.id = none ∧ seat.ticketTypeId = none := by
  obtain ⟨position, laidOut, _, type, from'⟩ := laid.seat stored mine
  have apart (seat : Seat) (there : seat ∈ (reservedSnapshot db eventId now).seats)
      (other : Seat) (there' : other ∈ (reservedSnapshot db eventId now).seats)
      (same : seat.key = other.key) : seat = other := by
    have stored := (mem_snapshot.mp there).1
    have stored' := (mem_snapshot.mp there').1
    exact laid.before.apart seat stored other stored'
      (((laid.onMap stored).mp there).trans ((laid.onMap stored').mp there').symm) same
  have carries := layoutAfter_carried apart unsent laidOut
  rcases from' with ⟨old, before, onMap, same, rfl⟩ | ⟨fresh, new⟩
  · have unchanged := carries.1 old ((laid.onMap before).mpr onMap) same
    refine Or.inl ?_
    rw [unchanged]
    exact before
  · exact Or.inr ⟨new, type.trans (carries.2 fresh)⟩

/-- A save whose lists fit the grid does what it was asked for, on a published event exactly as
its seats all have a type, or none has. -/
theorem LaidOut.asAsked (shaped : assertTypeShape input = .ok ()) {onSale : Bool} :
    AsAsked db now eventId input onSale seatMapId after ↔
      (onSale = true → TypesAllOrNone (plannedLayout db eventId now input)) := by
  constructor
  · intro asked published
    refine (asked.whole published).imp ?_ ?_
    · intro typed position laidOut
      obtain ⟨seat, stored, mine, _, type⟩ := laid.filled laidOut
      exact type ▸ typed seat stored mine
    · intro untyped position laidOut
      obtain ⟨seat, stored, mine, _, type⟩ := laid.filled laidOut
      exact type ▸ untyped seat stored mine
  · intro every
    constructor
    case mapOf => exact laid.first
    case placed =>
      intro seat stored mine
      obtain ⟨position, laidOut, stands, _⟩ := laid.seat stored mine
      exact ⟨position.toSeatPosition, (mem_layoutAfter.mp laidOut).1, stands⟩
    case filled =>
      intro place inside
      obtain ⟨position, laidOut, rfl⟩ := layoutAfter_at inside
      obtain ⟨seat, stored, mine, stands, _⟩ := laid.filled laidOut
      exact ⟨seat, stored, mine, stands⟩
    case once =>
      intro seat stored mine other stored' mine' position stands stands'
      exact laid.apart stored mine stored' mine' (stands.key.trans stands'.key.symm)
    case kept =>
      intro seat stored mine place inside stands
      have onMap := (laid.onMap stored).mpr mine
      obtain ⟨position, laidOut, rfl⟩ := layoutAfter_at inside
      have inLayout : IsKept (plannedLayout db eventId now input) seat :=
        List.mem_map.mpr ⟨position, laidOut, stands.key.symm⟩
      exact ⟨_, laid.saved.kept laid.planned onMap inLayout, mine, stands⟩
    case bySeat =>
      intro seats sent seat stored mine position stands
      obtain ⟨inside, asSent⟩ := laid.inGrid stored mine stands
      obtain ⟨row, type, inRows, inRow, given⟩ := sentTypeAt_bySeat shaped sent inside
      obtain rfl := asSent given
      exact ⟨row, inRows, inRow⟩
    case byRow =>
      intro rows sent seat stored mine position stands
      obtain ⟨inside, asSent⟩ := laid.inGrid stored mine stands
      obtain ⟨type, inRows, given⟩ := sentTypeAt_byRow shaped sent inside
      obtain rfl := asSent given
      exact inRows
    case carried =>
      intro noSeats noRows seat stored mine
      exact laid.carried ⟨noSeats, noRows⟩ stored mine
    case occupied =>
      intro seat stored occupied row there
      exact laid.occupied stored occupied there
    case live =>
      intro seat stored mine typed type
      obtain ⟨position, laidOut, _, same, _⟩ := laid.seat stored mine
      obtain ⟨tier, there, named⟩ := laid.live position laidOut typed (same ▸ type)
      obtain ⟨row, stays, kept⟩ := laid.tier_stays there
      exact ⟨row, stays, kept.trans named⟩
    case whole =>
      intro published
      refine (every published).imp ?_ ?_
      · intro typed seat stored mine
        obtain ⟨position, laidOut, _, same, _⟩ := laid.seat stored mine
        exact same ▸ typed position laidOut
      · intro untyped seat stored mine
        obtain ⟨position, laidOut, _, same, _⟩ := laid.seat stored mine
        exact same ▸ untyped position laidOut
    case counted =>
      rintro ⟨seat, stored, mine, type⟩ tier there
      obtain ⟨position, laidOut, _, same, _⟩ := laid.seat stored mine
      have typed : allUntyped (plannedLayout db eventId now input) = false :=
        List.all_eq_false.mpr ⟨position, laidOut, by simpa [← same] using type⟩
      rw [laid.count]
      exact (laid.tier there).2 typed

end LaidOut

end Saved

/-! ## One step -/

section Steps

variable {texts : EventTexts} {desk : SeatingDesk}

/-- What a request knows: its lists fit the grid, and what it updates the event with. -/
def KnowsSave : SeatingPhase → Prop
  | .apply _ input => assertTypeShape input = .ok ()
  | phase => KnowsUpdate phase

theorem KnowsSave.update {phase : SeatingPhase} (knows : KnowsSave phase) : KnowsUpdate phase := by
  cases phase with
  | apply => trivial
  | _ => exact knows

theorem KnowsUpdate.save {phase : SeatingPhase} (knows : KnowsUpdate phase)
    (other : ∀ event input, phase ≠ .apply event input) : KnowsSave phase := by
  cases phase with
  | apply event input => exact absurd rfl (other event input)
  | _ => exact knows

theorem act_knowsSave (answers : EventAnswers) {phase : SeatingPhase} (knows : KnowsSave phase) :
    KnowsSave (actOnSeating texts desk answers phase).2 := by
  have updates : KnowsUpdate (actOnSeating texts desk answers phase).2 :=
    act_knowsUpdate answers knows.update
  have wrote {written : Except TxError Db} {event : EventRecord} {next : EventPhase}
      (loaded : EventRecord) (input : ConfigureReservedInput) :
      (seatsWritten desk event written next).2 ≠ .apply loaded input := by
    cases written with
    | ok => exact fun same => by cases same
    | error failure => cases failure <;> exact fun same => by cases same
  cases phase with
  | first request =>
    cases request with
    | configureReserved eventId input =>
      simp only [actOnSeating, beginSeating, withSeatedEvent]
      split
      · trivial
      · split
        · trivial
        · split
          · trivial
          next shaped => exact shaped
    | configureGeneral eventId headcount =>
      simp only [actOnSeating, beginSeating, withSeatedEvent]
      split
      · trivial
      · split <;> trivial
  | apply => exact updates.save wrote
  | existing event headcount =>
    refine updates.save fun loaded input => ?_
    simp only [actOnSeating, decideGeneral]
    split
    · exact fun same => by cases same
    · split <;> exact fun same => by cases same
  | clear => exact updates.save wrote
  | updating event wrote inner =>
    refine updates.save fun loaded input => ?_
    simp only [actOnSeating, afterUpdate]
    split <;> exact fun same => by cases same
  | done => trivial

theorem eventStays_iff {event : EventRecord} {wrote : Bool} {phase : EventPhase}
    (updates : IsSeatingUpdate phase) : EventStays desk (.updating event wrote phase) ↔
      (HasSavedMap (.updating event wrote phase) → EventKept desk phase) := by
  rcases updates.shape with ⟨_, _, rfl, _⟩ | ⟨_, _, rfl, _⟩ | ⟨_, _, rfl⟩
  · exact and_imp.symm
  · exact iff_of_true trivial fun _ => trivial
  · exact and_imp.symm

theorem applied_savesAsAsked (placed : WellPlaced desk.workspace.db) (answers : EventAnswers)
    {event : EventRecord} {input : ConfigureReservedInput}
    (shaped : assertTypeShape input = .ok ()) :
    SavesAsAsked texts desk answers (.apply event input) ↔
      WholeOnSale desk (.apply event input) := by
  simp only [WholeOnSale, commits]
  cases saved : savedReserved desk event input with
  | error failure =>
    have acted : actOnSeating texts desk answers (.apply event input) =
        (desk, failedSave failure) := by
      simp only [actOnSeating, saved, seatsWritten]
    have refused : IsRefusal (failedSave failure) := by cases failure <;> trivial
    refine iff_of_true ⟨fun _ _ _ => Or.inl ?_, fun _ => ⟨?_, id⟩⟩
      fun _ _ written => by cases written
    · rw [acted]
      exact refused
    · rw [acted]
  | ok after =>
    obtain ⟨seatMapId, applied⟩ := map_snd_ok.mp saved
    obtain ⟨plan, laid⟩ := applyReserved_laidOut placed applied
    have acted : actOnSeating texts desk answers (.apply event input) =
        ({ desk with workspace := { desk.workspace with db := after } },
          .updating event true (toReserved event)) := by
      simp only [actOnSeating, saved, seatsWritten]
    constructor
    · intro saves draft onSale _
      rcases saves.saves event input rfl with refused | ⟨otherId, asked⟩
      · rw [acted] at refused
        exact refused.elim
      · rw [acted] at asked
        obtain ⟨_, found, same⟩ := asked.mapOf
        obtain ⟨_, found', same'⟩ := laid.first
        cases found.symm.trans found'
        exact (laid.asAsked shaped).mp (same.symm.trans same' ▸ asked) onSale
    · intro whole
      refine ⟨fun _ _ same => ?_, fun refusal => ?_⟩
      · cases same
        refine Or.inr ⟨seatMapId, ?_⟩
        rw [acted]
        refine (laid.asAsked shaped).mpr fun onSale => ?_
        cases published : isPublished event with
        | false => exact whole published onSale rfl
        | true => exact assertEverySeatTyped_ok.mp (published ▸ laid.every)
      · rw [acted] at refusal
        exact refusal.elim

theorem act_savesAsAsked (placed : WellPlaced desk.workspace.db) (answers : EventAnswers)
    {phase : SeatingPhase} (knows : KnowsSave phase) :
    SavesAsAsked texts desk answers phase ↔ EventUntouched desk answers phase := by
  unfold EventUntouched
  cases phase with
  | first | existing | done =>
    refine iff_of_true ⟨(fun _ _ same => by cases same), fun _ => ⟨rfl, id⟩⟩ ⟨trivial, trivial⟩
  | apply event input =>
    rw [and_iff_left (by trivial : EventStays desk (.apply event input))]
    exact applied_savesAsAsked placed answers knows
  | clear event headcount =>
    refine iff_of_true ⟨(fun _ _ same => by cases same), ?_⟩ ⟨trivial, trivial⟩
    simp only [actOnSeating]
    cases clearSeating desk.workspace.db event.id with
    | ok => exact fun refusal => refusal.elim
    | error => exact fun _ => ⟨rfl, id⟩
  | updating event wrote inner =>
    rw [and_iff_right (by trivial : WholeOnSale desk (.updating event wrote inner)),
      eventStays_iff knows]
    obtain ⟨refused, same⟩ : (IsRefusal _ ↔ _) ∧ (IsRefusal _ → _ = desk) :=
      updating_refused answers knows
    constructor
    · intro saves written
      by_contra lost
      exact (saves.refusals (refused.mpr lost)).2 written
    · intro stays
      refine ⟨(fun _ _ same => by cases same), fun refusal => ⟨same refusal, fun written => ?_⟩⟩
      exact refused.mp refusal (stays written)

theorem WellPlaced.cleared {after : Db} {eventId : Nat} (placed : WellPlaced desk.workspace.db)
    (cleared : clearSeating desk.workspace.db eventId = .ok after) : WellPlaced after := by
  obtain ⟨_, rfl⟩ := clearSeating_ok cleared
  refine ⟨fun seat stored => ?_, fun seat stored => ?_, fun seat stored other stored' => ?_⟩
  · obtain ⟨there, left⟩ := Table.mem_delete.mp stored
    obtain ⟨seatMap, found⟩ := Option.isSome_iff_exists.mp (placed.mapped seat there)
    obtain ⟨mapped, same⟩ := Table.find_eq_some.mp found
    refine Option.isSome_iff_exists.mpr ⟨seatMap, ?_⟩
    refine Table.find_eq_some.mpr ⟨Table.mem_delete.mpr ⟨mapped, fun isMap => left ?_⟩, same⟩
    exact List.mem_map_of_mem (Table.mem_select.mpr ⟨there, seatMap, found, isMap⟩)
  · exact placed.stands seat (Table.mem_delete.mp stored).1
  · exact placed.apart seat (Table.mem_delete.mp stored).1 other (Table.mem_delete.mp stored').1

theorem WellPlaced.venue {db after : Db} (placed : WellPlaced db) (same : SameVenue db after) :
    WellPlaced after := by
  refine ⟨fun seat stored => ?_, fun seat stored => ?_, fun seat stored other stored' => ?_⟩
  · rw [same.seatMaps]
    exact placed.mapped seat (same.seats ▸ stored)
  · exact placed.stands seat (same.seats ▸ stored)
  · exact placed.apart seat (same.seats ▸ stored) other (same.seats ▸ stored')

theorem act_wellPlaced (placed : WellPlaced desk.workspace.db) (answers : EventAnswers)
    (phase : SeatingPhase) :
    WellPlaced (actOnSeating texts desk answers phase).1.workspace.db := by
  cases phase with
  | apply event input =>
    simp only [actOnSeating]
    cases saved : savedReserved desk event input with
    | ok after =>
      obtain ⟨seatMapId, applied⟩ := map_snd_ok.mp saved
      obtain ⟨plan, laid⟩ := applyReserved_laidOut placed applied
      exact laid.wellPlaced
    | error => exact placed
  | clear event headcount =>
    simp only [actOnSeating]
    cases cleared : clearSeating desk.workspace.db event.id with
    | ok after => exact placed.cleared cleared
    | error => exact placed
  | _ => exact placed

end Steps

/-! ## Runs -/

section Runs

variable {texts : EventTexts}

/-- Maps stay well placed and requests know what they save, whatever happens. -/
theorem layouts_keep : (seatingRequests texts).Keeps (fun desk => WellPlaced desk.workspace.db)
    (fun _ => KnowsSave) (fun _ _ _ => True) fun _ _ => True where
  opened := fun _ _ _ => trivial
  crashed := fun _ _ => trivial
  act := fun _ answers phase placed knows _ =>
    ⟨act_wellPlaced placed answers phase, act_knowsSave answers knows⟩
  undisturbed := fun _ _ _ _ _ _ _ other => other
  outside := fun desk event placed _ => by
    refine ⟨?_, fun _ knows => knows⟩
    cases event with
    | booking op =>
      refine step_preserves (fun after committed => ?_) placed
      exact placed.venue (committed_venue (commit_cases committed))
    | eventStep => exact placed

abbrev LayoutsSound (pool : SeatingPool) : Prop :=
  pool.Sound (fun desk => WellPlaced desk.workspace.db) fun _ => KnowsSave

/-- Each step that is taken in the turn saves what was asked, or refuses and writes nothing. -/
def SavedAsAsked (texts : EventTexts) : SeatingPool → SeatingTurn → Prop :=
  Handler.Guarded (SavesAsAsked texts) fun _ _ => True

def EventsUntouched : SeatingPool → SeatingTurn → Prop :=
  Handler.Guarded EventUntouched fun _ _ => True

instance (pool : SeatingPool) (turn : SeatingTurn) : Decidable (EventsUntouched pool turn) :=
  inferInstanceAs (Decidable (Handler.Guarded _ _ pool turn))

theorem layoutsSound_of_rest {start : SeatingPool} (rest : start.jobs.rows = [])
    (placed : WellPlaced start.shared.workspace.db) : LayoutsSound start :=
  ⟨placed, fun job stored => absurd stored (Table.not_mem_of_empty rest job)⟩

theorem serve_layoutsSound (pool : SeatingPool) (turn : SeatingTurn) (sound : LayoutsSound pool) :
    LayoutsSound ((seatingRequests texts).serve pool turn) :=
  layouts_keep.serve pool turn sound (Handler.guarded_true pool turn)

theorem turn_savesAsAsked (texts : EventTexts) (pool : SeatingPool) (turn : SeatingTurn)
    (sound : LayoutsSound pool) : SavedAsAsked texts pool turn ↔ EventsUntouched pool turn :=
  Handler.guarded_congr (fun job stored answers =>
    act_savesAsAsked sound.shared answers (sound.jobs job stored)) turn

/-- Every save does what it was asked for, and every refusal writes nothing, exactly in the runs
where no event is published while its save gives types to some seats only, and none is deleted or
changed between its map and its own update. -/
theorem savedAsAsked_iff {start : SeatingPool} (rest : start.jobs.rows = [])
    (placed : WellPlaced start.shared.workspace.db) (turns : List SeatingTurn) :
    Meets (seatingRequests texts).serve (SavedAsAsked texts) start turns ↔
      Meets (seatingRequests texts).serve EventsUntouched start turns :=
  meets_iff_of_invariant serve_layoutsSound (turn_savesAsAsked texts)
    (layoutsSound_of_rest rest placed) turns

end Runs

/-! ## A hall that gets a third row -/

theorem twoRows_wellPlaced : WellPlaced twoRows.shared.workspace.db where
  mapped := by decide +kernel
  stands := by
    intro seat stored
    rcases List.mem_pair.mp stored with rfl | rfl
    · exact ⟨⟨1, 1⟩, rfl, by decide +kernel, by decide +kernel⟩
    · exact ⟨⟨2, 1⟩, rfl, by decide +kernel, by decide +kernel⟩
  apart := by decide +kernel

/-- Three rows of one seat, all of them stalls. -/
def threeRows : ConfigureReservedInput where
  name := "Hall"
  rows := 3
  seatsPerRow := 1
  rowTicketTypes := some [some 1, some 1, some 1]
  seatTicketTypes := none

/-- A third row is added, and then the first alone is kept as it is. -/
def enlargedThenCut : List SeatingTurn :=
  [.receive (.configureReserved 1 threeRows)] ++ List.replicate 5 (.advance 0 oneType) ++
    [.receive (.configureReserved 1 oneRow)] ++ List.replicate 5 (.advance 1 oneType)

theorem savedAsAsked_enlargedThenCut :
    Meets (seatingRequests plainTexts).serve (SavedAsAsked plainTexts) twoRows enlargedThenCut :=
  (savedAsAsked_iff rfl twoRows_wellPlaced _).mpr (by decide +kernel)

/-- The third row is written, and somebody else's edit of the event comes before its own update. -/
def editedMeanwhile : List SeatingTurn :=
  [.receive (.configureReserved 1 threeRows)] ++ List.replicate 4 (.advance 0 oneType) ++
    [.outside (.eventStep oneType
      (.update { onlineTalk with id := 1 } (seatingUpdate .reserved none)))]

theorem editedMeanwhile_refuses : ¬ ∀ (texts : EventTexts) (start : SeatingPool)
    (turns : List SeatingTurn), start.jobs.rows = [] → WellPlaced start.shared.workspace.db →
      Meets (seatingRequests texts).serve (SavedAsAsked texts) start turns := by
  intro saves
  have met := saves plainTexts twoRows (editedMeanwhile ++ [.advance 0 oneType]) rfl
    twoRows_wellPlaced
  have sound : LayoutsSound (run (seatingRequests plainTexts).serve twoRows editedMeanwhile) :=
    run_invariant_always serve_layoutsSound editedMeanwhile
      (layoutsSound_of_rest rfl twoRows_wellPlaced)
  have untouched := (turn_savesAsAsked plainTexts _ _ sound).mp (meets_append.mp met).2.1
  exact absurd untouched (by decide +kernel)

end EventaApi.Guarantees
