import EventaApi.Source.EventSeating

/-!
# What a save of a seat map writes

The plan read off from the layout it was made of, and the tables after it was carried out: a seat
at one of the grid's positions stays with the layout's type, any other seat of the map is gone,
and whatever goes takes its holds along.
-/
namespace EventaApi.Source
open Library

/-! ## Positions apart -/

section Positions

theorem toDigits_noBar (number : Nat) : '|' ∉ Nat.toDigits 10 number := by
  intro bar
  have digit := Nat.isDigit_of_mem_toDigits (by decide) (by decide) bar
  exact absurd digit (by decide)

theorem toDigits_inj {first second : Nat}
    (same : Nat.toDigits 10 first = Nat.toDigits 10 second) : first = second := by
  rw [← Nat.ofDigitChars_ten_toDigits (n := first), same, Nat.ofDigitChars_ten_toDigits]

theorem toList_key (position : SeatPosition) : position.key.toList =
    '|' :: (Nat.toDigits 10 position.row ++ '|' :: Nat.toDigits 10 position.number) := by
  simp [SeatPosition.key, positionKey, SeatPosition.rowLabel, SeatPosition.seatNumber]

/-- Two positions of a grid are told apart by their keys. -/
theorem SeatPosition.key_inj {first second : SeatPosition} (same : first.key = second.key) :
    first = second := by
  have chars := congrArg String.toList same
  rw [toList_key, toList_key, List.cons.injEq] at chars
  obtain ⟨rows, _, numbers⟩ := (List.append_cons_inj_of_notMem (toDigits_noBar first.row)
    (toDigits_noBar first.number)).mp chars.2
  cases first
  cases second
  simp only [SeatPosition.mk.injEq]
  exact ⟨toDigits_inj rows, toDigits_inj numbers⟩

end Positions

/-! ## What the transactions write -/

section Written

variable {db after : Db}

/-- What becomes of a seat depends on what it is. -/
theorem find_retypeSeats_congr {seats other : Table Seat} {groups : List SeatRetype} {id : Nat}
    (same : seats.find id = other.find id) :
    (retypeSeats seats groups).find id = (retypeSeats other groups).find id := by
  unfold retypeSeats
  induction groups generalizing seats other with
  | nil => exact same
  | cons group rest ih =>
    rw [List.foldl_cons, List.foldl_cons]
    exact ih (by rw [Table.find_update, Table.find_update, same])

/-- Retyping leaves a seat no group lists. -/
theorem find_retypeSeats {seats : Table Seat} {groups : List SeatRetype} {id : Nat}
    (unlisted : ∀ group ∈ groups, id ∉ group.seatIds) :
    (retypeSeats seats groups).find id = seats.find id := by
  unfold retypeSeats
  induction groups generalizing seats with
  | nil => rfl
  | cons group rest ih =>
    rw [List.foldl_cons, ih fun other later => unlisted other (List.mem_cons_of_mem _ later)]
    refine Table.find_update_of_miss fun seat _ named => ?_
    change seat.id = id at named
    rw [named]
    exact unlisted group List.mem_cons_self

theorem isSome_find_retypeSeats {seats : Table Seat} {groups : List SeatRetype} {id : Nat} :
    ((retypeSeats seats groups).find id).isSome = (seats.find id).isSome := by
  unfold retypeSeats
  induction groups generalizing seats with
  | nil => rfl
  | cons group rest ih => rw [List.foldl_cons, ih, Table.isSome_find_update]

@[simp] theorem next_retypeSeats {seats : Table Seat} {groups : List SeatRetype} :
    (retypeSeats seats groups).next = seats.next := by
  unfold retypeSeats
  induction groups generalizing seats with
  | nil => rfl
  | cons group rest ih =>
    rw [List.foldl_cons, ih, Table.next_update]

/-- A seat that no group lists yet moves to its type, and the others as before. -/
theorem find_addToGroup {seats : Table Seat} {ticketTypeId : Option Nat} {seatId id : Nat}
    {groups : List SeatRetype} (fresh : ∀ group ∈ groups, seatId ∉ group.seatIds) :
    (retypeSeats seats (addToGroup ticketTypeId seatId groups)).find id =
      if id = seatId then (seats.find id).map fun seat => { seat with ticketTypeId }
      else (retypeSeats seats groups).find id := by
  induction groups generalizing seats with
  | nil =>
    unfold addToGroup retypeSeats
    rw [List.foldl_cons, List.foldl_nil, List.foldl_nil, Table.find_update]
    cases found : seats.find id with
    | none => simp
    | some seat =>
      have named : seat.id = id := (Table.find_eq_some.mp found).2
      by_cases mine : id = seatId
      · simp [named, mine]
      · simp [named, mine]
  | cons group rest ih =>
    have later : ∀ group ∈ rest, seatId ∉ group.seatIds := fun other there =>
      fresh other (List.mem_cons_of_mem _ there)
    have unlisted : seatId ∉ group.seatIds := fresh group List.mem_cons_self
    have cons (head : SeatRetype) (tail : List SeatRetype) :
        retypeSeats seats (head :: tail) =
          retypeSeats (seats.update (fun seat => seat.id ∈ head.seatIds) (retypedSeat head)) tail :=
      rfl
    unfold addToGroup
    by_cases own : group.ticketTypeId = ticketTypeId
    · rw [if_pos own, cons, cons]
      by_cases mine : id = seatId
      · subst mine
        rw [find_retypeSeats later, if_pos rfl, Table.find_update]
        cases found : seats.find id with
        | none => rfl
        | some seat =>
          have named : seat.id = id := (Table.find_eq_some.mp found).2
          simp [named, own]
      · rw [if_neg mine]
        refine find_retypeSeats_congr ?_
        rw [Table.find_update, Table.find_update]
        cases found : seats.find id with
        | none => rfl
        | some seat =>
          have named : seat.id = id := (Table.find_eq_some.mp found).2
          simp [named, mine]
    · rw [if_neg own, cons, cons, ih later]
      by_cases mine : id = seatId
      · subst mine
        rw [if_pos rfl, if_pos rfl, Table.find_update]
        cases found : seats.find id with
        | none => rfl
        | some seat =>
          have named : seat.id = id := (Table.find_eq_some.mp found).2
          simp [named, unlisted]
      · rw [if_neg mine, if_neg mine]

theorem mem_addToGroup {ticketTypeId : Option Nat} {seatId id : Nat} {groups : List SeatRetype}
    {group : SeatRetype} (member : group ∈ addToGroup ticketTypeId seatId groups)
    (listed : id ∈ group.seatIds) :
    id = seatId ∨ ∃ old ∈ groups, id ∈ old.seatIds := by
  induction groups with
  | nil =>
    cases List.mem_singleton.mp member
    exact Or.inl (List.mem_singleton.mp listed)
  | cons head rest ih =>
    unfold addToGroup at member
    split at member
    · rcases List.mem_cons.mp member with rfl | later
      · rcases List.mem_append.mp listed with old | added
        · exact Or.inr ⟨head, List.mem_cons_self, old⟩
        · exact Or.inl (List.mem_singleton.mp added)
      · exact Or.inr ⟨group, List.mem_cons_of_mem _ later, listed⟩
    · rcases List.mem_cons.mp member with rfl | later
      · exact Or.inr ⟨group, List.mem_cons_self, listed⟩
      · rcases ih later with added | ⟨old, there, same⟩
        · exact Or.inl added
        · exact Or.inr ⟨old, List.mem_cons_of_mem _ there, same⟩

theorem groupByType_concat (seats : List Seat) (seat : Seat) (typeOf : Seat → Option Nat) :
    groupByType (seats ++ [seat]) typeOf =
      addToGroup (typeOf seat) seat.id (groupByType seats typeOf) := by
  unfold groupByType
  rw [List.foldl_append]
  rfl

/-- The groups list the seats that were grouped. -/
theorem mem_groupByType {seats : List Seat} {typeOf : Seat → Option Nat} {group : SeatRetype}
    {id : Nat} (member : group ∈ groupByType seats typeOf) (listed : id ∈ group.seatIds) :
    ∃ seat ∈ seats, seat.id = id := by
  induction seats using List.reverseRecOn generalizing group with
  | nil => exact absurd member List.not_mem_nil
  | append_singleton seats seat ih =>
    rw [groupByType_concat] at member
    rcases mem_addToGroup member listed with rfl | ⟨old, there, inOld⟩
    · exact ⟨seat, List.mem_append_right _ (List.mem_singleton_self _), rfl⟩
    · obtain ⟨other, grouped, same⟩ := ih there inOld
      exact ⟨other, List.mem_append_left _ grouped, same⟩

/-- Each grouped seat moves to its own type. -/
theorem find_groupByType {table : Table Seat} {seats : List Seat} {typeOf : Seat → Option Nat}
    (apart : (seats.map Seat.id).Nodup) {seat : Seat} (grouped : seat ∈ seats) :
    (retypeSeats table (groupByType seats typeOf)).find seat.id =
      (table.find seat.id).map fun row => { row with ticketTypeId := typeOf seat } := by
  induction seats using List.reverseRecOn with
  | nil => exact absurd grouped List.not_mem_nil
  | append_singleton seats last ih =>
    rw [List.map_append, List.nodup_append] at apart
    obtain ⟨distinct, _, others⟩ := apart
    have fresh : ∀ group ∈ groupByType seats typeOf, last.id ∉ group.seatIds := by
      intro group member listed
      obtain ⟨other, there, same⟩ := mem_groupByType member listed
      exact others other.id (List.mem_map.mpr ⟨other, there, rfl⟩) last.id
        (List.mem_singleton_self _) same
    rw [groupByType_concat, find_addToGroup fresh]
    rcases List.mem_append.mp grouped with old | new
    · have different : seat.id ≠ last.id :=
        others seat.id (List.mem_map.mpr ⟨seat, old, rfl⟩) last.id (List.mem_singleton_self _)
      rw [if_neg different]
      exact ih distinct old
    · cases List.mem_singleton.mp new
      rw [if_pos rfl]

theorem domainError_ok {α : Type} {result : Except DomainException α} {value : α} :
    domainError result = .ok value ↔ result = .ok value := by
  cases result <;> simp [domainError]

theorem deleteSeats_ok {seatIds : List Nat} :
    deleteSeats db seatIds = .ok after ↔
      (∀ assignment ∈ db.seatAssignments, assignment.seatId ∉ seatIds) ∧
        after = { db with
          seats := db.seats.delete fun seat => seat.id ∈ seatIds
          seatHolds := db.seatHolds.delete fun hold =>
            ∃ seatId ∈ hold.seatId, seatId ∈ seatIds } := by
  unfold deleteSeats
  split
  · next bound =>
    obtain ⟨assignment, stored, removed⟩ := bound
    refine ⟨fun failed => (by cases failed), fun ⟨free, _⟩ => ?_⟩
    exact absurd removed (free assignment stored)
  · next free =>
    constructor
    · intro deleted
      cases deleted
      exact ⟨fun assignment stored removed => free ⟨assignment, stored, removed⟩, rfl⟩
    · rintro ⟨_, rfl⟩
      rfl

/-- What saving the map makes of the seat maps: the event's is there, and every other stays. -/
structure SavedMap (db : Db) (eventId seatMapId : Nat) (seatMaps : Table SeatMap) : Prop where
  same : ∀ seatMap ∈ findMap db eventId, seatMap.id = seatMapId
  there : ∃ seatMap ∈ seatMaps.find seatMapId, IsMapOf eventId seatMap
  kept : ∀ key, ∀ seatMap ∈ db.seatMaps.find key, ∃ row ∈ seatMaps.find key,
    row.eventId = seatMap.eventId ∧ row.deletedAt = seatMap.deletedAt

theorem saveMap_ok {eventId seatMapId : Nat} {input : ConfigureReservedInput} {eventExists : Bool}
    (saved : saveMap db eventId input eventExists = .ok (seatMapId, after)) :
    ∃ seatMaps, SavedMap db eventId seatMapId seatMaps ∧ after = { db with seatMaps } := by
  unfold saveMap at saved
  split at saved
  · next seatMap found =>
    cases saved
    obtain ⟨stored, live⟩ := Table.mem_select.mp (List.mem_of_mem_head? found)
    have kept (key : Nat) (row : SeatMap) (at' : db.seatMaps.find key = some row) :
        ∃ after ∈ (db.seatMaps.update (fun other => other.id = seatMap.id)
          (laidOutMap input)).find key,
          after.eventId = row.eventId ∧ after.deletedAt = row.deletedAt := by
      rw [Table.find_update, at']
      refine ⟨_, rfl, ?_⟩
      dsimp only
      split <;> exact ⟨rfl, rfl⟩
    refine ⟨_, ⟨fun other there => ?_, ?_, kept⟩, rfl⟩
    · cases found.symm.trans there
      rfl
    · obtain ⟨row, there, event, deleted⟩ := kept seatMap.id seatMap (Table.find_key stored)
      exact ⟨row, there, event.trans live.1, deleted.trans live.2⟩
  · next missing =>
    split at saved
    · cases saved
    · split at saved
      · cases saved
      · cases saved
        refine ⟨_, ⟨fun other there => ?_, ?_, fun key row at' => ?_⟩, rfl⟩
        · cases missing.symm.trans there
        · refine ⟨newMap eventId input db.seatMaps.next, ?_, rfl, rfl⟩
          rw [Table.find_insert, if_pos rfl]
          rfl
        · exact ⟨row, Table.find_insert_of_found at', rfl, rfl⟩

/-- What a plan that was not refused holds. -/
structure Planned (snapshot : ReservedSnapshot) (input : ConfigureReservedInput)
    (plan : ReservedPlan) : Prop where
  added : plan.added = (layoutAfter snapshot.seats input).filter
    fun position => position.key ∉ snapshot.seats.map Seat.key
  removed : plan.removedSeatIds = (snapshot.seats.filter
    fun seat => ¬ IsKept (layoutAfter snapshot.seats input) seat).map Seat.id
  retyped : plan.retyped = groupByType (movingSeats
    (snapshot.seats.filter (IsKept (layoutAfter snapshot.seats input)))
    (layoutAfter snapshot.seats input)) (typeIn (layoutAfter snapshot.seats input))
  unlocked : ∀ seat ∈ movingSeats
    (snapshot.seats.filter (IsKept (layoutAfter snapshot.seats input)))
    (layoutAfter snapshot.seats input), seat.id ∉ snapshot.occupiedSeatIds
  counted : plan.seatsByTier = seatsByTier (layoutAfter snapshot.seats input) snapshot.tiers

theorem planReserved_ok {snapshot : ReservedSnapshot} {input : ConfigureReservedInput}
    {published : Bool} {plan : ReservedPlan}
    (planned : planReserved snapshot input published = .ok plan) :
    Planned snapshot input plan := by
  unfold planReserved at planned
  obtain ⟨_, _, planned⟩ := bind_ok planned
  obtain ⟨_, _, planned⟩ := bind_ok planned
  obtain ⟨_, _, planned⟩ := bind_ok planned
  obtain ⟨retyped, moved, planned⟩ := bind_ok planned
  cases planned
  unfold retypedSeats at moved
  split at moved
  · cases moved
  · next free =>
    cases moved
    refine ⟨rfl, rfl, rfl, fun seat moving => ?_, rfl⟩
    simpa using List.find?_eq_none.mp free seat moving

section Planning

variable {snapshot : ReservedSnapshot} {input : ConfigureReservedInput} {plan : ReservedPlan}

theorem Planned.mem_removed (planned : Planned snapshot input plan) {id : Nat} :
    id ∈ plan.removedSeatIds ↔
      ∃ seat ∈ snapshot.seats, seat.id = id ∧
        ¬ IsKept (layoutAfter snapshot.seats input) seat := by
  rw [planned.removed]
  simp only [List.mem_map, List.mem_filter, decide_eq_true_eq]
  constructor
  · rintro ⟨seat, ⟨stored, dropped⟩, same⟩
    exact ⟨seat, stored, same, dropped⟩
  · rintro ⟨seat, stored, same, dropped⟩
    exact ⟨seat, ⟨stored, dropped⟩, same⟩

/-- The plan moves no seat that is occupied, and only seats it was planned on. -/
theorem Planned.mem_retyped (planned : Planned snapshot input plan) {group : SeatRetype} {id : Nat}
    (member : group ∈ plan.retyped) (listed : id ∈ group.seatIds) :
    id ∉ snapshot.occupiedSeatIds ∧ ∃ seat ∈ snapshot.seats, seat.id = id := by
  rw [planned.retyped] at member
  obtain ⟨seat, moving, same⟩ := mem_groupByType member listed
  subst same
  have kept := (List.mem_filter.mp moving).1
  exact ⟨planned.unlocked seat moving, seat, (List.mem_filter.mp kept).1, rfl⟩

end Planning

/-- What a plan that was carried out has written. -/
structure SavedPlan (db : Db) (eventId : Nat) (now : Instant) (plan : ReservedPlan)
    (seatMapId : Nat) (after : Db) : Prop where
  unassigned : ∀ assignment ∈ db.seatAssignments, assignment.seatId ∉ plan.removedSeatIds
  seatMap : SavedMap db eventId seatMapId after.seatMaps
  seats : after.seats = (retypeSeats
    (db.seats.delete fun seat => seat.id ∈ plan.removedSeatIds) plan.retyped).insertEach
      plan.added (insertedSeat seatMapId)
  types : (plan.seatsByTier = none ∧ after.ticketTypes = db.ticketTypes) ∨
    ∃ counts, plan.seatsByTier = some counts ∧
      (∀ tier ∈ liveTiers db eventId, tier.sold ≤ countedSeats counts tier.id) ∧
      after.ticketTypes = db.ticketTypes.update
        (fun tier => tier.eventId = eventId ∧ tier.deletedAt = none ∧
          countedSeats counts tier.id ≠ tier.total) (reseatedTier (countedSeats counts) now)
  orders : after.orders = db.orders
  orderItems : after.orderItems = db.orderItems
  tickets : after.tickets = db.tickets
  seatAssignments : after.seatAssignments = db.seatAssignments

theorem applyReserved_ok {eventId seatMapId : Nat} {input : ConfigureReservedInput}
    {published eventExists : Bool} {now : Instant}
    (applied : applyReserved db eventId input published eventExists now =
      .ok (seatMapId, after)) :
    ∃ plan, planReserved (reservedSnapshot db eventId now) input published = .ok plan ∧
      SavedPlan db eventId now plan seatMapId after := by
  unfold applyReserved at applied
  obtain ⟨plan, planned, applied⟩ := bind_ok applied
  obtain ⟨⟨mapId, mapped⟩, saved, applied⟩ := bind_ok applied
  obtain ⟨seated, wrote, applied⟩ := bind_ok applied
  obtain ⟨seatMaps, seatMap, rfl⟩ := saveMap_ok saved
  unfold writeSeats at wrote
  obtain ⟨kept, deleted, wrote⟩ := bind_ok wrote
  obtain ⟨unassigned, rfl⟩ := deleteSeats_ok.mp deleted
  cases wrote
  refine ⟨plan, domainError_ok.mp planned, ?_⟩
  dsimp only at applied
  split at applied
  · next counts counted =>
    obtain ⟨quantified, set, applied⟩ := bind_ok applied
    cases applied
    obtain ⟨covers, rfl⟩ := setSeatQuantitiesIn_ok (domainError_ok.mp set)
    exact ⟨unassigned, seatMap, rfl, Or.inr ⟨counts, counted, covers, rfl⟩, rfl, rfl, rfl, rfl⟩
  · next uncounted =>
    cases applied
    exact ⟨unassigned, seatMap, rfl, Or.inl ⟨uncounted, rfl⟩, rfl, rfl, rfl, rfl⟩

section Saved

variable {eventId seatMapId : Nat} {now : Instant} {plan : ReservedPlan}

/-- A seat the plan removes is gone. -/
theorem SavedPlan.gone (saved : SavedPlan db eventId now plan seatMapId after) {seat : Seat}
    (stored : seat ∈ db.seats) (removed : seat.id ∈ plan.removedSeatIds) :
    after.seats.find seat.id = none := by
  rw [saved.seats]
  refine Table.find_eq_none.mpr fun row member same => ?_
  rcases Table.mem_insertEach.mp member with old | ⟨index, _, rfl⟩
  · have left := Table.isSome_find_of_mem old
    rw [same, isSome_find_retypeSeats] at left
    obtain ⟨kept, found⟩ := Option.isSome_iff_exists.mp left
    obtain ⟨there, named⟩ := Table.find_eq_some.mp found
    refine (Table.mem_delete.mp there).2 ?_
    rw [show kept.id = seat.id from named]
    exact removed
  · have older : seat.id < db.seats.next := Table.key_lt_next stored
    rw [next_retypeSeats, Table.next_delete] at same
    have newer : db.seats.next + index = seat.id := same
    omega

/-- A seat the plan neither removes nor retypes stays as it is. -/
theorem SavedPlan.stays (saved : SavedPlan db eventId now plan seatMapId after) {seat : Seat}
    (stored : seat ∈ db.seats) (kept : seat.id ∉ plan.removedSeatIds)
    (unmoved : ∀ group ∈ plan.retyped, seat.id ∉ group.seatIds) :
    after.seats.find seat.id = some seat := by
  have left : seat ∈ db.seats.delete fun seat => seat.id ∈ plan.removedSeatIds :=
    Table.mem_delete.mpr ⟨stored, kept⟩
  have still : (retypeSeats (db.seats.delete fun seat => seat.id ∈ plan.removedSeatIds)
      plan.retyped).find seat.id = some seat := by
    rw [find_retypeSeats unmoved]
    exact Table.find_key left
  rw [saved.seats]
  refine Table.find_eq_some.mpr ⟨Table.mem_insertEach.mpr (Or.inl ?_), rfl⟩
  exact (Table.find_eq_some.mp still).1

/-- The seats a save is planned on are the map's, each once. -/
theorem mem_snapshot {seat : Seat} :
    seat ∈ (reservedSnapshot db eventId now).seats ↔
      seat ∈ db.seats ∧ ∃ seatMap ∈ findMap db eventId, seat.seatMapId = seatMap.id := by
  simp only [reservedSnapshot, List.mem_flatMap, Option.mem_toList, seatsOfMap, Table.mem_select]
  constructor
  · rintro ⟨seatMap, found, stored, same⟩
    exact ⟨stored, seatMap, found, same⟩
  · rintro ⟨stored, seatMap, found, same⟩
    exact ⟨seatMap, found, stored, same⟩

theorem nodup_snapshot : ((reservedSnapshot db eventId now).seats.map Seat.id).Nodup := by
  unfold reservedSnapshot
  cases findMap db eventId with
  | none => exact List.nodup_nil
  | some seatMap =>
    rw [Option.toList_some, List.flatMap_singleton]
    exact db.seats.distinct.sublist (List.filter_sublist.map _)

theorem lookup_of_only {α : Type} {entries : List (String × α)} {key : String} {value : α}
    (only : ∀ entry ∈ entries, entry.1 = key → entry.2 = value)
    (some' : ∃ entry ∈ entries, entry.1 = key) : entries.lookup key = some value := by
  induction entries with
  | nil =>
    obtain ⟨_, member, _⟩ := some'
    exact absurd member List.not_mem_nil
  | cons entry rest ih =>
    rw [List.lookup_cons]
    by_cases same : entry.1 = key
    · simp [same, only entry List.mem_cons_self same]
    · have later : ∃ other ∈ rest, other.1 = key := by
        obtain ⟨other, member, named⟩ := some'
        rcases List.mem_cons.mp member with rfl | there
        · exact absurd named same
        · exact ⟨other, there, named⟩
      rw [beq_eq_false_iff_ne.mpr (Ne.symm same)]
      exact ih (fun other there => only other (List.mem_cons_of_mem _ there)) later

/-- A layout gives the seat at one of its positions that position's type. -/
theorem typeIn_layoutAfter {seats : List Seat} {input : ConfigureReservedInput}
    {position : NewSeatPosition} (laid : position ∈ layoutAfter seats input) {seat : Seat}
    (same : seat.key = position.key) :
    typeIn (layoutAfter seats input) seat = position.ticketTypeId := by
  have entry : entryAt ((layoutAfter seats input).map fun position =>
      (position.key, position.ticketTypeId)) seat.key = some position.ticketTypeId := by
    refine lookup_of_only (fun entry member named => ?_) ?_
    · obtain ⟨other, there, rfl⟩ := List.mem_map.mp (List.mem_reverse.mp member)
      obtain ⟨first, _, rfl⟩ := List.mem_map.mp there
      obtain ⟨second, _, rfl⟩ := List.mem_map.mp laid
      have alike : first = second := SeatPosition.key_inj (named.trans same)
      rw [alike]
    · refine ⟨_, List.mem_reverse.mpr (List.mem_map.mpr ⟨position, laid, rfl⟩), same.symm⟩
  unfold typeIn
  rw [entry]
  rfl

/-- A seat that keeps its position gets the layout's type. -/
theorem SavedPlan.kept (saved : SavedPlan db eventId now plan seatMapId after)
    {input : ConfigureReservedInput}
    (planned : Planned (reservedSnapshot db eventId now) input plan) {seat : Seat}
    (onMap : seat ∈ (reservedSnapshot db eventId now).seats)
    (inLayout : IsKept (layoutAfter (reservedSnapshot db eventId now).seats input) seat) :
    after.seats.find seat.id =
      some { seat with
        ticketTypeId :=
          typeIn (layoutAfter (reservedSnapshot db eventId now).seats input) seat } := by
  let layout := layoutAfter (reservedSnapshot db eventId now).seats input
  have stored : seat ∈ db.seats := (mem_snapshot.mp onMap).1
  have own {other : Seat} (there : other ∈ (reservedSnapshot db eventId now).seats)
      (same : other.id = seat.id) : other = seat :=
    Table.eq_of_key (mem_snapshot.mp there).1 stored same
  have spared : seat.id ∉ plan.removedSeatIds := by
    rw [planned.mem_removed]
    rintro ⟨other, there, same, out⟩
    exact out (own there same ▸ inLayout)
  by_cases moves : seat.ticketTypeId = typeIn layout seat
  · rw [show typeIn (layoutAfter _ input) seat = seat.ticketTypeId from moves.symm]
    refine saved.stays stored spared fun group member listed => ?_
    rw [planned.retyped] at member
    obtain ⟨other, moving, same⟩ := mem_groupByType member listed
    obtain ⟨kept, changes⟩ := List.mem_filter.mp moving
    rw [own (List.mem_filter.mp kept).1 same] at changes
    exact of_decide_eq_true changes moves
  · have left : seat ∈ db.seats.delete fun seat => seat.id ∈ plan.removedSeatIds :=
      Table.mem_delete.mpr ⟨stored, spared⟩
    have moving : seat ∈ movingSeats
        ((reservedSnapshot db eventId now).seats.filter (IsKept layout)) layout := by
      refine List.mem_filter.mpr ⟨List.mem_filter.mpr ⟨onMap, ?_⟩, ?_⟩
      · exact decide_eq_true inLayout
      · exact decide_eq_true moves
    have apart : ((movingSeats ((reservedSnapshot db eventId now).seats.filter (IsKept layout))
        layout).map Seat.id).Nodup :=
      nodup_snapshot.sublist ((List.filter_sublist.trans List.filter_sublist).map _)
    have moved : (retypeSeats (db.seats.delete fun seat => seat.id ∈ plan.removedSeatIds)
        (groupByType (movingSeats ((reservedSnapshot db eventId now).seats.filter (IsKept layout))
          layout) (typeIn layout))).find seat.id = _ := find_groupByType apart moving
    rw [show (db.seats.delete fun seat => seat.id ∈ plan.removedSeatIds).find seat.id = some seat
      from Table.find_key left, Option.map_some] at moved
    rw [saved.seats, planned.retyped]
    refine Table.find_eq_some.mpr ⟨Table.mem_insertEach.mpr (Or.inl ?_), rfl⟩
    exact (Table.find_eq_some.mp moved).1

/-- Where the layout has a type, a seat of the map has one once it is saved. -/
theorem SavedPlan.typed (saved : SavedPlan db eventId now plan seatMapId after)
    {input : ConfigureReservedInput}
    (planned : Planned (reservedSnapshot db eventId now) input plan)
    (types : allUntyped (layoutAfter (reservedSnapshot db eventId now).seats input) = false) :
    ∃ seat ∈ after.seats, seat.seatMapId = seatMapId ∧ seat.ticketTypeId ≠ none := by
  obtain ⟨position, laid, typed⟩ := List.all_eq_false.mp types
  have isTyped : position.ticketTypeId ≠ none := by simpa using typed
  by_cases there : position.key ∈ (reservedSnapshot db eventId now).seats.map Seat.key
  · obtain ⟨seat, onMap, same⟩ := List.mem_map.mp there
    have inLayout : IsKept (layoutAfter (reservedSnapshot db eventId now).seats input) seat :=
      List.mem_map.mpr ⟨position, laid, same.symm⟩
    obtain ⟨stored, _⟩ := Table.find_eq_some.mp (saved.kept planned onMap inLayout)
    obtain ⟨_, seatMap, found, mine⟩ := mem_snapshot.mp onMap
    refine ⟨_, stored, mine.trans (saved.seatMap.same seatMap found), ?_⟩
    rw [typeIn_layoutAfter laid same]
    exact isTyped
  · have added : position ∈ plan.added := by
      rw [planned.added]
      exact List.mem_filter.mpr ⟨laid, decide_eq_true there⟩
    obtain ⟨index, inRange, same⟩ := List.getElem_of_mem added
    refine ⟨insertedSeat seatMapId position (db.seats.next + index), ?_, rfl, isTyped⟩
    rw [saved.seats]
    refine Table.mem_insertEach.mpr (Or.inr ⟨index, inRange, ?_⟩)
    rw [same, next_retypeSeats, Table.next_delete]

end Saved

theorem clearSeating_ok {eventId : Nat} (cleared : clearSeating db eventId = .ok after) :
    (∀ assignment ∈ db.seatAssignments,
      assignment.seatId ∉ (seatsOfEvent db eventId).map Seat.id) ∧
      after = { db with
        seatMaps := db.seatMaps.delete (IsMapOf eventId)
        seats := db.seats.delete fun seat => seat.id ∈ (seatsOfEvent db eventId).map Seat.id
        seatHolds := db.seatHolds.delete fun hold =>
          ∃ seatId ∈ hold.seatId, seatId ∈ (seatsOfEvent db eventId).map Seat.id } := by
  unfold clearSeating at cleared
  obtain ⟨unseated, deleted, cleared⟩ := bind_ok cleared
  obtain ⟨unassigned, rfl⟩ := deleteSeats_ok.mp deleted
  cases cleared
  exact ⟨unassigned, rfl⟩

end Written

end EventaApi.Source
