import EventaApi.Guarantees.ErasableTypes
import EventaApi.Library.Versions
import EventaApi.Source.SeatMapWrites
import EventaApi.Source.Ticketing

/-!
# What becomes of ticket types

A booking changes what is sold of a ticket type and nothing else about it, never above its total,
and sells only of a type that an order's line is of. The organizer's writes count the version up
and leave what is sold; a retirement leaves the version.
-/
namespace EventaApi.Guarantees
open Library Source

/-! ## Bookings -/

def soldOf (types : Table TicketType) (key : Nat) : Nat :=
  ((types.find key).map TicketType.sold).getD 0

/-- A booking has left everything about ticket types but what is sold of each, and all seats. -/
structure Resold (db after : Db) (sold : Nat → Nat) : Prop where
  next : after.ticketTypes.next = db.ticketTypes.next
  types : ∀ key, after.ticketTypes.find key =
    (db.ticketTypes.find key).map fun tier => { tier with sold := sold key }
  within : ∀ tier ∈ db.ticketTypes, tier.sold ≤ tier.total → sold tier.id ≤ tier.total
  lined : ∀ tier ∈ db.ticketTypes, 0 < sold tier.id → 0 < tier.sold ∨ HasLine after tier.id
  items : ∀ item ∈ db.orderItems, item ∈ after.orderItems
  seats : after.seats = db.seats
  seatMaps : after.seatMaps = db.seatMaps

section Bookings

variable {db after : Db} {now : Instant}

theorem soldOf_stored {types : Table TicketType} {tier : TicketType} (stored : tier ∈ types) :
    soldOf types tier.id = tier.sold := by
  unfold soldOf
  rw [show types.find tier.id = some tier from Table.find_key stored]
  rfl

theorem Resold.same (types : after.ticketTypes = db.ticketTypes)
    (items : ∀ item ∈ db.orderItems, item ∈ after.orderItems) (seats : after.seats = db.seats)
    (seatMaps : after.seatMaps = db.seatMaps) : Resold db after (soldOf db.ticketTypes) where
  next := by rw [types]
  types := fun key => by
    rw [types]
    unfold soldOf
    cases db.ticketTypes.find key <;> rfl
  within := fun tier stored => by
    rw [soldOf_stored stored]
    exact id
  lined := fun tier stored => by
    rw [soldOf_stored stored]
    exact Or.inl
  items := items
  seats := seats
  seatMaps := seatMaps

/-- Places of one type are sold, within its total, on a line of that type. -/
theorem Resold.sale {tier : TicketType} {ticketTypeId quantity : Nat}
    (found : db.ticketTypes.find ticketTypeId = some tier)
    (fits : tier.sold + quantity ≤ tier.total)
    (types : after.ticketTypes = db.ticketTypes.update (fun row => row.id = ticketTypeId)
      fun row => { row with sold := tier.sold + quantity })
    (lined : HasLine after ticketTypeId)
    (items : ∀ item ∈ db.orderItems, item ∈ after.orderItems) (seats : after.seats = db.seats)
    (seatMaps : after.seatMaps = db.seatMaps) :
    Resold db after fun key =>
      if key = ticketTypeId then tier.sold + quantity else soldOf db.ticketTypes key where
  next := by rw [types, Table.next_update]
  types := fun key => by
    rw [types, Table.find_update]
    cases there : db.ticketTypes.find key with
    | none => rfl
    | some row =>
      have named : row.id = key := (Table.find_eq_some.mp there).2
      by_cases mine : key = ticketTypeId
      · simp [named, mine]
      · have still : soldOf db.ticketTypes key = row.sold := by
          unfold soldOf
          rw [there]
          rfl
        have other : row.id ≠ ticketTypeId := fun same => mine (named.symm.trans same)
        rw [Option.map_some, Option.map_some, if_neg other, if_neg mine, still]
  within := fun row stored kept => by
    split
    · next mine =>
      cases (Table.find_eq_some.mpr ⟨stored, mine⟩).symm.trans found
      exact fits
    · rw [soldOf_stored stored]
      exact kept
  lined := fun row stored sold => by
    split at sold
    · next mine => exact Or.inr (mine ▸ lined)
    · rw [soldOf_stored stored] at sold
      exact Or.inl sold
  items := items
  seats := seats
  seatMaps := seatMaps

/-- Places of some types come back. -/
theorem Resold.giveBack {given : Nat → Nat}
    (next : after.ticketTypes.next = db.ticketTypes.next)
    (types : ∀ key, after.ticketTypes.find key = (db.ticketTypes.find key).map fun tier =>
      { tier with sold := tier.sold - given key })
    (items : ∀ item ∈ db.orderItems, item ∈ after.orderItems) (seats : after.seats = db.seats)
    (seatMaps : after.seatMaps = db.seatMaps) :
    Resold db after fun key => soldOf db.ticketTypes key - given key where
  next := next
  types := fun key => by
    rw [types]
    unfold soldOf
    cases db.ticketTypes.find key <;> rfl
  within := fun tier stored kept => by
    rw [soldOf_stored stored]
    exact (Nat.sub_le _ _).trans kept
  lined := fun tier stored sold => by
    rw [soldOf_stored stored] at sold
    exact Or.inl (Nat.pos_of_ne_zero fun none => by omega)
  items := items
  seats := seats
  seatMaps := seatMaps

theorem next_giveBackStock {types : Table TicketType} {byType : Tally Nat} :
    (giveBackStock types byType).next = types.next := by
  unfold giveBackStock
  generalize byType.sorted = entries
  induction entries generalizing types with
  | nil => rfl
  | cons entry rest ih => rw [List.foldl_cons, ih, Table.next_update]

theorem settled_resold {input : SettleOrderInput} {order : Order} {settlement : Settlement}
    (settles : Settled db input order now settlement after) : ∃ sold, Resold db after sold := by
  have sale (line : SettlementLine) (honoured : Honoured (loadSettlement db order) line)
      (idle : isAwaitingApproval order = false)
      (types : after.ticketTypes = countSale db.ticketTypes line)
      (items : after.orderItems = db.orderItems) (seats : after.seats = db.seats)
      (seatMaps : after.seatMaps = db.seatMaps) : ∃ sold, Resold db after sold := by
    obtain ⟨item, tier, stored, _, typed, rfl⟩ := loadSettlement_line honoured.judged
    exact ⟨_, .sale typed (honoured.fits idle) types ⟨item, items ▸ stored, rfl⟩
      (items ▸ fun _ there => there) seats seatMaps⟩
  cases settles with
  | already | refused | unavailable => exact ⟨_, .same rfl (fun _ there => there) rfl rfl⟩
  | awaits _ _ line _ _ idle _ honoured => exact sale line honoured idle rfl rfl rfl rfl
  | completes _ _ line _ _ _ honoured =>
    cases waiting : isAwaitingApproval order with
    | true => exact ⟨_, .same (by simp [ticketedDb]) (fun _ there => there) rfl rfl⟩
    | false =>
      rw [waiting] at sale
      exact sale line honoured rfl (by simp [ticketedDb]) rfl rfl rfl

/-- Every booking leaves ticket types but for what is sold of them. -/
theorem committed_resold {op : Op} (committed : Committed db now op after) :
    ∃ sold, Resold db after sold := by
  cases committed with
  | idle | sweptSeats | heldSeats | sweptTier | heldQuantity | released | releasedUnattached
  | expired | releasedOrder | recorded | enqueued | offered =>
    exact ⟨_, .same rfl (fun _ there => there) rfl rfl⟩
  | joined input =>
    exact ⟨_, .same rfl (fun _ there => Table.mem_insert.mpr (Or.inl there)) rfl rfl⟩
  | placed input placed _ placement =>
    have grows : ∀ item ∈ db.orderItems, item ∈ after.orderItems := by
      intro item stored
      rw [placement.orderItems]
      exact Table.mem_insert.mpr (Or.inl stored)
    rcases Bool.eq_false_or_eq_true input.takesPlaces with takes | none
    · obtain ⟨tier, found, fits, counted⟩ := reserveAllocation_ok.mp (placement.counted takes)
      have lined : HasLine after input.ticketTypeId := by
        refine ⟨itemRow input.toOrderInsert db.orders.next db.orderItems.next, ?_, rfl⟩
        rw [placement.orderItems]
        exact Table.mem_insert.mpr (Or.inr rfl)
      exact ⟨_, .sale found fits counted lined grows placement.seats placement.seatMaps⟩
    · exact ⟨_, .same (placement.uncounted none) grows placement.seats placement.seatMaps⟩
  | settled _ _ _ _ _ settles => exact settled_resold settles
  | rejected input order =>
    cases waiting : isAwaitingApproval order with
    | true =>
      have types : (rejectedDb db input order now).ticketTypes =
          giveBackStock db.ticketTypes (linesByType db order.id) := if_pos waiting
      have given (key : Nat) : (rejectedDb db input order now).ticketTypes.find key =
          (db.ticketTypes.find key).map fun tier =>
            { tier with sold := tier.sold - (linesByType db order.id).count key } := by
        rw [types]
        exact find_giveBackStock _ _ key
      refine ⟨_, .giveBack ?_ given (fun _ there => there) rfl rfl⟩
      rw [types, next_giveBackStock]
    | false => exact ⟨_, .same (by simp [rejectedDb, waiting]) (fun _ there => there) rfl rfl⟩
  | refunded _ _ order =>
    refine ⟨_, .giveBack ?_ (find_refundedStock db order) (fun _ there => there) rfl rfl⟩
    simp only [refundedDb, refundedStock, returnStock, next_giveBackStock]
    split
    · exact next_giveBackStock
    · rfl

theorem step_resold (workspace : Workspace) (op : Op) :
    ∃ sold, Resold workspace.db (step workspace op).db sold := by
  rcases step_db workspace op with same | committed
  · rw [same]
    exact ⟨_, .same rfl (fun _ there => there) rfl rfl⟩
  · exact committed_resold (commit_cases committed)

end Bookings

/-! ## Writes -/

/-- What a version stands for: everything about a type but what is sold of it, and whether it is
retired. -/
def typeTerms (tier : TicketType) : TicketType := { tier with sold := 0, deletedAt := none }

abbrev TermsMove : TicketType → TicketType → Prop :=
  Library.Moves TicketType.version typeTerms

/-- Nothing brings a type back, or to another event. -/
structure Carried (old row : TicketType) : Prop where
  moves : TermsMove old row
  event : row.eventId = old.eventId
  retired : old.deletedAt ≠ none → row.deletedAt ≠ none

/-- What an organizer's write makes of a row. -/
structure Edited (old row : TicketType) : Prop extends Carried old row where
  sold : row.sold = old.sold

theorem Carried.refl (row : TicketType) : Carried row row := ⟨.refl row, rfl, id⟩

theorem Edited.refl (row : TicketType) : Edited row row := ⟨.refl row, rfl⟩

section Writes

variable {desk : SeatingDesk} {db after : Db} {now : Instant}

/-- A booking leaves every row, and of a row everything but what is sold. -/
theorem Resold.persists {sold : Nat → Nat} (resold : Resold db after sold) :
    Table.Persists (fun row now => now = { row with sold := sold row.id }) db.ticketTypes
      after.ticketTypes := by
  intro row stored
  refine ⟨_, ?_, rfl⟩
  rw [resold.types, Table.find_key stored]
  rfl

theorem Resold.descends {sold : Nat → Nat} (resold : Resold db after sold) :
    Table.Descends (fun old row => row = { old with sold := sold old.id }) db.ticketTypes
      after.ticketTypes where
  next := resold.next.ge
  rows := by
    intro row stored _
    have found : after.ticketTypes.find row.id = some row := Table.find_key stored
    rw [resold.types] at found
    obtain ⟨old, there, same⟩ := Option.map_eq_some_iff.mp found
    obtain ⟨member, named⟩ := Table.find_eq_some.mp there
    have own : old.id = row.id := named
    rw [← own] at same
    exact ⟨old, member, named, same.symm⟩

theorem Resold.carried {sold : Nat → Nat} (resold : Resold db after sold) :
    Table.Descends Carried db.ticketTypes after.ticketTypes := by
  refine resold.descends.mono fun old row same => ?_
  subst same
  exact ⟨.of_eq rfl rfl, rfl, id⟩

theorem insertTier_edits (values : NewTicketValues) (next : TicketType → TicketPhase) :
    Table.Descends Edited desk.workspace.db.ticketTypes
      (insertTier desk values next).1.workspace.db.ticketTypes := by
  unfold insertTier
  split
  · exact .insert Edited.refl
  · exact .of_eq rfl Edited.refl

/-- An edit goes through to the row. -/
def GoesThrough (ticket : TicketType) (values : TicketPatch) (status : TicketStatus)
    (row : TicketType) : Prop :=
  AtTierVersion ticket row ∧ hasNull values = false ∧
    TierChecked (patchedTier ticket values status row)

instance (ticket : TicketType) (values : TicketPatch) (status : TicketStatus) :
    DecidablePred (GoesThrough ticket values status) :=
  fun _ => inferInstanceAs (Decidable (_ ∧ _ ∧ _))

/-- A version's write: what became of the row at that version, or nothing. -/
theorem updateTier_cases (desk : SeatingDesk) (ticket : TicketType) (values : TicketPatch)
    (status : TicketStatus) (next : TicketType → TicketPhase) :
    ((updateTier desk ticket values status next).1 = desk ∧
      (∀ row ∈ desk.workspace.db.ticketTypes, ¬ GoesThrough ticket values status row) ∧
      ((updateTier desk ticket values status next).2 = ticketRefused STALE_TICKET ∨
        (updateTier desk ticket values status next).2 = .done .crashed)) ∨
    ∃ row ∈ desk.workspace.db.ticketTypes, GoesThrough ticket values status row ∧
      updateTier desk ticket values status next =
        ({ desk with workspace := { desk.workspace with
          db := { desk.workspace.db with
            ticketTypes := desk.workspace.db.ticketTypes.update (AtTierVersion ticket)
              (patchedTier ticket values status) } } },
          next (patchedTier ticket values status row)) := by
  unfold updateTier
  split
  · next none =>
    refine Or.inl ⟨rfl, fun row stored through => ?_, Or.inl rfl⟩
    exact Table.select_ne_nil.mpr ⟨row, stored, through.1⟩ (List.head?_eq_none_iff.mp none)
  · next row found =>
    obtain ⟨stored, current⟩ := Table.mem_select.mp (List.mem_of_mem_head? found)
    dsimp only
    split
    · next storable => exact Or.inr ⟨row, stored, ⟨current, storable⟩, rfl⟩
    · next refused =>
      refine Or.inl ⟨rfl, fun other there through => refused ?_, Or.inr rfl⟩
      have same : other = row :=
        Table.eq_of_key there stored (through.1.1.trans current.1.symm)
      exact same ▸ through.2

theorem patchedTier_edited {ticket row : TicketType} {values : TicketPatch} {status : TicketStatus}
    (current : AtTierVersion ticket row) : Edited row (patchedTier ticket values status row) where
  moves := .of_lt (Nat.lt_succ_of_le current.2.1.le)
  event := rfl
  retired := id
  sold := rfl

theorem updateTier_edits (ticket : TicketType) (values : TicketPatch) (status : TicketStatus)
    (next : TicketType → TicketPhase) :
    Table.Descends Edited desk.workspace.db.ticketTypes
      (updateTier desk ticket values status next).1.workspace.db.ticketTypes := by
  rcases updateTier_cases desk ticket values status next with
    ⟨same, _⟩ | ⟨_, _, _, wrote⟩
  · rw [same]
    exact .of_eq rfl Edited.refl
  · rw [wrote]
    exact .update Edited.refl fun row _ current => patchedTier_edited current

/-- An erasure fails on an unsold type that something refers to. -/
theorem hardDeleteTier_error {ticketId : Nat} {failure : TxError}
    (failed : hardDeleteTier db ticketId = .error failure) :
    (∃ row ∈ db.ticketTypes, IsUnsold ticketId row) ∧ IsReferenced db ticketId := by
  unfold hardDeleteTier at failed
  split at failed
  · cases failed
  · next there =>
    split at failed
    · next referenced => exact ⟨Table.select_ne_nil.mp there, referenced⟩
    · cases failed

/-- What a removal does, by what it finds. -/
theorem removeTier_cases (desk : SeatingDesk) (ticket : TicketType) :
    ((removeTier desk ticket).1 = desk ∧
      ((seatsOfTicketType desk.workspace.db ticket.id ≠ 0 ∧
          ∃ exception, (removeTier desk ticket).2 = ticketRefused exception) ∨
        (ticket.sold = 0 ∧ IsReferenced desk.workspace.db ticket.id ∧
          (∃ row ∈ desk.workspace.db.ticketTypes, IsUnsold ticket.id row) ∧
          (removeTier desk ticket).2 = .done .crashed))) ∨
    (seatsOfTicketType desk.workspace.db ticket.id = 0 ∧ ticket.sold = 0 ∧
      (removeTier desk ticket).2 = .done (.removed ticket.id) ∧
      ∃ after, hardDeleteTier desk.workspace.db ticket.id = .ok after ∧
        (removeTier desk ticket).1 =
          { desk with workspace := { desk.workspace with db := after } }) ∨
    (seatsOfTicketType desk.workspace.db ticket.id = 0 ∧ ticket.sold ≠ 0 ∧
      removeTier desk ticket =
        ({ desk with workspace := { desk.workspace with
            db := softDeleteTier desk.workspace.db ticket.id desk.workspace.clock } },
          .done (.retired ticket.id))) := by
  unfold removeTier
  dsimp only
  split
  · next exception seated =>
    refine Or.inl ⟨rfl, Or.inl ⟨fun free => ?_, exception, rfl⟩⟩
    cases seated.symm.trans (assertNoSeats_ok.mpr free)
  · next unseated =>
    have free := assertNoSeats_ok.mp unseated
    by_cases unsold : ticket.sold = 0
    · rw [if_pos unsold]
      cases deleted : hardDeleteTier desk.workspace.db ticket.id with
      | ok after => exact Or.inr (Or.inl ⟨free, unsold, rfl, after, rfl, rfl⟩)
      | error failure =>
        obtain ⟨there, referenced⟩ := hardDeleteTier_error deleted
        exact Or.inl ⟨rfl, Or.inr ⟨unsold, referenced, there, rfl⟩⟩
    · rw [if_neg unsold]
      exact Or.inr (Or.inr ⟨free, unsold, rfl⟩)

/-- An erasure leaves everything, or takes the one type that nothing is sold of and nothing
refers to. -/
theorem hardDeleteTier_cases {ticketId : Nat} (deleted : hardDeleteTier db ticketId = .ok after) :
    ((∀ row ∈ db.ticketTypes, ¬ IsUnsold ticketId row) ∧ after = db) ∨
    (∃ row ∈ db.ticketTypes, IsUnsold ticketId row) ∧ ¬ IsReferenced db ticketId ∧
      after = { db with
        ticketTypes := db.ticketTypes.delete (IsUnsold ticketId)
        seats := db.seats.update (fun seat => seat.ticketTypeId = some ticketId) unsetSeat
        seatHolds := db.seatHolds.delete fun hold => hold.ticketTypeId = some ticketId } := by
  unfold hardDeleteTier at deleted
  split at deleted
  · next none =>
    cases deleted
    refine Or.inl ⟨fun row stored unsold => ?_, rfl⟩
    exact Table.select_ne_nil.mpr ⟨row, stored, unsold⟩ none
  · next there =>
    split at deleted
    · cases deleted
    · next free =>
      cases deleted
      exact Or.inr ⟨Table.select_ne_nil.mp there, free, rfl⟩

theorem removeTier_edits (ticket : TicketType) :
    Table.Descends Edited desk.workspace.db.ticketTypes
      (removeTier desk ticket).1.workspace.db.ticketTypes := by
  rcases removeTier_cases desk ticket with
    ⟨same, _⟩ | ⟨_, _, _, after, deleted, erased⟩ | ⟨_, _, retired⟩
  · rw [same]
    exact .of_eq rfl Edited.refl
  · rw [erased]
    rcases hardDeleteTier_cases deleted with ⟨_, rfl⟩ | ⟨_, _, rfl⟩
    · exact .of_eq rfl Edited.refl
    · exact .delete Edited.refl
  · rw [retired]
    refine .update Edited.refl fun row _ _ => ⟨⟨.of_eq rfl rfl, rfl, fun _ gone => ?_⟩, rfl⟩
    cases gone

/-- A step of a request edits ticket types, and sells nothing. -/
theorem act_edits (phase : TicketPhase) :
    Table.Descends Edited desk.workspace.db.ticketTypes
      (actOnTickets desk () phase).1.workspace.db.ticketTypes := by
  cases phase with
  | insert values => exact insertTier_edits values _
  | save ticket input status => exact updateTier_edits ticket _ status _
  | setStatus ticket status => exact updateTier_edits ticket _ status _
  | remove ticket => exact removeTier_edits ticket
  | copies destEventId rows =>
    cases rows with
    | nil => exact .of_eq rfl Edited.refl
    | cons row rest => exact insertTier_edits _ _
  | first | forEvent | seats | nameFree | load | rename | count | holds | done =>
    exact .of_eq rfl Edited.refl

/-- The save of a map whose seats have types, as it was carried out. -/
theorem seatQuantities_cases (texts : EventTexts) (desk : SeatingDesk) (event : EventRecord)
    (input : ConfigureReservedInput) :
    changeTickets texts desk (.seatQuantities event input) = desk ∨
    ∃ plan seatMapId after,
      Planned (reservedSnapshot desk.workspace.db event.id desk.workspace.clock) input plan ∧
      SavedPlan desk.workspace.db event.id desk.workspace.clock plan seatMapId after ∧
      allUntyped (layoutAfter
        (reservedSnapshot desk.workspace.db event.id desk.workspace.clock).seats input) = false ∧
      changeTickets texts desk (.seatQuantities event input) =
        { desk with workspace := { desk.workspace with db := after } } := by
  unfold changeTickets
  dsimp only
  split
  · next typed =>
    split
    · next after saved =>
      obtain ⟨seatMapId, applied⟩ := map_snd_ok.mp saved
      obtain ⟨plan, planned, wrote⟩ := applyReserved_ok applied
      refine Or.inr ⟨plan, seatMapId, after, planReserved_ok planned, wrote, ?_, rfl⟩
      simpa [typesSeats] using typed
    · exact Or.inl rfl
  · exact Or.inl rfl

theorem savedPlan_edits {eventId seatMapId : Nat} {plan : ReservedPlan}
    (saved : SavedPlan db eventId now plan seatMapId after) :
    Table.Descends Edited db.ticketTypes after.ticketTypes := by
  rcases saved.types with ⟨_, same⟩ | ⟨counts, _, _, counted⟩
  · exact .of_eq same Edited.refl
  · rw [counted]
    exact .update Edited.refl fun row _ _ => ⟨⟨.of_lt (Nat.lt_succ_self _), rfl, id⟩, rfl⟩

theorem act_carried (phase : TicketPhase) :
    Table.Descends Carried desk.workspace.db.ticketTypes
      (actOnTickets desk () phase).1.workspace.db.ticketTypes :=
  (act_edits phase).mono fun _ _ edited => edited.toCarried

theorem change_carried {texts : EventTexts} (event : TicketWorld) :
    Table.Descends Carried desk.workspace.db.ticketTypes
      (changeTickets texts desk event).workspace.db.ticketTypes := by
  cases event with
  | booking op =>
    obtain ⟨sold, resold⟩ := step_resold desk.workspace op
    exact resold.carried
  | eventStep => exact .of_eq rfl Carried.refl
  | seatQuantities event input =>
    rcases seatQuantities_cases texts desk event input with
      same | ⟨plan, seatMapId, after, _, saved, _, written⟩
    · rw [same]
      exact .of_eq rfl Carried.refl
    · rw [written]
      exact (savedPlan_edits saved).mono fun _ _ edited => edited.toCarried

end Writes

/-! ## Typed seats -/

/-- The event's seat map has a seat with a ticket type. -/
def SeatsCounted (db : Db) (eventId : Nat) : Prop := typedSeats db eventId ≠ []

instance (db : Db) (eventId : Nat) : Decidable (SeatsCounted db eventId) :=
  inferInstanceAs (Decidable (_ ≠ _))

section Typed

variable {desk : SeatingDesk} {db after : Db} {eventId : Nat}

theorem seatsCounted_iff : SeatsCounted db eventId ↔
    ∃ seat ∈ db.seats, seat.ticketTypeId ≠ none ∧
      ∃ seatMap ∈ db.seatMaps.find seat.seatMapId, IsMapOf eventId seatMap := by
  have listed (seat : Seat) (ticketTypeId : Nat) :
      ((db.seatMaps.find seat.seatMapId).bind fun seatMap =>
        if seatMap.eventId = eventId ∧ seatMap.deletedAt = none then seat.ticketTypeId
        else none) = some ticketTypeId ↔
      seat.ticketTypeId = some ticketTypeId ∧
        ∃ seatMap ∈ db.seatMaps.find seat.seatMapId, IsMapOf eventId seatMap := by
    cases found : db.seatMaps.find seat.seatMapId with
    | none => simp
    | some seatMap =>
      by_cases live : seatMap.eventId = eventId ∧ seatMap.deletedAt = none
      · simp [live, IsMapOf]
      · simp [live, IsMapOf]
  unfold SeatsCounted typedSeats
  constructor
  · intro typed
    obtain ⟨ticketTypeId, member⟩ := List.exists_mem_of_ne_nil _ typed
    obtain ⟨seat, stored, same⟩ := List.mem_filterMap.mp member
    obtain ⟨own, onMap⟩ := (listed seat ticketTypeId).mp same
    exact ⟨seat, stored, by simp [own], onMap⟩
  · rintro ⟨seat, stored, typed, onMap⟩
    obtain ⟨ticketTypeId, own⟩ := Option.ne_none_iff_exists'.mp typed
    have member : ticketTypeId ∈ typedSeats db eventId :=
      List.mem_filterMap.mpr ⟨seat, stored, (listed seat ticketTypeId).mpr ⟨own, onMap⟩⟩
    exact List.ne_nil_of_mem member

theorem SeatsCounted.of_same (counted : SeatsCounted db eventId) (seats : after.seats = db.seats)
    (seatMaps : after.seatMaps = db.seatMaps) : SeatsCounted after eventId := by
  rw [seatsCounted_iff, seats, seatMaps]
  exact seatsCounted_iff.mp counted

/-- Erasing a type takes it from no seat of a live map: it has none there. -/
theorem SeatsCounted.removed (counted : SeatsCounted db eventId) {ticketId : Nat}
    (unseated : seatsOfTicketType db ticketId = 0)
    (deleted : hardDeleteTier db ticketId = .ok after) : SeatsCounted after eventId := by
  rcases hardDeleteTier_cases deleted with ⟨_, rfl⟩ | ⟨_, _, rfl⟩
  · exact counted
  · obtain ⟨seat, stored, typed, seatMap, found, live⟩ := seatsCounted_iff.mp counted
    refine seatsCounted_iff.mpr ⟨seat, Table.mem_update_of_miss stored fun own => ?_, typed,
      seatMap, found, live⟩
    have listed : seat ∈ db.seats.select fun seat => seat.ticketTypeId = some ticketId ∧
        ∃ seatMap ∈ db.seatMaps.find seat.seatMapId, seatMap.deletedAt = none :=
      Table.mem_select.mpr ⟨stored, own, seatMap, found, live.2⟩
    exact List.ne_nil_of_mem listed (List.length_eq_zero_iff.mp unseated)

theorem act_seatsCounted (phase : TicketPhase) (counted : SeatsCounted desk.workspace.db eventId) :
    SeatsCounted (actOnTickets desk () phase).1.workspace.db eventId := by
  have inserted (values : NewTicketValues) (next : TicketType → TicketPhase) :
      SeatsCounted (insertTier desk values next).1.workspace.db eventId := by
    unfold insertTier
    split
    · exact counted.of_same rfl rfl
    · exact counted
  have updated (ticket : TicketType) (values : TicketPatch) (status : TicketStatus)
      (next : TicketType → TicketPhase) :
      SeatsCounted (updateTier desk ticket values status next).1.workspace.db eventId := by
    rcases updateTier_cases desk ticket values status next with
      ⟨same, _⟩ | ⟨_, _, _, wrote⟩
    · rw [same]
      exact counted
    · rw [wrote]
      exact counted.of_same rfl rfl
  cases phase with
  | insert values => exact inserted values _
  | save ticket input status => exact updated ticket _ status _
  | setStatus ticket status => exact updated ticket _ status _
  | remove ticket =>
    change SeatsCounted (removeTier desk ticket).1.workspace.db eventId
    rcases removeTier_cases desk ticket with
      ⟨same, _⟩ | ⟨unseated, _, _, after, deleted, erased⟩ | ⟨_, _, retired⟩
    · rw [same]
      exact counted
    · rw [erased]
      exact counted.removed unseated deleted
    · rw [retired]
      exact counted.of_same rfl rfl
  | copies destEventId rows =>
    cases rows with
    | nil => exact counted
    | cons row rest => exact inserted _ _
  | first | forEvent | seats | nameFree | load | rename | count | holds | done => exact counted

/-- A save of typed seats leaves its event typed seats. -/
theorem savedPlan_seatsCounted {now : Instant} {plan : ReservedPlan}
    {input : ConfigureReservedInput} {seatMapId : Nat}
    (saved : SavedPlan db eventId now plan seatMapId after)
    (planned : Planned (reservedSnapshot db eventId now) input plan)
    (types : allUntyped (layoutAfter (reservedSnapshot db eventId now).seats input) = false) :
    SeatsCounted after eventId := by
  obtain ⟨seat, stored, own, typed⟩ := saved.typed planned types
  exact seatsCounted_iff.mpr ⟨seat, stored, typed, own ▸ saved.seatMap.there⟩

/-- It leaves the seats of other events. -/
theorem savedPlan_seatsCounted_other {now : Instant} {plan : ReservedPlan}
    {input : ConfigureReservedInput} {seatMapId saving : Nat} (apart : eventId ≠ saving)
    (saved : SavedPlan db saving now plan seatMapId after)
    (planned : Planned (reservedSnapshot db saving now) input plan)
    (counted : SeatsCounted db eventId) : SeatsCounted after eventId := by
  obtain ⟨seat, stored, typed, seatMap, found, live⟩ := seatsCounted_iff.mp counted
  have off : seat ∉ (reservedSnapshot db saving now).seats := by
    intro onMap
    obtain ⟨_, other, there, mine⟩ := mem_snapshot.mp onMap
    obtain ⟨otherStored, otherLive⟩ := Table.mem_select.mp (List.mem_of_mem_head? there)
    have same : seatMap = other := Table.eq_of_key (Table.find_eq_some.mp found).1 otherStored
      ((Table.find_eq_some.mp found).2.trans mine)
    exact apart (live.1.symm.trans ((congrArg SeatMap.eventId same).trans otherLive.1))
  have unlisted {id : Nat} (same : id = seat.id)
      (listed : ∃ other ∈ (reservedSnapshot db saving now).seats, other.id = id) : False := by
    obtain ⟨other, onMap, named⟩ := listed
    have own : other = seat :=
      Table.eq_of_key (mem_snapshot.mp onMap).1 stored (named.trans same)
    exact off (own ▸ onMap)
  have stays := saved.stays stored
    (fun removed => by
      obtain ⟨other, onMap, named, _⟩ := planned.mem_removed.mp removed
      exact unlisted rfl ⟨other, onMap, named⟩)
    (fun group member listed => unlisted rfl (planned.mem_retyped member listed).2)
  obtain ⟨row, there, sameEvent, sameDeleted⟩ := saved.seatMap.kept _ seatMap found
  exact seatsCounted_iff.mpr ⟨seat, (Table.find_eq_some.mp stays).1, typed, row, there,
    sameEvent.trans live.1, sameDeleted.trans live.2⟩

theorem change_seatsCounted {texts : EventTexts} (event : TicketWorld)
    (counted : SeatsCounted desk.workspace.db eventId) :
    SeatsCounted (changeTickets texts desk event).workspace.db eventId := by
  cases event with
  | booking op =>
    obtain ⟨sold, resold⟩ := step_resold desk.workspace op
    exact counted.of_same resold.seats resold.seatMaps
  | eventStep => exact counted
  | seatQuantities event input =>
    rcases seatQuantities_cases texts desk event input with
      same | ⟨plan, seatMapId, after, planned, saved, types, written⟩
    · rw [same]
      exact counted
    · rw [written]
      by_cases own : eventId = event.id
      · subst own
        exact savedPlan_seatsCounted saved planned types
      · exact savedPlan_seatsCounted_other own saved planned counted

end Typed

/-! ## What a request goes on with -/

/-- The rules that the merged values of an edit passed. -/
structure SaveAllowed (ticket : TicketType) (seats : SeatQuantities) (merged : MergedTicket) :
    Prop where
  quantity : assertQuantityNotBelowSold merged.total ticket.sold = .ok ()
  wholeBaht : assertWholeBaht merged.priceSatang = .ok ()
  window : assertTicketWindow merged.salesStartAt merged.salesEndAt = .ok ()
  perOrder : assertPerOrderBounds merged.minPerOrder merged.maxPerOrder merged.total
    seats.isSome = .ok ()

/-- The rules that the values of a new type passed. -/
structure CreateAllowed (values : NewTicketValues) : Prop where
  wholeBaht : assertWholeBaht values.priceSatang = .ok ()
  window : assertTicketWindow values.salesStartAt values.salesEndAt = .ok ()
  perOrder : assertPerOrderBounds values.minPerOrder values.maxPerOrder values.total false = .ok ()

/-- The seats that were read are those that set the event's quantities, if any do. -/
def ReadSeats (db : Db) (eventId : Nat) (seats : SeatQuantities) : Prop :=
  seats.isSome → SeatsCounted db eventId

/-- What a phase may go on with, and what it has read or judged by then. -/
inductive GoesOn (desk : SeatingDesk) : TicketPhase → TicketPhase → Prop
  | refused {phase : TicketPhase} (exception : DomainException) :
    GoesOn desk phase (ticketRefused exception)
  | crashed {phase : TicketPhase} : GoesOn desk phase (.done .crashed)
  | rests {reply : TicketReply} : GoesOn desk (.done reply) (.done reply)
  | asksEvent {eventId : Nat} {request : TicketRequest} {use : SeatsUse} :
    (∀ ticket, use ≠ .delete ticket) → GoesOn desk (.first request) (.forEvent eventId use)
  | switches {request : TicketRequest} {ticket : TicketType} {status : TicketStatus} :
    GoesOn desk (.first request) (.setStatus ticket status)
  | counts {eventId ticketId : Nat} {ticket : TicketType} :
    findTicketType desk.workspace.db eventId ticketId = some ticket →
    GoesOn desk (.first (.delete eventId ticketId)) (.count ticket)
  | copies {srcEventId destEventId : Nat} :
    GoesOn desk (.first (.clone srcEventId destEventId))
      (.copies destEventId (liveTiers desk.workspace.db srcEventId))
  | asksSeats {eventId : Nat} {event : EventRecord} {use : SeatsUse} :
    GoesOn desk (.forEvent eventId use) (.seats event use)
  | names {event : EventRecord} {seats : SeatQuantities} {input : CreateTicketInput} :
    GoesOn desk (.seats event (.create input)) (.nameFree event.id seats input)
  | loads {event : EventRecord} {ticketId : Nat} {seats : SeatQuantities}
      {input : UpdateTicketInput} :
    ReadSeats desk.workspace.db event.id seats →
    GoesOn desk (.seats event (.update ticketId input)) (.load event.id ticketId seats input)
  | holds {event : EventRecord} {ticket : TicketType} :
    GoesOn desk (.seats event (.delete ticket)) (.holds ticket)
  | responds {event : EventRecord} {row : TicketType} :
    GoesOn desk (.seats event (.respond row)) (.done (.ticket row))
  | inserts {eventId : Nat} {seats : SeatQuantities} {input : CreateTicketInput} :
    CreateAllowed (newTicketValues eventId seats input desk.workspace.clock) →
    GoesOn desk (.nameFree eventId seats input)
      (.insert (newTicketValues eventId seats input desk.workspace.clock))
  | inserted {values : NewTicketValues} {row : TicketType} :
    GoesOn desk (.insert values) (.done (.ticket row))
  | renames {eventId ticketId : Nat} {seats : SeatQuantities} {input : UpdateTicketInput}
      {ticket : TicketType} :
    findTicketType desk.workspace.db eventId ticketId = some ticket →
    assertChangeAllowedAfterSales ticket input.priceSatang input.isFree = .ok () →
    GoesOn desk (.load eventId ticketId seats input) (.rename ticket seats input)
  | saves {eventId ticketId : Nat} {seats : SeatQuantities} {input : UpdateTicketInput}
      {ticket : TicketType} {status : TicketStatus} :
    findTicketType desk.workspace.db eventId ticketId = some ticket →
    assertChangeAllowedAfterSales ticket input.priceSatang input.isFree = .ok () →
    SaveAllowed ticket seats (mergeTicket ticket input.toTicketPatch) →
    GoesOn desk (.load eventId ticketId seats input) (.save ticket input status)
  | savesRenamed {ticket : TicketType} {seats : SeatQuantities} {input : UpdateTicketInput}
      {status : TicketStatus} :
    SaveAllowed ticket seats (mergeTicket ticket input.toTicketPatch) →
    GoesOn desk (.rename ticket seats input) (.save ticket input status)
  | saved {ticket row : TicketType} {input : UpdateTicketInput} {status : TicketStatus} :
    GoesOn desk (.save ticket input status) (.done (.ticket row))
  | switched {ticket row : TicketType} {status : TicketStatus} :
    GoesOn desk (.setStatus ticket status) (.forEvent row.eventId (.respond row))
  | counted {ticket : TicketType} :
    GoesOn desk (.count ticket) (.forEvent ticket.eventId (.delete ticket))
  | held {ticket : TicketType} : GoesOn desk (.holds ticket) (.remove ticket)
  | removed {ticket : TicketType} :
    ticket.sold = 0 → GoesOn desk (.remove ticket) (.done (.removed ticket.id))
  | retired {ticket : TicketType} :
    ticket.sold ≠ 0 → GoesOn desk (.remove ticket) (.done (.retired ticket.id))
  | copied {destEventId : Nat} : GoesOn desk (.copies destEventId []) (.done .cloned)
  | copiesOn {destEventId : Nat} {row : TicketType} {rest : List TicketType} :
    GoesOn desk (.copies destEventId (row :: rest)) (.copies destEventId rest)

section Going

variable {desk : SeatingDesk} {phase : TicketPhase}

/-- A request goes on where the rule passes. -/
theorem orRefused_goesOn {judged : Except DomainException Unit} {next : TicketPhase}
    (fine : judged = .ok () → GoesOn desk phase next) :
    GoesOn desk phase (orRefused judged next) := by
  cases judged with
  | ok => exact fine rfl
  | error exception => exact .refused exception

/-- A request goes on with the type it finds. -/
theorem withTicket_goesOn {eventId ticketId : Nat} {next : TicketType → TicketPhase}
    (fine : ∀ ticket, findTicketType desk.workspace.db eventId ticketId = some ticket →
      GoesOn desk phase (next ticket)) :
    GoesOn desk phase (withTicket desk.workspace.db eventId ticketId next) := by
  unfold withTicket
  split
  · next ticket found => exact fine ticket found
  · exact .refused _

theorem beginTicket_goesOn (request : TicketRequest) :
    GoesOn desk (.first request) (beginTicket desk request) := by
  cases request with
  | create eventId input => exact .asksEvent fun _ same => nomatch same
  | update eventId ticketId input => exact .asksEvent fun _ same => nomatch same
  | pause => exact withTicket_goesOn fun _ _ => .switches
  | resume =>
    refine withTicket_goesOn fun ticket _ => ?_
    unfold decideResume
    split
    · exact .refused _
    · exact .switches
  | delete => exact withTicket_goesOn fun ticket found => .counts found
  | clone => exact .copies

theorem useSeats_goesOn (event : EventRecord) (use : SeatsUse) :
    GoesOn desk (.seats event use)
      (useSeats event (typedSeats desk.workspace.db event.id) use) := by
  cases use with
  | create => exact .names
  | update ticketId input =>
    refine .loads fun some => ?_
    by_cases typed : quantityFromSeats event.content.seatingMode
        (typedSeats desk.workspace.db event.id ≠ []) = true
    · exact of_decide_eq_true (Bool.and_eq_true_iff.mp typed).2
    · rw [if_neg typed] at some
      cases some
  | delete => exact orRefused_goesOn fun _ => .holds
  | respond => exact .responds

/-- Where the merged values pass, the edit is saved. -/
theorem decideSave_goesOn {ticket : TicketType} {seats : SeatQuantities}
    {input : UpdateTicketInput} {now : Instant}
    (fine : ∀ status, SaveAllowed ticket seats (mergeTicket ticket input.toTicketPatch) →
      GoesOn desk phase (.save ticket input status)) :
    GoesOn desk phase (decideSave ticket seats input now) := by
  unfold decideSave
  dsimp only
  exact orRefused_goesOn fun quantity => orRefused_goesOn fun wholeBaht =>
    orRefused_goesOn fun window => orRefused_goesOn fun perOrder =>
      fine _ ⟨quantity, wholeBaht, window, perOrder⟩

theorem decideLoaded_goesOn {eventId ticketId : Nat} {ticket : TicketType} {seats : SeatQuantities}
    {input : UpdateTicketInput} {now : Instant}
    (found : findTicketType desk.workspace.db eventId ticketId = some ticket) :
    GoesOn desk (.load eventId ticketId seats input) (decideLoaded ticket seats input now) := by
  unfold decideLoaded
  split
  · exact .refused _
  · refine orRefused_goesOn fun changes => orRefused_goesOn fun _ => ?_
    split
    · exact decideSave_goesOn fun _ allowed => .saves found changes allowed
    · exact .renames found changes

theorem insertTier_goesOn {values : NewTicketValues} {next : TicketType → TicketPhase}
    (fine : ∀ row, GoesOn desk phase (next row)) :
    GoesOn desk phase (insertTier desk values next).2 := by
  unfold insertTier
  split
  · exact fine _
  · exact .crashed

theorem updateTier_goesOn {ticket : TicketType} {values : TicketPatch} {status : TicketStatus}
    {next : TicketType → TicketPhase} (fine : ∀ row, GoesOn desk phase (next row)) :
    GoesOn desk phase (updateTier desk ticket values status next).2 := by
  rcases updateTier_cases desk ticket values status next with
    ⟨_, _, stale | crashed⟩ | ⟨_, _, _, wrote⟩
  · rw [stale]
    exact .refused _
  · rw [crashed]
    exact .crashed
  · rw [wrote]
    exact fine _

theorem removeTier_goesOn (ticket : TicketType) :
    GoesOn desk (.remove ticket) (removeTier desk ticket).2 := by
  rcases removeTier_cases desk ticket with
    ⟨_, ⟨_, exception, refused⟩ | ⟨_, _, _, crashed⟩⟩ | ⟨_, unsold, removed, _⟩ | ⟨_, sold, retired⟩
  · rw [refused]
    exact .refused exception
  · rw [crashed]
    exact .crashed
  · rw [removed]
    exact .removed unsold
  · rw [retired]
    exact .retired sold

/-- What a step of a request goes on with. -/
theorem act_goesOn (phase : TicketPhase) : GoesOn desk phase (actOnTickets desk () phase).2 := by
  cases phase with
  | first request => exact beginTicket_goesOn request
  | forEvent eventId use =>
    simp only [actOnTickets]
    split
    · exact .asksSeats
    · exact .refused _
  | seats event use => exact useSeats_goesOn event use
  | nameFree eventId seats input =>
    simp only [actOnTickets]
    split
    · exact .refused _
    · exact orRefused_goesOn fun wholeBaht => orRefused_goesOn fun window =>
        orRefused_goesOn fun perOrder => .inserts ⟨wholeBaht, window, perOrder⟩
  | insert values => exact insertTier_goesOn fun _ => .inserted
  | load => exact withTicket_goesOn fun _ found => decideLoaded_goesOn found
  | rename ticket seats input =>
    simp only [actOnTickets, decideRename]
    split
    · exact .crashed
    · split
      · exact .refused _
      · exact decideSave_goesOn fun _ allowed => .savesRenamed allowed
  | save => exact updateTier_goesOn fun _ => .saved
  | setStatus => exact updateTier_goesOn fun _ => .switched
  | count ticket =>
    simp only [actOnTickets]
    split
    · exact .refused _
    · exact .counted
  | holds ticket =>
    simp only [actOnTickets]
    split
    · exact .refused _
    · exact .held
  | remove ticket => exact removeTier_goesOn ticket
  | copies destEventId rows =>
    cases rows with
    | nil => exact .copied
    | cons row rest => exact insertTier_goesOn fun _ => .copiesOn
  | done => exact .rests

/-- A type that a request loads is a live one of its event. -/
theorem findTicketType_some {db : Db} {eventId ticketId : Nat} {ticket : TicketType}
    (found : findTicketType db eventId ticketId = some ticket) :
    ticket ∈ db.ticketTypes ∧ ticket.id = ticketId ∧ ticket.eventId = eventId := by
  obtain ⟨there, live⟩ := Option.filter_eq_some_iff.mp found
  obtain ⟨stored, named⟩ := Table.find_eq_some.mp there
  exact ⟨stored, named, (of_decide_eq_true live).1⟩

end Going

end EventaApi.Guarantees
