import EventaApi.Guarantees.EventLifecycle
import EventaApi.Guarantees.Opening
import EventaApi.Source.SeatMapWrites

/-!
# Saving a seat map

A save keeps the type of every seat that is booked or held. A seat it removes is looked at only
for the status `sold`, which nothing writes: an assignment keeps its seat by its foreign key, a
hold goes with it. And once the seats are written, the event's own update may still be refused.
-/
namespace EventaApi.Guarantees
open Library Source

/-! ## What is asked of a save -/

abbrev SeatingPool := Pool SeatingDesk SeatingPhase

abbrev SeatingTurn := PoolTurn SeatingRequest EventAnswers SeatingWorld

def SeatBooked (db : Db) (seatId : Nat) : Prop :=
  ∃ assignment ∈ db.seatAssignments, assignment.seatId = seatId ∧ assignment.releasedAt = none

def SeatHeld (desk : SeatingDesk) (seatId : Nat) : Prop :=
  ∃ hold ∈ desk.workspace.db.seatHolds.rows,
    hold.seatId = some seatId ∧ hold.reserves desk.workspace.clock

/-- The seat is on the map of an event past its draft. -/
def OfPublished (desk : SeatingDesk) (seat : Seat) : Prop :=
  ∃ seatMap ∈ desk.workspace.db.seatMaps.find seat.seatMapId,
    ∃ event ∈ desk.events.events.find seatMap.eventId, isPublished event = true

/-- A published event's seats that somebody has stay, under the type they have. -/
def TakesNoSeat (before after : SeatingDesk) : Prop :=
  ∀ seat ∈ before.workspace.db.seats, OfPublished before seat →
    SeatBooked before.workspace.db seat.id ∨ SeatHeld before seat.id →
      ∃ row ∈ after.workspace.db.seats.find seat.id, row.ticketTypeId = seat.ticketTypeId

def IsRefusal : SeatingPhase → Prop
  | .done (.thrown _) | .done .crashed => True
  | _ => False

/-- The request, about an event it found published, has written its seats. -/
def HasWritten : SeatingPhase → Prop
  | .updating event wrote _ => wrote = true ∧ isPublished event = true
  | _ => False

section Asked

variable (texts : EventTexts)

/-- A step of a request takes no seat from anyone, and one that refuses it writes nothing and
comes after no write. -/
structure SavesCleanly (desk : SeatingDesk) (answers : EventAnswers) (phase : SeatingPhase) :
    Prop where
  seats : TakesNoSeat desk (actOnSeating texts desk answers phase).1
  refusals : IsRefusal (actOnSeating texts desk answers phase).2 →
    (actOnSeating texts desk answers phase).1 = desk ∧ ¬ HasWritten phase

end Asked

/-! ## What a step would take -/

/-- The position is one of the requested grid's. -/
def InGrid (input : ConfigureReservedInput) (seat : Seat) : Prop :=
  seat.key ∈ (gridPositions input.rows input.seatsPerRow).map SeatPosition.key

instance (input : ConfigureReservedInput) : DecidablePred (InGrid input) :=
  fun _ => inferInstanceAs (Decidable (_ ∈ _))

/-- The seats of the event's map that the step removes, if it commits. -/
def dropped (desk : SeatingDesk) : SeatingPhase → List Seat
  | .apply event input =>
    (reservedSnapshot desk.workspace.db event.id desk.workspace.clock).seats.filter
      fun seat => ¬ InGrid input seat
  | .clear event _ => seatsOfEvent desk.workspace.db event.id
  | _ => []

/-- The step's own transaction is not refused. -/
def commits (desk : SeatingDesk) : SeatingPhase → Bool
  | .apply event input => (savedReserved desk event input).isOk
  | .clear event _ => (clearSeating desk.workspace.db event.id).isOk
  | _ => false

/-- Nobody holds a seat that the step removes from a published event. -/
def DropsNoHeld (desk : SeatingDesk) (phase : SeatingPhase) : Prop :=
  commits desk phase = true → ∀ seat ∈ dropped desk phase, OfPublished desk seat →
    ¬ SeatHeld desk seat.id

/-- After a write the event is still there, in order, and at the version the update loaded. -/
def StillUpdates (desk : SeatingDesk) : SeatingPhase → Prop
  | .updating event wrote (.first (.update eventId input)) => wrote = true →
    isPublished event = true → ∃ row ∈ findEvent desk.events eventId,
      assertEndAfterStart input row = true
  | .updating event wrote (.update loaded _) => wrote = true → isPublished event = true →
    ∃ row ∈ desk.events.events.rows, AtVersion loaded row
  | _ => True

def SparesHolders (desk : SeatingDesk) (_ : EventAnswers) (phase : SeatingPhase) : Prop :=
  DropsNoHeld desk phase ∧ StillUpdates desk phase

instance (desk : SeatingDesk) (seatId : Nat) : Decidable (SeatHeld desk seatId) :=
  inferInstanceAs (Decidable (∃ _ ∈ desk.workspace.db.seatHolds.rows, _))

instance (desk : SeatingDesk) : DecidablePred (OfPublished desk) :=
  fun seat => inferInstanceAs (Decidable
    (∃ seatMap ∈ desk.workspace.db.seatMaps.find seat.seatMapId,
      ∃ _ ∈ desk.events.events.find seatMap.eventId, _))

instance (desk : SeatingDesk) (phase : SeatingPhase) : Decidable (DropsNoHeld desk phase) :=
  inferInstanceAs (Decidable (_ → ∀ _ ∈ dropped desk phase, _ → _))

instance (desk : SeatingDesk) : DecidablePred (StillUpdates desk)
  | .updating _ _ (.first (.update eventId _)) =>
    inferInstanceAs (Decidable (_ → _ → ∃ _ ∈ findEvent desk.events eventId, _))
  | .updating _ _ (.update _ _) =>
    inferInstanceAs (Decidable (_ → _ → ∃ _ ∈ desk.events.events.rows, _))
  | .updating _ _ (.first (.create _ _)) | .updating _ _ (.first (.duplicate _ _))
  | .updating _ _ (.first (.publish _ _ _)) | .updating _ _ (.first (.unpublish _ _))
  | .updating _ _ (.first (.delete _ _)) | .updating _ _ (.first (.cancel _ _ _ _))
  | .updating _ _ (.slug _ _ _ _) | .updating _ _ (.insert _) | .updating _ _ (.category _ _)
  | .updating _ _ (.readiness _ _ _) | .updating _ _ (.publish _ _ _)
  | .updating _ _ (.announcePublished _ _) | .updating _ _ (.unpublish _)
  | .updating _ _ (.sold _) | .updating _ _ (.delete _) | .updating _ _ (.cancel _ _ _)
  | .updating _ _ (.announceCancelled _ _ _) | .updating _ _ (.done _)
  | .first _ | .apply _ _ | .existing _ _ | .clear _ _ | .done _ => isTrue trivial

instance (desk : SeatingDesk) (answers : EventAnswers) :
    DecidablePred (SparesHolders desk answers) :=
  fun _ => inferInstanceAs (Decidable (_ ∧ _))

/-! ## Seats -/

section Seats

variable {desk : SeatingDesk} {after : Db}

theorem isKept_iff {seats : List Seat} {input : ConfigureReservedInput} {seat : Seat} :
    IsKept (layoutAfter seats input) seat ↔ InGrid input seat := by
  unfold IsKept InGrid layoutAfter
  rw [List.map_map]
  rfl

/-- What a step's transaction does to seats: it drops some, none of them booked, and leaves as
they are all others that somebody has. -/
structure SeatsLeft (desk : SeatingDesk) (dropped : List Seat) (after : Db) : Prop where
  gone : ∀ seat ∈ dropped, after.seats.find seat.id = none
  stored : ∀ seat ∈ dropped, seat ∈ desk.workspace.db.seats
  unbooked : ∀ seat ∈ dropped, ¬ SeatBooked desk.workspace.db seat.id
  stays : ∀ seat ∈ desk.workspace.db.seats, seat ∉ dropped →
    SeatBooked desk.workspace.db seat.id ∨ SeatHeld desk seat.id →
      after.seats.find seat.id = some seat

/-- Such a transaction takes a seat from someone exactly where somebody holds one it drops. -/
theorem SeatsLeft.takesNoSeat {seats : List Seat} (left : SeatsLeft desk seats after) :
    TakesNoSeat desk { desk with workspace := { desk.workspace with db := after } } ↔
      ∀ seat ∈ seats, OfPublished desk seat → ¬ SeatHeld desk seat.id := by
  constructor
  · intro takes seat drop published held
    obtain ⟨row, there, _⟩ := takes seat (left.stored seat drop) published (Or.inr held)
    cases (left.gone seat drop).symm.trans there
  · intro spares seat stored published occupied
    by_cases drop : seat ∈ seats
    · rcases occupied with booked | held
      · exact absurd booked (left.unbooked seat drop)
      · exact absurd held (spares seat drop published)
    · exact ⟨seat, left.stays seat stored drop occupied, rfl⟩

/-- A seat that somebody has is among those a save finds occupied. -/
theorem mem_occupied {seatIds : List Nat} {seatId : Nat} (listed : seatId ∈ seatIds)
    (occupied : SeatBooked desk.workspace.db seatId ∨ SeatHeld desk seatId) :
    seatId ∈ occupiedSeatIdsIn desk.workspace.db seatIds desk.workspace.clock := by
  unfold occupiedSeatIdsIn
  rw [List.mem_append]
  rcases occupied with ⟨assignment, stored, same, live⟩ | ⟨hold, stored, named, reserves⟩
  · refine Or.inr (List.mem_map.mpr ⟨assignment, ?_, same⟩)
    exact Table.mem_select.mpr ⟨stored, same ▸ listed, live⟩
  · refine Or.inl (List.mem_filterMap.mpr ⟨hold, Table.mem_select.mpr ⟨stored, reserves⟩, ?_⟩)
    rw [named, Option.filter_some, if_pos (by simpa using listed)]

theorem saved_left {event : EventRecord} {input : ConfigureReservedInput}
    (saved : savedReserved desk event input = .ok after) :
    SeatsLeft desk (dropped desk (.apply event input)) after := by
  obtain ⟨seatMapId, applied⟩ := map_snd_ok.mp saved
  obtain ⟨plan, planned, written⟩ := applyReserved_ok applied
  have plans := planReserved_ok planned
  have removes (seat : Seat) (stored : seat ∈ desk.workspace.db.seats) :
      seat.id ∈ plan.removedSeatIds ↔ seat ∈ dropped desk (.apply event input) := by
    rw [plans.mem_removed, dropped, List.mem_filter, decide_eq_true_eq, isKept_iff.symm.not]
    constructor
    · rintro ⟨other, there, same, out⟩
      have own : other = seat := Table.eq_of_key (mem_snapshot.mp there).1 stored same
      rw [own] at there out
      exact ⟨there, out⟩
    · rintro ⟨there, out⟩
      exact ⟨seat, there, rfl, out⟩
  have stored (seat : Seat) (drop : seat ∈ dropped desk (.apply event input)) :
      seat ∈ desk.workspace.db.seats :=
    (mem_snapshot.mp (List.mem_filter.mp drop).1).1
  refine ⟨fun seat drop => ?_, stored, fun seat drop => ?_, fun seat there kept occupied => ?_⟩
  · exact written.gone (stored seat drop) ((removes seat (stored seat drop)).mpr drop)
  · rintro ⟨assignment, assigned, same, _⟩
    refine written.unassigned assignment assigned ?_
    rw [same]
    exact (removes seat (stored seat drop)).mpr drop
  · refine written.stays there (fun removed => kept ((removes seat there).mp removed)) ?_
    -- a seat that is taken is none of those the plan moves to another type
    intro group member listed
    obtain ⟨free, other, onMap, same⟩ := plans.mem_retyped member listed
    refine free (mem_occupied ?_ occupied)
    exact List.mem_map.mpr ⟨other, onMap, same⟩

theorem cleared_left {event : EventRecord} {headcount : Nat}
    (cleared : clearSeating desk.workspace.db event.id = .ok after) :
    SeatsLeft desk (dropped desk (.clear event headcount)) after := by
  obtain ⟨unassigned, rfl⟩ := clearSeating_ok cleared
  have listed {seat : Seat} (drop : seat ∈ seatsOfEvent desk.workspace.db event.id) :
      seat.id ∈ (seatsOfEvent desk.workspace.db event.id).map Seat.id :=
    List.mem_map.mpr ⟨seat, drop, rfl⟩
  refine ⟨fun seat drop => ?_, fun seat drop => ?_, fun seat drop => ?_,
    fun seat stored kept _ => ?_⟩
  · refine Table.find_eq_none.mpr fun row member same => (Table.mem_delete.mp member).2 ?_
    rw [show row.id = seat.id from same]
    exact listed drop
  · exact (Table.mem_select.mp drop).1
  · rintro ⟨assignment, assigned, same, _⟩
    exact unassigned assignment assigned (same ▸ listed drop)
  · refine Table.find_key (Table.mem_delete.mpr ⟨stored, fun drop => kept ?_⟩)
    obtain ⟨other, there, same⟩ := List.mem_map.mp drop
    have own : other = seat := Table.eq_of_key (Table.mem_select.mp there).1 stored same
    exact own ▸ there

/-- A step that leaves the seats takes none. -/
theorem takesNoSeat_of_same {next : SeatingDesk}
    (same : next.workspace.db.seats = desk.workspace.db.seats) : TakesNoSeat desk next :=
  fun seat stored _ _ => ⟨seat, same ▸ Table.find_key stored, rfl⟩

end Seats

/-! ## The event's own update -/

/-- The update a request about seats makes: it names neither a version nor a category. -/
def IsSeatingUpdate : EventPhase → Prop
  | .first (.update _ input) => input.version = none ∧ input.categoryId = none
  | .category _ input => input.categoryId = none
  | .update _ _ => True
  | _ => False

/-- The update of the event itself, its category that is not asked for, and its write. -/
theorem IsSeatingUpdate.shape {phase : EventPhase} (updates : IsSeatingUpdate phase) :
    (∃ eventId input, phase = .first (.update eventId input) ∧
      input.version = none ∧ input.categoryId = none) ∨
    (∃ event input, phase = .category event input ∧ input.categoryId = none) ∨
    ∃ loaded input, phase = .update loaded input := by
  cases phase with
  | first request =>
    cases request with
    | update eventId input => exact Or.inl ⟨eventId, input, rfl, updates⟩
    | _ => exact updates.elim
  | category event input => exact Or.inr (Or.inl ⟨event, input, rfl, updates⟩)
  | update loaded input => exact Or.inr (Or.inr ⟨loaded, input, rfl⟩)
  | _ => exact updates.elim

def KnowsUpdate : SeatingPhase → Prop
  | .updating _ _ phase => IsSeatingUpdate phase
  | _ => True

section Updates

variable {texts : EventTexts} {desk : SeatingDesk}

theorem afterUpdate_continues {event : EventRecord} {wrote : Bool} {phase : EventPhase}
    (updates : IsSeatingUpdate phase) :
    afterUpdate event wrote phase = .updating event wrote phase := by
  cases phase with
  | done => exact updates.elim
  | _ => rfl

/-- The update is refused before its write exactly where the event is gone or ends too early. -/
theorem beginUpdate_cases (eventId : Nat) (input : UpdateEventInput)
    (anyVersion : input.version = none) :
    ((∃ row ∈ findEvent desk.events eventId, assertEndAfterStart input row = true) ∧
      ∃ row, withEvent desk.events eventId (fun row => decideUpdate row input) =
        .category row input) ∨
    (¬ (∃ row ∈ findEvent desk.events eventId, assertEndAfterStart input row = true) ∧
      ∃ exception, withEvent desk.events eventId (fun row => decideUpdate row input) =
        eventRefused exception) := by
  unfold withEvent
  cases found : findEvent desk.events eventId with
  | none =>
    refine Or.inr ⟨?_, _, rfl⟩
    rintro ⟨_, missing, _⟩
    cases missing
  | some row =>
    have seen : seesVersion input.version row = true := by
      rw [anyVersion]
      rfl
    cases ordered : assertEndAfterStart input row with
    | true =>
      refine Or.inl ⟨⟨row, rfl, ordered⟩, row, ?_⟩
      simp [decideUpdate, seen, ordered]
    | false =>
      refine Or.inr ⟨?_, EVENT_END_BEFORE_START, ?_⟩
      · rintro ⟨other, same, inOrder⟩
        cases same
        rw [ordered] at inOrder
        cases inOrder
      · simp [decideUpdate, seen, ordered]

/-- The write goes through exactly where the row is at the version that was loaded. -/
theorem updateEvents_cases (events : EventDesk) (loaded : EventRecord)
    (values : EventRecord → EventRecord) :
    ((∃ row ∈ events.events.rows, AtVersion loaded row) ∧
      ∃ row, (updateEvents events loaded values).2 = some row) ∨
    (¬ (∃ row ∈ events.events.rows, AtVersion loaded row) ∧
      updateEvents events loaded values = (events, none)) := by
  by_cases current : ∃ row ∈ events.events.rows, AtVersion loaded row
  · refine Or.inl ⟨current, ?_⟩
    have some : events.events.select (AtVersion loaded) ≠ [] := Table.select_ne_nil.mpr current
    obtain ⟨row, rest, found⟩ := List.exists_cons_of_ne_nil some
    exact ⟨_, by rw [updateEvents, found]; rfl⟩
  · refine Or.inr ⟨current, ?_⟩
    have none : events.events.select (AtVersion loaded) = [] := by
      by_contra found
      exact current (Table.select_ne_nil.mp found)
    unfold updateEvents
    rw [none, Table.update_of_miss fun row stored hit => current ⟨row, stored, hit⟩]
    rfl

/-- What the update goes on with: the event is there and in order, or at the version it loaded. -/
def EventKept (desk : SeatingDesk) : EventPhase → Prop
  | .first (.update eventId input) =>
    ∃ row ∈ findEvent desk.events eventId, assertEndAfterStart input row = true
  | .update loaded _ => ∃ row ∈ desk.events.events.rows, AtVersion loaded row
  | _ => True

/-- The event's update is refused exactly where the event did not stay, and changes nothing then. -/
theorem updating_refused (answers : EventAnswers) {event : EventRecord} {wrote : Bool}
    {phase : EventPhase} (updates : IsSeatingUpdate phase) :
    (IsRefusal (actOnSeating texts desk answers (.updating event wrote phase)).2 ↔
      ¬ EventKept desk phase) ∧
    (IsRefusal (actOnSeating texts desk answers (.updating event wrote phase)).2 →
      (actOnSeating texts desk answers (.updating event wrote phase)).1 = desk) := by
  have continues {next : EventPhase} (goesOn : IsSeatingUpdate next) :
      ¬ IsRefusal (afterUpdate event wrote next) := by
    rw [afterUpdate_continues goesOn]
    exact id
  rcases updates.shape with
    ⟨eventId, input, rfl, unversioned, uncategorized⟩ | ⟨row, input, rfl, none⟩ |
    ⟨loaded, input, rfl⟩
  · simp only [actOnSeating, actOnEvents, beginEvent, EventKept]
    rcases beginUpdate_cases eventId input unversioned with
      ⟨there, row, goesOn⟩ | ⟨gone, exception, refused⟩
    · rw [goesOn]
      exact ⟨iff_of_false (continues uncategorized) fun gone => gone there, fun _ => trivial⟩
    · rw [refused]
      exact ⟨iff_of_true trivial gone, fun _ => trivial⟩
  · have next : (actOnEvents texts desk.events answers (.category row input)).2 =
        .update row input := by
      simp only [actOnEvents, none]
    simp only [actOnSeating, next, EventKept, not_true_eq_false]
    exact ⟨iff_of_false (continues trivial) id, fun refusal => absurd refusal (continues trivial)⟩
  · simp only [actOnSeating, actOnEvents, EventKept, unlessStale]
    rcases updateEvents_cases desk.events loaded (contentValues texts input) with
      ⟨current, row, written⟩ | ⟨stale, missed⟩
    · rw [written]
      exact ⟨iff_of_false id fun stale => stale current, fun refusal => refusal.elim⟩
    · rw [missed]
      exact ⟨iff_of_true trivial stale, fun _ => rfl⟩

theorem stillUpdates_iff {event : EventRecord} {wrote : Bool} {phase : EventPhase}
    (updates : IsSeatingUpdate phase) : StillUpdates desk (.updating event wrote phase) ↔
      (HasWritten (.updating event wrote phase) → EventKept desk phase) := by
  rcases updates.shape with ⟨_, _, rfl, _⟩ | ⟨_, _, rfl, _⟩ | ⟨_, _, rfl⟩
  · exact and_imp.symm
  · exact iff_of_true trivial fun _ => trivial
  · exact and_imp.symm

/-- A refusal of the event's update changes nothing, and leaves seats behind that were written
exactly where the event did not stay as it was loaded. -/
theorem updating_refusals (answers : EventAnswers) {event : EventRecord} {wrote : Bool}
    {phase : EventPhase} (updates : IsSeatingUpdate phase) :
    (IsRefusal (actOnSeating texts desk answers (.updating event wrote phase)).2 →
      (actOnSeating texts desk answers (.updating event wrote phase)).1 = desk ∧
        ¬ HasWritten (.updating event wrote phase)) ↔
    StillUpdates desk (.updating event wrote phase) := by
  obtain ⟨refused, same⟩ : (IsRefusal _ ↔ _) ∧ (IsRefusal _ → _ = desk) :=
    updating_refused answers updates
  rw [stillUpdates_iff updates]
  constructor
  · intro clean written
    by_contra lost
    exact (clean (refused.mpr lost)).2 written
  · exact fun stays refusal =>
      ⟨same refusal, fun written => refused.mp refusal (stays written)⟩

end Updates

/-! ## One step -/

section Steps

variable {texts : EventTexts} {desk : SeatingDesk}

/-- What the step's transaction does to seats, it does exactly as cleanly as nobody holds what it
drops. -/
theorem written_savesCleanly (answers : EventAnswers) {phase : SeatingPhase}
    {written : Except TxError Db} {event : EventRecord} {next : EventPhase}
    (acts : actOnSeating texts desk answers phase = seatsWritten desk event written next)
    (committed : commits desk phase = written.isOk) (unwritten : ¬ HasWritten phase)
    (left : ∀ after, written = .ok after → SeatsLeft desk (dropped desk phase) after) :
    SavesCleanly texts desk answers phase ↔ DropsNoHeld desk phase := by
  unfold DropsNoHeld
  rw [committed]
  cases written with
  | error failure =>
    refine iff_of_true ⟨?_, fun _ => ?_⟩ fun failed => by cases failed
    · rw [acts]
      exact takesNoSeat_of_same rfl
    · rw [acts]
      exact ⟨rfl, unwritten⟩
  | ok after =>
    have takes := (left after rfl).takesNoSeat
    constructor
    · intro clean _
      have kept := clean.seats
      rw [acts] at kept
      exact takes.mp kept
    · intro spares
      refine ⟨?_, ?_⟩
      · rw [acts]
        exact takes.mpr (spares rfl)
      · rw [acts]
        exact fun refusal => refusal.elim

/-- Exactly dropping a seat that is held, and losing the event after a write, are unclean. -/
theorem act_savesCleanly (answers : EventAnswers) {phase : SeatingPhase}
    (knows : KnowsUpdate phase) :
    SavesCleanly texts desk answers phase ↔ SparesHolders desk answers phase := by
  unfold SparesHolders
  cases phase with
  | first | existing | done =>
    refine iff_of_true ⟨takesNoSeat_of_same rfl, fun _ => ⟨rfl, id⟩⟩ ⟨?_, trivial⟩
    exact fun committed => by cases committed
  | apply event input =>
    rw [and_iff_left (by trivial : StillUpdates desk (.apply event input))]
    exact written_savesCleanly answers rfl rfl id fun _ => saved_left
  | clear event headcount =>
    rw [and_iff_left (by trivial : StillUpdates desk (.clear event headcount))]
    exact written_savesCleanly answers rfl rfl id fun _ => cleared_left
  | updating event wrote inner =>
    have nothing : DropsNoHeld desk (.updating event wrote inner) := fun committed => by
      cases committed
    rw [and_iff_right nothing, ← updating_refusals answers knows]
    exact ⟨fun clean => clean.refusals, fun refusals => ⟨takesNoSeat_of_same rfl, refusals⟩⟩

theorem act_knowsUpdate (answers : EventAnswers) {phase : SeatingPhase}
    (knows : KnowsUpdate phase) : KnowsUpdate (actOnSeating texts desk answers phase).2 := by
  have found (eventId : Nat) (next : EventRecord → SeatingPhase)
      (fine : ∀ event, KnowsUpdate (next event)) :
      KnowsUpdate (withSeatedEvent desk eventId next) := by
    unfold withSeatedEvent
    split
    · trivial
    · split
      · trivial
      · exact fine _
  have wrote (event : EventRecord) (written : Except TxError Db) {next : EventPhase}
      (fine : IsSeatingUpdate next) : KnowsUpdate (seatsWritten desk event written next).2 := by
    cases written with
    | ok => exact fine
    | error failure => cases failure <;> trivial
  cases phase with
  | first request =>
    cases request with
    | configureReserved eventId input =>
      refine found eventId _ fun event => ?_
      split <;> trivial
    | configureGeneral eventId headcount => exact found eventId _ fun _ => trivial
  | apply event input => exact wrote event _ ⟨rfl, rfl⟩
  | existing event headcount =>
    simp only [actOnSeating, decideGeneral]
    split
    · exact ⟨rfl, rfl⟩
    · split <;> trivial
  | clear event headcount => exact wrote event _ ⟨rfl, rfl⟩
  | updating event wrote inner =>
    have after {next : EventPhase} (fine : IsSeatingUpdate next) :
        KnowsUpdate (afterUpdate event wrote next) := by
      rw [afterUpdate_continues fine]
      exact fine
    cases inner with
    | first request =>
      cases request with
      | update eventId input =>
        simp only [actOnSeating, actOnEvents, beginEvent]
        rcases beginUpdate_cases eventId input knows.1 with
          ⟨_, row, goesOn⟩ | ⟨_, exception, refused⟩
        · rw [goesOn]
          exact after knows.2
        · rw [refused]
          trivial
      | _ => exact knows.elim
    | category row input =>
      have none : input.categoryId = none := knows
      simp only [actOnSeating, actOnEvents, none]
      exact after trivial
    | update loaded input =>
      simp only [actOnSeating, actOnEvents, unlessStale]
      split <;> trivial
    | _ => exact knows.elim
  | done => trivial

end Steps

/-! ## Runs -/

section Runs

variable {texts : EventTexts}

/-- Requests know what they update the event with, whatever happens. -/
theorem seating_keep : (seatingRequests texts).Keeps (fun _ => True) (fun _ => KnowsUpdate)
    (fun _ _ _ => True) fun _ _ => True where
  opened := fun _ _ _ => trivial
  crashed := fun _ _ => trivial
  act := fun _ answers _ _ knows _ => ⟨trivial, act_knowsUpdate answers knows⟩
  undisturbed := fun _ _ _ _ _ _ _ other => other
  outside := fun _ _ _ _ => ⟨trivial, fun _ knows => knows⟩

abbrev SeatingSound (pool : SeatingPool) : Prop :=
  pool.Sound (fun _ => True) fun _ => KnowsUpdate

theorem serve_seatingSound (pool : SeatingPool) (turn : SeatingTurn) (sound : SeatingSound pool) :
    SeatingSound ((seatingRequests texts).serve pool turn) :=
  seating_keep.serve pool turn sound (Handler.guarded_true pool turn)

/-- Each step that is taken in the turn saves cleanly. -/
def SavedCleanly (texts : EventTexts) : SeatingPool → SeatingTurn → Prop :=
  Handler.Guarded (SavesCleanly texts) fun _ _ => True

def HoldersSpared : SeatingPool → SeatingTurn → Prop :=
  Handler.Guarded SparesHolders fun _ _ => True

instance (pool : SeatingPool) (turn : SeatingTurn) : Decidable (HoldersSpared pool turn) :=
  inferInstanceAs (Decidable (Handler.Guarded _ _ pool turn))

theorem turn_savesCleanly (texts : EventTexts) (pool : SeatingPool) (turn : SeatingTurn)
    (sound : SeatingSound pool) : SavedCleanly texts pool turn ↔ HoldersSpared pool turn :=
  Handler.guarded_congr (fun job stored answers =>
    act_savesCleanly answers (sound.jobs job stored)) turn

/-- Saving seat maps takes nobody's seat, and refuses only what has written nothing, exactly in
the runs where no step drops a held seat of a published event or loses the event after its seats
are written. -/
theorem savedCleanly_iff {start : SeatingPool} (rest : start.jobs.rows = [])
    (turns : List SeatingTurn) :
    Meets (seatingRequests texts).serve (SavedCleanly texts) start turns ↔
      Meets (seatingRequests texts).serve HoldersSpared start turns := by
  have sound : SeatingSound start :=
    ⟨trivial, fun job stored => absurd stored (Table.not_mem_of_empty rest job)⟩
  exact meets_iff_of_invariant serve_seatingSound (turn_savesCleanly texts) sound turns

end Runs

/-! ## A held seat in the last row -/

/-- Two rows of one seat, both stalls, of a concert that is on sale. -/
def twoRows : SeatingPool where
  shared :=
    { workspace := { boxOffice with
        db := { boxOffice.db with
          seats := ⟨[{ id := 0, seatMapId := 0, rowLabel := some "1", seatNumber := "1"
                       ticketTypeId := some 1 },
              { id := 1, seatMapId := 0, rowLabel := some "2", seatNumber := "1"
                ticketTypeId := some 1 }], 2, by decide, by decide⟩ } }
      events :=
        { events := ⟨[{ onlineTalk with
              id := 1, status := .upcoming
              content := { onlineTalk.content with isOnline := false, seatingMode := .reserved } }],
            2, by decide, by decide⟩
          outbox := []
          clock := 0 } }
  jobs := Table.empty

/-- One row is laid out instead of two. -/
def oneRow : ConfigureReservedInput where
  name := "Hall"
  rows := 1
  seatsPerRow := 1
  rowTicketTypes := none
  seatTicketTypes := none

/-- The seat in front is held, and the row behind it is given up. -/
def frontRowHeld : List SeatingTurn :=
  [.outside (.booking (.holdSeats (stallHold 0 1000))), .receive (.configureReserved 1 oneRow)] ++
    List.replicate 5 (.advance 0 oneType)

theorem savedCleanly_frontRowHeld :
    Meets (seatingRequests plainTexts).serve (SavedCleanly plainTexts) twoRows frontRowHeld :=
  (savedCleanly_iff rfl _).mpr (by decide +kernel)

/-- The seat behind is held, and the row it is in is given up. -/
def backRowHeld : List SeatingTurn :=
  [.outside (.booking (.holdSeats (stallHold 1 1000))), .receive (.configureReserved 1 oneRow),
    .advance 0 oneType]

theorem backRowHeld_loses : ¬ ∀ (texts : EventTexts) (start : SeatingPool)
    (turns : List SeatingTurn), start.jobs.rows = [] →
      Meets (seatingRequests texts).serve (SavedCleanly texts) start turns := by
  intro clean
  have met := clean plainTexts twoRows (backRowHeld ++ [.advance 0 oneType]) rfl
  let before := run (seatingRequests plainTexts).serve twoRows backRowHeld
  obtain ⟨job, found, seat, stored, published, held, gone⟩ : ∃ job ∈ before.jobs.find 0,
      ∃ seat ∈ before.shared.workspace.db.seats.rows, OfPublished before.shared seat ∧
        SeatHeld before.shared seat.id ∧
          (actOnSeating plainTexts before.shared oneType
            job.phase).1.workspace.db.seats.find seat.id = none := by
    decide +kernel
  have saves := (meets_append.mp met).2.1 job found
  obtain ⟨row, there, _⟩ := saves.seats seat stored published (Or.inr held)
  cases gone.symm.trans there

end EventaApi.Guarantees
