import EventaApi.Guarantees.Opening

/-!
# Which holds a confirm touches

The statements that convert or attach holds key on the ids the client sent and
nothing else, and the checks before them ask only that those holds are live and, for
a reserved order, that their seats are the ones priced. So a confirm stays within
its own holds exactly when the client named only those: holds of the ordered event
and ticket type, or of the seats priced, that back no order yet. Releasing early is
different: its statement asks for holds no order has taken over.
-/
namespace EventaApi.Guarantees
open Library Source

/-- A hold of the ordered event and ticket type, or of one of the seats priced. -/
def OfBooking (input : PlaceOrderInput) (hold : SeatHold) : Prop :=
  (hold.eventId = input.eventId ∧ hold.ticketTypeId = some input.ticketTypeId) ∨
    ∃ seatId ∈ input.seatIds, hold.seatId = some seatId

/-- A hold this confirm may change: of its booking, and backing no order. -/
def Changeable (input : PlaceOrderInput) (hold : SeatHold) : Prop :=
  OfBooking input hold ∧ hold.orderId = none

instance (input : PlaceOrderInput) (hold : SeatHold) : Decidable (OfBooking input hold) :=
  inferInstanceAs (Decidable (_ ∨ _))

instance (input : PlaceOrderInput) (hold : SeatHold) : Decidable (Changeable input hold) :=
  inferInstanceAs (Decidable (_ ∧ _))

/-- The confirm changed no hold but those it may, and wrote no new one. -/
structure Isolated (before after : Table SeatHold) (input : PlaceOrderInput) : Prop where
  kept : ∀ hold ∈ before, after.find hold.id = some hold ∨ Changeable input hold
  known : ∀ hold ∈ after, (before.find hold.id).isSome

section Holds

variable {holds : Table SeatHold} {input : PlaceOrderInput} {orderId : Nat}

/-- A confirm rewrites a hold it names, and no other. -/
theorem find_settledHolds (input : PlaceOrderInput) (orderId : Nat) {hold : SeatHold}
    (stored : hold ∈ holds) :
    ∃ written, (settledHolds input holds orderId).find hold.id = some written ∧
      (hold.id ∉ input.holdIds → written = hold) ∧
      (hold.id ∈ input.holdIds →
        (input.convertsHolds = true → written.status = .converted) ∧
        (input.convertsHolds = false → written.orderId = some orderId)) := by
  have found : holds.find hold.id = some hold := Table.find_key stored
  unfold settledHolds convertHolds attachHolds
  rcases Bool.eq_false_or_eq_true input.convertsHolds with converts | keeps
  · rw [if_pos converts, Table.find_update, found]
    refine ⟨_, rfl, fun unnamed => if_neg unnamed, fun named => ⟨fun _ => ?_, fun attaches => ?_⟩⟩
    · simp [named]
    · rw [converts] at attaches
      cases attaches
  · rw [if_neg (by simp [keeps]), Table.find_update, found]
    refine ⟨_, rfl, fun unnamed => if_neg unnamed, fun named => ⟨fun converts => ?_, fun _ => ?_⟩⟩
    · rw [keeps] at converts
      cases converts
    · simp [named]

/-- Naming a live hold changes its row: it is converted, or it names an order it did not. -/
theorem settledHolds_changes {hold : SeatHold} (stored : hold ∈ holds)
    (named : hold.id ∈ input.holdIds) (active : hold.status = .active)
    (unborn : hold.orderId ≠ some orderId) :
    (settledHolds input holds orderId).find hold.id ≠ some hold := by
  obtain ⟨written, found, _, moved⟩ := find_settledHolds input orderId stored
  obtain ⟨converted, attached⟩ := moved named
  rw [found]
  intro same
  cases same
  rcases Bool.eq_false_or_eq_true input.convertsHolds with converts | keeps
  · rw [converted converts] at active
    cases active
  · exact unborn (attached keeps)

theorem known_settledHolds {hold : SeatHold}
    (member : hold ∈ settledHolds input holds orderId) : (holds.find hold.id).isSome := by
  have there := Table.isSome_find_of_mem member
  unfold settledHolds convertHolds attachHolds at there
  split at there
  · rwa [Table.isSome_find_update] at there
  · rwa [Table.isSome_find_update] at there

end Holds

theorem Isolated.refl {holds : Table SeatHold} {input : PlaceOrderInput} :
    Isolated holds holds input where
  kept := fun _ stored => Or.inl (Table.find_key stored)
  known := fun _ stored => Table.isSome_find_of_mem stored

/-- A fresh order is isolated exactly when every hold it names was its to change. -/
theorem isolated_iff_of_placed {db after : Db} {input : PlaceOrderInput} {now : Instant}
    {placed : PlacedOrder} (placement : Placed db input now placed after)
    (backed : HoldsBacked db.orders db.seatHolds) :
    Isolated db.seatHolds after.seatHolds input ↔
      ∀ hold ∈ db.seatHolds, hold.id ∈ input.holdIds → Changeable input hold := by
  rw [placement.seatHolds]
  constructor
  · intro isolated hold stored named
    have active := (reserves_of_named placement.active stored named).1
    have unborn : hold.orderId ≠ some db.orders.next := by
      intro attached
      have exists' := backed hold stored _ attached
      rw [Table.find_next] at exists'
      cases exists'
    rcases isolated.kept hold stored with same | changeable
    · exact absurd same (settledHolds_changes stored named active unborn)
    · exact changeable
  · intro own
    refine ⟨fun hold stored => ?_, fun hold member => known_settledHolds member⟩
    by_cases named : hold.id ∈ input.holdIds
    · exact Or.inr (own hold stored named)
    · left
      obtain ⟨written, found, same, _⟩ := find_settledHolds input db.orders.next stored
      rw [found, same named]

/-- Releasing early leaves every hold that backs an order as it was. -/
theorem releaseUnattached_keeps {db : Db} {holdIds : List Nat} {hold : SeatHold}
    (stored : hold ∈ db.seatHolds) (attached : hold.orderId ≠ none) :
    (releaseUnattached db holdIds).seatHolds.find hold.id = some hold := by
  have found : db.seatHolds.find hold.id = some hold := Table.find_key stored
  unfold releaseUnattached
  rw [Table.find_update, found]
  simp [attached]

/-- A confirm that succeeds is isolated exactly when it replays its order or every hold it names
was its to change; one that is refused changes no hold; and an early release of any ids changes no
hold that backs an order. -/
theorem hold_isolation (workspace : Workspace)
    (backed : HoldsBacked workspace.db.orders workspace.db.seatHolds) (input : PlaceOrderInput) :
    let db := workspace.db
    let after := (step workspace (.placeOrder input)).db
    ((placeOrder db input workspace.clock).isOk →
      (Isolated db.seatHolds after.seatHolds input ↔
        ((findByIdempotencyKey db input.idempotencyKey).isSome ∨
          ∀ hold ∈ db.seatHolds, hold.id ∈ input.holdIds → Changeable input hold))) ∧
    (¬ (placeOrder db input workspace.clock).isOk → after.seatHolds = db.seatHolds) ∧
    ∀ holdIds, ∀ hold ∈ db.seatHolds, hold.orderId ≠ none →
      (step workspace (.releaseUnattached holdIds)).db.seatHolds.find hold.id = some hold := by
  refine ⟨?_, ?_, fun holdIds hold stored attached => releaseUnattached_keeps stored attached⟩
  · cases placing : placeOrder workspace.db input workspace.clock with
    | error refusal => exact fun succeeds => by cases succeeds
    | ok answer =>
      obtain ⟨placed, after⟩ := answer
      intro _
      have stepped : (step workspace (.placeOrder input)).db = after := by
        simp [step, commit, placing, Except.map]
      rw [stepped]
      cases found : findByIdempotencyKey workspace.db input.idempotencyKey with
      | some existing =>
        simp only [placeOrder, found] at placing
        cases placing
        simp [Isolated.refl]
      | none =>
        simp only [placeOrder, found] at placing
        rw [isolated_iff_of_placed (placeNew_ok found placing) backed]
        simp
  · cases placing : placeOrder workspace.db input workspace.clock with
    | error refusal => exact fun _ => by simp [step, commit, placing, Except.map]
    | ok answer => exact fun refused => absurd rfl refused

/-- Confirming with one's own fresh hold is isolated. -/
theorem hold_isolation_heldOffice :
    Isolated heldOffice.db.seatHolds
      (step heldOffice (.placeOrder (booking "A" 0 0 none [0] 100 false))).db.seatHolds
      (booking "A" 0 0 none [0] 100 false) := by
  have backed : HoldsBacked heldOffice.db.orders heldOffice.db.seatHolds := by
    unfold HoldsBacked
    decide +kernel
  refine ((hold_isolation heldOffice backed _).1 (by decide +kernel)).mpr (Or.inr ?_)
  decide +kernel

/-- A second buyer names the hold a first buyer's order waits on, and takes it over. -/
theorem hold_taken_over :
    let before := step heldOffice (.placeOrder (booking "A" 0 0 none [0] 100 false))
    let input := booking "B" 0 0 none [0] 100 false
    (placeOrder before.db input before.clock).isOk ∧
      ¬ Isolated before.db.seatHolds (step before (.placeOrder input)).db.seatHolds input := by
  refine ⟨by decide +kernel, fun isolated => ?_⟩
  have moved : ¬ ∀ hold ∈ (step heldOffice
      (.placeOrder (booking "A" 0 0 none [0] 100 false))).db.seatHolds,
      (step (step heldOffice (.placeOrder (booking "A" 0 0 none [0] 100 false)))
        (.placeOrder (booking "B" 0 0 none [0] 100 false))).db.seatHolds.find hold.id = some hold ∨
      Changeable (booking "B" 0 0 none [0] 100 false) hold := by
    decide +kernel
  exact moved isolated.kept

end EventaApi.Guarantees
