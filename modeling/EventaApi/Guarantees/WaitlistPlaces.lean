import EventaApi.Guarantees.DecisionSteps
import EventaApi.Guarantees.OnePlace

/-!
# Places in line

The line is put in order three times: a comparison of rows where a place is counted, a sort
where the front is read, and the loop that serves it. All three go by when a registration
joined, the id breaking a tie, so the places of a line are its numbers, each once, and the
front is the one with nobody ahead.
-/
namespace EventaApi.Guarantees
open Library Source

/-- Everybody in line for the ticket. -/
def lineFor (db : Db) (ticketTypeId : Nat) : List Order :=
  db.orders.select fun order => InLine db order ticketTypeId

/-- Every order has one line, of a ticket type that exists. -/
structure Lined (db : Db) : Prop where
  refs : References db
  typed : TypedLines db

section Places

variable {db : Db} {ticketTypeId : Nat}

theorem mem_lineFor {order : Order} :
    order ∈ lineFor db ticketTypeId ↔ order ∈ db.orders ∧ InLine db order ticketTypeId :=
  Table.mem_select

theorem entryOf_eq_some {item : OrderItem} {entry : WaitlistEntry} :
    entryOf db item = some entry ↔ (db.ticketTypes.find item.ticketTypeId).isSome ∧
      db.orders.find item.orderId = some entry.order ∧ entry.ticketTypeId = item.ticketTypeId ∧
      entry.quantity = item.quantity := by
  unfold entryOf
  constructor
  · intro joined
    obtain ⟨tier, typed, joined⟩ := Option.bind_eq_some_iff.mp joined
    obtain ⟨order, found, rfl⟩ := Option.map_eq_some_iff.mp joined
    exact ⟨by rw [typed]; rfl, found, rfl, rfl⟩
  · rintro ⟨typed, found, sameType, sameQuantity⟩
    obtain ⟨tier, located⟩ := Option.isSome_iff_exists.mp typed
    rw [located, found]
    cases entry
    simp_all

/-- Whom the line is read as. -/
theorem mem_waitlistFor {entry : WaitlistEntry} (lined : Lined db) :
    entry ∈ waitlistFor db ticketTypeId ↔ ∃ item ∈ db.orderItems,
      item.ticketTypeId = ticketTypeId ∧ db.orders.find item.orderId = some entry.order ∧
      entry.ticketTypeId = ticketTypeId ∧ entry.quantity = item.quantity ∧
      entry.order.status = .waitlisted := by
  simp only [waitlistFor, List.mem_filter, List.mem_filterMap, Table.mem_select, entryOf_eq_some,
    decide_eq_true_eq]
  constructor
  · rintro ⟨⟨item, ⟨stored, typed⟩, _, found, sameType, sameQuantity⟩, waiting⟩
    exact ⟨item, stored, typed, found, sameType.trans typed, sameQuantity, waiting⟩
  · rintro ⟨item, stored, typed, found, sameType, sameQuantity, waiting⟩
    exact ⟨⟨item, ⟨stored, typed⟩, lined.typed item stored, found, sameType.trans typed.symm,
      sameQuantity⟩, waiting⟩

/-- An offer reads the order it is made to. -/
theorem waitlistEntry_some {orderId : Nat} {entry : WaitlistEntry}
    (found : waitlistEntry db orderId = some entry) : ∃ item ∈ db.orderItems,
      item.orderId = orderId ∧ entry.order.id = orderId ∧ entry.ticketTypeId = item.ticketTypeId ∧
        entry.quantity = item.quantity := by
  obtain ⟨item, selected, joined⟩ := List.mem_filterMap.mp (List.mem_of_mem_head? found)
  obtain ⟨stored, named⟩ := Table.mem_select.mp selected
  obtain ⟨_, located, sameType, sameQuantity⟩ := entryOf_eq_some.mp joined
  exact ⟨item, stored, named, (Table.find_eq_some.mp located).2.trans named, sameType, sameQuantity⟩

/-- Nobody is read twice. -/
theorem waitlistFor_apart (refs : References db) :
    (waitlistFor db ticketTypeId).Pairwise fun first second => first.order.id ≠ second.order.id := by
  have apart : (db.orderItems.select fun item => item.ticketTypeId = ticketTypeId).Pairwise
      fun first second => first.orderId ≠ second.orderId := by
    apply Table.nodup_select.pairwise_of_forall_ne
    intro first member second member' differ same
    exact differ (refs.sole first (Table.mem_select.mp member).1 second
      (Table.mem_select.mp member').1 same)
  unfold waitlistFor
  apply List.Pairwise.filter
  rw [List.pairwise_filterMap]
  apply apart.imp
  intro first second differ entry joined other joined' same
  have here := (Table.find_eq_some.mp (entryOf_eq_some.mp joined).2.1).2
  have there := (Table.find_eq_some.mp (entryOf_eq_some.mp joined').2.1).2
  exact differ (here.symm.trans (same.trans there))

theorem places_nodup (ticketTypeId : Nat) (refs : References db) :
    ((waitlistFor db ticketTypeId).map fun entry => entry.order.place).Nodup := by
  rw [List.Nodup, List.pairwise_map]
  apply (waitlistFor_apart refs).imp
  intro first second differ same
  exact differ (congrArg (fun place => (ofLex place).2) same)

/-- The line as it is read is everybody in line. -/
theorem waitlistFor_perm (ticketTypeId : Nat) (lined : Lined db) :
    ((waitlistFor db ticketTypeId).map WaitlistEntry.order).Perm (lineFor db ticketTypeId) := by
  have nodup : ((waitlistFor db ticketTypeId).map WaitlistEntry.order).Nodup := by
    rw [List.Nodup, List.pairwise_map]
    apply (waitlistFor_apart lined.refs).imp
    exact fun differ same => differ (congrArg Order.id same)
  have apart : (lineFor db ticketTypeId).Nodup := Table.nodup_select
  rw [List.perm_ext_iff_of_nodup nodup apart]
  intro order
  simp only [List.mem_map, mem_waitlistFor lined]
  constructor
  · rintro ⟨entry, ⟨item, stored, typed, found, _, _, waiting⟩, rfl⟩
    obtain ⟨there, named⟩ := Table.find_eq_some.mp found
    exact mem_lineFor.mpr ⟨there, waiting, item, stored, named.symm, typed⟩
  · intro member
    obtain ⟨there, waiting, item, stored, named, typed⟩ := mem_lineFor.mp member
    refine ⟨⟨order, ticketTypeId, item.quantity⟩, ⟨item, stored, typed, ?_, rfl, rfl, waiting⟩, rfl⟩
    rw [named]
    exact Table.find_key there

theorem orderLine_of_item (refs : References db) {item : OrderItem} (stored : item ∈ db.orderItems) :
    orderLine db item.orderId = some item := by
  cases found : orderLine db item.orderId with
  | none =>
    have empty := List.head?_eq_none_iff.mp found
    have selected : item ∈ db.orderItems.select fun other => other.orderId = item.orderId :=
      Table.mem_select.mpr ⟨stored, rfl⟩
    rw [empty] at selected
    cases selected
  | some other =>
    obtain ⟨stored', named⟩ := orderLine_some found
    rw [refs.sole other stored' item stored named]

/-- How many are counted ahead of a registration is its place in the line as it is read. -/
theorem waitlistAhead_eq (lined : Lined db) {entry : WaitlistEntry}
    (member : entry ∈ waitlistFor db ticketTypeId) :
    waitlistAhead db entry.order.id =
      ahead (fun other => other.order.place) (waitlistFor db ticketTypeId) entry.order.place := by
  obtain ⟨item, stored, typed, found, _⟩ := (mem_waitlistFor lined).mp member
  have named : entry.order.id = item.orderId := (Table.find_eq_some.mp found).2
  simp only [waitlistAhead, named, found, orderLine_of_item lined.refs stored, typed]
  unfold ahead waitlistFor Table.select
  rw [← List.countP_eq_length_filter, List.countP_filter, List.countP_filterMap, List.countP_filter]
  apply List.countP_congr
  intro other present
  have known := lined.typed other present
  simp only [waitsFor]
  cases located : db.orders.find other.orderId with
  | none =>
    have unjoined : entryOf db other = none := by
      cases joined : entryOf db other with
      | none => rfl
      | some row =>
        have there := (entryOf_eq_some.mp joined).2.1
        rw [located] at there
        cases there
    simp [unjoined]
  | some order =>
    have joined : entryOf db other = some ⟨order, other.ticketTypeId, other.quantity⟩ :=
      entryOf_eq_some.mpr ⟨known, located, rfl, rfl⟩
    -- Whoever joined before has another id: a row does not precede itself.
    have before : (order.id ≠ entry.order.id ∧ order.joinedBefore entry.order) ↔
        order.place < entry.order.place := by
      rw [joinedBefore_iff]
      refine ⟨And.right, fun earlier => ⟨fun same => ?_, earlier⟩⟩
      have equal : order = entry.order := Table.eq_of_key (Table.find_eq_some.mp located).1
        (Table.find_eq_some.mp found).1 same
      rw [equal] at earlier
      exact lt_irrefl _ earlier
    simp only [joined, before]
    simp [and_comm]

/-- The numbers a line is given are 0, 1, 2 and so on, each once. -/
theorem waitlistAhead_numbers (lined : Lined db) :
    ((lineFor db ticketTypeId).map fun order => waitlistAhead db order.id).Perm
      (List.range (lineFor db ticketTypeId).length) := by
  have perm := waitlistFor_perm ticketTypeId lined
  have numbers := aheads_perm_range (places_nodup ticketTypeId lined.refs)
  rw [← perm.length_eq, List.length_map]
  refine (perm.map _).symm.trans ?_
  rw [List.map_map]
  refine List.Perm.trans (List.Perm.of_eq (List.map_congr_left ?_)) numbers
  exact fun entry member => waitlistAhead_eq lined member

/-- The front of the line has nobody ahead. -/
theorem frontOfLine_first (lined : Lined db) {entry : WaitlistEntry}
    (front : frontOfLine db ticketTypeId = some entry) :
    entry.order ∈ lineFor db ticketTypeId ∧ waitlistAhead db entry.order.id = 0 := by
  have member := argmin_member front
  constructor
  · exact (waitlistFor_perm ticketTypeId lined).subset (List.mem_map.mpr ⟨entry, member, rfl⟩)
  · rw [waitlistAhead_eq lined member]
    exact ahead_argmin front

/-- Nobody in line joined before the front. -/
theorem frontOfLine_least (lined : Lined db) {entry : WaitlistEntry}
    (front : frontOfLine db ticketTypeId = some entry) {order : Order}
    (member : order ∈ lineFor db ticketTypeId) : entry.order.place ≤ order.place := by
  obtain ⟨other, read, rfl⟩ := List.mem_map.mp ((waitlistFor_perm ticketTypeId lined).symm.subset member)
  have least := List.le_of_mem_argmin read (Option.mem_def.mpr front)
  exact least

theorem frontOfLine_eq_none (lined : Lined db) :
    frontOfLine db ticketTypeId = none ↔ lineFor db ticketTypeId = [] := by
  have perm := waitlistFor_perm ticketTypeId lined
  rw [frontOfLine, List.argmin_eq_none]
  constructor
  · intro empty
    rw [empty] at perm
    exact List.perm_nil.mp perm.symm
  · intro empty
    rw [empty] at perm
    exact List.map_eq_nil_iff.mp (List.perm_nil.mp perm)

end Places

/-! ## A line that nobody joins -/

/-- A join for the ticket writes no entry. -/
def NobodyJoins (ticketTypeId : Nat) (registrations : Registrations) : DecisionTurn → Prop
  | .elsewhere (.checkout (.joinWaitlist input) _) _ => input.ticketTypeId = ticketTypeId →
      (step registrations.service.office (.joinWaitlist input)).db.orders.rows =
        registrations.service.office.db.orders.rows
  | _ => True

/-- What becomes of a line that nobody joins. -/
structure LineShrinks (ticketTypeId : Nat) (before after : Db) : Prop where
  line : ∀ order ∈ after.orders, InLine after order ticketTypeId →
    ∃ old ∈ before.orders, old.place = order.place ∧ InLine before old ticketTypeId
  gone : ∀ orderId old, before.orders.find orderId = some old → old.status ≠ .waitlisted →
    ∃ new, after.orders.find orderId = some new ∧ new.status ≠ .waitlisted
  items : ∀ item ∈ before.orderItems, item ∈ after.orderItems

section Steps

variable {db after : Db} {now : Instant} {op : Op} {ticketTypeId : Nat}

theorem OrderStep.place {old new : Order} (moved : OrderStep now op old new) :
    new.place = old.place := by
  cases moved <;> rfl

theorem committed_keepsItems (committed : Committed db now op after) :
    ∀ item ∈ db.orderItems, item ∈ after.orderItems := by
  intro item member
  cases committed with
  | placed _ _ _ placement =>
    rw [placement.orderItems]
    exact Table.mem_insert.mpr (Or.inl member)
  | joined => exact Table.mem_insert.mpr (Or.inl member)
  | settled _ _ _ _ _ settles => cases settles <;> exact member
  | _ => exact member

/-- Whoever is in line for the ticket was, unless an entry for it was written. -/
theorem committed_line (refs : References db) (committed : Committed db now op after)
    (apart : ∀ input, op = .joinWaitlist input → input.ticketTypeId = ticketTypeId →
      after.orders.rows = db.orders.rows)
    {order : Order} (member : order ∈ after.orders) (inLine : InLine after order ticketTypeId) :
    ∃ old ∈ db.orders, old.place = order.place ∧ InLine db old ticketTypeId := by
  by_cases joins : op.joins
  · cases committed with
    | idle => exact ⟨order, member, rfl, inLine⟩
    | joined input =>
      obtain ⟨waiting, item, stored, named, typed⟩ := inLine
      rcases Table.mem_insert.mp member with old | rfl
      · rcases Table.mem_insert.mp stored with before | rfl
        · exact ⟨order, old, rfl, waiting, item, before, named, typed⟩
        · have issued := Table.key_lt_next old
          exact absurd named (Nat.ne_of_gt issued)
      · rcases Table.mem_insert.mp stored with before | rfl
        · have found := refs.items item before
          rw [named, Table.find_next] at found
          cases found
        · have same := congrArg List.length (apart input rfl typed)
          simp [Table.rows_insert] at same
    | _ => exact joins.elim
  · obtain ⟨old, stored, same, _, _, before⟩ := committed_inLine committed joins member inLine
    obtain ⟨new, found, moved⟩ := committed_order committed (Table.find_key stored)
    have here : after.orders.find old.id = some order := by
      rw [same]
      exact Table.find_key member
    cases here.symm.trans found
    exact ⟨old, stored, moved.place.symm, before⟩

theorem committed_lineShrinks (refs : References db) (committed : Committed db now op after)
    (apart : ∀ input, op = .joinWaitlist input → input.ticketTypeId = ticketTypeId →
      after.orders.rows = db.orders.rows) : LineShrinks ticketTypeId db after where
  line := fun _ member inLine => committed_line refs committed apart member inLine
  gone := by
    intro orderId old found left
    obtain ⟨new, found', moved⟩ := committed_order committed found
    exact ⟨new, found', fun waiting => left (moved.waitlisted waiting)⟩
  items := committed_keepsItems committed

/-- Every turn keeps the lines. -/
theorem attend_lined (registrations : Registrations) (turn : DecisionTurn)
    (lined : Lined registrations.service.office.db) :
    Lined (attend registrations turn).service.office.db := by
  rcases attend_committed registrations turn with ⟨_, _, _, committed⟩ | ⟨_, _, resized⟩
  · have typed := lined.typed.committed committed
    exact ⟨(lined.refs.committed committed).congr rfl rfl rfl rfl rfl, typed⟩
  · rw [resized]
    refine ⟨lined.refs.congr rfl rfl rfl rfl rfl, lined.typed.types (fun key known => ?_) rfl⟩
    rwa [resizeTier, Table.isSome_find_update]

/-- A turn that lets nobody join leaves the line as it was, or shorter. -/
theorem attend_lineShrinks (registrations : Registrations) (turn : DecisionTurn)
    (refs : References registrations.service.office.db)
    (nobody : NobodyJoins ticketTypeId registrations turn) :
    LineShrinks ticketTypeId registrations.service.office.db
      (attend registrations turn).service.office.db := by
  rcases attend_committed registrations turn with ⟨_, op, runs, committed⟩ | ⟨_, _, resized⟩
  · have apart : ∀ input, op = .joinWaitlist input → input.ticketTypeId = ticketTypeId →
        (attend registrations turn).service.office.db.orders.rows =
          registrations.service.office.db.orders.rows := by
      rintro input rfl sameLine
      cases turn with
      | elsewhere turn =>
        cases turn with
        | checkout =>
          cases runs
          exact nobody sameLine
        | invoicing | receive | advance | crash => exact runs.elim
      | resize => exact runs.elim
      | receive | crash => cases runs
      | advance =>
        rcases runs with idle | ⟨_, _, _, decides⟩
        · cases idle
        · exact decides.elim
    have shrinks := committed_lineShrinks refs committed apart
    exact ⟨shrinks.line, shrinks.gone, shrinks.items⟩
  · rw [resized]
    exact ⟨fun order member inLine => ⟨order, member, rfl, inLine⟩,
      fun _ old found left => ⟨old, found, left⟩, fun _ member => member⟩

end Steps

end EventaApi.Guarantees
