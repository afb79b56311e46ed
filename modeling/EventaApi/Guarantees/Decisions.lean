import EventaApi.Guarantees.Opening
import EventaApi.Guarantees.OrderHistory
import EventaApi.Source.RegistrationDecision

/-!
# One decision per registration

Tickets live only on confirmed orders, so a rejected one never admits anybody. A
rejection is terminal for approvals, rejections and refunds, but a payment that lands
after it takes the refusal path, which writes `cancelled` over `rejected` where a
refund's `statusAfterRefund` keeps it.
-/
namespace EventaApi.Guarantees
open Library Source

section Tickets

variable {db after : Db} {now : Instant}

/-- A live ticket's order is confirmed. -/
def LiveConfirmed (db : Db) : Prop :=
  ∀ ticket ∈ db.tickets, ticket.live →
    ∀ order ∈ db.orders, order.id = ticket.orderId → order.status = .confirmed

/-- Nothing was minted, and each order's row that moved had no live ticket. -/
theorem LiveConfirmed.rewrite (live : LiveConfirmed db) {order : Order} {write : Order → Order}
    {keeps : ∀ row, Keyed.key (write row) = Keyed.key row} (stored : order ∈ db.orders)
    (orders : after.orders = db.orders.update (fun row => row.id = order.id) write keeps)
    (tickets : ∀ ticket ∈ after.tickets, ticket.live →
      (ticket.orderId ≠ order.id → ticket ∈ db.tickets) ∧
        (ticket.orderId = order.id → (write order).status = .confirmed)) :
    LiveConfirmed after := by
  intro ticket issued admits row member same
  obtain ⟨elsewhere, here⟩ := tickets ticket issued admits
  rw [orders] at member
  obtain ⟨old, before, rfl⟩ := Table.mem_update.mp member
  by_cases hit : old.id = order.id
  · have selected : old = order := Table.eq_of_key before stored hit
    subst selected
    rw [if_pos rfl] at same ⊢
    exact here (same.symm.trans (keeps old))
  · rw [if_neg hit] at same ⊢
    exact live ticket (elsewhere fun mine => hit (same.trans mine)) admits old before same

/-- An order that is not confirmed has no live ticket, so any rewrite of it is safe. -/
theorem LiveConfirmed.unconfirmed (live : LiveConfirmed db) {order : Order}
    {write : Order → Order} {keeps : ∀ row, Keyed.key (write row) = Keyed.key row}
    (stored : order ∈ db.orders) (open' : order.status ≠ .confirmed)
    (orders : after.orders = db.orders.update (fun row => row.id = order.id) write keeps)
    (tickets : after.tickets = db.tickets) : LiveConfirmed after := by
  refine live.rewrite stored orders fun ticket issued admits => ?_
  rw [tickets] at issued
  exact ⟨fun _ => issued, fun mine => absurd (live ticket issued admits order stored mine.symm)
    open'⟩

/-- A new order, and perhaps its tickets. -/
theorem LiveConfirmed.insert (live : LiveConfirmed db) (refs : References db)
    {order : Nat → Order} {keyed : ∀ key, Keyed.key (order key) = key}
    (orders : after.orders = db.orders.insert order keyed)
    (tickets : ∀ ticket ∈ after.tickets, ticket ∈ db.tickets ∨
      (ticket.orderId = db.orders.next ∧ (order db.orders.next).status = .confirmed)) :
    LiveConfirmed after := by
  intro ticket issued admits row member same
  rw [orders] at member
  rcases tickets ticket issued with old | ⟨mine, confirmed⟩ <;>
    rcases Table.mem_insert.mp member with before | rfl
  · exact live ticket old admits row before same
  · have bought := refs.tickets ticket old
    rw [← same, show (order db.orders.next).id = db.orders.next from keyed _,
      Table.find_next] at bought
    cases bought
  · exact absurd (same.trans mine) (Nat.ne_of_lt (Table.key_lt_next before))
  · exact confirmed

theorem isRejectable_unconfirmed {order : Order} (rejectable : isRejectable order = true) :
    order.status ≠ .confirmed := by
  intro confirmed
  simp [isRejectable, AWAITING_DECISION, confirmed] at rejectable

theorem LiveConfirmed.settled (live : LiveConfirmed db) {input : SettleOrderInput} {order : Order}
    {settlement : Settlement} (stored : order ∈ db.orders)
    (settles : Settled db input order now settlement after) : LiveConfirmed after := by
  cases settles with
  | already | unavailable => exact live
  | refused _ _ unconfirmed => exact live.unconfirmed stored unconfirmed rfl rfl
  | awaits _ _ _ _ pending =>
    exact live.unconfirmed stored (by rw [pending]; decide) rfl rfl
  | completes _ _ line =>
    refine live.rewrite stored rfl fun ticket issued admits => ⟨fun other => ?_, fun _ => rfl⟩
    rcases Table.mem_insertEach.mp issued with old | ⟨_, _, rfl⟩
    · exact old
    · exact absurd rfl other

theorem LiveConfirmed.committed {op : Op} (live : LiveConfirmed db) (refs : References db)
    (committed : Committed db now op after) : LiveConfirmed after := by
  cases committed with
  | idle | sweptSeats | heldSeats | sweptTier | heldQuantity | released | releasedUnattached
  | expired | releasedOrder | recorded | enqueued => exact live
  | placed input _ _ placement =>
    refine live.insert refs placement.orders fun ticket issued => ?_
    rcases Bool.eq_false_or_eq_true input.issueTickets with issues | none
    · rw [placement.ticketed issues] at issued
      rcases Table.mem_insertEach.mp issued with old | ⟨_, _, rfl⟩
      · exact Or.inl old
      · exact Or.inr ⟨rfl, by simp [initialState, issues]⟩
    · rw [placement.unticketed none] at issued
      exact Or.inl issued
  | joined => exact live.insert refs rfl fun _ issued => Or.inl issued
  | offered input order found waiting =>
    exact live.unconfirmed (Table.find_eq_some.mp found).1 (by rw [waiting]; decide) rfl rfl
  | settled _ _ _ _ found settles => exact live.settled (Table.find_eq_some.mp found).1 settles
  | rejected _ _ found _ rejectable =>
    exact live.unconfirmed (Table.find_eq_some.mp found).1
      (isRejectable_unconfirmed rejectable) rfl rfl
  | refunded _ _ order _ found =>
    refine live.rewrite (Table.find_eq_some.mp found).1 rfl fun ticket issued admits => ?_
    rcases Table.mem_update_cases issued with ⟨old, before, hit, rfl⟩ | ⟨before, hit⟩
    · simp [Ticket.live] at admits
    · exact ⟨fun _ => before, fun mine => absurd ⟨mine, admits⟩ hit⟩

end Tickets

/-! ## What a rejection reports -/

/-- A rejected order that is paid was paid for while it waited. -/
def RefundKnown (db : Db) : Prop :=
  ∀ order ∈ db.orders, order.status = .rejected → order.paymentStatus = .paid →
    order.approvalRequestedAt.isSome = true

theorem RefundKnown.committed {db after : Db} {now : Instant} {op : Op} (known : RefundKnown db)
    (committed : Committed db now op after) : RefundKnown after := by
  refine rows_committed (fun order birth => ?_) (fun old new before moved => ?_) committed known
  · cases birth with
    | placed input =>
      cases input.issueTickets <;> simp [initialState]
    | joined => exact fun rejected => by cases rejected
  · cases moved with
    | same => exact before
    | offered | refused | confirmed => exact fun rejected => by cases rejected
    | awaits _ _ _ _ pending =>
      exact fun rejected => absurd (pending.symm.trans rejected) (by decide)
    | rejected _ _ _ _ rejectable =>
      intro _ paid
      simp only at paid ⊢
      simpa [isRejectable, paid] using (Bool.and_eq_true_iff.mp rejectable).2
    | refunded => exact fun _ paid => by cases paid

/-- Rejecting a rejected order changes nothing and reports whether its money is still held. -/
theorem rejectOrder_again {db : Db} {input : RejectOrderInput} {now : Instant} {order : Order}
    (found : db.orders.find input.orderId = some order) (rejected : order.status = .rejected) :
    rejectOrder db input now =
      .ok ({ reference := order.reference, refundDue := rejectionRefunds order }, db) := by
  simp only [rejectOrder, lockOrder, found, bind, Except.bind, if_pos rejected]

/-- The first rejection goes through exactly when the organizer's verdict allows it. -/
theorem rejectOrder_isOk {db : Db} {input : RejectOrderInput} {now : Instant} {order : Order}
    (found : db.orders.find input.orderId = some order) (undecided : order.status ≠ .rejected) :
    (rejectOrder db input now).isOk = true ↔
      (canReject order ⟨input.mayRefund⟩).allowed = true := by
  rw [canReject_allowed]
  simp only [rejectOrder, lockOrder, found, bind, Except.bind, if_neg undecided]
  cases isRejectable order <;> cases rejectionRefunds order <;> cases input.mayRefund <;>
    simp [Except.isOk, Except.toBool]

/-! ## A rejection lasts -/

/-- No payment settles an order that was rejected. -/
def SparesRejected (db : Db) : Op → Prop
  | .settleOrder input =>
    input.mode = .payment →
      ∀ order ∈ db.orders, order.id = input.orderId → order.status ≠ .rejected
  | _ => True

/-- One operation leaves a rejected order alone, or refunds it and leaves it rejected. -/
theorem rejected_committed {db after : Db} {now : Instant} {op : Op} (spares : SparesRejected db op)
    (committed : Committed db now op after) {id : Nat} {order : Order}
    (found : db.orders.find id = some order) (rejected : order.status = .rejected) :
    ∃ new, after.orders.find id = some new ∧ new.status = .rejected ∧
      (new = order ∨ (new.paymentStatus = .refunded ∧
        ∃ recordRefund, op = .refundOrder id recordRefund)) := by
  obtain ⟨new, found', moved⟩ := committed_order committed found
  obtain ⟨stored, same⟩ := Table.find_eq_some.mp found
  change order.id = id at same
  refine ⟨new, found', ?_⟩
  cases moved with
  | same => exact ⟨rejected, Or.inl rfl⟩
  | offered _ _ _ _ waiting =>
    rw [waiting] at rejected
    cases rejected
  | refused _ _ named paying => exact absurd rejected (spares paying order stored named.symm)
  | awaits _ _ _ _ pending =>
    rw [pending] at rejected
    cases rejected
  | confirmed input _ _ isOpen =>
    rw [rejected] at isOpen
    cases mode : input.mode <;> simp [mode, isOpenFor, AWAITING_DECISION] at isOpen
  | rejected _ _ _ undecided => exact absurd rejected undecided
  | refunded recordRefund =>
    refine ⟨by simp [statusAfterRefund, rejected], Or.inr ⟨rfl, recordRefund, ?_⟩⟩
    rw [same]

/-- Over a run: a rejected order stays rejected, its row unmoved until a refund of it lands, and
refunded from then on. -/
theorem rejected_run {start : Workspace} {ops : List Op}
    (spares : Meets step (fun workspace => SparesRejected workspace.db) start ops) {id : Nat}
    {order : Order} (found : start.db.orders.find id = some order)
    (rejected : order.status = .rejected) :
    ∃ new, (run step start ops).db.orders.find id = some new ∧ new.status = .rejected ∧
      (new = order ∨ (new.paymentStatus = .refunded ∧
        ∃ recordRefund, Op.refundOrder id recordRefund ∈ ops)) := by
  induction ops generalizing start order with
  | nil => exact ⟨order, found, rejected, Or.inl rfl⟩
  | cons op rest ih =>
    obtain ⟨spared, later⟩ := spares
    have once : ∃ new, (step start op).db.orders.find id = some new ∧ new.status = .rejected ∧
        (new = order ∨ (new.paymentStatus = .refunded ∧
          ∃ recordRefund, op = .refundOrder id recordRefund)) := by
      rcases step_db start op with same | committed
      · rw [same]
        exact ⟨order, found, rejected, Or.inl rfl⟩
      · exact rejected_committed spared (commit_cases committed) found rejected
    obtain ⟨mid, foundMid, rejectedMid, first⟩ := once
    obtain ⟨new, foundNew, rejectedNew, second⟩ := ih later foundMid rejectedMid
    refine ⟨new, foundNew, rejectedNew, ?_⟩
    rcases second with rfl | ⟨refunded, record, member⟩
    · rcases first with rfl | ⟨refunded, record, rfl⟩
      · exact Or.inl rfl
      · exact Or.inr ⟨refunded, record, List.mem_cons_self⟩
    · exact Or.inr ⟨refunded, record, List.mem_cons_of_mem _ member⟩

/-! ## Every run -/

structure Decided (db : Db) : Prop where
  references : References db
  live : LiveConfirmed db
  known : RefundKnown db

theorem Decided.step {workspace : Workspace} (decided : Decided workspace.db) (op : Op) :
    Decided (step workspace op).db :=
  step_preserves (fun _ committed =>
    { references := decided.references.committed (commit_cases committed)
      live := decided.live.committed decided.references (commit_cases committed)
      known := decided.known.committed (commit_cases committed) }) decided

theorem decided_run {start : Workspace} (opening : Opening start.db) (ops : List Op) :
    Decided (run step start ops).db := by
  have initial : Decided start.db :=
    { references := opening.references
      live := fun _ issued => absurd issued (Table.not_mem_of_empty opening.tickets _)
      known := fun _ stored => absurd stored (Table.not_mem_of_empty opening.orders _) }
  have each : ∀ workspace op, Decided workspace.db → Decided (Source.step workspace op).db :=
    fun _ op decided => decided.step op
  exact run_invariant_always each ops initial

/-- In every run in which no payment settles a rejected order: no rejected order has a live ticket;
an order once rejected stays rejected, its row unmoved until a refund of it lands; and a rejection
of it writes nothing and reports a refund due exactly while it is paid. -/
theorem one_decision (start : Workspace) (opening : Opening start.db) (first later : List Op)
    (spares : Meets step (fun workspace => SparesRejected workspace.db) start (first ++ later)) :
    let before := (run step start first).db
    let after := (run step start (first ++ later)).db
    (∀ ticket ∈ after.tickets, ticket.live →
      ∀ order ∈ after.orders, order.id = ticket.orderId → order.status ≠ .rejected) ∧
    (∀ order ∈ before.orders, order.status = .rejected →
      ∃ new ∈ after.orders, new.id = order.id ∧ new.status = .rejected ∧
        (new = order ∨ (new.paymentStatus = .refunded ∧
          ∃ recordRefund, Op.refundOrder order.id recordRefund ∈ later))) ∧
    ∀ order ∈ after.orders, order.status = .rejected → ∀ input now, input.orderId = order.id →
      rejectOrder after input now = .ok ({ reference := order.reference
                                           refundDue := order.paymentStatus == .paid }, after) := by
  have decided := decided_run opening (first ++ later)
  refine ⟨fun ticket issued admits order stored mine rejected => ?_,
    fun order stored rejected => ?_, fun order stored rejected input now named => ?_⟩
  · have confirmed := decided.live ticket issued admits order stored mine
    rw [rejected] at confirmed
    cases confirmed
  · obtain ⟨new, found, stays, moved⟩ :=
      rejected_run (meets_append.mp spares).2 (Table.find_key stored) rejected
    rw [run_append]
    obtain ⟨member, same⟩ := Table.find_eq_some.mp found
    exact ⟨new, member, same, stays, moved⟩
  · have found : (run step start (first ++ later)).db.orders.find input.orderId = some order := by
      rw [named]
      exact Table.find_key stored
    have due : rejectionRefunds order = (order.paymentStatus == .paid) := by
      unfold rejectionRefunds
      cases paid : order.paymentStatus == .paid with
      | false => rfl
      | true => exact decided.known order stored rejected (by simpa using paid)
    rw [rejectOrder_again found rejected, due]

/-- An organizer's refusal of an order. -/
def refusal (orderId : Nat) : RejectOrderInput where
  orderId := orderId
  decidedBy := 7
  reason := none
  mayRefund := true

/-- Paid for, rejected, and refunded: still rejected, and nothing is due. -/
theorem one_decision_boxOffice :
    let after := (run step boxOffice ([.placeOrder (booking "A" 0 0 none [] 100 true),
      .settleOrder (payment 0), .rejectOrder (refusal 0)] ++ [.refundOrder 0 .ok])).db
    ∀ ticket ∈ after.tickets, ticket.live →
      ∀ order ∈ after.orders, order.id = ticket.orderId → order.status ≠ .rejected := by
  have spares : Meets step (fun workspace => SparesRejected workspace.db) boxOffice
      ([.placeOrder (booking "A" 0 0 none [] 100 true), .settleOrder (payment 0),
        .rejectOrder (refusal 0)] ++ [.refundOrder 0 .ok]) := by
    refine ⟨trivial, fun _ => ?_, trivial, trivial, trivial⟩
    decide +kernel
  exact (one_decision boxOffice boxOffice_opening _ _ spares).1

/-- A payment that lands after the rejection cancels the rejected order. -/
theorem rejection_overwritten :
    let rejected := run step boxOffice [.placeOrder (booking "A" 0 0 none [] 100 true),
      .rejectOrder (refusal 0)]
    let after := step rejected (.settleOrder (payment 0))
    rejected.db.orders.rows.map Order.status = [.rejected] ∧
      after.db.orders.rows.map Order.status = [.cancelled] := by
  decide +kernel

end EventaApi.Guarantees
