import EventaApi.Guarantees.References

/-!
# How an order's row moves

Every committed operation leaves an order's row alone or rewrites it in one of six
ways, each guarded by the status it was read in under the row lock; and a row is
born in one of two. What is said of a row holds along every run once it holds of
those.
-/
namespace EventaApi.Guarantees
open Library Source

/-- What one operation may make of an order's row. -/
inductive OrderStep (now : Instant) : Op → Order → Order → Prop where
  | same (op : Op) (order : Order) : OrderStep now op order order
  | offered (input : MarkOfferedInput) (order : Order) (skipped : Nat)
      (named : input.orderId = order.id) (waiting : order.status = .waitlisted) :
      OrderStep now (.markOffered input) order (offeredOrder input order skipped now order)
  | refused (input : SettleOrderInput) (order : Order) (named : input.orderId = order.id)
      (paying : input.mode = .payment) (unconfirmed : order.status ≠ .confirmed)
      (idle : isAwaitingApproval order = false) :
      OrderStep now (.settleOrder input) order (refusedOrder order now order)
  | awaits (input : SettleOrderInput) (order : Order) (named : input.orderId = order.id)
      (paying : input.mode = .payment) (pending : order.status = .pending)
      (idle : isAwaitingApproval order = false) (asks : order.requiresApproval = true) :
      OrderStep now (.settleOrder input) order (awaitingOrder order now order)
  | confirmed (input : SettleOrderInput) (order : Order) (named : input.orderId = order.id)
      (isOpen : isOpenFor input.mode order.status = true)
      (unasked : input.mode = .payment →
        order.requiresApproval = false ∧ isAwaitingApproval order = false) :
      OrderStep now (.settleOrder input) order (confirmedOrder input order now order)
  | rejected (input : RejectOrderInput) (order : Order) (named : input.orderId = order.id)
      (undecided : order.status ≠ .rejected) (rejectable : isRejectable order = true) :
      OrderStep now (.rejectOrder input) order (rejectedOrder input order now order)
  | refunded (recordRefund : Ledger → Except TxError Ledger) (order : Order) :
      OrderStep now (.refundOrder order.id recordRefund) order (refundedOrder order order)

section Moved

variable {now : Instant} {op : Op} {old new : Order}

theorem OrderStep.eventId (moved : OrderStep now op old new) : new.eventId = old.eventId := by
  cases moved <;> rfl

theorem OrderStep.buyerEmail (moved : OrderStep now op old new) :
    new.buyerEmail = old.buyerEmail := by
  cases moved <;> rfl

/-- Only an offer makes an order pending, and only from the waitlist. -/
theorem OrderStep.pending (moved : OrderStep now op old new)
    (pending : new.status = .pending) : old.status = .pending ∨ old.status = .waitlisted := by
  cases moved with
  | same => exact Or.inl pending
  | offered _ _ _ _ waiting => exact Or.inr waiting
  | awaits => exact Or.inl pending
  | refused | confirmed | rejected => cases pending
  | refunded =>
    simp only [statusAfterRefund] at pending
    split at pending <;> cases pending

theorem OrderStep.waitlisted (moved : OrderStep now op old new)
    (waiting : new.status = .waitlisted) : old.status = .waitlisted := by
  cases moved with
  | same => exact waiting
  | awaits => exact waiting
  | offered | refused | confirmed | rejected => cases waiting
  | refunded =>
    simp only [statusAfterRefund] at waiting
    split at waiting <;> cases waiting

end Moved

/-- How an operation may write a new order's row. -/
inductive OrderBorn (now : Instant) : Op → Order → Prop where
  | placed (input : PlaceOrderInput) (attendeeId id : Nat) :
      OrderBorn now (.placeOrder input) (orderRow input.toOrderInsert attendeeId
        (initialState input.issueTickets input.awaitsDecision now) now id)
  | joined (input : OrderInsert) (attendeeId id : Nat) :
      OrderBorn now (.joinWaitlist input) (orderRow input attendeeId WAITLISTED now id)

section Rows

variable {db after : Db} {now : Instant} {op : Op}

/-- Rewriting the row with one order's key rewrites that order and no other. -/
theorem find_updateOrder {order : Order} {write : Order → Order}
    {keeps : ∀ row, Keyed.key (write row) = Keyed.key row} {orders : Table Order}
    (stored : order ∈ orders) {id : Nat} {old : Order} (found : orders.find id = some old) :
    (old = order ∧
      (orders.update (fun row => row.id = order.id) write keeps).find id = some (write order)) ∨
    (old.id ≠ order.id ∧
      (orders.update (fun row => row.id = order.id) write keeps).find id = some old) := by
  rw [Table.find_update, found]
  obtain ⟨member, _⟩ := Table.find_eq_some.mp found
  by_cases same : old.id = order.id
  · have selected : old = order := Table.eq_of_key member stored same
    subst selected
    exact Or.inl ⟨rfl, by simp⟩
  · exact Or.inr ⟨same, by simp [same]⟩

/-- An order that is there stays there, moved by at most one of the six rewrites. -/
theorem committed_order (committed : Committed db now op after) {id : Nat} {old : Order}
    (found : db.orders.find id = some old) :
    ∃ new, after.orders.find id = some new ∧ OrderStep now op old new := by
  have rewritten {order : Order} {write : Order → Order}
      {keeps : ∀ row, Keyed.key (write row) = Keyed.key row} (stored : order ∈ db.orders)
      (moved : OrderStep now op order (write order)) :
      ∃ new, (db.orders.update (fun row => row.id = order.id) write keeps).find id = some new ∧
        OrderStep now op old new := by
    rcases find_updateOrder stored found with ⟨rfl, now'⟩ | ⟨_, now'⟩
    · exact ⟨_, now', moved⟩
    · exact ⟨_, now', .same _ _⟩
  have inserted {build : Nat → Order} {keyed : ∀ key, Keyed.key (build key) = key} :
      ∃ new, (db.orders.insert build keyed).find id = some new ∧ OrderStep now op old new :=
    ⟨old, Table.find_insert_of_found found, .same _ _⟩
  have stored {id : Nat} {order : Order} (found : db.orders.find id = some order) :
      order ∈ db.orders ∧ id = order.id :=
    ⟨(Table.find_eq_some.mp found).1, (Table.find_eq_some.mp found).2.symm⟩
  cases committed with
  | idle | sweptSeats | heldSeats | sweptTier | heldQuantity | released | releasedUnattached
  | expired | releasedOrder | recorded | enqueued => exact ⟨old, found, .same _ _⟩
  | placed _ _ _ placement =>
    rw [placement.orders]
    exact inserted
  | joined => exact inserted
  | offered input order found' waiting =>
    obtain ⟨member, named⟩ := stored found'
    exact rewritten member (.offered input order _ named waiting)
  | settled input order settlement _ found' settles =>
    obtain ⟨member, named⟩ := stored found'
    cases settles with
    | already | unavailable => exact ⟨old, found, .same _ _⟩
    | refused _ paying unconfirmed idle =>
      exact rewritten member (.refused input order named paying unconfirmed idle)
    | awaits _ _ _ paying pending idle asks =>
      exact rewritten member (.awaits input order named paying pending idle asks)
    | completes _ _ _ _ isOpen unasked =>
      exact rewritten member (.confirmed input order named isOpen unasked)
  | rejected input order found' undecided rejectable =>
    obtain ⟨member, named⟩ := stored found'
    exact rewritten member (.rejected input order named undecided rejectable)
  | refunded orderId recordRefund order _ found' =>
    obtain ⟨member, rfl⟩ := stored found'
    exact rewritten member (.refunded recordRefund order)

/-- An order that was not there was born in this operation. -/
theorem committed_newOrder (committed : Committed db now op after) {order : Order}
    (member : order ∈ after.orders) :
    OrderBorn now op order ∨ ∃ old, db.orders.find order.id = some old := by
  cases missing : db.orders.find order.id with
  | some old => exact Or.inr ⟨old, rfl⟩
  | none =>
    left
    have absent := Table.find_eq_none.mp missing
    have rewritten {hit : Order → Prop} [DecidablePred hit] {write : Order → Order}
        {keeps : ∀ row, Keyed.key (write row) = Keyed.key row}
        (member : order ∈ db.orders.update hit write keeps) : OrderBorn now op order := by
      obtain ⟨old, stored, same⟩ := Table.mem_update.mp member
      refine absurd ?_ (absent old stored)
      rw [same]
      split
      · exact (keeps old).symm
      · rfl
    have unborn (member : order ∈ db.orders) : OrderBorn now op order :=
      absurd rfl (absent order member)
    cases committed with
    | idle | sweptSeats | heldSeats | sweptTier | heldQuantity | released | releasedUnattached
    | expired | releasedOrder | recorded | enqueued => exact unborn member
    | placed input _ _ placement =>
      rw [placement.orders] at member
      rcases Table.mem_insert.mp member with old | rfl
      · exact unborn old
      · exact .placed input _ _
    | joined input attendeeId =>
      rcases Table.mem_insert.mp member with old | rfl
      · exact unborn old
      · exact .joined input attendeeId _
    | offered | rejected | refunded => exact rewritten member
    | settled _ _ _ _ _ settles =>
      cases settles with
      | already | unavailable => exact unborn member
      | refused | awaits | completes => exact rewritten member

/-- A line that was not there was written with a new order. -/
theorem committed_items (committed : Committed db now op after) :
    ∀ item ∈ after.orderItems, item ∈ db.orderItems ∨ item.orderId = db.orders.next := by
  intro item member
  cases committed with
  | placed _ _ _ placement =>
    rw [placement.orderItems] at member
    rcases Table.mem_insert.mp member with old | rfl
    · exact Or.inl old
    · exact Or.inr rfl
  | joined =>
    rcases Table.mem_insert.mp member with old | rfl
    · exact Or.inl old
    · exact Or.inr rfl
  | settled _ _ _ _ _ settles => cases settles <;> exact Or.inl member
  | _ => exact Or.inl member

/-- The row rule: a fact every birth has and every rewrite keeps holds of every order. -/
theorem rows_committed {fact : Order → Prop} (born : ∀ order, OrderBorn now op order → fact order)
    (kept : ∀ old new, fact old → OrderStep now op old new → fact new)
    (committed : Committed db now op after) (holds : ∀ order ∈ db.orders, fact order) :
    ∀ order ∈ after.orders, fact order := by
  intro order member
  rcases committed_newOrder committed member with new | ⟨old, found⟩
  · exact born order new
  · obtain ⟨new, found', moved⟩ := committed_order committed found
    have same : new = order := by
      have again := Table.find_key member
      change after.orders.find order.id = some order at again
      rw [again] at found'
      exact (Option.some.inj found').symm
    subst same
    exact kept old new (holds old (Table.find_eq_some.mp found).1) moved

end Rows

/-- Nobody waiting in line has been asked about. -/
def WaitlistUnasked (db : Db) : Prop :=
  ∀ order ∈ db.orders, order.status = .waitlisted → order.approvalRequestedAt = none

theorem WaitlistUnasked.committed {db after : Db} {now : Instant} {op : Op}
    (unasked : WaitlistUnasked db) (committed : Committed db now op after) :
    WaitlistUnasked after := by
  refine rows_committed (fun order birth => ?_) (fun old new before moved => ?_) committed unasked
  · cases birth with
    | placed input =>
      cases input.issueTickets <;> simp [initialState]
    | joined => exact fun _ => rfl
  · cases moved with
    | same => exact before
    | awaits _ pending =>
      intro waiting
      simp only at waiting
      simp_all
    | offered | refused | confirmed | rejected => exact fun waiting => by cases waiting
    | refunded =>
      intro waiting
      simp only [statusAfterRefund] at waiting
      split at waiting <;> cases waiting

end EventaApi.Guarantees
