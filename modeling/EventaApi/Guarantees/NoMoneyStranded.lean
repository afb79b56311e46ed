import EventaApi.Guarantees.MoneyCustody

/-!
# No money is stranded

Once no call is in flight, a payment whose success was acknowledged is the one its
order stands for, or went back, or is on its way back, or its refund is reported as
due; and it is refunded at most once. A run is orderly when no step of it falls into a
gap between two commits; the gap between a settlement and its check for a duplicate is
one the code does not close again on redelivery.
-/
namespace EventaApi.Guarantees
open Library Source

/-- A call still has work to do. -/
def inFlight : Phase → Prop
  | .done _ => False
  | _ => True

instance (phase : Phase) : Decidable (inFlight phase) := by
  unfold inFlight
  split <;> infer_instance

/-- This payment's refunds that nobody has finished yet. -/
def refundsPending (db : Db) (paymentId : Nat) : Nat :=
  (db.ledger.refunds.select fun refund =>
    refund.paymentId = paymentId ∧ refund.status = .pending).length

/-- One refund of this payment is on its way: queued, pending, or queued and being paid out. -/
def RefundComing (service : Service) (paymentId : Nat) : Prop :=
  service.queued paymentId ≤ 1 ∧ refundsPending service.office.db paymentId ≤ 1 ∧
    1 ≤ service.queued paymentId + refundsPending service.office.db paymentId

instance (service : Service) (paymentId : Nat) : Decidable (RefundComing service paymentId) :=
  inferInstanceAs (Decidable (_ ∧ _ ∧ _))

/-- The payment buys its order: the order stands, and any other money for it is on its way back. -/
def Buys (service : Service) (payment : Payment) : Prop :=
  payment.status = .paid ∧
    (∃ order ∈ service.office.db.orders.rows, order.id = payment.orderId ∧
      (order.status = .confirmed ∨ isAwaitingApproval order = true)) ∧
    ∀ other ∈ service.office.db.ledger.payments.rows, other.orderId = payment.orderId →
      other.status = .paid → other.id ≠ payment.id → RefundComing service other.id

instance (service : Service) (payment : Payment) : Decidable (Buys service payment) :=
  inferInstanceAs (Decidable (_ ∧ _ ∧ _))

/-- The payment was of a registration since rejected, and its refund is reported as due. -/
def OwedBack (service : Service) (payment : Payment) : Prop :=
  ∃ order ∈ service.office.db.orders.rows, order.id = payment.orderId ∧ refundDue order

instance (service : Service) (payment : Payment) : Decidable (OwedBack service payment) :=
  inferInstanceAs (Decidable (∃ _ ∈ _, _))

/-- Where a captured payment's money may be. -/
def Accounted (service : Service) (payment : Payment) : Prop :=
  Buys service payment ∨ payment.status = .refunded ∨ RefundComing service payment.id ∨
    OwedBack service payment

instance (service : Service) (payment : Payment) : Decidable (Accounted service payment) :=
  inferInstanceAs (Decidable (_ ∨ _ ∨ _ ∨ _))

section Quiet

variable {gateway : Gateway} {service : Service}

theorem refundComing_of_queued (custody : InCustody gateway service) {id : Nat}
    (queued : service.queued id ≠ 0) : RefundComing service id := by
  refine ⟨custody.queues.once id, ?_, by omega⟩
  refine Table.length_select_le_one fun refund other member member' => ?_
  obtain ⟨stored, mine, pending⟩ := Table.mem_select.mp member
  obtain ⟨stored', mine', pending'⟩ := Table.mem_select.mp member'
  exact custody.one refund stored other stored' (mine.trans mine'.symm) (by simp [pending])
    (by simp [pending'])

/-- With nothing in flight, nobody is looking whether to queue a refund. -/
theorem unclaimed_of_quiet (quiet : ∀ call ∈ service.calls, ¬ inFlight call.phase) {id : Nat}
    (unqueued : service.queued id = 0) : Unclaimed service id where
  unqueued := unqueued
  unchecked := by
    intro call member checks
    have ended := quiet call member
    cases at' : call.phase with
    | checkDuplicate | queueRefund =>
      rw [at'] at ended
      exact ended trivial
    | _ =>
      rw [at'] at checks
      exact checks

/-- With nothing in flight, all the money that came in is accounted for. -/
theorem accounted_of_quiet (custody : InCustody gateway service)
    (quiet : ∀ call ∈ service.calls, ¬ inFlight call.phase) {payment : Payment}
    (stored : payment ∈ service.office.db.ledger.payments) (money : moneyIn payment) :
    Accounted service payment := by
  rcases money with paid | refunded
  · by_cases queued : service.queued payment.id = 0
    · obtain ⟨order, placed, mine, _⟩ := custody.grounded.payments payment stored
      have holding := custody.standing.held payment stored paid queued order placed mine
      have buys (stands : order.status = .confirmed ∨ isAwaitingApproval order = true) :
          Buys service payment := by
        refine ⟨paid, ⟨order, placed, mine, stands⟩, fun other member shared paid' apart => ?_⟩
        refine refundComing_of_queued custody fun unqueued => apart ?_
        have same := custody.standing.sole payment stored other member shared.symm paid paid'
          (unclaimed_of_quiet quiet queued) (unclaimed_of_quiet quiet unqueued)
        exact congrArg Payment.id same.symm
      rcases holding with bought | awaiting | due
      · exact Or.inl (buys (Or.inl bought))
      · exact Or.inl (buys (Or.inr awaiting))
      · exact Or.inr (Or.inr (Or.inr ⟨order, placed, mine, due⟩))
    · exact Or.inr (Or.inr (Or.inl (refundComing_of_queued custody queued)))
  · exact Or.inr (Or.inl refunded)

end Quiet

/-- After an orderly run, with nothing in flight, no acknowledged success is stranded. -/
theorem no_money_stranded {gateway : Gateway} {service : Service} (unpaid : Unpaid service)
    {turns : List Turn} (meets : Meets serve (Orderly gateway) service turns)
    (quiet : ∀ call ∈ (run serve service turns).calls, ¬ inFlight call.phase) :
    let reached := run serve service turns
    ∀ event ∈ reached.office.db.webhookEvents, event.status = .processed →
      (gateway.event event.providerEventId).type = .succeeded →
        ∃ payment ∈ reached.office.db.ledger.payments,
          payment.id = gateway.paymentOf event.providerEventId ∧ Accounted reached payment ∧
            RefundedOnce reached.office.db.ledger.refunds payment := by
  have custody : InCustody gateway (run serve service turns) :=
    run_invariant serve_inCustody (unpaid_inCustody gateway unpaid) meets
  intro reached event logged processed succeeded
  obtain ⟨payment, stored, named, money⟩ :=
    custody.delivered.logged event logged processed succeeded
  exact ⟨payment, stored, named, accounted_of_quiet custody quiet stored money,
    refundedOnce_of_grounded custody.grounded custody.one stored⟩

/-- Two intents of one order, and an event for each. -/
def twoIntents : Gateway where
  event := fun eventId => success eventId (if eventId = "evt_2" then "pi_2" else "pi_1")
  paymentOf := fun eventId => if eventId = "evt_2" then 1 else 0

/-- The second success finds the order bought, and its refund is queued. -/
def paidTwice : List Turn :=
  [sale] ++ paying 0 "pi_1" ++ paying 1 "pi_2" ++ landing 2 "evt_1" "pi_1" ++
    landing 3 "evt_2" "pi_2" ++ steps 3 2

theorem no_money_stranded_till :
    let reached := run serve till paidTwice
    ∃ payment ∈ reached.office.db.ledger.payments,
      payment.id = 1 ∧ Accounted reached payment ∧
        RefundedOnce reached.office.db.ledger.refunds payment := by
  have quiet : ∀ call ∈ (run serve till paidTwice).calls.rows, ¬ inFlight call.phase := by
    decide +kernel
  have logged : (⟨1, PROVIDER_NAME, "evt_2", .succeeded, .processed⟩ : WebhookEvent) ∈
      (run serve till paidTwice).office.db.webhookEvents.rows := by decide +kernel
  have meets : Meets serve (Orderly twoIntents) till paidTwice := by decide +kernel
  exact no_money_stranded till_unpaid meets quiet _ logged rfl (by decide +kernel)

/-- The second success's delivery dies before its check; the redelivery finds its payment paid. -/
def diesBeforeTheCheck : List Turn :=
  [sale] ++ paying 0 "pi_1" ++ paying 1 "pi_2" ++ landing 2 "evt_1" "pi_1" ++
    [.receive (.webhook (success "evt_2" "pi_2"))] ++ steps 3 3 ++ [.crash 3] ++
    landing 4 "evt_2" "pi_2"

/-- Both events are processed and nothing is in flight, yet the money came in twice and stays. -/
theorem duplicate_stranded :
    let reached := run serve till diesBeforeTheCheck
    (∀ call ∈ reached.calls.rows, ¬ inFlight call.phase) ∧
      (reached.office.db.webhookEvents.rows.map fun event =>
        (event.providerEventId, event.status)) = [("evt_1", .processed), ("evt_2", .processed)] ∧
      (reached.office.db.orders.find 0).map Order.status = some .confirmed ∧
      (reached.office.db.ledger.payments.rows.map fun payment =>
        (payment.id, payment.orderId, payment.status)) = [(0, 0, .paid), (1, 0, .paid)] ∧
      ∀ payment ∈ reached.office.db.ledger.payments.rows, ¬ Accounted reached payment := by
  decide +kernel

end EventaApi.Guarantees
