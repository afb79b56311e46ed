import EventaApi.Guarantees.MoneyReferences

/-!
# The payment ledger only moves forward

Failing an attempt and finishing a refund name the status they move a row from; the
flip to paid names none. Its guard is the status the callback read before the
settlement opened, and that guard lets a refunded payment through. Where each
settlement finds its payment without money, no row of the ledger moves back.
-/
namespace EventaApi.Guarantees
open Library Source

/-- A success callback about to settle finds a payment whose money has not come in. -/
def SettlesUnpaid (service : Service) : Phase → Prop
  | .settle _ payment =>
    ∀ row ∈ service.office.db.ledger.payments.rows, row.id = payment.id → ¬ moneyIn row
  | _ => True

instance (service : Service) (phase : Phase) : Decidable (SettlesUnpaid service phase) := by
  unfold SettlesUnpaid
  split <;> infer_instance

/-- Refunded stays refunded, paid is left only for refunded, and the stamp stays. -/
structure MovedForward (before after : Payment) : Prop where
  refunded : before.status = .refunded → after.status = .refunded
  paid : before.status = .paid → after.status = .paid ∨ after.status = .refunded
  paidAt : before.paidAt.isSome → after.paidAt = before.paidAt

theorem movedForward_refl (payment : Payment) : MovedForward payment payment :=
  ⟨id, Or.inl, fun _ => rfl⟩

theorem movedForward_trans {first second third : Payment} (earlier : MovedForward first second)
    (later : MovedForward second third) : MovedForward first third where
  refunded := fun refunded => later.refunded (earlier.refunded refunded)
  paid := fun paid => (earlier.paid paid).elim later.paid fun back => Or.inr (later.refunded back)
  paidAt := fun stamped => by
    have kept := earlier.paidAt stamped
    rw [later.paidAt (by rwa [kept]), kept]

/-- A step that does not settle money twice moves a payment forward. -/
theorem paymentStep_forward {service : Service} {phase : Phase} {old new : Payment}
    (stored : old ∈ service.office.db.ledger.payments)
    (stamped : old.paidAt.isSome → moneyIn old) (unpaid : SettlesUnpaid service phase)
    (moved : PaymentStep phase old new) : MovedForward old new := by
  cases moved with
  | same => exact movedForward_refl _
  | repointed => exact ⟨id, Or.inl, fun _ => rfl⟩
  | paid _ read _ _ _ named =>
    have waiting : ¬ moneyIn old := unpaid old stored named.symm
    exact ⟨fun refunded => absurd (Or.inr refunded) waiting,
      fun paid => absurd (Or.inl paid) waiting, fun mark => absurd (stamped mark) waiting⟩
  | failed _ _ _ pending =>
    exact ⟨fun refunded => by simp [pending] at refunded, fun paid => by simp [pending] at paid,
      fun _ => rfl⟩
  | refunded => exact ⟨fun _ => rfl, fun _ => Or.inr rfl, fun _ => rfl⟩

/-- One turn keeps every payment, and moves it forward. -/
theorem serve_forward {service : Service} {turn : Turn} (grounded : Grounded service)
    (unpaid : Stepping SettlesUnpaid service turn) {id : Nat} {old : Payment}
    (found : service.office.db.ledger.payments.find id = some old) :
    ∃ new, (serve service turn).office.db.ledger.payments.find id = some new ∧
      MovedForward old new := by
  rcases serve_ledger service turn with ⟨same, _⟩ | ⟨callId, answer, call, rfl, here, served⟩
  · exact ⟨old, by rw [same]; exact found, movedForward_refl old⟩
  · rw [served]
    have condition : SettlesUnpaid service (phaseOf service callId) := unpaid
    rw [phaseOf_found here] at condition
    have stored := (Table.find_eq_some.mp found).1
    obtain ⟨new, found', moved⟩ := acts_payment (act_cases _ _ answer call.phase) found
    exact ⟨new, found', paymentStep_forward stored (grounded.paidAt old stored) condition moved⟩

/-- What a run preserves of a payment it started with. -/
structure Forward (id : Nat) (before : Payment) (service : Service) : Prop where
  grounded : Grounded service
  moved : ∃ after, service.office.db.ledger.payments.find id = some after ∧
    MovedForward before after

theorem serve_stillForward {id : Nat} {before : Payment} (service : Service) (turn : Turn)
    (forward : Forward id before service) (unpaid : Stepping SettlesUnpaid service turn) :
    Forward id before (serve service turn) where
  grounded := serve_grounded service turn forward.grounded
  moved := by
    obtain ⟨middle, found, earlier⟩ := forward.moved
    obtain ⟨after, found', later⟩ := serve_forward forward.grounded unpaid found
    exact ⟨after, found', movedForward_trans earlier later⟩

/-! ## What a callback about one payment may do -/

/-- A step of a callback of one kind; once it looked its payment up, of this payment. -/
def callbackOn (kind : List WebhookType) (paymentId : Nat) : Phase → Prop
  | .record verified | .lookup verified | .acknowledge verified _ => verified.type ∈ kind
  | .reconcile verified payment _ | .settle verified payment | .checkDuplicate verified payment
  | .queueRefund verified payment | .markFailed verified payment
  | .releaseHolds verified payment => verified.type ∈ kind ∧ payment.id = paymentId
  | _ => False

/-- No success callback touches the order of a payment that has been refunded. -/
theorem acts_success {service : Service} {now : Instant} {phase : Phase} {acted : Acted}
    (acts : Acts service.office.db now phase acted) (knows : Knows service.office.db phase)
    (unpaid : SettlesUnpaid service phase) {payment : Payment}
    (stored : payment ∈ service.office.db.ledger.payments) (refunded : payment.status = .refunded)
    (success : callbackOn [.succeeded] payment.id phase) :
    Untouched service.office.db acted.db := by
  refine acts_untouched acts ?_
  cases phase with
  | settle verified read =>
    exact absurd (Or.inr refunded) (unpaid payment stored success.2.symm)
  | releaseHolds verified read => exact absurd (List.mem_singleton.mp success.1) knows.1
  | voidOrder => exact success.elim
  | _ => rfl

/-- No failure or expiry callback moves a payment that has been paid. -/
theorem paymentStep_lapse {db : Db} {phase : Phase} {old new : Payment}
    (moved : PaymentStep phase old new) (knows : Knows db phase) (paid : old.status = .paid)
    (lapse : callbackOn [.failed, .expired] old.id phase) :
    new.status = .paid ∧ new.paidAt = old.paidAt := by
  cases moved with
  | same | repointed => exact ⟨paid, rfl⟩
  | paid verified =>
    have settled : verified.type = .succeeded := knows.1
    simp [callbackOn, settled] at lapse
  | failed _ _ _ pending => simp [pending] at paid
  | refunded _ _ _ finishes => cases phase <;> simp [finishing, callbackOn] at finishes lapse

/-- While settlements find their payments unpaid, the ledger only moves forward. -/
theorem ledger_forward {service : Service} (unpaid : Unpaid service) {first later : List Turn}
    (meets : Meets serve (Stepping SettlesUnpaid) service (first ++ later)) {id : Nat}
    {before : Payment}
    (found : (run serve service first).office.db.ledger.payments.find id = some before) :
    let reached := run serve service first
    (∃ after, (run serve reached later).office.db.ledger.payments.find id = some after ∧
      MovedForward before after) ∧
    ∀ callId answer rest, later = .advance callId answer :: rest →
      let served := serve reached (.advance callId answer)
      (before.status = .refunded → callbackOn [.succeeded] id (phaseOf reached callId) →
        Untouched reached.office.db served.office.db) ∧
      (before.status = .paid → callbackOn [.failed, .expired] id (phaseOf reached callId) →
        ∃ after, served.office.db.ledger.payments.find id = some after ∧
          after.status = .paid ∧ after.paidAt = before.paidAt) := by
  obtain ⟨earlier, following⟩ := meets_append.mp meets
  have grounded : Grounded (run serve service first) :=
    run_invariant_always serve_grounded first (unpaid_grounded unpaid)
  obtain ⟨stored, named⟩ := Table.find_eq_some.mp found
  have named : before.id = id := named
  subst named
  refine ⟨?_, fun callId answer rest same => ?_⟩
  · have forward : Forward before.id before (run serve (run serve service first) later) :=
      run_invariant serve_stillForward ⟨grounded, before, found, movedForward_refl before⟩ following
    exact forward.moved
  · subst same
    cases here : (run serve service first).calls.find callId with
    | none =>
      simp only [serve, here]
      exact ⟨fun _ _ => untouched_refl _, fun paid _ => ⟨before, found, paid, rfl⟩⟩
    | some call =>
      have condition : SettlesUnpaid (run serve service first)
          (phaseOf (run serve service first) callId) := following.1
      have knows := grounded.calls call (Table.find_eq_some.mp here).1
      have acts := act_cases (run serve service first).office.db
        (run serve service first).office.clock answer call.phase
      rw [phaseOf_found here] at condition ⊢
      simp only [serve, here]
      refine ⟨fun refunded success => ?_, fun paid lapse => ?_⟩
      · exact acts_success acts knows condition stored refunded success
      · obtain ⟨new, found', moved⟩ := acts_payment acts found
        exact ⟨new, found', paymentStep_lapse moved knows paid lapse⟩

/-- The refunded payment of the sale, as its row stands. -/
def refundedPayment : Payment where
  id := 0
  txn := "pi_1"
  orderId := 0
  method := .card
  amountSatang := 1000
  currency := "THB"
  status := .refunded
  paidAt := some 0
  gatewayRef := some "pi_1"
  idempotencyKey := "pi_1"
  sellerName := some "Organizer"
  sellerAddress := some "Bangkok"
  sellerTaxId := some "0105500000000"

/-- The same event, redelivered after the refund, changes nothing. -/
theorem ledger_forward_till :
    let reached := run serve till soldAndRefunded
    ∃ after, (run serve reached (landing 3 "evt_1" "pi_1")).office.db.ledger.payments.find 0 =
      some after ∧ MovedForward refundedPayment after := by
  have meets : Meets serve (Stepping SettlesUnpaid) till
      (soldAndRefunded ++ landing 3 "evt_1" "pi_1") := by decide +kernel
  have found : (run serve till soldAndRefunded).office.db.ledger.payments.find 0 =
      some refundedPayment := by decide +kernel
  exact (ledger_forward till_unpaid meets found).1

/-- A second success event of the intent, delivered after the refund, pays the payment again. -/
theorem payment_revived :
    let reached := run serve till soldAndRefunded
    let served := run serve reached (.checkout (.tick 60000) trivial :: landing 3 "evt_2" "pi_1")
    reached.office.db.ledger.payments.find 0 = some refundedPayment ∧
      served.office.db.ledger.payments.find 0 =
        some { refundedPayment with status := .paid, paidAt := some 60000 } ∧
      (reached.office.db.orders.find 0).map Order.paymentStatus = some .refunded ∧
      (served.office.db.orders.find 0).map Order.paymentStatus = some .paid := by
  decide +kernel

end EventaApi.Guarantees
