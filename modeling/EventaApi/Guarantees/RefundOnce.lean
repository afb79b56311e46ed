import EventaApi.Guarantees.MoneyReferences

/-!
# At most one refund goes out per payment

The key of a refund is unique, its payment is not: two requests under two keys may
both read the payment as paid, and both claim it. While every fresh claim is made
over failed refunds only, a payment has at most one refund that did not fail.
-/
namespace EventaApi.Guarantees
open Library Source

/-- A claim under a new key finds every refund of its payment failed. -/
def ClaimsAlone (service : Service) : Phase → Prop
  | .claim input payment =>
    findRefundByKey service.office.db.ledger.refunds input.idempotencyKey = none →
      ∀ refund ∈ service.office.db.ledger.refunds.rows, refund.paymentId = payment.id →
        refund.status = .failed
  | _ => True

instance (service : Service) (phase : Phase) : Decidable (ClaimsAlone service phase) := by
  unfold ClaimsAlone
  split <;> infer_instance

/-- Two refunds of one payment that did not fail are one. -/
def OneLive (refunds : Table Refund) : Prop :=
  ∀ refund ∈ refunds, ∀ other ∈ refunds, refund.paymentId = other.paymentId →
    refund.status ≠ .failed → other.status ≠ .failed → refund = other

/-- A refund that did not fail had not failed before. -/
theorem refundStep_live {phase : Phase} {old new : Refund} (moved : RefundStep phase old new)
    (live : new.status ≠ .failed) : old.status ≠ .failed := by
  cases moved with
  | same | referenced => exact live
  | failed => exact absurd rfl live
  | succeeded _ _ _ _ pending => simp [pending]

theorem acts_oneLive {service : Service} {now : Instant} {phase : Phase} {acted : Acted}
    (acts : Acts service.office.db now phase acted)
    (alone : ClaimsAlone service phase) (one : OneLive service.office.db.ledger.refunds) :
    OneLive acted.db.ledger.refunds := by
  intro refund member other member' shared live live'
  -- The claim's own row meets no other live one: those of its payment have all failed.
  have fresh {row moved : Refund} {input : RefundPaymentRequest} {payment : Payment}
      (at' : phase = .claim input payment)
      (unused : findRefundByKey service.office.db.ledger.refunds input.idempotencyKey = none)
      (stored : row ∈ service.office.db.ledger.refunds) (step : RefundStep phase row moved)
      (same : moved.paymentId = payment.id) : moved.status = .failed := by
    by_contra survived
    subst at'
    have mine : row.paymentId = payment.id := (refundStep_same step).paymentId.symm.trans same
    exact refundStep_live step survived (alone unused row stored mine)
  rcases acts_refunds acts member with ⟨old, stored, moved⟩ | ⟨input, payment, at', unused, rfl⟩
  · rcases acts_refunds acts member' with
      ⟨old', stored', moved'⟩ | ⟨input, payment, at', unused, rfl⟩
    · have same := refundStep_same moved
      have same' := refundStep_same moved'
      have before : old.paymentId = old'.paymentId := by
        rw [← same.paymentId, ← same'.paymentId, shared]
      have equal := one old stored old' stored' before (refundStep_live moved live)
        (refundStep_live moved' live')
      refine Table.eq_of_key member member' ?_
      exact same.id.trans ((congrArg Refund.id equal).trans same'.id.symm)
    · exact absurd (fresh at' unused stored moved shared) live
  · rcases acts_refunds acts member' with ⟨old', stored', moved'⟩ | ⟨_, _, again, _, rfl⟩
    · exact absurd (fresh at' unused stored' moved' shared.symm) live'
    · cases at'.symm.trans again
      rfl

theorem serve_oneLive (service : Service) (turn : Turn)
    (alone : Stepping ClaimsAlone service turn)
    (one : OneLive service.office.db.ledger.refunds) :
    OneLive (serve service turn).office.db.ledger.refunds := by
  rcases serve_ledger service turn with ⟨_, same⟩ | ⟨callId, answer, call, rfl, found, served⟩
  · rwa [same]
  · rw [served]
    have condition : ClaimsAlone service (phaseOf service callId) := alone
    rw [phaseOf_found found] at condition
    exact acts_oneLive (act_cases _ _ answer call.phase) condition one

/-- A payment's refunds: at most one did not fail, and no more went back than came in. -/
structure RefundedOnce (refunds : Table Refund) (payment : Payment) : Prop where
  live : (refunds.select fun refund =>
    refund.paymentId = payment.id ∧ refund.status ≠ .failed).length ≤ 1
  returned : ((refunds.select fun refund =>
    refund.paymentId = payment.id ∧ refund.status = .succeeded).map Refund.amountSatang).sum ≤
      payment.amountSatang

theorem refundedOnce_of_grounded {service : Service} (grounded : Grounded service)
    (one : OneLive service.office.db.ledger.refunds) {payment : Payment}
    (stored : payment ∈ service.office.db.ledger.payments) :
    RefundedOnce service.office.db.ledger.refunds payment where
  live := by
    refine Table.length_select_le_one fun refund other member member' => ?_
    obtain ⟨held, mine, live⟩ := Table.mem_select.mp member
    obtain ⟨held', mine', live'⟩ := Table.mem_select.mp member'
    exact one refund held other held' (mine.trans mine'.symm) live live'
  returned := by
    refine Table.sum_select_le (fun refund other member member' => ?_) fun refund member => ?_
    · obtain ⟨held, mine, succeeded⟩ := Table.mem_select.mp member
      obtain ⟨held', mine', succeeded'⟩ := Table.mem_select.mp member'
      exact one refund held other held' (mine.trans mine'.symm) (by simp [succeeded])
        (by simp [succeeded'])
    · obtain ⟨held, mine, _⟩ := Table.mem_select.mp member
      obtain ⟨row, stored', named, _, amount, _⟩ := grounded.refunds refund held
      rw [Table.eq_of_key stored stored' (mine.symm.trans named.symm), amount]

/-- What every step preserves while fresh claims find only failed refunds. -/
structure SoleRefunds (service : Service) : Prop where
  grounded : Grounded service
  one : OneLive service.office.db.ledger.refunds

theorem unpaid_soleRefunds {service : Service} (unpaid : Unpaid service) : SoleRefunds service where
  grounded := unpaid_grounded unpaid
  one := fun _ stored => absurd stored (Table.not_mem_of_empty unpaid.refunds _)

theorem serve_soleRefunds (service : Service) (turn : Turn) (sole : SoleRefunds service)
    (alone : Stepping ClaimsAlone service turn) : SoleRefunds (serve service turn) where
  grounded := serve_grounded service turn sole.grounded
  one := serve_oneLive service turn alone sole.one

/-- While fresh claims find only failed refunds, each payment is refunded at most once. -/
theorem refunded_once {service : Service} (unpaid : Unpaid service) {turns : List Turn}
    (meets : Meets serve (Stepping ClaimsAlone) service turns) :
    ∀ payment ∈ (run serve service turns).office.db.ledger.payments,
      RefundedOnce (run serve service turns).office.db.ledger.refunds payment := by
  have sole : SoleRefunds (run serve service turns) :=
    run_invariant serve_soleRefunds (unpaid_soleRefunds unpaid) meets
  exact fun payment stored => refundedOnce_of_grounded sole.grounded sole.one stored

/-- A second request, after the first has gone through, is turned away. -/
theorem refunded_once_till :
    let reached := run serve till (soldAndRefunded ++ [refunding 0 "second"] ++ steps 3 5)
    ∃ payment ∈ reached.office.db.ledger.payments,
      payment.id = 0 ∧ RefundedOnce reached.office.db.ledger.refunds payment := by
  intro reached
  have sold : (reached.office.db.ledger.payments.find 0).isSome = true := by decide +kernel
  obtain ⟨payment, stored, named⟩ := Table.isSome_find.mp sold
  exact ⟨payment, stored, named, refunded_once till_unpaid (by decide +kernel) payment stored⟩

/-- Two requests under two keys, both past the check, are both paid out. -/
theorem refunded_twice :
    let served := run serve till ([sale] ++ paying 0 "pi_1" ++ landing 1 "evt_1" "pi_1" ++
      [refunding 0 "first", refunding 0 "second"] ++ steps 2 2 ++ steps 3 2 ++
      moneyBack 2 "re_1" ++ moneyBack 3 "re_2")
    (served.office.db.ledger.payments.find 0).map Payment.amountSatang = some 1000 ∧
      ((served.office.db.ledger.refunds.select fun refund =>
        refund.paymentId = 0 ∧ refund.status = .succeeded).map Refund.amountSatang).sum = 2000 := by
  decide +kernel

end EventaApi.Guarantees
