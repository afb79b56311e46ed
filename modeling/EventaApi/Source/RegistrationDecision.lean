import EventaApi.Source.CheckoutRules

/-!
# The organizer's verdicts

`registration-decision.ts`: what the registrations list offers an organizer, judged on
a row read outside any transaction. The transactions check again under the row lock.
-/
namespace EventaApi.Source

def APPROVE_BLOCKED_UNPAID : String :=
  "Payment isn't complete yet, so this registration can't be approved."

def REJECT_BLOCKED_PAID : String :=
  "Money has been captured for this registration — cancel and refund it instead of rejecting."

def REJECT_NEEDS_REFUND_PERMISSION : String :=
  "Rejecting this registration refunds its payment, and refunds need the refund permission " ++
    "— ask an Admin."

def ALREADY_REJECTED : String :=
  "This registration was rejected, and a rejection cannot be undone."

def OFFER_NOT_WAITLISTED : String := "Only someone on the waitlist can be offered a seat."

def NOT_AWAITING : String := "Only a pending or waitlisted registration can be decided."

/-- What the person deciding may do beyond deciding. -/
structure DeciderAccess where
  mayRefund : Bool

/-- A refusal says why, so that the organizer learns what to do instead; a permission does not. -/
structure Verdict where
  allowed : Bool
  reason : Option String
  said : allowed = reason.isNone := by rfl

def refuse (reason : String) : Verdict := { allowed := false, reason := some reason }

def terminalReason (status : OrderStatus) : Option String :=
  if status = .rejected then some ALREADY_REJECTED
  else if !AWAITING_DECISION.contains status then some NOT_AWAITING
  else none

/-- A paid registration may not be approved until the money is in. -/
def canApprove (registration : Order) : Verdict :=
  match terminalReason registration.status with
  | some terminal => refuse terminal
  | none =>
    if 0 < registration.totalSatang ∧ registration.paymentStatus ≠ .paid then
      refuse APPROVE_BLOCKED_UNPAID
    else { allowed := true, reason := none }

/-- Money captured on an ordinary sale refuses; money taken while it waited needs Finance. -/
def canReject (registration : Order) (access : DeciderAccess) : Verdict :=
  match terminalReason registration.status with
  | some terminal => refuse terminal
  | none =>
    if rejectionRefunds registration then
      if access.mayRefund then { allowed := true, reason := none }
      else refuse REJECT_NEEDS_REFUND_PERMISSION
    else if registration.paymentStatus = .paid then refuse REJECT_BLOCKED_PAID
    else { allowed := true, reason := none }

/-- Only a waitlist entry may be offered a seat: an offer would hold a second one for anybody else. -/
def canOffer (registration : Order) : Verdict :=
  if registration.status = .rejected then refuse ALREADY_REJECTED
  else if registration.status ≠ .waitlisted then refuse OFFER_NOT_WAITLISTED
  else { allowed := true, reason := none }

/-- The verdict on a rejection allows exactly what the row lock will let through. -/
theorem canReject_allowed (registration : Order) (access : DeciderAccess) :
    (canReject registration access).allowed = true ↔
      isRejectable registration = true ∧
        (rejectionRefunds registration = true → access.mayRefund = true) := by
  unfold canReject terminalReason isRejectable rejectionRefunds refuse AWAITING_DECISION
  cases registration.status <;> cases registration.paymentStatus <;>
    cases registration.approvalRequestedAt <;> cases access.mayRefund <;> simp

end EventaApi.Source
