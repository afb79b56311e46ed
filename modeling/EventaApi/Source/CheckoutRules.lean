import EventaApi.Source.Schema
import Mathlib.Data.List.Dedup

/-!
# The pure rules of checkout and of registration decisions

Allocation, approval, held seats, the settlement's refusals and the organizer's
verdicts: each decides on the values handed to it and reads no table.
-/
namespace EventaApi.Source

/-- The expiry a reserved seat's hold takes while its registration waits. -/
def DECISION_HOLD_EXPIRY : Instant := 253402300799000

def MAX_SEATS_PER_BOOKING : Nat := 8

def REFERENCE_ATTEMPTS : Nat := 3

def REFERENCE_CONSTRAINT : String := "uq_orders_org_reference"

def DECIDED_ELSEWHERE : String :=
  "This registration was decided by someone else — refresh to see where it stands."

def PAID_WHILE_DECIDING : String :=
  "This registration was paid for while you were deciding — refresh to see where it stands."

/-! ## Allocation -/

/-- Selling `quantity` more would take the tier past its allocation. -/
def exceedsAllocation (sold total quantity : Nat) : Bool := sold + quantity > total

/-! ## Approval -/

structure Placement where
  /-- Mint the tickets now: a free order nobody has to decide on. -/
  issueTickets : Bool
  requiresApproval : Bool
  /-- Nothing is owed, so the decision is the only thing left from the start. -/
  awaitsDecision : Bool
  deriving DecidableEq, Repr

def placementFor (requiresApproval paymentRequired organizerEntry : Bool) : Placement :=
  let asks := requiresApproval && !organizerEntry
  { issueTickets := !paymentRequired && !asks
    requiresApproval := asks
    awaitsDecision := asks && !paymentRequired }

/-- Waiting for the organizer, neither for money nor for anything else. -/
def isAwaitingApproval (order : Order) : Bool :=
  order.status == .pending && order.approvalRequestedAt.isSome

/-- Still waiting for the buyer's money, on the checkout's clock. -/
def isOnCheckoutClock (order : Order) : Bool :=
  order.status == .pending && order.paymentStatus != .paid && order.approvalRequestedAt.isNone

def statusAfterRefund (status : OrderStatus) : OrderStatus :=
  if status = .rejected then .rejected else .cancelled

structure OrderState where
  status : OrderStatus
  paymentStatus : PaymentStatus
  approvalRequestedAt : Option Instant := none
  deriving DecidableEq, Repr

def WAITLISTED : OrderState := { status := .waitlisted, paymentStatus := .pending }

/-- Where a placed order starts. -/
def initialState (issueTickets awaitsDecision : Bool) (now : Instant) : OrderState :=
  if issueTickets then { status := .confirmed, paymentStatus := .paid }
  else
    { status := .pending
      paymentStatus := .pending
      approvalRequestedAt := if awaitsDecision then some now else none }

/-! ## The waitlist -/

/-- What an event says about its waitlist. -/
structure WaitlistPolicy where
  waitlistEnabled : Bool
  seatingMode : SeatingMode
  requiresApproval : Bool
  deriving DecidableEq, Repr

def hasOpenWaitlist (event : WaitlistPolicy) : Bool :=
  event.waitlistEnabled && event.seatingMode == .ga

/-- Whether a raised allocation offers its new places to the line by itself. -/
def autoOffersWaitlist (event : WaitlistPolicy) : Bool :=
  hasOpenWaitlist event && !event.requiresApproval

/-- A free registration is confirmed when its place comes up, not offered. -/
def confirmsOnOffer (order : Order) : Bool := order.totalSatang == 0

/-! ## Held seats -/

/-- A typed seat sells as its own type; an untyped one only on an untyped map. -/
def seatSellsUnder (seatType : Option Nat) (ticketTypeId : Nat) (mapTyped : Bool) : Bool :=
  match seatType with
  | none => !mapTyped
  | some type => type == ticketTypeId

structure HeldSeatsCheck where
  pricedSeatIds : List Nat
  heldSeatIds : List Nat
  /-- Each priced seat's own ticket type; `none` for a seat that does not exist. -/
  seatTypes : Nat → Option (Option Nat)
  ticketTypeId : Nat
  mapTyped : Bool

def pricedSeatSells (check : HeldSeatsCheck) (seatId : Nat) : Bool :=
  match check.seatTypes seatId with
  | none => false
  | some type => seatSellsUnder type check.ticketTypeId check.mapTyped

/-- Exactly the seats priced are held, and each sells under the ticket type. -/
def heldSeatsMatch (check : HeldSeatsCheck) : Bool :=
  let priced := check.pricedSeatIds.dedup
  let held := check.heldSeatIds.dedup
  priced.length == held.length && held.all (fun id => priced.contains id) &&
    priced.all (pricedSeatSells check)

/-- The check passes exactly when the seats priced are the seats held and each is on sale under the
ticket type. -/
theorem heldSeatsMatch_iff {check : HeldSeatsCheck} :
    heldSeatsMatch check = true ↔
      (∀ seatId, seatId ∈ check.heldSeatIds ↔ seatId ∈ check.pricedSeatIds) ∧
        ∀ seatId ∈ check.pricedSeatIds, pricedSeatSells check seatId = true := by
  simp only [heldSeatsMatch, Bool.and_eq_true, beq_iff_eq, List.all_eq_true,
    List.contains_eq_mem, decide_eq_true_eq, List.mem_dedup]
  refine and_congr_left fun _ => ⟨fun same seatId => ?_, fun same => ?_⟩
  · obtain ⟨sameSize, held⟩ := same
    have subset : check.heldSeatIds.dedup ⊆ check.pricedSeatIds.dedup :=
      fun id member => List.mem_dedup.mpr (held id (List.mem_dedup.mp member))
    have perm : check.heldSeatIds.dedup.Perm check.pricedSeatIds.dedup :=
      (List.subperm_of_subset (List.nodup_dedup _) subset).perm_of_length_le (Nat.le_of_eq sameSize)
    have mem : seatId ∈ check.heldSeatIds.dedup ↔ seatId ∈ check.pricedSeatIds.dedup := perm.mem_iff
    simpa using mem
  · have perm : check.pricedSeatIds.dedup.Perm check.heldSeatIds.dedup :=
      (List.perm_ext_iff_of_nodup (List.nodup_dedup _) (List.nodup_dedup _)).mpr fun seatId => by
        simpa using (same seatId).symm
    exact ⟨perm.length_eq, fun seatId held => (same seatId).mp held⟩

/-- A check that passes found the same seats priced and held. -/
theorem heldSeatsMatch_same {check : HeldSeatsCheck} (match' : heldSeatsMatch check = true)
    (seatId : Nat) : seatId ∈ check.heldSeatIds ↔ seatId ∈ check.pricedSeatIds :=
  (heldSeatsMatch_iff.mp match').1 seatId

/-- A check that passes found every priced seat on sale under the ticket type. -/
theorem heldSeatsMatch_sells {check : HeldSeatsCheck} (match' : heldSeatsMatch check = true)
    {seatId : Nat} (priced : seatId ∈ check.pricedSeatIds) :
    pricedSeatSells check seatId = true :=
  (heldSeatsMatch_iff.mp match').2 seatId priced

/-! ## Settlement -/

inductive SettlementMode where
  | payment | approval
  deriving DecidableEq, Repr

structure SettlementLine where
  orderItemId : Nat
  ticketTypeId : Nat
  quantity : Nat
  tierName : String
  sold : Nat
  total : Nat
  deriving DecidableEq, Repr

/-- What the settlement judged: the order line, its tier, and the seat picture. -/
structure SettlementContext where
  line : Option SettlementLine
  seatIds : List Nat
  takenSeatIds : List Nat
  seatTypesMatch : Bool
  placesCounted : Bool
  deriving DecidableEq, Repr

/-- Why money that arrived is going back, as the code the refund event carries. -/
structure RefundReason where
  tierRemoved : String := "tier_removed"
  soldOut : String := "soldout"
  seatsTaken : String := "seats_unavailable"
  seatMismatch : String := "seat_mismatch"
  seatsReleased : String := "seats_released"
  orderClosed : String := "order_closed"

def REFUND_REASON : RefundReason := {}

structure Blockers where
  noTier : String
  soldOut : String
  seatsTaken : String
  seatMismatch : String

/-- The same four refusals, for whoever is about to read them. -/
def BLOCKERS : SettlementMode → Blockers
  | .payment =>
    { noTier := REFUND_REASON.tierRemoved
      soldOut := REFUND_REASON.soldOut
      seatsTaken := REFUND_REASON.seatsTaken
      seatMismatch := REFUND_REASON.seatMismatch }
  | .approval =>
    { noTier := "The ticket type on this registration no longer exists."
      soldOut := "This ticket is now sold out — offer the attendee the waitlist instead."
      seatsTaken := "The seat on this registration has been taken by someone else."
      seatMismatch := "The seat reservation no longer matches the registration." }

/-- Why a settlement cannot be honoured, or none when it can. -/
def settlementBlocker (context : SettlementContext) (mode : SettlementMode) : Option String :=
  let said := BLOCKERS mode
  match context.line with
  | none => some said.noTier
  | some line =>
    if !context.placesCounted && exceedsAllocation line.sold line.total line.quantity then
      some said.soldOut
    else if context.takenSeatIds.length > 0 then some said.seatsTaken
    else if context.seatIds.length > 0 && context.seatIds.length != line.quantity then
      some said.seatMismatch
    else if !context.seatTypesMatch then some said.seatMismatch
    else none

/-- A settlement nothing blocks: what every check found. -/
structure Honoured (context : SettlementContext) (line : SettlementLine) : Prop where
  judged : context.line = some line
  fits : context.placesCounted = false → line.sold + line.quantity ≤ line.total
  free : context.takenSeatIds = []
  seated : context.seatIds = [] ∨ context.seatIds.length = line.quantity
  sells : context.seatTypesMatch = true

/-- Nothing blocks a settlement exactly when every check passes. -/
theorem settlementBlocker_eq_none {context : SettlementContext} {mode : SettlementMode} :
    settlementBlocker context mode = none ↔ ∃ line, Honoured context line := by
  unfold settlementBlocker exceedsAllocation
  constructor
  · intro passed
    cases found : context.line with
    | none => simp [found] at passed
    | some line =>
      simp only [found] at passed
      split at passed
      · cases passed
      next fits =>
        split at passed
        · cases passed
        next free =>
          split at passed
          · cases passed
          next seated =>
            split at passed
            · cases passed
            next sells =>
              refine ⟨line, found, ?_, ?_, ?_, by simpa using sells⟩
              · intro uncounted
                simpa [uncounted] using fits
              · simpa using free
              · simpa [or_iff_not_imp_left, List.length_pos_iff] using seated
  · rintro ⟨line, honoured⟩
    have fits : ¬((!context.placesCounted &&
        decide (line.sold + line.quantity > line.total)) = true) := by
      cases counted : context.placesCounted with
      | true => simp
      | false => simpa using honoured.fits counted
    have seated : ¬((decide (context.seatIds.length > 0) &&
        context.seatIds.length != line.quantity) = true) := by
      rcases honoured.seated with none | same
      · simp [none]
      · simp [same]
    simp only [honoured.judged, honoured.free, honoured.sells, if_neg fits, if_neg seated]
    simp

/-! ## Decisions -/

/-- Pending and waitlisted are the two states awaiting a decision. -/
def AWAITING_DECISION : List OrderStatus := [.pending, .waitlisted]

/-- A payment may only land on a pending order; an organizer may decide a waitlisted one too. -/
def isOpenFor (mode : SettlementMode) (status : OrderStatus) : Bool :=
  match mode with
  | .approval => AWAITING_DECISION.contains status
  | .payment => status == .pending

/-- Rejecting gives money back: it was paid while it waited, and is still held. -/
def rejectionRefunds (order : Order) : Bool :=
  order.paymentStatus == .paid && order.approvalRequestedAt.isSome

/-- Still awaiting a decision, and not money captured on an ordinary sale. -/
def isRejectable (order : Order) : Bool :=
  AWAITING_DECISION.contains order.status &&
    (order.paymentStatus != .paid || order.approvalRequestedAt.isSome)

end EventaApi.Source
