import EventaApi.Source.Transactions

/-!
# Joining the waitlist, statement by statement

`CheckoutRepository.joinWaitlist` as the database runs it. Under read committed each
read sees what has been committed by then, and the entry appears when its transaction
commits; nothing is locked between a read and the insert. Two indexes refuse it: the
order's reference, which is drawn again, and the idempotency key.
-/
namespace EventaApi.Source
open Library

/-- A waitlist entry to write: priced, but holding nothing. -/
structure JoinWaitlistInput where
  eventId : Nat
  idempotencyKey : String
  buyer : Buyer
  ticketTypeId : Nat
  quantity : Nat
  unitPriceSatang : Satang
  totals : OrderTotals
  booking : 1 ≤ quantity ∧ quantity ≤ MAX_SEATS_PER_BOOKING
  deriving Repr

def JoinWaitlistInput.fields (input : JoinWaitlistInput) :
    (Nat × String × Buyer) × Nat × Nat × Satang × OrderTotals :=
  ((input.eventId, input.idempotencyKey, input.buyer), input.ticketTypeId, input.quantity,
    input.unitPriceSatang, input.totals)

theorem JoinWaitlistInput.fields_injective : Function.Injective JoinWaitlistInput.fields := by
  rintro ⟨⟩ ⟨⟩ same
  simp only [fields, Prod.mk.injEq] at same
  simp [same]

instance : DecidableEq JoinWaitlistInput := JoinWaitlistInput.fields_injective.decidableEq

/-- The entry under the reference drawn for this attempt. -/
def JoinWaitlistInput.entry (input : JoinWaitlistInput) (reference : String) : OrderInsert where
  reference := reference
  idempotencyKey := input.idempotencyKey
  eventId := input.eventId
  buyer := input.buyer
  ticketTypeId := input.ticketTypeId
  quantity := input.quantity
  unitPriceSatang := input.unitPriceSatang
  totals := input.totals
  booking := input.booking

def IDEMPOTENCY_CONSTRAINT : String := "uq_orders_org_idem"

/-- The insert, refused where the key was used since it was read. -/
def insertUnderKey (db : Db) (input : OrderInsert) (startedAt : Instant) :
    Except TxError (Order × Db) := do
  let (order, joined) ← insertWaitlistEntry db input startedAt
  if (findByIdempotencyKey db input.idempotencyKey).isSome then
    .error (.uniqueViolation IDEMPOTENCY_CONSTRAINT)
  .ok (order, joined)

inductive JoinReply where
  | joined (answer : JoinedWaitlist)
  | thrown (error : TxError)
  | crashed
  deriving DecidableEq, Repr

/-- Which statement a join runs next; `startedAt` is when its transaction began. -/
inductive JoinPhase where
  | findByIdempotencyKey (input : JoinWaitlistInput) (attempt : Nat)
  | alreadyWaiting (input : JoinWaitlistInput) (attempt : Nat) (startedAt : Instant)
  | insertWaitlistEntry (input : JoinWaitlistInput) (attempt : Nat) (startedAt : Instant)
  | waitlistAhead (order : Order)
  | done (reply : JoinReply)
  deriving DecidableEq, Repr

/-- A reference that is taken is drawn again, in a new transaction. -/
def afterRefusal (input : JoinWaitlistInput) (attempt : Nat) (error : TxError) : JoinPhase :=
  if error = .uniqueViolation REFERENCE_CONSTRAINT ∧ attempt < REFERENCE_ATTEMPTS then
    .findByIdempotencyKey input (attempt + 1)
  else .done (.thrown error)

structure JoinActed where
  db : Db
  phase : JoinPhase

def actInLine (db : Db) (now : Instant) (reference : String) : JoinPhase → JoinActed
  | .findByIdempotencyKey input attempt =>
    { db
      phase := match Source.findByIdempotencyKey db input.idempotencyKey with
        | some (order, _) => .waitlistAhead order
        | none => .alreadyWaiting input attempt now }
  | .alreadyWaiting input attempt startedAt =>
    { db
      phase := match Source.alreadyWaiting db (input.entry reference) with
        | some order => .waitlistAhead order
        | none => .insertWaitlistEntry input attempt startedAt }
  | .insertWaitlistEntry input attempt startedAt =>
    match insertUnderKey db (input.entry reference) startedAt with
    | .ok (order, joined) =>
      { db := joined
        phase := .done (.joined { order, position := Source.waitlistAhead joined order.id + 1 }) }
    | .error error => { db, phase := afterRefusal input attempt error }
  | .waitlistAhead order =>
    { db
      phase := .done (.joined { order, position := Source.waitlistAhead db order.id + 1 }) }
  | .done reply => { db, phase := .done reply }

/-! ## The line as a machine -/

structure JoinCall where
  id : Nat
  phase : JoinPhase

instance : Keyed JoinCall := ⟨JoinCall.id⟩

structure WaitingLine where
  office : Workspace
  calls : Table JoinCall

def Op.joins : Op → Prop
  | .joinWaitlist _ => True
  | _ => False

inductive JoinTurn where
  /-- Any other transaction of the workspace. -/
  | checkout (op : Op) (apart : ¬ op.joins)
  | receive (input : JoinWaitlistInput)
  | advance (callId : Nat) (reference : String)
  | crash (callId : Nat)

def moveJoinCall (calls : Table JoinCall) (callId : Nat) (phase : JoinPhase) : Table JoinCall :=
  calls.update (fun call => call.id = callId) fun call => { call with phase }

def serveLine (line : WaitingLine) : JoinTurn → WaitingLine
  | .checkout op _ => { line with office := step line.office op }
  | .receive input =>
    { line with calls := line.calls.insert fun id => { id, phase := .findByIdempotencyKey input 1 } }
  | .advance callId reference =>
    match line.calls.find callId with
    | some call =>
      let acted := actInLine line.office.db line.office.clock reference call.phase
      { line with
        office := { line.office with db := acted.db }
        calls := moveJoinCall line.calls callId acted.phase }
    | none => line
  | .crash callId => { line with calls := moveJoinCall line.calls callId (.done .crashed) }

end EventaApi.Source
