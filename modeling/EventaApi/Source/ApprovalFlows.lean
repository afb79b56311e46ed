import EventaApi.Source.PaymentFlows
import EventaApi.Source.RegistrationDecision

/-!
# Approvals and offers, one committed step at a time

`RegistrationDecisionsService`, `RegistrationApprovalAdapter` and `WaitlistOffersAdapter`
read, hold, settle and give back in separate steps, and anything may run between two of
them. Every step may throw having written nothing: where that leads is the phase's
`catch` or `finally`, or the end of the call.
-/
namespace EventaApi.Source
open Library

def GONE : String := "This registration isn't available."

/-- The blocker had no message of its own. -/
def UNAVAILABLE : String := "This registration can no longer be approved."

def NO_SEAT_FREE : String :=
  "No seat is free on this ticket — raise its capacity, or wait for one to free up."

def BOOKING_SIZE : String := "Choose between 1 and 8 seats per booking."

/-- A free place is held this long before it is confirmed. -/
def CONFIRM_HOLD_MS : Nat := 5 * 60 * 1000

/-! ## What a call carries -/

/-- What an organizer may ask about a registration. -/
inductive Asked where
  | approve (userId : Nat)
  | offer (userId : Nat)
  deriving DecidableEq, Repr

/-- A run through one ticket's line; `served` is filled as it goes. -/
structure LineRun where
  ticketTypeId : Nat
  served : List Nat
  deriving DecidableEq, Repr

def LineRun.push (line : LineRun) (orderId : Nat) : LineRun :=
  { line with served := line.served ++ [orderId] }

/-- Who an approval is run for. -/
inductive ApprovedFor where
  | organizer (asked : Asked)
  /-- A free place off the line, held under this id. -/
  | line (line : LineRun) (holdId : Nat)
  deriving DecidableEq, Repr

/-- Who an offer is made for. -/
inductive OfferedFor where
  | organizer (userId : Nat)
  | line (line : LineRun)
  deriving DecidableEq, Repr

def Asked.userId : Asked → Nat
  | .approve userId | .offer userId => userId

/-- None when nobody decided: the line did, in order. -/
def ApprovedFor.decidedBy : ApprovedFor → Option Nat
  | .organizer asked => some asked.userId
  | .line _ _ => none

def OfferedFor.offeredBy : OfferedFor → Option Nat
  | .organizer userId => some userId
  | .line _ => none

inductive ApprovalOutcome where
  | approved | alreadyApproved | unavailable
  deriving DecidableEq, Repr

structure ApprovalResult where
  outcome : ApprovalOutcome
  reference : String
  ticketCount : Nat
  reason : Option String
  deriving DecidableEq, Repr

inductive OfferOutcome where
  | offered | alreadyOffered | noSeat
  deriving DecidableEq, Repr

structure OfferResult where
  outcome : OfferOutcome
  reference : String
  offerExpiresAt : Option Instant
  deriving DecidableEq, Repr

/-- What a call answered. -/
inductive DecisionReply where
  | approved (result : ApprovalResult)
  /-- A free registration, confirmed on the offer. -/
  | confirmed (result : ApprovalResult)
  | offered (result : OfferResult)
  | newPlaces (offered : Nat) (interrupted : Bool)
  | thrown (error : TxError)
  | crashed
  deriving DecidableEq, Repr

inductive DecisionPhase where
  | mustFind (orderId : Nat) (asked : Asked)
  | orderById (orderId : Nat) (approvedFor : ApprovedFor)
  | settleOrder (orderId : Nat) (approvedFor : ApprovedFor)
  | waitlistEntry (orderId : Nat) (offeredFor : OfferedFor)
  | holdForOffer (entry : WaitlistEntry) (offeredFor : OfferedFor)
  | markOffered (entry : WaitlistEntry) (offeredFor : OfferedFor) (holdId : Nat)
      (now offerExpiresAt : Instant)
  | giveBack (holdId : Nat) (offeredFor : OfferedFor) (error : TxError)
  | findOwnedById (ticketTypeId : Nat)
  | frontOfLine (line : LineRun)
  | confirmFree (line : LineRun) (entry : WaitlistEntry)
  | releasePlace (line : LineRun) (holdId : Nat) (failure : Option TxError)
  | done (reply : DecisionReply)
  deriving DecidableEq, Repr

/-! ## Where each step leads -/

/-- Refuse what the rules forbid, unless the registration already is what was asked for. -/
def assertDecidable (order : Order) (settled : OrderStatus) (verdict : Verdict) :
    Except DomainException Unit :=
  if order.status = settled ∨ verdict.allowed then .ok ()
  else .error (.conflict (verdict.reason.getD ""))

def thrown (error : TxError) : DecisionPhase := .done (.thrown error)

def refuseWith (message : String) : DecisionPhase := thrown (.domain (.conflict message))

/-- The organizer's own check, which says why. -/
def afterFind (orderId : Nat) (asked : Asked) : Option Order → DecisionPhase
  | none => thrown (.domain (.notFound GONE))
  | some order =>
    match asked with
    | .approve _ =>
      match assertDecidable order .confirmed (canApprove order) with
      | .ok () => .orderById orderId (.organizer asked)
      | .error exception => thrown (.domain exception)
    | .offer userId =>
      if order.totalSatang = 0 then
        match assertDecidable order .confirmed (canOffer order) with
        | .ok () => .orderById orderId (.organizer asked)
        | .error exception => thrown (.domain exception)
      else
        match assertDecidable order .pending (canOffer order) with
        | .ok () => .waitlistEntry orderId (.organizer userId)
        | .error exception => thrown (.domain exception)

/-- The line ends where somebody did not get a place; `interrupted` when it was a failure. -/
def stopLine (line : LineRun) (interrupted : Bool) : DecisionPhase :=
  .done (.newPlaces line.served.length interrupted)

def afterApproval (orderId : Nat) (result : ApprovalResult) : ApprovedFor → DecisionPhase
  | .organizer (.approve _) =>
    if result.outcome = .unavailable then refuseWith (result.reason.getD UNAVAILABLE)
    else .done (.approved result)
  | .organizer (.offer _) =>
    if result.outcome = .unavailable then refuseWith NO_SEAT_FREE else .done (.confirmed result)
  | .line line holdId =>
    if result.outcome = .approved then .frontOfLine (line.push orderId)
    else .releasePlace line holdId none

def afterOffer (orderId : Nat) (result : OfferResult) : OfferedFor → DecisionPhase
  | .organizer _ =>
    if result.outcome = .noSeat then refuseWith NO_SEAT_FREE else .done (.offered result)
  | .line line =>
    if result.outcome = .offered then .frontOfLine (line.push orderId) else stopLine line false

def ApprovedFor.threw (error : TxError) : ApprovedFor → DecisionPhase
  | .organizer _ => thrown error
  | .line through holdId => .releasePlace through holdId (some error)

def OfferedFor.threw (error : TxError) : OfferedFor → DecisionPhase
  | .organizer _ => thrown error
  | .line through => stopLine through true

/-- Where a step that threw leads. -/
def afterThrow (error : TxError) : DecisionPhase → DecisionPhase
  | .mustFind _ _ => thrown error
  | .orderById _ approvedFor | .settleOrder _ approvedFor => approvedFor.threw error
  | .waitlistEntry _ offeredFor | .holdForOffer _ offeredFor => offeredFor.threw error
  | .markOffered _ offeredFor holdId _ _ => .giveBack holdId offeredFor error
  | .giveBack _ offeredFor _ => offeredFor.threw error
  | .findOwnedById _ => .done (.newPlaces 0 true)
  | .frontOfLine line | .confirmFree line _ | .releasePlace line _ _ => stopLine line true
  | .done reply => .done reply

/-! ## One step of a call -/

/-- What the world outside tells a call at this step. -/
structure DecisionAnswer where
  /-- This step throws, and writes nothing. -/
  fault : Option TxError := none
  /-- The workspace's event, as the events module reads it. -/
  event : Option WaitlistPolicy := none
  mintQrToken : Nat → String := fun _ => ""

def APPROVAL_OUTCOMES : SettlementOutcome → ApprovalOutcome
  | .settled => .approved
  | .alreadySettled => .alreadyApproved
  | .unavailable | .refundRequired | .awaitingApproval => .unavailable

def gone (orderId : Nat) : ApprovalResult where
  outcome := .unavailable
  reference := toString orderId
  ticketCount := 0
  reason := some GONE

def approvalInput (orderId : Nat) (approvedFor : ApprovedFor) (mintQrToken : Nat → String) :
    SettleOrderInput where
  orderId := orderId
  mode := .approval
  decidedBy := approvedFor.decidedBy
  mintQrToken := mintQrToken
  recordPayment := id

def approvalResult (settlement : Settlement) : ApprovalResult where
  outcome := APPROVAL_OUTCOMES settlement.outcome
  reference := settlement.reference
  ticketCount := settlement.ticketCount
  reason := settlement.reason

def HoldQuantityResult.hold : HoldQuantityResult → Option Nat
  | .held holdId => some holdId
  | .unavailable _ => none

/-- Hold a quantity for a waitlist offer; none when nothing is free. -/
def holdForOffer (db : Db) (input : HoldQuantityInput) (now : Instant) :
    Except TxError (Option Nat × Db) :=
  if input.quantity < 1 ∨ MAX_SEATS_PER_BOOKING < input.quantity then
    .error (.domain (.validation BOOKING_SIZE))
  else (holdQuantity db input now).map fun held => (held.1.hold, held.2)

def offerHold (entry : WaitlistEntry) (expiresAt : Instant) : HoldQuantityInput where
  eventId := entry.order.eventId
  ticketTypeId := entry.ticketTypeId
  quantity := entry.quantity
  expiresAt := expiresAt
  orderId := some entry.order.id

def offerInput (entry : WaitlistEntry) (offeredFor : OfferedFor) (offerExpiresAt : Instant) :
    MarkOfferedInput where
  orderId := entry.order.id
  offeredBy := offeredFor.offeredBy
  offerExpiresAt := offerExpiresAt

/-- A hold a call took, and what was left of its tier just before. -/
structure TakenHold where
  hold : SeatHold
  left : Nat
  deriving DecidableEq, Repr

/-- The places of a tier that are neither sold nor under a live hold. -/
def placesLeft (db : Db) (now : Instant) (ticketTypeId : Nat) : Nat :=
  match db.ticketTypes.find ticketTypeId with
  | none => 0
  | some tier => tier.total - tier.sold - db.seatHolds.sum fun hold =>
      if hold.ticketTypeId = some ticketTypeId ∧ hold.reserves now then hold.quantity else 0

structure DecisionActed where
  db : Db
  phase : DecisionPhase
  /-- The hold this step took. -/
  taken : Option TakenHold := none
  /-- The registration this step gave its places. -/
  gave : Option Nat := none
  /-- The registration found at the front, which is served next. -/
  tried : Option WaitlistEntry := none

def takenBy (db : Db) (now : Instant) (input : HoldQuantityInput) (holdId : Nat) : TakenHold where
  hold := heldQuantity input holdId
  left := placesLeft db now input.ticketTypeId

/-- Do what the phase says: one read or one committed transaction. -/
def actOn (db : Db) (now : Instant) (offerWindowMs : Nat) (answer : DecisionAnswer) :
    DecisionPhase → DecisionActed
  | .mustFind orderId asked => { db, phase := afterFind orderId asked (db.orders.find orderId) }
  | .orderById orderId approvedFor =>
    { db
      phase := match db.orders.find orderId with
        | none => afterApproval orderId (gone orderId) approvedFor
        | some _ => .settleOrder orderId approvedFor }
  | .settleOrder orderId approvedFor =>
    match settleOrder db (approvalInput orderId approvedFor answer.mintQrToken) now with
    | .ok (settlement, after) =>
      { db := after
        phase := afterApproval orderId (approvalResult settlement) approvedFor
        gave := if settlement.outcome = .settled then some orderId else none }
    | .error error => { db, phase := approvedFor.threw error }
  | .waitlistEntry orderId offeredFor =>
    { db
      phase := match waitlistEntry db orderId with
        | none => offeredFor.threw (.domain (.notFound GONE))
        | some entry =>
          if entry.order.status = .pending ∧ entry.order.offerExpiresAt.isSome then
            afterOffer orderId
              { outcome := .alreadyOffered, reference := entry.order.reference
                offerExpiresAt := entry.order.offerExpiresAt } offeredFor
          else .holdForOffer entry offeredFor }
  | .holdForOffer entry offeredFor =>
    let input := offerHold entry (now + offerWindowMs)
    match holdForOffer db input now with
    | .ok (some holdId, after) =>
      { db := after
        phase := .markOffered entry offeredFor holdId now input.expiresAt
        taken := some (takenBy db now input holdId) }
    | .ok (none, after) =>
      { db := after
        phase := afterOffer entry.order.id
          { outcome := .noSeat, reference := entry.order.reference, offerExpiresAt := none }
          offeredFor }
    | .error error => { db, phase := offeredFor.threw error }
  | .markOffered entry offeredFor holdId offeredAt offerExpiresAt =>
    match markOffered db (offerInput entry offeredFor offerExpiresAt) offeredAt with
    | .ok after =>
      { db := after
        phase := afterOffer entry.order.id
          { outcome := .offered, reference := entry.order.reference
            offerExpiresAt := some offerExpiresAt } offeredFor
        gave := some entry.order.id }
    | .error error => { db, phase := .giveBack holdId offeredFor error }
  | .giveBack holdId offeredFor error =>
    { db := release db [holdId], phase := offeredFor.threw error }
  | .findOwnedById ticketTypeId =>
    { db
      phase := if answer.event.any autoOffersWaitlist then .frontOfLine { ticketTypeId, served := [] }
        else .done (.newPlaces 0 false) }
  | .frontOfLine line =>
    match frontOfLine db line.ticketTypeId with
    | none => { db, phase := stopLine line false }
    | some entry =>
      -- A line that did not move would otherwise be served for ever.
      if entry.order.id ∈ line.served then { db, phase := stopLine line false }
      else
        { db
          phase := if confirmsOnOffer entry.order then .confirmFree line entry
            else .waitlistEntry entry.order.id (.line line)
          tried := some entry }
  | .confirmFree line entry =>
    let input := offerHold entry (now + CONFIRM_HOLD_MS)
    match holdForOffer db input now with
    | .ok (some holdId, after) =>
      { db := after
        phase := .orderById entry.order.id (.line line holdId)
        taken := some (takenBy db now input holdId) }
    | .ok (none, after) => { db := after, phase := stopLine line false }
    | .error _ => { db, phase := stopLine line true }
  | .releasePlace line holdId failure =>
    { db := release db [holdId], phase := stopLine line failure.isSome }
  | .done reply => { db, phase := .done reply }

/-! ## The service as a machine -/

structure DecisionCall where
  id : Nat
  phase : DecisionPhase
  deriving DecidableEq, Repr

instance : Keyed DecisionCall := ⟨DecisionCall.id⟩

inductive DecisionRequest where
  | approve (orderId userId : Nat)
  | offer (orderId userId : Nat)
  /-- A ticket's allocation grew. -/
  | offerNewPlaces (ticketTypeId : Nat)
  deriving DecidableEq, Repr

def DecisionRequest.phase : DecisionRequest → DecisionPhase
  | .approve orderId userId => .mustFind orderId (.approve userId)
  | .offer orderId userId => .mustFind orderId (.offer userId)
  | .offerNewPlaces ticketTypeId => .findOwnedById ticketTypeId

/-- What each call did, remembered beside the tables; no transaction reads it. -/
structure Deeds where
  taken : List TakenHold := []
  gave : List Nat := []
  tried : List WaitlistEntry := []
  deriving DecidableEq, Repr

structure Registrations where
  service : Service
  offerWindowMs : Nat
  calls : Table DecisionCall
  deeds : Nat → Deeds

/-- The transactions only a decision's call runs. -/
def Op.decides : Op → Prop
  | .settleOrder _ | .markOffered _ => True
  | _ => False

def Turn.decides : Turn → Prop
  | .checkout op _ => op.decides
  | _ => False

inductive DecisionTurn where
  /-- Anything else the service does. -/
  | elsewhere (turn : Turn) (apart : ¬ turn.decides)
  /-- The organizer's capacity edit. -/
  | resize (ticketTypeId total : Nat)
  | receive (request : DecisionRequest)
  | advance (callId : Nat) (answer : DecisionAnswer)
  | crash (callId : Nat)

def moveDecision (calls : Table DecisionCall) (callId : Nat) (phase : DecisionPhase) :
    Table DecisionCall :=
  calls.update (fun call => call.id = callId) fun call => { call with phase }

def remember (deeds : Deeds) (acted : DecisionActed) : Deeds where
  taken := deeds.taken ++ acted.taken.toList
  gave := deeds.gave ++ acted.gave.toList
  tried := deeds.tried ++ acted.tried.toList

/-- One step of a call: a throw writes nothing. -/
def actOrThrow (registrations : Registrations) (answer : DecisionAnswer) (phase : DecisionPhase) :
    DecisionActed :=
  let office := registrations.service.office
  match answer.fault with
  | some error => { db := office.db, phase := afterThrow error phase }
  | none => actOn office.db office.clock registrations.offerWindowMs answer phase

def advanceDecision (registrations : Registrations) (call : DecisionCall) (answer : DecisionAnswer) :
    Registrations :=
  let acted := actOrThrow registrations answer call.phase
  { registrations with
    service.office.db := acted.db
    calls := moveDecision registrations.calls call.id acted.phase
    deeds := fun callId =>
      if callId = call.id then remember (registrations.deeds callId) acted
      else registrations.deeds callId }

def resizeTier (ticketTypes : Table TicketType) (ticketTypeId total : Nat) : Table TicketType :=
  ticketTypes.update (fun tier => tier.id = ticketTypeId) fun tier => { tier with total }

def attend (registrations : Registrations) : DecisionTurn → Registrations
  | .elsewhere turn _ => { registrations with service := serve registrations.service turn }
  | .resize ticketTypeId total =>
    { registrations with
      service.office.db.ticketTypes :=
        resizeTier registrations.service.office.db.ticketTypes ticketTypeId total }
  | .receive request =>
    { registrations with
      calls := registrations.calls.insert fun id => { id, phase := request.phase } }
  | .advance callId answer =>
    match registrations.calls.find callId with
    | some call => advanceDecision registrations call answer
    | none => registrations
  | .crash callId =>
    { registrations with calls := moveDecision registrations.calls callId (.done .crashed) }

end EventaApi.Source
