import EventaApi.Guarantees.MoneyReferences
import EventaApi.Source.ApprovalFlows

/-!
# What one step of an approval or an offer does

The inversion rule of `actOn`: a step reads or throws, holds places, gives a registration
its places, or lets a hold go. From it, what each step is to the workspace, and how many
registrations a call has given their places.
-/
namespace EventaApi.Guarantees
open Library Source

/-- Approving this registration, if it is still open, gives nothing away unpaid. -/
def Vetted (order : Order) : Prop :=
  AWAITING_DECISION.contains order.status = true → order.totalSatang ≠ 0 →
    order.paymentStatus = .paid

/-- The hold a call has taken, to be converted or given back. -/
def heldBy : DecisionPhase → Option Nat
  | .orderById _ (.line _ holdId) | .settleOrder _ (.line _ holdId)
  | .markOffered _ _ holdId _ _ | .giveBack holdId _ _ | .releasePlace _ holdId _ => some holdId
  | _ => none

/-- The call is about to let its hold go. -/
def lettingGo : DecisionPhase → Prop
  | .giveBack _ _ _ | .releasePlace _ _ _ => True
  | _ => False

/-- The line a phase works through. -/
def lineOf : DecisionPhase → Option LineRun
  | .orderById _ (.line line _) | .settleOrder _ (.line line _) | .waitlistEntry _ (.line line)
  | .holdForOffer _ (.line line) | .markOffered _ (.line line) _ _ _
  | .giveBack _ (.line line) _ | .frontOfLine line | .confirmFree line _
  | .releasePlace line _ _ => some line
  | _ => none

/-- How many registrations a reply says were given their places. -/
def givenIn : DecisionReply → Nat
  | .approved result | .confirmed result => if result.outcome = .approved then 1 else 0
  | .offered result => if result.outcome = .offered then 1 else 0
  | .newPlaces offered _ => offered
  | .thrown _ | .crashed => 0

/-- How many registrations the call has given their places so far. -/
def given : DecisionPhase → Nat
  | .done reply => givenIn reply
  | phase => match lineOf phase with
    | some line => line.served.length
    | none => 0

/-- Where a step that writes nothing leads. -/
inductive Leads (db : Db) : DecisionPhase → DecisionPhase → Prop where
  | found (orderId : Nat) (asked : Asked) (order : Order)
      (found : db.orders.find orderId = some order) (vetted : Vetted order) :
      Leads db (.mustFind orderId asked) (.orderById orderId (.organizer asked))
  | foundOwing (orderId userId : Nat) (order : Order)
      (found : db.orders.find orderId = some order) :
      Leads db (.mustFind orderId (.offer userId)) (.waitlistEntry orderId (.organizer userId))
  | located (orderId : Nat) (approvedFor : ApprovedFor) (order : Order)
      (found : db.orders.find orderId = some order) :
      Leads db (.orderById orderId approvedFor) (.settleOrder orderId approvedFor)
  | unlocated (orderId : Nat) (line : LineRun) (holdId : Nat) (failure : Option TxError) :
      Leads db (.orderById orderId (.line line holdId)) (.releasePlace line holdId failure)
  | unsettled (orderId : Nat) (line : LineRun) (holdId : Nat) (failure : Option TxError) :
      Leads db (.settleOrder orderId (.line line holdId)) (.releasePlace line holdId failure)
  | entered (orderId : Nat) (offeredFor : OfferedFor) (entry : WaitlistEntry)
      (found : waitlistEntry db orderId = some entry) :
      Leads db (.waitlistEntry orderId offeredFor) (.holdForOffer entry offeredFor)
  | unoffered (entry : WaitlistEntry) (offeredFor : OfferedFor) (holdId : Nat)
      (offeredAt offerExpiresAt : Instant) (error : TxError) :
      Leads db (.markOffered entry offeredFor holdId offeredAt offerExpiresAt)
        (.giveBack holdId offeredFor error)
  | opened (ticketTypeId : Nat) :
      Leads db (.findOwnedById ticketTypeId) (.frontOfLine { ticketTypeId, served := [] })
  | lineEnded (line : LineRun) (interrupted : Bool)
      (why : interrupted = false → frontOfLine db line.ticketTypeId = none ∨
        ∃ entry, frontOfLine db line.ticketTypeId = some entry ∧ entry.order.id ∈ line.served) :
      Leads db (.frontOfLine line) (stopLine line interrupted)
  | ended (phase : DecisionPhase) (reply : DecisionReply)
      (unheld : heldBy phase = none ∨ lettingGo phase) (unserved : ∀ line, phase ≠ .frontOfLine line)
      (same : givenIn reply = given phase) : Leads db phase (.done reply)

/-- What a step did. -/
inductive DecisionActs (db : Db) (now : Instant) : DecisionPhase → DecisionActed → Prop where
  | led (phase next : DecisionPhase) (leads : Leads db phase next) :
      DecisionActs db now phase { db, phase := next }
  | tried (line : LineRun) (entry : WaitlistEntry) (next : DecisionPhase)
      (front : frontOfLine db line.ticketTypeId = some entry)
      (unserved : entry.order.id ∉ line.served)
      (serves : next = if confirmsOnOffer entry.order then .confirmFree line entry
        else .waitlistEntry entry.order.id (.line line)) :
      DecisionActs db now (.frontOfLine line) { db, phase := next, tried := some entry }
  | swept (phase : DecisionPhase) (ticketTypeId : Nat) (reply : DecisionReply)
      (unheld : heldBy phase = none) (unserved : ∀ line, phase ≠ .frontOfLine line)
      (same : givenIn reply = given phase) :
      DecisionActs db now phase
        { db := { db with seatHolds := expireLapsedForTier db.seatHolds ticketTypeId now }
          phase := .done reply }
  | heldOffer (entry : WaitlistEntry) (offeredFor : OfferedFor) (expiresAt : Instant)
      (tier : TicketType) (found : db.ticketTypes.find entry.ticketTypeId = some tier)
      (positive : 1 ≤ entry.quantity)
      (fits : tier.sold + activeHeldQuantity
        (expireLapsedForTier db.seatHolds entry.ticketTypeId now) entry.ticketTypeId +
          entry.quantity ≤ tier.total)
      (stored : (db.orders.find entry.order.id).isSome) :
      DecisionActs db now (.holdForOffer entry offeredFor)
        { db := { db with
            seatHolds := (expireLapsedForTier db.seatHolds entry.ticketTypeId now).insert
              (heldQuantity (offerHold entry expiresAt)) }
          phase := .markOffered entry offeredFor db.seatHolds.next now expiresAt
          taken := some (takenBy db now (offerHold entry expiresAt) db.seatHolds.next) }
  | heldPlace (line : LineRun) (entry : WaitlistEntry) (expiresAt : Instant)
      (tier : TicketType) (found : db.ticketTypes.find entry.ticketTypeId = some tier)
      (positive : 1 ≤ entry.quantity)
      (fits : tier.sold + activeHeldQuantity
        (expireLapsedForTier db.seatHolds entry.ticketTypeId now) entry.ticketTypeId +
          entry.quantity ≤ tier.total)
      (stored : (db.orders.find entry.order.id).isSome) :
      DecisionActs db now (.confirmFree line entry)
        { db := { db with
            seatHolds := (expireLapsedForTier db.seatHolds entry.ticketTypeId now).insert
              (heldQuantity (offerHold entry expiresAt)) }
          phase := .orderById entry.order.id (.line line db.seatHolds.next)
          taken := some (takenBy db now (offerHold entry expiresAt) db.seatHolds.next) }
  | approved (orderId : Nat) (approvedFor : ApprovedFor) (mintQrToken : Nat → String)
      (order : Order) (settlement : Settlement) (after : Db)
      (found : db.orders.find orderId = some order)
      (settles : Settled db (approvalInput orderId approvedFor mintQrToken) order now settlement
        after) (outcome : settlement.outcome = .settled) :
      DecisionActs db now (.settleOrder orderId approvedFor)
        { db := after
          phase := afterApproval orderId (approvalResult settlement) approvedFor
          gave := some orderId }
  | offered (entry : WaitlistEntry) (offeredFor : OfferedFor) (holdId : Nat)
      (offeredAt offerExpiresAt : Instant) (order : Order)
      (found : db.orders.find entry.order.id = some order) (waiting : order.status = .waitlisted) :
      DecisionActs db now (.markOffered entry offeredFor holdId offeredAt offerExpiresAt)
        { db := offeredDb db (offerInput entry offeredFor offerExpiresAt) order offeredAt
          phase := afterOffer entry.order.id
            { outcome := .offered, reference := entry.order.reference
              offerExpiresAt := some offerExpiresAt } offeredFor
          gave := some entry.order.id }
  | gaveBack (holdId : Nat) (offeredFor : OfferedFor) (error : TxError) :
      DecisionActs db now (.giveBack holdId offeredFor error)
        { db := release db [holdId], phase := offeredFor.threw error }
  | released (line : LineRun) (holdId : Nat) (failure : Option TxError) :
      DecisionActs db now (.releasePlace line holdId failure)
        { db := release db [holdId], phase := stopLine line failure.isSome }

/-! ## The inversion rule -/

section Steps

variable {db : Db} {now : Instant}

theorem assertDecidable_ok {order : Order} {settled : OrderStatus} {verdict : Verdict} {done : Unit}
    (passed : assertDecidable order settled verdict = .ok done) :
    order.status = settled ∨ verdict.allowed = true := by
  unfold assertDecidable at passed
  split at passed
  next holds => exact holds
  next => cases passed

theorem vetted_of_canApprove {order : Order} (allowed : (canApprove order).allowed = true) :
    Vetted order := by
  intro _ owes
  unfold canApprove at allowed
  split at allowed
  · cases allowed
  · split at allowed
    · cases allowed
    next settled =>
      by_contra unpaid
      exact settled ⟨Nat.pos_of_ne_zero owes, unpaid⟩

theorem vetted_of_confirmed {order : Order} (confirmed : order.status = .confirmed) :
    Vetted order := by
  intro open' _
  simp [AWAITING_DECISION, confirmed] at open'

theorem vetted_of_free {order : Order} (free : order.totalSatang = 0) : Vetted order :=
  fun _ owes => absurd free owes

/-- The organizer's check lets a registration through that may be approved, or offered. -/
theorem afterFind_leads {orderId : Nat} {asked : Asked} :
    Leads db (.mustFind orderId asked) (afterFind orderId asked (db.orders.find orderId)) := by
  have ends (error : TxError) : Leads db (.mustFind orderId asked) (.done (.thrown error)) :=
    .ended _ _ (Or.inl rfl) (fun _ same => by cases same) rfl
  cases found : db.orders.find orderId with
  | none => exact ends _
  | some order =>
    cases asked with
    | approve userId =>
      simp only [afterFind]
      split
      next passed =>
        refine .found orderId _ order found ?_
        rcases assertDecidable_ok passed with confirmed | allowed
        · exact vetted_of_confirmed confirmed
        · exact vetted_of_canApprove allowed
      · exact ends _
    | offer userId =>
      simp only [afterFind]
      split
      next free =>
        split
        · exact .found orderId _ order found (vetted_of_free free)
        · exact ends _
      next owes =>
        split
        · exact .foundOwing orderId userId order found
        · exact ends _

/-- An offer's hold is not taken, or taken while the places left cover it. -/
theorem holdForOffer_cases {input : HoldQuantityInput} {hold : Option Nat} {after : Db}
    (success : holdForOffer db input now = .ok (hold, after)) :
    let swept := expireLapsedForTier db.seatHolds input.ticketTypeId now
    (hold = none ∧ (after = db ∨ after = { db with seatHolds := swept })) ∨
      ∃ tier, db.ticketTypes.find input.ticketTypeId = some tier ∧ 1 ≤ input.quantity ∧
        tier.sold + activeHeldQuantity swept input.ticketTypeId + input.quantity ≤ tier.total ∧
        (∀ orderId, input.orderId = some orderId → (db.orders.find orderId).isSome) ∧
        hold = some db.seatHolds.next ∧
        after = { db with seatHolds := swept.insert (heldQuantity input) } := by
  unfold holdForOffer at success
  split at success
  · cases success
  next booking =>
  rw [not_or, not_lt, not_lt] at booking
  simp only [holdQuantity, if_neg (not_lt.mpr booking.1)] at success
  split at success
  · cases success
    exact Or.inl ⟨rfl, Or.inl rfl⟩
  next tier found =>
  split at success
  · cases success
    exact Or.inl ⟨rfl, Or.inl rfl⟩
  · split at success
    · cases success
      exact Or.inl ⟨rfl, Or.inr rfl⟩
    next enough =>
      cases attached : foreignKey (input.orderId.all fun id => (db.orders.find id).isSome)
          "seat_holds.order_id" with
      | error _ =>
        rw [attached] at success
        cases success
      | ok _ =>
        rw [attached] at success
        cases success
        refine Or.inr ⟨tier, found, booking.1, by omega, ?_, ?_, rfl⟩
        · intro orderId named
          simpa [named] using foreignKey_ok.mp attached
        · simp [HoldQuantityResult.hold, expireLapsedForTier, Table.next_update]

/-- An offer that holds its places has room for them. -/
theorem holdForOffer_taken {input : HoldQuantityInput} {holdId : Nat} {after : Db}
    (success : holdForOffer db input now = .ok (some holdId, after)) :
    let swept := expireLapsedForTier db.seatHolds input.ticketTypeId now
    holdId = db.seatHolds.next ∧
      after = { db with seatHolds := swept.insert (heldQuantity input) } ∧
      ∃ tier, db.ticketTypes.find input.ticketTypeId = some tier ∧ 1 ≤ input.quantity ∧
        tier.sold + activeHeldQuantity swept input.ticketTypeId + input.quantity ≤ tier.total ∧
        ∀ orderId, input.orderId = some orderId → (db.orders.find orderId).isSome := by
  rcases holdForOffer_cases success with ⟨none, _⟩ | ⟨tier, found, positive, fits, attached,
    taken, written⟩
  · cases none
  · exact ⟨Option.some.inj taken, written, tier, found, positive, fits, attached⟩

/-- One that does not has swept the holds at most. -/
theorem holdForOffer_untaken {input : HoldQuantityInput} {after : Db}
    (success : holdForOffer db input now = .ok (none, after)) :
    after = db ∨ after = { db with
      seatHolds := expireLapsedForTier db.seatHolds input.ticketTypeId now } := by
  rcases holdForOffer_cases success with ⟨_, written⟩ | ⟨_, _, _, _, _, taken, _⟩
  · exact written
  · cases taken

/-- A call whose approval threw gives nothing, and lets go of its hold before it ends. -/
theorem approval_threw {phase : DecisionPhase} {orderId : Nat} {approvedFor : ApprovedFor}
    (error : TxError)
    (asked : phase = .orderById orderId approvedFor ∨ phase = .settleOrder orderId approvedFor) :
    Leads db phase (approvedFor.threw error) := by
  cases approvedFor with
  | organizer asked =>
    rcases asked with rfl | rfl <;>
      exact .ended _ _ (Or.inl rfl) (fun _ same => by cases same) rfl
  | line line holdId =>
    rcases asked with rfl | rfl
    · exact .unlocated orderId line holdId _
    · exact .unsettled orderId line holdId _

/-- A call whose offer threw without a hold ends, having given nothing. -/
theorem offer_threw {phase : DecisionPhase} {offeredFor : OfferedFor} (error : TxError)
    (unheld : heldBy phase = none ∨ lettingGo phase) (unserved : ∀ line, phase ≠ .frontOfLine line)
    (works : ∀ reply, offeredFor.threw error = .done reply → givenIn reply = given phase) :
    Leads db phase (offeredFor.threw error) := by
  cases offeredFor with
  | organizer => exact .ended _ _ unheld unserved (works _ rfl)
  | line => exact .ended _ _ unheld unserved (works _ rfl)

theorem given_offered {offeredFor : OfferedFor} {error : TxError} {reply : DecisionReply}
    (ended : offeredFor.threw error = .done reply) :
    givenIn reply = match offeredFor with
      | .organizer _ => 0
      | .line line => line.served.length := by
  cases offeredFor <;> cases ended <;> rfl

theorem afterThrow_leads (error : TxError) (phase : DecisionPhase) :
    Leads db phase (afterThrow error phase) := by
  cases phase with
  | mustFind | findOwnedById | done =>
    exact .ended _ _ (Or.inl rfl) (fun _ same => by cases same) rfl
  | confirmFree => exact .ended _ _ (Or.inl rfl) (fun _ same => by cases same) rfl
  | orderById orderId approvedFor => exact approval_threw error (Or.inl rfl)
  | settleOrder orderId approvedFor => exact approval_threw error (Or.inr rfl)
  | waitlistEntry orderId offeredFor =>
    refine offer_threw error (Or.inl rfl) (fun _ same => by cases same) fun reply ended => ?_
    rw [given_offered ended]
    cases offeredFor <;> rfl
  | holdForOffer entry offeredFor =>
    refine offer_threw error (Or.inl rfl) (fun _ same => by cases same) fun reply ended => ?_
    rw [given_offered ended]
    cases offeredFor <;> rfl
  | markOffered entry offeredFor holdId offeredAt offerExpiresAt =>
    exact .unoffered entry offeredFor holdId offeredAt offerExpiresAt error
  | giveBack holdId offeredFor failure =>
    refine offer_threw error (Or.inr trivial) (fun _ same => by cases same) fun reply ended => ?_
    rw [given_offered ended]
    cases offeredFor <;> rfl
  | frontOfLine line => exact .lineEnded line true fun uncut => by cases uncut
  | releasePlace => exact .ended _ _ (Or.inr trivial) (fun _ same => by cases same) rfl

/-- An approval that gives nothing leaves the tables as they were. -/
theorem unsettled_leads {orderId : Nat} {approvedFor : ApprovedFor} {phase : DecisionPhase}
    {result : ApprovalResult} (nothing : result.outcome ≠ .approved)
    (asked : phase = .orderById orderId approvedFor ∨ phase = .settleOrder orderId approvedFor) :
    Leads db phase (afterApproval orderId result approvedFor) := by
  cases approvedFor with
  | organizer organizer =>
    have ends {reply : DecisionReply} (none : givenIn reply = 0) : Leads db phase (.done reply) := by
      rcases asked with rfl | rfl <;>
        exact .ended _ _ (Or.inl rfl) (fun _ same => by cases same) none
    cases organizer with
    | approve userId =>
      simp only [afterApproval]
      split
      · exact ends rfl
      · exact ends (by simp [givenIn, nothing])
    | offer userId =>
      simp only [afterApproval]
      split
      · exact ends rfl
      · exact ends (by simp [givenIn, nothing])
  | line line holdId =>
    simp only [afterApproval, if_neg nothing]
    rcases asked with rfl | rfl
    · exact .unlocated orderId line holdId none
    · exact .unsettled orderId line holdId none

/-- An offer that gives nothing is its call's end. -/
theorem unoffered_ends (orderId : Nat) (result : OfferResult) (nothing : result.outcome ≠ .offered)
    (offeredFor : OfferedFor) :
    ∃ reply, afterOffer orderId result offeredFor = .done reply ∧
      givenIn reply = match offeredFor with
        | .organizer _ => 0
        | .line line => line.served.length := by
  cases offeredFor with
  | organizer userId =>
    simp only [afterOffer]
    split
    · exact ⟨_, rfl, rfl⟩
    · exact ⟨_, rfl, by simp [givenIn, nothing]⟩
  | line line =>
    simp only [afterOffer, if_neg nothing]
    exact ⟨_, rfl, rfl⟩

/-- The step rule of an approval, of an offer and of a run through the line. -/
theorem actOn_cases (db : Db) (now : Instant) (offerWindowMs : Nat) (answer : DecisionAnswer)
    (phase : DecisionPhase) :
    DecisionActs db now phase (actOn db now offerWindowMs answer phase) := by
  cases phase with
  | mustFind orderId asked => exact .led _ _ afterFind_leads
  | orderById orderId approvedFor =>
    simp only [actOn]
    cases found : db.orders.find orderId with
    | none => exact .led _ _ (unsettled_leads (by simp [gone]) (Or.inl rfl))
    | some order => exact .led _ _ (.located orderId approvedFor order found)
  | settleOrder orderId approvedFor =>
    simp only [actOn]
    split
    next settlement after success =>
      obtain ⟨order, found, settles⟩ := settleOrder_cases success
      by_cases outcome : settlement.outcome = .settled
      · rw [if_pos outcome]
        exact .approved orderId approvedFor _ order settlement after found settles outcome
      · rw [if_neg outcome]
        have nothing : (approvalResult settlement).outcome ≠ .approved := by
          simp only [approvalResult]
          cases reported : settlement.outcome <;> simp_all [APPROVAL_OUTCOMES]
        have same : after = db := by
          cases settles with
          | already | unavailable => rfl
          | refused _ paying | awaits _ _ _ paying => cases paying
          | completes _ settled => exact absurd settled outcome
        rw [same]
        exact .led _ _ (unsettled_leads nothing (Or.inr rfl))
    next error _ => exact .led _ _ (approval_threw error (Or.inr rfl))
  | waitlistEntry orderId offeredFor =>
    simp only [actOn]
    split
    next => exact .led _ _ (afterThrow_leads _ (.waitlistEntry orderId offeredFor))
    next entry found =>
      split
      · obtain ⟨reply, ended, same⟩ := unoffered_ends orderId
          { outcome := .alreadyOffered, reference := entry.order.reference
            offerExpiresAt := entry.order.offerExpiresAt } (by simp) offeredFor
        rw [ended]
        refine .led _ _ (.ended _ _ (Or.inl rfl) (fun _ same => by cases same) ?_)
        rw [same]
        cases offeredFor <;> rfl
      · exact .led _ _ (.entered orderId offeredFor entry found)
  | holdForOffer entry offeredFor =>
    simp only [actOn]
    split
    next holdId after success =>
      obtain ⟨rfl, rfl, tier, found, positive, fits, attached⟩ := holdForOffer_taken success
      exact .heldOffer entry offeredFor _ tier found positive fits (attached _ rfl)
    next after success =>
      obtain ⟨reply, ended, same⟩ := unoffered_ends entry.order.id
        { outcome := .noSeat, reference := entry.order.reference, offerExpiresAt := none } (by simp)
        offeredFor
      have given' : givenIn reply = given (.holdForOffer entry offeredFor) := by
        rw [same]
        cases offeredFor <;> rfl
      rw [ended]
      rcases holdForOffer_untaken success with rfl | rfl
      · exact .led _ _ (.ended _ _ (Or.inl rfl) (fun _ same => by cases same) given')
      · exact .swept _ _ _ rfl (fun _ same => by cases same) given'
    next error _ => exact .led _ _ (afterThrow_leads error (.holdForOffer entry offeredFor))
  | markOffered entry offeredFor holdId offeredAt offerExpiresAt =>
    simp only [actOn]
    split
    next after success =>
      obtain ⟨order, found, waiting, written⟩ := markOffered_cases success
      rw [written]
      exact .offered entry offeredFor holdId offeredAt offerExpiresAt order found waiting
    next error _ => exact .led _ _ (.unoffered entry offeredFor holdId offeredAt offerExpiresAt error)
  | giveBack holdId offeredFor error => exact .gaveBack holdId offeredFor error
  | findOwnedById ticketTypeId =>
    simp only [actOn]
    split
    · exact .led _ _ (.opened ticketTypeId)
    · exact .led _ _ (.ended _ _ (Or.inl rfl) (fun _ same => by cases same) rfl)
  | frontOfLine line =>
    simp only [actOn]
    split
    next nobody => exact .led _ _ (.lineEnded line false fun _ => Or.inl nobody)
    next entry front =>
      split
      next served =>
        exact .led _ _ (.lineEnded line false fun _ => Or.inr ⟨entry, front, served⟩)
      next unserved => exact .tried line entry _ front unserved rfl
  | confirmFree line entry =>
    simp only [actOn]
    split
    next holdId after success =>
      obtain ⟨rfl, rfl, tier, found, positive, fits, attached⟩ := holdForOffer_taken success
      exact .heldPlace line entry _ tier found positive fits (attached _ rfl)
    next after success =>
      rcases holdForOffer_untaken success with rfl | rfl
      · exact .led _ _ (.ended _ _ (Or.inl rfl) (fun _ same => by cases same) rfl)
      · exact .swept _ _ _ rfl (fun _ same => by cases same) rfl
    · exact .led _ _ (.ended _ _ (Or.inl rfl) (fun _ same => by cases same) rfl)
  | releasePlace line holdId failure => exact .released line holdId failure
  | done reply => exact .led _ _ (.ended _ _ (Or.inl rfl) (fun _ same => by cases same) rfl)

theorem actOrThrow_cases (registrations : Registrations) (answer : DecisionAnswer)
    (phase : DecisionPhase) :
    DecisionActs registrations.service.office.db registrations.service.office.clock phase
      (actOrThrow registrations answer phase) := by
  unfold actOrThrow
  split
  next error _ => exact .led _ _ (afterThrow_leads error phase)
  · exact actOn_cases _ _ _ _ _

end Steps

/-! ## A step is an operation of the workspace -/

/-- The operations a decision's step runs. -/
def Decides (phase : DecisionPhase) : Op → Prop
  | .settleOrder input => ∃ orderId approvedFor mintQrToken,
    phase = .settleOrder orderId approvedFor ∧ input = approvalInput orderId approvedFor mintQrToken
  | .markOffered _ | .holdQuantity _ | .release _ | .expireStale => True
  | _ => False

section Commits

variable {db : Db} {now : Instant} {phase : DecisionPhase} {acted : DecisionActed}

theorem Decides.paysNothing {op : Op} (decides : Decides phase op) : op.paysNothing := by
  cases op with
  | settleOrder input =>
    obtain ⟨_, _, _, _, rfl⟩ := decides
    exact ⟨rfl, rfl⟩
  | markOffered | holdQuantity | release | expireStale => trivial
  | holdSeats | releaseUnattached | placeOrder | joinWaitlist | rejectOrder | refundOrder
  | releaseHoldsForOrder | recordLedger | enqueue | tick => exact decides.elim

/-- A decision's step is an operation of the workspace, at the time the call read for it. -/
theorem decisionActs_committed (acts : DecisionActs db now phase acted) :
    ∃ at' op, Decides phase op ∧ Committed db at' op acted.db := by
  cases acts with
  | led | tried => exact ⟨now, .expireStale, trivial, .idle _⟩
  | swept _ ticketTypeId =>
    exact ⟨now, .holdQuantity { eventId := 0, ticketTypeId, quantity := 0, expiresAt := 0 }, trivial,
      .sweptTier _⟩
  | heldOffer entry _ expiresAt tier found positive fits stored
  | heldPlace _ entry expiresAt tier found positive fits stored =>
    refine ⟨now, .holdQuantity (offerHold entry expiresAt), trivial,
      .heldQuantity _ tier found positive fits ?_⟩
    intro orderId named
    cases named
    exact stored
  | approved orderId approvedFor mintQrToken order settlement after found settles =>
    exact ⟨now, .settleOrder (approvalInput orderId approvedFor mintQrToken), ⟨_, _, _, rfl, rfl⟩,
      .settled _ order settlement after found settles⟩
  | offered entry offeredFor holdId offeredAt offerExpiresAt order found waiting =>
    exact ⟨offeredAt, .markOffered (offerInput entry offeredFor offerExpiresAt), trivial,
      .offered _ order found waiting⟩
  | gaveBack holdId | released _ holdId =>
    exact ⟨now, .release [holdId], trivial, .released _⟩

/-- A step gives one registration its places, or none. -/
theorem decisionActs_given (acts : DecisionActs db now phase acted) :
    given acted.phase = given phase + acted.gave.toList.length := by
  cases acts with
  | led _ _ leads =>
    cases leads with
    | found | foundOwing | unlocated | unsettled | opened | lineEnded => rfl
    | located _ approvedFor => cases approvedFor <;> rfl
    | entered _ offeredFor | unoffered _ offeredFor => cases offeredFor <;> rfl
    | ended _ _ _ _ same => exact same
  | tried _ _ _ _ _ serves =>
    rw [serves]
    split <;> rfl
  | swept _ _ _ _ _ same => exact same
  | heldOffer _ offeredFor => cases offeredFor <;> rfl
  | heldPlace => rfl
  | approved _ approvedFor _ _ settlement _ _ _ outcome =>
    have approved : (approvalResult settlement).outcome = .approved := by
      simp [approvalResult, outcome, APPROVAL_OUTCOMES]
    cases approvedFor with
    | organizer asked => cases asked <;> simp [afterApproval, approved, given, givenIn, lineOf]
    | line => simp [afterApproval, approved, given, lineOf, LineRun.push]
  | offered _ offeredFor =>
    cases offeredFor <;> simp [afterOffer, given, givenIn, lineOf, LineRun.push]
  | gaveBack _ offeredFor => cases offeredFor <;> rfl
  | released => rfl

end Commits

/-- The operation a turn of the payment service runs. -/
def Serves (service : Service) : Turn → Op → Prop
  | .checkout op _, op' => op' = op
  | .advance callId _, op' => Flows service.office.clock (phaseOf service callId) op'
  | .invoicing _, op' | .receive _, op' | .crash _, op' =>
    Flows service.office.clock (.done .received) op'

/-- The webhook log aside, a turn of the payment service is an operation of the workspace. -/
theorem serve_committed (service : Service) (turn : Turn) :
    ∃ op, Serves service turn op ∧ Committed service.office.db service.office.clock op
      { (serve service turn).office.db with webhookEvents := service.office.db.webhookEvents } := by
  cases turn with
  | checkout op free =>
    refine ⟨op, rfl, ?_⟩
    simp only [serve]
    rw [← (step_ledger service.office free).2]
    rcases step_db service.office op with same | committed
    · rw [same]
      exact .idle op
    · exact commit_cases committed
  | invoicing write =>
    exact ⟨.recordLedger fun ledger => { ledger with invoices := write ledger.invoices }, trivial,
      .recorded _⟩
  | receive | crash => exact ⟨.expireStale, trivial, .idle _⟩
  | advance callId answer =>
    simp only [serve]
    split
    next call found =>
      obtain ⟨op, flows, committed⟩ := acts_committed (act_cases service.office.db
        service.office.clock answer call.phase)
      refine ⟨op, ?_, committed⟩
      rw [Serves, phaseOf_found found]
      exact flows
    next => exact ⟨.expireStale, trivial, .idle _⟩

/-- A step of checkout's leaves the payment flows the rows they read. -/
theorem grounded_committed {service : Service} {at' : Instant} {op : Op} {after : Db}
    (grounded : Grounded service) (free : op.paysNothing)
    (committed : Committed service.office.db at' op after) :
    Grounded { service with office.db := after } := by
  obtain ⟨ledger, _⟩ := commit_ledger free committed
  have kept : Kept service.office.db after :=
    { payments := by
        rw [ledger]
        exact fun row member => ⟨row, member, ⟨rfl, rfl, rfl⟩, id⟩
      refunds := by
        rw [ledger]
        exact fun row member => ⟨row, member, ⟨rfl, rfl, rfl, rfl⟩⟩
      orders := by
        intro row member
        obtain ⟨new, found, moved⟩ := committed_order committed (Table.find_key member)
        exact ⟨new, (Table.find_eq_some.mp found).1, orderStep_same moved⟩ }
  exact
    { calls := fun call member => knows_kept kept (grounded.calls call member)
      refunds := fun refund member =>
        refunds_kept kept (grounded.refunds refund (by simpa [ledger] using member))
      payments := fun payment member =>
        payments_kept kept (grounded.payments payment (by simpa [ledger] using member))
      paidAt := fun payment member => grounded.paidAt payment (by simpa [ledger] using member) }

/-! ## A turn of the desk -/

theorem mem_moveDecision {calls : Table DecisionCall} {callId : Nat} {phase : DecisionPhase}
    {call : DecisionCall} (member : call ∈ moveDecision calls callId phase) :
    (call.id = callId ∧ call.phase = phase) ∨ (call ∈ calls ∧ call.id ≠ callId) := by
  rcases Table.mem_update_cases member with ⟨old, stored, mine, rfl⟩ | ⟨stored, mine⟩
  · exact Or.inl ⟨mine, rfl⟩
  · exact Or.inr ⟨stored, mine⟩

/-- The operation a turn of the desk runs, where it edits no capacity. -/
def Runs (registrations : Registrations) : DecisionTurn → Op → Prop
  | .elsewhere turn _, op => Serves registrations.service turn op
  | .advance callId _, op =>
    op = .expireStale ∨ ∃ call ∈ registrations.calls, call.id = callId ∧ Decides call.phase op
  | .resize _ _, _ => False
  | .receive _, op | .crash _, op => op = .expireStale

/-- The webhook log aside, a turn is an operation of the workspace or edits a capacity. -/
theorem attend_committed (registrations : Registrations) (turn : DecisionTurn) :
    (∃ at' op, Runs registrations turn op ∧ Committed registrations.service.office.db at' op
      { (attend registrations turn).service.office.db with
        webhookEvents := registrations.service.office.db.webhookEvents }) ∨
    ∃ ticketTypeId total, (attend registrations turn).service.office.db =
      { registrations.service.office.db with
        ticketTypes := resizeTier registrations.service.office.db.ticketTypes ticketTypeId total } := by
  cases turn with
  | elsewhere turn apart =>
    obtain ⟨op, serves, committed⟩ := serve_committed registrations.service turn
    exact Or.inl ⟨_, op, serves, committed⟩
  | resize ticketTypeId total => exact Or.inr ⟨ticketTypeId, total, rfl⟩
  | receive | crash => exact Or.inl ⟨0, .expireStale, rfl, .idle _⟩
  | advance callId answer =>
    left
    simp only [attend]
    split
    next call found =>
      obtain ⟨stored, named⟩ := Table.find_eq_some.mp found
      obtain ⟨at', op, decides, committed⟩ :=
        decisionActs_committed (actOrThrow_cases registrations answer call.phase)
      have same : (actOrThrow registrations answer call.phase).db.webhookEvents =
          registrations.service.office.db.webhookEvents :=
        (commit_ledger decides.paysNothing committed).2
      refine ⟨at', op, Or.inr ⟨call, stored, named, decides⟩, ?_⟩
      rw [← same]
      exact committed
    next => exact ⟨0, .expireStale, Or.inl rfl, .idle _⟩

/-- What a turn is to one call: a step of its own, its death, or somebody else's. -/
inductive Passes (registrations : Registrations) (call : DecisionCall) :
    DecisionTurn → Registrations → Prop where
  | acts (answer : DecisionAnswer) (after : Registrations)
      (wrote : after.service.office.db = (actOrThrow registrations answer call.phase).db)
      (moved : after.calls.find call.id =
        some { call with phase := (actOrThrow registrations answer call.phase).phase })
      (did : after.deeds call.id =
        remember (registrations.deeds call.id) (actOrThrow registrations answer call.phase)) :
      Passes registrations call (.advance call.id answer) after
  | dies (after : Registrations)
      (ended : after.calls.find call.id = some { call with phase := .done .crashed })
      (did : after.deeds call.id = registrations.deeds call.id)
      (same : after.service = registrations.service) :
      Passes registrations call (.crash call.id) after
  | waits (turn : DecisionTurn) (after : Registrations)
      (others : ∀ answer, turn ≠ .advance call.id answer)
      (kept : after.calls.find call.id = some call)
      (did : after.deeds call.id = registrations.deeds call.id) :
      Passes registrations call turn after

theorem find_moveDecision {calls : Table DecisionCall} {call : DecisionCall} {callId : Nat}
    {phase : DecisionPhase} (found : calls.find callId = some call) :
    (moveDecision calls callId phase).find callId = some { call with phase } := by
  have mine : call.id = callId := (Table.find_eq_some.mp found).2
  rw [moveDecision, Table.find_update, found, Option.map_some, if_pos mine]

theorem find_moveDecision_of_ne {calls : Table DecisionCall} {callId other : Nat}
    {phase : DecisionPhase} (differ : other ≠ callId) :
    (moveDecision calls callId phase).find other = calls.find other := by
  refine Table.find_update_of_miss fun row _ named mine => ?_
  exact differ (named.symm.trans mine)

theorem attend_passes {registrations : Registrations} {call : DecisionCall}
    (found : registrations.calls.find call.id = some call) (turn : DecisionTurn) :
    Passes registrations call turn (attend registrations turn) := by
  cases turn with
  | elsewhere | resize => exact .waits _ _ (fun _ same => by cases same) found rfl
  | receive request =>
    exact .waits _ _ (fun _ same => by cases same) (Table.find_insert_of_found found) rfl
  | crash callId =>
    by_cases mine : callId = call.id
    · subst mine
      exact .dies _ (find_moveDecision found) rfl rfl
    · refine .waits _ _ (fun _ same => by cases same) ?_ rfl
      rw [← found]
      exact find_moveDecision_of_ne (Ne.symm mine)
  | advance callId answer =>
    by_cases mine : callId = call.id
    · subst mine
      have advanced : attend registrations (.advance call.id answer) =
          advanceDecision registrations call answer := by
        simp only [attend, found]
      rw [advanced]
      exact .acts answer _ rfl (find_moveDecision found) (if_pos rfl)
    · have apart : ∀ own, DecisionTurn.advance callId answer ≠ .advance call.id own :=
        fun _ same => mine (by cases same; rfl)
      simp only [attend]
      split
      next other located =>
        have differ : call.id ≠ other.id := fun same =>
          mine ((Table.find_eq_some.mp located).2.symm.trans same.symm)
        refine .waits _ _ apart ?_ (if_neg differ)
        rw [← found]
        exact find_moveDecision_of_ne differ
      next => exact .waits _ _ apart found rfl

/-! ## A desk, for concrete runs -/

instance : (turn : Turn) → Decidable turn.decides
  | .checkout (.settleOrder _) _ | .checkout (.markOffered _) _ => isTrue trivial
  | .checkout (.holdSeats _) _ | .checkout (.holdQuantity _) _ | .checkout (.release _) _
  | .checkout (.releaseUnattached _) _ | .checkout .expireStale _ | .checkout (.placeOrder _) _
  | .checkout (.joinWaitlist _) _ | .checkout (.rejectOrder _) _ | .checkout (.refundOrder _ _) _
  | .checkout (.releaseHoldsForOrder _) _ | .checkout (.recordLedger _) _
  | .checkout (.enqueue _) _ | .checkout (.tick _) _ | .invoicing _ | .receive _ | .advance _ _
  | .crash _ => isFalse id

def elsewhere (turns : List Turn) : List DecisionTurn :=
  turns.filterMap fun turn => if apart : ¬ turn.decides then some (.elsewhere turn apart) else none

/-- The till with an organizer's desk beside it. -/
def desk : Registrations where
  service := till
  offerWindowMs := 86400000
  calls := Table.empty
  deeds := fun _ => {}

end EventaApi.Guarantees
