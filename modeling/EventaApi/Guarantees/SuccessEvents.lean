import EventaApi.Guarantees.NoMoneyStranded

/-!
# Whose payment a success event is

A success names its payment by a reference, and the payment's row is moved from its
checkout session onto the session's intent while one of its own events is processed.
As long as each delivery finds its payment under the reference it carries, an
acknowledged success was recorded on that payment and on no other. A delivery that
finds nothing is acknowledged all the same, whether or not the payment is there.
-/
namespace EventaApi.Guarantees
open Library Source

/-! ## The condition on each turn -/

/-- Each success finds its payment, and no delivery dies with a duplicate unreported. -/
def EachFound (gateway : Gateway) (service : Service) : Turn → Prop
  | .receive request => FromGateway gateway request
  | .advance callId _ => FindsOwn gateway service (phaseOf service callId)
  | .crash callId => DiesClean service (phaseOf service callId)
  | .checkout _ _ | .invoicing _ => True

instance (gateway : Gateway) (service : Service) : (turn : Turn) →
    Decidable (EachFound gateway service turn)
  | .receive request => inferInstanceAs (Decidable (FromGateway gateway request))
  | .advance callId _ =>
    inferInstanceAs (Decidable (FindsOwn gateway service (phaseOf service callId)))
  | .crash callId => inferInstanceAs (Decidable (DiesClean service (phaseOf service callId)))
  | .checkout _ _ | .invoicing _ => isTrue trivial

/-! ## What becomes of a success -/

/-- The event's payment is of another amount than the event reports. -/
def OtherAmount (gateway : Gateway) (db : Db) (verified : VerifiedWebhook) : Prop :=
  ∃ row ∈ db.ledger.payments, row.id = gateway.paymentOf verified.eventId ∧
    row.amountSatang ≠ verified.amountSatang

/-- The money came in on the event's own payment, or that payment is of another amount. -/
def Recorded (gateway : Gateway) (db : Db) (verified : VerifiedWebhook)
    (status : WebhookStatus) : Prop :=
  (status = .processed ∧ Received db (gateway.paymentOf verified.eventId)) ∨
    (status = .failed ∧ OtherAmount gateway db verified)

/-- No other payment of its order is recorded paid. -/
def Alone (db : Db) (paymentId : Nat) : Prop :=
  ∃ row ∈ db.ledger.payments, row.id = paymentId ∧
    otherPaidPaymentExists db.ledger.payments row.orderId paymentId = false

/-- What one step of a call makes of a success is its own payment's. -/
structure Attributed (gateway : Gateway) (db : Db) (phase : Phase) (acted : Acted) : Prop where
  acknowledged : ∀ verified status, acted.phase = .acknowledge verified status →
    verified.type = .succeeded → Recorded gateway acted.db verified status
  paid : ∀ row ∈ acted.db.ledger.payments, row.status = .paid →
    (∃ old ∈ db.ledger.payments, SamePayment row old ∧ old.status = .paid) ∨
      ∃ verified read, phase = .settle verified read ∧
        row.id = gateway.paymentOf verified.eventId
  queued : ∀ id, acted.queued = some id → ∃ verified read,
    (phase = .settle verified read ∨ phase = .checkDuplicate verified read ∨
      phase = .queueRefund verified read) ∧ id = gateway.paymentOf verified.eventId
  /-- A payment settled beside another is looked into until it is reported or found alone. -/
  checked : ∀ id, checking id phase → checking id acted.phase ∨ acted.queued = some id ∨ Alone db id

/-- What a turn makes of a success is its own payment's. -/
def TurnAttributed (gateway : Gateway) (service : Service) : Turn → Prop
  | .advance callId answer =>
    let phase := phaseOf service callId
    Attributed gateway service.office.db phase
      (act service.office.db service.office.clock answer phase)
  | .crash callId => ∀ id, checking id (phaseOf service callId) → Alone service.office.db id
  | .checkout _ _ | .invoicing _ | .receive _ => True

/-- A success in the log is still to be finished, or was recorded on its own payment. -/
def LogAttributed (gateway : Gateway) (db : Db) : Prop :=
  ∀ row ∈ db.webhookEvents, (gateway.event row.providerEventId).type = .succeeded →
    row.status = .received ∨
      Recorded gateway db (gateway.event row.providerEventId) row.status

/-! ## What a call answers for -/

/-- A success is acknowledged as processed, or refused for its amount. -/
def Answers (gateway : Gateway) (db : Db) : Phase → Prop
  | .acknowledge verified status => verified.type = .succeeded →
    status = .processed ∨ (status = .failed ∧ OtherAmount gateway db verified)
  | _ => True

section Answering

variable {gateway : Gateway} {db after : Db} {verified : VerifiedWebhook}

theorem otherAmount_kept (kept : Kept db after) (other : OtherAmount gateway db verified) :
    OtherAmount gateway after verified := by
  obtain ⟨row, member, named, amount⟩ := other
  obtain ⟨new, member', same, _⟩ := kept.payments row member
  exact ⟨new, member', same.id.trans named, by rwa [same.amountSatang]⟩

theorem recorded_kept (kept : Kept db after) {status : WebhookStatus}
    (recorded : Recorded gateway db verified status) : Recorded gateway after verified status :=
  recorded.imp (fun processed => ⟨processed.1, received_kept kept processed.2⟩)
    fun failed => ⟨failed.1, otherAmount_kept kept failed.2⟩

theorem answers_kept (kept : Kept db after) {phase : Phase} (answers : Answers gateway db phase) :
    Answers gateway after phase := by
  cases phase with
  | acknowledge =>
    intro succeeded
    exact (answers succeeded).imp id fun failed => ⟨failed.1, otherAmount_kept kept failed.2⟩
  | _ => trivial

theorem answers_report (report : verified.type ≠ .succeeded) (status : WebhookStatus) :
    Answers gateway db (.acknowledge verified status) :=
  fun succeeded => absurd succeeded report

theorem answers_processed : Answers gateway db (.acknowledge verified .processed) :=
  fun _ => Or.inl rfl

theorem answers_dispatch {payment : Payment} (known : PaymentStored db payment)
    (own : verified.type = .succeeded → payment.id = gateway.paymentOf verified.eventId) :
    Answers gateway db (dispatch verified payment) := by
  unfold dispatch
  split
  next succeeded =>
    unfold onSucceeded
    split
    next amount =>
      intro _
      obtain ⟨row, member, same⟩ := known
      refine Or.inr ⟨rfl, row, member, same.id.trans (own succeeded), fun equal => amount ?_⟩
      exact equal.symm.trans same.amountSatang
    · split
      · trivial
      · exact answers_processed
  · trivial

theorem answers_completePending {now : Instant} (report : verified.type ≠ .succeeded)
    (refund : Option Refund) : Answers gateway db (completePending verified now refund) := by
  unfold completePending
  split
  · exact answers_report report _
  · split
    · exact answers_report report _
    · split
      · trivial
      · split
        · exact answers_report report _
        · trivial

theorem answers_refundSettled {origin : Origin} (refund : Refund) (reported : Reported origin) :
    Answers gateway db (refundSettled refund origin) := by
  cases origin with
  | request => trivial
  | report verified => exact answers_report (reported verified rfl) _

theorem answers_afterFailRefund {origin : Origin} (reason : Option String) (moved : Bool)
    (reported : Reported origin) : Answers gateway db (afterFailRefund reason moved origin) := by
  cases origin with
  | request => trivial
  | report verified =>
    cases moved with
    | true => exact answers_report (reported verified rfl) _
    | false => trivial

theorem answers_afterAttempt (gatewayRef : String) (payment : Option Payment) :
    Answers gateway db (afterAttempt gatewayRef payment) := by
  unfold afterAttempt
  split
  · trivial
  · split <;> trivial

end Answering

section Steps

variable {gateway : Gateway} {service : Service} {now : Instant} {phase : Phase} {acted : Acted}

theorem saw_answers {next : Phase} (saw : Saw service.office.db phase next)
    (knows : Knows service.office.db phase) (own : FindsOwn gateway service phase) :
    Answers gateway service.office.db next := by
  cases saw with
  | recorded verified fresh =>
    unfold afterRecord
    split
    · trivial
    · split <;> trivial
  | looked verified payment found =>
    cases payment with
    | none => exact answers_processed
    | some payment =>
      have stored := (findByGatewayRef_some found).1
      have known : PaymentStored service.office.db payment := ⟨payment, stored, rfl, rfl, rfl⟩
      have mine (succeeded : verified.type = .succeeded) :
          payment.id = gateway.paymentOf verified.eventId := by
        have named := own succeeded
        rw [found] at named
        exact Option.some.inj named
      unfold afterLookup
      simp only
      split
      · exact answers_dispatch known mine
      · split
        · exact answers_dispatch known mine
        · trivial
  | unduplicated => exact answers_processed
  | refundReported verified now refund => exact answers_completePending knows refund
  | racedBy verified current => cases current <;> exact answers_report knows _
  | answered _ refund now outcome =>
    unfold afterProvider
    split
    · trivial
    · split <;> trivial
  | lostDuplicate origin | lostVoid origin => cases origin <;> trivial
  | replayed =>
    unfold replay
    split <;> trivial
  | attemptedBefore _ _ started payment => exact answers_afterAttempt started.gatewayRef payment
  | duplicate | sole | refundable | payable | started | unsettled | orderGone | unrefundable
  | unclaimed | unvoided | unpayable | unstarted | unattempted | done => trivial

theorem acts_answers (acts : Acts service.office.db now phase acted)
    (owes : Owes gateway service.office.db phase) (knows : Knows service.office.db phase)
    (own : FindsOwn gateway service phase) : Answers gateway acted.db acted.phase := by
  have kept := acts_kept acts
  cases acts with
  | read phase next saw => exact saw_answers saw knows own
  | logged verified fresh =>
    change Answers gateway _ (afterRecord verified fresh)
    unfold afterRecord
    split
    · trivial
    · split <;> trivial
  | reconciled verified payment settledRef =>
    obtain ⟨row, member, same⟩ := paymentStored_kept kept knows
    exact answers_dispatch ⟨row, member, same.id, same.orderId, same.amountSatang⟩
      fun succeeded => (owes.2 succeeded).1
  | settled verified payment _ _ settlement =>
    change Answers gateway _ (afterSettle verified payment settlement.outcome)
    unfold afterSettle
    split
    · trivial
    · exact answers_processed
  | queued | released => exact answers_processed
  | failed verified payment =>
    change Answers gateway _ (afterMarkFailed verified payment)
    unfold afterMarkFailed
    split
    · trivial
    · exact answers_processed
  | failedRefund origin refund reason moved => exact answers_afterFailRefund reason moved knows.1
  | duplicateRefunded origin refund | voided origin refund =>
    exact answers_refundSettled refund knows.1
  | attempted _ _ started next answered =>
    change Answers gateway _ next
    rw [answered]
    exact answers_afterAttempt started.gatewayRef _
  | acknowledged | claimed | recordedPending | repointed => trivial

end Steps

/-! ## What is kept -/

/-- What a call carries of a success is its own payment's, and what it checks was received. -/
structure Working (gateway : Gateway) (db : Db) (phase : Phase) : Prop where
  owes : Owes gateway db phase
  answers : Answers gateway db phase
  checked : ∀ id, checking id phase → Received db id

/-- The calls in flight and the log attribute each success to its own payment. -/
structure Delivering (gateway : Gateway) (service : Service) : Prop where
  grounded : Grounded service
  calls : ∀ call ∈ service.calls, Working gateway service.office.db call.phase
  logged : LogAttributed gateway service.office.db

theorem unpaid_delivering (gateway : Gateway) {service : Service} (unpaid : Unpaid service) :
    Delivering gateway service where
  grounded := unpaid_grounded unpaid
  calls := fun _ stored => absurd stored (Table.not_mem_of_empty unpaid.calls _)
  logged := fun _ stored => absurd stored (Table.not_mem_of_empty unpaid.webhookEvents _)

section Working

variable {gateway : Gateway} {db after : Db}

theorem working_kept (kept : Kept db after) {phase : Phase} (working : Working gateway db phase) :
    Working gateway after phase where
  owes := owes_kept kept working.owes
  answers := answers_kept kept working.answers
  checked := fun id checks => received_kept kept (working.checked id checks)

theorem working_done (reply : Reply) : Working gateway db (.done reply) :=
  ⟨trivial, trivial, fun _ checks => checks.elim⟩

theorem working_request {request : Request} (genuine : FromGateway gateway request) :
    Working gateway db request.phase := by
  cases request with
  | webhook verified =>
    simp only [Request.phase]
    split
    · exact working_done _
    · exact ⟨genuine, trivial, fun _ checks => checks.elim⟩
  | refund | pay => exact ⟨trivial, trivial, fun _ checks => checks.elim⟩

theorem recorded_of_working {verified : VerifiedWebhook} {status : WebhookStatus}
    (working : Working gateway db (.acknowledge verified status))
    (succeeded : verified.type = .succeeded) : Recorded gateway db verified status := by
  rcases working.answers succeeded with processed | failed
  · exact Or.inl ⟨processed, working.owes.2 processed succeeded⟩
  · exact Or.inr failed

theorem logAttributed_kept (kept : Kept db after) (same : after.webhookEvents = db.webhookEvents)
    (logged : LogAttributed gateway db) : LogAttributed gateway after := by
  intro row member succeeded
  rw [same] at member
  exact (logged row member succeeded).imp id fun recorded => recorded_kept kept recorded

end Working

section Step

variable {gateway : Gateway} {service : Service} {now : Instant} {phase : Phase} {acted : Acted}

theorem acts_working (acts : Acts service.office.db now phase acted)
    (working : Working gateway service.office.db phase) (knows : Knows service.office.db phase)
    (own : FindsOwn gateway service phase) : Working gateway acted.db acted.phase where
  owes := acts_owes acts working.owes knows own working.checked
  answers := acts_answers acts working.owes knows own
  checked := by
    intro id checks
    rcases (acts_checking acts knows checks).2 with before | ⟨_, _, _, _, received⟩
    · exact received_kept (acts_kept acts) (working.checked id before)
    · exact received

theorem acts_logAttributed (acts : Acts service.office.db now phase acted)
    (working : Working gateway service.office.db phase)
    (logged : LogAttributed gateway service.office.db) : LogAttributed gateway acted.db := by
  have kept := acts_kept acts
  intro row member succeeded
  rcases acts_webhookEvent acts member with before | received | ⟨verified, acknowledges, named⟩
  · exact (logged row before succeeded).imp id fun recorded => recorded_kept kept recorded
  · exact Or.inl received
  · rw [acknowledges] at working
    have genuine : gateway.event row.providerEventId = verified := named ▸ working.owes.1
    rw [genuine] at succeeded ⊢
    exact Or.inr (recorded_kept kept (recorded_of_working working succeeded))

/-- A call that was checking a payment goes on, reports it, or found it alone. -/
theorem checked_step (acts : Acts service.office.db now phase acted)
    (grounded : Grounded service) (knows : Knows service.office.db phase) {id : Nat}
    (checks : checking id phase) :
    checking id acted.phase ∨ acted.queued = some id ∨ Alone service.office.db id := by
  rcases acts_checked acts checks with still | queued | ⟨read, ⟨verified, at'⟩, named, outcome⟩
  · exact Or.inl still
  · exact Or.inr (Or.inl queued)
  · have known : PaymentStored service.office.db read := by
      rcases at' with at' | at' <;> rw [at'] at knows <;> exact knows.2
    obtain ⟨row, stored, same⟩ := known
    rcases outcome with alone | missing
    · refine Or.inr (Or.inr ⟨row, stored, same.id.trans named, ?_⟩)
      rwa [same.orderId]
    · obtain ⟨order, placed, mine, _⟩ := grounded.payments row stored
      exact absurd (mine.trans same.orderId) (Table.find_eq_none.mp missing order placed)

theorem acts_attributed (acts : Acts service.office.db now phase acted)
    (grounded : Grounded service) (working : Working gateway service.office.db phase)
    (knows : Knows service.office.db phase) (own : FindsOwn gateway service phase) :
    Attributed gateway service.office.db phase acted where
  acknowledged := by
    intro verified status acknowledges succeeded
    have next := acts_working acts working knows own
    rw [acknowledges] at next
    exact recorded_of_working next succeeded
  paid := by
    intro row member paid
    rcases acts_paid acts knows member paid with before | ⟨verified, read, settles, named, _⟩
    · exact Or.inl before
    · have owes := working.owes
      rw [settles] at owes
      exact Or.inr ⟨verified, read, settles, named.symm.trans owes.2⟩
  queued := by
    intro id queued
    have owes := working.owes
    rcases acts_queued acts knows queued with ⟨verified, read, settles, named, _⟩ | checks
    · rw [settles] at owes
      exact ⟨verified, read, Or.inl settles, named.symm.trans owes.2⟩
    · cases phase with
      | checkDuplicate verified read =>
        exact ⟨verified, read, Or.inr (Or.inl rfl), checks.symm.trans owes.2⟩
      | queueRefund verified read =>
        exact ⟨verified, read, Or.inr (Or.inr rfl), checks.symm.trans owes.2⟩
      | _ => exact checks.elim
  checked := fun _ checks => checked_step acts grounded knows checks

end Step

section Turns

variable {gateway : Gateway}

/-- What holds of every call, and of a call that ended, holds of the phase a call is in. -/
theorem phaseOf_of_calls {service : Service} {fact : Phase → Prop}
    (held : ∀ call ∈ service.calls, fact call.phase) (ended : fact (.done .crashed))
    (callId : Nat) : fact (phaseOf service callId) := by
  unfold phaseOf
  split
  next call found => exact held call (Table.find_eq_some.mp found).1
  · exact ended

theorem serve_delivering (service : Service) (turn : Turn) (delivering : Delivering gateway service)
    (found : EachFound gateway service turn) : Delivering gateway (serve service turn) := by
  have grounded := serve_grounded service turn delivering.grounded
  cases turn with
  | checkout op free =>
    have kept := step_kept service.office free
    exact
      { grounded
        calls := fun call member => working_kept kept (delivering.calls call member)
        logged := logAttributed_kept kept (step_ledger service.office free).2 delivering.logged }
  | invoicing write =>
    have kept := invoicing_kept service write
    exact
      { grounded
        calls := fun call member => working_kept kept (delivering.calls call member)
        logged := logAttributed_kept kept rfl delivering.logged }
  | receive request =>
    refine ⟨grounded, fun call member => ?_, delivering.logged⟩
    rcases Table.mem_insert.mp member with old | rfl
    · exact delivering.calls call old
    · exact working_request found
  | crash callId =>
    exact ⟨grounded, forall_moveCall delivering.calls (working_done _), delivering.logged⟩
  | advance callId answer =>
    have own : FindsOwn gateway service (phaseOf service callId) := found
    cases here : service.calls.find callId with
    | none =>
      simp only [serve, here]
      exact delivering
    | some call =>
      rw [phaseOf_found here] at own
      simp only [serve, here] at grounded ⊢
      have stored := (Table.find_eq_some.mp here).1
      have acts := act_cases service.office.db service.office.clock answer call.phase
      have working := delivering.calls call stored
      have kept := acts_kept acts
      refine ⟨grounded, ?_, acts_logAttributed acts working delivering.logged⟩
      exact forall_moveCall
        (fun other member => working_kept kept (delivering.calls other member))
        (acts_working acts working (delivering.grounded.calls call stored) own)

theorem turn_attributed (service : Service) (turn : Turn) (delivering : Delivering gateway service)
    (found : EachFound gateway service turn) : TurnAttributed gateway service turn := by
  cases turn with
  | checkout | invoicing | receive => trivial
  | advance callId answer =>
    have knows : Knows service.office.db (phaseOf service callId) :=
      phaseOf_of_calls delivering.grounded.calls trivial callId
    have working : Working gateway service.office.db (phaseOf service callId) :=
      phaseOf_of_calls delivering.calls (working_done _) callId
    exact acts_attributed (act_cases _ _ answer _) delivering.grounded working knows found
  | crash callId =>
    intro id checks
    have clean : DiesClean service (phaseOf service callId) := found
    have knows : Knows service.office.db (phaseOf service callId) :=
      phaseOf_of_calls delivering.grounded.calls trivial callId
    cases at' : phaseOf service callId with
    | checkDuplicate verified read =>
      rw [at'] at checks clean knows
      obtain ⟨row, stored, same⟩ := knows.2
      have named : read.id = id := checks
      subst named
      refine ⟨row, stored, same.id, ?_⟩
      rw [same.orderId]
      exact clean
    | queueRefund =>
      rw [at'] at clean
      exact clean.elim
    | _ =>
      rw [at'] at checks
      exact checks.elim

end Turns

/-- While each success finds its payment, every step's and the log's attribution is right. -/
theorem success_attributed {gateway : Gateway} {service : Service} (unpaid : Unpaid service)
    {turns : List Turn} (meets : Meets serve (EachFound gateway) service turns) :
    Meets serve (TurnAttributed gateway) service turns ∧
      LogAttributed gateway (run serve service turns).office.db := by
  have initial : Delivering gateway service := unpaid_delivering gateway unpaid
  have reached : Delivering gateway (run serve service turns) :=
    run_invariant serve_delivering initial meets
  exact ⟨Meets.of_invariant serve_delivering turn_attributed initial meets, reached.logged⟩

/-- The checkout session's success, which names the intent it was paid through. -/
def sessionPaid : VerifiedWebhook := { success "evt_1" "cs_1" with settledRef := some "pi_1" }

/-- One payment of which both the session and its intent report the success. -/
def sessionAndIntent : Gateway where
  event := fun eventId =>
    if eventId = "evt_1" then sessionPaid else success eventId "pi_1"
  paymentOf := fun _ => 0

/-- The session's event settles the payment and moves it; the intent's finds it paid. -/
def sessionFirst : List Turn :=
  [sale] ++ paying 0 "cs_1" ++ [.receive (.webhook sessionPaid)] ++ steps 1 5 ++
    landing 2 "evt_2" "pi_1"

theorem success_attributed_till :
    Meets serve (TurnAttributed sessionAndIntent) till sessionFirst ∧
      LogAttributed sessionAndIntent (run serve till sessionFirst).office.db ∧
      ((run serve till sessionFirst).office.db.webhookEvents.rows.map fun event =>
        (event.providerEventId, event.status)) = [("evt_1", .processed), ("evt_2", .processed)] := by
  obtain ⟨steps, logged⟩ := success_attributed till_unpaid
    (show Meets serve (EachFound sessionAndIntent) till sessionFirst by decide +kernel)
  exact ⟨steps, logged, by decide +kernel⟩

/-- The session's delivery dies once it has moved the row; redelivered, it finds nothing. -/
def diesOnceMoved : List Turn :=
  [sale] ++ paying 0 "cs_1" ++ [.receive (.webhook sessionPaid)] ++ steps 1 3 ++ [.crash 1] ++
    [.receive (.webhook sessionPaid)] ++ steps 2 3

/-- The success is processed, its payment is there under the intent, and nobody was paid. -/
theorem success_lost :
    let reached := run serve till diesOnceMoved
    (∀ call ∈ reached.calls.rows, ¬ inFlight call.phase) ∧
      (reached.office.db.webhookEvents.rows.map fun event =>
        (event.providerEventId, event.status)) = [("evt_1", .processed)] ∧
      (reached.office.db.ledger.payments.rows.map fun payment =>
        (payment.id, payment.status, payment.gatewayRef)) = [(0, .pending, some "pi_1")] ∧
      ¬ LogAttributed sessionAndIntent reached.office.db := by
  intro reached
  refine ⟨by decide +kernel, by decide +kernel, by decide +kernel, fun logged => ?_⟩
  have processed : ∃ event ∈ reached.office.db.webhookEvents.rows,
      event.providerEventId = "evt_1" ∧ event.status = .processed := by decide +kernel
  have unpaid : ∀ payment ∈ reached.office.db.ledger.payments.rows, ¬ moneyIn payment := by
    decide +kernel
  obtain ⟨event, member, named, status⟩ := processed
  have attributed := logged event member (by rw [named]; rfl)
  rw [status] at attributed
  rcases attributed with received | ⟨_, payment, stored, _, money⟩ | ⟨failed, _⟩
  · cases received
  · exact unpaid payment stored money
  · cases failed

end EventaApi.Guarantees
