import EventaApi.Guarantees.PayoutBalances

/-!
# Retrying a payout

A retry reads the payout's status, calls the provider and writes what came of it, and
nothing guards the last two by the first. The provider's key is the payout's own
reference, so no payout is transferred twice however its retries interleave; for the
same reason a payout that was refused once is refused ever after. And a retry that
loaded a failed payout goes on when another has moved it since: it submits it again,
and if it has no key to submit with writes a failure over the other's success.
-/
namespace EventaApi.Guarantees
open Library Source

/-! ## What is asked of retries -/

def Submitted.succeeds : Submitted → Bool
  | .payout _ failed _ => !failed
  | .stripeError _ | .otherError => false

/-- The transfers made for this payout. -/
def transfers (provider : Provider) (reference : String) : List Submission :=
  provider.submissions.filter fun made =>
    made.idempotencyKey = retryKey reference ∧ Submitted.succeeds made.came

/-- The payout of this reference is failed. -/
def StillFailed (office : PayoutOffice) (reference : String) : Prop :=
  ∀ payout ∈ office.payouts.rows, payout.reference = reference → payout.status = .failed

instance (office : PayoutOffice) (reference : String) : Decidable (StillFailed office reference) :=
  inferInstanceAs (Decidable (∀ _ ∈ _, _))

/-- The outcome is what the payout's row says already. -/
def SameOutcome (payout : Payout) (outcome : RetriedPayout) : Prop :=
  retriedRow outcome payout.requestedAt payout = payout

instance (payout : Payout) (outcome : RetriedPayout) : Decidable (SameOutcome payout outcome) :=
  inferInstanceAs (Decidable (_ = _))

/-- A payout that is no longer failed is neither submitted nor given another outcome. -/
def leavesMoved (reference : String) (office : PayoutOffice) (_ : Submitted) : RetryPhase → Prop
  | .submit row _ => row.reference = reference → office.secretKey.isSome →
    StillFailed office reference
  | .record named outcome _ => named = reference → ∀ payout ∈ office.payouts.rows,
    payout.reference = reference → payout.status = .failed ∨ SameOutcome payout outcome
  | _ => True

instance (reference : String) (office : PayoutOffice) (fresh : Submitted) :
    (phase : RetryPhase) → Decidable (leavesMoved reference office fresh phase)
  | .submit _ _ | .record _ _ _ => inferInstanceAs (Decidable (_ → _))
  | .load _ | .findAccount _ _ | .done _ => isTrue trivial

abbrev RetryPool := Pool PayoutOffice RetryPhase

abbrev RetryTurn := PoolTurn RetryRequest Submitted PayoutEvent

def LeavesMoved (reference : String) : RetryPool → RetryTurn → Prop :=
  Handler.Guarded (leavesMoved reference) fun _ _ => True

instance (reference : String) (pool : RetryPool) (turn : RetryTurn) :
    Decidable (LeavesMoved reference pool turn) :=
  inferInstanceAs (Decidable (Handler.Guarded _ _ pool turn))

def TransferredOnce (reference : String) (pool : RetryPool) : Prop :=
  (transfers pool.shared.provider reference).length ≤ 1

/-- A failed payout that was not transferred yet can still be. -/
def Recoverable (reference : String) (pool : RetryPool) : Prop :=
  (∃ payout ∈ pool.shared.payouts, payout.reference = reference ∧ payout.status = .failed) →
    transfers pool.shared.provider reference = [] →
      ∃ turns, transfers (run retries.serve pool turns).shared.provider reference ≠ []

structure RetriedSafely (reference : String) (start : RetryPool) (turns : List RetryTurn) :
    Prop where
  untouched : Meets retries.serve (LeavesMoved reference) start turns
  once : Throughout retries.serve (TransferredOnce reference) start turns
  recoverable : Throughout retries.serve (Recoverable reference) start turns

/-- The payout is still failed when it is submitted and when a failure is written over it, and
the provider accepts its first submission. -/
def stillFailing (reference : String) (office : PayoutOffice) (fresh : Submitted) :
    RetryPhase → Prop
  | .submit row _ => row.reference = reference → office.secretKey.isSome →
    StillFailed office reference ∧
      (office.provider.recorded (retryKey reference) = none → Submitted.succeeds fresh)
  | .record named outcome _ => named = reference → outcome.status = .failed →
    StillFailed office reference
  | _ => True

instance (reference : String) (office : PayoutOffice) (fresh : Submitted) :
    (phase : RetryPhase) → Decidable (stillFailing reference office fresh phase)
  | .submit _ _ | .record _ _ _ => inferInstanceAs (Decidable (_ → _))
  | .load _ | .findAccount _ _ | .done _ => isTrue trivial

def StillFailing (reference : String) : RetryPool → RetryTurn → Prop :=
  Handler.Guarded (stillFailing reference) fun _ _ => True

instance (reference : String) (pool : RetryPool) (turn : RetryTurn) :
    Decidable (StillFailing reference pool turn) :=
  inferInstanceAs (Decidable (Handler.Guarded _ _ pool turn))

/-- No retry was made yet, and references are the payouts' own. -/
structure Unretried (reference : String) (start : RetryPool) : Prop where
  jobs : start.jobs.rows = []
  unsubmitted : ∀ made ∈ start.shared.provider.submissions,
    made.idempotencyKey ≠ retryKey reference
  distinct : (start.shared.provider.submissions.map Submission.idempotencyKey).Nodup
  references : ∀ left ∈ start.shared.payouts, ∀ right ∈ start.shared.payouts,
    left.reference = right.reference → left = right

/-! ## The provider -/

/-- One submission under each key. -/
def OncePerKey (provider : Provider) : Prop :=
  (provider.submissions.map Submission.idempotencyKey).Nodup

section Keys

variable {provider : Provider} {key reference : String} {amount : Int} {currency : String}
variable {fresh came : Submitted}

theorem recorded_mem (recorded : provider.recorded key = some came) :
    ∃ made ∈ provider.submissions, made.idempotencyKey = key ∧ made.came = came := by
  obtain ⟨made, found, rfl⟩ := Option.map_eq_some_iff.mp recorded
  exact ⟨made, List.mem_of_find?_eq_some found, by simpa using List.find?_some found, rfl⟩

theorem recorded_none :
    provider.recorded key = none ↔ ∀ made ∈ provider.submissions, made.idempotencyKey ≠ key := by
  simp [Provider.recorded]

theorem createPayout_recorded (recorded : provider.recorded key = some came) :
    provider.createPayout key amount currency fresh = (came, provider) := by
  simp [Provider.createPayout, recorded]

theorem createPayout_fresh (unused : provider.recorded key = none) :
    provider.createPayout key amount currency fresh =
      (fresh, { submissions := provider.submissions ++
        [{ idempotencyKey := key, amountSatang := amount, currency, came := fresh }] }) := by
  simp [Provider.createPayout, unused]

/-- Whatever is submitted under a key is on record under it, and was its first outcome. -/
theorem createPayout_answers :
    (provider.createPayout key amount currency fresh).2.recorded key =
      some (provider.createPayout key amount currency fresh).1 := by
  cases recorded : provider.recorded key with
  | some came => rw [createPayout_recorded recorded, recorded]
  | none =>
    rw [createPayout_fresh recorded]
    have unused := recorded_none.mp recorded
    have missing : (provider.submissions.find? fun made => made.idempotencyKey = key) = none := by
      simpa using unused
    simp [Provider.recorded, missing]

/-- A record stays. -/
theorem createPayout_keeps {other : String} (recorded : provider.recorded key = some came) :
    (provider.createPayout other amount currency fresh).2.recorded key = some came := by
  cases used : provider.recorded other with
  | some first => rwa [createPayout_recorded used]
  | none =>
    rw [createPayout_fresh used]
    obtain ⟨made, found, rfl⟩ := Option.map_eq_some_iff.mp recorded
    simp [Provider.recorded, found]

theorem createPayout_oncePerKey (distinct : OncePerKey provider) :
    OncePerKey (provider.createPayout key amount currency fresh).2 := by
  cases used : provider.recorded key with
  | some first => rwa [createPayout_recorded used]
  | none =>
    rw [createPayout_fresh used]
    unfold OncePerKey
    rw [List.map_append, List.nodup_append]
    refine ⟨distinct, List.nodup_singleton _, ?_⟩
    intro left old right new same
    obtain ⟨made, stored, rfl⟩ := List.mem_map.mp old
    simp only [List.map_cons, List.map_nil, List.mem_singleton] at new
    exact recorded_none.mp used made stored (same.trans new)

/-- Nothing but a use of the key records under it. -/
theorem createPayout_other {other : String} (apart : other ≠ key) :
    (provider.createPayout other amount currency fresh).2.recorded key = provider.recorded key := by
  cases recorded : provider.recorded key with
  | some came => exact createPayout_keeps recorded
  | none =>
    cases used : provider.recorded other with
    | some first => rwa [createPayout_recorded used]
    | none =>
      rw [createPayout_fresh used]
      have unused := recorded_none.mp recorded
      refine recorded_none.mpr fun made member => ?_
      rcases List.mem_append.mp member with old | new
      · exact unused made old
      · obtain rfl := List.mem_singleton.mp new
        exact apart

theorem transfers_length (distinct : OncePerKey provider) :
    (transfers provider reference).length ≤ 1 := by
  have keys : ((transfers provider reference).map Submission.idempotencyKey).Nodup :=
    distinct.sublist (List.filter_sublist.map _)
  have same : ∀ made ∈ transfers provider reference,
      made.idempotencyKey = retryKey reference := by
    intro made member
    have picked := (List.mem_filter.mp member).2
    simp only [decide_eq_true_eq] at picked
    exact picked.1
  revert keys same
  cases transfers provider reference with
  | nil => simp
  | cons first rest =>
    cases rest with
    | nil => simp
    | cons second later =>
      intro keys same
      have equal := (same first (by simp)).trans (same second (by simp)).symm
      simp [equal] at keys

/-- A key whose one submission was refused has no transfer. -/
theorem refused_transfers (distinct : OncePerKey provider)
    (recorded : provider.recorded (retryKey reference) = some came)
    (refused : Submitted.succeeds came = false) : transfers provider reference = [] := by
  refine List.filter_eq_nil_iff.mpr fun made stored => ?_
  obtain ⟨first, there, named, rfl⟩ := recorded_mem recorded
  simp only [decide_eq_true_eq, not_and]
  intro same succeeds
  have one : made = first :=
    List.inj_on_of_nodup_map distinct stored there (same.trans named.symm)
  rw [one, refused] at succeeds
  cases succeeds

theorem succeeded_transfers (recorded : provider.recorded (retryKey reference) = some came)
    (succeeds : Submitted.succeeds came = true) : transfers provider reference ≠ [] := by
  obtain ⟨made, stored, named, rfl⟩ := recorded_mem recorded
  exact List.ne_nil_of_mem (List.mem_filter.mpr ⟨stored, by simp [named, succeeds]⟩)

theorem retryKey_injective {left right : String} (same : retryKey left = retryKey right) :
    left = right := by
  have parts := congrArg String.toList same
  simp only [retryKey, String.toList_append] at parts
  exact String.ext (List.append_cancel_left parts)

end Keys

/-! ## One step of a retry -/

/-- References are the payouts' own, and each key was submitted under once. -/
structure Referenced (office : PayoutOffice) : Prop where
  oncePerKey : OncePerKey office.provider
  references : ∀ left ∈ office.payouts, ∀ right ∈ office.payouts,
    left.reference = right.reference → left = right

/-- What was recorded for the payout succeeded, and is all its row was given since. -/
def Backed (reference : String) (office : PayoutOffice) : Prop :=
  ∀ came, office.provider.recorded (retryKey reference) = some came →
    Submitted.succeeds came = true ∧ ∀ payout ∈ office.payouts, payout.reference = reference →
      payout.status = .failed ∨ SameOutcome payout (toRetriedPayout came)

/-- The payout a retry loaded is there. -/
def Loaded (office : PayoutOffice) : RetryPhase → Prop
  | .findAccount row _ | .submit row _ => ∃ payout ∈ office.payouts, payout.reference = row.reference
  | _ => True

/-- A success about to be written is on record with the provider. -/
def Answered (reference : String) (office : PayoutOffice) : RetryPhase → Prop
  | .record named outcome _ => named = reference → outcome.status = .processing →
    ∃ came, office.provider.recorded (retryKey reference) = some came ∧
      outcome = toRetriedPayout came
  | _ => True

section Step

variable {office : PayoutOffice} {fresh : Submitted} {phase : RetryPhase} {reference : String}

/-- What a step of a retry did: it read, submitted with a key, or wrote an outcome. -/
inductive RetryActs (office : PayoutOffice) (fresh : Submitted) :
    RetryPhase → PayoutOffice → RetryPhase → Prop where
  | ended (phase : RetryPhase) (reply : RetryReply) :
      RetryActs office fresh phase office (.done reply)
  | loaded (request : RetryRequest) (row : Payout) (stored : row ∈ office.payouts) :
      RetryActs office fresh (.load request) office (.findAccount row request.userId)
  | connected (row : Payout) (userId : Nat) :
      RetryActs office fresh (.findAccount row userId) office (.submit row userId)
  | unsent (row : Payout) (userId : Nat) :
      RetryActs office fresh (.submit row userId) office (.record row.reference UNSENT userId)
  | submitted (row : Payout) (userId : Nat) (keyed : office.secretKey.isSome)
      (came : Submitted) (provider : Provider)
      (answers : office.provider.createPayout (retryKey row.reference) row.amountSatang
        row.currency.toLower fresh = (came, provider)) :
      RetryActs office fresh (.submit row userId) { office with provider }
        (.record row.reference (toRetriedPayout came) userId)
  | recorded (named : String) (outcome : RetriedPayout) (userId : Nat) (reply : RetryReply) :
      RetryActs office fresh (.record named outcome userId) (markRetried office named outcome userId)
        (.done reply)

theorem retry_cases (office : PayoutOffice) (fresh : Submitted) (phase : RetryPhase) :
    RetryActs office fresh phase (actOnRetry office fresh phase).1
      (actOnRetry office fresh phase).2 := by
  cases phase with
  | load request =>
    simp only [actOnRetry]
    cases found : findByReference office.payouts request.reference with
    | none => exact .ended _ _
    | some row =>
      have stored : row ∈ office.payouts :=
        (Table.mem_select.mp (List.mem_of_mem_head? found)).1
      by_cases moved : row.status ≠ .failed
      · rw [show afterLoadPayout request (some row) = _ from if_pos moved]
        exact .ended _ _
      · rw [show afterLoadPayout request (some row) = _ from if_neg moved]
        exact .loaded request row stored
  | findAccount row userId =>
    simp only [actOnRetry]
    split
    · exact .connected row userId
    · exact .ended _ _
  | submit row userId =>
    cases keyed : office.secretKey with
    | none =>
      have unsent : retryPayout office.provider office.secretKey row fresh =
          (UNSENT, office.provider) := by rw [keyed]; rfl
      simp only [actOnRetry, unsent]
      exact .unsent row userId
    | some key =>
      have sent : retryPayout office.provider office.secretKey row fresh =
          (toRetriedPayout (office.provider.createPayout (retryKey row.reference) row.amountSatang
              row.currency.toLower fresh).1,
            (office.provider.createPayout (retryKey row.reference) row.amountSatang
              row.currency.toLower fresh).2) := by rw [keyed]; rfl
      simp only [actOnRetry, sent]
      exact .submitted row userId (by rw [keyed]; rfl) _ _ rfl
  | record named outcome userId =>
    simp only [actOnRetry]
    split
    · exact .recorded named outcome userId _
    · exact .ended _ _
  | done reply => exact .ended _ _

theorem retriedRow_same (outcome : RetriedPayout) (now : Instant) (payout : Payout) :
    SameOutcome (retriedRow outcome now payout) outcome := rfl

/-- A rewritten payout keeps its reference. -/
theorem markRetried_mem {named : String} {outcome : RetriedPayout} {userId : Nat} {payout : Payout}
    (member : payout ∈ (markRetried office named outcome userId).payouts) :
    ∃ old ∈ office.payouts, payout.reference = old.reference ∧
      payout = if old.reference = named then retriedRow outcome office.clock old else old := by
  obtain ⟨old, stored, same⟩ := Table.mem_update.mp member
  refine ⟨old, stored, ?_, same⟩
  rw [same]
  split <;> rfl

theorem markRetried_keeps {named : String} {outcome : RetriedPayout} {userId : Nat} {old : Payout}
    (stored : old ∈ office.payouts) :
    ∃ payout ∈ (markRetried office named outcome userId).payouts,
      payout.reference = old.reference := by
  by_cases hit : old.reference = named
  · exact ⟨_, Table.mem_update_of_hit stored hit, rfl⟩
  · exact ⟨old, Table.mem_update_of_miss stored hit, rfl⟩

theorem acts_oncePerKey {after : PayoutOffice} {next : RetryPhase}
    (acts : RetryActs office fresh phase after next) (once : OncePerKey office.provider) :
    OncePerKey after.provider := by
  cases acts with
  | ended | loaded | connected | unsent | recorded => exact once
  | submitted row userId keyed came provider answers =>
    have once : OncePerKey (office.provider.createPayout (retryKey row.reference) row.amountSatang
        row.currency.toLower fresh).2 := createPayout_oncePerKey once
    rwa [answers] at once

theorem acts_referenced {after : PayoutOffice} {next : RetryPhase}
    (acts : RetryActs office fresh phase after next) (kept : Referenced office) : Referenced after := by
  have once := acts_oncePerKey acts kept.oncePerKey
  cases acts with
  | ended | loaded | connected | unsent => exact kept
  | submitted => exact ⟨once, kept.references⟩
  | recorded named outcome userId =>
    refine ⟨kept.oncePerKey, fun left leftIn right rightIn same => ?_⟩
    obtain ⟨left', leftOld, leftNamed, rfl⟩ := markRetried_mem leftIn
    obtain ⟨right', rightOld, rightNamed, rfl⟩ := markRetried_mem rightIn
    have one := kept.references left' leftOld right' rightOld
      (leftNamed.symm.trans (same.trans rightNamed))
    rw [one]

theorem acts_loaded {after : PayoutOffice} {next : RetryPhase}
    (acts : RetryActs office fresh phase after next) (loaded : Loaded office phase) :
    Loaded after next := by
  cases acts with
  | loaded request row stored => exact ⟨row, stored, rfl⟩
  | connected => exact loaded
  | _ => trivial

/-- No payout is ever lost. -/
theorem acts_undisturbed {after : PayoutOffice} {next other : RetryPhase}
    (acts : RetryActs office fresh phase after next) (loaded : Loaded office other) :
    Loaded after other := by
  cases acts with
  | ended | loaded | connected | unsent | submitted => exact loaded
  | recorded named outcome userId =>
    cases other with
    | findAccount | submit =>
      obtain ⟨payout, stored, same⟩ := loaded
      obtain ⟨new, member, named⟩ := markRetried_keeps stored
      exact ⟨new, member, named.trans same⟩
    | _ => trivial

/-- What is on record for the payout before and after a submission. -/
theorem submitted_recorded {row : Payout} {came : Submitted} {provider : Provider}
    (reference : String) (answers : office.provider.createPayout (retryKey row.reference) row.amountSatang
      row.currency.toLower fresh = (came, provider)) :
    (∀ first, office.provider.recorded (retryKey reference) = some first →
        provider.recorded (retryKey reference) = some first) ∧
      (row.reference ≠ reference →
        provider.recorded (retryKey reference) = office.provider.recorded (retryKey reference)) ∧
      (row.reference = reference → provider.recorded (retryKey reference) = some came) ∧
      (row.reference = reference → office.provider.recorded (retryKey reference) = none →
        came = fresh) := by
  refine ⟨fun first recorded => ?_, fun apart => ?_, ?_, ?_⟩
  · have kept : (office.provider.createPayout (retryKey row.reference) row.amountSatang
        row.currency.toLower fresh).2.recorded (retryKey reference) = some first :=
      createPayout_keeps recorded
    rwa [answers] at kept
  · have other : (office.provider.createPayout (retryKey row.reference) row.amountSatang
        row.currency.toLower fresh).2.recorded (retryKey reference) =
          office.provider.recorded (retryKey reference) :=
      createPayout_other fun same => apart (retryKey_injective same)
    rwa [answers] at other
  · rintro rfl
    have own : (office.provider.createPayout (retryKey row.reference) row.amountSatang
        row.currency.toLower fresh).2.recorded (retryKey row.reference) = _ := createPayout_answers
    rwa [answers] at own
  · rintro rfl unused
    rw [createPayout_fresh unused] at answers
    exact (congrArg Prod.fst answers).symm

/-- What the condition keeps: the payout says what is on record for it, or is failed still. -/
theorem acts_backed {after : PayoutOffice} {next : RetryPhase}
    (acts : RetryActs office fresh phase after next) (backed : Backed reference office)
    (answered : Answered reference office phase) (still : stillFailing reference office fresh phase) :
    Backed reference after ∧ Answered reference after next := by
  cases acts with
  | ended | loaded | connected => exact ⟨backed, trivial⟩
  | unsent => exact ⟨backed, fun _ processing => by cases processing⟩
  | submitted row userId keyed came provider answers =>
    obtain ⟨keeps, others, own, first⟩ := submitted_recorded reference answers
    refine ⟨fun came' recorded => ?_, fun named _ => ⟨came, own named, rfl⟩⟩
    cases unused : office.provider.recorded (retryKey reference) with
    | some earlier =>
      have same := recorded.symm.trans (keeps earlier unused)
      cases same
      exact backed came' unused
    | none =>
      by_cases named : row.reference = reference
      · obtain ⟨failing, accepted⟩ := still named keyed
        have same := recorded.symm.trans (own named)
        cases same
        rw [first named unused]
        exact ⟨accepted unused, fun payout stored same => Or.inl (failing payout stored same)⟩
      · rw [show provider.recorded (retryKey reference) = none from
          (others named).trans unused] at recorded
        cases recorded
  | recorded named outcome userId =>
    refine ⟨fun came recorded => ?_, trivial⟩
    obtain ⟨succeeds, given⟩ := backed came recorded
    refine ⟨succeeds, fun payout member same => ?_⟩
    obtain ⟨old, stored, sameOld, rfl⟩ := markRetried_mem member
    have mine : old.reference = reference := sameOld.symm.trans same
    by_cases hit : old.reference = named
    · rw [if_pos hit]
      cases status : outcome.status with
      | failed => exact Or.inl (by simp [status])
      | processing =>
        obtain ⟨came', recorded', rfl⟩ := answered (hit.symm.trans mine) status
        have one := recorded'.symm.trans recorded
        cases one
        exact Or.inr (retriedRow_same _ _ _)
    · rw [if_neg hit]
      exact given old stored mine

/-- A record is not taken back. -/
theorem acts_answered {after : PayoutOffice} {next other : RetryPhase}
    (acts : RetryActs office fresh phase after next) (answered : Answered reference office other) :
    Answered reference after other := by
  cases acts with
  | ended | loaded | connected | unsent | recorded => exact answered
  | submitted row userId keyed came provider answers =>
    obtain ⟨keeps, _⟩ := submitted_recorded reference answers
    cases other with
    | record named outcome userId =>
      intro mine processing
      obtain ⟨came', recorded, same⟩ := answered mine processing
      exact ⟨came', keeps came' recorded, same⟩
    | _ => trivial

end Step

/-! ## Every run -/

section Runs

variable {reference : String}

/-- What holds however retries interleave. -/
theorem retries_reference : retries.Keeps Referenced Loaded (fun _ _ _ => True) fun _ _ => True where
  opened := fun _ _ _ => trivial
  crashed := fun _ _ => trivial
  act := fun office fresh phase kept loaded _ =>
    have acts := retry_cases office fresh phase
    ⟨acts_referenced acts kept, acts_loaded acts loaded⟩
  undisturbed := fun office fresh phase _ _ _ _ loaded =>
    acts_undisturbed (retry_cases office fresh phase) loaded
  outside := by
    intro office event kept _
    cases event with
    | connect | tick =>
      exact ⟨⟨kept.oncePerKey, kept.references⟩, fun phase loaded => by cases phase <;> exact loaded⟩

/-- What holds while payouts are still failed when they are submitted. -/
theorem retries_back : retries.Keeps (Backed reference) (Answered reference)
    (stillFailing reference) fun _ _ => True where
  opened := fun _ _ _ => trivial
  crashed := fun _ _ => trivial
  act := fun office fresh phase backed answered still =>
    acts_backed (retry_cases office fresh phase) backed answered still
  undisturbed := fun office fresh phase _ _ _ _ answered =>
    acts_answered (retry_cases office fresh phase) answered
  outside := by
    intro office event backed _
    cases event with
    | connect | tick =>
      exact ⟨backed, fun phase answered => by cases phase <;> exact answered⟩

/-- The payout's one submission was refused. -/
def Refused (reference : String) (provider : Provider) : Prop :=
  ∃ came, provider.recorded (retryKey reference) = some came ∧ Submitted.succeeds came = false

theorem acts_refused {office after : PayoutOffice} {fresh : Submitted} {phase next : RetryPhase}
    (acts : RetryActs office fresh phase after next) (refused : Refused reference office.provider) :
    Refused reference after.provider := by
  cases acts with
  | ended | loaded | connected | unsent | recorded => exact refused
  | submitted row userId keyed came provider answers =>
    obtain ⟨first, recorded, failed⟩ := refused
    exact ⟨first, (submitted_recorded reference answers).1 first recorded, failed⟩

theorem retries_refuse : retries.Keeps
    (fun office => OncePerKey office.provider ∧ Refused reference office.provider)
    (fun _ _ => True) (fun _ _ _ => True) fun _ _ => True where
  opened := fun _ _ _ => trivial
  crashed := fun _ _ => trivial
  act := by
    rintro office fresh phase ⟨once, refused⟩ _ _
    have acts := retry_cases office fresh phase
    exact ⟨⟨acts_oncePerKey acts once, acts_refused acts refused⟩, trivial⟩
  undisturbed := fun _ _ _ _ _ _ _ _ => trivial
  outside := by
    intro office event refused _
    cases event with
    | connect | tick => exact ⟨refused, fun _ _ => trivial⟩

/-- A guard that asks nothing is met. -/
theorem unguarded (pool : RetryPool) (turns : List RetryTurn) :
    Meets retries.serve (Handler.Guarded (fun _ _ _ => True) fun _ _ => True) pool turns :=
  (meets_true pool turns).mono fun pool turn _ => Handler.guarded_true pool turn

/-- A payout that was refused once is transferred in no continuation. -/
theorem refused_forever {pool : RetryPool} (once : OncePerKey pool.shared.provider)
    (refused : Refused reference pool.shared.provider) (turns : List RetryTurn) :
    transfers (run retries.serve pool turns).shared.provider reference = [] := by
  have sound : (run retries.serve pool turns).Sound
      (fun office => OncePerKey office.provider ∧ Refused reference office.provider)
      fun _ _ => True :=
    retries_refuse.run ⟨⟨once, refused⟩, fun _ _ => trivial⟩ (unguarded pool turns)
  obtain ⟨distinct, came, recorded, failed⟩ := sound.shared
  exact refused_transfers distinct recorded failed

/-- The one payout of this reference is the one found. -/
theorem findByReference_payout {office : PayoutOffice} (kept : Referenced office) {payout : Payout}
    (stored : payout ∈ office.payouts) :
    findByReference office.payouts payout.reference = some payout := by
  unfold findByReference
  have there : payout ∈ office.payouts.select fun row => row.reference = payout.reference :=
    Table.mem_select.mpr ⟨stored, rfl⟩
  cases found : (office.payouts.select fun row => row.reference = payout.reference).head? with
  | none =>
    rw [List.head?_eq_none_iff.mp found] at there
    exact absurd there List.not_mem_nil
  | some first =>
    obtain ⟨firstIn, same⟩ := Table.mem_select.mp (List.mem_of_mem_head? found)
    rw [kept.references first firstIn payout stored same]

/-- A failed payout under whose key nothing was submitted: one more retry transfers it. -/
theorem retry_transfers {pool : RetryPool} (kept : Referenced pool.shared) {payout : Payout}
    (stored : payout ∈ pool.shared.payouts) (failed : payout.status = .failed)
    (unused : pool.shared.provider.recorded (retryKey payout.reference) = none) :
    ∃ turns, transfers (run retries.serve pool turns).shared.provider payout.reference ≠ [] := by
  let accepted : Submitted := .payout "po" false none
  let office : PayoutOffice :=
    { pool.shared with account := { connected := true, accountId := some "acct" }
                       secretKey := some "sk" }
  let asking : RetryRequest := { reference := payout.reference, userId := 0 }
  let own := pool.jobs.next
  let opened := pool.jobs.insert fun id => { id, phase := RetryPhase.load asking }
  have asked : opened.find own = some { id := own, phase := .load asking } := by
    rw [Table.find_insert, if_pos rfl]
  have found : findByReference office.payouts asking.reference = some payout :=
    findByReference_payout kept stored
  have connected : retries.serve pool
      (.outside (.connect office.account office.secretKey)) = ⟨office, pool.jobs⟩ := rfl
  have received : retries.serve ⟨office, pool.jobs⟩ (.receive asking) = ⟨office, opened⟩ := rfl
  have loaded : retries.serve ⟨office, opened⟩ (.advance own accepted) =
      ⟨office, moveJob opened own (.findAccount payout 0)⟩ := by
    rw [serve_advance asked]
    simp [retries, actOnRetry, found, afterLoadPayout, failed, asking]
  have ready : retries.serve ⟨office, moveJob opened own (.findAccount payout 0)⟩
      (.advance own accepted) =
      ⟨office, moveJob (moveJob opened own (.findAccount payout 0)) own (.submit payout 0)⟩ := by
    rw [serve_advance (find_moveJob asked)]
    simp [retries, actOnRetry, office]
  refine ⟨[.outside (.connect office.account office.secretKey), .receive asking,
    .advance own accepted, .advance own accepted, .advance own accepted], ?_⟩
  simp only [run_cons, run_nil, connected, received, loaded, ready]
  rw [serve_advance (find_moveJob (find_moveJob asked))]
  have answers : (office.provider.createPayout (retryKey payout.reference) payout.amountSatang
      payout.currency.toLower accepted).2.recorded (retryKey payout.reference) = some accepted := by
    rw [createPayout_answers, createPayout_fresh unused]
  exact succeeded_transfers answers rfl

/-- What the condition keeps, and what holds without it. -/
structure BackedPool (reference : String) (pool : RetryPool) : Prop where
  kept : pool.Sound Referenced Loaded
  backed : pool.Sound (Backed reference) (Answered reference)

theorem serve_backed (pool : RetryPool) (turn : RetryTurn) (sound : BackedPool reference pool)
    (still : StillFailing reference pool turn) :
    BackedPool reference (retries.serve pool turn) := by
  refine ⟨retries_reference.serve pool turn sound.kept ?_, retries_back.serve pool turn sound.backed still⟩
  cases turn <;> simp [Handler.Guarded]

theorem unretried_backed {start : RetryPool} (unretried : Unretried reference start) :
    BackedPool reference start where
  kept := by
    refine ⟨⟨unretried.distinct, unretried.references⟩, fun job stored => ?_⟩
    exact absurd stored (Table.not_mem_of_empty unretried.jobs job)
  backed := by
    refine ⟨fun came recorded => ?_, fun job stored => ?_⟩
    · rw [recorded_none.mpr unretried.unsubmitted] at recorded
      cases recorded
    · exact absurd stored (Table.not_mem_of_empty unretried.jobs job)

theorem backed_recoverable {pool : RetryPool} (sound : BackedPool reference pool) :
    Recoverable reference pool := by
  rintro ⟨payout, stored, rfl, failed⟩ none
  cases unused : pool.shared.provider.recorded (retryKey payout.reference) with
  | some came =>
    have succeeds := (sound.backed.shared came unused).1
    exact absurd none (succeeded_transfers unused succeeds)
  | none => exact retry_transfers sound.kept.shared stored failed unused

theorem backed_leaves (pool : RetryPool) (turn : RetryTurn) (sound : BackedPool reference pool)
    (still : StillFailing reference pool turn) : LeavesMoved reference pool turn := by
  cases turn with
  | advance jobId fresh =>
    intro job found
    have stored := (Table.find_eq_some.mp found).1
    have answered := sound.backed.jobs job stored
    have still := still job found
    cases phase : job.phase with
    | submit row userId =>
      rw [phase] at still
      exact fun named keyed => (still named keyed).1
    | record named outcome userId =>
      rw [phase] at still answered
      intro mine payout member same
      cases status : outcome.status with
      | failed => exact Or.inl (still mine status payout member same)
      | processing =>
        obtain ⟨came, recorded, rfl⟩ := answered mine status
        exact (sound.backed.shared came recorded).2 payout member same
    | _ => trivial
  | _ => trivial

/-- What safety asks of a step, read back as the condition. -/
theorem still_of_safe (pool : RetryPool) (turn : RetryTurn) (kept : pool.Sound Referenced Loaded)
    (leaves : LeavesMoved reference pool turn)
    (recoverable : Recoverable reference (retries.serve pool turn)) :
    StillFailing reference pool turn := by
  cases turn with
  | advance jobId fresh =>
    intro job found
    have leaves := leaves job found
    have loaded := kept.jobs job (Table.find_eq_some.mp found).1
    rw [serve_advance found] at recoverable
    cases phase : job.phase with
    | submit row userId =>
      rw [phase] at leaves loaded recoverable
      intro named keyed
      have failing := leaves named keyed
      refine ⟨failing, fun unused => ?_⟩
      by_contra refused
      -- The refusal is on record, and the payout is still failed.
      obtain ⟨payout, stored, same⟩ := loaded
      obtain ⟨key, keyed⟩ := Option.isSome_iff_exists.mp keyed
      have after : (retries.act pool.shared fresh (.submit row userId)).1 =
          { pool.shared with provider := (pool.shared.provider.createPayout
              (retryKey row.reference) row.amountSatang row.currency.toLower fresh).2 } := by
        simp [retries, actOnRetry, retryPayout, keyed]
      rw [after] at recoverable
      have recorded : (pool.shared.provider.createPayout (retryKey row.reference)
          row.amountSatang row.currency.toLower fresh).2.recorded (retryKey reference) =
            some fresh := by
        rw [← named] at unused ⊢
        rw [createPayout_answers, createPayout_fresh unused]
      have once : OncePerKey (pool.shared.provider.createPayout (retryKey row.reference)
          row.amountSatang row.currency.toLower fresh).2 :=
        createPayout_oncePerKey kept.shared.oncePerKey
      have cut : Refused reference (pool.shared.provider.createPayout (retryKey row.reference)
          row.amountSatang row.currency.toLower fresh).2 :=
        ⟨fresh, recorded, Bool.eq_false_iff.mpr refused⟩
      obtain ⟨turns, transferred⟩ := recoverable
        ⟨payout, stored, same.trans named, failing payout stored (same.trans named)⟩
        (refused_transfers once recorded (Bool.eq_false_iff.mpr refused))
      exact transferred (refused_forever once cut turns)
    | record named outcome userId =>
      rw [phase] at leaves
      intro mine failed payout stored same
      rcases leaves mine payout stored same with failing | given
      · exact failing
      · have status := congrArg Payout.status given
        simpa [failed] using status.symm
    | _ => trivial
  | _ => trivial

/-- Retries are safe exactly while the payout is still failed when it is submitted, and when a
failure is written over it, and the provider accepts its first submission. -/
theorem payout_retries {start : RetryPool} (unretried : Unretried reference start)
    (turns : List RetryTurn) :
    RetriedSafely reference start turns ↔
      Meets retries.serve (StillFailing reference) start turns := by
  have begun := unretried_backed unretried
  constructor
  · intro safe
    have kept : Meets retries.serve (fun pool _ => pool.Sound Referenced Loaded) start turns :=
      (unguarded start turns).of_invariant retries_reference.serve (fun _ _ sound _ => sound)
        begun.kept
    refine ((kept.and safe.untouched).and safe.recoverable.meets).mono ?_
    rintro pool turn ⟨⟨sound, leaves⟩, _, recoverable⟩
    exact still_of_safe pool turn sound leaves recoverable
  · intro still
    refine ⟨still.of_invariant serve_backed backed_leaves begun, ?_, ?_⟩
    · exact still.throughout serve_backed
        (fun _ sound => transfers_length sound.kept.shared.oncePerKey) begun
    · exact still.throughout serve_backed (fun _ sound => backed_recoverable sound) begun

end Runs

/-- A failed payout nobody has retried yet. -/
def failedPool : RetryPool := ⟨payoutOffice .failed, Table.empty⟩

theorem failedPool_unretried : Unretried "PO-1" failedPool where
  jobs := rfl
  unsubmitted := fun _ made => absurd made List.not_mem_nil
  distinct := List.nodup_nil
  references := by
    intro left leftIn right rightIn _
    have one : ∀ left ∈ failedPool.shared.payouts.rows, ∀ right ∈ failedPool.shared.payouts.rows,
        left = right := by decide +kernel
    exact one left leftIn right rightIn

def retrying : RetryTurn := .receive { reference := "PO-1", userId := 1 }

/-- One step of a retry; the provider accepts what it has not seen before. -/
def accepting (jobId : Nat) : RetryTurn := .advance jobId (.payout "po" false none)

/-- A retry is carried through; a second finds the payout no longer failed. -/
def retriedTwice : List RetryTurn :=
  [retrying, accepting 0, accepting 0, accepting 0, accepting 0, retrying, accepting 1]

theorem payout_retries_failedPool :
    RetriedSafely "PO-1" failedPool retriedTwice ∧
      ((run retries.serve failedPool retriedTwice).shared.payouts.rows.map Payout.status) =
        [.processing] :=
  ⟨(payout_retries failedPool_unretried retriedTwice).mpr (by decide +kernel), by decide +kernel⟩

/-- Both load the failed payout; the second submits it when the first has moved it. -/
def overlapping : List RetryTurn :=
  [retrying, retrying, accepting 0, accepting 1, accepting 0, accepting 1, accepting 0, accepting 0,
    accepting 1]

/-- The provider refuses a retry, and the Admin is told. -/
def refusedOnce : List RetryTurn :=
  [retrying, accepting 0, accepting 0, .advance 0 (.stripeError "Insufficient funds."), accepting 0]

/-- A payout is submitted again after it moved, and one that was refused has no way back. -/
theorem payout_retry_unsafe :
    ¬ RetriedSafely "PO-1" failedPool overlapping ∧
      ¬ Recoverable "PO-1" (run retries.serve failedPool refusedOnce) := by
  constructor
  · intro safe
    exact absurd safe.untouched (by decide +kernel)
  · intro recoverable
    have failed : ∃ payout ∈ (run retries.serve failedPool refusedOnce).shared.payouts.rows,
        payout.reference = "PO-1" ∧ payout.status = .failed := by decide +kernel
    have once : OncePerKey (run retries.serve failedPool refusedOnce).shared.provider := by
      unfold OncePerKey
      decide +kernel
    have refused : Refused "PO-1" (run retries.serve failedPool refusedOnce).shared.provider :=
      ⟨.stripeError "Insufficient funds.", by decide +kernel, rfl⟩
    obtain ⟨turns, transferred⟩ := recoverable failed (refused_forever once refused [])
    exact transferred (refused_forever once refused turns)

end EventaApi.Guarantees
