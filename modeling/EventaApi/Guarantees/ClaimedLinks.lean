import EventaApi.Source.BookingClaims

/-!
# A booking's link makes one account

A claim writes the account and then records the link as spent. A claim that ends between the two
leaves a link that was used and is remembered by nothing but its account, and so does one that
comes between the two of another; where neither happens, a link that made an account makes no
other. What `inspect` shows is what a claim would find, as both read the same.
-/
namespace EventaApi.Guarantees
open Library Source

abbrev BookingClaimPool := Pool ClaimDesk BookingClaimPhase

abbrev BookingClaimTurn := PoolTurn BookingClaimRequest ClaimAnswers ClaimWorld

/-! ## What is asked of a link -/

/-- How many accounts the link has made or taken over. -/
def madeFrom (desk : ClaimDesk) (ledgerKey : String) : Nat :=
  (desk.made.filter fun entry => entry.1 = ledgerKey).length

def replyOf : BookingClaimPhase → Option BookingClaimReply
  | .done reply => some reply
  | _ => none

section Asked

variable (verify : String → Option BookingClaimClaims) (digest : String → String)

/-- No link makes, or takes over, a second account. -/
def OncePerLink (desk : ClaimDesk) : Prop :=
  ∀ token, madeFrom desk (ledgerKeyOf digest token) ≤ 1

/-- What a request is answered that nothing comes in between. -/
def answeredAlone (desk : ClaimDesk) (answers : ClaimAnswers) (request : BookingClaimRequest) :
    Option BookingClaimReply :=
  replyOf ((bookingClaims verify digest).drive desk (.verify request) (List.replicate 7 answers)).2

/-- `inspect` calls a link good exactly when a claim would not refuse it as dead. -/
structure InspectTells (desk : ClaimDesk) : Prop where
  answered : ∀ answers request, (answeredAlone verify digest desk answers request).isSome
  agrees : ∀ answers token password,
    (∃ claimant accountExists, answeredAlone verify digest desk answers (.inspect token) =
        some (.preview claimant accountExists)) ↔
      answeredAlone verify digest desk answers (.claim token password) ≠
        some (.refused .invalidClaimLink)

def SpendsLinksOnce (pool : BookingClaimPool) (turn : BookingClaimTurn) : Prop :=
  OncePerLink digest ((bookingClaims verify digest).serve pool turn).shared ∧
    InspectTells verify digest ((bookingClaims verify digest).serve pool turn).shared

end Asked

/-! ## What it depends on -/

/-- The link that an account is about to be written for. -/
def writing : BookingClaimPhase → Option ClaimLink
  | .createAccount link _ _ | .supersede link _ _ _ => some link
  | _ => none

/-- The link that has made an account and is about to be spent. -/
def spending : BookingClaimPhase → Option ClaimLink
  | .spend link _ => some link
  | _ => none

/-- The account is written: the address is free, or its account is still unconfirmed. -/
def WritesAccount (desk : ClaimDesk) : BookingClaimPhase → Prop
  | .createAccount _ claimant _ => ∃ organizationId ∈ desk.directory.platformOrganizationId,
    ¬ ∃ user ∈ desk.directory.users.rows, IsAttendeeOf organizationId claimant.email user
  | .supersede _ _ userId _ => ∃ organizationId ∈ desk.directory.platformOrganizationId,
    ∃ user ∈ desk.directory.users.rows, Unproven userId organizationId user
  | _ => False

/-- The link is not spent, not expired, and no other claim of it is about to spend it. -/
def LinkFree (pool : BookingClaimPool) (link : ClaimLink) : Prop :=
  pool.shared.ledger link.ledgerKey = none ∧ pool.shared.clock ≤ link.expiresAt ∧
    ¬ ∃ job ∈ pool.jobs.rows, ∃ other ∈ spending job.phase, other.ledgerKey = link.ledgerKey

/-- An account is written only for a link that is free, and a claim that wrote one goes on to
spend its link. -/
def SpendsInTurn (pool : BookingClaimPool) : BookingClaimTurn → Prop
  | .advance jobId _ => ∀ job ∈ pool.jobs.find jobId, WritesAccount pool.shared job.phase →
    ∀ link ∈ writing job.phase, LinkFree pool link
  | .crash jobId => ∀ job ∈ pool.jobs.find jobId, spending job.phase = none
  | .receive _ | .outside _ => True

section Decidable

variable (desk : ClaimDesk) (pool : BookingClaimPool)

instance : DecidablePred (WritesAccount desk)
  | .createAccount _ claimant _ => inferInstanceAs (Decidable
      (∃ organizationId ∈ desk.directory.platformOrganizationId,
        ¬ ∃ user ∈ desk.directory.users.rows, IsAttendeeOf organizationId claimant.email user))
  | .supersede _ _ userId _ => inferInstanceAs (Decidable
      (∃ organizationId ∈ desk.directory.platformOrganizationId,
        ∃ user ∈ desk.directory.users.rows, Unproven userId organizationId user))
  | .verify _ | .isSpent _ _ | .findBooking _ _ | .findAccount _ _ _ | .spend _ _ | .findProfile _
  | .done _ => isFalse id

instance : DecidablePred (LinkFree pool) :=
  fun _ => inferInstanceAs (Decidable (_ ∧ _ ∧ ¬ ∃ _ ∈ pool.jobs.rows, ∃ _ ∈ _, _))

instance : DecidablePred (SpendsInTurn pool)
  | .advance jobId _ => inferInstanceAs (Decidable (∀ _ ∈ pool.jobs.find jobId, _ → ∀ _ ∈ _, _))
  | .crash jobId => inferInstanceAs (Decidable (∀ _ ∈ pool.jobs.find jobId, _))
  | .receive _ | .outside _ => isTrue trivial

end Decidable

/-! ## A request alone -/

section Alone

variable {verify : String → Option BookingClaimClaims} {digest : String → String}
variable {desk : ClaimDesk} {answers : ClaimAnswers}

/-- What a request that is alone finds, once it has read all it reads. -/
def standing (verify : String → Option BookingClaimClaims) (digest : String → String)
    (desk : ClaimDesk) (request : BookingClaimRequest) : BookingClaimPhase :=
  match verifyBookingClaim verify desk.clock request.token with
  | none => dead
  | some claims =>
    let link := linkOf digest request.token claims
      (desk.ledger (ledgerKeyOf digest request.token)).isSome
    match desk.bookings link.orderId with
    | none => dead
    | some booking =>
      if citext booking.buyerEmail = citext link.email then
        afterAccount request link booking (findPlatformAttendee desk.directory link.email)
      else dead

theorem drive_done (reply : BookingClaimReply) (many : Nat) :
    (bookingClaims verify digest).drive desk (.done reply) (List.replicate many answers) =
      (desk, .done reply) := by
  induction many with
  | zero => rfl
  | succ many ih =>
    rw [List.replicate_succ]
    exact ih

/-- The four reads. -/
theorem drive_standing (request : BookingClaimRequest) (more : Nat) :
    (bookingClaims verify digest).drive desk (.verify request)
        (List.replicate (4 + more) answers) =
      (bookingClaims verify digest).drive desk (standing verify digest desk request)
        (List.replicate more answers) := by
  have reads : (bookingClaims verify digest).drive desk (.verify request)
      (List.replicate 4 answers) = (desk, standing verify digest desk request) := by
    unfold standing
    cases verified : verifyBookingClaim verify desk.clock request.token with
    | none => simp [Handler.drive, bookingClaims, actOnClaim, verified, dead]
    | some claims =>
      cases booked : desk.bookings claims.sub with
      | none => simp [Handler.drive, bookingClaims, actOnClaim, verified, linkOf, afterBooking,
          booked, dead]
      | some booking =>
        by_cases same : citext booking.buyerEmail = citext claims.email
        · simp [Handler.drive, bookingClaims, actOnClaim, verified, linkOf, afterBooking, booked,
            same]
        · simp [Handler.drive, bookingClaims, actOnClaim, verified, linkOf, afterBooking, booked,
            same, dead]
  rw [List.replicate_add]
  unfold Handler.drive at reads ⊢
  rw [List.foldl_append, reads]

/-- A reply that does not refuse the link as dead. -/
def NotDead (phase : BookingClaimPhase) : Prop :=
  ∃ reply, replyOf phase = some reply ∧ reply ≠ .refused .invalidClaimLink

theorem drive_spend (link : ClaimLink) (userId : Nat) :
    NotDead ((bookingClaims verify digest).drive desk (.spend link userId)
      (List.replicate 2 answers)).2 := by
  let spent : ClaimDesk := (actOnClaim verify digest desk answers (.spend link userId)).1
  have last : NotDead (actOnClaim verify digest spent answers (.findProfile userId)).2 := by
    simp only [actOnClaim]
    cases startSession spent.directory userId (spent.clock + answers.refreshTtl) with
    | none => exact ⟨_, rfl, by simp⟩
    | some => exact ⟨_, rfl, by simp⟩
  exact last

theorem drive_write {phase : BookingClaimPhase} (writes : (writing phase).isSome) :
    NotDead ((bookingClaims verify digest).drive desk phase (List.replicate 3 answers)).2 := by
  have stops (desk : ClaimDesk) {refusal : ClaimRefusal} (alive : refusal ≠ .invalidClaimLink) :
      NotDead ((bookingClaims verify digest).drive desk (.done (.refused refusal))
        (List.replicate 2 answers)).2 := by
    rw [drive_done]
    exact ⟨_, rfl, fun same => alive (BookingClaimReply.refused.inj same)⟩
  cases phase with
  | createAccount link claimant password =>
    have first : NotDead ((bookingClaims verify digest).drive
        (actOnClaim verify digest desk answers (.createAccount link claimant password)).1
        (actOnClaim verify digest desk answers (.createAccount link claimant password)).2
        (List.replicate 2 answers)).2 := by
      simp only [actOnClaim, afterCreation]
      split
      · exact drive_spend _ _
      · exact stops _ (by simp)
      · exact stops _ (by simp)
    exact first
  | supersede link claimant unconfirmed password =>
    have first : NotDead ((bookingClaims verify digest).drive
        (actOnClaim verify digest desk answers (.supersede link claimant unconfirmed password)).1
        (actOnClaim verify digest desk answers (.supersede link claimant unconfirmed password)).2
        (List.replicate 2 answers)).2 := by
      simp only [actOnClaim, afterSuperseding]
      split
      · exact drive_spend _ _
      · exact stops _ (by simp)
    exact first
  | _ => cases writes

theorem afterAccount_cases (link : ClaimLink) (booking : ClaimableBooking)
    (existing : Option PlatformAttendee) :
    (∀ request, afterAccount request link booking existing = dead) ∨
    (∀ token, ∃ claimant accountExists, afterAccount (.inspect token) link booking existing =
        .done (.preview claimant accountExists)) ∧
      ∀ token password, afterAccount (.claim token password) link booking existing =
          .done (.refused .signInInstead) ∨
        (writing (afterAccount (.claim token password) link booking existing)).isSome := by
  by_cases used : link.spent = true ∧ existing.any PlatformAttendee.confirmed = false
  · exact Or.inl fun request => if_pos used
  · refine Or.inr ⟨fun token => ⟨_, _, if_neg used⟩, fun token password => ?_⟩
    unfold afterAccount
    rw [if_neg used]
    cases existing with
    | none => exact Or.inr rfl
    | some account =>
      cases confirmed : account.confirmed with
      | true => simp [confirmed]
      | false => simp [confirmed, writing]

/-- The link is dead for both, or `inspect` shows whom it is for and a claim finds it good. -/
theorem standing_cases (verify : String → Option BookingClaimClaims) (digest : String → String)
    (desk : ClaimDesk) (token : String) :
    (∀ request : BookingClaimRequest, request.token = token →
      standing verify digest desk request = dead) ∨
    (∃ claimant accountExists, standing verify digest desk (.inspect token) =
        .done (.preview claimant accountExists)) ∧
      ∀ password, standing verify digest desk (.claim token password) =
          .done (.refused .signInInstead) ∨
        (writing (standing verify digest desk (.claim token password))).isSome := by
  cases verified : verifyBookingClaim verify desk.clock token with
  | none =>
    refine Or.inl fun request same => ?_
    subst same
    simp only [standing, verified]
  | some claims =>
    cases booked : desk.bookings claims.sub with
    | none =>
      refine Or.inl fun request same => ?_
      subst same
      simp only [standing, verified, linkOf, booked]
    | some booking =>
      by_cases same : citext booking.buyerEmail = citext claims.email
      · have reads (request : BookingClaimRequest) (named : request.token = token) :
            standing verify digest desk request = afterAccount request
              (linkOf digest token claims (desk.ledger (ledgerKeyOf digest token)).isSome) booking
              (findPlatformAttendee desk.directory claims.email) := by
          subst named
          simp only [standing, verified, linkOf, booked]
          exact if_pos same
        rcases afterAccount_cases (linkOf digest token claims
          (desk.ledger (ledgerKeyOf digest token)).isSome) booking
          (findPlatformAttendee desk.directory claims.email) with gone | ⟨shown, good⟩
        · exact Or.inl fun request named => (reads request named).trans (gone request)
        · refine Or.inr ⟨?_, fun password => ?_⟩
          · obtain ⟨claimant, accountExists, preview⟩ := shown token
            exact ⟨claimant, accountExists, (reads _ rfl).trans preview⟩
          · rw [reads (.claim token password) rfl]
            exact good token password
      · refine Or.inl fun request named => ?_
        subst named
        simp only [standing, verified, linkOf, booked]
        exact if_neg same

/-- A link that is good to look at is good to claim, and the other way round. -/
theorem inspectTells (verify : String → Option BookingClaimClaims) (digest : String → String)
    (desk : ClaimDesk) : InspectTells verify digest desk := by
  have ends (answers : ClaimAnswers) {request : BookingClaimRequest} {reply : BookingClaimReply}
      (stands : standing verify digest desk request = .done reply) :
      answeredAlone verify digest desk answers request = some reply := by
    unfold answeredAlone
    rw [drive_standing request 3, stands, drive_done]
    rfl
  have claims (answers : ClaimAnswers) {request : BookingClaimRequest}
      (stands : standing verify digest desk request = .done (.refused .signInInstead) ∨
        (writing (standing verify digest desk request)).isSome) :
      ∃ reply, answeredAlone verify digest desk answers request = some reply ∧
        reply ≠ .refused .invalidClaimLink := by
    rcases stands with refused | writes
    · exact ⟨_, ends answers refused, by simp⟩
    · obtain ⟨reply, replied, alive⟩ : NotDead ((bookingClaims verify digest).drive desk
          (standing verify digest desk request) (List.replicate 3 answers)).2 := drive_write writes
      unfold answeredAlone
      rw [drive_standing request 3]
      exact ⟨reply, replied, alive⟩
  constructor
  · intro answers request
    rcases standing_cases verify digest desk request.token with gone | ⟨⟨_, _, shown⟩, good⟩
    · rw [ends answers (gone request rfl)]
      rfl
    · cases request with
      | inspect token => exact Option.isSome_iff_exists.mpr ⟨_, ends answers shown⟩
      | claim token password =>
        obtain ⟨reply, replied, _⟩ := claims answers (good password)
        exact Option.isSome_iff_exists.mpr ⟨reply, replied⟩
  · intro answers token password
    rcases standing_cases verify digest desk token with gone | ⟨⟨claimant, known, shown⟩, good⟩
    · rw [ends answers (gone (.inspect token) rfl), ends answers (gone (.claim token password) rfl)]
      simp
    · obtain ⟨reply, replied, alive⟩ := claims answers (good password)
      rw [ends answers shown, replied]
      exact iff_of_true ⟨claimant, known, rfl⟩ fun same => alive (Option.some.inj same)

end Alone

/-! ## One step -/

/-- The link and the token it was read from. -/
def IsNamed (verify : String → Option BookingClaimClaims) (digest : String → String)
    (ledgerKey : String) (expiresAt : Instant) : Prop :=
  ∃ token, ∃ claims ∈ verify token, ledgerKey = ledgerKeyOf digest token ∧
    expiresAt = claims.exp * MS_PER_SECOND

/-- What a request knows of its link. -/
def KnowsLink (verify : String → Option BookingClaimClaims) (digest : String → String) :
    BookingClaimPhase → Prop
  | .isSpent request claims => claims ∈ verify request.token
  | .findBooking _ link | .findAccount _ link _ | .createAccount link _ _
  | .supersede link _ _ _ | .spend link _ => IsNamed verify digest link.ledgerKey link.expiresAt
  | .verify _ | .findProfile _ | .done _ => True

section Steps

variable {verify : String → Option BookingClaimClaims} {digest : String → String}
variable {desk : ClaimDesk} {answers : ClaimAnswers} {phase : BookingClaimPhase}

/-- Links of one entry in the ledger expire together. -/
theorem IsNamed.expiresAt (distinct : Function.Injective digest) {ledgerKey : String}
    {first second : Instant} (named : IsNamed verify digest ledgerKey first)
    (named' : IsNamed verify digest ledgerKey second) : first = second := by
  obtain ⟨token, claims, verified, rfl, rfl⟩ := named
  obtain ⟨token', claims', verified', same, rfl⟩ := named'
  have one : token = token' := distinct (String.append_right_inj SPENT_PREFIX |>.mp same)
  subst one
  cases verified.symm.trans verified'
  rfl

theorem act_knowsLink (knows : KnowsLink verify digest phase) :
    KnowsLink verify digest (actOnClaim verify digest desk answers phase).2 := by
  cases phase with
  | verify request =>
    simp only [actOnClaim]
    cases verified : verifyBookingClaim verify desk.clock request.token with
    | none => trivial
    | some claims => exact (Option.filter_eq_some_iff.mp verified).1
  | isSpent request claims => exact ⟨request.token, claims, knows, rfl, rfl⟩
  | findBooking request link =>
    simp only [actOnClaim, afterBooking]
    split
    · trivial
    · split
      · exact knows
      · trivial
  | findAccount request link booking =>
    simp only [actOnClaim, afterAccount]
    split
    · trivial
    · split
      · trivial
      · split
        · trivial
        · split <;> exact knows
  | createAccount link claimant password =>
    simp only [actOnClaim, afterCreation]
    split
    · exact knows
    · trivial
    · trivial
  | supersede link claimant unconfirmed password =>
    simp only [actOnClaim, afterSuperseding]
    split
    · exact knows
    · trivial
  | spend => trivial
  | findProfile userId =>
    simp only [actOnClaim]
    split <;> trivial
  | done => trivial

/-- A step leaves the links' records alone, writes an account for one, or spends one. -/
inductive ClaimStep (desk : ClaimDesk) : BookingClaimPhase → ClaimDesk → BookingClaimPhase → Prop
  | aside {phase next : BookingClaimPhase} {after : ClaimDesk} (made : after.made = desk.made)
      (ledger : after.ledger = desk.ledger) (clock : after.clock = desk.clock)
      (unspent : spending phase = none) : ClaimStep desk phase after next
  | wrote {phase : BookingClaimPhase} {directory : Directory} {link : ClaimLink} (userId : Nat)
      (writes : WritesAccount desk phase) (writing : writing phase = some link) :
      ClaimStep desk phase
        { desk with directory, made := (link.ledgerKey, userId) :: desk.made } (.spend link userId)
  | spent (link : ClaimLink) (userId : Nat) (entry : Expiring)
      (until' : entry.expiresAt = some (spentUntil desk.clock link)) :
      ClaimStep desk (.spend link userId)
        { desk with ledger := Function.update desk.ledger link.ledgerKey (some entry) }
        (.findProfile userId)

theorem claimStep (verify : String → Option BookingClaimClaims) (digest : String → String)
    (desk : ClaimDesk) (answers : ClaimAnswers) (phase : BookingClaimPhase) :
    ClaimStep desk phase (actOnClaim verify digest desk answers phase).1
      (actOnClaim verify digest desk answers phase).2 := by
  cases phase with
  | verify | isSpent | findBooking | findAccount | done => exact .aside rfl rfl rfl rfl
  | createAccount link claimant password =>
    simp only [actOnClaim, createAttendeeAccount]
    cases platform : desk.directory.platformOrganizationId with
    | none => exact .aside rfl rfl rfl rfl
    | some organizationId =>
      by_cases taken : ∃ user ∈ desk.directory.users.rows,
          IsAttendeeOf organizationId claimant.email user
      · simp only [if_pos taken]
        exact .aside rfl rfl rfl rfl
      · simp only [if_neg taken]
        exact .wrote _ ⟨organizationId, platform, taken⟩ rfl
  | supersede link claimant unconfirmed password =>
    cases superseded : supersedeUnconfirmedAttendee desk.directory unconfirmed claimant.name
        (answers.hash password) desk.clock with
    | none =>
      simp only [actOnClaim, superseded]
      exact .aside rfl rfl rfl rfl
    | some directory =>
      simp only [actOnClaim, superseded]
      refine .wrote _ ?_ rfl
      unfold supersedeUnconfirmedAttendee at superseded
      obtain ⟨organizationId, platform, superseded⟩ := Option.bind_eq_some_iff.mp superseded
      refine ⟨organizationId, platform, ?_⟩
      by_contra none
      have empty : desk.directory.users.select (Unproven unconfirmed organizationId) = [] :=
        Table.select_eq_nil.mpr fun user stored unproven => none ⟨user, stored, unproven⟩
      rw [if_pos empty] at superseded
      cases superseded
  | spend link userId => exact .spent link userId _ rfl
  | findProfile userId =>
    simp only [actOnClaim]
    split <;> exact .aside rfl rfl rfl rfl

end Steps

/-! ## The invariant -/

/-- A link that made an account is about to be spent, is in the ledger until it expires, or has
expired. -/
def IsRemembered (verify : String → Option BookingClaimClaims) (digest : String → String)
    (pool : BookingClaimPool) (ledgerKey : String) : Prop :=
  (∃ job ∈ pool.jobs, ∃ link ∈ spending job.phase, link.ledgerKey = ledgerKey) ∨
    ∃ expiresAt, IsNamed verify digest ledgerKey expiresAt ∧ (expiresAt < pool.shared.clock ∨
      ∃ entry ∈ pool.shared.ledger ledgerKey, ∃ moment ∈ entry.expiresAt, expiresAt ≤ moment)

structure LinksSound (verify : String → Option BookingClaimClaims) (digest : String → String)
    (pool : BookingClaimPool) : Prop where
  knows : ∀ job ∈ pool.jobs, KnowsLink verify digest job.phase
  once : ∀ ledgerKey, madeFrom pool.shared ledgerKey ≤ 1
  remembered : ∀ ledgerKey, 0 < madeFrom pool.shared ledgerKey →
    IsRemembered verify digest pool ledgerKey

section Turns

variable {verify : String → Option BookingClaimClaims} {digest : String → String}
variable {pool : BookingClaimPool}

theorem madeFrom_cons (desk : ClaimDesk) (made : List (String × Nat)) (key ledgerKey : String)
    (userId : Nat) : madeFrom { desk with made := (key, userId) :: made } ledgerKey =
      madeFrom { desk with made } ledgerKey + if key = ledgerKey then 1 else 0 := by
  unfold madeFrom
  rw [List.filter_cons]
  by_cases same : key = ledgerKey <;> simp [same]

/-- The ledger remembers a link until it has expired. -/
theorem le_spentUntil (now : Instant) (link : ClaimLink) :
    link.expiresAt ≤ spentUntil now link := by
  have rounds (left : Nat) :
      left ≤ (left + (MS_PER_SECOND - 1)) / MS_PER_SECOND * MS_PER_SECOND := by
    unfold MS_PER_SECOND
    omega
  have least : (link.expiresAt - now + (MS_PER_SECOND - 1)) / MS_PER_SECOND * MS_PER_SECOND ≤
      max 1 ((link.expiresAt - now + (MS_PER_SECOND - 1)) / MS_PER_SECOND) * MS_PER_SECOND :=
    Nat.mul_le_mul_right _ (Nat.le_max_right _ _)
  unfold spentUntil
  exact Nat.sub_le_iff_le_add'.mp ((rounds _).trans least)

/-- What a job that moves leaves of the memory of links, while the ledger and the clock stay. -/
theorem IsRemembered.moved {after : ClaimDesk} {job : Job BookingClaimPhase} {jobId : Nat}
    {next : BookingClaimPhase} {ledgerKey : String}
    (remembered : IsRemembered verify digest pool ledgerKey)
    (found : pool.jobs.find jobId = some job) (ledger : after.ledger = pool.shared.ledger)
    (clock : after.clock = pool.shared.clock) (unspent : spending job.phase = none) :
    IsRemembered verify digest { shared := after, jobs := moveJob pool.jobs jobId next }
      ledgerKey := by
  rcases remembered with ⟨waiting, stored, link, spends, same⟩ | ⟨expiresAt, named, past⟩
  · refine Or.inl ⟨waiting, ?_, link, spends, same⟩
    refine Table.mem_update_of_miss stored fun (hit : waiting.id = jobId) => ?_
    obtain ⟨there, named⟩ := Table.find_eq_some.mp found
    have one : waiting = job := Table.eq_of_key stored there (hit.trans named.symm)
    rw [one, unspent] at spends
    cases spends
  · refine Or.inr ⟨expiresAt, named, ?_⟩
    rw [ledger, clock]
    exact past

theorem KnowsLink.writing {phase : BookingClaimPhase} {link : ClaimLink}
    (knows : KnowsLink verify digest phase) (writes : writing phase = some link) :
    IsNamed verify digest link.ledgerKey link.expiresAt ∧ spending phase = none := by
  cases phase with
  | createAccount | supersede =>
    cases writes
    exact ⟨knows, rfl⟩
  | _ => cases writes

/-- A link that is free has made no account. -/
theorem LinksSound.unmade (distinct : Function.Injective digest)
    (sound : LinksSound verify digest pool) {link : ClaimLink}
    (named : IsNamed verify digest link.ledgerKey link.expiresAt) (free : LinkFree pool link) :
    madeFrom pool.shared link.ledgerKey = 0 := by
  obtain ⟨unspent, young, alone⟩ := free
  by_contra made
  rcases sound.remembered _ (Nat.pos_of_ne_zero made) with
    ⟨job, stored, spends⟩ | ⟨expiresAt, named', past⟩
  · exact alone ⟨job, stored, spends⟩
  · rw [named'.expiresAt distinct named] at past
    rcases past with expired | ⟨entry, there, _⟩
    · exact absurd young (Nat.not_le.mpr expired)
    · rw [unspent] at there
      cases there

/-- A step that leaves the links' records alone. -/
theorem LinksSound.aside (sound : LinksSound verify digest pool) {job : Job BookingClaimPhase}
    {jobId : Nat} {next : BookingClaimPhase} {after : ClaimDesk}
    (found : pool.jobs.find jobId = some job) (made : after.made = pool.shared.made)
    (ledger : after.ledger = pool.shared.ledger) (clock : after.clock = pool.shared.clock)
    (unspent : spending job.phase = none) (knows : KnowsLink verify digest next) :
    LinksSound verify digest { shared := after, jobs := moveJob pool.jobs jobId next } := by
  have same (ledgerKey : String) : madeFrom after ledgerKey = madeFrom pool.shared ledgerKey := by
    unfold madeFrom
    rw [made]
  refine ⟨fun other member => ?_, fun ledgerKey => ?_, fun ledgerKey some => ?_⟩
  · rcases mem_moveJob member with ⟨there, _⟩ | ⟨_, moved⟩
    · exact sound.knows other there
    · rw [moved]
      exact knows
  · exact same ledgerKey ▸ sound.once ledgerKey
  · exact (sound.remembered ledgerKey (same ledgerKey ▸ some)).moved found ledger clock unspent

/-- What a step that is in its turn makes of the links. -/
theorem LinksSound.moved (distinct : Function.Injective digest)
    (sound : LinksSound verify digest pool) {jobId : Nat} {phase next : BookingClaimPhase}
    {after : ClaimDesk} (found : pool.jobs.find jobId = some ⟨jobId, phase⟩)
    (steps : ClaimStep pool.shared phase after next) (knows : KnowsLink verify digest next)
    (inTurn : WritesAccount pool.shared phase → ∀ link ∈ writing phase, LinkFree pool link) :
    LinksSound verify digest { shared := after, jobs := moveJob pool.jobs jobId next } := by
  have stored : ⟨jobId, phase⟩ ∈ pool.jobs := (Table.find_eq_some.mp found).1
  have mine := sound.knows _ stored
  have kept : ∀ other ∈ moveJob pool.jobs jobId next, KnowsLink verify digest other.phase := by
    intro other member
    rcases mem_moveJob member with ⟨there, _⟩ | ⟨_, moved⟩
    · exact sound.knows other there
    · rw [moved]
      exact knows
  cases steps with
  | aside made ledger clock unspent => exact sound.aside found made ledger clock unspent knows
  | @wrote _ directory link userId writes writing =>
    obtain ⟨named, unspent⟩ := mine.writing writing
    have unmade := sound.unmade distinct named (inTurn writes link writing)
    let written : ClaimDesk :=
      { pool.shared with directory, made := (link.ledgerKey, userId) :: pool.shared.made }
    have counts (ledgerKey : String) : madeFrom written ledgerKey =
        madeFrom pool.shared ledgerKey + if link.ledgerKey = ledgerKey then 1 else 0 :=
      madeFrom_cons _ _ _ _ _
    refine ⟨kept, fun ledgerKey => ?_, fun ledgerKey some => ?_⟩
    · rw [counts]
      by_cases this : link.ledgerKey = ledgerKey
      · rw [← this, unmade, if_pos rfl]
      · rw [if_neg this]
        exact sound.once ledgerKey
    · by_cases this : link.ledgerKey = ledgerKey
      · exact Or.inl ⟨_, (Table.find_eq_some.mp (find_moveJob found)).1, link, rfl, this⟩
      · rw [counts, if_neg this] at some
        exact (sound.remembered ledgerKey some).moved found rfl rfl unspent
  | spent link userId entry until' =>
    refine ⟨kept, sound.once, fun ledgerKey some => ?_⟩
    by_cases this : ledgerKey = link.ledgerKey
    · refine Or.inr ⟨link.expiresAt, this ▸ mine, Or.inr ⟨entry, ?_, _, until', ?_⟩⟩
      · rw [this]
        exact Function.update_self ..
      · exact le_spentUntil _ link
    · rcases sound.remembered ledgerKey some with
        ⟨waiting, there, other, spends, same⟩ | ⟨expiresAt, named, past⟩
      · refine Or.inl ⟨waiting, ?_, other, spends, same⟩
        refine Table.mem_update_of_miss there fun (hit : waiting.id = jobId) => ?_
        have one : waiting = ⟨jobId, .spend link userId⟩ := Table.eq_of_key there stored hit
        rw [one] at spends
        cases spends
        exact this same.symm
      · refine Or.inr ⟨expiresAt, named, past.imp_right ?_⟩
        rintro ⟨entry', there, later⟩
        exact ⟨entry', (Function.update_of_ne this ..).trans there, later⟩

/-- So does every turn that is. -/
theorem LinksSound.serve (distinct : Function.Injective digest)
    (sound : LinksSound verify digest pool) {turn : BookingClaimTurn}
    (inTurn : SpendsInTurn pool turn) :
    LinksSound verify digest ((bookingClaims verify digest).serve pool turn) := by
  cases turn with
  | receive request =>
    refine ⟨fun job member => ?_, sound.once, fun ledgerKey some => ?_⟩
    · rcases Table.mem_insert.mp member with old | rfl
      · exact sound.knows job old
      · trivial
    · rcases sound.remembered ledgerKey some with ⟨job, stored, spends⟩ | past
      · exact Or.inl ⟨job, Table.mem_insert.mpr (Or.inl stored), spends⟩
      · exact Or.inr past
  | advance jobId answers =>
    cases found : pool.jobs.find jobId with
    | none =>
      rw [serve_missing found]
      exact sound
    | some job =>
      obtain ⟨stored, named⟩ := Table.find_eq_some.mp found
      have same : job.id = jobId := named
      subst same
      rw [serve_advance found]
      exact sound.moved distinct found (claimStep verify digest pool.shared answers job.phase)
        (act_knowsLink (sound.knows job stored)) (inTurn job found)
  | crash jobId =>
    cases found : pool.jobs.find jobId with
    | none =>
      simp only [Handler.serve, moveJob_missing found]
      exact sound
    | some job => exact sound.aside found rfl rfl rfl (inTurn job found) trivial
  | outside event =>
    cases event with
    | tick elapsed =>
      refine ⟨sound.knows, sound.once, fun ledgerKey some => ?_⟩
      refine (sound.remembered ledgerKey some).imp_right ?_
      rintro ⟨expiresAt, named, past⟩
      refine ⟨expiresAt, named, ?_⟩
      by_cases expired : expiresAt < pool.shared.clock + elapsed
      · exact Or.inl expired
      · have young : pool.shared.clock + elapsed ≤ expiresAt := Nat.not_lt.mp expired
        rcases past with before | ⟨entry, there, moment, ends, later⟩
        · exact absurd (Nat.lt_of_lt_of_le before (Nat.le_add_right _ elapsed)) expired
        · refine Or.inr ⟨entry, ?_, moment, ends, later⟩
          refine Key.sweep_eq_some.mpr ⟨there, fun other ends' => ?_⟩
          cases ends.symm.trans ends'
          exact young.trans later
    | signUp input =>
      simp only [Handler.serve, bookingClaims, changeClaims]
      split <;> exact ⟨sound.knows, sound.once, sound.remembered⟩
    | scheduleDeletion | directory | booking => exact ⟨sound.knows, sound.once, sound.remembered⟩

end Turns

/-! ## Runs -/

/-- From any state in which no link was used yet and nobody is using one, no link makes, or takes
over, a second account where every account is written for a link that is free and every claim
that wrote one goes on to spend it; and in every state reached `inspect` tells what a claim would
find. -/
theorem spendsLinksOnce_of_inTurn (verify : String → Option BookingClaimClaims)
    (digest : String → String) (distinct : Function.Injective digest) {start : BookingClaimPool}
    (rest : start.jobs.rows = []) (unused : start.shared.made = []) {turns : List BookingClaimTurn}
    (inTurn : Meets (bookingClaims verify digest).serve SpendsInTurn start turns) :
    Meets (bookingClaims verify digest).serve (SpendsLinksOnce verify digest) start turns := by
  have none (ledgerKey : String) : madeFrom start.shared ledgerKey = 0 := by
    unfold madeFrom
    rw [unused]
    rfl
  have sound : LinksSound verify digest start := by
    refine ⟨fun job stored => absurd stored (Table.not_mem_of_empty rest job), fun ledgerKey => ?_,
      fun ledgerKey some => ?_⟩
    · rw [none]
      exact Nat.zero_le 1
    · rw [none] at some
      exact absurd some (Nat.lt_irrefl 0)
  refine inTurn.of_invariant (fun _ _ sound met => sound.serve distinct met)
    (fun pool turn sound met => ?_) sound
  have after : LinksSound verify digest ((bookingClaims verify digest).serve pool turn) :=
    sound.serve distinct met
  exact ⟨fun token => after.once _, inspectTells verify digest _⟩

/-! ## A link that is used, and used again -/

/-- One booking on the platform, with one link sent to its address. -/
def oneBooking : BookingClaimPool where
  shared :=
    { directory :=
        { organizations := ⟨[{ id := 0, name := "Eventa" }], 1, by decide, by decide⟩
          users := Table.empty
          memberships := Table.empty
          sessions := Table.empty
          socialIdentities := Table.empty
          platformOrganizationId := some 0 }
      bookings := fun orderId =>
        if orderId = 7 then some { orderId := 7, buyerName := "Anan", buyerEmail := "a@b.co" }
        else none
      ledger := fun _ => none
      clock := 0
      made := [] }
  jobs := Table.empty

def oneLink (token : String) : Option BookingClaimClaims :=
  if token = "link" then some { sub := 7, email := "a@b.co", exp := 600 } else none

def plainAnswers : ClaimAnswers where
  hash := id
  refreshTtl := 1000

/-- A claim of the link, all of it. -/
def claimOf (jobId : Nat) : List BookingClaimTurn :=
  .receive (.claim "link" "secret") :: List.replicate 7 (.advance jobId plainAnswers)

/-- The link makes an account, the account is deleted, and the link is dead. -/
def claimedThenDeleted : List BookingClaimTurn :=
  claimOf 0 ++ [.outside (.scheduleDeletion 0 0), .outside (.tick 5000)] ++ claimOf 1

theorem spendsLinksOnce_claimedThenDeleted :
    Meets (bookingClaims oneLink id).serve (SpendsLinksOnce oneLink id) oneBooking
      claimedThenDeleted :=
  spendsLinksOnce_of_inTurn oneLink id Function.injective_id rfl rfl (by decide +kernel)

/-- The claim ends after it has made the account. -/
def endedUnspent : List BookingClaimTurn :=
  .receive (.claim "link" "secret") :: List.replicate 5 (.advance 0 plainAnswers) ++
    [.crash 0, .outside (.scheduleDeletion 0 0), .receive (.claim "link" "other")] ++
    List.replicate 4 (.advance 1 plainAnswers)

theorem endedUnspent_makesTwo : ¬ ∀ (verify : String → Option BookingClaimClaims)
    (digest : String → String), Function.Injective digest → ∀ start : BookingClaimPool,
    start.jobs.rows = [] → start.shared.made = [] → ∀ turns : List BookingClaimTurn,
      Meets (bookingClaims verify digest).serve (SpendsLinksOnce verify digest) start turns := by
  intro once
  have met := once oneLink id Function.injective_id oneBooking rfl rfl
    (endedUnspent ++ [.advance 1 plainAnswers])
  have last := ((meets_append.mp met).2.1).1 "link"
  exact absurd last (by decide +kernel)

end EventaApi.Guarantees
