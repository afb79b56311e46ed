import EventaApi.Source.PhoneVerification

/-!
# Only a proven number is promoted

A number becomes a user's verified phone only by a call that presented the code of a text to that
number while the text's challenge was in the row and had not run out. The guesses against one
code are counted where the code is, so no more than the limit are compared with it. A request
under way when a number is removed may still write after the removal: then its code counts.
-/
namespace EventaApi.Guarantees
open Library Source

abbrev PhonePool := Pool PhoneDesk PhonePhase

abbrev PhoneTurn := PoolTurn PhoneRequest PhoneAnswers PhoneWorld

/-! ## What is asked of a number -/

def verifiedPhone (row : PhoneRow) : Option String :=
  if row.phoneVerifiedAt = none then none else row.phone

/-- The removal is committed: the row is live. -/
def RemovesPhone (pool : PhonePool) (turn : PhoneTurn) : Prop :=
  ∃ jobId answers, turn = .advance jobId answers ∧ ∃ job ∈ pool.jobs.find jobId,
    job.phase = .clearPhone ∧ pool.shared.row.deletedAt = none

/-- A request for the number is made. -/
def RequestMade (_ : PhonePool) (turn : PhoneTurn) (number : String) : Prop :=
  ∃ phone, turn = .receive (.request phone) ∧ toThaiMobileE164 phone = some number

/-- A request writes its challenge for the number, and queues its text. -/
def RequestWritten (pool : PhonePool) (turn : PhoneTurn) (number : String) : Prop :=
  ∃ jobId answers, turn = .advance jobId answers ∧ ∃ job ∈ pool.jobs.find jobId,
    ∃ challenge event, job.phase = .startPhoneChange challenge event ∧ event.phone = number ∧
      pool.shared.row.deletedAt = none

section Asked

variable (config : PhoneConfig) (sha256 : String → String)

/-- What is held for the number a text went to, with the text's code. -/
def challengeOf (text : PhoneText) : PhoneChallenge where
  pendingPhone := text.phone
  codeHash := hashCode sha256 text.code
  expiresAt := text.expiresAt

structure HoldsChallenge (row : PhoneRow) (challenge : PhoneChallenge) : Prop where
  pendingPhone : row.pendingPhone = some challenge.pendingPhone
  codeHash : row.phoneCodeHash = some challenge.codeHash
  expiresAt : row.phoneCodeExpiresAt = some challenge.expiresAt

/-- The call is about to claim a guess, and presents the code of a text to the number, whose
challenge is in the row and has not run out. -/
def Presents (pool : PhonePool) (jobId : Nat) (number : String) : Prop :=
  ∃ job ∈ pool.jobs.find jobId, ∃ code, job.phase = .claimPhoneCodeAttempt code ∧
    ∃ text ∈ pool.shared.outbox, text.phone = number ∧ trim code = trim text.code ∧
      HoldsChallenge pool.shared.row (challengeOf sha256 text) ∧
      pool.shared.clock < text.expiresAt

/-- The text of this number: the first is number 1. -/
def textNumber : List PhoneText → Nat → Option PhoneText
  | [], _ => none
  | text :: earlier, issue =>
    if issue = earlier.length + 1 then some text else textNumber earlier issue

/-- The guess is compared with the code of the text it is counted against. -/
def ComparesWithText (outbox : List PhoneText) (phase : PhonePhase) : Prop :=
  ∀ code challenge issue, phase = .compare code challenge issue →
    ∃ text ∈ textNumber outbox issue, challenge.phoneCodeHash = hashCode sha256 text.code

def Becomes (pool : PhonePool) (turn : PhoneTurn) (number : String) : Prop :=
  verifiedPhone pool.shared.row ≠ some number ∧
    verifiedPhone ((phoneVerification config sha256).serve pool turn).shared.row = some number

/-- A removed number comes back only after it was asked for again. -/
structure OnlyProven (asked : PhonePool → PhoneTurn → String → Prop) (start : PhonePool)
    (turns : List PhoneTurn) : Prop where
  proven : ∀ first turn rest number, turns = first ++ turn :: rest →
    Becomes config sha256 (run (phoneVerification config sha256).serve start first) turn number →
      ∃ jobId answers early earlier late, turn = .advance jobId answers ∧
        first = early ++ .advance jobId earlier :: late ∧
        Presents sha256 (run (phoneVerification config sha256).serve start early) jobId number
  counted : ∀ job ∈ (run (phoneVerification config sha256).serve start turns).jobs,
    ComparesWithText sha256
      (run (phoneVerification config sha256).serve start turns).shared.outbox job.phase
  limited : ∀ issue,
    (run (phoneVerification config sha256).serve start turns).shared.compared.count issue ≤
      config.maxAttempts
  removed : ∀ first turn rest number, turns = first ++ turn :: rest →
    RemovesPhone (run (phoneVerification config sha256).serve start first) turn →
      (run (phoneVerification config sha256).serve start turns).shared.row.phone = some number →
        ∃ before again after, rest = before ++ again :: after ∧
          asked (run (phoneVerification config sha256).serve start (first ++ turn :: before)) again
            number

end Asked

/-- No call is under way, no guess has been compared, and no challenge is held. -/
structure Unasked (pool : PhonePool) : Prop where
  idle : pool.jobs.rows = []
  compared : pool.shared.compared = []
  unheld : NO_PHONE_CHALLENGE pool.shared.row = pool.shared.row

/-! ## What a step does -/

/-- Which text's code a call is about to compare its guess with. -/
def comparing : PhonePhase → Option Nat
  | .compare _ _ issue => some issue
  | _ => none

def promoting : PhonePhase → Option String
  | .promotePhone phone => some phone
  | _ => none

section Steps

variable (config : PhoneConfig) (sha256 : String → String)

/-- A request texts the code it holds the number with. -/
def SendsItsCode (phase : PhonePhase) : Prop :=
  ∀ challenge event, phase = .startPhoneChange challenge event →
    challenge = challengeOf sha256 event

inductive PhoneStep (desk : PhoneDesk) : PhonePhase → PhoneDesk → PhonePhase → Prop
  | quiet {phase next : PhonePhase} (uncompared : comparing next = none)
      (unpromoted : promoting next = none) (sends : SendsItsCode sha256 next) :
      PhoneStep desk phase desk next
  | texts {challenge : PhoneChallenge} {event : PhoneText} {row : PhoneRow} {reply : PhoneReply}
      (written : startPhoneChange desk.row challenge = some row) :
      PhoneStep desk (.startPhoneChange challenge event)
        { desk with row, outbox := event :: desk.outbox } (.done reply)
  | claims {code : String} {row : PhoneRow} {challenge : ClaimedPhoneCode}
      (claimed : claimPhoneCodeAttempt desk.row config.maxAttempts = (row, some challenge)) :
      PhoneStep desk (.claimPhoneCodeAttempt code) { desk with row }
        (.compare code challenge desk.outbox.length)
  | spends {code : String} {row : PhoneRow} {reply : PhoneReply}
      (claimed : claimPhoneCodeAttempt desk.row config.maxAttempts = (row, none)) :
      PhoneStep desk (.claimPhoneCodeAttempt code) { desk with row } (.done reply)
  | misses {code : String} {challenge : ClaimedPhoneCode} {issue : Nat} {reply : PhoneReply} :
      PhoneStep desk (.compare code challenge issue)
        { desk with compared := issue :: desk.compared } (.done reply)
  | hits {code phone : String} {challenge : ClaimedPhoneCode} {issue : Nat}
      (live : IsLiveChallenge desk.clock challenge)
      (same : hashMatches sha256 challenge.phoneCodeHash code)
      (held : challenge.pendingPhone = some phone) :
      PhoneStep desk (.compare code challenge issue)
        { desk with compared := issue :: desk.compared } (.promotePhone phone)
  | promotes {phone : String} {row : PhoneRow} {reply : PhoneReply}
      (promoted : promotePhone desk.row phone desk.clock = some row) :
      PhoneStep desk (.promotePhone phone) { desk with row } (.done reply)
  | clears {row : PhoneRow} {reply : PhoneReply} (cleared : clearPhone desk.row = some row) :
      PhoneStep desk .clearPhone { desk with row } (.done reply)

end Steps

section Inversion

variable {config : PhoneConfig} {sha256 : String → String}
variable {desk after : PhoneDesk} {answers : PhoneAnswers} {phase next : PhonePhase}

theorem PhoneStep.ends (desk : PhoneDesk) (phase : PhonePhase) (reply : PhoneReply) :
    PhoneStep config sha256 desk phase desk (.done reply) :=
  .quiet rfl rfl fun _ _ same => by cases same

theorem afterLoad_step (phone : String) :
    PhoneStep config sha256 desk (.load phone) desk (afterLoad desk.row phone) := by
  unfold afterLoad refusedPhone
  split
  · exact .ends ..
  · split
    · exact .ends ..
    · split
      · exact .ends ..
      · exact .quiet rfl rfl fun _ _ same => by cases same

theorem afterThrottle_step (name pendingPhone : String) :
    PhoneStep config sha256 desk (.throttle name pendingPhone) desk
      (afterThrottle config sha256 desk.clock answers name pendingPhone) := by
  unfold afterThrottle refusedPhone
  split
  · exact .ends ..
  · refine .quiet rfl rfl fun challenge event same => ?_
    obtain ⟨rfl, rfl⟩ := PhonePhase.startPhoneChange.inj same
    rfl

theorem afterComparing_step {code : String} {challenge : ClaimedPhoneCode} (issue : Nat)
    (live : IsLiveChallenge desk.clock challenge) :
    PhoneStep config sha256 desk (.compare code challenge issue)
      { desk with compared := issue :: desk.compared }
      (afterComparing config sha256 code challenge) := by
  unfold afterComparing refusedPhone
  split
  next same =>
    split
    · exact .misses
    next phone held =>
      obtain ⟨held, _⟩ := Option.filter_eq_some_iff.mp held
      exact .hits live same held
  · exact .misses

/-- Everything an act may do. -/
theorem phoneStep (acting : actOnPhone config sha256 desk answers phase = (after, next)) :
    PhoneStep config sha256 desk phase after next := by
  cases phase with
  | load phone =>
    cases acting
    exact afterLoad_step phone
  | throttle name pendingPhone =>
    cases acting
    exact afterThrottle_step name pendingPhone
  | startPhoneChange challenge event =>
    simp only [actOnPhone] at acting
    split at acting
    next row written =>
      cases acting
      exact .texts written
    · cases acting
      exact .ends ..
  | claimPhoneCodeAttempt code =>
    simp only [actOnPhone] at acting
    rcases claimed : claimPhoneCodeAttempt desk.row config.maxAttempts with ⟨row, _ | challenge⟩
    · rw [claimed] at acting
      cases acting
      exact .spends claimed
    · rw [claimed] at acting
      cases acting
      exact .claims claimed
  | compare code challenge issue =>
    simp only [actOnPhone] at acting
    split at acting
    next live =>
      cases acting
      exact afterComparing_step issue live
    · cases acting
      exact .ends ..
  | promotePhone phone =>
    simp only [actOnPhone] at acting
    split at acting
    next row promoted =>
      cases acting
      exact .promotes promoted
    · cases acting
      exact .ends ..
  | clearPhone =>
    simp only [actOnPhone] at acting
    split at acting
    next row cleared =>
      cases acting
      exact .clears cleared
    · cases acting
      exact .ends ..
  | done reply =>
    cases acting
    exact .ends ..

/-- A turn that is no call's step leaves what the row says of phones, and time does not go back. -/
structure LeavesPhones (desk after : PhoneDesk) : Prop where
  phone : after.row.phone = desk.row.phone
  phoneVerifiedAt : after.row.phoneVerifiedAt = desk.row.phoneVerifiedAt
  pendingPhone : after.row.pendingPhone = desk.row.pendingPhone
  clock : desk.clock ≤ after.clock

theorem phoneTurn_cases (config : PhoneConfig) (sha256 : String → String) (pool : PhonePool)
    (turn : PhoneTurn) :
    LeavesPhones pool.shared ((phoneVerification config sha256).serve pool turn).shared ∨
    ∃ jobId answers id phase next, turn = .advance jobId answers ∧
      pool.jobs.find jobId = some ⟨id, phase⟩ ∧ PhoneStep config sha256 pool.shared phase
        ((phoneVerification config sha256).serve pool turn).shared next := by
  rcases (phoneVerification config sha256).serve_cases pool turn with
    same | ⟨event, _, changed⟩ | ⟨jobId, answers, ⟨id, phase⟩, advances, found, acted⟩
  · rw [same]
    exact Or.inl ⟨rfl, rfl, rfl, le_rfl⟩
  · rw [changed]
    cases event with
    | tick elapsed => exact Or.inl ⟨rfl, rfl, rfl, Nat.le_add_right _ elapsed⟩
    | delete | rename => exact Or.inl ⟨rfl, rfl, rfl, le_rfl⟩
  · rw [acted]
    exact Or.inr ⟨jobId, answers, id, phase, _, advances, found, phoneStep rfl⟩

/-! ### The statements -/

section Statements

variable {row written : PhoneRow}

theorem startPhoneChange_eq_some {challenge : PhoneChallenge}
    (wrote : startPhoneChange row challenge = some written) :
    row.deletedAt = none ∧ HoldsChallenge written challenge ∧ written.phoneCodeAttempts = 0 ∧
      written.phone = row.phone ∧ written.phoneVerifiedAt = row.phoneVerifiedAt := by
  unfold startPhoneChange at wrote
  split at wrote
  next live =>
    obtain rfl := Option.some.inj wrote
    exact ⟨live, ⟨rfl, rfl, rfl⟩, rfl, rfl, rfl⟩
  · cases wrote

/-- A claim counts, and leaves the rest of the row alone. -/
theorem claimPhoneCodeAttempt_row {maxAttempts : Nat} {claimed : Option ClaimedPhoneCode}
    (claims : claimPhoneCodeAttempt row maxAttempts = (written, claimed)) :
    ∃ attempts, row.phoneCodeAttempts ≤ attempts ∧
      written = { row with phoneCodeAttempts := attempts } := by
  unfold claimPhoneCodeAttempt at claims
  split at claims
  · cases claims
    exact ⟨_, le_rfl, rfl⟩
  · split at claims
    · cases claims
      exact ⟨_, Nat.le_succ _, rfl⟩
    · cases claims
      exact ⟨_, le_rfl, rfl⟩

/-- What a claim hands back is in the row. -/
structure TakenFrom (row : PhoneRow) (challenge : ClaimedPhoneCode) : Prop where
  codeHash : row.phoneCodeHash = some challenge.phoneCodeHash
  expiresAt : row.phoneCodeExpiresAt = challenge.phoneCodeExpiresAt
  pendingPhone : row.pendingPhone = challenge.pendingPhone

theorem claimPhoneCodeAttempt_some {maxAttempts : Nat} {challenge : ClaimedPhoneCode}
    (claims : claimPhoneCodeAttempt row maxAttempts = (written, some challenge)) :
    TakenFrom row challenge ∧ row.phoneCodeAttempts < maxAttempts ∧
      written = { row with phoneCodeAttempts := row.phoneCodeAttempts + 1 } := by
  unfold claimPhoneCodeAttempt at claims
  split at claims
  · cases claims
  next held =>
    split at claims
    next allowed =>
      obtain ⟨rfl, handed⟩ := Prod.mk.inj claims
      split at handed
      · cases handed
      · obtain rfl := Option.some.inj handed
        exact ⟨⟨held, rfl, rfl⟩, allowed.2, rfl⟩
    · cases claims

theorem promotePhone_eq_some {phone : String} {now : Instant}
    (promoted : promotePhone row phone now = some written) :
    row.pendingPhone = some phone ∧ written.phone = some phone ∧ written.pendingPhone = none ∧
      written.phoneCodeHash = none := by
  unfold promotePhone at promoted
  split at promoted
  next held =>
    obtain rfl := Option.some.inj promoted
    exact ⟨held, rfl, rfl, rfl⟩
  · cases promoted

theorem clearPhone_eq_some (cleared : clearPhone row = some written) :
    written.phone = none ∧ written.pendingPhone = none ∧ written.phoneCodeHash = none := by
  unfold clearPhone at cleared
  split at cleared
  · obtain rfl := Option.some.inj cleared
    exact ⟨rfl, rfl, rfl⟩
  · cases cleared

end Statements

end Inversion

/-! ### The refusals -/

/-- A request is refused for its number, or for no field of its own. -/
theorem afterLoad_blames {row : PhoneRow} {phone : String} {refusal : PhoneRefusal}
    (refused : afterLoad row phone = .done (.refused refusal)) :
    ∀ field ∈ refusal.field, field = "phone" := by
  intro field blamed
  unfold afterLoad refusedPhone at refused
  split at refused
  · cases refused
    exact (Option.some.inj blamed).symm
  · split at refused
    · cases refused
      cases blamed
    · split at refused
      · cases refused
        exact (Option.some.inj blamed).symm
      · cases refused

/-- A confirmation is refused for its code, and only while the code can still be tried. -/
theorem afterComparing_blames {config : PhoneConfig} {sha256 : String → String} {code : String}
    {challenge : ClaimedPhoneCode} {refusal : PhoneRefusal}
    (refused : afterComparing config sha256 code challenge = .done (.refused refusal)) :
    ∀ field ∈ refusal.field, field = "code" ∧ challenge.attempts < config.maxAttempts := by
  intro field blamed
  unfold afterComparing refusedPhone refuseGuess at refused
  split at refused
  · split at refused
    · cases refused
      cases blamed
    · cases refused
  · split at refused
    · cases refused
      cases blamed
    next left =>
      cases refused
      exact ⟨(Option.some.inj blamed).symm, Nat.lt_of_not_le left⟩

/-! ## A number that is proven -/

section Proven

variable {config : PhoneConfig} {sha256 : String → String}

/-- The challenge in the row is the latest text's. -/
def SentChallenge (sha256 : String → String) (desk : PhoneDesk) : Prop :=
  desk.row.phoneCodeHash ≠ none →
    ∃ text ∈ desk.outbox.head?, HoldsChallenge desk.row (challengeOf sha256 text)

theorem SentChallenge.congr {sha256 : String → String} {desk after : PhoneDesk}
    (sent : SentChallenge sha256 desk) (outbox : after.outbox = desk.outbox)
    (pendingPhone : after.row.pendingPhone = desk.row.pendingPhone)
    (codeHash : after.row.phoneCodeHash = desk.row.phoneCodeHash)
    (expiresAt : after.row.phoneCodeExpiresAt = desk.row.phoneCodeExpiresAt) :
    SentChallenge sha256 after := by
  intro held
  obtain ⟨text, latest, holds⟩ := sent (codeHash ▸ held)
  exact ⟨text, outbox ▸ latest, ⟨pendingPhone.trans holds.pendingPhone,
    codeHash.trans holds.codeHash, expiresAt.trans holds.expiresAt⟩⟩

/-- The codes a call carries are those of texts. -/
structure CarriesTextsCodes (sha256 : String → String) (desk : PhoneDesk) (phase : PhonePhase) :
    Prop where
  sends : SendsItsCode sha256 phase
  compares : ComparesWithText sha256 desk.outbox phase

theorem CarriesTextsCodes.of_quiet {sha256 : String → String} {desk : PhoneDesk}
    {phase : PhonePhase} (sends : SendsItsCode sha256 phase) (uncompared : comparing phase = none) :
    CarriesTextsCodes sha256 desk phase where
  sends := sends
  compares := by
    rintro code challenge issue rfl
    cases uncompared

theorem CarriesTextsCodes.done (sha256 : String → String) (desk : PhoneDesk) (reply : PhoneReply) :
    CarriesTextsCodes sha256 desk (.done reply) :=
  .of_quiet (fun _ _ same => by cases same) rfl

theorem textNumber_le {outbox : List PhoneText} {issue : Nat} {text : PhoneText}
    (there : textNumber outbox issue = some text) : issue ≤ outbox.length := by
  induction outbox with
  | nil => cases there
  | cons latest earlier ih =>
    simp only [textNumber] at there
    split at there
    next same => exact same.le
    · exact (ih there).trans (Nat.le_succ _)

/-- A text keeps its number when another is queued. -/
theorem ComparesWithText.cons {sha256 : String → String} {outbox : List PhoneText}
    {phase : PhonePhase} (compares : ComparesWithText sha256 outbox phase) (event : PhoneText) :
    ComparesWithText sha256 (event :: outbox) phase := by
  intro code challenge issue same
  obtain ⟨text, there, hashed⟩ := compares code challenge issue same
  have older : issue ≠ outbox.length + 1 := Nat.ne_of_lt (Nat.lt_succ_of_le (textNumber_le there))
  exact ⟨text, (if_neg older).trans there, hashed⟩

theorem phoneStep_outbox {desk after : PhoneDesk} {phase next : PhonePhase}
    (step : PhoneStep config sha256 desk phase after next) :
    after.outbox = desk.outbox ∨ ∃ event, after.outbox = event :: desk.outbox := by
  cases step with
  | texts => exact Or.inr ⟨_, rfl⟩
  | quiet | claims | spends | misses | hits | promotes | clears => exact Or.inl rfl

theorem sentChallenge_keeps (config : PhoneConfig) (sha256 : String → String) :
    (phoneVerification config sha256).Keeps (SentChallenge sha256) (CarriesTextsCodes sha256)
      (fun _ _ _ => True) (fun _ _ => True) where
  opened := by
    intro _ request _
    cases request with
    | request | confirm | remove => exact .of_quiet (fun _ _ same => by cases same) rfl
  crashed := fun desk _ => .done sha256 desk .crashed
  act := by
    intro desk answers phase sent carries _
    generalize acting : (phoneVerification config sha256).act desk answers phase = acted
    obtain ⟨after, next⟩ := acted
    cases phoneStep acting with
    | quiet uncompared _ sends => exact ⟨sent, .of_quiet sends uncompared⟩
    | texts written =>
      obtain rfl := carries.sends _ _ rfl
      obtain ⟨_, holds, _⟩ := startPhoneChange_eq_some written
      exact ⟨fun _ => ⟨_, rfl, holds⟩, .done ..⟩
    | @claims code row challenge claimed =>
      obtain ⟨taken, _, rfl⟩ := claimPhoneCodeAttempt_some claimed
      have held : desk.row.phoneCodeHash ≠ none := by simp [taken.codeHash]
      obtain ⟨text, latest, holds⟩ := sent held
      have hashed : challenge.phoneCodeHash = hashCode sha256 text.code :=
        Option.some.inj (taken.codeHash.symm.trans holds.codeHash)
      refine ⟨sent.congr rfl rfl rfl rfl, (fun _ _ same => by cases same), ?_⟩
      intro code' challenge' issue same
      obtain ⟨_, rfl, rfl⟩ := PhonePhase.compare.inj same
      refine ⟨text, ?_, hashed⟩
      obtain ⟨earlier, queued⟩ := List.head?_eq_some_iff.mp latest
      simp [queued, textNumber]
    | spends claimed =>
      obtain ⟨attempts, _, rfl⟩ := claimPhoneCodeAttempt_row claimed
      exact ⟨sent.congr rfl rfl rfl rfl, .done ..⟩
    | misses => exact ⟨sent, .done ..⟩
    | hits => exact ⟨sent, .of_quiet (fun _ _ same => by cases same) rfl⟩
    | promotes promoted =>
      obtain ⟨_, _, _, gone⟩ := promotePhone_eq_some promoted
      exact ⟨fun held => absurd gone held, .done ..⟩
    | clears cleared =>
      obtain ⟨_, _, gone⟩ := clearPhone_eq_some cleared
      exact ⟨fun held => absurd gone held, .done ..⟩
  undisturbed := by
    intro desk answers phase other _ _ _ carries
    generalize acting : (phoneVerification config sha256).act desk answers phase = acted
    obtain ⟨after, next⟩ := acted
    refine ⟨carries.sends, ?_⟩
    rcases phoneStep_outbox (phoneStep acting) with same | ⟨event, queued⟩
    · exact same ▸ carries.compares
    · exact queued ▸ carries.compares.cons event
  outside := by
    intro desk event sent _
    cases event with
    | tick | delete | rename =>
      exact ⟨sent.congr rfl rfl rfl rfl, fun _ carries => ⟨carries.sends, carries.compares⟩⟩

/-- How a call came to its comparison, or to its promotion. -/
def CameTo (sha256 : String → String) (desk : PhoneDesk) (before : PhonePhase) : PhonePhase → Prop
  | .compare code challenge _ =>
    before = .claimPhoneCodeAttempt code ∧ TakenFrom desk.row challenge
  | .promotePhone phone => ∃ code challenge, before = .claimPhoneCodeAttempt code ∧
    TakenFrom desk.row challenge ∧ hashMatches sha256 challenge.phoneCodeHash code ∧
      challenge.pendingPhone = some phone ∧ IsLiveChallenge desk.clock challenge
  | _ => False

def IsTrying (phase : PhonePhase) : Prop := comparing phase ≠ none ∨ promoting phase ≠ none

theorem IsLiveChallenge.earlier {now earlier : Instant} {challenge : ClaimedPhoneCode}
    (live : IsLiveChallenge now challenge) (before : earlier ≤ now) :
    IsLiveChallenge earlier challenge := by
  obtain ⟨hashed, expiresAt, there, alive⟩ := live
  exact ⟨hashed, expiresAt, there, before.trans_lt alive⟩

theorem cameTo_traces (config : PhoneConfig) (sha256 : String → String) :
    (phoneVerification config sha256).Traces PhoneDesk.clock IsTrying (CameTo sha256) where
  opened := by
    intro request
    cases request with
    | request | confirm | remove =>
      simp [phoneVerification, openPhone, IsTrying, comparing, promoting]
  crashed := by simp [phoneVerification, IsTrying, comparing, promoting]
  act := by
    intro desk answers phase trying
    generalize acting : (phoneVerification config sha256).act desk answers phase = acted at trying ⊢
    obtain ⟨after, next⟩ := acted
    cases phoneStep acting with
    | quiet uncompared unpromoted =>
      exact absurd trying (by simp [IsTrying, uncompared, unpromoted])
    | claims claimed => exact Or.inl ⟨rfl, (claimPhoneCodeAttempt_some claimed).1⟩
    | hits live same held =>
      refine Or.inr ⟨Or.inl (by simp [comparing]), fun earlier before past came => ?_⟩
      obtain ⟨presented, taken⟩ := came
      exact ⟨_, _, presented, taken, same, held, IsLiveChallenge.earlier live past⟩
    | texts | spends | misses | promotes | clears =>
      exact absurd trying (by simp [IsTrying, comparing, promoting])
  passes := by
    intro pool turn
    rcases phoneTurn_cases config sha256 pool turn with leaves | ⟨_, _, _, _, _, _, _, step⟩
    · exact leaves.clock
    · generalize ((phoneVerification config sha256).serve pool turn).shared = after at step ⊢
      cases step with
      | quiet | texts | claims | spends | misses | hits | promotes | clears =>
        exact le_refl pool.shared.clock

/-- What a turn may do to the verified number: clear it, or promote the one that is held. -/
theorem verifiedPhone_serve {pool : PhonePool} {turn : PhoneTurn} {number : String}
    (becomes : Becomes config sha256 pool turn number) :
    ∃ jobId answers, turn = .advance jobId answers ∧
      ∃ job ∈ pool.jobs.find jobId, job.phase = .promotePhone number := by
  obtain ⟨before, becomes⟩ := becomes
  rcases phoneTurn_cases config sha256 pool turn with
    leaves | ⟨jobId, answers, id, phase, _, advances, found, step⟩
  · simp only [verifiedPhone, leaves.phone, leaves.phoneVerifiedAt] at becomes
    exact absurd becomes before
  refine ⟨jobId, answers, advances, ⟨id, phase⟩, found, ?_⟩
  generalize ((phoneVerification config sha256).serve pool turn).shared = after at step becomes
  cases step with
  | quiet | misses | hits => exact absurd becomes before
  | texts written =>
    obtain ⟨_, _, _, phone, verified⟩ := startPhoneChange_eq_some written
    simp only [verifiedPhone, phone, verified] at becomes
    exact absurd becomes before
  | claims claimed | spends claimed =>
    obtain ⟨attempts, _, rfl⟩ := claimPhoneCodeAttempt_row claimed
    exact absurd becomes before
  | promotes promoted =>
    obtain ⟨_, phone, _⟩ := promotePhone_eq_some promoted
    simp only [verifiedPhone, phone] at becomes
    split at becomes
    · cases becomes
    · obtain rfl := Option.some.inj becomes
      rfl
  | clears cleared =>
    obtain ⟨phone, _⟩ := clearPhone_eq_some cleared
    simp [verifiedPhone, phone] at becomes

theorem not_mem_idle {start : PhonePool} (fresh : Unasked start) (job : Job PhonePhase) :
    job ∉ start.jobs := by
  rw [Table.mem_def, fresh.idle]
  exact List.not_mem_nil

theorem sent_run (config : PhoneConfig) (sha256 : String → String) {start : PhonePool}
    (fresh : Unasked start) (turns : List PhoneTurn) :
    (run (phoneVerification config sha256).serve start turns).Sound (SentChallenge sha256)
      (CarriesTextsCodes sha256) := by
  refine (sentChallenge_keeps config sha256).run
    ⟨fun held => ?_, fun job there => absurd there (not_mem_idle fresh job)⟩
    ((meets_true start turns).mono fun pool turn _ => Handler.guarded_true pool turn)
  rw [← fresh.unheld] at held
  exact absurd rfl held

/-- A call that promotes a number presented the code of a text to it. -/
theorem presents_of_promoting (distinct : Function.Injective sha256) {start : PhonePool}
    (fresh : Unasked start) (first : List PhoneTurn) {job : Job PhonePhase} {number : String}
    (stored : job ∈ (run (phoneVerification config sha256).serve start first).jobs)
    (promotes : job.phase = .promotePhone number) :
    ∃ early earlier late, first = early ++ .advance job.id earlier :: late ∧
      Presents sha256 (run (phoneVerification config sha256).serve start early) job.id number := by
  obtain ⟨early, earlier, late, before, cut, found, came⟩ :=
    (cameTo_traces config sha256).run (fun job there => absurd there (not_mem_idle fresh job)) first
      job stored (by simp [IsTrying, promotes, promoting])
  rw [promotes] at came
  obtain ⟨code, challenge, presented, taken, hit, held, _, expiresAt, there, alive⟩ := came
  have hashed := taken.codeHash
  obtain ⟨text, latest, holds⟩ := (sent_run config sha256 fresh early).shared (by simp [hashed])
  have number_eq : text.phone = number := by
    have pending := holds.pendingPhone.symm.trans (taken.pendingPhone.trans held)
    exact Option.some.inj pending
  have code_eq : trim code = trim text.code := by
    have texted := Option.some.inj (hashed.symm.trans holds.codeHash)
    have digests : hashCode sha256 code = hashCode sha256 text.code := hit.2.symm.trans texted
    exact String.ofList_injective (distinct digests)
  have expiry : text.expiresAt = expiresAt := by
    have ends := holds.expiresAt.symm.trans (taken.expiresAt.trans there)
    exact Option.some.inj ends
  refine ⟨early, earlier, late, cut, before, found, code, presented, text,
    List.mem_of_mem_head? latest, number_eq, code_eq, holds, ?_⟩
  rw [expiry]
  exact alive

end Proven

/-! ## The guesses against a code -/

section Guesses

variable {config : PhoneConfig} {sha256 : String → String} {pool : PhonePool}

/-- The guesses compared with the text's code, and those claimed that still will be. -/
def spentOn (pool : PhonePool) (issue : Nat) : Nat :=
  pool.shared.compared.count issue +
    (pool.jobs.select fun job => comparing job.phase = some issue).length

/-- The attempts in the row cover what is spent on the code that is held, and no code that
is not held any more can be claimed. -/
structure GuessesSound (config : PhoneConfig) (pool : PhonePool) : Prop where
  limited : ∀ issue, spentOn pool issue ≤ config.maxAttempts
  covered : pool.shared.row.phoneCodeHash ≠ none →
    spentOn pool pool.shared.outbox.length ≤ pool.shared.row.phoneCodeAttempts
  unissued : ∀ issue, pool.shared.outbox.length < issue → spentOn pool issue = 0

theorem GuessesSound.of_le (sound : GuessesSound config pool) {after : PhonePool}
    (fewer : ∀ issue, spentOn after issue ≤ spentOn pool issue)
    (outbox : after.shared.outbox = pool.shared.outbox)
    (held : after.shared.row.phoneCodeHash ≠ none → pool.shared.row.phoneCodeHash ≠ none ∧
      pool.shared.row.phoneCodeAttempts ≤ after.shared.row.phoneCodeAttempts) :
    GuessesSound config after where
  limited := fun issue => (fewer issue).trans (sound.limited issue)
  covered := by
    intro there
    obtain ⟨before, more⟩ := held there
    rw [outbox]
    exact (fewer _).trans ((sound.covered before).trans more)
  unissued := by
    intro issue later
    rw [outbox] at later
    have none_spent := sound.unissued issue later
    have fewer := fewer issue
    omega

/-- What a step adds to a code's guesses: what it compares, and what it claims. -/
theorem spentOn_moveJob {jobId : Nat} {job : Job PhonePhase}
    (found : pool.jobs.find jobId = some job) (desk : PhoneDesk) (next : PhonePhase) (issue : Nat) :
    spentOn { shared := desk, jobs := moveJob pool.jobs jobId next } issue +
        (pool.shared.compared.count issue + if comparing job.phase = some issue then 1 else 0) =
      spentOn pool issue +
        (desk.compared.count issue + if comparing next = some issue then 1 else 0) := by
  have moved : ((moveJob pool.jobs jobId next).select fun job =>
        comparing job.phase = some issue).length +
          (if comparing job.phase = some issue then 1 else 0) =
      (pool.jobs.select fun job => comparing job.phase = some issue).length +
        if comparing next = some issue then 1 else 0 :=
    length_select_moveJob (fun phase => comparing phase = some issue) found
  simp only [spentOn]
  omega

theorem spentOn_uncompared {jobId : Nat} {job : Job PhonePhase}
    (found : pool.jobs.find jobId = some job) {desk : PhoneDesk} {next : PhonePhase}
    (compared : desk.compared = pool.shared.compared) (uncompared : comparing next = none)
    (issue : Nat) :
    spentOn { shared := desk, jobs := moveJob pool.jobs jobId next } issue ≤
      spentOn pool issue := by
  have moved := spentOn_moveJob found desk next issue
  simp only [compared, uncompared, reduceCtorEq, if_false] at moved
  omega

/-- A comparison was claimed before. -/
theorem spentOn_compared {jobId : Nat} {job : Job PhonePhase}
    (found : pool.jobs.find jobId = some job) {number : Nat}
    (comparing_number : comparing job.phase = some number) {desk : PhoneDesk} {next : PhonePhase}
    (compared : desk.compared = number :: pool.shared.compared) (uncompared : comparing next = none)
    (issue : Nat) :
    spentOn { shared := desk, jobs := moveJob pool.jobs jobId next } issue ≤
      spentOn pool issue := by
  have moved := spentOn_moveJob found desk next issue
  simp only [compared, comparing_number, uncompared, List.count_cons, beq_iff_eq, Option.some.injEq,
    reduceCtorEq, if_false] at moved
  omega

theorem GuessesSound.advance (sound : GuessesSound config pool) {jobId : Nat} {job : Job PhonePhase}
    (found : pool.jobs.find jobId = some job) {desk : PhoneDesk} {next : PhonePhase}
    (step : PhoneStep config sha256 pool.shared job.phase desk next) :
    GuessesSound config { shared := desk, jobs := moveJob pool.jobs jobId next } := by
  obtain ⟨id, phase⟩ := job
  cases step with
  | quiet uncompared =>
    exact sound.of_le (spentOn_uncompared found rfl uncompared) rfl fun held => ⟨held, le_rfl⟩
  | @texts _ event row reply written =>
    obtain ⟨_, _, fresh, _⟩ := startPhoneChange_eq_some written
    have fewer (issue : Nat) : spentOn
        { shared := { pool.shared with row, outbox := event :: pool.shared.outbox }
          jobs := moveJob pool.jobs jobId (.done reply) } issue ≤ spentOn pool issue :=
      spentOn_uncompared found rfl rfl issue
    have none_spent (issue : Nat) (later : pool.shared.outbox.length < issue) :
        spentOn _ issue = 0 := Nat.le_zero.mp ((fewer issue).trans (sound.unissued issue later).le)
    refine ⟨fun issue => (fewer issue).trans (sound.limited issue), fun _ => ?_,
      fun issue later => ?_⟩
    · exact (none_spent _ (Nat.lt_succ_self _)).trans_le (Nat.zero_le _)
    · exact none_spent issue ((Nat.lt_succ_self _).trans later)
  | @claims code row challenge claimed =>
    obtain ⟨taken, allowed, rfl⟩ := claimPhoneCodeAttempt_some claimed
    have held : pool.shared.row.phoneCodeHash ≠ none := by simp [taken.codeHash]
    have covered := sound.covered held
    have spent (issue : Nat) := spentOn_moveJob found
      { pool.shared with
        row := { pool.shared.row with
          phoneCodeAttempts := pool.shared.row.phoneCodeAttempts + 1 } }
      (.compare code challenge pool.shared.outbox.length) issue
    simp only [comparing, reduceCtorEq, if_false, Option.some.injEq] at spent
    refine ⟨fun issue => ?_, fun _ => ?_, fun issue later => ?_⟩
    · have limited := sound.limited issue
      have spent := spent issue
      split at spent
      next same =>
        subst same
        omega
      · omega
    · have spent := spent pool.shared.outbox.length
      rw [if_pos rfl] at spent
      simp only
      omega
    · have spent := spent issue
      have none_spent := sound.unissued issue later
      have apart : pool.shared.outbox.length ≠ issue := Nat.ne_of_lt later
      rw [if_neg apart] at spent
      omega
  | spends claimed =>
    obtain ⟨attempts, more, rfl⟩ := claimPhoneCodeAttempt_row claimed
    exact sound.of_le (spentOn_uncompared found rfl rfl) rfl fun held => ⟨held, more⟩
  | misses =>
    exact sound.of_le (spentOn_compared found rfl rfl rfl) rfl fun held => ⟨held, le_rfl⟩
  | hits =>
    exact sound.of_le (spentOn_compared found rfl rfl rfl) rfl fun held => ⟨held, le_rfl⟩
  | promotes promoted =>
    obtain ⟨_, _, _, gone⟩ := promotePhone_eq_some promoted
    exact sound.of_le (spentOn_uncompared found rfl rfl) rfl fun held => absurd gone held
  | clears cleared =>
    obtain ⟨_, _, gone⟩ := clearPhone_eq_some cleared
    exact sound.of_le (spentOn_uncompared found rfl rfl) rfl fun held => absurd gone held

theorem GuessesSound.serve (sound : GuessesSound config pool) (turn : PhoneTurn) :
    GuessesSound config ((phoneVerification config sha256).serve pool turn) := by
  cases turn with
  | receive request =>
    refine sound.of_le (fun issue => ?_) rfl fun held => ⟨held, le_rfl⟩
    have unready : comparing (openPhone request) ≠ some issue := by
      cases request with
      | request | confirm | remove => simp [openPhone, comparing]
    have same : ((pool.jobs.insert fun id => { id, phase := openPhone request }).select fun job =>
          comparing job.phase = some issue).length =
        (pool.jobs.select fun job => comparing job.phase = some issue).length + 0 := by
      rw [Table.length_select_insert, if_neg unready]
    exact (congrArg (pool.shared.compared.count issue + ·) same).le
  | advance jobId answers =>
    cases found : pool.jobs.find jobId with
    | none =>
      rw [serve_missing found]
      exact sound
    | some job =>
      rw [serve_advance found]
      exact sound.advance found (phoneStep rfl)
  | crash jobId =>
    cases found : pool.jobs.find jobId with
    | none =>
      refine sound.of_le (fun issue => ?_) rfl fun held => ⟨held, le_rfl⟩
      simp [Handler.serve, moveJob_missing found, spentOn]
    | some job =>
      exact sound.of_le (spentOn_uncompared found rfl rfl) rfl fun held => ⟨held, le_rfl⟩
  | outside event =>
    cases event with
    | tick | delete | rename =>
      exact sound.of_le (fun _ => le_rfl) rfl fun held => ⟨held, le_rfl⟩

theorem guessesSound_fresh (config : PhoneConfig) {start : PhonePool} (fresh : Unasked start) :
    GuessesSound config start := by
  have spent (issue : Nat) : spentOn start issue = 0 := by
    simp [spentOn, fresh.compared, Table.select, fresh.idle]
  refine ⟨fun issue => ?_, fun held => ?_, fun issue _ => spent issue⟩
  · rw [spent]
    exact Nat.zero_le _
  · rw [← fresh.unheld] at held
    exact absurd rfl held

theorem compared_limited {start : PhonePool} (fresh : Unasked start) (turns : List PhoneTurn)
    (issue : Nat) :
    (run (phoneVerification config sha256).serve start turns).shared.compared.count issue ≤
      config.maxAttempts := by
  have keeps (pool : PhonePool) (turn : PhoneTurn) (sound : GuessesSound config pool) :
      GuessesSound config ((phoneVerification config sha256).serve pool turn) := sound.serve turn
  have sound := run_invariant_always keeps turns (guessesSound_fresh config fresh)
  exact (Nat.le_add_right _ _).trans (sound.limited issue)

end Guesses

/-! ## A number that is removed -/

section Removed

variable {config : PhoneConfig} {sha256 : String → String} {pool : PhonePool}

/-- The number is neither the user's nor held for them. -/
def IsGone (number : String) (row : PhoneRow) : Prop :=
  row.phone ≠ some number ∧ row.pendingPhone ≠ some number

theorem isGone_of_removes {turn : PhoneTurn} (removes : RemovesPhone pool turn) (number : String) :
    IsGone number ((phoneVerification config sha256).serve pool turn).shared.row := by
  obtain ⟨jobId, answers, rfl, ⟨id, phase⟩, found, rfl, live⟩ := removes
  rw [serve_advance found]
  simp [phoneVerification, actOnPhone, clearPhone, live, IsGone, NO_PHONE_CHALLENGE]

/-- A number that is gone comes back when a request for it writes. -/
theorem requestWritten_of_back {turn : PhoneTurn} {number : String}
    (sends : ∀ job ∈ pool.jobs, SendsItsCode sha256 job.phase)
    (gone : IsGone number pool.shared.row)
    (back : ¬ IsGone number ((phoneVerification config sha256).serve pool turn).shared.row) :
    RequestWritten pool turn number := by
  rcases phoneTurn_cases config sha256 pool turn with
    leaves | ⟨jobId, answers, id, phase, _, advances, found, step⟩
  · simp only [IsGone, leaves.phone, leaves.pendingPhone] at back
    exact absurd gone back
  generalize ((phoneVerification config sha256).serve pool turn).shared = after at step back
  cases step with
  | quiet | misses | hits => exact absurd gone back
  | @texts challenge event _ _ written =>
    obtain ⟨live, holds, _, phone, _⟩ := startPhoneChange_eq_some written
    obtain rfl := sends _ (Table.find_eq_some.mp found).1 challenge event rfl
    refine ⟨jobId, answers, advances, _, found, _, event, rfl, ?_, live⟩
    by_contra other
    refine back ⟨phone ▸ gone.1, fun pending => other ?_⟩
    exact Option.some.inj (holds.pendingPhone.symm.trans pending)
  | claims claimed | spends claimed =>
    obtain ⟨attempts, _, rfl⟩ := claimPhoneCodeAttempt_row claimed
    exact absurd gone back
  | promotes promoted =>
    obtain ⟨held, phone, pending, _⟩ := promotePhone_eq_some promoted
    refine absurd ⟨fun there => gone.2 ?_, by simp [pending]⟩ back
    exact held.trans (phone.symm.trans there)
  | clears cleared =>
    obtain ⟨phone, pending, _⟩ := clearPhone_eq_some cleared
    exact absurd ⟨by simp [phone], by simp [pending]⟩ back

end Removed

/-- Only a proven number is promoted, no code is tried more often than allowed, and a removed
number comes back only after a request for it wrote. -/
theorem onlyProven_written (config : PhoneConfig) (sha256 : String → String)
    (distinct : Function.Injective sha256) (start : PhonePool) (fresh : Unasked start)
    (turns : List PhoneTurn) :
    OnlyProven config sha256 RequestWritten start turns where
  proven := by
    intro first turn rest number _ becomes
    obtain ⟨jobId, answers, rfl, job, found, promotes⟩ := verifiedPhone_serve becomes
    obtain ⟨stored, named⟩ := Table.find_eq_some.mp found
    obtain ⟨early, earlier, late, cut, presents⟩ :=
      presents_of_promoting distinct fresh first stored promotes
    have named : job.id = jobId := named
    rw [named] at cut presents
    exact ⟨jobId, answers, early, earlier, late, rfl, cut, presents⟩
  counted := fun job stored => ((sent_run config sha256 fresh turns).jobs job stored).compares
  limited := compared_limited fresh turns
  removed := by
    intro first turn rest number cut removes there
    subst cut
    rw [run_append, run_cons] at there
    let isBack (pool : PhonePool) : Prop := ¬ IsGone number pool.shared.row
    have gone : ¬ isBack ((phoneVerification config sha256).serve
        (run (phoneVerification config sha256).serve start first) turn) :=
      not_not_intro (isGone_of_removes removes number)
    have back : isBack (run (phoneVerification config sha256).serve ((phoneVerification config
        sha256).serve (run (phoneVerification config sha256).serve start first) turn) rest) :=
      fun gone => gone.1 there
    obtain ⟨before, again, after, cut, still, returns⟩ := exists_step_of_run gone back
    rw [← run_cons, ← run_append] at still returns
    have sends := fun job stored =>
      ((sent_run config sha256 fresh (first ++ turn :: before)).jobs job stored).sends
    exact ⟨before, again, after, cut, requestWritten_of_back sends (not_not.mp still) returns⟩

/-! ## A request under way -/

/-- A user without a number. -/
def newcomer : PhonePool where
  shared := { clock := 0, row := { name := "Ann" }, outbox := [], compared := [] }
  jobs := Table.empty

def fiveTries : PhoneConfig where
  codeTtlSeconds := 600
  maxAttempts := 5
  ttl_pos := by decide
  max_pos := by decide

def draws (number : Fin 1000000) : PhoneAnswers := { throttled := none, drawn := number }

/-- A call's next steps. -/
def nextSteps (jobId many : Nat) (number : Fin 1000000) : List PhoneTurn :=
  List.replicate many (.advance jobId (draws number))

/-- The number is asked for twice; the first code verifies it, and the second request writes only
when the number has been removed again. -/
def askedTwice : List PhoneTurn :=
  .receive (.request "081 234 5678") :: nextSteps 0 3 1 ++
    [.outside (.tick 61000), .receive (.request "081 234 5678")] ++ nextSteps 1 2 2 ++
    .receive (.confirm "000001") :: nextSteps 2 3 0 ++ [.receive .remove]

/-- What is left to do when the number is removed. -/
def secondCode : List PhoneTurn :=
  nextSteps 1 1 2 ++ .receive (.confirm "000002") :: nextSteps 4 3 0

theorem underway_comesBack : ¬ ∀ (config : PhoneConfig) (sha256 : String → String),
    Function.Injective sha256 → ∀ start : PhonePool, Unasked start → ∀ turns : List PhoneTurn,
      OnlyProven config sha256 RequestMade start turns := by
  intro proven
  have met := proven fiveTries id Function.injective_id newcomer ⟨rfl, rfl, rfl⟩
    (askedTwice ++ .advance 3 (draws 0) :: secondCode)
  obtain ⟨before, again, after, cut, phone, made, _⟩ := met.removed askedTwice _ secondCode
    "+66812345678" rfl ⟨3, _, rfl, ⟨3, .clearPhone⟩, by decide +kernel⟩ (by decide +kernel)
  have asked : again ∈ secondCode := cut ▸ by simp
  rw [made] at asked
  simp [secondCode, nextSteps] at asked

/-- The newcomer's number, verified twice and removed in between. -/
theorem onlyProven_askedTwice : OnlyProven fiveTries id RequestWritten newcomer
    (askedTwice ++ .advance 3 (draws 0) :: secondCode) :=
  onlyProven_written fiveTries id Function.injective_id newcomer ⟨rfl, rfl, rfl⟩ _

end EventaApi.Guarantees
