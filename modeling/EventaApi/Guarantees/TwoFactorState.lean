import EventaApi.Source.TwoFactor

/-!
# Two-factor state

The flag on the user and the enrolment row are written together, but each request reads
the row first and writes by its id or its user's afterwards. They agree, and a confirmed
seed was proven, as long as no enrolment is restarted or replaced between the two. A
recovery code is spent once, and only while its set is the latest.
-/
namespace EventaApi.Guarantees
open Library Source

/-! ## What is asked of two-factor -/

abbrev TwoFactorPool := Pool TwoFactorDesk TwoFactorPhase

abbrev TwoFactorTurn := PoolTurn TwoFactorRequest Minted Instant

/-- Whose request it is. -/
def TwoFactorRequest.userId : TwoFactorRequest → Nat
  | .start auth | .confirm auth _ | .disable auth _ | .regenerate auth _ => auth.userId
  | .verify _ userId _ => userId

/-- Whose request is in flight. -/
def TwoFactorPhase.inFlightFor : TwoFactorPhase → Option Nat
  | .load request => some (TwoFactorRequest.userId request)
  | .upsert auth | .confirm auth _ _ _ | .spendToDisable auth _ _ | .disable auth _ | .notify auth
  | .regenerate auth _ => some auth.userId
  | .spend userId _ _ => some userId
  | .done _ => none

/-- No request of this user is in flight. -/
def Unattended (pool : TwoFactorPool) (userId : Nat) : Prop :=
  ∀ job ∈ pool.jobs.rows, TwoFactorPhase.inFlightFor job.phase ≠ some userId

instance (pool : TwoFactorPool) (userId : Nat) : Decidable (Unattended pool userId) :=
  inferInstanceAs (Decidable (∀ _ ∈ _, _))

/-- The user has a confirmed enrolment. -/
def Enrolled (desk : TwoFactorDesk) (userId : Nat) : Prop :=
  ∃ row ∈ desk.twoFactors.rows, row.userId = userId ∧ row.confirmedAt ≠ none

instance (desk : TwoFactorDesk) (userId : Nat) : Decidable (Enrolled desk userId) :=
  inferInstanceAs (Decidable (∃ _ ∈ _, _))

/-- The user's flag says whether there is a confirmed enrolment. -/
def FlagAgrees (desk : TwoFactorDesk) (userId : Nat) : Prop :=
  ∀ user ∈ desk.users.rows, user.id = userId →
    (user.twoFactorEnabled = true ↔ Enrolled desk userId)

instance (desk : TwoFactorDesk) (userId : Nat) : Decidable (FlagAgrees desk userId) :=
  inferInstanceAs (Decidable (∀ _ ∈ _, _))

section Asked

variable (crypto : TwoFactorCrypto)

/-- The enrolment and the recovery code a step is about to spend a code with. -/
def TwoFactorPhase.spending : TwoFactorPhase → Option (TwoFactor × String)
  | .spendToDisable _ row code | .spend _ row code => some (row, crypto.hashCode code)
  | _ => none

/-- The turn accepts this recovery code. -/
def AcceptsCode (codeId : Nat) (pool : TwoFactorPool) : TwoFactorTurn → Prop
  | .advance jobId _ => ∃ job ∈ pool.jobs.find jobId,
    ∃ spending ∈ TwoFactorPhase.spending crypto job.phase,
      ∃ row ∈ pool.shared.recoveryCodes.find codeId, Spendable spending.1.id spending.2 row
  | _ => False

/-- The user and the enrolment a step is about to issue a set of codes for. -/
def TwoFactorPhase.issuing : TwoFactorPhase → Option (Nat × TwoFactor)
  | .confirm auth row _ _ | .regenerate auth row => some (auth.userId, row)
  | _ => none

/-- The turn issues this user a set of recovery codes. -/
def Issues (userId : Nat) (pool : TwoFactorPool) : TwoFactorTurn → Prop
  | .advance jobId minted => (∃ job ∈ pool.jobs.find jobId,
      ∃ issuing ∈ TwoFactorPhase.issuing job.phase, issuing.1 = userId) ∧
    pool.shared.recoveryCodes.next <
      ((twoFactorRequests crypto).serve pool (.advance jobId minted)).shared.recoveryCodes.next
  | _ => False

/-- The turn issues a set to the user whose code this is. -/
def Replaces (codeId : Nat) (pool : TwoFactorPool) (turn : TwoFactorTurn) : Prop :=
  ∃ code ∈ pool.shared.recoveryCodes.find codeId,
    ∃ row ∈ pool.shared.twoFactors.find code.twoFactorId, Issues crypto row.userId pool turn

/-- The enrolment is confirmed, with this seed. -/
def StandsConfirmed (row : TwoFactor) (desk : TwoFactorDesk) : Prop :=
  ∃ now ∈ desk.twoFactors, now.id = row.id ∧ now.userId = row.userId ∧ now.secret = row.secret ∧
    now.confirmedAt ≠ none

/-- The turn is the write of a confirm that was given a valid code for the enrolment's seed. -/
def ProvesSeed (row : TwoFactor) (pool : TwoFactorPool) : TwoFactorTurn → Prop
  | .advance jobId _ => ∃ job ∈ pool.jobs.find jobId, ∃ auth read code checkedAt,
    job.phase = .confirm auth read code checkedAt ∧ auth.userId = row.userId ∧ read.id = row.id ∧
      verifyTotp crypto row.secret code checkedAt = true
  | _ => False

/-- The confirm that enabled the enrolment as it stands was given a valid code for its seed. -/
def Proven (start : TwoFactorPool) (turns : List TwoFactorTurn) (row : TwoFactor) : Prop :=
  ∃ before turn rest, turns = before ++ turn :: rest ∧
    ProvesSeed crypto row (run (twoFactorRequests crypto).serve start before) turn ∧
    Throughout (twoFactorRequests crypto).serve (fun pool => StandsConfirmed row pool.shared)
      ((twoFactorRequests crypto).serve (run (twoFactorRequests crypto).serve start before) turn)
      rest

structure TwoFactorConsistent (start : TwoFactorPool) (turns : List TwoFactorTurn) : Prop where
  agrees : Throughout (twoFactorRequests crypto).serve
    (fun pool => ∀ userId, Unattended pool userId → FlagAgrees pool.shared userId) start turns
  proven : ∀ first, first <+: turns →
    ∀ row ∈ (run (twoFactorRequests crypto).serve start first).shared.twoFactors,
      row.confirmedAt ≠ none → Proven crypto start first row
  once : ∀ codeId, NeverAfter (twoFactorRequests crypto).serve (AcceptsCode crypto codeId)
    (AcceptsCode crypto codeId) start turns
  latest : ∀ codeId, NeverAfter (twoFactorRequests crypto).serve (Replaces crypto codeId)
    (AcceptsCode crypto codeId) start turns

end Asked

/-- The enrolment is what the request read: not confirmed yet when it is restarted, with the seed
its code was checked against when it is confirmed, and no other one when it is disabled. -/
def asRead (desk : TwoFactorDesk) (_ : Minted) : TwoFactorPhase → Prop
  | .upsert auth => ¬ Enrolled desk auth.userId
  | .confirm _ read _ _ => ∀ row ∈ desk.twoFactors.find read.id, row.secret = read.secret
  | .disable auth read => ∀ row ∈ desk.twoFactors.rows,
    row.userId = auth.userId → row.confirmedAt ≠ none → row.id = read.id
  | _ => True

instance (desk : TwoFactorDesk) (minted : Minted) :
    (phase : TwoFactorPhase) → Decidable (asRead desk minted phase)
  | .upsert _ => inferInstanceAs (Decidable (¬ _))
  | .confirm _ _ _ _ => inferInstanceAs (Decidable (∀ _ ∈ _, _))
  | .disable _ _ => inferInstanceAs (Decidable (∀ _ ∈ _, _))
  | .load _ | .spendToDisable _ _ _ | .notify _ | .regenerate _ _ | .spend _ _ _ | .done _ =>
    isTrue trivial

def WritesAsRead : TwoFactorPool → TwoFactorTurn → Prop :=
  Handler.Guarded asRead fun _ _ => True

instance (pool : TwoFactorPool) (turn : TwoFactorTurn) : Decidable (WritesAsRead pool turn) :=
  inferInstanceAs (Decidable (Handler.Guarded _ _ pool turn))

/-- Nobody has started two-factor yet. -/
structure Unenrolled (pool : TwoFactorPool) : Prop where
  jobs : pool.jobs.rows = []
  twoFactors : pool.shared.twoFactors.rows = []
  flags : ∀ user ∈ pool.shared.users.rows, user.twoFactorEnabled = false

/-! ## What a step does -/

section Steps

variable {crypto : TwoFactorCrypto} {desk after : TwoFactorDesk}

/-- The user a request acts for and the enrolment it has read. -/
def TwoFactorPhase.read : TwoFactorPhase → Option (Nat × TwoFactor)
  | .confirm auth row _ _ | .spendToDisable auth row _ | .disable auth row
  | .regenerate auth row => some (auth.userId, row)
  | .spend userId row _ => some (userId, row)
  | _ => none

/-- A confirm goes on only with a code that was valid for the seed it read. -/
def CodeChecked (crypto : TwoFactorCrypto) : TwoFactorPhase → Prop
  | .confirm _ row code checkedAt => verifyTotp crypto row.secret code checkedAt = true
  | _ => True

/-- Everything a step of a request can be. -/
inductive TwoFactorActs (crypto : TwoFactorCrypto) (desk : TwoFactorDesk) :
    TwoFactorPhase → TwoFactorDesk → TwoFactorPhase → Prop
  | quiet {phase next : TwoFactorPhase} (unread : TwoFactorPhase.read next = none) :
      TwoFactorActs crypto desk phase desk next
  | loaded {request : TwoFactorRequest} {userId : Nat} {row : TwoFactor} {next : TwoFactorPhase}
      (found : findTwoFactor desk userId = some row)
      (read : TwoFactorPhase.read next = some (userId, row)) (checked : CodeChecked crypto next) :
      TwoFactorActs crypto desk (.load request) desk next
  | upserted {auth : AuthContext} {secret : String} {reply : TwoFactorReply} :
      TwoFactorActs crypto desk (.upsert auth) (upsertPending desk auth.userId secret) (.done reply)
  | confirmed {auth : AuthContext} {row : TwoFactor} {code : String} {checkedAt now : Instant}
      {hashes : List String} {after : TwoFactorDesk} {reply : TwoFactorReply}
      (made : confirmTwoFactor desk auth.userId row.id hashes now = some after) :
      TwoFactorActs crypto desk (.confirm auth row code checkedAt) after (.done reply)
  | regenerated {auth : AuthContext} {row : TwoFactor} {hashes : List String}
      {after : TwoFactorDesk} {reply : TwoFactorReply}
      (made : replaceRecoveryCodes desk row.id hashes = some after) :
      TwoFactorActs crypto desk (.regenerate auth row) after (.done reply)
  | spent {phase next : TwoFactorPhase} {userId : Nat} {row : TwoFactor} {codeHash : String}
      (spending : TwoFactorPhase.spending crypto phase = some (row, codeHash))
      (read : TwoFactorPhase.read phase = some (userId, row))
      (goesOn : TwoFactorPhase.read next = none ∨ TwoFactorPhase.read next = some (userId, row))
      (checked : CodeChecked crypto next) :
      TwoFactorActs crypto desk phase (consumeRecoveryCode desk row.id codeHash).1 next
  | disabled {auth : AuthContext} {row : TwoFactor} :
      TwoFactorActs crypto desk (.disable auth row) (disableTwoFactor desk auth.userId row.id)
        (.notify auth)
  | notified {auth : AuthContext} {outbox : List TwoFactorMail} {reply : TwoFactorReply} :
      TwoFactorActs crypto desk (.notify auth) { desk with outbox } (.done reply)

theorem twoFactor_cases (crypto : TwoFactorCrypto) (desk : TwoFactorDesk) (minted : Minted)
    (phase : TwoFactorPhase) :
    TwoFactorActs crypto desk phase (actOnTwoFactor crypto desk minted phase).1
      (actOnTwoFactor crypto desk minted phase).2 := by
  cases phase with
  | load request =>
    cases request with
    | start auth =>
      refine .quiet ?_
      simp only [actOnTwoFactor, loadTwoFactor]
      cases findTwoFactor desk auth.userId with
      | none => rfl
      | some row =>
        simp only [afterStart]
        split <;> rfl
    | confirm auth code =>
      simp only [actOnTwoFactor, loadTwoFactor]
      cases found : findTwoFactor desk auth.userId with
      | none => exact .quiet rfl
      | some row =>
        simp only [afterConfirm]
        split
        · exact .quiet rfl
        · split
          next valid => exact .loaded found rfl valid
          next => exact .quiet rfl
    | disable auth code =>
      simp only [actOnTwoFactor, loadTwoFactor]
      cases found : findTwoFactor desk auth.userId with
      | none => exact .quiet rfl
      | some row =>
        simp only [afterDisable]
        split
        · exact .quiet rfl
        · split
          · exact .loaded found rfl trivial
          · exact .loaded found rfl trivial
    | regenerate auth code =>
      simp only [actOnTwoFactor, loadTwoFactor]
      cases found : findTwoFactor desk auth.userId with
      | none => exact .quiet rfl
      | some row =>
        simp only [afterRegenerate]
        split
        · exact .quiet rfl
        · split
          · exact .loaded found rfl trivial
          · exact .quiet rfl
    | verify organizationId userId code =>
      simp only [actOnTwoFactor, loadTwoFactor]
      cases found : findTwoFactor desk userId with
      | none => exact .quiet rfl
      | some row =>
        simp only [afterVerify]
        split
        · exact .quiet rfl
        · split
          · exact .quiet rfl
          · exact .loaded found rfl trivial
  | upsert auth => exact .upserted
  | confirm auth row code checkedAt =>
    simp only [actOnTwoFactor]
    cases made : confirmTwoFactor desk auth.userId row.id
        ((List.ofFn minted.codes).map crypto.hashCode) desk.clock with
    | none => exact .quiet rfl
    | some after => exact .confirmed made
  | spendToDisable auth row code =>
    refine .spent rfl rfl ?_ ?_
    · simp only [actOnTwoFactor]
      split
      · exact Or.inr rfl
      · exact Or.inl rfl
    · simp only [actOnTwoFactor]
      split <;> trivial
  | disable auth row => exact .disabled
  | notify auth =>
    simp only [actOnTwoFactor]
    split
    · exact .notified
    · exact .quiet rfl
  | regenerate auth row =>
    simp only [actOnTwoFactor]
    cases made : replaceRecoveryCodes desk row.id
        ((List.ofFn minted.codes).map crypto.hashCode) with
    | none => exact .quiet rfl
    | some after => exact .regenerated made
  | spend userId row code => exact .spent rfl rfl (Or.inl rfl) trivial
  | done reply => exact .quiet rfl

/-! ### What a step leaves of the rows -/

/-- An enrolment keeps its user, and a code that was used stays used. -/
structure Moves (desk after : TwoFactorDesk) : Prop where
  twoFactors : Table.Descends (fun old row => old.userId = row.userId) desk.twoFactors
    after.twoFactors
  codes : Table.Descends (fun old row => old.usedAt ≠ none → row.usedAt ≠ none)
    desk.recoveryCodes after.recoveryCodes

theorem Moves.of_same (twoFactors : after.twoFactors = desk.twoFactors)
    (codes : after.recoveryCodes = desk.recoveryCodes) : Moves desk after where
  twoFactors := .of_eq twoFactors fun _ => rfl
  codes := .of_eq codes fun _ used => used

theorem upsert_moves {userId : Nat} {secret : String} :
    Moves desk (upsertPending desk userId secret) where
  twoFactors := by
    unfold upsertPending
    split
    · exact .insert fun _ => rfl
    · exact .update (fun _ => rfl) fun _ _ _ => rfl
  codes := .of_eq rfl fun _ used => used

/-- A set that was issued took the place of the enrolment's old one. -/
theorem replaceRecoveryCodes_some {twoFactorId : Nat} {hashes : List String}
    (made : replaceRecoveryCodes desk twoFactorId hashes = some after) :
    (desk.twoFactors.find twoFactorId).isSome ∧ after.users = desk.users ∧
      after.twoFactors = desk.twoFactors ∧
      after.recoveryCodes =
        (desk.recoveryCodes.delete fun row => row.twoFactorId = twoFactorId).insertEach hashes
          fun codeHash id => { id, twoFactorId, codeHash, usedAt := none } := by
  unfold replaceRecoveryCodes at made
  split at made
  next fits =>
    cases made
    exact ⟨fits.1, rfl, rfl, rfl⟩
  next => cases made

theorem replaced_descends {twoFactorId : Nat} {hashes : List String} :
    Table.Descends (fun old row : RecoveryCode => old.usedAt ≠ none → row.usedAt ≠ none)
      desk.recoveryCodes
      ((desk.recoveryCodes.delete fun row => row.twoFactorId = twoFactorId).insertEach hashes
        fun codeHash id => { id, twoFactorId, codeHash, usedAt := none }) :=
  Table.Descends.trans (.delete fun _ used => used) (.insertEach fun _ used => used)
    fun _ _ _ first second used => second (first used)

/-- What confirming an enrolment comes to. -/
theorem confirmTwoFactor_some {userId twoFactorId : Nat} {hashes : List String} {now : Instant}
    (made : confirmTwoFactor desk userId twoFactorId hashes now = some after) :
    (desk.twoFactors.find twoFactorId).isSome ∧
      after.users = desk.users.update (fun row => row.id = userId) (flagged true) ∧
      after.twoFactors =
        desk.twoFactors.update (fun row => row.id = twoFactorId) (confirmedRow now) ∧
      after.recoveryCodes =
        (desk.recoveryCodes.delete fun row => row.twoFactorId = twoFactorId).insertEach hashes
          fun codeHash id => { id, twoFactorId, codeHash, usedAt := none } := by
  obtain ⟨there, users, twoFactors, codes⟩ := replaceRecoveryCodes_some made
  exact ⟨by simpa using there, users, twoFactors, codes⟩

theorem acts_moves {phase next : TwoFactorPhase}
    (acts : TwoFactorActs crypto desk phase after next) : Moves desk after := by
  cases acts with
  | quiet | loaded | notified => exact .of_same rfl rfl
  | upserted => exact upsert_moves
  | confirmed made =>
    obtain ⟨_, _, twoFactors, codes⟩ := confirmTwoFactor_some made
    refine ⟨?_, ?_⟩
    · rw [twoFactors]
      exact .update (fun _ => rfl) fun _ _ _ => rfl
    · rw [codes]
      exact replaced_descends
  | regenerated made =>
    obtain ⟨_, _, twoFactors, codes⟩ := replaceRecoveryCodes_some made
    refine ⟨.of_eq twoFactors fun _ => rfl, ?_⟩
    rw [codes]
    exact replaced_descends
  | spent =>
    refine ⟨.of_eq rfl fun _ => rfl, .update (fun _ used => used) ?_⟩
    exact fun _ _ _ _ spent => by cases spent
  | disabled => exact ⟨.delete fun _ => rfl, .delete fun _ used => used⟩

theorem turn_moves (pool : TwoFactorPool) (turn : TwoFactorTurn) :
    Moves pool.shared ((twoFactorRequests crypto).serve pool turn).shared :=
  Handler.serve_shared (.of_same rfl rfl)
    (fun job _ minted => acts_moves (twoFactor_cases crypto pool.shared minted job.phase))
    (fun _ => .of_same rfl rfl) turn

/-! ### Recovery codes -/

/-- The code was issued, and is used or gone. -/
def Finished (codeId : Nat) (desk : TwoFactorDesk) : Prop :=
  codeId < desk.recoveryCodes.next ∧
    ∀ code, desk.recoveryCodes.find codeId = some code → code.usedAt ≠ none

theorem finished_lasts {codeId : Nat} (moves : Moves desk after) (finished : Finished codeId desk) :
    Finished codeId after := by
  obtain ⟨older, used⟩ := finished
  refine ⟨by have := moves.codes.next; omega, fun code found => ?_⟩
  obtain ⟨old, foundOld, stays⟩ := moves.codes.find older found
  exact stays (used old foundOld)

theorem finished_excludes {pool : TwoFactorPool} {turn : TwoFactorTurn} {codeId : Nat}
    (finished : Finished codeId pool.shared) : ¬ AcceptsCode crypto codeId pool turn := by
  intro accepts
  cases turn with
  | advance jobId minted =>
    obtain ⟨_, _, _, _, code, found, _, _, unused⟩ := accepts
    exact finished.2 code found unused
  | receive | crash | outside => exact accepts.elim

/-- A code that is accepted is used from then on. -/
theorem spent_finished {twoFactorId codeId : Nat} {codeHash : String} {code : RecoveryCode}
    (found : desk.recoveryCodes.find codeId = some code)
    (spendable : Spendable twoFactorId codeHash code) :
    Finished codeId (consumeRecoveryCode desk twoFactorId codeHash).1 := by
  obtain ⟨stored, named⟩ := Table.find_eq_some.mp found
  refine ⟨?_, fun new foundNew => ?_⟩
  · have issued := Table.key_lt_next stored
    simp only [consumeRecoveryCode, Table.next_update]
    omega
  · rw [consumeRecoveryCode, Table.find_update, found, Option.map_some, if_pos spendable] at foundNew
    cases foundNew
    simp

/-- A code is gone once a new set is issued for its enrolment. -/
theorem replaced_finished {twoFactorId codeId : Nat} {hashes : List String} {code : RecoveryCode}
    (found : desk.recoveryCodes.find codeId = some code) (belongs : code.twoFactorId = twoFactorId)
    (codes : after.recoveryCodes =
      (desk.recoveryCodes.delete fun row => row.twoFactorId = twoFactorId).insertEach hashes
        fun codeHash id => { id, twoFactorId, codeHash, usedAt := none }) :
    Finished codeId after := by
  obtain ⟨stored, rfl⟩ := Table.find_eq_some.mp found
  have issued := Table.key_lt_next stored
  refine ⟨?_, fun new foundNew => ?_⟩
  · rw [codes, Table.next_insertEach, Table.next_delete]
    omega
  · obtain ⟨newIn, same⟩ := Table.find_eq_some.mp foundNew
    rw [codes] at newIn
    rcases Table.mem_insertEach.mp newIn with kept | ⟨index, _, rfl⟩
    · obtain ⟨old, apart⟩ := Table.mem_delete.mp kept
      exact absurd (Table.eq_of_key old stored same ▸ belongs) apart
    · simp only [Keyed.key, Table.next_delete] at same issued
      omega

/-! ### Flags and enrolments -/

/-- A user has one enrolment at most, and the flags agree with them. -/
structure Agreeing (desk : TwoFactorDesk) : Prop where
  one : ∀ left ∈ desk.twoFactors, ∀ right ∈ desk.twoFactors, left.userId = right.userId →
    left = right
  flags : ∀ userId, FlagAgrees desk userId

/-- The enrolment a request read is this user's, as long as it is there. -/
def Own (desk : TwoFactorDesk) (userId : Nat) (row : TwoFactor) : Prop :=
  row.id < desk.twoFactors.next ∧
    ∀ stored, desk.twoFactors.find row.id = some stored → stored.userId = userId

/-- What a request goes on with. -/
structure Informed (crypto : TwoFactorCrypto) (desk : TwoFactorDesk) (phase : TwoFactorPhase) :
    Prop where
  checked : CodeChecked crypto phase
  own : ∀ userId row, TwoFactorPhase.read phase = some (userId, row) → Own desk userId row

theorem own_moves {userId : Nat} {row : TwoFactor} (moves : Moves desk after)
    (own : Own desk userId row) : Own after userId row := by
  refine ⟨by have := moves.twoFactors.next; have := own.1; omega, fun stored found => ?_⟩
  obtain ⟨old, foundOld, same⟩ := moves.twoFactors.find own.1 found
  exact same.symm.trans (own.2 old foundOld)

theorem Informed.moves {phase : TwoFactorPhase} (moves : Moves desk after)
    (informed : Informed crypto desk phase) : Informed crypto after phase :=
  ⟨informed.checked, fun userId row read => own_moves moves (informed.own userId row read)⟩

theorem informed_unread {phase : TwoFactorPhase} (unread : TwoFactorPhase.read phase = none) :
    Informed crypto desk phase := by
  refine ⟨?_, fun userId row read => ?_⟩
  · cases phase with
    | confirm => cases unread
    | _ => trivial
  · rw [unread] at read
    cases read

theorem findTwoFactor_some {userId : Nat} {row : TwoFactor}
    (found : findTwoFactor desk userId = some row) : row ∈ desk.twoFactors ∧ row.userId = userId :=
  Table.mem_select.mp (List.mem_of_mem_head? found)

theorem findTwoFactor_own {userId : Nat} {row : TwoFactor}
    (found : findTwoFactor desk userId = some row) : Own desk userId row := by
  obtain ⟨stored, mine⟩ := findTwoFactor_some found
  refine ⟨Table.key_lt_next stored, fun other foundOther => ?_⟩
  obtain ⟨otherIn, same⟩ := Table.find_eq_some.mp foundOther
  rw [Table.eq_of_key otherIn stored same]
  exact mine

theorem acts_informed {phase next : TwoFactorPhase} (informed : Informed crypto desk phase)
    (acts : TwoFactorActs crypto desk phase after next) : Informed crypto after next := by
  have moves := acts_moves acts
  cases acts with
  | quiet unread => exact informed_unread unread
  | loaded found read checked =>
    refine ⟨checked, fun userId row same => ?_⟩
    cases read.symm.trans same
    exact findTwoFactor_own found
  | upserted | confirmed | regenerated | disabled | notified => exact informed_unread rfl
  | spent _ read goesOn checked =>
    refine ⟨checked, fun userId row same => ?_⟩
    rcases goesOn with none | carried
    · rw [none] at same
      cases same
    · cases carried.symm.trans same
      exact own_moves moves (informed.own _ _ read)

/-- Restarting leaves the user one row, which is not confirmed, and everybody else's as it was. -/
theorem mem_upsertPending {userId : Nat} {secret : String} {row : TwoFactor} :
    row ∈ (upsertPending desk userId secret).twoFactors →
      (row.userId = userId ∧ row.confirmedAt = none) ∨
        (row.userId ≠ userId ∧ row ∈ desk.twoFactors) := by
  unfold upsertPending
  split
  next missing =>
    intro stored
    rcases Table.mem_insert.mp stored with old | rfl
    · refine Or.inr ⟨fun mine => ?_, old⟩
      have there : row ∈ desk.twoFactors.select fun other => other.userId = userId :=
        Table.mem_select.mpr ⟨old, mine⟩
      rw [List.head?_eq_none_iff.mp missing] at there
      exact absurd there List.not_mem_nil
    · exact Or.inl ⟨rfl, rfl⟩
  next =>
    intro stored
    rcases Table.mem_update_cases stored with ⟨old, oldIn, mine, rfl⟩ | ⟨oldIn, mine⟩
    · exact Or.inl ⟨mine, rfl⟩
    · exact Or.inr ⟨mine, oldIn⟩

theorem upsertPending_kept {userId : Nat} {secret : String} {row : TwoFactor}
    (stored : row ∈ desk.twoFactors) (other : row.userId ≠ userId) :
    row ∈ (upsertPending desk userId secret).twoFactors := by
  unfold upsertPending
  split
  · exact Table.mem_insert.mpr (Or.inl stored)
  · exact Table.mem_update_of_miss stored other

/-- No user has two rows. -/
def OneEach (twoFactors : Table TwoFactor) : Prop :=
  ∀ left ∈ twoFactors, ∀ right ∈ twoFactors, left.userId = right.userId → left = right

theorem oneEach_update {twoFactors : Table TwoFactor} {hit : TwoFactor → Prop} [DecidablePred hit]
    {write : TwoFactor → TwoFactor} {keeps : ∀ row, Keyed.key (write row) = Keyed.key row}
    (same : ∀ row, (write row).userId = row.userId) (one : OneEach twoFactors) :
    OneEach (twoFactors.update hit write keeps) := by
  intro left leftIn right rightIn together
  obtain ⟨oldLeft, leftStored, rfl⟩ := Table.mem_update.mp leftIn
  obtain ⟨oldRight, rightStored, rfl⟩ := Table.mem_update.mp rightIn
  have kept : ∀ row, (if hit row then write row else row).userId = row.userId := by
    intro row
    split
    · exact same row
    · rfl
  rw [kept, kept] at together
  rw [one oldLeft leftStored oldRight rightStored together]

theorem oneEach_upsert {userId : Nat} {secret : String} (one : OneEach desk.twoFactors) :
    OneEach (upsertPending desk userId secret).twoFactors := by
  unfold upsertPending
  split
  next missing =>
    have nobody : ∀ row ∈ desk.twoFactors, row.userId ≠ userId := by
      intro row stored mine
      have there : row ∈ desk.twoFactors.select fun other => other.userId = userId :=
        Table.mem_select.mpr ⟨stored, mine⟩
      rw [List.head?_eq_none_iff.mp missing] at there
      exact absurd there List.not_mem_nil
    intro left leftIn right rightIn together
    rcases Table.mem_insert.mp leftIn with old | rfl
    · rcases Table.mem_insert.mp rightIn with other | rfl
      · exact one left old right other together
      · exact absurd together (nobody left old)
    · rcases Table.mem_insert.mp rightIn with other | rfl
      · exact absurd together.symm (nobody right other)
      · rfl
  next => exact oneEach_update (fun _ => rfl) one

theorem enrolled_congr {userId : Nat}
    (same : ∀ row, row.userId = userId → (row ∈ after.twoFactors ↔ row ∈ desk.twoFactors)) :
    Enrolled after userId ↔ Enrolled desk userId := by
  constructor
  · rintro ⟨row, stored, mine, confirmed⟩
    exact ⟨row, (same row mine).mp stored, mine, confirmed⟩
  · rintro ⟨row, stored, mine, confirmed⟩
    exact ⟨row, (same row mine).mpr stored, mine, confirmed⟩

/-- Where a user's row, and whether they are enrolled, are the same, their flag still agrees. -/
theorem FlagAgrees.congr {userId : Nat} (agrees : FlagAgrees desk userId)
    (users : ∀ user ∈ after.users, user.id = userId → user ∈ desk.users)
    (enrolled : Enrolled after userId ↔ Enrolled desk userId) : FlagAgrees after userId :=
  fun user stored named => (agrees user (users user stored named) named).trans enrolled.symm

/-- A flag that was written is as it was written, and nobody else's has changed. -/
theorem mem_flagged {users : Table User} {userId : Nat} {enabled : Bool} {user : User}
    (stored : user ∈ users.update (fun row => row.id = userId) (flagged enabled)) :
    (user.id = userId → user.twoFactorEnabled = enabled) ∧ (user.id ≠ userId → user ∈ users) := by
  rcases Table.mem_update_cases stored with ⟨old, oldIn, named, rfl⟩ | ⟨oldIn, named⟩
  · exact ⟨fun _ => rfl, fun other => absurd named other⟩
  · exact ⟨fun same => absurd same named, fun _ => oldIn⟩

theorem confirmed_agreeing {auth : AuthContext} {read : TwoFactor} {hashes : List String}
    {now : Instant} (agreeing : Agreeing desk) (own : Own desk auth.userId read)
    (made : confirmTwoFactor desk auth.userId read.id hashes now = some after) :
    Agreeing after := by
  obtain ⟨there, users, twoFactors, _⟩ := confirmTwoFactor_some made
  obtain ⟨stored, found⟩ := Option.isSome_iff_exists.mp there
  have mine := own.2 stored found
  obtain ⟨storedIn, named⟩ := Table.find_eq_some.mp found
  refine ⟨?_, fun userId => ?_⟩
  · rw [twoFactors]
    exact oneEach_update (fun _ => rfl) agreeing.one
  · by_cases self : userId = auth.userId
    · subst self
      intro user userIn same
      rw [users] at userIn
      have enrolled : Enrolled after auth.userId := by
        refine ⟨confirmedRow now stored, ?_, mine, by simp⟩
        rw [twoFactors]
        exact Table.mem_update_of_hit storedIn named
      exact ⟨fun _ => enrolled, fun _ => (mem_flagged userIn).1 same⟩
    · refine (agreeing.flags userId).congr (fun user userIn same => ?_) (enrolled_congr ?_)
      · rw [users] at userIn
        exact (mem_flagged userIn).2 (same.trans_ne self)
      · intro row theirs
        rw [twoFactors]
        constructor
        · intro rowIn
          rcases Table.mem_update_cases rowIn with ⟨old, oldIn, hit, rfl⟩ | ⟨oldIn, hit⟩
          · have same : old = stored := Table.eq_of_key oldIn storedIn (hit.trans named.symm)
            rw [same] at theirs
            exact absurd (theirs.symm.trans mine) self
          · exact oldIn
        · intro rowIn
          refine Table.mem_update_of_miss rowIn fun hit => ?_
          have same : row = stored := Table.eq_of_key rowIn storedIn (hit.trans named.symm)
          rw [same] at theirs
          exact absurd (theirs.symm.trans mine) self

theorem upserted_agreeing {auth : AuthContext} {secret : String} (agreeing : Agreeing desk)
    (pending : ¬ Enrolled desk auth.userId) : Agreeing (upsertPending desk auth.userId secret) := by
  refine ⟨oneEach_upsert agreeing.one, fun userId => ?_⟩
  refine (agreeing.flags userId).congr (fun _ stored _ => stored) ?_
  by_cases self : userId = auth.userId
  · subst self
    refine iff_of_false ?_ pending
    rintro ⟨row, stored, mine, confirmed⟩
    rcases mem_upsertPending stored with ⟨_, unconfirmed⟩ | ⟨other, _⟩
    · exact confirmed unconfirmed
    · exact other mine
  · refine enrolled_congr fun row theirs => ⟨fun stored => ?_, fun stored => ?_⟩
    · rcases mem_upsertPending stored with ⟨mine, _⟩ | ⟨_, old⟩
      · exact absurd (theirs.symm.trans mine) self
      · exact old
    · exact upsertPending_kept stored (theirs.trans_ne self)

theorem disabled_agreeing {auth : AuthContext} {read : TwoFactor} (agreeing : Agreeing desk)
    (own : Own desk auth.userId read)
    (only : ∀ row ∈ desk.twoFactors.rows, row.userId = auth.userId → row.confirmedAt ≠ none →
      row.id = read.id) : Agreeing (disableTwoFactor desk auth.userId read.id) := by
  refine ⟨fun left leftIn right rightIn => ?_, fun userId => ?_⟩
  · exact agreeing.one left (Table.mem_delete.mp leftIn).1 right (Table.mem_delete.mp rightIn).1
  · by_cases self : userId = auth.userId
    · subst self
      intro user userIn same
      have off := (mem_flagged userIn).1 same
      have none : ¬ Enrolled (disableTwoFactor desk auth.userId read.id) auth.userId := by
        rintro ⟨row, stored, mine, confirmed⟩
        obtain ⟨old, kept⟩ := Table.mem_delete.mp stored
        exact kept (only row old mine confirmed)
      rw [off]
      exact iff_of_false Bool.false_ne_true none
    · refine (agreeing.flags userId).congr (fun user userIn same => ?_) (enrolled_congr ?_)
      · exact (mem_flagged userIn).2 (same.trans_ne self)
      · intro row theirs
        refine ⟨fun stored => (Table.mem_delete.mp stored).1, fun stored => ?_⟩
        refine Table.mem_delete.mpr ⟨stored, fun hit => self ?_⟩
        have found : desk.twoFactors.find read.id = some row := Table.find_eq_some.mpr ⟨stored, hit⟩
        exact theirs.symm.trans (own.2 row found)

theorem acts_agreeing {minted : Minted} {phase next : TwoFactorPhase} (agreeing : Agreeing desk)
    (informed : Informed crypto desk phase) (read : asRead desk minted phase)
    (acts : TwoFactorActs crypto desk phase after next) : Agreeing after := by
  cases acts with
  | quiet | loaded => exact agreeing
  | upserted => exact upserted_agreeing agreeing read
  | confirmed made => exact confirmed_agreeing agreeing (informed.own _ _ rfl) made
  | regenerated made =>
    obtain ⟨_, users, twoFactors, _⟩ := replaceRecoveryCodes_some made
    refine ⟨by rw [twoFactors]; exact agreeing.one, fun userId => ?_⟩
    refine (agreeing.flags userId).congr (fun user stored _ => users ▸ stored) ?_
    exact enrolled_congr fun row _ => by rw [twoFactors]
  | spent => exact ⟨agreeing.one, agreeing.flags⟩
  | disabled => exact disabled_agreeing agreeing (informed.own _ _ rfl) read
  | notified => exact ⟨agreeing.one, agreeing.flags⟩

/-- A confirmed enrolment was confirmed before, or is confirmed here by a code for its seed. -/
theorem acts_confirmed {minted : Minted} {phase next : TwoFactorPhase}
    (informed : Informed crypto desk phase) (read : asRead desk minted phase)
    (acts : TwoFactorActs crypto desk phase after next) {row : TwoFactor}
    (stored : row ∈ after.twoFactors) (confirmed : row.confirmedAt ≠ none) :
    StandsConfirmed row desk ∨ ∃ auth read code checkedAt,
      phase = .confirm auth read code checkedAt ∧ auth.userId = row.userId ∧ read.id = row.id ∧
        verifyTotp crypto row.secret code checkedAt = true := by
  have stood : ∀ old ∈ desk.twoFactors, old.confirmedAt ≠ none → StandsConfirmed old desk :=
    fun old oldIn standing => ⟨old, oldIn, rfl, rfl, rfl, standing⟩
  cases acts with
  | quiet | loaded | spent | notified => exact Or.inl (stood row stored confirmed)
  | upserted =>
    rcases mem_upsertPending stored with ⟨_, pending⟩ | ⟨_, old⟩
    · exact absurd pending confirmed
    · exact Or.inl (stood row old confirmed)
  | disabled => exact Or.inl (stood row (Table.mem_delete.mp stored).1 confirmed)
  | regenerated made =>
    obtain ⟨_, _, twoFactors, _⟩ := replaceRecoveryCodes_some made
    rw [twoFactors] at stored
    exact Or.inl (stood row stored confirmed)
  | @confirmed auth there code checkedAt now hashes after reply made =>
    obtain ⟨_, _, twoFactors, _⟩ := confirmTwoFactor_some made
    rw [twoFactors] at stored
    obtain ⟨old, oldIn, rfl⟩ := Table.mem_update.mp stored
    by_cases hit : old.id = there.id
    · have found : desk.twoFactors.find there.id = some old := Table.find_eq_some.mpr ⟨oldIn, hit⟩
      have owner := (informed.own _ _ rfl).2 old found
      have seed := read old found
      rw [if_pos hit]
      refine Or.inr ⟨auth, there, code, checkedAt, rfl, owner.symm, hit.symm, ?_⟩
      rw [show (confirmedRow now old).secret = there.secret from seed]
      exact informed.checked
    · rw [if_neg hit] at confirmed ⊢
      exact Or.inl (stood old oldIn confirmed)

end Steps

/-! ## Runs -/

section Runs

variable {crypto : TwoFactorCrypto}

theorem twoFactor_keeps : (twoFactorRequests crypto).Keeps Agreeing (Informed crypto) asRead
    fun _ _ => True where
  opened := fun _ _ _ => informed_unread rfl
  crashed := fun _ _ => informed_unread rfl
  act := fun desk minted phase agreeing informed read =>
    ⟨acts_agreeing agreeing informed read (twoFactor_cases crypto desk minted phase),
      acts_informed informed (twoFactor_cases crypto desk minted phase)⟩
  undisturbed := fun desk minted phase _ _ _ _ informed =>
    informed.moves (acts_moves (twoFactor_cases crypto desk minted phase))
  outside := by
    intro desk now agreeing _
    have moves : Moves desk (tickTwoFactor desk now) := .of_same rfl rfl
    exact ⟨⟨agreeing.one, agreeing.flags⟩, fun _ informed => informed.moves moves⟩

theorem unenrolled_sound {start : TwoFactorPool} (unenrolled : Unenrolled start) :
    start.Sound Agreeing (Informed crypto) := by
  have nobody : ∀ row, row ∉ start.shared.twoFactors :=
    Table.not_mem_of_empty unenrolled.twoFactors
  refine ⟨⟨fun left leftIn => absurd leftIn (nobody left), fun userId user stored _ => ?_⟩,
    fun job stored => absurd stored (Table.not_mem_of_empty unenrolled.jobs job)⟩
  rw [unenrolled.flags user stored]
  refine iff_of_false Bool.false_ne_true ?_
  rintro ⟨row, rowIn, _⟩
  exact nobody row rowIn

/-- A code that is accepted is finished. -/
theorem accepts_finished {codeId : Nat} (pool : TwoFactorPool) (turn : TwoFactorTurn)
    (accepts : AcceptsCode crypto codeId pool turn) :
    Finished codeId ((twoFactorRequests crypto).serve pool turn).shared := by
  cases turn with
  | advance jobId minted =>
    obtain ⟨job, found, ⟨row, codeHash⟩, spending, code, issued, spendable⟩ := accepts
    rw [serve_advance found]
    change Finished codeId (actOnTwoFactor crypto pool.shared minted job.phase).1
    cases phase : job.phase with
    | spendToDisable auth read given =>
      rw [phase] at spending
      cases spending
      exact spent_finished issued spendable
    | spend userId read given =>
      rw [phase] at spending
      cases spending
      exact spent_finished issued spendable
    | _ =>
      rw [phase] at spending
      cases spending
  | receive | crash | outside => exact accepts.elim

/-- So is one whose user is issued a new set. -/
theorem replaces_finished {codeId : Nat} (pool : TwoFactorPool) (turn : TwoFactorTurn)
    (sound : pool.Sound Agreeing (Informed crypto)) (replaces : Replaces crypto codeId pool turn) :
    Finished codeId ((twoFactorRequests crypto).serve pool turn).shared := by
  obtain ⟨code, issued, row, enrolled, issues⟩ := replaces
  cases turn with
  | advance jobId minted =>
    obtain ⟨⟨job, found, ⟨userId, read⟩, issuing, same⟩, grown⟩ := issues
    have informed := sound.jobs job (Table.find_eq_some.mp found).1
    rw [serve_advance found] at grown ⊢
    change pool.shared.recoveryCodes.next <
      (actOnTwoFactor crypto pool.shared minted job.phase).1.recoveryCodes.next at grown
    change Finished codeId (actOnTwoFactor crypto pool.shared minted job.phase).1
    -- The enrolment the set is for is the one the code belongs to.
    have belongs : ∀ (stored : TwoFactor), pool.shared.twoFactors.find read.id = some stored →
        stored.userId = row.userId → code.twoFactorId = read.id := by
      intro stored there mine
      obtain ⟨rowIn, named⟩ := Table.find_eq_some.mp enrolled
      obtain ⟨storedIn, storedNamed⟩ := Table.find_eq_some.mp there
      rw [← named, ← storedNamed, sound.shared.one stored storedIn row rowIn mine]
    cases phase : job.phase with
    | confirm auth there given checkedAt =>
      rw [phase] at issuing informed grown
      cases issuing
      simp only [actOnTwoFactor] at grown ⊢
      cases made : confirmTwoFactor pool.shared auth.userId read.id
          ((List.ofFn minted.codes).map crypto.hashCode) pool.shared.clock with
      | none =>
        rw [made] at grown
        exact absurd grown (Nat.lt_irrefl _)
      | some after =>
        obtain ⟨there, _, _, codes⟩ := confirmTwoFactor_some made
        obtain ⟨stored, storedFound⟩ := Option.isSome_iff_exists.mp there
        have mine := (informed.own _ _ rfl).2 stored storedFound
        exact replaced_finished issued (belongs stored storedFound (mine.trans same)) codes
    | regenerate auth there =>
      rw [phase] at issuing informed grown
      cases issuing
      simp only [actOnTwoFactor] at grown ⊢
      cases made : replaceRecoveryCodes pool.shared read.id
          ((List.ofFn minted.codes).map crypto.hashCode) with
      | none =>
        rw [made] at grown
        exact absurd grown (Nat.lt_irrefl _)
      | some after =>
        obtain ⟨there, _, _, codes⟩ := replaceRecoveryCodes_some made
        obtain ⟨stored, storedFound⟩ := Option.isSome_iff_exists.mp there
        have mine := (informed.own _ _ rfl).2 stored storedFound
        exact replaced_finished issued (belongs stored storedFound (mine.trans same)) codes
    | _ =>
      rw [phase] at issuing
      cases issuing
  | receive | crash | outside => exact issues.elim

theorem turn_confirmed {pool : TwoFactorPool} {turn : TwoFactorTurn}
    (sound : pool.Sound Agreeing (Informed crypto)) (read : WritesAsRead pool turn)
    {row : TwoFactor}
    (stored : row ∈ ((twoFactorRequests crypto).serve pool turn).shared.twoFactors)
    (confirmed : row.confirmedAt ≠ none) :
    StandsConfirmed row pool.shared ∨ ProvesSeed crypto row pool turn := by
  cases turn with
  | advance jobId minted =>
    cases found : pool.jobs.find jobId with
    | none =>
      rw [serve_missing found] at stored
      exact Or.inl ⟨row, stored, rfl, rfl, rfl, confirmed⟩
    | some job =>
      rw [serve_advance found] at stored
      have informed := sound.jobs job (Table.find_eq_some.mp found).1
      rcases acts_confirmed informed (read job found)
        (twoFactor_cases crypto pool.shared minted job.phase) stored confirmed with stood | proves
      · exact Or.inl stood
      · exact Or.inr ⟨job, found, proves⟩
  | receive | crash | outside => exact Or.inl ⟨row, stored, rfl, rfl, rfl, confirmed⟩

/-- What proved an enrolment still has, one step on, if it stands. -/
theorem Proven.step {start : TwoFactorPool} {turns : List TwoFactorTurn} {turn : TwoFactorTurn}
    {now row : TwoFactor} (id : now.id = row.id) (user : now.userId = row.userId)
    (secret : now.secret = row.secret) (proven : Proven crypto start turns now)
    (stands : StandsConfirmed row (run (twoFactorRequests crypto).serve start
      (turns ++ [turn])).shared) : Proven crypto start (turns ++ [turn]) row := by
  obtain ⟨before, proving, rest, rfl, proves, since⟩ := proven
  simp only [StandsConfirmed, id, user, secret] at since
  refine ⟨before, proving, rest ++ [turn], by simp, ?_, throughout_concat.mpr ⟨since, ?_⟩⟩
  · cases proving with
    | advance jobId minted =>
      simp only [ProvesSeed, id, user, secret] at proves ⊢
      exact proves
    | receive | crash | outside => exact proves.elim
  · simpa [run_append] using stands

/-- Every confirmed enrolment was proven. -/
theorem run_proven {start : TwoFactorPool} (unenrolled : Unenrolled start)
    {turns : List TwoFactorTurn}
    (read : Meets (twoFactorRequests crypto).serve WritesAsRead start turns) :
    ∀ row ∈ (run (twoFactorRequests crypto).serve start turns).shared.twoFactors,
      row.confirmedAt ≠ none → Proven crypto start turns row := by
  induction turns using List.reverseRecOn with
  | nil => exact fun row stored => absurd stored (Table.not_mem_of_empty unenrolled.twoFactors row)
  | append_singleton turns turn ih =>
    intro row stored confirmed
    obtain ⟨earlier, here⟩ := meets_append.mp read
    have sound : (run (twoFactorRequests crypto).serve start turns).Sound Agreeing
        (Informed crypto) := twoFactor_keeps.run (unenrolled_sound unenrolled) earlier
    have stands : StandsConfirmed row (run (twoFactorRequests crypto).serve start
        (turns ++ [turn])).shared := ⟨row, stored, rfl, rfl, rfl, confirmed⟩
    have last := stored
    rw [run_append, run_cons, run_nil] at last
    rcases turn_confirmed sound here.1 last confirmed with ⟨now, nowIn, id, user, secret, standing⟩ | proves
    · exact (ih earlier now nowIn standing).step id user secret stands
    · refine ⟨turns, turn, [], rfl, proves, fun first within => ?_⟩
      rw [List.prefix_nil.mp within]
      simpa [run_append] using stands

/-- Two-factor is consistent in every run in which each write finds the enrolment as its request
read it. -/
theorem two_factor_consistent {start : TwoFactorPool} (unenrolled : Unenrolled start)
    (turns : List TwoFactorTurn)
    (read : Meets (twoFactorRequests crypto).serve WritesAsRead start turns) :
    TwoFactorConsistent crypto start turns where
  agrees := read.throughout twoFactor_keeps.serve (fun _ sound userId _ => sound.shared.flags userId)
    (unenrolled_sound unenrolled)
  proven := by
    rintro first ⟨rest, rfl⟩
    exact run_proven unenrolled (meets_append.mp read).1
  once := fun _ => read.neverAfter twoFactor_keeps.serve
    (fun pool turn _ => accepts_finished pool turn)
    (fun pool turn _ => finished_lasts (turn_moves pool turn))
    (fun _ _ _ finished _ => finished_excludes finished) (unenrolled_sound unenrolled)
  latest := fun _ => read.neverAfter twoFactor_keeps.serve replaces_finished
    (fun pool turn _ => finished_lasts (turn_moves pool turn))
    (fun _ _ _ finished _ => finished_excludes finished) (unenrolled_sound unenrolled)

end Runs

/-- Two seeds, each with a code of its own at every step. -/
def twoSeeds : TwoFactorCrypto where
  hotp secret _ := if secret = "SEED-A" then "111111" else "222222"
  hashCode := id

def bob : TwoFactorDesk where
  users := Table.empty.insert fun id =>
    { id, organizationId := 0, name := "Bob", email := "bob@acme.test", persona := .admin
      status := .active, passwordHash := none, createdAt := 0 }
  twoFactors := Table.empty
  recoveryCodes := Table.empty
  outbox := []
  clock := 0

def bobPool : TwoFactorPool := ⟨bob, Table.empty⟩

theorem bobPool_unenrolled : Unenrolled bobPool where
  jobs := rfl
  twoFactors := rfl
  flags := by decide +kernel

def bobSignedIn : AuthContext := { userId := 0, organizationId := 0, sessionId := 0 }

/-- One step of a request, with what it may mint. -/
def minting (jobId : Nat) (secret : String) : TwoFactorTurn :=
  .advance jobId { secret, codes := fun index => "CODE-" ++ toString index.val }

/-- Bob enrols with a code for his seed, and signs in with a recovery code twice. -/
def enrolled : List TwoFactorTurn :=
  [.receive (.start bobSignedIn), minting 0 "", minting 0 "SEED-A",
    .receive (.confirm bobSignedIn "111111"), minting 1 "", minting 1 "",
    .receive (.verify 0 0 "CODE-3"), minting 2 "", minting 2 "",
    .receive (.verify 0 0 "CODE-3"), minting 3 "", minting 3 ""]

theorem two_factor_consistent_enrolled :
    TwoFactorConsistent twoSeeds bobPool enrolled ∧
      (run (twoFactorRequests twoSeeds).serve bobPool enrolled).shared.users.rows.map
        User.twoFactorEnabled = [true] ∧
      (((run (twoFactorRequests twoSeeds).serve bobPool enrolled).jobs.rows.map Job.phase).drop 2) =
        [.done (.verified true), .done (.verified false)] :=
  ⟨two_factor_consistent bobPool_unenrolled enrolled (by decide +kernel), by decide +kernel,
    by decide +kernel⟩

/-- A second start reads the pending enrolment, and restarts it once it is confirmed. -/
def restarted : List TwoFactorTurn :=
  [.receive (.start bobSignedIn), minting 0 "", minting 0 "SEED-A",
    .receive (.start bobSignedIn), minting 1 "",
    .receive (.confirm bobSignedIn "111111"), minting 2 "", minting 2 "", minting 1 "SEED-B"]

/-- The flag stays on with no confirmed enrolment: no code signs Bob in any more. -/
theorem flag_without_enrolment : ¬ TwoFactorConsistent twoSeeds bobPool restarted := by
  intro consistent
  have agrees := consistent.agrees restarted List.prefix_rfl 0 (by decide +kernel)
  exact absurd agrees (by decide +kernel)

end EventaApi.Guarantees
