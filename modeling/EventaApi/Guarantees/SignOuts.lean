import EventaApi.Guarantees.SignIns

/-!
# A session that is over stays over

Signing out, signing other devices out, a password reset, a deletion and a suspension end
sessions, and time does. From then on no request and no refresh is let in by a token of such a
session, whenever that token was signed. And whoever signs a session out is the user it is of.
-/
namespace EventaApi.Guarantees
open Library Source

abbrev SignInPool := Pool SignInDesk SignInPhase
abbrev SignInTurn := PoolTurn SignInRequest SignInAnswers SignInWorld

variable {verifyPassword : String → String → Bool} {crypto : TwoFactorCrypto}
variable {config : TokenConfig} {desk : SignInDesk}

/-! ## Sessions that are over -/

/-- The session was ended, or its time is up. -/
def SessionOver (desk : SignInDesk) (sessionId : Nat) : Prop :=
  ∃ session, desk.directory.sessions.find sessionId = some session ∧
    ¬ IsSessionLive desk.clock session

theorem sessionOver_of_mem {session : AuthSession} (stored : session ∈ desk.directory.sessions)
    (finished : ¬ IsSessionLive desk.clock session) : SessionOver desk session.id :=
  ⟨session, Table.find_key stored, finished⟩

theorem SessionOver.later {after : SignInDesk} (later : Later desk after) {sessionId : Nat}
    (finished : SessionOver desk sessionId) : SessionOver after sessionId := by
  obtain ⟨session, found, ended⟩ := finished
  obtain ⟨stored, named⟩ := Table.find_eq_some.mp found
  obtain ⟨now, foundNow, _, _, _, expiry, kept⟩ := later.sessions session stored
  refine ⟨now, named ▸ foundNow, fun ⟨live, inTime⟩ => ended ⟨?_, ?_⟩⟩
  · by_contra revoked
    exact revoked (kept revoked ▸ live)
  · rw [← expiry]
    exact lt_of_le_of_lt later.clock inTime

theorem SessionOver.findValidSession {sessionId : Nat} (finished : SessionOver desk sessionId) :
    findValidSession desk (some sessionId) = none := by
  obtain ⟨session, found, ended⟩ := finished
  simp [Source.findValidSession, found, ended]

/-- Neither a request nor a refresh gets past the check. -/
theorem SessionOver.refuses {sessionId : Nat} (finished : SessionOver desk sessionId)
    {claims : TokenClaims} (names : claims.sid = some sessionId) (answers : SignInAnswers) :
    (∀ call, (actOnSignIn verifyPassword crypto config desk answers
        (.isSessionLive claims call)).2 = .refuse .sessionOver) ∧
      (actOnSignIn verifyPassword crypto config desk answers (.assertSessionLive claims)).2 =
        .refuse .sessionOver := by
  have none : Source.findValidSession desk claims.sid = none := names ▸ finished.findValidSession
  constructor
  · intro call
    have finished : sessionIsLive desk claims.org claims.sid = false := by rw [sessionIsLive, none]; rfl
    dsimp only [actOnSignIn]
    rw [finished]
    cases principalOf claims <;> rfl
  · dsimp only [actOnSignIn]
    rw [none]
    rfl

/-! ## What ends sessions -/

/-- The sessions a call's next step signs out. -/
def EndedByCall (session : AuthSession) : SignInPhase → Prop
  | .logout auth => session.id = auth.sessionId
  | .revokeOwn auth sessionId => session.id = sessionId ∧ IsOwn auth session
  | .revokeOthers auth => session.id ≠ auth.sessionId ∧ IsOwn auth session
  | _ => False

/-- The sessions somebody else's change signs out, or the time that passes. -/
def EndedOutside (desk : SignInDesk) (session : AuthSession) : SignInWorld → Prop
  | .tick elapsed => session.expiresAt ≤ desk.clock + elapsed
  | .setPassword organizationId userId _ keepSessionId =>
    session.userId = userId ∧ session.organizationId = organizationId ∧
      keepSessionId ≠ some session.id
  | .supersede userId _ _ =>
    session.userId = userId ∧
      desk.directory.platformOrganizationId = some session.organizationId ∧
      ∃ user ∈ desk.directory.users, Unproven userId session.organizationId user
  | .scheduleDeletion organizationId userId =>
    session.userId = userId ∧ ∃ user ∈ desk.directory.users, IsLive organizationId userId user
  | .revokeSessions userId => session.userId = userId
  | _ => False

def EndedBy (pool : SignInPool) (session : AuthSession) : SignInTurn → Prop
  | .advance jobId _ => ∃ job, pool.jobs.find jobId = some job ∧ EndedByCall session job.phase
  | .outside event => EndedOutside pool.shared session event
  | _ => False

/-- Where the live sessions of a kind are revoked, a session of the kind is finished. -/
theorem over_of_revoked {hit : AuthSession → Prop} [DecidablePred hit] {session : AuthSession}
    {after : SignInDesk} (stored : session ∈ desk.directory.sessions)
    (sessions : after.directory.sessions =
      desk.directory.sessions.update hit (revokedSession desk.clock))
    (clock : after.clock = desk.clock)
    (picked : IsSessionLive desk.clock session → hit session) : SessionOver after session.id := by
  by_cases selected : hit session
  · have there : revokedSession desk.clock session ∈ after.directory.sessions :=
      sessions ▸ Table.mem_update_of_hit stored selected
    exact ⟨revokedSession desk.clock session, Table.find_key there, fun live => nomatch live.1⟩
  · have there : session ∈ after.directory.sessions :=
      sessions ▸ Table.mem_update_of_miss stored selected
    exact sessionOver_of_mem there fun live => selected (picked (clock ▸ live))

theorem ended_by_call {answers : SignInAnswers} {phase : SignInPhase} {session : AuthSession}
    (stored : session ∈ desk.directory.sessions) (ended : EndedByCall session phase) :
    SessionOver (actOnSignIn verifyPassword crypto config desk answers phase).1 session.id := by
  cases phase with
  | logout | revokeOwn | revokeOthers =>
    exact over_of_revoked stored rfl rfl fun live => ⟨ended, live.1⟩
  | _ => exact ended.elim

theorem ended_outside {event : SignInWorld} {session : AuthSession}
    (stored : session ∈ desk.directory.sessions) (ended : EndedOutside desk session event) :
    SessionOver (changeSignIn config desk event) session.id := by
  cases event with
  | tick elapsed =>
    exact @sessionOver_of_mem (changeSignIn config desk (.tick elapsed)) session stored
      fun live => absurd live.2 (not_lt.mpr ended)
  | setPassword organizationId userId passwordHash keepSessionId =>
    obtain ⟨mine, here, other⟩ := ended
    exact over_of_revoked stored rfl rfl fun live => ⟨mine, here, live.1, live.2, other⟩
  | supersede userId name passwordHash =>
    obtain ⟨mine, platform, user, there, unproven⟩ := ended
    refine @over_of_revoked desk (fun row => row.userId = userId ∧
      row.organizationId = session.organizationId ∧ row.revokedAt = none) _ _ _ stored ?_ rfl
      fun live => ⟨mine, rfl, live.1⟩
    have some : desk.directory.users.select (Unproven userId session.organizationId) ≠ [] :=
      Table.select_ne_nil.mpr ⟨user, there, unproven⟩
    dsimp only [changeSignIn, supersedeUnconfirmedAttendee]
    rw [platform]
    simp only [Option.bind_eq_bind, Option.bind_some]
    rw [if_neg some]
    rfl
  | scheduleDeletion organizationId userId =>
    obtain ⟨mine, user, there, live⟩ := ended
    refine @over_of_revoked desk (fun row => row.userId = userId ∧ row.revokedAt = none) _ _ _
      stored ?_ rfl fun live => ⟨mine, live.1⟩
    have some : desk.directory.users.select (IsLive organizationId userId) ≠ [] :=
      Table.select_ne_nil.mpr ⟨user, there, live⟩
    dsimp only [changeSignIn, scheduleDeletion]
    rw [if_neg some]
  | revokeSessions userId =>
    exact over_of_revoked stored rfl rfl fun live => ⟨ended, live.1⟩
  | claim | accounts | twoFactor | sign => exact ended.elim

theorem EndedBy.finishes {pool : SignInPool} {turn : SignInTurn} {session : AuthSession}
    (stored : session ∈ pool.shared.directory.sessions) (ended : EndedBy pool session turn) :
    SessionOver ((signInRequests verifyPassword crypto config).serve pool turn).shared session.id := by
  cases turn with
  | receive | crash => exact ended.elim
  | outside event => exact ended_outside stored ended
  | advance jobId answers =>
    obtain ⟨job, found, mine⟩ := ended
    rw [serve_advance found]
    exact ended_by_call stored mine

/-! ## Runs -/

section Runs

variable (config) {start : SignInPool}

theorem later_run (fresh : IsFresh verifyPassword crypto start) (first rest : List SignInTurn) :
    Later (run (signInRequests verifyPassword crypto config).serve start first).shared
      (run (signInRequests verifyPassword crypto config).serve start (first ++ rest)).shared := by
  induction rest using List.reverseRecOn with
  | nil => simpa using Later.refl _
  | append_singleton rest turn ih =>
    rw [← List.append_assoc, run_append _ (first ++ rest) [turn], run_cons, run_nil]
    refine ih.trans ?_
    have reached := fresh.run config (first ++ rest)
    refine Handler.serve_shared (Later.refl _) (fun job stored answers => ?_) (fun event => ?_) turn
    · exact (actsSoundly reached.shared config answers (reached.jobs job stored)).later
    · exact (changesSoundly reached.shared config event).1

/-- Once a session was signed out, or its time is up, no request and no refresh is let in by a
token of it, whatever came before and whatever comes after. -/
theorem signed_out_for_good (fresh : IsFresh verifyPassword crypto start)
    (earlier : List SignInTurn) (turn : SignInTurn) (rest : List SignInTurn) (session : AuthSession)
    (stored : session ∈
      (run (signInRequests verifyPassword crypto config).serve start earlier).shared.directory.sessions)
    (ended : EndedBy (run (signInRequests verifyPassword crypto config).serve start earlier)
      session turn)
    (claims : TokenClaims) (names : claims.sid = some session.id) (answers : SignInAnswers) :
    let desk := (run (signInRequests verifyPassword crypto config).serve start
      (earlier ++ turn :: rest)).shared
    (∀ call, (actOnSignIn verifyPassword crypto config desk answers
        (.isSessionLive claims call)).2 = .refuse .sessionOver) ∧
      (actOnSignIn verifyPassword crypto config desk answers (.assertSessionLive claims)).2 =
        .refuse .sessionOver := by
  have finished : SessionOver ((signInRequests verifyPassword crypto config).serve
      (run (signInRequests verifyPassword crypto config).serve start earlier) turn).shared
      session.id := ended.finishes stored
  have later := later_run config fresh (earlier ++ [turn]) rest
  rw [run_append, run_cons, run_nil] at later
  rw [List.append_assoc, List.singleton_append] at later
  exact (finished.later later).refuses names answers

end Runs

/-- Ann's password is reset, and some time later her token is tried. -/
theorem signed_out_for_good_annSignsIn :
    let desk := (run (signInRequests plainPasswords zeroCodes dayLong).serve twoAccounts
      (annSignsIn ++ .outside (.setPassword 0 0 "fig" none) :: [.outside (.tick 5000)])).shared
    (∀ call, (actOnSignIn plainPasswords zeroCodes dayLong desk unlocked
        (.isSessionLive (sessionClaims .access ⟨0, 0, 0, .admin⟩) call)).2 =
          .refuse .sessionOver) ∧
      (actOnSignIn plainPasswords zeroCodes dayLong desk unlocked
        (.assertSessionLive (sessionClaims .access ⟨0, 0, 0, .admin⟩))).2 = .refuse .sessionOver := by
  have opened : (run (signInRequests plainPasswords zeroCodes dayLong).serve twoAccounts
      annSignsIn).shared.directory.sessions.find 0 = some ⟨0, 0, 0, 86400000, none⟩ := by
    decide +kernel
  exact signed_out_for_good dayLong twoAccounts_fresh annSignsIn
    (.outside (.setPassword 0 0 "fig" none)) [.outside (.tick 5000)] _
    (Table.find_eq_some.mp opened).1 ⟨rfl, rfl, by decide⟩ _ rfl unlocked

/-! ## Whose sessions are ended -/

/-- On whose behalf a call's next step signs out. -/
def callerOf : SignInPhase → Option AuthContext
  | .logout auth | .revokeOwn auth _ | .revokeOthers auth => some auth
  | _ => none

theorem createAccount_sessions {answers : SignInAnswers} {input : SocialSignInInput}
    {identity : VerifiedIdentity} :
    (createAccount desk answers input identity).1.directory.sessions =
      desk.directory.sessions := by
  unfold createAccount
  cases input.audience with
  | admin => rfl
  | attendee =>
    dsimp only [createAttendee]
    cases (desk.directory.organizations.select fun row =>
        desk.slugs row.id = input.orgSlug.getD "" ∧ row.deletedAt = none).head? with
    | none => rfl
    | some org =>
      dsimp only
      by_cases taken : ∃ user ∈ desk.directory.users.rows, IsAttendeeOf org.id identity.email user
      · rw [if_pos taken]
      · rw [if_neg taken]

/-- A step that signs nobody out leaves each session as it was. -/
theorem acts_keep {answers : SignInAnswers} {phase : SignInPhase} (nobody : callerOf phase = none)
    {session : AuthSession} (stored : session ∈ desk.directory.sessions) :
    (actOnSignIn verifyPassword crypto config desk answers phase).1.directory.sessions.find
      session.id = some session := by
  have still : desk.directory.sessions.find session.id = some session := Table.find_key stored
  have same {after : SignInDesk} (sessions : after.directory.sessions = desk.directory.sessions) :
      after.directory.sessions.find session.id = some session := sessions ▸ still
  cases phase with
  | openSession found rememberMe grounds => exact Table.find_insert_of_found still
  | begin request =>
    cases request with
    | login | refresh | authenticated => exact still
    | complete token code =>
      dsimp only [actOnSignIn, beginSignIn]
      split <;> exact still
    | social input =>
      dsimp only [actOnSignIn, beginSignIn, beginSocial]
      split
      · exact still
      · split
        · exact still
        · split <;> exact still
  | compare input realm =>
    dsimp only [actOnSignIn]
    match (loginAccounts desk input realm).filter (passwordFits verifyPassword input.password) with
    | [] | [_] | _ :: _ :: _ => exact still
  | verifyCode token found claims code =>
    dsimp only [actOnSignIn, verifyCode]
    split
    · exact still
    · split <;> exact still
  | spendCode token found claims row code =>
    dsimp only [actOnSignIn, spendCode]
    cases (desk.recoveryCodes.select (Spendable row.id (crypto.hashCode code))).head? <;> exact still
  | findBySubject input identity =>
    dsimp only [actOnSignIn]
    split <;> exact still
  | createAccount input identity => exact same createAccount_sessions
  | link input identity userId =>
    dsimp only [actOnSignIn]
    cases linked : linkIdentity desk input.provider identity.subject userId with
    | none => exact still
    | some after => exact same (linkIdentity_frame linked).2.2.1
  | logout | revokeOwn | revokeOthers => cases nobody
  | resendVerification | challenge | requireAccount | findUserByEmail | activateEmail
  | loadEligible | issueTokens | assertSessionLive | signAccess | isSessionLive | listLive | done =>
    exact still

/-- Of the sessions that are revoked, each is of the kind. -/
theorem revokeWhere_picked {picked : AuthSession → Prop} [DecidablePred picked]
    {session now : AuthSession} (stored : session ∈ desk.directory.sessions)
    (live : session.revokedAt = none)
    (found : (revokeWhere desk picked).directory.sessions.find session.id = some now)
    (revoked : now.revokedAt ≠ none) : picked session := by
  by_contra other
  have there : session ∈ (revokeWhere desk picked).directory.sessions :=
    Table.mem_update_of_miss stored fun hit => other hit.1
  cases (Table.find_key there).symm.trans found
  exact revoked live

section Runs

variable (config) {start : SignInPool}

/-- Whatever interleaves, the sessions a call signs out are its caller's own: of the user whose
session let the call in. -/
theorem only_own_signed_out (fresh : IsFresh verifyPassword crypto start) (turns : List SignInTurn)
    (jobId : Nat) (answers : SignInAnswers) :
    let pool := run (signInRequests verifyPassword crypto config).serve start turns
    ∀ session ∈ pool.shared.directory.sessions, session.revokedAt = none → ∀ now,
      ((signInRequests verifyPassword crypto config).serve pool
        (.advance jobId answers)).shared.directory.sessions.find session.id = some now →
      now.revokedAt ≠ none →
      ∃ job auth, pool.jobs.find jobId = some job ∧ callerOf job.phase = some auth ∧
        IsOwn auth session ∧ ∃ mine ∈ pool.shared.directory.sessions,
          mine.id = auth.sessionId ∧ IsOwn auth mine := by
  intro pool session stored live now found revoked
  have reached := fresh.run config turns
  cases there : pool.jobs.find jobId with
  | none =>
    rw [serve_missing there] at found
    cases (Table.find_key stored).symm.trans found
    exact absurd live revoked
  | some job =>
    rw [serve_advance there] at found
    have knows : KnowsSignIn pool.shared job.phase :=
      reached.jobs job (Table.find_eq_some.mp there).1
    refine ⟨job, ?_⟩
    cases phase : job.phase with
    | logout auth =>
      rw [phase] at found knows
      obtain ⟨mine, mineStored, named, own⟩ := knows
      have picked : session.id = auth.sessionId := revokeWhere_picked stored live found revoked
      have same : mine = session := Table.eq_of_key mineStored stored (named.trans picked.symm)
      exact ⟨auth, rfl, rfl, same ▸ own, mine, mineStored, named, own⟩
    | revokeOwn auth sessionId =>
      rw [phase] at found knows
      have picked := revokeWhere_picked stored live found revoked
      exact ⟨auth, rfl, rfl, picked.2, knows⟩
    | revokeOthers auth =>
      rw [phase] at found knows
      have picked := revokeWhere_picked stored live found revoked
      exact ⟨auth, rfl, rfl, picked.2, knows⟩
    | _ =>
      have nobody : callerOf job.phase = none := by rw [phase]; rfl
      have kept := @acts_keep verifyPassword crypto config _ answers _ nobody _ stored
      cases kept.symm.trans found
      exact absurd live revoked

end Runs

/-- Ann signs out. -/
def annSignsOut : List SignInTurn :=
  annSignsIn ++ .receive (.authenticated 0 .logout) :: List.replicate 2 (.advance 2 unlocked)

theorem only_own_signed_out_annSignsOut :
    let pool := run (signInRequests plainPasswords zeroCodes dayLong).serve twoAccounts annSignsOut
    ∃ job auth, pool.jobs.find 2 = some job ∧ callerOf job.phase = some auth ∧
      IsOwn auth ⟨0, 0, 0, 86400000, none⟩ ∧ ∃ mine ∈ pool.shared.directory.sessions,
        mine.id = auth.sessionId ∧ IsOwn auth mine := by
  have opened : (run (signInRequests plainPasswords zeroCodes dayLong).serve twoAccounts
      annSignsOut).shared.directory.sessions.find 0 = some ⟨0, 0, 0, 86400000, none⟩ := by
    decide +kernel
  exact only_own_signed_out dayLong twoAccounts_fresh annSignsOut 2 unlocked _
    (Table.find_eq_some.mp opened).1 rfl ⟨0, 0, 0, 86400000, some 0⟩ (by decide +kernel) (by decide)

end EventaApi.Guarantees
