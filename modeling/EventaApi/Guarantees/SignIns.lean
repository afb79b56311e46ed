import Mathlib.Data.List.Infix
import EventaApi.Source.SignIn

/-!
# No session without proof

Whatever interleaves, each session rests on something shown before it was opened: the account's
password where no code was asked for, a code for a challenge that the password had earned, a
provider's word, or a booking's link. Every access and refresh token names such a session and its
user.
-/
namespace EventaApi.Guarantees
open Library Source

/-! ## What the log says -/

section Log

variable (verifyPassword : String → String → Bool) (crypto : TwoFactorCrypto)

/-- The account's own authenticator or one of its recovery codes. -/
def PassesFor (userId : Nat) : CodeProof → Prop
  | .app row code moment =>
    row.userId = userId ∧ row.confirmedAt ≠ none ∧ verifyTotp crypto row.secret code moment = true
  | .recovery row spent code =>
    row.userId = userId ∧ row.confirmedAt ≠ none ∧
      Spendable row.id (crypto.hashCode code) spent

/-- The password of an account that may sign in was sent. -/
def MatchedActive (earlier : List SignInEvent) (user : User) : Prop :=
  (∃ password, .passwordMatched user password ∈ earlier) ∧ user.status = .active

/-- The account's password has earned this challenge, which came back in time. -/
def Challenged (earlier : List SignInEvent) (token userId : Nat) : Prop :=
  (∃ moment, .challengePresented token moment ∈ earlier) ∧
    ∃ user moment, .challengeSigned token user moment ∈ earlier ∧ user.id = userId

/-- What a session of the user may be opened on. -/
def GroundsFor (earlier : List SignInEvent) (userId : Nat) : Grounds → Prop
  | .password =>
    ∃ user, MatchedActive earlier user ∧ user.id = userId ∧ user.twoFactorEnabled = false
  | .code token => ∃ proof, .codeAccepted token userId proof ∈ earlier
  | .provider provider subject => .accountResolved provider subject userId ∈ earlier
  | .claimLink => True

/-- What each event rests on, among the earlier ones. -/
def RestsOn (earlier : List SignInEvent) : SignInEvent → Prop
  | .passwordMatched user password =>
    ∃ hashed, user.passwordHash = some hashed ∧ verifyPassword hashed password = true
  | .challengeSigned _ user _ => MatchedActive earlier user ∧ user.twoFactorEnabled = true
  | .challengePresented token moment =>
    ∃ user signed, .challengeSigned token user signed ∈ earlier ∧
      moment / 1000 < signed / 1000 + TWO_FACTOR_CHALLENGE_TTL_SECONDS
  | .codeAccepted token userId proof =>
    PassesFor crypto userId proof ∧ Challenged earlier token userId
  | .identityVerified _ identity => identity.emailVerified = true
  | .accountResolved provider subject _ =>
    ∃ identity, .identityVerified provider identity ∈ earlier ∧ identity.subject = subject
  | .sessionOpened session grounds => GroundsFor earlier session.userId grounds

/-- Each event rests on what came before it. -/
def LogStands : List SignInEvent → Prop
  | [] => True
  | event :: earlier => RestsOn verifyPassword crypto earlier event ∧ LogStands earlier

end Log

/-! ## Sound desks -/

/-- The token is of a session of the user and workspace it names. -/
def NamesSession (sessions : Table AuthSession) (claims : TokenClaims) : Prop :=
  ∃ session ∈ sessions, claims.sid = some session.id ∧ claims.org = some session.organizationId ∧
    claims.sub = session.userId

/-- The session as it was opened, but that it may have been ended. -/
def SessionKept (before after : AuthSession) : Prop :=
  after.id = before.id ∧ after.organizationId = before.organizationId ∧
    after.userId = before.userId ∧ after.expiresAt = before.expiresAt ∧
    (before.revokedAt ≠ none → after = before)

def IsOpened (history : List SignInEvent) (session : AuthSession) : Prop :=
  ∃ opened grounds, .sessionOpened opened grounds ∈ history ∧ SessionKept opened session

def IsChallenge (history : List SignInEvent) (token : SignedToken) : Prop :=
  ∃ user moment, .challengeSigned token.id user moment ∈ history ∧ token.claims.sub = user.id ∧
    token.exp = moment / 1000 + TWO_FACTOR_CHALLENGE_TTL_SECONDS

structure SignInsSound (verifyPassword : String → String → Bool) (crypto : TwoFactorCrypto)
    (desk : SignInDesk) : Prop where
  stands : LogStands verifyPassword crypto desk.history
  opened : ∀ session ∈ desk.directory.sessions, IsOpened desk.history session
  named : ∀ token ∈ desk.tokens, token.claims.typ = .access ∨ token.claims.typ = .refresh →
    NamesSession desk.directory.sessions token.claims
  challenged : ∀ token ∈ desk.tokens, token.claims.typ = .twofa → IsChallenge desk.history token

/-! ## What becomes of a desk -/

namespace SessionKept

theorem refl (session : AuthSession) : SessionKept session session :=
  ⟨rfl, rfl, rfl, rfl, fun _ => rfl⟩

theorem revoked (now : Instant) (session : AuthSession) (live : session.revokedAt = none) :
    SessionKept session (revokedSession now session) :=
  ⟨rfl, rfl, rfl, rfl, fun ended => absurd live ended⟩

theorem trans {first second third : AuthSession} (before : SessionKept first second)
    (after : SessionKept second third) : SessionKept first third := by
  obtain ⟨id, org, user, expiry, ended⟩ := before
  obtain ⟨id', org', user', expiry', ended'⟩ := after
  refine ⟨id'.trans id, org'.trans org, user'.trans user, expiry'.trans expiry, fun expired => ?_⟩
  have same : second = first := ended expired
  subst same
  exact ended' expired

end SessionKept

/-- Sessions are ended at most: none is opened, and none comes back. -/
structure OnlyEnds (before after : Table AuthSession) : Prop where
  persists : Table.Persists SessionKept before after
  comes : ∀ session ∈ after, ∃ old ∈ before, SessionKept old session

theorem OnlyEnds.refl (sessions : Table AuthSession) : OnlyEnds sessions sessions where
  persists := Table.Persists.of_eq rfl SessionKept.refl
  comes := fun session stored => ⟨session, stored, SessionKept.refl session⟩

theorem OnlyEnds.revoke {sessions : Table AuthSession} {hit : AuthSession → Prop}
    [DecidablePred hit] (now : Instant) (live : ∀ session, hit session → session.revokedAt = none) :
    OnlyEnds sessions (sessions.update hit (revokedSession now)) where
  persists := Table.Persists.update SessionKept.refl fun session _ picked =>
    SessionKept.revoked now session (live session picked)
  comes := by
    intro session stored
    rcases Table.mem_update_cases stored with ⟨old, there, picked, rfl⟩ | ⟨there, _⟩
    · exact ⟨old, there, SessionKept.revoked now old (live old picked)⟩
    · exact ⟨session, there, SessionKept.refl session⟩

/-- What a step leaves of what others know: the log, and the sessions with whom they are of. -/
structure Later (before after : SignInDesk) : Prop where
  history : ∀ event ∈ before.history, event ∈ after.history
  sessions : Table.Persists SessionKept before.directory.sessions after.directory.sessions
  clock : before.clock ≤ after.clock

theorem Later.of_onlyEnds {before after : SignInDesk}
    (history : ∀ event ∈ before.history, event ∈ after.history)
    (sessions : OnlyEnds before.directory.sessions after.directory.sessions)
    (clock : before.clock ≤ after.clock) : Later before after :=
  ⟨history, sessions.persists, clock⟩

theorem Later.refl (desk : SignInDesk) : Later desk desk :=
  ⟨fun _ => id, Table.Persists.of_eq rfl SessionKept.refl, le_rfl⟩

theorem Later.record (desk : SignInDesk) (event : SignInEvent) : Later desk (desk.record event) :=
  ⟨fun _ => List.mem_cons_of_mem _, Table.Persists.of_eq rfl SessionKept.refl, le_rfl⟩

theorem Later.trans {first second third : SignInDesk} (before : Later first second)
    (after : Later second third) : Later first third where
  history := fun event logged => after.history event (before.history event logged)
  sessions := by
    intro session stored
    obtain ⟨between, found, kept⟩ := before.sessions session stored
    obtain ⟨there, named⟩ := Table.find_eq_some.mp found
    obtain ⟨now, foundNow, keptNow⟩ := after.sessions between there
    exact ⟨now, named ▸ foundNow, kept.trans keptNow⟩
  clock := before.clock.trans after.clock

theorem Later.insertSession (desk : SignInDesk) (found : LoginUser) (expiresAt : Instant)
    (grounds : Grounds) : Later desk (insertSession desk found expiresAt grounds) :=
  ⟨fun _ => List.mem_cons_of_mem _, Table.Persists.insert SessionKept.refl, le_rfl⟩

theorem Later.mem {before after : SignInDesk} (later : Later before after) {session : AuthSession}
    (stored : session ∈ before.directory.sessions) :
    ∃ now ∈ after.directory.sessions, SessionKept session now := by
  obtain ⟨now, found, kept⟩ := later.sessions session stored
  exact ⟨now, (Table.find_eq_some.mp found).1, kept⟩

theorem NamesSession.later {before after : SignInDesk} (later : Later before after)
    {claims : TokenClaims} (names : NamesSession before.directory.sessions claims) :
    NamesSession after.directory.sessions claims := by
  obtain ⟨session, stored, sid, org, sub⟩ := names
  obtain ⟨now, there, id, organization, user, _⟩ := later.mem stored
  exact ⟨now, there, by rw [sid, id], by rw [org, organization], by rw [sub, user]⟩

section Earlier

variable {earlier history : List SignInEvent} (grows : ∀ event ∈ earlier, event ∈ history)
include grows

theorem MatchedActive.mono {user : User} (matched : MatchedActive earlier user) :
    MatchedActive history user :=
  ⟨matched.1.imp fun _ => grows _, matched.2⟩

theorem Challenged.mono {token userId : Nat} (challenged : Challenged earlier token userId) :
    Challenged history token userId := by
  obtain ⟨⟨moment, presented⟩, user, signedAt, signed, same⟩ := challenged
  exact ⟨⟨moment, grows _ presented⟩, user, signedAt, grows _ signed, same⟩

theorem GroundsFor.mono {userId : Nat} {grounds : Grounds} (holds : GroundsFor earlier userId grounds) :
    GroundsFor history userId grounds := by
  cases grounds with
  | password =>
    obtain ⟨user, matched, rest⟩ := holds
    exact ⟨user, matched.mono grows, rest⟩
  | code token => exact holds.imp fun _ => grows _
  | provider provider subject => exact grows _ holds
  | claimLink => exact trivial

end Earlier

/-! ## What the steps keep -/

variable {verifyPassword : String → String → Bool} {crypto : TwoFactorCrypto}
variable {desk : SignInDesk}

namespace SignInsSound

/-- Nothing is signed, and nothing opened. -/
theorem unsigned {after : SignInDesk} (sound : SignInsSound verifyPassword crypto desk)
    (history : after.history = desk.history) (tokens : after.tokens = desk.tokens)
    (ends : OnlyEnds desk.directory.sessions after.directory.sessions)
    (clock : desk.clock ≤ after.clock) : SignInsSound verifyPassword crypto after where
  stands := history ▸ sound.stands
  opened := by
    intro session stored
    obtain ⟨old, there, kept⟩ := ends.comes session stored
    obtain ⟨opening, grounds, logged, sinceOpening⟩ := sound.opened old there
    exact ⟨opening, grounds, history ▸ logged, sinceOpening.trans kept⟩
  named := by
    rw [tokens]
    have later : Later desk after := .of_onlyEnds (history ▸ fun _ => id) ends clock
    exact fun token stored kind => (sound.named token stored kind).later later
  challenged := by
    rw [tokens, history]
    exact sound.challenged

theorem recorded (sound : SignInsSound verifyPassword crypto desk) {event : SignInEvent}
    (rests : RestsOn verifyPassword crypto desk.history event) :
    SignInsSound verifyPassword crypto (desk.record event) where
  stands := ⟨rests, sound.stands⟩
  opened := by
    intro session stored
    obtain ⟨opening, grounds, logged, kept⟩ := sound.opened session stored
    exact ⟨opening, grounds, List.mem_cons_of_mem _ logged, kept⟩
  named := sound.named
  challenged := by
    intro token stored kind
    obtain ⟨user, moment, logged, rest⟩ := sound.challenged token stored kind
    exact ⟨user, moment, List.mem_cons_of_mem _ logged, rest⟩

/-- A token that is no challenge is signed, of a session if it is a session's. -/
theorem signed (sound : SignInsSound verifyPassword crypto desk) {claims : TokenClaims}
    {expiresIn : Nat} (other : claims.typ ≠ .twofa)
    (names : claims.typ = .access ∨ claims.typ = .refresh →
      NamesSession desk.directory.sessions claims) :
    SignInsSound verifyPassword crypto (signAsync desk claims expiresIn) where
  stands := sound.stands
  opened := sound.opened
  named := by
    intro token stored kind
    rcases Table.mem_insert.mp stored with old | rfl
    · exact sound.named token old kind
    · exact names kind
  challenged := by
    intro token stored kind
    rcases Table.mem_insert.mp stored with old | rfl
    · exact sound.challenged token old kind
    · exact absurd kind other

theorem challengeSigned (sound : SignInsSound verifyPassword crypto desk) {user : User}
    {rememberMe : Bool} (matched : MatchedActive desk.history user)
    (asked : user.twoFactorEnabled = true) :
    SignInsSound verifyPassword crypto
      ((signAsync desk (challengeClaims user rememberMe) TWO_FACTOR_CHALLENGE_TTL_SECONDS).record
        (.challengeSigned desk.tokens.next user desk.clock)) where
  stands := ⟨⟨matched, asked⟩, sound.stands⟩
  opened := by
    intro session stored
    obtain ⟨opening, grounds, logged, kept⟩ := sound.opened session stored
    exact ⟨opening, grounds, List.mem_cons_of_mem _ logged, kept⟩
  named := by
    intro token stored kind
    rcases Table.mem_insert.mp stored with old | rfl
    · exact sound.named token old kind
    · rcases kind with kind | kind <;> cases kind
  challenged := by
    intro token stored kind
    rcases Table.mem_insert.mp stored with old | rfl
    · obtain ⟨reader, moment, logged, rest⟩ := sound.challenged token old kind
      exact ⟨reader, moment, List.mem_cons_of_mem _ logged, rest⟩
    · exact ⟨user, desk.clock, List.mem_cons_self, rfl, rfl⟩

theorem sessionInserted (sound : SignInsSound verifyPassword crypto desk) {found : LoginUser}
    {expiresAt : Instant} {grounds : Grounds}
    (shown : GroundsFor desk.history found.user.id grounds) :
    SignInsSound verifyPassword crypto (insertSession desk found expiresAt grounds) where
  stands := ⟨shown, sound.stands⟩
  opened := by
    intro session stored
    rcases Table.mem_insert.mp stored with old | rfl
    · obtain ⟨opening, reason, logged, kept⟩ := sound.opened session old
      exact ⟨opening, reason, List.mem_cons_of_mem _ logged, kept⟩
    · exact ⟨_, grounds, List.mem_cons_self, SessionKept.refl _⟩
  named := fun token stored kind =>
    (sound.named token stored kind).later (Later.insertSession desk found expiresAt grounds)
  challenged := by
    intro token stored kind
    obtain ⟨user, moment, logged, rest⟩ := sound.challenged token stored kind
    exact ⟨user, moment, List.mem_cons_of_mem _ logged, rest⟩

/-- Both tokens of a session. -/
theorem tokensIssued (sound : SignInsSound verifyPassword crypto desk) (config : TokenConfig)
    {subject : TokenSubject} {refreshTtl : Nat}
    (names : NamesSession desk.directory.sessions (sessionClaims .access subject)) :
    SignInsSound verifyPassword crypto (issueTokens config desk subject refreshTtl).1 :=
  (sound.signed (by simp [sessionClaims] : (sessionClaims .access subject).typ ≠ .twofa)
    fun _ => names).signed (by simp [sessionClaims]) fun _ => names

end SignInsSound

/-! ## What calls know -/

/-- What a call has shown or read, still true of the log and the sessions. -/
def KnowsSignIn (desk : SignInDesk) : SignInPhase → Prop
  | .challenge found _ =>
    MatchedActive desk.history found.user ∧ found.user.twoFactorEnabled = true
  | .requireAccount token claims _ => Challenged desk.history token claims.sub
  | .verifyCode token found claims _ =>
    Challenged desk.history token claims.sub ∧ found.user.id = claims.sub
  | .spendCode token found claims row _ =>
    Challenged desk.history token claims.sub ∧ found.user.id = claims.sub ∧
      row.userId = claims.sub ∧ row.confirmedAt ≠ none
  | .findBySubject input identity | .findUserByEmail input identity
  | .createAccount input identity | .activateEmail input identity _ | .link input identity _ =>
    .identityVerified input.provider identity ∈ desk.history
  | .loadEligible input subject userId =>
    .accountResolved input.provider subject userId ∈ desk.history
  | .openSession found _ grounds => GroundsFor desk.history found.user.id grounds
  | .issueTokens subject _ =>
    NamesSession desk.directory.sessions (sessionClaims .access subject)
  | .assertSessionLive claims | .signAccess claims | .isSessionLive claims _ =>
    NamesSession desk.directory.sessions claims
  | .logout auth | .revokeOwn auth _ | .revokeOthers auth | .listLive auth
  | .done (.admitted auth) => ∃ session ∈ desk.directory.sessions,
      session.id = auth.sessionId ∧ IsOwn auth session
  | _ => True

theorem KnowsSignIn.later {before after : SignInDesk} (later : Later before after)
    {phase : SignInPhase} (knows : KnowsSignIn before phase) : KnowsSignIn after phase := by
  have own {auth : AuthContext} (there : ∃ session ∈ before.directory.sessions,
      session.id = auth.sessionId ∧ IsOwn auth session) :
      ∃ session ∈ after.directory.sessions, session.id = auth.sessionId ∧ IsOwn auth session := by
    obtain ⟨session, stored, named, org, user⟩ := there
    obtain ⟨now, nowStored, id, organization, userNow, _⟩ := later.mem stored
    exact ⟨now, nowStored, id.trans named, organization.trans org, userNow.trans user⟩
  cases phase with
  | challenge => exact ⟨knows.1.mono later.history, knows.2⟩
  | requireAccount => exact Challenged.mono later.history knows
  | verifyCode | spendCode => exact ⟨knows.1.mono later.history, knows.2⟩
  | findBySubject | findUserByEmail | createAccount | activateEmail | link | loadEligible =>
    exact later.history _ knows
  | openSession => exact GroundsFor.mono later.history knows
  | issueTokens | assertSessionLive | signAccess | isSessionLive => exact NamesSession.later later knows
  | logout | revokeOwn | revokeOthers | listLive => exact own knows
  | done reply =>
    cases reply with
    | admitted auth => exact own knows
    | _ => exact trivial
  | _ => exact trivial

/-! ## Steps -/

section Steps

variable (verifyPassword crypto desk)

/-- What a step comes to: a sound desk again, on which the next phase knows what it should. -/
structure StepsSoundly (acted : SignInDesk × SignInPhase) : Prop where
  later : Later desk acted.1
  sound : SignInsSound verifyPassword crypto acted.1
  knows : KnowsSignIn acted.1 acted.2

end Steps

section Acts

variable (sound : SignInsSound verifyPassword crypto desk)
include sound

theorem stays {phase : SignInPhase} (knows : KnowsSignIn desk phase) :
    StepsSoundly verifyPassword crypto desk (desk, phase) :=
  ⟨Later.refl desk, sound, knows⟩

theorem refuses (refusal : SignInRefusal) :
    StepsSoundly verifyPassword crypto desk (desk, .refuse refusal) :=
  stays sound trivial

theorem records {event : SignInEvent} {phase : SignInPhase}
    (rests : RestsOn verifyPassword crypto desk.history event)
    (knows : KnowsSignIn (desk.record event) phase) :
    StepsSoundly verifyPassword crypto desk (desk.record event, phase) :=
  ⟨Later.record desk event, sound.recorded rests, knows⟩

end Acts

theorem verifyAsync_eq_some {token : Nat} {claims : TokenClaims} :
    verifyAsync desk token = some claims ↔
      ∃ signed, desk.tokens.find token = some signed ∧ desk.clock / 1000 < signed.exp ∧
        signed.claims = claims := by
  simp [verifyAsync, Option.bind_eq_some_iff]

theorem verifyTyp_eq_some {typ : TokenTyp} {token : Nat} {claims : TokenClaims} :
    verifyTyp desk typ token = some claims ↔
      verifyAsync desk token = some claims ∧ claims.typ = typ := by
  simp [verifyTyp, Option.filter_eq_some_iff]

/-- A profile is of the user it was asked for. -/
theorem findProfile_user {directory : Directory} {userId : Nat} {found : LoginUser}
    (loaded : findProfile directory userId = some found) : found.user.id = userId := by
  obtain ⟨user, there, live⟩ := Option.bind_eq_some_iff.mp loaded
  obtain ⟨_, joined⟩ := Option.ite_none_right_eq_some.mp live
  obtain ⟨org, _, rfl⟩ := Option.map_eq_some_iff.mp joined
  exact (Table.find_eq_some.mp there).2

section Begin

variable (sound : SignInsSound verifyPassword crypto desk)
include sound

theorem verified_named {token : Nat} {claims : TokenClaims}
    (verified : verifyAsync desk token = some claims)
    (session : claims.typ = .access ∨ claims.typ = .refresh) :
    NamesSession desk.directory.sessions claims := by
  obtain ⟨signed, found, _, rfl⟩ := verifyAsync_eq_some.mp verified
  exact sound.named signed (Table.find_eq_some.mp found).1 session

/-- A challenge that comes back unexpired was signed for a password that matched. -/
theorem begins_complete {answers : SignInAnswers} {token : Nat} {code : String} :
    StepsSoundly verifyPassword crypto desk (beginSignIn desk answers (.complete token code)) := by
  simp only [beginSignIn]
  cases verified : verifyTyp desk .twofa token with
  | none => exact refuses sound _
  | some claims =>
    cases answers.locked with
    | some exception => exact refuses sound _
    | none =>
      obtain ⟨read, kind⟩ := verifyTyp_eq_some.mp verified
      obtain ⟨signed, found, inTime, rfl⟩ := verifyAsync_eq_some.mp read
      obtain ⟨stored, named⟩ := Table.find_eq_some.mp found
      obtain ⟨user, moment, logged, sub, exp⟩ := sound.challenged signed stored kind
      have same : signed.id = token := named
      rw [same] at logged
      refine records sound ⟨user, moment, logged, exp ▸ inTime⟩ ⟨⟨_, List.mem_cons_self⟩, ?_⟩
      exact ⟨user, moment, List.mem_cons_of_mem _ logged, sub.symm⟩

theorem begins_social {answers : SignInAnswers} {input : SocialSignInInput} :
    StepsSoundly verifyPassword crypto desk (beginSocial desk answers input) := by
  unfold beginSocial
  cases socialRefusal input with
  | some refusal => exact refuses sound refusal
  | none =>
    cases answers.identity with
    | none => exact refuses sound _
    | some identity =>
      dsimp only
      split
      · rename_i proven
        exact records sound proven List.mem_cons_self
      · exact refuses sound _

theorem begins {answers : SignInAnswers} (request : SignInRequest) :
    StepsSoundly verifyPassword crypto desk (beginSignIn desk answers request) := by
  cases request with
  | login input =>
    refine stays sound ?_
    split <;> exact trivial
  | complete token code => exact begins_complete sound
  | social input => exact begins_social sound
  | refresh token =>
    refine stays sound ?_
    cases verified : verifyTyp desk .refresh token with
    | none => exact trivial
    | some claims =>
      obtain ⟨read, kind⟩ := verifyTyp_eq_some.mp verified
      exact verified_named sound read (Or.inr kind)
  | authenticated token call =>
    refine stays sound ?_
    cases verified : verifyAsync desk token with
    | none => exact trivial
    | some claims =>
      dsimp only
      split
      · rename_i kind
        exact verified_named sound verified (Or.inl kind)
      · exact trivial

end Begin

section Shown

variable (sound : SignInsSound verifyPassword crypto desk)
include sound

/-- An active account whose password matched is challenged, or signed in. -/
theorem signsIn_matched {found : LoginUser} {password : String} {rememberMe : Bool}
    (fits : passwordFits verifyPassword password found = true) :
    StepsSoundly verifyPassword crypto desk
      (desk.record (.passwordMatched found.user password), afterMatch found rememberMe) := by
  obtain ⟨hashed, has, verified⟩ := (Option.any_eq_true _ _).mp fits
  refine records sound ⟨hashed, has, verified⟩ ?_
  have matched (active : found.user.status = .active) : MatchedActive
      (.passwordMatched found.user password :: desk.history) found.user :=
    ⟨⟨password, List.mem_cons_self⟩, active⟩
  unfold afterMatch
  cases status : found.user.status with
  | unconfirmed | invited | suspended => exact trivial
  | active =>
    cases asked : found.user.twoFactorEnabled with
    | true => exact ⟨matched status, asked⟩
    | false => exact ⟨found.user, matched status, rfl, asked⟩

theorem compares {input : LoginInput} {accounts : List LoginUser} :
    StepsSoundly verifyPassword crypto desk
      (signInTo desk input.password (input.rememberMe.getD false)
        (accounts.filter (passwordFits verifyPassword input.password))) := by
  have fit : ∀ found ∈ accounts.filter (passwordFits verifyPassword input.password),
      passwordFits verifyPassword input.password found = true :=
    fun _ member => (List.mem_filter.mp member).2
  generalize accounts.filter (passwordFits verifyPassword input.password) = matched at fit
  match matched with
  | [] => exact refuses sound _
  | [found] => exact signsIn_matched sound (fit found List.mem_cons_self)
  | _ :: _ :: _ => exact stays sound trivial

theorem acceptsCode {token : Nat} {found : LoginUser} {claims : TokenClaims} {proof : CodeProof}
    (challenged : Challenged desk.history token claims.sub) (same : found.user.id = claims.sub)
    (passes : PassesFor crypto claims.sub proof) :
    StepsSoundly verifyPassword crypto desk
      (acceptCode desk token found claims (some proof)) :=
  records sound ⟨passes, challenged⟩ ⟨proof, by rw [same]; exact List.mem_cons_self⟩

theorem verifiesCode {token : Nat} {found : LoginUser} {claims : TokenClaims} {code : String}
    (challenged : Challenged desk.history token claims.sub) (same : found.user.id = claims.sub) :
    StepsSoundly verifyPassword crypto desk
      (verifyCode crypto desk token found claims code) := by
  unfold verifyCode
  cases enrolled : findTwoFactor desk.twoFactor claims.sub with
  | none => exact refuses sound _
  | some row =>
    obtain ⟨_, mine⟩ := Table.mem_select.mp (List.mem_of_head? enrolled)
    dsimp only [afterVerify]
    by_cases confirmed : row.confirmedAt = none
    · rw [if_pos confirmed]
      exact refuses sound _
    · rw [if_neg confirmed]
      cases passed : verifyTotp crypto row.secret code desk.clock with
      | true => exact acceptsCode sound challenged same ⟨mine, confirmed, passed⟩
      | false => exact stays sound ⟨challenged, same, mine, confirmed⟩

theorem spendsCode {token : Nat} {found : LoginUser} {claims : TokenClaims} {row : TwoFactor}
    {code : String} (knows : KnowsSignIn desk (.spendCode token found claims row code)) :
    StepsSoundly verifyPassword crypto desk
      (spendCode crypto desk token found claims row code) := by
  obtain ⟨challenged, same, mine, confirmed⟩ := knows
  unfold spendCode
  generalize (consumeRecoveryCode desk.twoFactor row.id (crypto.hashCode code)).1 = after
  have spent : SignInsSound verifyPassword crypto
      { desk with recoveryCodes := after.recoveryCodes } :=
    ⟨sound.stands, sound.opened, sound.named, sound.challenged⟩
  dsimp only
  cases hit : (desk.recoveryCodes.select (Spendable row.id (crypto.hashCode code))).head? with
  | none =>
    obtain ⟨later, soundly, knows⟩ := refuses spent .badCode
    exact ⟨⟨later.history, later.sessions, later.clock⟩, soundly, knows⟩
  | some picked =>
    obtain ⟨_, spendable⟩ := Table.mem_select.mp (List.mem_of_head? hit)
    have passes : PassesFor crypto claims.sub (.recovery row picked code) :=
      ⟨mine, confirmed, spendable⟩
    obtain ⟨later, soundly, knows⟩ := acceptsCode spent challenged same passes
    exact ⟨⟨later.history, later.sessions, later.clock⟩, soundly, knows⟩

end Shown

theorem linkIdentity_frame {provider : LinkedProvider} {subject : String} {userId : Nat}
    {after : SignInDesk} (linked : linkIdentity desk provider subject userId = some after) :
    after.history = desk.history ∧ after.tokens = desk.tokens ∧
      after.directory.sessions = desk.directory.sessions ∧ after.clock = desk.clock := by
  unfold linkIdentity at linked
  dsimp only at linked
  split at linked
  · cases linked
  · split at linked <;> cases linked <;> exact ⟨rfl, rfl, rfl, rfl⟩

section Accounts

variable (sound : SignInsSound verifyPassword crypto desk)
include sound

/-- A step that changes accounts and links only. -/
theorem changesAccounts {after : SignInDesk} {phase : SignInPhase}
    (history : after.history = desk.history) (tokens : after.tokens = desk.tokens)
    (sessions : after.directory.sessions = desk.directory.sessions)
    (clock : after.clock = desk.clock) (knows : KnowsSignIn after phase) :
    StepsSoundly verifyPassword crypto desk (after, phase) := by
  have ends : OnlyEnds desk.directory.sessions after.directory.sessions :=
    sessions ▸ OnlyEnds.refl _
  exact ⟨.of_onlyEnds (history ▸ fun _ => id) ends clock.ge,
    sound.unsigned history tokens ends clock.ge, knows⟩

theorem createsAccount {answers : SignInAnswers} {input : SocialSignInInput}
    {identity : VerifiedIdentity}
    (verified : .identityVerified input.provider identity ∈ desk.history) :
    StepsSoundly verifyPassword crypto desk (createAccount desk answers input identity) := by
  unfold createAccount
  cases audience : input.audience with
  | admin => exact changesAccounts sound rfl rfl rfl rfl verified
  | attendee =>
    dsimp only [createAttendee]
    cases (desk.directory.organizations.select fun row =>
        desk.slugs row.id = input.orgSlug.getD "" ∧ row.deletedAt = none).head? with
    | none => exact refuses sound _
    | some org =>
      dsimp only
      by_cases taken : ∃ user ∈ desk.directory.users.rows, IsAttendeeOf org.id identity.email user
      · rw [if_pos taken]
        exact stays sound trivial
      · rw [if_neg taken]
        exact changesAccounts sound rfl rfl rfl rfl verified

theorem links {input : SocialSignInInput} {identity : VerifiedIdentity} {userId : Nat}
    (verified : .identityVerified input.provider identity ∈ desk.history) :
    StepsSoundly verifyPassword crypto desk (afterLink desk input identity userId
      (linkIdentity desk input.provider identity.subject userId)) := by
  cases linked : linkIdentity desk input.provider identity.subject userId with
  | none => exact stays sound trivial
  | some after =>
    obtain ⟨history, tokens, sessions, clock⟩ := linkIdentity_frame linked
    have first : StepsSoundly verifyPassword crypto desk (after, .done .crashed) :=
      changesAccounts sound history tokens sessions clock trivial
    obtain ⟨later, soundly, knows⟩ : StepsSoundly verifyPassword crypto after
        (after.record (.accountResolved input.provider identity.subject userId),
          .loadEligible input identity.subject userId) :=
      records first.sound ⟨identity, history ▸ verified, rfl⟩ List.mem_cons_self
    exact ⟨first.later.trans later, soundly, knows⟩

theorem loadsEligible {input : SocialSignInInput} {subject : String} {userId : Nat}
    (resolved : .accountResolved input.provider subject userId ∈ desk.history) :
    StepsSoundly verifyPassword crypto desk
      (desk, loadEligible desk input subject userId) := by
  refine stays sound ?_
  unfold loadEligible
  cases loaded : findProfile desk.directory userId with
  | none => exact trivial
  | some found =>
    have mine : found.user.id = userId := findProfile_user loaded
    dsimp only
    split
    · exact trivial
    · split
      · exact trivial
      · change .accountResolved input.provider subject found.user.id ∈ desk.history
        rw [mine]
        exact resolved

end Accounts

section Sessions

variable (sound : SignInsSound verifyPassword crypto desk)
include sound

theorem requiresAccount {token : Nat} {claims : TokenClaims} {code : String}
    (challenged : Challenged desk.history token claims.sub) :
    StepsSoundly verifyPassword crypto desk (desk, requireAccount desk token claims code) := by
  refine stays sound ?_
  unfold requireAccount
  cases loaded : findProfile desk.directory claims.sub with
  | none => exact trivial
  | some found =>
    dsimp only
    split
    · exact trivial
    · split
      · exact trivial
      · exact ⟨challenged, findProfile_user loaded⟩

theorem opensSession {config : TokenConfig} {found : LoginUser} {rememberMe : Bool}
    {grounds : Grounds} (shown : GroundsFor desk.history found.user.id grounds) :
    StepsSoundly verifyPassword crypto desk
      (openSession config desk found rememberMe grounds) where
  later := Later.insertSession _ _ _ _
  sound := sound.sessionInserted shown
  knows := ⟨_, Table.mem_insert.mpr (Or.inr rfl), rfl, rfl, rfl⟩

theorem issues {config : TokenConfig} {subject : TokenSubject} {refreshTtl : Nat}
    (names : NamesSession desk.directory.sessions (sessionClaims .access subject)) :
    StepsSoundly verifyPassword crypto desk (issueTokens config desk subject refreshTtl) :=
  ⟨⟨fun _ => id, Table.Persists.of_eq rfl SessionKept.refl, le_rfl⟩,
    sound.tokensIssued config names, trivial⟩

theorem signsAccess {claims : TokenClaims} {expiresIn token : Nat}
    (names : NamesSession desk.directory.sessions claims) :
    StepsSoundly verifyPassword crypto desk
      (signAsync desk { claims with typ := .access } expiresIn, .done (.refreshed token)) :=
  ⟨⟨fun _ => id, Table.Persists.of_eq rfl SessionKept.refl, le_rfl⟩,
    sound.signed (by simp) fun _ => names, trivial⟩

/-- The caller a token names has the session it names. -/
theorem admits {claims : TokenClaims} {call : SessionCall}
    (names : NamesSession desk.directory.sessions claims) :
    StepsSoundly verifyPassword crypto desk (actOnSignIn verifyPassword crypto ⟨0, 0, 0⟩ desk
      ⟨none, none, "", 0⟩ (.isSessionLive claims call)) := by
  refine stays sound ?_
  obtain ⟨session, stored, sid, org, sub⟩ := names
  have named : principalOf claims = some
      { userId := claims.sub, organizationId := session.organizationId, sessionId := session.id } := by
    rw [principalOf, sid, org]
    rfl
  rw [named]
  dsimp only
  split
  · have own : ∃ row ∈ desk.directory.sessions, row.id = session.id ∧
        IsOwn { userId := claims.sub, organizationId := session.organizationId
                sessionId := session.id } row :=
      ⟨session, stored, rfl, rfl, sub.symm⟩
    cases call with
    | revoke sessionId =>
      dsimp only [afterAdmission]
      split
      · exact trivial
      · exact own
    | logout | revokeOthers | list | other => exact own
  · exact trivial

theorem revokes {picked : AuthSession → Prop} [DecidablePred picked] {phase : SignInPhase}
    (knows : KnowsSignIn (revokeWhere desk picked) phase) :
    StepsSoundly verifyPassword crypto desk (revokeWhere desk picked, phase) := by
  have ends : OnlyEnds desk.directory.sessions (revokeWhere desk picked).directory.sessions :=
    OnlyEnds.revoke desk.clock fun _ hit => hit.2
  exact ⟨.of_onlyEnds (fun _ => id) ends le_rfl, sound.unsigned rfl rfl ends le_rfl, knows⟩

/-- Every step of a call keeps a sound desk sound, and comes to know what its next step needs. -/
theorem actsSoundly (config : TokenConfig) (answers : SignInAnswers) {phase : SignInPhase}
    (knows : KnowsSignIn desk phase) :
    StepsSoundly verifyPassword crypto desk
      (actOnSignIn verifyPassword crypto config desk answers phase) := by
  cases phase with
  | begin request => exact begins sound request
  | compare input realm => exact compares sound
  | resendVerification found =>
    exact ⟨⟨fun _ => id, Table.Persists.of_eq rfl SessionKept.refl, le_rfl⟩,
      sound.signed (by simp) (by simp), trivial⟩
  | challenge found rememberMe =>
    exact ⟨⟨fun _ => List.mem_cons_of_mem _, Table.Persists.of_eq rfl SessionKept.refl, le_rfl⟩,
      sound.challengeSigned knows.1 knows.2, trivial⟩
  | requireAccount token claims code => exact requiresAccount sound knows
  | verifyCode token found claims code => exact verifiesCode sound knows.1 knows.2
  | spendCode token found claims row code => exact spendsCode sound knows
  | findBySubject input identity =>
    dsimp only [actOnSignIn]
    cases findBySubject desk input.provider identity.subject with
    | none => exact stays sound knows
    | some row => exact records sound ⟨identity, knows, rfl⟩ List.mem_cons_self
  | findUserByEmail input identity =>
    refine stays sound ?_
    cases findUserByEmail desk identity.email input.audience input.orgSlug with
    | none => exact knows
    | some existing => exact knows
  | createAccount input identity => exact createsAccount sound knows
  | activateEmail input identity userId => exact changesAccounts sound rfl rfl rfl rfl knows
  | link input identity userId => exact links sound knows
  | loadEligible input subject userId => exact loadsEligible sound knows
  | openSession found rememberMe grounds => exact opensSession sound knows
  | issueTokens subject refreshTtl => exact issues sound knows
  | assertSessionLive claims =>
    refine stays sound ?_
    split
    · exact knows
    · exact trivial
  | signAccess claims => exact signsAccess sound knows
  | isSessionLive claims call => exact admits sound knows
  | logout auth => exact revokes sound trivial
  | revokeOwn auth sessionId =>
    refine revokes sound ?_
    split <;> exact trivial
  | revokeOthers auth => exact revokes sound trivial
  | listLive auth => exact stays sound trivial
  | done reply => exact stays sound knows

/-! ## What comes from outside -/

/-- What ends sessions and signs nothing. -/
theorem endsOutside {after : SignInDesk} (history : after.history = desk.history)
    (tokens : after.tokens = desk.tokens)
    (ends : OnlyEnds desk.directory.sessions after.directory.sessions)
    (clock : desk.clock ≤ after.clock) :
    Later desk after ∧ SignInsSound verifyPassword crypto after :=
  ⟨.of_onlyEnds (history ▸ fun _ => id) ends clock, sound.unsigned history tokens ends clock⟩

theorem claimsSoundly (config : TokenConfig) (userId : Nat) :
    Later desk (claimSession config desk userId) ∧
      SignInsSound verifyPassword crypto (claimSession config desk userId) := by
  unfold claimSession
  cases findProfile desk.directory userId with
  | none => exact ⟨Later.refl desk, sound⟩
  | some found =>
    have opened : StepsSoundly verifyPassword crypto desk
        (openSession config desk found false .claimLink) := opensSession sound trivial
    obtain ⟨later, soundly, _⟩ : StepsSoundly verifyPassword crypto _
        (issueTokens config _ _ (refreshTtlFor config false)) := issues opened.sound opened.knows
    exact ⟨opened.later.trans later, soundly⟩

theorem changesSoundly (config : TokenConfig) (event : SignInWorld) :
    Later desk (changeSignIn config desk event) ∧
      SignInsSound verifyPassword crypto (changeSignIn config desk event) := by
  cases event with
  | tick elapsed => exact endsOutside sound rfl rfl (OnlyEnds.refl _) (Nat.le_add_right _ _)
  | setPassword organizationId userId passwordHash keepSessionId =>
    exact endsOutside sound rfl rfl (OnlyEnds.revoke _ fun _ hit => hit.2.2.1) le_rfl
  | supersede userId name passwordHash =>
    refine endsOutside sound rfl rfl ?_ le_rfl
    dsimp only [changeSignIn, supersedeUnconfirmedAttendee]
    cases desk.directory.platformOrganizationId with
    | none => exact OnlyEnds.refl _
    | some organizationId =>
      simp only [Option.bind_eq_bind, Option.bind_some]
      split
      · exact OnlyEnds.refl _
      · exact OnlyEnds.revoke _ fun _ hit => hit.2.2
  | scheduleDeletion organizationId userId =>
    refine endsOutside sound rfl rfl ?_ le_rfl
    dsimp only [changeSignIn, scheduleDeletion]
    split
    · exact OnlyEnds.refl _
    · exact OnlyEnds.revoke _ fun _ hit => hit.2
  | revokeSessions userId =>
    exact endsOutside sound rfl rfl (OnlyEnds.revoke _ fun _ hit => hit.2) le_rfl
  | claim userId => exact claimsSoundly sound config userId
  | accounts | twoFactor => exact endsOutside sound rfl rfl (OnlyEnds.refl _) le_rfl
  | sign claims expiresIn =>
    dsimp only [changeSignIn]
    cases kind : signsIn claims.typ with
    | true => exact ⟨Later.refl desk, sound⟩
    | false =>
      simp only [signsIn, Bool.or_eq_false_iff, decide_eq_false_iff_not] at kind
      obtain ⟨⟨access, refresh⟩, twofa⟩ := kind
      exact ⟨⟨fun _ => id, Table.Persists.of_eq rfl SessionKept.refl, le_rfl⟩,
        sound.signed twofa fun session => by tauto⟩

end Sessions

/-! ## Runs -/

section Runs

variable (verifyPassword crypto) (config : TokenConfig)

theorem signIns_keep :
    (signInRequests verifyPassword crypto config).Keeps (SignInsSound verifyPassword crypto)
      KnowsSignIn (fun _ _ _ => True) (fun _ _ => True) where
  opened := fun _ _ _ => trivial
  crashed := fun _ _ => trivial
  act := fun _ answers _ sound knows _ =>
    let acted := actsSoundly sound config answers knows
    ⟨acted.sound, acted.knows⟩
  undisturbed := fun _ answers _ _ sound knows _ other =>
    KnowsSignIn.later (actsSoundly sound config answers knows).later other
  outside := fun _ event sound _ =>
    let changed := changesSoundly sound config event
    ⟨changed.2, fun _ knows => KnowsSignIn.later changed.1 knows⟩

variable {verifyPassword crypto}

/-- A sound desk that no call works on yet. -/
structure IsFresh (verifyPassword : String → String → Bool) (crypto : TwoFactorCrypto)
    (start : Pool SignInDesk SignInPhase) : Prop where
  sound : SignInsSound verifyPassword crypto start.shared
  idle : start.jobs.rows = []

variable {start : Pool SignInDesk SignInPhase}

theorem IsFresh.run (fresh : IsFresh verifyPassword crypto start)
    (turns : List (PoolTurn SignInRequest SignInAnswers SignInWorld)) :
    (Library.run (signInRequests verifyPassword crypto config).serve start turns).Sound
      (SignInsSound verifyPassword crypto) KnowsSignIn :=
  (signIns_keep verifyPassword crypto config).run
    ⟨fresh.sound, fun job stored => absurd stored (Table.not_mem_of_empty fresh.idle job)⟩
    ((meets_true start turns).mono fun pool turn _ => Handler.guarded_true pool turn)

/-- Whatever interleaves, each event of the log rests on earlier ones, each session was opened as
the log says, each token names a session of its user, and a caller who is admitted is the user
of the session their token names. -/
theorem sessions_rest_on_proof (fresh : IsFresh verifyPassword crypto start)
    (turns : List (PoolTurn SignInRequest SignInAnswers SignInWorld)) :
    let pool := Library.run (signInRequests verifyPassword crypto config).serve start turns
    SignInsSound verifyPassword crypto pool.shared ∧
      ∀ job ∈ pool.jobs, ∀ auth, job.phase = .done (.admitted auth) →
        ∃ session ∈ pool.shared.directory.sessions, session.id = auth.sessionId ∧
          IsOwn auth session ∧ IsOpened pool.shared.history session := by
  have reached := fresh.run config turns
  refine ⟨reached.shared, fun job stored auth admitted => ?_⟩
  have knows := reached.jobs job stored
  rw [admitted] at knows
  obtain ⟨session, there, named, own⟩ := knows
  exact ⟨session, there, named, own, reached.shared.opened session there⟩

end Runs

/-! ## A sign-in, and a request under it -/

def plainPasswords (hashed plain : String) : Bool := hashed = plain

def zeroCodes : TwoFactorCrypto where
  hotp := fun _ _ => "000000"
  hashCode := id

def dayLong : TokenConfig := ⟨900, 604800, 86400⟩

/-- Two accounts of one workspace, of which the second asks for a code. -/
def twoAccounts : Pool SignInDesk SignInPhase where
  shared :=
    { directory :=
        { organizations := ⟨[{ id := 0, name := "Acme" }], 1, by decide, by decide⟩
          users := ⟨[⟨0, 0, "Ann", "ann@acme.co", .admin, .active, some "pear", false, 0, none⟩,
            ⟨1, 0, "Ben", "ben@acme.co", .admin, .active, some "plum", true, 0, none⟩], 2,
            by decide, by decide⟩
          memberships := Table.empty
          sessions := Table.empty
          socialIdentities := Table.empty
          platformOrganizationId := none }
      slugs := fun _ => "acme"
      subjects := fun _ => ""
      twoFactors := Table.empty
      recoveryCodes := Table.empty
      tokens := Table.empty
      clock := 0
      history := [] }
  jobs := Table.empty

theorem twoAccounts_fresh : IsFresh plainPasswords zeroCodes twoAccounts where
  sound :=
    { stands := trivial
      opened := fun _ stored => absurd stored (Table.not_mem_of_empty rfl _)
      named := fun _ stored => absurd stored (Table.not_mem_of_empty rfl _)
      challenged := fun _ stored => absurd stored (Table.not_mem_of_empty rfl _) }
  idle := rfl

def unlocked : SignInAnswers := ⟨none, none, "", 0⟩

def loginWith (email password : String) : PoolTurn SignInRequest SignInAnswers SignInWorld :=
  .receive (.login ⟨email, password, none, none, none⟩)

/-- Ann signs in, and asks for something under her session. -/
def annSignsIn : List (PoolTurn SignInRequest SignInAnswers SignInWorld) :=
  loginWith "ann@acme.co" "pear" :: List.replicate 4 (.advance 0 unlocked) ++
    .receive (.authenticated 0 .other) :: List.replicate 2 (.advance 1 unlocked)

theorem sessions_rest_on_proof_annSignsIn :
    let pool := run (signInRequests plainPasswords zeroCodes dayLong).serve twoAccounts annSignsIn
    ∃ session ∈ pool.shared.directory.sessions, session.id = 0 ∧ IsOwn ⟨0, 0, 0⟩ session ∧
      IsOpened pool.shared.history session := by
  have admitted : (run (signInRequests plainPasswords zeroCodes dayLong).serve twoAccounts
      annSignsIn).jobs.find 1 = some ⟨1, .done (.admitted ⟨0, 0, 0⟩)⟩ := by decide +kernel
  exact (sessions_rest_on_proof dayLong twoAccounts_fresh annSignsIn).2 _
    (Table.find_eq_some.mp admitted).1 ⟨0, 0, 0⟩ rfl

/-! ## Accounts with a second factor -/

section SecondFactor

variable (userId : Nat)

/-- The account asks for a code, wherever its row is read. -/
def AsksForCode (desk : SignInDesk) : Prop :=
  ∀ user ∈ desk.directory.users, user.id = userId → user.twoFactorEnabled = true

/-- No call is about to open a session of the account on its password alone. -/
def NotByPassword : SignInPhase → Prop
  | .openSession found _ .password => found.user.id ≠ userId
  | _ => True

instance (userId : Nat) (desk : SignInDesk) : Decidable (AsksForCode userId desk) :=
  inferInstanceAs (Decidable (∀ user ∈ desk.directory.users.rows, _))

theorem accountsOn_user {directory : Directory} {email : String} {persona : Persona}
    {found : LoginUser} (member : found ∈ accountsOn directory email persona) :
    found.user ∈ directory.users := by
  obtain ⟨user, selected, joined⟩ := List.mem_filterMap.mp member
  obtain ⟨org, _, rfl⟩ := Option.map_eq_some_iff.mp joined
  exact (Table.mem_select.mp selected).1

theorem loginAccounts_user {input : LoginInput} {realm : Option String} {found : LoginUser}
    (member : found ∈ loginAccounts desk input realm) : found.user ∈ desk.directory.users := by
  cases realm with
  | none =>
    have candidate := List.mem_of_mem_take member
    exact accountsOn_user (List.mem_filter.mp candidate).1
  | some orgSlug => exact accountsOn_user (List.mem_of_find?_eq_some (Option.mem_toList.mp member))

variable {userId}

/-- A matched account that asks for a code is challenged, and not signed in. -/
theorem afterMatch_notByPassword {found : LoginUser} {rememberMe : Bool}
    (asks : found.user.id = userId → found.user.twoFactorEnabled = true) :
    NotByPassword userId (afterMatch found rememberMe) := by
  unfold afterMatch
  cases found.user.status with
  | unconfirmed | invited | suspended => exact trivial
  | active =>
    dsimp only
    split
    · exact trivial
    · rename_i unasked
      exact fun mine => unasked (asks mine)

theorem compare_notByPassword {input : LoginInput} {realm : Option String}
    (asks : AsksForCode userId desk) :
    NotByPassword userId (signInTo desk input.password (input.rememberMe.getD false)
      ((loginAccounts desk input realm).filter (passwordFits verifyPassword input.password))).2 := by
  have there : ∀ found ∈ (loginAccounts desk input realm).filter
      (passwordFits verifyPassword input.password), found.user ∈ desk.directory.users :=
    fun found member => loginAccounts_user (List.mem_filter.mp member).1
  generalize (loginAccounts desk input realm).filter
    (passwordFits verifyPassword input.password) = matched at there
  match matched with
  | [] => exact trivial
  | [found] => exact afterMatch_notByPassword (asks found.user (there found List.mem_cons_self))
  | _ :: _ :: _ => exact trivial

theorem begin_notByPassword {answers : SignInAnswers} (request : SignInRequest) :
    NotByPassword userId (beginSignIn desk answers request).2 := by
  cases request with
  | login input =>
    dsimp only [beginSignIn]
    split <;> exact trivial
  | complete token code =>
    dsimp only [beginSignIn]
    split <;> exact trivial
  | social input =>
    dsimp only [beginSignIn, beginSocial]
    split
    · exact trivial
    · split
      · exact trivial
      · split <;> exact trivial
  | refresh token =>
    dsimp only [beginSignIn]
    split <;> exact trivial
  | authenticated token call =>
    dsimp only [beginSignIn]
    split
    · exact trivial
    · split <;> exact trivial

theorem createAccount_notByPassword {answers : SignInAnswers} {input : SocialSignInInput}
    {identity : VerifiedIdentity} :
    NotByPassword userId (createAccount desk answers input identity).2 := by
  unfold createAccount
  cases input.audience with
  | admin => exact trivial
  | attendee =>
    dsimp only [createAttendee]
    cases (desk.directory.organizations.select fun row =>
        desk.slugs row.id = input.orgSlug.getD "" ∧ row.deletedAt = none).head? with
    | none => exact trivial
    | some org =>
      dsimp only
      split
      · rename_i refused
        split at refused <;> cases refused
        exact trivial
      · exact trivial

/-- Only the comparison of a password leads to opening on a password. -/
theorem acts_notByPassword (config : TokenConfig) (answers : SignInAnswers) {phase : SignInPhase}
    (asks : AsksForCode userId desk) :
    NotByPassword userId (actOnSignIn verifyPassword crypto config desk answers phase).2 := by
  cases phase with
  | begin request => exact begin_notByPassword request
  | compare input realm => exact compare_notByPassword asks
  | createAccount input identity => exact createAccount_notByPassword
  | requireAccount token claims code =>
    dsimp only [actOnSignIn, requireAccount]
    split
    · exact trivial
    · split
      · exact trivial
      · split <;> exact trivial
  | verifyCode token found claims code =>
    dsimp only [actOnSignIn, verifyCode]
    split
    · exact trivial
    · split <;> exact trivial
  | spendCode token found claims row code =>
    dsimp only [actOnSignIn, spendCode]
    cases (desk.recoveryCodes.select (Spendable row.id (crypto.hashCode code))).head? <;>
      exact trivial
  | findBySubject input identity =>
    dsimp only [actOnSignIn]
    split <;> exact trivial
  | findUserByEmail input identity =>
    dsimp only [actOnSignIn]
    split <;> exact trivial
  | link input identity =>
    dsimp only [actOnSignIn]
    cases linkIdentity desk input.provider identity.subject _ <;> exact trivial
  | loadEligible input subject userId =>
    dsimp only [actOnSignIn, loadEligible]
    split
    · exact trivial
    · split
      · exact trivial
      · split <;> exact trivial
  | assertSessionLive claims =>
    dsimp only [actOnSignIn]
    split <;> exact trivial
  | isSessionLive claims call =>
    dsimp only [actOnSignIn]
    split
    · split
      · cases call with
        | revoke sessionId =>
          dsimp only [afterAdmission]
          split <;> exact trivial
        | logout | revokeOthers | list | other => exact trivial
      · exact trivial
    · exact trivial
  | revokeOwn auth sessionId =>
    dsimp only [actOnSignIn, revokeOwn]
    split <;> exact trivial
  | done reply => exact trivial
  | resendVerification | challenge | activateEmail | openSession | issueTokens | signAccess
  | logout | revokeOthers | listLive => exact trivial

/-! ### What steps log -/

/-- The openings on the log are earlier ones. -/
def OpensNone (before after : List SignInEvent) : Prop :=
  ∀ session grounds, .sessionOpened session grounds ∈ after → .sessionOpened session grounds ∈ before

theorem OpensNone.of_eq {before after : List SignInEvent} (same : after = before) :
    OpensNone before after :=
  fun _ _ logged => same ▸ logged

theorem OpensNone.record {event : SignInEvent}
    (other : ∀ session grounds, event ≠ .sessionOpened session grounds) :
    OpensNone desk.history (desk.record event).history := by
  intro session grounds logged
  rcases List.mem_cons.mp logged with new | old
  · exact absurd new.symm (other session grounds)
  · exact old

theorem begin_opensNone {answers : SignInAnswers} (request : SignInRequest) :
    OpensNone desk.history (beginSignIn desk answers request).1.history := by
  cases request with
  | login | refresh | authenticated => exact .of_eq rfl
  | complete token code =>
    dsimp only [beginSignIn]
    split
    · exact .of_eq rfl
    · exact .of_eq rfl
    · exact .record (by simp)
  | social input =>
    dsimp only [beginSignIn, beginSocial]
    split
    · exact .of_eq rfl
    · split
      · exact .of_eq rfl
      · split
        · exact .record (by simp)
        · exact .of_eq rfl

theorem signInTo_opensNone {password : String} {rememberMe : Bool} (matched : List LoginUser) :
    OpensNone desk.history (signInTo desk password rememberMe matched).1.history := by
  match matched with
  | [] => exact .of_eq rfl
  | [_] => exact .record (by simp)
  | _ :: _ :: _ => exact .of_eq rfl

theorem acceptCode_opensNone {token : Nat} {found : LoginUser} {claims : TokenClaims}
    (proof : Option CodeProof) :
    OpensNone desk.history (acceptCode desk token found claims proof).1.history := by
  cases proof with
  | none => exact .of_eq rfl
  | some proof => exact .record (by simp)

theorem verifyCode_opensNone {token : Nat} {found : LoginUser} {claims : TokenClaims}
    {code : String} :
    OpensNone desk.history (verifyCode crypto desk token found claims code).1.history := by
  unfold verifyCode
  split
  · exact .of_eq rfl
  · split
    · exact acceptCode_opensNone _
    · exact .of_eq rfl
    · exact .of_eq rfl

theorem createAccount_history {answers : SignInAnswers} {input : SocialSignInInput}
    {identity : VerifiedIdentity} :
    (createAccount desk answers input identity).1.history = desk.history := by
  unfold createAccount
  cases input.audience with
  | admin => rfl
  | attendee =>
    dsimp only [createAttendee]
    cases (desk.directory.organizations.select fun row =>
        desk.slugs row.id = input.orgSlug.getD "" ∧ row.deletedAt = none).head? with
    | none => rfl
    | some org =>
      dsimp only
      by_cases taken : ∃ user ∈ desk.directory.users.rows, IsAttendeeOf org.id identity.email user
      · rw [if_pos taken]
      · rw [if_neg taken]

/-- A session is opened for the account its phase has found, and on its phase's grounds. -/
theorem acts_open (config : TokenConfig) (answers : SignInAnswers) {phase : SignInPhase} :
    OpensNone desk.history
        (actOnSignIn verifyPassword crypto config desk answers phase).1.history ∨
      ∃ found rememberMe grounds, phase = .openSession found rememberMe grounds ∧
        ∃ session : AuthSession, session.userId = found.user.id ∧
          (actOnSignIn verifyPassword crypto config desk answers phase).1.history =
            .sessionOpened session grounds :: desk.history := by
  cases phase with
  | openSession found rememberMe grounds =>
    exact Or.inr ⟨found, rememberMe, grounds, rfl, _, rfl, rfl⟩
  | begin request => exact Or.inl (begin_opensNone request)
  | compare input realm => exact Or.inl (signInTo_opensNone _)
  | challenge found rememberMe => exact Or.inl (@OpensNone.record (signAsync desk _ _) _ (by simp))
  | verifyCode token found claims code => exact Or.inl verifyCode_opensNone
  | spendCode token found claims row code => exact Or.inl (@acceptCode_opensNone
      { desk with recoveryCodes := _ } _ _ _ _)
  | findBySubject input identity =>
    left
    dsimp only [actOnSignIn]
    split
    · exact .record (by simp)
    · exact .of_eq rfl
  | createAccount input identity => exact Or.inl (.of_eq createAccount_history)
  | link input identity userId =>
    left
    dsimp only [actOnSignIn]
    cases linked : linkIdentity desk input.provider identity.subject userId with
    | none => exact .of_eq rfl
    | some after =>
      have same : after.history = desk.history := (linkIdentity_frame linked).1
      exact same ▸ @OpensNone.record after _ (by simp)
  | resendVerification | requireAccount | findUserByEmail | activateEmail | loadEligible
  | issueTokens | assertSessionLive | signAccess | isSessionLive | logout | revokeOwn
  | revokeOthers | listLive | done => exact Or.inl (.of_eq rfl)

theorem changes_open (config : TokenConfig) (event : SignInWorld) {session : AuthSession}
    (logged : .sessionOpened session .password ∈ (changeSignIn config desk event).history) :
    .sessionOpened session .password ∈ desk.history := by
  cases event with
  | claim userId =>
    dsimp only [changeSignIn, claimSession] at logged
    split at logged
    · exact logged
    · rcases List.mem_cons.mp logged with new | old
      · cases new
      · exact old
  | sign claims expiresIn =>
    dsimp only [changeSignIn] at logged
    split at logged <;> exact logged
  | tick | setPassword | supersede | scheduleDeletion | revokeSessions | accounts | twoFactor =>
    exact logged

/-- The sessions of the account that the log says were opened on its password were there before. -/
def NoneByPassword (userId : Nat) (before : List SignInEvent) (desk : SignInDesk) : Prop :=
  ∀ session : AuthSession, session.userId = userId →
    .sessionOpened session .password ∈ desk.history → .sessionOpened session .password ∈ before

theorem noneByPassword_keeps (config : TokenConfig) (before : List SignInEvent) :
    (signInRequests verifyPassword crypto config).Keeps (NoneByPassword userId before)
      (fun _ => NotByPassword userId) (fun desk _ _ => AsksForCode userId desk)
      (fun _ _ => True) where
  opened := fun _ _ _ => trivial
  crashed := fun _ _ => trivial
  act := by
    intro desk answers phase none not asks
    refine ⟨fun session mine logged => ?_, acts_notByPassword config answers asks⟩
    rcases @acts_open verifyPassword crypto desk config answers phase with quiet | ⟨found, rememberMe, grounds, rfl, opened, user, log⟩
    · exact none session mine (quiet session _ logged)
    · have logged : .sessionOpened session .password ∈ .sessionOpened opened grounds :: desk.history :=
        log ▸ logged
      rcases List.mem_cons.mp logged with new | old
      · cases new
        exact absurd (user.symm.trans mine) not
      · exact none session mine old
  undisturbed := fun _ _ _ _ _ _ _ other => other
  outside := fun _ event none _ =>
    ⟨fun session mine logged => none session mine (changes_open config event logged),
      fun _ knows => knows⟩

/-- While an account asks for a code, no session of it is opened on its password alone, whatever
interleaves: any that the log has was there before. -/
theorem no_session_by_password_alone (config : TokenConfig) (userId : Nat)
    {start : Pool SignInDesk SignInPhase}
    (settled : ∀ job ∈ start.jobs, NotByPassword userId job.phase)
    (turns : List (PoolTurn SignInRequest SignInAnswers SignInWorld))
    (asks : Throughout (signInRequests verifyPassword crypto config).serve
      (fun pool => AsksForCode userId pool.shared) start turns) :
    ∀ session : AuthSession, session.userId = userId → .sessionOpened session .password ∈
        (run (signInRequests verifyPassword crypto config).serve start turns).shared.history →
      .sessionOpened session .password ∈ start.shared.history := by
  have guarded : Meets (signInRequests verifyPassword crypto config).serve
      (Handler.Guarded (fun desk _ _ => AsksForCode userId desk) fun _ _ => True) start turns := by
    refine asks.meets.mono fun pool turn holds => ?_
    cases turn with
    | advance jobId input => exact fun _ _ => holds.1
    | receive | crash | outside => exact trivial
  exact ((noneByPassword_keeps config start.shared.history).run
    ⟨fun _ _ => id, settled⟩ guarded).shared

end SecondFactor

/-- Ben's password is right, and earns him a challenge. -/
def benSignsIn : List (PoolTurn SignInRequest SignInAnswers SignInWorld) :=
  loginWith "ben@acme.co" "plum" :: List.replicate 3 (.advance 0 unlocked)

theorem no_session_by_password_alone_benSignsIn :
    Throughout (signInRequests plainPasswords zeroCodes dayLong).serve
        (fun pool => AsksForCode 1 pool.shared) twoAccounts benSignsIn ∧
      ∀ session : AuthSession, session.userId = 1 → .sessionOpened session .password ∈
          (run (signInRequests plainPasswords zeroCodes dayLong).serve twoAccounts
            benSignsIn).shared.history →
        .sessionOpened session .password ∈ twoAccounts.shared.history := by
  have asks : Throughout (signInRequests plainPasswords zeroCodes dayLong).serve
      (fun pool => AsksForCode 1 pool.shared) twoAccounts benSignsIn := fun first within =>
    (by decide +kernel : ∀ first ∈ benSignsIn.inits, AsksForCode 1
      (run (signInRequests plainPasswords zeroCodes dayLong).serve twoAccounts first).shared)
      first ((List.mem_inits _ _).mpr within)
  exact ⟨asks, no_session_by_password_alone dayLong 1
    (fun job stored => absurd stored (Table.not_mem_of_empty rfl job)) benSignsIn asks⟩

end EventaApi.Guarantees
