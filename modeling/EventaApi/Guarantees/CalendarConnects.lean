import EventaApi.Source.CalendarConnection

/-!
# A connect that an admin started

Whatever callbacks are sent, a workspace is connected only on a state that an admin of it started
at most ten minutes before it came back, who may manage its integrations still, with a grant for
that start's own verifier, and no start is completed twice. A callback with another nonce changes
nothing, and a disconnect holds until somebody starts again.
-/
namespace EventaApi.Guarantees
open Library Source

abbrev CalendarPool := Pool CalendarDesk CalendarPhase
abbrev CalendarTurn := PoolTurn CalendarRequest CalendarAnswers CalendarWorld

/-! ## What the log says -/

/-- The callback came back with the state in time. -/
def InTime (earlier : List ConnectEvent) (connect : StartedConnect) : Prop :=
  ∃ startedAt moment, .started connect startedAt ∈ earlier ∧ .taken connect moment ∈ earlier ∧
    moment < startedAt + STATE_TTL

/-- The provider has granted what syncing needs, for this start's verifier. -/
def GrantedFor (earlier : List ConnectEvent) (connect : StartedConnect) (refreshToken : String) : Prop :=
  ∃ code grant, .exchanged code connect.verifier grant ∈ earlier ∧
    CALENDAR_EVENTS_SCOPE ∈ grant.grantedScopes ∧ grant.refreshToken = some refreshToken

def IsPermitted (earlier : List ConnectEvent) (connect : StartedConnect) : Prop :=
  InTime earlier connect ∧ .permitted connect.organizationId connect.userId ∈ earlier

/-- What each event rests on, among the earlier ones. -/
def ConnectRestsOn (earlier : List ConnectEvent) : ConnectEvent → Prop
  | .taken connect _ => ∃ startedAt, .started connect startedAt ∈ earlier
  | .exchanged _ verifier _ => ∃ connect, IsPermitted earlier connect ∧ connect.verifier = verifier
  | .connected connect refreshToken =>
    IsPermitted earlier connect ∧ GrantedFor earlier connect refreshToken
  | .started _ _ | .permitted _ _ => True

def ConnectLogStands : List ConnectEvent → Prop
  | [] => True
  | event :: earlier => ConnectRestsOn earlier event ∧ ConnectLogStands earlier

def isStarted (connect : StartedConnect) : ConnectEvent → Bool
  | .started other _ => other = connect
  | _ => false

def isTaken (connect : StartedConnect) : ConnectEvent → Bool
  | .taken other _ => other = connect
  | _ => false

def isConnected (connect : StartedConnect) : ConnectEvent → Bool
  | .connected other _ => other = connect
  | _ => false

/-! ## Sound desks -/

def pendingFields (row : CalendarConnectionRow) : Option String × Option Nat × Option String :=
  (row.oauthStateHash, row.oauthStateUserId, row.oauthVerifier)

/-- The pending fields of a start. -/
def awaited (sha256hex : String → String) (connect : StartedConnect) :
    Option String × Option Nat × Option String :=
  (some (sha256hex connect.nonce), some connect.userId, some connect.verifier)

/-- The start waits for its callback. -/
def PendingIs (sha256hex : String → String) (desk : CalendarDesk) (connect : StartedConnect) : Prop :=
  pendingFields (desk.rowOf connect.organizationId) = awaited sha256hex connect

/-- Whatever waits on a row was started. -/
def AwaitsStarted (sha256hex : String → String) (history : List ConnectEvent) (organizationId : Nat)
    (row : CalendarConnectionRow) : Prop :=
  row.oauthStateHash ≠ none → ∃ connect startedAt, connect.organizationId = organizationId ∧
    pendingFields row = awaited sha256hex connect ∧
    row.oauthStateExpiresAt = some (startedAt + STATE_TTL) ∧ .started connect startedAt ∈ history

/-- A connected row holds the grant of a connect that was saved. -/
def HoldsGrant (history : List ConnectEvent) (organizationId : Nat) (row : CalendarConnectionRow) :
    Prop :=
  row.status = .connected → ∃ connect refreshToken, .connected connect refreshToken ∈ history ∧
    connect.organizationId = organizationId ∧ row.refreshToken = some refreshToken ∧
    row.connectedBy = some connect.userId

structure ConnectSound (sha256hex : String → String) (desk : CalendarDesk) : Prop where
  stands : ConnectLogStands desk.history
  pending : ∀ organizationId,
    AwaitsStarted sha256hex desk.history organizationId (desk.rowOf organizationId)
  /-- A start is taken once. -/
  once : ∀ connect,
    desk.history.countP (isTaken connect) ≤ desk.history.countP (isStarted connect)
  /-- What waits was not taken yet. -/
  waits : ∀ connect, PendingIs sha256hex desk connect →
    desk.history.countP (isTaken connect) < desk.history.countP (isStarted connect)
  holds : ∀ organizationId, HoldsGrant desk.history organizationId (desk.rowOf organizationId)

/-- The connect a call has taken and not yet finished. -/
def CarriesConnect (connect : StartedConnect) : CalendarPhase → Prop
  | .mayManage other _ | .exchange other _ | .saveConnected other _ _ => other = connect
  | _ => False

instance (connect : StartedConnect) : DecidablePred (CarriesConnect connect)
  | .mayManage other _ | .exchange other _ | .saveConnected other _ _ =>
    inferInstanceAs (Decidable (other = connect))
  | .begin _ | .beginConnect _ _ | .takePendingState _ _ | .disconnect _ _ | .revoke _ _ _
  | .status _ _ | .done _ => isFalse id

def KnowsConnect (history : List ConnectEvent) : CalendarPhase → Prop
  | .mayManage connect _ => InTime history connect
  | .exchange connect _ => IsPermitted history connect
  | .saveConnected connect _ refreshToken =>
    IsPermitted history connect ∧ GrantedFor history connect refreshToken
  | _ => True

structure ConnectsSound (sha256hex : String → String) (pool : CalendarPool) : Prop where
  shared : ConnectSound sha256hex pool.shared
  knows : ∀ job ∈ pool.jobs, KnowsConnect pool.shared.history job.phase
  /-- What was taken is finished once, or on its way to it. -/
  finishes : ∀ connect, pool.shared.history.countP (isConnected connect) +
    (pool.jobs.select fun job => CarriesConnect connect job.phase).length ≤
      pool.shared.history.countP (isTaken connect)

/-! ## What the log keeps -/

section Earlier

variable {earlier history : List ConnectEvent} (grows : ∀ event ∈ earlier, event ∈ history)
include grows

theorem InTime.mono {connect : StartedConnect} (inTime : InTime earlier connect) :
    InTime history connect := by
  obtain ⟨startedAt, moment, started, taken, soon⟩ := inTime
  exact ⟨startedAt, moment, grows _ started, grows _ taken, soon⟩

theorem IsPermitted.mono {connect : StartedConnect} (permitted : IsPermitted earlier connect) :
    IsPermitted history connect :=
  ⟨permitted.1.mono grows, grows _ permitted.2⟩

theorem GrantedFor.mono {connect : StartedConnect} {refreshToken : String}
    (granted : GrantedFor earlier connect refreshToken) : GrantedFor history connect refreshToken := by
  obtain ⟨code, grant, exchanged, rest⟩ := granted
  exact ⟨code, grant, grows _ exchanged, rest⟩

theorem KnowsConnect.mono {phase : CalendarPhase} (knows : KnowsConnect earlier phase) :
    KnowsConnect history phase := by
  cases phase with
  | mayManage => exact InTime.mono grows knows
  | exchange => exact IsPermitted.mono grows knows
  | saveConnected => exact ⟨knows.1.mono grows, knows.2.mono grows⟩
  | _ => exact trivial

end Earlier

theorem mem_log {desk : CalendarDesk} {event : ConnectEvent} :
    ∀ old ∈ desk.history, old ∈ (desk.log event).history :=
  fun _ => List.mem_cons_of_mem _

theorem AwaitsStarted.mono {sha256hex : String → String} {earlier history : List ConnectEvent}
    (grows : ∀ event ∈ earlier, event ∈ history) {organizationId : Nat} {row : CalendarConnectionRow}
    (awaits : AwaitsStarted sha256hex earlier organizationId row) :
    AwaitsStarted sha256hex history organizationId row := by
  intro waits
  obtain ⟨connect, startedAt, own, fields, ends, started⟩ := awaits waits
  exact ⟨connect, startedAt, own, fields, ends, grows _ started⟩

theorem HoldsGrant.mono {earlier history : List ConnectEvent}
    (grows : ∀ event ∈ earlier, event ∈ history) {organizationId : Nat} {row : CalendarConnectionRow}
    (holds : HoldsGrant earlier organizationId row) : HoldsGrant history organizationId row := by
  intro connected
  obtain ⟨connect, refreshToken, saved, rest⟩ := holds connected
  exact ⟨connect, refreshToken, grows _ saved, rest⟩

/-! ## Rows -/

variable {sha256hex challengeOf : String → String} {configured : Bool} {desk : CalendarDesk}

theorem rowOf_write {organizationId other : Nat} {row : CalendarConnectionRow} :
    (desk.write organizationId row).rowOf other =
      if other = organizationId then row else desk.rowOf other := by
  unfold CalendarDesk.rowOf CalendarDesk.write
  dsimp only
  split
  · rename_i same
    rw [same, Function.update_self]
    rfl
  · rename_i apart
    rw [Function.update_of_ne apart]

theorem rowOf_log {event : ConnectEvent} {organizationId : Nat} :
    (desk.log event).rowOf organizationId = desk.rowOf organizationId := rfl

theorem pendingIs_write {organizationId : Nat} {row : CalendarConnectionRow}
    {connect : StartedConnect} : PendingIs sha256hex (desk.write organizationId row) connect ↔
      if connect.organizationId = organizationId then pendingFields row = awaited sha256hex connect
      else PendingIs sha256hex desk connect := by
  unfold PendingIs
  rw [rowOf_write]
  split <;> rfl

/-- Two starts of one workspace that wait alike are one. -/
theorem awaited_inj (distinct : Function.Injective sha256hex) {connect other : StartedConnect}
    (workspace : connect.organizationId = other.organizationId)
    (same : awaited sha256hex connect = awaited sha256hex other) : connect = other := by
  simp only [awaited, Prod.mk.injEq, Option.some.injEq] at same
  obtain ⟨nonce, user, verifier⟩ := same
  cases connect
  cases other
  simp_all [distinct.eq_iff]

/-- What a callback finds is what waits on the row. -/
theorem lockPending_eq_some {organizationId userId : Nat} {stateHash verifier : String} {live : Bool}
    (locked : lockPending desk organizationId = some (stateHash, userId, verifier, live)) :
    pendingFields (desk.rowOf organizationId) = (some stateHash, some userId, some verifier) ∧
      live = (desk.rowOf organizationId).oauthStateExpiresAt.any fun ends => desk.clock < ends := by
  unfold lockPending at locked
  unfold CalendarDesk.rowOf
  cases found : desk.rows organizationId with
  | none =>
    rw [found] at locked
    cases locked
  | some row =>
    rw [found] at locked
    unfold pendingFields
    cases hash : row.oauthStateHash <;> cases user : row.oauthStateUserId <;>
      cases proof : row.oauthVerifier <;> simp_all

theorem lockPending_of_pending {connect : StartedConnect} (waits : PendingIs sha256hex desk connect) :
    lockPending desk connect.organizationId = some (sha256hex connect.nonce, connect.userId,
      connect.verifier, (desk.rowOf connect.organizationId).oauthStateExpiresAt.any
        fun ends => desk.clock < ends) := by
  unfold PendingIs CalendarDesk.rowOf at waits
  unfold lockPending CalendarDesk.rowOf
  cases found : desk.rows connect.organizationId with
  | none =>
    rw [found] at waits
    cases waits
  | some row =>
    rw [found] at waits
    simp only [pendingFields, awaited, Option.getD_some, Prod.mk.injEq] at waits
    simp [waits.1, waits.2.1, waits.2.2]

@[simp] theorem afterDisconnect_desk {organizationId userId : Nat}
    (disconnected : CalendarDesk × Option String) :
    (afterDisconnect configured organizationId userId disconnected).1 = disconnected.1 := by
  obtain ⟨_, held⟩ := disconnected
  cases held <;> rfl

/-- A disconnect goes on to withdraw what it held, and to show the connection. -/
theorem afterDisconnect_phase {organizationId userId : Nat}
    (disconnected : CalendarDesk × Option String) :
    (∃ held, (afterDisconnect configured organizationId userId disconnected).2 =
        .revoke organizationId userId held) ∨
      (afterDisconnect configured organizationId userId disconnected).2 =
        .status organizationId userId := by
  obtain ⟨_, held⟩ := disconnected
  cases held with
  | none => exact Or.inr rfl
  | some held =>
    dsimp only [afterDisconnect]
    split
    · exact Or.inl ⟨held, rfl⟩
    · exact Or.inr rfl

/-! ## What the steps keep -/

namespace ConnectSound

/-- One row is written and one event logged. -/
theorem stepped (sound : ConnectSound sha256hex desk) {organizationId : Nat}
    {row : CalendarConnectionRow} {event : ConnectEvent} (rests : ConnectRestsOn desk.history event)
    (pending : AwaitsStarted sha256hex (event :: desk.history) organizationId row)
    (holds : HoldsGrant (event :: desk.history) organizationId row)
    (once : ∀ connect, (event :: desk.history).countP (isTaken connect) ≤
      (event :: desk.history).countP (isStarted connect))
    (waits : ∀ connect, PendingIs sha256hex (desk.write organizationId row) connect →
      (event :: desk.history).countP (isTaken connect) <
        (event :: desk.history).countP (isStarted connect)) :
    ConnectSound sha256hex ((desk.write organizationId row).log event) where
  stands := ⟨rests, sound.stands⟩
  pending := by
    intro other
    rw [rowOf_log, rowOf_write]
    split
    · rename_i same
      exact same ▸ pending
    · exact (sound.pending other).mono mem_log
  once := once
  waits := waits
  holds := by
    intro other
    rw [rowOf_log, rowOf_write]
    split
    · rename_i same
      exact same ▸ holds
    · exact (sound.holds other).mono mem_log

/-- One event is logged that is no start and no taking. -/
theorem logged (sound : ConnectSound sha256hex desk) {event : ConnectEvent}
    (rests : ConnectRestsOn desk.history event) (noStart : ∀ connect, isStarted connect event = false)
    (noTake : ∀ connect, isTaken connect event = false) :
    ConnectSound sha256hex (desk.log event) where
  stands := ⟨rests, sound.stands⟩
  pending := fun organizationId => (sound.pending organizationId).mono mem_log
  once := by
    intro connect
    simpa [CalendarDesk.log, noStart, noTake] using sound.once connect
  waits := by
    intro connect waits
    simpa [CalendarDesk.log, noStart, noTake] using sound.waits connect waits
  holds := fun organizationId => (sound.holds organizationId).mono mem_log

/-- A row is written on which nothing new waits, and which is no newly connected one. -/
theorem written (sound : ConnectSound sha256hex desk) {organizationId : Nat}
    {row : CalendarConnectionRow}
    (pending : pendingFields row = pendingFields (desk.rowOf organizationId) ∧
        row.oauthStateExpiresAt = (desk.rowOf organizationId).oauthStateExpiresAt ∨
      pendingFields row = (none, none, none))
    (holds : HoldsGrant desk.history organizationId row) :
    ConnectSound sha256hex (desk.write organizationId row) where
  stands := sound.stands
  pending := by
    intro other
    rw [rowOf_write]
    split
    · rename_i same
      subst same
      intro waits
      rcases pending with ⟨kept, ends⟩ | cleared
      · have hash : row.oauthStateHash = (desk.rowOf other).oauthStateHash := congrArg Prod.fst kept
        obtain ⟨connect, startedAt, own, fields, expiry, started⟩ := sound.pending other (hash ▸ waits)
        exact ⟨connect, startedAt, own, kept.trans fields, ends.trans expiry, started⟩
      · exact absurd (congrArg Prod.fst cleared) waits
    · exact sound.pending other
  once := sound.once
  waits := by
    intro connect waits
    apply sound.waits connect
    rw [pendingIs_write] at waits
    split at waits
    · rename_i same
      rcases pending with ⟨kept, _⟩ | cleared
      · rw [PendingIs, same, ← kept]
        exact waits
      · cases cleared.symm.trans waits
    · exact waits
  holds := by
    intro other
    rw [rowOf_write]
    split
    · rename_i same
      exact same ▸ holds
    · exact sound.holds other

/-- A new start waits, in place of whatever waited there. -/
theorem starts (sound : ConnectSound sha256hex desk) (distinct : Function.Injective sha256hex)
    (connect : StartedConnect) :
    ConnectSound sha256hex ((beginConnect desk connect.organizationId (sha256hex connect.nonce)
      connect.userId connect.verifier).log (.started connect desk.clock)) := by
  have taken (other : StartedConnect) : (ConnectEvent.started connect desk.clock ::
      desk.history).countP (isTaken other) = desk.history.countP (isTaken other) := by
    simp [isTaken]
  have more (other : StartedConnect) : desk.history.countP (isStarted other) ≤
      (ConnectEvent.started connect desk.clock :: desk.history).countP (isStarted other) := by
    rw [List.countP_cons]
    exact Nat.le_add_right _ _
  refine sound.stepped trivial (fun _ => ⟨connect, desk.clock, rfl, rfl, rfl, List.mem_cons_self⟩)
    ((sound.holds connect.organizationId).mono mem_log)
    (fun other => taken other ▸ (sound.once other).trans (more other)) fun other waits => ?_
  rw [taken]
  by_cases same : other = connect
  · have counted : (ConnectEvent.started connect desk.clock :: desk.history).countP
        (isStarted other) = desk.history.countP (isStarted other) + 1 := by
      simp [isStarted, same]
    rw [counted]
    exact Nat.lt_succ_of_le (sound.once other)
  · refine lt_of_lt_of_le (sound.waits other ?_) (more other)
    rw [pendingIs_write] at waits
    split at waits
    · rename_i workspace
      exact absurd (awaited_inj distinct workspace waits.symm) same
    · exact waits

/-- What waits is taken by the callback that sends its nonce, and waits no more. -/
theorem takes (sound : ConnectSound sha256hex desk) (distinct : Function.Injective sha256hex)
    {connect : StartedConnect} (pending : PendingIs sha256hex desk connect) :
    ConnectSound sha256hex ((desk.write connect.organizationId
      (withoutPending (desk.rowOf connect.organizationId))).log (.taken connect desk.clock)) := by
  have some : (desk.rowOf connect.organizationId).oauthStateHash ≠ none := by
    have hash : (desk.rowOf connect.organizationId).oauthStateHash = Option.some _ :=
      congrArg Prod.fst pending
    rw [hash]
    exact Option.some_ne_none _
  obtain ⟨other, startedAt, own, fields, _, started⟩ := sound.pending _ some
  have same : connect = other := awaited_inj distinct own.symm (pending.symm.trans fields)
  subst same
  have begun (other : StartedConnect) : (ConnectEvent.taken connect desk.clock ::
      desk.history).countP (isStarted other) = desk.history.countP (isStarted other) := by
    simp [isStarted]
  have others {other : StartedConnect} (apart : other ≠ connect) : (ConnectEvent.taken connect
      desk.clock :: desk.history).countP (isTaken other) = desk.history.countP (isTaken other) := by
    simp [isTaken, Ne.symm apart]
  refine sound.stepped ⟨startedAt, started⟩ (fun none => absurd rfl none)
    ((sound.holds connect.organizationId).mono mem_log) (fun other => ?_) fun other waits => ?_
  · rw [begun]
    by_cases same : other = connect
    · have counted : (ConnectEvent.taken connect desk.clock :: desk.history).countP
          (isTaken other) = desk.history.countP (isTaken other) + 1 := by
        simp [isTaken, same]
      rw [counted]
      exact sound.waits other (same ▸ pending)
    · rw [others same]
      exact sound.once other
  · have elsewhere : other.organizationId ≠ connect.organizationId ∧ PendingIs sha256hex desk other := by
      rw [pendingIs_write] at waits
      split at waits
      · cases waits
      · exact ⟨‹_›, waits⟩
    have apart : other ≠ connect := fun same => elsewhere.1 (congrArg _ same)
    rw [begun, others apart]
    exact sound.waits other elsewhere.2

/-- A permitted connect is saved with the grant it was given. -/
theorem saves (sound : ConnectSound sha256hex desk) {connect : StartedConnect}
    {accountEmail : Option String} {refreshToken : String}
    (permitted : IsPermitted desk.history connect)
    (granted : GrantedFor desk.history connect refreshToken) :
    ConnectSound sha256hex ((saveConnected desk connect.organizationId accountEmail refreshToken
      connect.userId).log (.connected connect refreshToken)) := by
  refine sound.stepped ⟨permitted, granted⟩ ((sound.pending connect.organizationId).mono mem_log)
    (fun _ => ⟨connect, refreshToken, List.mem_cons_self, rfl, rfl, rfl⟩) (fun other => ?_)
    fun other waits => ?_
  · simpa [isTaken, isStarted] using sound.once other
  · have was : PendingIs sha256hex desk other := by
      rw [pendingIs_write] at waits
      split at waits
      · rename_i workspace
        rw [PendingIs, workspace]
        exact waits
      · exact waits
    simpa [isTaken, isStarted] using sound.waits other was

end ConnectSound

/-! ## Steps -/

/-- What a step of a call comes to: what was taken before it is finished, carried on or dropped. -/
structure ConnectsStep (sha256hex : String → String) (desk : CalendarDesk) (phase : CalendarPhase)
    (acted : CalendarDesk × CalendarPhase) : Prop where
  sound : ConnectSound sha256hex acted.1
  grows : ∀ event ∈ desk.history, event ∈ acted.1.history
  knows : KnowsConnect acted.1.history acted.2
  finishes : ∀ connect, acted.1.history.countP (isConnected connect) +
      (if CarriesConnect connect acted.2 then 1 else 0) + desk.history.countP (isTaken connect) ≤
    desk.history.countP (isConnected connect) + (if CarriesConnect connect phase then 1 else 0) +
      acted.1.history.countP (isTaken connect)

/-- A step with nothing of its own for the log, on a call that carries nothing on. -/
theorem connectsStep_of_same {phase : CalendarPhase} {acted : CalendarDesk × CalendarPhase}
    (sound : ConnectSound sha256hex acted.1) (same : acted.1.history = desk.history)
    (idle : ∀ connect, ¬ CarriesConnect connect acted.2) (knows : KnowsConnect desk.history acted.2) :
    ConnectsStep sha256hex desk phase acted where
  sound := sound
  grows := same ▸ fun _ => id
  knows := same ▸ knows
  finishes := by
    intro connect
    rw [same, if_neg (idle connect)]
    omega

/-- A connect that is taken is carried on once, or not at all. -/
theorem taking_finishes (connect : StartedConnect) (query : CallbackQuery) (live : Bool)
    (other : StartedConnect) :
    (ConnectEvent.taken connect desk.clock :: desk.history).countP (isConnected other) +
        (if CarriesConnect other (if live = true then .mayManage connect query
          else .verdict .failed "state_expired") then 1 else 0) +
        desk.history.countP (isTaken other) ≤
      desk.history.countP (isConnected other) + 0 +
        (ConnectEvent.taken connect desk.clock :: desk.history).countP (isTaken other) := by
  have carried : (if CarriesConnect other (if live = true then .mayManage connect query
      else .verdict .failed "state_expired") then 1 else 0) ≤ if connect = other then 1 else 0 := by
    cases live with
    | false => exact Nat.zero_le _
    | true => exact le_rfl
  rw [List.countP_cons, List.countP_cons]
  simp only [isConnected, isTaken, decide_eq_true_eq, Bool.false_eq_true, if_false]
  omega

section Acts

variable (sound : ConnectSound sha256hex desk)
include sound

theorem begins_calendar (request : CalendarRequest) :
    ConnectsStep sha256hex desk (.begin request) (desk, beginCalendar configured desk request) := by
  have idle : (∀ connect, ¬ CarriesConnect connect (beginCalendar configured desk request)) ∧
      KnowsConnect desk.history (beginCalendar configured desk request) := by
    cases request with
    | status => exact ⟨fun _ => id, trivial⟩
    | start =>
      dsimp only [beginCalendar]
      split
      · split <;> exact ⟨fun _ => id, trivial⟩
      · exact ⟨fun _ => id, trivial⟩
    | disconnect =>
      dsimp only [beginCalendar]
      split <;> exact ⟨fun _ => id, trivial⟩
    | complete query =>
      dsimp only [beginCalendar]
      split
      · cases parseState query.state <;> exact ⟨fun _ => id, trivial⟩
      · exact ⟨fun _ => id, trivial⟩
  exact connectsStep_of_same sound rfl idle.1 idle.2

theorem startsConnect (distinct : Function.Injective sha256hex) {answers : CalendarAnswers}
    {organizationId userId : Nat} :
    ConnectsStep sha256hex desk (.beginConnect organizationId userId)
      (startConnect sha256hex challengeOf desk answers organizationId userId) where
  sound := sound.starts distinct ⟨organizationId, userId, random answers.nonce,
    random answers.verifier⟩
  grows := mem_log
  knows := trivial
  finishes := by
    intro connect
    simp [startConnect, CalendarDesk.log, beginConnect, CalendarDesk.write, isConnected, isTaken,
      CarriesConnect]

theorem takesConnect (distinct : Function.Injective sha256hex) {parsed : ParsedState}
    {query : CallbackQuery} :
    ConnectsStep sha256hex desk (.takePendingState parsed query) (afterTaking desk parsed query
      (takePendingState desk parsed.organizationId (sha256hex parsed.nonce))) := by
  unfold takePendingState
  cases locked : lockPending desk parsed.organizationId with
  | none => exact connectsStep_of_same sound rfl (fun _ => id) trivial
  | some pending =>
    obtain ⟨stateHash, userId, verifier, live⟩ := pending
    obtain ⟨fields, lives⟩ := lockPending_eq_some locked
    dsimp only
    by_cases same : stateHash = sha256hex parsed.nonce
    · rw [if_pos same]
      let connect : StartedConnect := ⟨parsed.organizationId, userId, parsed.nonce, verifier⟩
      have waits : PendingIs sha256hex desk connect := by
        rw [PendingIs, fields, same]
        rfl
      have some : (desk.rowOf parsed.organizationId).oauthStateHash ≠ none := by
        have hash : (desk.rowOf parsed.organizationId).oauthStateHash = Option.some stateHash :=
          congrArg Prod.fst fields
        rw [hash]
        exact Option.some_ne_none _
      obtain ⟨other, startedAt, own, otherFields, ends, started⟩ := sound.pending _ some
      have is : connect = other := awaited_inj distinct own.symm (waits.symm.trans otherFields)
      refine ⟨sound.takes distinct waits, mem_log, ?_, fun other => ?_⟩
      · cases soon : live with
        | false => exact trivial
        | true =>
          rw [soon, ends, Option.any_some] at lives
          have inTime : desk.clock < startedAt + STATE_TTL := of_decide_eq_true lives.symm
          have began : .started connect startedAt ∈ desk.history := by rwa [is]
          exact ⟨startedAt, desk.clock, mem_log _ began, List.mem_cons_self, inTime⟩
      · exact taking_finishes connect query live other
    · rw [if_neg same]
      exact connectsStep_of_same sound rfl (fun _ => id) trivial

theorem asksPermission {connect : StartedConnect} {query : CallbackQuery}
    (inTime : InTime desk.history connect) {answers : CalendarAnswers} :
    ConnectsStep sha256hex desk (.mayManage connect query)
      (actOnCalendar sha256hex challengeOf configured desk answers (.mayManage connect query)) := by
  dsimp only [actOnCalendar]
  split
  · refine ⟨sound.logged trivial (fun _ => rfl) fun _ => rfl, mem_log, ?_, fun other => ?_⟩
    · have permitted : IsPermitted (desk.log (.permitted connect.organizationId
          connect.userId)).history connect := ⟨inTime.mono mem_log, List.mem_cons_self⟩
      unfold afterConsent
      split
      · split <;> exact trivial
      · exact trivial
      · exact permitted
    · have carried : (if CarriesConnect other (afterConsent connect query) then 1 else 0) ≤
          if CarriesConnect other (.mayManage connect query) then 1 else 0 := by
        unfold afterConsent
        split
        · split <;> exact Nat.zero_le _
        · exact Nat.zero_le _
        · exact le_rfl
      simp only [CalendarDesk.log, List.countP_cons, isConnected, isTaken, Bool.false_eq_true,
        if_false]
      omega
  · exact connectsStep_of_same sound rfl (fun _ => id) trivial

theorem exchanges {connect : StartedConnect} {code : String}
    (permitted : IsPermitted desk.history connect) (given : Option GoogleGrant) :
    ConnectsStep sha256hex desk (.exchange connect code)
      (afterExchange desk connect code given) := by
  cases given with
  | none => exact connectsStep_of_same sound rfl (fun _ => id) trivial
  | some grant =>
    refine ⟨sound.logged ⟨connect, permitted, rfl⟩ (fun _ => rfl) fun _ => rfl, mem_log, ?_,
      fun other => ?_⟩
    · dsimp only [afterExchange]
      split
      · rename_i scope
        cases token : grant.refreshToken.filter (· ≠ "") with
        | none => exact trivial
        | some refreshToken =>
          obtain ⟨has, _⟩ := Option.filter_eq_some_iff.mp token
          exact ⟨permitted.mono mem_log, code, grant, List.mem_cons_self, scope, has⟩
      · exact trivial
    · have carried : (if CarriesConnect other (afterExchange desk connect code (some grant)).2
          then 1 else 0) ≤ if CarriesConnect other (.exchange connect code) then 1 else 0 := by
        dsimp only [afterExchange]
        split
        · cases grant.refreshToken.filter (· ≠ "") with
          | none => exact Nat.zero_le _
          | some refreshToken => exact le_rfl
        · exact Nat.zero_le _
      have kept : (afterExchange desk connect code (some grant)).1.history =
          .exchanged code connect.verifier grant :: desk.history := rfl
      rw [kept, List.countP_cons, List.countP_cons]
      simp only [isConnected, isTaken, Bool.false_eq_true, if_false]
      omega

theorem savesConnected {connect : StartedConnect} {accountEmail : Option String}
    {refreshToken : String} (permitted : IsPermitted desk.history connect)
    (granted : GrantedFor desk.history connect refreshToken) :
    ConnectsStep sha256hex desk (.saveConnected connect accountEmail refreshToken)
      ((saveConnected desk connect.organizationId accountEmail refreshToken connect.userId).log
        (.connected connect refreshToken), .verdict .connected "connected") where
  sound := sound.saves permitted granted
  grows := mem_log
  knows := trivial
  finishes := by
    intro other
    change (ConnectEvent.connected connect refreshToken :: desk.history).countP (isConnected other)
        + 0 + _ ≤ _ + (if connect = other then 1 else 0) +
      (ConnectEvent.connected connect refreshToken :: desk.history).countP (isTaken other)
    rw [List.countP_cons, List.countP_cons]
    simp only [isConnected, isTaken, decide_eq_true_eq, Bool.false_eq_true, if_false]
    omega

theorem disconnects {organizationId userId : Nat} :
    ConnectsStep sha256hex desk (.disconnect organizationId userId)
      (afterDisconnect configured organizationId userId (disconnect desk organizationId)) := by
  have written : ConnectSound sha256hex (disconnect desk organizationId).1 ∧
      (disconnect desk organizationId).1.history = desk.history := by
    unfold disconnect
    cases desk.rows organizationId with
    | none => exact ⟨sound, rfl⟩
    | some row => exact ⟨sound.written (Or.inr rfl) nofun, rfl⟩
  have next := @afterDisconnect_phase configured organizationId userId (disconnect desk organizationId)
  refine connectsStep_of_same (afterDisconnect_desk _ ▸ written.1)
    (afterDisconnect_desk _ ▸ written.2) (fun connect => ?_) ?_
  · rcases next with ⟨held, goes⟩ | goes <;> rw [goes] <;> exact id
  · rcases next with ⟨held, goes⟩ | goes <;> rw [goes] <;> exact trivial

/-- Every step of a call keeps a sound desk sound, and finishes at most what it carried or took. -/
theorem actsOnCalendar (distinct : Function.Injective sha256hex) (answers : CalendarAnswers)
    {phase : CalendarPhase} (knows : KnowsConnect desk.history phase) :
    ConnectsStep sha256hex desk phase
      (actOnCalendar sha256hex challengeOf configured desk answers phase) := by
  cases phase with
  | begin request => exact begins_calendar sound request
  | beginConnect organizationId userId => exact startsConnect sound distinct
  | takePendingState parsed query => exact takesConnect sound distinct
  | mayManage connect query => exact asksPermission sound knows
  | exchange connect code => exact exchanges sound knows _
  | saveConnected connect accountEmail refreshToken => exact savesConnected sound knows.1 knows.2
  | disconnect organizationId userId => exact disconnects sound
  | revoke organizationId userId held =>
    have same : ConnectSound sha256hex { desk with
        withdrawn := if answers.revokes then held :: desk.withdrawn else desk.withdrawn } :=
      ⟨sound.stands, sound.pending, sound.once, sound.waits, sound.holds⟩
    exact connectsStep_of_same same rfl (fun _ => id) trivial
  | status organizationId userId => exact connectsStep_of_same sound rfl (fun _ => id) trivial
  | done reply => exact connectsStep_of_same sound rfl (fun _ => id) trivial

theorem changesCalendar (event : CalendarWorld) :
    ConnectSound sha256hex (changeCalendar desk event) ∧
      (changeCalendar desk event).history = desk.history := by
  have same {after : CalendarDesk} (rows : after.rows = desk.rows)
      (history : after.history = desk.history) : ConnectSound sha256hex after := by
    have rowOf (organizationId : Nat) : after.rowOf organizationId = desk.rowOf organizationId := by
      simp [CalendarDesk.rowOf, rows]
    refine ⟨history ▸ sound.stands, fun organizationId => ?_, history ▸ sound.once,
      fun connect waits => ?_, fun organizationId => ?_⟩
    · rw [history, rowOf]
      exact sound.pending organizationId
    · rw [history]
      exact sound.waits connect (by rw [PendingIs, ← rowOf]; exact waits)
    · rw [history, rowOf]
      exact sound.holds organizationId
  cases event with
  | tick | permissions => exact ⟨same rfl rfl, rfl⟩
  | expire organizationId =>
    dsimp only [changeCalendar]
    cases found : desk.rows organizationId with
    | none => exact ⟨sound, rfl⟩
    | some row =>
      have here : desk.rowOf organizationId = row := by simp [CalendarDesk.rowOf, found]
      refine ⟨sound.written ?_ ?_, rfl⟩
      · left
        rw [here]
        unfold expiredRow
        split <;> exact ⟨rfl, rfl⟩
      · intro connected
        have was : row.status = .connected := by
          by_contra other
          rw [expiredRow, if_neg other] at connected
          exact other connected
        rw [expiredRow, if_pos was] at connected
        cases connected

end Acts

/-! ## Runs -/

/-- The connects that calls carry. -/
def carrying (jobs : Table (Job CalendarPhase)) (connect : StartedConnect) : Nat :=
  (jobs.select fun job => CarriesConnect connect job.phase).length

theorem carrying_moveJob {jobs : Table (Job CalendarPhase)} {jobId : Nat} {job : Job CalendarPhase}
    (found : jobs.find jobId = some job) (phase : CalendarPhase) (connect : StartedConnect) :
    carrying (moveJob jobs jobId phase) connect +
        (if CarriesConnect connect job.phase then 1 else 0) =
      carrying jobs connect + if CarriesConnect connect phase then 1 else 0 :=
  length_select_moveJob (CarriesConnect connect) found

theorem carrying_crash (jobs : Table (Job CalendarPhase)) (jobId : Nat) (connect : StartedConnect) :
    carrying (moveJob jobs jobId (.done .crashed)) connect ≤ carrying jobs connect := by
  cases found : jobs.find jobId with
  | none => rw [moveJob_missing found]
  | some job =>
    have moved := carrying_moveJob found (.done .crashed) connect
    have gone : ¬ CarriesConnect connect (.done .crashed) := id
    rw [if_neg gone] at moved
    omega

theorem ConnectsSound.serve (distinct : Function.Injective sha256hex) {pool : CalendarPool}
    (sound : ConnectsSound sha256hex pool) (turn : CalendarTurn) :
    ConnectsSound sha256hex
      ((calendarConnects sha256hex challengeOf configured).serve pool turn) := by
  cases turn with
  | receive request =>
    refine ⟨sound.shared, fun job stored => ?_, fun connect => ?_⟩
    · rcases Table.mem_insert.mp stored with old | rfl
      · exact sound.knows job old
      · exact trivial
    · have same : carrying (pool.jobs.insert fun id => ⟨id, .begin request⟩) connect =
          carrying pool.jobs connect := by
        unfold carrying
        rw [Table.length_select_insert]
        simp [CarriesConnect]
      exact (congrArg (_ + ·) same).trans_le (sound.finishes connect)
  | advance jobId answers =>
    cases found : pool.jobs.find jobId with
    | none =>
      rw [serve_missing found]
      exact sound
    | some job =>
      have stored : job ∈ pool.jobs := (Table.find_eq_some.mp found).1
      have stepped : ConnectsStep sha256hex pool.shared job.phase
          (actOnCalendar sha256hex challengeOf configured pool.shared answers job.phase) :=
        actsOnCalendar sound.shared distinct answers (sound.knows job stored)
      rw [serve_advance found]
      refine ⟨stepped.sound, fun other there => ?_, fun connect => ?_⟩
      · rcases mem_moveJob there with ⟨old, _⟩ | ⟨_, moved⟩
        · exact KnowsConnect.mono stepped.grows (sound.knows other old)
        · rw [moved]
          exact stepped.knows
      · have before := sound.finishes connect
        have moved := carrying_moveJob found (actOnCalendar sha256hex challengeOf configured
          pool.shared answers job.phase).2 connect
        have finishes := stepped.finishes connect
        simp only [carrying] at moved
        simp only [calendarConnects] at *
        omega
  | crash jobId =>
    refine ⟨sound.shared, fun other there => ?_, fun connect => ?_⟩
    · rcases mem_moveJob there with ⟨old, _⟩ | ⟨_, moved⟩
      · exact sound.knows other old
      · rw [moved]
        exact trivial
    · exact le_trans (Nat.add_le_add_left (carrying_crash pool.jobs jobId connect) _)
        (sound.finishes connect)
  | outside event =>
    obtain ⟨after, same⟩ := changesCalendar sound.shared event
    refine ⟨after, fun job stored => ?_, fun connect => ?_⟩
    · have knows := sound.knows job stored
      change KnowsConnect (changeCalendar pool.shared event).history job.phase
      rwa [same]
    · have finishes := sound.finishes connect
      change (changeCalendar pool.shared event).history.countP _ + _ ≤
        (changeCalendar pool.shared event).history.countP _
      rwa [same]

/-- An admin of the workspace, and a row that was never started. -/
def unconnected : CalendarPool :=
  { jobs := .empty
    shared :=
      { rows := fun _ => none, mayManage := fun _ _ => true, clock := 0, history := [],
        withdrawn := [] } }

def consented : CalendarAnswers where
  nonce := fun _ => 0
  verifier := fun _ => 1
  exchangeCode := fun _ _ => some ⟨some "grant", some "ann@acme.co", [CALENDAR_EVENTS_SCOPE]⟩
  revokes := true

def annsConnect : StartedConnect := ⟨1, 7, random fun _ => 0, random fun _ => 1⟩

theorem unconnected_sound : ConnectsSound id unconnected where
  shared :=
    { stands := trivial
      pending := fun _ waits => absurd rfl waits
      once := fun _ => le_rfl
      waits := fun _ waits => by cases waits
      holds := fun _ connected => by cases connected }
  knows := fun _ stored => absurd stored (Table.not_mem_of_empty rfl _)
  finishes := fun _ => le_rfl

/-- A start, and the callback that comes back on it. -/
def annConnects : List CalendarTurn :=
  .receive (.start 1 7) :: List.replicate 2 (.advance 0 consented) ++
    .receive (.complete ⟨some "code", some (formatState 1 annsConnect.nonce), none⟩) ::
      List.replicate 5 (.advance 1 consented)

/-- The steps that may change what waits in a start's workspace: another start, a disconnect, and
the callback with its own nonce. -/
def Disturbs (connect : StartedConnect) : CalendarPhase → Prop
  | .beginConnect organizationId _ | .disconnect organizationId _ =>
    organizationId = connect.organizationId
  | .takePendingState parsed _ => parsed = ⟨connect.organizationId, connect.nonce⟩
  | _ => False

instance (connect : StartedConnect) : DecidablePred (Disturbs connect)
  | .beginConnect _ _ | .disconnect _ _ | .takePendingState _ _ => inferInstanceAs (Decidable (_ = _))
  | .begin _ | .mayManage _ _ | .exchange _ _ | .saveConnected _ _ _ | .revoke _ _ _
  | .status _ _ | .done _ => isFalse id

/-- The start waits, until then. -/
def WaitsUntil (sha256hex : String → String) (connect : StartedConnect) (ends : Option Instant)
    (desk : CalendarDesk) : Prop :=
  PendingIs sha256hex desk connect ∧
    (desk.rowOf connect.organizationId).oauthStateExpiresAt = ends

/-- A row is written that waits for the same, or another workspace's. -/
theorem WaitsUntil.write {connect : StartedConnect} {ends : Option Instant} {organizationId : Nat}
    {row : CalendarConnectionRow} (waits : WaitsUntil sha256hex connect ends desk)
    (same : organizationId = connect.organizationId →
      pendingFields row = pendingFields (desk.rowOf organizationId) ∧
        row.oauthStateExpiresAt = (desk.rowOf organizationId).oauthStateExpiresAt) :
    WaitsUntil sha256hex connect ends (desk.write organizationId row) := by
  unfold WaitsUntil PendingIs
  rw [rowOf_write]
  split
  · rename_i here
    obtain ⟨fields, expiry⟩ := same here.symm
    rw [fields, expiry, ← here]
    exact waits
  · exact waits

theorem acts_waiting (distinct : Function.Injective sha256hex) (answers : CalendarAnswers)
    {connect : StartedConnect} {ends : Option Instant} {phase : CalendarPhase}
    (waits : WaitsUntil sha256hex connect ends desk) (undisturbed : ¬ Disturbs connect phase) :
    WaitsUntil sha256hex connect ends
      (actOnCalendar sha256hex challengeOf configured desk answers phase).1 := by
  cases phase with
  | beginConnect organizationId userId =>
    exact waits.write fun same => absurd same undisturbed
  | takePendingState parsed query =>
    dsimp only [actOnCalendar, takePendingState]
    cases locked : lockPending desk parsed.organizationId with
    | none => exact waits
    | some pending =>
      obtain ⟨stateHash, userId, verifier, live⟩ := pending
      dsimp only
      by_cases same : stateHash = sha256hex parsed.nonce
      · rw [if_pos same]
        refine waits.write fun here => absurd ?_ undisturbed
        -- The nonce taken in this workspace is the one that waits.
        obtain ⟨fields, _⟩ := lockPending_eq_some locked
        have hash : some stateHash = some (sha256hex connect.nonce) := by
          have pending := waits.1
          rw [PendingIs, ← here, fields] at pending
          exact congrArg Prod.fst pending
        have nonce : parsed.nonce = connect.nonce :=
          distinct (same.symm.trans (Option.some.inj hash))
        cases parsed
        exact congrArg₂ ParsedState.mk here nonce
      · rw [if_neg same]
        exact waits
  | disconnect organizationId userId =>
    dsimp only [actOnCalendar]
    rw [afterDisconnect_desk, disconnect]
    cases desk.rows organizationId with
    | none => exact waits
    | some row => exact waits.write fun same => absurd same undisturbed
  | mayManage other query =>
    dsimp only [actOnCalendar]
    split <;> exact waits
  | exchange other code =>
    dsimp only [actOnCalendar]
    cases answers.exchangeCode code other.verifier <;> exact waits
  | saveConnected other accountEmail refreshToken => exact waits.write fun _ => ⟨rfl, rfl⟩
  | begin | revoke | status | done => exact waits

theorem changes_waiting {connect : StartedConnect} {ends : Option Instant}
    (waits : WaitsUntil sha256hex connect ends desk) (event : CalendarWorld) :
    WaitsUntil sha256hex connect ends (changeCalendar desk event) := by
  cases event with
  | tick | permissions => exact waits
  | expire organizationId =>
    dsimp only [changeCalendar]
    cases found : desk.rows organizationId with
    | none => exact waits
    | some row =>
      refine waits.write fun _ => ?_
      have here : desk.rowOf organizationId = row := by simp [CalendarDesk.rowOf, found]
      rw [here]
      unfold expiredRow
      split <;> exact ⟨rfl, rfl⟩

/-- A start outlasts every callback that does not carry its nonce, whatever workspace it names:
the one that does still finds it, in time or not as its ten minutes say. -/
theorem guess_cancels_nothing (challengeOf : String → String) (configured : Bool)
    (distinct : Function.Injective sha256hex) {start : CalendarPool} (connect : StartedConnect)
    (waits : PendingIs sha256hex start.shared connect) (turns : List CalendarTurn)
    (undisturbed : Meets (calendarConnects sha256hex challengeOf configured).serve
      (Handler.Guarded (fun _ _ phase => ¬ Disturbs connect phase) fun _ _ => True) start turns) :
    let desk := (run (calendarConnects sha256hex challengeOf configured).serve start turns).shared
    (takePendingState desk connect.organizationId (sha256hex connect.nonce)).2 =
      .found connect.userId connect.verifier
        ((start.shared.rowOf connect.organizationId).oauthStateExpiresAt.any
          fun ends => desk.clock < ends) := by
  have keeps : (calendarConnects sha256hex challengeOf configured).Keeps
      (WaitsUntil sha256hex connect (start.shared.rowOf connect.organizationId).oauthStateExpiresAt)
      (fun _ _ => True) (fun _ _ phase => ¬ Disturbs connect phase) (fun _ _ => True) :=
    { opened := fun _ _ _ => trivial
      crashed := fun _ _ => trivial
      act := fun _ answers _ waits _ calm => ⟨acts_waiting distinct answers waits calm, trivial⟩
      undisturbed := fun _ _ _ _ _ _ _ _ => trivial
      outside := fun _ event waits _ => ⟨changes_waiting waits event, fun _ _ => trivial⟩ }
  obtain ⟨fields, ends⟩ := (keeps.run ⟨⟨waits, rfl⟩, fun _ _ => trivial⟩ undisturbed).shared
  intro desk
  have locked : lockPending desk connect.organizationId = some (sha256hex connect.nonce,
      connect.userId, connect.verifier, (start.shared.rowOf
        connect.organizationId).oauthStateExpiresAt.any fun ends => desk.clock < ends) := by
    rw [← ends]
    exact lockPending_of_pending fields
  rw [takePendingState, locked]
  simp

/-- Ann's start, waiting. -/
def annsStart : CalendarPool :=
  run (calendarConnects id id true).serve unconnected
    (.receive (.start 1 7) :: List.replicate 2 (.advance 0 consented))

/-- A callback with a made-up nonce. -/
def guesses : List CalendarTurn :=
  .receive (.complete ⟨some "code", some (formatState 1 (random fun _ => 9)), none⟩) ::
    List.replicate 2 (.advance 1 consented)

theorem guess_cancels_nothing_guesses :
    let desk := (run (calendarConnects id id true).serve annsStart guesses).shared
    (takePendingState desk 1 annsConnect.nonce).2 = .found 7 annsConnect.verifier true := by
  have waits : pendingFields (annsStart.shared.rowOf 1) = awaited id annsConnect := by
    decide +kernel
  have live : ((annsStart.shared.rowOf 1).oauthStateExpiresAt.any fun ends =>
      (run (calendarConnects id id true).serve annsStart guesses).shared.clock < ends) = true := by
    decide +kernel
  have found : (takePendingState (run (calendarConnects id id true).serve annsStart guesses).shared
      1 annsConnect.nonce).2 = .found 7 annsConnect.verifier _ :=
    guess_cancels_nothing id true Function.injective_id annsConnect waits guesses (by decide +kernel)
  exact found.trans (congrArg _ live)

/-! ## Disconnecting -/

/-- Nothing of a connection is left on the row. -/
def IsForgotten (row : CalendarConnectionRow) : Prop :=
  row.status = .disconnected ∧ row.refreshToken = none ∧ row.oauthStateHash = none

theorem disconnect_forgets (organizationId : Nat) :
    IsForgotten ((disconnect desk organizationId).1.rowOf organizationId) := by
  unfold disconnect
  cases found : desk.rows organizationId with
  | none =>
    have none : desk.rowOf organizationId = {} := by simp [CalendarDesk.rowOf, found]
    rw [none]
    exact ⟨rfl, rfl, rfl⟩
  | some row =>
    dsimp only
    rw [rowOf_write, if_pos rfl]
    exact ⟨rfl, rfl, rfl⟩

/-- The call carries no connect of the workspace. -/
def CarriesNone (organizationId : Nat) (phase : CalendarPhase) : Prop :=
  ∀ connect, CarriesConnect connect phase → connect.organizationId ≠ organizationId

def StartsIn (organizationId : Nat) : CalendarPhase → Prop
  | .beginConnect workspace _ => workspace = organizationId
  | _ => False

/-- A row of the workspace is left forgotten, or another workspace's is written. -/
instance (organizationId : Nat) : DecidablePred (CarriesNone organizationId)
  | .mayManage connect _ | .exchange connect _ | .saveConnected connect _ _ =>
    decidable_of_iff (connect.organizationId ≠ organizationId)
      ⟨fun apart _ same => same ▸ apart, fun none => none connect rfl⟩
  | .begin _ | .beginConnect _ _ | .takePendingState _ _ | .disconnect _ _ | .revoke _ _ _
  | .status _ _ | .done _ => isTrue fun _ => False.elim

instance (organizationId : Nat) : DecidablePred (StartsIn organizationId)
  | .beginConnect workspace _ => inferInstanceAs (Decidable (workspace = organizationId))
  | .begin _ | .takePendingState _ _ | .mayManage _ _ | .exchange _ _ | .saveConnected _ _ _
  | .disconnect _ _ | .revoke _ _ _ | .status _ _ | .done _ => isFalse id

theorem isForgotten_write {organizationId other : Nat} {row : CalendarConnectionRow}
    (forgot : IsForgotten (desk.rowOf organizationId))
    (same : other = organizationId → IsForgotten row) :
    IsForgotten ((desk.write other row).rowOf organizationId) := by
  rw [rowOf_write]
  split
  · rename_i here
    exact same here.symm
  · exact forgot

/-- Without a start in the workspace, nothing is taken there and nothing saved. -/
theorem acts_forgotten (answers : CalendarAnswers) {organizationId : Nat} {phase : CalendarPhase}
    (forgot : IsForgotten (desk.rowOf organizationId)) (carriesNone : CarriesNone organizationId phase)
    (noStart : ¬ StartsIn organizationId phase) :
    IsForgotten ((actOnCalendar sha256hex challengeOf configured desk answers phase).1.rowOf
        organizationId) ∧
      CarriesNone organizationId
        (actOnCalendar sha256hex challengeOf configured desk answers phase).2 := by
  have idle : ∀ {desk : CalendarDesk} {phase : CalendarPhase},
      (∀ connect, ¬ CarriesConnect connect phase) → IsForgotten (desk.rowOf organizationId) →
      IsForgotten (desk.rowOf organizationId) ∧ CarriesNone organizationId phase :=
    fun nothing forgot => ⟨forgot, fun connect carried => absurd carried (nothing connect)⟩
  cases phase with
  | begin request =>
    refine idle (fun connect => ?_) forgot
    cases request with
    | status => exact id
    | start =>
      dsimp only [actOnCalendar, beginCalendar]
      split
      · split <;> exact id
      · exact id
    | disconnect =>
      dsimp only [actOnCalendar, beginCalendar]
      split <;> exact id
    | complete query =>
      dsimp only [actOnCalendar, beginCalendar]
      split
      · cases parseState query.state <;> exact id
      · exact id
  | beginConnect workspace userId =>
    exact idle (fun _ => id) (isForgotten_write forgot fun same => absurd same noStart)
  | takePendingState parsed query =>
    dsimp only [actOnCalendar, takePendingState]
    cases locked : lockPending desk parsed.organizationId with
    | none => exact idle (fun _ => id) forgot
    | some pending =>
      obtain ⟨stateHash, userId, verifier, live⟩ := pending
      obtain ⟨fields, _⟩ := lockPending_eq_some locked
      have apart : parsed.organizationId ≠ organizationId := by
        intro here
        have hash : (desk.rowOf organizationId).oauthStateHash = some stateHash :=
          here ▸ congrArg Prod.fst fields
        cases forgot.2.2.symm.trans hash
      dsimp only
      split
      · refine ⟨isForgotten_write forgot fun same => absurd same apart, fun connect carried => ?_⟩
        dsimp only [afterTaking] at carried
        split at carried
        · rw [← carried]
          exact apart
        · exact carried.elim
      · exact idle (fun _ => id) forgot
  | mayManage connect query =>
    dsimp only [actOnCalendar]
    split
    · refine ⟨forgot, fun other carried => ?_⟩
      dsimp only [afterConsent] at carried
      split at carried
      · split at carried <;> exact carried.elim
      · exact carried.elim
      · exact carriesNone other carried
    · exact idle (fun _ => id) forgot
  | exchange connect code =>
    dsimp only [actOnCalendar]
    cases answers.exchangeCode code connect.verifier with
    | none => exact idle (fun _ => id) forgot
    | some grant =>
      refine ⟨forgot, fun other carried => ?_⟩
      dsimp only [afterExchange] at carried
      split at carried
      · split at carried
        · exact carried.elim
        · exact carriesNone other carried
      · exact carried.elim
  | saveConnected connect accountEmail refreshToken =>
    exact idle (fun _ => id)
      (isForgotten_write forgot fun same => absurd same (carriesNone connect rfl))
  | disconnect workspace userId =>
    dsimp only [actOnCalendar]
    refine ⟨?_, fun connect carried => ?_⟩
    · rw [afterDisconnect_desk, disconnect]
      cases desk.rows workspace with
      | none => exact forgot
      | some row => exact isForgotten_write forgot fun _ => ⟨rfl, rfl, rfl⟩
    · rcases @afterDisconnect_phase configured workspace userId (disconnect desk workspace) with ⟨held, goes⟩ | goes <;>
        rw [goes] at carried <;> exact carried.elim
  | revoke | status | done => exact idle (fun _ => id) forgot

theorem changes_forgotten {organizationId : Nat} (forgot : IsForgotten (desk.rowOf organizationId))
    (event : CalendarWorld) : IsForgotten ((changeCalendar desk event).rowOf organizationId) := by
  cases event with
  | tick | permissions => exact forgot
  | expire workspace =>
    dsimp only [changeCalendar]
    cases found : desk.rows workspace with
    | none => exact forgot
    | some row =>
      refine isForgotten_write forgot fun same => ?_
      have here : desk.rowOf organizationId = row := by simp [CalendarDesk.rowOf, ← same, found]
      rw [here] at forgot
      have idle : ¬ row.status = .connected := by simp [forgot.1]
      rwa [expiredRow, if_neg idle]

/-- After a disconnect, with no callback under way that has taken its state, the workspace stays
disconnected and holds no grant, whatever is called, until a connect is started there again. -/
theorem disconnect_holds (sha256hex challengeOf : String → String) (configured : Bool)
    {start : CalendarPool} {organizationId jobId userId : Nat}
    (asked : start.jobs.find jobId = some ⟨jobId, .disconnect organizationId userId⟩)
    (idle : ∀ job ∈ start.jobs, CarriesNone organizationId job.phase) (answers : CalendarAnswers)
    (turns : List CalendarTurn)
    (noStart : Meets (calendarConnects sha256hex challengeOf configured).serve
      (Handler.Guarded (fun _ _ phase => ¬ StartsIn organizationId phase) fun _ _ => True)
      ((calendarConnects sha256hex challengeOf configured).serve start (.advance jobId answers))
      turns) :
    let desk := (run (calendarConnects sha256hex challengeOf configured).serve start
      (.advance jobId answers :: turns)).shared
    (desk.rowOf organizationId).status = .disconnected ∧
      (desk.rowOf organizationId).refreshToken = none := by
  have keeps : (calendarConnects sha256hex challengeOf configured).Keeps
      (fun desk => IsForgotten (desk.rowOf organizationId))
      (fun _ phase => CarriesNone organizationId phase)
      (fun _ _ phase => ¬ StartsIn organizationId phase) (fun _ _ => True) :=
    { opened := fun _ _ _ _ => False.elim
      crashed := fun _ _ _ => False.elim
      act := fun _ answers _ forgot none noStart => acts_forgotten answers forgot none noStart
      undisturbed := fun _ _ _ _ _ _ _ other => other
      outside := fun _ event forgot _ => ⟨changes_forgotten forgot event, fun _ other => other⟩ }
  have forgot : Pool.Sound (fun desk => IsForgotten (desk.rowOf organizationId))
      (fun _ phase => CarriesNone organizationId phase)
      ((calendarConnects sha256hex challengeOf configured).serve start (.advance jobId answers)) := by
    rw [serve_advance asked]
    refine ⟨?_, fun job stored => ?_⟩
    · change IsForgotten ((afterDisconnect configured organizationId userId
        (disconnect start.shared organizationId)).1.rowOf organizationId)
      rw [afterDisconnect_desk]
      exact disconnect_forgets organizationId
    · rcases mem_moveJob stored with ⟨old, _⟩ | ⟨_, moved⟩
      · exact idle job old
      · rw [moved]
        intro connect carried
        rcases @afterDisconnect_phase configured organizationId userId
          (disconnect start.shared organizationId) with ⟨held, goes⟩ | goes <;>
          · change CarriesConnect connect (afterDisconnect configured organizationId userId
              (disconnect start.shared organizationId)).2 at carried
            rw [goes] at carried
            exact carried.elim
  have kept := (keeps.run forgot noStart).shared
  exact ⟨kept.1, kept.2.1⟩

/-- Ann disconnects, and then an unasked callback comes. -/
def annDisconnects : CalendarPool :=
  run (calendarConnects id id true).serve unconnected
    (annConnects ++ [.receive (.disconnect 1 7), .advance 2 consented])

theorem disconnect_holds_annDisconnects :
    let desk := (run (calendarConnects id id true).serve annDisconnects
      (.advance 2 consented :: guesses)).shared
    (desk.rowOf 1).status = .disconnected ∧ (desk.rowOf 1).refreshToken = none := by
  have asked : annDisconnects.jobs.find 2 = some ⟨2, .disconnect 1 7⟩ := by decide +kernel
  have idle : ∀ job ∈ annDisconnects.jobs.rows, CarriesNone 1 job.phase := by decide +kernel
  exact disconnect_holds id id true asked idle consented guesses (by decide +kernel)

end EventaApi.Guarantees
