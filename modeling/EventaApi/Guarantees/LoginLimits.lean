import EventaApi.Source.LoginThrottle

/-!
# What the sign-in throttle bounds

The lock is asked for before a password is compared and the failure is counted after it, with
three commands to count it. Sign-ins that overlap compare more passwords than the limit, and one
that ends between its commands leaves a failure uncounted or a counter that never ends; where
none of that happens, the limit holds.
-/
namespace EventaApi.Guarantees
open Library Source

abbrev LoginPool := Pool LoginDesk LoginPhase

abbrev LoginTurn := PoolTurn Unit Verified Nat

/-! ## What is asked of the throttle -/

def isCounted : LoginEvent → Bool
  | .counted _ _ => true
  | _ => false

/-- The failure that created the counter. -/
def isCreation : LoginEvent → Bool
  | .counted _ fails => fails = 1
  | _ => false

/-- The wrong passwords compared since the counter was created. -/
def missedSince (history : List LoginEvent) : Nat :=
  (history.takeWhile fun event => ¬ isCreation event).count .missed

section Asked

variable (config : LoginThrottleConfig)

/-- A failure recorded in the lock's seconds before now. -/
def isRecentFailure (now : Instant) : LoginEvent → Bool
  | .counted moment _ => now ≤ lockEnd config moment
  | _ => false

/-- The failures recorded in the lock's seconds before now, since the last success. -/
def recentFailures (desk : LoginDesk) : Nat :=
  (desk.history.takeWhile fun event => event ≠ .cleared).countP (isRecentFailure config desk.clock)

/-- No sign-in has counted the first failure and not given the counter its end yet. -/
def CountersEnded (pool : LoginPool) : Prop := ∀ job ∈ pool.jobs, ∀ fails, job.phase ≠ .expire fails

/-- The key, if it is there, ends of itself within the lock's seconds. -/
def Lapses (now : Instant) (key : Key) : Prop :=
  ∀ entry ∈ key, ∃ moment ∈ entry.expiresAt, moment ≤ lockEnd config now

structure LockBounded (before after : LoginPool) : Prop where
  locked : before.shared.lock = none → after.shared.lock ≠ none →
    config.maxAttempts ≤ recentFailures config after.shared
  locksLapse : Lapses config after.shared.clock after.shared.lock
  countersLapse : CountersEnded after → Lapses config after.shared.clock after.shared.fails
  /-- After the lock's seconds without an attempt, the next one alone does not lock. -/
  forgiven : CountersEnded after → ∀ elapsed, config.lockSeconds * 1000 < elapsed →
    ∀ verified : List Verified, ((signIns config).drive (tickLogin after.shared elapsed)
      .assertNotLocked verified).1.lock = none
  guesses : after.shared.fails ≠ none →
    missedSince after.shared.history ≤ config.maxAttempts

def KeepsLockBounded (pool : LoginPool) (turn : LoginTurn) : Prop :=
  LockBounded config pool ((signIns config).serve pool turn)

end Asked

/-! ## What it depends on -/

/-- The wrong passwords compared and not counted yet. -/
def uncounted (jobs : Table (Job LoginPhase)) : Nat :=
  (jobs.select fun job => job.phase = .incr).length

/-- When the counter was created. -/
def bornAt : List LoginEvent → Option Instant
  | [] => none
  | .counted moment fails :: rest => if fails = 1 then some moment else bornAt rest
  | .missed :: rest | .cleared :: rest => bornAt rest

def isExpiring : LoginPhase → Bool
  | .expire _ => true
  | _ => false

section Conditions

variable (config : LoginThrottleConfig) (pool : LoginPool)

/-- A wrong password is compared only while the failures, with those still to be counted, are
within the limit, and a lock is set only while its counter stands at the limit and is not older
than the lock's seconds. -/
def Careful (verified : Verified) : LoginPhase → Prop
  | .compare => afterCompare verified = .incr → ∀ entry ∈ pool.shared.fails,
    entry.count + uncounted pool.jobs ≤ config.maxAttempts
  | .lock => pool.shared.lock = none → ∃ entry ∈ pool.shared.fails,
    config.maxAttempts ≤ entry.count ∧
      ∀ born ∈ bornAt pool.shared.history, pool.shared.clock ≤ lockEnd config born
  | _ => True

/-- A sign-in that ends leaves no failure uncounted of a counter that is there, and no counter
without an end. -/
def EndsCleanly (job : Job LoginPhase) : Prop :=
  (job.phase = .incr → pool.shared.fails = none) ∧
    (isExpiring job.phase → ∀ entry ∈ pool.shared.fails, entry.expiresAt = none →
      ∃ other ∈ pool.jobs.rows, other.id ≠ job.id ∧ isExpiring other.phase)

def KeepsCount : LoginTurn → Prop
  | .advance jobId verified =>
    ∀ job ∈ pool.jobs.find jobId, Careful config pool verified job.phase
  | .crash jobId => ∀ job ∈ pool.jobs.find jobId, EndsCleanly pool job
  | .receive _ | .outside _ => True

instance (verified : Verified) : DecidablePred (Careful config pool verified)
  | .compare => inferInstanceAs (Decidable (_ → ∀ _ ∈ pool.shared.fails, _))
  | .lock => inferInstanceAs (Decidable (_ → ∃ _ ∈ pool.shared.fails,
      _ ∧ ∀ _ ∈ bornAt pool.shared.history, _))
  | .assertNotLocked | .incr | .expire _ | .del | .done _ => isTrue trivial

instance : DecidablePred (EndsCleanly pool) := fun _ => inferInstanceAs (Decidable
  (_ ∧ (_ → ∀ _ ∈ pool.shared.fails, _ → ∃ _ ∈ pool.jobs.rows, _)))

instance : (turn : LoginTurn) → Decidable (KeepsCount config pool turn)
  | .advance jobId _ => inferInstanceAs (Decidable (∀ _ ∈ pool.jobs.find jobId, _))
  | .crash jobId => inferInstanceAs (Decidable (∀ _ ∈ pool.jobs.find jobId, _))
  | .receive _ | .outside _ => isTrue trivial

end Conditions

/-! ## Since the counter was created -/

/-- The latest of the history, back to the failure that created the counter. -/
structure Stretch (history recent : List LoginEvent) (born : Instant) : Prop where
  reaches : ∃ rest, history = recent ++ .counted born 1 :: rest
  uncleared : .cleared ∉ recent
  uncreated : ∀ event ∈ recent, isCreation event = false
  later : ∀ moment fails, .counted moment fails ∈ recent → born ≤ moment

section Stretches

variable {history recent : List LoginEvent} {born : Instant}

theorem Stretch.missedSince (stretch : Stretch history recent born) :
    missedSince history = recent.count .missed := by
  obtain ⟨rest, rfl⟩ := stretch.reaches
  unfold Guarantees.missedSince
  rw [List.takeWhile_append_of_pos (by simpa using stretch.uncreated)]
  simp [isCreation]

theorem Stretch.bornAt (stretch : Stretch history recent born) : bornAt history = some born := by
  obtain ⟨⟨rest, rfl⟩, _, uncreated, _⟩ := stretch
  clear * - uncreated
  induction recent with
  | nil => rfl
  | cons event recent ih =>
    obtain ⟨first, others⟩ := List.forall_mem_cons.mp uncreated
    cases event with
    | missed | cleared => exact ih others
    | counted moment fails =>
      have other : fails ≠ 1 := by simpa [isCreation] using first
      simpa [Guarantees.bornAt, other] using ih others

/-- What happens next, short of a success or a new counter, lengthens the stretch. -/
theorem Stretch.cons (stretch : Stretch history recent born) {event : LoginEvent}
    (uncleared : event ≠ .cleared) (uncreated : isCreation event = false)
    (later : ∀ moment fails, event = .counted moment fails → born ≤ moment) :
    Stretch (event :: history) (event :: recent) born where
  reaches := by
    obtain ⟨rest, rfl⟩ := stretch.reaches
    exact ⟨rest, rfl⟩
  uncleared := by
    intro member
    rcases List.mem_cons.mp member with same | before
    · exact uncleared same.symm
    · exact stretch.uncleared before
  uncreated := List.forall_mem_cons.mpr ⟨uncreated, stretch.uncreated⟩
  later := by
    intro moment fails member
    rcases List.mem_cons.mp member with same | before
    · exact later moment fails same.symm
    · exact stretch.later moment fails before

/-- The failures counted since a creation within the lock's seconds are recent. -/
theorem Stretch.recentFailures {config : LoginThrottleConfig} {desk : LoginDesk}
    (stretch : Stretch desk.history recent born) (young : desk.clock ≤ lockEnd config born) :
    recent.countP isCounted + 1 ≤ recentFailures config desk := by
  obtain ⟨⟨rest, reaches⟩, uncleared, _, later⟩ := stretch
  unfold Guarantees.recentFailures
  have kept : (∀ event ∈ recent, decide (event ≠ .cleared) = true) := by
    intro event there
    exact decide_eq_true fun same => uncleared (same ▸ there)
  rw [reaches, List.takeWhile_append_of_pos kept, List.countP_append]
  have first : isRecentFailure config desk.clock (.counted born 1) = true := decide_eq_true young
  have fewer : recent.countP isCounted ≤ recent.countP (isRecentFailure config desk.clock) := by
    refine List.countP_mono_left fun event there counted => ?_
    cases event with
    | missed | cleared => cases counted
    | counted moment fails =>
      have after : lockEnd config born ≤ lockEnd config moment :=
        Nat.add_le_add_right (later moment fails there) _
      exact decide_eq_true (young.trans after)
  simp only [List.takeWhile_cons, ne_eq, reduceCtorEq, not_false_eq_true, decide_true, if_true,
    List.countP_cons, first]
  omega

end Stretches

/-! ## The invariant -/

/-- How the history bears out the counter: it holds the failures counted since its creation, and
no more passwords were compared since than are counted or wait to be. -/
structure BornOut (config : LoginThrottleConfig) (desk : LoginDesk) (waiting : Nat)
    (entry : Expiring) (recent : List LoginEvent) (born : Instant) : Prop where
  stretch : Stretch desk.history recent born
  past : born ≤ desk.clock
  counted : recent.countP isCounted + 1 = entry.count
  covered : recent.count .missed + 1 ≤ entry.count + waiting
  limited : recent.count .missed ≤ config.maxAttempts

/-- It goes on while time passes and nothing is compared or counted. -/
theorem BornOut.carry {config : LoginThrottleConfig} {desk after : LoginDesk} {waiting : Nat}
    {entry again : Expiring} {recent : List LoginEvent} {born : Instant}
    (bornOut : BornOut config desk waiting entry recent born)
    (history : after.history = desk.history) (passed : desk.clock ≤ after.clock)
    (count : again.count = entry.count) : BornOut config after waiting again recent born where
  stretch := history ▸ bornOut.stretch
  past := bornOut.past.trans passed
  counted := bornOut.counted.trans count.symm
  covered := count ▸ bornOut.covered
  limited := bornOut.limited

structure LimitsSound (config : LoginThrottleConfig) (pool : LoginPool) : Prop where
  locks : Lapses config pool.shared.clock pool.shared.lock
  within : pool.shared.fails.Within (config.lockSeconds * 1000) pool.shared.clock
  ends : ∀ entry ∈ pool.shared.fails, entry.expiresAt = none →
    ∃ job ∈ pool.jobs.rows, isExpiring job.phase
  bornOut : ∀ entry ∈ pool.shared.fails, ∃ recent born,
    BornOut config pool.shared (uncounted pool.jobs) entry recent born

/-! ## The next attempt -/

section Alone

variable {config : LoginThrottleConfig}

theorem afterCompare_cases (verified : Verified) :
    afterCompare verified = .incr ∨ afterCompare verified = .del ∨
      ∃ exception, afterCompare verified = .done (.refused exception) := by
  cases verified with
  | candidates verified =>
    by_cases unmatched : (verified.filter fun ok => ok = some true).length = 0
    · exact Or.inl (if_pos unmatched)
    · exact Or.inr (Or.inl (if_neg unmatched))
  | account authenticated =>
    cases authenticated with
    | ok => exact Or.inr (Or.inl rfl)
    | error exception =>
      by_cases unauthorized : exception.code = .unauthorized
      · exact Or.inl (if_pos unauthorized)
      · exact Or.inr (Or.inr ⟨exception, if_neg unauthorized⟩)

/-- How far one attempt gets with the keys it found missing. -/
def FindsUnlocked (desk : LoginDesk) : LoginPhase → Prop
  | .assertNotLocked | .compare | .incr => desk.lock = none ∧ desk.fails = none
  | .expire fails => desk.lock = none ∧ fails = 1
  | .lock => False
  | .del | .done _ => desk.lock = none

theorem FindsUnlocked.lock {desk : LoginDesk} {phase : LoginPhase}
    (alone : FindsUnlocked desk phase) : desk.lock = none := by
  cases phase with
  | assertNotLocked | compare | incr | expire => exact alone.1
  | lock => exact alone.elim
  | del | done => exact alone

theorem FindsUnlocked.act (several : 1 < config.maxAttempts) {desk : LoginDesk} {phase : LoginPhase}
    (alone : FindsUnlocked desk phase) (verified : Verified) :
    FindsUnlocked (actOnLogin config desk verified phase).1
      (actOnLogin config desk verified phase).2 := by
  cases phase with
  | assertNotLocked =>
    simp only [actOnLogin, afterTtlOfLock, alone.1, Key.timeLeft]
    exact alone
  | compare =>
    rcases afterCompare_cases verified with wrong | right | ⟨exception, refused⟩
    · simp only [actOnLogin, wrong]
      exact alone
    · simp only [actOnLogin, right]
      exact alone.1
    · simp only [actOnLogin, refused]
      exact alone.1
  | incr =>
    simp only [actOnLogin, alone.2]
    exact ⟨alone.1, rfl⟩
  | expire fails =>
    obtain ⟨unlocked, rfl⟩ := alone
    have below : lockAtLimit config 1 = .done (.refused INVALID_CREDENTIALS) :=
      if_neg (Nat.not_le.mpr several)
    simp only [actOnLogin, below]
    exact unlocked
  | lock => exact alone.elim
  | del => rfl
  | done => exact alone

/-- An attempt that finds neither key does not lock. -/
theorem drive_alone (several : 1 < config.maxAttempts) (verified : List Verified)
    {desk : LoginDesk} {phase : LoginPhase} (alone : FindsUnlocked desk phase) :
    ((signIns config).drive desk phase verified).1.lock = none := by
  induction verified generalizing desk phase with
  | nil => exact alone.lock
  | cons first rest ih => exact ih (alone.act several first)

end Alone

/-! ## One turn -/

section Turns

variable {config : LoginThrottleConfig} {pool : LoginPool}

theorem lapses_sweep {now later : Instant} {key : Key} (lapses : Lapses config now key)
    (passed : now ≤ later) : Lapses config later (key.sweep later) := by
  intro entry there
  obtain ⟨moment, ends, soon⟩ := lapses entry (Key.sweep_eq_some.mp there).1
  exact ⟨moment, ends, soon.trans (Nat.add_le_add_right passed _)⟩

/-- A key that lapses is gone after the lock's seconds. -/
theorem lapses_past {now later : Instant} {key : Key} (lapses : Lapses config now key)
    (passed : now + config.lockSeconds * 1000 < later) : key.sweep later = none := by
  refine Option.eq_none_iff_forall_ne_some.mpr fun entry there => ?_
  obtain ⟨stored, alive⟩ := Key.sweep_eq_some.mp there
  obtain ⟨moment, ends, soon⟩ := lapses entry stored
  exact absurd ((alive moment ends).trans soon) (Nat.not_le.mpr passed)

section Moves

variable {job : Job LoginPhase} {jobId : Nat}

theorem uncounted_moveJob (found : pool.jobs.find jobId = some job) (phase : LoginPhase) :
    uncounted (moveJob pool.jobs jobId phase) + (if job.phase = .incr then 1 else 0) =
      uncounted pool.jobs + if phase = .incr then 1 else 0 :=
  length_select_moveJob (fun phase : LoginPhase => phase = LoginPhase.incr) found

/-- Nothing changes about what waits to be counted when no sign-in comes there or leaves. -/
theorem uncounted_same (found : pool.jobs.find jobId = some job) {phase : LoginPhase}
    (was : job.phase ≠ .incr) (goes : phase ≠ .incr) :
    uncounted (moveJob pool.jobs jobId phase) = uncounted pool.jobs := by
  have moved := uncounted_moveJob found phase
  rwa [if_neg was, if_neg goes] at moved

/-- A sign-in that is at its expiry stays there while another moves. -/
theorem expiring_stays (found : pool.jobs.find jobId = some job) (phase : LoginPhase)
    (expiring : ∃ waiting ∈ pool.jobs.rows, waiting.id ≠ job.id ∧ isExpiring waiting.phase) :
    ∃ waiting ∈ (moveJob pool.jobs jobId phase).rows, isExpiring waiting.phase := by
  obtain ⟨waiting, stored, other, expires⟩ := expiring
  refine ⟨waiting, Table.mem_update_of_miss stored fun (same : waiting.id = jobId) => ?_, expires⟩
  have named : job.id = jobId := (Table.find_eq_some.mp found).2
  exact other (same.trans named.symm)

/-- One that is at another step is not the one at its expiry. -/
theorem expiring_other (found : pool.jobs.find jobId = some job)
    (elsewhere : isExpiring job.phase = false)
    (expiring : ∃ waiting ∈ pool.jobs.rows, isExpiring waiting.phase) :
    ∃ waiting ∈ pool.jobs.rows, waiting.id ≠ job.id ∧ isExpiring waiting.phase := by
  obtain ⟨waiting, stored, expires⟩ := expiring
  refine ⟨waiting, stored, fun same => ?_, expires⟩
  have one : waiting = job := Table.eq_of_key stored (Table.find_eq_some.mp found).1 same
  rw [one, elsewhere] at expires
  cases expires

/-- A step that leaves the counter and the history alone keeps what is known of them. -/
theorem LimitsSound.aside (sound : LimitsSound config pool)
    (found : pool.jobs.find jobId = some job) {lock : Key} {next : LoginPhase}
    (locks : Lapses config pool.shared.clock lock) (was : job.phase ≠ .incr)
    (elsewhere : isExpiring job.phase = false) (goes : next ≠ .incr) :
    LimitsSound config
      { shared := { pool.shared with lock }, jobs := moveJob pool.jobs jobId next } where
  locks := locks
  within := sound.within
  ends := fun entry there endless =>
    expiring_stays found next (expiring_other found elsewhere (sound.ends entry there endless))
  bornOut := by
    intro entry there
    obtain ⟨recent, born, bornOut⟩ := sound.bornOut entry there
    rw [uncounted_same found was goes]
    exact ⟨recent, born, bornOut.carry rfl (Nat.le_refl _) rfl⟩

/-- A wrong password compared within the limit. -/
theorem LimitsSound.missed (sound : LimitsSound config pool)
    (found : pool.jobs.find jobId = some job) (at' : job.phase = .compare)
    (room : ∀ entry ∈ pool.shared.fails, entry.count + uncounted pool.jobs ≤ config.maxAttempts) :
    LimitsSound config
      { shared := { pool.shared with history := .missed :: pool.shared.history }
        jobs := moveJob pool.jobs jobId .incr } where
  locks := sound.locks
  within := sound.within
  ends := by
    intro entry there endless
    have elsewhere : isExpiring job.phase = false := by rw [at']; rfl
    exact expiring_stays found _
      (expiring_other found elsewhere (sound.ends entry there endless))
  bornOut := by
    intro entry there
    obtain ⟨recent, born, ⟨stretch, past, counted, covered, limited⟩⟩ := sound.bornOut entry there
    have waits := uncounted_moveJob found .incr
    rw [at', if_neg (by simp), if_pos rfl, Nat.add_zero] at waits
    have space := room entry there
    have more : (LoginEvent.missed :: recent).count .missed = recent.count .missed + 1 :=
      List.count_cons_self
    refine ⟨.missed :: recent, born, stretch.cons (by simp) rfl (by simp), past, ?_, ?_, ?_⟩
    · simpa [isCounted] using counted
    · simp only [more, waits]
      omega
    · rw [more]
      omega

/-- A failure is counted. -/
theorem LimitsSound.counted (sound : LimitsSound config pool)
    (found : pool.jobs.find jobId = some job) (at' : job.phase = .incr) :
    LimitsSound config
      { shared := { pool.shared with
          fails := some pool.shared.fails.increment
          history := .counted pool.shared.clock pool.shared.fails.increment.count ::
            pool.shared.history }
        jobs :=
          moveJob pool.jobs jobId (recordFailure config pool.shared.fails.increment.count) } := by
  have goes (fails : Nat) : recordFailure config fails ≠ .incr := by
    unfold recordFailure lockAtLimit
    split
    · nofun
    · split <;> nofun
  have waits := uncounted_moveJob found (recordFailure config pool.shared.fails.increment.count)
  rw [at', if_pos rfl, if_neg (goes _), Nat.add_zero] at waits
  have elsewhere : isExpiring job.phase = false := by rw [at']; rfl
  refine ⟨sound.locks, Key.within_increment sound.within, ?_, ?_⟩
  · rintro _ ⟨⟩ endless
    cases there : pool.shared.fails with
    | none =>
      -- the first failure leaves its sign-in at the expiry
      obtain ⟨stored, named⟩ := Table.find_eq_some.mp (find_moveJob found)
      exact ⟨_, stored, rfl⟩
    | some entry =>
      rw [there] at endless
      exact expiring_stays found _ (expiring_other found elsewhere
        (sound.ends entry there endless))
  · rintro _ ⟨⟩
    cases there : pool.shared.fails with
    | none =>
      rw [there] at waits
      refine ⟨[], pool.shared.clock, ⟨⟨_, rfl⟩, by simp, by simp, by simp⟩, ?_, rfl, ?_, ?_⟩
      · exact Nat.le_refl _
      · simp [Key.increment]
      · exact Nat.zero_le _
    | some entry =>
      rw [there] at waits
      obtain ⟨recent, born, ⟨stretch, past, counted, covered, limited⟩⟩ :=
        sound.bornOut entry there
      have later : entry.count + 1 ≠ 1 := by omega
      refine ⟨.counted pool.shared.clock (entry.count + 1) :: recent, born,
        stretch.cons (by simp) ?_ ?_, past, ?_, ?_, ?_⟩
      · exact decide_eq_false later
      · rintro _ _ ⟨⟩
        exact past
      · simp only [Key.increment, List.countP_cons, isCounted, if_true]
        omega
      · simp only [Key.increment, List.count_cons, beq_iff_eq, reduceCtorEq, if_false]
        simp only [Key.increment] at waits
        omega
      · simpa [List.count_cons] using limited

/-- The counter gets its end. -/
theorem LimitsSound.expired (sound : LimitsSound config pool)
    (found : pool.jobs.find jobId = some job) {fails : Nat} (at' : job.phase = .expire fails) :
    LimitsSound config
      { shared := { pool.shared with
          fails := pool.shared.fails.expire (lockEnd config pool.shared.clock) }
        jobs := moveJob pool.jobs jobId (lockAtLimit config fails) } := by
  have goes : lockAtLimit config fails ≠ .incr := by
    unfold lockAtLimit
    split <;> nofun
  refine ⟨sound.locks, Key.within_expire, ?_, ?_⟩
  · intro entry there endless
    obtain ⟨old, stored, rfl⟩ := Option.map_eq_some_iff.mp there
    cases endless
  · intro entry there
    obtain ⟨old, stored, rfl⟩ := Option.map_eq_some_iff.mp there
    obtain ⟨recent, born, bornOut⟩ := sound.bornOut old stored
    rw [uncounted_same found (by rw [at']; nofun) goes]
    exact ⟨recent, born, bornOut.carry rfl (Nat.le_refl _) rfl⟩

/-- A careful step keeps all of it. -/
theorem LimitsSound.act (sound : LimitsSound config pool)
    (found : pool.jobs.find jobId = some job) {verified : Verified}
    (careful : Careful config pool verified job.phase) :
    LimitsSound config
      { shared := (actOnLogin config pool.shared verified job.phase).1
        jobs := moveJob pool.jobs jobId (actOnLogin config pool.shared verified job.phase).2 } := by
  cases at' : job.phase with
  | assertNotLocked =>
    have goes : afterTtlOfLock (pool.shared.lock.timeLeft pool.shared.clock) ≠ .incr := by
      unfold afterTtlOfLock
      split <;> nofun
    exact sound.aside found sound.locks (by rw [at']; nofun) (by rw [at']; rfl) goes
  | compare =>
    rw [at'] at careful
    rcases afterCompare_cases verified with wrong | right | ⟨exception, refused⟩
    · simp only [actOnLogin, missedBy, wrong, if_true]
      exact sound.missed found at' (careful wrong)
    · simp only [actOnLogin, missedBy, right, reduceCtorEq, if_false]
      exact sound.aside found sound.locks (by rw [at']; nofun) (by rw [at']; rfl) nofun
    · simp only [actOnLogin, missedBy, refused, reduceCtorEq, if_false]
      exact sound.aside found sound.locks (by rw [at']; nofun) (by rw [at']; rfl) nofun
  | incr => exact sound.counted found at'
  | expire fails => exact sound.expired found at'
  | lock =>
    have locks : Lapses config pool.shared.clock
        (some ⟨1, some (lockEnd config pool.shared.clock)⟩) := by
      rintro _ ⟨⟩
      exact ⟨_, rfl, Nat.le_refl _⟩
    exact sound.aside found locks (by rw [at']; nofun) (by rw [at']; rfl) nofun
  | del => exact ⟨nofun, nofun, nofun, nofun⟩
  | done reply => exact sound.aside found sound.locks (by rw [at']; nofun) (by rw [at']; rfl) nofun

/-- So does a sign-in that ends cleanly. -/
theorem LimitsSound.crashed (sound : LimitsSound config pool)
    (found : pool.jobs.find jobId = some job) (clean : EndsCleanly pool job) :
    LimitsSound config { pool with jobs := moveJob pool.jobs jobId (.done .crashed) } := by
  refine ⟨sound.locks, sound.within, fun entry there endless => ?_, fun entry there => ?_⟩
  · refine expiring_stays found _ ?_
    cases expires : isExpiring job.phase with
    | true => exact clean.2 expires entry there endless
    | false => exact expiring_other found expires (sound.ends entry there endless)
  · have was : job.phase ≠ .incr := by
      intro incr
      rw [clean.1 incr] at there
      cases there
    have goes : LoginPhase.done .crashed ≠ .incr := nofun
    rw [uncounted_same found was goes]
    exact sound.bornOut entry there

end Moves

theorem LimitsSound.received (sound : LimitsSound config pool) :
    LimitsSound config ((signIns config).serve pool (.receive ())) := by
  have waits : uncounted ((signIns config).serve pool (.receive ())).jobs =
      uncounted pool.jobs := by
    unfold uncounted Handler.serve
    rw [Table.select_insert]
    simp [signIns]
  refine ⟨sound.locks, sound.within, fun entry there endless => ?_, fun entry there => ?_⟩
  · obtain ⟨waiting, stored, expires⟩ := sound.ends entry there endless
    exact ⟨waiting, Table.mem_insert.mpr (Or.inl stored), expires⟩
  · rw [waits]
    exact sound.bornOut entry there

theorem LimitsSound.ticked (sound : LimitsSound config pool) (elapsed : Nat) :
    LimitsSound config { pool with shared := tickLogin pool.shared elapsed } := by
  have passed : pool.shared.clock ≤ pool.shared.clock + elapsed := Nat.le_add_right _ _
  refine ⟨lapses_sweep sound.locks passed, Key.within_sweep sound.within passed,
    fun entry there endless => ?_, fun entry there => ?_⟩
  · exact sound.ends entry (Key.sweep_eq_some.mp there).1 endless
  · obtain ⟨recent, born, bornOut⟩ := sound.bornOut entry (Key.sweep_eq_some.mp there).1
    exact ⟨recent, born, bornOut.carry rfl passed rfl⟩

theorem LimitsSound.serve (sound : LimitsSound config pool) {turn : LoginTurn}
    (keeps : KeepsCount config pool turn) :
    LimitsSound config ((signIns config).serve pool turn) := by
  cases turn with
  | receive => exact sound.received
  | advance jobId verified =>
    cases found : pool.jobs.find jobId with
    | none =>
      rw [serve_missing found]
      exact sound
    | some job =>
      rw [serve_advance found]
      exact sound.act found (keeps job found)
  | crash jobId =>
    cases found : pool.jobs.find jobId with
    | none =>
      simp only [Handler.serve, moveJob_missing found]
      exact sound
    | some job => exact sound.crashed found (keeps job found)
  | outside elapsed => exact sound.ticked elapsed

/-- Only a sign-in that sets the lock locks. -/
theorem serve_locks {turn : LoginTurn} (unlocked : pool.shared.lock = none)
    (locked : ((signIns config).serve pool turn).shared.lock ≠ none) :
    ∃ jobId verified, turn = .advance jobId verified ∧ ∃ job ∈ pool.jobs.find jobId,
      job.phase = .lock := by
  rcases (signIns config).serve_cases pool turn with
    same | ⟨elapsed, _, changed⟩ | ⟨jobId, verified, job, advances, found, acted⟩
  · rw [same] at locked
    exact absurd unlocked locked
  · rw [changed] at locked
    refine absurd ?_ locked
    simp only [signIns, tickLogin, unlocked]
    rfl
  · rw [acted] at locked
    refine ⟨jobId, verified, advances, job, found, ?_⟩
    cases at' : job.phase with
    | lock => rfl
    | del =>
      rw [at'] at locked
      exact absurd rfl locked
    | _ =>
      rw [at'] at locked
      exact absurd unlocked locked

/-- A lock that is set has its failures. -/
theorem LimitsSound.locked (sound : LimitsSound config pool) {turn : LoginTurn}
    (keeps : KeepsCount config pool turn) (unlocked : pool.shared.lock = none)
    (locked : ((signIns config).serve pool turn).shared.lock ≠ none) :
    config.maxAttempts ≤ recentFailures config ((signIns config).serve pool turn).shared := by
  obtain ⟨jobId, verified, rfl, job, found, at'⟩ := serve_locks unlocked locked
  have careful := keeps job found
  rw [at'] at careful
  obtain ⟨entry, there, reached, young⟩ := careful unlocked
  obtain ⟨recent, born, bornOut⟩ := sound.bornOut entry there
  have failures := bornOut.stretch.recentFailures (young born bornOut.stretch.bornAt)
  rw [bornOut.counted] at failures
  rw [serve_advance found, at']
  exact reached.trans failures

/-- A careful turn is bounded as the throttle says. -/
theorem LimitsSound.bounded (several : 1 < config.maxAttempts) (sound : LimitsSound config pool)
    {turn : LoginTurn} (keeps : KeepsCount config pool turn) :
    KeepsLockBounded config pool turn := by
  have after := sound.serve keeps
  have counters : CountersEnded ((signIns config).serve pool turn) → Lapses config
      ((signIns config).serve pool turn).shared.clock
      ((signIns config).serve pool turn).shared.fails := by
    intro settled entry there
    cases ends : entry.expiresAt with
    | none =>
      obtain ⟨job, stored, expires⟩ := after.ends entry there ends
      cases at' : job.phase with
      | expire fails => exact absurd at' (settled job stored fails)
      | _ =>
        rw [at'] at expires
        cases expires
    | some moment => exact ⟨moment, rfl, (after.within entry there moment ends).2⟩
  refine ⟨sound.locked keeps, after.locks, counters, fun settled elapsed long verified => ?_,
    fun there => ?_⟩
  · have past : ((signIns config).serve pool turn).shared.clock + config.lockSeconds * 1000 <
        ((signIns config).serve pool turn).shared.clock + elapsed := Nat.add_lt_add_left long _
    refine drive_alone several verified ⟨?_, ?_⟩
    · exact lapses_past after.locks past
    · exact lapses_past (counters settled) past
  · obtain ⟨entry, stored⟩ := Option.ne_none_iff_exists'.mp there
    obtain ⟨recent, born, bornOut⟩ := after.bornOut entry stored
    rw [bornOut.stretch.missedSince]
    exact bornOut.limited

end Turns

/-! ## Runs -/

/-- Nobody has tried to sign in yet. -/
def UntriedSince (now : Instant) : LoginPool where
  shared := { clock := now, fails := none, lock := none, history := [] }
  jobs := Table.empty

theorem untried_sound (config : LoginThrottleConfig) (now : Instant) :
    LimitsSound config (UntriedSince now) := ⟨nofun, nofun, nofun, nofun⟩

def twoAttempts : LoginThrottleConfig where
  maxAttempts := 2
  lockSeconds := 900
  max_pos := by decide
  lock_pos := by decide

def wrongPassword : Verified := .account (.error INVALID_CREDENTIALS)

def rightPassword : Verified := .account (.ok ())

/-- A sign-in with the password, all of it. -/
def signInWith (jobId : Nat) (verified : Verified) : List LoginTurn :=
  .receive () :: List.replicate 5 (.advance jobId verified)

/-- Two wrong passwords lock, a third attempt is refused, and the right one comes after the lock. -/
def lockedThenFound : List LoginTurn :=
  signInWith 0 wrongPassword ++ signInWith 1 wrongPassword ++ signInWith 2 rightPassword ++
    [.outside 900001] ++ signInWith 3 rightPassword

/-- The first failure is counted, and its sign-in ends before the counter has an end. -/
def endlessCounter : List LoginTurn :=
  [.receive (), .advance 0 wrongPassword, .advance 0 wrongPassword, .advance 0 wrongPassword]

end EventaApi.Guarantees
