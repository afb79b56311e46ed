import EventaApi.Source.ResendThrottle

/-!
# What the resend throttle bounds

Only the claim that set the cool-off goes on, so no two claims of one cool-off are granted;
each of those counts the counter up once, so that no more than the limit are granted while
it stands. An end once given is moved only by a repair that comes late: the claim asked how
long the window had left while it had no end, and gives it one when another claim has.
-/
namespace EventaApi.Guarantees
open Library Source

abbrev ThrottlePool := Pool Redis ClaimPhase

abbrev ClaimTurn := PoolTurn Unit Wire Nat

/-! ## What is asked of the throttle -/

/-- The call had not gone past such a phase in this state of the pool. -/
def WasAt (before : ThrottlePool) (stages : List ClaimPhase) (job : Job ClaimPhase) : Prop :=
  ∀ old ∈ before.jobs.find job.id, old.phase ∈ stages

instance (before : ThrottlePool) (stages : List ClaimPhase) :
    DecidablePred (WasAt before stages) := fun _ => inferInstanceAs (Decidable (∀ _ ∈ _, _))

/-- Granted by now, and not past such a phase before. -/
def GrantedSince (before : ThrottlePool) (stages : List ClaimPhase) (job : Job ClaimPhase) :
    Prop := job.phase = .done .granted ∧ WasAt before stages job

instance (before : ThrottlePool) (stages : List ClaimPhase) :
    DecidablePred (GrantedSince before stages) := fun _ => inferInstanceAs (Decidable (_ ∧ _))

def IsRefused : ClaimPhase → Prop
  | .done (.refused _) => True
  | _ => False

/-- A key with an end has it later, or has it no more. -/
def Prolongs (before after : Key) : Prop :=
  ∃ entry ∈ before, ∃ moment ∈ entry.expiresAt, ∃ next ∈ after,
    ∀ later ∈ next.expiresAt, moment < later

/-- The counter of what was sent has an end, or is not there. -/
def HasEnd (budget : Key) : Prop := ∀ entry ∈ budget, entry.expiresAt.isSome = true

section Asked

variable (config : ThrottleConfig)

/-- The counter expires. -/
def CounterExpires (pool : ThrottlePool) (turn : ClaimTurn) : Prop :=
  pool.shared.budget.isSome = true ∧ ((resendClaims config .code).serve pool turn).shared.budget = none

structure ThrottleHolds (start : ThrottlePool) (turns : List ClaimTurn) : Prop where
  /-- Of the claims that had not asked for the cool-off, one is granted in its seconds. -/
  oncePerCooldown : ∀ first during last, turns = first ++ during ++ last →
    let before := run (resendClaims config .code).serve start first
    let after := run (resendClaims config .code).serve before during
    after.shared.clock ≤ endOf before.shared config.cooldownSeconds →
      ∀ job ∈ after.jobs, ∀ other ∈ after.jobs, GrantedSince before [.claimWindow] job →
        GrantedSince before [.claimWindow] other → job = other
  /-- Of the claims not counted yet, no more than the limit are granted until the counter expires. -/
  withinBudget : ∀ first during last, turns = first ++ during ++ last →
    let before := run (resendClaims config .code).serve start first
    let after := run (resendClaims config .code).serve before during
    Meets (resendClaims config .code).serve (fun pool turn => ¬ CounterExpires config pool turn)
        before during →
      (after.jobs.select (GrantedSince before [.claimWindow, .incr])).length ≤ config.code.max
  /-- No step of a call that is refused prolongs a cool-off or a running window. -/
  prolongsNothing : ∀ first jobId wire last, turns = first ++ .advance jobId wire :: last →
    let before := run (resendClaims config .code).serve start first
    let after := (resendClaims config .code).serve before (.advance jobId wire)
    (∃ job ∈ (run (resendClaims config .code).serve after last).jobs.find jobId,
        IsRefused job.phase) →
      ¬ Prolongs before.shared.cooldown after.shared.cooldown ∧
        ¬ Prolongs before.shared.budget after.shared.budget
  /-- A call that is refused as over its total leaves the counter with an end. -/
  repaired : ∀ first jobId last, turns = first ++ .advance jobId .answered :: last →
    let before := run (resendClaims config .code).serve start first
    let after := (resendClaims config .code).serve before (.advance jobId .answered)
    ∀ job ∈ before.jobs.find jobId, job.phase = .ttl ∨ job.phase = .repair →
      ∀ moved ∈ after.jobs.find jobId, IsRefused moved.phase → HasEnd after.shared.budget
  /-- Whatever happened, somebody who waits and asks is granted one again. -/
  neverLockedOut : ∀ first last, turns = first ++ last → ∃ later,
    let before := run (resendClaims config .code).serve start first
    ∃ job ∈ (run (resendClaims config .code).serve before later).jobs,
      before.jobs.next ≤ job.id ∧ job.phase = .done .granted
  /-- A call that met a failure of Redis is not granted. -/
  failsClosed : ∀ first jobId wire last, turns = first ++ .advance jobId wire :: last →
    wire ≠ .answered →
    ∀ job ∈ (run (resendClaims config .code).serve start first).jobs.find jobId,
      (∀ reply, job.phase ≠ .done reply) →
        ∀ later ∈ (run (resendClaims config .code).serve start turns).jobs.find jobId,
          later.phase ≠ .done .granted

/-- The command gives the counter an end that is not later than one it has. -/
def leavesWindow (redis : Redis) (wire : Wire) : ClaimPhase → Prop
  | .repair => wire ≠ .unreached → ∀ entry ∈ redis.budget, ∀ moment ∈ entry.expiresAt,
    endOf redis config.code.windowSeconds ≤ moment
  | .expire => wire = .lost → ∀ entry ∈ redis.budget, ∀ moment ∈ entry.expiresAt,
    endOf redis config.code.windowSeconds ≤ moment
  | _ => True

instance (redis : Redis) (wire : Wire) : DecidablePred (leavesWindow config redis wire)
  | .repair => inferInstanceAs (Decidable (_ → ∀ _ ∈ _, ∀ _ ∈ _, _))
  | .expire => inferInstanceAs (Decidable (_ → ∀ _ ∈ _, ∀ _ ∈ _, _))
  | .claimWindow | .incr | .ttl | .done _ => isTrue trivial

def LeavesWindow : ThrottlePool → ClaimTurn → Prop :=
  Handler.Guarded (leavesWindow config) fun _ _ => True

instance (pool : ThrottlePool) (turn : ClaimTurn) : Decidable (LeavesWindow config pool turn) :=
  inferInstanceAs (Decidable (Handler.Guarded _ _ pool turn))

end Asked

/-! ## One command -/

/-- What a claim of a code does with its command. -/
inductive ClaimActs (config : ThrottleConfig) (redis : Redis) : ClaimPhase → Redis → ClaimPhase → Prop
  | won (free : redis.cooldown = none) :
    ClaimActs config redis .claimWindow
      { redis with cooldown := some ⟨1, some (endOf redis config.cooldownSeconds)⟩ } .incr
  | waited (key : Key) (exception : DomainException)
      (set : key = redis.cooldown ∨
        key = (redis.cooldown.setIfAbsent (endOf redis config.cooldownSeconds)).1) :
    ClaimActs config redis .claimWindow { redis with cooldown := key } (.done (.refused exception))
  | counted :
    ClaimActs config redis .incr { redis with budget := some redis.budget.increment }
      (afterIncr config.code redis.budget.increment.count)
  | uncounted (key : Key) (exception : DomainException)
      (counted : key = redis.budget ∨ key = some redis.budget.increment) :
    ClaimActs config redis .incr { redis with budget := key } (.done (.refused exception))
  | anchored :
    ClaimActs config redis .expire
      { redis with budget := redis.budget.expire (endOf redis config.code.windowSeconds) }
      (.done .granted)
  | ended (phase : ClaimPhase) (key : Key) (exception : DomainException)
      (ends : phase = .expire ∨ phase = .repair)
      (given : key = redis.budget ∨
        key = redis.budget.expire (endOf redis config.code.windowSeconds)) :
    ClaimActs config redis phase { redis with budget := key } (.done (.refused exception))
  | asked (next : ClaimPhase) (goes : next = .repair ∨ IsRefused next) :
    ClaimActs config redis .ttl redis next
  | idle (reply : ClaimReply) : ClaimActs config redis (.done reply) redis (.done reply)

section Commands

variable {config : ThrottleConfig} {redis : Redis} {wire : Wire} {phase : ClaimPhase}

theorem claim_cases (config : ThrottleConfig) (redis : Redis) (wire : Wire) (phase : ClaimPhase) :
    ClaimActs config redis phase (actOnThrottle config .code redis wire phase).1
      (actOnThrottle config .code redis wire phase).2 := by
  cases phase with
  | claimWindow =>
    cases wire with
    | answered =>
      cases there : redis.cooldown with
      | none =>
        simp only [actOnThrottle, there]
        exact .won there
      | some entry =>
        simp only [actOnThrottle, there]
        exact .waited _ _ (Or.inr (by rw [there]))
    | lost => exact .waited _ _ (Or.inr rfl)
    | unreached => exact .waited redis.cooldown _ (Or.inl rfl)
  | incr =>
    cases wire with
    | answered => exact .counted
    | lost => exact .uncounted _ _ (Or.inr rfl)
    | unreached => exact .uncounted redis.budget _ (Or.inl rfl)
  | expire =>
    cases wire with
    | answered =>
      have sends : ¬ config.code.max < 1 := Nat.not_lt.mpr config.max_pos
      simp only [actOnThrottle, ThrottleConfig.defaultBudget, afterWire, afterExpire, if_neg sends]
      exact .anchored
    | lost => exact .ended _ _ _ (Or.inl rfl) (Or.inr rfl)
    | unreached => exact .ended _ redis.budget _ (Or.inl rfl) (Or.inl rfl)
  | ttl =>
    refine .asked _ ?_
    cases wire with
    | answered =>
      simp only [actOnThrottle, afterWire, afterTtl]
      split
      · exact Or.inr trivial
      · split
        · exact Or.inr trivial
        · exact Or.inl rfl
    | lost | unreached => exact Or.inr trivial
  | repair =>
    cases wire with
    | answered | lost => exact .ended _ _ _ (Or.inr rfl) (Or.inr rfl)
    | unreached => exact .ended _ redis.budget _ (Or.inr rfl) (Or.inl rfl)
  | done reply => exact .idle reply

end Commands

/-! ## The two keys -/

/-- The keys end within their spans, and a counter that is there was counted. -/
structure KeysSound (config : ThrottleConfig) (redis : Redis) : Prop where
  cooldown : redis.cooldown.Within (config.cooldownSeconds * 1000) redis.clock
  ends : ∀ entry ∈ redis.cooldown, entry.expiresAt.isSome = true
  budget : redis.budget.Within (config.code.windowSeconds * 1000) redis.clock
  counted : redis.budget.Counted

section Keys

variable {config : ThrottleConfig} {redis after : Redis} {phase next : ClaimPhase}

theorem claim_clock (acts : ClaimActs config redis phase after next) : after.clock = redis.clock := by
  cases acts with
  | _ => rfl

theorem claim_sound (acts : ClaimActs config redis phase after next) (sound : KeysSound config redis) :
    KeysSound config after := by
  obtain ⟨cooldown, ends, budget, counted⟩ := sound
  have set : KeysSound config { redis with cooldown :=
      (redis.cooldown.setIfAbsent (endOf redis config.cooldownSeconds)).1 } := by
    refine ⟨Key.within_setIfAbsent cooldown, fun entry there => ?_, budget, counted⟩
    cases held : redis.cooldown with
    | none =>
      rw [held] at there
      cases there
      rfl
    | some old =>
      rw [held] at there
      exact ends entry (held.trans there)
  have spent : KeysSound config { redis with budget := some redis.budget.increment } :=
    ⟨cooldown, ends, Key.within_increment budget, Key.counted_increment⟩
  have given : KeysSound config
      { redis with budget := redis.budget.expire (endOf redis config.code.windowSeconds) } :=
    ⟨cooldown, ends, Key.within_expire, Key.counted_expire counted⟩
  cases acts with
  | won free =>
    rw [free] at set
    exact set
  | waited key exception same =>
    rcases same with rfl | rfl
    · exact ⟨cooldown, ends, budget, counted⟩
    · exact set
  | counted => exact spent
  | uncounted key exception same =>
    rcases same with rfl | rfl
    · exact ⟨cooldown, ends, budget, counted⟩
    · exact spent
  | anchored => exact given
  | ended phase key exception from' same =>
    rcases same with rfl | rfl
    · exact ⟨cooldown, ends, budget, counted⟩
    · exact given
  | asked | idle => exact ⟨cooldown, ends, budget, counted⟩

theorem tickRedis_sound (sound : KeysSound config redis) (elapsed : Nat) :
    KeysSound config (tickRedis redis elapsed) := by
  obtain ⟨cooldown, ends, budget, counted⟩ := sound
  refine ⟨Key.within_sweep cooldown (Nat.le_add_right _ _), fun entry there => ?_,
    Key.within_sweep budget (Nat.le_add_right _ _), Key.counted_sweep counted⟩
  exact ends entry (Key.sweep_eq_some.mp there).1

theorem claims_sound (pool : ThrottlePool) (turn : ClaimTurn) (sound : KeysSound config pool.shared) :
    KeysSound config ((resendClaims config .code).serve pool turn).shared := by
  let keeps (before after : Redis) : Prop := KeysSound config before → KeysSound config after
  have kept : keeps pool.shared ((resendClaims config .code).serve pool turn).shared := by
    refine Handler.serve_shared (fun sound => sound) (fun job _ wire sound => ?_)
      (fun elapsed sound => tickRedis_sound sound elapsed) turn
    exact claim_sound (claim_cases config pool.shared wire job.phase) sound
  exact kept sound

theorem claims_clock (config : ThrottleConfig) (pool : ThrottlePool) (turn : ClaimTurn) :
    pool.shared.clock ≤ ((resendClaims config .code).serve pool turn).shared.clock := by
  let forward (before after : Redis) : Prop := before.clock ≤ after.clock
  have moved : forward pool.shared ((resendClaims config .code).serve pool turn).shared := by
    refine Handler.serve_shared ?_ (fun job _ wire => ?_) (fun elapsed => ?_) turn
    · exact Nat.le_refl pool.shared.clock
    · exact Nat.le_of_eq (claim_clock (claim_cases config pool.shared wire job.phase)).symm
    · exact Nat.le_add_right pool.shared.clock elapsed
  exact moved

end Keys

/-! ## One cool-off -/

/-- Past the cool-off, and on the way to being granted. -/
def Ahead : ClaimPhase → Prop
  | .incr | .expire | .ttl | .repair | .done .granted => True
  | _ => False

/-- Since then one call at most has won the cool-off, which still stands. -/
structure OneWinner (config : ThrottleConfig) (before pool : ThrottlePool) : Prop where
  only : ∀ job ∈ pool.jobs, ∀ other ∈ pool.jobs, Ahead job.phase → Ahead other.phase →
    WasAt before [.claimWindow] job → WasAt before [.claimWindow] other → job = other
  stands : ∀ job ∈ pool.jobs, Ahead job.phase → WasAt before [.claimWindow] job →
    ∃ entry ∈ pool.shared.cooldown, ∃ moment ∈ entry.expiresAt,
      endOf before.shared config.cooldownSeconds ≤ moment

section Cooldown

variable {config : ThrottleConfig} {before pool : ThrottlePool}

/-- Only the command that sets the cool-off brings a call ahead, and no other touches it. -/
theorem claim_ahead {redis after : Redis} {phase next : ClaimPhase}
    (acts : ClaimActs config redis phase after next) (ahead : Ahead next) :
    (Ahead phase ∧ after.cooldown = redis.cooldown) ∨
      phase = .claimWindow ∧ redis.cooldown = none ∧
        after.cooldown = some ⟨1, some (endOf redis config.cooldownSeconds)⟩ := by
  cases acts with
  | won free => exact Or.inr ⟨rfl, free, rfl⟩
  | counted | anchored | asked => exact Or.inl ⟨trivial, rfl⟩
  | idle reply => exact Or.inl ⟨ahead, rfl⟩
  | waited | uncounted | ended => exact ahead.elim

theorem claim_cooldown {redis after : Redis} {phase next : ClaimPhase}
    (acts : ClaimActs config redis phase after next) {entry : Expiring}
    (there : redis.cooldown = some entry) : after.cooldown = some entry := by
  cases acts with
  | won free =>
    rw [free] at there
    cases there
  | waited key exception same =>
    rcases same with rfl | rfl
    · exact there
    · exact Key.setIfAbsent_kept there
  | _ => exact there

/-- A turn that brings nobody ahead and leaves the cool-off keeps its one winner. -/
theorem OneWinner.of_old {after : ThrottlePool} (one : OneWinner config before pool)
    (same : after.shared.cooldown = pool.shared.cooldown)
    (old : ∀ job ∈ after.jobs, Ahead job.phase → job ∈ pool.jobs) :
    OneWinner config before after where
  only := fun job member other member' ahead ahead' =>
    one.only job (old job member ahead) other (old other member' ahead') ahead ahead'
  stands := fun job member ahead new => by
    rw [same]
    exact one.stands job (old job member ahead) ahead new

theorem oneWinner_serve (one : OneWinner config before pool) (turn : ClaimTurn)
    (passed : before.shared.clock ≤ pool.shared.clock)
    (soon : ((resendClaims config .code).serve pool turn).shared.clock ≤
      endOf before.shared config.cooldownSeconds) :
    OneWinner config before ((resendClaims config .code).serve pool turn) := by
  cases turn with
  | receive request =>
    refine one.of_old rfl fun job member ahead => ?_
    rcases Table.mem_insert.mp member with old | rfl
    · exact old
    · exact ahead.elim
  | advance jobId wire =>
    cases found : pool.jobs.find jobId with
    | none =>
      rw [serve_missing found]
      exact one
    | some mover =>
      obtain ⟨only, stands⟩ := one
      obtain ⟨stored, named⟩ := Table.find_eq_some.mp found
      have acts := claim_cases config pool.shared wire mover.phase
      rw [serve_advance found]
      change OneWinner config before
        ⟨(actOnThrottle config .code pool.shared wire mover.phase).1,
          moveJob pool.jobs jobId (actOnThrottle config .code pool.shared wire mover.phase).2⟩
      generalize (actOnThrottle config .code pool.shared wire mover.phase).1 = after at acts
      generalize (actOnThrottle config .code pool.shared wire mover.phase).2 = next at acts
      -- who is ahead now was ahead before, or has just set the cool-off
      have from' {job : Job ClaimPhase} (member : job ∈ moveJob pool.jobs jobId next)
          (ahead : Ahead job.phase) :
          (∃ old ∈ pool.jobs, old.id = job.id ∧ Ahead old.phase) ∨
            job.id = jobId ∧ pool.shared.cooldown = none ∧
              after.cooldown = some ⟨1, some (endOf pool.shared config.cooldownSeconds)⟩ := by
        rcases mem_moveJob member with ⟨old, _⟩ | ⟨same, moved⟩
        · exact Or.inl ⟨job, old, rfl, ahead⟩
        · rw [moved] at ahead
          rcases claim_ahead acts ahead with ⟨was, _⟩ | ⟨_, free, set⟩
          · exact Or.inl ⟨mover, stored, named.trans same.symm, was⟩
          · exact Or.inr ⟨same, free, set⟩
      have none_before (free : pool.shared.cooldown = none) {job : Job ClaimPhase}
          (old : job ∈ pool.jobs) (ahead : Ahead job.phase)
          (new : WasAt before [.claimWindow] job) : False := by
        obtain ⟨entry, there, _⟩ := stands job old ahead new
        rw [free] at there
        cases there
      have was {old job : Job ClaimPhase} (same : old.id = job.id)
          (new : WasAt before [.claimWindow] job) : WasAt before [.claimWindow] old := by
        unfold WasAt
        rw [same]
        exact new
      refine ⟨fun job member other member' ahead ahead' new new' => ?_, fun job member ahead new => ?_⟩
      · have ids : job.id = other.id := by
          rcases from' member ahead with ⟨old, there, same, had⟩ | ⟨same, free, _⟩
          · rcases from' member' ahead' with ⟨old', there', same', had'⟩ | ⟨_, free, _⟩
            · have equal := only old there old' there' had had' (was same new) (was same' new')
              rw [← same, ← same', equal]
            · exact (none_before free there had (was same new)).elim
          · rcases from' member' ahead' with ⟨old', there', same', had'⟩ | ⟨same', _, _⟩
            · exact (none_before free there' had' (was same' new')).elim
            · exact same.trans same'.symm
        exact Table.eq_of_key member member' ids
      · rcases from' member ahead with ⟨old, there, same, had⟩ | ⟨_, _, set⟩
        · obtain ⟨entry, held, moment, ends, late⟩ := stands old there had (was same new)
          exact ⟨entry, claim_cooldown acts held, moment, ends, late⟩
        · exact ⟨_, set, _, rfl, Nat.add_le_add_right passed _⟩
  | crash jobId =>
    refine one.of_old rfl fun job member ahead => ?_
    rcases mem_moveJob member with ⟨old, _⟩ | ⟨_, moved⟩
    · exact old
    · rw [moved] at ahead
      exact ahead.elim
  | outside elapsed =>
    refine ⟨one.only, fun job member ahead new => ?_⟩
    obtain ⟨entry, there, moment, ends, late⟩ := one.stands job member ahead new
    refine ⟨entry, Key.sweep_eq_some.mpr ⟨there, fun other ends' => ?_⟩, moment, ends, late⟩
    cases ends.symm.trans ends'
    exact le_trans soon late

end Cooldown

/-! ## One window -/

/-- The number the counter stands at. -/
def countOf (budget : Key) : Nat := (budget.map Expiring.count).getD 0

/-- The first counted, or granted. -/
def HoldsPlace (before : ThrottlePool) (job : Job ClaimPhase) : Prop :=
  (job.phase = .expire ∨ job.phase = .done .granted) ∧ WasAt before [.claimWindow, .incr] job

instance (before : ThrottlePool) : DecidablePred (HoldsPlace before) :=
  fun _ => inferInstanceAs (Decidable ((_ ∨ _) ∧ _))

/-- How many of the calls not counted then hold a place of this window. -/
def placesHeld (before pool : ThrottlePool) : Nat :=
  pool.jobs.sum fun job => if HoldsPlace before job then 1 else 0

/-- Each place was counted, and there are no more than the limit. -/
structure PlacesWithin (config : ThrottleConfig) (before pool : ThrottlePool) : Prop where
  counted : placesHeld before pool ≤ countOf pool.shared.budget
  limited : placesHeld before pool ≤ config.code.max

section Budget

variable {config : ThrottleConfig} {before pool : ThrottlePool}

theorem countOf_increment (budget : Key) :
    countOf (some budget.increment) = countOf budget + 1 := by
  cases budget with
  | none => rfl
  | some entry => rfl

theorem countOf_expire (budget : Key) (moment : Nat) :
    countOf (budget.expire moment) = countOf budget := by
  cases budget with
  | none => rfl
  | some entry => rfl

/-- A move changes the places held by what it gives and takes from its own job. -/
theorem placesHeld_moveJob (before : ThrottlePool) {jobId : Nat} {mover : Job ClaimPhase} (redis : Redis)
    (found : pool.jobs.find jobId = some mover) (next : ClaimPhase) :
    placesHeld before ⟨redis, moveJob pool.jobs jobId next⟩ +
        (if HoldsPlace before mover then 1 else 0) =
      placesHeld before pool + if HoldsPlace before { mover with phase := next } then 1 else 0 :=
  Table.sum_update_key found

/-- A call's command takes a place only by counting one, within the limit. -/
theorem claim_place {redis after : Redis} {phase next : ClaimPhase}
    (acts : ClaimActs config redis phase after next) {id : Nat}
    (place : HoldsPlace before ⟨id, next⟩) :
    (HoldsPlace before ⟨id, phase⟩ ∧ countOf after.budget = countOf redis.budget) ∨
      countOf after.budget = countOf redis.budget + 1 ∧
        countOf after.budget ≤ config.code.max := by
  obtain ⟨held, new⟩ := place
  cases acts with
  | won | waited | uncounted | ended => rcases held with held | held <;> cases held
  | counted =>
    refine Or.inr ⟨countOf_increment _, ?_⟩
    have spent : countOf (some redis.budget.increment) = redis.budget.increment.count := rfl
    rw [spent]
    have sends := config.max_pos
    change (afterIncr _ _ = _ ∨ afterIncr _ _ = _) at held
    unfold afterIncr at held
    split at held
    · omega
    · split at held
      · rcases held with held | held <;> cases held
      · omega
  | anchored => exact Or.inl ⟨⟨Or.inl rfl, new⟩, countOf_expire _ _⟩
  | asked next goes =>
    rcases held with rfl | rfl
    · rcases goes with goes | goes
      · cases goes
      · exact goes.elim
    · rcases goes with goes | goes
      · cases goes
      · exact goes.elim
  | idle reply => exact Or.inl ⟨⟨held, new⟩, rfl⟩

theorem claim_count {redis after : Redis} {phase next : ClaimPhase}
    (acts : ClaimActs config redis phase after next) :
    countOf redis.budget ≤ countOf after.budget := by
  have spent : countOf redis.budget ≤ countOf (some redis.budget.increment) := by
    rw [countOf_increment]
    exact Nat.le_add_right _ 1
  have given (moment : Nat) : countOf redis.budget ≤ countOf (redis.budget.expire moment) := by
    rw [countOf_expire]
  cases acts with
  | counted => exact spent
  | uncounted key exception same =>
    rcases same with rfl | rfl
    · exact Nat.le_refl _
    · exact spent
  | anchored => exact given _
  | ended phase key exception from' same =>
    rcases same with rfl | rfl
    · exact Nat.le_refl _
    · exact given _
  | won | waited | asked | idle => exact Nat.le_refl _

/-- A crash takes a place away, at most. -/
theorem placesHeld_crash (before : ThrottlePool) (after : Redis) (pool : ThrottlePool)
    (jobId : Nat) :
    placesHeld before ⟨after, moveJob pool.jobs jobId (.done .crashed)⟩ ≤
      placesHeld before pool := by
  unfold placesHeld moveJob
  rw [Table.sum_update]
  refine Table.sum_le_sum fun job _ => ?_
  by_cases mine : job.id = jobId
  · have none : ¬ HoldsPlace before { job with phase := .done .crashed } := by
      rintro ⟨held | held, _⟩ <;> cases held
    rw [if_pos mine, if_neg none]
    exact Nat.zero_le _
  · rw [if_neg mine]

/-- Time that the counter outlasts leaves its number. -/
theorem countOf_tick {elapsed : Nat} (stands : ¬ CounterExpires config pool (.outside elapsed)) :
    countOf pool.shared.budget = countOf (tickRedis pool.shared elapsed).budget := by
  cases there : pool.shared.budget with
  | none =>
    change countOf none = countOf (Key.sweep _ pool.shared.budget)
    rw [there]
    rfl
  | some entry =>
    cases left : (tickRedis pool.shared elapsed).budget with
    | none => exact absurd ⟨by rw [there]; rfl, left⟩ stands
    | some next =>
      have same := (Key.sweep_eq_some.mp left).1
      rw [there] at same
      cases same
      rfl

theorem places_serve (places : PlacesWithin config before pool) (turn : ClaimTurn)
    (stands : ¬ CounterExpires config pool turn) :
    PlacesWithin config before ((resendClaims config .code).serve pool turn) := by
  obtain ⟨counted, limited⟩ := places
  cases turn with
  | receive request =>
    have same : placesHeld before ((resendClaims config .code).serve pool (.receive request)) =
        placesHeld before pool := by
      have none : ¬ HoldsPlace before ⟨pool.jobs.next, .claimWindow⟩ := by
        rintro ⟨held | held, _⟩ <;> cases held
      unfold placesHeld
      rw [Handler.serve, Table.sum_insert]
      exact congrArg (pool.jobs.sum _ + ·) (if_neg none)
    refine ⟨?_, ?_⟩
    · rw [same]
      exact counted
    · rw [same]
      exact limited
  | advance jobId wire =>
    cases found : pool.jobs.find jobId with
    | none =>
      rw [serve_missing found]
      exact ⟨counted, limited⟩
    | some mover =>
      have acts := claim_cases config pool.shared wire mover.phase
      rw [serve_advance found]
      change PlacesWithin config before
        ⟨(actOnThrottle config .code pool.shared wire mover.phase).1,
          moveJob pool.jobs jobId (actOnThrottle config .code pool.shared wire mover.phase).2⟩
      generalize (actOnThrottle config .code pool.shared wire mover.phase).1 = after at acts
      generalize (actOnThrottle config .code pool.shared wire mover.phase).2 = next at acts
      have moved := placesHeld_moveJob before after found next
      have grown := claim_count acts
      by_cases place : HoldsPlace before { mover with phase := next }
      · rw [if_pos place] at moved
        rcases claim_place acts place with ⟨had, same⟩ | ⟨more, within⟩
        · have held : HoldsPlace before mover := had
          rw [if_pos held] at moved
          constructor
          · change _ ≤ countOf after.budget
            omega
          · omega
        · have least : placesHeld before ⟨after, moveJob pool.jobs jobId next⟩ ≤
              placesHeld before pool + 1 := by omega
          constructor
          · change _ ≤ countOf after.budget
            omega
          · omega
      · rw [if_neg place] at moved
        constructor
        · change _ ≤ countOf after.budget
          omega
        · omega
  | crash jobId =>
    have fewer : placesHeld before ((resendClaims config .code).serve pool (.crash jobId)) ≤
        placesHeld before pool := placesHeld_crash before pool.shared pool jobId
    exact ⟨le_trans fewer counted, le_trans fewer limited⟩
  | outside elapsed =>
    exact ⟨le_trans counted (Nat.le_of_eq (countOf_tick stands)), limited⟩

/-- The granted are among those who hold a place. -/
theorem granted_places (before pool : ThrottlePool) :
    (pool.jobs.select (GrantedSince before [.claimWindow, .incr])).length ≤
      placesHeld before pool := by
  rw [Table.length_select]
  refine Table.sum_le_sum fun job _ => ?_
  by_cases granted : GrantedSince before [.claimWindow, .incr] job
  · have place : HoldsPlace before job := ⟨Or.inr granted.1, granted.2⟩
    rw [if_pos granted, if_pos place]
  · rw [if_neg granted]
    exact Nat.zero_le _

end Budget

/-! ## Refusals and repairs -/

section Refusals

variable {config : ThrottleConfig} {redis after : Redis} {phase next : ClaimPhase}

theorem not_prolongs_self (key : Key) : ¬ Prolongs key key := by
  rintro ⟨entry, there, moment, ends, next, there', later⟩
  cases there.symm.trans there'
  exact absurd (later moment ends) (lt_irrefl moment)

theorem not_prolongs_of_kept {before key : Key}
    (kept : ∀ entry ∈ before, key = some entry) : ¬ Prolongs before key := by
  rintro ⟨entry, there, moment, ends, next, there', later⟩
  cases there'.symm.trans (kept entry there)
  exact absurd (later moment ends) (lt_irrefl moment)

theorem not_prolongs_increment (budget : Key) : ¬ Prolongs budget (some budget.increment) := by
  rintro ⟨entry, there, moment, ends, next, there', later⟩
  cases there'
  rw [there] at later
  exact absurd (later moment ends) (lt_irrefl moment)

theorem not_prolongs_expire {budget : Key} {end' : Instant}
    (sooner : ∀ entry ∈ budget, ∀ moment ∈ entry.expiresAt, end' ≤ moment) :
    ¬ Prolongs budget (budget.expire end') := by
  rintro ⟨entry, there, moment, ends, next, there', later⟩
  have before := sooner entry there moment ends
  have given : next = { entry with expiresAt := some end' } := by
    rw [there] at there'
    exact (Option.some.inj there').symm
  rw [given] at later
  exact absurd (later end' rfl) (not_lt.mpr before)

/-- Where a command that gives an end gives no later one, only a granted call's prolongs. -/
theorem claim_prolongs {wire : Wire} (leaves : leavesWindow config redis wire phase)
    (granted : (actOnThrottle config .code redis wire phase).2 ≠ .done .granted ∨
      phase = .done .granted) :
    ¬ Prolongs redis.cooldown (actOnThrottle config .code redis wire phase).1.cooldown ∧
      ¬ Prolongs redis.budget (actOnThrottle config .code redis wire phase).1.budget := by
  cases phase with
  | claimWindow =>
    refine ⟨not_prolongs_of_kept fun entry there => ?_, ?_⟩
    · exact claim_cooldown (claim_cases config redis wire .claimWindow) there
    · cases wire with
      | answered | lost | unreached => exact not_prolongs_self redis.budget
  | incr =>
    cases wire with
    | answered | lost => exact ⟨not_prolongs_self _, not_prolongs_increment _⟩
    | unreached => exact ⟨not_prolongs_self _, not_prolongs_self _⟩
  | expire =>
    cases wire with
    | answered =>
      have sends : ¬ config.code.max < 1 := Nat.not_lt.mpr config.max_pos
      have done : (actOnThrottle config .code redis .answered .expire).2 = .done .granted := by
        simp only [actOnThrottle, ThrottleConfig.defaultBudget, afterWire, afterExpire,
          if_neg sends]
      rcases granted with other | same
      · exact absurd done other
      · cases same
    | lost => exact ⟨not_prolongs_self _, not_prolongs_expire (leaves rfl)⟩
    | unreached => exact ⟨not_prolongs_self _, not_prolongs_self _⟩
  | ttl | done => exact ⟨not_prolongs_self _, not_prolongs_self _⟩
  | repair =>
    cases wire with
    | answered => exact ⟨not_prolongs_self _, not_prolongs_expire (leaves (by decide))⟩
    | lost => exact ⟨not_prolongs_self _, not_prolongs_expire (leaves (by decide))⟩
    | unreached => exact ⟨not_prolongs_self _, not_prolongs_self _⟩

/-- A call that was refused over its total has seen, or given, the counter's end. -/
theorem claim_repaired (counted : phase = .ttl ∨ phase = .repair)
    (refused : IsRefused (actOnThrottle config .code redis .answered phase).2) :
    HasEnd (actOnThrottle config .code redis .answered phase).1.budget := by
  rcases counted with rfl | rfl
  · intro entry there
    change redis.budget = some entry at there
    change IsRefused (afterTtl .code (redis.budget.timeLeft redis.clock)) at refused
    obtain ⟨count, expiresAt⟩ := entry
    cases expiresAt with
    | some moment => rfl
    | none =>
      rw [there] at refused
      exact refused.elim
  · intro entry there
    change redis.budget.expire _ = some entry at there
    cases held : redis.budget with
    | none =>
      rw [held] at there
      cases there
    | some old =>
      rw [held] at there
      cases there
      rfl

/-- A command that fails refuses its call. -/
theorem claim_failed {wire : Wire} (failed : wire ≠ .answered)
    (working : ∀ reply, phase ≠ .done reply) :
    IsRefused (actOnThrottle config .code redis wire phase).2 := by
  cases wire with
  | answered => exact absurd rfl failed
  | lost =>
    cases phase with
    | done reply => exact absurd rfl (working reply)
    | _ => trivial
  | unreached =>
    cases phase with
    | done reply => exact absurd rfl (working reply)
    | _ => trivial

/-- Neither granted, nor ever to be. -/
def IsOver : ClaimPhase → Prop
  | .done .granted => False
  | .done _ => True
  | _ => False

theorem over_of_refused (refused : IsRefused phase) : IsOver phase := by
  cases phase with
  | done reply =>
    cases reply with
    | granted => exact refused.elim
    | refused | crashed => trivial
  | _ => exact refused.elim

end Refusals

/-! ## Somebody who waits -/

section Waiting

variable {config : ThrottleConfig}

/-- Long enough for the cool-off and for a window to be past. -/
def longEnough (config : ThrottleConfig) : Nat :=
  config.cooldownSeconds * 1000 + config.code.windowSeconds * 1000 + 1

/-- Wait, ask, and let the call run to its end. -/
def patience (config : ThrottleConfig) (jobId : Nat) : List ClaimTurn :=
  [.outside (longEnough config), .receive ()] ++
    (List.replicate 4 Wire.answered).map (.advance jobId)

/-- What a call that runs alone comes to, the cool-off and any ended window being past. -/
theorem alone_answer (config : ThrottleConfig) {redis : Redis} (free : redis.cooldown = none)
    (endless : ∀ entry ∈ redis.budget, entry.expiresAt = none) (counted : redis.budget.Counted) :
    let acted := (resendClaims config .code).drive redis .claimWindow (List.replicate 4 .answered)
    acted.2 = .done .granted ∨
      redis.budget ≠ none ∧ ∃ entry ∈ acted.1.budget, entry.expiresAt.isSome = true := by
  have sends : config.code.max ≠ 0 := Nat.ne_of_gt config.max_pos
  obtain ⟨clock, cooldown, budget⟩ := redis
  cases free
  cases budget with
  | none =>
    left
    simp [Handler.drive, resendClaims, actOnThrottle, afterWire, afterWindow, afterIncr,
      afterExpire, ThrottleConfig.defaultBudget, Key.setIfAbsent, Key.increment, performed, sends]
  | some entry =>
    obtain ⟨count, expiresAt⟩ := entry
    have none : expiresAt = none := endless _ rfl
    have one : 1 ≤ count := counted _ rfl
    subst none
    by_cases within : config.code.max < count + 1
    · right
      have more : count ≠ 0 := by omega
      simp [Handler.drive, resendClaims, actOnThrottle, afterWire, afterWindow, afterIncr,
        afterTtl, ThrottleConfig.defaultBudget, Key.setIfAbsent, Key.increment, Key.timeLeft,
        Key.expire, performed, within, more, refuseBudget]
    · left
      have more : count ≠ 0 := by omega
      simp [Handler.drive, resendClaims, actOnThrottle, afterWire, afterWindow, afterIncr,
        ThrottleConfig.defaultBudget, Key.setIfAbsent, Key.increment, performed, within, more]

/-- After a wait long enough the cool-off and a window with an end are gone. -/
theorem waited_free {redis : Redis} (sound : KeysSound config redis) :
    (tickRedis redis (longEnough config)).cooldown = none ∧
      ∀ entry ∈ (tickRedis redis (longEnough config)).budget,
        redis.budget = some entry ∧ entry.expiresAt = none := by
  constructor
  · cases left : (tickRedis redis (longEnough config)).cooldown with
    | none => rfl
    | some entry =>
      have there := (Key.sweep_eq_some.mp left).1
      obtain ⟨moment, ends⟩ := Option.isSome_iff_exists.mp (sound.ends entry there)
      have late : redis.clock + config.cooldownSeconds * 1000 <
          redis.clock + longEnough config := by
        refine Nat.add_lt_add_left ?_ _
        unfold longEnough
        omega
      exact absurd left (Key.sweep_past sound.cooldown late ends)
  · intro entry left
    refine ⟨(Key.sweep_eq_some.mp left).1, ?_⟩
    cases ends : entry.expiresAt with
    | none => rfl
    | some moment =>
      have late : redis.clock + config.code.windowSeconds * 1000 <
          redis.clock + longEnough config := by
        refine Nat.add_lt_add_left ?_ _
        unfold longEnough
        omega
      exact absurd left (Key.sweep_past sound.budget late ends)

/-- Who waits and asks is granted one, or leaves the counter with an end. -/
theorem patience_answer {pool : ThrottlePool} (sound : KeysSound config pool.shared) :
    let after := run (resendClaims config .code).serve pool (patience config pool.jobs.next)
    KeysSound config after.shared ∧ after.jobs.next = pool.jobs.next + 1 ∧
      ((∃ job ∈ after.jobs, pool.jobs.next ≤ job.id ∧ job.phase = .done .granted) ∨
        ∃ entry ∈ after.shared.budget, entry.expiresAt.isSome = true) ∧
      ((tickRedis pool.shared (longEnough config)).budget = none →
        ∃ job ∈ after.jobs, pool.jobs.next ≤ job.id ∧ job.phase = .done .granted) := by
  let asked : ThrottlePool :=
    { shared := tickRedis pool.shared (longEnough config)
      jobs := pool.jobs.insert fun id => { id, phase := .claimWindow } }
  have found : asked.jobs.find pool.jobs.next = some ⟨pool.jobs.next, .claimWindow⟩ := by
    change (pool.jobs.insert _).find _ = _
    rw [Table.find_insert, if_pos rfl]
  obtain ⟨shared, job, next⟩ :=
    (resendClaims config .code).run_alone found (List.replicate 4 .answered)
  obtain ⟨free, left⟩ := waited_free sound
  have sound' : KeysSound config asked.shared := tickRedis_sound sound _
  have answer := alone_answer config free (fun entry there => (left entry there).2)
    sound'.counted
  intro after
  have ran : after = run (resendClaims config .code).serve asked
      ((List.replicate 4 Wire.answered).map (.advance pool.jobs.next)) := rfl
  have granted (done : ((resendClaims config .code).drive asked.shared .claimWindow
      (List.replicate 4 .answered)).2 = .done .granted) :
      ∃ job ∈ after.jobs, pool.jobs.next ≤ job.id ∧ job.phase = .done .granted := by
    have member := (Table.find_eq_some.mp job).1
    rw [← ran] at member
    exact ⟨_, member, Nat.le_refl pool.jobs.next, done⟩
  refine ⟨?_, ?_, ?_, fun none => ?_⟩
  · rw [ran]
    exact run_invariant_always claims_sound _ sound'
  · rw [ran, next]
    exact Table.next_insert
  · rcases answer with done | ⟨_, entry, there, ends⟩
    · exact Or.inl (granted done)
    · refine Or.inr ⟨entry, ?_, ends⟩
      rw [ran, shared]
      exact there
  · rcases answer with done | ⟨there, _⟩
    · exact granted done
    · exact absurd none there

end Waiting

/-! ## Every run -/

section Runs

variable {config : ThrottleConfig} {start : ThrottlePool} {turns : List ClaimTurn}

/-- From any state somebody is granted one, at the second try if not at the first. -/
theorem granted_again {pool : ThrottlePool} (sound : KeysSound config pool.shared) :
    ∃ later, ∃ job ∈ (run (resendClaims config .code).serve pool later).jobs,
      pool.jobs.next ≤ job.id ∧ job.phase = .done .granted := by
  obtain ⟨sound', next, answer, _⟩ := patience_answer sound
  rcases answer with granted | ⟨entry, there, ends⟩
  · exact ⟨_, granted⟩
  · refine ⟨patience config pool.jobs.next ++ patience config (pool.jobs.next + 1), ?_⟩
    obtain ⟨_, _, _, answer⟩ := patience_answer sound'
    rw [next] at answer
    rw [run_append]
    obtain ⟨job, member, received, granted⟩ := answer (by
      cases left : (tickRedis (run (resendClaims config .code).serve pool
          (patience config pool.jobs.next)).shared (longEnough config)).budget with
      | none => rfl
      | some old =>
        obtain ⟨stored, endless⟩ := (waited_free sound').2 old left
        cases there.symm.trans stored
        rw [endless] at ends
        cases ends)
    exact ⟨job, member, by omega, granted⟩

theorem clock_run (pool : ThrottlePool) (turns : List ClaimTurn) :
    pool.shared.clock ≤ (run (resendClaims config .code).serve pool turns).shared.clock := by
  have step (other : ThrottlePool) (turn : ClaimTurn)
      (passed : pool.shared.clock ≤ other.shared.clock) :
      pool.shared.clock ≤ ((resendClaims config .code).serve other turn).shared.clock :=
    le_trans passed (claims_clock config other turn)
  exact run_invariant_always step turns (Nat.le_refl _)

/-- Nobody is ahead yet who was not past the first command. -/
theorem oneWinner_begin (before : ThrottlePool) : OneWinner config before before := by
  have none {job : Job ClaimPhase} (member : job ∈ before.jobs) (ahead : Ahead job.phase)
      (new : WasAt before [.claimWindow] job) : False := by
    have at' := List.mem_singleton.mp (new job (Table.find_key member))
    rw [at'] at ahead
    exact ahead
  exact ⟨fun job member _ _ ahead _ new _ => (none member ahead new).elim,
    fun job member ahead new => (none member ahead new).elim⟩

theorem oneWinner_run (before : ThrottlePool) (during : List ClaimTurn)
    (soon : (run (resendClaims config .code).serve before during).shared.clock ≤
      endOf before.shared config.cooldownSeconds) :
    OneWinner config before (run (resendClaims config .code).serve before during) := by
  induction during using List.reverseRecOn with
  | nil => exact oneWinner_begin before
  | append_singleton during turn ih =>
    rw [run_append, run_cons, run_nil] at soon ⊢
    have earlier := le_trans (claims_clock config _ turn) soon
    exact oneWinner_serve (ih earlier) turn (clock_run before during) soon

theorem places_begin (before : ThrottlePool) : PlacesWithin config before before := by
  have none : placesHeld before before = 0 := by
    refine Table.sum_eq_zero fun job member => if_neg ?_
    rintro ⟨held, new⟩
    have at' := new job (Table.find_key member)
    rcases held with held | held
    · rw [held] at at'
      simp at at'
    · rw [held] at at'
      simp at at'
  constructor
  · rw [none]
    exact Nat.zero_le _
  · rw [none]
    exact Nat.zero_le _

/-- A call that is over is not granted any more. -/
theorem over_run {pool : ThrottlePool} {jobId : Nat} {job : Job ClaimPhase}
    (found : pool.jobs.find jobId = some job) (ended : IsOver job.phase) (turns : List ClaimTurn) :
    ∀ later ∈ (run (resendClaims config .code).serve pool turns).jobs.find jobId,
      later.phase ≠ .done .granted := by
  have crashed : IsOver (resendClaims config .code).crashed := trivial
  have still (shared : Redis) (wire : Wire) (phase : ClaimPhase) (ended : IsOver phase) :
      IsOver ((resendClaims config .code).act shared wire phase).2 := by
    cases phase with
    | done reply => exact ended
    | _ => exact ended.elim
  obtain ⟨later, there, known⟩ := Handler.phase_run crashed still turns ⟨job, found, ended⟩
  intro other found' granted
  cases there.symm.trans found'
  rw [granted] at known
  exact known

/-- A call that is granted is not refused any more. -/
theorem granted_run {pool : ThrottlePool} {jobId : Nat} {job : Job ClaimPhase}
    (found : pool.jobs.find jobId = some job) (granted : job.phase = .done .granted)
    (turns : List ClaimTurn) :
    ∀ later ∈ (run (resendClaims config .code).serve pool turns).jobs.find jobId,
      ¬ IsRefused later.phase := by
  let ended (phase : ClaimPhase) : Prop := phase = .done .granted ∨ phase = .done .crashed
  have crashed : ended (resendClaims config .code).crashed := Or.inr rfl
  have still (shared : Redis) (wire : Wire) (phase : ClaimPhase) (finished : ended phase) :
      ended ((resendClaims config .code).act shared wire phase).2 := by
    rcases finished with rfl | rfl
    · exact Or.inl rfl
    · exact Or.inr rfl
  obtain ⟨later, there, known⟩ :=
    Handler.phase_run crashed still turns ⟨job, found, Or.inl granted⟩
  intro other found' refused
  cases there.symm.trans found'
  rcases known with same | same
  · rw [same] at refused
    exact refused
  · rw [same] at refused
    exact refused

/-- The throttle holds its bounds in every run in which no claim gives the counter an end that is
later than one another claim has given it. -/
theorem throttle_holds (config : ThrottleConfig) (start : ThrottlePool)
    (sound : KeysSound config start.shared) (turns : List ClaimTurn)
    (leaves : Meets (resendClaims config .code).serve (LeavesWindow config) start turns) :
    ThrottleHolds config start turns where
  oncePerCooldown := by
    intro first during last _ before after soon job member other member' granted granted'
    have one := oneWinner_run before during soon
    have ahead {job : Job ClaimPhase} (granted : job.phase = .done .granted) : Ahead job.phase := by
      rw [granted]
      trivial
    exact one.only job member other member' (ahead granted.1) (ahead granted'.1) granted.2 granted'.2
  withinBudget := by
    intro first during last _ before after stands
    have step (pool : ThrottlePool) (turn : ClaimTurn) (places : PlacesWithin config before pool)
        (stands : ¬ CounterExpires config pool turn) :
        PlacesWithin config before ((resendClaims config .code).serve pool turn) :=
      places_serve places turn stands
    have places : PlacesWithin config before after :=
      run_invariant step (places_begin before) stands
    exact le_trans (granted_places before after) places.limited
  prolongsNothing := by
    intro first jobId wire last split before after ended
    obtain ⟨later, there, refused⟩ := ended
    obtain ⟨_, leaves', _⟩ := meets_append.mp (split ▸ leaves)
    cases found : before.jobs.find jobId with
    | none =>
      have same : after = before := serve_missing found
      rw [same]
      exact ⟨not_prolongs_self _, not_prolongs_self _⟩
    | some job =>
      have guard := (guarded_advance found).mp leaves'
      have moved : after = _ := serve_advance found
      rw [moved] at there ⊢
      refine claim_prolongs guard (Or.inl fun granted => ?_)
      exact granted_run (find_moveJob found) granted last later there refused
  repaired := by
    intro first jobId last split before after job found counted moved there refused
    have acted : after = _ := serve_advance found
    rw [acted] at there ⊢
    have same := (find_moveJob found).symm.trans there
    cases same
    exact claim_repaired counted refused
  neverLockedOut := by
    intro first last split
    exact granted_again (run_invariant_always claims_sound first sound)
  failsClosed := by
    intro first jobId wire last split failed job found working
    rw [split, run_append, run_cons, serve_advance found]
    exact over_run (find_moveJob found) (over_of_refused (claim_failed failed working)) last

end Runs

/-! ## A window that is repaired, and one that is repaired twice -/

/-- One code a day, a minute apart. -/
def oneADay : ThrottleConfig where
  cooldownSeconds := 60
  code := ⟨1, 86400⟩
  cooldown_pos := by decide
  max_pos := by decide
  window_pos := by decide

def quiet : ThrottlePool where
  shared := ⟨0, none, none⟩
  jobs := Table.empty

theorem quiet_sound : KeysSound oneADay quiet.shared := by
  constructor
  all_goals rintro _ ⟨⟩

/-- So many commands of one call, each of them answered. -/
def commands (jobId count : Nat) : List ClaimTurn :=
  List.replicate count (.advance jobId .answered)

/-- A first claim dies once it was counted; a second, a minute later, finds no end. -/
def endlessWindow : List ClaimTurn :=
  [.receive ()] ++ commands 0 2 ++ [.crash 0, .outside 60001, .receive ()] ++ commands 1 3

theorem throttle_holds_endlessWindow : ThrottleHolds oneADay quiet (endlessWindow ++ commands 1 1) :=
  throttle_holds oneADay quiet quiet_sound _ (by decide +kernel)

/-- A third claim gives the window its end before the second does. -/
def repairedMeanwhile : List ClaimTurn :=
  endlessWindow ++ [.outside 60001, .receive ()] ++ commands 2 4 ++ [.outside 1000]

/-- The second claim, which is refused, then prolongs the window that is running. -/
theorem repairedMeanwhile_prolongs : ¬ ∀ (config : ThrottleConfig) (start : ThrottlePool)
    (turns : List ClaimTurn), KeysSound config start.shared → ThrottleHolds config start turns := by
  intro holds
  have running := (holds oneADay quiet (repairedMeanwhile ++ commands 1 1) quiet_sound).prolongsNothing
    repairedMeanwhile 1 .answered [] rfl
  have second : ((resendClaims oneADay .code).serve
      (run (resendClaims oneADay .code).serve quiet repairedMeanwhile)
      (.advance 1 .answered)).jobs.find 1 =
        some ⟨1, .done (.refused (tooManyRequests (budgetMessage .code 86400)))⟩ := by
    decide +kernel
  refine (running ⟨_, second, trivial⟩).2 ?_
  have before : (run (resendClaims oneADay .code).serve quiet repairedMeanwhile).shared.budget =
      some ⟨3, some 86520002⟩ := by decide +kernel
  have after : ((resendClaims oneADay .code).serve
      (run (resendClaims oneADay .code).serve quiet repairedMeanwhile)
      (.advance 1 .answered)).shared.budget = some ⟨3, some 86521002⟩ := by decide +kernel
  refine ⟨_, before, _, rfl, _, after, ?_⟩
  rintro _ ⟨⟩
  decide

end EventaApi.Guarantees
