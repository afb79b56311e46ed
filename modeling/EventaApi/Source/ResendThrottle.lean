import EventaApi.Library.Expiry
import EventaApi.Library.Pool
import EventaApi.Source.Schema

/-!
# The resend throttle

`ResendThrottleService.claim` takes two keys of one identity: the cool-off, set for its
seconds where there is none, and the counter of what was sent, which dies a window after its
first send. Each of the commands is atomic and nothing holds them together: Redis may fail
at any of them, before or after it did the work, and the process may end between any two.
-/
namespace EventaApi.Source
open Library

inductive ResendKind where
  | link | code
  deriving DecidableEq, Repr

/-- Whether a throttle that cannot be reached refuses. -/
def FAIL_CLOSED : ResendKind → Bool
  | .link => false
  | .code => true

structure SendBudget where
  max : Nat
  windowSeconds : Nat
  deriving DecidableEq, Repr

def WAIT_MESSAGE : ResendKind → String
  | .link => "A confirmation link was just sent. Give it a minute before asking for another."
  | .code => "A code was just sent. Give it a minute before asking for another."

def SECONDS_PER_MINUTE : Nat := 60
def MINUTES_PER_HOUR : Nat := 60

def plural (count : Nat) (unit : String) : String :=
  toString count ++ " " ++ unit ++ if count = 1 then "" else "s"

def ceilDiv (value by' : Nat) : Nat := (value + by' - 1) / by'

/-- Minutes while it reads as minutes, hours once it does not. -/
def humanWait (secondsLeft : Nat) : String :=
  let minutes := ceilDiv secondsLeft SECONDS_PER_MINUTE
  if minutes < MINUTES_PER_HOUR then plural minutes "minute"
  else plural (ceilDiv minutes MINUTES_PER_HOUR) "hour"

def BUDGET_MESSAGE (wait : String) : ResendKind → String
  | .code => "That is as many codes as we can text one account for now. " ++ wait ++
    " If the texts are not arriving, another code will not help — check that the number is " ++
    "right and can receive SMS."
  | .link => "That is as many links as we can email one address for now. " ++ wait ++
    " If the emails are not arriving, another link will not help — check the spam folder, and " ++
    "that the address is right."

def budgetMessage (kind : ResendKind) (secondsLeft : Nat) : String :=
  let wait :=
    if 0 < secondsLeft then "You can ask for another in " ++ humanWait secondsLeft ++ "."
    else "Please try again later."
  BUDGET_MESSAGE wait kind

def tooManyRequests (message : String) : DomainException := ⟨.tooManyRequests, message⟩

/-- The configured limits, none of which is zero. -/
structure ThrottleConfig where
  cooldownSeconds : Nat
  code : SendBudget
  cooldown_pos : 0 < cooldownSeconds
  max_pos : 0 < code.max
  window_pos : 0 < code.windowSeconds

/-- The total each kind spends from when its caller brings none. -/
def ThrottleConfig.defaultBudget (config : ThrottleConfig) : ResendKind → Option SendBudget
  | .code => some config.code
  | .link => none

/-- Redis, as one identity's claims see it. -/
structure Redis where
  clock : Instant
  cooldown : Key
  budget : Key
  deriving DecidableEq, Repr

/-- What became of a command: its reply came back, it was done and the reply was lost, or it
never reached Redis. -/
inductive Wire where
  | answered | lost | unreached
  deriving DecidableEq, Repr

inductive ClaimReply where
  | granted
  | refused (exception : DomainException)
  | crashed
  deriving DecidableEq, Repr

/-- The command a claim is at. -/
inductive ClaimPhase where
  | claimWindow
  | incr
  /-- The first one counted gives the counter its end. -/
  | expire
  /-- The sends are gone: how long has the window left? -/
  | ttl
  /-- The counter had no end. -/
  | repair
  | done (reply : ClaimReply)
  deriving DecidableEq, Repr

section Claim

variable (config : ThrottleConfig) (kind : ResendKind)

/-- Redis could not be reached: refuse, or allow and go on as this kind does. -/
def unavailable (allowed : ClaimPhase) : ClaimPhase :=
  if FAIL_CLOSED kind then .done (.refused (tooManyRequests (WAIT_MESSAGE kind))) else allowed

/-- What a claim does with its command once it got an answer, or none. -/
def afterWire (wire : Wire) (answered allowed : ClaimPhase) : ClaimPhase :=
  match wire with
  | .answered => answered
  | .lost | .unreached => unavailable kind allowed

/-- The cool-off is won; the budget is spent by the caller that won it. -/
def afterWindow : ClaimPhase :=
  match config.defaultBudget kind with
  | some _ => .incr
  | none => .done .granted

def refuseBudget (secondsLeft : Nat) : ClaimPhase :=
  .done (.refused (tooManyRequests (budgetMessage kind secondsLeft)))

def afterIncr (budget : SendBudget) (spent : Nat) : ClaimPhase :=
  if spent = 1 then .expire
  else if budget.max < spent then .ttl
  else .done .granted

/-- The counter has its end; the first send is refused only where there are none. -/
def afterExpire (budget : SendBudget) : ClaimPhase :=
  if budget.max < 1 then refuseBudget kind budget.windowSeconds else .done .granted

/-- How long the window has left, and the repair of one with no end. -/
def afterTtl (left : Int) : ClaimPhase :=
  if 0 ≤ left then refuseBudget kind left.toNat
  else if left = -2 then refuseBudget kind 0
  else .repair

/-- A command that never reached Redis did nothing. -/
def performed (wire : Wire) (before after : Redis) : Redis :=
  match wire with
  | .answered | .lost => after
  | .unreached => before

def endOf (redis : Redis) (seconds : Nat) : Instant := redis.clock + seconds * 1000

def actOnThrottle (redis : Redis) (wire : Wire) : ClaimPhase → Redis × ClaimPhase
  | .claimWindow =>
    let set := redis.cooldown.setIfAbsent (endOf redis config.cooldownSeconds)
    (performed wire redis { redis with cooldown := set.1 },
      afterWire kind wire
        (if set.2 then afterWindow config kind
          else .done (.refused (tooManyRequests (WAIT_MESSAGE kind))))
        (afterWindow config kind))
  | .incr =>
    let counted := redis.budget.increment
    (performed wire redis { redis with budget := some counted },
      match config.defaultBudget kind with
      | some budget => afterWire kind wire (afterIncr budget counted.count) (.done .granted)
      | none => .done .granted)
  | .expire =>
    match config.defaultBudget kind with
    | some budget =>
      (performed wire redis
          { redis with budget := redis.budget.expire (endOf redis budget.windowSeconds) },
        afterWire kind wire (afterExpire kind budget) (.done .granted))
    | none => (redis, .done .granted)
  | .ttl =>
    (redis, afterWire kind wire (afterTtl kind (redis.budget.timeLeft redis.clock)) (.done .granted))
  | .repair =>
    match config.defaultBudget kind with
    | some budget =>
      (performed wire redis
          { redis with budget := redis.budget.expire (endOf redis budget.windowSeconds) },
        afterWire kind wire (refuseBudget kind budget.windowSeconds) (.done .granted))
    | none => (redis, .done .granted)
  | .done reply => (redis, .done reply)

/-- Time passes, and what has expired is gone. -/
def tickRedis (redis : Redis) (elapsed : Nat) : Redis :=
  let now := redis.clock + elapsed
  { clock := now, cooldown := redis.cooldown.sweep now, budget := redis.budget.sweep now }

/-- Claims of one kind for one identity, any number of them at once. -/
def resendClaims : Handler Redis ClaimPhase Unit Wire Nat where
  opened := fun _ => .claimWindow
  act := actOnThrottle config kind
  outside := tickRedis
  crashed := .done .crashed

end Claim

end EventaApi.Source
