import EventaApi.Source.ResendThrottle

/-!
# The sign-in throttle

`LoginThrottleService` keeps two keys for an identity: the failures counted, and the lock. A
sign-in asks for the lock, compares the password, and then counts its failure or clears both
keys. Every command is atomic and nothing holds them together: the process may end between any
two, and other sign-ins of the identity come in between.
-/
namespace EventaApi.Source
open Library

/-- What was attempted too often. -/
inductive LockedAttempt where
  | signIn | reset
  deriving DecidableEq, Repr

def ATTEMPT_NOUN : LockedAttempt → String
  | .signIn => "sign-in attempts"
  | .reset => "password-reset attempts"

/-- What somebody locked out is told; the minutes are rounded up. -/
def lockedMessage (secondsRemaining : Int) (attempt : LockedAttempt) : String :=
  let what := ATTEMPT_NOUN attempt
  if secondsRemaining ≤ 0 then "Too many " ++ what ++ ". Please try again later."
  else
    let minutes := ceilDiv secondsRemaining.toNat SECONDS_PER_MINUTE
    let unit := if minutes = 1 then "minute" else "minutes"
    "Too many " ++ what ++ ". Try again in " ++ toString minutes ++ " " ++ unit ++ "."

def INVALID_CREDENTIALS : DomainException := ⟨.unauthorized, "Invalid email or password"⟩

structure LoginThrottleConfig where
  maxAttempts : Nat
  lockSeconds : Nat
  max_pos : 0 < maxAttempts
  lock_pos : 0 < lockSeconds

/-- What has been done about an identity's passwords. -/
inductive LoginEvent where
  /-- A wrong password was compared. -/
  | missed
  /-- A failure was recorded, as the counter's that many. -/
  | counted (moment : Instant) (fails : Nat)
  /-- A success was recorded. -/
  | cleared
  deriving DecidableEq, Repr

/-- Redis, as one identity's sign-ins see it, and what they have done, the latest first. -/
structure LoginDesk where
  clock : Instant
  fails : Key
  lock : Key
  history : List LoginEvent
  deriving DecidableEq, Repr

/-- What the comparison finds. -/
inductive Verified where
  /-- Each account on the address: whether its password is the one sent, if it has one. -/
  | candidates (verified : List (Option Bool))
  /-- The named workspace's account. -/
  | account (authenticated : Except DomainException Unit)

inductive LoginReply where
  /-- The password was right; what follows asks for no other. -/
  | found
  | refused (exception : DomainException)
  | crashed
  deriving DecidableEq, Repr

/-- The step a sign-in is at. -/
inductive LoginPhase where
  | assertNotLocked
  | compare
  | incr
  /-- The first failure counted gives the counter its end. -/
  | expire (fails : Nat)
  | lock
  /-- A success deletes both keys. -/
  | del
  | done (reply : LoginReply)
  deriving DecidableEq, Repr

section SignIn

variable (config : LoginThrottleConfig)

def lockEnd (now : Instant) : Instant := now + config.lockSeconds * 1000

/-- A key there is none of is no lock; one with no expiry is. -/
def afterTtlOfLock (secondsLeft : Int) : LoginPhase :=
  if secondsLeft = -2 then .compare
  else .done (.refused (tooManyRequests (lockedMessage secondsLeft .signIn)))

/-- Which workspace, decided by the password: no match is a failure. -/
def resolveByPassword (verified : List (Option Bool)) : LoginPhase :=
  if (verified.filter fun ok => ok = some true).length = 0 then .incr else .del

/-- A refusal of the credentials counts; another refusal does not. -/
def authenticateThrottled : Except DomainException Unit → LoginPhase
  | .ok () => .del
  | .error exception =>
    if exception.code = .unauthorized then .incr else .done (.refused exception)

def afterCompare : Verified → LoginPhase
  | .candidates verified => resolveByPassword verified
  | .account authenticated => authenticateThrottled authenticated

/-- The failure is counted, and its counter has an end. -/
def lockAtLimit (fails : Nat) : LoginPhase :=
  if config.maxAttempts ≤ fails then .lock else .done (.refused INVALID_CREDENTIALS)

def recordFailure (fails : Nat) : LoginPhase :=
  if fails = 1 then .expire fails else lockAtLimit config fails

/-- The comparison is remembered where it failed. -/
def missedBy (next : LoginPhase) (history : List LoginEvent) : List LoginEvent :=
  if next = .incr then .missed :: history else history

def actOnLogin (desk : LoginDesk) (verified : Verified) : LoginPhase → LoginDesk × LoginPhase
  | .assertNotLocked => (desk, afterTtlOfLock (desk.lock.timeLeft desk.clock))
  | .compare =>
    ({ desk with history := missedBy (afterCompare verified) desk.history }, afterCompare verified)
  | .incr =>
    let counted := desk.fails.increment
    ({ desk with
        fails := some counted, history := .counted desk.clock counted.count :: desk.history },
      recordFailure config counted.count)
  | .expire fails =>
    ({ desk with fails := desk.fails.expire (lockEnd config desk.clock) }, lockAtLimit config fails)
  | .lock =>
    ({ desk with lock := some ⟨1, some (lockEnd config desk.clock)⟩ },
      .done (.refused INVALID_CREDENTIALS))
  | .del =>
    ({ desk with fails := none, lock := none, history := .cleared :: desk.history }, .done .found)
  | .done reply => (desk, .done reply)

/-- Time passes, and what has expired is gone. -/
def tickLogin (desk : LoginDesk) (elapsed : Nat) : LoginDesk :=
  let now := desk.clock + elapsed
  { desk with clock := now, fails := desk.fails.sweep now, lock := desk.lock.sweep now }

/-- Sign-ins of one identity, any number of them at once. -/
def signIns : Handler LoginDesk LoginPhase Unit Verified Nat where
  opened := fun _ => .assertNotLocked
  act := actOnLogin config
  outside := tickLogin
  crashed := .done .crashed

end SignIn

end EventaApi.Source
