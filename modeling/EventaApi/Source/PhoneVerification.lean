import EventaApi.Library.Pool
import EventaApi.Source.Discounts
import EventaApi.Source.Invoices

/-!
# Confirming a phone number

`PhoneVerificationService` holds a requested number with the hash of the code texted to it, and
one guarded write promotes it. `request` reads the profile, claims a send and then writes the
challenge with its text; `confirm` claims a guess, compares it and then promotes; `remove` clears
everything in one statement. Nothing holds the statements of a call together.
-/
namespace EventaApi.Source
open Library

/-! ## Numbers that can be texted -/

def COUNTRY_CODE : List Char := ['6', '6']

def NATIONAL_DIGITS : Nat := 9

def MOBILE_LEADING_DIGITS : List Char := ['6', '8', '9']

/-- `SEPARATORS`, one character of it. -/
def isSeparator (char : Char) : Bool :=
  isWhiteSpace char || ['-', '.', '(', ')'].contains char

def withoutPlus : List Char → List Char
  | '+' :: digits => digits
  | digits => digits

def withoutTrunkZero : List Char → List Char
  | '0' :: digits => digits
  | digits => digits

/-- The subscriber's digits; none where the number is another country's. -/
def nationalPart (digits : List Char) : Option (List Char) :=
  let withoutIdd := if ['0', '0'].isPrefixOf digits then digits.drop 2 else digits
  if COUNTRY_CODE.isPrefixOf withoutIdd then
    some (withoutTrunkZero (withoutIdd.drop COUNTRY_CODE.length))
  else if ['0'].isPrefixOf withoutIdd then some (withoutIdd.drop 1)
  else none

/-- A Thai mobile in the one shape that is texted. -/
def toThaiMobileE164 (raw : String) : Option String :=
  let cleaned := raw.toList.filter fun char => ¬ isSeparator char
  let digits := withoutPlus cleaned
  if digits = [] ∨ digits.all Char.isDigit = false then none
  else
    match nationalPart digits with
    | none => none
    | some national =>
      if national.length ≠ NATIONAL_DIGITS then none
      else if national.head?.any MOBILE_LEADING_DIGITS.contains then
        some (String.ofList ('+' :: COUNTRY_CODE ++ national))
      else none

/-! ## The row -/

/-- A user's row, as far as its phone goes. -/
structure PhoneRow where
  name : String
  phone : Option String := none
  phoneVerifiedAt : Option Instant := none
  pendingPhone : Option String := none
  phoneCodeHash : Option String := none
  phoneCodeExpiresAt : Option Instant := none
  phoneCodeAttempts : Nat := 0
  deletedAt : Option Instant := none
  deriving DecidableEq, Repr

/-- A requested number and the code that will prove it. -/
structure PhoneChallenge where
  pendingPhone : String
  codeHash : String
  expiresAt : Instant
  deriving DecidableEq, Repr

/-- `identity.phone_verification_requested`: the code is texted to the number. -/
structure PhoneText where
  name : String
  phone : String
  code : String
  expiresAt : Instant
  occurredAt : Instant
  deriving DecidableEq, Repr

/-- What one spent guess buys; the attempts are those after it. -/
structure ClaimedPhoneCode where
  phoneCodeHash : String
  phoneCodeExpiresAt : Option Instant
  pendingPhone : Option String
  attempts : Nat
  deriving DecidableEq, Repr

def NO_PHONE_CHALLENGE (row : PhoneRow) : PhoneRow :=
  { row with
    pendingPhone := none, phoneCodeHash := none, phoneCodeExpiresAt := none
    phoneCodeAttempts := 0 }

/-- Hold a requested number with the code that will prove it, on a live row. -/
def startPhoneChange (row : PhoneRow) (challenge : PhoneChallenge) : Option PhoneRow :=
  if row.deletedAt = none then
    some { row with
      pendingPhone := some challenge.pendingPhone, phoneCodeHash := some challenge.codeHash
      phoneCodeExpiresAt := some challenge.expiresAt, phoneCodeAttempts := 0 }
  else none

/-- Spend one guess and hand back the code to compare against, in one statement. -/
def claimPhoneCodeAttempt (row : PhoneRow) (maxAttempts : Nat) :
    PhoneRow × Option ClaimedPhoneCode :=
  match row.phoneCodeHash with
  | none => (row, none)
  | some phoneCodeHash =>
    if row.deletedAt = none ∧ row.phoneCodeAttempts < maxAttempts then
      let attempts := row.phoneCodeAttempts + 1
      let { phoneCodeExpiresAt, pendingPhone, .. } := row
      ({ row with phoneCodeAttempts := attempts },
        if phoneCodeHash = "" then none
        else some { phoneCodeHash, phoneCodeExpiresAt, pendingPhone, attempts })
    else (row, none)

/-- Promote the confirmed number and clear the challenge, where that number is still held. -/
def promotePhone (row : PhoneRow) (phone : String) (now : Instant) : Option PhoneRow :=
  if row.pendingPhone = some phone then
    some { NO_PHONE_CHALLENGE row with phone := some phone, phoneVerifiedAt := some now }
  else none

/-- Remove the number and anything in flight, on a live row. -/
def clearPhone (row : PhoneRow) : Option PhoneRow :=
  if row.deletedAt = none then
    some { NO_PHONE_CHALLENGE row with phone := none, phoneVerifiedAt := none }
  else none

/-! ## Codes -/

def CODE_DIGITS : Nat := 6

def CODE_CEILING : Nat := 1000000

/-- The drawn number in six digits. -/
def generateCode (drawn : Fin CODE_CEILING) : String :=
  String.ofList (padStart CODE_DIGITS (Nat.toDigits 10 drawn))

section Codes

-- SHA-256, in hex.
variable (sha256 : String → String)

def hashCode (code : String) : String := sha256 (String.ofList (trim code))

/-- The comparison of `matches`: of digests, so of their bytes or of their hex alike. -/
def hashMatches (storedHash code : String) : Prop :=
  storedHash ≠ "" ∧ storedHash = hashCode sha256 code

instance (storedHash code : String) : Decidable (hashMatches sha256 storedHash code) :=
  inferInstanceAs (Decidable (_ ∧ _))

end Codes

/-! ## Calls -/

inductive PhoneRefusal where
  | notAMobile | alreadyConfirmed | wrongCode | codeGone | tooMany | profileNotFound
  /-- The throttle's, with the wait it asks for. -/
  | throttled (message : String)
  deriving DecidableEq, Repr

def PhoneRefusal.code : PhoneRefusal → String
  | .notAMobile | .alreadyConfirmed | .wrongCode => "VALIDATION_ERROR"
  | .codeGone | .tooMany => "PHONE_CODE_EXPIRED"
  | .profileNotFound => "NOT_FOUND"
  | .throttled _ => "RATE_LIMITED"

def PhoneRefusal.message : PhoneRefusal → String
  | .notAMobile =>
    "Enter a Thai mobile number — for example 0812345678. Eventa can only text Thai mobiles."
  | .alreadyConfirmed => "That is already the confirmed number on your account."
  | .wrongCode => "That code didn't match. Check the text and retype it."
  | .codeGone => "That code is no longer valid. Ask for a new one and we will text it again."
  | .tooMany => "Too many wrong codes. Ask for a new one and we will text it again."
  | .profileNotFound => "Profile not found."
  | .throttled message => message

/-- The field at fault. -/
def PhoneRefusal.field : PhoneRefusal → Option String
  | .notAMobile | .alreadyConfirmed => some "phone"
  | .wrongCode => some "code"
  | .codeGone | .tooMany | .profileNotFound | .throttled _ => none

structure PhoneProfile where
  name : String
  phone : Option String
  phoneVerified : Bool
  pendingPhone : Option String
  deriving DecidableEq, Repr

def toProfileResponse (row : PhoneRow) : PhoneProfile where
  name := row.name
  phone := row.phone
  phoneVerified := row.phoneVerifiedAt.isSome
  pendingPhone := row.pendingPhone

inductive PhoneRequest where
  | request (phone : String)
  | confirm (code : String)
  | remove
  deriving DecidableEq, Repr

inductive PhoneReply where
  | profile (response : PhoneProfile)
  | refused (refusal : PhoneRefusal)
  | crashed
  deriving DecidableEq, Repr

/-- The step a call is at. -/
inductive PhonePhase where
  | load (phone : String)
  | throttle (name pendingPhone : String)
  | startPhoneChange (challenge : PhoneChallenge) (event : PhoneText)
  | claimPhoneCodeAttempt (code : String)
  /-- What the guess is compared with, and which of the texts that is the code of. -/
  | compare (code : String) (challenge : ClaimedPhoneCode) (issue : Nat)
  | promotePhone (phone : String)
  | clearPhone
  | done (reply : PhoneReply)
  deriving DecidableEq, Repr

structure PhoneConfig where
  codeTtlSeconds : Nat
  maxAttempts : Nat
  ttl_pos : 0 < codeTtlSeconds
  max_pos : 0 < maxAttempts

/-- What a step takes from outside: what the throttle says, and the number drawn. -/
structure PhoneAnswers where
  throttled : Option String
  drawn : Fin CODE_CEILING
  deriving DecidableEq, Repr

/-- A user's row and the texts queued for them, the latest first. -/
structure PhoneDesk where
  clock : Instant
  row : PhoneRow
  outbox : List PhoneText
  /-- The guesses compared, each by the text its code was in: the first text is number 1. -/
  compared : List Nat
  deriving DecidableEq, Repr

def refusedPhone (refusal : PhoneRefusal) : PhonePhase := .done (.refused refusal)

def replied (response : Option PhoneRow) (missing : PhoneRefusal) : PhonePhase :=
  match response with
  | some row => .done (.profile (toProfileResponse row))
  | none => refusedPhone missing

/-- A number that can be texted, on a profile that is there and has not confirmed it. -/
def afterLoad (row : PhoneRow) (phone : String) : PhonePhase :=
  match toThaiMobileE164 phone with
  | none => refusedPhone .notAMobile
  | some pendingPhone =>
    if row.deletedAt ≠ none then refusedPhone .profileNotFound
    else if row.phone = some pendingPhone ∧ row.phoneVerifiedAt ≠ none then
      refusedPhone .alreadyConfirmed
    else .throttle row.name pendingPhone

/-- A miss is answered differently when it spent the last guess. -/
def refuseGuess (maxAttempts : Nat) (claimed : ClaimedPhoneCode) : PhoneRefusal :=
  if maxAttempts ≤ claimed.attempts then .tooMany else .wrongCode

/-- The code has not run out. -/
def IsLiveChallenge (now : Instant) (challenge : ClaimedPhoneCode) : Prop :=
  challenge.phoneCodeHash ≠ "" ∧ ∃ expiresAt ∈ challenge.phoneCodeExpiresAt, now < expiresAt

instance (now : Instant) : DecidablePred (IsLiveChallenge now) :=
  fun _ => inferInstanceAs (Decidable (_ ∧ ∃ _ ∈ _, _))

section Service

variable (config : PhoneConfig) (sha256 : String → String)

/-- The send is claimed, and the code is made with its expiry. -/
def afterThrottle (now : Instant) (answers : PhoneAnswers) (name pendingPhone : String) :
    PhonePhase :=
  match answers.throttled with
  | some message => refusedPhone (.throttled message)
  | none =>
    let code := generateCode answers.drawn
    let expiresAt := now + config.codeTtlSeconds * 1000
    .startPhoneChange { pendingPhone, codeHash := hashCode sha256 code, expiresAt }
      { name, phone := pendingPhone, code, expiresAt, occurredAt := now }

def afterComparing (code : String) (challenge : ClaimedPhoneCode) : PhonePhase :=
  if hashMatches sha256 challenge.phoneCodeHash code then
    match challenge.pendingPhone.filter (· ≠ "") with
    | none => refusedPhone .codeGone
    | some pendingPhone => .promotePhone pendingPhone
  else refusedPhone (refuseGuess config.maxAttempts challenge)

def actOnPhone (desk : PhoneDesk) (answers : PhoneAnswers) : PhonePhase → PhoneDesk × PhonePhase
  | .load phone => (desk, afterLoad desk.row phone)
  | .throttle name pendingPhone =>
    (desk, afterThrottle config sha256 desk.clock answers name pendingPhone)
  | .startPhoneChange challenge event =>
    match startPhoneChange desk.row challenge with
    | some row =>
      ({ desk with row, outbox := event :: desk.outbox }, replied (some row) .profileNotFound)
    | none => (desk, refusedPhone .profileNotFound)
  | .claimPhoneCodeAttempt code =>
    let claimed := claimPhoneCodeAttempt desk.row config.maxAttempts
    ({ desk with row := claimed.1 },
      match claimed.2 with
      | none => refusedPhone .tooMany
      | some challenge => .compare code challenge desk.outbox.length)
  | .compare code challenge issue =>
    if IsLiveChallenge desk.clock challenge then
      ({ desk with compared := issue :: desk.compared },
        afterComparing config sha256 code challenge)
    else (desk, refusedPhone .codeGone)
  | .promotePhone phone =>
    match promotePhone desk.row phone desk.clock with
    | some row => ({ desk with row }, replied (some row) .codeGone)
    | none => (desk, refusedPhone .codeGone)
  | .clearPhone =>
    match clearPhone desk.row with
    | some row => ({ desk with row }, replied (some row) .profileNotFound)
    | none => (desk, refusedPhone .profileNotFound)
  | .done reply => (desk, .done reply)

def openPhone : PhoneRequest → PhonePhase
  | .request phone => .load phone
  | .confirm code => .claimPhoneCodeAttempt code
  | .remove => .clearPhone

/-- What else happens meanwhile: time passes, the account is deleted, the name is saved. -/
inductive PhoneWorld where
  | tick (elapsed : Nat)
  | delete
  | rename (name : String)
  deriving DecidableEq, Repr

def changePhones (desk : PhoneDesk) : PhoneWorld → PhoneDesk
  | .tick elapsed => { desk with clock := desk.clock + elapsed }
  | .delete => { desk with row := { desk.row with deletedAt := some desk.clock } }
  | .rename name => { desk with row := { desk.row with name } }

/-- One user's calls, any number of them at once. -/
def phoneVerification :
    Handler PhoneDesk PhonePhase PhoneRequest PhoneAnswers PhoneWorld where
  opened := openPhone
  act := actOnPhone config sha256
  outside := changePhones
  crashed := .done .crashed

end Service

end EventaApi.Source
