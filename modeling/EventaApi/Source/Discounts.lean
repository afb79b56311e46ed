import EventaApi.Source.PlaceOrder

/-!
# Discount codes

`DiscountsPolicy`, `DiscountsRepository` and `DiscountRedemptionService`: the rules a
code must satisfy, the statements that write one, and what it is worth at checkout.
-/
namespace EventaApi.Source
open Library

/-! ## The text of a code -/

def CODE_MIN : Nat := 3

def CODE_MAX : Nat := 24

def PERCENT_MIN : Nat := 1

def PERCENT_MAX : Nat := 100

def MIN_FIXED_SATANG : Nat := 1

def PERCENT_DIVISOR : Nat := 100

def SATANG_PER_BAHT : Nat := 100

/-- A 0 limit means unlimited, in total and per person. -/
def UNLIMITED : Nat := 0

/-- What `trim` takes off a text. -/
def isWhiteSpace (char : Char) : Bool :=
  let code := char.toNat
  (0x9 ≤ code && code ≤ 0xD) || (0x2000 ≤ code && code ≤ 0x200A) ||
    [0x20, 0xA0, 0x1680, 0x2028, 0x2029, 0x202F, 0x205F, 0x3000, 0xFEFF].contains code

def trim (text : String) : List Char :=
  ((text.toList.dropWhile isWhiteSpace).reverse.dropWhile isWhiteSpace).reverse

/-- `toUpperCase` of one character, where that is of letters a code may have. -/
def toUpperCase (char : Char) : List Char :=
  match char with
  | 'ı' => ['I']
  | 'ſ' => ['S']
  | 'ß' => ['S', 'S']
  | 'ﬀ' => ['F', 'F']
  | 'ﬁ' => ['F', 'I']
  | 'ﬂ' => ['F', 'L']
  | 'ﬃ' => ['F', 'F', 'I']
  | 'ﬄ' => ['F', 'F', 'L']
  | 'ﬅ' | 'ﬆ' => ['S', 'T']
  | char => [char.toUpper]

/-- `raw.trim().toUpperCase()`. -/
def canonicalCode (raw : String) : List Char := (trim raw).flatMap toUpperCase

/-- `CODE_PATTERN`, one character of it. -/
def inCode (char : Char) : Bool := char.isUpper || char.isDigit || char == '-'

/-- A text's length in UTF-16 units. -/
def utf16Length (text : List Char) : Nat :=
  (text.map fun char => if 0xFFFF < char.toNat then 2 else 1).sum

/-- Uppercase storage makes matching case-insensitive. -/
def normaliseCode (raw : String) : Except DomainException String :=
  let code := canonicalCode raw
  if utf16Length code < CODE_MIN ∨ CODE_MAX < utf16Length code then
    .error (.validation s!"A code must be {CODE_MIN}–{CODE_MAX} characters.")
  else if code.all inCode = false then
    .error (.validation "A code can use letters, numbers and hyphens only.")
  else .ok (String.ofList code)

/-! ## The rules -/

def assertValue (type : DiscountType) (value : Nat) : Except DomainException Unit :=
  match type with
  | .percent =>
    if PERCENT_MIN ≤ value ∧ value ≤ PERCENT_MAX then .ok ()
    else .error (.validation
      s!"A percentage discount must be between {PERCENT_MIN} and {PERCENT_MAX}.")
  | .fixed =>
    if MIN_FIXED_SATANG ≤ value then .ok ()
    else .error (.validation "A fixed discount must be at least one satang.")

/-- Handing one person more redemptions than the promotion has is nonsense. -/
def assertLimits (redemptionLimit perPersonLimit : Nat) : Except DomainException Unit :=
  if redemptionLimit = UNLIMITED ∨ perPersonLimit = UNLIMITED ∨ perPersonLimit ≤ redemptionLimit
  then .ok ()
  else .error (.validation (s!"The per-person limit ({perPersonLimit}) can't exceed the total " ++
    s!"usage limit ({redemptionLimit})."))

def assertWindow (validFrom validUntil : Option Instant) (now : Instant) :
    Except DomainException Unit :=
  if validFrom.any fun opens => validUntil.any fun closes => closes ≤ opens then
    .error (.validation "The end date must come after the start date.")
  else if validUntil.any fun closes => closes < now then
    .error (.validation
      "That validity window has already expired — pick an end date in the future.")
  else .ok ()

def isExhausted (code : DiscountCode) : Bool :=
  code.redemptionLimit ≠ UNLIMITED ∧ code.redemptionLimit ≤ code.used

def isPastWindow (code : DiscountCode) (now : Instant) : Bool :=
  code.validUntil.any fun closes => closes < now

/-- Derived from the window and the count; `disabled` is never derived away. -/
def resolveStatus (code : DiscountCode) (now : Instant) : DiscountStatus :=
  if code.status = .disabled then .disabled
  else if isExhausted code || isPastWindow code now then .expired
  else if code.validFrom.any fun opens => now < opens then .scheduled
  else .active

/-- Switching a code back on only works if it has room and time left to run. -/
def assertRevivable (code : DiscountCode) (now : Instant) : Except DomainException Unit :=
  if isExhausted code || isPastWindow code now then
    .error (.conflict "This code has expired — update its dates or usage limit to revive it.")
  else .ok ()

/-! ## The writes -/

/-- The columns an update sets; one left out keeps what the row has. -/
structure DiscountValues where
  code : Option String := none
  type : Option DiscountType := none
  value : Option Nat := none
  eventId : Option (Option Nat) := none
  redemptionLimit : Option Nat := none
  perPersonLimit : Option Nat := none
  minOrderSatang : Option Satang := none
  validFrom : Option (Option Instant) := none
  validUntil : Option (Option Instant) := none
  status : Option DiscountStatus := none
  deriving DecidableEq, Repr

@[reducible] def setValues (values : DiscountValues) (version : Nat) (row : DiscountCode) :
    DiscountCode :=
  { row with
    code := values.code.getD row.code
    type := values.type.getD row.type
    value := values.value.getD row.value
    eventId := values.eventId.getD row.eventId
    redemptionLimit := values.redemptionLimit.getD row.redemptionLimit
    perPersonLimit := values.perPersonLimit.getD row.perPersonLimit
    minOrderSatang := values.minOrderSatang.getD row.minOrderSatang
    validFrom := values.validFrom.getD row.validFrom
    validUntil := values.validUntil.getD row.validUntil
    status := values.status.getD row.status
    version := version }

/-- `uq_discount_codes_org_event_code`: no two rows of one event have one text. -/
def codeClashes (codes : Table DiscountCode) (row : DiscountCode) : Bool :=
  codes.rows.any fun other =>
    other.id != row.id && row.eventId.isSome && other.eventId == row.eventId &&
      other.code == row.code

/-- What a written code must satisfy in the schema's eyes. -/
def checkCode (codes : Table DiscountCode) (events : Table Event) (row : DiscountCode) :
    Except TxError Unit :=
  if codeClashes codes row then .error (.uniqueViolation "uq_discount_codes_org_event_code")
  else foreignKey (row.eventId.all fun id => (events.find id).isSome) "discount_codes.event_id"

/-- Optimistic: none when no row matched, because the code changed meanwhile. -/
def updateCode (codes : Table DiscountCode) (events : Table Event) (id : Nat)
    (values : DiscountValues) (currentVersion : Nat) :
    Except TxError (Option DiscountCode × Table DiscountCode) :=
  match codes.find id with
  | none => .ok (none, codes)
  | some row =>
    if row.version = currentVersion ∧ row.deletedAt = none then do
      checkCode codes events (setValues values (currentVersion + 1) row)
      .ok (some (setValues values (currentVersion + 1) row),
        codes.update (fun row => row.id = id) (setValues values (currentVersion + 1)))
    else .ok (none, codes)

def insertCode (codes : Table DiscountCode) (events : Table Event) (build : Nat → DiscountCode)
    (keyed : ∀ id, Keyed.key (build id) = id) :
    Except TxError (DiscountCode × Table DiscountCode) := do
  checkCode codes events (build codes.next)
  .ok (build codes.next, codes.insert build keyed)

def softDelete (codes : Table DiscountCode) (id : Nat) (now : Instant) : Table DiscountCode :=
  codes.update (fun row => row.id = id ∧ row.deletedAt = none)
    fun row => { row with deletedAt := some now, status := .disabled }

/-- The orders' `discount_code_id` is `ON DELETE SET NULL`. -/
def forgetCode (orders : Table Order) (id : Nat) : Table Order :=
  orders.update (fun order => order.discountCodeId = some id)
    fun order => { order with discountCodeId := none }

/-- Erase a code nobody redeemed; a redeemed one matches nothing. -/
def hardDelete (db : Db) (id : Nat) : Except TxError Db :=
  if (db.discountCodes.select fun row => row.id = id ∧ row.used = 0) = [] then .ok db
  else if (db.discountRedemptions.select fun row => row.discountCodeId = id) ≠ [] then
    .error (.foreignKeyViolation "discount_redemptions.discount_code_id")
  else
    .ok { db with
      discountCodes := db.discountCodes.delete fun row => row.id = id ∧ row.used = 0
      orders := forgetCode db.orders id }

structure StatusChange where
  id : Nat
  status : DiscountStatus
  deriving DecidableEq, Repr

/-- Write each drifted status back, on whatever the row has become. -/
def syncStatuses (codes : Table DiscountCode) (changes : List StatusChange) : Table DiscountCode :=
  changes.foldl (fun codes change =>
    codes.update (fun row => row.id = change.id) fun row => { row with status := change.status })
    codes

/-! ## The reads -/

/-- A live code by id. -/
def findCode (codes : Table DiscountCode) (id : Nat) : Option DiscountCode :=
  (codes.find id).filter fun row => row.deletedAt = none

/-- The codes of this text that apply to the event. -/
def usableCodes (codes : Table DiscountCode) (code : String) (eventId : Nat) : List DiscountCode :=
  codes.select fun row => row.code = code ∧ row.deletedAt = none ∧
    (row.eventId = none ∨ row.eventId = some eventId)

/-- `ORDER BY event_id DESC` puts the workspace-wide code, whose event is null, first. -/
def findUsable (codes : Table DiscountCode) (code : String) (eventId : Nat) :
    Option DiscountCode :=
  ((usableCodes codes code eventId).find? fun row => row.eventId = none).or
    (usableCodes codes code eventId).head?

/-- Is this code text already taken, by another row than the excluded one? -/
def codeExists (codes : Table DiscountCode) (code : String) (eventId : Option Nat)
    (excludeId : Option Nat) : Bool :=
  (codes.select fun row => row.code = code ∧ row.eventId = eventId ∧ row.deletedAt = none).any
    fun row => some row.id != excludeId

def liveCodes (codes : Table DiscountCode) : List DiscountCode :=
  codes.select fun row => row.deletedAt = none

/-- How many times this buyer has already redeemed this code. -/
def redemptionsByBuyer (redemptions : Table DiscountRedemption) (discountCodeId : Nat)
    (buyerEmail : String) : Nat :=
  (redemptions.select fun row =>
    row.discountCodeId = discountCodeId ∧ citext row.buyerEmail = citext buyerEmail).length

/-! ## Applying a code at checkout -/

/-- The workspace's VAT and service fee, each applied and rounded by its own rate. -/
structure OrgRates where
  vatOf : Satang → Satang
  serviceFeeOf : Satang → Satang

structure DiscountQuoteInput where
  code : String
  eventId : Nat
  subtotalSatang : Satang
  /-- Optional at quote time; a confirm always has it. -/
  buyerEmail : Option String := none
  deriving DecidableEq, Repr

structure DiscountQuoteResult where
  discountCodeId : Nat
  code : String
  type : DiscountType
  value : Nat
  subtotalSatang : Satang
  discountSatang : Satang
  totalSatang : Satang
  vatSatang : Satang
  deriving DecidableEq, Repr

/-- Digits from the last, with a comma before every fourth. -/
def groupThousands : List Char → List Char
  | a :: b :: c :: d :: rest => a :: b :: c :: ',' :: groupThousands (d :: rest)
  | digits => digits

def formatBaht (satang : Satang) : String :=
  let baht := (groupThousands (Nat.toDigits 10 (satang / SATANG_PER_BAHT)).reverse).reverse
  let cents := satang % SATANG_PER_BAHT
  let fraction := if cents = 0 then []
    else '.' :: Nat.toDigits 10 (cents / 10) ++ Nat.toDigits 10 (cents % 10)
  String.ofList ('฿' :: baht ++ fraction)

/-- Window, switch, scope, overall limit and minimum order, in that order. -/
def assertUsable (code : DiscountCode) (input : DiscountQuoteInput) (now : Instant) :
    Except DomainException Unit :=
  let name := "\"" ++ code.code ++ "\""
  if code.status = .disabled then .error (.validation (name ++ " is no longer available."))
  else if code.validFrom.any fun opens => now < opens then
    .error (.validation (name ++ " isn't active yet."))
  else if isPastWindow code now then .error (.validation (name ++ " has expired."))
  else if code.eventId ≠ none ∧ code.eventId ≠ some input.eventId then
    .error (.validation (name ++ " can't be used for this event."))
  else if isExhausted code then
    .error (.validation (name ++ " has reached its redemption limit."))
  else if input.subtotalSatang < code.minOrderSatang then
    .error (.validation ("Add " ++ formatBaht (code.minOrderSatang - input.subtotalSatang) ++
      " more to use " ++ name ++ "."))
  else .ok ()

/-- The buyer has room under the per-person limit, as far as the rows read now go. -/
def assertBuyerHasRoom (redemptions : Table DiscountRedemption) (code : DiscountCode)
    (buyerEmail : Option String) : Except DomainException Unit :=
  if code.perPersonLimit = 0 ∨ buyerEmail.all String.isEmpty then .ok ()
  else if redemptionsByBuyer redemptions code.id (buyerEmail.getD "") < code.perPersonLimit then
    .ok ()
  else .error (.validation ("You've already used \"" ++ code.code ++ "\"."))

/-- What the code takes off the subtotal, never more than the subtotal itself. -/
def quoteDiscount (code : DiscountCode) (subtotalSatang : Satang) : Satang :=
  let raw := match code.type with
    | .percent => subtotalSatang * code.value / PERCENT_DIVISOR
    | .fixed => code.value
  min raw subtotalSatang

/-- What the code is worth here; a refusal names its own reason. -/
def quote (db : Db) (events : Table Event) (rates : OrgRates) (now : Instant)
    (input : DiscountQuoteInput) : Except DomainException DiscountQuoteResult :=
  if input.subtotalSatang = 0 then
    .error (.validation "There's nothing to discount — this order is already free.")
  else if ((events.find input.eventId).filter fun event => event.deletedAt = none).isNone then
    .error (.notFound "This event isn't available.")
  else do
    let code ← normaliseCode input.code
    match findUsable db.discountCodes code input.eventId with
    | none => .error (.validation ("\"" ++ code ++ "\" isn't a code we recognise for this event."))
    | some row =>
      assertUsable row input now
      assertBuyerHasRoom db.discountRedemptions row input.buyerEmail
      let discountSatang := quoteDiscount row input.subtotalSatang
      .ok
        { discountCodeId := row.id
          code := row.code
          type := row.type
          value := row.value
          subtotalSatang := input.subtotalSatang
          discountSatang
          totalSatang := input.subtotalSatang - discountSatang
          vatSatang := rates.vatOf (input.subtotalSatang - discountSatang) }

end EventaApi.Source
