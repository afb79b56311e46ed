import EventaApi.Source.Confirm

/-!
# The promotions desk

`DiscountsService`, `DiscountsQueryService.list` and the confirms that apply a code,
one read or one committed transaction at a time. A request works with the row it
loaded; whatever ran since is seen only by what its write is guarded by.
-/
namespace EventaApi.Source
open Library

/-! ## The requests -/

structure CreateDiscountInput where
  code : String
  type : DiscountType
  value : Nat
  eventId : Option Nat := none
  redemptionLimit : Nat := 0
  perPersonLimit : Nat := 0
  minOrderSatang : Satang := 0
  validFrom : Option Instant := none
  validUntil : Option Instant := none
  deriving DecidableEq, Repr

/-- A field left out stays as it is; a nullable one may be set to null. -/
structure UpdateDiscountInput where
  code : Option String := none
  type : Option DiscountType := none
  value : Option Nat := none
  eventId : Option (Option Nat) := none
  redemptionLimit : Option Nat := none
  perPersonLimit : Option Nat := none
  minOrderSatang : Option Satang := none
  validFrom : Option (Option Instant) := none
  validUntil : Option (Option Instant) := none
  version : Option Nat := none
  deriving DecidableEq, Repr

inductive DeleteOutcome where
  | removed | retired
  deriving DecidableEq, Repr

inductive DeskRequest where
  | create (input : CreateDiscountInput)
  | update (id : Nat) (input : UpdateDiscountInput)
  | disable (id : Nat)
  | enable (id : Nat)
  | delete (id : Nat)
  | list
  | confirm (input : ConfirmOrderDto) (entry : Option OrganizerEntry)
  deriving DecidableEq, Repr

inductive DeskReply where
  | written (row : DiscountCode)
  | deleted (id : Nat) (outcome : DeleteOutcome)
  | listed
  | placed (response : OrderPlaced)
  | thrown (error : TxError)
  | crashed
  deriving DecidableEq, Repr

/-- What a request does next, with what it has read. -/
inductive DeskPhase where
  | checkFree (input : CreateDiscountInput)
  | insert (row : DiscountCode)
  | loadUpdate (id : Nat) (input : UpdateDiscountInput)
  | checkText (row : DiscountCode) (values : DiscountValues) (code : String)
      (eventId : Option Nat) (status : DiscountStatus)
  | writeUpdate (row : DiscountCode) (values : DiscountValues)
  | loadDisable (id : Nat)
  | writeDisable (row : DiscountCode)
  | loadEnable (id : Nat)
  | writeEnable (row : DiscountCode) (status : DiscountStatus)
  | loadDelete (id : Nat)
  | erase (id : Nat)
  | retire (id : Nat)
  | readLive
  | sync (changes : List StatusChange)
  | price (input : ConfirmOrderDto) (entry : Option OrganizerEntry)
  | place (input : ConfirmOrderDto) (entry : Option OrganizerEntry) (priced : PricedSelection)
      (attempt : Nat)
  | done (reply : DeskReply)
  deriving DecidableEq, Repr

def DeskRequest.phase : DeskRequest → DeskPhase
  | .create input => .checkFree input
  | .update id input => .loadUpdate id input
  | .disable id => .loadDisable id
  | .enable id => .loadEnable id
  | .delete id => .loadDelete id
  | .list => .readLive
  | .confirm input entry => .price input entry

/-! ## What a request makes of what it reads -/

def CODE_NOT_FOUND : DomainException := .notFound "Discount code not found."

def STALE : DomainException := .conflict "This code changed elsewhere. Reload and try again."

def codeInUse (code : String) : DomainException :=
  .conflict ("The code \"" ++ code ++ "\" is already in use.")

/-- A new row: the columns no request sets start at their defaults. -/
@[reducible] def newCode (row : DiscountCode) (id : Nat) : DiscountCode :=
  { row with id, used := 0, deletedAt := none, version := 1 }

/-- The new code's row: its rules checked and its status derived. -/
def createValues (input : CreateDiscountInput) (now : Instant) :
    Except DomainException DiscountCode := do
  let code ← normaliseCode input.code
  assertValue input.type input.value
  assertLimits input.redemptionLimit input.perPersonLimit
  assertWindow input.validFrom input.validUntil now
  let row : DiscountCode :=
    { id := 0
      eventId := input.eventId
      code
      type := input.type
      value := input.value
      status := .active
      used := 0
      redemptionLimit := input.redemptionLimit
      perPersonLimit := input.perPersonLimit
      minOrderSatang := input.minOrderSatang
      validFrom := input.validFrom
      validUntil := input.validUntil }
  .ok { row with status := resolveStatus row now }

/-- Once redeemed, the text and the value are locked, and the limit covers what was given. -/
def assertChangeAllowedAfterUse (current : DiscountCode) (input : UpdateDiscountInput) :
    Except DomainException Unit :=
  if input.redemptionLimit.any fun limit => limit ≠ UNLIMITED ∧ limit < current.used then
    .error (.validation ("The usage limit can't drop below the " ++ toString current.used ++
      " redemptions already made."))
  else if current.used = 0 then .ok ()
  else if (input.code.any fun code => String.ofList (canonicalCode code) ≠ current.code) ∨
      (input.value.any fun value => value ≠ current.value) ∨
      (input.type.any fun type => type ≠ current.type) then
    .error (.conflict
      "The code and its value can't change after it has been used — create a new code instead.")
  else .ok ()

/-- `pickDefined(input, UPDATABLE_KEYS)`. -/
def pickDefined (input : UpdateDiscountInput) : DiscountValues where
  type := input.type
  value := input.value
  eventId := input.eventId
  redemptionLimit := input.redemptionLimit
  perPersonLimit := input.perPersonLimit
  minOrderSatang := input.minOrderSatang
  validFrom := input.validFrom
  validUntil := input.validUntil

/-- The row as the change would leave it, judged by the rules. -/
def merge (row : DiscountCode) (input : UpdateDiscountInput) (now : Instant) :
    Except DomainException DiscountCode := do
  if input.version.any fun version => version ≠ row.version then .error STALE
  assertChangeAllowedAfterUse row input
  let merged := setValues (pickDefined input) row.version row
  assertValue merged.type merged.value
  assertLimits merged.redemptionLimit merged.perPersonLimit
  assertWindow merged.validFrom merged.validUntil now
  .ok merged

/-- A changed text is normalised and must be free; the status is derived from the merged row. -/
def afterLoadUpdate (row : DiscountCode) (input : UpdateDiscountInput) (now : Instant) :
    Except DomainException DeskPhase := do
  let merged ← merge row input now
  match input.code with
  | none =>
    .ok (.writeUpdate row { pickDefined input with status := some (resolveStatus merged now) })
  | some raw =>
    let code ← normaliseCode raw
    .ok (.checkText row (pickDefined input) code merged.eventId (resolveStatus merged now))

def afterLoadEnable (row : DiscountCode) (now : Instant) : Except DomainException DeskPhase := do
  assertRevivable row now
  .ok (.writeEnable row (resolveStatus { row with status := .active } now))

/-- A code nobody used is erased; one that was redeemed is retired. -/
def afterLoadDelete (row : DiscountCode) : DeskPhase :=
  if row.used = 0 then .erase row.id else .retire row.id

/-- The codes whose derived status has drifted from the stored one. -/
def drifted (rows : List DiscountCode) (now : Instant) : List StatusChange :=
  rows.filterMap fun row =>
    if resolveStatus row now = row.status then none
    else some { id := row.id, status := resolveStatus row now }

def refusing : Except DomainException DeskPhase → DeskPhase
  | .ok phase => phase
  | .error exception => .done (.thrown (.domain exception))

/-- A load that found the row goes on with it. -/
def loaded (row : Option DiscountCode) (next : DiscountCode → DeskPhase) : DeskPhase :=
  match row with
  | some row => next row
  | none => .done (.thrown (.domain CODE_NOT_FOUND))

def afterWrite : Option DiscountCode → DeskPhase
  | some row => .done (.written row)
  | none => .done (.thrown (.domain STALE))

/-- A reference that is taken is drawn again; anything else is the answer. -/
def afterPlace (input : ConfirmOrderDto) (entry : Option OrganizerEntry) (priced : PricedSelection)
    (attempt : Nat) : Except TxError (PlacedOrder × Db) → DeskPhase
  | .ok (placed, _) => .done (.placed (toResponse placed priced))
  | .error error =>
    if error = .uniqueViolation REFERENCE_CONSTRAINT ∧ attempt < REFERENCE_ATTEMPTS then
      .place input entry priced (attempt + 1)
    else .done (.thrown error)

/-! ## One step of a request -/

structure DeskActed where
  office : Workspace
  phase : DeskPhase

def Workspace.withCodes (office : Workspace) (codes : Table DiscountCode) : Workspace :=
  { office with db := { office.db with discountCodes := codes } }

/-- A guarded write of the row a request loaded. -/
def writeRow (office : Workspace) (catalog : Catalog) (row : DiscountCode)
    (values : DiscountValues) : DeskActed :=
  match updateCode office.db.discountCodes catalog.events row.id values row.version with
  | .ok (written, codes) => { office := office.withCodes codes, phase := afterWrite written }
  | .error error => { office, phase := .done (.thrown error) }

/-- Do what the phase says: one read, or one committed transaction. -/
def actAtDesk (office : Workspace) (catalog : Catalog) (draws : Draws) : DeskPhase → DeskActed
  | .checkFree input =>
    { office
      phase := refusing (do
        let row ← createValues input office.clock
        if codeExists office.db.discountCodes row.code row.eventId none then
          .error (codeInUse row.code)
        .ok (.insert row)) }
  | .insert row =>
    match insertCode office.db.discountCodes catalog.events (newCode row) fun _ => rfl with
    | .ok (inserted, codes) =>
      { office := office.withCodes codes, phase := .done (.written inserted) }
    | .error error => { office, phase := .done (.thrown error) }
  | .loadUpdate id input =>
    { office
      phase := loaded (findCode office.db.discountCodes id) fun row =>
        refusing (afterLoadUpdate row input office.clock) }
  | .checkText row values code eventId status =>
    { office
      phase :=
        if codeExists office.db.discountCodes code eventId (some row.id) then
          .done (.thrown (.domain (codeInUse code)))
        else .writeUpdate row { values with code := some code, status := some status } }
  | .writeUpdate row values => writeRow office catalog row values
  | .loadDisable id =>
    { office, phase := loaded (findCode office.db.discountCodes id) .writeDisable }
  | .writeDisable row => writeRow office catalog row { status := some .disabled }
  | .loadEnable id =>
    { office
      phase := loaded (findCode office.db.discountCodes id) fun row =>
        refusing (afterLoadEnable row office.clock) }
  | .writeEnable row status => writeRow office catalog row { status := some status }
  | .loadDelete id =>
    { office, phase := loaded (findCode office.db.discountCodes id) afterLoadDelete }
  | .erase id =>
    match hardDelete office.db id with
    | .ok after => { office := { office with db := after }, phase := .done (.deleted id .removed) }
    | .error error => { office, phase := .done (.thrown error) }
  | .retire id =>
    { office := office.withCodes (softDelete office.db.discountCodes id office.clock)
      phase := .done (.deleted id .retired) }
  | .readLive =>
    { office, phase := .sync (drifted (liveCodes office.db.discountCodes) office.clock) }
  | .sync changes =>
    { office := office.withCodes (syncStatuses office.db.discountCodes changes)
      phase := .done .listed }
  | .price input entry =>
    { office
      phase := refusing ((priceSelection office.db catalog office.clock input entry).map
        fun priced => .place input entry priced 1) }
  | .place input entry priced attempt =>
    let order := placeInput input priced entry draws attempt
    { office := step office (.placeOrder order)
      phase := afterPlace input entry priced attempt
        (placeOrder office.db order office.clock) }
  | .done reply => { office, phase := .done reply }

/-! ## The desk as a machine -/

structure DeskCall where
  id : Nat
  phase : DeskPhase
  deriving DecidableEq, Repr

instance : Keyed DeskCall := ⟨DeskCall.id⟩

structure Promotions where
  office : Workspace
  catalog : Catalog
  calls : Table DeskCall

/-- A waitlist entry's input has no discount code to carry. -/
def Op.joinsUncoded : Op → Prop
  | .joinWaitlist input => input.discountCodeId = none
  | _ => True

inductive DeskTurn where
  /-- Any other transaction of the workspace. -/
  | checkout (op : Op) (uncoded : op.joinsUncoded)
  /-- The events' and the organization's own edits. -/
  | organize (write : Catalog → Catalog)
  | receive (request : DeskRequest)
  | advance (callId : Nat) (draws : Draws)
  | crash (callId : Nat)

def moveDeskCall (calls : Table DeskCall) (callId : Nat) (phase : DeskPhase) : Table DeskCall :=
  calls.update (fun call => call.id = callId) fun call => { call with phase }

def servePromotions (desk : Promotions) : DeskTurn → Promotions
  | .checkout op _ => { desk with office := step desk.office op }
  | .organize write => { desk with catalog := write desk.catalog }
  | .receive request =>
    { desk with calls := desk.calls.insert fun id => { id, phase := request.phase } }
  | .advance callId draws =>
    match desk.calls.find callId with
    | some call =>
      let acted := actAtDesk desk.office desk.catalog draws call.phase
      { desk with
        office := acted.office
        calls := moveDeskCall desk.calls callId acted.phase }
    | none => desk
  | .crash callId =>
    { desk with calls := moveDeskCall desk.calls callId (.done .crashed) }

end EventaApi.Source
