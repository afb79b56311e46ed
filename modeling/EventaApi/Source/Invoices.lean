import EventaApi.Library.Calendar
import EventaApi.Library.Pool
import EventaApi.Source.PaymentFlows

/-!
# Invoices

`InvoicesService` issues and voids an order's tax invoices. It reads the order, then the
payment behind it, and writes in a transaction of its own; the payment flows write the same
rows inside theirs. One invoice of an order is live: a correction is a void and a new one.
-/
namespace EventaApi.Source
open Library

def INVOICE_NUMBER_PREFIX : String := "INV"
def INVOICE_SEQUENCE_WIDTH : Nat := 4
def INVOICE_TERM_DAYS : Nat := 14

def NO_AMOUNT : DomainException :=
  .validation "This order has nothing to bill — an invoice needs a positive amount."

def NO_BUYER_EMAIL : DomainException :=
  .validation "This order has no buyer email, so the invoice has nobody to bill."

def VOID_PAID : DomainException :=
  .conflict "A paid invoice cannot be voided — refund its payment instead, which voids it."

def ALREADY_VOID : DomainException := .conflict "This invoice is already void."

/-! ## What an invoice is raised from -/

/-- The slice of an order an invoice may be raised against. -/
structure BillableOrder where
  id : Nat
  reference : String
  eventId : Nat
  buyerName : String
  buyerEmail : String
  totalSatang : Satang
  vatAmountSatang : Satang
  currency : String
  deriving DecidableEq, Repr

def billable (order : Order) : BillableOrder where
  id := order.id
  reference := order.reference
  eventId := order.eventId
  buyerName := order.buyerName
  buyerEmail := order.buyerEmail
  totalSatang := order.totalSatang
  vatAmountSatang := order.vatAmountSatang
  currency := order.currency

/-- The order an invoice may be raised against; cancelled orders are excluded. -/
def findBillableOrder (orders : Table Order) (orderId : Nat) : Option BillableOrder := do
  let order ← orders.find orderId
  if order.status = .cancelled then none else some (billable order)

/-- How and when an order's money landed. -/
structure OrderSettlement where
  method : PaymentMethod
  paidOn : Option Nat
  deriving DecidableEq, Repr

/-- Newest first, and a payment without a date before any other. -/
def paidAfter (left right : Payment) : Prop :=
  left.paidAt = none ∨ ∃ later ∈ left.paidAt, ∃ earlier ∈ right.paidAt, earlier ≤ later

instance (left right : Payment) : Decidable (paidAfter left right) :=
  inferInstanceAs (Decidable (_ ∨ ∃ _ ∈ left.paidAt, ∃ _ ∈ right.paidAt, _))

/-- The settled payment of an order. -/
def findSettlementForOrder (payments : Table Payment) (orderId : Nat) : Option OrderSettlement :=
  let rows := payments.select fun row => row.orderId = orderId ∧ row.status = .paid
  (rows.insertionSort paidAfter).head?.map fun row =>
    { method := row.method, paidOn := row.paidAt.map bangkokToday }

def requireBillable : Option BillableOrder → Except DomainException BillableOrder
  | none => .error (.notFound "Order not found.")
  | some order =>
    if order.totalSatang = 0 then .error NO_AMOUNT
    else if order.buyerEmail.isEmpty then .error NO_BUYER_EMAIL
    else .ok order

/-! ## Issuing -/

structure IssueInvoiceInput where
  orderId : Nat
  eventId : Nat
  buyerName : String
  buyerEmail : String
  issuedAt : Nat
  dueAt : Nat
  subtotalSatang : Int
  vatAmountSatang : Satang
  amountSatang : Satang
  currency : String
  status : InvoiceStatus
  paidVia : Option PaymentMethod
  paidOn : Option Nat
  deriving DecidableEq, Repr

def dueDateFor (issuedAt : Nat) : Nat := issuedAt + INVOICE_TERM_DAYS

/-- The figures are the order's own, reproduced and never recomputed. -/
def issueInput (order : BillableOrder) (settlement : Option OrderSettlement) (issuedAt : Nat) :
    IssueInvoiceInput where
  orderId := order.id
  eventId := order.eventId
  buyerName := order.buyerName
  buyerEmail := order.buyerEmail
  issuedAt := issuedAt
  dueAt := dueDateFor issuedAt
  subtotalSatang := order.totalSatang - order.vatAmountSatang
  vatAmountSatang := order.vatAmountSatang
  amountSatang := order.totalSatang
  currency := order.currency
  status := if settlement.isSome then .paid else .issued
  paidVia := settlement.map OrderSettlement.method
  paidOn := settlement.bind OrderSettlement.paidOn

/-- The live invoice of an order, at most one by the partial unique index. -/
def findLiveForOrder (invoices : Table Invoice) (orderId : Nat) : Option Invoice :=
  (invoices.select fun row => row.orderId = orderId ∧ row.status ≠ .void).head?

def invoicePrefix (year : Nat) : List Char :=
  (INVOICE_NUMBER_PREFIX ++ "-" ++ toString year ++ "-").toList

/-- `split_part(number, '-', part)`. -/
def splitPart (text : List Char) (part : Nat) : List Char :=
  (text.splitOn '-').getD (part - 1) []

def readDigits (digits : List Char) : Nat :=
  digits.foldl (fun value digit => value * 10 + (digit.toNat - '0'.toNat)) 0

/-- The last sequence number a year's invoices have reached. -/
def lastSequence (invoices : Table Invoice) (year : Nat) : Nat :=
  ((invoices.select fun row => (invoicePrefix year).isPrefixOf row.number.toList = true).map
    fun row => readDigits (splitPart row.number.toList 3)).foldl max 0

def padStart (width : Nat) (digits : List Char) : List Char :=
  List.replicate (width - digits.length) '0' ++ digits

/-- `INV-<year>-<n+1>`, padded. -/
def nextNumber (invoices : Table Invoice) (year : Nat) : String :=
  String.ofList (invoicePrefix year ++
    padStart INVOICE_SEQUENCE_WIDTH (toString (lastSequence invoices year + 1)).toList)

@[reducible] def issuedInvoice (number : String) (seller : Organization)
    (input : IssueInvoiceInput) (id : Nat) : Invoice where
  id := id
  number := number
  orderId := input.orderId
  eventId := input.eventId
  buyerName := input.buyerName
  buyerEmail := input.buyerEmail
  sellerName := some seller.name
  sellerAddress := some seller.address
  sellerTaxId := some seller.taxId
  issuedAt := input.issuedAt
  dueAt := input.dueAt
  subtotalSatang := input.subtotalSatang
  vatAmountSatang := input.vatAmountSatang
  amountSatang := input.amountSatang
  currency := input.currency
  status := input.status
  paidVia := input.paidVia
  paidOn := input.paidOn
  voidedAt := none
  voidedBy := none
  voidReason := none

/-- The row an issue writes, its number next in its year's sequence. -/
def nextInvoice (ledger : Ledger) (input : IssueInvoiceInput) : Nat → Invoice :=
  issuedInvoice (nextNumber ledger.invoices (yearOf input.issuedAt)) ledger.organization input

/-- One invoice is live for an order: a second issue answers the first's. -/
def issueInvoice (ledger : Ledger) (input : IssueInvoiceInput) : Invoice × Ledger :=
  match findLiveForOrder ledger.invoices input.orderId with
  | some existing => (existing, ledger)
  | none => (nextInvoice ledger input ledger.invoices.next,
      { ledger with invoices := ledger.invoices.insert (nextInvoice ledger input) })

/-! ## Voiding -/

structure VoidInvoiceInput where
  voidedBy : Nat
  voidReason : Option String
  now : Instant
  deriving DecidableEq, Repr

@[reducible] def voidedInvoice (input : VoidInvoiceInput) (row : Invoice) : Invoice :=
  { row with
    status := .void
    voidedAt := some input.now
    voidedBy := some input.voidedBy
    voidReason := input.voidReason }

/-- Void an invoice, whatever it has become. -/
def markVoid (invoices : Table Invoice) (invoiceId : Nat) (input : VoidInvoiceInput) :
    Table Invoice :=
  invoices.update (fun row => row.id = invoiceId) (voidedInvoice input)

def requireVoidable : Option Invoice → Except DomainException Invoice
  | none => .error (.notFound "Invoice not found.")
  | some invoice =>
    if invoice.status = .paid then .error VOID_PAID
    else if invoice.status = .void then .error ALREADY_VOID
    else .ok invoice

/-! ## The service, one committed step at a time -/

inductive InvoiceRequest where
  | issue (orderId : Nat)
  | voidInvoice (invoiceId actor : Nat) (reason : Option String)
  deriving DecidableEq, Repr

inductive InvoiceReply where
  | invoice (row : Invoice)
  | thrown (exception : DomainException)
  | crashed
  deriving DecidableEq, Repr

inductive InvoicePhase where
  | findBillable (orderId : Nat)
  | findSettlement (order : BillableOrder)
  | issue (input : IssueInvoiceInput)
  | findById (invoiceId actor : Nat) (reason : Option String)
  | markVoid (invoice : Invoice) (input : VoidInvoiceInput)
  | done (reply : InvoiceReply)
  deriving DecidableEq, Repr

def openInvoicing : InvoiceRequest → InvoicePhase
  | .issue orderId => .findBillable orderId
  | .voidInvoice invoiceId actor reason => .findById invoiceId actor reason

def invoiced (service : Service) (invoices : Table Invoice) : Service :=
  { service with office.db.ledger.invoices := invoices }

def actOnInvoice (service : Service) (_ : Unit) : InvoicePhase → Service × InvoicePhase
  | .findBillable orderId =>
    (service, match requireBillable (findBillableOrder service.office.db.orders orderId) with
      | .ok order => .findSettlement order
      | .error exception => .done (.thrown exception))
  | .findSettlement order =>
    (service, .issue (issueInput order
      (findSettlementForOrder service.office.db.ledger.payments order.id)
      (bangkokToday service.office.clock)))
  | .issue input =>
    let (invoice, after) := issueInvoice service.office.db.ledger input
    (invoiced service after.invoices, .done (.invoice invoice))
  | .findById invoiceId actor reason =>
    (service, match requireVoidable (service.office.db.ledger.invoices.find invoiceId) with
      | .ok invoice => .markVoid invoice
        { voidedBy := actor, voidReason := reason, now := service.office.clock }
      | .error exception => .done (.thrown exception))
  | .markVoid invoice input =>
    match service.office.db.ledger.invoices.find invoice.id with
    | some row =>
      (invoiced service (markVoid service.office.db.ledger.invoices invoice.id input),
        .done (.invoice (voidedInvoice input row)))
    | none => (service, .done .crashed)
  | .done reply => (service, .done reply)

/-- Everything but the invoices module's own writes, which are requests here. -/
def Turn.leavesInvoices : Turn → Prop
  | .invoicing _ => False
  | _ => True

abbrev ServiceTurn := { turn : Turn // turn.leavesInvoices }

/-- Invoice requests beside the payment flows, checkout and the organizer's decisions. -/
def invoiceRequests : Handler Service InvoicePhase InvoiceRequest Unit ServiceTurn where
  opened := openInvoicing
  act := actOnInvoice
  outside := fun service turn => serve service turn.val
  crashed := .done .crashed

/-! ## What each does -/

theorem findBillableOrder_some {orders : Table Order} {orderId : Nat} {found : BillableOrder}
    (success : findBillableOrder orders orderId = some found) :
    ∃ order ∈ orders, order.id = orderId ∧ order.status ≠ .cancelled ∧ found = billable order := by
  unfold findBillableOrder at success
  cases there : orders.find orderId with
  | none => simp [there] at success
  | some order =>
    obtain ⟨stored, named⟩ := Table.find_eq_some.mp there
    by_cases cancelled : order.status = .cancelled
    · simp [there, cancelled] at success
    · simp only [there, Option.bind_eq_bind, Option.bind_some, if_neg cancelled,
        Option.some.injEq] at success
      exact ⟨order, stored, named, cancelled, success.symm⟩

/-- A settlement is found exactly when a payment of the order is paid. -/
theorem findSettlementForOrder_isSome {payments : Table Payment} {orderId : Nat} :
    (findSettlementForOrder payments orderId).isSome = true ↔
      ∃ payment ∈ payments, payment.orderId = orderId ∧ payment.status = .paid := by
  unfold findSettlementForOrder
  rw [Option.isSome_map, List.isSome_head?, ← Table.select_ne_nil]
  constructor
  · intro sorted empty
    rw [empty] at sorted
    exact sorted rfl
  · intro rows empty
    apply rows
    apply List.eq_nil_of_length_eq_zero
    rw [← List.length_insertionSort paidAfter, empty, List.length_nil]

theorem findLiveForOrder_none {invoices : Table Invoice} {orderId : Nat}
    (missing : findLiveForOrder invoices orderId = none) :
    ∀ invoice ∈ invoices, invoice.orderId = orderId → invoice.status = .void := by
  intro invoice stored ofOrder
  by_contra live
  have selected : invoice ∈ invoices.select fun row => row.orderId = orderId ∧ row.status ≠ .void :=
    Table.mem_select.mpr ⟨stored, ofOrder, live⟩
  rw [List.head?_eq_none_iff.mp missing] at selected
  exact List.not_mem_nil selected

theorem requireVoidable_ok {found : Option Invoice} {invoice : Invoice}
    (success : requireVoidable found = .ok invoice) :
    found = some invoice ∧ invoice.status ≠ .paid := by
  unfold requireVoidable at success
  split at success
  · cases success
  · split at success
    · cases success
    next unpaid =>
      split at success
      · cases success
      · cases success
        exact ⟨rfl, unpaid⟩

end EventaApi.Source
