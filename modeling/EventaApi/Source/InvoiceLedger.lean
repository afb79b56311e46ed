import EventaApi.Library.Joins
import EventaApi.Source.Invoices
import EventaApi.Source.RevenueTrend

/-!
# The invoice ledger

A row keeps the status that was stored. Whether its due date has passed is worked out when it is
read: by the query, which filters and counts by it, and again on the row that is shown.
-/
namespace EventaApi.Source
open Library

/-! ## Ageing -/

structure Ageing where
  /-- What the row reads as once its due date is taken into account. -/
  status : InvoiceStatus
  /-- Negative once overdue; `none` is `NaN`. -/
  daysUntilDue : Option Int
  deriving DecidableEq, Repr

/-- `setUTCDate`: the day of that date in the same month, or as many days past it. -/
def setUTCDate (day date : Int) : Int := civilMonthStart (civilMonthOf day) + (date - 1)

/-- `dueDateFor`, on the texts of the dates. A day that cannot be read throws. -/
def Ageing.dueDateFor (issuedAt : List Char) : Option (List Char) :=
  (parseDay issuedAt).map fun due => isoDay (setUTCDate due (civilDay due + INVOICE_TERM_DAYS))

/-- `Date.parse` of a day's first instant. -/
def parseInstant (day : List Char) : Option Int := (parseDay day).map fun parsed => parsed * DAY_MS

def ageInvoice (stored : InvoiceStatus) (dueAt today : List Char) : Ageing :=
  let daysUntilDue := do
    let due ← parseInstant dueAt
    let now ← parseInstant today
    some (roundDays (due - now))
  if stored = .paid ∨ stored = .void then { status := stored, daysUntilDue }
  else
    let late := daysUntilDue.any fun days => days < 0
    { status := if late then .overdue else .issued, daysUntilDue }

/-! ## Tables -/

/-- A row of the table. A `date` is the number of its day. -/
structure InvoiceRecord where
  id : Nat
  organizationId : Nat
  number : String
  orderId : Nat
  eventId : Nat
  buyerName : String
  buyerEmail : String
  issuedAt : Int
  dueAt : Int
  subtotalSatang : Int
  vatAmountSatang : Int
  amountSatang : Int
  currency : String
  status : InvoiceStatus
  paidVia : Option PaymentMethod
  paidOn : Option Int
  voidReason : Option String
  deriving DecidableEq, Repr

structure InvoiceTables where
  invoices : List InvoiceRecord
  orders : List Order
  events : List Event

structure InvoiceRow where
  id : Nat
  organizationId : Nat
  number : String
  orderId : Nat
  orderReference : String
  eventId : Nat
  eventName : String
  buyerName : String
  buyerEmail : String
  issuedAt : List Char
  dueAt : List Char
  subtotalSatang : Int
  vatAmountSatang : Int
  amountSatang : Int
  currency : String
  status : InvoiceStatus
  paidVia : Option PaymentMethod
  paidOn : Option (List Char)
  voidReason : Option String
  deriving DecidableEq, Repr

/-- The filters without the status. -/
structure LedgerFilters where
  page : Nat
  limit : Nat
  eventId : Option Nat := none
  search : String := ""
  deriving DecidableEq, Repr

structure InvoiceFilters extends LedgerFilters where
  status : Option InvoiceStatus := none
  deriving DecidableEq, Repr

structure InvoiceCounts where
  issued : Nat
  paid : Nat
  overdue : Nat
  void : Nat
  deriving DecidableEq, Repr

structure InvoicePage where
  items : List InvoiceRow
  total : Nat
  deriving DecidableEq, Repr

/-! ## Queries -/

/-- What `effectiveStatus` selects; `today` is the day its text is cast to. -/
def effectiveStatus (today : Int) (invoice : InvoiceRecord) : InvoiceStatus :=
  if invoice.status = .paid ∨ invoice.status = .void then invoice.status
  else if invoice.dueAt < today then .overdue
  else .issued

/-- `ilike` is the operator. An empty search is no clause. -/
def ledgerWhere (ilike : String → String → Bool) (organizationId : Nat) (filters : InvoiceFilters)
    (today : Int) (invoice : InvoiceRecord) : Bool :=
  let term := "%" ++ filters.search ++ "%"
  invoice.organizationId = organizationId &&
    filters.status.all (fun status => effectiveStatus today invoice = status) &&
    filters.eventId.all (fun eventId => invoice.eventId = eventId) &&
    (filters.search = "" || ilike invoice.number term || ilike invoice.buyerName term)

/-- The invoices with the orders and the events they are joined with. -/
def InvoiceTables.joined (tables : InvoiceTables) : List ((InvoiceRecord × Order) × Event) :=
  innerJoin
    (innerJoin tables.invoices tables.orders fun invoice order => order.id = invoice.orderId)
    tables.events fun row event => event.id = row.1.eventId

/-- `columns` and `toRow`. -/
def toInvoiceRow : (InvoiceRecord × Order) × Event → InvoiceRow
  | ((invoice, order), event) =>
    { id := invoice.id
      organizationId := invoice.organizationId
      number := invoice.number
      orderId := invoice.orderId
      orderReference := order.reference
      eventId := invoice.eventId
      eventName := event.name
      buyerName := invoice.buyerName
      buyerEmail := invoice.buyerEmail
      issuedAt := isoDay invoice.issuedAt
      dueAt := isoDay invoice.dueAt
      subtotalSatang := invoice.subtotalSatang
      vatAmountSatang := invoice.vatAmountSatang
      amountSatang := invoice.amountSatang
      currency := invoice.currency
      status := invoice.status
      paidVia := invoice.paidVia
      paidOn := invoice.paidOn.map isoDay
      voidReason := invoice.voidReason }

/-- Newest issued first, and of one day the latest. -/
def newestIssued (left right : (InvoiceRecord × Order) × Event) : Prop :=
  right.1.1.issuedAt < left.1.1.issuedAt ∨
    left.1.1.issuedAt = right.1.1.issuedAt ∧ right.1.1.id ≤ left.1.1.id

instance : DecidableRel newestIssued := fun _ _ => inferInstanceAs (Decidable (_ ∨ _))

section
variable (ilike : String → String → Bool) (tables : InvoiceTables) (organizationId : Nat)

/-- The rows of a query over the ledger. -/
def ledgerRows (filters : InvoiceFilters) (today : Int) :
    List ((InvoiceRecord × Order) × Event) :=
  tables.joined.filter fun row => ledgerWhere ilike organizationId filters today row.1.1

def InvoiceTables.page (filters : InvoiceFilters) (today : Int) : InvoicePage :=
  let rows := ledgerRows ilike tables organizationId filters today
  let skipped := (filters.page - 1) * filters.limit
  { items := (((rows.insertionSort newestIssued).drop skipped).take filters.limit).map toInvoiceRow
    total := rows.length }

def InvoiceTables.countByStatus (filters : LedgerFilters) (today : Int) : InvoiceCounts :=
  let rows := ledgerRows ilike tables organizationId { toLedgerFilters := filters } today
  let count (status : InvoiceStatus) :=
    rows.countP fun row => effectiveStatus today row.1.1 = status
  { issued := count .issued
    paid := count .paid
    overdue := count .overdue
    void := count .void }

end

end EventaApi.Source
