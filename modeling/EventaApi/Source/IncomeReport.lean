import EventaApi.Library.Joins
import EventaApi.Source.RevenueTrend

/-!
# The income report

Payments settled in a window, joined with their orders and events, are summed three ways: by
event, as a whole, and by Bangkok day. One predicate picks the payments and one expression sums
them.
-/
namespace EventaApi.Source
open Library

/-! ## Rows -/

structure PaymentRecord where
  id : Nat
  organizationId : Nat
  orderId : Nat
  eventId : Nat
  amountSatang : Int
  status : PaymentStatus
  paidAt : Option Int
  feeAmountSatang : Option Int
  deriving DecidableEq, Repr

instance : Keyed PaymentRecord := ⟨PaymentRecord.id⟩

structure RefundRecord where
  id : Nat
  paymentId : Nat
  amountSatang : Int
  status : RefundStatus
  deriving DecidableEq, Repr

structure IncomeTables where
  payments : Table PaymentRecord
  refunds : List RefundRecord
  orders : Table Order
  events : Table Event

/-- A payment with its order and its event. -/
abbrev IncomeJoin := (PaymentRecord × Order) × Event

structure IncomeWindow where
  fromAt : Int
  /-- Exclusive. -/
  toAt : Int
  eventId : Option Nat := none
  /-- Matches the event name. -/
  search : String := ""
  deriving DecidableEq, Repr

structure IncomeQuery extends IncomeWindow where
  page : Nat
  limit : Nat
  deriving DecidableEq, Repr

@[ext] structure IncomeTotals where
  /-- Collected from buyers, before anything comes off. -/
  grossSatang : Int
  /-- The VAT portion of gross. -/
  vatSatang : Int
  refundsSatang : Int
  feesSatang : Int
  netSatang : Int
  settledSatang : Int
  deriving DecidableEq, Repr

structure IncomeRow extends IncomeTotals where
  eventId : Nat
  eventName : String
  startAt : Instant
  deriving DecidableEq, Repr

structure IncomeSummary extends IncomeTotals where
  /-- Seats on the orders these payments settled. -/
  paidSeats : Nat
  deriving DecidableEq, Repr

structure IncomePage where
  rows : List IncomeRow
  /-- How many events matched. -/
  matchedEvents : Nat
  totals : IncomeTotals
  deriving DecidableEq, Repr

def COLLECTED : List PaymentStatus := [.paid, .refunded]

def SETTLED_REFUND : RefundStatus := .succeeded

/-! ## Expressions -/

/-- The correlated sum: what was given back of a payment. -/
def refundedOf (refunds : List RefundRecord) (payment : PaymentRecord) : Int :=
  let settled := refunds.filter fun refund =>
    refund.paymentId = payment.id && refund.status = SETTLED_REFUND
  (settled.map RefundRecord.amountSatang).sum

/-- The five sums and the two bottom lines. -/
def money (refunds : List RefundRecord) (rows : List IncomeJoin) : IncomeTotals where
  grossSatang := (rows.map fun row => row.1.1.amountSatang).sum
  vatSatang := (rows.map fun row => (row.1.2.vatAmountSatang : Int)).sum
  refundsSatang := (rows.map fun row => refundedOf refunds row.1.1).sum
  feesSatang := (rows.map fun row => row.1.1.feeAmountSatang.getD 0).sum
  netSatang := (rows.map fun row =>
    row.1.1.amountSatang - refundedOf refunds row.1.1 - row.1.1.feeAmountSatang.getD 0).sum
  settledSatang := (rows.map fun row =>
    row.1.1.amountSatang - row.1.2.vatAmountSatang - refundedOf refunds row.1.1 -
      row.1.1.feeAmountSatang.getD 0).sum

/-- The one predicate. A payment that was never paid is in no window; `ilike` is the operator. -/
def matching (ilike : String → String → Bool) (organizationId : Nat) (window : IncomeWindow)
    (row : IncomeJoin) : Bool :=
  row.1.1.organizationId = organizationId &&
    COLLECTED.contains row.1.1.status &&
    row.1.1.paidAt.any (fun paidAt => window.fromAt ≤ paidAt) &&
    row.1.1.paidAt.any (fun paidAt => paidAt < window.toAt) &&
    window.eventId.all (fun eventId => row.1.1.eventId = eventId) &&
    (window.search = "" || ilike row.2.name ("%" ++ window.search ++ "%"))

def IncomeTables.joined (tables : IncomeTables) : List IncomeJoin :=
  innerJoin
    (innerJoin tables.payments.rows tables.orders.rows fun payment order =>
      order.id = payment.orderId)
    tables.events.rows fun row event => event.id = row.1.eventId

/-! ## Queries -/

/-- What the rows of an event are grouped by. -/
def eventKey (row : IncomeJoin) : Nat × String × Instant :=
  (row.2.id, row.2.name, row.2.startAt)

/-- What is selected of a group. -/
def incomeRow (refunds : List RefundRecord)
    (group : (Nat × String × Instant) × List IncomeJoin) : IncomeRow where
  toIncomeTotals := money refunds group.2
  eventId := group.1.1
  eventName := group.1.2.1
  startAt := group.1.2.2

section
variable (ilike : String → String → Bool) (tables : IncomeTables) (organizationId : Nat)

/-- The rows the predicate matches. -/
def incomeMatches (window : IncomeWindow) : List IncomeJoin :=
  tables.joined.filter (matching ilike organizationId window)

/-- A row for every event, before they are put in order. -/
def incomeRows (window : IncomeWindow) : List IncomeRow :=
  (groupedBy eventKey (incomeMatches ilike tables organizationId window)).map
    (incomeRow tables.refunds)

end

/-- An order the rows may come in: the greatest net first. Rows that tie are in any. -/
structure Arrangement (rows : List IncomeRow) where
  inOrder : List IncomeRow
  same : inOrder.Perm rows
  descending : inOrder.Pairwise fun former latter => latter.netSatang ≤ former.netSatang

section
variable (ilike : String → String → Bool) (tables : IncomeTables) (organizationId : Nat)

def incomeByEvent (query : IncomeQuery)
    (arranged : Arrangement (incomeRows ilike tables organizationId query.toIncomeWindow)) :
    IncomePage :=
  let rows := incomeMatches ilike tables organizationId query.toIncomeWindow
  { rows := (arranged.inOrder.drop ((query.page - 1) * query.limit)).take query.limit
    matchedEvents := (rows.map fun row => row.1.1.eventId).dedup.length
    totals := money tables.refunds rows }

def incomeTotals (window : IncomeWindow) : IncomeSummary :=
  let rows := incomeMatches ilike tables organizationId window
  { toIncomeTotals := money tables.refunds rows
    paidSeats := (rows.map fun row => row.1.2.seats).sum }

/-- The Bangkok day a payment was settled on; every payment that matches was. -/
def settledDay (row : IncomeJoin) : Int := bangkokDay (row.1.1.paidAt.getD 0)

/-- The net of each day with takings, in order. -/
def netDays (window : IncomeWindow) : List (Int × Int) :=
  let groups := groupedBy settledDay (incomeMatches ilike tables organizationId window)
  let days := groups.map fun group => (group.1, (money tables.refunds group.2).netSatang)
  days.insertionSort fun former latter => former.1 ≤ latter.1

/-- `to_char(day, 'YYYY-MM-DD')`: a year of more digits is written with all of them, and one
before the first without its era. -/
def toChar (day : Int) : List Char :=
  let year := civilYear day
  padStart 4 (Nat.toDigits 10 (if 1 ≤ year then year else 1 - year).toNat) ++
    '-' :: padStart 2 (Nat.toDigits 10 (civilMonth day)) ++
    '-' :: padStart 2 (Nat.toDigits 10 (civilDay day))

def netByDay (window : IncomeWindow) : List NetRevenueDay :=
  (netDays ilike tables organizationId window).map fun entry =>
    { day := toChar entry.1, netSatang := entry.2 }

end

end EventaApi.Source
