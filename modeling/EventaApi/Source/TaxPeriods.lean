import Mathlib.Algebra.Ring.Int.Defs
import Mathlib.Data.Rat.Floor
import EventaApi.Source.Invoices
import EventaApi.Source.Payouts

/-!
# VAT periods

`TaxPeriodsService` lists a year's months and records a month's filing. A filed month is
shown as it was filed; every other one is computed from when the money moved, in Bangkok's
months. The three reads behind a year run side by side, and the filing is an insert of its
own after them.
-/
namespace EventaApi.Source
open Library

def MONTH_LABELS : List String :=
  ["Jan", "Feb", "Mar", "Apr", "May", "Jun", "Jul", "Aug", "Sep", "Oct", "Nov", "Dec"]

def VAT_FILING_DAY : Nat := 15

/-- The largest year the `year` column holds. -/
def SMALLINT_MAX : Nat := 32767

def NOT_DUE : DomainException :=
  .conflict "Only a period that has ended can be filed — this one is still running."

def ALREADY_FILED : DomainException := .conflict "This period has already been filed."

def BAD_MONTH : DomainException := .validation "Month must be between 1 and 12."

inductive TaxStatus where
  | upcoming | due | filed
  deriving DecidableEq, Repr

/-! ## Dates, as they are written -/

/-- The first ten characters of a date; a year past 9999 is written with a sign and six digits. -/
def isoDate (year month day : Nat) : List Char :=
  let digits := Nat.toDigits 10 year
  let written := if year ≤ 9999 then padStart 4 digits else '+' :: padStart 6 digits
  (written ++ '-' :: padStart 2 (Nat.toDigits 10 month) ++ '-' ::
    padStart 2 (Nat.toDigits 10 day)).take 10

/-- A day, as `bangkokToday` writes it. -/
def dateText (day : Nat) : List Char :=
  isoDate (yearOf day) (monthOfYear day) (day - monthStart (monthOf day) + 1)

/-- `Date.UTC` of a month counted from zero: two digits are a year of the last century, and a
thirteenth month is the next year's first. -/
def utcDate (year month day : Nat) : List Char :=
  let year := if year < 100 then 1900 + year else year
  isoDate (year + month / MONTHS_IN_YEAR) (month % MONTHS_IN_YEAR + 1) day

def monthLabel (month : Nat) : String := MONTH_LABELS.getD (month - 1) ""

/-- The filing deadline of a period. -/
def periodDueDate (year month : Nat) : List Char := utcDate year month VAT_FILING_DAY

/-- The first day of the month after a period. -/
def periodEnd (year month : Nat) : List Char := utcDate year month 1

def periodStatus (year month : Nat) (today : List Char) (filed : Bool) : TaxStatus :=
  if filed then .filed
  else if today < periodEnd year month then .upcoming
  else .due

/-- Filed after the deadline: recorded, never blocked. -/
def isLateFiling (filedOn : List Char) (year month : Nat) : Bool :=
  decide (periodDueDate year month < filedOn)

/-! ## The VAT inside a gross amount -/

/-- To the nearest integer, and a half upwards. -/
def mathRound (value : ℚ) : Int := (value + 1 / 2).floor

structure VatBreakdown where
  grossSatang : Int
  netSatang : Int
  vatSatang : Int
  deriving DecidableEq, Repr

def vatInclusiveBreakdown (grossSatang : Int) (rate : ℚ) : VatBreakdown :=
  let vatSatang := mathRound (grossSatang * rate / (1 + rate))
  { grossSatang, netSatang := grossSatang - vatSatang, vatSatang }

/-! ## What was collected in a month -/

/-- Bangkok's year and month of an instant. -/
def movedIn (moment : Instant) (year month : Nat) : Prop :=
  yearOf (bangkokToday moment) = year ∧ monthOfYear (bangkokToday moment) = month

instance (moment : Instant) (year month : Nat) : Decidable (movedIn moment year month) :=
  inferInstanceAs (Decidable (_ ∧ _))

/-- The payments whose money came in that month. -/
def collectedIn (ledger : Ledger) (year month : Nat) : List Payment :=
  ledger.payments.select fun row => (row.status = .paid ∨ row.status = .refunded) ∧
    ∃ paidAt ∈ row.paidAt, movedIn paidAt year month

/-- A refund's money moves when it settles; one with no date settled when it was issued. -/
def settledOn (refund : Refund) : Instant := refund.settledAt.getD refund.issuedAt

/-- The refunds whose money went back that month. -/
def returnedIn (ledger : Ledger) (year month : Nat) : List Refund :=
  ledger.refunds.select fun row => row.status = .succeeded ∧ movedIn (settledOn row) year month

/-- A month's takings, net of refunds. -/
def monthTakings (ledger : Ledger) (year month : Nat) : Int :=
  ((collectedIn ledger year month).map fun row => (row.amountSatang : Int)).sum +
    ((returnedIn ledger year month).map fun row => -(row.amountSatang : Int)).sum

structure MonthlyTakings where
  year : Nat
  month : Nat
  grossSatang : Int
  deriving DecidableEq, Repr

/-- One entry for each month of the year that saw money move. -/
def takingsByMonth (ledger : Ledger) (year : Nat) : List MonthlyTakings :=
  (List.range' 1 MONTHS_IN_YEAR).filterMap fun month =>
    if collectedIn ledger year month = [] ∧ returnedIn ledger year month = [] then none
    else some { year, month, grossSatang := monthTakings ledger year month }

/-! ## Filed periods -/

structure TaxPeriod where
  id : Nat
  period : String
  year : Nat
  dueAt : String
  salesSatang : Int
  vatSatang : Int
  whtSatang : Satang
  remittedSatang : Int
  status : TaxStatus
  filedAt : Option Instant
  deriving DecidableEq, Repr

instance : Keyed TaxPeriod := ⟨TaxPeriod.id⟩

/-- What a filed period froze. -/
structure FiledPeriod where
  year : Nat
  month : Nat
  salesSatang : Int
  vatSatang : Int
  whtSatang : Satang
  remittedSatang : Int
  filedAt : Instant
  deriving DecidableEq, Repr

/-- A label's month; anything unrecognised is skipped. -/
def monthOfLabel (label : String) : Option Nat :=
  (List.range' 1 MONTHS_IN_YEAR).find? fun month => monthLabel month = label

def filedPeriod (row : TaxPeriod) : Option FiledPeriod := do
  let month ← monthOfLabel row.period
  let filedAt ← row.filedAt
  some
    { year := row.year, month, salesSatang := row.salesSatang, vatSatang := row.vatSatang
      whtSatang := row.whtSatang, remittedSatang := row.remittedSatang, filedAt }

def filedPeriods (taxPeriods : Table TaxPeriod) (year : Nat) : List FiledPeriod :=
  (taxPeriods.select fun row => row.year = year ∧ row.status = .filed).filterMap filedPeriod

@[reducible] def filedRow (input : FiledPeriod) (id : Nat) : TaxPeriod where
  id := id
  period := monthLabel input.month
  year := input.year
  dueAt := String.ofList (periodDueDate input.year input.month)
  salesSatang := input.salesSatang
  vatSatang := input.vatSatang
  whtSatang := input.whtSatang
  remittedSatang := input.remittedSatang
  status := .filed
  filedAt := some input.filedAt

/-- A row of the same month and year is there already. -/
def filingConflicts (taxPeriods : Table TaxPeriod) (year month : Nat) : Prop :=
  taxPeriods.select (fun row => row.period = monthLabel month ∧ row.year = year) ≠ []

instance (taxPeriods : Table TaxPeriod) (year month : Nat) :
    Decidable (filingConflicts taxPeriods year month) := inferInstanceAs (Decidable (_ ≠ _))

/-- Freeze a period at what was filed; a second filing does nothing. -/
def recordFiling (taxPeriods : Table TaxPeriod) (input : FiledPeriod) : Table TaxPeriod :=
  if filingConflicts taxPeriods input.year input.month then taxPeriods
  else taxPeriods.insert (filedRow input)

/-! ## A year's rows -/

structure TaxPeriodRow where
  year : Nat
  month : Nat
  period : String
  dueAt : String
  salesSatang : Int
  vatSatang : Int
  whtSatang : Satang
  remittedSatang : Int
  status : TaxStatus
  filedAt : Option Instant
  late : Bool
  deriving DecidableEq, Repr

structure VatHeadlines where
  vatCollectedSatang : Int
  vatRemittedSatang : Int
  vatPayableSatang : Int
  withholdingSatang : Nat
  deriving DecidableEq, Repr

def toRow (year month : Nat) (filed : FiledPeriod) (today : List Char) : TaxPeriodRow where
  year := year
  month := month
  period := monthLabel month
  dueAt := String.ofList (periodDueDate year month)
  salesSatang := filed.salesSatang
  vatSatang := filed.vatSatang
  whtSatang := filed.whtSatang
  remittedSatang := filed.remittedSatang
  status := periodStatus year month today true
  filedAt := some filed.filedAt
  late := isLateFiling (dateText (bangkokToday filed.filedAt)) year month

def openRow (year month : Nat) (grossSatang : Int) (rate : ℚ) (today : List Char) :
    TaxPeriodRow where
  year := year
  month := month
  period := monthLabel month
  dueAt := String.ofList (periodDueDate year month)
  salesSatang := (vatInclusiveBreakdown grossSatang rate).netSatang
  vatSatang := (vatInclusiveBreakdown grossSatang rate).vatSatang
  whtSatang := 0
  remittedSatang := 0
  status := periodStatus year month today false
  filedAt := none
  late := false

/-- What the three reads behind a year found, the last entry of a month counting. -/
def monthRow (year : Nat) (today : List Char) (rate : ℚ) (filed : List FiledPeriod)
    (takings : List MonthlyTakings) (month : Nat) : TaxPeriodRow :=
  match filed.reverse.find? fun entry => entry.month = month with
  | some frozen => toRow year month frozen today
  | none =>
    let gross := (takings.reverse.find? fun entry => entry.month = month).map
      MonthlyTakings.grossSatang
    openRow year month (gross.getD 0) rate today

def yearRows (year : Nat) (today : List Char) (rate : ℚ) (filed : List FiledPeriod)
    (takings : List MonthlyTakings) : List TaxPeriodRow :=
  (List.range' 1 MONTHS_IN_YEAR).map (monthRow year today rate filed takings)

def headlinesOf (rows : List TaxPeriodRow) : VatHeadlines :=
  let collected := (rows.map TaxPeriodRow.vatSatang).sum
  let remitted := (rows.map TaxPeriodRow.remittedSatang).sum
  { vatCollectedSatang := collected
    vatRemittedSatang := remitted
    vatPayableSatang := collected - remitted
    withholdingSatang := (rows.map TaxPeriodRow.whtSatang).sum }

/-! ## The service -/

structure TaxOffice where
  service : Service
  taxPeriods : Table TaxPeriod
  vatRate : ℚ

structure ListPeriodsQuery where
  year : Nat
  status : Option TaxStatus
  deriving DecidableEq, Repr

structure FilePeriodInput where
  year : Nat
  month : Nat
  whtSatang : Option Satang
  deriving DecidableEq, Repr

inductive TaxRequest where
  | list (query : ListPeriodsQuery)
  | file (input : FilePeriodInput)
  deriving DecidableEq, Repr

def TaxRequest.year : TaxRequest → Nat
  | .list query => query.year
  | .file input => input.year

inductive TaxReply where
  | listed (query : ListPeriodsQuery) (rows : List TaxPeriodRow) (headlines : VatHeadlines)
  | filed (row : TaxPeriodRow)
  | thrown (exception : DomainException)
  | crashed
  deriving DecidableEq, Repr

/-- Which of the reads behind a year comes back next. -/
inductive YearRead where
  | vatRate | filedPeriods | takingsByMonth
  deriving DecidableEq, Repr

/-- What a request has read so far. -/
structure YearReads where
  today : List Char
  rate : Option ℚ := none
  filed : Option (List FiledPeriod) := none
  takings : Option (List MonthlyTakings) := none
  deriving DecidableEq

inductive TaxPhase where
  | start (request : TaxRequest)
  | read (request : TaxRequest) (reads : YearReads)
  | recordFiling (filed : FiledPeriod)
  | done (reply : TaxReply)
  deriving DecidableEq

/-- A month that is no month is refused before anything is read. -/
def startYear (office : TaxOffice) (request : TaxRequest) : TaxPhase :=
  let reads := { today := dateText (bangkokToday office.service.office.clock) }
  match request with
  | .list _ => .read request reads
  | .file input =>
    if input.month < 1 ∨ MONTHS_IN_YEAR < input.month then .done (.thrown BAD_MONTH)
    else .read request reads

def readYear (office : TaxOffice) (year : Nat) (reads : YearReads) : YearRead → YearReads
  | .vatRate => { reads with rate := some office.vatRate }
  | .filedPeriods => { reads with filed := some (filedPeriods office.taxPeriods year) }
  | .takingsByMonth =>
    { reads with takings := some (takingsByMonth office.service.office.db.ledger year) }

def listRows (query : ListPeriodsQuery) (rows : List TaxPeriodRow) : TaxPhase :=
  let shown := match query.status with
    | some status => rows.filter fun row => row.status = status
    | none => rows
  .done (.listed query shown (headlinesOf rows))

/-- Recording the filing is remitting it. -/
def filingOf (input : FilePeriodInput) (period : TaxPeriodRow) (now : Instant) : FiledPeriod where
  year := input.year
  month := input.month
  salesSatang := period.salesSatang
  vatSatang := period.vatSatang
  whtSatang := input.whtSatang.getD 0
  remittedSatang := period.vatSatang
  filedAt := now

def filePeriod (input : FilePeriodInput) (rows : List TaxPeriodRow) (now : Instant) : TaxPhase :=
  match rows[input.month - 1]? with
  | none => .done .crashed
  | some period =>
    if period.status = .filed then .done (.thrown ALREADY_FILED)
    else if period.status ≠ .due then .done (.thrown NOT_DUE)
    else .recordFiling (filingOf input period now)

/-- With all three reads back the request goes on. -/
def afterReads (request : TaxRequest) (reads : YearReads) (now : Instant) : TaxPhase :=
  match reads.rate, reads.filed, reads.takings with
  | some rate, some filed, some takings =>
    let rows := yearRows request.year reads.today rate filed takings
    match request with
    | .list query => listRows query rows
    | .file input => filePeriod input rows now
  | _, _, _ => .read request reads

def actOnTax (office : TaxOffice) (next : YearRead) : TaxPhase → TaxOffice × TaxPhase
  | .start request => (office, startYear office request)
  | .read request reads =>
    (office, if SMALLINT_MAX < request.year then .done .crashed
      else afterReads request (readYear office request.year reads next) office.service.office.clock)
  | .recordFiling filed =>
    ({ office with taxPeriods := recordFiling office.taxPeriods filed },
      .done (.filed (toRow filed.year filed.month filed (dateText (bangkokToday filed.filedAt)))))
  | .done reply => (office, .done reply)

inductive TaxEvent where
  | service (turn : Turn)
  | setVatRate (rate : ℚ)

def outsideTax (office : TaxOffice) : TaxEvent → TaxOffice
  | .service turn => { office with service := serve office.service turn }
  | .setVatRate rate => { office with vatRate := rate }

/-- Requests for VAT periods, beside everything that moves money. -/
def taxRequests : Handler TaxOffice TaxPhase TaxRequest YearRead TaxEvent where
  opened := .start
  act := actOnTax
  outside := outsideTax
  crashed := .done .crashed

end EventaApi.Source
