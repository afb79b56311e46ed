import EventaApi.Library.CivilDays
import EventaApi.Source.NotificationGrouping
import EventaApi.Source.Schema

/-!
# The period of a report

`resolveReportPeriod` turns two calendar days, or a named range, into the window a report covers
and the one it is compared against. The end day is named inclusively and the window is half-open.
-/
namespace EventaApi.Source
open Library

inductive ReportRange where
  | week | month | quarter | year
  deriving DecidableEq, Repr

/-- `RANGE_DAYS`: `7d`, `30d`, `90d` and `year`. -/
def RANGE_DAYS : ReportRange → Nat
  | .week => 7
  | .month => 30
  | .quarter => 90
  | .year => 365

def DEFAULT_RANGE : ReportRange := .year

/-- Two years and the leap day between them. -/
def MAX_SPAN_DAYS : Nat := 731

structure ReportPeriodRequest where
  /-- A Bangkok calendar day, `YYYY-MM-DD`. -/
  fromDay : Option String := none
  toDay : Option String := none
  range : Option ReportRange := none
  deriving DecidableEq, Repr

structure ReportPeriod where
  fromAt : Int
  /-- Exclusive. -/
  toAt : Int
  previousFrom : Int
  previousTo : Int
  days : Int
  trimmed : Bool
  deriving DecidableEq, Repr

def UNREADABLE_DAY : DomainException := .validation "Dates must be calendar days, as YYYY-MM-DD"

def PERIOD_BACKWARDS : DomainException :=
  .validation "End date must be on or after the start date"

/-! ## Reading days -/

/-- `DAY_PATTERN`, with what its digits say. -/
def dayDigits (day : List Char) : Option (Nat × Nat × Nat) :=
  match day with
  | [y, e, a, r, '-', m, n, '-', d, p] =>
    if [y, e, a, r, m, n, d, p].all Char.isDigit then
      some (readDigits [y, e, a, r], readDigits [m, n], readDigits [d, p])
    else none
  | _ => none

/-- `Date.parse` of a day's first instant in Bangkok. A day past the end of a month, up to the
thirty-first, is one of the next month. -/
def parseMidnight (year month day : Nat) : Option Int :=
  if 1 ≤ month ∧ month ≤ MONTHS_IN_YEAR ∧ 1 ≤ day ∧ day ≤ 31 then
    some (civilNumber year month day * DAY_MS - BANGKOK_OFFSET_MS)
  else none

/-- A day as the instant it begins in Bangkok. -/
def parseBangkokDay (day : Option String) : Except DomainException Int :=
  match (day.map String.toList).bind dayDigits with
  | none => .error UNREADABLE_DAY
  | some (year, month, day) =>
    match parseMidnight year month day with
    | none => .error UNREADABLE_DAY
    | some parsed => .ok parsed

def startOfDay (day : Option String) : Except DomainException Int := parseBangkokDay day

/-- Exclusive: the midnight that opens the day after. -/
def endOfDay (day : Option String) : Except DomainException Int := do
  let parsed ← parseBangkokDay day
  .ok (parsed + DAY_MS)

/-- Midnight in Bangkok on the day of an instant. -/
def startOfBangkokDay (instant : Int) : Int :=
  (instant + BANGKOK_OFFSET_MS) / DAY_MS * DAY_MS - BANGKOK_OFFSET_MS

/-! ## The window -/

/-- The window asked for: explicit days, or a named range. -/
def boundsOf (request : ReportPeriodRequest) (now : Int) :
    Except DomainException (Int × Int) :=
  if request.fromDay.isSome ∨ request.toDay.isSome then do
    let fromAt ← startOfDay request.fromDay
    let toAt ← endOfDay request.toDay
    .ok (fromAt, toAt)
  else
    let days := RANGE_DAYS (request.range.getD DEFAULT_RANGE)
    let toAt := startOfBangkokDay now + DAY_MS
    .ok (toAt - days * DAY_MS, toAt)

/-- `Math.round` of a quotient by a day: a half goes up. -/
def roundDays (span : Int) : Int := (2 * span + DAY_MS) / (2 * DAY_MS)

/-- The window, trimmed to the cap if it overruns. The recent end survives. -/
def capped (fromAt toAt : Int) : ReportPeriod :=
  let asked := roundDays (toAt - fromAt)
  let days := min asked MAX_SPAN_DAYS
  let start := toAt - days * DAY_MS
  { fromAt := start
    toAt
    previousFrom := start - days * DAY_MS
    previousTo := start
    days
    trimmed := MAX_SPAN_DAYS < asked }

def resolveReportPeriod (request : ReportPeriodRequest) (now : Int) :
    Except DomainException ReportPeriod := do
  let (fromAt, toAt) ← boundsOf request now
  if toAt < fromAt then .error PERIOD_BACKWARDS
  else .ok (capped fromAt toAt)

end EventaApi.Source
