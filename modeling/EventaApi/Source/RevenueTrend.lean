import EventaApi.Library.Grouping
import EventaApi.Source.ReportPeriod
import EventaApi.Source.TaxPeriods

/-!
# The revenue trend

Daily takings are folded into the buckets of a window, each of which is named by the day it opens
on. Days are texts: a year of four digits fills their ten characters, any other leaves no room
for the day.
-/
namespace EventaApi.Source
open Library

inductive TrendGranularity where
  | day | week | month
  deriving DecidableEq, Repr

structure NetRevenueDay where
  /-- `YYYY-MM-DD`. -/
  day : List Char
  netSatang : Int
  deriving DecidableEq, Repr

structure TrendPoint where
  /-- The Bangkok day the bucket opens on. -/
  atDay : List Char
  netSatang : Int
  deriving DecidableEq, Repr

/-! ## Days as texts -/

/-- `toISOString().slice(0, 10)` of a day. -/
def isoDay (day : Int) : List Char :=
  let year := civilYear day
  if 0 ≤ year then isoDate year.toNat (civilMonth day) (civilDay day)
  else ('-' :: padStart 6 (Nat.toDigits 10 year.natAbs) ++
    '-' :: padStart 2 (Nat.toDigits 10 (civilMonth day)) ++
    '-' :: padStart 2 (Nat.toDigits 10 (civilDay day))).take 10

/-- The Bangkok calendar day of an instant. -/
def dayStringOf (instant : Int) : List Char := isoDay ((instant + BANGKOK_OFFSET_MS) / DAY_MS)

/-- The first day of a month of a year with a sign and six digits. -/
def signedMonth (day : List Char) : Option (Int × Nat) :=
  match day with
  | [sign, c, d, y, e, a, r, '-', m, n] =>
    if [c, d, y, e, a, r, m, n].all Char.isDigit then
      let year : Int := readDigits [c, d, y, e, a, r]
      if sign = '+' then some (year, readDigits [m, n])
      else if sign = '-' ∧ year ≠ 0 then some (-year, readDigits [m, n])
      else none
    else none
  | _ => none

/-- `Date.parse` of a day's first instant, in days. -/
def parseDay (day : List Char) : Option Int :=
  match dayDigits day, signedMonth day with
  | some (year, month, day), _ =>
    if 1 ≤ month ∧ month ≤ MONTHS_IN_YEAR ∧ 1 ≤ day ∧ day ≤ 31 then
      some (civilNumber year month day)
    else none
  | none, some (year, month) =>
    if 1 ≤ month ∧ month ≤ MONTHS_IN_YEAR then some (civilNumber year month 1) else none
  | none, none => none

/-! ## Buckets -/

/-- Sunday first; the first of January 1970 was a Thursday. -/
def getUTCDay (day : Int) : Int := (day + 4) % 7

/-- The Monday opening a day's week. A day that cannot be read throws. -/
def mondayOf (day : List Char) : Option (List Char) :=
  (parseDay day).map fun parsed =>
    let sinceMonday := (getUTCDay parsed + 6) % 7
    isoDay (parsed - sinceMonday)

/-- The day a bucket opens on, for the day inside it. -/
def trendBucketOf (granularity : TrendGranularity) (day : List Char) : Option (List Char) :=
  match granularity with
  | .day => some day
  | .month => some (day.take 7 ++ ['-', '0', '1'])
  | .week => mondayOf day

/-- The instants a loop visits that steps by a day from the one end to before the other. -/
def steppedByDay (fromAt toAt : Int) : List Int :=
  (List.range ((toAt - fromAt + (DAY_MS - 1)) / DAY_MS).toNat).map fun step : Nat =>
    fromAt + step * DAY_MS

/-- Every bucket the window touches, in order, at zero. -/
def emptyBuckets (period : ReportPeriod) (granularity : TrendGranularity) :
    Option (KeyedMap (List Char) Int) := do
  let keys ← (steppedByDay period.fromAt period.toAt).mapM fun instant =>
    trendBucketOf granularity (dayStringOf instant)
  some (keys.foldl (fun buckets key => buckets.set key 0) [])

def bucketRevenue (days : List NetRevenueDay) (period : ReportPeriod)
    (granularity : TrendGranularity) : Option (List TrendPoint) := do
  let buckets ← emptyBuckets period granularity
  let entries ← days.mapM fun row =>
    (trendBucketOf granularity row.day).map fun key => (key, row.netSatang)
  let filled := entries.foldl (KeyedMap.addTo Prod.fst Prod.snd) buckets
  some (filled.map fun (atDay, netSatang) => { atDay, netSatang })

end EventaApi.Source
