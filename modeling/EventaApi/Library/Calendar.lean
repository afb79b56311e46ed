import Mathlib.Data.Nat.Find
import Mathlib.Order.Monotone.Basic

/-!
# Calendar months

Days are counted from the first of January 1970, and so are months, so that the month after
one is its successor and a month number past December is a month of a later year. Every day
is in exactly one month, and a later day is in no earlier month.
-/
namespace EventaApi.Library

def EPOCH_YEAR : Nat := 1970

def MONTHS_IN_YEAR : Nat := 12

def isLeapYear (year : Nat) : Bool := (year % 4 == 0 && year % 100 != 0) || year % 400 == 0

/-- The days of a month, counted from zero within its year. -/
def monthLength (year month : Nat) : Nat :=
  if month = 1 then if isLeapYear year then 29 else 28
  else if month = 3 ∨ month = 5 ∨ month = 8 ∨ month = 10 then 30 else 31

/-- The days of the month so many months after January 1970. -/
def lengthOf (index : Nat) : Nat :=
  monthLength (EPOCH_YEAR + index / MONTHS_IN_YEAR) (index % MONTHS_IN_YEAR)

/-- The first day of a month. -/
def monthStart : Nat → Nat
  | 0 => 0
  | index + 1 => monthStart index + lengthOf index

/-- The month a day is in: the last one that has started by then. -/
def monthOf (day : Nat) : Nat :=
  Nat.findGreatest (fun index => monthStart index ≤ day) (day / 28)

def yearOf (day : Nat) : Nat := EPOCH_YEAR + monthOf day / MONTHS_IN_YEAR

/-- The month of the year a day is in, counted from one. -/
def monthOfYear (day : Nat) : Nat := monthOf day % MONTHS_IN_YEAR + 1

theorem lengthOf_ge (index : Nat) : 28 ≤ lengthOf index := by
  unfold lengthOf monthLength
  split
  · split <;> omega
  · split <;> omega

theorem monthStart_lt_succ (index : Nat) : monthStart index < monthStart (index + 1) := by
  have long := lengthOf_ge index
  simp only [monthStart]
  omega

theorem monthStart_strictMono : StrictMono monthStart :=
  strictMono_nat_of_lt_succ monthStart_lt_succ

theorem monthStart_le_iff {earlier later : Nat} :
    monthStart earlier ≤ monthStart later ↔ earlier ≤ later :=
  monthStart_strictMono.le_iff_le

theorem months_le_days (index : Nat) : 28 * index ≤ monthStart index := by
  induction index with
  | zero => simp
  | succ index ih =>
    have long := lengthOf_ge index
    simp only [monthStart]
    omega

/-- A month is no later than a day's own exactly when it has started by then. -/
theorem le_monthOf_iff {index day : Nat} : index ≤ monthOf day ↔ monthStart index ≤ day := by
  constructor
  · intro early
    have started : monthStart (monthOf day) ≤ day := by
      have epoch : monthStart 0 ≤ day := Nat.zero_le day
      exact Nat.findGreatest_spec (P := fun index => monthStart index ≤ day) (Nat.zero_le _) epoch
    exact le_trans (monthStart_le_iff.mpr early) started
  · intro started
    have days := months_le_days index
    unfold monthOf
    apply Nat.le_findGreatest
    · omega
    · exact started

theorem monthOf_mono {earlier later : Nat} (before : earlier ≤ later) :
    monthOf earlier ≤ monthOf later :=
  le_monthOf_iff.mpr (le_trans (le_monthOf_iff.mp le_rfl) before)

example : (yearOf 0, monthOfYear 0) = (1970, 1) := by decide

/-- The first of March 2000, after a leap day. -/
example : (yearOf 11017, monthOfYear 11017) = (2000, 3) ∧ monthOfYear 11016 = 2 := by
  decide +kernel

/-! ## Months of a year -/

/-- A later day is in no earlier month. -/
theorem months_mono {day later : Nat} (before : day ≤ later) :
    yearOf day < yearOf later ∨ yearOf day = yearOf later ∧ monthOfYear day ≤ monthOfYear later := by
  have months := monthOf_mono before
  unfold yearOf monthOfYear MONTHS_IN_YEAR
  omega

end EventaApi.Library
