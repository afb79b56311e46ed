import Mathlib.Algebra.Order.Ring.Int
import EventaApi.Library.Calendar

/-!
# Days of any year

Months before January 1970 have negative numbers. The calendar repeats every four hundred years,
so the months of one such cycle, which `monthStart` counts, tell where any month starts.
-/
namespace EventaApi.Library

def CYCLE_MONTHS : Nat := 4800

def CYCLE_DAYS : Nat := 146097

/-- The first day of a month, counted from January 1970 either way. -/
def civilMonthStart (index : Int) : Int :=
  monthStart (index % CYCLE_MONTHS).toNat + CYCLE_DAYS * (index / CYCLE_MONTHS)

/-- The month a day is in. -/
def civilMonthOf (day : Int) : Int :=
  monthOf (day % CYCLE_DAYS).toNat + CYCLE_MONTHS * (day / CYCLE_DAYS)

def civilYear (day : Int) : Int := EPOCH_YEAR + civilMonthOf day / MONTHS_IN_YEAR

/-- The month of the year, counted from one. -/
def civilMonth (day : Int) : Nat := (civilMonthOf day % MONTHS_IN_YEAR).toNat + 1

/-- The day of the month, counted from one. -/
def civilDay (day : Int) : Nat := (day - civilMonthStart (civilMonthOf day)).toNat + 1

/-- The number of the month of a year, counted from one. -/
def monthIndex (year : Int) (month : Nat) : Int :=
  (year - EPOCH_YEAR) * MONTHS_IN_YEAR + (month - 1)

/-- The number of a day of a month. -/
def civilNumber (year : Int) (month day : Nat) : Int :=
  civilMonthStart (monthIndex year month) + (day - 1)

theorem monthStart_CYCLE_MONTHS : monthStart CYCLE_MONTHS = CYCLE_DAYS := by decide +kernel

/-- The first day of a month of a cycle, its last one's end included. -/
theorem civilMonthStart_cycle {month : Nat} (within : month ≤ CYCLE_MONTHS) (cycle : Int) :
    civilMonthStart (month + CYCLE_MONTHS * cycle) = monthStart month + CYCLE_DAYS * cycle := by
  unfold civilMonthStart
  rcases Nat.lt_or_eq_of_le within with inside | last
  · have rest : (month + CYCLE_MONTHS * cycle) % CYCLE_MONTHS = month := by
      unfold CYCLE_MONTHS at *
      omega
    have quotient : (month + CYCLE_MONTHS * cycle) / CYCLE_MONTHS = cycle := by
      unfold CYCLE_MONTHS at *
      omega
    rw [rest, quotient, Int.toNat_natCast]
  · -- The end of a cycle is where the next one starts.
    have rest : (month + CYCLE_MONTHS * cycle) % CYCLE_MONTHS = 0 := by
      unfold CYCLE_MONTHS at *
      omega
    have quotient : (month + CYCLE_MONTHS * cycle) / CYCLE_MONTHS = cycle + 1 := by
      unfold CYCLE_MONTHS at *
      omega
    have start : monthStart 0 = 0 := rfl
    rw [rest, quotient, last, monthStart_CYCLE_MONTHS, Int.toNat_zero, start]
    unfold CYCLE_DAYS
    omega

theorem civilMonthStart_succ (index : Int) : civilMonthStart (index + 1) =
    civilMonthStart index + lengthOf (index % CYCLE_MONTHS).toNat := by
  have below : (index % CYCLE_MONTHS).toNat < CYCLE_MONTHS := by
    unfold CYCLE_MONTHS
    omega
  have split : index = (index % CYCLE_MONTHS).toNat + CYCLE_MONTHS * (index / CYCLE_MONTHS) := by
    unfold CYCLE_MONTHS
    omega
  have next : index + 1 = ((index % CYCLE_MONTHS).toNat + 1 : Nat) +
      CYCLE_MONTHS * (index / CYCLE_MONTHS) := by
    unfold CYCLE_MONTHS
    omega
  have this := civilMonthStart_cycle below.le (index / CYCLE_MONTHS)
  have later := @civilMonthStart_cycle ((index % CYCLE_MONTHS).toNat + 1) below
    (index / CYCLE_MONTHS)
  rw [← split] at this
  rw [← next, monthStart] at later
  rw [this, later, Int.natCast_add]
  omega

theorem civilMonthStart_lt_succ (index : Int) :
    civilMonthStart index < civilMonthStart (index + 1) := by
  have long := lengthOf_ge (index % CYCLE_MONTHS).toNat
  rw [civilMonthStart_succ]
  omega

theorem civilMonthStart_lt_iff {earlier later : Int} :
    civilMonthStart earlier < civilMonthStart later ↔ earlier < later :=
  (strictMono_int_of_lt_succ civilMonthStart_lt_succ).lt_iff_lt

theorem civilMonthStart_le_iff {earlier later : Int} :
    civilMonthStart earlier ≤ civilMonthStart later ↔ earlier ≤ later :=
  (strictMono_int_of_lt_succ civilMonthStart_lt_succ).le_iff_le

theorem civilMonthOf_spec (day : Int) :
    civilMonthStart (civilMonthOf day) ≤ day ∧ day < civilMonthStart (civilMonthOf day + 1) := by
  have started := le_monthOf_iff.mp (le_refl (monthOf (day % CYCLE_DAYS).toNat))
  have ended : (day % CYCLE_DAYS).toNat < monthStart (monthOf (day % CYCLE_DAYS).toNat + 1) := by
    by_contra late
    have later := le_monthOf_iff.mpr (not_lt.mp late)
    omega
  have inside : monthOf (day % CYCLE_DAYS).toNat < CYCLE_MONTHS := by
    by_contra late
    have whole := monthStart_le_iff.mpr (not_lt.mp late)
    rw [monthStart_CYCLE_MONTHS] at whole
    unfold CYCLE_DAYS at *
    omega
  have this := civilMonthStart_cycle inside.le (day / CYCLE_DAYS)
  have next := civilMonthStart_cycle (Nat.succ_le_of_lt inside) (day / CYCLE_DAYS)
  rw [Nat.succ_eq_add_one, Int.natCast_add, Int.add_right_comm] at next
  unfold civilMonthOf
  rw [this, Int.natCast_one.symm, next]
  unfold CYCLE_DAYS at *
  omega

/-- A month is no later than a day's own exactly when it has started by then. -/
theorem le_civilMonthOf_iff {index day : Int} :
    index ≤ civilMonthOf day ↔ civilMonthStart index ≤ day := by
  obtain ⟨started, ended⟩ := civilMonthOf_spec day
  constructor
  · intro early
    exact le_trans (civilMonthStart_le_iff.mpr early) started
  · intro begun
    have before := civilMonthStart_lt_iff.mp (lt_of_le_of_lt begun ended)
    omega

theorem civilMonthOf_eq {index day : Int} (started : civilMonthStart index ≤ day)
    (ended : day < civilMonthStart (index + 1)) : civilMonthOf day = index := by
  have early := le_civilMonthOf_iff.mpr started
  have late : ¬ index + 1 ≤ civilMonthOf day := by
    rw [le_civilMonthOf_iff]
    omega
  omega

theorem civilMonthOf_mono {earlier later : Int} (before : earlier ≤ later) :
    civilMonthOf earlier ≤ civilMonthOf later :=
  le_civilMonthOf_iff.mpr (le_trans (le_civilMonthOf_iff.mp le_rfl) before)

/-! ## Years, months and days -/

theorem isLeapYear_congr {year other : Nat} (same : year % 400 = other % 400) :
    isLeapYear year = isLeapYear other := by
  have fourth : year % 4 = other % 4 := by omega
  have hundredth : year % 100 = other % 100 := by omega
  unfold isLeapYear
  rw [same, fourth, hundredth]

/-- The days of a month of a year, counted from one. -/
def civilLength (year : Int) (month : Nat) : Nat :=
  (civilMonthStart (monthIndex year month + 1) - civilMonthStart (monthIndex year month)).toNat

/-- A month has the days the calendar gives it. -/
theorem civilLength_eq (year : Nat) {month : Nat} (first : 1 ≤ month)
    (last : month ≤ MONTHS_IN_YEAR) : civilLength year month = monthLength year (month - 1) := by
  have place : (monthIndex year month % CYCLE_MONTHS).toNat % MONTHS_IN_YEAR = month - 1 := by
    unfold monthIndex CYCLE_MONTHS MONTHS_IN_YEAR at *
    omega
  have years : (EPOCH_YEAR + (monthIndex year month % CYCLE_MONTHS).toNat / MONTHS_IN_YEAR) % 400 =
      year % 400 := by
    unfold monthIndex CYCLE_MONTHS MONTHS_IN_YEAR EPOCH_YEAR at *
    omega
  have size : civilLength year month = lengthOf (monthIndex year month % CYCLE_MONTHS).toNat := by
    unfold civilLength
    rw [civilMonthStart_succ]
    omega
  rw [size, lengthOf, place]
  unfold monthLength
  rw [isLeapYear_congr years]

variable {year : Int} {month day : Nat}

/-- A day of a month is in that month. -/
theorem civilMonthOf_civilNumber (first : 1 ≤ day) (last : day ≤ civilLength year month) :
    civilMonthOf (civilNumber year month day) = monthIndex year month := by
  have longer := civilMonthStart_lt_succ (monthIndex year month)
  unfold civilLength at last
  apply civilMonthOf_eq
  · unfold civilNumber
    omega
  · unfold civilNumber
    omega

theorem civilYear_civilNumber (month_first : 1 ≤ month) (month_last : month ≤ MONTHS_IN_YEAR)
    (first : 1 ≤ day) (last : day ≤ civilLength year month) :
    civilYear (civilNumber year month day) = year := by
  unfold civilYear
  rw [civilMonthOf_civilNumber first last]
  unfold monthIndex MONTHS_IN_YEAR at *
  omega

theorem civilMonth_civilNumber (month_first : 1 ≤ month) (month_last : month ≤ MONTHS_IN_YEAR)
    (first : 1 ≤ day) (last : day ≤ civilLength year month) :
    civilMonth (civilNumber year month day) = month := by
  unfold civilMonth
  rw [civilMonthOf_civilNumber first last]
  unfold monthIndex MONTHS_IN_YEAR at *
  omega

theorem civilDay_civilNumber (first : 1 ≤ day) (last : day ≤ civilLength year month) :
    civilDay (civilNumber year month day) = day := by
  unfold civilDay
  rw [civilMonthOf_civilNumber first last]
  unfold civilNumber
  omega

theorem monthIndex_civil (day : Int) :
    monthIndex (civilYear day) (civilMonth day) = civilMonthOf day := by
  unfold monthIndex civilYear civilMonth MONTHS_IN_YEAR
  omega

/-- A day is the one it is written as. -/
theorem civilNumber_civil (day : Int) :
    civilNumber (civilYear day) (civilMonth day) (civilDay day) = day := by
  have started := (civilMonthOf_spec day).1
  unfold civilNumber civilDay
  rw [monthIndex_civil]
  omega

/-! ## Days from the epoch on -/

theorem lengthOf_mod (index : Nat) : lengthOf (index % CYCLE_MONTHS) = lengthOf index := by
  have place : index % CYCLE_MONTHS % MONTHS_IN_YEAR = index % MONTHS_IN_YEAR := by
    unfold CYCLE_MONTHS MONTHS_IN_YEAR
    omega
  have years : (EPOCH_YEAR + index % CYCLE_MONTHS / MONTHS_IN_YEAR) % 400 =
      (EPOCH_YEAR + index / MONTHS_IN_YEAR) % 400 := by
    unfold CYCLE_MONTHS MONTHS_IN_YEAR EPOCH_YEAR
    omega
  unfold lengthOf monthLength
  rw [place, isLeapYear_congr years]

theorem civilMonthStart_natCast (index : Nat) : civilMonthStart index = monthStart index := by
  induction index with
  | zero => rfl
  | succ index ih =>
    have place : ((index : Int) % CYCLE_MONTHS).toNat = index % CYCLE_MONTHS := by
      unfold CYCLE_MONTHS
      omega
    rw [Int.natCast_add, Int.natCast_one, civilMonthStart_succ, ih, place, lengthOf_mod, monthStart,
      Int.natCast_add]

/-- From the epoch on, the two calendars are one. -/
theorem civilMonthOf_natCast (day : Nat) : civilMonthOf day = monthOf day := by
  have started := le_monthOf_iff.mp (le_refl (monthOf day))
  have ended : day < monthStart (monthOf day + 1) := by
    by_contra late
    have later := le_monthOf_iff.mpr (not_lt.mp late)
    omega
  apply civilMonthOf_eq
  · rw [civilMonthStart_natCast]
    omega
  · rw [← Int.natCast_one, ← Int.natCast_add, civilMonthStart_natCast]
    omega

example : civilNumber 1970 1 1 = 0 ∧ civilNumber 1969 12 31 = -1 ∧
    civilNumber 2000 3 1 = 11017 := by decide +kernel

end EventaApi.Library
