import Mathlib.Data.List.Lex
import EventaApi.Guarantees.InvoiceNumbers
import EventaApi.Source.ReportPeriod
import EventaApi.Source.TaxPeriods

/-!
# Calendar days as texts

A day of a year of four digits is written in ten characters, which say its year, its month and
its day. The texts are in the order of the days.
-/
namespace EventaApi.Guarantees
open Library Source

/-- A day of the calendar, in a year of at most four digits. -/
structure CalendarDay where
  year : Nat
  month : Nat
  day : Nat
  inYears : year ≤ 9999
  month_first : 1 ≤ month
  month_last : month ≤ MONTHS_IN_YEAR
  first : 1 ≤ day
  last : day ≤ monthLength year (month - 1)

namespace CalendarDay

/-- `YYYY-MM-DD`. -/
def text (day : CalendarDay) : List Char := isoDate day.year day.month day.day

/-- How many days after the first of January 1970. -/
def number (day : CalendarDay) : Int := civilNumber day.year day.month day.day

/-- By year, then by month, then by day. -/
def IsBefore (day other : CalendarDay) : Prop :=
  day.year < other.year ∨ day.year = other.year ∧
    (day.month < other.month ∨ day.month = other.month ∧ day.day < other.day)

end CalendarDay

/-! ## Digits -/

theorem length_padStart {width value : Nat} (positive : 0 < width) (small : value < 10 ^ width) :
    (padStart width (Nat.toDigits 10 value)).length = width := by
  have short := (Nat.length_toDigits_le_iff (by decide) positive).mpr small
  rw [padStart, List.length_append, List.length_replicate]
  omega

theorem padStart_all_isDigit (width value : Nat) :
    (padStart width (Nat.toDigits 10 value)).all Char.isDigit = true := by
  rw [padStart, List.all_append, Bool.and_eq_true]
  constructor
  · apply List.all_eq_true.mpr
    intro char member
    rw [List.eq_of_mem_replicate member]
    rfl
  · apply List.all_eq_true.mpr
    intro char
    exact Nat.isDigit_of_mem_toDigits (by decide) (by decide)

theorem readDigits_padStart_toDigits (width value : Nat) :
    readDigits (padStart width (Nat.toDigits 10 value)) = value := by
  rw [← toList_toString]
  exact readDigits_padStart width value

/-- The digits of a date say what it is. -/
theorem dayDigits_append {year month day : List Char} (years : year.length = 4)
    (months : month.length = 2) (days : day.length = 2) (digits : year.all Char.isDigit = true)
    (digits' : month.all Char.isDigit = true) (digits'' : day.all Char.isDigit = true) :
    dayDigits (year ++ '-' :: month ++ '-' :: day) =
      some (readDigits year, readDigits month, readDigits day) := by
  obtain ⟨y, e, a, r, rfl⟩ := List.length_eq_four.mp years
  obtain ⟨m, n, rfl⟩ := List.length_eq_two.mp months
  obtain ⟨d, p, rfl⟩ := List.length_eq_two.mp days
  have all : [y, e, a, r, m, n, d, p].all Char.isDigit = true := by
    simp only [List.all_cons, List.all_nil, Bool.and_true] at digits digits' digits'' ⊢
    simp [digits, digits', digits'']
  exact if_pos all

theorem isoDate_eq {year month day : Nat} (years : year ≤ 9999) (months : month ≤ 99)
    (days : day ≤ 99) : isoDate year month day =
      padStart 4 (Nat.toDigits 10 year) ++ '-' :: padStart 2 (Nat.toDigits 10 month) ++
        '-' :: padStart 2 (Nat.toDigits 10 day) := by
  have yearLength := @length_padStart 4 _ (by decide) (show year < 10 ^ 4 by omega)
  have monthLength := @length_padStart 2 _ (by decide) (show month < 10 ^ 2 by omega)
  have dayLength := @length_padStart 2 _ (by decide) (show day < 10 ^ 2 by omega)
  unfold isoDate
  simp only [if_pos years]
  apply List.take_of_length_le
  simp [yearLength, monthLength, dayLength]

theorem dayDigits_isoDate {year month day : Nat} (years : year ≤ 9999) (months : month ≤ 99)
    (days : day ≤ 99) : dayDigits (isoDate year month day) = some (year, month, day) := by
  rw [isoDate_eq years months days, dayDigits_append
    (length_padStart (by decide) (show year < 10 ^ 4 by omega))
    (length_padStart (by decide) (show month < 10 ^ 2 by omega))
    (length_padStart (by decide) (show day < 10 ^ 2 by omega))
    (padStart_all_isDigit ..) (padStart_all_isDigit ..) (padStart_all_isDigit ..),
    readDigits_padStart_toDigits, readDigits_padStart_toDigits, readDigits_padStart_toDigits]

/-! ## The order of texts -/

/-- The order strings are in, character by character. -/
def TextBefore : List Char → List Char → Prop := List.Lex fun char other => char.toNat < other.toNat

theorem TextBefore.append {text other : List Char} (before : TextBefore text other)
    (size : text.length = other.length) (rest rest' : List Char) :
    TextBefore (text ++ rest) (other ++ rest') := by
  induction before with
  | nil => simp at size
  | cons _ ih => exact .cons (ih (by simpa using size))
  | rel less => exact .rel less

theorem readDigits_cons (char : Char) (rest : List Char) :
    readDigits (char :: rest) = 10 ^ rest.length * (char.toNat - 48) + readDigits rest := by
  rw [readDigits_eq, readDigits_eq, Nat.ofDigitChars_cons, Nat.ofDigitChars_eq_ofDigitChars_zero]
  simp

theorem readDigits_lt {digits : List Char} (all : digits.all Char.isDigit = true) :
    readDigits digits < 10 ^ digits.length := by
  induction digits with
  | nil => decide
  | cons char rest ih =>
    rw [List.all_cons, Bool.and_eq_true] at all
    have bounds : 48 ≤ char.toNat ∧ char.toNat ≤ 57 := Char.isDigit_iff_toNat.mp all.1
    have below := ih all.2
    have digit : 10 ^ rest.length * (char.toNat - 48) ≤ 10 ^ rest.length * 9 :=
      Nat.mul_le_mul_left _ (by omega)
    rw [readDigits_cons, List.length_cons, Nat.pow_succ]
    omega

/-- Of digits equally many, the lower number stands before. -/
theorem textBefore_of_readDigits_lt {digits other : List Char} (size : digits.length = other.length)
    (all : digits.all Char.isDigit = true) (all' : other.all Char.isDigit = true)
    (less : readDigits digits < readDigits other) : TextBefore digits other := by
  induction digits generalizing other with
  | nil =>
    rw [List.eq_nil_of_length_eq_zero size.symm] at less
    exact absurd less (lt_irrefl _)
  | cons char rest ih =>
    cases other with
    | nil => simp at size
    | cons char' rest' =>
      have sizes : rest.length = rest'.length := by simpa using size
      rw [List.all_cons, Bool.and_eq_true] at all all'
      have bounds : 48 ≤ char.toNat ∧ char.toNat ≤ 57 := Char.isDigit_iff_toNat.mp all.1
      have bounds' : 48 ≤ char'.toNat ∧ char'.toNat ≤ 57 := Char.isDigit_iff_toNat.mp all'.1
      rw [readDigits_cons, readDigits_cons, sizes] at less
      rcases lt_trichotomy char.toNat char'.toNat with lower | same | higher
      · exact .rel lower
      · rw [same] at less
        have chars : char = char' := Char.toNat_inj.mp same
        subst chars
        exact .cons (ih sizes all.2 all'.2 (by omega))
      · have below := readDigits_lt all'.2
        have step : 10 ^ rest'.length * (char'.toNat - 48) + 10 ^ rest'.length ≤
            10 ^ rest'.length * (char.toNat - 48) := by
          rw [← Nat.mul_succ]
          exact Nat.mul_le_mul_left _ (by omega)
        omega

theorem textBefore_padStart {width value other : Nat} (positive : 0 < width)
    (small : other < 10 ^ width) (less : value < other) :
    TextBefore (padStart width (Nat.toDigits 10 value))
      (padStart width (Nat.toDigits 10 other)) := by
  apply textBefore_of_readDigits_lt
  · rw [length_padStart positive small, length_padStart positive (less.trans small)]
  · exact padStart_all_isDigit width value
  · exact padStart_all_isDigit width other
  · rwa [readDigits_padStart_toDigits, readDigits_padStart_toDigits]

namespace CalendarDay

variable (day other : CalendarDay)

theorem monthLength_le (year month : Nat) : monthLength year month ≤ 31 := by
  unfold monthLength
  split_ifs <;> omega

theorem day_le : day.day ≤ 31 := le_trans day.last (monthLength_le _ _)

theorem month_le : day.month ≤ 12 := day.month_last

/-- What is written says which day it is. -/
theorem dayDigits_text : dayDigits day.text = some (day.year, day.month, day.day) :=
  dayDigits_isoDate day.inYears (le_trans day.month_le (by decide))
    (le_trans day.day_le (by decide))

variable {day other}

/-- The texts are in the order of the days. -/
theorem textBefore_of_isBefore (before : day.IsBefore other) : TextBefore day.text other.text := by
  have shape (day : CalendarDay) : day.text = _ :=
    isoDate_eq day.inYears (le_trans day.month_le (by decide)) (le_trans day.day_le (by decide))
  have years (day : CalendarDay) := @length_padStart 4 _ (by decide)
    (show day.year < 10 ^ 4 by have := day.inYears; omega)
  have months (day : CalendarDay) := @length_padStart 2 _ (by decide)
    (show day.month < 10 ^ 2 by have := day.month_le; omega)
  rw [shape day, shape other, List.append_assoc, List.append_assoc]
  rcases before with year | ⟨year, month | ⟨month, less⟩⟩
  · apply TextBefore.append
    · exact textBefore_padStart (by decide) (by have := other.inYears; omega) year
    · rw [years, years]
  · rw [year]
    apply List.Lex.append_left
    apply List.Lex.cons
    apply TextBefore.append
    · exact textBefore_padStart (by decide) (by have := other.month_le; omega) month
    · rw [months, months]
  · rw [year, month]
    apply List.Lex.append_left
    apply List.Lex.cons
    apply List.Lex.append_left
    apply List.Lex.cons
    exact textBefore_padStart (by decide) (by have := other.day_le; omega) less

/-! ## The order of days -/

theorem last_civil (day : CalendarDay) : day.day ≤ civilLength day.year day.month := by
  rw [civilLength_eq day.year day.month_first day.month_last]
  exact day.last

theorem number_lt_of_isBefore (before : day.IsBefore other) : day.number < other.number := by
  have inMonth := civilMonthOf_civilNumber day.first day.last_civil
  have inMonth' := civilMonthOf_civilNumber other.first other.last_civil
  by_contra late
  have months := civilMonthOf_mono (not_lt.mp late)
  rw [number, number, inMonth, inMonth'] at months
  have first := day.month_first
  have last := day.month_le
  have first' := other.month_first
  have last' := other.month_le
  unfold monthIndex MONTHS_IN_YEAR at months
  rcases before with year | ⟨year, month | ⟨month, less⟩⟩
  · omega
  · omega
  · unfold number civilNumber at late
    rw [year, month] at late
    omega

theorem isBefore_trichotomy (day other : CalendarDay) :
    day.IsBefore other ∨ day = other ∨ other.IsBefore day := by
  obtain ⟨year, month, day, _⟩ := day
  obtain ⟨year', month', day', _⟩ := other
  unfold IsBefore
  simp only [CalendarDay.mk.injEq]
  omega

theorem number_lt_iff : day.number < other.number ↔ day.IsBefore other := by
  constructor
  · intro less
    rcases isBefore_trichotomy day other with before | rfl | after
    · exact before
    · exact absurd less (lt_irrefl _)
    · exact absurd (number_lt_of_isBefore after) (by omega)
  · exact number_lt_of_isBefore

end CalendarDay

end EventaApi.Guarantees
