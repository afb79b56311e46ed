import Mathlib.Data.List.Basic
import Mathlib.Data.List.Induction

/-!
# Decimal texts

A number's text is its digits with no zero in front, it is the only such text, and where it stands
before anything but a digit it is read back.
-/
namespace EventaApi.Library

theorem digitChar_of_isDigit {char : Char} (digit : char.isDigit = true) :
    Nat.digitChar (char.toNat - 48) = char ∧ char.toNat - 48 < 10 ∧
      (char ≠ '0' → 0 < char.toNat - 48) := by
  have bounds : 48 ≤ char.toNat ∧ char.toNat ≤ 57 := Char.isDigit_iff_toNat.mp digit
  have each : ∀ code ∈ List.range' 48 10, Nat.digitChar (code - 48) = Char.ofNat code ∧
      (Char.ofNat code ≠ '0' → 0 < code - 48) := by decide
  have here := each char.toNat (List.mem_range'_1.mpr (by omega))
  rw [Char.ofNat_toNat] at here
  exact ⟨here.1, by omega, here.2⟩

theorem isDigit_of_mem_digits {number : Nat} : ∀ char ∈ Nat.toDigits 10 number,
    char.isDigit = true :=
  fun _ => Nat.isDigit_of_mem_toDigits (by decide) (by decide)

/-- A decimal text with no zero in front is the text of its own number, which is not zero. -/
theorem toDigits_ofDigitChars {digits : List Char} (all : digits.all Char.isDigit = true)
    (leads : digits.head?.any (· ≠ '0') = true) :
    0 < Nat.ofDigitChars 10 digits 0 ∧
      Nat.toDigits 10 (Nat.ofDigitChars 10 digits 0) = digits := by
  induction digits using List.reverseRecOn with
  | nil => simp at leads
  | append_singleton init char ih =>
    obtain ⟨allInit, last⟩ : init.all Char.isDigit = true ∧ char.isDigit = true := by
      simpa using all
    obtain ⟨same, small, large⟩ := digitChar_of_isDigit last
    have value : Nat.ofDigitChars 10 (init ++ [char]) 0 =
        10 * Nat.ofDigitChars 10 init 0 + (char.toNat - 48) := by
      rw [Nat.ofDigitChars_append, Nat.ofDigitChars_cons, Nat.ofDigitChars_nil]
      rfl
    rw [value]
    cases init with
    | nil =>
      have notZero : char ≠ '0' := by simpa using leads
      rw [Nat.ofDigitChars_nil, Nat.mul_zero, Nat.zero_add, Nat.toDigits_of_lt_base small, same]
      exact ⟨large notZero, rfl⟩
    | cons first rest =>
      obtain ⟨positive, back⟩ := ih allInit leads
      refine ⟨by omega, ?_⟩
      rw [← Nat.toDigits_append_toDigits (by decide) positive small, back,
        Nat.toDigits_of_lt_base small, same]

theorem toDigits_leads {number : Nat} (positive : 0 < number) :
    (Nat.toDigits 10 number).head?.any (· ≠ '0') = true := by
  induction number using Nat.strongRecOn with
  | ind number ih =>
    by_cases small : number < 10
    · rw [Nat.toDigits_of_lt_base small]
      have each : ∀ digit < 10, 0 < digit → Nat.digitChar digit ≠ '0' := by decide
      simpa using each number small positive
    · have front := ih (number / 10) (by omega) (by omega)
      rw [Nat.toDigits_of_base_le (by decide) (by omega)]
      cases there : Nat.toDigits 10 (number / 10) with
      | nil => exact absurd there Nat.toDigits_ne_nil
      | cons first rest =>
        rw [there] at front
        exact front

/-- The digits in front of a text that goes on with something else. -/
theorem takeWhile_digits {number : Nat} {stop : Char} {rest : List Char}
    (stops : stop.isDigit = false) :
    (Nat.toDigits 10 number ++ stop :: rest).takeWhile Char.isDigit = Nat.toDigits 10 number := by
  rw [List.takeWhile_append_of_pos isDigit_of_mem_digits,
    List.takeWhile_cons_of_neg (by simp [stops]), List.append_nil]

/-- A number before anything but a digit is read one way only, and so is the rest. -/
theorem digits_stop_inj {first second : Nat} {stop : Char} {rest more : List Char}
    (stops : stop.isDigit = false)
    (same : Nat.toDigits 10 first ++ stop :: rest = Nat.toDigits 10 second ++ stop :: more) :
    first = second ∧ rest = more := by
  have digits := congrArg (List.takeWhile Char.isDigit) same
  rw [takeWhile_digits stops, takeWhile_digits stops] at digits
  have number : first = second := by
    rw [← Nat.ofDigitChars_ten_toDigits (n := first), digits, Nat.ofDigitChars_ten_toDigits]
  subst number
  exact ⟨rfl, List.cons.inj (List.append_cancel_left same) |>.2⟩

/-- Where a number stands behind a text with no digit in it, the text, the number and the rest are
read one way only. -/
theorem stem_digits_inj {stem other : List Char} (plain : ∀ char ∈ stem, char.isDigit = false)
    (alike : ∀ char ∈ other, char.isDigit = false) {first second : Nat} {stop : Char}
    {rest more : List Char} (stops : stop.isDigit = false)
    (same : stem ++ (Nat.toDigits 10 first ++ stop :: rest) =
      other ++ (Nat.toDigits 10 second ++ stop :: more)) :
    stem = other ∧ first = second ∧ rest = more := by
  have front {stem : List Char} (plain : ∀ char ∈ stem, char.isDigit = false) (number : Nat)
      (rest : List Char) : (stem ++ (Nat.toDigits 10 number ++ rest)).takeWhile
        (fun char => !char.isDigit) = stem := by
    rw [List.takeWhile_append_of_pos (by simpa using plain)]
    cases there : Nat.toDigits 10 number with
    | nil => exact absurd there Nat.toDigits_ne_nil
    | cons digit digits =>
      have digit : digit.isDigit = true :=
        isDigit_of_mem_digits digit (there ▸ List.mem_cons_self)
      rw [List.cons_append, List.takeWhile_cons_of_neg (by simp [digit]), List.append_nil]
  have stems := congrArg (List.takeWhile fun char => !char.isDigit) same
  rw [front plain, front alike] at stems
  subst stems
  exact ⟨rfl, digits_stop_inj stops (List.append_cancel_left same)⟩

end EventaApi.Library
