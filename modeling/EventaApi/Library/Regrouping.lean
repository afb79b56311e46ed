import Mathlib.Data.Nat.Digits.Lemmas

/-!
# Regrouping digits in a register

A loop reads digits of `m` bits, shifts each into a register and shifts digits of `n` bits out of
it. The register is never masked, so its upper bits are whatever is left of earlier digits; the
lower `bits` of it are the ones still to come out. What went in is what came out with these bits
behind it, both read as one number.
-/
namespace EventaApi.Library

/-! ## Digits as a number -/

/-- The number so many digits denote, the first of them the highest. -/
def number (base : Nat) (digits : List Nat) : Nat := Nat.ofDigits base digits.reverse

@[simp] theorem number_nil (base : Nat) : number base [] = 0 := rfl

theorem number_snoc (base : Nat) (digits : List Nat) (digit : Nat) :
    number base (digits ++ [digit]) = number base digits * base + digit := by
  simp only [number, List.reverse_append, List.reverse_singleton, List.singleton_append,
    Nat.ofDigits_cons]
  rw [Nat.add_comm, Nat.mul_comm]

theorem number_injective {base : Nat} (above : 1 < base) {digits other : List Nat}
    (size : digits.length = other.length) (bounded : ∀ digit ∈ digits, digit < base)
    (bounded' : ∀ digit ∈ other, digit < base) (same : number base digits = number base other) :
    digits = other := by
  apply List.reverse_injective
  apply Nat.ofDigits_inj_of_len_eq above
  · simpa using size
  · simpa using bounded
  · simpa using bounded'
  · exact same

/-! ## The register -/

variable {w : Nat}

/-- Shifting a digit in moves the pending bits up, and drops what no longer fits above them. -/
theorem shift_in {value digit : BitVec w} {bits m : Nat} (room : bits + m ≤ w)
    (small : digit.toNat < 2 ^ m) :
    (value <<< m ||| digit).toNat % 2 ^ (bits + m) =
      value.toNat % 2 ^ bits * 2 ^ m + digit.toNat := by
  have fits : 2 ^ (bits + m) ∣ 2 ^ w := Nat.pow_dvd_pow 2 room
  have joined : (value <<< m ||| digit).toNat % 2 ^ (bits + m) =
      (value.toNat <<< m ||| digit.toNat) % 2 ^ (bits + m) := by
    rw [BitVec.toNat_or, BitVec.toNat_shiftLeft, Nat.or_mod_two_pow, Nat.mod_mod_of_dvd _ fits,
      ← Nat.or_mod_two_pow]
  rw [joined, ← Nat.shiftLeft_add_eq_or_of_lt small, Nat.shiftLeft_eq, Nat.pow_add,
    Nat.mul_comm (2 ^ bits), Nat.mod_mul]
  have low : (value.toNat * 2 ^ m + digit.toNat) % 2 ^ m = digit.toNat := by
    rw [Nat.mul_add_mod_self_right, Nat.mod_eq_of_lt small]
  have high : (value.toNat * 2 ^ m + digit.toNat) / 2 ^ m = value.toNat := by
    rw [Nat.mul_comm, Nat.mul_add_div (Nat.two_pow_pos m), Nat.div_eq_of_lt small, Nat.add_zero]
  rw [low, high, Nat.mul_comm, Nat.add_comm]

/-- A digit shifted out is the upper `n` of the pending bits. -/
theorem shift_out {value mask : BitVec w} {bits n : Nat} (enough : n ≤ bits)
    (masks : mask.toNat = 2 ^ n - 1) :
    value.toNat % 2 ^ bits = (value >>> (bits - n) &&& mask).toNat * 2 ^ (bits - n) +
      value.toNat % 2 ^ (bits - n) := by
  have digit : (value >>> (bits - n) &&& mask).toNat = value.toNat / 2 ^ (bits - n) % 2 ^ n := by
    rw [BitVec.toNat_and, BitVec.toNat_ushiftRight, masks, Nat.and_two_pow_sub_one_eq_mod,
      Nat.shiftRight_eq_div_pow]
  have powers : 2 ^ bits = 2 ^ (bits - n) * 2 ^ n := by
    rw [← Nat.pow_add]
    congr 1
    omega
  rw [digit, powers, Nat.mod_mul, Nat.mul_comm, Nat.add_comm]

/-- The digits fed have come out, with the register's lower bits behind them. -/
structure Regrouped (m n : Nat) (fed out : List Nat) (bits : Nat) (value : BitVec w) : Prop where
  counted : m * fed.length = n * out.length + bits
  denoted : number (2 ^ m) fed = number (2 ^ n) out * 2 ^ bits + value.toNat % 2 ^ bits
  bounded : ∀ digit ∈ out, digit < 2 ^ n

variable {m n bits : Nat} {fed out : List Nat} {value mask : BitVec w}

theorem Regrouped.start : Regrouped m n [] [] 0 (0 : BitVec w) :=
  ⟨rfl, by simp [Nat.mod_one], by simp⟩

theorem Regrouped.feed (state : Regrouped m n fed out bits value) {digit : BitVec w}
    (room : bits + m ≤ w) (small : digit.toNat < 2 ^ m) :
    Regrouped m n (fed ++ [digit.toNat]) out (bits + m) (value <<< m ||| digit) where
  counted := by
    have counted := state.counted
    rw [List.length_append, Nat.mul_add, counted]
    simp [Nat.add_assoc]
  denoted := by
    rw [number_snoc, state.denoted, shift_in room small, Nat.pow_add]
    ring
  bounded := state.bounded

theorem and_mask_lt (value : BitVec w) (masks : mask.toNat = 2 ^ n - 1) :
    (value &&& mask).toNat < 2 ^ n := by
  have below := Nat.and_le_right (n := value.toNat) (m := mask.toNat)
  have positive := Nat.two_pow_pos n
  rw [BitVec.toNat_and]
  omega

theorem Regrouped.emit (state : Regrouped m n fed out bits value) (enough : n ≤ bits)
    (masks : mask.toNat = 2 ^ n - 1) :
    Regrouped m n fed (out ++ [(value >>> (bits - n) &&& mask).toNat]) (bits - n) value where
  counted := by
    have counted := state.counted
    rw [List.length_append, Nat.mul_add, List.length_singleton]
    omega
  denoted := by
    have powers : 2 ^ bits = 2 ^ n * 2 ^ (bits - n) := by
      rw [← Nat.pow_add]
      congr 1
      omega
    rw [number_snoc, state.denoted, shift_out enough masks, powers]
    ring
  bounded := by
    intro digit member
    rcases List.mem_append.mp member with earlier | last
    · exact state.bounded digit earlier
    · rw [List.mem_singleton.mp last]
      exact and_mask_lt _ masks

/-- What is left over goes out with zeros behind it. -/
theorem Regrouped.flush (state : Regrouped m n fed out bits value) (few : bits ≤ n) (room : n ≤ w)
    (masks : mask.toNat = 2 ^ n - 1) :
    number (2 ^ n) (out ++ [(value <<< (n - bits) &&& mask).toNat]) =
      number (2 ^ m) fed * 2 ^ (n - bits) := by
  have powers : 2 ^ n = 2 ^ bits * 2 ^ (n - bits) := by
    rw [← Nat.pow_add]
    congr 1
    omega
  have last : (value <<< (n - bits) &&& mask).toNat = value.toNat % 2 ^ bits * 2 ^ (n - bits) := by
    rw [BitVec.toNat_and, BitVec.toNat_shiftLeft, masks, Nat.and_two_pow_sub_one_eq_mod,
      Nat.mod_mod_of_dvd _ (Nat.pow_dvd_pow 2 room), Nat.shiftLeft_eq, powers,
      Nat.mul_mod_mul_right]
  rw [number_snoc, last, state.denoted, powers]
  ring

/-- Regrouping what was regrouped with fewer than `m` zeros behind it gives it back. -/
theorem Regrouped.back {back : List Nat} {pad : Nat} (above : 0 < m)
    (small : ∀ digit ∈ fed, digit < 2 ^ m) (size : n * out.length = m * fed.length + pad)
    (padded : number (2 ^ n) out = number (2 ^ m) fed * 2 ^ pad) (few : pad < m)
    (state : Regrouped n m out back bits value) (rest : bits < m) : back = fed := by
  have counted : m * back.length + bits = m * fed.length + pad := by
    rw [← state.counted, size]
  have same : bits = pad := by
    have rests := congrArg (· % m) counted
    simpa only [Nat.mul_add_mod, Nat.mod_eq_of_lt few, Nat.mod_eq_of_lt rest] using rests
  subst same
  have sizes : back.length = fed.length :=
    Nat.eq_of_mul_eq_mul_left above (Nat.add_right_cancel counted)
  have denoted := state.denoted
  rw [padded] at denoted
  -- Nothing is left in the register: the remainder of the pending bits is none.
  have quotients := congrArg (· / 2 ^ bits) denoted
  simp only [Nat.mul_div_cancel _ (Nat.two_pow_pos bits)] at quotients
  rw [Nat.mul_comm, Nat.mul_add_div (Nat.two_pow_pos bits),
    Nat.div_eq_of_lt (Nat.mod_lt _ (Nat.two_pow_pos bits)), Nat.add_zero] at quotients
  exact number_injective (Nat.one_lt_two_pow above.ne') sizes state.bounded small quotients.symm

end EventaApi.Library
