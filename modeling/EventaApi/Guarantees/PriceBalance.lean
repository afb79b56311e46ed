import EventaApi.Source.Pricing
import Mathlib.Tactic.NormNum
import Mathlib.Tactic.Positivity
import Mathlib.Tactic.GCongr

/-!
# Pricing balances

Three roundings follow one another: a percentage, the fee on what is left, and the VAT within
what is paid. Each keeps order and stays between whole bounds, so the amounts add up and the
total follows the subtotal up and the discount down.
-/
namespace EventaApi.Guarantees
open Library Source

/-! ## The VAT within a total -/

theorem mathRound_eq (value : ℚ) : mathRound value = roundHalfUp value := rfl

theorem vat_mono {rate : ℚ} (positive : 0 ≤ rate) {small large : Int} (grows : small ≤ large) :
    (vatInclusiveBreakdown small rate).vatSatang ≤ (vatInclusiveBreakdown large rate).vatSatang := by
  have cast : (small : ℚ) ≤ (large : ℚ) := by exact_mod_cast grows
  have share : (small : ℚ) * rate / (1 + rate) ≤ (large : ℚ) * rate / (1 + rate) := by gcongr
  simp only [vatInclusiveBreakdown, mathRound_eq]
  exact roundHalfUp_mono share

theorem vat_nonneg {rate : ℚ} (positive : 0 ≤ rate) {total : Int} (amount : 0 ≤ total) :
    0 ≤ (vatInclusiveBreakdown total rate).vatSatang := by
  have cast : (0 : ℚ) ≤ (total : ℚ) := by exact_mod_cast amount
  simp only [vatInclusiveBreakdown, mathRound_eq]
  refine le_roundHalfUp ?_
  push_cast
  positivity

theorem vat_le_total {rate : ℚ} (positive : 0 ≤ rate) {total : Int} (amount : 0 ≤ total) :
    (vatInclusiveBreakdown total rate).vatSatang ≤ total := by
  have cast : (0 : ℚ) ≤ (total : ℚ) := by exact_mod_cast amount
  simp only [vatInclusiveBreakdown, mathRound_eq]
  refine roundHalfUp_le ?_
  rw [div_le_iff₀ (by linarith)]
  linarith

theorem net_add_vat (total : Int) (rate : ℚ) :
    (vatInclusiveBreakdown total rate).netSatang + (vatInclusiveBreakdown total rate).vatSatang =
      total :=
  sub_add_cancel _ _

/-! ## One order -/

/-- The amounts of an order add up, and none is below nothing or above what it is part of. -/
structure Balanced (totals : Pricing.OrderTotals) (serviceFeeRate : ℚ) : Prop where
  amounts : 0 ≤ totals.subtotalSatang ∧ 0 ≤ totals.discountSatang ∧
    0 ≤ totals.serviceFeeSatang ∧ 0 ≤ totals.totalSatang ∧ 0 ≤ totals.netSatang ∧
    0 ≤ totals.vatSatang
  discount_le : totals.discountSatang ≤ totals.subtotalSatang
  adds_up : totals.subtotalSatang - totals.discountSatang + totals.serviceFeeSatang =
    totals.totalSatang
  fee_le : (totals.serviceFeeSatang : ℚ) ≤
    ((totals.subtotalSatang - totals.discountSatang : Int) : ℚ) * serviceFeeRate
  vat_le : totals.vatSatang ≤ totals.totalSatang
  restated : totals.netSatang + totals.vatSatang = totals.totalSatang

theorem clamp_nonneg (value ceiling : Int) : 0 ≤ Pricing.clamp value ceiling :=
  le_max_left _ _

theorem clamp_le {value ceiling : Int} (room : 0 ≤ ceiling) :
    Pricing.clamp value ceiling ≤ ceiling :=
  max_le room (min_le_right _ _)

theorem priceOrder_balanced (input : Pricing.PricingInput) (charged : 0 ≤ input.serviceFeeRate)
    (taxed : 0 ≤ input.vatRate) :
    Balanced (Pricing.priceOrder input) input.serviceFeeRate := by
  have subtotal : 0 ≤ max 0 input.subtotalSatang := le_max_left _ _
  have discount := clamp_nonneg input.discountSatang (max 0 input.subtotalSatang)
  have room : Pricing.clamp input.discountSatang (max 0 input.subtotalSatang) ≤
      max 0 input.subtotalSatang := clamp_le subtotal
  have fee := Pricing.floor_fee_nonneg (Int.sub_nonneg_of_le room) charged
  have total : 0 ≤ (Pricing.priceOrder input).totalSatang := by
    simp only [Pricing.priceOrder]
    omega
  have vatLe := vat_le_total taxed total
  have restated := net_add_vat (Pricing.priceOrder input).totalSatang input.vatRate
  refine ⟨⟨subtotal, discount, fee, total, ?_, vat_nonneg taxed total⟩, room, rfl,
    Int.floor_le _, vatLe, restated⟩
  change 0 ≤ (vatInclusiveBreakdown (Pricing.priceOrder input).totalSatang input.vatRate).netSatang
  omega

/-! ## Growing amounts -/

/-- What is left of an amount and the fee on it grow with the amount. -/
theorem charged_mono {rate : ℚ} (charged : 0 ≤ rate) {small large : Int} (grows : small ≤ large) :
    small + ⌊(small : ℚ) * rate⌋ ≤ large + ⌊(large : ℚ) * rate⌋ := by
  have cast : (small : ℚ) ≤ (large : ℚ) := by exact_mod_cast grows
  have fee : ⌊(small : ℚ) * rate⌋ ≤ ⌊(large : ℚ) * rate⌋ := Int.floor_mono (by gcongr)
  omega

theorem clamp_mono {small large ceiling : Int} (grows : small ≤ large) :
    Pricing.clamp small ceiling ≤ Pricing.clamp large ceiling :=
  max_le_max le_rfl (min_le_min grows le_rfl)

/-- A percentage of one satang more is at most one satang more. -/
theorem percent_step {value : Nat} (within : value ≤ PERCENT_MAX) {small large : Int}
    (grows : small ≤ large) :
    ⌊((large * value : Int) : ℚ) / PERCENT_DIVISOR⌋ ≤
      ⌊((small * value : Int) : ℚ) / PERCENT_DIVISOR⌋ + (large - small) := by
  have cast : (small : ℚ) ≤ (large : ℚ) := by exact_mod_cast grows
  have percent : (value : ℚ) ≤ 100 := by exact_mod_cast within
  have apart : ((large * value : Int) : ℚ) / PERCENT_DIVISOR ≤
      ((small * value : Int) : ℚ) / PERCENT_DIVISOR + ((large - small : Int) : ℚ) := by
    have hundred : (PERCENT_DIVISOR : ℚ) = 100 := rfl
    rw [hundred]
    push_cast
    nlinarith
  rw [← Int.floor_add_intCast]
  exact Int.floor_mono apart

theorem percent_allowed {value : Nat} (allowed : assertValue .percent value = .ok ()) :
    value ≤ PERCENT_MAX := by
  by_contra beyond
  have out : ¬ (PERCENT_MIN ≤ value ∧ value ≤ PERCENT_MAX) := fun range => beyond range.2
  simp only [assertValue, if_neg out] at allowed
  cases allowed

/-- What is left after a code's discount grows with the subtotal. -/
theorem quoted_rest_mono {code : DiscountCode}
    (allowed : assertValue code.type code.value = .ok ()) (vatRate : ℚ) {small large : Int}
    (grows : small ≤ large) (nonneg : 0 ≤ small) :
    small - (Pricing.quoteDiscount code small vatRate).discountSatang ≤
      large - (Pricing.quoteDiscount code large vatRate).discountSatang := by
  unfold Pricing.quoteDiscount
  cases kind : code.type with
  | fixed =>
    simp only
    omega
  | percent =>
    rw [kind] at allowed
    have step := percent_step (percent_allowed allowed) grows
    simp only
    omega

/-! ## Orders with a code -/

/-- The code's discount is a whole amount within the order. -/
theorem quoted_within (code : DiscountCode) (vatRate : ℚ) {subtotal : Int} (amount : 0 ≤ subtotal) :
    0 ≤ (Pricing.quoteDiscount code subtotal vatRate).discountSatang ∧
      (Pricing.quoteDiscount code subtotal vatRate).discountSatang ≤ subtotal :=
  ⟨le_max_left _ _, max_le amount (min_le_right _ _)⟩

theorem discountOf_within (code : Option DiscountCode) (vatRate : ℚ) {subtotal : Int}
    (amount : 0 ≤ subtotal) :
    0 ≤ Pricing.discountOf code subtotal vatRate ∧
      Pricing.discountOf code subtotal vatRate ≤ subtotal := by
  cases code with
  | none => exact ⟨le_rfl, amount⟩
  | some row => exact quoted_within row vatRate amount

theorem clamp_within {value ceiling : Int} (nonneg : 0 ≤ value) (below : value ≤ ceiling) :
    Pricing.clamp value ceiling = value := by
  unfold Pricing.clamp
  rw [min_eq_left below, max_eq_right nonneg]

/-- An order of this subtotal with the discount its code is quoted. -/
def quotedOrder (code : Option DiscountCode) (serviceFeeRate vatRate : ℚ) (subtotal : Int) :
    Pricing.OrderTotals :=
  Pricing.priceOrder
    ⟨subtotal, Pricing.discountOf code subtotal vatRate, serviceFeeRate, vatRate⟩

theorem quotedOrder_discount (code : Option DiscountCode) (serviceFeeRate vatRate : ℚ)
    {subtotal : Int} (amount : 0 ≤ subtotal) :
    (quotedOrder code serviceFeeRate vatRate subtotal).discountSatang =
      Pricing.discountOf code subtotal vatRate := by
  have within := discountOf_within code vatRate amount
  simp only [quotedOrder, Pricing.priceOrder, max_eq_right amount]
  exact clamp_within within.1 within.2

theorem quotedOrder_total (code : Option DiscountCode) (serviceFeeRate vatRate : ℚ)
    {subtotal : Int} (amount : 0 ≤ subtotal) :
    (quotedOrder code serviceFeeRate vatRate subtotal).totalSatang =
      subtotal - Pricing.discountOf code subtotal vatRate +
        ⌊((subtotal - Pricing.discountOf code subtotal vatRate : Int) : ℚ) * serviceFeeRate⌋ := by
  have within := discountOf_within code vatRate amount
  simp only [quotedOrder, Pricing.priceOrder, max_eq_right amount, clamp_within within.1 within.2]

/-- What a workspace's rates and one code, or none, make of every order. -/
structure PricesFairly (code : Option DiscountCode) (serviceFeeRate vatRate : ℚ) : Prop where
  /-- Whatever is quoted, the order's amounts balance and its subtotal is what was asked. -/
  balanced : ∀ subtotal discount : Int, 0 ≤ subtotal →
    let totals := Pricing.priceOrder ⟨subtotal, discount, serviceFeeRate, vatRate⟩
    Balanced totals serviceFeeRate ∧ totals.subtotalSatang = subtotal
  /-- The quote balances by itself. -/
  quoted : ∀ row ∈ code, ∀ subtotal : Int, 0 ≤ subtotal →
    let quote := Pricing.quoteDiscount row subtotal vatRate
    0 ≤ quote.discountSatang ∧ quote.discountSatang + quote.totalSatang = subtotal ∧
      0 ≤ quote.totalSatang ∧ 0 ≤ quote.netSatang ∧ 0 ≤ quote.vatSatang ∧
      quote.netSatang + quote.vatSatang = quote.totalSatang
  vat_grows : ∀ small large : Int, 0 ≤ small → small ≤ large →
    (vatInclusiveBreakdown small vatRate).vatSatang ≤ (vatInclusiveBreakdown large vatRate).vatSatang
  /-- The discount the code was quoted is the discount the order takes. -/
  charges_quote : ∀ subtotal : Int, 0 ≤ subtotal →
    (quotedOrder code serviceFeeRate vatRate subtotal).discountSatang =
      Pricing.discountOf code subtotal vatRate
  total_grows : ∀ small large : Int, 0 ≤ small → small ≤ large →
    (quotedOrder code serviceFeeRate vatRate small).totalSatang ≤
      (quotedOrder code serviceFeeRate vatRate large).totalSatang
  total_falls : ∀ subtotal less more : Int, 0 ≤ subtotal → less ≤ more →
    (Pricing.priceOrder ⟨subtotal, more, serviceFeeRate, vatRate⟩).totalSatang ≤
      (Pricing.priceOrder ⟨subtotal, less, serviceFeeRate, vatRate⟩).totalSatang

/-- At rates from nothing up to one and with a code that may be written, every order's amounts
add up and follow its subtotal and its discount. -/
theorem pricing_balances (code : Option DiscountCode) (serviceFeeRate vatRate : ℚ)
    (allowed : ∀ row ∈ code, assertValue row.type row.value = .ok ())
    (charged : 0 ≤ serviceFeeRate ∧ serviceFeeRate < 1) (taxed : 0 ≤ vatRate ∧ vatRate < 1) :
    PricesFairly code serviceFeeRate vatRate where
  balanced := by
    intro subtotal discount amount
    exact ⟨priceOrder_balanced _ charged.1 taxed.1, max_eq_right amount⟩
  quoted := by
    intro row _ subtotal amount
    have within := quoted_within row vatRate amount
    have rest : 0 ≤ (Pricing.quoteDiscount row subtotal vatRate).totalSatang := by
      change 0 ≤ subtotal - _
      omega
    have vat := vat_nonneg taxed.1 rest
    have vatLe := vat_le_total taxed.1 rest
    have restated := net_add_vat (Pricing.quoteDiscount row subtotal vatRate).totalSatang vatRate
    have net : 0 ≤ (vatInclusiveBreakdown
        (Pricing.quoteDiscount row subtotal vatRate).totalSatang vatRate).netSatang := by
      omega
    exact ⟨within.1, add_sub_cancel _ _, rest, net, vat, restated⟩
  vat_grows small large _ grows := vat_mono taxed.1 grows
  charges_quote subtotal amount := quotedOrder_discount code serviceFeeRate vatRate amount
  total_grows := by
    intro small large amount grows
    rw [quotedOrder_total _ _ _ amount, quotedOrder_total _ _ _ (amount.trans grows)]
    apply charged_mono charged.1
    cases code with
    | none => simpa only [Pricing.discountOf, Option.elim_none, sub_zero] using grows
    | some row => exact quoted_rest_mono (allowed row rfl) vatRate grows amount
  total_falls := by
    intro subtotal less more _ grows
    have taken : Pricing.clamp less (max 0 subtotal) ≤ Pricing.clamp more (max 0 subtotal) :=
      clamp_mono grows
    have rest : max 0 subtotal - Pricing.clamp more (max 0 subtotal) ≤
        max 0 subtotal - Pricing.clamp less (max 0 subtotal) := by
      omega
    exact charged_mono charged.1 rest

/-- A third off 99.99 at 5% and 7%. -/
theorem pricing_balances_third :
    PricesFairly
      (some { id := 1, type := .percent, value := 33, status := .active, used := 0
              redemptionLimit := 0 }) (5 / 100) (7 / 100) :=
  pricing_balances _ _ _ (by intro row member; cases member; decide)
    ⟨by norm_num, by norm_num⟩ ⟨by norm_num, by norm_num⟩

end EventaApi.Guarantees
