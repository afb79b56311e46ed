import EventaApi.Library.Rounding
import EventaApi.Source.Confirm
import EventaApi.Source.TaxPeriods

/-!
# Pricing an order

`priceOrder` and `quoteDiscount` over whole satang and exact rates, as the checkout and the
promotions each compute them. The placing of an order takes its amounts as naturals and its
rates as functions; at the rates written out here the two agree.
-/
namespace EventaApi.Source.Pricing
open Library

/-- Everything needed to price one order; rates are fractions. -/
structure PricingInput where
  subtotalSatang : Int
  discountSatang : Int
  serviceFeeRate : ℚ
  vatRate : ℚ

/-- The order summary an attendee sees. -/
structure OrderTotals where
  subtotalSatang : Int
  discountSatang : Int
  serviceFeeSatang : Int
  totalSatang : Int
  netSatang : Int
  vatSatang : Int
  deriving DecidableEq, Repr

def clamp (value ceiling : Int) : Int := max 0 (min value ceiling)

/-- The fee is charged on the discounted amount and rounds down. -/
def priceOrder (input : PricingInput) : OrderTotals :=
  let subtotalSatang := max 0 input.subtotalSatang
  let discountSatang := clamp input.discountSatang subtotalSatang
  let discounted := subtotalSatang - discountSatang
  let serviceFeeSatang := ⌊(discounted : ℚ) * input.serviceFeeRate⌋
  let totalSatang := discounted + serviceFeeSatang
  let breakdown := vatInclusiveBreakdown totalSatang input.vatRate
  { subtotalSatang, discountSatang, serviceFeeSatang, totalSatang
    netSatang := breakdown.netSatang
    vatSatang := breakdown.vatSatang }

/-- What a code is worth, with VAT restated on the result. -/
structure DiscountQuote where
  discountSatang : Int
  totalSatang : Int
  netSatang : Int
  vatSatang : Int
  deriving DecidableEq, Repr

def quoteDiscount (code : DiscountCode) (subtotalSatang : Int) (vatRate : ℚ) : DiscountQuote :=
  let raw := match code.type with
    | .percent => ⌊((subtotalSatang * code.value : Int) : ℚ) / PERCENT_DIVISOR⌋
    | .fixed => (code.value : Int)
  let discountSatang := max 0 (min raw subtotalSatang)
  let totalSatang := subtotalSatang - discountSatang
  let breakdown := vatInclusiveBreakdown totalSatang vatRate
  { discountSatang, totalSatang
    netSatang := breakdown.netSatang
    vatSatang := breakdown.vatSatang }

/-- What is taken off with the code that was typed, or with none. -/
def discountOf (code : Option DiscountCode) (subtotalSatang : Int) (vatRate : ℚ) : Int :=
  code.elim 0 fun row => (quoteDiscount row subtotalSatang vatRate).discountSatang

/-! ## The amounts an order is placed with -/

/-- A workspace's rates, each as the amount it makes of an amount. -/
def orgRates (serviceFeeRate vatRate : ℚ) : OrgRates where
  serviceFeeOf discounted := ⌊(discounted : ℚ) * serviceFeeRate⌋.toNat
  vatOf total := (vatInclusiveBreakdown total vatRate).vatSatang.toNat

theorem quoteDiscount_placed (code : DiscountCode) (subtotalSatang : Satang) (vatRate : ℚ) :
    (quoteDiscount code subtotalSatang vatRate).discountSatang =
      (Source.quoteDiscount code subtotalSatang : Int) := by
  have floor : ⌊((subtotalSatang * code.value : Int) : ℚ) / PERCENT_DIVISOR⌋ =
      ((subtotalSatang * code.value / PERCENT_DIVISOR : Nat) : Int) := by
    have cast : ((subtotalSatang * code.value : Int) : ℚ) =
        ((subtotalSatang * code.value : Nat) : ℚ) := by push_cast; rfl
    rw [cast, Rat.floor_natCast_div_natCast]
    rfl
  unfold quoteDiscount Source.quoteDiscount
  cases code.type with
  | percent =>
    simp only [floor, ← Nat.cast_min]
    exact max_eq_right (Int.natCast_nonneg _)
  | fixed =>
    simp only [← Nat.cast_min]
    exact max_eq_right (Int.natCast_nonneg _)

theorem floor_fee_nonneg {discounted : Int} {rate : ℚ} (amount : 0 ≤ discounted)
    (charged : 0 ≤ rate) : 0 ≤ ⌊(discounted : ℚ) * rate⌋ := by
  have exact : 0 ≤ (discounted : ℚ) * rate :=
    mul_nonneg (by exact_mod_cast amount) charged
  exact Int.floor_nonneg.mpr exact

/-- The order is placed with the amounts the summary shows. -/
theorem priceOrder_placed {serviceFeeRate : ℚ} (charged : 0 ≤ serviceFeeRate) (vatRate : ℚ)
    (subtotalSatang discountSatang : Satang) :
    let placed := Source.priceOrder (orgRates serviceFeeRate vatRate) subtotalSatang discountSatang
    let shown := priceOrder { subtotalSatang, discountSatang, serviceFeeRate, vatRate }
    (placed.subtotalSatang : Int) = shown.subtotalSatang ∧
      (placed.discountSatang : Int) = shown.discountSatang ∧
      (placed.totalSatang : Int) = shown.totalSatang ∧
      placed.vatSatang = shown.vatSatang.toNat := by
  have discount : ((min discountSatang subtotalSatang : Nat) : Int) =
      clamp discountSatang (max 0 subtotalSatang) := by
    unfold clamp
    omega
  have discounted : ((subtotalSatang - min discountSatang subtotalSatang : Nat) : Int) =
      max 0 (subtotalSatang : Int) - clamp discountSatang (max 0 subtotalSatang) := by
    rw [← discount]
    omega
  have total : ((subtotalSatang - min discountSatang subtotalSatang +
        (orgRates serviceFeeRate vatRate).serviceFeeOf
          (subtotalSatang - min discountSatang subtotalSatang) : Nat) : Int) =
      (priceOrder { subtotalSatang, discountSatang, serviceFeeRate, vatRate }).totalSatang := by
    have fee := floor_fee_nonneg (Int.natCast_nonneg
      (subtotalSatang - min discountSatang subtotalSatang)) charged
    have exact := Int.toNat_of_nonneg fee
    rw [Int.cast_natCast] at exact
    simp only [orgRates, priceOrder, ← discounted, Int.natCast_add, exact, Int.cast_natCast]
  refine ⟨?_, discount, total, ?_⟩
  · simp only [Source.priceOrder, priceOrder]
    omega
  · simp only [Source.priceOrder]
    change (vatInclusiveBreakdown _ vatRate).vatSatang.toNat = _
    rw [total]
    rfl

end EventaApi.Source.Pricing
