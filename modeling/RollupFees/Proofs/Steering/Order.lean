import RollupFees.Proofs.Steering.Ratio

/-!
# The price ratio keeps the order

A dearer native token, a cheaper secondary one and a larger multiplier all make for a larger price
ratio. The figures of a price ratio are rounded four times on the way, each time to as many places
as the size of the result leaves, so that a larger figure is often held less precisely than a
smaller one. The order survives, because every stage keeps it: rounding to a coarser grid goes above
all that the finer grid holds, and what is cut off at the end is cut from both.

## Main results

* `priceRatioTarget_mono` : the target and the market ratio keep the order of what they are made of
-/

namespace RollupFees

open Decimal

/-- **The price ratio keeps the order.** Where the native price does not fall, the secondary price
does not rise and the multiplier does not fall, neither the target nor the market ratio falls. -/
theorem priceRatioTarget_mono {native native' secondary secondary' : Decimal}
    {decimals multiplier multiplier' : ℕ} {target target' market market' : Amount}
    (hnative : 0 ≤ native.toRat) (hrise : native.toRat ≤ native'.toRat)
    (hpositive : 0 < secondary'.toRat) (hfall : secondary'.toRat ≤ secondary.toRat)
    (hmultiplier : multiplier ≤ multiplier')
    (h : priceRatioTarget (some native) (some secondary) decimals multiplier =
      .ok (target, market))
    (h' : priceRatioTarget (some native') (some secondary') decimals multiplier' =
      .ok (target', market')) :
    target ≤ target' ∧ market ≤ market' := by
  have hdivisor : 0 < secondary.toRat := hpositive.trans_le hfall
  obtain ⟨-, ratio, scaled, goal, hratio, -, hmarket, hscaled, hgoal, htarget⟩ :=
    exists_roundings hnative hdivisor h
  obtain ⟨-, ratio', scaled', goal', hratio', -, hmarket', hscaled', hgoal', htarget'⟩ :=
    exists_roundings (hnative.trans hrise) hpositive h'
  have hquotient : native.toRat / secondary.toRat ≤ native'.toRat / secondary'.toRat :=
    div_le_div₀ (hnative.trans hrise) hrise hpositive hfall
  have hratio_le : ratio ≤ ratio' := hratio.mono hratio' (by positivity) hquotient
  have hratio_nonneg : 0 ≤ ratio := (hratio.isDecimal (by positivity)).nonneg
  have hmarket_le : ratio * 10 ^ decimals ≤ ratio' * 10 ^ decimals := by gcongr
  have hproduct : ratio * 10 ^ decimals * multiplier ≤ ratio' * 10 ^ decimals * multiplier' := by
    gcongr
    exact mul_nonneg (hratio_nonneg.trans hratio_le) (by positivity)
  have hscaled_le : scaled ≤ scaled' := hscaled.mono hscaled' (by positivity) hproduct
  have hscaled_nonneg : 0 ≤ scaled := (hscaled.isDecimal (by positivity)).nonneg
  have hgoal_le : goal ≤ goal' := hgoal.mono hgoal' (by positivity) (by gcongr)
  constructor
  · have hfloor := Int.floor_le_floor hgoal_le
    rw [Amount.le_iff]
    omega
  · have hfloor := Int.floor_le_floor hmarket_le
    rw [Amount.le_iff]
    omega

/-- A quotient of prices that is held at 28 places, and a larger one that is held at 27. -/
theorem priceRatioTarget_coarser :
    priceRatioTarget (some (ofCents 2350)) (some (ofCents 300)) 6 90 =
      .ok (Amount.clamp 7050000, Amount.clamp 7833333) ∧
    priceRatioTarget (some (ofCents 2450)) (some (ofCents 299)) 6 95 =
      .ok (Amount.clamp 7784280, Amount.clamp 8193979) ∧
    Amount.clamp 7050000 ≤ Amount.clamp 7784280 ∧
      Amount.clamp 7833333 ≤ Amount.clamp 8193979 := by
  have hfine : priceRatioTarget (some (ofCents 2350)) (some (ofCents 300)) 6 90 =
      .ok (Amount.clamp 7050000, Amount.clamp 7833333) := by decide +kernel
  have hcoarse : priceRatioTarget (some (ofCents 2450)) (some (ofCents 299)) 6 95 =
      .ok (Amount.clamp 7784280, Amount.clamp 8193979) := by decide +kernel
  refine ⟨hfine, hcoarse, priceRatioTarget_mono ?_ ?_ ?_ ?_ (by decide) hfine hcoarse⟩ <;>
    simp (disch := decide) only [toRat_ofCents] <;> norm_num

end RollupFees
