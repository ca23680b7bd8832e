import RollupFees.Proofs.Decimal.Product
import RollupFees.Proofs.Pricing.Cents

/-!
# The price ratio and its exact value

The market ratio is the quotient of two prices in fixed point, cut to an integer, and the target is
that ratio in percent. Both are worked out with decimals: a quotient, a product with a power of ten,
a product with the multiplier, a quotient by a hundred. The quotient of the prices is rounded, and
what is lost there is multiplied afterwards.

The market ratio stands that, since the power of ten adds no rounding of its own and rounding does
not cross an integer from above. The target does not: where its exact value is an integer, what is
cut off is the integer itself. A third, times three hundred percent, is one less than it should be.

## Main definitions

* `exactMarket`, `exactTarget` : the two values in exact arithmetic

## Main results

* `exists_roundings` : the figures of a price ratio as exact values, rounded on the way
* `priceRatioTarget_near_exact` : how far the figures are from the exact values
-/

namespace RollupFees

/-- The quotient of two prices in fixed point. -/
def exactMarket (native secondary : Decimal) (decimals : ℕ) : ℚ :=
  native.toRat / secondary.toRat * 10 ^ decimals

/-- The quotient of two prices in fixed point, times a multiplier in percent. -/
def exactTarget (native secondary : Decimal) (decimals multiplier : ℕ) : ℚ :=
  exactMarket native secondary decimals * multiplier / 100

/-! ### What is cut off -/

/-- What is closer to a fraction than one over its denominator is cut to the same integer, or to one
less where the fraction is that integer and is not reached. -/
theorem floor_eq_or_of_near {n d : ℕ} (hd : 0 < d) {w : ℚ} (hw : |w - n / d| < 1 / d) :
    ⌊w⌋ = ⌊(n : ℚ) / d⌋ ∨
      (⌊w⌋ + 1 = ⌊(n : ℚ) / d⌋ ∧ w < (n : ℚ) / d ∧ (n : ℚ) / d = ⌊(n : ℚ) / d⌋) := by
  have hd' : (0 : ℚ) < d := by exact_mod_cast hd
  have hfloor : ⌊(n : ℚ) / d⌋ = (n / d : ℕ) := Rat.floor_natCast_div_natCast n d
  have hparts : (n : ℚ) / d = (n / d : ℕ) + (n % d : ℕ) * (1 / d) := by
    have hsum : (d : ℚ) * (n / d : ℕ) + (n % d : ℕ) = n := by exact_mod_cast Nat.div_add_mod n d
    rw [div_eq_iff hd'.ne', add_mul, mul_assoc, one_div_mul_cancel hd'.ne', mul_one, mul_comm]
    exact hsum.symm
  have hlast : ((n % d : ℕ) : ℚ) + 1 ≤ d := by exact_mod_cast Nat.mod_lt n hd
  have hunit : (0 : ℚ) < 1 / d := by positivity
  have hone : (1 : ℚ) / d ≤ 1 := (div_le_one hd').2 (by exact_mod_cast hd)
  have hupper : ((n % d : ℕ) : ℚ) * (1 / d) + 1 / d ≤ 1 := by
    calc ((n % d : ℕ) : ℚ) * (1 / d) + 1 / d = (((n % d : ℕ) : ℚ) + 1) * (1 / d) := by ring
      _ ≤ d * (1 / d) := by gcongr
      _ = 1 := mul_one_div_cancel hd'.ne'
  obtain ⟨hlow, hhigh⟩ := abs_lt.1 hw
  rw [hfloor]
  rcases Nat.eq_zero_or_pos (n % d) with hzero | hpos
  · rw [hzero, Nat.cast_zero, zero_mul, add_zero] at hparts
    rw [hparts] at hlow hhigh ⊢
    rcases le_or_gt ((n / d : ℕ) : ℚ) w with hle | hlt
    · left
      rw [Int.floor_eq_iff, Int.cast_natCast]
      constructor <;> linarith
    · refine .inr ⟨?_, hlt, (Int.cast_natCast _).symm⟩
      rw [← eq_sub_iff_add_eq, Int.floor_eq_iff, Int.cast_sub, Int.cast_natCast, Int.cast_one]
      constructor <;> linarith
  · left
    have hrest : (1 : ℚ) / d ≤ (n % d : ℕ) * (1 / d) := by
      have : (1 : ℚ) ≤ (n % d : ℕ) := by exact_mod_cast hpos
      nlinarith
    rw [Int.floor_eq_iff, Int.cast_natCast]
    constructor <;> linarith

namespace Decimal

variable {x y z w : ℚ}

/-- A hundredth of a decimal is cut to the same integer when it is rounded: it keeps all its digits,
or is less than one. -/
theorem RoundsTo.floor_div_hundred (h : RoundsTo (z / 100) w) (hz : IsDecimal z) :
    ⌊w⌋ = ⌊z / 100⌋ := by
  obtain ⟨c, hc, n, hn, rfl⟩ := hz
  have hplaces : (c : ℚ) / 10 ^ n / 100 = c / 10 ^ (n + 2) := by
    rw [div_div, pow_add]
    norm_num
  rw [hplaces] at h ⊢
  by_cases hfew : n + 2 ≤ maxScale
  · rw [h.eq_of_isDecimal (by positivity) ⟨c, hc, n + 2, hfew, rfl⟩]
  · have hsmall : (c : ℚ) / 10 ^ (n + 2) ≤ 4 / 5 := by
      have hpow : (10 : ℚ) ^ 29 ≤ 10 ^ (n + 2) :=
        pow_le_pow_right₀ (by norm_num) (by rw [maxScale] at hfew; omega)
      have hcoefficient : (c : ℚ) ≤ maxCoefficient := by exact_mod_cast hc
      rw [div_le_iff₀ (by positivity)]
      calc (c : ℚ) ≤ maxCoefficient := hcoefficient
        _ ≤ 4 / 5 * 10 ^ 29 := by norm_num [maxCoefficient]
        _ ≤ 4 / 5 * 10 ^ (n + 2) := by gcongr
    have hmove := h.abs_sub_le.trans
      (max_le (c := (1 : ℚ) / 10) (by norm_num [maxScale]) (by norm_num [maxCoefficient]; linarith))
    have hupper := (abs_le.1 hmove).2
    have hnonneg := (h.isDecimal (by positivity)).nonneg
    rw [Int.floor_eq_zero_iff.2 ⟨hnonneg, by linarith⟩,
      Int.floor_eq_zero_iff.2 ⟨by positivity, by linarith⟩]

/-- What a decimal is cut to. -/
theorem toNat_of_toAmount {d : Decimal} {v : Amount} (h : d.toAmount = .ok v) :
    (v.toNat : ℤ) = ⌊d.toRat⌋ := by
  unfold toAmount at h
  split at h
  · cases h
  · next hsign =>
    have hfloor : 0 ≤ d.floor := by
      rw [d.floor_eq]
      exact Int.floor_nonneg.2 (toRat_nonneg (by simpa using hsign))
    split at h
    · next v' hv =>
      obtain rfl := Except.ok.inj h
      rw [Amount.ofNat?_eq_some_iff.1 hv, Int.toNat_of_nonneg hfloor, d.floor_eq]
    · cases h

end Decimal

open Decimal

/-! ### The figures of a price ratio -/

variable {native secondary : Decimal} {decimals multiplier : ℕ} {target market : Amount}

/-- The calculation of a price ratio in its steps. -/
theorem steps_of_priceRatioTarget
    (h : priceRatioTarget (some native) (some secondary) decimals multiplier =
      .ok (target, market)) :
    ∃ scale ratio product factor hundred scaled goal, ratioScale? decimals = some scale ∧
      native.div? secondary = some ratio ∧ ratio.mul? scale = some product ∧
      ofInt? multiplier = some factor ∧ ofInt? 100 = some hundred ∧
      product.mul? factor = some scaled ∧ scaled.div? hundred = some goal ∧
      goal.toAmount = .ok target ∧ product.toAmount = .ok market := by
  simp only [priceRatioTarget] at h
  split at h
  · cases h
  · split at h
    · cases h
    · next hfigures =>
      simp only [Option.bind_eq_bind, Option.bind_eq_some_iff, Option.some.injEq,
        Prod.mk.injEq] at hfigures
      obtain ⟨scale, hscale, ratio, hratio, product, hproduct, factor, hfactor, hundred, hhundred,
        scaled, hscaled, goal, hgoal, rfl, rfl⟩ := hfigures
      split at h
      · next t k ht hk =>
        obtain ⟨rfl, rfl⟩ := Prod.mk.inj (Except.ok.inj h)
        exact ⟨scale, ratio, product, factor, hundred, scaled, goal, hscale, hratio, hproduct,
          hfactor, hhundred, hscaled, hgoal, ht, hk⟩
      · cases h

theorem toRat_of_ratioScale? {scale : Decimal} (h : ratioScale? decimals = some scale) :
    scale.toRat = 10 ^ decimals ∧ decimals ≤ maxScale := by
  unfold ratioScale? at h
  split at h
  · have hpow := toRat_ofInt? h
    push_cast at hpow
    refine ⟨hpow, ?_⟩
    by_contra hmany
    -- the power itself is too large for a coefficient
    have hfits : (10 ^ decimals : ℕ) ≤ maxCoefficient := by
      have := scale.natAbs_le
      rwa [(eq_of_mk? h).1, Int.natAbs_natCast] at this
    have hlarge : 10 ^ (maxScale + 1) ≤ 10 ^ decimals :=
      Nat.pow_le_pow_right (by decide) (by omega)
    have : maxCoefficient < 10 ^ (maxScale + 1) := by decide
    omega
  · cases h

/-- **The figures of a price ratio are exact values, rounded on the way.** The quotient of the
prices is rounded; moving its point adds no rounding, so that the market ratio is cut from that
quotient. The product with the multiplier is rounded again, and so is the hundredth of it. -/
theorem exists_roundings (hnative : 0 ≤ native.toRat) (hsecondary : 0 < secondary.toRat)
    (h : priceRatioTarget (some native) (some secondary) decimals multiplier =
      .ok (target, market)) :
    decimals ≤ maxScale ∧ ∃ ratio scaled goal, RoundsTo (native.toRat / secondary.toRat) ratio ∧
      ratio * 10 ^ decimals ≤ maxCoefficient ∧ (market.toNat : ℤ) = ⌊ratio * 10 ^ decimals⌋ ∧
      RoundsTo (ratio * 10 ^ decimals * multiplier) scaled ∧ RoundsTo (scaled / 100) goal ∧
      (target.toNat : ℤ) = ⌊goal⌋ := by
  obtain ⟨scale, ratio, product, factor, hundred, scaled, goal, hscale, hratio, hproduct, hfactor,
    hhundred, hscaled, hgoal, htarget, hmarket⟩ := steps_of_priceRatioTarget h
  obtain ⟨hpow, hdecimals⟩ := toRat_of_ratioScale? hscale
  have hround := roundsTo_div? hnative hsecondary hratio
  have hdecimal := hround.isDecimal (by positivity)
  have hmoved := roundsTo_mul? hdecimal.nonneg (hpow ▸ by positivity) hproduct
  rw [hpow] at hmoved
  have hexact := hmoved.eq_mul_pow hdecimal
  have hnonneg : 0 ≤ product.toRat := by
    rw [hexact]
    exact mul_nonneg hdecimal.nonneg (by positivity)
  have hmultiplier := toRat_ofInt? hfactor
  have hhundred' : hundred.toRat = (100 : ℕ) := toRat_ofInt? (k := 100) hhundred
  have htimes := roundsTo_mul? hnonneg (hmultiplier ▸ Nat.cast_nonneg _) hscaled
  have htimes_nonneg :=
    (htimes.isDecimal (mul_nonneg hnonneg (hmultiplier ▸ Nat.cast_nonneg _))).nonneg
  have hpercent := roundsTo_div? htimes_nonneg (by rw [hhundred']; norm_num) hgoal
  rw [hmultiplier, hexact] at htimes
  rw [hhundred'] at hpercent
  refine ⟨hdecimals, ratio.toRat, scaled.toRat, goal.toRat, hround, ?_, ?_, htimes, ?_, ?_⟩
  · rw [← hexact]
    exact (isDecimal_toRat (isNegative_eq_false hnonneg)).le_maxCoefficient
  · rw [← hexact, toNat_of_toAmount hmarket]
  · exact_mod_cast hpercent
  · exact toNat_of_toAmount htarget

/-! ### The error of the figures -/

section Error

variable {a b : ℕ} {ratio scaled goal : ℚ}

/-- What a quotient loses in rounding, and what a factor makes of it, in units of one over the
divisor. -/
theorem Decimal.RoundsTo.abs_sub_mul_le {u v y k e : ℚ} (h : RoundsTo (u / v) y) (hv : 0 < v)
    (hk : 0 ≤ k) (hplaces : v * k ≤ e * (2 * 10 ^ maxScale))
    (hdigits : 5 * (u * k) ≤ e * maxCoefficient) :
    |y - u / v| * k ≤ e / v := by
  have hmax : (0 : ℚ) < maxCoefficient := by norm_num [maxCoefficient]
  refine (mul_le_mul_of_nonneg_right h.abs_sub_le hk).trans ?_
  rw [max_mul_of_nonneg _ _ hk, max_le_iff, le_div_iff₀ hv, le_div_iff₀ hv]
  constructor
  · calc 1 / (2 * 10 ^ maxScale) * k * v = v * k / (2 * 10 ^ maxScale) := by ring
      _ ≤ e := (div_le_iff₀ (by positivity)).2 hplaces
  · calc 5 * (u / v) / maxCoefficient * k * v = 5 * (u * k) / maxCoefficient := by field_simp
      _ ≤ e := (div_le_iff₀ hmax).2 hdigits

/-- What the market ratio is cut to is the exact integer, or the next one. -/
theorem Decimal.RoundsTo.floor_mul_pow (h : RoundsTo (a / b) ratio)
    (hdecimals : decimals ≤ maxScale) (hfits : ratio * 10 ^ decimals ≤ maxCoefficient) :
    ⌊(a : ℚ) / b * 10 ^ decimals⌋ ≤ ⌊ratio * 10 ^ decimals⌋ ∧
      ⌊ratio * 10 ^ decimals⌋ ≤ ⌊(a : ℚ) / b * 10 ^ decimals⌋ + 1 := by
  constructor
  · exact Int.le_floor.2 (h.le_mul_pow hdecimals hfits (Int.floor_le _))
  · have hnext : (a : ℚ) / b * 10 ^ decimals ≤ (⌊(a : ℚ) / b * 10 ^ decimals⌋ + 1 : ℤ) := by
      push_cast
      exact (Int.lt_floor_add_one _).le
    have hupper := h.mul_pow_le hdecimals hfits hnext
    exact_mod_cast (Int.floor_le _).trans hupper

/-- As long as the prices are not too large, the market ratio is cut to the exact integer. -/
theorem Decimal.RoundsTo.floor_mul_pow_eq (h : RoundsTo (a / b) ratio) (hb : 0 < b)
    (hdecimals : decimals ≤ maxScale) (hfits : ratio * 10 ^ decimals ≤ maxCoefficient)
    (hdividend : (a : ℚ) * 10 ^ decimals ≤ 10 ^ 28) (hdivisor : (b : ℚ) * 10 ^ decimals ≤ 10 ^ 28) :
    ⌊ratio * 10 ^ decimals⌋ = ⌊(a : ℚ) / b * 10 ^ decimals⌋ := by
  have hb' : (0 : ℚ) < b := by exact_mod_cast hb
  have herror : |ratio - a / b| * 10 ^ decimals ≤ 7 / 10 / b := by
    refine h.abs_sub_mul_le hb' (by positivity) ?_ ?_
    · norm_num [maxScale]
      linarith
    · norm_num [maxCoefficient]
      linarith
  have hsame : ((a * 10 ^ decimals : ℕ) : ℚ) / b = a / b * 10 ^ decimals := by
    push_cast
    ring
  have hnear : |ratio * 10 ^ decimals - (a * 10 ^ decimals : ℕ) / b| < 1 / b := by
    rw [hsame, ← sub_mul, abs_mul, abs_of_pos (by positivity : (0 : ℚ) < 10 ^ decimals)]
    exact herror.trans_lt (by gcongr; norm_num)
  have hreached := (h.floor_mul_pow hdecimals hfits).1
  rcases floor_eq_or_of_near hb hnear with heq | ⟨hless, -⟩
  · rw [heq, hsame]
  · rw [hsame] at hless
    omega

/-- The product with the multiplier is off by what the ratio has lost, times the multiplier, and by
what is lost once more. -/
theorem abs_scaled_sub_le (hb : 0 < b) (hratio : RoundsTo (a / b) ratio)
    (hscaled : RoundsTo (ratio * 10 ^ decimals * multiplier) scaled) (hmultiplier : 0 < multiplier)
    (hdividend : (a : ℚ) * (10 ^ decimals * multiplier) ≤ 5 * 10 ^ 27)
    (hdivisor : (b : ℚ) * (10 ^ decimals * multiplier) ≤ 5 * 10 ^ 27) :
    |scaled - a / b * 10 ^ decimals * multiplier| ≤ 2 / 3 / b := by
  have hb' : (0 : ℚ) < b := by exact_mod_cast hb
  have hfactor : (1 : ℚ) ≤ 10 ^ decimals * multiplier :=
    one_le_mul_of_one_le_of_one_le (one_le_pow₀ (by norm_num)) (by exact_mod_cast hmultiplier)
  have hmoved : |ratio - a / b| * (10 ^ decimals * multiplier) ≤ 1 / 3 / b := by
    refine hratio.abs_sub_mul_le hb' (by positivity) ?_ ?_
    · norm_num [maxScale]
      linarith
    · norm_num [maxCoefficient]
      linarith
  have hmoved' : |ratio * 10 ^ decimals * multiplier - a / b * 10 ^ decimals * multiplier| ≤
      1 / 3 / b := by
    rwa [mul_assoc, mul_assoc, ← sub_mul, abs_mul,
      abs_of_pos (by positivity : (0 : ℚ) < 10 ^ decimals * multiplier)]
  have hagain : |scaled - ratio * 10 ^ decimals * multiplier| ≤ 1 / 3 / b := by
    have hover : ratio * 10 ^ decimals * multiplier =
        b * (ratio * 10 ^ decimals * multiplier) / b := by field_simp
    have hproduct : b * (ratio * 10 ^ decimals * multiplier) ≤
        a * (10 ^ decimals * multiplier) + 1 / 3 := by
      have hupper := (abs_le.1 hmoved').2
      calc b * (ratio * 10 ^ decimals * multiplier)
          ≤ b * (a / b * 10 ^ decimals * multiplier + 1 / 3 / b) := by gcongr; linarith
        _ = a * (10 ^ decimals * multiplier) + 1 / 3 := by field_simp
    have hdivisor' : (b : ℚ) ≤ 5 * 10 ^ 27 := (le_mul_of_one_le_right hb'.le hfactor).trans hdivisor
    rw [hover] at hscaled ⊢
    rw [← mul_one |scaled - _|]
    refine hscaled.abs_sub_mul_le hb' zero_le_one ?_ ?_
    · norm_num [maxScale]
      linarith
    · norm_num [maxCoefficient]
      linarith
  calc |scaled - a / b * 10 ^ decimals * multiplier|
      ≤ |scaled - ratio * 10 ^ decimals * multiplier| +
        |ratio * 10 ^ decimals * multiplier - a / b * 10 ^ decimals * multiplier| :=
        abs_sub_le _ _ _
    _ ≤ 1 / 3 / b + 1 / 3 / b := add_le_add hagain hmoved'
    _ = 2 / 3 / b := by ring

/-- Where the quotient of the prices is a decimal, an exact target that is an integer is reached. -/
theorem floor_hundredth_of_isDecimal (hdecimal : IsDecimal ((a : ℚ) / b))
    (hratio : RoundsTo (a / b) ratio)
    (hscaled : RoundsTo (ratio * 10 ^ decimals * multiplier) scaled) {k : ℤ}
    (hk : (a : ℚ) / b * 10 ^ decimals * multiplier / 100 = k) :
    scaled / 100 = k := by
  have hnonneg : (0 : ℚ) ≤ a / b := by positivity
  rw [hratio.eq_of_isDecimal hnonneg hdecimal] at hscaled
  have hwhole : (a : ℚ) / b * 10 ^ decimals * multiplier = (k.toNat * 100 : ℕ) := by
    have hk_nonneg : 0 ≤ k := by
      have : (0 : ℚ) ≤ k := hk ▸ by positivity
      exact_mod_cast this
    have hk_cast : ((k.toNat : ℤ) : ℚ) = k := by rw [Int.toNat_of_nonneg hk_nonneg]
    rw [div_eq_iff (by norm_num), ← hk_cast] at hk
    rw [hk]
    push_cast
    rfl
  have hfits := hscaled.fitsAt (by positivity)
  rw [hwhole] at hfits
  have hexact := hscaled.eq_of_isDecimal (by positivity) (hwhole ▸ isDecimal_natCast hfits)
  rw [hexact, hk]

/-- As long as the prices are not too large, the target is cut to the exact integer, or to one less
where the exact target is that integer and the quotient of the prices is no decimal. -/
theorem floor_goal_eq_or (hb : 0 < b) (hratio : RoundsTo (a / b) ratio)
    (hscaled : RoundsTo (ratio * 10 ^ decimals * multiplier) scaled)
    (hgoal : RoundsTo (scaled / 100) goal)
    (hdividend : (a : ℚ) * (10 ^ decimals * multiplier) ≤ 5 * 10 ^ 27)
    (hdivisor : (b : ℚ) * (10 ^ decimals * multiplier) ≤ 5 * 10 ^ 27) :
    ⌊goal⌋ = ⌊(a : ℚ) / b * 10 ^ decimals * multiplier / 100⌋ ∨
      (⌊goal⌋ + 1 = ⌊(a : ℚ) / b * 10 ^ decimals * multiplier / 100⌋ ∧
        (a : ℚ) / b * 10 ^ decimals * multiplier / 100 =
          ⌊(a : ℚ) / b * 10 ^ decimals * multiplier / 100⌋ ∧ ¬ IsDecimal ((a : ℚ) / b)) := by
  have hratio_nonneg := (hratio.isDecimal (by positivity)).nonneg
  have hscaled_decimal := hscaled.isDecimal (by positivity)
  rw [hgoal.floor_div_hundred hscaled_decimal]
  rcases Nat.eq_zero_or_pos multiplier with rfl | hmultiplier
  · left
    rw [Nat.cast_zero, mul_zero] at hscaled
    rw [hscaled.eq_of_isDecimal le_rfl isDecimal_zero, Nat.cast_zero, mul_zero]
  have hsame : ((a * 10 ^ decimals * multiplier : ℕ) : ℚ) / (b * 100 : ℕ) =
      a / b * 10 ^ decimals * multiplier / 100 := by
    push_cast
    rw [← div_div]
    ring
  have hnear : |scaled / 100 - (a * 10 ^ decimals * multiplier : ℕ) / (b * 100 : ℕ)| <
      1 / (b * 100 : ℕ) := by
    have hb' : (0 : ℚ) < b := by exact_mod_cast hb
    rw [hsame, ← sub_div, abs_div, abs_of_pos (by norm_num : (0 : ℚ) < 100), Nat.cast_mul,
      ← div_div]
    refine div_lt_div_of_pos_right ?_ (by norm_num)
    calc |scaled - a / b * 10 ^ decimals * multiplier|
        ≤ 2 / 3 / b := abs_scaled_sub_le hb hratio hscaled hmultiplier hdividend hdivisor
      _ < 1 / b := by gcongr; norm_num
  have hcut := floor_eq_or_of_near (Nat.mul_pos hb (by norm_num)) hnear
  rw [hsame] at hcut
  rcases hcut with heq | ⟨hless, hbelow, hinteger⟩
  · exact .inl heq
  · refine .inr ⟨hless, hinteger, fun hdecimal => hbelow.ne ?_⟩
    rw [floor_hundredth_of_isDecimal hdecimal hratio hscaled hinteger, ← hinteger]

end Error

/-- **How far the figures of a price ratio are from the exact values.** The market ratio is the
integer part of the exact one, or one more, and it is the integer part itself unless a price has
more than 26 digits once its point is moved. The target then is the integer part of the exact one
too, with one exception: where the exact target is an integer, but the quotient of the prices has
more digits than a decimal, the target can be one less. -/
theorem priceRatioTarget_near_exact (hnative : native.IsCents) (hsecondary : secondary.IsCents)
    (hpositive : 0 < secondary.toRat)
    (h : priceRatioTarget (some native) (some secondary) decimals multiplier =
      .ok (target, market)) :
    (⌊exactMarket native secondary decimals⌋ ≤ market.toNat ∧
      market.toNat ≤ ⌊exactMarket native secondary decimals⌋ + 1) ∧
    (native.toRat * 10 ^ decimals ≤ 10 ^ 26 → secondary.toRat * 10 ^ decimals ≤ 10 ^ 26 →
      market.toNat = ⌊exactMarket native secondary decimals⌋) ∧
    (native.toRat * 10 ^ decimals * multiplier ≤ 5 * 10 ^ 25 →
      secondary.toRat * 10 ^ decimals * multiplier ≤ 5 * 10 ^ 25 →
      target.toNat = ⌊exactTarget native secondary decimals multiplier⌋ ∨
      (target.toNat + 1 = ⌊exactTarget native secondary decimals multiplier⌋ ∧
        exactTarget native secondary decimals multiplier =
          ⌊exactTarget native secondary decimals multiplier⌋ ∧
        ¬ IsDecimal (native.toRat / secondary.toRat))) := by
  obtain ⟨a, ha⟩ := hnative
  obtain ⟨b, hb⟩ := hsecondary
  have hb_pos : 0 < b := by
    rw [hb] at hpositive
    have := (div_pos_iff_of_pos_right (by norm_num : (0 : ℚ) < 100)).1 hpositive
    exact_mod_cast this
  have hquotient : native.toRat / secondary.toRat = a / b := by
    rw [ha, hb, div_div_div_cancel_right₀ (by norm_num)]
  obtain ⟨hdecimals, ratio, scaled, goal, hratio, hfits, hmarket, hscaled, hgoal, htarget⟩ :=
    exists_roundings (ha ▸ by positivity) hpositive h
  rw [hquotient] at hratio
  simp only [exactTarget, exactMarket, hquotient, hmarket, htarget]
  refine ⟨hratio.floor_mul_pow hdecimals hfits, fun hdividend hdivisor => ?_,
    fun hdividend hdivisor => ?_⟩
  · rw [ha] at hdividend
    rw [hb] at hdivisor
    exact hratio.floor_mul_pow_eq hb_pos hdecimals hfits (by linarith) (by linarith)
  · rw [ha] at hdividend
    rw [hb] at hdivisor
    exact floor_goal_eq_or hb_pos hratio hscaled hgoal (by linarith) (by linarith)

/-! ### A third -/

/-- A price of one. -/
def onePrice : Decimal := (mk? 100 2).getD 0

/-- A price of three. -/
def threePrice : Decimal := (mk? 300 2).getD 0

theorem toRat_onePrice : onePrice.toRat = 1 := by
  rw [toRat, show onePrice.coefficient = 100 from rfl, show onePrice.scale = 2 from rfl]
  norm_num

theorem toRat_threePrice : threePrice.toRat = 3 := by
  rw [toRat, show threePrice.coefficient = 300 from rfl, show threePrice.scale = 2 from rfl]
  norm_num

theorem onePrice_isCents : onePrice.IsCents := ⟨100, by norm_num [toRat_onePrice]⟩

theorem threePrice_isCents : threePrice.IsCents := ⟨300, by norm_num [toRat_threePrice]⟩

theorem threePrice_pos : 0 < threePrice.toRat := by norm_num [toRat_threePrice]

/-- A third in two places, and ninety percent of it. -/
theorem priceRatioTarget_third :
    priceRatioTarget (some onePrice) (some threePrice) 2 90 = .ok (29, 33) := by
  decide +kernel

theorem exactTarget_third : exactTarget onePrice threePrice 2 90 = 30 := by
  norm_num [exactTarget, exactMarket, toRat_onePrice, toRat_threePrice]

/-- The target of a third is one less than it should be, and a third is no decimal. -/
theorem third_near_exact :
    priceRatioTarget (some onePrice) (some threePrice) 2 90 = .ok (29, 33) ∧
      (33 : ℤ) = ⌊exactMarket onePrice threePrice 2⌋ ∧
      (29 : ℤ) + 1 = ⌊exactTarget onePrice threePrice 2 90⌋ ∧
      ¬ IsDecimal (onePrice.toRat / threePrice.toRat) := by
  obtain ⟨-, hmarket, htarget⟩ := priceRatioTarget_near_exact onePrice_isCents threePrice_isCents
    threePrice_pos priceRatioTarget_third
  refine ⟨priceRatioTarget_third,
    hmarket (by norm_num [toRat_onePrice]) (by norm_num [toRat_threePrice]), ?_⟩
  rcases htarget (by norm_num [toRat_onePrice]) (by norm_num [toRat_threePrice]) with
    hexact | ⟨hless, -, hdigits⟩
  · rw [exactTarget_third, Int.floor_ofNat] at hexact
    exact absurd hexact (by decide)
  · exact ⟨hless, hdigits⟩

/-- The target is not the integer part of the exact value. -/
theorem target_misses_integer : ¬ ∀ (native secondary : Decimal) (decimals multiplier : ℕ)
    (target market : Amount), native.IsCents → secondary.IsCents → 0 < secondary.toRat →
    decimals ≤ 18 → priceRatioTarget (some native) (some secondary) decimals multiplier =
      .ok (target, market) →
    market.toNat = ⌊exactMarket native secondary decimals⌋ ∧
      target.toNat = ⌊exactTarget native secondary decimals multiplier⌋ := by
  intro hexact
  have htarget := (hexact onePrice threePrice 2 90 29 33 onePrice_isCents threePrice_isCents
    threePrice_pos (by decide) priceRatioTarget_third).2
  rw [exactTarget_third, Int.floor_ofNat] at htarget
  exact absurd htarget (by decide)

end RollupFees
