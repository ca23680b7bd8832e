import RollupFees.Price
import RollupFees.Proofs.Decimal.Quotient

/-!
# The price of an answer

An answer of a feed is a number of units over a power of ten. Its price is that number in dollars,
cut to cents, and nothing is rounded on the way: the units are a coefficient, so that their quotient
by a power of ten is a decimal, and what does not fit has no price. Digits that a decimal cannot
keep are dropped before, but they are below a cent anyway.

So a price is positive exactly if the answer is worth a cent. That an answer is positive is not
enough.

## Main definitions

* `Decimal.IsCents`, `Decimal.ofCents` : prices in whole cents

## Main results

* `RawPrice.toRat_of_normalize` : the price of an answer
* `RawPrice.pos_iff_of_normalize` : it is positive if the answer is worth a cent
-/

namespace RollupFees

namespace Decimal

/-- A price in whole cents. -/
def IsCents (d : Decimal) : Prop := ∃ n : ℕ, d.toRat = n / 100

/-- The price of so many cents. -/
def ofCents (n : ℕ) : Decimal := (mk? n 2).getD 0

theorem toRat_ofCents {n : ℕ} (h : n ≤ maxCoefficient) : (ofCents n).toRat = n / 100 := by
  rw [ofCents, mk?, dif_pos ⟨by rwa [Int.natAbs_natCast], by decide⟩, Option.getD_some, toRat]
  norm_num

theorem isCents_ofCents {n : ℕ} (h : n ≤ maxCoefficient) : (ofCents n).IsCents :=
  ⟨n, toRat_ofCents h⟩

/-- A decimal that is cut to so many places is the floor at these places. -/
theorem toRat_truncate {d : Decimal} (h : 0 ≤ d.toRat) (places : ℕ) :
    (d.truncate places).toRat = (⌊d.toRat * 10 ^ places⌋ : ℚ) / 10 ^ places := by
  have hnonneg : 0 ≤ d.coefficient := by simpa [isNegative] using isNegative_eq_false h
  rw [truncate]
  split
  · next hfew =>
    -- nothing is cut off
    have hwhole : d.toRat * 10 ^ places = (d.coefficient * 10 ^ (places - d.scale) : ℤ) := by
      rw [toRat, ← Nat.sub_add_cancel hfew, pow_add, Nat.add_sub_cancel]
      push_cast
      field_simp
    rw [hwhole, Int.floor_intCast, ← hwhole, mul_div_cancel_right₀ _ (by positivity)]
  · next hmany =>
    have hshift : d.toRat * 10 ^ places = d.coefficient / (10 ^ (d.scale - places) : ℕ) := by
      have hsplit : 10 ^ d.scale = 10 ^ (d.scale - places) * 10 ^ places := by
        rw [← Nat.pow_add, Nat.sub_add_cancel (by omega)]
      rw [toRat, hsplit]
      push_cast
      field_simp
    rw [hshift, Rat.floor_intCast_div_natCast]
    simp only [toRat, Int.tdiv_eq_ediv_of_nonneg hnonneg]
    push_cast
    rfl

end Decimal

namespace Amount

variable {value : Amount} {decimals : ℕ}

theorem toNat_of_pow10? {exponent : ℕ} {power : Amount} (h : pow10? exponent = some power) :
    power.toNat = 10 ^ exponent := by
  unfold pow10? at h
  split at h
  · exact ofNat?_eq_some_iff.1 h
  · cases h

/-- Units that are a coefficient are divided by a power of ten without rounding. -/
theorem toRat_of_div?_power {d numerator divisor : Decimal}
    (hnumerator : Decimal.ofInt? value.toNat = some numerator)
    (hdivisor : Decimal.ofInt? (10 ^ decimals : ℕ) = some divisor)
    (hdecimals : decimals ≤ Decimal.maxScale) (h : numerator.div? divisor = some d) :
    d.toRat = value.toNat / 10 ^ decimals := by
  have hunits := Decimal.toRat_ofInt? hnumerator
  have hpower := Decimal.toRat_ofInt? hdivisor
  rw [Nat.cast_pow, Nat.cast_ofNat] at hpower
  have hfits : value.toNat ≤ Decimal.maxCoefficient := by
    have := numerator.natAbs_le
    rwa [(Decimal.eq_of_mk? hnumerator).1, Int.natAbs_natCast] at this
  have hround := Decimal.roundsTo_div? (hunits ▸ Nat.cast_nonneg _) (hpower ▸ by positivity) h
  rw [hunits, hpower] at hround
  exact hround.eq_of_isDecimal (by positivity) ⟨value.toNat, hfits, decimals, hdecimals, rfl⟩

/-- What a number of units with few decimals is as a decimal. -/
theorem toRat_of_toDecimal_few {d : Decimal} (hdecimals : decimals ≤ Decimal.maxScale)
    (h : value.toDecimal decimals = .ok d) : d.toRat = value.toNat / 10 ^ decimals := by
  unfold toDecimal at h
  simp only [Nat.sub_eq_zero_of_le hdecimals, min_eq_left hdecimals, if_true, bind,
    Except.bind] at h
  split at h
  · next numerator divisor hnumerator hdivisor =>
    split at h
    · next quotient hdivide =>
      obtain rfl := Except.ok.inj h
      exact toRat_of_div?_power hnumerator hdivisor hdecimals hdivide
    · cases h
  · cases h

/-- Beyond the digits that a decimal can keep, units are divided first. -/
theorem toDecimal_many (hmany : Decimal.maxScale < decimals) : value.toDecimal decimals =
    ((pow10? (decimals - Decimal.maxScale)).elim (.error .overflow)
      fun divisor => (value.div divisor).toDecimal Decimal.maxScale) := by
  unfold toDecimal
  simp only [min_eq_right hmany.le, min_self, Nat.sub_self, if_true]
  rw [if_neg (by omega)]
  cases pow10? (decimals - Decimal.maxScale) <;> rfl

/-- What a number of units is as a decimal. The digits that a decimal cannot keep are dropped. -/
theorem toRat_of_toDecimal {d : Decimal} (h : value.toDecimal decimals = .ok d) :
    d.toRat = (value.toNat / 10 ^ (decimals - Decimal.maxScale) : ℕ) /
      10 ^ min decimals Decimal.maxScale := by
  rcases le_or_gt decimals Decimal.maxScale with hfew | hmany
  · rw [toRat_of_toDecimal_few hfew h, Nat.sub_eq_zero_of_le hfew, pow_zero, Nat.div_one,
      min_eq_left hfew]
  · rw [toDecimal_many hmany] at h
    cases hdivisor : pow10? (decimals - Decimal.maxScale) with
    | none =>
      rw [hdivisor] at h
      cases h
    | some divisor =>
      rw [hdivisor] at h
      rw [toRat_of_toDecimal_few le_rfl h, toNat_div, toNat_of_pow10? hdivisor,
        min_eq_right hmany.le]

end Amount

namespace RawPrice

variable {raw : RawPrice} {price : Decimal}

/-- What is dropped before is less than a cent. -/
theorem cents_of_kept (a decimals : ℕ) : a / 10 ^ (decimals - Decimal.maxScale) * 100 /
    10 ^ min decimals Decimal.maxScale = 100 * a / 10 ^ decimals := by
  rw [mul_comm 100 a, Decimal.maxScale]
  rcases le_or_gt decimals 28 with hfew | hmany
  · rw [Nat.sub_eq_zero_of_le hfew, pow_zero, Nat.div_one, min_eq_left hfew]
  · have hpower : 10 ^ decimals = 10 ^ (decimals - 28) * 10 ^ 26 * 100 := by
      rw [mul_assoc, show 10 ^ 26 * 100 = 10 ^ 28 by norm_num, ← pow_add,
        Nat.sub_add_cancel hmany.le]
    rw [min_eq_right hmany.le, hpower, Nat.mul_div_mul_right _ _ (by norm_num : 0 < 100),
      ← Nat.div_div_eq_div_mul, show 10 ^ 28 = 10 ^ 26 * 100 by norm_num,
      Nat.mul_div_mul_right _ _ (by norm_num : 0 < 100)]

/-- **The price of an answer** is the answer in dollars, cut to cents. -/
theorem toRat_of_normalize (h : raw.normalize = .ok price) :
    price.toRat = (100 * raw.answer.toNat / 10 ^ raw.decimals : ℕ) / 100 := by
  unfold normalize at h
  split at h
  · next d hd =>
    obtain rfl := Except.ok.inj h
    have hexact := Amount.toRat_of_toDecimal hd
    have hcents : d.toRat * 10 ^ 2 =
        (raw.answer.toNat / 10 ^ (raw.decimals - Decimal.maxScale) * 100 : ℕ) /
          (10 ^ min raw.decimals Decimal.maxScale : ℕ) := by
      rw [hexact]
      push_cast
      ring
    have hnonneg : 0 ≤ d.toRat := by
      rw [hexact]
      positivity
    rw [Decimal.cents, Decimal.toRat_truncate hnonneg, hcents,
      Rat.floor_natCast_div_natCast, ← Int.natCast_div, cents_of_kept, Int.cast_natCast]
    norm_num
  · cases h

theorem isCents_of_normalize (h : raw.normalize = .ok price) : price.IsCents :=
  ⟨_, toRat_of_normalize h⟩

/-- The price of an answer is positive exactly if the answer is worth a cent. -/
theorem pos_iff_of_normalize (h : raw.normalize = .ok price) :
    0 < price.toRat ↔ 10 ^ raw.decimals ≤ 100 * raw.answer.toNat := by
  rw [toRat_of_normalize h, div_pos_iff_of_pos_right (by norm_num), Nat.cast_pos,
    Nat.div_pos_iff, and_iff_right (by positivity)]

end RawPrice
end RollupFees
