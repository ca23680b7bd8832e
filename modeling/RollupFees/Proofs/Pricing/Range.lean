import RollupFees.Proofs.Arithmetic.Strict
import RollupFees.Proofs.Pricing.Cents

/-!
# Which answers have a price

An answer has a price unless it is out of range. Its units have to be a coefficient of 96 bits, and
where it has more decimals than a decimal can keep, the power of ten that cuts the others off has to
be an amount. There is no other way to fail: a coefficient over a power of ten is a decimal. Three
roundings, of the digits that are dropped, of the quotient and to cents, come to a single one.

## Main definitions

* `RawPrice.IsOutOfRange` : an answer without a price
* `RawPrice.IsWorth` : a price is what an answer is worth, cut to cents

## Main results

* `RawPrice.isWorth_or_isOutOfRange` : an answer has a price, or it is out of range
-/

namespace RollupFees

/-- An integer that is no coefficient is no decimal. -/
theorem Decimal.ofInt?_eq_none {n : ℕ} (h : maxCoefficient < n) : ofInt? n = none :=
  dif_neg fun hfits => absurd hfits.1 (by rw [Int.natAbs_natCast]; omega)

namespace Amount

variable {value : Amount} {decimals : ℕ}

/-- Units that are a coefficient can be divided by a power of ten. -/
theorem exists_div?_power {numerator divisor : Decimal}
    (hnumerator : Decimal.ofInt? value.toNat = some numerator)
    (hdivisor : Decimal.ofInt? (10 ^ decimals : ℕ) = some divisor) :
    ∃ d, numerator.div? divisor = some d := by
  have hunits := Decimal.toRat_ofInt? hnumerator
  have hpower := Decimal.toRat_ofInt? hdivisor
  have hfits : value.toNat ≤ Decimal.maxCoefficient := by
    by_contra hlarge
    rw [Decimal.ofInt?_eq_none (not_le.1 hlarge)] at hnumerator
    cases hnumerator
  have hpos : 0 < divisor.toRat := by
    rw [hpower]
    positivity
  have hzero : divisor.coefficient ≠ 0 := fun hnone =>
    hpos.ne' (Decimal.toRat_of_coefficient_eq_zero hnone)
  have hnonneg : 0 ≤ numerator.toRat := by
    rw [hunits]
    positivity
  rcases Decimal.div?_cases (Decimal.isNegative_eq_false hnonneg)
    (Decimal.isNegative_eq_false hpos.le) hzero with ⟨d, hd, -⟩ | ⟨-, hoverflow⟩
  · exact ⟨d, hd⟩
  · -- the quotient is not larger than the units
    refine absurd ?_ (Decimal.lt_of_not_fitsAt hoverflow).not_ge
    have hone : (1 : ℚ) ≤ (10 ^ decimals : ℕ) := by exact_mod_cast Nat.one_le_pow' ..
    rw [hunits, hpower, pow_zero, mul_one]
    refine (div_le_self (Nat.cast_nonneg _) hone).trans ?_
    exact_mod_cast hfits

/-- Units with few decimals can be converted exactly if they are a coefficient. -/
theorem toDecimal_few_cases (value : Amount) (hdecimals : decimals ≤ Decimal.maxScale) :
    (value.toNat < 2 ^ 96 ∧ ∃ d, value.toDecimal decimals = .ok d) ∨
      (2 ^ 96 ≤ value.toNat ∧ ∃ fault, value.toDecimal decimals = .error fault) := by
  unfold toDecimal
  simp only [Nat.sub_eq_zero_of_le hdecimals, min_eq_left hdecimals, if_true, bind, Except.bind]
  obtain ⟨divisor, hdivisor⟩ := Decimal.exists_ofInt? (n := 10 ^ decimals)
    ((Nat.pow_le_pow_right (by decide) hdecimals).trans (by decide))
  rcases lt_or_ge value.toNat (2 ^ 96) with hfits | hlarge
  · obtain ⟨numerator, hnumerator⟩ := Decimal.exists_ofInt? (n := value.toNat)
      (by rw [Decimal.maxCoefficient]; omega)
    obtain ⟨d, hd⟩ := exists_div?_power hnumerator hdivisor
    exact .inl ⟨hfits, d, by rw [hnumerator, hdivisor]; simp only [hd]⟩
  · refine .inr ⟨hlarge, .invalidDecimal tooManyDigits, ?_⟩
    rw [Decimal.ofInt?_eq_none (by rw [Decimal.maxCoefficient]; omega)]

/-- A power of ten is an amount if it has no more than 77 zeros. -/
theorem pow10?_cases (exponent : ℕ) :
    (exponent ≤ 77 ∧ ∃ power, pow10? exponent = some power ∧ power.toNat = 10 ^ exponent) ∨
      (77 < exponent ∧ pow10? exponent = none) := by
  unfold pow10?
  split
  · next hfew =>
    have hfits : 10 ^ exponent ≤ maxNat :=
      (Nat.pow_le_pow_right (by decide) hfew).trans (by decide)
    exact .inl ⟨hfew, _, ofNat?_of_le hfits, by rw [toNat_clamp, min_eq_left hfits]⟩
  · next hmany => exact .inr ⟨not_le.1 hmany, rfl⟩

/-- Units can be converted if what is left of them without the decimals that a decimal cannot keep
is a coefficient. -/
theorem toDecimal_cases (value : Amount) (decimals : ℕ) :
    (decimals - Decimal.maxScale ≤ 77 ∧
      value.toNat / 10 ^ (decimals - Decimal.maxScale) < 2 ^ 96 ∧
      ∃ d, value.toDecimal decimals = .ok d) ∨
    ((77 < decimals - Decimal.maxScale ∨
      2 ^ 96 ≤ value.toNat / 10 ^ (decimals - Decimal.maxScale)) ∧
      ∃ fault, value.toDecimal decimals = .error fault) := by
  rcases le_or_gt decimals Decimal.maxScale with hfew | hmany
  · rw [Nat.sub_eq_zero_of_le hfew, pow_zero, Nat.div_one]
    rcases toDecimal_few_cases value hfew with ⟨hfits, hok⟩ | ⟨hlarge, herror⟩
    · exact .inl ⟨Nat.zero_le _, hfits, hok⟩
    · exact .inr ⟨.inr hlarge, herror⟩
  · rw [toDecimal_many hmany]
    rcases pow10?_cases (decimals - Decimal.maxScale) with
      ⟨hpower, power, hsome, heq⟩ | ⟨hlong, hnone⟩
    · rw [hsome, ← heq, ← toNat_div]
      rcases toDecimal_few_cases (value.div power) le_rfl with ⟨hfits, hok⟩ | ⟨hlarge, herror⟩
      · exact .inl ⟨hpower, hfits, hok⟩
      · exact .inr ⟨.inr hlarge, herror⟩
    · rw [hnone]
      exact .inr ⟨.inl hlong, .overflow, rfl⟩

end Amount

namespace RawPrice

variable {raw : RawPrice} {price : Decimal}

/-- The number of decimals that a decimal cannot keep. -/
def excess (raw : RawPrice) : ℕ := max raw.decimals 28 - 28

/-- The answer has too many decimals, or too many units without those that cannot be kept. -/
def IsOutOfRange (raw : RawPrice) : Prop :=
  77 < raw.excess ∨ 2 ^ 96 ≤ raw.answer.toNat / 10 ^ raw.excess

/-- A price is what an answer is worth, cut to cents: no more than that, by less than a cent. -/
structure IsWorth (raw : RawPrice) (price : Decimal) : Prop where
  cut : price.toRat = (⌊100 * (raw.answer.toNat : ℚ) / 10 ^ raw.decimals⌋ : ℚ) / 100
  le : price.toRat ≤ raw.answer.toNat / 10 ^ raw.decimals
  lt : raw.answer.toNat / 10 ^ raw.decimals < price.toRat + 1 / 100

/-- The outcome of a conversion decides whether there is a price. -/
theorem normalize_eq (raw : RawPrice) : raw.normalize =
    ((raw.answer.toDecimal raw.decimals).mapError .conversion).map Decimal.cents := by
  unfold normalize
  split <;> next h => rw [h]; rfl

theorem isWorth_of_normalize (h : raw.normalize = .ok price) : raw.IsWorth price := by
  have hcut : price.toRat = (⌊100 * (raw.answer.toNat : ℚ) / 10 ^ raw.decimals⌋ : ℚ) / 100 := by
    have hfloor : ⌊100 * (raw.answer.toNat : ℚ) / 10 ^ raw.decimals⌋ =
        (100 * raw.answer.toNat / 10 ^ raw.decimals : ℕ) := by
      rw [Int.natCast_div, ← Rat.floor_natCast_div_natCast]
      push_cast
      rfl
    rw [toRat_of_normalize h, hfloor, Int.cast_natCast]
  have hbelow := Int.floor_le (100 * (raw.answer.toNat : ℚ) / 10 ^ raw.decimals)
  have habove := Int.lt_floor_add_one (100 * (raw.answer.toNat : ℚ) / 10 ^ raw.decimals)
  rw [mul_div_assoc] at hcut hbelow habove
  refine ⟨by rwa [mul_div_assoc], ?_, ?_⟩ <;> rw [hcut] <;> linarith

/-- **An answer has a price, or it is out of range.** The price is the exact value of the answer,
cut to cents. Without a price the answer fails as one that cannot be converted. -/
theorem isWorth_or_isOutOfRange (raw : RawPrice) :
    ((∃ fault, raw.normalize = .error (.conversion fault)) ↔ raw.IsOutOfRange) ∧
      (raw.IsOutOfRange ∨ ∃ price, raw.normalize = .ok price ∧ raw.IsWorth price) := by
  have hexcess : raw.excess = raw.decimals - Decimal.maxScale := by
    rw [excess, Decimal.maxScale]
    omega
  rw [IsOutOfRange, hexcess]
  rcases raw.answer.toDecimal_cases raw.decimals with ⟨hpower, hfits, d, hd⟩ | ⟨hout, fault, hfault⟩
  · have hprice : raw.normalize = .ok d.cents := by rw [normalize_eq, hd]; rfl
    refine ⟨⟨?_, ?_⟩, .inr ⟨d.cents, hprice, isWorth_of_normalize hprice⟩⟩
    · rintro ⟨fault, hfault⟩
      cases hprice.symm.trans hfault
    · rintro (hlong | hlarge)
      · exact absurd hlong hpower.not_gt
      · exact absurd hlarge hfits.not_ge
  · exact ⟨⟨fun _ => hout, fun _ => ⟨fault, by rw [normalize_eq, hfault]; rfl⟩⟩, .inl hout⟩

end RawPrice
end RollupFees
