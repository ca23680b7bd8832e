import RollupFees.Billing
import RollupFees.Proofs.Decimal.Product
import RollupFees.Proofs.Pricing.Range

/-!
# Amounts in dollars

A figure in dollars is the product of an amount in tokens and a price, cut to cents. The amount is
exact, and so is the cut. What comes between is not: a product that has more digits than a decimal
is rounded first, half to even, and where it lies just below a whole cent it is rounded up to that
cent, which the cut then keeps. The product of an amount and a price in cents has twenty places, so
this cannot happen to a value of less than some 792 million dollars, which has all its digits.

Above that a figure is the exact value cut to cents, or a cent more; where cents themselves do not
fit any longer, it is off by what a decimal cannot tell apart.

## Main definitions

* `Amount.exactUsd` : what an amount is worth, in exact arithmetic
* `cutToCents` : a value cut to cents
* `Decimal.IsFigureOf` : how a figure in dollars comes up to the exact value

## Main results

* `dollars_near_exact` : every figure in dollars, and when there is one
-/

namespace RollupFees

open Decimal

/-- What an amount is worth at a price, in dollars and in exact arithmetic. -/
def Amount.exactUsd (value : Amount) (price : Decimal) : ℚ :=
  value.toNat / 10 ^ tokenDecimals * price.toRat

/-- A value in dollars, cut to cents. -/
def cutToCents (dollars : ℚ) : ℚ := (⌊100 * dollars⌋ : ℚ) / 100

theorem cutToCents_eq (dollars : ℚ) : cutToCents dollars = (⌊dollars * 10 ^ 2⌋ : ℚ) / 10 ^ 2 := by
  rw [cutToCents, mul_comm]
  norm_num

theorem cutToCents_le (dollars : ℚ) : cutToCents dollars ≤ dollars := by
  have := Int.floor_le (100 * dollars)
  rw [cutToCents]
  linarith

theorem lt_cutToCents_add (dollars : ℚ) : dollars < cutToCents dollars + 1 / 100 := by
  have := Int.lt_floor_add_one (100 * dollars)
  rw [cutToCents]
  linarith

/-- How a figure in dollars comes up to the exact value. -/
structure Decimal.IsFigureOf (figure : Decimal) (exact : ℚ) : Prop where
  /-- A value with all its twenty places is cut to cents. -/
  exactly : exact * 10 ^ 20 ≤ maxCoefficient → figure.toRat = cutToCents exact
  /-- As long as cents fit, a value is cut to cents, or given as the next cent. -/
  nearly : exact * 10 ^ 2 ≤ maxCoefficient →
    figure.toRat = cutToCents exact ∨ figure.toRat = cutToCents exact + 1 / 100
  /-- No value is overstated by more than a decimal cannot tell apart. -/
  le : figure.toRat ≤ exact + 5 * exact / maxCoefficient
  /-- No value is understated by more than that and a cent. -/
  lt : exact < figure.toRat + 1 / 100 + 5 * exact / maxCoefficient

/-! ### The rounded product, cut to cents -/

section Rounded

variable {exact y : ℚ} {figure : Decimal}

/-- A value with all its twenty places is not rounded. -/
theorem Decimal.RoundsTo.eq_of_places (h : RoundsTo exact y) {n : ℕ} (hn : exact = n / 10 ^ 20)
    (hall : exact * 10 ^ 20 ≤ maxCoefficient) : y = exact := by
  rw [hn, div_mul_cancel₀ _ (by norm_num)] at hall
  have hfits : n ≤ maxCoefficient := by exact_mod_cast hall
  exact h.eq_of_isDecimal (hn ▸ by positivity) ⟨n, hfits, 20, by decide, hn⟩

/-- A value that is rounded moves by no more than a decimal cannot tell apart. -/
theorem Decimal.RoundsTo.abs_sub_le_mul (h : RoundsTo exact y) {n : ℕ}
    (hn : exact = n / 10 ^ 20) : |y - exact| ≤ 5 * exact / maxCoefficient := by
  rcases le_or_gt (exact * 10 ^ 20) (maxCoefficient : ℚ) with hall | hlarge
  · rw [h.eq_of_places hn hall, sub_self, abs_zero, hn]
    positivity
  · refine h.abs_sub_le.trans (max_le ?_ le_rfl)
    rw [div_le_div_iff₀ (by positivity) (by norm_num [maxCoefficient])]
    norm_num [maxScale] at hlarge ⊢
    linarith only [hlarge]

/-- As long as cents fit, rounding does not go past the next cent. -/
theorem Decimal.RoundsTo.floor_cents (h : RoundsTo exact y) (hexact : 0 ≤ exact)
    (hcents : exact * 10 ^ 2 ≤ maxCoefficient) :
    ⌊exact * 10 ^ 2⌋ ≤ ⌊y * 10 ^ 2⌋ ∧ ⌊y * 10 ^ 2⌋ ≤ ⌊exact * 10 ^ 2⌋ + 1 := by
  have hlargest : IsDecimal (maxCoefficient / 10 ^ 2) := ⟨maxCoefficient, le_rfl, 2, by decide, rfl⟩
  have hle := h.mono hlargest.roundsTo hexact ((le_div_iff₀ (by norm_num)).2 hcents)
  have hfits : y * 10 ^ 2 ≤ maxCoefficient := (le_div_iff₀ (by norm_num)).1 hle
  have hnext : exact * 10 ^ 2 ≤ (⌊exact * 10 ^ 2⌋ + 1 : ℤ) := by
    push_cast
    exact (Int.lt_floor_add_one _).le
  constructor
  · exact Int.le_floor.2 (h.le_mul_pow (by decide) hfits (Int.floor_le _))
  · exact_mod_cast (Int.floor_le _).trans (h.mul_pow_le (by decide) hfits hnext)

/-- The rounded product, cut to cents, is a figure of the exact one. -/
theorem Decimal.RoundsTo.isFigureOf (h : RoundsTo exact y) {n : ℕ} (hn : exact = n / 10 ^ 20)
    (hfigure : figure.toRat = cutToCents y) : figure.IsFigureOf exact := by
  have hexact : 0 ≤ exact := hn ▸ by positivity
  have hmove := abs_le.1 (h.abs_sub_le_mul hn)
  have hbelow := cutToCents_le y
  have habove := lt_cutToCents_add y
  constructor
  · intro hall
    rw [hfigure, h.eq_of_places hn hall]
  · intro hcents
    obtain ⟨hreached, hnext⟩ := h.floor_cents hexact hcents
    rw [hfigure, cutToCents_eq, cutToCents_eq]
    rcases hreached.lt_or_eq with hlt | heq
    · right
      rw [show ⌊y * 10 ^ 2⌋ = ⌊exact * 10 ^ 2⌋ + 1 by omega]
      push_cast
      ring
    · left
      rw [heq]
  · rw [hfigure]
    linarith
  · rw [hfigure]
    linarith

end Rounded

/-! ### The figures of a billing -/

section Figures

variable {value : Amount} {denomination : Denomination} {prices : PriceBook} {price : Decimal}

/-- An amount is known in tokens if it is a coefficient, and then exactly. -/
theorem tokens_cases (value : Amount) :
    (value.toNat < 2 ^ 96 ∧
      ∃ d, tokens value = some d ∧ d.toRat = value.toNat / 10 ^ tokenDecimals) ∨
    (2 ^ 96 ≤ value.toNat ∧ tokens value = none) := by
  unfold tokens
  have hplaces : tokenDecimals ≤ Decimal.maxScale := by decide
  rcases value.toDecimal_few_cases hplaces with ⟨hfits, d, hd⟩ | ⟨hlarge, fault, hfault⟩
  · exact .inl ⟨hfits, d, by rw [hd], Amount.toRat_of_toDecimal_few (by decide) hd⟩
  · exact .inr ⟨hlarge, by rw [hfault]⟩

/-- Where the price is known, a figure is the rounded product, cut to cents. There is none if the
amount is no coefficient, or if the integer part of the product is none. -/
theorem usd_cases (value : Amount) (hprice : prices.value? denomination.pair = some price)
    (hnonneg : 0 ≤ price.toRat) :
    (value.toNat < 2 ^ 96 ∧ FitsAt (value.exactUsd price) 0 ∧
      ∃ product : Decimal, RoundsTo (value.exactUsd price) product.toRat ∧
        usd value denomination prices = some product.cents) ∨
    (¬ (value.toNat < 2 ^ 96 ∧ FitsAt (value.exactUsd price) 0) ∧
      usd value denomination prices = none) := by
  have hworth : 0 ≤ value.exactUsd price := by
    rw [Amount.exactUsd]
    positivity
  simp only [usd, hprice]
  rcases tokens_cases value with ⟨hfits, amount, hamount, hexact⟩ | ⟨hlarge, hnone⟩
  · have hsign : 0 ≤ amount.toRat := hexact ▸ by positivity
    rw [Amount.exactUsd, ← hexact] at hworth ⊢
    rcases mul?_cases (isNegative_eq_false hsign) (isNegative_eq_false hnonneg) with
      ⟨product, hproduct, hround⟩ | ⟨hnone, hover⟩
    · refine .inl ⟨hfits, hround.fitsAt hworth, product, hround, ?_⟩
      simp [hamount, hproduct]
    · refine .inr ⟨fun h => hover h.2, ?_⟩
      simp [hamount, hnone]
  · exact .inr ⟨fun h => absurd h.1 hlarge.not_gt, by simp [hnone]⟩

/-- What is known of an amount in dollars at a price in cents: whether there is a figure, and how it
comes up to the exact value. -/
structure IsDollarsOf (value : Amount) (price : Decimal) (figure? : Option Decimal) : Prop where
  isSome_iff : figure?.isSome ↔ value.toNat < 2 ^ 96 ∧ FitsAt (value.exactUsd price) 0
  isFigureOf : ∀ figure, figure? = some figure → figure.IsFigureOf (value.exactUsd price)

theorem isDollarsOf_usd (hprice : prices.value? denomination.pair = some price)
    (hcents : price.IsCents) : IsDollarsOf value price (usd value denomination prices) := by
  obtain ⟨n, hn⟩ := hcents
  have hnonneg : 0 ≤ price.toRat := hn ▸ by positivity
  have hworth : value.exactUsd price = (value.toNat * n : ℕ) / 10 ^ 20 := by
    rw [Amount.exactUsd, hn, tokenDecimals]
    push_cast
    ring
  rcases usd_cases value hprice hnonneg with
    ⟨hfits, hfitsAt, product, hround, husd⟩ | ⟨hnot, hnone⟩
  · refine ⟨by simp [husd, hfits, hfitsAt], fun figure hfigure => ?_⟩
    obtain rfl : product.cents = figure := Option.some.inj (husd.symm.trans hfigure)
    have hproduct : 0 ≤ product.toRat := (hround.isDecimal (hworth ▸ by positivity)).nonneg
    refine hround.isFigureOf hworth ?_
    rw [cents, toRat_truncate hproduct, cutToCents_eq]
  · exact ⟨by simp [hnone, hnot], by simp [hnone]⟩

end Figures

/-- **Figures in dollars are near the exact values.** Take any totals and any price book. A counter,
the total cost of the first layer and the cost of the relayers have a figure in dollars if the price
of their token is known, the amount is a coefficient and so is the integer part of its value. With a
price in whole cents the figure is the exact value, cut to cents, as long as the value has no more
digits than a decimal at twenty places; above that it can be the next cent. No figure exceeds the
exact value by more than five parts in the largest coefficient. The summary lists the same figures
for the counters. -/
theorem dollars_near_exact (b : Billing) (prices : PriceBook) :
    (∀ c : Counter, prices.value? c.denomination.pair = none → b.usdValue c prices = none) ∧
    (∀ (c : Counter) (price : Decimal), prices.value? c.denomination.pair = some price →
      price.IsCents → IsDollarsOf (b.cumulative c) price (b.usdValue c prices)) ∧
    (∀ price : Decimal, prices.value? Denomination.secondary.pair = some price → price.IsCents →
      IsDollarsOf b.totalL1Cost price (b.summary prices).totalL1CostUsd ∧
      IsDollarsOf b.relayerCost price (b.summary prices).relayerCostUsd) ∧
    ∀ line ∈ (b.summary prices).counters, line.usd = b.usdValue line.counter prices := by
  refine ⟨fun c hnone => ?_, fun c price hprice hcents => isDollarsOf_usd hprice hcents,
    fun price hprice hcents => ⟨isDollarsOf_usd hprice hcents, isDollarsOf_usd hprice hcents⟩,
    fun line hline => ?_⟩
  · simp [Billing.usdValue, usd, hnone]
  · obtain ⟨c, -, rfl⟩ := List.mem_map.1 hline
    rfl

/-! ### Just below a cent -/

/-- A relayer that has spent nine billion tokens, just short of ten billion dollars at a price of
`1.11`. -/
def Billing.justShort : Billing :=
  ⟨CounterMap.empty.set .relayer ⟨0, Amount.clamp 9009009009009009009009009009⟩,
    CounterMap.empty, CounterMap.empty⟩

/-- That price. -/
def PriceBook.ones : PriceBook := PriceBook.empty.record .secondary ⟨ofCents 111, Timestamp.epoch⟩

theorem usdValue_justShort :
    Billing.justShort.usdValue .relayer PriceBook.ones = some (ofCents 1000000000000) := by
  decide +kernel

theorem relayerCostUsd_justShort : (Billing.justShort.summary PriceBook.ones).relayerCostUsd =
    some (ofCents 1000000000000) := by
  decide +kernel

/-- What the relayer has spent is worth one part in `10 ^ 20` less than ten billion dollars. -/
theorem exactUsd_justShort {value : Amount} (h : value.toNat = 9009009009009009009009009009) :
    value.exactUsd (ofCents 111) = 10 ^ 10 - 1 / 10 ^ 20 := by
  rw [Amount.exactUsd, h, toRat_ofCents (by decide), tokenDecimals]
  norm_num

theorem cutToCents_justShort : cutToCents (10 ^ 10 - 1 / 10 ^ 20) = 9999999999.99 := by
  have hfloor : ⌊(100 : ℚ) * (10 ^ 10 - 1 / 10 ^ 20)⌋ = 999999999999 := by
    rw [Int.floor_eq_iff]
    norm_num
  rw [cutToCents, hfloor]
  norm_num

/-- The figures of the relayer are the cent above the exact value, and no more than that. -/
theorem dollars_justShort :
    Billing.justShort.usdValue .relayer PriceBook.ones = some (ofCents 1000000000000) ∧
      (Billing.justShort.summary PriceBook.ones).relayerCostUsd =
        some (ofCents 1000000000000) ∧
      (ofCents 1000000000000).toRat = cutToCents (10 ^ 10 - 1 / 10 ^ 20) + 1 / 100 ∧
      (ofCents 1000000000000).toRat ≤
        10 ^ 10 - 1 / 10 ^ 20 + 5 * (10 ^ 10 - 1 / 10 ^ 20) / maxCoefficient := by
  obtain ⟨-, hcounter, htotals, -⟩ := dollars_near_exact Billing.justShort PriceBook.ones
  have hcents : (ofCents 111).IsCents := isCents_ofCents (by decide)
  have hvalue := (hcounter .relayer (ofCents 111) rfl hcents).isFigureOf _ usdValue_justShort
  have hcost := (htotals (ofCents 111) rfl hcents).2.isFigureOf _ relayerCostUsd_justShort
  rw [exactUsd_justShort rfl] at hvalue hcost
  refine ⟨usdValue_justShort, relayerCostUsd_justShort, ?_, hcost.le⟩
  rcases hvalue.nearly (by norm_num [maxCoefficient]) with hcut | hnext
  · rw [cutToCents_justShort, toRat_ofCents (by decide)] at hcut
    norm_num at hcut
  · exact hnext

/-- A figure can be more than the exact value, cut to cents. -/
theorem usd_overstates : ¬ ∀ (b : Billing) (prices : PriceBook) (c : Counter)
    (price figure : Decimal), prices.value? c.denomination.pair = some price → price.IsCents →
    b.usdValue c prices = some figure →
    figure.toRat = cutToCents ((b.cumulative c).exactUsd price) := by
  intro hexact
  have hcut := hexact Billing.justShort PriceBook.ones .relayer (ofCents 111) _ rfl
    (isCents_ofCents (by decide)) usdValue_justShort
  rw [exactUsd_justShort rfl, cutToCents_justShort, toRat_ofCents (by decide)] at hcut
  norm_num at hcut

end RollupFees
