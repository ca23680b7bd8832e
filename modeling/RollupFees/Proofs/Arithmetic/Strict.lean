import RollupFees.Billing
import RollupFees.Parameter
import RollupFees.Settings.Rule

/-!
# Strict arithmetic

Some of the arithmetic of a tick has a plan for what does not fit: it stops at the largest amount,
or it has no answer and the caller goes on without one. The rest has no such plan. A difference
below zero, a quotient by zero, a power of more than 128 bits, an integer that outgrows a decimal
and a product of decimals that does would end the program.

Here the calculations of a tick are written once more, operation by operation, with every operation
of the second kind made strict: it has no answer where the program would end, and then the whole
calculation has none. A calculation that agrees with its strict form never leaves the range.

## Main definitions

* `Amount.minus?`, `Amount.over?`, `powerOfTen?` : operations that may end the program
* `Bounds.decideStrictly` : what to do about a target
* `priceRatioTargetStrictly`, `overheadTargetStrictly` : the targets
* `Amount.toDecimalStrictly`, `RawPrice.normalizeStrictly` : conversions
* `Billing.summaryStrictly` : all totals in tokens and dollars

## Main results

* `decideStrictly_eq` : a decision is strict up to its fraction
* `priceRatioTargetStrictly_eq`, `overheadTargetStrictly_eq`, `toDecimalStrictly_eq`,
  `summaryStrictly_eq` : the other calculations are strict as they are
-/

namespace RollupFees

/-! ### Operations that may end the program -/

namespace Amount

/-- The difference of two amounts, which must not be negative. -/
def minus? (a b : Amount) : Option Amount := if b ≤ a then some (a.satSub b) else none

/-- The quotient of two amounts, of which the second must not be zero. -/
def over? (a b : Amount) : Option Amount := if b = 0 then none else some (a.div b)

theorem minus?_of_le {a b : Amount} (h : b ≤ a) : a.minus? b = some (a.satSub b) := if_pos h

theorem over?_of_ne {a b : Amount} (h : b ≠ 0) : a.over? b = some (a.div b) := if_neg h

theorem ofNat?_of_le {n : Nat} (h : n ≤ maxNat) : ofNat? n = some (clamp n) := by
  rw [ofNat?_eq_some_iff, toNat_clamp]
  exact Nat.min_eq_left h

theorem ne_zero_of_pow10? {e : Nat} {a : Amount} (h : pow10? e = some a) : a ≠ 0 := by
  rintro rfl
  unfold pow10? at h
  split at h
  · have hzero : 0 = 10 ^ e := ofNat?_eq_some_iff.1 h
    have hpos : 0 < 10 ^ e := Nat.pow_pos (by decide)
    omega
  · cases h

end Amount

/-- A power of ten, which must not exceed 128 bits. -/
def powerOfTen? (e : Nat) : Option Nat := if 10 ^ e < 2 ^ 128 then some (10 ^ e) else none

theorem powerOfTen?_of_le {e : Nat} (h : e ≤ Decimal.maxScale) :
    powerOfTen? e = some (10 ^ e) := by
  refine if_pos ?_
  calc 10 ^ e ≤ 10 ^ Decimal.maxScale := Nat.pow_le_pow_right (by decide) h
    _ < 2 ^ 128 := by decide

theorem Decimal.exists_ofInt? {n : Nat} (h : n ≤ maxCoefficient) :
    ∃ d, ofInt? n = some d :=
  ⟨_, dif_pos ⟨h, Nat.zero_le _⟩⟩

/-! ### Moves -/

/-- The distance between two amounts, as a difference of the larger and the smaller one. -/
def Amount.distanceStrictly (a b : Amount) : Option Amount :=
  if b < a then a.minus? b else b.minus? a

/-- A fraction in parts per million, by a product that has to fit. -/
def partsPerMillionStrictly (fraction : Decimal) : Option Nat := do
  let whole ← Decimal.ofInt? million
  let product ← fraction.mul? whole
  some ((product.floorBelow? (2 ^ 64)).getD million)

/-- The furthest value on the way to a target. -/
def limitedMoveStrictly (target current : Amount) (fraction : Decimal) :
    Option (Option Amount) := do
  let parts ← partsPerMillionStrictly fraction
  let factor ← Amount.ofNat? parts
  let whole ← Amount.ofNat? million
  let scaled := current.satMul factor
  let step ← scaled.over? whole
  if step = 0 then some none
  else if current < target then
    let reach := current.satAdd step
    some (some (if target ≤ reach then target else reach))
  else do
    let rest ← whole.minus? 1
    let step ← (scaled.satAdd rest).over? whole
    let reach := current.satSub step
    some (some (if reach ≤ target then target else reach))

/-- The next value on the way to a target. -/
def nextValueStrictly (target current : Amount) (fraction : Option Decimal) :
    Option (Option Amount) :=
  match fraction with
  | none => some (some target)
  | some f => if current = 0 then some (some target) else limitedMoveStrictly target current f

/-- What to do about a target. -/
def Bounds.decideStrictly (bounds : Bounds) (target current : Amount) : Option Action :=
  if ¬ bounds.contains target then some (.noOp .outOfBounds)
  else if target = current then some (.noOp .atTarget)
  else do
    let distance ← target.distanceStrictly current
    if distance < bounds.minStep then some (.noOp .belowMinStep)
    else do
      let next ← nextValueStrictly target current bounds.maxDeltaFraction
      match next with
      | none => some (.noOp .belowMinStep)
      | some next => some (if bounds.contains next then .setTo next else .noOp .outOfBounds)

theorem distanceStrictly_eq (a b : Amount) : a.distanceStrictly b = some (a.distance b) := by
  unfold Amount.distanceStrictly Amount.distance
  split
  · next h => exact Amount.minus?_of_le (Nat.le_of_lt h)
  · next h => exact Amount.minus?_of_le (Nat.le_of_not_lt h)

theorem partsPerMillionStrictly_eq (f : Decimal) :
    partsPerMillionStrictly f = (partsPerMillion f).toOption := by
  unfold partsPerMillionStrictly partsPerMillion
  obtain ⟨whole, hwhole⟩ := Decimal.exists_ofInt? (n := million) (by decide)
  rw [hwhole]
  cases hproduct : f.mul? whole <;> simp [hproduct, Except.toOption]

theorem partsPerMillion_lt {f : Decimal} {n : Nat} (h : partsPerMillion f = .ok n) :
    n < 2 ^ 64 := by
  unfold partsPerMillion at h
  split at h
  · next product _ =>
    obtain rfl := Except.ok.inj h
    unfold Decimal.floorBelow?
    split
    · simp only [Option.getD_some]
      omega
    · decide
  · cases h

/-- A limited move needs nothing but the parts per million of its fraction. -/
theorem limitedMoveStrictly_eq (target current : Amount) (f : Decimal) :
    limitedMoveStrictly target current f =
      ((partsPerMillion f).map (limitedMove target current)).toOption := by
  unfold limitedMoveStrictly
  rw [partsPerMillionStrictly_eq]
  cases hparts : partsPerMillion f with
  | error b => rfl
  | ok n =>
    have hn : n ≤ Amount.maxNat := by
      have := partsPerMillion_lt hparts
      rw [Amount.maxNat]
      omega
    have hmillion : Amount.clamp million ≠ 0 := by decide
    have hone : (1 : Amount) ≤ Amount.clamp million := by decide
    have hrest : (Amount.clamp million).satSub 1 = Amount.clamp (million - 1) := by decide
    simp only [Except.toOption, Except.map, Option.bind_eq_bind, Option.bind_some,
      Amount.ofNat?_of_le hn, Amount.ofNat?_of_le (n := million) (by decide),
      Amount.over?_of_ne hmillion, Amount.minus?_of_le hone, hrest, limitedMove]
    split
    · rfl
    · split <;> rfl

theorem nextValueStrictly_eq (target current : Amount) (fraction : Option Decimal) :
    nextValueStrictly target current fraction =
      (nextValue target current fraction).toOption := by
  cases fraction with
  | none => rfl
  | some f =>
    by_cases hcurrent : current = 0
    · simp only [nextValueStrictly, nextValue, if_pos hcurrent]
      rfl
    · simp only [nextValueStrictly, nextValue, if_neg hcurrent]
      exact limitedMoveStrictly_eq target current f

/-- **A decision is strict up to its fraction.** It leaves the range only where the fraction of its
limit, in parts per million, does. -/
theorem decideStrictly_eq (bounds : Bounds) (target current : Amount) :
    bounds.decideStrictly target current = (bounds.decide target current).toOption := by
  unfold Bounds.decideStrictly Bounds.decide Bounds.worthMoving
  rw [distanceStrictly_eq, nextValueStrictly_eq]
  by_cases hcontains : bounds.contains target = true
  · by_cases hreached : target = current
    · subst hreached
      simp [hcontains, Except.toOption]
    · by_cases hnear : target.distance current < bounds.minStep
      · simp [hcontains, hreached, hnear, Except.toOption]
      · cases nextValue target current bounds.maxDeltaFraction with
        | error b => simp [hcontains, hreached, hnear, Except.toOption, Except.map]
        | ok next =>
          cases next <;> simp [hcontains, hreached, hnear, Except.toOption, Except.map]
  · simp [hcontains, Except.toOption]

/-! ### Targets -/

/-- The target and the market ratio for the price ratio. The factor and the hundred have to be
decimals. -/
def priceRatioTargetStrictly (native secondary : Option Decimal) (decimals multiplier : Nat) :
    Option (Except SkipReason (Amount × Amount)) :=
  match native, secondary with
  | some a, some b =>
    if b.isZero then some (.error .missingPrice)
    else
      match (ratioScale? decimals).bind fun scale => (a.div? b).bind (·.mul? scale) with
      | none => some (.error .invalidTarget)
      | some market => do
        let factor ← Decimal.ofInt? multiplier
        let hundred ← Decimal.ofInt? 100
        match (market.mul? factor).bind (·.div? hundred) with
        | none => some (.error .invalidTarget)
        | some target =>
          match target.toAmount, market.toAmount with
          | .ok t, .ok m => some (.ok (t, m))
          | _, _ => some (.error .invalidTarget)
  | _, _ => some (.error .missingPrice)

/-- The target for the overhead, by two quotients. -/
def overheadTargetStrictly (gasUsed batchSize : Amount) (ratio : Nat) :
    Option (Except SkipReason Amount) :=
  if batchSize = 0 then some (.error .insufficientData)
  else do
    let each ← gasUsed.over? batchSize
    let factor ← Amount.ofNat? ratio
    match each.mul? factor with
    | none => some (.error .invalidTarget)
    | some product => do
      let thousand ← Amount.ofNat? 1000
      let target ← product.over? thousand
      some (.ok target)

theorem priceRatioTargetStrictly_eq (native secondary : Option Decimal) (decimals : Nat)
    {multiplier : Nat} (h : multiplier ≤ Decimal.maxCoefficient) :
    priceRatioTargetStrictly native secondary decimals multiplier =
      some (priceRatioTarget native secondary decimals multiplier) := by
  obtain ⟨factor, hfactor⟩ := Decimal.exists_ofInt? h
  obtain ⟨hundred, hhundred⟩ : ∃ d, Decimal.ofInt? 100 = some d :=
    Decimal.exists_ofInt? (n := 100) (by decide)
  unfold priceRatioTargetStrictly priceRatioTarget
  cases native with
  | none => rfl
  | some a =>
    cases secondary with
    | none => rfl
    | some b =>
      by_cases hzero : b.isZero = true
      · simp only [if_pos hzero]
      · simp only [if_neg hzero, hhundred]
        cases hscale : ratioScale? decimals with
        | none => rfl
        | some scale =>
          cases hratio : a.div? b with
          | none => rfl
          | some ratio =>
            cases hmarket : ratio.mul? scale with
            | none => simp [hmarket]
            | some market =>
              simp only [hmarket, hfactor, Option.bind_eq_bind, Option.bind_some]
              cases hscaled : market.mul? factor with
              | none => rfl
              | some scaled =>
                cases htarget : scaled.div? hundred with
                | none => simp [htarget]
                | some target =>
                  simp only [htarget, Option.bind_some]
                  cases target.toAmount <;> cases market.toAmount <;> rfl

theorem overheadTargetStrictly_eq (gasUsed batchSize : Amount) {ratio : Nat}
    (h : ratio ≤ Amount.maxNat) :
    overheadTargetStrictly gasUsed batchSize ratio =
      some (overheadTarget gasUsed batchSize ratio) := by
  unfold overheadTargetStrictly overheadTarget
  have hthousand : Amount.clamp 1000 ≠ 0 := by decide
  by_cases hsize : batchSize = 0
  · simp [hsize]
  · simp only [if_neg hsize, Amount.over?_of_ne hsize, Amount.ofNat?_of_le h,
      Amount.ofNat?_of_le (n := 1000) (by decide), Amount.over?_of_ne hthousand,
      Option.bind_eq_bind, Option.bind_some]
    split <;> simp_all

/-! ### Conversions -/

/-- An amount over a power of ten. The power has to be within 128 bits, and a decimal. -/
def Amount.overPowerStrictly (value : Amount) (places : Nat) :
    Option (Except ConversionFault Decimal) :=
  match Decimal.ofInt? value.toNat with
  | none => some (.error (.invalidDecimal tooManyDigits))
  | some numerator => do
    let power ← powerOfTen? places
    let divisor ← Decimal.ofInt? power
    match numerator.div? divisor with
    | some quotient => some (.ok quotient)
    | none => some (.error .overflow)

/-- The units over `10 ^ decimals`, of which the digits that a decimal cannot keep are dropped by a
quotient. -/
def Amount.toDecimalStrictly (value : Amount) (decimals : Nat) :
    Option (Except ConversionFault Decimal) :=
  if decimals ≤ Decimal.maxScale then value.overPowerStrictly decimals
  else
    match pow10? (decimals - Decimal.maxScale) with
    | none => some (.error .overflow)
    | some divisor => do
      let kept ← value.over? divisor
      kept.overPowerStrictly Decimal.maxScale

/-- The price of an answer. -/
def RawPrice.normalizeStrictly (raw : RawPrice) : Option (Except Failure Decimal) := do
  match ← raw.answer.toDecimalStrictly raw.decimals with
  | .ok d => some (.ok d.cents)
  | .error fault => some (.error (.conversion fault))

theorem overPowerStrictly_eq (value : Amount) {places : Nat} (h : places ≤ Decimal.maxScale) :
    value.overPowerStrictly places = some
      (match Decimal.ofInt? value.toNat, Decimal.ofInt? (10 ^ places : Nat) with
      | some numerator, some divisor =>
        match numerator.div? divisor with
        | some quotient => .ok quotient
        | none => .error .overflow
      | _, _ => .error (.invalidDecimal tooManyDigits)) := by
  obtain ⟨divisor, hdivisor⟩ := Decimal.exists_ofInt? (n := 10 ^ places) <|
    calc 10 ^ places ≤ 10 ^ Decimal.maxScale := Nat.pow_le_pow_right (by decide) h
      _ ≤ Decimal.maxCoefficient := by decide
  simp only [Amount.overPowerStrictly, powerOfTen?_of_le h, hdivisor]
  cases Decimal.ofInt? value.toNat with
  | none => rfl
  | some numerator =>
    simp only [Option.bind_eq_bind, Option.bind_some, hdivisor]
    cases numerator.div? divisor <;> rfl

/-- Units are converted strictly, whatever the count of decimals. -/
theorem toDecimalStrictly_eq (value : Amount) (decimals : Nat) :
    value.toDecimalStrictly decimals = some (value.toDecimal decimals) := by
  unfold Amount.toDecimalStrictly Amount.toDecimal
  by_cases hfew : decimals ≤ Decimal.maxScale
  · have hnone : decimals - Decimal.maxScale = 0 := by omega
    rw [if_pos hfew, overPowerStrictly_eq value hfew, hnone, Nat.min_eq_left hfew]
    rfl
  · have hmany : decimals - Decimal.maxScale ≠ 0 := by omega
    rw [if_neg hfew, Nat.min_eq_right (by omega)]
    cases hpower : Amount.pow10? (decimals - Decimal.maxScale) with
    | none =>
      simp only [if_neg hmany, hpower]
      rfl
    | some divisor =>
      simp only [if_neg hmany, hpower, Amount.over?_of_ne (Amount.ne_zero_of_pow10? hpower),
        Option.bind_eq_bind, Option.bind_some, overPowerStrictly_eq _ (Nat.le_refl _)]
      rfl

theorem normalizeStrictly_eq (raw : RawPrice) : raw.normalizeStrictly = some raw.normalize := by
  unfold RawPrice.normalizeStrictly RawPrice.normalize
  rw [toDecimalStrictly_eq]
  cases raw.answer.toDecimal raw.decimals <;> rfl

/-! ### Totals -/

/-- Whole tokens. -/
def tokensStrictly (value : Amount) : Option (Option Decimal) := do
  match ← value.toDecimalStrictly tokenDecimals with
  | .ok d => some (some d)
  | .error _ => some none

/-- The value of an amount in dollars. -/
def usdStrictly (value : Amount) (denomination : Denomination) (prices : PriceBook) :
    Option (Option Decimal) :=
  match prices.value? denomination.pair with
  | none => some none
  | some price => do
    match ← tokensStrictly value with
    | none => some none
    | some amount => some ((amount.mul? price).map Decimal.cents)

namespace Billing

/-- One counter in a summary. -/
def lineStrictly (b : Billing) (prices : PriceBook) (c : Counter) : Option CounterLine := do
  let cumulative ← tokensStrictly (b.cumulative c)
  let lastAccrued ← tokensStrictly (b.lastGain c)
  let usd ← usdStrictly (b.cumulative c) c.denomination prices
  some ⟨c, cumulative, lastAccrued, usd⟩

/-- All totals at the prices of a book. -/
def summaryStrictly (b : Billing) (prices : PriceBook) : Option BillingSummary := do
  let totalL1Cost ← tokensStrictly b.totalL1Cost
  let totalL1CostUsd ← usdStrictly b.totalL1Cost .secondary prices
  let relayerCost ← tokensStrictly b.relayerCost
  let relayerCostUsd ← usdStrictly b.relayerCost .secondary prices
  let counters ← (Side.l1.counters ++ Side.l2.counters).mapM (b.lineStrictly prices)
  some ⟨totalL1Cost, totalL1CostUsd, relayerCost, relayerCostUsd, counters⟩

end Billing

theorem tokensStrictly_eq (value : Amount) : tokensStrictly value = some (tokens value) := by
  unfold tokensStrictly tokens
  rw [toDecimalStrictly_eq]
  cases value.toDecimal tokenDecimals <;> rfl

theorem usdStrictly_eq (value : Amount) (denomination : Denomination) (prices : PriceBook) :
    usdStrictly value denomination prices = some (usd value denomination prices) := by
  unfold usdStrictly usd
  rw [tokensStrictly_eq]
  cases prices.value? denomination.pair with
  | none => rfl
  | some price =>
    cases htokens : tokens value with
    | none => rfl
    | some amount => cases hproduct : amount.mul? price <;> simp [hproduct]

theorem summaryStrictly_eq (b : Billing) (prices : PriceBook) :
    b.summaryStrictly prices = some (b.summary prices) := by
  have hline : b.lineStrictly prices = fun c => pure (b.line prices c) := by
    funext c
    simp only [Billing.lineStrictly, tokensStrictly_eq, usdStrictly_eq]
    rfl
  simp only [Billing.summaryStrictly, tokensStrictly_eq, usdStrictly_eq, hline, List.mapM_pure]
  rfl

end RollupFees
