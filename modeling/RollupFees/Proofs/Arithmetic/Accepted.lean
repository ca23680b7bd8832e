import RollupFees.Proofs.Arithmetic.Strict
import RollupFees.Proofs.Ledger.Conservation
import RollupFees.Proofs.Steering.Limit

/-!
# Accepted settings keep the arithmetic in range

Settings are accepted only if the limits of both moves are fractions, more than nothing and less
than one. Such a fraction times a million always fits into a decimal: if it has six places or more,
six of them can be dropped, and if it has fewer it is a small number. This is the only calculation
of a tick that depends on the settings for its range, so with accepted settings no calculation of a
tick leaves its range, whatever the chain, the feeds and the receipts say, and the service never
breaks down.

## Main results

* `Decimal.exists_mul?_million` : a fraction times a million fits
* `Settings.isScalable_of_validate` : accepted settings have limits that can be scaled
* `arithmetic_in_range` : with accepted settings every strict calculation has its answer
-/

namespace RollupFees

namespace Decimal

theorem natAbs_one_le : (1 : Int).natAbs ≤ 2 ^ 96 - 1 := by decide

theorem natAbs_withSign (a b : Decimal) (k : Nat) : (withSign a b k).natAbs = k := by
  unfold withSign
  split
  · rfl
  · rw [Int.natAbs_neg]
    rfl

/-- Digits can be dropped from a million times a fraction until it fits. -/
theorem exists_leastDrop?_million {f : Decimal} (h : Settings.isFraction f = true) :
    ∃ t, leastDrop? (f.coefficient.natAbs * million) f.scale 0 = some t := by
  simp only [Settings.isFraction, Bool.and_eq_true, decide_eq_true_eq] at h
  obtain ⟨hpos, hlt⟩ := h
  have hbound : f.coefficient.natAbs ≤ maxCoefficient := f.natAbs_le
  rw [← Option.isSome_iff_exists, leastDrop?, List.find?_isSome]
  by_cases hplaces : 6 ≤ f.scale
  · -- six places less leave the coefficient itself
    have hsix : roundHalfEven (f.coefficient.natAbs * million) (10 ^ 6) = f.coefficient.natAbs :=
      roundHalfEven_mul _ _ (by decide)
    refine ⟨6, List.mem_range'_1.2 (by omega), decide_eq_true ?_⟩
    rwa [hsix]
  · -- with few places the coefficient is small
    have hsmall : f.coefficient.natAbs < 10 ^ 6 := by
      have hpow : 10 ^ f.scale ≤ 10 ^ 6 := Nat.pow_le_pow_right (by decide) (by omega)
      omega
    have hnone : roundHalfEven (f.coefficient.natAbs * million) (10 ^ 0) =
        f.coefficient.natAbs * million := by
      have := roundHalfEven_mul (f.coefficient.natAbs * million) 1 (by decide)
      rwa [Nat.mul_one] at this
    refine ⟨0, List.mem_range'_1.2 (by omega), decide_eq_true ?_⟩
    rw [hnone, million, maxCoefficient]
    omega

/-- **A fraction times a million fits into a decimal.** -/
theorem exists_mul?_million {f m : Decimal} (h : Settings.isFraction f = true)
    (hm : ofInt? million = some m) : ∃ p, f.mul? m = some p := by
  obtain ⟨hcoefficient, hscale⟩ := eq_of_mk? hm
  obtain ⟨t, ht⟩ := exists_leastDrop?_million h
  have hplaces := f.scale_le
  have hfits : roundHalfEven (f.coefficient.natAbs * million) (10 ^ t) ≤ maxCoefficient := by
    simpa using List.find?_some ht
  simp only [mul?, hcoefficient, hscale, Int.natAbs_natCast, Nat.add_zero]
  by_cases hzero : f.coefficient.natAbs = 0 ∨ million = 0
  · exact ⟨0, if_pos hzero⟩
  · have hnone : f.scale - maxScale = 0 := by
      rw [maxScale]
      omega
    rw [if_neg hzero, if_neg (by omega), hnone, ht, Option.bind_some]
    refine ⟨_, dif_pos ⟨?_, ?_⟩⟩
    · rwa [natAbs_withSign]
    · exact Nat.le_trans (Nat.sub_le _ _) hplaces

end Decimal

/-- The parts per million of a fraction are known. -/
theorem exists_partsPerMillion {f : Decimal} (h : Settings.isFraction f = true) :
    ∃ n, partsPerMillion f = .ok n := by
  obtain ⟨m, hm⟩ := Decimal.exists_ofInt? (n := million) (by decide)
  obtain ⟨p, hp⟩ := Decimal.exists_mul?_million h hm
  refine ⟨(p.floorBelow? (2 ^ 64)).getD million, ?_⟩
  simp only [partsPerMillion, hm, Option.bind_some, hp]

namespace Settings

variable {s : Settings}

/-- In accepted settings both limits are fractions. -/
theorem isFraction_of_validate (h : s.validate = .ok ()) :
    isFraction s.oracle.priceRatioMaxChange = true ∧
      isFraction s.oracle.overheadMaxChange = true := by
  unfold validate need at h
  by_cases hratio : isFraction s.oracle.priceRatioMaxChange = true
  · by_cases hoverhead : isFraction s.oracle.overheadMaxChange = true
    · exact ⟨hratio, hoverhead⟩
    · simp [hratio, hoverhead, bind, Except.bind] at h
  · simp [hratio, bind, Except.bind] at h

/-- Accepted settings have limits that can be scaled. -/
theorem isScalable_of_validate (h : s.validate = .ok ()) : s.controller.IsScalable := by
  obtain ⟨hratio, hoverhead⟩ := isFraction_of_validate h
  constructor
  · refine Bounds.isScalable_of_partsPerMillion fun f hf => ?_
    obtain rfl : s.oracle.priceRatioMaxChange = f := Option.some.inj hf
    exact exists_partsPerMillion hratio
  · refine Bounds.isScalable_of_partsPerMillion fun f hf => ?_
    obtain rfl : s.oracle.overheadMaxChange = f := Option.some.inj hf
    exact exists_partsPerMillion hoverhead

end Settings

/-- Bounds that can be scaled decide strictly. -/
theorem Bounds.IsScalable.decideStrictly {bounds : Bounds} (h : bounds.IsScalable)
    (target current : Amount) : ∃ action, bounds.decideStrictly target current = some action ∧
      bounds.decide target current = .ok action := by
  obtain ⟨action, haction⟩ := h target current
  refine ⟨action, ?_, haction⟩
  rw [decideStrictly_eq, haction]
  rfl

/-- **Accepted settings keep the arithmetic in range.** Take any settings that are accepted. Every
decision about a parameter has an action, whatever the target and the value on chain. The target of
the price ratio is a pair of values or a reason to leave the parameter alone, whatever the prices
and the decimals on chain, and so is the target of the overhead, whatever gas and sizes the batches
have. Every answer of a feed and every amount is converted or refused, whatever its decimals. A
summary has all its totals, of whatever counters at whatever prices. In each of these, no
difference, quotient, power, product or integer that has to fit does not fit. And however the
surroundings answer, no run of ticks breaks down. -/
theorem arithmetic_in_range (s : Settings) (h : s.validate = .ok ()) :
    (∀ bounds ∈ [s.controller.priceRatio, s.controller.overhead, s.controller.l1BaseFee.band],
      ∀ target current, ∃ action, bounds.decideStrictly target current = some action ∧
        bounds.decide target current = .ok action) ∧
    (∀ native secondary decimals,
      priceRatioTargetStrictly native secondary decimals s.controller.priceRatioMultiplier =
        some (priceRatioTarget native secondary decimals s.controller.priceRatioMultiplier)) ∧
    (∀ gasUsed batchSize, overheadTargetStrictly gasUsed batchSize s.controller.overheadRatio =
      some (overheadTarget gasUsed batchSize s.controller.overheadRatio)) ∧
    (∀ (value : Amount) (decimals : Nat),
      value.toDecimalStrictly decimals = some (value.toDecimal decimals)) ∧
    (∀ raw : RawPrice, raw.normalizeStrictly = some raw.normalize) ∧
    (∀ (b : Billing) (prices : PriceBook),
      b.summaryStrictly prices = some (b.summary prices)) ∧
    ∀ (σ : Type) (env : Answerer Query.Answer σ) (accounts : Accounts) (interval : Duration)
      (service : Service) (n : Nat) (w : σ), ∃ after,
        ((ticks ⟨accounts, interval, s.controller⟩ service n).run env w).1 = .ok after := by
  have hscale := Settings.isScalable_of_validate h
  have hmultiplier : s.controller.priceRatioMultiplier ≤ Decimal.maxCoefficient := by
    have := s.oracle.priceRatioMultiplier.toNat_lt
    simp only [Settings.controller, Decimal.maxCoefficient]
    omega
  have hratio : s.controller.overheadRatio ≤ Amount.maxNat := by
    have := s.oracle.overheadRatio.toNat_lt
    simp only [Settings.controller, Amount.maxNat]
    omega
  refine ⟨?_, ?_, ?_, toDecimalStrictly_eq, normalizeStrictly_eq, summaryStrictly_eq, ?_⟩
  · simp only [List.forall_mem_cons, List.not_mem_nil, false_imp_iff, implies_true, and_true]
    exact ⟨hscale.priceRatio.decideStrictly, hscale.overhead.decideStrictly,
      (Bounds.isScalable_band _).decideStrictly⟩
  · intro native secondary decimals
    exact priceRatioTargetStrictly_eq native secondary decimals hmultiplier
  · intro gasUsed batchSize
    exact overheadTargetStrictly_eq gasUsed batchSize hratio
  · intro σ env accounts interval service n w
    let setup : Setup := ⟨accounts, interval, s.controller⟩
    have hsetup : setup.controller.IsScalable := hscale
    exact ticks_run_isOk hsetup env service n w

/-- Settings whose limits have as many places as a decimal can keep. -/
def Settings.finelyLimited : Settings where
  rpc := ⟨"http://localhost:8545", "http://localhost:9545", .seconds 10, .seconds 1⟩
  contracts := { addressManager := "0x4100000000000000000000000000000000000041" }
  accounts := ⟨"0x1100000000000000000000000000000000000011",
    "0x2200000000000000000000000000000000000022", "0x3300000000000000000000000000000000000033",
    "0x4400000000000000000000000000000000000044"⟩
  priceFeeds :=
    ⟨⟨"http://localhost:8545", "0x4500000000000000000000000000000000000045", .aggregator, none⟩,
      ⟨"http://localhost:8545", "0x4600000000000000000000000000000000000046", .lastPrice, some 6⟩⟩
  oracle :=
    { priceRatioMaxChange := ⟨9999999999999999999999999999, 28, by decide, by decide⟩
      overheadMaxChange := ⟨1, 28, Decimal.natAbs_one_le, by decide⟩ }

/-- Such settings are accepted. With them a decision is made about the largest value on chain, an
answer with 255 decimals is refused, and a service runs on. -/
theorem arithmetic_finelyLimited :
    Settings.finelyLimited.validate = .ok () ∧
    (∃ action, Settings.finelyLimited.controller.overhead.decideStrictly (Amount.clamp 3000)
      (Amount.clamp Amount.maxNat) = some action) ∧
    RawPrice.normalizeStrictly ⟨Amount.clamp Amount.maxNat, 255⟩ =
      some (.error (.conversion .overflow)) ∧
    ∃ after, ((ticks ⟨Accounts.numbered, ⟨0⟩, Settings.finelyLimited.controller⟩ Service.fresh
      5).run refusingOnce 0).1 = .ok after := by
  have haccepted : Settings.finelyLimited.validate = .ok () := by decide +kernel
  obtain ⟨hdecide, -, -, -, hfeed, -, hrun⟩ :=
    arithmetic_in_range Settings.finelyLimited haccepted
  refine ⟨haccepted, ?_, ?_, hrun Nat refusingOnce Accounts.numbered ⟨0⟩ Service.fresh 5 0⟩
  · obtain ⟨action, haction, -⟩ := hdecide Settings.finelyLimited.controller.overhead (by simp)
      (Amount.clamp 3000) (Amount.clamp Amount.maxNat)
    exact ⟨action, haction⟩
  · rw [hfeed]
    decide +kernel

end RollupFees
