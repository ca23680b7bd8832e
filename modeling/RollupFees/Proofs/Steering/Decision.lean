import RollupFees.Proofs.Arithmetic.Accepted

/-!
# The exact decision

A decision about a target is specified with unbounded integers: whether the target is worth a move,
how far the move may go, and whether what it reaches lies within the hard bounds. The calculation
uses amounts, whose sums and products stop at the largest one, and a decimal that a fraction is
scaled with. None of this can be told from the decision.

Upward nothing stops, since the target lies below the hard ceiling. Downward a product can stop,
from a value of some 236 bits on; then a move that is limited to less than the whole still ends far
above any ceiling of 64 bits, in exact arithmetic as well.

## Main definitions

* `exactMove` : the furthest value on the way to a target, in unbounded integers
* `exactDecision` : what to do about a target, in unbounded integers
* `Bounds.HasFraction`, `Bounds.IsNarrow` : what accepted settings give

## Main results

* `rel_exactMove` : a limited move is the exact one, or both are above every ceiling
* `decide_eq_exactDecision` : a decision is the exact one
-/

namespace RollupFees

/-! ### The specification -/

/-- The furthest value on the way to a target, when a move may change a value by a fraction of it.
The fraction counts in whole parts per million. Nothing if the change rounds down to zero. -/
def exactMove (fraction : ℚ) (target current : ℕ) : Option ℕ :=
  let parts := ⌊fraction * 10 ^ 6⌋₊
  if current * parts / 10 ^ 6 = 0 then none
  else if current < target then some (min target (current * (10 ^ 6 + parts) / 10 ^ 6))
  else some (max target (current * (10 ^ 6 - parts) / 10 ^ 6))

/-- The next value on the way to a target. A value of zero is no base for a fraction. -/
def exactNext (fraction : Option ℚ) (target current : ℕ) : Option ℕ :=
  match fraction with
  | none => some target
  | some f => if current = 0 then some target else exactMove f target current

/-- What to do about a target: the value to write, or the reason to leave the parameter alone. -/
def exactDecision (floor ceiling minStep : ℕ) (fraction : Option ℚ) (target current : ℕ) :
    Except SkipReason ℕ :=
  if ¬ (floor ≤ target ∧ target ≤ ceiling) then .error .outOfBounds
  else if target = current then .error .atTarget
  else if ((target : ℤ) - current).natAbs < minStep then .error .belowMinStep
  else
    match exactNext fraction target current with
    | none => .error .belowMinStep
    | some next =>
      if floor ≤ next ∧ next ≤ ceiling then .ok next else .error .outOfBounds

/-- An action as a value to write or a reason to leave the parameter alone. -/
def Action.outcome : Action → Except SkipReason ℕ
  | .noOp reason => .error reason
  | .setTo value => .ok value.toNat

namespace Bounds

/-- The hard ceiling has no more than 64 bits. -/
def IsNarrow (b : Bounds) : Prop := b.hardCeiling.toNat < 2 ^ 64

/-- A move is not limited, or it is limited to a fraction. -/
def HasFraction (b : Bounds) : Prop := ∀ f ∈ b.maxDeltaFraction, 0 < f.toRat ∧ f.toRat < 1

end Bounds

/-! ### Parts per million -/

theorem Settings.isFraction_iff {f : Decimal} :
    isFraction f = true ↔ 0 < f.toRat ∧ f.toRat < 1 := by
  have hpow : (0 : ℚ) < (10 ^ f.scale : ℕ) := by positivity
  rw [isFraction, Bool.and_eq_true, decide_eq_true_eq, decide_eq_true_eq, Decimal.toRat,
    div_pos_iff_of_pos_right hpow, div_lt_one hpow]
  norm_cast

/-- The parts per million of a fraction are its floor, fewer than a million. -/
theorem partsPerMillion_eq {f : Decimal} (h : Settings.isFraction f = true) :
    partsPerMillion f = .ok ⌊f.toRat * 10 ^ 6⌋₊ ∧ ⌊f.toRat * 10 ^ 6⌋₊ < 10 ^ 6 := by
  obtain ⟨hpos, hlt⟩ := Settings.isFraction_iff.1 h
  have hmillion : ((million : ℕ) : ℚ) = 10 ^ 6 := by norm_num [million]
  have hfewer : ⌊f.toRat * 10 ^ 6⌋₊ < 10 ^ 6 := by
    rw [Nat.floor_lt (by positivity)]
    push_cast
    linarith
  obtain ⟨m, hm⟩ := Decimal.exists_ofInt? (n := million) (by decide)
  obtain ⟨p, hp⟩ := Decimal.exists_mul?_million h hm
  have hfloor : p.floor = (⌊f.toRat * 10 ^ 6⌋₊ : ℤ) := by
    rw [p.floor_eq, Decimal.toRat_mul?_million hm hp, hmillion,
      Int.natCast_floor_eq_floor (by positivity)]
  refine ⟨?_, hfewer⟩
  simp only [partsPerMillion, hm, Option.bind_some, hp, Decimal.floorBelow?, hfloor]
  rw [if_pos (by omega), Option.getD_some, Int.toNat_natCast]

/-! ### Limited moves -/

variable {target current : Amount} {parts : ℕ}

/-- Two values agree, unless both are above every ceiling of 64 bits. -/
def AgreesBelow (a : Amount) (n : ℕ) : Prop := a.toNat = n ∨ 2 ^ 64 ≤ a.toNat ∧ 2 ^ 64 ≤ n

theorem toNat_clamp_million : (Amount.clamp million).toNat = 10 ^ 6 := by decide

theorem toNat_clamp_of_lt (h : parts < 10 ^ 6) : (Amount.clamp parts).toNat = parts := by
  rw [Amount.toNat_clamp, Amount.maxNat]
  omega

/-- Stopping at the largest amount does not show in whether a change rounds down to zero. -/
theorem step_eq_zero_iff (hparts : parts < 10 ^ 6) :
    (current.satMul (Amount.clamp parts)).div (Amount.clamp million) = 0 ↔
      current.toNat * parts / 10 ^ 6 = 0 := by
  rw [Amount.ext_iff, Amount.toNat_div, Amount.toNat_satMul, toNat_clamp_of_lt hparts,
    toNat_clamp_million, Amount.toNat_zero, Amount.maxNat]
  omega

/-- Upward nothing stops: the reach is the exact one. -/
theorem toNat_reach_up (htarget : target.toNat < 2 ^ 64) (hup : current < target)
    (hparts : parts < 10 ^ 6) :
    (current.satAdd ((current.satMul (Amount.clamp parts)).div (Amount.clamp million))).toNat =
      current.toNat * (10 ^ 6 + parts) / 10 ^ 6 := by
  rw [Amount.lt_iff] at hup
  have hsmall : current.toNat * parts < 2 ^ 64 * 10 ^ 6 :=
    Nat.mul_lt_mul'' (hup.trans htarget) hparts
  rw [Amount.toNat_satAdd, Amount.toNat_div, Amount.toNat_satMul, toNat_clamp_of_lt hparts,
    toNat_clamp_million, Amount.maxNat, Nat.mul_add]
  omega

/-- Downward the reach is the exact one, or a product stops and both are above every ceiling. -/
theorem agreesBelow_reach_down (hparts : parts < 10 ^ 6) :
    AgreesBelow (current.satSub (((current.satMul (Amount.clamp parts)).satAdd
      (Amount.clamp (million - 1))).div (Amount.clamp million)))
      (current.toNat * (10 ^ 6 - parts) / 10 ^ 6) := by
  have hshare : current.toNat * parts ≤ current.toNat * (10 ^ 6 - 1) :=
    Nat.mul_le_mul_left _ (by omega)
  have hrest : (Amount.clamp (million - 1)).toNat = 10 ^ 6 - 1 := by decide
  rw [AgreesBelow, Amount.toNat_satSub, Amount.toNat_div, Amount.toNat_satAdd, hrest,
    Amount.toNat_satMul, toNat_clamp_of_lt hparts, toNat_clamp_million, Amount.maxNat, Nat.mul_sub]
  generalize current.toNat * parts = change at hshare ⊢
  rcases Nat.lt_or_ge (2 ^ 256 - 1) (change + (10 ^ 6 - 1)) with hstops | hfits
  · -- less than the whole of such a value leaves a millionth of it
    right
    omega
  · left
    omega

theorem AgreesBelow.farther {a : Amount} {n : ℕ} (h : AgreesBelow a n) (b : Amount) :
    AgreesBelow (if a ≤ b then b else a) (max b.toNat n) := by
  rw [AgreesBelow, Amount.toNat_farther]
  rcases h with h | h <;> omega

/-- **A limited move is the exact one**, or both are above every ceiling. -/
theorem rel_exactMove {f : ℚ} (htarget : target.toNat < 2 ^ 64)
    (hparts : ⌊f * 10 ^ 6⌋₊ < 10 ^ 6) :
    Option.Rel AgreesBelow (limitedMove target current ⌊f * 10 ^ 6⌋₊)
      (exactMove f target.toNat current.toNat) := by
  rw [limitedMove, exactMove]
  simp only [step_eq_zero_iff hparts, ← Amount.lt_iff]
  split
  · exact .none
  · split
    · next hup =>
      refine .some (.inl ?_)
      rw [Amount.toNat_nearer, toNat_reach_up htarget hup hparts]
    · exact .some ((agreesBelow_reach_down hparts).farther target)

/-! ### Decisions -/

variable {bounds : Bounds}

theorem contains_eq_true_iff {v : Amount} : bounds.contains v = true ↔
    bounds.hardFloor.toNat ≤ v.toNat ∧ v.toNat ≤ bounds.hardCeiling.toNat := by
  rw [Bounds.contains, Bool.and_eq_true, decide_eq_true_eq, decide_eq_true_eq, Amount.le_iff,
    Amount.le_iff]

theorem toNat_distance (a b : Amount) :
    (a.distance b).toNat = ((a.toNat : ℤ) - b.toNat).natAbs := by
  unfold Amount.distance
  split <;> next h =>
    rw [Amount.lt_iff] at h
    rw [Amount.toNat_satSub]
    omega

/-- The next value is the exact one, or both are above every ceiling. -/
theorem rel_exactNext (hfraction : bounds.HasFraction) (htarget : target.toNat < 2 ^ 64)
    (current : Amount) :
    ∃ next, nextValue target current bounds.maxDeltaFraction = .ok next ∧
      Option.Rel AgreesBelow next (exactNext (bounds.maxDeltaFraction.map Decimal.toRat)
        target.toNat current.toNat) := by
  cases hlimit : bounds.maxDeltaFraction with
  | none => exact ⟨some target, rfl, .some (.inl rfl)⟩
  | some f =>
    have hzero : current = 0 ↔ current.toNat = 0 := by rw [Amount.ext_iff, Amount.toNat_zero]
    simp only [nextValue, Option.map_some, exactNext, hzero]
    split
    · exact ⟨some target, rfl, .some (.inl rfl)⟩
    · obtain ⟨hparts, hfewer⟩ := partsPerMillion_eq (Settings.isFraction_iff.2 (hfraction f hlimit))
      exact ⟨_, by rw [hparts]; rfl, rel_exactMove htarget hfewer⟩

/-- Values that agree below every ceiling are both refused or both written. -/
theorem outcome_eq_of_agreesBelow (hnarrow : bounds.IsNarrow) {next : Amount} {n : ℕ}
    (h : AgreesBelow next n) :
    Action.outcome (if bounds.hardFloor.toNat ≤ next.toNat ∧ next.toNat ≤ bounds.hardCeiling.toNat
      then .setTo next else .noOp .outOfBounds) =
    if bounds.hardFloor.toNat ≤ n ∧ n ≤ bounds.hardCeiling.toNat then .ok n
      else .error .outOfBounds := by
  unfold Bounds.IsNarrow at hnarrow
  rcases h with rfl | ⟨habove, hexact⟩
  · split <;> rfl
  · rw [if_neg (by omega), if_neg (by omega)]
    rfl

/-- **A decision is the exact one.** Take bounds whose ceiling has no more than 64 bits and which do
not limit a move, or limit it to a fraction. Whatever the target and the value on chain, the
decision is the one that is made with unbounded integers. -/
theorem decide_eq_exactDecision (hnarrow : bounds.IsNarrow) (hfraction : bounds.HasFraction)
    (target current : Amount) :
    (bounds.decide target current).map Action.outcome =
      .ok (exactDecision bounds.hardFloor.toNat bounds.hardCeiling.toNat bounds.minStep.toNat
        (bounds.maxDeltaFraction.map Decimal.toRat) target.toNat current.toNat) := by
  rw [Bounds.decide, Bounds.worthMoving, exactDecision]
  simp only [contains_eq_true_iff, Amount.ext_iff, Amount.lt_iff, toNat_distance]
  by_cases hcontains : bounds.hardFloor.toNat ≤ target.toNat ∧
      target.toNat ≤ bounds.hardCeiling.toNat
  swap
  · rw [if_pos hcontains, if_pos hcontains]
    rfl
  rw [if_neg (not_not.2 hcontains), if_neg (not_not.2 hcontains)]
  by_cases hreached : target.toNat = current.toNat
  · rw [if_pos hreached, if_pos hreached]
    rfl
  rw [if_neg hreached, if_neg hreached]
  by_cases hnear : ((target.toNat : ℤ) - current.toNat).natAbs < bounds.minStep.toNat
  · rw [if_pos hnear, if_pos hnear]
    rfl
  rw [if_neg hnear, if_neg hnear]
  obtain ⟨next, hnext, hrel⟩ :=
    rel_exactNext hfraction (hcontains.2.trans_lt hnarrow) current
  rw [hnext]
  generalize exactNext _ target.toNat current.toNat = exact at hrel ⊢
  cases hrel with
  | none => rfl
  | some hagree => exact congrArg Except.ok (outcome_eq_of_agreesBelow hnarrow hagree)

/-- In accepted settings every ceiling has 64 bits and every limit is a fraction. -/
theorem Settings.isNarrow_and_hasFraction_of_validate {s : Settings} (h : s.validate = .ok ()) :
    ∀ bounds ∈ [s.controller.priceRatio, s.controller.overhead, s.controller.l1BaseFee],
      bounds.IsNarrow ∧ bounds.HasFraction := by
  obtain ⟨hratio, hoverhead⟩ := isFraction_of_validate h
  have hnarrow : ∀ n : UInt64, (OracleSettings.amount n).toNat < 2 ^ 64 := fun n =>
    (Nat.min_le_left _ _).trans_lt n.toNat_lt
  simp only [List.forall_mem_cons, List.not_mem_nil, false_imp_iff, implies_true, and_true]
  refine ⟨⟨hnarrow _, ?_⟩, ⟨hnarrow _, ?_⟩, hnarrow _, ?_⟩
  · rintro f ⟨⟩
    exact isFraction_iff.1 hratio
  · rintro f ⟨⟩
    exact isFraction_iff.1 hoverhead
  · rintro f ⟨⟩

/-- The largest value on chain is far above what a move can leave of it, though the product of the
two stops. -/
theorem exactDecision_finelyLimited :
    Settings.finelyLimited.controller.priceRatio.IsNarrow ∧
    Settings.finelyLimited.controller.priceRatio.HasFraction ∧
    exactDecision 1 1000000000 1 (some (1 - 1 / 10 ^ 28)) 1000 Amount.maxNat =
      .error .outOfBounds := by
  have hnarrow : Settings.finelyLimited.controller.priceRatio.IsNarrow := by
    unfold Bounds.IsNarrow
    decide
  have hfraction : Settings.finelyLimited.controller.priceRatio.HasFraction := by
    rintro f ⟨⟩
    exact Settings.isFraction_iff.1 (by decide)
  refine ⟨hnarrow, hfraction, ?_⟩
  have hdecide : Settings.finelyLimited.controller.priceRatio.decide 1000 (.clamp Amount.maxNat) =
      .ok (.noOp .outOfBounds) := by decide +kernel
  have hexact := decide_eq_exactDecision hnarrow hfraction 1000 (.clamp Amount.maxNat)
  have hlimit : Settings.finelyLimited.controller.priceRatio.maxDeltaFraction.map Decimal.toRat =
      some (1 - 1 / 10 ^ 28) := by
    simp only [Settings.controller, OracleSettings.priceRatioBounds, Settings.finelyLimited,
      Option.map_some, Decimal.toRat]
    norm_num
  rw [hdecide, hlimit] at hexact
  exact (Except.ok.inj hexact).symm

end RollupFees
