import RollupFees.Proofs.Decimal.Rounding
import RollupFees.Proofs.Steering.Decision

/-!
# The share of a move

A limited move is measured in shares of the value that it changes, and both ends of what it may
reach are rounded down. Upward this keeps a move within its share. Downward it does not: the lower
end is up to a unit further away than the share allows, and this is the only value by which a move
exceeds it.

## Main results

* `within_share_or_floor` : a move is within its share, or ends at the rounded lower end
* `share_exceeded` : the second does happen
-/

namespace RollupFees

/-- **A move is within its share**, or it is a move downward that ends at the largest integer below
the exact end of the share. -/
theorem within_share_or_floor {bounds : Bounds} {target current v : Amount} {f : Decimal}
    (hlimit : bounds.maxDeltaFraction = some f) (hf : 0 < f.toRat) (hcurrent : current ≠ 0)
    (h : bounds.decide target current = .ok (.setTo v)) :
    |(v.toNat : ℚ) - current.toNat| ≤ f.toRat * current.toNat ∨
      v < current ∧ (v.toNat : ℤ) = ⌊(current.toNat : ℚ) * (1 - f.toRat)⌋ := by
  obtain ⟨hfloor, hceiling⟩ :=
    withinLimit_of_decide hlimit (Decimal.isNegative_eq_false hf.le) hcurrent h
  have hup : (v.toNat : ℚ) ≤ current.toNat * (1 + f.toRat) := by
    exact_mod_cast Int.le_floor.1 hceiling
  rcases le_or_gt ((current.toNat : ℚ) * (1 - f.toRat)) v.toNat with hwithin | hbelow
  · left
    rw [abs_le]
    constructor <;> linarith
  · right
    constructor
    · have hshare : (0 : ℚ) ≤ current.toNat * f.toRat := by positivity
      have hless : (v.toNat : ℚ) < current.toNat := by linarith
      exact_mod_cast hless
    · refine le_antisymm (Int.le_floor.2 ?_) hfloor
      exact_mod_cast hbelow.le

/-- Bounds that let a value move by five percent. -/
def Bounds.twentieth : Bounds :=
  ⟨some ⟨50, 3, by decide, by decide⟩, 1, 1, Amount.clamp 1000⟩

theorem Bounds.hasFraction_twentieth : twentieth.HasFraction := by
  rintro f ⟨⟩
  exact Settings.isFraction_iff.1 (by decide)

/-- From thirty, a move downward by five percent goes to twenty-eight. -/
theorem decide_twentieth : Bounds.twentieth.decide (Amount.clamp 1) (Amount.clamp 30) =
    .ok (.setTo (Amount.clamp 28)) := by decide +kernel

theorem toRat_twentieth {f : Decimal} (h : Bounds.twentieth.maxDeltaFraction = some f) :
    f.toRat = 1 / 20 := by
  obtain rfl := Option.some.inj h
  norm_num [Decimal.toRat]

/-- That is the rounded lower end, half a unit beyond the share. -/
theorem floor_twentieth : Bounds.twentieth.decide (Amount.clamp 1) (Amount.clamp 30) =
    .ok (.setTo (Amount.clamp 28)) ∧ (28 : ℤ) = ⌊(30 : ℚ) * (1 - 1 / 20)⌋ := by
  refine ⟨decide_twentieth, ?_⟩
  have hf := toRat_twentieth rfl
  rcases within_share_or_floor rfl (by rw [hf]; norm_num) (by decide) decide_twentieth with
    hwithin | ⟨-, hfloor⟩
  · rw [hf] at hwithin
    norm_num [Amount.maxNat, abs_le] at hwithin
  · rw [hf] at hfloor
    exact hfloor

/-- A move may exceed its share. -/
theorem share_exceeded : ¬ ∀ (bounds : Bounds) (f : Decimal) (target current v : Amount),
    bounds.maxDeltaFraction = some f → 0 < f.toRat → f.toRat < 1 → current ≠ 0 →
      bounds.decide target current = .ok (.setTo v) →
        |(v.toNat : ℚ) - current.toNat| ≤ f.toRat * current.toNat := by
  intro hshare
  have hf := toRat_twentieth rfl
  have hwithin := hshare Bounds.twentieth _ (Amount.clamp 1) (Amount.clamp 30) (Amount.clamp 28) rfl
    (by rw [hf]; norm_num) (by rw [hf]; norm_num) (by decide) decide_twentieth
  rw [hf] at hwithin
  norm_num [Amount.maxNat, abs_le] at hwithin

end RollupFees
