import Mathlib.Order.Lattice.Nat
import RollupFees.Proofs.Steering.Convergence

/-!
# What one move can reach

The values that one move can reach lie between two ends, which follow from the current value and the
bounds alone. The target only selects among them: a move goes to the value between the ends that is
nearest to the target, unless the target is too near for a move at all.

Both ends are rounded, upward in another way than downward, and both may be cut off at the end of
the range of amounts. That does not matter for the order of targets, since no end depends on them.

## Main definitions

* `Bounds.Reaches` : the ends of what one move can reach

## Main results

* `exists_reaches` : one move reaches what lies between two ends
* `next_keeps_order` : a higher target never leads to a lower value
-/

namespace RollupFees

variable {bounds : Bounds} {current : Amount}

/-- Two ends around the current value, between which a decision about any target within the bounds
goes as near to the target as it can. A target that is too near is left alone. -/
structure Bounds.Reaches (bounds : Bounds) (current : Amount) (lower upper : ℕ) : Prop where
  lower_le : lower ≤ current.toNat
  le_upper : current.toNat ≤ upper
  toNat_next : ∀ target, bounds.contains target = true →
    (bounds.next target current).toNat =
      if target.distance current < bounds.minStep then current.toNat
      else max lower (min target.toNat upper)

/-! ### The ends of a move -/

/-- A limited move goes as near to the target as its two ends let it. Where the limit leaves no unit
to move, both ends are the current value. -/
theorem exists_ends_of_limitedMove (current : Amount) (parts : ℕ) :
    ∃ lower upper, lower ≤ current.toNat ∧ current.toNat ≤ upper ∧ ∀ target,
      ((limitedMove target current parts).getD current).toNat =
        max lower (min target.toNat upper) := by
  by_cases hstep : (current.satMul (Amount.clamp parts)).div (Amount.clamp million) = 0
  · refine ⟨current.toNat, current.toNat, le_rfl, le_rfl, fun target => ?_⟩
    rw [limitedMove, if_pos hstep, Option.getD_none]
    omega
  · have hmax := current.le_max
    have hupper : current.toNat ≤ (current.satAdd
        ((current.satMul (Amount.clamp parts)).div (Amount.clamp million))).toNat := by
      rw [Amount.toNat_satAdd, Amount.maxNat]
      omega
    have hlower : (current.satSub (((current.satMul (Amount.clamp parts)).satAdd
        (Amount.clamp (million - 1))).div (Amount.clamp million))).toNat ≤ current.toNat := by
      rw [Amount.toNat_satSub]
      exact Nat.sub_le _ _
    refine ⟨_, _, hlower, hupper, fun target => ?_⟩
    rw [limitedMove, if_neg hstep]
    simp only [Amount.lt_iff]
    split
    · rw [Option.getD_some, Amount.toNat_nearer]
      omega
    · rw [Option.getD_some, Amount.toNat_farther]
      omega

/-- The next value is as near to the target as two ends let it. Without a limit, or from zero, these
are the ends of the range. -/
theorem exists_ends_of_nextValue (hfraction : bounds.HasFraction) (current : Amount) :
    ∃ lower upper, lower ≤ current.toNat ∧ current.toNat ≤ upper ∧ ∀ target, ∃ next,
      nextValue target current bounds.maxDeltaFraction = .ok next ∧
        (next.getD current).toNat = max lower (min target.toNat upper) := by
  by_cases hfree : ∀ target, nextValue target current bounds.maxDeltaFraction = .ok (some target)
  · refine ⟨0, Amount.maxNat, Nat.zero_le _, current.le_max, fun target => ?_⟩
    refine ⟨some target, hfree target, ?_⟩
    rw [Option.getD_some, Nat.zero_max]
    exact (min_eq_left target.le_max).symm
  · obtain ⟨target, hlimited⟩ := not_forall.1 hfree
    obtain ⟨hcurrent, f, hlimit⟩ :=
      (nextValue_eq_or target current bounds.maxDeltaFraction).resolve_left hlimited
    obtain ⟨lower, upper, hlower, hupper, hmove⟩ :=
      exists_ends_of_limitedMove current ⌊f.toRat * 10 ^ 6⌋₊
    exact ⟨lower, upper, hlower, hupper, fun target =>
      ⟨_, (nextValue_of_limit hfraction hlimit hcurrent target).2, hmove target⟩⟩

/-! ### Decisions -/

/-- **One move reaches what lies between two ends**, from a value within the bounds. -/
theorem exists_reaches (hfraction : bounds.HasFraction)
    (hcurrent : bounds.contains current = true) :
    ∃ lower upper, bounds.Reaches current lower upper := by
  obtain ⟨lower, upper, hlower, hupper, hnext⟩ := exists_ends_of_nextValue hfraction current
  refine ⟨lower, upper, hlower, hupper, fun target htarget => ?_⟩
  obtain ⟨next, hvalue, hends⟩ := hnext target
  by_cases hnear : target.distance current < bounds.minStep
  · have hunworthy : bounds.worthMoving target current ≠ none := fun hworth =>
      absurd (Amount.le_iff.1 (worthMoving_eq_none_iff.1 hworth).2.2) (not_le.2 hnear)
    obtain ⟨reason, hreason⟩ := Option.ne_none_iff_exists'.1 hunworthy
    rw [if_pos hnear, Bounds.next, Bounds.decide, hreason]
  rw [if_neg hnear]
  by_cases hreached : target = current
  · subst hreached
    rw [Bounds.next, Bounds.decide, Bounds.worthMoving, if_neg (not_not.2 htarget), if_pos rfl]
    dsimp only
    omega
  · have hworth : bounds.worthMoving target current = none :=
      worthMoving_eq_none_iff.2 ⟨htarget, hreached, Amount.le_iff.2 (not_lt.1 hnear)⟩
    rw [← hends, Bounds.next, Bounds.decide, hworth, hvalue]
    cases next with
    | none => rfl
    | some v =>
      have hinside : bounds.contains v = true :=
        contains_of_approaches htarget hcurrent (approaches_of_nextValue hreached hvalue)
      simp [Except.map, hinside]

/-- **A higher target never leads to a lower value.** Take bounds that do not limit a move, or limit
it to a fraction, and a value on chain within them. Every target within the bounds is decided about,
and the value on chain afterwards lies between the one before and the target. Of two such targets,
the higher one does not leave the lower value. -/
theorem next_keeps_order (hfraction : bounds.HasFraction)
    (hcurrent : bounds.contains current = true) :
    (∀ target, bounds.contains target = true →
      (∃ action, bounds.decide target current = .ok action) ∧
      (bounds.next target current).toNat ∈ Set.uIcc current.toNat target.toNat) ∧
    ∀ low high, bounds.contains low = true → bounds.contains high = true → low ≤ high →
      bounds.next low current ≤ bounds.next high current := by
  obtain ⟨lower, upper, hreaches⟩ := exists_reaches hfraction hcurrent
  have hlower := hreaches.lower_le
  have hupper := hreaches.le_upper
  constructor
  · intro target htarget
    refine ⟨isScalable_of_hasFraction hfraction target current, ?_⟩
    rw [hreaches.toNat_next target htarget, Set.mem_uIcc]
    split <;> omega
  · intro low high hlow hhigh hle
    rw [Amount.le_iff] at hle ⊢
    rw [hreaches.toNat_next low hlow, hreaches.toNat_next high hhigh]
    simp only [Amount.lt_iff, toNat_distance]
    split <;> split <;> omega

/-- Five percent of thirty are rounded up on the way down, and down on the way up. -/
theorem next_twentieth :
    Bounds.twentieth.HasFraction ∧ Bounds.twentieth.contains (Amount.clamp 30) = true ∧
    Bounds.twentieth.contains (Amount.clamp 1) = true ∧
    Bounds.twentieth.contains (Amount.clamp 1000) = true ∧
    Bounds.twentieth.next (Amount.clamp 1) (Amount.clamp 30) = Amount.clamp 28 ∧
    Bounds.twentieth.next (Amount.clamp 1000) (Amount.clamp 30) = Amount.clamp 31 ∧
    Amount.clamp 28 ≤ Amount.clamp 31 := by
  have hcurrent : Bounds.twentieth.contains (Amount.clamp 30) = true := by decide
  have hlow : Bounds.twentieth.contains (Amount.clamp 1) = true := by decide
  have hhigh : Bounds.twentieth.contains (Amount.clamp 1000) = true := by decide
  have hdown : Bounds.twentieth.next (Amount.clamp 1) (Amount.clamp 30) = Amount.clamp 28 :=
    Bounds.next_of_decide decide_twentieth
  have hup : Bounds.twentieth.next (Amount.clamp 1000) (Amount.clamp 30) = Amount.clamp 31 := by
    decide +kernel
  have hle := (next_keeps_order Bounds.hasFraction_twentieth hcurrent).2 _ _ hlow hhigh (by decide)
  rw [hdown, hup] at hle
  exact ⟨Bounds.hasFraction_twentieth, hcurrent, hlow, hhigh, hdown, hup, hle⟩

end RollupFees
