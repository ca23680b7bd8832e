import RollupFees.Proofs.Steering.Share

/-!
# Moves come to rest

A parameter with a fixed target moves toward it and never past it. Every value that is written is
strictly nearer to the target than the one that it replaces, so that moves come to an end. Where
they end is not always the target: what is left may be too small a step, or too small a share of
the value, or a value outside the hard bounds may be too far away for one move to reach them.

The first part holds of every bounds, whatever their limit: a step that is not zero is nearer even
if a product stops at the largest amount. Only the ways to rest need a limit that is a fraction.

## Main definitions

* `Amount.Approaches` : a value replaces another one without passing the target
* `Bounds.course` : the values on chain under decisions about one target
* `Bounds.RestsAt` : the values that stay as they are

## Main results

* `approaches_of_decide` : what is written is nearer to the target
* `restsAt_iff` : the values about which nothing is decided
* `course_comes_to_rest` : decisions about one target come to rest
-/

namespace RollupFees

variable {bounds : Bounds} {target current v : Amount}

/-! ### Nearer values -/

/-- A value is strictly nearer to the target than the one before, and on the same side of it unless
it is the target. -/
structure Amount.Approaches (target before after : Amount) : Prop where
  nearer : after.distance target < before.distance target
  side : before < target ∧ after ≤ target ∨ target < before ∧ target ≤ after

theorem Amount.approaches_iff {before after : Amount} :
    target.Approaches before after ↔
      before.toNat < after.toNat ∧ after.toNat ≤ target.toNat ∨
        target.toNat ≤ after.toNat ∧ after.toNat < before.toNat := by
  constructor
  · rintro ⟨hnearer, hside⟩
    simp only [lt_iff, le_iff, toNat_distance] at hnearer hside
    omega
  · intro h
    constructor <;> simp only [lt_iff, le_iff, toNat_distance] <;> omega

/-- A limited move is a step toward the target: a step that is not zero changes the value even where
it stops at the end of the range. -/
theorem approaches_of_limitedMove {parts : ℕ} (hne : target ≠ current)
    (h : limitedMove target current parts = some v) : target.Approaches current v := by
  rw [Amount.approaches_iff]
  have hne' : target.toNat ≠ current.toNat := fun heq => hne (Amount.ext heq)
  have hmax := target.le_max
  unfold limitedMove at h
  generalize current.satMul (Amount.clamp parts) = scaled at h
  dsimp only at h
  split at h
  · cases h
  next hstep =>
  have hpos : 10 ^ 6 ≤ scaled.toNat := by
    by_contra hsmall
    refine hstep (Amount.ext ?_)
    rw [Amount.toNat_div, toNat_clamp_million, Amount.toNat_zero]
    exact Nat.div_eq_of_lt (by omega)
  split at h
  · next hup =>
    obtain rfl := Option.some.inj h
    rw [Amount.lt_iff] at hup
    rw [Amount.toNat_nearer, Amount.toNat_satAdd, Amount.toNat_div, toNat_clamp_million,
      Amount.maxNat]
    omega
  · next hdown =>
    obtain rfl := Option.some.inj h
    rw [Amount.lt_iff] at hdown
    have hrounded : 10 ^ 6 ≤ (scaled.satAdd (Amount.clamp (million - 1))).toNat := by
      rw [Amount.toNat_satAdd, Amount.maxNat]
      omega
    rw [Amount.toNat_farther, Amount.toNat_satSub, Amount.toNat_div, toNat_clamp_million]
    omega

theorem approaches_target (hne : target ≠ current) : target.Approaches current target := by
  have hne' : target.toNat ≠ current.toNat := fun heq => hne (Amount.ext heq)
  rw [Amount.approaches_iff]
  omega

/-- The next value is nearer to the target, whatever the limit. -/
theorem approaches_of_nextValue {fraction : Option Decimal} (hne : target ≠ current)
    (h : nextValue target current fraction = .ok (some v)) : target.Approaches current v := by
  unfold nextValue at h
  split at h
  · obtain rfl := Option.some.inj (Except.ok.inj h)
    exact approaches_target hne
  · next f =>
    split at h
    · obtain rfl := Option.some.inj (Except.ok.inj h)
      exact approaches_target hne
    · cases hparts : partsPerMillion f with
      | error b =>
        rw [hparts] at h
        cases h
      | ok parts =>
        rw [hparts] at h
        exact approaches_of_limitedMove hne (Except.ok.inj h)

/-- A target is worth a move if it lies within the bounds and far enough away. -/
theorem worthMoving_eq_none_iff : bounds.worthMoving target current = none ↔
    bounds.contains target = true ∧ target ≠ current ∧
      bounds.minStep ≤ target.distance current := by
  have hfar : bounds.minStep ≤ target.distance current ↔
      ¬ target.distance current < bounds.minStep := by
    rw [Amount.le_iff, Amount.lt_iff, not_lt]
  rw [Bounds.worthMoving, hfar]
  split
  · next hout => simp [hout]
  · next hin =>
    rw [not_not] at hin
    split
    · next heq => simp [heq]
    · next hne => simp [hin, hne]

/-- **What is written is nearer to the target**, and does not pass it. -/
theorem approaches_of_decide (h : bounds.decide target current = .ok (.setTo v)) :
    target.Approaches current v := by
  cases Bounds.decided_of_decide h with
  | written worth next => exact approaches_of_nextValue (worthMoving_eq_none_iff.1 worth).2.1 next

/-! ### Values at rest -/

/-- The values that stay as they are for a target within the bounds: the target, values near it,
values of which the limit leaves no unit to move, and values outside the bounds from which one move
does not reach them. -/
inductive Bounds.RestsAt (bounds : Bounds) (target current : Amount) : Prop
  | arrived (reached : current = target)
  | near (short : target.distance current < bounds.minStep)
  | stuck {f : Decimal} (limit : bounds.maxDeltaFraction = some f) (some_value : current ≠ 0)
      (no_unit : current.toNat * ⌊f.toRat * 10 ^ 6⌋₊ / 10 ^ 6 = 0)
  | stranded {f : Decimal} {v : Amount} (limit : bounds.maxDeltaFraction = some f)
      (outside : bounds.contains current = false)
      (move : limitedMove target current ⌊f.toRat * 10 ^ 6⌋₊ = some v)
      (short : bounds.contains v = false)

/-- Between two values within the bounds there are only such values. -/
theorem contains_of_approaches (htarget : bounds.contains target = true)
    (hcurrent : bounds.contains current = true) (h : target.Approaches current v) :
    bounds.contains v = true := by
  rw [Amount.approaches_iff] at h
  rw [contains_eq_true_iff] at *
  omega

/-- A limited move makes no step exactly if the limit leaves no unit to move. -/
theorem limitedMove_eq_none_iff {parts : ℕ} (hparts : parts < 10 ^ 6) :
    limitedMove target current parts = none ↔ current.toNat * parts / 10 ^ 6 = 0 := by
  rw [← step_eq_zero_iff hparts, limitedMove]
  dsimp only
  split
  · next hzero => simp [hzero]
  · next hstep => split <;> simp [hstep]

/-- Under a limit that is a fraction, the next value is a limited move. -/
theorem nextValue_of_limit {f : Decimal} (hfraction : bounds.HasFraction)
    (hlimit : bounds.maxDeltaFraction = some f) (hcurrent : current ≠ 0) (target : Amount) :
    ⌊f.toRat * 10 ^ 6⌋₊ < 10 ^ 6 ∧ nextValue target current bounds.maxDeltaFraction =
      .ok (limitedMove target current ⌊f.toRat * 10 ^ 6⌋₊) := by
  obtain ⟨hparts, hfewer⟩ := partsPerMillion_eq (Settings.isFraction_iff.2 (hfraction f hlimit))
  refine ⟨hfewer, ?_⟩
  rw [hlimit, nextValue, if_neg hcurrent, hparts]
  rfl

/-- Without a limit, or from zero, the next value is the target. -/
theorem nextValue_eq_or (target current : Amount) (fraction : Option Decimal) :
    nextValue target current fraction = .ok (some target) ∨
      current ≠ 0 ∧ ∃ f, fraction = some f := by
  cases fraction with
  | none => exact .inl rfl
  | some f =>
    by_cases hcurrent : current = 0
    · exact .inl (by rw [nextValue, if_pos hcurrent])
    · exact .inr ⟨hcurrent, f, rfl⟩

/-- A move is refused only from a value outside the bounds. -/
theorem not_contains_of_refused (htarget : bounds.contains target = true)
    (worth : bounds.worthMoving target current = none)
    (next : nextValue target current bounds.maxDeltaFraction = .ok (some v))
    (outside : bounds.contains v = false) : bounds.contains current = false := by
  by_contra hin
  rw [Bool.not_eq_false] at hin
  have happroaches := approaches_of_nextValue (worthMoving_eq_none_iff.1 worth).2.1 next
  rw [contains_of_approaches htarget hin happroaches] at outside
  cases outside

/-- About a value at rest, nothing is decided. -/
theorem Bounds.RestsAt.exists_decide (hrests : bounds.RestsAt target current)
    (hfraction : bounds.HasFraction) :
    ∃ reason, bounds.decide target current = .ok (.noOp reason) := by
  rw [Bounds.decide]
  cases hworth : bounds.worthMoving target current with
  | some reason => exact ⟨reason, rfl⟩
  | none =>
    obtain ⟨-, hne, hfar⟩ := worthMoving_eq_none_iff.1 hworth
    cases hrests with
    | arrived reached => exact absurd reached.symm hne
    | near short =>
      rw [Amount.lt_iff] at short
      exact absurd (Amount.le_iff.1 hfar) (not_le.2 short)
    | stuck limit some_value no_unit =>
      obtain ⟨hfewer, hnext⟩ := nextValue_of_limit hfraction limit some_value target
      rw [hnext, (limitedMove_eq_none_iff hfewer).2 no_unit]
      exact ⟨.belowMinStep, rfl⟩
    | @stranded f v limit outside move short =>
      have hfewer := (partsPerMillion_eq (Settings.isFraction_iff.2 (hfraction f limit))).2
      have hcurrent : current ≠ 0 := by
        rintro rfl
        rw [(limitedMove_eq_none_iff hfewer).2 (by simp)] at move
        cases move
      obtain ⟨-, hnext⟩ := nextValue_of_limit hfraction limit hcurrent target
      rw [hnext, move]
      exact ⟨.outOfBounds, by simp [Except.map, short]⟩

/-- A value about which nothing is decided is at rest, if the target lies within the bounds. -/
theorem restsAt_of_decide (hfraction : bounds.HasFraction)
    (htarget : bounds.contains target = true) {reason : SkipReason}
    (h : bounds.decide target current = .ok (.noOp reason)) : bounds.RestsAt target current := by
  cases Bounds.decided_of_decide h with
  | unworthy worth =>
    have hworth : bounds.worthMoving target current ≠ none := by simp [worth]
    rw [Ne, worthMoving_eq_none_iff] at hworth
    by_cases hreached : target = current
    · exact .arrived hreached.symm
    · refine .near (Amount.lt_iff.2 (not_le.1 fun hfar => hworth ?_))
      exact ⟨htarget, hreached, hfar⟩
  | stuck worth next =>
    rcases nextValue_eq_or target current bounds.maxDeltaFraction with
      hfree | ⟨hcurrent, f, hlimit⟩
    · cases hfree.symm.trans next
    · obtain ⟨hfewer, hnext⟩ := nextValue_of_limit hfraction hlimit hcurrent target
      have hnone := Except.ok.inj (hnext.symm.trans next)
      exact .stuck hlimit hcurrent ((limitedMove_eq_none_iff hfewer).1 hnone)
  | refused worth next outside =>
    rcases nextValue_eq_or target current bounds.maxDeltaFraction with
      hfree | ⟨hcurrent, f, hlimit⟩
    · obtain rfl := Option.some.inj (Except.ok.inj (hfree.symm.trans next))
      cases htarget.symm.trans outside
    · obtain ⟨-, hnext⟩ := nextValue_of_limit hfraction hlimit hcurrent target
      exact .stranded hlimit (not_contains_of_refused htarget worth next outside)
        (Except.ok.inj (hnext.symm.trans next)) outside

/-- **The values at rest** are those about which nothing is decided, if the target lies within the
bounds. -/
theorem restsAt_iff (hfraction : bounds.HasFraction) (htarget : bounds.contains target = true) :
    bounds.RestsAt target current ↔
      ∃ reason, bounds.decide target current = .ok (.noOp reason) := by
  constructor
  · exact fun hrests => hrests.exists_decide hfraction
  · rintro ⟨reason, hdecide⟩
    exact restsAt_of_decide hfraction htarget hdecide

/-! ### Decisions about one target -/

namespace Bounds

/-- The value on chain after a decision: the one that is written, or the one that was there. -/
def next (bounds : Bounds) (target current : Amount) : Amount :=
  match bounds.decide target current with
  | .ok (.setTo v) => v
  | _ => current

/-- The value on chain after so many decisions about one target, each made about the value that the
one before has left. -/
def course (bounds : Bounds) (target start : Amount) (n : ℕ) : Amount :=
  (bounds.next target)^[n] start

theorem next_of_decide (h : bounds.decide target current = .ok (.setTo v)) :
    bounds.next target current = v := by
  rw [next, h]

theorem course_succ (bounds : Bounds) (target start : Amount) (n : ℕ) :
    bounds.course target start (n + 1) = bounds.course target (bounds.next target start) n :=
  Function.iterate_succ_apply ..

theorem course_succ' (bounds : Bounds) (target start : Amount) (n : ℕ) :
    bounds.course target start (n + 1) = bounds.next target (bounds.course target start n) :=
  Function.iterate_succ_apply' ..

/-- Within the bounds, the value after a decision is within them too. -/
theorem contains_next (htarget : bounds.contains target = true)
    (hcurrent : bounds.contains current = true) :
    bounds.contains (bounds.next target current) = true := by
  unfold next
  split
  · next v hdecide => exact contains_of_approaches htarget hcurrent (approaches_of_decide hdecide)
  · exact hcurrent

/-- A value within the bounds is not refused. -/
theorem decide_ne_outOfBounds (htarget : bounds.contains target = true)
    (hcurrent : bounds.contains current = true) :
    bounds.decide target current ≠ .ok (.noOp .outOfBounds) := by
  intro hdecide
  cases decided_of_decide hdecide with
  | unworthy worth =>
    rw [worthMoving, if_neg (not_not.2 htarget)] at worth
    split at worth
    · cases worth
    · split at worth <;> cases worth
  | refused worth hnext outside =>
    rw [not_contains_of_refused htarget worth hnext outside] at hcurrent
    cases hcurrent

/-- Decisions about one target stop writing, at the latest after as many writes as there are units
to the target. -/
theorem exists_decide_course (hscalable : bounds.IsScalable) (target start : Amount) :
    ∃ n ≤ (start.distance target).toNat,
      (∀ k < n, bounds.decide target (bounds.course target start k) =
        .ok (.setTo (bounds.course target start (k + 1)))) ∧
      ∃ reason, bounds.decide target (bounds.course target start n) = .ok (.noOp reason) := by
  -- each write brings the value nearer to the target
  induction hm : (start.distance target).toNat using Nat.strong_induction_on generalizing start with
  | _ m ih =>
    obtain ⟨action, hdecide⟩ := hscalable target start
    cases action with
    | noOp reason => exact ⟨0, Nat.zero_le _, by simp, reason, hdecide⟩
    | setTo v =>
      have hnearer := Amount.lt_iff.1 (approaches_of_decide hdecide).nearer
      obtain ⟨n, hn, hwrites, hrest⟩ := ih _ (hm ▸ hnearer) v rfl
      have hlater : ∀ k, bounds.course target start (k + 1) = bounds.course target v k := by
        intro k
        rw [course_succ, next_of_decide hdecide]
      refine ⟨n + 1, by omega, fun k hk => ?_, by rwa [hlater]⟩
      cases k with
      | zero =>
        rw [hlater]
        exact hdecide
      | succ k =>
        rw [hlater, hlater]
        exact hwrites k (by omega)

end Bounds

/-- Every target can be decided about if the limit is a fraction. -/
theorem isScalable_of_hasFraction (hfraction : bounds.HasFraction) : bounds.IsScalable :=
  Bounds.isScalable_of_partsPerMillion fun f hf =>
    ⟨_, (partsPerMillion_eq (Settings.isFraction_iff.2 (hfraction f hf))).1⟩

/-- **Decisions about one target come to rest**, without passing it. Take bounds that do not limit a
move, or limit it to a fraction, and a target within them. Whatever the value on chain, what is
written is strictly nearer to the target and on the same side of it, or the target. From every value
there are finitely many writes, no more than there are units to the target, and then nothing is
decided about a value at rest. From a value within the bounds, all values are within them, and none
is refused as being out of them. -/
theorem course_comes_to_rest (hfraction : bounds.HasFraction)
    (htarget : bounds.contains target = true) (start : Amount) :
    (∀ current v, bounds.decide target current = .ok (.setTo v) → target.Approaches current v) ∧
    (∃ n ≤ (start.distance target).toNat,
      (∀ k < n, bounds.decide target (bounds.course target start k) =
        .ok (.setTo (bounds.course target start (k + 1)))) ∧
      (∃ reason, bounds.decide target (bounds.course target start n) = .ok (.noOp reason)) ∧
      bounds.RestsAt target (bounds.course target start n)) ∧
    (bounds.contains start = true → ∀ k,
      bounds.contains (bounds.course target start k) = true ∧
      bounds.decide target (bounds.course target start k) ≠ .ok (.noOp .outOfBounds)) := by
  refine ⟨fun current v => approaches_of_decide, ?_, fun hstart k => ?_⟩
  · obtain ⟨n, hn, hwrites, hrest⟩ :=
      Bounds.exists_decide_course (isScalable_of_hasFraction hfraction) target start
    exact ⟨n, hn, hwrites, hrest, (restsAt_iff hfraction htarget).2 hrest⟩
  · have hinside : bounds.contains (bounds.course target start k) = true := by
      induction k with
      | zero => exact hstart
      | succ k ih =>
        rw [Bounds.course_succ']
        exact Bounds.contains_next htarget ih
    exact ⟨hinside, Bounds.decide_ne_outOfBounds htarget hinside⟩

/-- From thirty, moves toward one end at nineteen, of which five percent are less than a unit. -/
theorem course_twentieth :
    Bounds.twentieth.HasFraction ∧ Bounds.twentieth.contains (Amount.clamp 1) = true ∧
    Bounds.twentieth.course (Amount.clamp 1) (Amount.clamp 30) 6 = Amount.clamp 19 ∧
    Bounds.twentieth.RestsAt (Amount.clamp 1) (Amount.clamp 19) := by
  have htarget : Bounds.twentieth.contains (Amount.clamp 1) = true := by decide
  have hstays : Bounds.twentieth.decide (Amount.clamp 1) (Amount.clamp 19) =
      .ok (.noOp .belowMinStep) := by decide +kernel
  refine ⟨Bounds.hasFraction_twentieth, htarget, by decide +kernel, ?_⟩
  obtain ⟨n, -, hwrites, -, hrests⟩ :=
    (course_comes_to_rest Bounds.hasFraction_twentieth htarget (Amount.clamp 19)).2.1
  cases n with
  | zero => exact hrests
  | succ n => cases hstays.symm.trans (hwrites 0 n.succ_pos)

end RollupFees
