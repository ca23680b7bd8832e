import RollupFees.Proofs.Decimal.Quotient

/-!
# Products are rounded once

The product of two decimals has all its digits at first; then the fewest are dropped for which the
rest fits. That is the exact product, rounded once to the most places at which it fits, as for a
quotient.

## Main results

* `Decimal.mul?_cases` : a product is the rounded exact one, or the exact one does not fit
-/

namespace RollupFees.Decimal

variable {a b : Decimal} {x : ℚ} {product scale t : ℕ}

/-- A product without some of its digits, rounded by them, is the exact product at the places that
are left. -/
theorem roundHalfEven_eq_halfEven (hx : x = (product : ℚ) / 10 ^ scale) (ht : t ≤ scale) :
    (roundHalfEven product (10 ^ t) : ℤ) = halfEven (x * 10 ^ (scale - t)) := by
  have hplaces : (10 : ℚ) ^ scale = 10 ^ (scale - t) * 10 ^ t := by
    rw [← pow_add, Nat.sub_add_cancel ht]
  rw [roundHalfEven_eq _ (by positivity), hx, hplaces]
  push_cast
  congr 1
  field_simp

/-- Dropping the fewest digits rounds the exact product once. -/
theorem roundsTo_of_leastDrop? (hx : x = (product : ℚ) / 10 ^ scale)
    (h : leastDrop? product scale (scale - maxScale) = some t) :
    t ≤ scale ∧ roundHalfEven product (10 ^ t) ≤ maxCoefficient ∧ scale - t ≤ maxScale ∧
      RoundsTo x (roundHalfEven product (10 ^ t) / 10 ^ (scale - t)) := by
  obtain ⟨hfits, hrange, hleast⟩ := List.find?_range'_eq_some.1 h
  rw [List.mem_range'_1] at hrange
  have hfits : roundHalfEven product (10 ^ t) ≤ maxCoefficient := by simpa using hfits
  have ht : t ≤ scale := by omega
  have hround := roundHalfEven_eq_halfEven hx ht
  refine ⟨ht, hfits, by omega, ?_⟩
  by_cases hall : t = 0
  · -- no digit is dropped: the product is a decimal
    subst hall
    have hwhole : roundHalfEven product (10 ^ 0) = product := by
      simpa using roundHalfEven_mul product 1 one_pos
    rw [hwhole] at hfits ⊢
    rw [Nat.sub_zero, ← hx]
    exact IsDecimal.roundsTo ⟨product, hfits, scale, by omega, hx⟩
  · refine ⟨scale - t, by omega, ?_, ?_, ?_⟩
    · rw [FitsAt, ← hround]
      exact_mod_cast hfits
    · by_cases hfirst : t = scale - maxScale
      · left
        omega
      · right
        have hmore := hleast (t - 1) (by omega) (by omega)
        have hlarge : maxCoefficient < roundHalfEven product (10 ^ (t - 1)) := by simpa using hmore
        rw [show scale - t + 1 = scale - (t - 1) by omega, FitsAt,
          ← roundHalfEven_eq_halfEven hx (by omega)]
        exact_mod_cast not_le.2 hlarge
    · rw [← hround, Int.cast_natCast]

/-- Where no digits can be dropped for the rest to fit, the product does not fit. -/
theorem not_fitsAt_of_leastDrop? (hx : x = (product : ℚ) / 10 ^ scale)
    (h : leastDrop? product scale (scale - maxScale) = none) : ¬ FitsAt x 0 := by
  have hnone := List.find?_eq_none.1 h scale (List.mem_range'_1.2 (by omega))
  have hlarge : maxCoefficient < roundHalfEven product (10 ^ scale) := by simpa using hnone
  have hround := roundHalfEven_eq_halfEven hx le_rfl
  rw [Nat.sub_self] at hround
  rw [FitsAt, ← hround]
  exact_mod_cast not_le.2 hlarge

/-- A product far below the last place is rounded to nothing. -/
theorem roundsTo_zero {m n : ℕ} (hm : m < 2 ^ 32) (hn : n < 2 ^ 32) (hscale : 47 < scale) :
    RoundsTo (((m * n : ℕ) : ℚ) / 10 ^ scale) 0 := by
  have hsmall : ((m * n : ℕ) : ℚ) / 10 ^ scale * 10 ^ maxScale < 1 / 2 := by
    have hfactors : m * n < 2 ^ 64 :=
      calc m * n ≤ 2 ^ 32 * n := Nat.mul_le_mul_right _ hm.le
        _ < 2 ^ 32 * 2 ^ 32 := Nat.mul_lt_mul_of_pos_left hn (by positivity)
        _ = 2 ^ 64 := by norm_num
    have hproduct : ((m * n : ℕ) : ℚ) < 2 ^ 64 := by exact_mod_cast hfactors
    have hpow : (10 : ℚ) ^ 48 ≤ 10 ^ scale := pow_le_pow_right₀ (by norm_num) hscale
    rw [div_mul_eq_mul_div, div_lt_iff₀ (by positivity)]
    calc ((m * n : ℕ) : ℚ) * 10 ^ maxScale < 2 ^ 64 * 10 ^ maxScale := by gcongr
      _ ≤ 1 / 2 * 10 ^ 48 := by norm_num [maxScale]
      _ ≤ 1 / 2 * 10 ^ scale := by gcongr
  have hnone : halfEven (((m * n : ℕ) : ℚ) / 10 ^ scale * 10 ^ maxScale) = 0 := by
    have hpart := halfEven_intCast_add 0 (f := ((m * n : ℕ) : ℚ) / 10 ^ scale * 10 ^ maxScale)
      (by positivity) (hsmall.trans (by norm_num))
    rw [Int.cast_zero, zero_add] at hpart
    rw [hpart, if_neg]
    rintro (hlarge | ⟨hhalf, -⟩)
    · exact hlarge.not_gt hsmall
    · exact hsmall.ne hhalf
  refine ⟨maxScale, le_rfl, ?_, .inl rfl, ?_⟩
  · rw [FitsAt, hnone]
    exact Int.natCast_nonneg _
  · rw [hnone]
    simp

/-- **The product of two decimals** is the exact product, rounded once. There is none only where the
integer part of the exact product does not fit. -/
theorem mul?_cases (ha : a.isNegative = false) (hb : b.isNegative = false) :
    (∃ y, a.mul? b = some y ∧ RoundsTo (a.toRat * b.toRat) y.toRat) ∨
      (a.mul? b = none ∧ ¬ FitsAt (a.toRat * b.toRat) 0) := by
  have hx : a.toRat * b.toRat =
      ((a.coefficient.natAbs * b.coefficient.natAbs : ℕ) : ℚ) / 10 ^ (a.scale + b.scale) := by
    rw [toRat_eq_natAbs ha, toRat_eq_natAbs hb, div_mul_div_comm, pow_add]
    push_cast
    rfl
  have hzero : RoundsTo 0 (0 : Decimal).toRat := by
    rw [toRat_of_coefficient_eq_zero rfl]
    exact isDecimal_zero.roundsTo
  simp only [mul?]
  split
  · next hnone =>
    have hproduct : a.toRat * b.toRat = 0 := by
      rw [mul_eq_zero]
      exact hnone.imp (fun h => toRat_of_coefficient_eq_zero (Int.natAbs_eq_zero.1 h))
        fun h => toRat_of_coefficient_eq_zero (Int.natAbs_eq_zero.1 h)
    exact .inl ⟨0, rfl, by rwa [hproduct]⟩
  · split
    · next hsmall =>
      refine .inl ⟨0, rfl, ?_⟩
      rw [hx, toRat_of_coefficient_eq_zero rfl]
      exact roundsTo_zero hsmall.1 hsmall.2.1 hsmall.2.2
    · cases hdrop : leastDrop? (a.coefficient.natAbs * b.coefficient.natAbs) (a.scale + b.scale)
          (a.scale + b.scale - maxScale) with
      | none => exact .inr ⟨rfl, not_fitsAt_of_leastDrop? hx hdrop⟩
      | some t =>
        obtain ⟨ht, hfits, hplaces, hround⟩ := roundsTo_of_leastDrop? hx hdrop
        obtain ⟨y, hy, hsame⟩ := exists_mk?_withSign ha hb hfits hplaces
        exact .inl ⟨y, hy, by rwa [hsame]⟩

theorem roundsTo_mul? (ha : 0 ≤ a.toRat) (hb : 0 ≤ b.toRat) {y : Decimal}
    (h : a.mul? b = some y) : RoundsTo (a.toRat * b.toRat) y.toRat := by
  rcases mul?_cases (isNegative_eq_false ha) (isNegative_eq_false hb) with
    ⟨z, hz, hround⟩ | ⟨hnone, -⟩
  · obtain rfl : z = y := Option.some.inj (hz.symm.trans h)
    exact hround
  · cases hnone.symm.trans h

end RollupFees.Decimal
