import Mathlib.Algebra.Order.Field.Power
import RollupFees.Proofs.Decimal.Rounding

/-!
# Quotients are rounded once

Long division works out a quotient a few digits at a time, drops a digit that is one too many, and
tidies up trailing zeros. None of this shows: the quotient of two decimals is the exact quotient,
rounded once to the most places at which it fits, and there is none only where the integer part
alone does not fit.

What carries the induction is that the digits so far, the rest and the scale make up the exact
quotient in every round (`Underway`). The division ends when nothing is left, when a decimal has no
more places, or when one more digit would not fit; each of these is what rounding asks for.

## Main definitions

* `Decimal.Underway` : the digits so far and the rest make up the quotient
* `Decimal.Settles` : an outcome of long division is the rounded quotient

## Main results

* `Decimal.settles_longDivide?` : long division rounds once
* `Decimal.div?_cases` : a quotient is the rounded exact one, or the exact one does not fit
-/

namespace RollupFees.Decimal

variable {x : ℚ} {divisor q r limit : ℕ} {scale : ℤ}

/-! ### The digits of a round -/

theorem mul_headroom_le (hq : q ≤ maxCoefficient) (limit : ℕ) :
    q * 10 ^ headroom q limit ≤ maxCoefficient := by
  induction limit with
  | zero => simpa [headroom] using hq
  | succ n ih =>
    unfold headroom
    split
    · assumption
    · exact ih

/-- Where fewer digits were appended than was allowed, one more would not have fitted. -/
theorem lt_of_headroom_lt (h : headroom q limit < limit) :
    maxCoefficient < q * 10 ^ (headroom q limit + 1) := by
  induction limit with
  | zero => cases h
  | succ n ih =>
    unfold headroom at h ⊢
    split
    · next hfits =>
      rw [if_pos hfits] at h
      exact absurd h (lt_irrefl _)
    · next hlarge =>
      rcases (headroom_le q n).lt_or_eq with hlt | heq
      · exact ih hlt
      · rw [heq]
        exact not_le.1 hlarge

theorem nextDigits_of_ne (hr : r ≠ 0) :
    nextDigits q r scale = headroom q (min 9 (maxScale - scale).toNat) := if_neg hr

theorem nextDigits_le_nine : nextDigits q r scale ≤ 9 := by
  unfold nextDigits
  split
  · exact Nat.min_le_left _ _
  · exact (headroom_le _ _).trans (Nat.min_le_left _ _)

/-- Where a round appends fewer digits than it may, one more would not fit. -/
theorem lt_of_nextDigits_lt (hr : r ≠ 0) (hnine : nextDigits q r scale < 9)
    (hplaces : nextDigits q r scale < (maxScale - scale).toNat) :
    maxCoefficient < q * 10 ^ (nextDigits q r scale + 1) := by
  rw [nextDigits_of_ne hr] at hnine hplaces ⊢
  exact lt_of_headroom_lt (lt_min hnine hplaces)

/-! ### The quotient underway -/

/-- The digits so far and the rest make up the exact quotient, with its point moved. -/
structure Underway (x : ℚ) (divisor q r : ℕ) (scale : ℤ) : Prop where
  exact : (q : ℚ) + r / divisor = x * 10 ^ scale
  rest : r < divisor
  places : scale ≤ maxScale

namespace Underway

variable (h : Underway x divisor q r scale)

include h

theorem rest_div_lt : (r : ℚ) / divisor < 1 := by
  have : (0 : ℚ) < divisor := by exact_mod_cast (Nat.zero_le r).trans_lt h.rest
  rw [div_lt_one this]
  exact_mod_cast h.rest

/-- With the point after the digits, the quotient is the digits and a part of one. -/
theorem eq_of_nonneg (hscale : 0 ≤ scale) : x * 10 ^ scale.toNat = (q : ℤ) + (r : ℚ) / divisor := by
  rw [← zpow_natCast, Int.toNat_of_nonneg hscale, Int.cast_natCast, h.exact]

/-- At its scale the quotient is rounded by what is left. -/
theorem halfEven_eq (hscale : 0 ≤ scale) : halfEven (x * 10 ^ scale.toNat) =
    ((if divisor < 2 * r ∨ (2 * r = divisor ∧ q % 2 = 1) then q + 1 else q : ℕ) : ℤ) := by
  rw [h.eq_of_nonneg hscale, halfEven_add_div _ h.rest]

/-- With a place less, the quotient is a tenth of the digits and the part. -/
theorem tenth (hscale : 0 < scale) :
    x * 10 ^ (scale - 1).toNat = ((q : ℚ) + r / divisor) / 10 := by
  have hsucc : scale.toNat = (scale - 1).toNat + 1 := by omega
  have hx := h.eq_of_nonneg hscale.le
  rw [hsucc, pow_succ, Int.cast_natCast] at hx
  linarith

/-- The exact quotient is at least what the digits come to before the point. -/
theorem le {p : ℕ} (hp : p + scale ≤ 0) : ((q * 10 ^ p : ℕ) : ℚ) ≤ x := by
  have hx : x = ((q : ℚ) + r / divisor) * 10 ^ (-scale) := by
    rw [h.exact, mul_assoc, ← zpow_add₀ (by norm_num), add_neg_cancel, zpow_zero, mul_one]
  have hpow : (10 : ℚ) ^ p ≤ 10 ^ (-scale) := by
    rw [← zpow_natCast]
    exact zpow_le_zpow_right₀ (by norm_num) (by omega)
  rw [hx]
  push_cast
  gcongr
  linarith [show (0 : ℚ) ≤ r / divisor by positivity]

/-- Digits before the point that do not fit leave no room for the quotient. -/
theorem not_fitsAt_zero {p : ℕ} (hp : p + scale ≤ 0) (hq : maxCoefficient < q * 10 ^ p) :
    ¬ FitsAt x 0 := by
  have hle : (((maxCoefficient + 1 : ℕ) : ℤ) : ℚ) ≤ x * 10 ^ 0 := by
    rw [pow_zero, mul_one]
    refine le_trans ?_ (h.le hp)
    exact_mod_cast hq
  have := le_halfEven hle
  rw [FitsAt]
  omega

/-- Digits that do not fit leave no room at their scale. -/
theorem not_fitsAt (hq : maxCoefficient < q) : ¬ FitsAt x scale.toNat := by
  rcases le_total 0 scale with hscale | hscale
  · have hle : ((q : ℤ) : ℚ) ≤ x * 10 ^ scale.toNat := by
      rw [h.eq_of_nonneg hscale]
      linarith [show (0 : ℚ) ≤ r / divisor by positivity]
    have := le_halfEven hle
    rw [FitsAt]
    omega
  · rw [Int.toNat_of_nonpos hscale]
    exact h.not_fitsAt_zero (p := 0) (by omega) (by omega)

/-- A division that appends no digit although something is left is at its last place. -/
theorem last (hscale : 0 ≤ scale) (hr : r ≠ 0) (hp : nextDigits q r scale = 0) :
    scale.toNat = maxScale ∨ ¬ FitsAt x (scale.toNat + 1) := by
  have hplaces := h.places
  rcases hplaces.lt_or_eq with hlt | rfl
  · right
    have hlarge := lt_of_nextDigits_lt hr (by rw [hp]; omega) (by rw [hp]; omega)
    rw [hp, zero_add, pow_one] at hlarge
    have hle : ((q * 10 : ℕ) : ℤ) ≤ x * 10 ^ (scale.toNat + 1) := by
      rw [pow_succ, ← mul_assoc, h.eq_of_nonneg hscale]
      push_cast
      linarith [show (0 : ℚ) ≤ r / divisor by positivity]
    have := le_halfEven hle
    rw [FitsAt]
    omega
  · left
    rfl

/-- One more round of division. -/
theorem next {p : ℕ} (hp : scale + p ≤ maxScale) :
    Underway x divisor (q * 10 ^ p + r * 10 ^ p / divisor) (r * 10 ^ p % divisor) (scale + p) where
  exact := by
    have hpos : 0 < divisor := (Nat.zero_le r).trans_lt h.rest
    have hpos' : (divisor : ℚ) ≠ 0 := by exact_mod_cast hpos.ne'
    have hparts : (divisor : ℚ) * (r * 10 ^ p / divisor : ℕ) + (r * 10 ^ p % divisor : ℕ) =
        r * 10 ^ p := by
      exact_mod_cast Nat.div_add_mod (r * 10 ^ p) divisor
    rw [zpow_add₀ (by norm_num), ← mul_assoc, ← h.exact, zpow_natCast]
    push_cast at hparts ⊢
    field_simp
    linarith
  rest := Nat.mod_lt _ ((Nat.zero_le r).trans_lt h.rest)
  places := hp

end Underway

/-! ### The end of the division -/

/-- An outcome of long division is the rounded quotient, or tells that the quotient does not fit. -/
def Settles (x : ℚ) : Option Quotient → Prop
  | some y => y.digits ≤ maxCoefficient ∧ 0 ≤ y.scale ∧ y.scale ≤ maxScale ∧
      RoundsTo x (y.digits / 10 ^ y.scale.toNat)
  | none => ¬ FitsAt x 0

/-- Rounded digits at the last place settle the quotient. -/
theorem settles_of_halfEven {k : ℕ} {e : Bool} (hscale : 0 ≤ scale) (hplaces : scale ≤ maxScale)
    (hk : k ≤ maxCoefficient) (hround : halfEven (x * 10 ^ scale.toNat) = k)
    (hlast : scale.toNat = maxScale ∨ ¬ FitsAt x (scale.toNat + 1)) :
    Settles x (some ⟨k, scale, e⟩) := by
  refine ⟨hk, hscale, hplaces, scale.toNat, by omega, ?_, hlast, ?_⟩
  · rw [FitsAt, hround]
    exact_mod_cast hk
  · rw [hround, Int.cast_natCast]

/-- The digits without the last one, rounded by it. -/
def dropped (k : ℕ) (sticky : Bool) : ℕ :=
  if decide (5 < k % 10) || (k % 10 == 5 && (sticky || k / 10 % 2 == 1)) then k / 10 + 1 else k / 10

theorem dropDigit?_eq (k : ℕ) (scale : ℤ) (sticky e : Bool) :
    dropDigit? k scale sticky e =
      if scale ≤ 0 then none else some ⟨dropped k sticky, scale - 1, e⟩ := rfl

/-- A digit less is the number rounded to a tenth, if it is known whether anything follows. -/
theorem halfEven_div_ten (k : ℕ) {f : ℚ} {sticky : Bool} (h0 : 0 ≤ f) (h1 : f < 1)
    (hsticky : sticky = true ↔ f ≠ 0) : halfEven (((k : ℚ) + f) / 10) = dropped k sticky := by
  have hparts : (10 : ℚ) * (k / 10 : ℕ) + (k % 10 : ℕ) = k := by
    exact_mod_cast Nat.div_add_mod k 10
  have hlast : ((k % 10 : ℕ) : ℚ) + 1 ≤ 10 := by exact_mod_cast Nat.mod_lt k (by decide)
  have hsplit : ((k : ℚ) + f) / 10 = ((k / 10 : ℕ) : ℤ) + ((k % 10 : ℕ) + f) / 10 := by
    rw [← hparts, Int.cast_natCast]
    ring
  have hup : (1 / 2 < ((k % 10 : ℕ) + f) / 10 ∨
      (((k % 10 : ℕ) + f) / 10 = 1 / 2 ∧ Odd ((k / 10 : ℕ) : ℤ))) ↔
      5 < k % 10 ∨ (k % 10 = 5 ∧ (sticky = true ∨ k / 10 % 2 = 1)) := by
    rw [hsticky, Int.odd_coe_nat, Nat.odd_iff]
    rcases lt_trichotomy (k % 10) 5 with hlt | heq | hgt
    · have : ((k % 10 : ℕ) : ℚ) + 1 ≤ 5 := by exact_mod_cast hlt
      have hdown : ((k % 10 : ℕ) + f) / 10 < 1 / 2 := by linarith
      simp only [hdown.ne, hdown.not_gt, hlt.ne, hlt.not_gt, false_and, or_self]
    · rw [heq]
      by_cases hf : f = 0
      · norm_num [hf]
      · have : 0 < f := lt_of_le_of_ne h0 (Ne.symm hf)
        have hmore : (1 : ℚ) / 2 < ((5 : ℕ) + f) / 10 := by push_cast; linarith
        exact iff_of_true (.inl hmore) (.inr ⟨rfl, .inl hf⟩)
    · have : (5 : ℚ) + 1 ≤ (k % 10 : ℕ) := by exact_mod_cast hgt
      have hmore : (1 : ℚ) / 2 < ((k % 10 : ℕ) + f) / 10 := by linarith
      simp only [hmore, hgt, true_or]
  rw [hsplit, halfEven_intCast_add _ (by positivity) (by linarith)]
  simp only [hup, dropped, Bool.or_eq_true, Bool.and_eq_true, decide_eq_true_eq, beq_iff_eq]
  split <;> push_cast <;> rfl

/-- A digit that is one too many is dropped. -/
theorem settles_dropDigit? {k : ℕ} {sticky e : Bool} (hscale : scale ≤ maxScale)
    (hlarge : ¬ FitsAt x scale.toNat) (hk : k / 10 + 1 ≤ maxCoefficient)
    (hround : 0 < scale → halfEven (x * 10 ^ (scale - 1).toNat) = dropped k sticky) :
    Settles x (dropDigit? k scale sticky e) := by
  rw [dropDigit?_eq]
  split
  · next hnone =>
    rwa [Int.toNat_of_nonpos hnone] at hlarge
  · next hsome =>
    have hsucc : (scale - 1).toNat + 1 = scale.toNat := by omega
    refine settles_of_halfEven (by omega) (by omega) ?_ (hround (by omega)) (.inr ?_)
    · unfold dropped
      split <;> omega
    · rwa [hsucc]

/-- **Long division rounds once.** Where the digits so far and the rest make up the quotient, the
outcome is the quotient, rounded to the most places at which it fits. -/
theorem settles_longDivide? {e : Bool} (h : Underway x divisor q r scale)
    (hq : q ≤ maxCoefficient) : Settles x (longDivide? divisor q r scale e) := by
  have hmax : maxCoefficient = 79228162514264337593543950335 := rfl
  fun_induction longDivide? divisor q r scale e with
  | case1 q scale e p e' hp =>
    -- nothing is left: the digits are the quotient
    have hplaces := h.places
    have hscale : 0 ≤ scale := by
      simp only [p, nextDigits, if_pos] at hp
      omega
    have hsame : x = (q : ℚ) / 10 ^ scale.toNat := by
      rw [eq_div_iff (by positivity), h.eq_of_nonneg hscale]
      simp
    have hdecimal : IsDecimal x := ⟨q, hq, scale.toNat, by omega, hsame⟩
    exact ⟨hq, hscale, hplaces, hsame ▸ hdecimal.roundsTo⟩
  | case2 q r scale e p hp hr hscale =>
    have hnone : nextDigits q r scale = 0 := hp
    have hlarge := lt_of_nextDigits_lt hr (by rw [hnone]; omega) (by rw [hnone]; omega)
    rw [hnone] at hlarge
    exact h.not_fitsAt_zero (p := 1) (by omega) hlarge
  | case3 q r scale e p e' hp hr hscale hup hfits =>
    have hscale' : 0 ≤ scale := by omega
    refine settles_of_halfEven hscale' h.places hfits ?_ (h.last hscale' hr hp)
    rw [h.halfEven_eq hscale', if_pos hup]
  | case4 q r scale e p e' hp hr hscale hup hlarge =>
    -- the digits are the largest coefficient, and rounded up they do not fit
    have hscale' : 0 ≤ scale := by omega
    obtain rfl : q = maxCoefficient := by omega
    have hround := h.halfEven_eq hscale'
    rw [if_pos hup] at hround
    refine settles_dropDigit? h.places ?_ (by decide) fun hpos => ?_
    · rw [FitsAt, hround]
      omega
    · have hsticky : (true : Bool) = true ↔ (r : ℚ) / divisor ≠ 0 := by
        have hdivisor : divisor ≠ 0 := by have := h.rest; omega
        simp [hr, hdivisor]
      rw [h.tenth hpos, halfEven_div_ten _ (by positivity) h.rest_div_lt hsticky]
      decide
  | case5 q r scale e p e' hp hr hscale hdown =>
    have hscale' : 0 ≤ scale := by omega
    refine settles_of_halfEven hscale' h.places hq ?_ (h.last hscale' hr hp)
    rw [h.halfEven_eq hscale', if_neg hdown]
  | case6 q r scale e p hp hover =>
    obtain ⟨hr, hnine, hshort⟩ := hover
    have hlarge := lt_of_nextDigits_lt hr hnine (by omega)
    exact h.not_fitsAt_zero (p := nextDigits q r scale + 1) (by omega) hlarge
  | case7 q r scale e p hp hover q' hlarge =>
    by_cases hr : r = 0
    · refine h.not_fitsAt_zero (p := p) ?_ hlarge
      simp only [p, nextDigits, if_pos hr]
      have : p ≠ 0 := hp
      simp only [p, nextDigits, if_pos hr] at this
      omega
    · have hfits := mul_headroom_le hq (min 9 (maxScale - scale).toNat)
      rw [← nextDigits_of_ne hr] at hfits
      exact absurd hlarge (not_lt.2 hfits)
  | case8 q r scale e p e' hp hover q' hfits q'' r' hlarge =>
    have hplaces : scale + p ≤ maxScale := by have := nextDigits_le hp; omega
    have hnext := h.next hplaces
    have hsticky : (r' != 0) = true ↔ (r' : ℚ) / divisor ≠ 0 := by
      have hdivisor : divisor ≠ 0 := by have := h.rest; omega
      simp [hdivisor]
    refine settles_dropDigit? hplaces (hnext.not_fitsAt hlarge) ?_ fun hpos => ?_
    · -- the digits of one round are far fewer than those of a coefficient
      have hpow : 10 ^ p ≤ 10 ^ 9 := Nat.pow_le_pow_right (by decide) nextDigits_le_nine
      have hround : r * 10 ^ p / divisor < 10 ^ p := by
        rw [Nat.div_lt_iff_lt_mul (by have := h.rest; omega), mul_comm]
        exact Nat.mul_lt_mul_of_pos_left h.rest (by positivity)
      omega
    · rw [hnext.tenth hpos]
      exact halfEven_div_ten _ (by positivity) hnext.rest_div_lt hsticky
  | case9 q r scale e p e' hp hover q' hfits q'' r' hfits' ih =>
    exact ih (h.next (by have := nextDigits_le hp; omega)) (not_lt.1 hfits')

/-! ### Trailing zeros -/

/-- Digits and places for the same number, with no more of either. -/
structure IsTidier (y z : ℕ × ℕ) : Prop where
  same : (y.1 : ℚ) / 10 ^ y.2 = z.1 / 10 ^ z.2
  digits : y.1 ≤ z.1
  places : y.2 ≤ z.2

theorem IsTidier.refl (y : ℕ × ℕ) : IsTidier y y := ⟨rfl, le_rfl, le_rfl⟩

theorem IsTidier.trans {y z w : ℕ × ℕ} (h : IsTidier y z) (h' : IsTidier z w) : IsTidier y w :=
  ⟨h.same.trans h'.same, h.digits.trans h'.digits, h.places.trans h'.places⟩

/-- Zeros at the end are no part of a number. -/
theorem isTidier_div {count : ℕ} {y : ℕ × ℕ} (h : count ≤ y.2) (hzeros : y.1 % 10 ^ count = 0) :
    IsTidier (y.1 / 10 ^ count, y.2 - count) y := by
  refine ⟨?_, Nat.div_le_self _ _, Nat.sub_le _ _⟩
  have hdigits : ((y.1 / 10 ^ count : ℕ) : ℚ) * 10 ^ count = y.1 := by
    exact_mod_cast Nat.div_mul_cancel (Nat.dvd_of_mod_eq_zero hzeros)
  have hplaces : (10 : ℚ) ^ y.2 = 10 ^ (y.2 - count) * 10 ^ count := by
    rw [← pow_add, Nat.sub_add_cancel h]
  rw [← hdigits, hplaces, mul_div_mul_right _ _ (by positivity)]

theorem isTidier_stripZeros (count : ℕ) (y : ℕ × ℕ) : IsTidier (stripZeros count y) y := by
  unfold stripZeros
  split
  · next h => exact isTidier_div h.1 h.2
  · exact .refl y

theorem isTidier_stripEights (q scale : ℕ) : IsTidier (stripEights q scale) (q, scale) := by
  fun_induction stripEights q scale with
  | case1 q scale h ih => exact ih.trans (isTidier_div (y := (q, scale)) h.1 h.2.2)
  | case2 q scale h => exact .refl _

/-- Tidying up leaves the number as it is. -/
theorem isTidier_tidy (q scale : ℕ) : IsTidier (tidy q scale) (q, scale) :=
  ((isTidier_stripZeros 1 _).trans (isTidier_stripZeros 2 _)).trans
    ((isTidier_stripZeros 4 _).trans (isTidier_stripEights q scale))

/-! ### The quotient of two decimals -/

variable {a b : Decimal}

/-- Digits that fit make up a decimal, with no sign where neither factor has one. -/
theorem exists_mk?_withSign (ha : a.isNegative = false) (hb : b.isNegative = false) {k places : ℕ}
    (hk : k ≤ maxCoefficient) (hplaces : places ≤ maxScale) :
    ∃ y, mk? (withSign a b k) places = some y ∧ y.toRat = (k : ℚ) / 10 ^ places := by
  have hsign : withSign a b k = k := by simp [withSign, ha, hb]
  refine ⟨⟨k, places, hk, hplaces⟩, ?_, ?_⟩
  · rw [hsign, mk?, dif_pos ⟨hk, hplaces⟩]
  · simp [toRat]

/-- The first round of the division of two decimals. -/
theorem underway_div (ha : a.isNegative = false) (hb : b.isNegative = false)
    (hzero : b.coefficient ≠ 0) :
    Underway (a.toRat / b.toRat) b.coefficient.natAbs
      (a.coefficient.natAbs / b.coefficient.natAbs) (a.coefficient.natAbs % b.coefficient.natAbs)
      (a.scale - b.scale) where
  exact := by
    have hpos : (b.coefficient.natAbs : ℚ) ≠ 0 := by exact_mod_cast Int.natAbs_ne_zero.2 hzero
    have hparts : (b.coefficient.natAbs : ℚ) * (a.coefficient.natAbs / b.coefficient.natAbs : ℕ) +
        (a.coefficient.natAbs % b.coefficient.natAbs : ℕ) = a.coefficient.natAbs := by
      exact_mod_cast Nat.div_add_mod _ _
    rw [toRat_eq_natAbs ha, toRat_eq_natAbs hb, zpow_sub₀ (by norm_num), zpow_natCast,
      zpow_natCast]
    field_simp
    linarith
  rest := Nat.mod_lt _ (Int.natAbs_pos.2 hzero)
  places := by
    have := a.scale_le
    simp only [maxScale]
    omega

/-- **The quotient of two decimals** is the exact quotient, rounded once. There is none only where
the integer part of the exact quotient does not fit. -/
theorem div?_cases (ha : a.isNegative = false) (hb : b.isNegative = false)
    (hzero : b.coefficient ≠ 0) :
    (∃ y, a.div? b = some y ∧ RoundsTo (a.toRat / b.toRat) y.toRat) ∨
      (a.div? b = none ∧ ¬ FitsAt (a.toRat / b.toRat) 0) := by
  have hsettles := settles_longDivide? (e := false) (underway_div ha hb hzero)
    ((Nat.div_le_self _ _).trans a.natAbs_le)
  rw [div?, if_neg hzero]
  split
  · next hnone =>
    refine .inl ⟨0, rfl, ?_⟩
    rw [toRat_of_coefficient_eq_zero hnone, zero_div, toRat_of_coefficient_eq_zero rfl]
    exact isDecimal_zero.roundsTo
  · dsimp only
    cases hdivide : longDivide? b.coefficient.natAbs
        (a.coefficient.natAbs / b.coefficient.natAbs)
        (a.coefficient.natAbs % b.coefficient.natAbs) (a.scale - b.scale) false with
    | none => exact .inr ⟨rfl, by rwa [hdivide] at hsettles⟩
    | some y =>
      rw [hdivide] at hsettles
      obtain ⟨hdigits, hscale, hplaces, hround⟩ := hsettles
      have htidy : IsTidier (if y.extended then tidy y.digits y.scale.toNat
          else (y.digits, y.scale.toNat)) (y.digits, y.scale.toNat) := by
        split
        · exact isTidier_tidy _ _
        · exact .refl _
      obtain ⟨z, hz, hsame⟩ := exists_mk?_withSign ha hb (htidy.digits.trans hdigits)
        (htidy.places.trans (by dsimp only; omega))
      exact .inl ⟨z, hz, by rwa [hsame, htidy.same]⟩

theorem roundsTo_div? (ha : 0 ≤ a.toRat) (hb : 0 < b.toRat) {y : Decimal}
    (h : a.div? b = some y) : RoundsTo (a.toRat / b.toRat) y.toRat := by
  have hzero : b.coefficient ≠ 0 := fun hnone =>
    hb.ne' (toRat_of_coefficient_eq_zero hnone)
  rcases div?_cases (isNegative_eq_false ha) (isNegative_eq_false hb.le) hzero with
    ⟨z, hz, hround⟩ | ⟨hnone, -⟩
  · obtain rfl : z = y := Option.some.inj (hz.symm.trans h)
    exact hround
  · cases hnone.symm.trans h

end RollupFees.Decimal
