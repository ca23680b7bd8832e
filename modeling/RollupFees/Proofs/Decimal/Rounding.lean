import Mathlib.Algebra.Order.Floor.Ring
import RollupFees.Proofs.Steering.Limit

/-!
# Rounding to a decimal

A quotient or a product of two decimals need not be a decimal. It is then rounded, half to even, to
as many places as a decimal may have, or, where the coefficient would outgrow its 96 bits, to the
most places for which it does not. This is one function of the exact number: it does not matter
which decimals the number came from, nor in which order their digits were worked out.

Only magnitudes are rounded here, so the exact number is not negative throughout.

## Main definitions

* `halfEven` : the nearest integer, a half goes to the even neighbour
* `Decimal.FitsAt` : a number fits into a decimal when it is rounded to so many places
* `Decimal.RoundsTo` : a number is rounded to another one

## Main results

* `Decimal.RoundsTo.eq_of_isDecimal` : a number that is a decimal is not rounded
* `Decimal.RoundsTo.abs_sub_le` : how far a number moves when it is rounded
* `Decimal.RoundsTo.mono` : rounding keeps the order
* `Decimal.RoundsTo.le_mul_pow`, `Decimal.RoundsTo.mul_pow_le` : rounding does not cross an integer
-/

namespace RollupFees

/-! ### The nearest integer -/

/-- The nearest integer; a half goes to the even neighbour. -/
def halfEven (x : ℚ) : ℤ :=
  if 1 / 2 < Int.fract x ∨ (Int.fract x = 1 / 2 ∧ Odd ⌊x⌋) then ⌊x⌋ + 1 else ⌊x⌋

/-- An integer and a part of one are rounded by the part. -/
theorem halfEven_intCast_add (n : ℤ) {f : ℚ} (h0 : 0 ≤ f) (h1 : f < 1) :
    halfEven (n + f) = if 1 / 2 < f ∨ (f = 1 / 2 ∧ Odd n) then n + 1 else n := by
  have hfloor : ⌊(n : ℚ) + f⌋ = n := by
    rw [Int.floor_intCast_add, Int.floor_eq_zero_iff.2 ⟨h0, h1⟩, add_zero]
  have hfract : Int.fract ((n : ℚ) + f) = f := by
    rw [Int.fract_intCast_add, Int.fract_eq_self.2 ⟨h0, h1⟩]
  rw [halfEven, hfloor, hfract]

@[simp] theorem halfEven_intCast (n : ℤ) : halfEven n = n := by
  have h := halfEven_intCast_add n (f := 0) le_rfl one_pos
  rw [add_zero] at h
  rw [h, if_neg (by norm_num)]

theorem floor_le_halfEven (x : ℚ) : ⌊x⌋ ≤ halfEven x := by
  unfold halfEven
  split <;> omega

theorem halfEven_le_floor_add_one (x : ℚ) : halfEven x ≤ ⌊x⌋ + 1 := by
  unfold halfEven
  split <;> omega

/-- The nearest integer of a larger number is not smaller. -/
theorem halfEven_mono {x y : ℚ} (h : x ≤ y) : halfEven x ≤ halfEven y := by
  rcases (Int.floor_le_floor h).lt_or_eq with hlt | heq
  · calc halfEven x ≤ ⌊x⌋ + 1 := halfEven_le_floor_add_one x
      _ ≤ ⌊y⌋ := hlt
      _ ≤ halfEven y := floor_le_halfEven y
  · -- with the same floor, the larger part decides
    have hfract : Int.fract x ≤ Int.fract y := by
      rw [Int.fract, Int.fract, heq]
      linarith
    unfold halfEven
    rw [heq]
    split
    · next hx =>
      refine (if_pos ?_).ge
      rcases hx with hx | ⟨hx, hodd⟩
      · exact .inl (hx.trans_le hfract)
      · rcases hfract.lt_or_eq with hlt | heq
        · exact .inl (hx ▸ hlt)
        · exact .inr ⟨heq ▸ hx, hodd⟩
    · split <;> omega

/-- The nearest integer is no further than a half. -/
theorem abs_halfEven_sub_le (x : ℚ) : |(halfEven x : ℚ) - x| ≤ 1 / 2 := by
  have hsplit := Int.floor_add_fract x
  have hnonneg := Int.fract_nonneg x
  have hlt := Int.fract_lt_one x
  rw [abs_le]
  unfold halfEven
  split
  · next h =>
    have : 1 / 2 ≤ Int.fract x := h.elim le_of_lt fun h => h.1.ge
    push_cast
    constructor <;> linarith
  · next h =>
    have : Int.fract x ≤ 1 / 2 := le_of_not_gt fun hgt => h (.inl hgt)
    constructor <;> linarith

/-- An integer that a number reaches is reached by the nearest integer. -/
theorem le_halfEven {n : ℤ} {x : ℚ} (h : n ≤ x) : n ≤ halfEven x :=
  (halfEven_intCast n).ge.trans (halfEven_mono h)

/-- An integer that a number does not exceed is not exceeded by the nearest integer. -/
theorem halfEven_le {n : ℤ} {x : ℚ} (h : x ≤ n) : halfEven x ≤ n :=
  (halfEven_mono h).trans (halfEven_intCast n).le

/-- A part is more than a half if twice its numerator exceeds the denominator. -/
theorem half_lt_div_iff {r d : ℕ} (hd : 0 < d) : (1 : ℚ) / 2 < r / d ↔ d < 2 * r := by
  have hd' : (0 : ℚ) < d := by exact_mod_cast hd
  rw [div_lt_div_iff₀ two_pos hd', one_mul, mul_comm]
  exact_mod_cast Iff.rfl

theorem div_eq_half_iff {r d : ℕ} (hd : 0 < d) : (r : ℚ) / d = 1 / 2 ↔ 2 * r = d := by
  have hd' : (d : ℚ) ≠ 0 := by exact_mod_cast hd.ne'
  rw [div_eq_div_iff hd' two_ne_zero, one_mul, mul_comm]
  exact_mod_cast Iff.rfl

/-- An integer and a proper fraction are rounded by the fraction. -/
theorem halfEven_add_div (q : ℕ) {r d : ℕ} (h : r < d) : halfEven ((q : ℤ) + (r : ℚ) / d) =
    ((if d < 2 * r ∨ (2 * r = d ∧ q % 2 = 1) then q + 1 else q : ℕ) : ℤ) := by
  have hd : 0 < d := (Nat.zero_le r).trans_lt h
  have hpart : (r : ℚ) / d < 1 := by
    rw [div_lt_one (by exact_mod_cast hd)]
    exact_mod_cast h
  rw [halfEven_intCast_add _ (by positivity) hpart]
  simp only [half_lt_div_iff hd, div_eq_half_iff hd, Int.odd_coe_nat, Nat.odd_iff]
  split <;> push_cast <;> rfl

/-- The rounded quotient of two natural numbers is the nearest integer of the exact one. -/
theorem roundHalfEven_eq (n : ℕ) {d : ℕ} (hd : 0 < d) :
    (roundHalfEven n d : ℤ) = halfEven ((n : ℚ) / d) := by
  have hd' : (0 : ℚ) < d := by exact_mod_cast hd
  have hsplit : (n : ℚ) / d = ((n / d : ℕ) : ℤ) + ((n % d : ℕ) : ℚ) / d := by
    have hparts : (d : ℚ) * (n / d : ℕ) + (n % d : ℕ) = n := by exact_mod_cast Nat.div_add_mod n d
    rw [Int.cast_natCast, div_eq_iff hd'.ne', add_mul, div_mul_cancel₀ _ hd'.ne', ← hparts,
      mul_comm]
  rw [hsplit, halfEven_add_div _ (Nat.mod_lt n hd), roundHalfEven]

namespace Decimal

/-! ### Fitting into a decimal -/

/-- The number, rounded to so many places, has a coefficient that fits. -/
def FitsAt (x : ℚ) (places : ℕ) : Prop := halfEven (x * 10 ^ places) ≤ maxCoefficient

/-- A number is rounded to as many places as a decimal may have, or to the most for which it fits
into one. -/
def RoundsTo (x y : ℚ) : Prop :=
  ∃ places ≤ maxScale, FitsAt x places ∧ (places = maxScale ∨ ¬ FitsAt x (places + 1)) ∧
    y = halfEven (x * 10 ^ places) / 10 ^ places

/-- A number that some decimal stands for. -/
def IsDecimal (x : ℚ) : Prop :=
  ∃ c ≤ maxCoefficient, ∃ places ≤ maxScale, x = (c : ℚ) / 10 ^ places

variable {x y : ℚ} {m n : ℕ}

/-- With fewer places a number fits all the more. -/
theorem FitsAt.of_le (hx : 0 ≤ x) (h : FitsAt x n) (hmn : m ≤ n) : FitsAt x m := by
  refine (halfEven_mono ?_).trans h
  gcongr
  norm_num

theorem fitsAt_of_eq {c : ℕ} (hc : c ≤ maxCoefficient) (h : x = (c : ℚ) / 10 ^ n) :
    FitsAt x n := by
  have hwhole : x * 10 ^ n = (c : ℤ) := by
    rw [h, div_mul_cancel₀ _ (by positivity)]
    rfl
  rw [FitsAt, hwhole, halfEven_intCast]
  exact_mod_cast hc

/-- A number that does not fit is above the largest coefficient. -/
theorem lt_of_not_fitsAt (h : ¬ FitsAt x n) : (maxCoefficient : ℚ) < x * 10 ^ n := by
  by_contra hle
  exact h (halfEven_le (n := maxCoefficient) (by exact_mod_cast not_lt.1 hle))

/-- A number that is an integer at so many places is not changed by rounding to them. -/
theorem halfEven_div_of_eq {c : ℕ} (h : x * 10 ^ n = c) :
    (halfEven (x * 10 ^ n) : ℚ) / 10 ^ n = x := by
  have hinteger : x * 10 ^ n = (c : ℤ) := h
  rw [hinteger, halfEven_intCast, ← hinteger, mul_div_cancel_right₀ _ (by positivity)]

/-- Where a number is an integer at some places, it is one at more places. -/
theorem exists_eq_of_le {c : ℕ} (h : x * 10 ^ m = c) (hmn : m ≤ n) :
    ∃ c' : ℕ, x * 10 ^ n = c' := by
  refine ⟨c * 10 ^ (n - m), ?_⟩
  rw [← Nat.add_sub_cancel' hmn, pow_add, ← mul_assoc, h, Nat.add_sub_cancel_left]
  push_cast
  rfl

/-- There is a largest number of places at which a number fits, if there is any. -/
theorem exists_last_fitsAt (h : FitsAt x n) (hn : n ≤ maxScale) :
    ∃ places, n ≤ places ∧ places ≤ maxScale ∧ FitsAt x places ∧
      (places = maxScale ∨ ¬ FitsAt x (places + 1)) := by
  classical
  refine ⟨Nat.findGreatest (FitsAt x) maxScale, Nat.le_findGreatest hn h,
    Nat.findGreatest_le _, Nat.findGreatest_spec hn h, ?_⟩
  by_cases hlast : Nat.findGreatest (FitsAt x) maxScale = maxScale
  · exact .inl hlast
  · have hle := Nat.findGreatest_le (P := FitsAt x) maxScale
    exact .inr (Nat.findGreatest_is_greatest (Nat.lt_succ_self _) (by omega))

/-! ### Rounding -/

/-- Rounding goes on at least as long as a number fits. -/
theorem le_of_fitsAt_of_last (hx : 0 ≤ x) (hm : m = maxScale ∨ ¬ FitsAt x (m + 1))
    (hn : n ≤ maxScale) (h : FitsAt x n) : n ≤ m := by
  rcases hm with rfl | hm
  · exact hn
  · by_contra hlt
    exact hm (h.of_le hx (by omega))

/-- A number that is a decimal rounds to itself. -/
theorem IsDecimal.roundsTo (h : IsDecimal x) : RoundsTo x x := by
  obtain ⟨c, hc, n, hn, hx⟩ := h
  obtain ⟨places, hle, hplaces, hfits, hlast⟩ := exists_last_fitsAt (fitsAt_of_eq hc hx) hn
  have hwhole : x * 10 ^ n = c := by rw [hx, div_mul_cancel₀ _ (by positivity)]
  obtain ⟨c', hc'⟩ := exists_eq_of_le hwhole hle
  exact ⟨places, hplaces, hfits, hlast, (halfEven_div_of_eq hc').symm⟩

/-- What a number rounds to depends on the number alone. -/
theorem RoundsTo.unique (hx : 0 ≤ x) {y' : ℚ} (h : RoundsTo x y) (h' : RoundsTo x y') :
    y = y' := by
  obtain ⟨m, hm, hfits, hlast, rfl⟩ := h
  obtain ⟨n, hn, hfits', hlast', rfl⟩ := h'
  obtain rfl : m = n := le_antisymm (le_of_fitsAt_of_last hx hlast' hm hfits)
    (le_of_fitsAt_of_last hx hlast hn hfits')
  rfl

/-- **A number that is a decimal is not rounded.** -/
theorem RoundsTo.eq_of_isDecimal (h : RoundsTo x y) (hx : 0 ≤ x) (hdecimal : IsDecimal x) :
    y = x :=
  h.unique hx hdecimal.roundsTo

theorem RoundsTo.fitsAt (h : RoundsTo x y) (hx : 0 ≤ x) : FitsAt x 0 := by
  obtain ⟨places, -, hfits, -⟩ := h
  exact hfits.of_le hx (Nat.zero_le _)

/-- What a number is rounded to is a decimal. -/
theorem RoundsTo.isDecimal (h : RoundsTo x y) (hx : 0 ≤ x) : IsDecimal y := by
  obtain ⟨n, hn, hfits, -, rfl⟩ := h
  have hnonneg : 0 ≤ halfEven (x * 10 ^ n) := le_halfEven (n := 0) (by push_cast; positivity)
  refine ⟨(halfEven (x * 10 ^ n)).toNat, ?_, n, hn, ?_⟩
  · have : halfEven (x * 10 ^ n) ≤ maxCoefficient := hfits
    omega
  · have : (((halfEven (x * 10 ^ n)).toNat : ℤ) : ℚ) = halfEven (x * 10 ^ n) := by
      rw [Int.toNat_of_nonneg hnonneg]
    rw [← this, Int.cast_natCast]

theorem IsDecimal.nonneg (h : IsDecimal x) : 0 ≤ x := by
  obtain ⟨c, -, n, -, rfl⟩ := h
  positivity

theorem IsDecimal.le_maxCoefficient (h : IsDecimal x) : x ≤ maxCoefficient := by
  obtain ⟨c, hc, n, -, rfl⟩ := h
  have hcoefficient : (c : ℚ) ≤ maxCoefficient := by exact_mod_cast hc
  exact (div_le_self (Nat.cast_nonneg c) (one_le_pow₀ (by norm_num))).trans hcoefficient

/-- An integer that fits is a decimal. -/
theorem isDecimal_natCast (h : FitsAt n 0) : IsDecimal n := by
  have hwhole : halfEven ((n : ℚ) * 10 ^ 0) = n := by
    rw [pow_zero, mul_one]
    exact halfEven_intCast n
  rw [FitsAt, hwhole] at h
  exact ⟨n, by exact_mod_cast h, 0, Nat.zero_le _, by simp⟩

/-- A decimal that is not negative is its magnitude. -/
theorem toRat_eq_natAbs {d : Decimal} (h : d.isNegative = false) :
    d.toRat = (d.coefficient.natAbs : ℚ) / 10 ^ d.scale := by
  have hnonneg : 0 ≤ d.coefficient := by simpa [isNegative] using h
  rw [toRat, ← Int.cast_natCast d.coefficient.natAbs, Int.natAbs_of_nonneg hnonneg]
  push_cast
  rfl

theorem isDecimal_toRat {d : Decimal} (h : d.isNegative = false) : IsDecimal d.toRat :=
  ⟨d.coefficient.natAbs, d.natAbs_le, d.scale, d.scale_le, toRat_eq_natAbs h⟩

theorem isNegative_eq_false {d : Decimal} (h : 0 ≤ d.toRat) : d.isNegative = false := by
  rw [toRat, le_div_iff₀ (by positivity), zero_mul] at h
  have hcoefficient : 0 ≤ d.coefficient := by exact_mod_cast h
  simpa [isNegative] using hcoefficient

theorem toRat_of_coefficient_eq_zero {d : Decimal} (h : d.coefficient = 0) : d.toRat = 0 := by
  simp [toRat, h]

theorem toRat_ofInt? {d : Decimal} {k : ℕ} (h : ofInt? k = some d) : d.toRat = k := by
  obtain ⟨hcoefficient, hscale⟩ := eq_of_mk? h
  simp [toRat, hcoefficient, hscale]

theorem isDecimal_zero : IsDecimal 0 := ⟨0, Nat.zero_le _, 0, Nat.zero_le _, by simp⟩

/-- A decimal with its point moved to the right is a decimal, as long as it fits. -/
theorem IsDecimal.mul_pow (h : IsDecimal x) (hfits : FitsAt (x * 10 ^ n) 0) :
    IsDecimal (x * 10 ^ n) := by
  obtain ⟨c, hc, places, hplaces, rfl⟩ := h
  rcases le_total n places with hle | hle
  · refine ⟨c, hc, places - n, by omega, ?_⟩
    rw [← Nat.sub_add_cancel hle, pow_add, Nat.add_sub_cancel]
    field_simp
  · have hinteger : (c : ℚ) / 10 ^ places * 10 ^ n = (c * 10 ^ (n - places) : ℕ) := by
      rw [← Nat.sub_add_cancel hle, pow_add, Nat.add_sub_cancel]
      push_cast
      field_simp
    rw [hinteger] at hfits ⊢
    exact isDecimal_natCast hfits

/-- A product with a power of ten is not rounded. -/
theorem RoundsTo.eq_mul_pow (h : RoundsTo (x * 10 ^ n) y) (hx : IsDecimal x) :
    y = x * 10 ^ n :=
  have hnonneg : 0 ≤ x * 10 ^ n := mul_nonneg hx.nonneg (by positivity)
  h.eq_of_isDecimal hnonneg (hx.mul_pow (h.fitsAt hnonneg))

/-! ### How far a number moves -/

/-- **How far a number moves when it is rounded.** It moves by half a unit of the last place, which
is the last one that a decimal may have, or else within the precision of the coefficient. -/
theorem RoundsTo.abs_sub_le (h : RoundsTo x y) :
    |y - x| ≤ max (1 / (2 * 10 ^ maxScale)) (5 * x / maxCoefficient) := by
  obtain ⟨n, -, -, hlast, rfl⟩ := h
  have hunit : |(halfEven (x * 10 ^ n) : ℚ) / 10 ^ n - x| ≤ 1 / (2 * 10 ^ n) := by
    have hscaled : (halfEven (x * 10 ^ n) : ℚ) / 10 ^ n - x =
        (halfEven (x * 10 ^ n) - x * 10 ^ n) / 10 ^ n := by
      field_simp
    rw [hscaled, abs_div, abs_of_pos (by positivity : (0 : ℚ) < 10 ^ n), ← div_div]
    gcongr
    exact abs_halfEven_sub_le _
  refine hunit.trans ?_
  rcases hlast with rfl | hlast
  · exact le_max_left _ _
  · refine le_trans ?_ (le_max_right _ _)
    have hmax : (0 : ℚ) < maxCoefficient := by norm_num [maxCoefficient]
    have hlarge := (lt_of_not_fitsAt hlast).le
    rw [pow_succ] at hlarge
    rw [div_le_div_iff₀ (by positivity) hmax]
    linarith

/-- Where the rounded digits leave room for one more, the number fits at one more place: the largest
coefficient ends in a five. -/
theorem fitsAt_succ (h : halfEven (x * 10 ^ m) * 10 ≤ maxCoefficient) : FitsAt x (m + 1) := by
  have hnear := (abs_le.1 (abs_halfEven_sub_le (x * 10 ^ m))).1
  have hfive : halfEven (x * 10 ^ m) * 10 + 5 ≤ maxCoefficient := by
    rw [maxCoefficient] at h ⊢
    omega
  have hfive' : (halfEven (x * 10 ^ m) : ℚ) * 10 + 5 ≤ ((maxCoefficient : ℤ) : ℚ) := by
    exact_mod_cast hfive
  refine halfEven_le (n := maxCoefficient) ?_
  rw [pow_succ]
  linarith

/-- A number is rounded at no fewer places than the point of the result can be moved by. -/
theorem le_places (hlast : m = maxScale ∨ ¬ FitsAt x (m + 1)) (hn : n ≤ maxScale)
    (h : (halfEven (x * 10 ^ m) : ℚ) / 10 ^ m * 10 ^ n ≤ maxCoefficient) : n ≤ m := by
  rcases hlast with rfl | hlast
  · exact hn
  by_contra hlt
  -- otherwise one more digit would have fitted
  apply hlast
  obtain ⟨k, rfl⟩ : ∃ k, n = m + 1 + k := ⟨n - (m + 1), by omega⟩
  have hten : (halfEven (x * 10 ^ m) : ℚ) * 10 ≤ maxCoefficient := by
    rcases le_or_gt (halfEven (x * 10 ^ m) : ℚ) 0 with hneg | hpos
    · exact le_trans (by linarith) (Nat.cast_nonneg _)
    · refine le_trans ?_ h
      rw [pow_add, pow_succ]
      field_simp
      exact one_le_pow₀ (by norm_num)
  exact fitsAt_succ (by exact_mod_cast hten)

/-- **Rounding keeps the order**, also where a larger number is rounded to fewer places: what does
not fit at a place is rounded above all that does. -/
theorem RoundsTo.mono {x' y' : ℚ} (h : RoundsTo x y) (h' : RoundsTo x' y') (hx : 0 ≤ x)
    (hle : x ≤ x') : y ≤ y' := by
  obtain ⟨m, hm, hfits, hlast, rfl⟩ := h
  obtain ⟨n, hn, hfits', hlast', rfl⟩ := h'
  have hround : halfEven (x * 10 ^ n) ≤ halfEven (x' * 10 ^ n) := halfEven_mono (by gcongr)
  rcases (le_of_fitsAt_of_last hx hlast hn (hround.trans hfits')).eq_or_lt with rfl | hfewer
  · gcongr
  · have hover : (maxCoefficient : ℤ) < halfEven (x' * 10 ^ n) * 10 :=
      not_le.1 fun hroom => hlast'.resolve_left (by omega) (fitsAt_succ hroom)
    have hover' : (maxCoefficient : ℚ) ≤ halfEven (x' * 10 ^ n) * 10 := by exact_mod_cast hover.le
    have hpow : (10 : ℚ) ^ (n + 1) ≤ 10 ^ m := pow_le_pow_right₀ (by norm_num) hfewer
    have hfits' : (halfEven (x * 10 ^ m) : ℚ) ≤ ((maxCoefficient : ℤ) : ℚ) := Int.cast_le.2 hfits
    calc (halfEven (x * 10 ^ m) : ℚ) / 10 ^ m
        ≤ maxCoefficient / 10 ^ (n + 1) :=
          div_le_div₀ (Nat.cast_nonneg _) hfits' (by positivity) hpow
      _ ≤ halfEven (x' * 10 ^ n) * 10 / 10 ^ (n + 1) := by gcongr
      _ = halfEven (x' * 10 ^ n) / 10 ^ n := by rw [pow_succ]; field_simp

/-- **Rounding does not cross an integer**, nor any number that is one once the point is moved. What
the exact number reaches is reached by the rounded one. -/
theorem RoundsTo.le_mul_pow {k : ℤ} (h : RoundsTo x y) (hn : n ≤ maxScale)
    (hfits : y * 10 ^ n ≤ maxCoefficient) (hk : k ≤ x * 10 ^ n) : k ≤ y * 10 ^ n := by
  obtain ⟨m, -, -, hlast, rfl⟩ := h
  obtain ⟨j, rfl⟩ := Nat.exists_eq_add_of_le (le_places hlast hn hfits)
  have hscaled : ((k * 10 ^ j : ℤ) : ℚ) ≤ x * 10 ^ (n + j) := by
    rw [pow_add, ← mul_assoc]
    push_cast
    gcongr
  have hround : ((k * 10 ^ j : ℤ) : ℚ) ≤ halfEven (x * 10 ^ (n + j)) :=
    Int.cast_le.2 (le_halfEven hscaled)
  rw [div_mul_eq_mul_div, le_div_iff₀ (by positivity), pow_add]
  push_cast at hround
  calc (k : ℚ) * (10 ^ n * 10 ^ j) = k * 10 ^ j * 10 ^ n := by ring
    _ ≤ halfEven (x * (10 ^ n * 10 ^ j)) * 10 ^ n := by
      rw [← pow_add]
      gcongr

/-- What the exact number does not exceed is not exceeded by the rounded one. -/
theorem RoundsTo.mul_pow_le {k : ℤ} (h : RoundsTo x y) (hn : n ≤ maxScale)
    (hfits : y * 10 ^ n ≤ maxCoefficient) (hk : x * 10 ^ n ≤ k) : y * 10 ^ n ≤ k := by
  obtain ⟨m, -, -, hlast, rfl⟩ := h
  obtain ⟨j, rfl⟩ := Nat.exists_eq_add_of_le (le_places hlast hn hfits)
  have hscaled : x * 10 ^ (n + j) ≤ ((k * 10 ^ j : ℤ) : ℚ) := by
    rw [pow_add, ← mul_assoc]
    push_cast
    gcongr
  have hround : (halfEven (x * 10 ^ (n + j)) : ℚ) ≤ ((k * 10 ^ j : ℤ) : ℚ) :=
    Int.cast_le.2 (halfEven_le hscaled)
  rw [div_mul_eq_mul_div, div_le_iff₀ (by positivity), pow_add]
  push_cast at hround
  calc (halfEven (x * (10 ^ n * 10 ^ j)) : ℚ) * 10 ^ n ≤ k * 10 ^ j * 10 ^ n := by
        rw [← pow_add]
        gcongr
    _ = k * (10 ^ n * 10 ^ j) := by ring

end Decimal
end RollupFees
