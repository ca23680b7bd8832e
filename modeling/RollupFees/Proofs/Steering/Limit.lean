import Mathlib.Data.Rat.Floor
import Mathlib.Tactic.FieldSimp
import Mathlib.Tactic.GCongr
import Mathlib.Tactic.Linarith
import Mathlib.Tactic.Positivity
import RollupFees.Proofs.Steering.Warrant

/-!
# The limit of a move

A move is limited to a fraction of the current value. The calculation takes the fraction in parts
per million, multiplies in 256 bits and stops at the largest amount; what is decided stays within
the exact limit all the same, because a fraction is scaled without rounding up.

## Main definitions

* `Decimal.toRat` : the number that a decimal stands for
* `WithinLimit` : a value is within a fraction of another one

## Main results

* `withinLimit_of_decide` : what is decided is within the limit
-/

namespace RollupFees

/-- The number that a decimal stands for. -/
def Decimal.toRat (d : Decimal) : ℚ := d.coefficient / (10 ^ d.scale : ℕ)

/-- A value is within a fraction of another one, up to the rounding of both limits. -/
def WithinLimit (fraction : Decimal) (before after : Amount) : Prop :=
  ⌊(before.toNat : ℚ) * (1 - fraction.toRat)⌋ ≤ (after.toNat : ℤ) ∧
    (after.toNat : ℤ) ≤ ⌊(before.toNat : ℚ) * (1 + fraction.toRat)⌋

namespace Decimal

theorem floor_eq (d : Decimal) : d.floor = ⌊d.toRat⌋ := by
  rw [floor, toRat, Rat.floor_intCast_div_natCast]

theorem toRat_nonneg {d : Decimal} (h : d.isNegative = false) : 0 ≤ d.toRat := by
  have hcoefficient : 0 ≤ d.coefficient := by simpa [isNegative] using h
  have : (0 : ℚ) ≤ d.coefficient := by exact_mod_cast hcoefficient
  rw [toRat]
  positivity

/-! ### A million times a decimal -/

theorem roundHalfEven_mul (n d : ℕ) (hd : 0 < d) : roundHalfEven (n * d) d = n := by
  have hrest : n * d % d = 0 := Nat.mul_mod_left n d
  have hquotient : n * d / d = n := Nat.mul_div_cancel n hd
  unfold roundHalfEven
  rw [hrest, hquotient, if_neg]
  omega

/-- No more than six digits of a million times a coefficient have to be dropped. -/
theorem leastDrop?_million {n s t : ℕ} (hn : n ≤ maxCoefficient)
    (h : leastDrop? (n * million) s 0 = some t) : t ≤ 6 ∧ t ≤ s := by
  obtain ⟨-, hrange, hleast⟩ := List.find?_range'_eq_some.1 h
  rw [List.mem_range'_1] at hrange
  refine ⟨?_, by omega⟩
  by_contra hlarge
  -- six digits would have been found first
  have hsix : roundHalfEven (n * million) (10 ^ 6) = n := roundHalfEven_mul n (10 ^ 6) (by decide)
  have hfits := hleast 6 (by omega) (by omega)
  rw [hsix] at hfits
  simp [hn] at hfits

theorem eq_of_mk? {c : ℤ} {s : ℕ} {d : Decimal} (h : mk? c s = some d) :
    d.coefficient = c ∧ d.scale = s := by
  unfold mk? at h
  split at h
  · obtain rfl := Option.some.inj h
    exact ⟨rfl, rfl⟩
  · cases h

/-- A factor that is not negative leaves the sign as it is. -/
theorem withSign_eq {a b : Decimal} (hb : b.isNegative = false) (k : ℕ) :
    withSign a b (a.coefficient.natAbs * k : ℕ) = a.coefficient * k := by
  rw [withSign, hb, Nat.cast_mul]
  cases ha : a.isNegative with
  | false =>
    have : 0 ≤ a.coefficient := by simpa [isNegative] using ha
    rw [if_pos (by decide), Int.natAbs_of_nonneg this]
  | true =>
    have : a.coefficient < 0 := by simpa [isNegative] using ha
    rw [if_neg (by decide), Int.ofNat_natAbs_of_nonpos this.le, neg_mul, neg_neg]

/-- A decimal is multiplied by a million without rounding. -/
theorem toRat_mul?_million {f m p : Decimal} (hm : ofInt? million = some m)
    (h : f.mul? m = some p) : p.toRat = f.toRat * million := by
  obtain ⟨hcoefficient, hscale⟩ := eq_of_mk? hm
  have hnegative : m.isNegative = false := by rw [isNegative, hcoefficient]; rfl
  have hbound := f.scale_le
  simp only [mul?, hcoefficient, hscale, Int.natAbs_natCast, Nat.add_zero] at h
  split at h
  · next hzero =>
    obtain rfl := Option.some.inj h
    have : f.coefficient = 0 := by simpa [million] using hzero
    rw [toRat, toRat, this]
    simp [show (0 : Decimal).coefficient = 0 from rfl]
  · rw [if_neg (by omega), show f.scale - maxScale = 0 by rw [maxScale]; omega] at h
    obtain ⟨t, ht, hp⟩ := Option.bind_eq_some_iff.1 h
    obtain ⟨hsix, hle⟩ := leastDrop?_million f.natAbs_le ht
    have hmillion : million = 10 ^ (6 - t) * 10 ^ t := by
      rw [← Nat.pow_add, Nat.sub_add_cancel hsix]
      rfl
    rw [hmillion, ← Nat.mul_assoc, roundHalfEven_mul _ _ (Nat.pow_pos (by decide)),
      withSign_eq hnegative] at hp
    obtain ⟨hc, hs⟩ := eq_of_mk? hp
    have hsplit : 10 ^ f.scale = 10 ^ (f.scale - t) * 10 ^ t := by
      rw [← Nat.pow_add, Nat.sub_add_cancel hle]
    rw [toRat, toRat, hc, hs, hmillion, hsplit]
    push_cast
    field_simp

end Decimal

/-- A fraction counts for no more parts per million than it has. -/
theorem partsPerMillion_le {f : Decimal} {n : ℕ} (hf : f.isNegative = false)
    (h : partsPerMillion f = .ok n) : (n : ℚ) ≤ f.toRat * million := by
  unfold partsPerMillion at h
  split at h
  · next product hproduct =>
    obtain ⟨m, hm, hmul⟩ := Option.bind_eq_some_iff.1 hproduct
    have hscaled := Decimal.toRat_mul?_million hm hmul
    obtain rfl := Except.ok.inj h
    rw [← hscaled]
    have hnonneg : 0 ≤ product.toRat := by
      rw [hscaled]
      exact mul_nonneg (Decimal.toRat_nonneg hf) (Nat.cast_nonneg _)
    have hfloor : 0 ≤ product.floor := by
      rw [product.floor_eq]
      exact Int.floor_nonneg.2 hnonneg
    have hbelow : (product.floor : ℚ) ≤ product.toRat := by
      rw [product.floor_eq]
      exact Int.floor_le _
    rw [Decimal.floorBelow?]
    split
    · have htoNat : ((product.floor.toNat : ℕ) : ℚ) = product.floor := by
        exact_mod_cast Int.toNat_of_nonneg hfloor
      rw [Option.getD_some, htoNat]
      exact hbelow
    · next hlarge =>
      -- a fraction that is too large counts as the whole, which is less
      have : (million : ℤ) ≤ product.floor := by
        have : (million : ℤ) ≤ (2 ^ 64 : ℕ) := by decide
        omega
      calc (((none : Option ℕ).getD million : ℕ) : ℚ) = ((million : ℤ) : ℚ) := by simp
        _ ≤ product.floor := by exact_mod_cast this
        _ ≤ product.toRat := hbelow
  · cases h

/-! ### Moves -/

/-- A product that stops at the largest amount is no more than the product. -/
theorem Amount.toNat_satMul_clamp_le (a : Amount) (n : ℕ) :
    (a.satMul (clamp n)).toNat ≤ a.toNat * n := by
  rw [toNat_satMul, toNat_clamp]
  exact (Nat.min_le_left _ _).trans (Nat.mul_le_mul_left _ (Nat.min_le_left _ _))

theorem Amount.toNat_nearer (a b : Amount) :
    (if a ≤ b then a else b).toNat = min a.toNat b.toNat := by
  split <;> next h =>
    rw [le_iff] at h
    omega

theorem Amount.toNat_farther (a b : Amount) :
    (if b ≤ a then a else b).toNat = max a.toNat b.toNat := by
  split <;> next h =>
    rw [le_iff] at h
    omega

/-- How far a limited move goes: upward the change is rounded down, downward up. -/
theorem limitedMove_bounds {target current v : Amount} {ppm : ℕ}
    (h : limitedMove target current ppm = some v) :
    (v.toNat - current.toNat) * million ≤ current.toNat * ppm ∧
      (current.toNat - v.toNat) * million < current.toNat * ppm + million := by
  have hscaled := current.toNat_satMul_clamp_le ppm
  have hmillion : (Amount.clamp million).toNat = million := by decide
  have hmax := current.le_max
  have hpos : 0 < million := by decide
  unfold limitedMove at h
  generalize current.satMul (Amount.clamp ppm) = scaled at h hscaled
  dsimp only at h
  split at h
  · cases h
  split at h
  · next hup =>
    obtain rfl := Option.some.inj h
    rw [Amount.lt_iff] at hup
    rw [Amount.toNat_nearer, Amount.toNat_satAdd, Amount.toNat_div, hmillion, Amount.maxNat]
    have hfloor := Nat.div_mul_le_self scaled.toNat million
    generalize scaled.toNat / million = step at hfloor ⊢
    constructor
    · calc _ ≤ step * million := Nat.mul_le_mul_right _ (by omega)
        _ ≤ current.toNat * ppm := hfloor.trans hscaled
    · rw [show current.toNat - _ = 0 by omega]
      omega
  · next hdown =>
    obtain rfl := Option.some.inj h
    rw [Amount.lt_iff] at hdown
    rw [Amount.toNat_farther, Amount.toNat_satSub, Amount.toNat_div, hmillion]
    -- the change is at most the quotient rounded up
    have hceil : (scaled.satAdd (Amount.clamp (million - 1))).toNat < scaled.toNat + million := by
      rw [Amount.toNat_satAdd, Amount.toNat_clamp]
      omega
    have hfloor := Nat.div_mul_le_self (scaled.satAdd (Amount.clamp (million - 1))).toNat million
    generalize (scaled.satAdd (Amount.clamp (million - 1))).toNat / million = step at hfloor ⊢
    constructor
    · rw [show _ - current.toNat = 0 by omega]
      omega
    · calc _ ≤ step * million := Nat.mul_le_mul_right _ (by omega)
        _ < current.toNat * ppm + million := by omega

/-- A move that is measured in parts per million of a fraction is within the fraction. -/
theorem withinLimit_of_bounds {f : Decimal} {before after : Amount} {ppm : ℕ}
    (hppm : (ppm : ℚ) ≤ f.toRat * million)
    (hup : (after.toNat - before.toNat) * million ≤ before.toNat * ppm)
    (hdown : (before.toNat - after.toNat) * million < before.toNat * ppm + million) :
    WithinLimit f before after := by
  have hpos : (0 : ℚ) < million := by norm_num [million]
  have hshare : (before.toNat : ℚ) * ppm ≤ before.toNat * f.toRat * million := by
    rw [mul_assoc]
    gcongr
  have hcut : ∀ a b : ℕ, (a : ℤ) - b ≤ (a - b : ℕ) := fun a b => by omega
  have hfall : ((before.toNat : ℚ) - after.toNat - 1) * million < before.toNat * ppm := by
    have hle : ((before.toNat : ℤ) - after.toNat) * million <
        before.toNat * ppm + million := by
      refine lt_of_le_of_lt (mul_le_mul_of_nonneg_right (hcut _ _) (by positivity)) ?_
      exact_mod_cast hdown
    have hle' : ((before.toNat : ℚ) - after.toNat) * million < before.toNat * ppm + million := by
      exact_mod_cast hle
    linarith
  have hrise : ((after.toNat : ℚ) - before.toNat) * million ≤ before.toNat * ppm := by
    have hle : ((after.toNat : ℤ) - before.toNat) * million ≤ before.toNat * ppm := by
      refine le_trans (mul_le_mul_of_nonneg_right (hcut _ _) (by positivity)) ?_
      exact_mod_cast hup
    exact_mod_cast hle
  constructor
  · rw [← Int.lt_add_one_iff, Int.floor_lt]
    have := lt_of_mul_lt_mul_right (hfall.trans_le hshare) hpos.le
    push_cast
    linarith
  · rw [Int.le_floor]
    have := le_of_mul_le_mul_right (hrise.trans hshare) hpos
    push_cast
    linarith

/-- **What is decided is within the limit.** A value that is written in the place of one that is not
zero is within the fraction that a move is limited to. -/
theorem withinLimit_of_decide {bounds : Bounds} {target current v : Amount} {f : Decimal}
    (hfraction : bounds.maxDeltaFraction = some f) (hf : f.isNegative = false)
    (hcurrent : current ≠ 0) (h : bounds.decide target current = .ok (.setTo v)) :
    WithinLimit f current v := by
  cases Bounds.decided_of_decide h with
  | written _ hnext =>
    rw [hfraction, nextValue, if_neg hcurrent] at hnext
    cases hppm : partsPerMillion f with
    | error b =>
      rw [hppm] at hnext
      cases hnext
    | ok ppm =>
      rw [hppm] at hnext
      obtain ⟨hup, hdown⟩ := limitedMove_bounds (Except.ok.inj hnext)
      exact withinLimit_of_bounds (partsPerMillion_le hf hppm) hup hdown

end RollupFees
