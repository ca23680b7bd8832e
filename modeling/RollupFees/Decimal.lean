import RollupFees.Amount

/-!
# Decimals of 96 bits

A decimal is a signed integer of at most 96 bits over a power of ten with an exponent of at most
28. The exponent is part of the value: `1.5` and `1.50` are different decimals for the same number.
Quotients and products keep as many digits as fit, and the digits that do not fit are rounded half
to even.

## Main definitions

* `Decimal` : a coefficient and a scale, read as `coefficient / 10 ^ scale`
* `Decimal.div?`, `Decimal.mul?` : rounded arithmetic, absent on overflow
* `Decimal.truncate`, `Decimal.round` : fewer fractional digits, toward zero or half to even
* `Decimal.floor` : the largest integer below
* `Decimal.toAmount?` : the floor as an amount
-/

namespace RollupFees

/-- A natural quotient rounded to the nearest integer, a half to the even neighbour. -/
def roundHalfEven (n d : Nat) : Nat :=
  if d < 2 * (n % d) ∨ (2 * (n % d) = d ∧ (n / d) % 2 = 1) then n / d + 1 else n / d

/-- A coefficient of at most 96 bits over a power of ten. -/
structure Decimal where
  coefficient : Int
  scale : Nat
  natAbs_le : coefficient.natAbs ≤ 2 ^ 96 - 1
  scale_le : scale ≤ 28
deriving DecidableEq

namespace Decimal

/-- The largest coefficient. -/
def maxCoefficient : Nat := 2 ^ 96 - 1

/-- The most fractional digits. -/
def maxScale : Nat := 28

/-- The decimal with this coefficient and scale, if both fit. -/
def mk? (coefficient : Int) (scale : Nat) : Option Decimal :=
  if h : coefficient.natAbs ≤ maxCoefficient ∧ scale ≤ maxScale then
    some ⟨coefficient, scale, h.1, h.2⟩
  else none

/-- The integer `n` with no fractional digits, if it fits. -/
def ofInt? (n : Int) : Option Decimal := mk? n 0

instance : OfNat Decimal 0 := ⟨⟨0, 0, Nat.zero_le _, Nat.zero_le _⟩⟩

instance : Inhabited Decimal := ⟨0⟩

/-- Zero, whatever its scale. -/
def isZero (d : Decimal) : Bool := d.coefficient == 0

/-- Below zero. -/
def isNegative (d : Decimal) : Bool := d.coefficient < 0

/-- The sign of a product or quotient put back on its magnitude. -/
def withSign (a b : Decimal) (magnitude : Nat) : Int :=
  if a.isNegative == b.isNegative then magnitude else -magnitude

/-! ### Quotients -/

/-- The largest number of digits, at most `limit`, that can follow `q` within the coefficient. -/
def headroom (q : Nat) : Nat → Nat
  | 0 => 0
  | limit + 1 => if q * 10 ^ (limit + 1) ≤ maxCoefficient then limit + 1 else headroom q limit

theorem headroom_le (q limit : Nat) : headroom q limit ≤ limit := by
  induction limit with
  | zero => exact Nat.le_refl _
  | succ n ih =>
    unfold headroom
    split
    · exact Nat.le_refl _
    · exact Nat.le_succ_of_le ih

/-- A quotient on its way: the digits so far, their scale, and whether any digit after the point
was produced by long division. -/
structure Quotient where
  digits : Nat
  scale : Int
  extended : Bool

/-- One digit fewer when the digits have outgrown the coefficient. A half goes to the even
neighbour unless something was cut off before. -/
def dropDigit? (q : Nat) (scale : Int) (sticky extended : Bool) : Option Quotient :=
  if scale ≤ 0 then none
  else
    let kept := q / 10
    let last := q % 10
    let up := decide (5 < last) || (last == 5 && (sticky || kept % 2 == 1))
    some ⟨if up then kept + 1 else kept, scale - 1, extended⟩

/-- How many digits the next round of long division appends; none when the quotient is finished. -/
def nextDigits (q r : Nat) (scale : Int) : Nat :=
  if r = 0 then min 9 (-scale).toNat
  else headroom q (min 9 (maxScale - scale).toNat)

theorem nextDigits_le {q r : Nat} {scale : Int} (h : nextDigits q r scale ≠ 0) :
    (nextDigits q r scale : Int) ≤ maxScale - scale := by
  unfold nextDigits at h ⊢
  simp only [maxScale] at *
  split
  · next hr =>
    rw [if_pos hr] at h
    have := Nat.min_le_right 9 (-scale).toNat
    omega
  · next hr =>
    rw [if_neg hr] at h
    have h1 := headroom_le q (min 9 ((28 : Nat) - scale).toNat)
    have h2 := Nat.min_le_right 9 ((28 : Nat) - scale).toNat
    omega

/-- Long division, up to nine digits a round, until the remainder is used up or no digit fits. -/
def longDivide? (divisor q r : Nat) (scale : Int) (extended : Bool) : Option Quotient :=
  let p := nextDigits q r scale
  let extended' := extended || r != 0
  if hp : p = 0 then
    if r = 0 then some ⟨q, scale, extended'⟩
    else if scale < 0 then none
    else if divisor < 2 * r ∨ (2 * r = divisor ∧ q % 2 = 1) then
      if q + 1 ≤ maxCoefficient then some ⟨q + 1, scale, extended'⟩
      else dropDigit? (q + 1) scale true extended'
    else some ⟨q, scale, extended'⟩
  else if r ≠ 0 ∧ p < 9 ∧ p + scale < 0 then none
  else
    let q' := q * 10 ^ p
    if maxCoefficient < q' then none
    else
      let q'' := q' + r * 10 ^ p / divisor
      let r' := r * 10 ^ p % divisor
      if maxCoefficient < q'' then dropDigit? q'' (scale + p) (r' != 0) extended'
      else longDivide? divisor q'' r' (scale + p) extended'
termination_by (maxScale - scale).toNat
decreasing_by
  have h := nextDigits_le hp
  have hp' : 0 < nextDigits q r scale := Nat.pos_of_ne_zero hp
  simp only [maxScale, p] at *
  omega

/-- Trailing zeros removed eight at a time, while the low 32 bits are clear. -/
def stripEights (q scale : Nat) : Nat × Nat :=
  if 8 ≤ scale ∧ q % 2 ^ 32 = 0 ∧ q % 10 ^ 8 = 0 then stripEights (q / 10 ^ 8) (scale - 8)
  else (q, scale)
termination_by scale

/-- `count` trailing zeros removed if all are there. -/
def stripZeros (count : Nat) (x : Nat × Nat) : Nat × Nat :=
  if count ≤ x.2 ∧ x.1 % 10 ^ count = 0 then (x.1 / 10 ^ count, x.2 - count) else x

/-- The trailing zeros that long division leaves behind, removed in runs of eight, four, two and
one. -/
def tidy (q scale : Nat) : Nat × Nat :=
  stripZeros 1 (stripZeros 2 (stripZeros 4 (stripEights q scale)))

/-- The quotient of two decimals, the last digit rounded half to even. Absent for a zero divisor
and when the quotient outgrows the coefficient. -/
def div? (a b : Decimal) : Option Decimal :=
  if b.coefficient = 0 then none
  else if a.coefficient = 0 then some 0
  else
    let n := a.coefficient.natAbs
    let d := b.coefficient.natAbs
    (longDivide? d (n / d) (n % d) ((a.scale : Int) - b.scale) false).bind fun q =>
      let x := if q.extended then tidy q.digits q.scale.toNat else (q.digits, q.scale.toNat)
      mk? (withSign a b x.1) x.2

/-! ### Products -/

/-- The fewest dropped digits, not below `least`, for which a rounded product fits. -/
def leastDrop? (product scale least : Nat) : Option Nat :=
  (List.range' least (scale + 1 - least)).find? fun t =>
    roundHalfEven product (10 ^ t) ≤ maxCoefficient

/-- The product of two decimals, rounded half to even where not all digits fit. Absent when the
integer part outgrows the coefficient. -/
def mul? (a b : Decimal) : Option Decimal :=
  let m := a.coefficient.natAbs
  let n := b.coefficient.natAbs
  let s := a.scale + b.scale
  if m = 0 ∨ n = 0 then some 0
  else if m < 2 ^ 32 ∧ n < 2 ^ 32 ∧ 47 < s then some 0
  else
    (leastDrop? (m * n) s (s - maxScale)).bind fun t =>
      mk? (withSign a b (roundHalfEven (m * n) (10 ^ t))) (s - t)

/-! ### Fewer digits -/

theorem natAbs_tdiv_le (n : Int) (d : Nat) : (n.tdiv d).natAbs ≤ n.natAbs := by
  rw [Int.natAbs_tdiv]
  exact Nat.div_le_self _ _

/-- At most `places` fractional digits; the others are dropped. -/
def truncate (d : Decimal) (places : Nat) : Decimal :=
  if h : d.scale ≤ places then d
  else
    ⟨d.coefficient.tdiv (10 ^ (d.scale - places) : Nat), places,
      Nat.le_trans (natAbs_tdiv_le _ _) d.natAbs_le, by have := d.scale_le; omega⟩

/-- At most `places` fractional digits; a half goes to the even neighbour. -/
def round (d : Decimal) (places : Nat) : Decimal :=
  if d.scale ≤ places then d
  else
    let m := roundHalfEven d.coefficient.natAbs (10 ^ (d.scale - places))
    (mk? (if d.isNegative then -m else m) places).getD d

/-- The largest integer that is not above the decimal. -/
def floor (d : Decimal) : Int := d.coefficient / (10 ^ d.scale : Nat)

/-- The floor, if it lies in `0 … bound - 1`. -/
def floorBelow? (d : Decimal) (bound : Nat) : Option Nat :=
  if 0 ≤ d.floor ∧ d.floor < bound then some d.floor.toNat else none

end Decimal
end RollupFees
