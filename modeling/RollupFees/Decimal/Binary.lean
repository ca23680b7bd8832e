import RollupFees.Decimal

/-!
# Decimals as binary floating point

Gauges are kept in double precision. A decimal becomes a double in two parts, the whole and the
fraction, and the sum is rounded to the digits that the decimal had.

## Main definitions

* `Decimal.toFloat` : the nearby double of a decimal that is not negative
-/

namespace RollupFees

/-- The double nearest to a natural number. -/
def floatOfNat (n : Nat) : Float := Float.ofScientific n false 0

namespace Decimal

/-- The double for a decimal that is not negative: whole part plus fraction, rounded half away
from zero at the last digit of the decimal. -/
def toFloat (d : Decimal) : Float :=
  let n := d.coefficient.natAbs
  if d.scale = 0 then floatOfNat n
  else
    let unit := floatOfNat (10 ^ d.scale)
    let whole := floatOfNat (n / 10 ^ d.scale)
    let fraction := floatOfNat (n % 10 ^ d.scale) / unit
    if fraction == 0 then whole
    else ((whole + fraction) * unit).round / unit

end Decimal
end RollupFees
