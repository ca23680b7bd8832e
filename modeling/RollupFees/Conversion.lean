import RollupFees.Amount
import RollupFees.Decimal.Text
import RollupFees.Decimal.Binary

/-!
# From amounts to decimals and back

An amount counts the smallest units of a token; a decimal counts whole tokens or dollars.

## Main definitions

* `Amount.toDecimal` : units over a power of ten
* `Decimal.toAmount` : the floor of a decimal
* `Decimal.cents` : a decimal cut to two places
* `Amount.tokenGauge` : whole tokens in double precision
-/

namespace RollupFees

/-- Why a number could not be converted. -/
inductive ConversionFault
  | invalidDecimal (reason : String)
  | overflow
  | negative (value : String)
deriving DecidableEq, Repr

/-- What the reader of a log is told. -/
def ConversionFault.message : ConversionFault → String
  | .invalidDecimal reason => "Invalid decimal: " ++ reason
  | .overflow => "Overflow in conversion"
  | .negative value => "Negative value cannot be written on-chain: " ++ value

/-- The reason given for an integer of more than 96 bits. -/
def tooManyDigits : String := "Invalid decimal: overflow from too many digits"

/-- The units over `10 ^ decimals`. Beyond 28 decimals the digits that a decimal cannot keep are
dropped first. -/
def Amount.toDecimal (value : Amount) (decimals : Nat) : Except ConversionFault Decimal := do
  let excess := decimals - Decimal.maxScale
  let kept ←
    if excess = 0 then .ok value
    else
      match Amount.pow10? excess with
      | none => .error .overflow
      | some divisor => .ok (value.div divisor)
  match Decimal.ofInt? kept.toNat, Decimal.ofInt? (10 ^ min decimals Decimal.maxScale : Nat) with
  | some numerator, some divisor =>
    match numerator.div? divisor with
    | some quotient => .ok quotient
    | none => .error .overflow
  | _, _ => .error (.invalidDecimal tooManyDigits)

/-- The largest integer below a decimal, which must not be negative. -/
def Decimal.toAmount (d : Decimal) : Except ConversionFault Amount :=
  if d.isNegative then .error (.negative d.text)
  else
    match Amount.ofNat? d.floor.toNat with
    | some a => .ok a
    | none => .error .overflow

/-- The decimal cut to two places. -/
def Decimal.cents (d : Decimal) : Decimal := d.truncate 2

/-- The decimals of a token. -/
def tokenDecimals : Nat := 18

/-- Whole tokens in double precision; not a number for amounts too large for a decimal. -/
def Amount.tokenGauge (value : Amount) : Float :=
  match value.toDecimal tokenDecimals with
  | .ok d => d.toFloat
  | .error _ => 0 / 0

end RollupFees
