import RollupFees.Decimal

/-!
# The text of a decimal

A decimal is written with exactly as many fractional digits as its scale says. It is read from
digits with an optional sign and one optional point; underscores may separate digits. Reading
stops at the first digit that does not fit: that digit rounds the last one kept, five and up going
up.

## Main definitions

* `Decimal.text` : the written form
* `Decimal.parse?` : the reading of plain digits
* `Decimal.parseScientific?` : the reading of digits with an exponent
-/

namespace RollupFees

/-- The value of a decimal digit. -/
def digitValue (c : Char) : Nat := c.toNat - '0'.toNat

/-- A text filled up on the left with zeros to at least `width` characters. -/
def padZeros (width : Nat) (text : String) : String :=
  String.ofList (List.replicate (width - text.length) '0') ++ text

/-- Digits with a point before the last `scale` of them. -/
def placePoint (digits : String) (scale : Nat) : String :=
  if scale = 0 then digits
  else
    let padded := (padZeros (scale + 1) digits).toList
    let whole := padded.length - scale
    String.ofList (padded.take whole) ++ "." ++ String.ofList (padded.drop whole)

namespace Decimal

/-- The sign, if the number is below zero, and all digits. -/
def text (d : Decimal) : String :=
  (if d.isNegative then "-" else "") ++ placePoint d.coefficient.natAbs.repr d.scale

/-- What has been read of a number: its digits as a coefficient, how many of them follow the
point, whether the point has come, and whether any digit has. -/
structure Reading where
  coefficient : Nat
  scale : Nat
  pointSeen : Bool
  digitSeen : Bool

namespace Reading

/-- Nothing read yet. -/
def start : Reading := ⟨0, 0, false, false⟩

/-- The magnitude read so far; nothing without a digit. -/
def finish? (r : Reading) : Option (Nat × Nat) :=
  if r.digitSeen then some (r.coefficient, r.scale) else none

/-- The end of a number too long to keep: the first character left out rounds the last digit. -/
def roundBy? (r : Reading) (c : Char) : Option (Nat × Nat) :=
  if c.isDigit then
    if digitValue c < 5 then some (r.coefficient, r.scale)
    else if r.coefficient + 1 ≤ maxCoefficient then some (r.coefficient + 1, r.scale)
    else if r.scale = 0 then none
    else some ((r.coefficient + 1 + 4) / 10, r.scale - 1)
  else if c = '_' ∨ c = '.' then some (r.coefficient, r.scale)
  else none

/-- Reads digits, separators and at most one point. -/
def run? (r : Reading) : List Char → Option (Nat × Nat)
  | [] => r.finish?
  | c :: rest =>
    if r.pointSeen ∧ maxScale ≤ r.scale then r.roundBy? c
    else if c.isDigit then
      let next := 10 * r.coefficient + digitValue c
      if next ≤ maxCoefficient then
        run? ⟨next, if r.pointSeen then r.scale + 1 else 0, r.pointSeen, true⟩ rest
      else if r.pointSeen then r.roundBy? c
      else none
    else if c = '.' ∧ ¬ r.pointSeen then run? { r with pointSeen := true } rest
    else if c = '_' ∧ r.digitSeen then run? r rest
    else none

end Reading

/-- Reads a number without exponent. A sign may stand in front. -/
def parse? (text : String) : Option Decimal :=
  match text.toList with
  | '-' :: rest => (Reading.start.run? rest).bind fun x => mk? (-x.1) x.2
  | '+' :: rest => (Reading.start.run? rest).bind fun x => mk? x.1 x.2
  | chars => (Reading.start.run? chars).bind fun x => mk? x.1 x.2

/-- An exponent: digits with an optional plus sign, below `2 ^ 32`. -/
def exponent? (digits : List Char) : Option Nat :=
  let bare := match digits with
    | '+' :: rest => rest
    | other => other
  if bare.isEmpty then none
  else (Amount.digitsValue? bare).bind fun n => if n < 2 ^ 32 then some n else none

/-- Drops fractional digits one by one; the last one dropped decides, five and up going up. -/
def shorten (d : Decimal) (places : Nat) : Option Decimal :=
  if d.scale ≤ places then some d
  else
    let n := d.coefficient.natAbs / 10 ^ (d.scale - places - 1)
    let m := if 5 ≤ n % 10 then n / 10 + 1 else n / 10
    mk? (if d.isNegative then -m else m) places

/-- The same number with the fewest fractional digits. -/
def strip (coefficient : Int) : Nat → Option Decimal
  | 0 => mk? coefficient 0
  | scale + 1 =>
    if coefficient = 0 then mk? 0 0
    else if coefficient % 10 = 0 then strip (coefficient / 10) scale
    else mk? coefficient (scale + 1)

/-- Multiplies by a power of ten, at most nineteen digits a time. -/
def scaleUp? (d : Decimal) (exponent : Nat) : Option Decimal :=
  if _h : exponent = 0 then some d
  else
    let step := min 19 exponent
    ((mk? (10 ^ step : Nat) 0).bind d.mul?).bind fun product =>
      scaleUp? product (exponent - step)
termination_by exponent
decreasing_by omega

/-- Applies the exponent `-n` to a number. -/
def shiftDown? (d : Decimal) (n : Nat) : Option Decimal :=
  if maxScale < n then none
  else if maxScale < d.scale + n then
    (d.shorten (maxScale - n)).bind fun short => mk? short.coefficient maxScale
  else mk? d.coefficient (d.scale + n)

/-- Applies the exponent `n` to a number. -/
def shiftUp? (d : Decimal) (n : Nat) : Option Decimal :=
  if n ≤ d.scale then mk? d.coefficient (d.scale - n)
  else if maxScale < n then none
  else (d.scaleUp? n).bind fun product => strip product.coefficient product.scale

/-- Reads a number with an exponent after `e` or `E`. -/
def parseScientific? (text : String) : Option Decimal :=
  let isMark := fun c : Char => c = 'e' ∨ c = 'E'
  let base := text.toList.takeWhile fun c => ¬ isMark c
  match text.toList.dropWhile fun c => ¬ isMark c with
  | [] => none
  | _ :: exponent =>
    (parse? (String.ofList base)).bind fun d =>
      match exponent with
      | '-' :: digits => (exponent? digits).bind d.shiftDown?
      | digits => (exponent? digits).bind d.shiftUp?

end Decimal
end RollupFees
