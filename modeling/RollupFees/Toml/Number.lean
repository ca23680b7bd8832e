import RollupFees.Json.Number
import RollupFees.Setting

/-!
# TOML numbers

Digits may be separated by single underscores. A whole number is decimal without needless zeros in
front, or has one of the bases two, eight and sixteen; it has to fit in 64 bits with a sign. Any
other number has to be finite.

## Main definitions

* `Toml.splitDigits?` : the digits in front of a text
* `Toml.wholeNumber?`, `Toml.realNumber?` : the value of a number in parts
-/

namespace RollupFees.Toml

/-- How far a run of digits has come. -/
inductive Run
  | start
  | zero
  | digits
  | separator (afterZero : Bool)
deriving DecidableEq

/-- The value of a digit in a base. -/
def digitIn? (base : Nat) (c : Char) : Option Nat :=
  (Hex.value? c).bind fun d => if d < base then some d else none

/-- The digits in front of a text, separators left out, and what follows them. There has to be a
digit, and no separator at the end. Where `strict` holds, a leading zero stands alone. -/
def splitDigits? (base : Nat) (strict : Bool) (run : Run) :
    List Char → Option (List Char × List Char)
  | [] =>
    match run with
    | .zero | .digits => some ([], [])
    | _ => none
  | c :: rest =>
    if run = .start ∧ c = '0' then
      (splitDigits? base strict .zero rest).map fun x => (c :: x.1, x.2)
    else if (digitIn? base c).isSome then
      if strict ∧ (run = .zero ∨ run = .separator true) then none
      else
        (splitDigits? base strict .digits rest).map fun x => (c :: x.1, x.2)
    else if c = '_' ∧ (run = .zero ∨ run = .digits) then
      splitDigits? base strict (.separator (run = .zero)) rest
    else
      match run with
      | .zero | .digits => some ([], c :: rest)
      | _ => none

/-- Digits with an optional sign in front; the sign comes first. -/
def signedDigits? (strict : Bool) : List Char → Option (Bool × List Char × List Char)
  | '-' :: rest => (splitDigits? 10 strict .start rest).map fun x => (true, x.1, x.2)
  | chars => (splitDigits? 10 strict .start chars).map fun x => (false, x.1, x.2)

/-- The value of digits in a base. -/
def valueIn (base : Nat) (digits : List Char) : Nat :=
  digits.foldl (fun n c => base * n + (digitIn? base c).getD 0) 0

/-- A whole number that fits in 64 bits with a sign. -/
def fitting? (n : Int) : Option Setting :=
  if -2 ^ 63 ≤ n ∧ n < 2 ^ 63 then some (.whole n) else none

/-- A whole number in a base other than ten. -/
def based? (base : Nat) (chars : List Char) : Option Setting :=
  match splitDigits? base false .start chars with
  | some (digits, []) => fitting? (valueIn base digits)
  | _ => none

/-- A decimal whole number. -/
def wholeNumber? (chars : List Char) : Option Setting :=
  match signedDigits? true chars with
  | some (negative, digits, []) =>
    fitting? (if negative then -(valueIn 10 digits) else valueIn 10 digits)
  | _ => none

/-- The parts of a number with a point or an exponent. The exponent is signed. -/
structure RealParts where
  negative : Bool
  whole : List Char
  fraction : List Char
  exponent : Int

/-- Zeros in front of digits. -/
def dropZeros (digits : List Char) : List Char := digits.dropWhile (· = '0')

/-- The double nearest to a number in parts, if it is finite. Beyond four hundred places nothing
is finite, and below them everything is zero. -/
def RealParts.value? (r : RealParts) : Option Setting :=
  let digits := dropZeros (r.whole ++ r.fraction)
  let exponent := r.exponent - r.fraction.length
  let leading : Int := digits.length + exponent
  let magnitude : Float :=
    if digits.isEmpty ∨ leading < -400 then 0
    else if 400 < leading then 1 / 0
    else Float.ofScientific (valueIn 10 digits) (exponent < 0) exponent.natAbs
  if magnitude.isInf then none else some (.real (if r.negative then -magnitude else magnitude))

end RollupFees.Toml
