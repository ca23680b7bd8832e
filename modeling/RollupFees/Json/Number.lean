import RollupFees.Json
import RollupFees.Shortest
import RollupFees.Decimal.Text

/-!
# Numbers in JSON

A number without point and exponent that fits in 64 bits is whole. Every other number is real: its
digits are gathered while they fit in 64 bits, later digits count only for the exponent, and the
result is scaled by a power of ten in double precision. A number beyond the range of doubles is
refused.

## Main definitions

* `Json.readNumber?` : the value of a number's characters
* `Json.realText` : the shortest text of a real number
-/

namespace RollupFees.Json

/-- The parts of a number as written. -/
structure NumberText where
  negative : Bool
  whole : List Char
  fraction : Option (List Char)
  exponent : Option Int
deriving Repr

/-- One or more digits and nothing else. -/
def isDigits (chars : List Char) : Bool := !chars.isEmpty && chars.all Char.isDigit

/-- The value of digits. -/
def digitsNat (digits : List Char) : Nat :=
  digits.foldl (fun n c => 10 * n + digitValue c) 0

/-- The exponent after its mark: digits with an optional sign. -/
def readExponent? (chars : List Char) : Option Int :=
  match chars with
  | '-' :: digits => if isDigits digits then some (-(digitsNat digits : Int)) else none
  | '+' :: digits => if isDigits digits then some (digitsNat digits) else none
  | digits => if isDigits digits then some (digitsNat digits) else none

/-- What follows the whole part: a fraction, an exponent, both or nothing. -/
def readTail? (negative : Bool) (whole : List Char) (chars : List Char) : Option NumberText :=
  match chars with
  | [] => some ⟨negative, whole, none, none⟩
  | '.' :: rest =>
    let fraction := rest.takeWhile Char.isDigit
    if fraction.isEmpty then none
    else
      match rest.dropWhile Char.isDigit with
      | [] => some ⟨negative, whole, some fraction, none⟩
      | c :: tail =>
        if c = 'e' ∨ c = 'E' then
          (readExponent? tail).map fun e => ⟨negative, whole, some fraction, some e⟩
        else none
  | c :: tail =>
    if c = 'e' ∨ c = 'E' then (readExponent? tail).map fun e => ⟨negative, whole, none, some e⟩
    else none

/-- Splits a number into its parts. The whole part has no needless leading zero. -/
def NumberText.ofChars? (chars : List Char) : Option NumberText :=
  let (negative, magnitude) := match chars with
    | '-' :: rest => (true, rest)
    | other => (false, other)
  let whole := magnitude.takeWhile Char.isDigit
  if whole.isEmpty then none
  else if whole.head? = some '0' ∧ whole.length ≠ 1 then none
  else readTail? negative whole (magnitude.dropWhile Char.isDigit)

/-- Digits gathered onto `n` while the result stays below `2 ^ 64`, and how many were left over. -/
def gather (n : Nat) : List Char → Nat × Nat
  | [] => (n, 0)
  | c :: rest =>
    if 10 * n + digitValue c < 2 ^ 64 then gather (10 * n + digitValue c) rest
    else (n, rest.length + 1)

/-- A double times a power of ten; nothing beyond the range of doubles. -/
def scaleReal? (x : Float) (exponent : Int) : Option Float :=
  if exponent.natAbs ≤ 308 then
    let power := Float.ofScientific 1 false exponent.natAbs
    if 0 ≤ exponent then
      if (x * power).isInf then none else some (x * power)
    else some (x / power)
  else if x == 0 then some x
  else if 0 ≤ exponent then none
  else scaleReal? (x / 1e308) (exponent + 308)
termination_by exponent.natAbs
decreasing_by omega

/-- The value of a number in parts. -/
def NumberText.value? (t : NumberText) : Option Json :=
  let (n, dropped) := gather 0 t.whole
  let real (significand : Nat) (exponent : Int) : Option Json :=
    (scaleReal? (Float.ofScientific significand false 0) exponent).map fun x =>
      .real (if t.negative then -x else x)
  match t.fraction with
  | some fraction =>
    let (m, left) := gather n fraction
    real m (dropped - (fraction.length - left : Nat) + t.exponent.getD 0)
  | none =>
    match t.exponent with
    | some e => real n (dropped + e)
    | none =>
      if 0 < dropped then real n dropped
      else if t.negative then
        if 0 < n ∧ n ≤ 2 ^ 63 then some (.int (-n)) else real n 0
      else some (.int n)

/-- The value of a number's characters. -/
def readNumber? (chars : List Char) : Option Json :=
  (NumberText.ofChars? chars).bind NumberText.value?

/-- The digits of a real number: written out up to sixteen places before the point and five after,
with an exponent beyond. -/
def realDigits (s : Scientific) : String :=
  let digits := s.digits.repr
  let point : Int := digits.length + s.exponent
  if 0 ≤ s.exponent ∧ point ≤ 16 then s.positional ++ ".0"
  else if -5 < point ∧ point ≤ 16 then s.positional
  else
    let mantissa :=
      if digits.length = 1 then digits
      else String.ofList (digits.toList.take 1) ++ "." ++ String.ofList (digits.toList.drop 1)
    mantissa ++ "e" ++ (point - 1).repr

/-- The text of a real number; one that is not finite is written as null. -/
def realText (x : Float) : String :=
  match Shortest.ofFloat x .even with
  | .finite negative s => (if negative then "-" else "") ++ realDigits s
  | _ => "null"

end RollupFees.Json
