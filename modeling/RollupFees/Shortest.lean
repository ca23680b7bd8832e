/-!
# Shortest digits of a double

Among the decimals that read back as a given double, the shortest is written, and of several
shortest ones the nearest. Everything is decided in exact integer arithmetic on the significand
and the exponent of the double.

## Main definitions

* `Binary` : a positive double as `significand * 2 ^ exponent`
* `Binary.digits` : the shortest digits that read back
* `Tie` : which of two equally near decimals is taken
-/

namespace RollupFees

/-- A positive finite double: `significand * 2 ^ exponent`. The gap below the smallest significand
of a binade is half the gap above it. -/
structure Binary where
  significand : Nat
  exponent : Int
  narrowBelow : Bool
deriving Repr

/-- Which of two equally near decimals is taken. -/
inductive Tie
  | up
  | even
deriving DecidableEq, Repr

/-- The number `digits * 10 ^ exponent`. -/
structure Scientific where
  digits : Nat
  exponent : Int
deriving DecidableEq, Repr

namespace Scientific

/-- The same number without trailing zeros. -/
def trim (digits : Nat) (exponent : Int) : Scientific :=
  if h : digits = 0 ∨ digits % 10 ≠ 0 then ⟨digits, exponent⟩
  else trim (digits / 10) (exponent + 1)
termination_by digits
decreasing_by omega

end Scientific

namespace Binary

/-- The parts of a finite positive double, from its 64 bits. -/
def ofBits (bits : UInt64) : Binary :=
  let field : Nat := (bits.toNat / 2 ^ 52) % 2 ^ 11
  let fraction : Nat := bits.toNat % 2 ^ 52
  if field = 0 then ⟨fraction, -1074, false⟩
  else ⟨2 ^ 52 + fraction, (field : Int) - 1075, fraction == 0 && 1 < field⟩

/-- Four times the value and the ends of the interval that rounds to it, in units of a quarter of
the last binary place. -/
def lower (b : Binary) : Nat := 4 * b.significand - (if b.narrowBelow then 1 else 2)

/-- The upper end of the interval that rounds to the double. -/
def upper (b : Binary) : Nat := 4 * b.significand + 2

/-- `2 ^ e` for a positive exponent, else one. -/
def up (base : Nat) (e : Int) : Nat := base ^ e.toNat

/-- A quarter of a binary place over `10 ^ k`, as numerator and denominator. -/
def unit (b : Binary) (k : Int) : Nat × Nat :=
  (up 2 b.exponent * up 10 (-k), 4 * up 2 (-b.exponent) * up 10 k)

/-- Whether `d * 10 ^ k` reads back as the double. The ends of the interval do so exactly for an
even significand. -/
def readsBack (b : Binary) (k : Int) (d : Nat) : Bool :=
  let (n, m) := b.unit k
  if b.significand % 2 = 0 then b.lower * n ≤ d * m && d * m ≤ b.upper * n
  else b.lower * n < d * m && d * m < b.upper * n

/-- The multiple of `10 ^ k` next to the double that reads back, the nearer one if both do. -/
def onGrid? (b : Binary) (tie : Tie) (k : Int) : Option Nat :=
  let (n, m) := b.unit k
  let d := 4 * b.significand * n / m
  let below := 4 * b.significand * n - d * m
  match b.readsBack k d, b.readsBack k (d + 1) with
  | true, false => some d
  | false, true => some (d + 1)
  | false, false => none
  | true, true =>
    if 2 * below < m then some d
    else if m < 2 * below then some (d + 1)
    else match tie with
      | .up => some (d + 1)
      | .even => some (if d % 2 = 0 then d else d + 1)

/-- The exponent of the leading decimal digit. -/
def leading (b : Binary) : Int :=
  ((b.significand * 10 ^ 400 * up 2 b.exponent / up 2 (-b.exponent)).repr.length : Int) - 401

/-- The coarsest grid, starting at `10 ^ k` and refined at most `fuel` times, on which some
neighbour of the double reads back. -/
def search (b : Binary) (tie : Tie) (k : Int) : Nat → Scientific
  | 0 => ⟨(b.onGrid? tie k).getD 0, k⟩
  | fuel + 1 =>
    match b.onGrid? tie k with
    | some d => Scientific.trim d k
    | none => search b tie (k - 1) fuel

/-- The shortest digits that read back: seventeen always do. -/
def digits (b : Binary) (tie : Tie) : Scientific := b.search tie b.leading 17

end Binary

/-- A double by kind. -/
inductive Shortest
  | nan
  | infinite (negative : Bool)
  | finite (negative : Bool) (magnitude : Scientific)

/-- The shortest digits of any double; zero has the digit zero. -/
def Shortest.ofFloat (x : Float) (tie : Tie) : Shortest :=
  let bits := x.toBits
  let negative := 2 ^ 63 ≤ bits.toNat
  if x.isNaN then .nan
  else if x.isInf then .infinite negative
  else if x == 0 then .finite negative ⟨0, 0⟩
  else .finite negative ((Binary.ofBits bits).digits tie)

/-- Digits without exponent: zeros are written out on either side. -/
def Scientific.positional (s : Scientific) : String :=
  let digits := s.digits.repr
  if 0 ≤ s.exponent then digits ++ String.ofList (List.replicate s.exponent.toNat '0')
  else
    let places := (-s.exponent).toNat
    let padded := (List.replicate (places + 1 - digits.length) '0') ++ digits.toList
    let whole := padded.length - places
    String.ofList (padded.take whole) ++ "." ++ String.ofList (padded.drop whole)

/-- A double without exponent, as settings write it. -/
def floatText (x : Float) : String :=
  match Shortest.ofFloat x .up with
  | .nan => "NaN"
  | .infinite negative => if negative then "-inf" else "inf"
  | .finite negative s => (if negative then "-" else "") ++ s.positional

end RollupFees
