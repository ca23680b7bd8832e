/-!
# Durations

## Main definitions

* `Duration` : a span of time in nanoseconds
* `Duration.text` : the span in its largest unit, with as many places as it takes
-/

namespace RollupFees

/-- A span of time. -/
structure Duration where
  nanos : Nat
deriving DecidableEq, Repr

namespace Duration

/-- A span in seconds. -/
def seconds (n : Nat) : Duration := ⟨n * 10 ^ 9⟩

/-- A span in milliseconds. -/
def millis (n : Nat) : Duration := ⟨n * 10 ^ 6⟩

/-- The places after the point of `part / 10 ^ width`, without trailing zeros. -/
def fraction (part width : Nat) : String :=
  let digits := part.repr.toList
  let padded := List.replicate (width - digits.length) '0' ++ digits
  String.ofList (padded.reverse.dropWhile (· = '0')).reverse

/-- `n / 10 ^ width` with a unit. -/
def inUnit (n width : Nat) (unit : String) : String :=
  let rest := fraction (n % 10 ^ width) width
  (n / 10 ^ width).repr ++ (if rest.isEmpty then "" else "." ++ rest) ++ unit

/-- The span in its largest unit that is not zero. -/
def text (d : Duration) : String :=
  if 10 ^ 9 ≤ d.nanos then inUnit d.nanos 9 "s"
  else if 10 ^ 6 ≤ d.nanos then inUnit d.nanos 6 "ms"
  else if 10 ^ 3 ≤ d.nanos then inUnit d.nanos 3 "µs"
  else d.nanos.repr ++ "ns"

end Duration
end RollupFees
