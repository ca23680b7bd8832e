import RollupFees.Decimal.Text

/-!
# TOML dates and times

A date, a time of day, or both with an optional offset. A setting keeps them as text, written in
one way whatever way they came in.

## Main definitions

* `Toml.Moment` : a date, a time, or both
* `Toml.Moment.parse?`, `Toml.Moment.text` : its reading and its written form
-/

namespace RollupFees.Toml

/-- A day of the calendar. Every month may have thirty-one days. -/
structure Day where
  year : Nat
  month : Nat
  day : Nat

/-- A time of day. -/
structure Clock where
  hour : Nat
  minute : Nat
  second : Nat
  nanos : Nat

/-- The distance from universal time. -/
inductive Offset
  | utc
  | shift (hours : Int) (minutes : Nat)

/-- A date, a time, or both; an offset follows only a date. -/
structure Moment where
  day : Option Day
  clock : Option Clock
  offset : Option Offset

/-- A number of exactly so many digits, and what follows it. -/
def digits? (count : Nat) (chars : List Char) : Option (Nat × List Char) :=
  let taken := chars.take count
  if taken.length = count ∧ taken.all Char.isDigit then
    some (taken.foldl (fun n c => 10 * n + digitValue c) 0, chars.drop count)
  else none

/-- What follows one character. -/
def after? (c : Char) : List Char → Option (List Char)
  | d :: rest => if c = d then some rest else none
  | [] => none

namespace Day

/-- Reads a day. -/
def parse? (chars : List Char) : Option (Day × List Char) := do
  let (year, rest) ← digits? 4 chars
  let (month, rest) ← digits? 2 (← after? '-' rest)
  let (day, rest) ← digits? 2 (← after? '-' rest)
  if 1 ≤ month ∧ month ≤ 12 ∧ 1 ≤ day ∧ day ≤ 31 then some (⟨year, month, day⟩, rest) else none

/-- The written form. -/
def text (d : Day) : String :=
  padZeros 4 d.year.repr ++ "-" ++ padZeros 2 d.month.repr ++ "-" ++ padZeros 2 d.day.repr

end Day

namespace Clock

/-- Nanoseconds from the digits of a fraction; digits past the ninth are dropped. -/
def nanosOf (digits : List Char) : Nat :=
  (digits ++ List.replicate 9 '0').take 9 |>.foldl (fun n c => 10 * n + digitValue c) 0

/-- Reads the fraction of a second, if there is one. -/
def fraction? : List Char → Option (Nat × List Char)
  | '.' :: rest =>
    let digits := rest.takeWhile Char.isDigit
    if digits.isEmpty then none else some (nanosOf digits, rest.dropWhile Char.isDigit)
  | chars => some (0, chars)

/-- Reads a time of day. -/
def parse? (chars : List Char) : Option (Clock × List Char) := do
  let (hour, rest) ← digits? 2 chars
  let (minute, rest) ← digits? 2 (← after? ':' rest)
  let (second, rest) ← digits? 2 (← after? ':' rest)
  let (nanos, rest) ← fraction? rest
  if hour ≤ 24 ∧ minute ≤ 59 ∧ second ≤ 60 then some (⟨hour, minute, second, nanos⟩, rest)
  else none

/-- The written form: a fraction only where there is one. -/
def text (c : Clock) : String :=
  let places := (padZeros 9 c.nanos.repr).toList.reverse.dropWhile (· = '0') |>.reverse
  padZeros 2 c.hour.repr ++ ":" ++ padZeros 2 c.minute.repr ++ ":" ++ padZeros 2 c.second.repr ++
    (if c.nanos = 0 then "" else "." ++ String.ofList places)

end Clock

namespace Offset

/-- Hours and minutes of an offset after its sign. -/
def shift? (sign : Int) (chars : List Char) : Option Offset := do
  let (hours, rest) ← digits? 2 chars
  let (minutes, rest) ← digits? 2 (← after? ':' rest)
  if rest.isEmpty then some (.shift (sign * hours) minutes) else none

/-- Reads an offset to the end; there may be none. -/
def parse? : List Char → Option (Option Offset)
  | [] => some none
  | ['Z'] | ['z'] => some (some .utc)
  | '+' :: rest => (shift? 1 rest).map some
  | '-' :: rest => (shift? (-1) rest).map some
  | _ => none

/-- The written form. -/
def text : Offset → String
  | .utc => "Z"
  | .shift hours minutes =>
    (if hours < 0 then "-" else "+") ++ padZeros 2 hours.natAbs.repr ++ ":" ++
      padZeros 2 minutes.repr

end Offset

namespace Moment

/-- Whether a time follows a day. -/
def startsTime : List Char → Bool
  | c :: _ => c = 'T' || c = 't' || c = ' '
  | [] => false

/-- Reads a moment. A text with a colon in third place is a time of day. An offset may follow a day
even without a time. -/
def parse? (chars : List Char) : Option Moment :=
  if chars[2]? = some ':' then do
    let (clock, rest) ← Clock.parse? chars
    if rest.isEmpty then some ⟨none, some clock, none⟩ else none
  else do
    let (day, rest) ← Day.parse? chars
    let (clock, rest) ←
      if startsTime rest then (Clock.parse? (rest.drop 1)).map fun x => (some x.1, x.2)
      else some (none, rest)
    let offset ← Offset.parse? rest
    some ⟨some day, clock, offset⟩

/-- The written form. -/
def text (m : Moment) : String :=
  let day := (m.day.map Day.text).getD ""
  let clock := (m.clock.map Clock.text).getD ""
  let offset := (m.offset.map Offset.text).getD ""
  day ++ (if m.day.isSome ∧ m.clock.isSome then "T" else "") ++ clock ++ offset

end Moment
end RollupFees.Toml
