import RollupFees.Text.Blank

/-!
# Points in time

A point in time is kept as a calendar date and a time of day in UTC, down to the nanosecond. A leap
second is the fifty-ninth second with more than a second's worth of nanoseconds.

## Main definitions

* `Date` : a day of the calendar, extended to all years
* `Timestamp` : a day and a time of day
* `Timestamp.sinceEpoch` : the moment some time after the first one of 1970
* `Timestamp.text` : the written form, with as many groups of three places as it takes
* `Timestamp.parse` : the reading of a date, a time and an offset
-/

namespace RollupFees

/-- A day of the calendar. -/
structure Date where
  year : Int
  month : Nat
  day : Nat
deriving DecidableEq, Repr

namespace Date

/-- Every fourth year, except full centuries that are not a multiple of 400. -/
def isLeapYear (year : Int) : Bool := year % 4 == 0 && (year % 100 != 0 || year % 400 == 0)

/-- The number of days of a month. -/
def daysIn (year : Int) (month : Nat) : Nat :=
  if month = 2 then (if isLeapYear year then 29 else 28)
  else if month = 4 ∨ month = 6 ∨ month = 9 ∨ month = 11 then 30
  else 31

/-- Whether there is such a day, in a year that the calendar covers. -/
def isValid (d : Date) : Bool :=
  1 ≤ d.month && d.month ≤ 12 && 1 ≤ d.day && d.day ≤ daysIn d.year d.month &&
    -262143 ≤ d.year && d.year ≤ 262142

/-- The day after. -/
def next (d : Date) : Date :=
  if d.day < daysIn d.year d.month then ⟨d.year, d.month, d.day + 1⟩
  else if d.month < 12 then ⟨d.year, d.month + 1, 1⟩
  else ⟨d.year + 1, 1, 1⟩

/-- The day before. -/
def previous (d : Date) : Date :=
  if 1 < d.day then ⟨d.year, d.month, d.day - 1⟩
  else if 1 < d.month then ⟨d.year, d.month - 1, daysIn d.year (d.month - 1)⟩
  else ⟨d.year - 1, 12, 31⟩

/-- The day so many days after the first of March of the year zero. Years begin in March, so that
the day that some years lack is the last one. -/
def sinceMarch (days : Nat) : Date :=
  let cycle := days % 146097
  let yearOfCycle := (cycle - cycle / 1460 + cycle / 36524 - cycle / 146096) / 365
  let dayOfYear := cycle - (365 * yearOfCycle + yearOfCycle / 4 - yearOfCycle / 100)
  let monthFromMarch := (5 * dayOfYear + 2) / 153
  let day := dayOfYear - (153 * monthFromMarch + 2) / 5 + 1
  let month := if monthFromMarch < 10 then monthFromMarch + 3 else monthFromMarch - 9
  let year := 400 * (days / 146097) + yearOfCycle + (if month ≤ 2 then 1 else 0)
  ⟨year, month, day⟩

end Date

/-- A point in time. The nanoseconds go on beyond `10 ^ 9` inside a leap second. -/
structure Timestamp where
  date : Date
  hour : Nat
  minute : Nat
  second : Nat
  nanos : Nat
deriving DecidableEq, Repr

namespace Timestamp

/-- The first moment of 1970. -/
def epoch : Timestamp := ⟨⟨1970, 1, 1⟩, 0, 0, 0, 0⟩

instance : Inhabited Timestamp := ⟨epoch⟩

/-- The moment so many nanoseconds after the first moment of 1970. -/
def sinceEpoch (nanos : Nat) : Timestamp :=
  let seconds := nanos / 10 ^ 9
  let inDay := seconds % 86400
  ⟨Date.sinceMarch (seconds / 86400 + 719468), inDay / 3600, inDay / 60 % 60, inDay % 60,
    nanos % 10 ^ 9⟩

/-- Digits with leading zeros. -/
def padded (width n : Nat) : String :=
  let digits := n.repr
  String.ofList (List.replicate (width - digits.length) '0') ++ digits

/-- A year in four digits, with a sign if it takes more or is before the year zero. -/
def yearText (year : Int) : String :=
  if 0 ≤ year ∧ year ≤ 9999 then padded 4 year.toNat
  else (if year < 0 then "-" else "+") ++ padded 4 year.natAbs

/-- The places after the seconds: none, three, six or nine. -/
def fractionText (nanos : Nat) : String :=
  if nanos = 0 then ""
  else if nanos % 10 ^ 6 = 0 then "." ++ padded 3 (nanos / 10 ^ 6)
  else if nanos % 10 ^ 3 = 0 then "." ++ padded 6 (nanos / 10 ^ 3)
  else "." ++ padded 9 nanos

/-- The date. -/
def dateText (t : Timestamp) : String :=
  yearText t.date.year ++ "-" ++ padded 2 t.date.month ++ "-" ++ padded 2 t.date.day

/-- The time of day. -/
def timeText (t : Timestamp) : String :=
  padded 2 t.hour ++ ":" ++ padded 2 t.minute ++ ":" ++
    padded 2 (t.second + t.nanos / 10 ^ 9) ++ fractionText (t.nanos % 10 ^ 9)

/-- The form that snapshots keep: date, `T`, time and `Z`. -/
def text (t : Timestamp) : String := t.dateText ++ "T" ++ t.timeText ++ "Z"

/-- The form that log lines show. -/
def display (t : Timestamp) : String := t.dateText ++ " " ++ t.timeText ++ " UTC"

/-- The same point in time, given on a clock that is ahead of UTC by some minutes, less than a
day. -/
def shift (t : Timestamp) (ahead : Int) : Timestamp :=
  let minutes : Int := (t.hour * 60 + t.minute : Nat) - ahead
  if minutes < 0 then
    let m := (minutes + 1440).toNat
    ⟨t.date.previous, m / 60, m % 60, t.second, t.nanos⟩
  else if 1440 ≤ minutes then
    let m := (minutes - 1440).toNat
    ⟨t.date.next, m / 60, m % 60, t.second, t.nanos⟩
  else ⟨t.date, minutes.toNat / 60, minutes.toNat % 60, t.second, t.nanos⟩

/-- Why a text is not a point in time. -/
inductive Fault
  | tooShort
  | invalid
  | outOfRange
  | impossible
  | tooLong
deriving DecidableEq, Repr

/-- What a reader is told about a fault. -/
def Fault.message : Fault → String
  | .tooShort => "premature end of input"
  | .invalid => "input contains invalid characters"
  | .outOfRange => "input is out of range"
  | .impossible => "no possible date and time matching input"
  | .tooLong => "trailing input"

/-- The value of digits. The readers below return it with the rest of the text. -/
def digitsNat (digits : List Char) : Nat :=
  digits.foldl (fun n c => 10 * n + (c.toNat - '0'.toNat)) 0

/-- One digit or more, up to `most`. A number that does not fit in 63 bits is out of range. -/
def number (most : Nat) (chars : List Char) : Except Fault (Nat × List Char) :=
  let digits := (chars.take most).takeWhile Char.isDigit
  match chars with
  | [] => .error .tooShort
  | _ =>
    if digits.isEmpty then .error .invalid
    else if 2 ^ 63 ≤ digitsNat digits then .error .outOfRange
    else .ok (digitsNat digits, chars.drop digits.length)

/-- A number of at most two digits, after blanks, between two bounds. -/
def field (least most : Nat) (chars : List Char) : Except Fault (Nat × List Char) := do
  let (n, rest) ← number 2 (Text.trimStart chars)
  if least ≤ n ∧ n ≤ most then .ok (n, rest) else .error .outOfRange

/-- A year, after blanks: up to four digits, or any number after a sign. -/
def year (chars : List Char) : Except Fault (Int × List Char) := do
  let (n, rest) ← match Text.trimStart chars with
    | '-' :: digits => (number digits.length digits).map fun x => (-(x.1 : Int), x.2)
    | '+' :: digits => (number digits.length digits).map fun x => ((x.1 : Int), x.2)
    | digits => (number 4 digits).map fun x => ((x.1 : Int), x.2)
  if -2 ^ 31 ≤ n ∧ n < 2 ^ 31 then .ok (n, rest) else .error .outOfRange

/-- A mark, after blanks. -/
def mark (c : Char) (chars : List Char) : Except Fault (List Char) :=
  match Text.trimStart chars with
  | [] => .error .tooShort
  | d :: rest => if c = d then .ok rest else .error .invalid

/-- The mark between date and time. -/
def separator : List Char → Except Fault (List Char)
  | [] => .error .tooShort
  | c :: rest => if c = 't' ∨ c = 'T' ∨ c = ' ' then .ok rest else .error .invalid

/-- The nanoseconds after a point, if there is one. Places after the ninth are cut off. -/
def nanosecond : List Char → Except Fault (Nat × List Char)
  | '.' :: chars => do
    let (_, rest) ← number 9 chars
    let digits := chars.take (chars.length - rest.length)
    .ok (digitsNat digits * 10 ^ (9 - digits.length), rest.dropWhile Char.isDigit)
  | chars => .ok (0, chars)

/-- The minutes of an offset. -/
def offsetMinutes (chars : List Char) : Except Fault (Nat × List Char) :=
  match chars with
  | a :: b :: rest =>
    if a.isDigit ∧ b.isDigit then
      if a ≤ '5' then .ok (digitsNat [a, b], rest) else .error .outOfRange
    else .error .invalid
  | _ => .error .tooShort

/-- Hours and minutes of an offset, with blanks or colons between them. -/
def offsetMagnitude (chars : List Char) : Except Fault (Nat × List Char) :=
  match chars with
  | a :: b :: rest =>
    if a.isDigit ∧ b.isDigit then do
      let (minutes, tail) ← offsetMinutes (rest.dropWhile fun c => c = ':' ∨ Text.isBlank c)
      .ok (digitsNat [a, b] * 60 + minutes, tail)
    else .error .invalid
  | _ => .error .tooShort

/-- An offset from UTC in minutes: `Z`, `UTC`, or a sign with hours and minutes. -/
def offset (chars : List Char) : Except Fault (Int × List Char) :=
  match chars with
  | [] => .error .tooShort
  | c :: rest =>
    if (String.ofList ((chars.take 3).map Char.toLower)) = "utc" then .ok (0, chars.drop 3)
    else if c = 'Z' ∨ c = 'z' then .ok (0, rest)
    else if c = '+' then (offsetMagnitude rest).map fun x => ((x.1 : Int), x.2)
    else if c = '-' ∨ c = '−' then (offsetMagnitude rest).map fun x => (-(x.1 : Int), x.2)
    else .error .invalid

/-- Reads a date, a time of day and an offset, and goes over to UTC. The first part that cannot be
read is reported; a date that does not exist is reported last. At the ends of the calendar a date
may exist without one in UTC. -/
def parse (text : String) : Except Fault Timestamp := do
  let (year, chars) ← year text.toList
  let chars ← mark '-' chars
  let (month, chars) ← field 1 12 chars
  let chars ← mark '-' chars
  let (day, chars) ← field 1 31 chars
  let chars ← separator chars
  let (hour, chars) ← field 0 23 chars
  let chars ← mark ':' chars
  let (minute, chars) ← field 0 59 chars
  let chars ← mark ':' chars
  let (second, chars) ← field 0 60 chars
  let (nanos, chars) ← nanosecond chars
  let (ahead, chars) ← offset (Text.trimStart chars)
  if (Text.trimStart chars).isEmpty then
    let date : Date := ⟨year, month, day⟩
    if date.isValid ∧ ahead.natAbs < 1440 then
      let leap := second = 60
      let there : Timestamp :=
        ⟨date, hour, minute, if leap then 59 else second, if leap then 10 ^ 9 + nanos else nanos⟩
      let here := there.shift ahead
      if here.date.isValid then .ok here else .error .impossible
    else .error .outOfRange
  else .error .tooLong

end Timestamp
end RollupFees
