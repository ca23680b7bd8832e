/-!
# Hexadecimal digits

## Main definitions

* `Hex.digit`, `Hex.value?` : a digit and its value
* `Hex.ofNat`, `Hex.padded` : a number in hexadecimal, as short as possible or of fixed width
* `Hex.toNat?` : the value of digits
* `Hex.bytes?`, `Hex.ofBytes` : byte strings, two digits a byte
-/

namespace RollupFees.Hex

/-- The lower-case digit of a value below sixteen. -/
def digit (n : Nat) : Char :=
  if n < 10 then Char.ofNat ('0'.toNat + n) else Char.ofNat ('a'.toNat + (n - 10))

/-- The value of a digit in either case. -/
def value? (c : Char) : Option Nat :=
  if c.isDigit then some (c.toNat - '0'.toNat)
  else if 'a' ≤ c ∧ c ≤ 'f' then some (c.toNat - 'a'.toNat + 10)
  else if 'A' ≤ c ∧ c ≤ 'F' then some (c.toNat - 'A'.toNat + 10)
  else none

/-- The last `width` digits of a number, with leading zeros. -/
def digits (n : Nat) : Nat → List Char
  | 0 => []
  | width + 1 => digits (n / 16) width ++ [digit (n % 16)]

/-- A number in `width` digits. -/
def padded (width n : Nat) : String := String.ofList (digits n width)

/-- A number in as few digits as it takes. -/
def ofNat (n : Nat) : String := String.ofList (Nat.toDigits 16 n)

/-- The value of digits; nothing if another character occurs. -/
def toNat? (chars : List Char) : Option Nat :=
  chars.foldl (fun acc c => acc.bind fun n => (value? c).map fun d => 16 * n + d) (some 0)

/-- A byte string, two digits a byte. -/
def ofBytes (bytes : List UInt8) : String :=
  String.ofList (bytes.flatMap fun b => digits b.toNat 2)

/-- The bytes of an even number of digits. -/
def bytes? : List Char → Option (List UInt8)
  | [] => some []
  | [_] => none
  | a :: b :: rest =>
    match value? a, value? b with
    | some x, some y => (bytes? rest).map fun tail => UInt8.ofNat (16 * x + y) :: tail
    | _, _ => none

/-- Digits without a leading `0x`. -/
def bare (text : String) : List Char :=
  match text.toList with
  | '0' :: 'x' :: rest => rest
  | chars => chars

end RollupFees.Hex
