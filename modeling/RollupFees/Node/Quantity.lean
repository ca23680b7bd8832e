import RollupFees.Address
import RollupFees.Amount
import RollupFees.Json
import RollupFees.Keccak

/-!
# Numbers and bytes in answers of a node

Numbers and byte strings are texts in hexadecimal, with or without `0x` in front. A number has at
least one digit and not too many; a name of fixed length has exactly its digits.

## Main definitions

* `Node.quantity?` : a number of at most so many digits
* `Node.fixed?`, `Node.hash?`, `Node.address?` : a name of fixed length
* `Node.bytes?` : a byte string
* `Node.quantityText` : a number as requests hold it
-/

namespace RollupFees.Node

/-- Blanks among digits, which are passed over. -/
def isGap (c : Char) : Bool := c = ' ' || c = '\r' || c = '\n' || c = '\t'

/-- The bytes of digits, two a byte. The high digit of the first byte is missing if the text,
blanks included, has an odd length; a digit that is left over at the end is dropped. -/
def pairUp (high : Option Nat) : List Char → Option (List UInt8)
  | [] => some []
  | c :: rest =>
    if isGap c then pairUp high rest
    else
      (Hex.value? c).bind fun d =>
        match high with
        | none => pairUp (some d) rest
        | some h => (pairUp none rest).map fun bytes => UInt8.ofNat (16 * h + d) :: bytes

/-- The bytes of a text of digits. -/
def digitBytes? (digits : List Char) : Option (List UInt8) :=
  pairUp (if digits.length % 2 = 1 then some 0 else none) digits

/-- A number of at least one and at most so many digits. -/
def quantity? (most : Nat) : Json → Option Nat
  | .string s =>
    let digits := Hex.bare s
    let length := (String.ofList digits).utf8ByteSize
    if 0 < length ∧ length ≤ most then (digitBytes? digits).map bytesToNat else none
  | _ => none

/-- A number below `2 ^ 256`. -/
def amount? (j : Json) : Option Amount := (quantity? 64 j).map Amount.clamp

/-- A number below `2 ^ 64`. -/
def number? (j : Json) : Option Nat := quantity? 16 j

/-- A name of so many bytes, as a number. -/
def fixed? (size : Nat) : Json → Option Nat
  | .string s =>
    let digits := Hex.bare s
    if (String.ofList digits).utf8ByteSize = 2 * size then
      (digitBytes? digits).map fun bytes =>
        bytesToNat (bytes ++ List.replicate (size - bytes.length) 0)
    else none
  | _ => none

/-- A hash. -/
def hash? (j : Json) : Option Hash := (fixed? 32 j).map Hash.ofNat

/-- An address. -/
def address? (j : Json) : Option Address := (fixed? 20 j).map Address.ofNat

/-- A byte string. -/
def bytes? : Json → Option (List UInt8)
  | .string s => Hex.bytes? (Hex.bare s)
  | _ => none

/-- A value that may be null. -/
def nullable? {α : Type} (read? : Json → Option α) : Json → Option (Option α)
  | .null => some none
  | j => (read? j).map some

/-- A number as requests hold it. -/
def quantityText (n : Nat) : String := "0x" ++ Hex.ofNat n

end RollupFees.Node
