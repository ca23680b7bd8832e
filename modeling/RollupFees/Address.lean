import RollupFees.Hex

/-!
# Addresses and hashes

## Main definitions

* `Address` : twenty bytes that name an account or a contract
* `Hash` : thirty-two bytes that name a transaction, a block or an event
* `Address.parse` : the reading of an address, with the reason if it fails
-/

namespace RollupFees

/-- An account or a contract: twenty bytes, as a number. -/
structure Address where
  toNat : Nat
  lt : toNat < 2 ^ 160
deriving DecidableEq

/-- A transaction, a block or an event: thirty-two bytes, as a number. -/
structure Hash where
  toNat : Nat
  lt : toNat < 2 ^ 256
deriving DecidableEq

namespace Address

/-- The address equal to the low 160 bits of a number. -/
def ofNat (n : Nat) : Address := ⟨n % 2 ^ 160, Nat.mod_lt _ (by decide)⟩

/-- The address that nobody holds. -/
def zero : Address := ofNat 0

instance : Inhabited Address := ⟨zero⟩

/-- The address made of one byte, twenty times. -/
def repeated (byte : Nat) : Address :=
  ofNat ((List.range 20).foldl (fun n _ => 256 * n + byte) 0)

/-- `0x` and forty digits. -/
def text (a : Address) : String := "0x" ++ Hex.padded 40 a.toNat

/-- Why a text is not an address. -/
inductive Fault
  | character (c : Char) (position : Nat)
  | length
deriving DecidableEq, Repr

/-- What a reader is told about a fault. -/
def Fault.message : Fault → String
  | .character c position => s!"Invalid character '{c}' at position {position}"
  | .length => "Invalid input length"

/-- Blanks inside an address are passed over. -/
def isFiller (c : Char) : Bool := c = ' ' || c = '\r' || c = '\n' || c = '\t'

/-- Reads digits up to the end: `count` digits with the value `value` have been read before
`position`. The first fault from the left is reported, and anything after the fortieth digit is a
fault of length. -/
def readDigits (position count value : Nat) : List Char → Except Fault Address
  | [] => if count = 40 then .ok (ofNat value) else .error .length
  | c :: rest =>
    if isFiller c then readDigits (position + 1) count value rest
    else if count = 40 then .error .length
    else
      match Hex.value? c with
      | none => .error (.character c position)
      | some d => readDigits (position + 1) (count + 1) (16 * value + d) rest

/-- Reads forty hexadecimal digits, with or without `0x` before them. Positions count from the
first digit. -/
def parse (text : String) : Except Fault Address := readDigits 0 0 0 (Hex.bare text)

end Address

namespace Hash

/-- The hash equal to the low 256 bits of a number. -/
def ofNat (n : Nat) : Hash := ⟨n % 2 ^ 256, Nat.mod_lt _ (by decide)⟩

/-- The hash of zeros. -/
def zero : Hash := ofNat 0

instance : Inhabited Hash := ⟨zero⟩

/-- The hash made of one byte, thirty-two times. -/
def repeated (byte : Nat) : Hash :=
  ofNat ((List.range 32).foldl (fun n _ => 256 * n + byte) 0)

/-- `0x` and sixty-four digits. -/
def text (h : Hash) : String := "0x" ++ Hex.padded 64 h.toNat

end Hash
end RollupFees
