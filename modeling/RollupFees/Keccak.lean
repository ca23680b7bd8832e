import RollupFees.Address

/-!
# Keccak

The hash function that names transactions, events and functions, and that guards snapshots: the
sponge over the permutation of 25 words of 64 bits, with 136 bytes taken in a round and 32 bytes
given out.

## Main definitions

* `Keccak.permute` : the permutation
* `Keccak.digest` : the thirty-two bytes for a byte string
* `keccak256` : the same as a hash
-/

namespace RollupFees

namespace Keccak

/-- The 25 words, the word of column `x` and row `y` at `x + 5 * y`. -/
abbrev Lanes := Array UInt64

/-- The word of a column and a row, both taken modulo five. -/
def lane (a : Lanes) (x y : Nat) : UInt64 := a.getD (x % 5 + 5 * (y % 5)) 0

/-- The words given by column and row. -/
def ofLanes (f : Nat → Nat → UInt64) : Lanes :=
  Array.ofFn fun i : Fin 25 => f (i.val % 5) (i.val / 5)

/-- A word turned left. -/
def turn (w : UInt64) (n : Nat) : UInt64 :=
  if n % 64 = 0 then w else (w <<< UInt64.ofNat (n % 64)) ||| (w >>> UInt64.ofNat (64 - n % 64))

/-- How far each word is turned. -/
def offsets : Array Nat :=
  #[0, 1, 62, 28, 27, 36, 44, 6, 55, 20, 3, 10, 43, 25, 39, 41, 45, 15, 21, 8, 18, 2, 61, 56, 14]

/-- The constants of the twenty-four rounds. -/
def constants : List UInt64 :=
  [0x0000000000000001, 0x0000000000008082, 0x800000000000808a, 0x8000000080008000,
   0x000000000000808b, 0x0000000080000001, 0x8000000080008081, 0x8000000000008009,
   0x000000000000008a, 0x0000000000000088, 0x0000000080008009, 0x000000008000000a,
   0x000000008000808b, 0x800000000000008b, 0x8000000000008089, 0x8000000000008003,
   0x8000000000008002, 0x8000000000000080, 0x000000000000800a, 0x800000008000000a,
   0x8000000080008081, 0x8000000000008080, 0x0000000080000001, 0x8000000080008008]

/-- The parity of a column. -/
def parity (a : Lanes) (x : Nat) : UInt64 :=
  lane a x 0 ^^^ lane a x 1 ^^^ lane a x 2 ^^^ lane a x 3 ^^^ lane a x 4

/-- Every word takes in the parities of the two neighbouring columns. -/
def mixColumns (a : Lanes) : Lanes :=
  let parities := Array.ofFn fun x : Fin 5 => parity a x.val
  ofLanes fun x y =>
    lane a x y ^^^ parities.getD ((x + 4) % 5) 0 ^^^ turn (parities.getD ((x + 1) % 5) 0) 1

/-- The words are turned and moved to new places. -/
def scatter (a : Lanes) : Lanes :=
  ofLanes fun x y =>
    let column := (x + 3 * y) % 5
    turn (lane a column x) (offsets.getD (column + 5 * x) 0)

/-- Every word takes in a product of its two right neighbours. -/
def mixRows (a : Lanes) : Lanes :=
  ofLanes fun x y => lane a x y ^^^ ((~~~ lane a (x + 1) y) &&& lane a (x + 2) y)

/-- One round. -/
def round (a : Lanes) (constant : UInt64) : Lanes :=
  (mixRows (scatter (mixColumns a))).modify 0 (· ^^^ constant)

/-- The permutation: twenty-four rounds. -/
def permute (a : Lanes) : Lanes := constants.foldl round a

/-- The number of bytes taken in at a time. -/
def rate : Nat := 136

/-- A byte string filled up to whole rounds: a one bit, zeros, and a one bit. -/
def pad (bytes : List UInt8) : List UInt8 :=
  let missing := rate - bytes.length % rate
  if missing = 1 then bytes ++ [0x81]
  else bytes ++ 0x01 :: List.replicate (missing - 2) 0 ++ [0x80]

/-- The word that eight bytes spell, the lowest first. -/
def word (bytes : List UInt8) : UInt64 :=
  (bytes.take 8).foldr (fun b w => (w <<< 8) ||| b.toUInt64) 0

/-- The words taken in with one round of bytes. -/
def absorbBlock (a : Lanes) (block : List UInt8) : Lanes :=
  let words := (List.range 17).map fun i => word (block.drop (8 * i))
  permute ((List.range 17).zip words |>.foldl (fun acc x => acc.modify x.1 (· ^^^ x.2)) a)

/-- Takes in a number of rounds. -/
def absorb (a : Lanes) (bytes : List UInt8) : Nat → Lanes
  | 0 => a
  | blocks + 1 => absorb (absorbBlock a (bytes.take rate)) (bytes.drop rate) blocks

/-- The eight bytes of a word, the lowest first. -/
def wordBytes (w : UInt64) : List UInt8 :=
  (List.range 8).map fun i => (w >>> UInt64.ofNat (8 * i)).toUInt8

/-- The thirty-two bytes for a byte string. -/
def digest (bytes : List UInt8) : List UInt8 :=
  let padded := pad bytes
  let final := absorb (Array.replicate 25 0) padded (padded.length / rate)
  (final.toList.take 4).flatMap wordBytes

end Keccak

/-- The number that bytes spell, the highest first. -/
def bytesToNat (bytes : List UInt8) : Nat := bytes.foldl (fun n b => 256 * n + b.toNat) 0

/-- The hash of a byte string. -/
def keccak256 (bytes : List UInt8) : Hash := Hash.ofNat (bytesToNat (Keccak.digest bytes))

/-- The hash of a text in UTF-8. -/
def keccak256Text (text : String) : Hash := keccak256 text.toUTF8.toList

end RollupFees
