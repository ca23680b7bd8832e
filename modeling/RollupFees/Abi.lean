import RollupFees.Amount
import RollupFees.Keccak

/-!
# Contract data

Contracts take and give byte strings made of words of thirty-two bytes. A call begins with the
first four bytes of the hash of its signature. A text is a length and its bytes, filled up to whole
words, and a word in its place says where it begins. Bytes after the end are ignored when data is
read.

## Main definitions

* `Abi.word`, `Abi.wordAt?` : a word written and read
* `Abi.selector` : the first bytes of a call
* `Abi.textArgument`, `Abi.textAt?` : a text written and read
* `Abi.Fault` : why data cannot be read
-/

namespace RollupFees.Abi

/-- The last `count` bytes of a number, the highest first. -/
def bytesOf (n : Nat) : Nat → List UInt8
  | 0 => []
  | count + 1 => bytesOf (n / 256) count ++ [UInt8.ofNat (n % 256)]

/-- A number as one word. -/
def word (n : Nat) : List UInt8 := bytesOf n 32

/-- An amount as one word. -/
def amountWord (a : Amount) : List UInt8 := word a.toNat

/-- The first bytes of a call: the beginning of the hash of its signature. -/
def selector (signature : String) : List UInt8 :=
  (word (keccak256Text signature).toNat).take 4

/-- Bytes filled up with zeros to whole words. -/
def padded (bytes : List UInt8) : List UInt8 :=
  bytes ++ List.replicate ((32 - bytes.length % 32) % 32) 0

/-- A text as the only argument: where it begins, its length and its bytes. -/
def textArgument (text : String) : List UInt8 :=
  let bytes := text.toUTF8.toList
  word 32 ++ word bytes.length ++ padded bytes

/-- Why data cannot be read: there is none, or not enough. -/
inductive Fault
  | empty
  | invalid
deriving DecidableEq, Repr

/-- Why data cannot be read, in words. -/
def Fault.message : Fault → String
  | .empty =>
    "Invalid name: please ensure the contract and method you're calling exist! failed to decode " ++
      "empty bytes. if you're using jsonrpc this is likely due to jsonrpc returning `0x` in case " ++
      "contract or method don't exist"
  | .invalid => "Invalid data"

/-- The word that begins at a byte. -/
def wordAt? (data : List UInt8) (start : Nat) : Option Nat :=
  if start + 32 ≤ data.length then some (bytesToNat ((data.drop start).take 32)) else none

/-- A word that says where something begins or how long it is; it has to be below `2 ^ 32`. -/
def lengthAt? (data : List UInt8) (start : Nat) : Option Nat :=
  (wordAt? data start).bind fun n => if n < 2 ^ 32 then some n else none

/-- The bytes that the word at a place leads to. -/
def bytesAt? (data : List UInt8) (start : Nat) : Option (List UInt8) :=
  (lengthAt? data start).bind fun place =>
    (lengthAt? data place).bind fun length =>
      if place + 32 + length ≤ data.length then
        some ((data.drop (place + 32)).take length)
      else none

/-- Reads data that must not be empty. -/
def read {α : Type} (data : List UInt8) (value? : List UInt8 → Option α) : Except Fault α :=
  if data.isEmpty then .error .empty
  else
    match value? data with
    | some a => .ok a
    | none => .error .invalid

/-- The first word as an amount. -/
def asAmount (data : List UInt8) : Except Fault Amount :=
  read data fun d => (wordAt? d 0).map Amount.clamp

/-- The low eight bits of the first word. -/
def asByte (data : List UInt8) : Except Fault Nat :=
  read data fun d => (wordAt? d 0).map (· % 256)

/-- The first word as a number with a sign, in two's complement. -/
def asSigned (data : List UInt8) : Except Fault Int :=
  read data fun d => (wordAt? d 0).map fun n => if n < 2 ^ 255 then (n : Int) else n - 2 ^ 256

/-- The low twenty bytes of the first word. -/
def asAddress (data : List UInt8) : Except Fault Address :=
  read data fun d => (wordAt? d 0).map Address.ofNat

/-! ### Texts that may not be UTF-8 -/

/-- The length of the longest run of bytes at the front that may begin a character, and whether the
run is a whole one. At least one byte is taken. -/
def leadingRun : List UInt8 → Nat × Bool
  | [] => (0, false)
  | b :: rest =>
    let n := b.toNat
    let between (low high : Nat) (c : UInt8) : Bool := low ≤ c.toNat && c.toNat ≤ high
    let tail (low high more : Nat) : Nat × Bool :=
      match rest with
      | [] => (1, false)
      | c :: others =>
        if between low high c then
          let taken := ((others.take more).takeWhile (between 0x80 0xbf)).length
          (2 + taken, taken = more)
        else (1, false)
    if n < 0x80 then (1, true)
    else if 0xc2 ≤ n ∧ n ≤ 0xdf then tail 0x80 0xbf 0
    else if n = 0xe0 then tail 0xa0 0xbf 1
    else if n = 0xed then tail 0x80 0x9f 1
    else if 0xe1 ≤ n ∧ n ≤ 0xef then tail 0x80 0xbf 1
    else if n = 0xf0 then tail 0x90 0xbf 2
    else if 0xf1 ≤ n ∧ n ≤ 0xf3 then tail 0x80 0xbf 2
    else if n = 0xf4 then tail 0x80 0x8f 2
    else (1, false)

/-- The characters of bytes, at most so many. Each run of bytes that is no character becomes one
replacement character. -/
def charsOf (bytes : List UInt8) : Nat → List Char
  | 0 => []
  | fuel + 1 =>
    if bytes.isEmpty then []
    else
      let (length, whole) := leadingRun bytes
      let first :=
        if whole then ((String.fromUTF8? ⟨(bytes.take length).toArray⟩).map String.toList).getD []
        else ['\ufffd']
      first ++ charsOf (bytes.drop length) fuel

/-- The text of bytes, with replacement characters where they are not UTF-8. -/
def textOf (bytes : List UInt8) : String := String.ofList (charsOf bytes bytes.length)

/-- The text that the first word leads to. -/
def asText (data : List UInt8) : Except Fault String :=
  read data fun d => (bytesAt? d 0).map textOf

/-- The reason behind a refusal: the text after the selector of `Error(string)`. -/
def refusalReason? (data : List UInt8) : Option String :=
  if data.take 4 = selector "Error(string)" then (asText (data.drop 4)).toOption else none

end RollupFees.Abi
