/-!
# Amounts

Token amounts, gas figures and on-chain parameters are unsigned integers of 256 bits. Sums,
differences and products of amounts stop at the ends of the range; where stopping there would
hide a fault, the checked operations return nothing instead.

## Main definitions

* `Amount` : a natural number at most `2 ^ 256 - 1`
* `Amount.satAdd`, `satSub`, `satMul` : arithmetic that stops at the ends of the range
* `Amount.ofNat?`, `mul?`, `pow10?` : arithmetic that fails outside the range
* `Amount.ofDigits?` : the reading of decimal digits
-/

-- `2 ^ 256` means the same power whether or not a library with powers of its own is in scope.
attribute [default_instance 20000, instance(20000)] instPowNat

namespace RollupFees

/-- An unsigned integer of 256 bits. -/
structure Amount where
  toNat : Nat
  le_max : toNat ≤ 2 ^ 256 - 1
deriving DecidableEq

namespace Amount

/-- The largest amount. -/
def maxNat : Nat := 2 ^ 256 - 1

@[ext] theorem ext {a b : Amount} (h : a.toNat = b.toNat) : a = b := by
  cases a; cases b; cases h; rfl

/-- The amount nearest to `n` from below. -/
def clamp (n : Nat) : Amount := ⟨min n maxNat, Nat.min_le_right _ _⟩

/-- The amount equal to `n`, if it fits. -/
def ofNat? (n : Nat) : Option Amount :=
  if h : n ≤ maxNat then some ⟨n, h⟩ else none

instance (n : Nat) : OfNat Amount n := ⟨clamp n⟩

instance : Inhabited Amount := ⟨0⟩

instance : LE Amount := ⟨fun a b => a.toNat ≤ b.toNat⟩
instance : LT Amount := ⟨fun a b => a.toNat < b.toNat⟩
instance (a b : Amount) : Decidable (a ≤ b) := inferInstanceAs (Decidable (a.toNat ≤ b.toNat))
instance (a b : Amount) : Decidable (a < b) := inferInstanceAs (Decidable (a.toNat < b.toNat))

theorem le_iff {a b : Amount} : a ≤ b ↔ a.toNat ≤ b.toNat := Iff.rfl
theorem lt_iff {a b : Amount} : a < b ↔ a.toNat < b.toNat := Iff.rfl

@[simp] theorem toNat_clamp (n : Nat) : (clamp n).toNat = min n maxNat := rfl
@[simp] theorem toNat_zero : (0 : Amount).toNat = 0 := by
  show min 0 maxNat = 0
  exact Nat.zero_min _

@[simp] theorem clamp_toNat (a : Amount) : clamp a.toNat = a :=
  ext (Nat.min_eq_left a.le_max)

theorem ofNat?_eq_some_iff {n : Nat} {a : Amount} : ofNat? n = some a ↔ a.toNat = n := by
  unfold ofNat?
  split
  · next h =>
    constructor
    · rintro ⟨⟩; rfl
    · rintro rfl; rfl
  · next h =>
    constructor
    · intro h'; cases h'
    · rintro rfl; exact absurd a.le_max h

/-- The sum, or the largest amount if the sum is larger. -/
def satAdd (a b : Amount) : Amount := clamp (a.toNat + b.toNat)

/-- The difference, or zero if it is negative. -/
def satSub (a b : Amount) : Amount :=
  ⟨a.toNat - b.toNat, Nat.le_trans (Nat.sub_le _ _) a.le_max⟩

/-- The product, or the largest amount if the product is larger. -/
def satMul (a b : Amount) : Amount := clamp (a.toNat * b.toNat)

/-- The quotient rounded down; zero for a zero divisor, which callers exclude. -/
def div (a b : Amount) : Amount :=
  ⟨a.toNat / b.toNat, Nat.le_trans (Nat.div_le_self _ _) a.le_max⟩

/-- The product, if it fits. -/
def mul? (a b : Amount) : Option Amount := ofNat? (a.toNat * b.toNat)

/-- A power of ten, if it fits. -/
def pow10? (exponent : Nat) : Option Amount :=
  if exponent ≤ 77 then ofNat? (10 ^ exponent) else none

/-- The distance between two amounts. -/
def distance (a b : Amount) : Amount := if b < a then a.satSub b else b.satSub a

@[simp] theorem toNat_satAdd (a b : Amount) :
    (a.satAdd b).toNat = min (a.toNat + b.toNat) maxNat := rfl
@[simp] theorem toNat_satSub (a b : Amount) : (a.satSub b).toNat = a.toNat - b.toNat := rfl
@[simp] theorem toNat_satMul (a b : Amount) :
    (a.satMul b).toNat = min (a.toNat * b.toNat) maxNat := rfl
@[simp] theorem toNat_div (a b : Amount) : (a.div b).toNat = a.toNat / b.toNat := rfl

/-- The decimal digits, without sign or leading zeros. -/
def text (a : Amount) : String := a.toNat.repr

/-- Why a text is not an amount. -/
inductive TextFault
  | notDigit
  | tooLarge
deriving DecidableEq, Repr

/-- The value of a list of decimal digits; nothing if another character occurs. -/
def digitsValue? (digits : List Char) : Option Nat :=
  digits.foldl (fun acc c => acc.bind fun n =>
    if c.isDigit then some (10 * n + (c.toNat - '0'.toNat)) else none) (some 0)

/-- Reads decimal digits: leading zeros are allowed and no digit at all is zero. -/
def ofDigits? (text : String) : Except TextFault Amount :=
  match digitsValue? text.toList with
  | none => .error .notDigit
  | some n =>
    match ofNat? n with
    | some a => .ok a
    | none => .error .tooLarge

/-- What a reader is told about a fault in the digits. -/
def TextFault.message : TextFault → String
  | .notDigit => "a character is not in the range 0-9"
  | .tooLarge => "the number is too large for the type"

end Amount
end RollupFees
