import RollupFees.Amount
import RollupFees.Json.Number
import RollupFees.Timestamp

/-!
# Digits written and read

Numbers are written by one function and read by several, each with rules of its own. All of them
agree on the digits of a number, with or without leading zeros.

## Main definitions

* `AreDigits` : characters that are digits, at least one
* `valueOf` : the value of digits
-/

namespace RollupFees

/-- Characters that are digits, at least one. -/
structure AreDigits (digits : List Char) : Prop where
  ne_nil : digits ≠ []
  isDigit : ∀ c ∈ digits, c.isDigit = true

/-- The value of digits. -/
def valueOf (digits : List Char) : Nat := Nat.ofDigitChars 10 digits 0

theorem areDigits_toDigits (n : Nat) : AreDigits (Nat.toDigits 10 n) where
  ne_nil := Nat.toDigits_ne_nil
  isDigit _ := Nat.isDigit_of_mem_toDigits (by decide) (by decide)

@[simp] theorem valueOf_toDigits (n : Nat) : valueOf (Nat.toDigits 10 n) = n :=
  Nat.ofDigitChars_ten_toDigits

theorem AreDigits.takeWhile_append {digits : List Char} (h : AreDigits digits) (rest : List Char) :
    (digits ++ rest).takeWhile Char.isDigit = digits ++ rest.takeWhile Char.isDigit :=
  List.takeWhile_append_of_pos h.isDigit

theorem AreDigits.dropWhile_append {digits : List Char} (h : AreDigits digits) (rest : List Char) :
    (digits ++ rest).dropWhile Char.isDigit = rest.dropWhile Char.isDigit :=
  List.dropWhile_append_of_pos h.isDigit

/-- The value of digits stays below the power of ten with as many zeros. -/
theorem AreDigits.valueOf_lt {digits : List Char} (h : AreDigits digits) :
    valueOf digits < 10 ^ digits.length := by
  have hall := h.isDigit
  clear h
  rw [valueOf]
  induction digits with
  | nil => simp
  | cons c rest ih =>
    have hc : c.toNat - '0'.toNat < 10 := by
      have := hall c List.mem_cons_self
      simp only [Char.isDigit, Bool.and_eq_true, decide_eq_true_eq, UInt32.le_iff_toNat_le] at this
      have h9 : c.toNat ≤ '9'.toNat := this.2
      simp at h9 ⊢
      omega
    have hrest := ih fun d hd => hall d (List.mem_cons_of_mem c hd)
    rw [Nat.ofDigitChars_cons, Nat.ofDigitChars_eq_ofDigitChars_zero, List.length_cons, Nat.pow_succ]
    have : 10 ^ rest.length * (10 * 0 + (c.toNat - '0'.toNat)) ≤ 10 ^ rest.length * 9 :=
      Nat.mul_le_mul_left _ (by omega)
    omega

/-- Only zero is written with a leading zero. -/
theorem head?_toDigits {n : Nat} (h : n ≠ 0) : (Nat.toDigits 10 n).head? ≠ some '0' := by
  induction n using Nat.strongRecOn with
  | _ n ih =>
    rw [Nat.toDigits_eq_if (by decide)]
    split
    · next hlt =>
      have : ∀ m, m < 10 → m ≠ 0 → m.digitChar ≠ '0' := by decide
      simpa using this n hlt h
    · rw [List.head?_append, Option.or_of_isSome (List.isSome_head?.2 Nat.toDigits_ne_nil)]
      exact ih (n / 10) (by omega) (by omega)

/-! ### Amounts -/

theorem Amount.digitsValue?_eq {digits : List Char} (h : ∀ c ∈ digits, c.isDigit = true) :
    digitsValue? digits = some (valueOf digits) := by
  rw [digitsValue?, valueOf]
  generalize 0 = n
  induction digits generalizing n with
  | nil => rfl
  | cons c rest ih =>
    have hc := h c List.mem_cons_self
    rw [List.foldl_cons, Nat.ofDigitChars_cons, ← ih fun d hd => h d (List.mem_cons_of_mem c hd)]
    simp [hc]

/-- An amount is read back from its digits. -/
@[simp] theorem Amount.ofDigits?_text (a : Amount) : ofDigits? a.text = .ok a := by
  have hvalue : digitsValue? a.text.toList = some a.toNat := by
    rw [text, Nat.toList_repr, digitsValue?_eq (areDigits_toDigits a.toNat).isDigit,
      valueOf_toDigits]
  have hfits : ofNat? a.toNat = some a := ofNat?_eq_some_iff.2 rfl
  simp [ofDigits?, hvalue, hfits]

end RollupFees
