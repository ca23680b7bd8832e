/-!
# Blanks around a text

The blanks are the characters that Unicode calls white space.

## Main definitions

* `Text.isBlank` : the property
* `Text.trim` : a text without blanks at its ends
-/

namespace RollupFees.Text

/-- White space: tabs, line ends and spaces of any width. -/
def isBlank (c : Char) : Bool :=
  let n := c.toNat
  (9 ≤ n && n ≤ 13) || n == 0x20 || n == 0x85 || n == 0xa0 || n == 0x1680 ||
    (0x2000 ≤ n && n ≤ 0x200a) || n == 0x2028 || n == 0x2029 || n == 0x202f || n == 0x205f ||
    n == 0x3000

/-- The characters after leading blanks. -/
def trimStart (chars : List Char) : List Char := chars.dropWhile isBlank

/-- A text without blanks at its ends. -/
def trim (text : String) : String :=
  String.ofList (trimStart (trimStart text.toList).reverse).reverse

/-- Characters that do not start with a blank are left alone. -/
theorem trimStart_eq_self {c : Char} {chars : List Char} (h : isBlank c = false) :
    trimStart (c :: chars) = c :: chars := by
  simp [trimStart, h]

end RollupFees.Text
