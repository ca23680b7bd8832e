import RollupFees.Hex
import RollupFees.Text.Shapeless

/-!
# Quoted text

Text that came from outside is shown in double quotes. Quotes, backslashes and characters that
cannot be seen are escaped.

## Main definitions

* `Text.quoted` : a text in quotes
-/

namespace RollupFees.Text

/-- One character inside the quotes. -/
def escaped (c : Char) : List Char :=
  match c with
  | '"' => ['\\', '"']
  | '\\' => ['\\', '\\']
  | '\n' => ['\\', 'n']
  | '\r' => ['\\', 'r']
  | '\t' => ['\\', 't']
  | '\x00' => ['\\', '0']
  | _ =>
    if c.toNat < 0x20 ∨ c.toNat = 0x7f ∨ (0x7f < c.toNat ∧ isShapeless c) then
      ['\\', 'u', '\x7b'] ++ (Hex.ofNat c.toNat).toList ++ ['\x7d']
    else [c]

/-- A text in double quotes. -/
def quoted (text : String) : String :=
  String.ofList ('"' :: text.toList.flatMap escaped ++ ['"'])

end RollupFees.Text
