import RollupFees.Hex
import RollupFees.Json.Number

/-!
# JSON tokens

A text is cut into tokens by a machine that looks at one character at a time. Words and numbers
end at the first character that cannot belong to them; blanks between tokens are dropped.

## Main definitions

* `Json.Token` : punctuation or a scalar
* `Json.Scanner` : what the machine is in the middle of
* `Json.tokens?` : the tokens of a text
-/

namespace RollupFees.Json

/-- Punctuation, or a value without parts. -/
inductive Token
  | openArray
  | closeArray
  | openObject
  | closeObject
  | comma
  | colon
  | scalar (value : Json)

/-- What the machine is in the middle of. Characters gathered so far are in reverse. -/
inductive Scanner
  | between
  | word (gathered : List Char)
  | number (gathered : List Char)
  | text (gathered : List Char)
  | escape (gathered : List Char)
  | unicode (gathered : List Char) (lead : Option Nat) (digits : List Char)
  | trail (gathered : List Char) (lead : Nat)
  | trailEscape (gathered : List Char) (lead : Nat)

/-- The blanks between tokens. -/
def isBlank (c : Char) : Bool := c = ' ' || c = '\n' || c = '\t' || c = '\r'

/-- The characters of numbers. -/
def isNumeric (c : Char) : Bool :=
  c.isDigit || c = '-' || c = '+' || c = '.' || c = 'e' || c = 'E'

/-- The character that a backslash and one letter stand for. -/
def unescape? : Char → Option Char
  | '"' => some '"'
  | '\\' => some '\\'
  | '/' => some '/'
  | 'b' => some '\x08'
  | 'f' => some '\x0c'
  | 'n' => some '\n'
  | 'r' => some '\r'
  | 't' => some '\t'
  | _ => none

/-- The words that are values. -/
def wordValue? (word : String) : Option Json :=
  if word = "null" then some .null
  else if word = "true" then some (.bool true)
  else if word = "false" then some (.bool false)
  else none

namespace Scanner

/-- A finished group of four hexadecimal digits. Two halves of a pair make one character; a half
alone is refused. -/
def closeUnicode? (gathered : List Char) (lead : Option Nat) (code : Nat) : Option Scanner :=
  let high := 0xD800 ≤ code ∧ code < 0xDC00
  let low := 0xDC00 ≤ code ∧ code < 0xE000
  match lead with
  | none =>
    if high then some (.trail gathered code)
    else if low then none
    else some (.text (Char.ofNat code :: gathered))
  | some first =>
    if low then
      some (.text (Char.ofNat (0x10000 + (first - 0xD800) * 0x400 + (code - 0xDC00)) :: gathered))
    else none

/-- The machine after a character that begins something new. -/
def begin? (c : Char) : Option (List Token × Scanner) :=
  match c with
  | '[' => some ([.openArray], .between)
  | ']' => some ([.closeArray], .between)
  | '\x7b' => some ([.openObject], .between)
  | '\x7d' => some ([.closeObject], .between)
  | ',' => some ([.comma], .between)
  | ':' => some ([.colon], .between)
  | '"' => some ([], .text [])
  | _ =>
    if isBlank c then some ([], .between)
    else if c.isDigit || c = '-' then some ([], .number [c])
    else if c.isAlpha then some ([], .word [c])
    else none

/-- The token of a finished word. -/
def closeWord? (gathered : List Char) : Option Token :=
  (wordValue? (String.ofList gathered.reverse)).map .scalar

/-- The token of a finished number. -/
def closeNumber? (gathered : List Char) : Option Token :=
  (readNumber? gathered.reverse).map .scalar

/-- The tokens that a character completes, and the machine after it. -/
def step? (s : Scanner) (c : Char) : Option (List Token × Scanner) :=
  match s with
  | .between => begin? c
  | .word gathered =>
    if c.isAlpha then some ([], .word (c :: gathered))
    else (closeWord? gathered).bind fun t => (begin? c).map fun x => (t :: x.1, x.2)
  | .number gathered =>
    if isNumeric c then some ([], .number (c :: gathered))
    else (closeNumber? gathered).bind fun t => (begin? c).map fun x => (t :: x.1, x.2)
  | .text gathered =>
    if c = '"' then some ([.scalar (.string (String.ofList gathered.reverse))], .between)
    else if c = '\\' then some ([], .escape gathered)
    else if c.toNat < 0x20 then none
    else some ([], .text (c :: gathered))
  | .escape gathered =>
    if c = 'u' then some ([], .unicode gathered none [])
    else (unescape? c).map fun e => ([], .text (e :: gathered))
  | .unicode gathered lead digits =>
    if digits.length < 3 then
      (Hex.value? c).map fun _ => ([], .unicode gathered lead (digits ++ [c]))
    else
      (Hex.toNat? (digits ++ [c])).bind fun code =>
        (closeUnicode? gathered lead code).map fun next => ([], next)
  | .trail gathered lead => if c = '\\' then some ([], .trailEscape gathered lead) else none
  | .trailEscape gathered lead =>
    if c = 'u' then some ([], .unicode gathered (some lead) []) else none

/-- The tokens that the end of the text completes. -/
def close? : Scanner → Option (List Token)
  | .between => some []
  | .word gathered => (closeWord? gathered).map fun t => [t]
  | .number gathered => (closeNumber? gathered).map fun t => [t]
  | _ => none

/-- The tokens of the characters to come. -/
def run? (s : Scanner) : List Char → Option (List Token)
  | [] => s.close?
  | c :: rest => (s.step? c).bind fun x => (run? x.2 rest).map fun ts => x.1 ++ ts

end Scanner

/-- The tokens of a text. -/
def tokens? (text : String) : Option (List Token) := Scanner.between.run? text.toList

end RollupFees.Json
