import RollupFees.Hex

/-!
# TOML tokens

A text is cut into tokens by a machine that looks at one character at a time. A line end may be
written with a carriage return. A character that begins no token becomes a token of its own, which
no rule of the grammar takes: it does harm only where it is read.

## Main definitions

* `Toml.Token` : punctuation, a bare word, a quoted text, or what separates them
* `Toml.Scanner` : what the machine is in the middle of
* `Toml.tokens?` : the tokens of a text
-/

namespace RollupFees.Toml

/-- A piece of a text. A blank tells whether it is one space. -/
inductive Token
  | newline
  | blank (oneSpace : Bool)
  | comment
  | equals
  | period
  | comma
  | colon
  | plus
  | openBrace
  | closeBrace
  | openBracket
  | closeBracket
  | word (letters : List Char)
  | text (value : String) (multiline : Bool)
  | stray
deriving DecidableEq

/-- The two kinds of quotes: inside double quotes a backslash escapes. -/
inductive Quote
  | double
  | single
deriving DecidableEq

/-- The character of a quote. -/
def Quote.char : Quote → Char
  | .double => '"'
  | .single => '\''

/-- What the machine is in the middle of. Characters gathered so far are in reverse. A text of
several lines is `fresh` before its first character, and remembers how many quotes in a row have
just come. -/
inductive Scanner
  | between
  | blank (spaces : List Char)
  | word (gathered : List Char)
  | comment
  | opened (quote : Quote)
  | openedTwice (quote : Quote)
  | line (quote : Quote) (gathered : List Char)
  | lines (quote : Quote) (gathered : List Char) (fresh : Bool) (quotes : Nat)
  | escape (multiline : Bool) (gathered : List Char)
  | code (multiline : Bool) (gathered : List Char) (left value : Nat)
  | fold (gathered : List Char) (lineEnded : Bool)

/-- Letters of bare words. -/
def isWordLetter (c : Char) : Bool := c.isAlphanum || c = '-' || c = '_'

/-- The blanks within a line. -/
def isSpace (c : Char) : Bool := c = ' ' || c = '\t'

/-- Characters that may stand in quoted texts as they are. -/
def isPlain (c : Char) : Bool := c = '\t' || (0x20 ≤ c.toNat && c.toNat ≠ 0x7f)

/-- The character that a backslash and one letter stand for. -/
def unescape? : Char → Option Char
  | '"' => some '"'
  | '\\' => some '\\'
  | 'b' => some '\x08'
  | 'f' => some '\x0c'
  | 'n' => some '\n'
  | 'r' => some '\r'
  | 't' => some '\t'
  | _ => none

/-- The character of a code, unless the code is half of a pair or too large. -/
def charOfCode? (n : Nat) : Option Char :=
  if n < 0xD800 ∨ (0xDFFF < n ∧ n < 0x110000) then some (Char.ofNat n) else none

namespace Scanner

/-- The token of a finished text. -/
def textToken (gathered : List Char) (multiline : Bool) : Token :=
  .text (String.ofList gathered.reverse) multiline

/-- A text goes on after an escape. -/
def resume (multiline : Bool) (gathered : List Char) : Scanner :=
  if multiline then .lines .double gathered false 0 else .line .double gathered

/-- The machine after a character that begins something new. -/
def begin (c : Char) : List Token × Scanner :=
  match c with
  | '\n' => ([.newline], .between)
  | '#' => ([], .comment)
  | '=' => ([.equals], .between)
  | '.' => ([.period], .between)
  | ',' => ([.comma], .between)
  | ':' => ([.colon], .between)
  | '+' => ([.plus], .between)
  | '\x7b' => ([.openBrace], .between)
  | '\x7d' => ([.closeBrace], .between)
  | '[' => ([.openBracket], .between)
  | ']' => ([.closeBracket], .between)
  | '"' => ([], .opened .double)
  | '\'' => ([], .opened .single)
  | _ =>
    if isSpace c then ([], .blank [c])
    else if isWordLetter c then ([], .word [c])
    else ([.stray], .between)

/-- A token that ends before a character, which begins something new. -/
def finish (t : Token) (c : Char) : List Token × Scanner :=
  let (ts, next) := begin c
  (t :: ts, next)

/-- One character of a text, quotes apart. -/
def plain? (quote : Quote) (multiline : Bool) (gathered : List Char) (c : Char) :
    Option Scanner :=
  if quote = .double ∧ c = '\\' then some (.escape multiline gathered)
  else if isPlain c ∨ (multiline ∧ c = '\n') then
    some (if multiline then .lines quote (c :: gathered) false 0 else .line quote (c :: gathered))
  else none

/-- The tokens that a character completes, and the machine after it. A text of several lines ends
with three quotes; one or two more in front of them belong to the text. -/
def step? (s : Scanner) (c : Char) : Option (List Token × Scanner) :=
  match s with
  | .between => some (begin c)
  | .blank spaces =>
    if isSpace c then some ([], .blank (c :: spaces))
    else some (finish (.blank (spaces = [' '])) c)
  | .word gathered =>
    if isWordLetter c then some ([], .word (c :: gathered))
    else some (finish (.word gathered.reverse) c)
  | .comment =>
    if c = '\t' ∨ 0x20 ≤ c.toNat then some ([], .comment) else some (finish .comment c)
  | .opened q =>
    if c = q.char then some ([], .openedTwice q)
    else (plain? q false [] c).map fun next => ([], next)
  | .openedTwice q =>
    if c = q.char then some ([], .lines q [] true 0)
    else some (finish (textToken [] false) c)
  | .line q gathered =>
    if c = q.char then some ([textToken gathered false], .between)
    else (plain? q false gathered c).map fun next => ([], next)
  | .lines q gathered fresh quotes =>
    if c = q.char then
      if quotes < 4 then some ([], .lines q gathered false (quotes + 1))
      else some ([textToken (q.char :: q.char :: gathered) true], .between)
    else if 3 ≤ quotes then
      some (finish (textToken (List.replicate (quotes - 3) q.char ++ gathered) true) c)
    else if fresh ∧ c = '\n' then some ([], .lines q gathered false 0)
    else
      (plain? q true (List.replicate quotes q.char ++ gathered) c).map fun next => ([], next)
  | .escape multiline gathered =>
    if c = 'u' then some ([], .code multiline gathered 4 0)
    else if c = 'U' then some ([], .code multiline gathered 8 0)
    else if multiline ∧ (isSpace c ∨ c = '\n') then some ([], .fold gathered (c = '\n'))
    else (unescape? c).map fun e => ([], resume multiline (e :: gathered))
  | .code multiline gathered left value =>
    (Hex.value? c).bind fun d =>
      if 1 < left then some ([], .code multiline gathered (left - 1) (16 * value + d))
      else
        (charOfCode? (16 * value + d)).map fun e => ([], resume multiline (e :: gathered))
  | .fold gathered lineEnded =>
    if isSpace c then some ([], .fold gathered lineEnded)
    else if c = '\n' then some ([], .fold gathered true)
    else if ¬ lineEnded then none
    else if c = '"' then some ([], .lines .double gathered false 1)
    else (plain? .double true gathered c).map fun next => ([], next)

/-- The tokens that the end of the text completes. -/
def close? : Scanner → Option (List Token)
  | .between => some []
  | .blank spaces => some [.blank (spaces = [' '])]
  | .word gathered => some [.word gathered.reverse]
  | .comment => some [.comment]
  | .openedTwice _ => some [textToken [] false]
  | .lines q gathered _ quotes =>
    if 3 ≤ quotes then some [textToken (List.replicate (quotes - 3) q.char ++ gathered) true]
    else none
  | _ => none

/-- The tokens of the characters to come. -/
def run? (s : Scanner) : List Char → Option (List Token)
  | [] => s.close?
  | c :: rest => (s.step? c).bind fun x => (run? x.2 rest).map fun ts => x.1 ++ ts

end Scanner

/-- The characters with every line end written in one way. -/
def foldLineEnds : List Char → List Char
  | '\r' :: '\n' :: rest => '\n' :: foldLineEnds rest
  | c :: rest => c :: foldLineEnds rest
  | [] => []

/-- The tokens of a text. A byte order mark in front is passed over. -/
def tokens? (text : String) : Option (List Token) :=
  match foldLineEnds text.toList with
  | '\ufeff' :: rest => Scanner.between.run? rest
  | chars => Scanner.between.run? chars

end RollupFees.Toml
