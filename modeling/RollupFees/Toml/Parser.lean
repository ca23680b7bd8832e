import RollupFees.Toml.Document
import RollupFees.Toml.Moment
import RollupFees.Toml.Number
import RollupFees.Toml.Token

/-!
# Reading TOML

A document is read line by line: an entry, a table header, or neither. Values in brackets and
braces may hold further values; a date becomes a text.

## Main definitions

* `Toml.Reader` : a reading of part of a list of tokens
* `Toml.value` : the reading of a value
* `Toml.parse?` : the fields of a document
-/

namespace RollupFees.Toml

/-- A reading of the first tokens of a list. -/
abbrev Reader (α : Type) := StateT (List Token) Option α

namespace Reader

/-- Takes a token if it comes next. -/
def eat (t : Token) : Reader Bool := fun tokens =>
  match tokens with
  | next :: rest => if next = t then some (true, rest) else some (false, tokens)
  | [] => some (false, [])

/-- Takes a token that has to come next. -/
def expect (t : Token) : Reader Unit := do
  if ← eat t then pure () else failure

/-- Passes over a blank. -/
def skipBlank : Reader Unit := fun tokens =>
  match tokens with
  | .blank _ :: rest => some ((), rest)
  | _ => some ((), tokens)

/-- Passes over blanks, comments and line ends. -/
def skipLines : Reader Unit := fun tokens =>
  some ((), tokens.dropWhile fun t =>
    match t with
    | .blank _ | .comment | .newline => true
    | _ => false)

/-- A bare word. -/
def word : Reader (List Char) := fun tokens =>
  match tokens with
  | .word letters :: rest => some (letters, rest)
  | _ => none

/-- The end of a line, which may be the end of the text. -/
def lineEnd : Reader Unit := fun tokens =>
  match tokens with
  | .newline :: rest => some ((), rest)
  | [] => some ((), [])
  | _ => none

/-- What may follow an entry: a comment, or the end of the line. -/
def entryEnd : Reader Unit := do
  skipBlank
  if ← eat .comment then pure () else lineEnd

/-- One name of a key: a bare word, or a quoted text on one line. -/
def name : Reader String := fun tokens =>
  match tokens with
  | .word letters :: rest => some (String.ofList letters, rest)
  | .text value false :: rest => some (value, rest)
  | _ => none

/-- Further names of a key after points, at most so many. -/
def moreNames : Nat → Reader (List String)
  | 0 => failure
  | fuel + 1 => do
    skipBlank
    if ← eat .period then
      skipBlank
      let first ← name
      let rest ← moreNames fuel
      pure (first :: rest)
    else pure []

/-- A key: names between points. -/
def key : Reader (List String) := do
  let first ← name
  let tokens ← get
  let rest ← moreNames (tokens.length + 1)
  pure (first :: rest)

/-- The exponent of a number, after its mark. A mark at the end of a word is followed by an
optional plus sign and another word. -/
def exponent (chars : List Char) : Reader Int := do
  let (negative, digits, rest) ←
    if chars.isEmpty then do
      let _ ← eat .plus
      let next ← word
      match splitDigits? 10 false .start next with
      | some (digits, rest) => pure (false, digits, rest)
      | none => failure
    else
      match signedDigits? false chars with
      | some parts => pure parts
      | none => failure
  if rest.isEmpty then
    pure (if negative then -(valueIn 10 digits) else valueIn 10 digits)
  else failure

/-- The rest of a number after its digits: an exponent or nothing. -/
def numberEnd (negative : Bool) (whole fraction : List Char) (chars : List Char) :
    Reader Setting := do
  let exp ← match chars with
    | [] => pure 0
    | c :: rest => if c = 'e' ∨ c = 'E' then exponent rest else failure
  match (RealParts.mk negative whole fraction exp).value? with
  | some v => pure v
  | none => failure

/-- A number that is not whole. The digits after a point are a word of their own. -/
def real (letters : List Char) (pointed : Bool) : Reader Setting := do
  match signedDigits? true letters with
  | none => failure
  | some (negative, whole, rest) =>
    if pointed then
      let after ← word
      match splitDigits? 10 false .start after with
      | some (fraction, tail) =>
        if rest.isEmpty then numberEnd negative whole fraction tail else failure
      | none => failure
    else numberEnd negative whole [] rest

/-- A number that begins with a word. -/
def number (letters : List Char) : Reader Setting := do
  let based (base : Nat) (digits : List Char) : Reader Setting :=
    match based? base digits with
    | some v => pure v
    | none => failure
  match letters with
  | '0' :: 'x' :: digits => based 16 digits
  | '0' :: 'o' :: digits => based 8 digits
  | '0' :: 'b' :: digits => based 2 digits
  | _ =>
    if letters.contains 'e' ∨ letters.contains 'E' then real letters false
    else if ← eat .period then real letters true
    else if letters = "inf".toList then pure (.real (1 / 0))
    else if letters = "-inf".toList then pure (.real (-1 / 0))
    else if letters = "nan".toList ∨ letters = "-nan".toList then pure (.real (0 / 0))
    else
      match wholeNumber? letters with
      | some v => pure v
      | none => failure

/-- A token that may come next, with a word after it, as they were written. -/
def optionalPart (t : Token) (mark : Char) : Reader (List Char) := do
  if ← eat t then
    let letters ← word
    pure (mark :: letters)
  else pure []

/-- The hour after a space, if a date and its time are written apart. -/
def spacedHour : Reader (List Char) := fun tokens =>
  match tokens with
  | .blank true :: .word letters :: rest => some (' ' :: letters, rest)
  | _ => some ([], tokens)

/-- Minutes, seconds and what may follow them, after the colon behind the hour. -/
def clockEnd : Reader (List Char) := do
  let minutes ← word
  expect .colon
  let seconds ← word
  let fraction ← optionalPart .period '.'
  let shift ← optionalPart .plus '+'
  let shiftMinutes ← optionalPart .colon ':'
  pure (minutes ++ ':' :: seconds ++ fraction ++ shift ++ shiftMinutes)

/-- A date, a time or both; the first word has been read, and the colon after it if `isTime`. -/
def moment (letters : List Char) (isTime : Bool) : Reader Setting := do
  let hour ← spacedHour
  let timed ← if isTime then pure false else eat .colon
  let clock ← if isTime ∨ timed then clockEnd else pure []
  let written :=
    letters ++ (if isTime then [':'] else []) ++ hour ++ (if timed then [':'] else []) ++ clock
  match Moment.parse? written with
  | some m => pure (.text m.text)
  | none => failure

/-- Whether a word holds the mark of a negative exponent. -/
def hasNegativeExponent : List Char → Bool
  | c :: d :: rest => ((c = 'e' || c = 'E') && d = '-') || hasNegativeExponent (d :: rest)
  | _ => false

/-- Whether a word begins a date: it has a letter for the time, or a dash that is no sign. -/
def beginsDate (letters : List Char) : Bool :=
  letters.contains 'T' || letters.contains 't' ||
    ((letters.drop 1).contains '-' && !hasNegativeExponent letters)

/-- A number or a date. -/
def numberOrMoment (letters : List Char) : Reader Setting := do
  if beginsDate letters then moment letters false
  else if ← eat .colon then moment letters true
  else number letters

/-- A value that begins with a bare word. -/
def wordValue (letters : List Char) : Reader Setting :=
  if letters = "true".toList then pure (.flag true)
  else if letters = "false".toList then pure (.flag false)
  else if letters = "inf".toList ∨ letters = "nan".toList then numberOrMoment letters
  else
    match letters with
    | c :: _ => if c = '-' ∨ c.isDigit then numberOrMoment letters else failure
    | [] => failure

end Reader

open Reader

mutual

/-- A value, with at most so many values and separators inside. -/
def value : Nat → Reader Setting
  | 0 => failure
  | fuel + 1 => fun tokens =>
    match tokens with
    | .text t _ :: rest => some (.text t, rest)
    | .word letters :: rest => wordValue letters rest
    | .plus :: .word letters :: rest => number letters rest
    | .openBracket :: rest => (items fuel []).run rest
    | .openBrace :: rest =>
      match (skipBlank >>= fun _ => eat .closeBrace).run rest with
      | some (true, after) => some (.table [], after)
      | some (false, inside) => (inlineEntries fuel []).run inside
      | none => none
    | _ => none

/-- The items of a list up to its end; those before are in reverse. -/
def items : Nat → List Setting → Reader Setting
  | 0, _ => failure
  | fuel + 1, done => do
    skipLines
    if ← eat .closeBracket then pure (.list done.reverse)
    else
      let v ← value fuel
      skipLines
      if ← eat .comma then items fuel (v :: done)
      else
        expect .closeBracket
        pure (.list (v :: done).reverse)

/-- The entries of a table in braces up to its end. -/
def inlineEntries : Nat → Entries → Reader Setting
  | 0, _ => failure
  | fuel + 1, done => do
    let k ← key
    skipBlank
    expect .equals
    skipBlank
    let v ← value fuel
    match addKey? v k done with
    | none => failure
    | some grown =>
      skipBlank
      if ← eat .closeBrace then pure (.table (settings grown))
      else
        expect .comma
        skipBlank
        inlineEntries fuel grown

end

/-- An entry of a table: a key, a value and the end of the line. -/
def entry : Reader (List String × Setting) := do
  let k ← key
  skipBlank
  expect .equals
  skipBlank
  let tokens ← get
  let v ← value (tokens.length + 1)
  entryEnd
  pure (k, v)

/-- A table header: a key in brackets, in two pairs of them for an array of tables. Nothing but a
comment may follow it on its line. -/
def header : Reader (Bool × List String) := do
  expect .openBracket
  let repeated ← eat .openBracket
  skipBlank
  let k ← key
  expect .closeBracket
  if repeated then expect .closeBracket
  entryEnd
  pure (repeated, k)

/-- The document read so far: the tables that are finished, the header of the table being read,
if it has one, and its entries. -/
structure Draft where
  doc : Entries
  current : Option (Bool × List String)
  entries : Entries

/-- The document with the table being read. -/
def Draft.close? (d : Draft) : Option Entries :=
  match d.current with
  | none => some d.entries
  | some (repeated, path) => addTable? repeated d.entries path d.doc

/-- Reads lines to the end, at most so many. -/
def lines? : Nat → Draft → List Token → Option Entries
  | 0, _, _ => none
  | fuel + 1, draft, tokens =>
    match tokens.dropWhile fun t => (match t with
      | .blank _ | .comment | .newline => true
      | _ => false) with
    | [] => draft.close?
    | .openBracket :: rest => do
      let (h, after) ← header.run (.openBracket :: rest)
      let doc ← draft.close?
      lines? fuel ⟨doc, some h, []⟩ after
    | rest => do
      let ((path, v), after) ← entry.run rest
      let entries ← addKey? v path draft.entries
      lines? fuel { draft with entries := entries } after

/-- The fields of a document. -/
def parse? (text : String) : Option (List (String × Setting)) :=
  (tokens? text).bind fun tokens =>
    (lines? (tokens.length + 1) ⟨[], none, []⟩ tokens).map settings

end RollupFees.Toml
