import RollupFees.Toml.Token

/-!
# Scanning what was written

A text is written between double quotes with every character as a code of eight digits, a bare word
as it is. Either is cut back into its token where what follows cannot belong to it, and so is a
sequence of both with punctuation between them.

## Main definitions

* `Toml.Scanner.Scans` : the scanner passes over characters, whatever follows them
* `Toml.Stops` : characters that put an end to words and texts
* `Toml.Cuts` : characters are cut into tokens if what follows stops
* `Toml.quoted` : a text between quotes
-/

namespace RollupFees.Toml

namespace Scanner

variable {s s' s'' : Scanner} {cs cs' : List Char} {ts ts' : List Token} {c : Char}

/-- The scanner passes over characters and gives tokens, whatever follows. -/
def Scans (s : Scanner) (cs : List Char) (ts : List Token) (s' : Scanner) : Prop :=
  ∀ rest, s.run? (cs ++ rest) = (s'.run? rest).map (ts ++ ·)

theorem Scans.nil (s : Scanner) : Scans s [] [] s := by
  intro rest
  simp

theorem Scans.append (h : Scans s cs ts s') (h' : Scans s' cs' ts' s'') :
    Scans s (cs ++ cs') (ts ++ ts') s'' := by
  intro rest
  rw [List.append_assoc, h, h', Option.map_map]
  simp [Function.comp_def]

theorem Scans.char (h : s.step? c = some (ts, s')) : Scans s [c] ts s' := by
  intro rest
  simp [run?, h]

/-- A character that gives no token. -/
theorem Scans.skip (h : s.step? c = some ([], s')) (h' : Scans s' cs ts s'') :
    Scans s (c :: cs) ts s'' := (Scans.char h).append h'

end Scanner

open Scanner

/-! ### Texts -/

/-- A character as a code of eight digits. -/
def coded (c : Char) : List Char := '\\' :: 'U' :: Hex.digits c.toNat 8

/-- A text between quotes. -/
def quoted (text : String) : List Char := '"' :: text.toList.flatMap coded ++ ['"']

/-- All digits of a code but the last. -/
theorem scans_digits (gathered : List Char) (width : Nat) :
    ∀ n left, Scans (.code false gathered (width + (left + 1)) 0) (Hex.digits n width) []
      (.code false gathered (left + 1) (n % 16 ^ width)) := by
  induction width with
  | zero =>
    intro n left
    rw [Nat.zero_add, Nat.pow_zero, Nat.mod_one]
    exact Scans.nil _
  | succ width ih =>
    intro n left
    have hdigit : ∀ d, d < 16 → Hex.value? (Hex.digit d) = some d := by decide
    have hmod : 16 * (n / 16 % 16 ^ width) + n % 16 = n % 16 ^ (width + 1) := by
      rw [Nat.pow_succ', Nat.mod_mul, Nat.add_comm]
    have hlast : (Scanner.code false gathered (left + 1 + 1) (n / 16 % 16 ^ width)).step?
        (Hex.digit (n % 16)) =
          some ([], .code false gathered (left + 1) (n % 16 ^ (width + 1))) := by
      rw [step?, hdigit _ (Nat.mod_lt n (by decide)), Option.bind_some, if_pos (by omega), hmod]
      rfl
    rw [Nat.add_right_comm, Nat.add_assoc width]
    exact (ih (n / 16) (left + 1)).append (Scans.char hlast)

/-- Characters that put an end to words and texts, or none at all. A quote right after two of them
would begin a text of several lines. -/
def Stops : List Char → Prop
  | [] => True
  | c :: _ => isWordLetter c = false ∧ c ≠ '"'

/-- Characters are cut into tokens if what follows stops. -/
def Cuts (cs : List Char) (ts : List Token) : Prop :=
  ∀ rest, Stops rest →
    Scanner.between.run? (cs ++ rest) = (Scanner.between.run? rest).map (ts ++ ·)

variable {cs cs' : List Char} {ts ts' : List Token}

theorem Cuts.nil : Cuts [] [] := fun rest _ => Scans.nil _ rest

theorem Cuts.append (h : Cuts cs ts) (h' : Cuts cs' ts')
    (hstops : ∀ rest, Stops rest → Stops (cs' ++ rest)) : Cuts (cs ++ cs') (ts ++ ts') := by
  intro rest hrest
  rw [List.append_assoc, h _ (hstops rest hrest), h' rest hrest, Option.map_map]
  simp [Function.comp_def]

/-- Punctuation before what is cut. -/
theorem Cuts.cons {c : Char} {t : Token} (hc : Scanner.begin c = ([t], .between))
    (h : Cuts cs ts) : Cuts (c :: cs) (t :: ts) := by
  intro rest hrest
  have hchar : Scans .between [c] [t] .between := Scans.char (by rw [step?, hc])
  rw [List.cons_append, ← List.singleton_append, hchar, h rest hrest, Option.map_map]
  simp [Function.comp_def]

end RollupFees.Toml
