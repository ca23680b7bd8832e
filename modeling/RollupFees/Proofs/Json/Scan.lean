import RollupFees.Json.Printer
import RollupFees.Proofs.Text.Digits

/-!
# Scanning what was written

The scanner cuts the text of a value back into the tokens that it was written from. Punctuation and
quoted texts end by themselves; words and numbers end where the next character cannot belong to
them, and the printer never puts one of their characters after them.

## Main definitions

* `Json.Scanner.Scans` : the scanner passes over characters, whatever follows them
* `Json.Stops` : characters that put an end to words and numbers
* `Json.Closes` : characters are cut into tokens if what follows stops
-/

namespace RollupFees.Json

namespace Scanner

variable {s s' s'' : Scanner} {cs cs' : List Char} {ts ts' : List Token}

/-- The scanner passes over characters and gives tokens, whatever follows. -/
def Scans (s : Scanner) (cs : List Char) (ts : List Token) (s' : Scanner) : Prop :=
  ∀ rest, s.run? (cs ++ rest) = (s'.run? rest).map (ts ++ ·)

theorem Scans.nil (s : Scanner) : Scans s [] [] s := by
  intro rest
  simp

theorem Scans.append (h : Scans s cs ts s') (h' : Scans s' cs' ts' s'') :
    Scans s (cs ++ cs') (ts ++ ts') s'' := by
  intro rest
  rw [List.append_assoc, h, h', Option.map_map]
  simp [Function.comp_def]

theorem Scans.char {c : Char} (h : s.step? c = some (ts, s')) : Scans s [c] ts s' := by
  intro rest
  simp [run?, h]

/-- A character that gives no token. -/
theorem Scans.skip {c : Char} (h : s.step? c = some ([], s')) (h' : Scans s' cs ts s'') :
    Scans s (c :: cs) ts s'' := (Scans.char h).append h'

/-! ### Quoted texts -/

/-- Control characters are written as four hexadecimal digits. -/
theorem scans_control {c : Char} (h : c.toNat < 0x20) (gathered : List Char) :
    Scans (.text gathered) ['\\', 'u', '0', '0', Hex.digit (c.toNat / 16), Hex.digit (c.toNat % 16)]
      [] (.text (c :: gathered)) := by
  have hvalue : ∀ n, n < 0x20 →
      Hex.toNat? ['0', '0', Hex.digit (n / 16), Hex.digit (n % 16)] = some n ∧
        (Hex.value? (Hex.digit (n / 16))).isSome := by decide
  obtain ⟨hcode, hsome⟩ := hvalue c.toNat h
  obtain ⟨high, hhigh⟩ := Option.isSome_iff_exists.1 hsome
  have hchar : closeUnicode? gathered none c.toNat = some (.text (c :: gathered)) := by
    simp only [closeUnicode?]
    rw [if_neg (by omega), if_neg (by omega), Char.ofNat_toNat]
  have hthird : (Scanner.unicode gathered none ['0', '0']).step? (Hex.digit (c.toNat / 16)) =
      some ([], .unicode gathered none ['0', '0', Hex.digit (c.toNat / 16)]) := by
    simp [step?, hhigh]
  have hfourth : (Scanner.unicode gathered none ['0', '0', Hex.digit (c.toNat / 16)]).step?
      (Hex.digit (c.toNat % 16)) = some ([], .text (c :: gathered)) := by
    simp [step?, hcode, hchar]
  exact Scans.skip rfl (Scans.skip rfl (Scans.skip rfl (Scans.skip rfl
    (Scans.skip hthird (Scans.char hfourth)))))

/-- A character of a quoted text is read as itself. -/
theorem scans_escapeChar (c : Char) (gathered : List Char) :
    Scans (.text gathered) (escapeChar c) [] (.text (c :: gathered)) := by
  unfold escapeChar
  split
  case h_8 hquote hbackslash _ _ _ _ _ =>
    split
    · next h => exact scans_control h gathered
    · next h => exact Scans.char (by simp_all [step?])
  all_goals exact Scans.skip rfl (Scans.char rfl)

theorem scans_escaped (cs gathered : List Char) :
    Scans (.text gathered) (cs.flatMap escapeChar) [] (.text (cs.reverse ++ gathered)) := by
  induction cs generalizing gathered with
  | nil => exact Scans.nil _
  | cons c rest ih =>
    have := (scans_escapeChar c gathered).append (ih (c :: gathered))
    simpa using this

/-- A quoted text is one token. -/
theorem scans_quote (text : String) :
    Scans .between (quote text).toList [.scalar (.string text)] .between := by
  have hbody := scans_escaped text.toList []
  have hclose : (Scanner.text (text.toList.reverse ++ [])).step? '"' =
      some ([.scalar (.string text)], .between) := by
    simp [step?]
  rw [quote, String.toList_ofList]
  exact Scans.skip rfl (hbody.append (Scans.char hclose))

/-! ### Words and numbers -/

/-- Characters that put an end to words and numbers, or none at all. -/
def Stops : List Char → Prop
  | [] => True
  | c :: _ => isNumeric c = false ∧ c.isAlpha = false

/-- Characters are cut into tokens if what follows stops. -/
def Closes (cs : List Char) (ts : List Token) : Prop :=
  ∀ rest, Stops rest →
    Scanner.between.run? (cs ++ rest) = (Scanner.between.run? rest).map (ts ++ ·)

theorem Scans.closes (h : Scans .between cs ts .between) : Closes cs ts := fun rest _ => h rest

theorem Closes.append (h : Closes cs ts) (h' : Closes cs' ts')
    (hstops : ∀ rest, Stops rest → Stops (cs' ++ rest)) : Closes (cs ++ cs') (ts ++ ts') := by
  intro rest hrest
  rw [List.append_assoc, h _ (hstops rest hrest), h' rest hrest, Option.map_map]
  simp [Function.comp_def]

/-- Digits are gathered. -/
theorem scans_digits {digits : List Char} (h : ∀ c ∈ digits, c.isDigit = true)
    (gathered : List Char) :
    Scans (.number gathered) digits [] (.number (digits.reverse ++ gathered)) := by
  induction digits generalizing gathered with
  | nil => exact Scans.nil _
  | cons c rest ih =>
    have hc : (Scanner.number gathered).step? c = some ([], .number (c :: gathered)) := by
      simp [step?, isNumeric, h c List.mem_cons_self]
    have := Scans.skip hc (ih (fun d hd => h d (List.mem_cons_of_mem c hd)) (c :: gathered))
    simpa using this

theorem isBlank_of_isDigit {c : Char} (h : c.isDigit = true) : isBlank c = false := by
  rw [Bool.eq_false_iff]
  intro hb
  simp only [isBlank, Bool.or_eq_true, decide_eq_true_eq] at hb
  rcases hb with ((rfl | rfl) | rfl) | rfl <;> exact absurd h (by decide)

theorem begin?_of_isDigit {c : Char} (h : c.isDigit = true) :
    begin? c = some ([], .number [c]) := by
  unfold begin?
  split
  case h_8 => simp [isBlank_of_isDigit h, h]
  all_goals exact absurd h (by decide)

/-- A number ends where the next character is not one of its own. -/
theorem closes_number {digits : List Char} (h : AreDigits digits) {value : Json}
    (hvalue : readNumber? digits = some value) : Closes digits [.scalar value] := by
  obtain ⟨c, rest, rfl⟩ := List.exists_cons_of_ne_nil h.ne_nil
  have hc : Scanner.between.step? c = some ([], .number [c]) :=
    begin?_of_isDigit (h.isDigit c List.mem_cons_self)
  have hscan := Scans.skip hc (scans_digits (fun d hd => h.isDigit d (List.mem_cons_of_mem c hd))
    [c])
  have hclose : closeNumber? (rest.reverse ++ [c]) = some (.scalar value) := by
    simp [closeNumber?, hvalue]
  intro tail htail
  rw [hscan tail]
  cases tail with
  | nil => simp [run?, close?, hclose]
  | cons d tail =>
    have hnumber : (Scanner.number (rest.reverse ++ [c])).step? d =
        (begin? d).map fun x => (.scalar value :: x.1, x.2) := by
      simp [step?, htail.1, hclose]
    simp only [run?, hnumber]
    cases hb : begin? d with
    | none => simp [step?, hb]
    | some x => simp [step?, hb, Option.map_map, Function.comp_def]

/-- A word ends where the next character is no letter. -/
theorem closes_word {word : List Char} {value : Json}
    (hscan : Scans .between word [] (.word word.reverse))
    (hvalue : wordValue? (String.ofList word) = some value) : Closes word [.scalar value] := by
  have hclose : closeWord? word.reverse = some (.scalar value) := by
    simp [closeWord?, hvalue]
  intro tail htail
  rw [hscan tail]
  cases tail with
  | nil => simp [run?, close?, hclose]
  | cons d tail =>
    have hword : (Scanner.word word.reverse).step? d =
        (begin? d).map fun x => (.scalar value :: x.1, x.2) := by
      simp [step?, htail.2, hclose]
    simp only [run?, hword]
    cases hb : begin? d with
    | none => simp [step?, hb]
    | some x => simp [step?, hb, Option.map_map, Function.comp_def]

end Scanner

/-! ### Numbers by their digits -/

theorem gather_eq (digits : List Char) :
    ∀ n, Nat.ofDigitChars 10 digits n < 2 ^ 64 →
      gather n digits = (Nat.ofDigitChars 10 digits n, 0) := by
  induction digits with
  | nil => intro n _; rfl
  | cons c rest ih =>
    intro n h
    rw [Nat.ofDigitChars_cons] at h ⊢
    have hle : 10 * n + digitValue c ≤ Nat.ofDigitChars 10 rest (10 * n + (c.toNat - '0'.toNat)) := by
      rw [Nat.ofDigitChars_eq_ofDigitChars_zero]
      have : 1 * (10 * n + digitValue c) ≤ 10 ^ rest.length * (10 * n + digitValue c) :=
        Nat.mul_le_mul_right _ (Nat.pow_pos (by decide))
      simp only [digitValue] at this ⊢
      omega
    rw [gather, if_pos (by omega)]
    exact ih _ h

/-- A whole number that fits in 64 bits is read back from its digits. -/
theorem readNumber?_toDigits {n : Nat} (h : n < 2 ^ 64) :
    readNumber? (Nat.toDigits 10 n) = some (.int n) := by
  have hdigits := areDigits_toDigits n
  have htake : (Nat.toDigits 10 n).takeWhile Char.isDigit = Nat.toDigits 10 n := by
    simpa using hdigits.takeWhile_append []
  have hdrop : (Nat.toDigits 10 n).dropWhile Char.isDigit = [] := by
    simpa using hdigits.dropWhile_append []
  have hlead : ¬ ((Nat.toDigits 10 n).head? = some '0' ∧ (Nat.toDigits 10 n).length ≠ 1) := by
    rintro ⟨hhead, hlength⟩
    by_cases hn : n = 0
    · subst hn
      exact hlength rfl
    · exact head?_toDigits hn hhead
  have hparts : NumberText.ofChars? (Nat.toDigits 10 n) =
      some ⟨false, Nat.toDigits 10 n, none, none⟩ := by
    unfold NumberText.ofChars?
    split
    · next heq =>
      split at heq
      · next hminus =>
        have := hdigits.isDigit '-' (by rw [hminus]; exact List.mem_cons_self)
        cases this
      · obtain ⟨rfl, rfl⟩ := Prod.mk.inj heq
        simp only [htake, hdrop]
        rw [if_neg (by simp), if_neg hlead]
        rfl
  have hgather : gather 0 (Nat.toDigits 10 n) = (n, 0) := by
    have := gather_eq (Nat.toDigits 10 n) 0 (by simpa using h)
    simpa using this
  simp [readNumber?, hparts, NumberText.value?, hgather]

end RollupFees.Json
