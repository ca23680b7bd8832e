import RollupFees.Proofs.Text.Digits

/-!
# Points in time written and read

Every point in time that a calendar and a clock can show is read back from its written form, leap
seconds and years of more than four digits included.

## Main definitions

* `Timestamp.IsValid` : a day of the calendar and a time of day
* `Timestamp.parse_text` : the round trip
-/

namespace RollupFees.Timestamp

/-- A day of the calendar and a time of day. Only a fifty-ninth second may be a leap second. -/
structure IsValid (t : Timestamp) : Prop where
  date : t.date.isValid = true
  hour : t.hour < 24
  minute : t.minute < 60
  second : t.second < 60
  nanos : t.nanos < 10 ^ 9 ∨ t.second = 59 ∧ t.nanos < 2 * 10 ^ 9

/-! ### Padded numbers -/

theorem areDigits_padded (width n : Nat) : AreDigits (padded width n).toList where
  ne_nil := by simp [padded]
  isDigit c hc := by
    simp only [padded, String.toList_append, String.toList_ofList, Nat.toList_repr,
      List.mem_append, List.mem_replicate] at hc
    rcases hc with ⟨-, rfl⟩ | hc
    · decide
    · exact (areDigits_toDigits n).isDigit c hc

@[simp] theorem valueOf_padded (width n : Nat) : valueOf (padded width n).toList = n := by
  simp [valueOf, padded, Nat.ofDigitChars_append]

theorem length_padded_eq_max (width n : Nat) :
    (padded width n).toList.length = max width (Nat.toDigits 10 n).length := by
  have hrepr : n.repr.length = (Nat.toDigits 10 n).length := by
    rw [← String.length_toList, Nat.toList_repr]
  simp only [padded, hrepr, String.toList_append, String.toList_ofList, Nat.toList_repr,
    List.length_append, List.length_replicate]
  omega

theorem length_padded {width n : Nat} (hwidth : 0 < width) (h : n < 10 ^ width) :
    (padded width n).toList.length = width := by
  have : (Nat.toDigits 10 n).length ≤ width :=
    (Nat.length_toDigits_le_iff (by decide) hwidth).2 h
  rw [length_padded_eq_max]
  omega

/-! ### Reading the parts -/

/-- What follows digits is no digit within the next places. -/
theorem takeWhile_take_eq_nil {c : Char} (hc : c.isDigit = false) (rest : List Char) (k : Nat) :
    ((c :: rest).take k).takeWhile Char.isDigit = [] := by
  cases k with
  | zero => rfl
  | succ k => simp [hc]

/-- Digits are read up to the most places, or to the first character that is none. -/
theorem number_append {digits rest : List Char} {most : Nat} (h : AreDigits digits)
    (hlength : digits.length ≤ 18) (hmost : digits.length ≤ most)
    (hrest : (rest.take (most - digits.length)).takeWhile Char.isDigit = []) :
    number most (digits ++ rest) = .ok (valueOf digits, rest) := by
  have htaken : ((digits ++ rest).take most).takeWhile Char.isDigit = digits := by
    rw [List.take_append, List.take_of_length_le hmost, h.takeWhile_append, hrest, List.append_nil]
  have hsmall : ¬ 2 ^ 63 ≤ digitsNat digits := by
    have hlt : digitsNat digits < 10 ^ digits.length := h.valueOf_lt
    have hle : 10 ^ digits.length ≤ 10 ^ 18 := Nat.pow_le_pow_right (by decide) hlength
    omega
  have hempty : digits.isEmpty = false := by simp [h.ne_nil]
  unfold number
  split
  · next heq => simp [h.ne_nil] at heq
  · simp only [htaken, hempty]
    rw [if_neg (by simp), if_neg hsmall, List.drop_left]
    rfl

/-- No digit is a blank. -/
theorem isBlank_of_isDigit {c : Char} (h : c.isDigit = true) : Text.isBlank c = false := by
  have hrange : 48 ≤ c.toNat ∧ c.toNat ≤ 57 := by
    simp only [Char.isDigit, Bool.and_eq_true, decide_eq_true_eq, UInt32.le_iff_toNat_le] at h
    exact h
  simp only [Text.isBlank, Bool.or_eq_false_iff, Bool.and_eq_false_iff, decide_eq_false_iff_not,
    beq_eq_false_iff_ne]
  omega

theorem trimStart_digits {digits : List Char} (h : AreDigits digits) (rest : List Char) :
    Text.trimStart (digits ++ rest) = digits ++ rest := by
  obtain ⟨c, tail, rfl⟩ := List.exists_cons_of_ne_nil h.ne_nil
  exact Text.trimStart_eq_self (isBlank_of_isDigit (h.isDigit c List.mem_cons_self))

/-- Two places are read as a part between its bounds. -/
theorem field_padded {least most n : Nat} (hleast : least ≤ n) (hmost : n ≤ most) (h : n < 100)
    (rest : List Char) : field least most ((padded 2 n).toList ++ rest) = .ok (n, rest) := by
  have hlength : (padded 2 n).toList.length = 2 := length_padded (by decide) h
  have hnumber : number 2 ((padded 2 n).toList ++ rest) = .ok (n, rest) := by
    rw [number_append (areDigits_padded 2 n) (by omega) (by omega) (by rw [hlength]; rfl),
      valueOf_padded]
  simp only [field, trimStart_digits (areDigits_padded 2 n), hnumber]
  exact if_pos ⟨hleast, hmost⟩

theorem mark_cons {c : Char} (hc : Text.isBlank c = false) (rest : List Char) :
    mark c (c :: rest) = .ok rest := by
  simp [mark, Text.trimStart_eq_self hc]

/-- The fraction is read in as many places as it has. -/
theorem nanosecond_fractionText {nanos : Nat} (h : nanos < 10 ^ 9) {c : Char}
    (hc : c.isDigit = false) (hc' : c ≠ '.') (rest : List Char) :
    nanosecond ((fractionText nanos).toList ++ c :: rest) = .ok (nanos, c :: rest) := by
  have hplaces : ∀ places n, 0 < places → places ≤ 9 → n < 10 ^ places →
      nanosecond ('.' :: ((padded places n).toList ++ c :: rest)) =
        .ok (n * 10 ^ (9 - places), c :: rest) := by
    intro places n hpos hle hn
    have hlength := length_padded hpos hn
    have hnumber : number 9 ((padded places n).toList ++ c :: rest) = .ok (n, c :: rest) := by
      rw [number_append (areDigits_padded places n) (by omega) (by omega)
        (takeWhile_take_eq_nil hc rest _), valueOf_padded]
    have htaken : ((padded places n).toList ++ c :: rest).take
        (((padded places n).toList ++ c :: rest).length - (c :: rest).length) =
          (padded places n).toList := by
      rw [List.length_append, Nat.add_sub_cancel, List.take_left]
    have hvalue : digitsNat (padded places n).toList = n := valueOf_padded places n
    simp only [nanosecond, hnumber, bind, Except.bind, htaken, hvalue, hlength]
    rw [List.dropWhile_cons_of_neg (by simp [hc])]
  have hpoint : ∀ text : String, ("." ++ text).toList = '.' :: text.toList := by simp
  rw [fractionText]
  split
  · next hzero =>
    subst hzero
    simp only [String.toList_empty, List.nil_append]
    unfold nanosecond
    split
    · next heq => exact absurd (List.cons.inj heq).1 hc'
    · rfl
  · split
    · next hmilli =>
      have := hplaces 3 (nanos / 10 ^ 6) (by decide) (by decide) (by omega)
      rw [hpoint, List.cons_append, this, Nat.div_mul_cancel (Nat.dvd_of_mod_eq_zero hmilli)]
    · split
      · next hmicro =>
        have := hplaces 6 (nanos / 10 ^ 3) (by decide) (by decide) (by omega)
        rw [hpoint, List.cons_append, this, Nat.div_mul_cancel (Nat.dvd_of_mod_eq_zero hmicro)]
      · have := hplaces 9 nanos (by decide) (by decide) h
        rw [hpoint, List.cons_append, this]
        simp

/-- A year is read with its sign. -/
theorem year_yearText {y : Int} (hleast : -2 ^ 31 ≤ y) (hmost : y < 2 ^ 31) (rest : List Char) :
    year ((yearText y).toList ++ '-' :: rest) = .ok (y, '-' :: rest) := by
  have hdigits := areDigits_padded 4 y.natAbs
  have hstop := takeWhile_take_eq_nil (c := '-') (by decide) rest
  rw [yearText]
  split
  · next h =>
    have hlength : (padded 4 y.toNat).toList.length = 4 := length_padded (by decide) (by omega)
    have hnumber : number 4 ((padded 4 y.toNat).toList ++ '-' :: rest) =
        .ok (y.toNat, '-' :: rest) := by
      rw [number_append (areDigits_padded 4 y.toNat) (by omega) (by omega) (hstop _),
        valueOf_padded]
    obtain ⟨c, tail, hcons⟩ := List.exists_cons_of_ne_nil (areDigits_padded 4 y.toNat).ne_nil
    have hc : c.isDigit = true :=
      (areDigits_padded 4 y.toNat).isDigit c (by rw [hcons]; exact List.mem_cons_self)
    rw [year, trimStart_digits (areDigits_padded 4 y.toNat)]
    split
    · next heq =>
      rw [hcons] at heq
      rw [(List.cons.inj heq).1] at hc
      cases hc
    · next heq =>
      rw [hcons] at heq
      rw [(List.cons.inj heq).1] at hc
      cases hc
    · simp only [hnumber, Except.map, bind, Except.bind, Int.toNat_of_nonneg h.1]
      exact if_pos ⟨hleast, hmost⟩
  · next h =>
    have hlength : (padded 4 y.natAbs).toList.length ≤ 18 := by
      have : (Nat.toDigits 10 y.natAbs).length ≤ 10 :=
        (Nat.length_toDigits_le_iff (by decide) (by decide)).2 (by omega)
      rw [length_padded_eq_max]
      omega
    have hnumber : number ((padded 4 y.natAbs).toList ++ '-' :: rest).length
        ((padded 4 y.natAbs).toList ++ '-' :: rest) = .ok (y.natAbs, '-' :: rest) := by
      rw [number_append hdigits hlength (by simp) (hstop _), valueOf_padded]
    split
    · next hneg =>
      have hchars : ("-" ++ padded 4 y.natAbs).toList = '-' :: (padded 4 y.natAbs).toList := by simp
      have hvalue : -(y.natAbs : Int) = y := by omega
      rw [year, hchars, List.cons_append, Text.trimStart_eq_self (by decide)]
      simp only [hnumber, Except.map, bind, Except.bind, hvalue]
      exact if_pos ⟨hleast, hmost⟩
    · next hneg =>
      have hchars : ("+" ++ padded 4 y.natAbs).toList = '+' :: (padded 4 y.natAbs).toList := by simp
      have hvalue : (y.natAbs : Int) = y := by omega
      rw [year, hchars, List.cons_append, Text.trimStart_eq_self (by decide)]
      simp only [hnumber, Except.map, bind, Except.bind, hvalue]
      exact if_pos ⟨hleast, hmost⟩

/-! ### The whole text -/

/-- The characters of a point in time, part by part. -/
theorem toList_text (t : Timestamp) :
    t.text.toList = (yearText t.date.year).toList ++ '-' :: ((padded 2 t.date.month).toList ++
      '-' :: ((padded 2 t.date.day).toList ++ 'T' :: ((padded 2 t.hour).toList ++
      ':' :: ((padded 2 t.minute).toList ++ ':' :: ((padded 2 (t.second + t.nanos / 10 ^ 9)).toList ++
      ((fractionText (t.nanos % 10 ^ 9)).toList ++ ['Z'])))))) := by
  simp [text, dateText, timeText]

/-- A clock that is not ahead shows the same time. -/
theorem shift_zero {t : Timestamp} (hhour : t.hour < 24) (hminute : t.minute < 60) :
    t.shift 0 = t := by
  obtain ⟨date, hour, minute, second, nanos⟩ := t
  simp only at hhour hminute
  have hminutes : ((hour * 60 + minute : Nat) : Int) - 0 = ((hour * 60 + minute : Nat) : Int) := by
    omega
  simp only [shift, hminutes]
  rw [if_neg (by omega), if_neg (by omega)]
  simp only [Int.toNat_natCast, Timestamp.mk.injEq, true_and, and_true]
  omega

/-- **The round trip.** A point in time is read back from its written form. -/
theorem parse_text {t : Timestamp} (h : t.IsValid) : parse t.text = .ok t := by
  have hdate := h.date
  simp only [Date.isValid, Bool.and_eq_true, decide_eq_true_eq] at hdate
  obtain ⟨⟨⟨⟨⟨hmonth, hmonth'⟩, hday⟩, hday'⟩, hyear⟩, hyear'⟩ := hdate
  have hdays : Date.daysIn t.date.year t.date.month ≤ 31 := by
    rw [Date.daysIn]
    split <;> (try split) <;> omega
  have hsecond : t.second + t.nanos / 10 ^ 9 ≤ 60 := by
    have := h.second
    have := h.nanos
    omega
  have hnanos : t.nanos % 10 ^ 9 < 10 ^ 9 := Nat.mod_lt _ (by decide)
  have hdash : Text.isBlank '-' = false := by decide
  have hcolon : Text.isBlank ':' = false := by decide
  have hseparator : ∀ rest, separator ('T' :: rest) = .ok rest := fun _ => rfl
  have hoffset : offset (Text.trimStart ['Z']) = .ok (0, []) := rfl
  have hhour := h.hour
  have hminute := h.minute
  rw [parse, toList_text]
  simp only [year_yearText (y := t.date.year) (by omega) (by omega), bind, Except.bind,
    mark_cons hdash, mark_cons hcolon,
    field_padded hmonth hmonth' (by omega), field_padded hday (Nat.le_trans hday' hdays) (by omega),
    field_padded (Nat.zero_le _) (by omega : t.hour ≤ 23) (by omega),
    field_padded (Nat.zero_le _) (by omega : t.minute ≤ 59) (by omega),
    field_padded (Nat.zero_le _) hsecond (by omega), hseparator,
    nanosecond_fractionText hnanos (c := 'Z') (by decide) (by decide), hoffset]
  have hend : (Text.trimStart []).isEmpty = true := rfl
  rw [if_pos hend, if_pos ⟨h.date, by decide⟩]
  -- A leap second is written as the sixtieth and read as a long fifty-ninth.
  have hseconds : (if t.second + t.nanos / 10 ^ 9 = 60 then 59 else t.second + t.nanos / 10 ^ 9) =
      t.second := by
    have := h.second
    have := h.nanos
    split <;> omega
  have hplaces : (if t.second + t.nanos / 10 ^ 9 = 60 then 10 ^ 9 + t.nanos % 10 ^ 9
      else t.nanos % 10 ^ 9) = t.nanos := by
    have := h.second
    have := h.nanos
    split <;> omega
  have hsame : Timestamp.mk t.date t.hour t.minute t.second t.nanos = t := rfl
  rw [hseconds, hplaces, hsame, shift_zero hhour hminute, if_pos h.date]

end RollupFees.Timestamp
