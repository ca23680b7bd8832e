import RollupFees.Json.Parser
import RollupFees.Proofs.Json.Scan

/-!
# What is written is read back

A value without real numbers is read back from either of its layouts, with the fields of every
object in the order of their keys. Cutting the text into tokens and putting the tokens together are
independent of one another: the layout matters only to the first, the order of keys only to the
second.

## Main definitions

* `Json.Plain` : a value without real numbers, whose whole numbers fit in 64 bits
* `Json.canonical` : a value with the fields of every object in order
* `Json.height` : how many containers there are inside one another
* `Json.parse?_render` : the round trip
-/

namespace RollupFees.Json

/-- A value without real numbers, whose whole numbers are natural and fit in 64 bits. -/
inductive Plain : Json → Prop
  | null : Plain .null
  | bool (b : Bool) : Plain (.bool b)
  | int (n : Nat) (fits : n < 2 ^ 64) : Plain (.int n)
  | string (s : String) : Plain (.string s)
  | array {items : List Json} (plain : ∀ x ∈ items, Plain x) : Plain (.array items)
  | object {fields : List (String × Json)} (plain : ∀ f ∈ fields, Plain f.2) :
    Plain (.object fields)

/-! ### Cutting -/

/-- The characters of pieces. -/
def Piece.chars (ps : List Piece) : List Char := ps.flatMap fun p => p.text.toList

namespace Piece

@[simp] theorem chars_nil : chars [] = [] := rfl

@[simp] theorem chars_cons (p : Piece) (ps : List Piece) :
    chars (p :: ps) = p.text.toList ++ chars ps := rfl

@[simp] theorem chars_append (ps qs : List Piece) : chars (ps ++ qs) = chars ps ++ chars qs :=
  List.flatMap_append

@[simp] theorem tokens_nil : tokens [] = [] := rfl

@[simp] theorem tokens_cons_token (t : Token) (ps : List Piece) :
    tokens (.token t :: ps) = t :: tokens ps := rfl

@[simp] theorem tokens_cons_blanks (s : String) (ps : List Piece) :
    tokens (.blanks s :: ps) = tokens ps := rfl

@[simp] theorem tokens_append (ps qs : List Piece) : tokens (ps ++ qs) = tokens ps ++ tokens qs :=
  List.filterMap_append

end Piece

/-- The text of a value is made of the characters of its pieces. -/
theorem toList_render (layout : Layout) (json : Json) :
    (render layout json).toList = Piece.chars (pieces layout 0 json) := by
  rw [render, String.toList_join, List.flatMap_map]
  rfl

open Scanner

variable {layout : Layout} {depth : Nat} {ps qs : List Piece}

/-- Pieces are cut back into their tokens, whatever follows. -/
def Piece.Passes (ps : List Piece) : Prop := Scans .between (chars ps) (tokens ps) .between

/-- Pieces are cut back into their tokens if what follows stops. -/
def Piece.Cuts (ps : List Piece) : Prop := Closes (chars ps) (tokens ps)

/-- Whatever comes before pieces is brought to an end by them. -/
def Piece.Ends (ps : List Piece) : Prop := ∀ rest, Stops rest → Stops (chars ps ++ rest)

theorem Piece.Passes.append_cuts (h : Passes ps) (h' : Cuts qs) : Cuts (ps ++ qs) := by
  intro rest hrest
  rw [chars_append, tokens_append, List.append_assoc, h, h' rest hrest, Option.map_map]
  simp [Function.comp_def]

theorem Piece.Cuts.append (h : Cuts ps) (h' : Cuts qs) (hends : Ends qs) : Cuts (ps ++ qs) := by
  rw [Cuts]
  rw [chars_append, tokens_append]
  exact Closes.append h h' hends

theorem Piece.Ends.append (h : Ends ps) (h' : Ends qs) : Ends (ps ++ qs) := by
  intro rest hrest
  rw [chars_append, List.append_assoc]
  exact h _ (h' rest hrest)

/-- Punctuation is a token of its own. -/
theorem Piece.passes_mark {t : Token} {c : Char} (htext : t.text.toList = [c])
    (hstep : Scanner.between.step? c = some ([t], .between)) : Passes [.token t] := by
  rw [Passes]
  rw [chars_cons, Piece.text, htext]
  exact Scans.char hstep

theorem Piece.passes_string (s : String) : Passes [.token (.scalar (.string s))] := by
  have := scans_quote s
  simpa [Passes, Piece.text, Token.text] using this

theorem scans_spaces (n : Nat) : Scans .between (List.replicate n ' ') [] .between := by
  induction n with
  | zero => exact Scans.nil _
  | succ n ih => exact Scans.skip rfl ih

theorem Layout.passes_newline (layout : Layout) (depth : Nat) :
    Piece.Passes (layout.newline depth) := by
  cases layout with
  | compact => exact Scans.nil _
  | spread =>
    have hspaces : Scans .between ('\n' :: List.replicate (2 * depth) ' ') [] .between :=
      Scans.skip rfl (scans_spaces _)
    simpa [Piece.Passes, newline, Piece.text] using hspaces

theorem Layout.passes_colon (layout : Layout) : Piece.Passes layout.colon := by
  cases layout with
  | compact => exact Scans.char rfl
  | spread =>
    have hmark : Scans .between [':'] [.colon] .between := Scans.char rfl
    have hblank : Scans .between [' '] [] .between := Scans.char rfl
    exact hmark.append hblank

theorem Layout.ends_newline (layout : Layout) (depth : Nat) : Piece.Ends (layout.newline depth) := by
  intro rest hrest
  cases layout with
  | compact => exact hrest
  | spread =>
    have hletter : '\n'.isAlpha = false := rfl
    simp [newline, Piece.text, Stops, isNumeric, hletter]

/-- A mark after pieces brings what is before it to an end. -/
theorem Piece.ends_mark {t : Token} {c : Char} (htext : t.text.toList = [c])
    (hc : isNumeric c = false ∧ c.isAlpha = false) (ps : List Piece) :
    Ends (.token t :: ps) := by
  intro rest hrest
  rw [chars_cons, Piece.text, htext]
  exact hc

theorem ends_itemPieces (layout : Layout) (depth : Nat) (items : List Json) :
    Piece.Ends (itemPieces layout depth items) := by
  cases items with
  | nil =>
    intro rest hrest
    simpa [itemPieces] using hrest
  | cons item rest =>
    rw [itemPieces]
    exact Piece.ends_mark rfl ⟨by decide, by decide⟩ _

theorem ends_fieldPieces (layout : Layout) (depth : Nat) (fields : List (String × Json)) :
    Piece.Ends (fieldPieces layout depth fields) := by
  cases fields with
  | nil =>
    intro rest hrest
    simpa [fieldPieces] using hrest
  | cons f rest =>
    rw [fieldPieces]
    exact Piece.ends_mark rfl ⟨by decide, by decide⟩ _

/-- A scalar is cut off as one token. -/
theorem Plain.cuts_scalar {json : Json} (h : Plain json) (hitems : ∀ items, json ≠ .array items)
    (hfields : ∀ fields, json ≠ .object fields) : Piece.Cuts [.token (.scalar json)] := by
  rw [Piece.Cuts]
  rw [Piece.chars_cons, Piece.chars_nil, List.append_nil]
  cases h with
  | null =>
    exact closes_word (Scans.skip rfl (Scans.skip rfl (Scans.skip rfl (Scans.char rfl)))) rfl
  | bool b =>
    cases b with
    | true =>
      exact closes_word (Scans.skip rfl (Scans.skip rfl (Scans.skip rfl (Scans.char rfl)))) rfl
    | false =>
      exact closes_word (Scans.skip rfl (Scans.skip rfl (Scans.skip rfl (Scans.skip rfl
        (Scans.char rfl))))) rfl
  | int n fits =>
    have htext : (Piece.token (.scalar (.int n))).text.toList = Nat.toDigits 10 n :=
      Nat.toList_repr
    rw [htext]
    exact closes_number (areDigits_toDigits n) (readNumber?_toDigits fits)
  | string s => exact (scans_quote s).closes
  | array => exact absurd rfl (hitems _)
  | object => exact absurd rfl (hfields _)

/-- What is added after the first item or field. -/
theorem Piece.Cuts.after_comma {lead more : List Piece} (hlead : Passes lead) (hvalue : Cuts ps)
    (hmore : Cuts more) (hends : Ends more) :
    Cuts (.token .comma :: (lead ++ ps ++ more)) := by
  have hcomma : Passes [.token .comma] := passes_mark rfl rfl
  have := hcomma.append_cuts (hlead.append_cuts (hvalue.append hmore hends))
  simpa using this

/-- A container with a first item or field and more of them. -/
theorem Piece.Cuts.enclosed {lead more : List Piece} {opening closing : Token} {c d : Char}
    (hopening : opening.text.toList = [c])
    (hopen : Scanner.between.step? c = some ([opening], .between))
    (hclosing : closing.text.toList = [d])
    (hclose : Scanner.between.step? d = some ([closing], .between))
    (hd : isNumeric d = false ∧ d.isAlpha = false) (hlead : Passes lead) (hvalue : Cuts ps)
    (hmore : Cuts more) (hends : Ends more) (layout : Layout) (depth : Nat) :
    Cuts (.token opening :: (lead ++ ps ++ more ++ layout.newline depth ++ [.token closing])) := by
  have hfirst : Passes [.token opening] := passes_mark hopening hopen
  have hlast : Passes [.token closing] := passes_mark hclosing hclose
  have htail : Cuts (layout.newline depth ++ [.token closing]) :=
    (layout.passes_newline depth).append_cuts hlast.closes
  have htailEnds : Ends (layout.newline depth ++ [.token closing]) :=
    (layout.ends_newline depth).append (ends_mark hclosing hd [])
  have hbody := hvalue.append (hmore.append htail htailEnds) (hends.append htailEnds)
  have := hfirst.append_cuts (hlead.append_cuts hbody)
  simpa using this

/-- An empty container. -/
theorem Piece.cuts_empty {opening closing : Token} {c d : Char}
    (hopening : opening.text.toList = [c])
    (hopen : Scanner.between.step? c = some ([opening], .between))
    (hclosing : closing.text.toList = [d])
    (hclose : Scanner.between.step? d = some ([closing], .between)) :
    Cuts [.token opening, .token closing] := by
  have hfirst : Passes [.token opening] := passes_mark hopening hopen
  have hlast : Passes [.token closing] := passes_mark hclosing hclose
  exact hfirst.append_cuts hlast.closes

/-- The key of a field, with the colon after it. -/
theorem Layout.passes_key (layout : Layout) (depth : Nat) (key : String) :
    Piece.Passes (layout.newline depth ++ .token (.scalar (.string key)) :: layout.colon) := by
  rw [Piece.Passes]
  have hcolon := (Piece.passes_string key).append layout.passes_colon
  have := (layout.passes_newline depth).append hcolon
  simpa using this

mutual

/-- The pieces of a value are cut back into its tokens. -/
theorem cuts_pieces (layout : Layout) (depth : Nat) :
    ∀ json, Plain json → Piece.Cuts (pieces layout depth json)
  | .array [], _ => Piece.cuts_empty rfl rfl rfl rfl
  | .array (item :: rest), h => by
    have hplain : ∀ x ∈ item :: rest, Plain x := by
      cases h
      assumption
    rw [pieces]
    exact Piece.Cuts.enclosed rfl rfl rfl rfl ⟨by decide, by decide⟩
      (layout.passes_newline (depth + 1))
      (cuts_pieces layout (depth + 1) item (hplain item List.mem_cons_self))
      (cuts_itemPieces layout (depth + 1) rest fun x hx => hplain x (List.mem_cons_of_mem item hx))
      (ends_itemPieces layout (depth + 1) rest) layout depth
  | .object [], _ => Piece.cuts_empty rfl rfl rfl rfl
  | .object ((key, value) :: rest), h => by
    have hplain : ∀ f ∈ (key, value) :: rest, Plain f.2 := by
      cases h
      assumption
    rw [pieces]
    exact Piece.Cuts.enclosed rfl rfl rfl rfl ⟨by decide, by decide⟩
      (layout.passes_key (depth + 1) key)
      (cuts_pieces layout (depth + 1) value (hplain _ List.mem_cons_self))
      (cuts_fieldPieces layout (depth + 1) rest fun f hf => hplain f (List.mem_cons_of_mem _ hf))
      (ends_fieldPieces layout (depth + 1) rest) layout depth
  | .null, h | .bool _, h | .int _, h | .string _, h => h.cuts_scalar nofun nofun
  | .real _, h => nomatch h

theorem cuts_itemPieces (layout : Layout) (depth : Nat) :
    ∀ items : List Json, (∀ x ∈ items, Plain x) → Piece.Cuts (itemPieces layout depth items)
  | [], _ => fun rest _ => by simp [itemPieces]
  | item :: rest, h => by
    rw [itemPieces]
    exact Piece.Cuts.after_comma (layout.passes_newline depth)
      (cuts_pieces layout depth item (h item List.mem_cons_self))
      (cuts_itemPieces layout depth rest fun x hx => h x (List.mem_cons_of_mem item hx))
      (ends_itemPieces layout depth rest)

theorem cuts_fieldPieces (layout : Layout) (depth : Nat) :
    ∀ fields : List (String × Json), (∀ f ∈ fields, Plain f.2) →
      Piece.Cuts (fieldPieces layout depth fields)
  | [], _ => fun rest _ => by simp [fieldPieces]
  | (key, value) :: rest, h => by
    rw [fieldPieces]
    exact Piece.Cuts.after_comma (layout.passes_key depth key)
      (cuts_pieces layout depth value (h _ List.mem_cons_self))
      (cuts_fieldPieces layout depth rest fun f hf => h f (List.mem_cons_of_mem _ hf))
      (ends_fieldPieces layout depth rest)

end

/-- The text of a value is cut into its tokens. -/
theorem tokens?_render {json : Json} (h : Plain json) (layout : Layout) :
    tokens? (render layout json) = some (Piece.tokens (pieces layout 0 json)) := by
  have := cuts_pieces layout 0 json h [] trivial
  rw [List.append_nil] at this
  rw [tokens?, toList_render, this]
  simp [run?, close?]

/-! ### Putting together -/

mutual

/-- A value with the fields of every object in the order of their keys. -/
def canonical : Json → Json
  | .array items => .array (canonicalItems items)
  | .object fields => .object (canonicalFields fields [])
  | scalar => scalar

/-- Items, each in its canonical form. -/
def canonicalItems : List Json → List Json
  | [] => []
  | item :: rest => canonical item :: canonicalItems rest

/-- Fields put in their places among those that are there. -/
def canonicalFields : List (String × Json) → List (String × Json) → List (String × Json)
  | [], done => done
  | (key, value) :: rest, done => canonicalFields rest (insertField key (canonical value) done)

end

mutual

/-- How many containers there are inside one another. -/
def height : Json → Nat
  | .array items => itemsHeight items + 1
  | .object fields => fieldsHeight fields + 1
  | _ => 0

/-- The height of the highest item. -/
def itemsHeight : List Json → Nat
  | [] => 0
  | item :: rest => max (height item) (itemsHeight rest)

/-- The height of the highest field. -/
def fieldsHeight : List (String × Json) → Nat
  | [] => 0
  | (_, value) :: rest => max (height value) (fieldsHeight rest)

end

namespace Layout

@[simp] theorem tokens_newline (layout : Layout) (depth : Nat) :
    Piece.tokens (layout.newline depth) = [] := by cases layout <;> rfl

@[simp] theorem tokens_colon (layout : Layout) : Piece.tokens layout.colon = [.colon] := by
  cases layout <;> rfl

end Layout

/-- A value does not begin with the end of an array, so that the first item is read like any
other. -/
theorem run?_firstItem (layout : Layout) (depth : Nat) (json : Json) (stack : List Frame)
    (ts : List Token) :
    (Reader.firstItem stack).run? (Piece.tokens (pieces layout depth json) ++ ts) =
      (Reader.value (.items [] :: stack)).run? (Piece.tokens (pieces layout depth json) ++ ts) := by
  unfold pieces
  split <;> rfl

/-- An opening token goes one container further in. -/
theorem run?_open (opening : Token) (stack : List Frame) {inside : Reader}
    (h : stack.length < Reader.maxDepth)
    (hopen : Reader.value? stack opening =
      if stack.length < Reader.maxDepth then some inside else none) (ts : List Token) :
    (Reader.value stack).run? (opening :: ts) = inside.run? ts := by
  rw [Reader.run?, Reader.step?, hopen, if_pos h]
  rfl

mutual

/-- The tokens of a value are put together to its canonical form. -/
theorem run?_pieces (layout : Layout) (depth : Nat) :
    ∀ json stack ts, stack.length + height json ≤ Reader.maxDepth →
      (Reader.value stack).run? (Piece.tokens (pieces layout depth json) ++ ts) =
        (Reader.after stack (canonical json)).run? ts
  | .array [], stack, ts, h => by
    simp only [height, itemsHeight] at h
    exact run?_open .openArray stack (by omega) rfl (.closeArray :: ts)
  | .array (item :: rest), stack, ts, h => by
    simp only [height, itemsHeight] at h
    have hitem := run?_pieces layout (depth + 1) item (.items [] :: stack)
      (Piece.tokens (itemPieces layout (depth + 1) rest) ++ .closeArray :: ts)
      (by rw [List.length_cons]; omega)
    have hrest := run?_itemPieces layout (depth + 1) rest stack ts [] (canonical item) (by omega)
    rw [← run?_firstItem, hrest] at hitem
    rw [pieces, Piece.tokens_cons_token, List.cons_append,
      run?_open .openArray stack (by omega) rfl]
    simpa [canonical, canonicalItems] using hitem
  | .object [], stack, ts, h => by
    simp only [height, fieldsHeight] at h
    exact run?_open .openObject stack (by omega) rfl (.closeObject :: ts)
  | .object ((key, value) :: rest), stack, ts, h => by
    simp only [height, fieldsHeight] at h
    have hvalue := run?_pieces layout (depth + 1) value (.fields [] key :: stack)
      (Piece.tokens (fieldPieces layout (depth + 1) rest) ++ .closeObject :: ts)
      (by rw [List.length_cons]; omega)
    have hrest := run?_fieldPieces layout (depth + 1) rest stack ts [] key (canonical value)
      (by omega)
    rw [hrest] at hvalue
    rw [pieces, Piece.tokens_cons_token, List.cons_append,
      run?_open .openObject stack (by omega) rfl]
    simpa [canonical, canonicalFields, Reader.run?, Reader.step?] using hvalue
  | .null, _, _, _ | .bool _, _, _, _ | .int _, _, _, _ | .string _, _, _, _
  | .real _, _, _, _ => rfl

theorem run?_itemPieces (layout : Layout) (depth : Nat) :
    ∀ items stack ts done value, stack.length + 1 + itemsHeight items ≤ Reader.maxDepth →
      (Reader.after (.items done :: stack) value).run?
          (Piece.tokens (itemPieces layout depth items) ++ .closeArray :: ts) =
        (Reader.after stack (.array ((value :: done).reverse ++ canonicalItems items))).run? ts
  | [], stack, ts, done, value, _ => by
    simp [itemPieces, Reader.run?, Reader.step?, canonicalItems]
  | item :: rest, stack, ts, done, value, h => by
    simp only [itemsHeight] at h
    have hitem := run?_pieces layout depth item (.items (value :: done) :: stack)
      (Piece.tokens (itemPieces layout depth rest) ++ .closeArray :: ts)
      (by rw [List.length_cons]; omega)
    have hrest := run?_itemPieces layout depth rest stack ts (value :: done) (canonical item)
      (by omega)
    rw [hrest] at hitem
    simpa [itemPieces, canonicalItems, Reader.run?, Reader.step?] using hitem

theorem run?_fieldPieces (layout : Layout) (depth : Nat) :
    ∀ fields stack ts done key value, stack.length + 1 + fieldsHeight fields ≤ Reader.maxDepth →
      (Reader.after (.fields done key :: stack) value).run?
          (Piece.tokens (fieldPieces layout depth fields) ++ .closeObject :: ts) =
        (Reader.after stack
          (.object (canonicalFields fields (insertField key value done)))).run? ts
  | [], stack, ts, done, key, value, _ => by
    simp [fieldPieces, Reader.run?, Reader.step?, canonicalFields]
  | (next, v) :: rest, stack, ts, done, key, value, h => by
    simp only [fieldsHeight] at h
    have hvalue := run?_pieces layout depth v (.fields (insertField key value done) next :: stack)
      (Piece.tokens (fieldPieces layout depth rest) ++ .closeObject :: ts)
      (by rw [List.length_cons]; omega)
    have hrest := run?_fieldPieces layout depth rest stack ts (insertField key value done) next
      (canonical v) (by omega)
    rw [hrest] at hvalue
    simpa [fieldPieces, canonicalFields, Reader.run?, Reader.step?] using hvalue

end

/-- **The round trip.** A plain value is read back from either layout in its canonical form. -/
theorem parse?_render {json : Json} (h : Plain json) (hdepth : height json ≤ Reader.maxDepth)
    (layout : Layout) : parse? (render layout json) = some (canonical json) := by
  have := run?_pieces layout 0 json [] [] (by simpa using hdepth)
  rw [List.append_nil] at this
  rw [parse?, tokens?_render h, Option.bind_some, ofTokens?, this]
  rfl

/-- The bytes of a text are read as that text. -/
theorem parseBytes?_toUTF8 (text : String) : parseBytes? text.toUTF8 = parse? text := by
  have : String.fromUTF8? text.toUTF8 = some text := dif_pos text.isValidUTF8
  rw [parseBytes?, this, Option.bind_some]

end RollupFees.Json
