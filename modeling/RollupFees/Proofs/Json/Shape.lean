import RollupFees.Json.Parser
import RollupFees.Proofs.Json.Fields

/-!
# The shape of parsed values

Whatever text is parsed, the whole numbers of the value fit in 64 bits and the fields of its objects
are in order, each key once. The scanner owes the first, the reader the second, and either of them
keeps to it with every character and every token.

## Main definitions

* `Json.WellFormed` : whole numbers fit, and fields are in order

## Main results

* `Json.wellFormed_of_parseBytes?` : a parsed value is well formed
-/

namespace RollupFees.Json

/-- Whole numbers fit in 64 bits, and fields are in the order of their keys, each key once. -/
inductive WellFormed : Json → Prop
  | null : WellFormed .null
  | bool (b : Bool) : WellFormed (.bool b)
  | int {n : Int} (lower : -2 ^ 63 ≤ n) (upper : n < 2 ^ 64) : WellFormed (.int n)
  | real (x : Float) : WellFormed (.real x)
  | string (s : String) : WellFormed (.string s)
  | array {items : List Json} (items_wf : ∀ x ∈ items, WellFormed x) : WellFormed (.array items)
  | object {fields : List (String × Json)} (sorted : Sorted fields)
      (values_wf : ∀ f ∈ fields, WellFormed f.2) : WellFormed (.object fields)

/-! ### Numbers -/

theorem gather_lt {n : Nat} (hn : n < 2 ^ 64) (digits : List Char) :
    (gather n digits).1 < 2 ^ 64 := by
  induction digits generalizing n with
  | nil => exact hn
  | cons c rest ih =>
    rw [gather]
    split
    · next hfits => exact ih hfits
    · exact hn

theorem NumberText.wellFormed_of_value? {t : NumberText} {json : Json}
    (h : t.value? = some json) : json.WellFormed := by
  have hreal : ∀ {scaled : Option Float} {sign : Float → Float},
      (scaled.map fun x => Json.real (sign x)) = some json → json.WellFormed := by
    intro _ _ hjson
    obtain ⟨x, -, rfl⟩ := Option.map_eq_some_iff.1 hjson
    exact .real _
  have hfits : (gather 0 t.whole).1 < 2 ^ 64 := gather_lt (by decide) _
  simp only [value?] at h
  split at h
  · exact hreal h
  · split at h
    · exact hreal h
    · split at h
      · exact hreal h
      · split at h
        · split at h
          · next hrange =>
            obtain rfl := Option.some.inj h
            exact .int (by omega) (by omega)
          · exact hreal h
        · obtain rfl := Option.some.inj h
          exact .int (by omega) (by omega)

theorem wellFormed_of_readNumber? {chars : List Char} {json : Json}
    (h : readNumber? chars = some json) : json.WellFormed := by
  obtain ⟨t, -, ht⟩ := Option.bind_eq_some_iff.1 h
  exact t.wellFormed_of_value? ht

/-! ### Tokens -/

/-- The value of a scalar is well formed. -/
def Token.WellFormed : Token → Prop
  | .scalar v => v.WellFormed
  | _ => True

namespace Scanner

variable {s s' : Scanner} {ts : List Token}

theorem wellFormed_of_closeWord? {gathered : List Char} {t : Token}
    (h : closeWord? gathered = some t) : t.WellFormed := by
  obtain ⟨v, hv, rfl⟩ := Option.map_eq_some_iff.1 h
  unfold wordValue? at hv
  split at hv
  · obtain rfl := Option.some.inj hv
    exact .null
  · split at hv
    · obtain rfl := Option.some.inj hv
      exact .bool true
    · split at hv
      · obtain rfl := Option.some.inj hv
        exact .bool false
      · cases hv

theorem wellFormed_of_closeNumber? {gathered : List Char} {t : Token}
    (h : closeNumber? gathered = some t) : t.WellFormed := by
  obtain ⟨v, hv, rfl⟩ := Option.map_eq_some_iff.1 h
  exact wellFormed_of_readNumber? hv

/-- A character may complete no token. -/
theorem wellFormed_of_nil (h : some ([], s) = some (ts, s')) : ∀ t ∈ ts, t.WellFormed := by
  cases h
  exact List.forall_mem_nil _

theorem wellFormed_of_begin? {c : Char} (h : begin? c = some (ts, s')) :
    ∀ t ∈ ts, t.WellFormed := by
  have hmark : ∀ {t : Token} {s : Scanner}, some ([t], s) = some (ts, s') → t.WellFormed →
      ∀ t ∈ ts, t.WellFormed := by
    rintro t s ⟨⟩ ht
    exact List.forall_mem_singleton.2 ht
  unfold begin? at h
  split at h
  case h_7 => exact wellFormed_of_nil h
  case h_8 =>
    split at h
    · exact wellFormed_of_nil h
    · split at h
      · exact wellFormed_of_nil h
      · split at h
        · exact wellFormed_of_nil h
        · cases h
  all_goals exact hmark h trivial

/-- A token that is closed by a character comes before those that the character begins. -/
theorem wellFormed_of_closed {c : Char} {closed : Option Token}
    (hclosed : ∀ t, closed = some t → t.WellFormed)
    (h : (closed.bind fun t => (begin? c).map fun x => (t :: x.1, x.2)) = some (ts, s')) :
    ∀ t ∈ ts, t.WellFormed := by
  obtain ⟨t, ht, hbegin⟩ := Option.bind_eq_some_iff.1 h
  obtain ⟨x, hx, heq⟩ := Option.map_eq_some_iff.1 hbegin
  obtain ⟨rfl, -⟩ := Prod.mk.inj heq
  exact List.forall_mem_cons.2 ⟨hclosed t ht, wellFormed_of_begin? hx⟩

theorem wellFormed_of_step? {c : Char} (h : s.step? c = some (ts, s')) :
    ∀ t ∈ ts, t.WellFormed := by
  cases s with
  | between => exact wellFormed_of_begin? h
  | word gathered =>
    rw [step?] at h
    split at h
    · exact wellFormed_of_nil h
    · exact wellFormed_of_closed (fun _ => wellFormed_of_closeWord?) h
  | number gathered =>
    rw [step?] at h
    split at h
    · exact wellFormed_of_nil h
    · exact wellFormed_of_closed (fun _ => wellFormed_of_closeNumber?) h
  | text gathered =>
    rw [step?] at h
    split at h
    · obtain ⟨rfl, -⟩ := Prod.mk.inj (Option.some.inj h)
      exact List.forall_mem_singleton.2 (.string _)
    · split at h
      · exact wellFormed_of_nil h
      · split at h
        · cases h
        · exact wellFormed_of_nil h
  | escape gathered =>
    rw [step?] at h
    split at h
    · exact wellFormed_of_nil h
    · obtain ⟨e, -, heq⟩ := Option.map_eq_some_iff.1 h
      exact wellFormed_of_nil (congrArg some heq)
  | unicode gathered lead digits =>
    rw [step?] at h
    split at h
    · obtain ⟨_, -, heq⟩ := Option.map_eq_some_iff.1 h
      exact wellFormed_of_nil (congrArg some heq)
    · obtain ⟨code, -, hclose⟩ := Option.bind_eq_some_iff.1 h
      obtain ⟨next, -, heq⟩ := Option.map_eq_some_iff.1 hclose
      exact wellFormed_of_nil (congrArg some heq)
  | trail gathered lead =>
    rw [step?] at h
    split at h
    · exact wellFormed_of_nil h
    · cases h
  | trailEscape gathered lead =>
    rw [step?] at h
    split at h
    · exact wellFormed_of_nil h
    · cases h

theorem wellFormed_of_close? (h : s.close? = some ts) : ∀ t ∈ ts, t.WellFormed := by
  cases s with
  | between =>
    obtain rfl := Option.some.inj h
    exact List.forall_mem_nil _
  | word gathered =>
    obtain ⟨t, ht, rfl⟩ := Option.map_eq_some_iff.1 h
    exact List.forall_mem_singleton.2 (wellFormed_of_closeWord? ht)
  | number gathered =>
    obtain ⟨t, ht, rfl⟩ := Option.map_eq_some_iff.1 h
    exact List.forall_mem_singleton.2 (wellFormed_of_closeNumber? ht)
  | _ => cases h

theorem wellFormed_of_run? {cs : List Char} (h : s.run? cs = some ts) :
    ∀ t ∈ ts, t.WellFormed := by
  induction cs generalizing s ts with
  | nil => exact wellFormed_of_close? h
  | cons c rest ih =>
    obtain ⟨⟨now, next⟩, hstep, hrest⟩ := Option.bind_eq_some_iff.1 h
    obtain ⟨later, hlater, rfl⟩ := Option.map_eq_some_iff.1 hrest
    exact List.forall_mem_append.2 ⟨wellFormed_of_step? hstep, ih hlater⟩

end Scanner

/-! ### Values -/

/-- What has been read of an open container is well formed. -/
def Frame.WellFormed : Frame → Prop
  | .items done => ∀ x ∈ done, x.WellFormed
  | .fields done _ => Sorted done ∧ ∀ f ∈ done, f.2.WellFormed

namespace Reader

/-- What has been read is well formed. -/
def WellFormed : Reader → Prop
  | .value stack | .firstItem stack | .firstKey stack => ∀ frame ∈ stack, frame.WellFormed
  | .key stack done | .colon stack done _ =>
    (∀ frame ∈ stack, frame.WellFormed) ∧ Sorted done ∧ ∀ f ∈ done, f.2.WellFormed
  | .after stack v => (∀ frame ∈ stack, frame.WellFormed) ∧ v.WellFormed

variable {r next : Reader} {t : Token}

theorem wellFormed_of_value? {stack : List Frame} (h : value? stack t = some next)
    (hstack : ∀ frame ∈ stack, frame.WellFormed) (ht : t.WellFormed) : next.WellFormed := by
  unfold value? at h
  split at h
  · obtain rfl := Option.some.inj h
    exact ⟨hstack, ht⟩
  · split at h
    · obtain rfl := Option.some.inj h
      exact hstack
    · cases h
  · split at h
    · obtain rfl := Option.some.inj h
      exact hstack
    · cases h
  · cases h

/-- A token leaves what has been read well formed. -/
theorem WellFormed.step? (hr : r.WellFormed) (ht : t.WellFormed) (h : r.step? t = some next) :
    next.WellFormed := by
  have hfields : ∀ {stack : List Frame} {done : List (String × Json)} {key : String} {v : Json},
      (Reader.after (.fields done key :: stack) v).WellFormed →
        (∀ frame ∈ stack, frame.WellFormed) ∧ Sorted (insertField key v done) ∧
          ∀ f ∈ insertField key v done, f.2.WellFormed := by
    rintro stack done key v ⟨hframes, hv⟩
    obtain ⟨⟨hsorted, hdone⟩, hstack⟩ := List.forall_mem_cons.1 hframes
    refine ⟨hstack, hsorted.insertField key v, fun f hf => ?_⟩
    rcases mem_insertField hf with rfl | hf
    · exact hv
    · exact hdone f hf
  unfold Reader.step? at h
  split at h
  · exact wellFormed_of_value? h hr ht
  · obtain rfl := Option.some.inj h
    exact ⟨hr, .array (List.forall_mem_nil _)⟩
  · exact wellFormed_of_value? h (List.forall_mem_cons.2 ⟨List.forall_mem_nil _, hr⟩) ht
  · obtain rfl := Option.some.inj h
    exact ⟨hr, .object .nil (List.forall_mem_nil _)⟩
  · obtain rfl := Option.some.inj h
    exact ⟨hr, .nil, List.forall_mem_nil _⟩
  · obtain rfl := Option.some.inj h
    exact hr
  · obtain rfl := Option.some.inj h
    exact List.forall_mem_cons.2 ⟨hr.2, hr.1⟩
  · obtain rfl := Option.some.inj h
    obtain ⟨hdone, hstack⟩ := List.forall_mem_cons.1 hr.1
    exact List.forall_mem_cons.2 ⟨List.forall_mem_cons.2 ⟨hr.2, hdone⟩, hstack⟩
  · obtain rfl := Option.some.inj h
    obtain ⟨hdone, hstack⟩ := List.forall_mem_cons.1 hr.1
    refine ⟨hstack, .array fun x hx => ?_⟩
    exact List.forall_mem_cons.2 ⟨hr.2, hdone⟩ x (List.mem_reverse.1 hx)
  · obtain rfl := Option.some.inj h
    exact hfields hr
  · obtain rfl := Option.some.inj h
    obtain ⟨hstack, hsorted, hvalues⟩ := hfields hr
    exact ⟨hstack, .object hsorted hvalues⟩
  · cases h

theorem wellFormed_of_run? {ts : List Token} {json : Json} (hr : r.WellFormed)
    (hts : ∀ t ∈ ts, t.WellFormed) (h : r.run? ts = some json) : json.WellFormed := by
  induction ts generalizing r with
  | nil =>
    cases r with
    | after stack v =>
      cases stack with
      | nil =>
        obtain rfl := Option.some.inj h
        exact hr.2
      | cons => cases h
    | _ => cases h
  | cons t rest ih =>
    obtain ⟨ht, hrest⟩ := List.forall_mem_cons.1 hts
    obtain ⟨next, hstep, hrun⟩ := Option.bind_eq_some_iff.1 h
    exact ih (hr.step? ht hstep) hrest hrun

end Reader

theorem wellFormed_of_parse? {text : String} {json : Json} (h : parse? text = some json) :
    json.WellFormed := by
  obtain ⟨ts, hts, hread⟩ := Option.bind_eq_some_iff.1 h
  have hstart : (Reader.value []).WellFormed := nofun
  exact Reader.wellFormed_of_run? hstart (Scanner.wellFormed_of_run? hts) hread

/-- **Parsed values are well formed.** -/
theorem wellFormed_of_parseBytes? {bytes : ByteArray} {json : Json}
    (h : parseBytes? bytes = some json) : json.WellFormed := by
  obtain ⟨text, -, htext⟩ := Option.bind_eq_some_iff.1 h
  exact wellFormed_of_parse? htext

end RollupFees.Json
