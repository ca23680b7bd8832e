import RollupFees.Proofs.Json.Shape
import RollupFees.Proofs.Snapshot.Encoding

/-!
# What the readers of a snapshot accept

For each part of a snapshot there is more than one JSON value that spells it: leading zeros, a
counter as an object or as the list of its amounts, a side by name or as the only key of an object,
fields that nobody asked for. Each reader accepts exactly the values that spell its part, and reads
what they spell.

## Main definitions

* `Amount.Spelled`, `CounterState.Spelled`, `Snapshot.CountersSpelled`,
  `Snapshot.Envelope.Spelled` : the values that spell a part of a snapshot

## Main results

* `Snapshot.Envelope.ofFields_eq_ok` : the fields that are accepted as the contents of a file
-/

namespace RollupFees

/-- The field of a key is there and has a property. -/
def Json.FieldHas (fields : List (String × Json)) (key : String) (P : Json → Prop) : Prop :=
  ∃ value, lookup key fields = some value ∧ P value

theorem Json.takes_iff_fieldHas {α : Type} {fields : List (String × Json)} {key : String}
    {read : Json → Except Mismatch α} {a : α} {P : Json → Prop}
    (h : ∀ value, (key, value) ∈ fields → (read value = .ok a ↔ P value)) :
    Takes key read fields none (some a) ↔ FieldHas fields key P := by
  rw [takes_none_some]
  exact exists_congr fun value => and_congr_right fun hvalue => h value (mem_of_lookup hvalue)

/-- Decimal digits spell an amount, with or without leading zeros; no digit at all is zero. -/
def Amount.Spelled (json : Json) (a : Amount) : Prop :=
  ∃ text, json = .string text ∧ (∀ c ∈ text.toList, c.isDigit = true) ∧
    a.toNat = valueOf text.toList

/-- A side is spelled by its name, or by an object with the name as the only key. -/
def Side.Spelled (json : Json) (side : Side) : Prop :=
  json = .string side.name ∨ json = .object [(side.name, .null)]

/-- A point in time is spelled by a text with an offset. -/
def Timestamp.Spelled (json : Json) (t : Timestamp) : Prop :=
  ∃ text, json = .string text ∧ Timestamp.parse text = .ok t

/-- The state of a counter is spelled by an object with both amounts, whatever else it holds, or by
the list of them. -/
def CounterState.Spelled (json : Json) (s : CounterState) : Prop :=
  (∃ fields, json = .object fields ∧
      Json.FieldHas fields "observed_balance" (Amount.Spelled · s.observed) ∧
      Json.FieldHas fields "cumulative" (Amount.Spelled · s.cumulative)) ∨
    ∃ x y, json = .array [x, y] ∧ Amount.Spelled x s.observed ∧ Amount.Spelled y s.cumulative

namespace Snapshot

/-- Counters are spelled by an object with a field for each of them and no others. -/
def CountersSpelled (json : Json) (m : CounterMap CounterState) : Prop :=
  ∃ fields, json = .object fields ∧
    (∀ f ∈ fields, ∃ c s, f.1 = Counter.name c ∧ m.get? c = some s ∧ CounterState.Spelled f.2 s) ∧
    ∀ c s, m.get? c = some s → c.name ∈ fields.map Prod.fst

/-- The contents of a file are spelled by an object with these four fields, whatever else it
holds. -/
structure Envelope.Spelled (fields : List (String × Json)) (e : Envelope) : Prop where
  side : Json.FieldHas fields "side" (Side.Spelled · e.side)
  updatedAt : Json.FieldHas fields "updated_at" (Timestamp.Spelled · e.updatedAt)
  counters : Json.FieldHas fields "counters" (CountersSpelled · e.counters)
  checksum : Json.FieldHas fields "checksum" (· = .string e.checksum)

end Snapshot

/-! ### Texts and names -/

theorem Json.asString_eq_ok {json : Json} {text : String} :
    json.asString = .ok text ↔ json = .string text := by
  cases json <;> simp [asString]

/-- A choice is made by a name, or by an object with the name as its only key. -/
theorem Json.asChoice_eq_ok {α : Type} {known : List String} {ofName? : String → Option α}
    {json : Json} {a : α} :
    json.asChoice known ofName? = .ok a ↔
      ∃ name, ofName? name = some a ∧ (json = .string name ∨ json = .object [(name, .null)]) := by
  unfold asChoice
  split
  · next name => cases hname : ofName? name <;> simp [hname]
  · next name payload =>
    cases hname : ofName? name with
    | none => simp [hname]
    | some b => cases payload <;> simp [hname]
  · next fields hsingle =>
    simp only [reduceCtorEq, false_iff]
    rintro ⟨name, -, hstring | hobject⟩
    · cases hstring
    · exact hsingle name .null (Json.object.inj hobject)
  · next hstring hsingle _ =>
    simp only [reduceCtorEq, false_iff]
    rintro ⟨name, -, rfl | rfl⟩
    · exact hstring name rfl
    · exact hsingle name .null rfl

theorem Side.ofName?_eq_some {name : String} {side : Side} :
    Side.ofName? name = some side ↔ name = side.name := by
  constructor
  · intro h
    have hname := List.find?_some h
    simpa [eq_comm] using hname
  · rintro rfl
    exact Side.ofName?_name side

theorem Counter.ofName?_eq_some {name : String} {c : Counter} :
    Counter.ofName? name = some c ↔ name = c.name := by
  constructor
  · intro h
    have hname := List.find?_some h
    simpa [eq_comm] using hname
  · rintro rfl
    exact Counter.ofName?_name c

theorem Side.ofJson_eq_ok {json : Json} {side : Side} :
    Side.ofJson json = .ok side ↔ Side.Spelled json side := by
  simp only [Side.ofJson, Json.asChoice_eq_ok, Side.ofName?_eq_some, exists_eq_left, Side.Spelled]

theorem Counter.ofJson_string_eq_ok {name : String} {c : Counter} :
    Counter.ofJson (.string name) = .ok c ↔ name = c.name := by
  simp [Counter.ofJson, Json.asChoice_eq_ok, Counter.ofName?_eq_some]

theorem Timestamp.ofJson_eq_ok {json : Json} {t : Timestamp} :
    Timestamp.ofJson json = .ok t ↔ Timestamp.Spelled json t := by
  unfold ofJson
  split
  · next text =>
    cases hparse : Timestamp.parse text <;> simp [Timestamp.Spelled, hparse]
  · next hother =>
    simp only [reduceCtorEq, false_iff]
    rintro ⟨text, rfl, -⟩
    exact hother text rfl

/-! ### Amounts -/

/-- Only digits have a value. -/
theorem Amount.digitsValue?_eq_some {digits : List Char} {n : Nat} :
    digitsValue? digits = some n ↔ (∀ c ∈ digits, c.isDigit = true) ∧ n = valueOf digits := by
  constructor
  · intro h
    have hdigits : ∀ c ∈ digits, c.isDigit = true := by
      unfold digitsValue? at h
      generalize some 0 = start at h
      induction digits generalizing start with
      | nil => exact List.forall_mem_nil _
      | cons c rest ih =>
        rw [List.foldl_cons] at h
        refine List.forall_mem_cons.2 ⟨?_, ih _ h⟩
        by_contra hc
        -- nothing comes of what follows
        have hnone : (start.bind fun n =>
            if c.isDigit then some (10 * n + (c.toNat - '0'.toNat)) else none) = none := by
          cases start <;> simp [hc]
        rw [hnone, List.foldl_fixed' fun _ => rfl] at h
        cases h
    rw [digitsValue?_eq hdigits] at h
    exact ⟨hdigits, (Option.some.inj h).symm⟩
  · rintro ⟨hdigits, rfl⟩
    exact digitsValue?_eq hdigits

theorem Amount.ofDigits?_eq_ok {text : String} {a : Amount} :
    ofDigits? text = .ok a ↔
      (∀ c ∈ text.toList, c.isDigit = true) ∧ a.toNat = valueOf text.toList := by
  rw [← digitsValue?_eq_some, ofDigits?]
  cases hvalue : digitsValue? text.toList with
  | none => simp
  | some n =>
    rw [Option.some.injEq, eq_comm (a := n), ← ofNat?_eq_some_iff]
    cases hfits : ofNat? n <;> simp [hfits]

theorem Amount.ofJson_eq_ok {json : Json} {a : Amount} :
    Amount.ofJson json = .ok a ↔ Amount.Spelled json a := by
  unfold ofJson
  rw [Json.bind_eq_ok]
  simp only [Json.asString_eq_ok, Amount.Spelled, ← ofDigits?_eq_ok]
  refine exists_congr fun text => and_congr_right fun _ => ?_
  cases ofDigits? text <;> simp

/-! ### Counters -/

namespace CounterState

/-- A field leaves what has been read of the others. -/
theorem Gathered.read_other {p q : Gathered} {key : String} {value : Json}
    (h : p.read key value = .ok q) :
    (key ≠ "observed_balance" → q.observed = p.observed) ∧
      (key ≠ "cumulative" → q.cumulative = p.cumulative) := by
  unfold Gathered.read at h
  split at h
  · next hkey =>
    obtain ⟨a, -, ⟨⟩⟩ := Json.bind_eq_ok.1 h
    exact ⟨fun hne => absurd hkey hne, fun _ => rfl⟩
  · split at h
    · next hkey =>
      obtain ⟨a, -, ⟨⟩⟩ := Json.bind_eq_ok.1 h
      exact ⟨fun _ => rfl, fun hne => absurd hkey hne⟩
    · obtain rfl := Except.ok.inj h
      exact ⟨fun _ => rfl, fun _ => rfl⟩

/-- Both amounts are read from their fields. -/
theorem foldlM_read_eq_ok {fields : List (String × Json)} (hfields : Json.Sorted fields)
    {p q : Gathered} :
    fields.foldlM (fun (p : Gathered) f => p.read f.1 f.2) p = .ok q ↔
      Json.Takes "observed_balance" Amount.ofJson fields p.observed q.observed ∧
        Json.Takes "cumulative" Amount.ofJson fields p.cumulative q.cumulative := by
  have htakes : ∀ {q}, fields.foldlM (fun (p : Gathered) f => p.read f.1 f.2) p = .ok q →
      Json.Takes "observed_balance" Amount.ofJson fields p.observed q.observed ∧
        Json.Takes "cumulative" Amount.ofJson fields p.cumulative q.cumulative := by
    intro q h
    constructor
    · refine Json.takes_of_foldlM Gathered.observed hfields (fun p v q hread => ?_)
        (fun p f q hne hread => (Gathered.read_other hread).1 hne) h
      obtain ⟨a, ha, ⟨⟩⟩ := Json.bind_eq_ok.1 hread
      exact ⟨a, ha, rfl⟩
    · refine Json.takes_of_foldlM Gathered.cumulative hfields (fun p v q hread => ?_)
        (fun p f q hne hread => (Gathered.read_other hread).2 hne) h
      obtain ⟨a, ha, ⟨⟩⟩ := Json.bind_eq_ok.1 hread
      exact ⟨a, ha, rfl⟩
  refine ⟨htakes, fun ⟨hobserved, hcumulative⟩ => ?_⟩
  -- no field stops the reading, so it comes to an end, and each part tells which one
  have hreadable : ∀ f ∈ fields, ∀ p : Gathered, ∃ q, p.read f.1 f.2 = .ok q := by
    rintro ⟨key, value⟩ hf p
    simp only [Gathered.read]
    split
    · next hkey =>
      obtain ⟨a, ha, -⟩ := hobserved.exists_read hfields (hkey ▸ hf)
      exact ⟨_, Json.bind_eq_ok.2 ⟨a, ha, rfl⟩⟩
    · split
      · next hkey =>
        obtain ⟨a, ha, -⟩ := hcumulative.exists_read hfields (hkey ▸ hf)
        exact ⟨_, Json.bind_eq_ok.2 ⟨a, ha, rfl⟩⟩
      · exact ⟨p, rfl⟩
  obtain ⟨q', hfold⟩ := Json.exists_foldlM hreadable p
  obtain ⟨hobserved', hcumulative'⟩ := htakes hfold
  have hq : q' = q := by
    cases q
    rw [Gathered.mk.injEq]
    exact ⟨hobserved'.unique hobserved, hcumulative'.unique hcumulative⟩
  rw [hfold, hq]

/-- The state of a counter is read from what spells it. -/
theorem ofJson_eq_ok {json : Json} (hjson : json.WellFormed) {s : CounterState} :
    ofJson json = .ok s ↔ CounterState.Spelled json s := by
  cases hjson with
  | @object fields hfields _ =>
    have hfield : ∀ key a, Json.Takes key Amount.ofJson fields none (some a) ↔
        Json.FieldHas fields key (Amount.Spelled · a) :=
      fun key a => Json.takes_iff_fieldHas fun _ _ => Amount.ofJson_eq_ok
    simp only [ofJson, Json.bind_eq_ok, foldlM_read_eq_ok hfields, Json.required_eq_ok]
    constructor
    · rintro ⟨⟨_, _⟩, ⟨hobserved, hcumulative⟩, observed, rfl, cumulative, rfl, ⟨⟩⟩
      exact .inl ⟨fields, rfl, (hfield _ _).1 hobserved, (hfield _ _).1 hcumulative⟩
    · rintro (⟨_, ⟨⟩, hobserved, hcumulative⟩ | ⟨x, y, ⟨⟩, -⟩)
      exact ⟨⟨some s.observed, some s.cumulative⟩,
        ⟨(hfield _ _).2 hobserved, (hfield _ _).2 hcumulative⟩, _, rfl, _, rfl, rfl⟩
  | @array items _ =>
    have hspelled : CounterState.Spelled (.array items) s ↔ ∃ x y, items = [x, y] ∧
        Amount.Spelled x s.observed ∧ Amount.Spelled y s.cumulative := by
      simp [CounterState.Spelled]
    rw [hspelled]
    rcases items with _ | ⟨x, _ | ⟨y, rest⟩⟩
    · simp [ofJson]
    · simp [ofJson, Json.bind_eq_ok]
    · simp only [ofJson, Json.bind_eq_ok, Amount.ofJson_eq_ok]
      cases rest with
      | nil =>
        constructor
        · rintro ⟨observed, hobserved, cumulative, hcumulative, ⟨⟩⟩
          exact ⟨x, y, rfl, hobserved, hcumulative⟩
        · rintro ⟨_, _, ⟨⟩, hobserved, hcumulative⟩
          exact ⟨_, hobserved, _, hcumulative, rfl⟩
      | cons z rest => simp
  | _ => simp [ofJson, CounterState.Spelled]

end CounterState

namespace Snapshot

theorem readCounter_eq_ok {m next : CounterMap CounterState} {f : String × Json} :
    readCounter m f = .ok next ↔
      ∃ c s, f.1 = Counter.name c ∧ CounterState.ofJson f.2 = .ok s ∧ next = m.set c s := by
  simp only [readCounter, Json.bind_eq_ok, Counter.ofJson_string_eq_ok, Except.ok.injEq]
  constructor
  · rintro ⟨c, hc, s, hs, rfl⟩
    exact ⟨c, s, hc, hs, rfl⟩
  · rintro ⟨c, s, hc, hs, rfl⟩
    exact ⟨c, hc, s, hs, rfl⟩

/-- Going through the fields of an object puts an entry into a map for each of them. -/
theorem foldlM_readCounter_eq_ok {fields : List (String × Json)} (hfields : Json.Sorted fields)
    {m final : CounterMap CounterState} :
    fields.foldlM readCounter m = .ok final ↔
      (∀ f ∈ fields, ∃ c, f.1 = Counter.name c) ∧
        ∀ c : Counter, Json.Takes c.name CounterState.ofJson fields (m.get? c) (final.get? c) := by
  have htakes : ∀ {final}, fields.foldlM readCounter m = .ok final → ∀ c : Counter,
      Json.Takes c.name CounterState.ofJson fields (m.get? c) (final.get? c) := by
    intro final h c
    refine Json.takes_of_foldlM (CounterMap.get? · c) hfields (fun m v next hread => ?_)
      (fun m f next hne hread => ?_) h
    · obtain ⟨d, s, hname, hs, rfl⟩ := readCounter_eq_ok.1 hread
      obtain rfl := Counter.name_injective hname
      exact ⟨s, hs, by simp⟩
    · obtain ⟨d, s, hname, -, rfl⟩ := readCounter_eq_ok.1 hread
      have hcd : c ≠ d := by
        rintro rfl
        exact hne hname
      simp [hcd]
  constructor
  · intro h
    refine ⟨fun f hf => ?_, htakes h⟩
    obtain ⟨m, next, hread⟩ := Json.exists_step_of_foldlM h f hf
    obtain ⟨c, -, hname, -⟩ := readCounter_eq_ok.1 hread
    exact ⟨c, hname⟩
  · rintro ⟨hnames, hall⟩
    have hreadable : ∀ f ∈ fields, ∀ m, ∃ next, readCounter m f = .ok next := by
      rintro ⟨key, value⟩ hf m
      obtain ⟨c, rfl⟩ : ∃ c, key = Counter.name c := hnames _ hf
      obtain ⟨s, hs, -⟩ := (hall c).exists_read hfields hf
      exact ⟨_, readCounter_eq_ok.2 ⟨c, s, rfl, hs, rfl⟩⟩
    obtain ⟨final', hfold⟩ := Json.exists_foldlM hreadable m
    rw [hfold, CounterMap.ext fun c => (htakes hfold c).unique (hall c)]

/-- Counters are read from what spells them. -/
theorem countersOfJson_eq_ok {json : Json} (hjson : json.WellFormed)
    {m : CounterMap CounterState} : countersOfJson json = .ok m ↔ CountersSpelled json m := by
  cases hjson with
  | @object fields hfields hvalues =>
    rw [countersOfJson_object, foldlM_readCounter_eq_ok hfields]
    constructor
    · rintro ⟨hnames, htakes⟩
      refine ⟨fields, rfl, ?_, fun c s hs => ?_⟩
      · rintro ⟨key, value⟩ hf
        obtain ⟨c, rfl⟩ : ∃ c, key = Counter.name c := hnames _ hf
        obtain ⟨s, hs, hget⟩ := (htakes c).exists_read hfields hf
        exact ⟨c, s, rfl, hget, (CounterState.ofJson_eq_ok (hvalues _ hf)).1 hs⟩
      · by_contra hmissing
        have htaken := htakes c
        rw [Json.Takes, Json.lookup_eq_none_iff.2 hmissing] at htaken
        simp [hs] at htaken
    · rintro ⟨_, ⟨⟩, hfields', hentries⟩
      refine ⟨fun f hf => ?_, fun c => ?_⟩
      · obtain ⟨c, -, hc, -⟩ := hfields' f hf
        exact ⟨c, hc⟩
      · rw [Json.Takes]
        split
        · next hmissing =>
          rw [CounterMap.get?_empty]
          cases hs : m.get? c with
          | none => rfl
          | some s => exact absurd (hentries c s hs) (Json.lookup_eq_none_iff.1 hmissing)
        · next value hvalue =>
          have hmem := Json.mem_of_lookup hvalue
          obtain ⟨d, s, hname, hs, hspelled⟩ := hfields' _ hmem
          obtain rfl := Counter.name_injective hname
          exact ⟨s, (CounterState.ofJson_eq_ok (hvalues _ hmem)).2 hspelled, hs⟩
  | _ => simp [countersOfJson, CountersSpelled]

/-! ### The contents of a file -/

/-- A field leaves what has been read of the others. -/
theorem Gathered.read_other {p q : Gathered} {key : String} {value : Json}
    (h : p.read key value = .ok q) :
    (key ≠ "side" → q.side = p.side) ∧ (key ≠ "updated_at" → q.updatedAt = p.updatedAt) ∧
      (key ≠ "counters" → q.counters = p.counters) ∧
      (key ≠ "checksum" → q.checksum = p.checksum) := by
  unfold Gathered.read at h
  split at h
  · next hkey =>
    obtain ⟨_, -, ⟨⟩⟩ := Json.bind_eq_ok.1 h
    exact ⟨fun hne => absurd hkey hne, fun _ => rfl, fun _ => rfl, fun _ => rfl⟩
  split at h
  · next hkey =>
    obtain ⟨_, -, ⟨⟩⟩ := Json.bind_eq_ok.1 h
    exact ⟨fun _ => rfl, fun hne => absurd hkey hne, fun _ => rfl, fun _ => rfl⟩
  split at h
  · next hkey =>
    obtain ⟨_, -, ⟨⟩⟩ := Json.bind_eq_ok.1 h
    exact ⟨fun _ => rfl, fun _ => rfl, fun hne => absurd hkey hne, fun _ => rfl⟩
  split at h
  · next hkey =>
    obtain ⟨_, -, ⟨⟩⟩ := Json.bind_eq_ok.1 h
    exact ⟨fun _ => rfl, fun _ => rfl, fun _ => rfl, fun hne => absurd hkey hne⟩
  · obtain rfl := Except.ok.inj h
    exact ⟨fun _ => rfl, fun _ => rfl, fun _ => rfl, fun _ => rfl⟩

/-- Each part is read from its field. -/
theorem foldlM_read_eq_ok {fields : List (String × Json)} (hfields : Json.Sorted fields)
    {p q : Gathered} :
    fields.foldlM (fun (p : Gathered) f => p.read f.1 f.2) p = .ok q ↔
      Json.Takes "side" Side.ofJson fields p.side q.side ∧
        Json.Takes "updated_at" Timestamp.ofJson fields p.updatedAt q.updatedAt ∧
        Json.Takes "counters" countersOfJson fields p.counters q.counters ∧
        Json.Takes "checksum" Json.asString fields p.checksum q.checksum := by
  have htakes : ∀ {q}, fields.foldlM (fun (p : Gathered) f => p.read f.1 f.2) p = .ok q →
      Json.Takes "side" Side.ofJson fields p.side q.side ∧
        Json.Takes "updated_at" Timestamp.ofJson fields p.updatedAt q.updatedAt ∧
        Json.Takes "counters" countersOfJson fields p.counters q.counters ∧
        Json.Takes "checksum" Json.asString fields p.checksum q.checksum := by
    intro q h
    refine ⟨?_, ?_, ?_, ?_⟩
    · refine Json.takes_of_foldlM Gathered.side hfields (fun p v q hread => ?_)
        (fun p f q hne hread => (Gathered.read_other hread).1 hne) h
      obtain ⟨a, ha, ⟨⟩⟩ := Json.bind_eq_ok.1 hread
      exact ⟨a, ha, rfl⟩
    · refine Json.takes_of_foldlM Gathered.updatedAt hfields (fun p v q hread => ?_)
        (fun p f q hne hread => (Gathered.read_other hread).2.1 hne) h
      obtain ⟨a, ha, ⟨⟩⟩ := Json.bind_eq_ok.1 hread
      exact ⟨a, ha, rfl⟩
    · refine Json.takes_of_foldlM Gathered.counters hfields (fun p v q hread => ?_)
        (fun p f q hne hread => (Gathered.read_other hread).2.2.1 hne) h
      obtain ⟨a, ha, ⟨⟩⟩ := Json.bind_eq_ok.1 hread
      exact ⟨a, ha, rfl⟩
    · refine Json.takes_of_foldlM Gathered.checksum hfields (fun p v q hread => ?_)
        (fun p f q hne hread => (Gathered.read_other hread).2.2.2 hne) h
      obtain ⟨a, ha, ⟨⟩⟩ := Json.bind_eq_ok.1 hread
      exact ⟨a, ha, rfl⟩
  refine ⟨htakes, fun ⟨hside, htime, hcounters, hchecksum⟩ => ?_⟩
  have hreadable : ∀ f ∈ fields, ∀ p : Gathered, ∃ q, p.read f.1 f.2 = .ok q := by
    rintro ⟨key, value⟩ hf p
    simp only [Gathered.read]
    split
    · next hkey =>
      obtain ⟨a, ha, -⟩ := hside.exists_read hfields (hkey ▸ hf)
      exact ⟨_, Json.bind_eq_ok.2 ⟨a, ha, rfl⟩⟩
    split
    · next hkey =>
      obtain ⟨a, ha, -⟩ := htime.exists_read hfields (hkey ▸ hf)
      exact ⟨_, Json.bind_eq_ok.2 ⟨a, ha, rfl⟩⟩
    split
    · next hkey =>
      obtain ⟨a, ha, -⟩ := hcounters.exists_read hfields (hkey ▸ hf)
      exact ⟨_, Json.bind_eq_ok.2 ⟨a, ha, rfl⟩⟩
    split
    · next hkey =>
      obtain ⟨a, ha, -⟩ := hchecksum.exists_read hfields (hkey ▸ hf)
      exact ⟨_, Json.bind_eq_ok.2 ⟨a, ha, rfl⟩⟩
    · exact ⟨p, rfl⟩
  obtain ⟨q', hfold⟩ := Json.exists_foldlM hreadable p
  obtain ⟨hside', htime', hcounters', hchecksum'⟩ := htakes hfold
  have hq : q' = q := by
    cases q
    rw [Gathered.mk.injEq]
    exact ⟨hside'.unique hside, htime'.unique htime, hcounters'.unique hcounters,
      hchecksum'.unique hchecksum⟩
  rw [hfold, hq]

/-- **The contents that are accepted.** -/
theorem Envelope.ofFields_eq_ok {fields : List (String × Json)}
    (hjson : (Json.object fields).WellFormed) {e : Envelope} :
    Envelope.ofFields fields = .ok e ↔ Envelope.Spelled fields e := by
  obtain ⟨hfields, hvalues⟩ : Json.Sorted fields ∧ ∀ f ∈ fields, f.2.WellFormed := by
    cases hjson with
    | object hfields hvalues => exact ⟨hfields, hvalues⟩
  have hside : ∀ side, Json.Takes "side" Side.ofJson fields none (some side) ↔
      Json.FieldHas fields "side" (Side.Spelled · side) :=
    fun side => Json.takes_iff_fieldHas fun _ _ => Side.ofJson_eq_ok
  have htime : ∀ t, Json.Takes "updated_at" Timestamp.ofJson fields none (some t) ↔
      Json.FieldHas fields "updated_at" (Timestamp.Spelled · t) :=
    fun t => Json.takes_iff_fieldHas fun _ _ => Timestamp.ofJson_eq_ok
  have hcounters : ∀ m, Json.Takes "counters" countersOfJson fields none (some m) ↔
      Json.FieldHas fields "counters" (CountersSpelled · m) :=
    fun m => Json.takes_iff_fieldHas fun _ hv => countersOfJson_eq_ok (hvalues _ hv)
  have hchecksum : ∀ text, Json.Takes "checksum" Json.asString fields none (some text) ↔
      Json.FieldHas fields "checksum" (· = .string text) :=
    fun text => Json.takes_iff_fieldHas fun _ _ => Json.asString_eq_ok
  simp only [Envelope.ofFields, Json.bind_eq_ok, foldlM_read_eq_ok hfields, Json.required_eq_ok]
  constructor
  · rintro ⟨⟨_, _, _, _⟩, ⟨h₁, h₂, h₃, h₄⟩, _, rfl, _, rfl, _, rfl, _, rfl, ⟨⟩⟩
    exact ⟨(hside _).1 h₁, (htime _).1 h₂, (hcounters _).1 h₃, (hchecksum _).1 h₄⟩
  · rintro ⟨h₁, h₂, h₃, h₄⟩
    exact ⟨⟨some e.side, some e.updatedAt, some e.counters, some e.checksum⟩,
      ⟨(hside _).2 h₁, (htime _).2 h₂, (hcounters _).2 h₃, (hchecksum _).2 h₄⟩,
      _, rfl, _, rfl, _, rfl, _, rfl, rfl⟩

end Snapshot
end RollupFees
