import RollupFees.Proofs.Json.Fields
import RollupFees.Proofs.Json.RoundTrip
import RollupFees.Proofs.Timestamp
import RollupFees.Snapshot.Encoding

/-!
# Snapshots written and read

A snapshot that holds only counters of its own side is read back from its file, whatever their
amounts. The fields of the file are read in the order of their keys, which is not the order in
which they are written; none of the readers minds.

## Main definitions

* `Snapshot.IsLoadable` : what a snapshot must satisfy to be read back
* `Snapshot.decode_encode` : the round trip
-/

namespace RollupFees

/-- What a snapshot must satisfy to be read back: its counters are of its own side, and it was taken
at a point in time. -/
structure Snapshot.IsLoadable (s : Snapshot) : Prop where
  own : s.isOwn = true
  time : s.updatedAt.IsValid

namespace Json

/-- The canonical form of fields with distinct keys has the same fields, each in its canonical
form. -/
theorem mem_canonicalFields {fields : List (String × Json)} :
    ∀ {done : List (String × Json)}, (fields.map Prod.fst).Nodup →
      (∀ f ∈ done, f.1 ∉ fields.map Prod.fst) → ∀ g, g ∈ canonicalFields fields done ↔
        g ∈ done ∨ ∃ f ∈ fields, g = (f.1, canonical f.2) := by
  induction fields with
  | nil =>
    intro done _ _ g
    simp [canonicalFields]
  | cons f rest ih =>
    obtain ⟨key, value⟩ := f
    intro done hnodup hdone g
    obtain ⟨hkey, hrest⟩ := List.nodup_cons.1 hnodup
    have hinserted : ∀ f, f ∈ insertField key (canonical value) done ↔
        f = (key, canonical value) ∨ f ∈ done := by
      intro f
      refine ⟨mem_insertField, ?_⟩
      rintro (rfl | h)
      · exact mem_insertField_self ..
      · refine mem_insertField_of_ne ?_ h
        rintro rfl
        exact hdone f h List.mem_cons_self
    rw [canonicalFields, ih hrest]
    · simp only [hinserted, List.mem_cons, exists_eq_or_imp, or_assoc]
      exact or_left_comm
    · intro f hf
      rcases (hinserted f).1 hf with rfl | h
      · exact hkey
      · exact fun hmem => hdone f h (List.mem_cons_of_mem _ hmem)

end Json

/-! ### Counters -/

/-- The entries of a map are listed in the order of the counters. -/
theorem CounterMap.map_fst_toList_sublist {α : Type} (m : CounterMap α) :
    (m.toList.map Prod.fst).Sublist Counter.all := by
  rw [toList]
  induction Counter.all with
  | nil => exact List.Sublist.refl _
  | cons c rest ih =>
    rw [List.filterMap_cons]
    cases m.get? c with
    | none => exact ih.cons c
    | some a => exact ih.cons_cons c

@[simp] theorem Amount.ofJson_text (a : Amount) : ofJson (.string a.text) = .ok a := by
  simp only [ofJson, Json.asString, bind, Except.bind, ofDigits?_text]

/-- The state of a counter is read back. -/
@[simp] theorem CounterState.ofJson_canonical (s : CounterState) :
    ofJson (Json.canonical s.toJson) = .ok s := by
  have hform : Json.canonical s.toJson = .object
      [("cumulative", .string s.cumulative.text), ("observed_balance", .string s.observed.text)] := by
    simp only [toJson, Json.canonical, Json.canonicalFields]
    rfl
  rw [hform]
  simp only [ofJson, List.foldlM_cons, List.foldlM_nil, Gathered.read, Amount.ofJson_text, bind,
    Except.bind, pure, Except.pure, Json.required]
  simp

namespace Snapshot

/-- One counter of a file. -/
def readCounter (m : CounterMap CounterState) (f : String × Json) :
    Except Json.Mismatch (CounterMap CounterState) := do
  let counter ← Counter.ofJson (.string f.1)
  let state ← CounterState.ofJson f.2
  .ok (m.set counter state)

theorem countersOfJson_object (fields : List (String × Json)) :
    countersOfJson (.object fields) = fields.foldlM readCounter CounterMap.empty := rfl

theorem readCounter_canonical (m : CounterMap CounterState) (c : Counter) (s : CounterState) :
    readCounter m (c.name, Json.canonical s.toJson) = .ok (m.set c s) := by
  have hcounter : Counter.ofJson (.string c.name) = .ok c := by
    simp [Counter.ofJson, Json.asChoice]
  simp only [readCounter, hcounter, CounterState.ofJson_canonical, bind, Except.bind]

/-- Fields that are entries of a map put these entries into another one. -/
theorem foldlM_readCounter {m : CounterMap CounterState} {fields : List (String × Json)}
    (h : ∀ f ∈ fields, ∃ c s, m.get? c = some s ∧ f = (c.name, Json.canonical s.toJson)) :
    ∀ start, ∃ final, fields.foldlM readCounter start = .ok final ∧
      ∀ c, final.get? c = if c.name ∈ fields.map Prod.fst then m.get? c else start.get? c := by
  induction fields with
  | nil => exact fun start => ⟨start, rfl, by simp⟩
  | cons f rest ih =>
    intro start
    obtain ⟨c, s, hc, rfl⟩ := h f List.mem_cons_self
    obtain ⟨final, hfold, hfinal⟩ :=
      ih (fun g hg => h g (List.mem_cons_of_mem _ hg)) (start.set c s)
    refine ⟨final, ?_, fun d => ?_⟩
    · rw [List.foldlM_cons, readCounter_canonical]
      exact hfold
    · rw [hfinal d, CounterMap.get?_set]
      by_cases hd : d = c
      · subst hd
        simp [hc]
      · have hname : d.name ≠ c.name := fun heq => hd (Counter.name_injective heq)
        have hmem : d.name ∈ c.name :: rest.map Prod.fst ↔ d.name ∈ rest.map Prod.fst := by
          simp only [List.mem_cons, hname, false_or]
        simp only [if_neg hd, List.map_cons, hmem]

/-- The names of counters in a file are distinct. -/
theorem nodup_counterNames (m : CounterMap CounterState) :
    ((m.toList.map fun e => (e.1.name, e.2.toJson)).map Prod.fst).Nodup := by
  have hnames : (Counter.all.map Counter.name).Nodup := by decide
  have hsub := (CounterMap.map_fst_toList_sublist m).map Counter.name
  rw [List.map_map] at hsub ⊢
  exact hnames.sublist hsub

/-- Counters are read back. -/
theorem countersOfJson_canonical (m : CounterMap CounterState) :
    countersOfJson (Json.canonical (countersToJson m)) = .ok m := by
  have hmem : ∀ f, f ∈ Json.canonicalFields (m.toList.map fun e => (e.1.name, e.2.toJson)) [] ↔
      ∃ c s, m.get? c = some s ∧ f = (c.name, Json.canonical s.toJson) := by
    intro f
    rw [Json.mem_canonicalFields (nodup_counterNames m) (by simp)]
    simp only [List.not_mem_nil, false_or]
    constructor
    · rintro ⟨_, hg, rfl⟩
      obtain ⟨⟨c, s⟩, hc, rfl⟩ := List.mem_map.1 hg
      exact ⟨c, s, CounterMap.mem_toList.1 hc, rfl⟩
    · rintro ⟨c, s, hc, rfl⟩
      exact ⟨_, List.mem_map.2 ⟨(c, s), CounterMap.mem_toList.2 hc, rfl⟩, rfl⟩
  obtain ⟨final, hfold, hfinal⟩ := foldlM_readCounter (fun f hf => (hmem f).1 hf) CounterMap.empty
  rw [countersToJson, Json.canonical, countersOfJson_object, hfold]
  refine congrArg Except.ok (CounterMap.ext fun c => ?_)
  rw [hfinal c, CounterMap.get?_empty]
  split
  · rfl
  · next hnot =>
    cases hc : m.get? c with
    | none => rfl
    | some s =>
      exact absurd (List.mem_map.2 ⟨_, (hmem _).2 ⟨c, s, hc, rfl⟩, rfl⟩) hnot

/-! ### The whole file -/

/-- The value of a file in its canonical form. -/
theorem canonical_toJson (s : Snapshot) : Json.canonical s.toJson = .object
    [("checksum", .string (checksum s.counters)),
      ("counters", Json.canonical (countersToJson s.counters)), ("side", .string s.side.name),
      ("updated_at", .string s.updatedAt.text), ("version", .int 1)] := by
  simp only [toJson, Json.canonical, Json.canonicalFields]
  rfl

theorem plain_countersToJson (m : CounterMap CounterState) : Json.Plain (countersToJson m) := by
  have hstate : ∀ c : CounterState, Json.Plain c.toJson := by
    intro c
    refine .object ?_
    simp only [List.mem_cons, List.not_mem_nil, or_false]
    rintro f (rfl | rfl) <;> exact .string _
  refine .object ?_
  simp only [List.mem_map]
  intro f hf
  obtain ⟨e, -, rfl⟩ := hf
  exact hstate e.2

theorem height_countersToJson (m : CounterMap CounterState) :
    Json.height (countersToJson m) ≤ 2 := by
  have hfields : Json.fieldsHeight (m.toList.map fun e => (e.1.name, e.2.toJson)) ≤ 1 := by
    induction m.toList with
    | nil => exact Nat.zero_le _
    | cons e rest ih =>
      rw [List.map_cons, Json.fieldsHeight]
      exact Nat.max_le.2 ⟨Nat.le_refl 1, ih⟩
  simp only [countersToJson, Json.height]
  omega

theorem plain_toJson (s : Snapshot) : Json.Plain s.toJson := by
  refine .object ?_
  simp only [List.mem_cons, List.not_mem_nil, or_false]
  rintro f (rfl | rfl | rfl | rfl | rfl)
  · exact .int 1 (by decide)
  · exact .string _
  · exact .string _
  · exact plain_countersToJson s.counters
  · exact .string _

theorem height_toJson (s : Snapshot) : Json.height s.toJson ≤ Json.Reader.maxDepth := by
  have hcounters := height_countersToJson s.counters
  simp only [toJson, Json.height, Json.fieldsHeight, Json.Reader.maxDepth]
  omega

/-- A file is parsed to the canonical form of its snapshot. -/
theorem parseBytes?_encode (s : Snapshot) :
    Json.parseBytes? s.encode.toUTF8 = some (Json.canonical s.toJson) := by
  rw [Json.parseBytes?_toUTF8]
  exact Json.parse?_render (plain_toJson s) (height_toJson s) .spread

/-- The fields of a file are read in the order of their keys. -/
theorem ofFields_canonical {s : Snapshot} (h : s.updatedAt.IsValid) :
    Envelope.ofFields
      [("checksum", .string (checksum s.counters)),
        ("counters", Json.canonical (countersToJson s.counters)), ("side", .string s.side.name),
        ("updated_at", .string s.updatedAt.text), ("version", .int 1)] =
      .ok ⟨s.side, s.updatedAt, s.counters, checksum s.counters⟩ := by
  have hside : Side.ofJson (.string s.side.name) = .ok s.side := by
    simp [Side.ofJson, Json.asChoice]
  have htime : Timestamp.ofJson (.string s.updatedAt.text) = .ok s.updatedAt := by
    simp only [Timestamp.ofJson, Timestamp.parse_text h]
  simp only [Envelope.ofFields, List.foldlM_cons, List.foldlM_nil, Gathered.read, Json.asString,
    countersOfJson_canonical, hside, htime, bind, Except.bind, pure, Except.pure, Json.required]
  simp

/-- The file of a snapshot is refused for a counter of the other side, or read back. -/
theorem decode_encode_eq {s : Snapshot} (h : s.updatedAt.IsValid) :
    decode s.side s.encode.toUTF8 =
      match s.counters.toList.find? fun x => x.1.side ≠ s.side with
      | some stray => .error (.strayCounter stray.1)
      | none => .ok s := by
  have hversion : version? (Json.canonical s.toJson) = some version := by
    simp [canonical_toJson, version?, Json.field?, Json.lookup, version]
  have hcheck : (⟨s.side, s.updatedAt, s.counters, checksum s.counters⟩ : Envelope).check s.side =
      match s.counters.toList.find? fun x => x.1.side ≠ s.side with
      | some stray => .error (.strayCounter stray.1)
      | none => .ok s := by
    rw [Envelope.check, if_neg (by simp)]
    cases s.counters.toList.find? fun x => x.1.side ≠ s.side with
    | some stray => rfl
    | none => exact if_pos rfl
  rw [decode, parseBytes?_encode]
  simp only [ofJson, hversion]
  rw [if_neg (by simp), canonical_toJson]
  simp only [ofFields_canonical h]
  exact hcheck

/-- **The round trip.** A loadable snapshot is read back from its file. -/
theorem decode_encode {s : Snapshot} (h : s.IsLoadable) :
    decode s.side s.encode.toUTF8 = .ok s := by
  have hstray : (s.counters.toList.find? fun x => x.1.side ≠ s.side) = none := by
    rw [List.find?_eq_none]
    have hown := h.own
    rw [isOwn, List.all_eq_true] at hown
    intro e he
    simpa using hown e he
  rw [decode_encode_eq h.time, hstray]

/-- A snapshot with counters of the other side is refused for one of them. -/
theorem decode_encode_of_stray {s : Snapshot} (h : s.updatedAt.IsValid) (hown : s.isOwn = false) :
    ∃ c, (s.counters.get? c).isSome ∧ c.side ≠ s.side ∧
      decode s.side s.encode.toUTF8 = .error (.strayCounter c) := by
  rw [decode_encode_eq h]
  cases hfind : s.counters.toList.find? fun x => x.1.side ≠ s.side with
  | none =>
    have hall : s.isOwn = true := by simpa [isOwn, List.find?_eq_none] using hfind
    cases hown.symm.trans hall
  | some stray =>
    have hmem := CounterMap.mem_toList.1 (List.mem_of_find?_eq_some hfind)
    have hside := List.find?_some hfind
    exact ⟨stray.1, by simp [hmem], by simpa using hside, rfl⟩

end Snapshot

end RollupFees
