import RollupFees.Proofs.Dated
import RollupFees.Proofs.Ledger.Commits
import RollupFees.Proofs.Snapshot.Readers

/-!
# Which files are accepted

A file is accepted exactly if it holds a snapshot of the side that it is read as: a JSON object of
the known version with the four parts of a snapshot, the right side, counters of that side only, and
the checksum of these counters. An object of another version is reported as such, whatever else it
holds, and every other file as corrupt; none is taken for a side without history. A service whose
history cannot be loaded does not start, and asks for nothing more.

## Main definitions

* `Snapshot.HeldBy` : a file holds a snapshot of a side
* `Snapshot.Versioned` : a file is of a version

## Main results

* `loads_exactly_held` : what is loaded from a file, and what becomes of a start
-/

namespace RollupFees

namespace Snapshot

/-- A file holds a snapshot of a side. -/
def HeldBy (bytes : ByteArray) (side : Side) (s : Snapshot) : Prop :=
  ∃ fields e, Json.parseBytes? bytes = some (.object fields) ∧
    Json.lookup "version" fields = some (.int 1) ∧ Envelope.Spelled fields e ∧ e.side = side ∧
      (∀ c state, e.counters.get? c = some state → c.side = side) ∧
      e.checksum = (keccak256Text (countersToJson e.counters).compact).text ∧
      s = ⟨e.side, e.counters, e.updatedAt⟩

/-- A file is a JSON object whose version is a natural number that fits in 64 bits. -/
def Versioned (bytes : ByteArray) (n : Nat) : Prop :=
  ∃ fields, Json.parseBytes? bytes = some (.object fields) ∧
    Json.lookup "version" fields = some (.int n) ∧ n < 2 ^ 64

variable {bytes : ByteArray} {side : Side} {s : Snapshot} {json : Json} {n : Nat}

/-- The version of a value is a whole number in its field. -/
theorem version?_eq_some (hjson : json.WellFormed) :
    version? json = some n ↔ ∃ fields, json = .object fields ∧
      Json.lookup "version" fields = some (.int n) ∧ n < 2 ^ 64 := by
  constructor
  · intro h
    unfold version? at h
    split at h
    · next k hfield =>
      cases hjson with
      | @object fields _ hvalues =>
        have hversion : Json.lookup "version" fields = some (.int k) := hfield
        obtain @⟨_, -, hupper⟩ := hvalues _ (Json.mem_of_lookup hversion)
        split at h
        · next hnonneg =>
          obtain rfl := Option.some.inj h
          have hk : ((k.toNat : ℕ) : ℤ) = k := Int.toNat_of_nonneg hnonneg
          exact ⟨fields, rfl, by rw [hk]; exact hversion, by omega⟩
        · cases h
      | _ => cases hfield
    · cases h
  · rintro ⟨fields, rfl, hversion, -⟩
    simp [version?, Json.field?, hversion]

theorem Envelope.check_eq_ok {e : Envelope} :
    e.check side = .ok s ↔ e.side = side ∧
      (∀ c state, e.counters.get? c = some state → c.side = side) ∧
      e.checksum = Snapshot.checksum e.counters ∧ s = ⟨e.side, e.counters, e.updatedAt⟩ := by
  have hown : (e.counters.toList.find? fun x => x.1.side ≠ side) = none ↔
      ∀ c state, e.counters.get? c = some state → c.side = side := by
    simp [List.find?_eq_none, CounterMap.mem_toList]
  rw [← hown, Envelope.check]
  split
  · next hside => simp [hside]
  · next hside =>
    obtain rfl : e.side = side := by simpa using hside
    split
    · next hstray =>
      rw [hstray]
      simp
    · next hnone =>
      rw [hnone]
      split
      · next hsum => simp [hsum, eq_comm]
      · next hsum => simp [Ne.symm hsum]

theorem Envelope.check_ne_otherVersion {e : Envelope} :
    e.check side ≠ .error (.otherVersion n) := by
  unfold Envelope.check
  split
  · nofun
  · split
    · nofun
    · split <;> nofun

/-- A snapshot is read from a file exactly if the file holds it. -/
theorem decode_eq_ok : decode side bytes = .ok s ↔ HeldBy bytes side s := by
  rw [decode]
  cases hparse : Json.parseBytes? bytes with
  | none => simp [HeldBy, hparse]
  | some json =>
    have hjson := Json.wellFormed_of_parseBytes? hparse
    simp only [HeldBy, hparse, Option.some.injEq]
    constructor
    · intro h
      unfold ofJson at h
      split at h
      · cases h
      · next found hversion =>
        split at h
        · cases h
        · next hfound =>
          -- only now are the other parts looked at
          obtain rfl : found = 1 := by simpa [version] using hfound
          obtain ⟨fields, rfl, hone, -⟩ := (version?_eq_some hjson).1 hversion
          dsimp only at h
          split at h
          · cases h
          · next e he =>
            obtain ⟨hside, hown, hsum, hs⟩ := Envelope.check_eq_ok.1 h
            exact ⟨fields, e, rfl, hone, (Envelope.ofFields_eq_ok hjson).1 he, hside, hown, hsum, hs⟩
    · rintro ⟨fields, e, rfl, hone, hspelled, hside, hown, hsum, hs⟩
      have hversion : version? (.object fields) = some 1 :=
        (version?_eq_some hjson).2 ⟨fields, rfl, hone, by decide⟩
      simp only [ofJson, hversion, (Envelope.ofFields_eq_ok hjson).2 hspelled]
      rw [if_neg (by decide)]
      exact Envelope.check_eq_ok.2 ⟨hside, hown, hsum, hs⟩

/-- A file is refused for its version exactly if it is of another one. -/
theorem decode_eq_otherVersion :
    decode side bytes = .error (.otherVersion n) ↔ Versioned bytes n ∧ n ≠ 1 := by
  rw [decode]
  cases hparse : Json.parseBytes? bytes with
  | none => simp [Versioned, hparse]
  | some json =>
    have hjson := Json.wellFormed_of_parseBytes? hparse
    have hversioned : Versioned bytes n ↔ version? json = some n := by
      simp only [Versioned, hparse, Option.some.injEq, version?_eq_some hjson]
    rw [hversioned]
    constructor
    · intro h
      dsimp only at h
      unfold ofJson at h
      split at h
      · cases h
      · next found hversion =>
        split at h
        · next hfound =>
          cases h
          exact ⟨hversion, hfound⟩
        · split at h
          · split at h
            · cases h
            · exact absurd h Envelope.check_ne_otherVersion
          · cases h
    · rintro ⟨hversion, hother⟩
      simp only [ofJson, hversion]
      exact if_pos hother

end Snapshot

/-! ### Starting -/

section Start

variable {σ : Type} {env : Answerer Query.Answer σ} {setup : Setup} {s : Service} {w : σ}
  {e : Failure}

/-- The service after an attempt to start it. If that fails it is what it was. -/
def Service.afterStart (env : Answerer Query.Answer σ) (setup : Setup) (s : Service) (w : σ) :
    Service :=
  match ((start setup s).outcome env w).1 with
  | .ok after => after
  | .error _ => s

/-- What is left of an attempt to start a service whose history cannot be loaded: the failure, the
billing that was there before, and no question but those for the history. -/
structure StartFails (env : Answerer Query.Answer σ) (setup : Setup) (s : Service) (w : σ)
    (e : Failure) : Prop where
  outcome : ((start setup s).outcome env w).1 = .error (.failed e)
  billing : (Service.afterStart env setup s w).billing = s.billing
  asked : ∀ x ∈ Dialogue.transcript env (start setup s).run w, ∃ side, x.question = .load side

/-- A load that fails ends what it was part of, and one that succeeds is followed by the rest. -/
theorem load_cases {β : Type} {side : Side} {f : Option Snapshot → Step β}
    {xs : List (Exchange Query.Answer)} {r : Except Stop β}
    (hpath : Step.Path (Step.need (Dialogue.question (Query.load side)) >>= f) xs r)
    (hgives : env.Gives xs w) :
    (∃ e, (env.answer (.load side) w).1 = .error e ∧ xs = [⟨.load side, .error e⟩] ∧
        r = .error (.failed e)) ∨
      ∃ kept ys, (env.answer (.load side) w).1 = .ok kept ∧ xs = ⟨.load side, .ok kept⟩ :: ys ∧
        env.Gives ys (env.answer (.load side) w).2 ∧ Step.Path (f kept) ys r := by
  rcases Step.path_need_bind.1 hpath with ⟨e, hload, rfl⟩ | ⟨_, ys, kept, rfl, hload, hrest⟩
  · obtain rfl := Dialogue.path_question.1 hload
    exact .inl ⟨e, (Answerer.gives_cons.1 hgives).1.symm, rfl, rfl⟩
  · obtain rfl := Dialogue.path_question.1 hload
    obtain ⟨hanswer, hlater⟩ := Answerer.gives_cons.1 hgives
    exact .inr ⟨kept, ys, hanswer.symm, rfl, hlater, hrest⟩

/-- A start fails with the first side that cannot be loaded. -/
theorem startFails (h : (env.answer (.load .l1) w).1 = .error e ∨
    (∃ kept, (env.answer (.load .l1) w).1 = .ok kept) ∧
      (env.answer (.load .l2) (env.answer (.load .l1) w).2).1 = .error e) :
    StartFails env setup s w e := by
  obtain ⟨houtcome, hasked⟩ : ((start setup s).outcome env w).1 = .error (.failed e) ∧
      ∀ x ∈ Dialogue.transcript env (start setup s).run w, ∃ side, x.question = .load side := by
    have hpath : Step.Path (start setup s) (Dialogue.transcript env (start setup s).run w)
      ((start setup s).outcome env w).1 := Dialogue.path_run env (start setup s).run w
    have hgives := Dialogue.gives_transcript env (start setup s).run w
    generalize Dialogue.transcript env (start setup s).run w = xs at hpath hgives ⊢
    generalize ((start setup s).outcome env w).1 = r at hpath ⊢
    rcases load_cases hpath hgives with
      ⟨e₁, h₁, rfl, rfl⟩ | ⟨kept, _, h₁, rfl, hgives₂, hpath₂⟩
    · rcases h with h | ⟨⟨kept, h⟩, -⟩
      · obtain rfl := Except.error.inj (h₁.symm.trans h)
        simp
      · cases h₁.symm.trans h
    · rcases h with h | ⟨-, h⟩
      · cases h₁.symm.trans h
      · rcases load_cases hpath₂ hgives₂ with ⟨e₂, h₂, rfl, rfl⟩ | ⟨_, _, h₂, -⟩
        · obtain rfl := Except.error.inj (h₂.symm.trans h)
          simp
        · cases h₂.symm.trans h
  refine ⟨houtcome, ?_, hasked⟩
  rw [Service.afterStart, houtcome]

end Start

/-! ### Loading -/

namespace SnapshotStore

variable {store : SnapshotStore} {side : Side} {bytes : ByteArray}

theorem interpret_of_ok {s : Snapshot} (h : Snapshot.decode side bytes = .ok s) :
    store.interpret side (.ok (some bytes)) = .ok (some s) := by
  simp only [interpret, h]

theorem interpret_of_error {fault : Snapshot.Fault} (h : Snapshot.decode side bytes = .error fault) :
    store.interpret side (.ok (some bytes)) = .error (store.failure side fault) := by
  simp only [interpret, h]

/-- A fault is reported as one of the version, or as a corrupt file. -/
theorem failure_cases (store : SnapshotStore) (side : Side) (fault : Snapshot.Fault) :
    (∃ n, fault = .otherVersion n ∧ store.failure side fault =
      .snapshotVersion (store.path side) (min n (2 ^ 32 - 1)) Snapshot.version) ∨
    (∀ n, fault ≠ .otherVersion n) ∧
      store.failure side fault = .corruptSnapshot (store.path side) fault.message := by
  cases fault with
  | otherVersion n => exact .inl ⟨n, rfl, rfl⟩
  | _ => exact .inr ⟨nofun, rfl⟩

theorem interpret_eq_ok {s : Snapshot} :
    store.interpret side (.ok (some bytes)) = .ok (some s) ↔ Snapshot.HeldBy bytes side s := by
  rw [← Snapshot.decode_eq_ok]
  constructor
  · intro h
    cases hdecode : Snapshot.decode side bytes with
    | error fault => cases (interpret_of_error hdecode).symm.trans h
    | ok t =>
      obtain rfl := Option.some.inj (Except.ok.inj ((interpret_of_ok hdecode).symm.trans h))
      rfl
  · exact interpret_of_ok

theorem interpret_eq_snapshotVersion {found : Nat} :
    store.interpret side (.ok (some bytes)) =
        .error (.snapshotVersion (store.path side) found 1) ↔
      ∃ n, Snapshot.Versioned bytes n ∧ n ≠ 1 ∧ found = min n (2 ^ 32 - 1) := by
  constructor
  · intro h
    cases hdecode : Snapshot.decode side bytes with
    | ok s => cases (interpret_of_ok hdecode).symm.trans h
    | error fault =>
      have herror := Except.error.inj ((interpret_of_error hdecode).symm.trans h)
      rcases store.failure_cases side fault with ⟨n, rfl, hfailure⟩ | ⟨-, hfailure⟩
      · obtain ⟨hversioned, hother⟩ := Snapshot.decode_eq_otherVersion.1 hdecode
        obtain ⟨-, hfound, -⟩ := Failure.snapshotVersion.inj (hfailure.symm.trans herror)
        exact ⟨n, hversioned, hother, hfound.symm⟩
      · cases hfailure.symm.trans herror
  · rintro ⟨n, hversioned, hother, rfl⟩
    exact interpret_of_error (Snapshot.decode_eq_otherVersion.2 ⟨hversioned, hother⟩)

theorem interpret_eq_corruptSnapshot :
    (∃ reason, store.interpret side (.ok (some bytes)) =
        .error (.corruptSnapshot (store.path side) reason)) ↔
      (∀ s, ¬ Snapshot.HeldBy bytes side s) ∧ ∀ n, Snapshot.Versioned bytes n → n = 1 := by
  cases hdecode : Snapshot.decode side bytes with
  | ok s =>
    have hheld : Snapshot.HeldBy bytes side s := Snapshot.decode_eq_ok.1 hdecode
    simp only [interpret_of_ok hdecode, reduceCtorEq, exists_false, false_iff]
    exact fun h => h.1 s hheld
  | error fault =>
    have hnone : ∀ s, ¬ Snapshot.HeldBy bytes side s := fun s hheld => by
      cases hdecode.symm.trans (Snapshot.decode_eq_ok.2 hheld)
    rw [interpret_of_error hdecode]
    rcases store.failure_cases side fault with ⟨n, rfl, hfailure⟩ | ⟨hfault, hfailure⟩
    · obtain ⟨hversioned, hother⟩ := Snapshot.decode_eq_otherVersion.1 hdecode
      simp only [hfailure, Except.error.injEq, reduceCtorEq, exists_false, false_iff]
      exact fun h => hother (h.2 n hversioned)
    · refine iff_of_true ⟨_, congrArg Except.error hfailure⟩ ⟨hnone, fun n hversioned => ?_⟩
      by_contra hother
      have hversion : Snapshot.decode side bytes = .error (.otherVersion n) :=
        Snapshot.decode_eq_otherVersion.2 ⟨hversioned, hother⟩
      exact hfault n (Except.error.inj (hdecode.symm.trans hversion))

theorem interpret_ne_none : store.interpret side (.ok (some bytes)) ≠ .ok none := by
  cases hdecode : Snapshot.decode side bytes with
  | ok s => simp [interpret_of_ok hdecode]
  | error fault => simp [interpret_of_error hdecode]

end SnapshotStore

/-- **Exactly the files that hold a snapshot are loaded.** From a file that exists a snapshot is
loaded if and only if the file holds it; it is refused for its version if and only if it is of
another one, and as corrupt in every other case. It is never taken for a missing one; and a service
that cannot load its history does not start, with its billing as it was. -/
theorem loads_exactly_held {φ σ : Type} (store : SnapshotStore) (side : Side)
    (files : Answerer FileRequest.Reply φ) (v : φ) {bytes : ByteArray}
    (hfile : (files.answer (.read (.snapshot side)) v).1 = .ok (some bytes))
    (env : Answerer Query.Answer σ) (setup : Setup) (service : Service) (w : σ) :
    let loaded := ((store.load side).run files v).1
    (∀ s, loaded = .ok (some s) ↔ Snapshot.HeldBy bytes side s) ∧
      (∀ found, loaded = .error (.snapshotVersion (store.path side) found 1) ↔
        ∃ n, Snapshot.Versioned bytes n ∧ n ≠ 1 ∧ found = min n (2 ^ 32 - 1)) ∧
      ((∃ reason, loaded = .error (.corruptSnapshot (store.path side) reason)) ↔
        (∀ s, ¬ Snapshot.HeldBy bytes side s) ∧ ∀ n, Snapshot.Versioned bytes n → n = 1) ∧
      loaded ≠ .ok none ∧
      ∀ e, ((env.answer (.load .l1) w).1 = .error e ∨
          (∃ kept, (env.answer (.load .l1) w).1 = .ok kept) ∧
            (env.answer (.load .l2) (env.answer (.load .l1) w).2).1 = .error e) →
        StartFails env setup service w e := by
  intro loaded
  have hloaded : loaded = store.interpret side (.ok (some bytes)) := by
    change ((store.load side).run files v).1 = _
    rw [SnapshotStore.load, Dialogue.run_bind, Dialogue.run_question, hfile]
    rfl
  refine ⟨fun s => ?_, fun found => ?_, ?_, ?_, fun e h => startFails h⟩
  all_goals rw [hloaded]
  · exact store.interpret_eq_ok
  · exact store.interpret_eq_snapshotVersion
  · exact store.interpret_eq_corruptSnapshot
  · exact store.interpret_ne_none

/-- A first side that has spent three of a hundred. -/
def Snapshot.drained : Snapshot where
  side := .l1
  counters := CounterMap.empty.set .sequencer ⟨Amount.clamp 97, Amount.clamp 3⟩
  updatedAt := Timestamp.epoch

/-- A disk on which the first side is kept, and the file of the second one is empty. -/
def Disk.halfLost : Disk :=
  (Disk.bare.committed .drained).put (.snapshot .l2) (some (.file .empty))

/-- Surroundings that have a disk and nothing else. -/
def SnapshotStore.alone (store : SnapshotStore) : Answerer Query.Answer Disk where
  answer
    | .load side, d => (store.load side).run Disk.honest d
    | q, d => (q.refused, d)

/-- The side that is kept is loaded, and the empty file of the other one keeps the service from
starting. -/
theorem loads_halfLost :
    let store : SnapshotStore := ⟨"data"⟩
    let d := Disk.halfLost
    (Disk.honest.answer (.read (.snapshot .l1)) d).1 =
        .ok (some Snapshot.drained.encode.toUTF8) ∧
      ((store.load .l1).run Disk.honest d).1 = .ok (some .drained) ∧
      StartFails store.alone Setup.plain Service.fresh d
        (.corruptSnapshot (store.path .l2) Snapshot.Fault.syntaxError.message) := by
  intro store d
  have hfile : (Disk.honest.answer (.read (.snapshot .l1)) d).1 =
      .ok (some Snapshot.drained.encode.toUTF8) := by
    simp [d, Disk.halfLost, Disk.honest, Disk.answer, Disk.read, Disk.put, Disk.committed,
      Snapshot.drained]
  obtain ⟨hok, -, -, -, hstart⟩ := loads_exactly_held store .l1 Disk.honest d hfile store.alone
    Setup.plain Service.fresh d
  have hloadable : Snapshot.drained.IsLoadable := ⟨by decide, Timestamp.isValid_epoch⟩
  have hheld : Snapshot.HeldBy Snapshot.drained.encode.toUTF8 Snapshot.drained.side .drained :=
    Snapshot.decode_eq_ok.1 (Snapshot.decode_encode hloadable)
  have hloaded : ((store.load .l1).run Disk.honest d).1 = .ok (some .drained) :=
    (hok .drained).2 hheld
  have hempty : Snapshot.decode .l2 .empty = .error .syntaxError := rfl
  refine ⟨hfile, hloaded, hstart _ (.inr ⟨⟨_, hloaded⟩, ?_⟩)⟩
  exact SnapshotStore.interpret_of_error hempty

end RollupFees
