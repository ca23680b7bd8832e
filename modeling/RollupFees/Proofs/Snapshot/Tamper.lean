import RollupFees.Proofs.Snapshot.Acceptance

/-!
# Tampering shows

The checksum of a snapshot is the hash of a text from which the counters can be read back, so two
different maps of counters have different texts. A file that still carries the checksum of a
committed snapshot is therefore refused, or it holds the counters that were committed, or its
counters and the committed ones are a collision of the hash. It does not help to spell the counters
in another way: the text that is hashed again is that of the counters that were read.

Nothing is assumed of the hash. A hash of thirty-two bytes has collisions, so "there are none" could
only be assumed in vain; which collision a forged file would have to contain is stated instead.

## Main definitions

* `Snapshot.countersText` : the text that the checksum is taken of
* `Snapshot.Carries` : a file carries a checksum
* `Keccak.Collide` : two texts are a collision of the hash

## Main results

* `Snapshot.countersText_injective` : the text determines the counters
* `tampering_shows` : what becomes of a file that keeps the checksum of a committed snapshot
-/

namespace RollupFees

/-- Two texts are a collision of the hash. -/
def Keccak.Collide (a b : String) : Prop := a ≠ b ∧ keccak256Text a = keccak256Text b

/-! ### Hashes as texts -/

theorem Hex.digit_injective {a b : Nat} (ha : a < 16) (hb : b < 16) (h : digit a = digit b) :
    a = b := by
  have hdigits : ∀ x y : Fin 16, digit x = digit y → x = y := by decide
  exact congrArg Fin.val (hdigits ⟨a, ha⟩ ⟨b, hb⟩ h)

/-- So many digits tell a number up to that width. -/
theorem Hex.mod_eq_of_digits_eq {width n m : Nat} (h : digits n width = digits m width) :
    n % 16 ^ width = m % 16 ^ width := by
  induction width generalizing n m with
  | zero => simp [Nat.mod_one]
  | succ width ih =>
    obtain ⟨hhigh, hlow⟩ := List.append_inj' h rfl
    have hquotient : n / 16 % 16 ^ width = m / 16 % 16 ^ width := ih hhigh
    have hrest : n % 16 = m % 16 :=
      digit_injective (Nat.mod_lt _ (by decide)) (Nat.mod_lt _ (by decide)) (by simpa using hlow)
    rw [Nat.pow_succ', Nat.mod_mul, Nat.mod_mul, hquotient, hrest]

theorem Hash.text_injective {a b : Hash} (h : a.text = b.text) : a = b := by
  have hpadded : Hex.padded 64 a.toNat = Hex.padded 64 b.toNat := by
    have hchars := congrArg String.toList h
    simp only [Hash.text, String.toList_append, List.append_cancel_left_eq] at hchars
    exact String.toList_inj.1 hchars
  have hdigits : Hex.digits a.toNat 64 = Hex.digits b.toNat 64 := String.ofList_injective hpadded
  have hmod := Hex.mod_eq_of_digits_eq hdigits
  have hwidth : (16 : Nat) ^ 64 = 2 ^ 256 := by decide
  rw [hwidth, Nat.mod_eq_of_lt a.lt, Nat.mod_eq_of_lt b.lt] at hmod
  cases a
  cases b
  simpa using hmod

/-! ### The text that is hashed -/

namespace Snapshot

/-- The text that the checksum of counters is taken of. -/
def countersText (m : CounterMap CounterState) : String := (countersToJson m).compact

theorem checksum_eq (m : CounterMap CounterState) :
    checksum m = (keccak256Text (countersText m)).text := rfl

theorem parse?_countersText (m : CounterMap CounterState) :
    Json.parse? (countersText m) = some (Json.canonical (countersToJson m)) := by
  have hdepth : Json.height (countersToJson m) ≤ Json.Reader.maxDepth :=
    (height_countersToJson m).trans (by decide)
  exact Json.parse?_render (plain_countersToJson m) hdepth .compact

/-- **The text determines the counters.** They can be read back from it. -/
theorem countersText_injective : Function.Injective countersText := by
  intro m m' h
  have hparse : Json.canonical (countersToJson m) = Json.canonical (countersToJson m') := by
    refine Option.some.inj ?_
    rw [← parse?_countersText, ← parse?_countersText, h]
  have hread := (countersOfJson_canonical m).symm.trans
    ((congrArg countersOfJson hparse).trans (countersOfJson_canonical m'))
  exact Except.ok.inj hread

/-- Counters with the same checksum are the same, or their texts are a collision. -/
theorem eq_or_collide_of_checksum_eq {m m' : CounterMap CounterState}
    (h : checksum m = checksum m') :
    m = m' ∨ Keccak.Collide (countersText m) (countersText m') := by
  by_cases hsame : m = m'
  · exact .inl hsame
  · have hhash : keccak256Text (countersText m) = keccak256Text (countersText m') := by
      rw [checksum_eq, checksum_eq] at h
      exact Hash.text_injective h
    exact .inr ⟨fun htext => hsame (countersText_injective htext), hhash⟩

/-! ### Files that carry a checksum -/

/-- A file is a JSON object with this text as its checksum. -/
def Carries (bytes : ByteArray) (sum : String) : Prop :=
  ∃ fields, Json.parseBytes? bytes = some (.object fields) ∧
    Json.lookup "checksum" fields = some (.string sum)

variable {bytes : ByteArray} {sum sum' : String} {side : Side}

theorem Carries.unique (h : Carries bytes sum) (h' : Carries bytes sum') : sum = sum' := by
  obtain ⟨fields, hparse, hsum⟩ := h
  obtain ⟨fields', hparse', hsum'⟩ := h'
  obtain rfl := Json.object.inj (Option.some.inj (hparse.symm.trans hparse'))
  exact Json.string.inj (Option.some.inj (hsum.symm.trans hsum'))

/-- A written snapshot carries the checksum of its counters. -/
theorem carries_encode (s : Snapshot) : Carries s.encode.toUTF8 (checksum s.counters) := by
  refine ⟨_, (parseBytes?_encode s).trans (congrArg some (canonical_toJson s)), ?_⟩
  simp [Json.lookup]

/-- A file that holds a snapshot carries the checksum of its counters and no other. -/
theorem HeldBy.checksum_eq_of_carries {t : Snapshot} (h : HeldBy bytes side t)
    (hsum : Carries bytes sum) : checksum t.counters = sum := by
  obtain ⟨fields, e, hparse, -, hspelled, -, -, hchecksum, rfl⟩ := h
  obtain ⟨_, hlookup, rfl⟩ := hspelled.checksum
  have hcarries : Carries bytes e.checksum := ⟨fields, hparse, hlookup⟩
  exact hchecksum.symm.trans (hcarries.unique hsum)

end Snapshot

/-! ### Loading what has been edited -/

/-- **No edit of the counters is accepted under the old checksum.** The text that is hashed
determines the counters. Once a snapshot has been committed its file carries the checksum of its
counters, and loads if these are of its side. Whatever stands in that file later, as long as it
carries that checksum, is refused or loads as the counters that were committed, unless its counters
and those are a collision of the hash. -/
theorem tampering_shows (store : SnapshotStore) {d d' : Disk} {s : Snapshot}
    (hcommit : (SnapshotStore.commit s).run Disk.honest d = (.ok (), d')) :
    Function.Injective Snapshot.countersText ∧
      ∃ written, d'.read (.snapshot s.side) = .ok (some written) ∧
        Snapshot.Carries written (Snapshot.checksum s.counters) ∧
        (s.IsLoadable → store.contents d' s.side = .ok (some s)) ∧
        ∀ {φ : Type} (files : Answerer FileRequest.Reply φ) (v : φ) (bytes : ByteArray),
          (files.answer (.read (.snapshot s.side)) v).1 = .ok (some bytes) →
          Snapshot.Carries bytes (Snapshot.checksum s.counters) →
          let loaded := ((store.load s.side).run files v).1
          (∃ e, loaded = .error e) ∨
            ∃ t, loaded = .ok (some t) ∧
              (t.counters = s.counters ∨
                Keccak.Collide (Snapshot.countersText t.counters)
                  (Snapshot.countersText s.counters)) := by
  have hwritten := SnapshotStore.read_of_commit_ok hcommit
  refine ⟨Snapshot.countersText_injective, _, hwritten, Snapshot.carries_encode s, ?_, ?_⟩
  · intro hs
    rw [SnapshotStore.contents, hwritten]
    exact SnapshotStore.interpret_of_ok (Snapshot.decode_encode hs)
  intro φ files v bytes hfile hcarries loaded
  have hloaded : loaded = store.interpret s.side (.ok (some bytes)) := by
    rw [← hfile]
    exact congrArg Prod.fst (store.load_run_eq s.side files v)
  rcases houtcome : store.interpret s.side (.ok (some bytes)) with e | _ | t
  · exact .inl ⟨e, hloaded.trans houtcome⟩
  · exact absurd houtcome store.interpret_ne_none
  · have hheld : Snapshot.HeldBy bytes s.side t := store.interpret_eq_ok.1 houtcome
    have hsum : Snapshot.checksum t.counters = Snapshot.checksum s.counters :=
      hheld.checksum_eq_of_carries hcarries
    exact .inr ⟨t, hloaded.trans houtcome, Snapshot.eq_or_collide_of_checksum_eq hsum⟩

/-- A later moment, with the same counters. -/
def Snapshot.redated : Snapshot :=
  { Snapshot.drained with updatedAt := { Timestamp.epoch with minute := 5 } }

/-- A file in which only the time has been changed carries the old checksum and loads, with the
counters that were committed. -/
theorem redated_loads :
    let store : SnapshotStore := ⟨"data"⟩
    (SnapshotStore.commit .drained).run Disk.honest .bare = (.ok (), Disk.bare.committed .drained) ∧
      Snapshot.Carries Snapshot.redated.encode.toUTF8
        (Snapshot.checksum Snapshot.drained.counters) ∧
      ∃ t, ((store.load .l1).run Disk.honest (Disk.bare.committed .redated)).1 = .ok (some t) ∧
        (t.counters = Snapshot.drained.counters ∨
          Keccak.Collide (Snapshot.countersText t.counters)
            (Snapshot.countersText Snapshot.drained.counters)) := by
  intro store
  have hcommit : (SnapshotStore.commit .drained).run Disk.honest .bare =
      (.ok (), Disk.bare.committed .drained) :=
    SnapshotStore.commit_run Disk.isUsable_bare .drained
  have hloadable : Snapshot.redated.IsLoadable :=
    ⟨by decide, { Timestamp.isValid_epoch with minute := by decide }⟩
  have hloaded : ((store.load Snapshot.drained.side).run Disk.honest
      (Disk.bare.committed .redated)).1 = .ok (some .redated) := by
    have hside : Snapshot.drained.side = Snapshot.redated.side := rfl
    rw [store.load_run, store.contents_committed Disk.isUsable_bare hloadable, if_pos hside]
  have hredated : (Disk.bare.committed .redated).read (.snapshot .l1) =
      .ok (some Snapshot.redated.encode.toUTF8) :=
    (Disk.isUsable_bare.read_committed .redated .l1).trans (if_pos rfl)
  have hcarries : Snapshot.Carries Snapshot.redated.encode.toUTF8
      (Snapshot.checksum Snapshot.drained.counters) := Snapshot.carries_encode .redated
  obtain ⟨-, written, -, -, -, hshows⟩ := tampering_shows store hcommit
  refine ⟨hcommit, hcarries, ?_⟩
  rcases hshows Disk.honest (Disk.bare.committed .redated) _ hredated hcarries with
    ⟨e, herror⟩ | ⟨t, hok, hcounters⟩
  · cases herror.symm.trans hloaded
  · exact ⟨t, hok, hcounters⟩

end RollupFees
