import RollupFees.Proofs.Ledger.Commits

/-!
# Surroundings in which the service can be restarted

What two runs of the service have in common is the course of things on the chains: the balances,
and which commits are refused. Everything else, the clock and the prices included, may be different
in each run. Snapshots are kept on a disk, which outlives the service.

## Main definitions

* `Course` : balances and refusals, as they come
* `Elsewhere` : everything that has nothing to do with the ledgers
* `surroundings` : both of them with a disk
* `Ledgers`, `Disk.Keeps`, `Billing.Shows` : counters of both sides, on a disk and in the billing
-/

namespace RollupFees

variable {κ ρ : Type}

/-- The course of things on the chains. A refusal makes a commit fail; how far things have come is
told by a state that only questions about the ledgers move on. -/
structure Course (κ : Type) where
  balance : Side → Address → κ → Except Failure Amount × κ
  tokenBalance : Address → Address → κ → Except Failure Amount × κ
  refusal : Side → κ → Option Failure × κ

/-- Everything else that the service meets. A commit that fails may leave litter on the disk, but
not in the snapshots, nor in the way of the next commit. -/
structure Elsewhere (ρ : Type) where
  others : Answerer Query.Answer ρ
  litter : ρ → Disk → Disk
  clock : ∀ r, Timestamp.IsValid (others.answer .now r).1
  isUsable_litter : ∀ r d, d.IsUsable → (litter r d).IsUsable
  read_litter : ∀ r d side, (litter r d).read (.snapshot side) = d.read (.snapshot side)

/-- How far things have come, with the disk. -/
structure Scene (κ ρ : Type) where
  course : κ
  disk : Disk
  rest : ρ

/-- The course of things, everything else, and a store on a disk. -/
def surroundings (store : SnapshotStore) (course : Course κ) (elsewhere : Elsewhere ρ) :
    Answerer Query.Answer (Scene κ ρ) where
  answer
    | .balance side account, s =>
      ((course.balance side account s.course).1,
        { s with course := (course.balance side account s.course).2 })
    | .tokenBalance token holder, s =>
      ((course.tokenBalance token holder s.course).1,
        { s with course := (course.tokenBalance token holder s.course).2 })
    | .load side, s =>
      (((store.load side).run Disk.honest s.disk).1,
        { s with disk := ((store.load side).run Disk.honest s.disk).2 })
    | .commit snapshot, s =>
      match course.refusal snapshot.side s.course with
      | (some failure, later) =>
        (.error failure, { s with course := later, disk := elsewhere.litter s.rest s.disk })
      | (none, later) =>
        (((SnapshotStore.commit snapshot).run Disk.honest s.disk).1,
          { s with
            course := later
            disk := ((SnapshotStore.commit snapshot).run Disk.honest s.disk).2 })
    | q, s =>
      ((elsewhere.others.answer q s.rest).1,
        { s with rest := (elsewhere.others.answer q s.rest).2 })

/-- Whether a question has nothing to do with the ledgers. -/
def Query.isElsewhere : Query → Bool
  | .balance .. | .tokenBalance .. | .load _ | .commit _ => false
  | _ => true

/-! ### Counters of both sides -/

/-- The counters of both sides, where there is a snapshot. -/
abbrev Ledgers := Side → Option (CounterMap CounterState)

/-- The counters after those of a side have been committed. -/
def Ledgers.put (l : Ledgers) (side : Side) (m : CounterMap CounterState) : Ledgers :=
  fun other => if other = side then some m else l other

/-- A billing shows the counters of both sides. -/
def Billing.Shows (b : Billing) (l : Ledgers) : Prop :=
  ∀ side, b.counters side = (l side).getD CounterMap.empty

/-- A disk keeps snapshots with the counters of both sides. -/
structure Disk.Keeps (store : SnapshotStore) (d : Disk) (l : Ledgers) : Prop where
  usable : d.IsUsable
  contents : ∀ side, ∃ kept, store.contents d side = .ok kept ∧ kept.map (·.counters) = l side
  own : ∀ side m, l side = some m → m.IsOf side

variable {store : SnapshotStore} {d : Disk} {l : Ledgers}

/-- A snapshot that is loaded has been read from a file. -/
theorem SnapshotStore.exists_decode_of_contents {side : Side} {s : Snapshot}
    (h : store.contents d side = .ok (some s)) :
    ∃ bytes, Snapshot.decode side bytes = .ok s := by
  simp only [contents, interpret] at h
  split at h
  · cases h
  · cases h
  · next bytes _ =>
    split at h
    · next found hfound =>
      obtain rfl := Option.some.inj (Except.ok.inj h)
      exact ⟨bytes, hfound⟩
    · cases h

/-- A disk whose snapshots can be loaded keeps the counters that are in them. -/
theorem Disk.exists_keeps (hd : d.IsUsable)
    (hload : ∀ side, ∃ kept, store.contents d side = .ok kept) : ∃ l, d.Keeps store l := by
  have hkept := fun side => (hload side).choose_spec
  refine ⟨fun side => (hload side).choose.map (·.counters), hd,
    fun side => ⟨_, hkept side, rfl⟩, ?_⟩
  intro side m hm
  obtain ⟨s, hs, rfl⟩ := Option.map_eq_some_iff.1 hm
  have hcontents := hkept side
  rw [hs] at hcontents
  obtain ⟨bytes, hbytes⟩ := store.exists_decode_of_contents hcontents
  exact (Snapshot.isOf_of_decode hbytes).2

/-- What a failed commit leaves behind changes nothing about the snapshots. -/
theorem Disk.Keeps.litter (h : d.Keeps store l) (elsewhere : Elsewhere ρ) (r : ρ) :
    (elsewhere.litter r d).Keeps store l where
  usable := elsewhere.isUsable_litter r d h.usable
  contents side := by
    rw [SnapshotStore.contents, elsewhere.read_litter]
    exact h.contents side
  own := h.own

/-- A commit changes the counters of its side. -/
theorem Disk.Keeps.committed (h : d.Keeps store l) {s : Snapshot} (hs : s.IsLoadable) :
    (d.committed s).Keeps store (l.put s.side s.counters) where
  usable := h.usable.committed s
  contents side := by
    rw [store.contents_committed h.usable hs side, Ledgers.put]
    by_cases hside : side = s.side
    · rw [if_pos hside, if_pos hside]
      exact ⟨some s, rfl, rfl⟩
    · rw [if_neg hside, if_neg hside]
      exact h.contents side
  own side m hm := by
    rw [Ledgers.put] at hm
    by_cases hside : side = s.side
    · rw [if_pos hside] at hm
      obtain rfl := Option.some.inj hm
      rw [hside]
      exact (Snapshot.isOwn_iff s).1 hs.own
    · rw [if_neg hside] at hm
      exact h.own side m hm

/-- What a billing shows of a side is of that side. -/
theorem Disk.Keeps.isOf (h : d.Keeps store l) (side : Side) :
    ((l side).getD CounterMap.empty).IsOf side := by
  cases hm : l side with
  | none => exact CounterMap.isOf_empty side
  | some m => exact h.own side m hm

/-- A billing that shows a committed reconciliation. -/
theorem Billing.Shows.apply {b : Billing} (h : b.Shows l) (u : LedgerUpdate) :
    (b.apply u).Shows (l.put u.snapshot.side u.snapshot.counters) := by
  intro side
  rw [Ledgers.put]
  by_cases hside : side = u.snapshot.side
  · rw [if_pos hside, hside, b.counters_apply_self]
    rfl
  · rw [if_neg hside, b.counters_apply_other u hside]
    exact h side

end RollupFees
