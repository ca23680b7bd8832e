import RollupFees.Proofs.Ledger.Conservation
import RollupFees.Proofs.Snapshot.Store

/-!
# What the service commits

A service that starts from snapshots which were read from files, and that has a clock, commits only
snapshots which can be read from files again. What carries this through a run is that the billing
never mixes the counters of its sides.

## Main definitions

* `CounterMap.IsOf` : all entries of a map are of one side
* `Billing.IsSorted` : the counters of both sides are kept apart
* `Contract.rereadable` : what files and the clock promise, and what may be committed

## Main results

* `replies_of_last_commits_and_commits_reread` : the store is a map from sides to snapshots, and
  everything that a run commits can be loaded
-/

namespace RollupFees

/-- Every entry of a map is of a side. -/
def CounterMap.IsOf {α : Type} (side : Side) (m : CounterMap α) : Prop :=
  ∀ c : Counter, c.side ≠ side → m.get? c = none

theorem CounterMap.isOf_empty {α : Type} (side : Side) : (empty : CounterMap α).IsOf side :=
  fun c _ => get?_empty c

theorem Snapshot.isOwn_iff (s : Snapshot) : s.isOwn = true ↔ s.counters.IsOf s.side := by
  simp only [isOwn, List.all_eq_true, Prod.forall, decide_eq_true_eq, CounterMap.mem_toList]
  constructor
  · intro h c hc
    cases hget : s.counters.get? c with
    | none => rfl
    | some state => exact absurd (h c state hget) hc
  · intro h c state hget
    by_cases hc : c.side = s.side
    · exact hc
    · rw [h c hc] at hget
      cases hget

/-- What is settled of a side is of that side. -/
theorem CounterMap.IsOf.settle {side : Side} {m : CounterMap CounterState} (h : m.IsOf side)
    (balances baselines : CounterMap Amount) :
    (settle side m balances baselines).counters.IsOf side := by
  intro c hc
  rw [get?_settle_counters, settledEntry, if_neg hc, h c hc]
  rfl

/-- The counters of both sides are kept apart. -/
def Billing.IsSorted (b : Billing) : Prop := ∀ side, (b.counters side).IsOf side

theorem Billing.IsSorted.apply {b : Billing} (h : b.IsSorted) {u : LedgerUpdate}
    (hu : u.snapshot.counters.IsOf u.snapshot.side) : (b.apply u).IsSorted := by
  intro side
  by_cases hside : side = u.snapshot.side
  · subst hside
    rw [b.counters_apply_self]
    exact hu
  · rw [b.counters_apply_other u hside]
    exact h side

/-- A file holds the snapshot of the side that it is read as. -/
theorem Snapshot.isOf_of_decode {side : Side} {bytes : ByteArray} {s : Snapshot}
    (h : decode side bytes = .ok s) : s.side = side ∧ s.counters.IsOf side := by
  obtain ⟨json, hjson⟩ : ∃ json, ofJson side json = .ok s := by
    rw [decode] at h
    split at h
    · cases h
    · exact ⟨_, h⟩
  obtain ⟨e, he⟩ : ∃ e : Envelope, e.check side = .ok s := by
    unfold ofJson at hjson
    split at hjson
    · cases hjson
    · split at hjson
      · cases hjson
      · split at hjson
        · split at hjson
          · cases hjson
          · exact ⟨_, hjson⟩
        · cases hjson
  rw [Envelope.check] at he
  split at he
  · cases he
  · split at he
    · cases he
    · next hstray =>
      split at he
      · cases he
        refine ⟨rfl, (isOwn_iff ⟨side, e.counters, e.updatedAt⟩).1 ?_⟩
        rw [List.find?_eq_none] at hstray
        simpa [isOwn] using hstray
      · cases he

/-- A service that has loaded its history keeps the sides apart. -/
theorem Billing.isSorted_ofHistory {l1 l2 : Option Snapshot}
    (h₁ : ∀ s, l1 = some s → s.counters.IsOf .l1) (h₂ : ∀ s, l2 = some s → s.counters.IsOf .l2) :
    (ofHistory l1 l2).IsSorted := by
  rintro (_ | _)
  · cases l1 with
    | none => exact CounterMap.isOf_empty _
    | some s => exact h₁ s rfl
  · cases l2 with
    | none => exact CounterMap.isOf_empty _
    | some s => exact h₂ s rfl

/-! ### The contract -/

/-- Snapshots that are loaded come from files, and the clock shows points in time. In return only
snapshots that can be loaded are committed. -/
def Contract.rereadable : Contract Query.Answer where
  promised
    | .load side, r => ∀ s, r = .ok (some s) → ∃ bytes, Snapshot.decode side bytes = .ok s
    | .now, t => Timestamp.IsValid t
    | _, _ => True
  allowed
    | .commit s => s.IsLoadable
    | _ => True

theorem Contract.allowsLoop_rereadable : rereadable.AllowsLoop :=
  ⟨fun _ => trivial, trivial, trivial, fun _ => trivial⟩

theorem Query.allowed_of_isCommit {q : Query} (h : q.isCommit = false) :
    Contract.rereadable.allowed q := by
  cases q with
  | commit s => cases h
  | _ => trivial

open Contract

/-- A service starts with the sides kept apart. -/
theorem honours_start (setup : Setup) (s : Service) :
    (start setup s).Honours rereadable False fun after => after.billing.IsSorted := by
  have hload : ∀ side, Step.Honours rereadable False
      (fun found : Option Snapshot => ∀ s, found = some s → s.counters.IsOf side)
      (Step.need (Dialogue.question (Query.load side))) := by
    intro side
    refine Step.honours_need (Dialogue.honours_question trivial ?_)
    intro r hr found hfound s hs
    subst hfound hs
    obtain ⟨bytes, hbytes⟩ := hr s rfl
    exact (Snapshot.isOf_of_decode hbytes).2
  refine Step.Honours.bind (hload .l1) fun l1 h₁ => ?_
  refine Step.Honours.bind (hload .l2) fun l2 h₂ => ?_
  have hnote : ∀ n, Step.Honours rereadable False (fun _ => True) (Step.note n) :=
    Step.honours_note allowsLoop_rereadable.note
  refine Step.Honours.bind (hnote _) fun _ _ => Step.Honours.bind (hnote _) fun _ _ => ?_
  exact Step.honours_pure (Billing.isSorted_ofHistory h₁ h₂)

/-- What a reconciliation makes of sides that are kept apart. -/
theorem Reconciled.isSorted {accounts : Accounts} {b after : Billing} {side : Side}
    {reads : List (Query × Amount)} (h : Reconciled accounts b side reads after)
    (hb : b.IsSorted) : after.IsSorted := by
  obtain ⟨seen, baselines, now, rfl, -⟩ := h.settles
  exact hb.apply ((hb side).settle _ baselines)

/-- Every step keeps the sides apart, and commits only what can be loaded. -/
theorem stepsHonour_rereadable (setup : Setup) :
    setup.StepsHonour rereadable (¬ setup.controller.IsScalable) Billing.IsSorted := by
  intro s step h
  refine (honours_runStep setup s step (fun _ _ hq => Query.allowed_of_isCommit hq) ?_).and_path ?_
  · intro side balances baselines now snapshot _ hnow
    exact ⟨(Snapshot.isOwn_iff _).2 ((h side).settle balances baselines), hnow⟩
  · rintro xs ⟨after, r⟩ hpath
    rcases billing_of_runStep hpath with ⟨side, -, -, hreconciled⟩ | ⟨-, hbilling⟩
    · exact hreconciled.isSorted h
    · rw [hbilling]
      exact h

/-! ### The store and the service -/

/-- **What is committed can be loaded.** The store is a map from sides to snapshots: on a disk that
can be used every commit succeeds, and loading a side replies with the last snapshot committed for
it, or with what was there before if there is none. A service that has started from files, with a
clock that shows points in time, commits only snapshots that the store gives back. -/
theorem replies_of_last_commits_and_commits_reread (store : SnapshotStore) :
    (∀ (d : Disk) (kept : Kept) (calls : List StoreCall), d.IsUsable → store.Holds d kept →
      (∀ s, .commit s ∈ calls → s.IsLoadable) →
      ((store.session calls).run Disk.honest d).1 = kept.replies calls) ∧
    ∀ (σ : Type) (env : Answerer Query.Answer σ) (setup : Setup) (w w' : σ) (s : Service),
      (∀ side w snapshot, (env.answer (.load side) w).1 = .ok (some snapshot) →
        ∃ bytes, Snapshot.decode side bytes = .ok snapshot) →
      (∀ w, Timestamp.IsValid (env.answer .now w).1) →
      started env setup w = (.ok s, w') →
      ∀ n x, x ∈ (ticks setup s n).transcript env w' ∨ x ∈ (serve setup s n).transcript env w' →
        ∀ snapshot, x.question = .commit snapshot →
          snapshot.isOwn = true ∧ ∀ d : Disk, d.IsUsable →
            store.contents (d.committed snapshot) snapshot.side = .ok (some snapshot) := by
  refine ⟨fun d kept calls hd hkept hcalls => store.session_run hd hkept hcalls, ?_⟩
  intro σ env setup w w' s hfiles hclock hs n x hx snapshot hsnapshot
  have henv : ∀ q w, rereadable.promised q (env.answer q w).1 := by
    intro q w
    cases q with
    | load side => exact fun s => hfiles side w s
    | now => exact hclock w
    | _ => trivial
  have hsorted : s.billing.IsSorted := by
    have hstart := Dialogue.Honours.run henv (honours_start setup Service.fresh) w
    rw [started, Step.outcome] at hs
    rw [hs] at hstart
    exact hstart
  have hsteps := stepsHonour_rereadable setup
  have hloadable : snapshot.IsLoadable := by
    have hallowed : rereadable.allowed x.question := by
      rcases hx with hx | hx
      · exact (honours_ticks allowsLoop_rereadable hsteps n hsorted).transcript henv w' x hx
      · exact (honours_serve allowsLoop_rereadable hsteps n hsorted).transcript henv w' x hx
    rw [hsnapshot] at hallowed
    exact hallowed
  refine ⟨hloadable.own, fun d hd => ?_⟩
  rw [store.contents_committed hd hloadable, if_pos rfl]

/-- What the first tick of `refusingOnce` commits for the first side. -/
def Snapshot.firstOfRefusingOnce : Snapshot where
  side := .l1
  counters :=
    { CounterMap.empty with
      sequencer := some ⟨Amount.clamp 10, Amount.clamp 100⟩
      proposer := some ⟨0, 0⟩
      relayer := some ⟨0, 0⟩
      fastRelayer := some ⟨0, 0⟩ }
  updatedAt := Timestamp.epoch

theorem Timestamp.isValid_epoch : Timestamp.IsValid Timestamp.epoch where
  date := by decide
  hour := by decide
  minute := by decide
  second := by decide
  nanos := .inl (by decide)

/-- In a directory that has not been made, a commit makes it; and the snapshot is given back as it
was taken, while the other side has none. -/
theorem reread_refusingOnce :
    let store : SnapshotStore := ⟨"data"⟩
    ((store.session [.commit .firstOfRefusingOnce, .load .l1, .load .l2]).run Disk.honest
        Disk.bare).1 =
      [.committed (.ok ()), .loaded (.ok (some .firstOfRefusingOnce)), .loaded (.ok none)] ∧
      (∃ x ∈ (ticks Setup.plain Service.fresh 1).transcript refusingOnce 0,
        x.question = .commit .firstOfRefusingOnce) ∧
      store.contents (Disk.bare.committed .firstOfRefusingOnce) .l1 =
        .ok (some .firstOfRefusingOnce) := by
  intro store
  have hmain := replies_of_last_commits_and_commits_reread store
  have hs : started refusingOnce Setup.plain 0 = (.ok Service.fresh, 0) := rfl
  have hcommit : ((ticks Setup.plain Service.fresh 1).transcript refusingOnce 0).any
      (fun x => x.question = .commit .firstOfRefusingOnce) = true := by decide +kernel
  obtain ⟨x, hx, hquestion⟩ := List.any_eq_true.1 hcommit
  replace hquestion := of_decide_eq_true hquestion
  obtain ⟨-, hreread⟩ := hmain.2 Nat refusingOnce Setup.plain 0 0 Service.fresh
    (fun _ _ _ h => nomatch h) (fun _ => Timestamp.isValid_epoch) hs 1 x (.inl hx) _ hquestion
  refine ⟨?_, ⟨x, hx, hquestion⟩, hreread _ Disk.isUsable_bare⟩
  rw [hmain.1 Disk.bare (fun _ => none) _ Disk.isUsable_bare (fun _ => rfl) ?_]
  · rfl
  · intro s hmem
    obtain rfl : s = .firstOfRefusingOnce := by simpa using hmem
    exact ⟨by decide, Timestamp.isValid_epoch⟩

end RollupFees
