import Mathlib.Data.List.Chain
import RollupFees.Proofs.Restart.Runs

/-!
# Totals never fall

Nothing that has been counted is ever taken back: not by a reconciliation, whatever balances it
meets; not by one that fails; and not by a restart, which finds on the disk what the service had
shown. This does not depend on the history being a sensible one. Files that can be loaded may hold
totals that no balances lead to, and totals may have come to the largest amount.

## Main definitions

* `Billing.Grows` : nothing is taken back from one state of the billing to another
* `Boundary.stored?` : the billing that the files on the disk come to

## Main results

* `grows_along_boundaries` : nothing is taken back in a run with restarts
-/

namespace RollupFees

/-- Nothing is taken back: no total falls, nor any of the sums of totals, and no counter is lost
from the committed counters of its side. -/
structure Billing.Grows (b later : Billing) : Prop where
  total : ∀ c, b.cumulative c ≤ later.cumulative c
  kept : ∀ side m, b.committed side = some m →
    ∃ m', later.committed side = some m' ∧ ∀ c, m.get? c ≠ none → m'.get? c ≠ none
  l1Cost : b.totalL1Cost ≤ later.totalL1Cost
  relayers : b.relayerCost ≤ later.relayerCost

/-- The billing that the files on the disk come to, if they can be loaded. -/
def Boundary.stored? (b : Boundary) : Option Billing :=
  match b.loaded .l1, b.loaded .l2 with
  | .ok l1, .ok l2 => some (Billing.ofHistory l1 l2)
  | _, _ => none

theorem Amount.satAdd_le_satAdd {a a' b b' : Amount} (ha : a ≤ a') (hb : b ≤ b') :
    a.satAdd b ≤ a'.satAdd b' := by
  simp only [le_iff, toNat_satAdd] at *
  omega

theorem Amount.le_satAdd (a b : Amount) : a ≤ a.satAdd b := by
  have := a.le_max
  simp only [le_iff, toNat_satAdd, maxNat]
  omega

/-- What a counter has gained is on top of what it had. -/
theorem Counter.le_settle (c : Counter) (now : Amount) (before : CounterState)
    (baseline : Amount) :
    before.cumulative ≤ (c.settle now (some before) baseline).state.cumulative := by
  have hgain : before.cumulative ≤ (c.flow.reconcile now (some before) baseline).1.cumulative :=
    Amount.le_satAdd _ _
  simp only [settle]
  split
  · next hraise =>
    -- a total that is raised to the balance was below it
    have := hraise.2
    simp only [Amount.le_iff, Amount.lt_iff] at *
    omega
  · exact hgain

namespace Billing

variable {b later : Billing}

/-- The counters that are committed are those that there are. -/
theorem get?_committed {side : Side} {m : CounterMap CounterState} (h : b.committed side = some m) :
    b.counters side = m := by
  rw [← b.committed_getD side, h, Option.getD_some]

theorem totalL1Cost_eq (b : Billing) :
    b.totalL1Cost =
      ((((0 : Amount).satAdd (b.cumulative .sequencer)).satAdd (b.cumulative .proposer)).satAdd
        (b.cumulative .relayer)).satAdd (b.cumulative .fastRelayer) := rfl

/-- The relayers are among the wallets of the first layer. -/
theorem relayerCost_le_totalL1Cost (b : Billing) : b.relayerCost ≤ b.totalL1Cost := by
  simp only [totalL1Cost_eq, relayerCost, Amount.le_iff, Amount.toNat_satAdd, Amount.toNat_zero]
  omega

/-- Nothing is taken back if every entry stays, with a total that is no less. -/
theorem Grows.of_entries
    (h : ∀ side c before, (b.counters side).get? c = some before →
      ∃ after, (later.counters side).get? c = some after ∧ before.cumulative ≤ after.cumulative) :
    b.Grows later := by
  have htotal : ∀ c, b.cumulative c ≤ later.cumulative c := by
    intro c
    cases hc : (b.counters c.side).get? c with
    | none => simp [cumulative, hc, Amount.le_iff]
    | some before =>
      obtain ⟨after, hafter, hle⟩ := h c.side c before hc
      simpa [cumulative, hc, hafter] using hle
  refine ⟨htotal, ?_, ?_, ?_⟩
  · intro side m hm
    have hkept : ∀ c, m.get? c ≠ none → (later.counters side).get? c ≠ none := by
      intro c hc
      obtain ⟨before, hbefore⟩ := Option.ne_none_iff_exists'.1 hc
      rw [← get?_committed hm] at hbefore
      obtain ⟨after, hafter, -⟩ := h side c before hbefore
      simp [hafter]
    refine ⟨later.counters side, ?_, hkept⟩
    have hsome : ∃ c, m.get? c ≠ none := by
      by_contra hnone
      simp only [not_exists, not_not] at hnone
      have hempty := CounterMap.isEmpty_iff.2 hnone
      rw [committed, get?_committed hm, if_pos hempty] at hm
      cases hm
    obtain ⟨c, hc⟩ := hsome
    rw [committed, if_neg]
    intro hempty
    exact hkept c hc (CounterMap.isEmpty_iff.1 hempty c)
  · rw [totalL1Cost_eq, totalL1Cost_eq]
    exact Amount.satAdd_le_satAdd (Amount.satAdd_le_satAdd (Amount.satAdd_le_satAdd
      (Amount.satAdd_le_satAdd (Nat.le_refl _) (htotal _)) (htotal _)) (htotal _)) (htotal _)
  · exact Amount.satAdd_le_satAdd (htotal _) (htotal _)

/-- States that show the same counters take nothing back from each other. -/
theorem Grows.of_counters_eq (h : ∀ side, b.counters side = later.counters side) :
    b.Grows later :=
  .of_entries fun side c before hc => ⟨before, by rw [← h, hc], Nat.le_refl _⟩

theorem Grows.trans {last : Billing} (h : b.Grows later) (h' : later.Grows last) :
    b.Grows last where
  total c := Nat.le_trans (h.total c) (h'.total c)
  kept side m hm := by
    obtain ⟨m', hm', hkept⟩ := h.kept side m hm
    obtain ⟨m'', hm'', hkept'⟩ := h'.kept side m' hm'
    exact ⟨m'', hm'', fun c hc => hkept' c (hkept c hc)⟩
  l1Cost := Nat.le_trans h.l1Cost h'.l1Cost
  relayers := Nat.le_trans h.relayers h'.relayers

instance : IsTrans Billing Grows := ⟨fun _ _ _ => Grows.trans⟩

end Billing

/-! ### Steps and ticks -/

/-- A completed reconciliation takes nothing back. -/
theorem Reconciled.grows {accounts : Accounts} {b after : Billing} {side : Side}
    {reads : List (Query × Amount)} (h : Reconciled accounts b side reads after) :
    b.Grows after := by
  obtain ⟨seen, baselines, now, rfl, -⟩ := h.settles
  refine .of_entries fun other c before hc => ?_
  by_cases hother : other = side
  · subst hother
    have hb : (b.apply (b.settledUpdate other seen baselines now)).counters other =
        (settle other (b.counters other) (balancesOf other seen) baselines).counters :=
      b.counters_apply_self (b.settledUpdate other seen baselines now)
    rw [hb, get?_settle_counters, settledEntry, hc]
    by_cases hside : c.side = other
    · exact ⟨(c.settle (seen c) (some before) ((baselines.get? c).getD 0)).state, by simp [hside],
        c.le_settle _ _ _⟩
    · -- an entry of a counter of the other side is carried along
      exact ⟨before, by simp [hside], Nat.le_refl _⟩
  · have hb : (b.apply (b.settledUpdate side seen baselines now)).counters other =
        b.counters other := b.counters_apply_other _ hother
    exact ⟨before, by rw [hb, hc], Nat.le_refl _⟩

/-- A step of a tick takes nothing back. -/
theorem Progress.Advance.grows {setup : Setup} {number : Nat} {p next : Progress}
    {step : TickStep} {xs : List (Exchange Query.Answer)}
    (h : Advance setup number p step xs (.ok next)) :
    p.service.billing.Grows next.service.billing := by
  rcases h.billing with ⟨side, -, -, hreconciled⟩ | ⟨-, hsame⟩
  · exact hreconciled.grows
  · exact .of_counters_eq fun side => by rw [hsame]

/-- A tick takes nothing back. -/
theorem grows_tick {σ : Type} (env : Answerer Query.Answer σ) {setup : Setup} {s after : Service}
    {w : σ} {report : TickReport} (h : ((tick setup s).run env w).1 = .ok (after, report)) :
    s.billing.Grows after.billing := by
  obtain ⟨last, hlast, rfl, -, -⟩ := tick_run env s w h
  exact Progress.advanceAll_induction env
    (I := fun p _ => s.billing.Grows p.service.billing)
    (fun p _ step xs next hp hstep => hp.trans hstep.grows)
    TickStep.all s.nextTick [] _ last (.of_counters_eq fun _ => rfl) hlast

/-! ### Runs with restarts -/

/-- What a faithful boundary shows is what is stored. -/
theorem Boundary.IsFaithful.exists_stored {b : Boundary} (h : b.IsFaithful) :
    ∃ stored, b.stored? = some stored ∧ ∀ side, stored.counters side = b.billing.counters side := by
  have hcounters : ∀ side kept, b.loaded side = .ok kept →
      (kept.map (·.counters)).getD CounterMap.empty = b.billing.counters side := by
    intro side kept hkept
    obtain ⟨kept', hkept', hcommitted⟩ := h side
    obtain rfl := Except.ok.inj (hkept.symm.trans hkept')
    rw [← b.billing.committed_getD side, hcommitted]
    cases kept with
    | none => rfl
    | some s =>
      rw [Option.map_some, Option.filter_some]
      by_cases hs : s.counters.isEmpty = true
      · ext c
        simp [hs, CounterMap.isEmpty_iff.1 hs c]
      · simp [hs]
  obtain ⟨l1, h₁, -⟩ := h .l1
  obtain ⟨l2, h₂, -⟩ := h .l2
  refine ⟨Billing.ofHistory l1 l2, by rw [Boundary.stored?, h₁, h₂], ?_⟩
  rintro (_ | _)
  · exact hcounters .l1 l1 h₁
  · exact hcounters .l2 l2 h₂

section Runs

variable {κ ρ : Type} {store : SnapshotStore} {course : Course κ} {elsewhere : Elsewhere ρ}
  {setup : Setup}

/-- What holds between a state of the billing and the one after a tick, and between any two that
show the same counters, holds from each boundary of a run to the next. -/
theorem isChain_boundaries {R : Billing → Billing → Prop}
    (same : ∀ b b', (∀ side, b.counters side = b'.counters side) → R b b')
    (ticked : ∀ (s after : Service) (report : TickReport) (w : Scene κ ρ),
      ((tick setup s).run (surroundings store course elsewhere) w).1 = .ok (after, report) →
        R s.billing after.billing) (events : List Event) :
    ∀ {l : Ledgers} {s : Service} {w : Scene κ ρ}, w.disk.Keeps store l → s.billing.Shows l →
      (s.billing :: (boundaries store course elsewhere setup events s w).map (·.billing)).IsChain
        R := by
  induction events with
  | nil =>
    intro l s w _ _
    exact .singleton _
  | cons event rest ih =>
    intro l s w hw hs
    cases event with
    | restart =>
      obtain ⟨next, v, hnext, hv, -, hrun⟩ := Couple.boundaries_restart rest s hw
      rw [hrun, List.map_cons]
      have hsame : ∀ side, s.billing.counters side = next.billing.counters side := by
        intro side
        rw [hs side, hnext side]
      exact .cons_cons (same _ _ hsame) (ih hv hnext)
    | tick =>
      rcases htick : (tick setup s).run (surroundings store course elsewhere) w with
        ⟨b | ⟨after, report⟩, v⟩
      · simp only [boundaries, htick]
        exact .singleton _
      · -- the run is its own twin
        obtain ⟨m, hm, hafter, -, -⟩ := Couple.tick_twins (c := ⟨store, course, elsewhere, elsewhere⟩)
          ⟨rfl, hw, hw⟩ hs hs htick htick
        simp only [boundaries, htick, List.map_cons]
        exact .cons_cons (ticked s after report w (by rw [htick])) (ih hm.left hafter)

end Runs

/-- **Totals never fall.** From a disk whose snapshots can be loaded, whatever they hold, or without
any, a service goes through ticks and restarts in any order. At every boundary both files can be
loaded, and from each boundary to any later one nothing is taken back, neither in the billing nor in
what the files come to; and in both, the relayers have never cost more than all wallets of the first
layer together. Only a tick that breaks down can end the run early, and none does if every limit can
be scaled. -/
theorem grows_along_boundaries {κ ρ : Type} (store : SnapshotStore) (course : Course κ)
    (elsewhere : Elsewhere ρ) (setup : Setup) {d : Disk} (hd : d.IsUsable)
    (hload : ∀ side, ∃ kept, store.contents d side = .ok kept) (k : κ) (r : ρ)
    (events : List Event) :
    let run := boundaries store course elsewhere setup (.restart :: events) Service.fresh ⟨k, d, r⟩
    (∀ b ∈ run, ∃ stored, b.stored? = some stored ∧ stored.relayerCost ≤ stored.totalL1Cost ∧
        b.billing.relayerCost ≤ b.billing.totalL1Cost) ∧
      (run.map (·.billing)).Pairwise Billing.Grows ∧
      (run.filterMap Boundary.stored?).Pairwise Billing.Grows ∧
      (Event.restart :: events)[run.length]? ≠ some .restart ∧
      (setup.controller.IsScalable → run.length = events.length + 1) := by
  intro run
  obtain ⟨l, hkeeps⟩ := Disk.exists_keeps hd hload
  obtain ⟨s, v, hs, hv, -, hrun⟩ : ∃ (s : Service) (v : Scene κ ρ),
      s.billing.Shows l ∧ v.disk.Keeps store l ∧ v.course = k ∧ run =
        ⟨s.billing, fun side => ((store.load side).run Disk.honest v.disk).1, none⟩ ::
          boundaries store course elsewhere setup events s v :=
    Couple.boundaries_restart events Service.fresh (w := ⟨k, d, r⟩) hkeeps
  have hfaithful : ∀ b ∈ run, b.IsFaithful := by
    intro b hb
    rw [hrun] at hb
    rcases List.mem_cons.1 hb with rfl | hb
    · exact Couple.isFaithful_of_shows hs hv none
    · exact Couple.isFaithful_of_mem_boundaries events hv hs b hb
  have hmemory : (run.map (·.billing)).Pairwise Billing.Grows := by
    rw [hrun, List.map_cons, ← List.isChain_iff_pairwise]
    exact isChain_boundaries (fun _ _ => .of_counters_eq)
      (fun _ _ _ _ h => grows_tick _ h) events hv hs
  refine ⟨?_, hmemory, ?_, ?_, ?_⟩
  · intro b hb
    obtain ⟨stored, hstored, -⟩ := (hfaithful b hb).exists_stored
    exact ⟨stored, hstored, stored.relayerCost_le_totalL1Cost,
      b.billing.relayerCost_le_totalL1Cost⟩
  · -- the files show at every boundary what the billing shows
    rw [List.pairwise_filterMap]
    refine (List.pairwise_map.1 hmemory).imp_of_mem fun {b b'} hb hb' hgrows => ?_
    intro stored hstored stored' hstored'
    obtain ⟨_, heq, hcounters⟩ := (hfaithful b hb).exists_stored
    obtain rfl := Option.some.inj (hstored.symm.trans heq)
    obtain ⟨_, heq', hcounters'⟩ := (hfaithful b' hb').exists_stored
    obtain rfl := Option.some.inj (hstored'.symm.trans heq')
    exact (Billing.Grows.of_counters_eq hcounters).trans
      (hgrows.trans (.of_counters_eq fun side => (hcounters' side).symm))
  · rw [hrun, List.length_cons, List.getElem?_cons_succ]
    exact Couple.getElem?_length_boundaries events hv hs
  · intro hsetup
    rw [hrun, List.length_cons, Couple.length_boundaries hsetup events hv hs]

/-- A snapshot that no run leads to: the vault is said to hold more than it has ever collected. -/
def Snapshot.overdrawn : Snapshot where
  side := .l2
  counters := CounterMap.empty.set .sequencerFeeVault ⟨Amount.clamp 100, Amount.clamp 1⟩
  updatedAt := Timestamp.epoch

/-- Nothing is taken back after a snapshot that no run leads to. -/
theorem grows_overdrawn :
    let store := Couple.falling.store
    let d := Disk.bare.committed .overdrawn
    let run := boundaries store Couple.falling.course Couple.falling.left Setup.plain
      [.restart, .tick, .restart, .tick] Service.fresh ⟨0, d, ()⟩
    d.IsUsable ∧ store.contents d .l1 = .ok none ∧ store.contents d .l2 = .ok (some .overdrawn) ∧
      run.length = 4 ∧ (run.filterMap Boundary.stored?).length = 4 ∧
      (run.map (·.billing)).Pairwise Billing.Grows ∧
      (run.filterMap Boundary.stored?).Pairwise Billing.Grows := by
  intro store d run
  have hloadable : Snapshot.overdrawn.IsLoadable := ⟨by decide, Timestamp.isValid_epoch⟩
  have hd : d.IsUsable := Disk.isUsable_bare.committed _
  have hcontents := store.contents_committed Disk.isUsable_bare hloadable
  have hl1 : store.contents d .l1 = .ok none := hcontents .l1
  have hl2 : store.contents d .l2 = .ok (some .overdrawn) := hcontents .l2
  have hload : ∀ side, ∃ kept, store.contents d side = .ok kept := by
    rintro (_ | _)
    · exact ⟨_, hl1⟩
    · exact ⟨_, hl2⟩
  obtain ⟨hstored, hmemory, hfiles, -, hlength⟩ := grows_along_boundaries store
    Couple.falling.course Couple.falling.left Setup.plain hd hload 0 ()
    [.tick, .restart, .tick]
  have hrun : run.length = 4 := hlength Setup.isScalable_plain
  refine ⟨hd, hl1, hl2, hrun, ?_, hmemory, hfiles⟩
  rw [← hrun, List.length_filterMap_eq_countP, List.countP_eq_length]
  intro b hb
  obtain ⟨stored, hb', -⟩ := hstored b hb
  simp [hb']

end RollupFees
