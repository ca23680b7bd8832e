import RollupFees.Proofs.Ledger.Conservation
import RollupFees.Proofs.Records

/-!
# What the last gain says of the total

The billing shows, besides the total of a counter, what the counter gained when it was last
reconciled. When the reconciliation of its side is completed in a tick, the total has grown by just
that, with one exception that is meant: a total that would stay below the balance of its vault is
raised to the balance, and the raise is no gain. A counter that does not hold more than it has
counted is never raised, so there the gain is always the growth.

A tick whose reconciliation fails does not touch the total. It does not touch the last gain either,
which is then that of an earlier tick; nothing is said of it here.

## Main definitions

* `Billing.AgreesOn` : the same counters and the same last gains of a side
* `Billing.TellsGrowth` : what the last gain of a counter says of its total

## Main results

* `TickRecord.entry_eq` : what a tick does to the entry of a counter
* `lastGain_eq_growth` : the last gain is the growth of the total, or the total was raised
-/

namespace RollupFees

variable {a : Accounts} {b after : Billing} {side : Side} {c : Counter} {setup : Setup}

/-! ### What one step does to a counter -/

/-- Two billings have the same counters and the same last gains of a side. -/
structure Billing.AgreesOn (side : Side) (b after : Billing) : Prop where
  counters : b.counters side = after.counters side
  gains : ∀ c : Counter, c.side = side → b.lastGain c = after.lastGain c

theorem Billing.AgreesOn.refl (side : Side) (b : Billing) : b.AgreesOn side b :=
  ⟨rfl, fun _ _ => rfl⟩

theorem Billing.AgreesOn.trans {last : Billing} (h : b.AgreesOn side after)
    (h' : after.AgreesOn side last) : b.AgreesOn side last :=
  ⟨h.counters.trans h'.counters, fun c hc => (h.gains c hc).trans (h'.gains c hc)⟩

theorem Billing.AgreesOn.symm (h : b.AgreesOn side after) : after.AgreesOn side b :=
  ⟨h.counters.symm, fun c hc => (h.gains c hc).symm⟩

/-- The last gains after an update are those of the update, where it has any. -/
theorem Billing.lastAccrued_apply (b : Billing) (u : LedgerUpdate) :
    (b.apply u).lastAccrued = b.lastAccrued.override u.accrued := by
  unfold apply
  split <;> rfl

theorem Billing.lastGain_apply_settledUpdate (seen : Counter → Amount)
    (baselines : CounterMap Amount) (now : Timestamp) (hc : c.side = side) :
    (b.apply (b.settledUpdate side seen baselines now)).lastGain c =
      (c.settle (seen c) ((b.counters c.side).get? c) ((baselines.get? c).getD 0)).gained := by
  subst hc
  simp [lastGain, lastAccrued_apply, settledUpdate, settledEntry]

theorem Billing.lastGain_apply_settledUpdate_of_ne (seen : Counter → Amount)
    (baselines : CounterMap Amount) (now : Timestamp) (hc : c.side ≠ side) :
    (b.apply (b.settledUpdate side seen baselines now)).lastGain c = b.lastGain c := by
  simp [lastGain, lastAccrued_apply, settledUpdate, settledEntry, hc]

/-- What a counter gained is its movement from the last balance. -/
theorem Counter.gained_settle (c : Counter) (now : Amount) (before : CounterState)
    (baseline : Amount) :
    (c.settle now (some before) baseline).gained = c.flow.accrued before.observed now := by
  simp only [settle]
  split <;> rfl

/-- A total that counts what comes in is raised to a balance that it would stay below. -/
theorem Counter.state_settle_of_lt {now : Amount} {previous : Option CounterState}
    {baseline : Amount} (hflow : c.flow = .inflow)
    (h : (c.flow.reconcile now previous baseline).1.cumulative < now) :
    (c.settle now previous baseline).state = ⟨now, now⟩ := by
  rw [settle]
  dsimp only
  rw [if_pos ⟨hflow, h⟩]
  cases previous <;> rfl

/-- The reconciliation of the other side changes nothing for a side. -/
theorem Reconciled.agreesOn {other : Side} {reads : List (Query × Amount)}
    (h : Reconciled a b other reads after) (hside : side ≠ other) : b.AgreesOn side after := by
  obtain ⟨seen, baselines, now, rfl, -⟩ := h.settles
  refine ⟨(b.counters_apply_other _ hside).symm, fun c hc => ?_⟩
  exact (b.lastGain_apply_settledUpdate_of_ne seen baselines now (hc ▸ hside)).symm

/-- A step of another kind changes nothing for a side. -/
theorem Progress.Advance.agreesOn {number : Nat} {p next : Progress} {step : TickStep}
    {xs : List (Exchange Query.Answer)} (h : Advance setup number p step xs (.ok next))
    (hstep : step ≠ side.step) : p.service.billing.AgreesOn side next.service.billing := by
  rcases h.billing with ⟨other, rfl, -, hrec⟩ | ⟨-, hsame⟩
  · refine hrec.agreesOn ?_
    rintro rfl
    exact hstep rfl
  · rw [hsame]
    exact .refl side _

/-- Steps of other kinds change nothing for a side. -/
theorem Progress.Leads.agreesOn {number : Nat} {p last : Progress} {rs : List StepRecord}
    (h : Leads setup number p rs last) (hrs : ∀ x ∈ rs, x.step ≠ side.step) :
    p.service.billing.AgreesOn side last.service.billing :=
  h.preserves (I := fun q => p.service.billing.AgreesOn side q.service.billing)
    (fun _ _ _ _ hstep hp hadvance => hp.trans (hadvance.agreesOn hstep)) hrs (.refl side _)

/-! ### What a tick does to a counter -/

namespace TickRecord

variable {r : TickRecord} {later : Service} {report : TickReport}

section Took

variable {x : StepRecord} {met left : Progress}

/-- Up to the reconciliation of a side nothing changes for it. -/
theorem Took.agreesOn_before (h : r.Took setup later report x met left)
    (hstep : x.step = side.step) : r.before.billing.AgreesOn side met.service.billing := by
  obtain ⟨earlier, hearlier, hother⟩ := h.earlier
  exact hearlier.agreesOn (hstep ▸ hother)

/-- After the reconciliation of a side nothing changes for it. -/
theorem Took.agreesOn_after (h : r.Took setup later report x met left)
    (hstep : x.step = side.step) : left.service.billing.AgreesOn side later.billing := by
  obtain ⟨rest, last, hrest, rfl, -, hother⟩ := h.later
  exact hrest.agreesOn (hstep ▸ hother)

/-- Where the reconciliation of a side is not completed, nothing changes for it in the tick. -/
theorem Took.agreesOn (h : r.Took setup later report x met left) (hstep : x.step = side.step)
    (hnot : x.status ≠ some .completed) : r.before.billing.AgreesOn side later.billing := by
  rw [h.last] at hnot
  have hleft := h.agreesOn_after hstep
  rcases h.went.billing with ⟨side, -, hdone, -⟩ | ⟨-, hsame⟩
  · exact absurd hdone hnot
  · rw [hsame] at hleft
    exact (h.agreesOn_before hstep).trans hleft

end Took

/-- **What a tick does to the entry of a counter.** Where the reconciliation of its side is
completed, the counter is settled with the balance that was read for it, and its last gain is what
it gained by that. Where it is not, nothing changes. -/
theorem entry_eq {σ : Type} {env : Answerer Query.Answer σ} {n : Nat} {s : Service} {w : σ}
    (hr : r ∈ history env setup n s w) (h : r.result = .ok (later, report)) (c : Counter) :
    ∃ x ∈ r.steps, x.step = c.side.step ∧ report.status? c.side.step = x.status ∧
      (x.status = some .completed → ∃ now baseline, x.balance? setup.accounts c = some now ∧
        let settled := c.settle now ((r.before.billing.counters c.side).get? c) baseline
        (later.billing.counters c.side).get? c = some settled.state ∧
          later.billing.lastGain c = settled.gained) ∧
      (x.status ≠ some .completed → r.before.billing.AgreesOn c.side later.billing) := by
  obtain ⟨x, met, left, hstep, took⟩ := exists_took hr h c.side.step
  refine ⟨x, took.mem, hstep, hstep ▸ took.status, fun hdone => ?_, took.agreesOn hstep⟩
  have hmet := took.agreesOn_before hstep
  have hleft := took.agreesOn_after hstep
  rw [took.last] at hdone
  rcases took.went.billing with ⟨side, hside, -, hrec⟩ | ⟨hnone, -⟩
  · obtain rfl := Side.step_inj.1 (hstep.symm.trans hside)
    obtain ⟨seen, baselines, now, hafter, hread, -⟩ := hrec.settles
    refine ⟨seen c, (baselines.get? c).getD 0, hread c rfl, ?_⟩
    rw [hmet.counters, ← hleft.counters, ← hleft.gains c rfl, hafter]
    exact ⟨Billing.get?_apply_settledUpdate seen baselines now rfl,
      Billing.lastGain_apply_settledUpdate seen baselines now rfl⟩
  · exact absurd hdone (hnone c.side hstep)

end TickRecord

theorem Billing.cumulative_of_get? {e : CounterState} (h : (b.counters c.side).get? c = some e) :
    b.cumulative c = e.cumulative := by
  rw [cumulative, h]
  rfl

/-- What the last gain of a counter says of its total, when the counter had an entry before and its
balance has been read. -/
structure Billing.TellsGrowth (c : Counter) (before : CounterState) (now : Amount)
    (later : Billing) : Prop where
  /-- The gain is the movement of the balance. -/
  movement : later.lastGain c = c.flow.accrued before.observed now
  /-- The total has grown by the gain, unless it had to be raised. -/
  growth : before.cumulative.toNat + (later.lastGain c).toNat ≤ Amount.maxNat →
    (c.flow = .inflow → now.toNat ≤ before.cumulative.toNat + (later.lastGain c).toNat) →
    (later.cumulative c).toNat = before.cumulative.toNat + (later.lastGain c).toNat
  /-- The total of a vault that would stay below the balance is the balance. -/
  raised : c.flow = .inflow →
    before.cumulative.toNat + (later.lastGain c).toNat < now.toNat → later.cumulative c = now

/-- A counter that held no more than it had counted does not have to be raised. -/
theorem Billing.TellsGrowth.of_le {before : CounterState} {now : Amount}
    (h : after.TellsGrowth c before now) (hle : before.observed ≤ before.cumulative)
    (hmax : before.cumulative.toNat + (after.lastGain c).toNat ≤ Amount.maxNat) :
    (after.cumulative c).toNat = before.cumulative.toNat + (after.lastGain c).toNat := by
  refine h.growth hmax fun hflow => ?_
  rw [h.movement, hflow]
  simp only [Flow.accrued, Amount.toNat_satSub, Amount.le_iff] at hle ⊢
  omega

/-- A counter that has been settled tells of its growth. -/
theorem Billing.tellsGrowth_of_settle {before : CounterState} {now baseline : Amount}
    (hentry : (after.counters c.side).get? c = some (c.settle now (some before) baseline).state)
    (hgain : after.lastGain c = (c.settle now (some before) baseline).gained) :
    after.TellsGrowth c before now := by
  rw [Counter.gained_settle] at hgain
  have htotal : (c.flow.reconcile now (some before) baseline).1.cumulative =
      before.cumulative.satAdd (after.lastGain c) := by
    rw [hgain]
    rfl
  refine ⟨hgain, fun hmax hnot => ?_, fun hflow hlt => ?_⟩
  · have hstate := c.settle_state now (some before) baseline fun hflow => by
      have := hnot hflow
      rw [htotal, Amount.le_iff, Amount.toNat_satAdd]
      omega
    rw [cumulative_of_get? hentry, hstate, htotal, Amount.toNat_satAdd]
    exact Nat.min_eq_left hmax
  · have hstate : (c.settle now (some before) baseline).state = ⟨now, now⟩ :=
      Counter.state_settle_of_lt hflow <| by
        rw [htotal, Amount.lt_iff, Amount.toNat_satAdd]
        omega
    rw [cumulative_of_get? hentry, hstate]

/-- **The last gain is the growth of the total, or the total was raised.** Take any run of ticks, in
which readings and commits may fail at any point, and a counter that had an entry before a tick.
The tick comes to its end unless a limit cannot be scaled. If it has completed the reconciliation
of the side of the counter, the last gain is the movement from the balance of the entry to the
balance that was read, and the total has grown by exactly that, unless the largest amount is
exceeded. The one exception is a counter of what comes in whose total would stay below the balance
that was read: its total is that balance. A counter that held no more than it had counted is no
exception. If the reconciliation was not completed, the total has not changed. -/
theorem lastGain_eq_growth {σ : Type} (env : Answerer Query.Answer σ) (setup : Setup) (n : Nat)
    (s : Service) (w : σ) :
    ∀ r ∈ history env setup n s w,
      (setup.controller.IsScalable → ∃ later report, r.result = .ok (later, report)) ∧
      ∀ later report, r.result = .ok (later, report) → ∀ (c : Counter) (before : CounterState),
        (r.before.billing.counters c.side).get? c = some before →
        (report.status? c.side.step = some .completed →
          (∃ now, (∃ x ∈ r.steps, x.step = c.side.step ∧
              x.balance? setup.accounts c = some now) ∧
            later.billing.TellsGrowth c before now) ∧
          (before.observed ≤ before.cumulative →
            before.cumulative.toNat + (later.billing.lastGain c).toNat ≤ Amount.maxNat →
            (later.billing.cumulative c).toNat =
              before.cumulative.toNat + (later.billing.lastGain c).toNat)) ∧
        (report.status? c.side.step ≠ some .completed →
          later.billing.cumulative c = before.cumulative) := by
  intro r hr
  constructor
  · intro hscale
    obtain ⟨s', w', rfl⟩ := exists_eq_tickRecord_of_mem_history env n s w r hr
    obtain ⟨later, report, v, hrun⟩ := tick_run_isOk hscale env s' w'
    exact ⟨later, report, congrArg Prod.fst hrun⟩
  · intro later report hresult c before hbefore
    obtain ⟨x, hx, hstep, hstatus, hdone, hnot⟩ := TickRecord.entry_eq hr hresult c
    rw [hstatus]
    constructor
    · intro hcompleted
      obtain ⟨now, baseline, hnow, hentry, hgain⟩ := hdone hcompleted
      rw [hbefore] at hentry hgain
      have htells := Billing.tellsGrowth_of_settle hentry hgain
      exact ⟨⟨now, ⟨x, hx, hstep, hnow⟩, htells⟩, htells.of_le⟩
    · intro hfailed
      refine Billing.cumulative_of_get? ?_
      rw [← (hnot hfailed).counters, hbefore]

/-- The kept snapshot of a vault that holds more than it has collected. -/
def Snapshot.sunken : Snapshot where
  side := .l2
  counters := CounterMap.empty.set .sequencerFeeVault ⟨Amount.clamp 100, Amount.clamp 50⟩
  updatedAt := Timestamp.epoch

/-- Surroundings that have kept such a snapshot. The sequencer spends three with every tick, the
vaults hold seventy, and the third commit of the first side fails. The state counts how often the
time has been asked for, twice in a tick. -/
def sunkenVault : Answerer Query.Answer Nat where
  answer q n :=
    match q with
    | .load .l1 => (.ok none, n)
    | .load .l2 => (.ok (some Snapshot.sunken), n)
    | .balance .l1 account =>
      (.ok (if account = .ofNat 1 then Amount.clamp (10 - 3 * (n / 2)) else 0), n)
    | .balance .l2 _ | .tokenBalance .. => (.ok (Amount.clamp 70), n)
    | .commit s =>
      (if s.side = .l1 ∧ n = 5 then .error (.storage (.stated "disk full")) else .ok (), n)
    | .uptime => (⟨n⟩, n + 1)
    | q => (q.refused, n)

/-- The service that has loaded the snapshot. -/
def Service.sunken : Service :=
  { fresh with billing := Billing.ofHistory none (some Snapshot.sunken) }

/-- The first three ticks of that service. -/
def sunkenTicks : List TickRecord := history sunkenVault Setup.plain 3 Service.sunken 0

/-- What a tick shows of a counter: the entry before it, whether its side was reconciled, and the
total and the last gain after it. -/
def TickRecord.shown (c : Counter) (r : TickRecord) :
    Option (Option CounterState × Bool × Amount × Amount) :=
  match r.result with
  | .ok (later, report) =>
    some ((r.before.billing.counters c.side).get? c,
      report.status? c.side.step = some .completed, later.billing.cumulative c,
      later.billing.lastGain c)
  | .error _ => none

/-- A tick of which something is shown came to its end, and shows what is so. -/
theorem TickRecord.exists_of_mem_shown {rs : List TickRecord} {entry : Option CounterState}
    {done : Bool} {total gain : Amount}
    (h : some (entry, done, total, gain) ∈ rs.map (TickRecord.shown c)) :
    ∃ r ∈ rs, ∃ later report, r.result = .ok (later, report) ∧
      (r.before.billing.counters c.side).get? c = entry ∧
      (report.status? c.side.step = some .completed ↔ done = true) ∧
      later.billing.cumulative c = total ∧ later.billing.lastGain c = gain := by
  obtain ⟨r, hr, hshown⟩ := List.mem_map.1 h
  rw [shown] at hshown
  split at hshown
  · next later report hresult =>
    obtain ⟨rfl, rfl, rfl, rfl⟩ : _ ∧ _ ∧ _ ∧ _ := by simpa using hshown
    exact ⟨r, hr, later, report, hresult, rfl, decide_eq_true_iff.symm, rfl, rfl⟩
  · cases hshown

/-- In the first tick the vault is raised and gains nothing. In the second one the sequencer spends
three, and in the third one its side is not committed. -/
theorem shown_sunkenTicks :
    sunkenTicks.map (TickRecord.shown .sequencerFeeVault) =
      [some (some ⟨Amount.clamp 100, Amount.clamp 50⟩, true, Amount.clamp 70, 0),
        some (some ⟨Amount.clamp 70, Amount.clamp 70⟩, true, Amount.clamp 70, 0),
        some (some ⟨Amount.clamp 70, Amount.clamp 70⟩, true, Amount.clamp 70, 0)] ∧
    sunkenTicks.map (TickRecord.shown .sequencer) =
      [some (none, true, Amount.clamp 70, 0),
        some (some ⟨Amount.clamp 10, Amount.clamp 70⟩, true, Amount.clamp 73, Amount.clamp 3),
        some (some ⟨Amount.clamp 7, Amount.clamp 73⟩, false, Amount.clamp 73, Amount.clamp 3)] := by
  decide +kernel

/-- The second tick shows three more spent by the sequencer, and the third one, which does not
complete the reconciliation, leaves the total as it is. -/
theorem lastGain_sunkenVault :
    (∃ r ∈ sunkenTicks, ∃ later report, r.result = .ok (later, report) ∧
      report.status? .reconcileL1 = some .completed ∧
      (later.billing.cumulative .sequencer).toNat =
        70 + (later.billing.lastGain .sequencer).toNat) ∧
    ∃ r ∈ sunkenTicks, ∃ later report, r.result = .ok (later, report) ∧
      report.status? .reconcileL1 ≠ some .completed ∧
      later.billing.cumulative .sequencer = Amount.clamp 73 := by
  have hsequencer := shown_sunkenTicks.2
  constructor
  · have hsecond : some (some ⟨Amount.clamp 10, Amount.clamp 70⟩, true, Amount.clamp 73,
        Amount.clamp 3) ∈ sunkenTicks.map (TickRecord.shown .sequencer) := by simp [hsequencer]
    obtain ⟨r, hr, later, report, hresult, hbefore, hdone, -, hgain⟩ :=
      TickRecord.exists_of_mem_shown hsecond
    obtain ⟨hends, htells⟩ := lastGain_eq_growth sunkenVault Setup.plain 3 Service.sunken 0 r hr
    obtain ⟨later', report', hends⟩ := hends Setup.isScalable_plain
    obtain ⟨rfl, rfl⟩ : later = later' ∧ report = report' := by simpa [hresult] using hends
    have hcompleted := hdone.2 rfl
    refine ⟨r, hr, later, report, hresult, hcompleted, ?_⟩
    refine ((htells later report hresult .sequencer _ hbefore).1 hcompleted).2 (by decide) ?_
    rw [hgain]
    decide
  · have hthird : some (some ⟨Amount.clamp 7, Amount.clamp 73⟩, false, Amount.clamp 73,
        Amount.clamp 3) ∈ sunkenTicks.map (TickRecord.shown .sequencer) := by simp [hsequencer]
    obtain ⟨r, hr, later, report, hresult, hbefore, hdone, -, -⟩ :=
      TickRecord.exists_of_mem_shown hthird
    have hfailed : report.status? .reconcileL1 ≠ some .completed :=
      fun hcompleted => absurd (hdone.1 hcompleted) (by decide)
    obtain ⟨-, htells⟩ := lastGain_eq_growth sunkenVault Setup.plain 3 Service.sunken 0 r hr
    exact ⟨r, hr, later, report, hresult, hfailed,
      (htells later report hresult .sequencer _ hbefore).2 hfailed⟩

/-- The last gain is not the growth of a total that is raised, and after a reconciliation that
failed it is not nothing. -/
theorem lastGain_misses_growth :
    started sunkenVault Setup.plain 0 = (.ok Service.sunken, 0) ∧
    (¬ ∀ r ∈ sunkenTicks, ∀ later report, r.result = .ok (later, report) →
      ∀ (c : Counter) (before : CounterState),
        (r.before.billing.counters c.side).get? c = some before →
        report.status? c.side.step = some .completed →
        before.cumulative.toNat + (later.billing.lastGain c).toNat ≤ Amount.maxNat →
        (later.billing.cumulative c).toNat =
          before.cumulative.toNat + (later.billing.lastGain c).toNat) ∧
    ¬ ∀ r ∈ sunkenTicks, ∀ later report, r.result = .ok (later, report) →
      ∀ (c : Counter) (before : CounterState),
        (r.before.billing.counters c.side).get? c = some before →
        report.status? c.side.step ≠ some .completed → later.billing.lastGain c = 0 := by
  refine ⟨rfl, fun hall => ?_, fun hall => ?_⟩
  · have hfirst : some (some ⟨Amount.clamp 100, Amount.clamp 50⟩, true, Amount.clamp 70, 0) ∈
        sunkenTicks.map (TickRecord.shown .sequencerFeeVault) := by simp [shown_sunkenTicks.1]
    obtain ⟨r, hr, later, report, hresult, hbefore, hdone, htotal, hgain⟩ :=
      TickRecord.exists_of_mem_shown hfirst
    have hsum := hall r hr later report hresult .sequencerFeeVault _ hbefore (hdone.2 rfl)
    rw [htotal, hgain] at hsum
    exact absurd (hsum (by decide)) (by decide)
  · have hthird : some (some ⟨Amount.clamp 7, Amount.clamp 73⟩, false, Amount.clamp 73,
        Amount.clamp 3) ∈ sunkenTicks.map (TickRecord.shown .sequencer) := by
      simp [shown_sunkenTicks.2]
    obtain ⟨r, hr, later, report, hresult, hbefore, hdone, -, hgain⟩ :=
      TickRecord.exists_of_mem_shown hthird
    have hnone := hall r hr later report hresult .sequencer _ hbefore
      fun hcompleted => absurd (hdone.1 hcompleted) (by decide)
    rw [hgain] at hnone
    exact absurd hnone (by decide)

end RollupFees
