import RollupFees.Proofs.Ledger.Conservation

/-!
# Where the spending of the sequencer starts

The spending of the sequencer is to start aligned with the revenue of the second side. It starts
from the balance that the vault holds at that moment. The revenue is what the vault has held at
first and has collected since, so the two agree as long as nothing has been seen to leave the vault;
what has left it by the time of the first reconciliation of the first side is missing from the
spending.

## Main definitions

* `StartsSpending` : a tick in which the first side is reconciled for the first time

## Main results

* `Flow.add_moved_inflow` : what has come in and what has gone out make up a balance
* `spending_starts_short` : how far the spending starts behind the revenue
-/

namespace RollupFees

/-! ### Movements both ways -/

/-- A first balance and what has come in since make up the last balance and what has gone out. -/
theorem Flow.add_moved_inflow (first last : Amount) (seen : List Amount)
    (h : (first :: seen).getLast? = some last) :
    first.toNat + Flow.inflow.moved (first :: seen) =
      last.toNat + Flow.outflow.moved (first :: seen) := by
  induction seen generalizing first with
  | nil =>
    obtain rfl : first = last := by simpa using h
    simp [moved]
  | cons next rest ih =>
    have hrest := ih next (by simpa using h)
    simp only [moved, movement] at hrest ⊢
    omega

/-! ### The reconciliations of a tick -/

/-- Where every step is taken at most once, a side has at most one completed reconciliation. -/
theorem completedOf_eq_singleton {side : Side} {rs : List StepRecord} {x : StepRecord}
    (hrs : (rs.map StepRecord.step).Nodup) (hx : x ∈ completedOf side rs) :
    completedOf side rs = [x] := by
  have hnodup : ((completedOf side rs).map StepRecord.step).Nodup :=
    hrs.sublist (List.filter_sublist.map StepRecord.step)
  have hstep : ∀ y ∈ completedOf side rs, y.step = side.step := by
    intro y hy
    simp only [completedOf, List.mem_filter, decide_eq_true_eq] at hy
    exact hy.2.1
  cases hlist : completedOf side rs with
  | nil => simp [hlist] at hx
  | cons y rest =>
    cases rest with
    | nil =>
      rw [hlist] at hx
      rw [List.mem_singleton.1 hx]
    | cons z rest =>
      -- two of them would be the same step
      rw [hlist] at hnodup hstep
      have hsame : y.step = z.step := (hstep y (by simp)).trans (hstep z (by simp)).symm
      simp [hsame] at hnodup

/-- A tick takes every step at most once. -/
theorem nodup_steps_of_mem_history {σ : Type} {env : Answerer Query.Answer σ} {setup : Setup}
    {n : Nat} {s : Service} {w : σ} {r : TickRecord} (h : r ∈ history env setup n s w) :
    (r.steps.map StepRecord.step).Nodup := by
  obtain ⟨s', w', rfl⟩ := exists_eq_tickRecord_of_mem_history env n s w r h
  have hprefix : (tickRecord env setup s' w').steps.map StepRecord.step <+: TickStep.all :=
    Progress.map_step_records_prefix env TickStep.all s'.nextTick (env.answer .uptime w').2
  have hall : TickStep.all.Nodup := by decide
  exact hall.sublist hprefix.sublist

theorem completedOf_stepsOf_append (side : Side) (earlier : List TickRecord) (r : TickRecord) :
    completedOf side (stepsOf (earlier ++ [r])) =
      completedOf side (stepsOf earlier) ++ completedOf side r.steps := by
  simp [completedOf, stepsOf, List.filter_append]

/-- A tick in which the first side is reconciled for the first time and the second side is
reconciled too, with the same balance of the vault at both looks. -/
structure StartsSpending (a : Accounts) (earlier : List TickRecord) (r : TickRecord)
    (vault : Amount) : Prop where
  unseeded : completedOf .l1 (stepsOf earlier) = []
  l1 : ∃ x ∈ completedOf .l1 r.steps, x.vault? a = some vault
  l2 : ∃ x ∈ completedOf .l2 r.steps, x.balance? a .sequencerFeeVault = some vault

namespace StartsSpending

variable {a : Accounts} {earlier : List TickRecord} {r : TickRecord} {vault : Amount}
  {b : Billing}

/-- Spending starts from the balance of the vault. -/
theorem cumulative_sequencer (h : StartsSpending a earlier r vault)
    (hr : (r.steps.map StepRecord.step).Nodup)
    (hcounted : Counted a b (stepsOf (earlier ++ [r]))) : b.cumulative .sequencer = vault := by
  obtain ⟨x, hx, hvault⟩ := h.l1
  have honce : completedOf .l1 (stepsOf (earlier ++ [r])) = [x] := by
    rw [completedOf_stepsOf_append, h.unseeded, completedOf_eq_singleton hr hx, List.nil_append]
  have hstart : startingTotal a .sequencer (stepsOf (earlier ++ [r])) = vault.toNat := by
    simp [startingTotal, honce, hvault]
  have hmoved : Flow.outflow.moved (balancesSeen a .sequencer (stepsOf (earlier ++ [r]))) = 0 := by
    simp only [balancesSeen, Counter.side, honce]
    cases hbalance : x.balance? a .sequencer <;> simp [hbalance, Flow.moved]
  have htotal := hcounted.cumulative .sequencer
  have hmax : vault.toNat ≤ Amount.maxNat := vault.le_max
  rw [hstart, Counter.flow, Counter.side, hmoved] at htotal
  ext
  omega

/-- The revenue is the balance of the vault, and what has been seen to leave it. -/
theorem cumulative_sequencerFeeVault (h : StartsSpending a earlier r vault)
    (hr : (r.steps.map StepRecord.step).Nodup)
    (hcounted : Counted a b (stepsOf (earlier ++ [r]))) :
    (b.cumulative .sequencerFeeVault).toNat =
      min Amount.maxNat (vault.toNat +
        Flow.outflow.moved (balancesSeen a .sequencerFeeVault (stepsOf (earlier ++ [r])))) := by
  obtain ⟨x, hx, hbalance⟩ := h.l2
  have hseen : balancesSeen a .sequencerFeeVault (stepsOf (earlier ++ [r])) =
      balancesSeen a .sequencerFeeVault (stepsOf earlier) ++ [vault] := by
    have honce : completedOf .l2 r.steps = [x] := completedOf_eq_singleton hr hx
    simp [balancesSeen, Counter.side, completedOf_stepsOf_append, honce, hbalance]
  have htotal := hcounted.cumulative .sequencerFeeVault
  have hlast : (balancesSeen a .sequencerFeeVault (stepsOf (earlier ++ [r]))).getLast? =
      some vault := by
    simp [hseen]
  rw [htotal, startingTotal, Counter.flow, Counter.side]
  cases hlist : balancesSeen a .sequencerFeeVault (stepsOf (earlier ++ [r])) with
  | nil => simp [hlist] at hlast
  | cons first rest =>
    rw [hlist] at hlast
    have hboth := Flow.add_moved_inflow first vault rest hlast
    simp only [List.head?_cons, Option.map_some, Option.getD_some]
    rw [hboth]

/-- Both totals at the end of a run that has started without history. -/
theorem totals {σ : Type} {env : Answerer Query.Answer σ} {setup : Setup} {n : Nat}
    {s after : Service} {w : σ} (h : StartsSpending setup.accounts earlier r vault)
    (h0 : Counted setup.accounts s.billing [])
    (hhistory : history env setup n s w = earlier ++ [r])
    (hrun : ((ticks setup s n).run env w).1 = .ok after) :
    after.billing.cumulative .sequencer = vault ∧
      (after.billing.cumulative .sequencerFeeVault).toNat =
        min Amount.maxNat (vault.toNat + Flow.outflow.moved
          (balancesSeen setup.accounts .sequencerFeeVault (stepsOf (earlier ++ [r])))) := by
  have hr : (r.steps.map StepRecord.step).Nodup :=
    nodup_steps_of_mem_history (by rw [hhistory]; simp)
  have hcounted := Counted.ticks env setup n h0 hrun
  rw [hhistory] at hcounted
  exact ⟨h.cumulative_sequencer hr hcounted, h.cumulative_sequencerFeeVault hr hcounted⟩

end StartsSpending

/-- **How far the spending starts behind.** A service that finds no history has run for some ticks,
whatever failed in them; in the last one the first side is reconciled for the first time. Its
spending then is the balance of the vault, while its revenue is that balance and whatever has been
seen to leave the vault before. So the two agree if and only if nothing has, or the vault holds the
largest amount. -/
theorem spending_starts_short {σ : Type} (env : Answerer Query.Answer σ) (setup : Setup) {w : σ}
    (hl1 : (env.answer (.load .l1) w).1 = .ok none)
    (hl2 : (env.answer (.load .l2) (env.answer (.load .l1) w).2).1 = .ok none) :
    ∃ s w', started env setup w = (.ok s, w') ∧
      ∀ n earlier r after, history env setup n s w' = earlier ++ [r] →
        ((ticks setup s n).run env w').1 = .ok after →
        ∀ vault, StartsSpending setup.accounts earlier r vault →
          let left := Flow.outflow.moved
            (balancesSeen setup.accounts .sequencerFeeVault (stepsOf (earlier ++ [r])))
          after.billing.cumulative .sequencer = vault ∧
            (after.billing.cumulative .sequencerFeeVault).toNat =
              min Amount.maxNat (vault.toNat + left) ∧
            (after.billing.cumulative .sequencer = after.billing.cumulative .sequencerFeeVault ↔
              left = 0 ∨ vault.toNat = Amount.maxNat) := by
  refine ⟨_, _, started_of_loaded setup hl1 hl2, ?_⟩
  intro n earlier r after hhistory hrun vault hstarts left
  obtain ⟨hspending, hrevenue⟩ := hstarts.totals Counted.empty hhistory hrun
  refine ⟨hspending, hrevenue, ?_⟩
  have hmax : vault.toNat ≤ Amount.maxNat := vault.le_max
  rw [hspending, Amount.ext_iff, hrevenue]
  change vault.toNat = min Amount.maxNat (vault.toNat + left) ↔ _
  omega

/-- Surroundings in which the first layer cannot be reached during the first tick, and in which
sixty of a hundred leave the vault before the second one. The state counts how often the time has
been asked for, twice in a tick. -/
def withdrawing : Answerer Query.Answer Nat where
  answer q n :=
    match q with
    | .balance .l1 _ => (if n < 2 then .error (.storage .refused) else .ok (Amount.clamp 10), n)
    | .balance .l2 _ => (.ok (Amount.clamp (if n < 2 then 100 else 40)), n)
    | .tokenBalance .. => (.ok 0, n)
    | .commit _ => (.ok (), n)
    | .load _ => (.ok none, n)
    | .uptime => (⟨n⟩, n + 1)
    | q => (q.refused, n)

/-- A service without history in these surroundings. -/
theorem started_withdrawing : started withdrawing Setup.plain 0 = (.ok Service.fresh, 0) := rfl

/-- Two ticks in these surroundings. -/
def withdrawingTicks : List TickRecord := history withdrawing Setup.plain 2 Service.fresh 0

theorem withdrawingTicks_ne_nil : withdrawingTicks ≠ [] := nofun

theorem history_withdrawing :
    history withdrawing Setup.plain 2 Service.fresh 0 = withdrawingTicks.dropLast ++
      [withdrawingTicks.getLast withdrawingTicks_ne_nil] :=
  (List.dropLast_concat_getLast withdrawingTicks_ne_nil).symm

theorem startsSpending_withdrawing :
    StartsSpending Setup.plain.accounts withdrawingTicks.dropLast
      (withdrawingTicks.getLast withdrawingTicks_ne_nil) (Amount.clamp 40) where
  unseeded := List.isEmpty_iff.1 (by decide +kernel)
  l1 := by
    have hany : ((completedOf .l1 (withdrawingTicks.getLast withdrawingTicks_ne_nil).steps).any
        fun x => x.vault? Setup.plain.accounts = some (Amount.clamp 40)) = true := by
      decide +kernel
    simpa only [List.any_eq_true, decide_eq_true_eq] using hany
  l2 := by
    have hany : ((completedOf .l2 (withdrawingTicks.getLast withdrawingTicks_ne_nil).steps).any
        fun x => x.balance? Setup.plain.accounts .sequencerFeeVault =
          some (Amount.clamp 40)) = true := by
      decide +kernel
    simpa only [List.any_eq_true, decide_eq_true_eq] using hany

/-- The spending starts at forty, and the revenue stands at a hundred. -/
theorem spending_withdrawing :
    (withdrawing.answer (.load .l1) 0).1 = .ok none ∧
      (withdrawing.answer (.load .l2) (withdrawing.answer (.load .l1) 0).2).1 = .ok none ∧
      ∃ after, ((ticks Setup.plain Service.fresh 2).run withdrawing 0).1 = .ok after ∧
        after.billing.cumulative .sequencer = Amount.clamp 40 ∧
        (after.billing.cumulative .sequencerFeeVault).toNat = 100 := by
  have hl1 : (withdrawing.answer (.load .l1) 0).1 = .ok none := rfl
  have hl2 : (withdrawing.answer (.load .l2) (withdrawing.answer (.load .l1) 0).2).1 =
      .ok none := rfl
  obtain ⟨s, w, hstarted, hrun⟩ := spending_starts_short withdrawing Setup.plain hl1 hl2
  obtain ⟨rfl, rfl⟩ : Service.fresh = s ∧ 0 = w := by simpa [started_withdrawing] using hstarted
  obtain ⟨after, hafter⟩ := ticks_run_isOk Setup.isScalable_plain withdrawing Service.fresh 2 0
  obtain ⟨hspending, hrevenue, -⟩ :=
    hrun 2 _ _ after history_withdrawing hafter _ startsSpending_withdrawing
  refine ⟨hl1, hl2, after, hafter, hspending, ?_⟩
  rw [hrevenue]
  decide +kernel

/-- In a tick that reconciles the first side for the first time, and the second side with the same
balance of the vault, spending and revenue may come out different. -/
theorem withdrawing_misaligned :
    started withdrawing Setup.plain 0 = (.ok Service.fresh, 0) ∧
      StartsSpending Setup.plain.accounts withdrawingTicks.dropLast
        (withdrawingTicks.getLast withdrawingTicks_ne_nil) (Amount.clamp 40) ∧
      ∃ after, ((ticks Setup.plain Service.fresh 2).run withdrawing 0).1 = .ok after ∧
        after.billing.cumulative .sequencer ≠ after.billing.cumulative .sequencerFeeVault := by
  refine ⟨started_withdrawing, startsSpending_withdrawing, ?_⟩
  obtain ⟨after, hafter⟩ := ticks_run_isOk Setup.isScalable_plain withdrawing Service.fresh 2 0
  obtain ⟨hspending, hrevenue⟩ :=
    startsSpending_withdrawing.totals Counted.empty history_withdrawing hafter
  refine ⟨after, hafter, fun hsame => ?_⟩
  rw [← hsame, hspending] at hrevenue
  revert hrevenue
  decide +kernel

end RollupFees
