import RollupFees.Proofs.Restart.Twins

/-!
# Ticks side by side

A tick brings the ledgers of two runs from the same counters to the same counters, with the same
outcome of both reconciliations. The other steps of the tick may go differently in each run.

## Main definitions

* `Progress.Matches` : two ticks that have done the same to the ledgers so far
* `tick_twins` : whole ticks, unless one of them breaks down
-/

namespace RollupFees

variable {κ ρ ρ' : Type} {c : Couple κ ρ ρ'} {l : Ledgers} {b b' : Billing}

/-- Billings that show the same counters have the same counters committed. -/
theorem Billing.Shows.committed_eq (h : b.Shows l) (h' : b'.Shows l) (side : Side) :
    b'.committed side = b.committed side := by
  rw [Billing.committed, Billing.committed, h side, h' side]

namespace Couple

open Step

theorem stepTwins_balance (side : Side) (account : Address) :
    c.StepTwins l l (balance side account) (balance side account) fun a b m => m = l ∧ a = b :=
  (twins_balance side account).need

theorem stepTwins_tokenBalance (token holder : Address) :
    c.StepTwins l l (tokenBalance token holder) (tokenBalance token holder)
      fun a b m => m = l ∧ a = b :=
  (twins_tokenBalance token holder).need

/-- What two runs make of the same counters and the same balances. -/
theorem stepTwins_reconcileLedger {side : Side} {committed : Option (CounterMap CounterState)}
    (hown : (committed.getD CounterMap.empty).IsOf side) (balances baselines : CounterMap Amount) :
    c.StepTwins l l (reconcileLedger side committed balances baselines)
      (reconcileLedger side committed balances baselines) fun u u' m =>
        u.snapshot.side = side ∧ u'.snapshot.side = side ∧
          u'.snapshot.counters = u.snapshot.counters ∧ m = l.put side u.snapshot.counters := by
  have hsettled : ∀ now, Snapshot.isOwn
      ⟨side, (settle side (committed.getD CounterMap.empty) balances baselines).counters, now⟩ =
        true := fun now => (Snapshot.isOwn_iff _).2 (hown.settle balances baselines)
  refine StepTwins.bind (stepTwins_notes _ _) ?_
  intro _ _ m hm
  subst hm
  refine StepTwins.bind twins_now.ask ?_
  intro now now' m hm
  obtain ⟨rfl, hnow, hnow'⟩ := hm
  refine StepTwins.bind (stepTwins_commit ⟨hsettled now, hnow⟩ ⟨hsettled now', hnow'⟩ rfl rfl) ?_
  intro _ _ m hm
  exact stepTwins_pure ⟨rfl, rfl, rfl, hm⟩

/-- The base line is read by both runs, or by none. -/
theorem stepTwins_l1Baselines (accounts : Accounts) (h : b.Shows l) (h' : b'.Shows l) :
    c.StepTwins l l (l1Baselines accounts b) (l1Baselines accounts b')
      fun x y m => m = l ∧ x = y := by
  have hseeded : isSeeded b' = isSeeded b := by
    rw [isSeeded, isSeeded, h.committed_eq h']
  rw [l1Baselines, l1Baselines, hseeded]
  by_cases hs : isSeeded b = true
  · rw [if_pos hs]
    exact stepTwins_pure ⟨rfl, rfl⟩
  · rw [if_neg hs]
    refine StepTwins.bind (stepTwins_balance _ _) ?_
    intro vault _ m hm
    obtain ⟨rfl, rfl⟩ := hm
    refine StepTwins.bind (stepTwins_note _ _) ?_
    intro _ _ m hm
    exact stepTwins_pure ⟨hm, rfl⟩

/-- The first side is brought from the same counters to the same counters. -/
theorem stepTwins_reconcileL1 (accounts : Accounts) (h : b.Shows l) (h' : b'.Shows l) :
    c.StepTwins l l (reconcileL1 accounts b) (reconcileL1 accounts b')
      fun x y m => x.Shows m ∧ y.Shows m := by
  intro w w' hw
  have hown : ((b.committed .l1).getD CounterMap.empty).IsOf .l1 := by
    rw [b.committed_getD, h .l1]
    exact hw.left.isOf .l1
  refine StepTwins.bind (stepTwins_balance .l1 accounts.sequencer) ?_ w w' hw
  intro sequencer _ m hm
  obtain ⟨rfl, rfl⟩ := hm
  refine StepTwins.bind (stepTwins_balance .l1 accounts.proposer) ?_
  intro proposer _ m hm
  obtain ⟨rfl, rfl⟩ := hm
  refine StepTwins.bind (stepTwins_balance .l1 accounts.relayer) ?_
  intro relayer _ m hm
  obtain ⟨rfl, rfl⟩ := hm
  refine StepTwins.bind (stepTwins_balance .l1 accounts.fastRelayer) ?_
  intro fastRelayer _ m hm
  obtain ⟨rfl, rfl⟩ := hm
  refine StepTwins.bind (stepTwins_l1Baselines accounts h h') ?_
  intro baselines _ m hm
  obtain ⟨rfl, rfl⟩ := hm
  rw [h.committed_eq h']
  refine StepTwins.bind (stepTwins_reconcileLedger hown _ baselines) ?_
  intro u u' m hm
  obtain ⟨hside, hside', hcounters, rfl⟩ := hm
  refine StepTwins.bind (stepTwins_notes _ _) ?_
  intro _ _ m hm
  subst hm
  refine stepTwins_pure ⟨?_, ?_⟩
  · rw [← hside]
    exact h.apply u
  · rw [← hside', ← hcounters]
    exact h'.apply u'

/-- The second side is brought from the same counters to the same counters, whatever the prices. -/
theorem stepTwins_reconcileL2 (accounts : Accounts) (h : b.Shows l) (h' : b'.Shows l)
    (prices prices' : PriceBook) :
    c.StepTwins l l (reconcileL2 accounts b prices) (reconcileL2 accounts b' prices')
      fun x y m => x.Shows m ∧ y.Shows m := by
  intro w w' hw
  have hown : ((b.committed .l2).getD CounterMap.empty).IsOf .l2 := by
    rw [b.committed_getD, h .l2]
    exact hw.left.isOf .l2
  refine StepTwins.bind (stepTwins_balance .l2 accounts.sequencerFeeVault) ?_ w w' hw
  intro vault _ m hm
  obtain ⟨rfl, rfl⟩ := hm
  refine StepTwins.bind (stepTwins_tokenBalance _ _) ?_
  intro secondary _ m hm
  obtain ⟨rfl, rfl⟩ := hm
  refine StepTwins.bind (stepTwins_balance .l2 accounts.billingContract) ?_
  intro billing _ m hm
  obtain ⟨rfl, rfl⟩ := hm
  rw [h.committed_eq h']
  refine StepTwins.bind (stepTwins_reconcileLedger hown _ _) ?_
  intro u u' m hm
  obtain ⟨hside, hside', hcounters, rfl⟩ := hm
  refine StepTwins.bind (stepTwins_notes _ _) ?_
  intro _ _ m hm
  subst hm
  refine StepTwins.bind (stepTwins_notes _ _) ?_
  intro _ _ m hm
  subst hm
  refine stepTwins_pure ⟨?_, ?_⟩
  · rw [← hside]
    exact h.apply u
  · rw [← hside', ← hcounters]
    exact h'.apply u'

end Couple

/-! ### Steps of a tick -/

/-- A step of a tick that does not bring a ledger up to date has nothing to do with the ledgers. -/
theorem TickStep.isElsewhere_of_mayAsk {step : TickStep} (hstep : ∀ side : Side, step ≠ side.step)
    {q : Query} (h : step.mayAsk q = true) : q.isElsewhere = true := by
  have h₁ : step ≠ .reconcileL1 := hstep .l1
  have h₂ : step ≠ .reconcileL2 := hstep .l2
  cases q with
  | balance | tokenBalance | load | commit =>
    cases step <;> first | exact absurd rfl h₁ | exact absurd rfl h₂ | cases h
  | _ => rfl

namespace Progress

variable {setup : Setup} {number : Nat} {p p' : Progress} {step : TickStep}

/-- How a step ended that has been reported. -/
def status? (p : Progress) (step : TickStep) : Option StepStatus :=
  (p.steps.find? fun s => s.1 = step).map Prod.snd

/-- Two ticks have done the same to the ledgers so far. -/
structure Matches (l : Ledgers) (p p' : Progress) : Prop where
  left : p.service.billing.Shows l
  right : p'.service.billing.Shows l
  statuses : ∀ side : Side, p.status? side.step = p'.status? side.step

theorem status?_append {q : Progress} {status : StepStatus}
    (h : q.steps = p.steps ++ [(step, status)]) (other : TickStep) :
    q.status? other = (p.status? other).or (if step = other then some status else none) := by
  rw [status?, status?, h, List.find?_append, Option.map_or]
  by_cases hstep : step = other
  · simp [hstep]
  · simp [hstep]

/-- A step that is not broken off is reported with some status. -/
theorem Advance.exists_status {xs : List (Exchange Query.Answer)} {next : Progress}
    (h : Advance setup number p step xs (.ok next)) :
    ∃ status, next.steps = p.steps ++ [(step, status)] := by
  generalize hr : (Except.ok next : Except Breakdown Progress) = r at h
  cases h with
  | broken ran => cases hr
  | _ =>
    obtain rfl := Except.ok.inj hr
    exact ⟨_, rfl⟩

/-- A step of a tick that does not bring a ledger up to date asks nothing about the ledgers. -/
theorem asks_advance (hstep : ∀ side : Side, step ≠ side.step) :
    (advance setup number p step).Asks fun q => q.isElsewhere = true := by
  have hloop : Contract.AllowsLoop (.asking fun q => q.isElsewhere = true) :=
    ⟨fun _ => rfl, rfl, rfl, fun _ => rfl⟩
  have hown : ∀ q, step.mayAsk q = true → q.isElsewhere = true :=
    fun q => step.isElsewhere_of_mayAsk hstep
  have hrun := honours_runStep (c := .asking fun q => q.isElsewhere = true) setup p.service step
    (fun q hq _ => hown q hq) fun _ _ _ _ hq _ => hown _ hq
  have hkeeps : ∀ xs a, (runStep setup p.service step).Path xs a → True := fun _ _ _ => trivial
  exact (honours_advance (I := fun _ => True) hloop number trivial (hrun.and_path hkeeps)).asks

end Progress

namespace Couple

variable {setup : Setup} {number number' : Nat} {p p' : Progress} {s s' : Service}

/-- Bringing a ledger up to date has the same outcome in both runs. -/
theorem twins_runLedgerStep {x x' : Step Billing} (h : s.billing.Shows l) (h' : s'.billing.Shows l)
    (hx : c.StepTwins l l x x' fun b b' m => b.Shows m ∧ b'.Shows m) :
    c.Twins l (runLedgerStep s x) (runLedgerStep s' x')
      fun r r' m => r.1.billing.Shows m ∧ r'.1.billing.Shows m ∧ r.2 = r'.2 := by
  refine Twins.bind hx ?_
  intro r r' m hr
  cases r with
  | ok billing =>
    cases r' with
    | ok billing' => exact twins_done ⟨hr.1, hr.2, rfl⟩
    | error e => exact hr.elim
  | error e =>
    cases r' with
    | ok billing' => exact hr.elim
    | error e' =>
      obtain ⟨rfl, rfl⟩ := hr
      exact twins_done ⟨h, h', rfl⟩

/-- An outcome is taken in alike, whatever the number of the tick. -/
theorem twins_settle (h : p.Matches l p') (step : TickStep) {m : Ledgers}
    (hs : s.billing.Shows m) (hs' : s'.billing.Shows m) (r : StepResult) :
    c.Twins m (p.settle number step s r) (p'.settle number' step s' r)
      fun r r' m => ∀ q q', r = .ok q → r' = .ok q' → q.Matches m q' := by
  have hmatches : ∀ (q q' : Progress) (status : StepStatus), q.service = s → q'.service = s' →
      q.steps = p.steps ++ [(step, status)] → q'.steps = p'.steps ++ [(step, status)] →
      q.Matches m q' := by
    intro q q' status hq hq' hsteps hsteps'
    refine ⟨by rw [hq]; exact hs, by rw [hq']; exact hs', ?_⟩
    intro side
    rw [Progress.status?_append hsteps, Progress.status?_append hsteps', h.statuses side]
  rcases r with (failure | b) | outcome
  · cases failure with
    | shutdown =>
      refine twins_done ?_
      intro q q' h h'
      cases h
      cases h'
      exact hmatches _ _ .cancelled rfl rfl rfl rfl
    | _ =>
      intro w w' hw
      refine ⟨m, ⟨hw.course, hw.left, hw.right⟩, ?_⟩
      intro q q' h h'
      cases h
      cases h'
      exact hmatches _ _ _ rfl rfl rfl rfl
  · refine twins_done ?_
    intro q q' h
    cases h
  · refine twins_done ?_
    intro q q' h h'
    cases h
    cases h'
    exact hmatches _ _ .completed rfl rfl rfl rfl

/-- A step of a tick does the same to the ledgers of both runs. -/
theorem twins_advance (h : p.Matches l p') (step : TickStep) :
    c.Twins l (Progress.advance setup number p step) (Progress.advance setup number' p' step)
      fun r r' m => ∀ q q', r = .ok q → r' = .ok q' → q.Matches m q' := by
  by_cases hstep : ∃ side : Side, step = side.step
  · obtain ⟨side, rfl⟩ := hstep
    have hledger : c.Twins l (runStep setup p.service side.step)
        (runStep setup p'.service side.step)
        fun r r' m => r.1.billing.Shows m ∧ r'.1.billing.Shows m ∧ r.2 = r'.2 := by
      cases side with
      | l1 => exact twins_runLedgerStep h.left h.right (stepTwins_reconcileL1 _ h.left h.right)
      | l2 => exact twins_runLedgerStep h.left h.right (stepTwins_reconcileL2 _ h.left h.right _ _)
    have hgo : ∀ n q, Progress.advance setup n q side.step =
        (runStep setup q.service side.step).bind fun x => q.settle n side.step x.1 x.2 := by
      intro n q
      cases side <;> rfl
    rw [hgo, hgo]
    refine Twins.bind hledger ?_
    intro x x' m hx
    rw [← hx.2.2]
    exact twins_settle h side.step hx.1 hx.2.1 x.2
  · have hother : ∀ side : Side, step ≠ side.step := fun side hside => hstep ⟨side, hside⟩
    have hkept : ∀ n (q : Progress) xs r, (Progress.advance setup n q step).Path xs r →
        ∀ next, r = .ok next → next.service.billing = q.service.billing ∧
          ∃ status, next.steps = q.steps ++ [(step, status)] := by
      intro n q xs r hpath next hnext
      subst hnext
      have hadvance := Progress.advance_of_path hpath
      rcases hadvance.billing with ⟨side, hside, -⟩ | ⟨-, hbilling⟩
      · exact absurd hside (hother side)
      · exact ⟨hbilling, hadvance.exists_status⟩
    refine Twins.mono (Twins.elsewhere (Progress.asks_advance hother) (Progress.asks_advance hother)
      (hkept number p) (hkept number' p')) ?_
    intro r r' m hr next next' hnext hnext'
    obtain ⟨rfl, hleft, hright⟩ := hr
    obtain ⟨hbilling, status, hsteps⟩ := hleft next hnext
    obtain ⟨hbilling', status', hsteps'⟩ := hright next' hnext'
    refine ⟨by rw [hbilling]; exact h.left, by rw [hbilling']; exact h.right, ?_⟩
    intro side
    rw [Progress.status?_append hsteps, Progress.status?_append hsteps', h.statuses side,
      if_neg (hother side), if_neg (hother side)]

end Couple
end RollupFees
