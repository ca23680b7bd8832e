import RollupFees.Proofs.Contract
import RollupFees.Proofs.History

/-!
# What each step may ask

A step of a tick asks only the questions of its own business. This is what keeps the steps apart:
no ledger step writes a parameter, and no parameter step touches a balance or a snapshot. Nor does
anything that the surroundings answer break a step down. The one calculation that may have no answer
is that of a limited move, and it has one wherever the fraction of the limit can be scaled.

Both are told by the contracts that a step honours.

## Main definitions

* `TickStep.mayAsk` : the questions of a step
* `ControllerSettings.IsScalable` : every limit has a fraction that can be scaled

## Main results

* `honours_runStep` : a step asks no questions but its own, and commits what it has settled
-/

namespace RollupFees

/-- The questions of a step, whatever it meets. -/
def TickStep.mayAsk : TickStep → Query → Bool
  | _, .note _ => true
  | .refreshPrices, .latestAnswer _ | .refreshPrices, .now => true
  | .reconcileL1, .balance .. | .reconcileL1, .now => true
  | .reconcileL1, .commit s => s.side = .l1
  | .reconcileL2, .balance .. | .reconcileL2, .tokenBalance .. | .reconcileL2, .now => true
  | .reconcileL2, .commit s => s.side = .l2
  | .priceRatio, .priceRatio | .priceRatio, .priceRatioDecimals => true
  | .overhead, .overhead | .overhead, .blockNumber | .overhead, .batchEvents .. => true
  | .overhead, .receipt _ => true
  | .l1BaseFee, .gasPrice | .l1BaseFee, .l1BaseFee => true
  | .priceRatio, .submit _ | .overhead, .submit _ | .l1BaseFee, .submit _ => true
  | .priceRatio, .confirmation .. | .overhead, .confirmation .. => true
  | .l1BaseFee, .confirmation .. => true
  | .priceRatio, .shutdownRequested | .overhead, .shutdownRequested => true
  | .l1BaseFee, .shutdownRequested => true
  | _, _ => false

/-- Whether a question is to commit a snapshot. -/
def Query.isCommit : Query → Bool
  | .commit _ => true
  | _ => false

/-! ### Limits -/

/-- Whatever its target, a parameter knows what to do. -/
def Bounds.IsScalable (bounds : Bounds) : Prop :=
  ∀ target current, ∃ action, bounds.decide target current = .ok action

/-- Every parameter knows what to do. -/
structure ControllerSettings.IsScalable (c : ControllerSettings) : Prop where
  priceRatio : c.priceRatio.IsScalable
  overhead : c.overhead.IsScalable

/-- A limit that can be scaled is all that a calculation needs. -/
theorem Bounds.isScalable_of_partsPerMillion {bounds : Bounds}
    (h : ∀ f, bounds.maxDeltaFraction = some f → ∃ n, partsPerMillion f = .ok n) :
    bounds.IsScalable := by
  intro target current
  have hnext : ∃ next, nextValue target current bounds.maxDeltaFraction = .ok next := by
    cases hf : bounds.maxDeltaFraction with
    | none => exact ⟨_, rfl⟩
    | some f =>
      obtain ⟨n, hn⟩ := h f hf
      by_cases hcurrent : current = 0
      · exact ⟨some target, by simp only [nextValue, if_pos hcurrent]⟩
      · refine ⟨limitedMove target current n, ?_⟩
        simp only [nextValue, if_neg hcurrent, hn]
        rfl
  obtain ⟨next, hnext⟩ := hnext
  rw [Bounds.decide]
  cases bounds.worthMoving target current with
  | some reason => exact ⟨_, rfl⟩
  | none =>
    simp only [hnext]
    exact ⟨_, rfl⟩

/-- A parameter that moves straight to its target needs no limit. -/
theorem Bounds.isScalable_band (bounds : Bounds) : bounds.band.IsScalable := by
  refine isScalable_of_partsPerMillion ?_
  intro f hf
  cases hf

variable {c : Contract Query.Answer} {breaks : Prop}

namespace Step

open Dialogue (honours_of_allowed)

theorem honours_receipts (h : ∀ tx, c.allowed (.receipt tx)) (hashes : List Hash) :
    Honours c breaks (fun _ => True) (receipts hashes) := by
  induction hashes with
  | nil => exact honours_pure trivial
  | cons tx rest ih =>
    refine Honours.bind (honours_read (honours_of_allowed (h tx))) fun _ _ => ?_
    exact Honours.bind ih fun _ _ => honours_pure trivial

/-! ### The ledgers -/

section Ledgers

theorem honours_commit (hnote : ∀ n, c.allowed (.note n)) {s : Snapshot}
    (h : c.allowed (.commit s)) : Honours c breaks (fun _ => True) (commit s) := by
  refine Honours.bind (honours_ask h fun _ _ => trivial) ?_
  rintro (e | _) -
  · exact Honours.bind (honours_note hnote _) fun _ _ => honours_fail e
  · exact honours_pure trivial

/-- Bringing a ledger up to date asks for the time and commits what has been settled by then. -/
theorem honours_reconcileLedger (hnote : ∀ n, c.allowed (.note n)) (hnow : c.allowed .now)
    {side : Side} {committed : Option (CounterMap CounterState)}
    {balances baselines : CounterMap Amount}
    (hcommit : ∀ now, c.promised .now now → c.allowed (.commit
      ⟨side, (settle side (committed.getD CounterMap.empty) balances baselines).counters, now⟩)) :
    Honours c breaks (fun _ => True) (reconcileLedger side committed balances baselines) := by
  refine Honours.bind (honours_notes hnote _) fun _ _ => ?_
  refine Honours.bind (honours_ask hnow fun _ hr => hr) fun now hpromised => ?_
  refine Honours.bind (honours_commit hnote (hcommit now hpromised)) fun _ _ => ?_
  exact honours_pure trivial

theorem honours_l1Baselines (hnote : ∀ n, c.allowed (.note n)) {accounts : Accounts}
    (hbalance : c.allowed (.balance .l2 accounts.sequencerFeeVault)) (b : Billing) :
    Honours c breaks (fun _ => True) (l1Baselines accounts b) := by
  rw [l1Baselines]
  split
  · exact honours_pure trivial
  · refine Honours.bind (honours_read (honours_of_allowed hbalance)) fun _ _ => ?_
    exact Honours.bind (honours_note hnote _) fun _ _ => honours_pure trivial

variable {b : Billing}

theorem honours_reconcileL1 (accounts : Accounts)
    (h : ∀ q, TickStep.reconcileL1.mayAsk q = true → q.isCommit = false → c.allowed q)
    (hcommit : ∀ balances baselines now, c.promised .now now → c.allowed (.commit
      ⟨.l1, (settle .l1 (b.counters .l1) balances baselines).counters, now⟩)) :
    Honours c breaks (fun _ => True) (reconcileL1 accounts b) := by
  have hnote : ∀ n, c.allowed (.note n) := fun _ => h _ rfl rfl
  have hbalance : ∀ side account, c.allowed (.balance side account) := fun _ _ => h _ rfl rfl
  have hread : ∀ side account, Honours c breaks (fun _ => True) (balance side account) :=
    fun side account => honours_read (honours_of_allowed (hbalance side account))
  refine Honours.bind (hread ..) fun _ _ => Honours.bind (hread ..) fun _ _ =>
    Honours.bind (hread ..) fun _ _ => Honours.bind (hread ..) fun _ _ => ?_
  refine Honours.bind (honours_l1Baselines hnote (hbalance ..) b) fun baselines _ => ?_
  refine Honours.bind (honours_reconcileLedger hnote (h _ rfl rfl) ?_) fun _ _ => ?_
  · rw [b.committed_getD]
    exact hcommit _ baselines
  · exact Honours.bind (honours_notes hnote _) fun _ _ => honours_pure trivial

theorem honours_reconcileL2 (accounts : Accounts) (prices : PriceBook)
    (h : ∀ q, TickStep.reconcileL2.mayAsk q = true → q.isCommit = false → c.allowed q)
    (hcommit : ∀ balances baselines now, c.promised .now now → c.allowed (.commit
      ⟨.l2, (settle .l2 (b.counters .l2) balances baselines).counters, now⟩)) :
    Honours c breaks (fun _ => True) (reconcileL2 accounts b prices) := by
  have hnote : ∀ n, c.allowed (.note n) := fun _ => h _ rfl rfl
  refine Honours.bind (honours_read (honours_of_allowed (h _ rfl rfl))) fun _ _ => ?_
  refine Honours.bind (honours_read (honours_of_allowed (h _ rfl rfl))) fun _ _ => ?_
  refine Honours.bind (honours_read (honours_of_allowed (h _ rfl rfl))) fun _ _ => ?_
  refine Honours.bind (honours_reconcileLedger hnote (h _ rfl rfl) ?_) fun _ _ => ?_
  · rw [b.committed_getD]
    exact hcommit _ _
  · refine Honours.bind (honours_notes hnote _) fun _ _ => ?_
    exact Honours.bind (honours_notes hnote _) fun _ _ => honours_pure trivial

end Ledgers

/-! ### The parameters -/

section Parameters

variable (hnote : ∀ n, c.allowed (.note n))
include hnote

theorem honours_skip (parameter : Parameter) (current : Amount) (target : Option Amount)
    (reason : SkipReason) :
    Honours c breaks (fun _ => True) (skip parameter current target reason) :=
  Honours.bind (honours_note hnote _) fun _ _ => honours_pure trivial

variable (hstop : c.allowed .shutdownRequested) (hsubmit : ∀ u, c.allowed (.submit u))
  (hwait : ∀ p tx limit, c.allowed (.confirmation p tx limit))
include hstop hsubmit hwait

theorem honours_apply (limit : Duration) (u : Update) :
    Honours c breaks (fun _ => True) (apply limit u) := by
  refine Honours.bind (honours_ask hstop fun _ _ => trivial) ?_
  rintro (_ | _) -
  · refine Honours.bind (honours_read (honours_of_allowed (hsubmit u))) fun tx _ => ?_
    refine Honours.bind (honours_note hnote _) fun _ _ => ?_
    refine Honours.bind (honours_ask (hwait ..) fun _ _ => trivial) ?_
    rintro ((_ | _) | _ | _) -
    · exact honours_fail _
    · exact honours_pure trivial
    · exact honours_fail _
    · exact Honours.bind (honours_note hnote _) fun _ _ => honours_fail _
  · exact honours_fail _

/-- A parameter with a limit that can be scaled is moved, or left alone, without a breakdown. -/
theorem honours_moveToward {bounds : Bounds} (h : bounds.IsScalable ∨ breaks) (limit : Duration)
    (parameter : Parameter) (current target : Amount) (update : Amount → Update) :
    Honours c breaks (fun _ => True)
      (moveToward limit bounds parameter current target update) := by
  refine Honours.bind (honours_compute (h.imp_left fun h => h target current)) fun action _ => ?_
  refine Honours.bind (honours_notes hnote _) fun _ _ => ?_
  cases action with
  | noOp reason => exact honours_skip hnote ..
  | setTo v =>
    refine Honours.bind (honours_apply hnote hstop hsubmit hwait limit _) fun _ _ => ?_
    exact Honours.bind (honours_note hnote _) fun _ _ => honours_pure trivial

end Parameters

theorem honours_updatePriceRatio {s : ControllerSettings} (hscale : s.IsScalable ∨ breaks)
    (prices : PriceBook)
    (h : ∀ q, TickStep.priceRatio.mayAsk q = true → q.isCommit = false → c.allowed q) :
    Honours c breaks (fun _ => True) (updatePriceRatio s prices) := by
  have hnote : ∀ n, c.allowed (.note n) := fun _ => h _ rfl rfl
  refine Honours.bind (honours_read (honours_of_allowed (h _ rfl rfl))) fun current _ => ?_
  refine Honours.bind (honours_read (honours_of_allowed (h _ rfl rfl))) fun decimals _ => ?_
  dsimp only
  split
  · exact honours_skip hnote ..
  · refine Honours.bind (honours_note hnote _) fun _ _ => ?_
    exact honours_moveToward hnote (h _ rfl rfl) (fun _ => h _ rfl rfl) (fun _ _ _ => h _ rfl rfl)
      (hscale.imp_left ControllerSettings.IsScalable.priceRatio) ..

theorem honours_totalGas (hashes : List Hash) (found : List (Option Receipt)) :
    Honours c breaks (fun _ => True) (totalGas hashes found) := by
  simp only [totalGas]
  generalize (0 : Amount) = sum
  induction hashes.zip found generalizing sum with
  | nil => exact honours_pure trivial
  | cons x rest ih =>
    rw [List.foldlM_cons]
    refine @Honours.bind _ _ _ _ (fun _ => True) _ _ _ ?_ fun sum _ => ih sum
    split
    · exact honours_pure trivial
    · exact honours_fail _

theorem honours_updateOverhead {s : ControllerSettings} (hscale : s.IsScalable ∨ breaks)
    (h : ∀ q, TickStep.overhead.mayAsk q = true → q.isCommit = false → c.allowed q) :
    Honours c breaks (fun _ => True) (updateOverhead s) := by
  have hnote : ∀ n, c.allowed (.note n) := fun _ => h _ rfl rfl
  refine Honours.bind (honours_read (honours_of_allowed (h _ rfl rfl))) fun current _ => ?_
  refine Honours.bind (honours_read (honours_of_allowed (h _ rfl rfl))) fun latest _ => ?_
  refine Honours.bind (honours_read (honours_of_allowed (h _ rfl rfl))) fun events _ => ?_
  split
  · exact Honours.bind (honours_note hnote _) fun _ _ => honours_skip hnote ..
  · refine Honours.bind (honours_receipts (fun _ => h _ rfl rfl) _) fun found _ => ?_
    refine Honours.bind (honours_totalGas _ _) fun gas _ => ?_
    dsimp only
    split
    · exact honours_skip hnote ..
    · refine Honours.bind (honours_note hnote _) fun _ _ => ?_
      exact honours_moveToward hnote (h _ rfl rfl) (fun _ => h _ rfl rfl)
        (fun _ _ _ => h _ rfl rfl) (hscale.imp_left ControllerSettings.IsScalable.overhead) ..

theorem honours_updateL1BaseFee (s : ControllerSettings)
    (h : ∀ q, TickStep.l1BaseFee.mayAsk q = true → q.isCommit = false → c.allowed q) :
    Honours c breaks (fun _ => True) (updateL1BaseFee s) := by
  have hnote : ∀ n, c.allowed (.note n) := fun _ => h _ rfl rfl
  refine Honours.bind (honours_read (honours_of_allowed (h _ rfl rfl))) fun target _ => ?_
  refine Honours.bind (honours_read (honours_of_allowed (h _ rfl rfl))) fun current _ => ?_
  refine Honours.bind (honours_note hnote _) fun _ _ => ?_
  exact honours_moveToward hnote (h _ rfl rfl) (fun _ => h _ rfl rfl) (fun _ _ _ => h _ rfl rfl)
    (.inl s.l1BaseFee.isScalable_band) ..

end Step

/-! ### Steps of a tick -/

theorem honours_refreshPrices (book : PriceBook)
    (h : ∀ q, TickStep.refreshPrices.mayAsk q = true → q.isCommit = false → c.allowed q) :
    (refreshPrices book).Honours c fun _ => True := by
  refine Dialogue.Honours.bind (Dialogue.honours_of_allowed (h _ rfl rfl)) fun native _ => ?_
  refine Dialogue.Honours.bind (Dialogue.honours_of_allowed (h _ rfl rfl)) fun secondary _ => ?_
  refine Dialogue.Honours.bind (Dialogue.honours_of_allowed (h _ rfl rfl)) fun now _ => ?_
  have hnotes : ∀ ns, Step.Honours c True (fun _ => True) (Step.notes ns) :=
    Step.honours_notes fun n => h (.note n) rfl rfl
  exact Dialogue.Honours.bind (hnotes _) fun _ _ => trivial

/-- What a tick makes of the result of a step asks nothing and breaks nothing down. -/
theorem Step.Honours.taken {α : Type} {x : Step α} {f : Except Stop α → Talk (Service × StepResult)}
    (hx : x.Honours c breaks fun _ => True)
    (hf : ∀ r, ∃ s g, f r = .done (s, r.map g)) :
    (x.run.bind f).Honours c fun y => Step.Ends breaks (fun _ => True) y.2 := by
  refine Dialogue.Honours.bind hx fun r hr => ?_
  obtain ⟨s, g, hdone⟩ := hf r
  rw [hdone]
  cases r with
  | error stop => cases stop <;> exact hr
  | ok a => trivial

theorem honours_runLedgerStep {s : Service} {x : Step Billing}
    (hx : x.Honours c breaks fun _ => True) :
    (runLedgerStep s x).Honours c fun r => Step.Ends breaks (fun _ => True) r.2 :=
  hx.taken fun r => by cases r <;> exact ⟨_, fun _ => none, rfl⟩

theorem honours_runParameterStep {s : Service} {x : Step ParameterOutcome}
    (hx : x.Honours c breaks fun _ => True) :
    (runParameterStep s x).Honours c fun r => Step.Ends breaks (fun _ => True) r.2 :=
  hx.taken fun _ => ⟨s, some, rfl⟩

/-- A step asks no questions but its own, and commits no snapshot but what it has settled. It breaks
down only if a limit cannot be scaled. -/
theorem honours_runStep (setup : Setup) (s : Service) (step : TickStep)
    (h : ∀ q, step.mayAsk q = true → q.isCommit = false → c.allowed q)
    (hcommit : ∀ side balances baselines now,
      let snapshot := ⟨side, (settle side (s.billing.counters side) balances baselines).counters, now⟩
      step.mayAsk (.commit snapshot) = true → c.promised .now now → c.allowed (.commit snapshot)) :
    (runStep setup s step).Honours c fun x =>
      Step.Ends (¬ setup.controller.IsScalable) (fun _ => True) x.2 := by
  have hscale := Classical.em setup.controller.IsScalable
  cases step with
  | refreshPrices =>
    refine Dialogue.Honours.bind (honours_refreshPrices _ h) ?_
    rintro ⟨book, _ | failure⟩ - <;> trivial
  | reconcileL1 =>
    refine honours_runLedgerStep (Step.honours_reconcileL1 _ h ?_)
    exact fun balances baselines now => hcommit .l1 balances baselines now rfl
  | reconcileL2 =>
    refine honours_runLedgerStep (Step.honours_reconcileL2 _ _ h ?_)
    exact fun balances baselines now => hcommit .l2 balances baselines now rfl
  | priceRatio => exact honours_runParameterStep (Step.honours_updatePriceRatio hscale _ h)
  | overhead => exact honours_runParameterStep (Step.honours_updateOverhead hscale h)
  | l1BaseFee => exact honours_runParameterStep (Step.honours_updateL1BaseFee _ h)

/-- A step asks no questions but its own. -/
theorem asks_runStep (setup : Setup) (s : Service) (step : TickStep) :
    (runStep setup s step).Asks fun q => step.mayAsk q = true :=
  (honours_runStep setup s step (fun _ hq _ => hq) fun _ _ _ _ hq _ => hq).asks

end RollupFees
