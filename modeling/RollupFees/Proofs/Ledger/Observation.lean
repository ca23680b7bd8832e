import RollupFees.Proofs.History

/-!
# What a completed reconciliation has seen

A reconciliation that is completed has read the balance of every counter of its side, in order, and
has brought each counter up to date with the balance read for it. One that is not completed has left
the billing as it was.

## Main definitions

* `Accounts.question` : the question whose answer is the balance of a counter
* `readings` : the balances that were read, with the questions
* `Reconciled` : how a completed reconciliation changes the billing
-/

namespace RollupFees

/-- The question whose answer is the balance of a counter. -/
def Accounts.question (a : Accounts) : Counter → Query
  | .sequencer => .balance .l1 a.sequencer
  | .proposer => .balance .l1 a.proposer
  | .relayer => .balance .l1 a.relayer
  | .fastRelayer => .balance .l1 a.fastRelayer
  | .sequencerFeeVault => .balance .l2 a.sequencerFeeVault
  | .secondaryFeeTokenVault => .tokenBalance a.secondaryFeeToken a.secondaryFeeTokenVault
  | .billingContract => .balance .l2 a.billingContract

/-- The question whose answer is the base line of the sequencer. -/
def Accounts.vaultQuestion (a : Accounts) : Query := .balance .l2 a.sequencerFeeVault

/-- The balance that an exchange has brought, with the question. -/
def Exchange.reading? : Exchange Query.Answer → Option (Query × Amount)
  | ⟨.balance side account, .ok b⟩ => some (.balance side account, b)
  | ⟨.tokenBalance token holder, .ok b⟩ => some (.tokenBalance token holder, b)
  | _ => none

/-- The balances that were read, in order. -/
def readings (xs : List (Exchange Query.Answer)) : List (Query × Amount) :=
  xs.filterMap Exchange.reading?

@[simp] theorem readings_append (xs ys : List (Exchange Query.Answer)) :
    readings (xs ++ ys) = readings xs ++ readings ys := List.filterMap_append

@[simp] theorem readings_notes (ns : List Notice) :
    readings (ns.map fun n => ⟨.note n, ()⟩) = [] := by
  simp [readings, List.filterMap_map, Exchange.reading?]

/-- The readings of all counters of a side. -/
def Accounts.readingsOf (a : Accounts) (side : Side) (seen : Counter → Amount) :
    List (Query × Amount) :=
  side.counters.map fun c => (a.question c, seen c)

/-- The balances of a side. -/
def balancesOf (side : Side) (seen : Counter → Amount) : CounterMap Amount :=
  CounterMap.ofFn fun c => if c.side = side then some (seen c) else none

@[simp] theorem get?_balancesOf (side : Side) (seen : Counter → Amount) (c : Counter) :
    (balancesOf side seen).get? c = if c.side = side then some (seen c) else none :=
  CounterMap.get?_ofFn _ c

theorem Step.isSeeded_eq (b : Billing) :
    isSeeded b = ((b.counters .l1).get? .sequencer).isSome := by
  rw [isSeeded, Billing.committed]
  split
  · next h => simp [CounterMap.isEmpty_iff.1 h]
  · simp

/-- What a side comes to when its balances are seen. -/
def Billing.settledUpdate (b : Billing) (side : Side) (seen : Counter → Amount)
    (baselines : CounterMap Amount) (now : Timestamp) : LedgerUpdate :=
  let s := settle side (b.counters side) (balancesOf side seen) baselines
  ⟨⟨side, s.counters, now⟩, s.accrued, s.raised⟩

/-- The warnings about the totals that were raised. -/
def Settlement.warnings (s : Settlement) (balances : CounterMap Amount) : List Notice :=
  s.raised.toList.map fun e => raiseNotice e.1 e.2 ((balances.get? e.1).getD 0)

/-- How a completed reconciliation of a side changes the billing. The first side reads a base line
if the sequencer has no entry yet; on the second side the balances are the base lines. -/
inductive Reconciled (a : Accounts) (b : Billing) :
    Side → List (Query × Amount) → Billing → Prop
  | seeding (seen : Counter → Amount) (vault : Amount) (now : Timestamp)
      (unseeded : (b.counters .l1).get? .sequencer = none) :
      Reconciled a b .l1 (a.readingsOf .l1 seen ++ [(a.vaultQuestion, vault)])
        (b.apply (b.settledUpdate .l1 seen (CounterMap.empty.set .sequencer vault) now))
  | seeded (seen : Counter → Amount) (now : Timestamp)
      (seeded : (b.counters .l1).get? .sequencer ≠ none) :
      Reconciled a b .l1 (a.readingsOf .l1 seen)
        (b.apply (b.settledUpdate .l1 seen CounterMap.empty now))
  | collecting (seen : Counter → Amount) (now : Timestamp) :
      Reconciled a b .l2 (a.readingsOf .l2 seen)
        (b.apply (b.settledUpdate .l2 seen (balancesOf .l2 seen) now))

namespace Step

variable {xs : List (Exchange Query.Answer)} {accounts : Accounts} {b after : Billing}

/-- A snapshot is committed once, and only a failure is followed by a log line. -/
theorem path_commit {s : Snapshot} {reply : Except Stop Unit} (h : Path (commit s) xs reply) :
    (xs = [⟨.commit s, .ok ()⟩] ∧ reply = .ok ()) ∨
      ∃ f n, xs = [⟨.commit s, .error f⟩, ⟨.note n, ()⟩] ∧ reply = .error (.failed f) := by
  rw [commit] at h
  obtain ⟨f | _, ys, rfl, h'⟩ := path_ask_bind.1 h
  · obtain ⟨_, rfl, hfail⟩ := path_note_bind.1 h'
    obtain ⟨rfl, rfl⟩ := path_fail.1 hfail
    exact .inr ⟨f, _, rfl, rfl⟩
  · obtain ⟨rfl, rfl⟩ := path_pure.1 h'
    exact .inl ⟨rfl, rfl⟩

/-- The reconciliation of a ledger warns of what it raises, looks at the clock and commits once. It
is completed if the commit is, and fails with the failure of the commit otherwise. -/
theorem exchanges_reconcileLedger {side : Side} {committed : Option (CounterMap CounterState)}
    {balances baselines : CounterMap Amount} {reply : Except Stop LedgerUpdate}
    (h : Path (reconcileLedger side committed balances baselines) xs reply) :
    let s := settle side (committed.getD CounterMap.empty) balances baselines
    ∃ now,
      let start : List (Exchange Query.Answer) :=
        (s.warnings balances).map (fun n => ⟨.note n, ()⟩) ++ [⟨.now, now⟩]
      (xs = start ++ [⟨.commit ⟨side, s.counters, now⟩, .ok ()⟩] ∧
          reply = .ok ⟨⟨side, s.counters, now⟩, s.accrued, s.raised⟩) ∨
        ∃ f n, xs = start ++ [⟨.commit ⟨side, s.counters, now⟩, .error f⟩, ⟨.note n, ()⟩] ∧
          reply = .error (.failed f) := by
  rw [reconcileLedger] at h
  obtain ⟨_, rfl, h₁⟩ := path_notes_bind.1 h
  obtain ⟨now, _, rfl, h₂⟩ := path_ask_bind.1 h₁
  refine ⟨now, ?_⟩
  rcases path_bind.1 h₂ with ⟨stop, hcommit, rfl⟩ | ⟨_, _, _, rfl, hcommit, hpure⟩
  · obtain ⟨-, ⟨⟩⟩ | ⟨f, n, rfl, hstop⟩ := path_commit hcommit
    obtain rfl := Except.error.inj hstop
    exact .inr ⟨f, n, by simp [Settlement.warnings], rfl⟩
  · obtain ⟨rfl, -⟩ | ⟨f, n, -, ⟨⟩⟩ := path_commit hcommit
    obtain ⟨rfl, rfl⟩ := path_pure.1 hpure
    exact .inl ⟨by simp [Settlement.warnings], rfl⟩

/-- A ledger that is brought up to date has been settled, and nothing was read on the way. -/
theorem reconcileLedger_completed {side : Side} {balances baselines : CounterMap Amount}
    {u : LedgerUpdate}
    (h : Path (reconcileLedger side (b.committed side) balances baselines) xs (.ok u)) :
    readings xs = [] ∧ ∃ now,
      u = ⟨⟨side, (settle side (b.counters side) balances baselines).counters, now⟩,
        (settle side (b.counters side) balances baselines).accrued,
        (settle side (b.counters side) balances baselines).raised⟩ := by
  obtain ⟨now, ⟨rfl, hu⟩ | ⟨f, n, -, ⟨⟩⟩⟩ := exchanges_reconcileLedger h
  rw [Billing.committed_getD] at hu
  exact ⟨by simp [readings, Exchange.reading?], now, Except.ok.inj hu⟩

/-- The base line is read if it is needed, and only then. -/
theorem l1Baselines_completed {baselines : CounterMap Amount}
    (h : Path (l1Baselines accounts b) xs (.ok baselines)) :
    (∃ vault, (b.counters .l1).get? .sequencer = none ∧
        readings xs = [(accounts.vaultQuestion, vault)] ∧
        baselines = CounterMap.empty.set .sequencer vault) ∨
      (b.counters .l1).get? .sequencer ≠ none ∧ readings xs = [] ∧
        baselines = CounterMap.empty := by
  rw [l1Baselines] at h
  split at h
  · next hs =>
    obtain ⟨rfl, hb⟩ := path_pure.1 h
    rw [isSeeded_eq, Option.isSome_iff_ne_none] at hs
    exact .inr ⟨hs, rfl, by simpa using hb⟩
  · next hs =>
    obtain ⟨_, _, vault, rfl, hread, h'⟩ := path_bind_ok.1 h
    obtain rfl := path_balance_ok.1 hread
    obtain ⟨_, rfl, hpure⟩ := path_note_bind.1 h'
    obtain ⟨rfl, hb⟩ := path_pure.1 hpure
    rw [isSeeded_eq, Bool.not_eq_true, Option.isSome_eq_false_iff, Option.isNone_iff_eq_none] at hs
    exact .inl ⟨vault, hs, rfl, by simpa using hb⟩

/-- What has been seen of the first side. -/
private def l1Seen (sequencer proposer relayer fastRelayer : Amount) : Counter → Amount
  | .sequencer => sequencer
  | .proposer => proposer
  | .relayer => relayer
  | .fastRelayer => fastRelayer
  | _ => 0

/-- What has been seen of the second side. -/
private def l2Seen (vault secondary billing : Amount) : Counter → Amount
  | .sequencerFeeVault => vault
  | .secondaryFeeTokenVault => secondary
  | .billingContract => billing
  | _ => 0

/-- The first side has been brought up to date with the balances of its wallets. -/
theorem reconcileL1_completed (h : Path (reconcileL1 accounts b) xs (.ok after)) :
    Reconciled accounts b .l1 (readings xs) after := by
  rw [reconcileL1] at h
  obtain ⟨_, _, sequencer, rfl, hsequencer, h₁⟩ := path_bind_ok.1 h
  obtain ⟨_, _, proposer, rfl, hproposer, h₂⟩ := path_bind_ok.1 h₁
  obtain ⟨_, _, relayer, rfl, hrelayer, h₃⟩ := path_bind_ok.1 h₂
  obtain ⟨_, _, fastRelayer, rfl, hfast, h₄⟩ := path_bind_ok.1 h₃
  obtain ⟨_, _, baselines, rfl, hbase, h₅⟩ := path_bind_ok.1 h₄
  obtain ⟨_, _, update, rfl, hledger, h₆⟩ := path_bind_ok.1 h₅
  obtain ⟨_, rfl, hpure⟩ := path_notes_bind.1 h₆
  obtain rfl := path_balance_ok.1 hsequencer
  obtain rfl := path_balance_ok.1 hproposer
  obtain rfl := path_balance_ok.1 hrelayer
  obtain rfl := path_balance_ok.1 hfast
  obtain ⟨hnone, now, rfl⟩ := reconcileLedger_completed hledger
  obtain ⟨rfl, hafter⟩ := path_pure.1 hpure
  obtain rfl := Except.ok.inj hafter
  rcases l1Baselines_completed hbase with ⟨vault, hs, hv, rfl⟩ | ⟨hs, hv, rfl⟩
  · have := Reconciled.seeding (a := accounts) (b := b)
      (l1Seen sequencer proposer relayer fastRelayer) vault now hs
    simp only [readings_append, hnone, hv, readings_notes]
    exact this
  · have := Reconciled.seeded (a := accounts) (b := b)
      (l1Seen sequencer proposer relayer fastRelayer) now hs
    simp only [readings_append, hnone, hv, readings_notes]
    exact this

/-- The second side has been brought up to date with the balances of its vaults. -/
theorem reconcileL2_completed {prices : PriceBook}
    (h : Path (reconcileL2 accounts b prices) xs (.ok after)) :
    Reconciled accounts b .l2 (readings xs) after := by
  rw [reconcileL2] at h
  obtain ⟨_, _, vault, rfl, hvault, h₁⟩ := path_bind_ok.1 h
  obtain ⟨_, _, secondary, rfl, hsecondary, h₂⟩ := path_bind_ok.1 h₁
  obtain ⟨_, _, billing, rfl, hbilling, h₃⟩ := path_bind_ok.1 h₂
  obtain ⟨_, _, update, rfl, hledger, h₄⟩ := path_bind_ok.1 h₃
  obtain ⟨_, rfl, h₅⟩ := path_notes_bind.1 h₄
  obtain ⟨_, rfl, hpure⟩ := path_notes_bind.1 h₅
  obtain rfl := path_balance_ok.1 hvault
  obtain rfl := path_tokenBalance_ok.1 hsecondary
  obtain rfl := path_balance_ok.1 hbilling
  obtain ⟨hnone, now, rfl⟩ := reconcileLedger_completed hledger
  obtain ⟨rfl, hafter⟩ := path_pure.1 hpure
  obtain rfl := Except.ok.inj hafter
  have := Reconciled.collecting (a := accounts) (b := b) (l2Seen vault secondary billing) now
  simp only [readings_append, hnone, readings_notes]
  exact this

end Step

/-- The step that brings a side up to date. -/
def Side.step : Side → TickStep
  | .l1 => .reconcileL1
  | .l2 => .reconcileL2

@[simp] theorem Side.step_inj {side other : Side} : side.step = other.step ↔ side = other := by
  cases side <;> cases other <;> simp [Side.step]

/-- Bringing a ledger up to date changes the billing only if it is completed. -/
theorem billing_of_runLedgerStep {s after : Service} {x : Step Billing}
    {xs : List (Exchange Query.Answer)} {r : StepResult}
    (h : (runLedgerStep s x).Path xs (after, r)) :
    (r = .ok none ∧ Step.Path x xs (.ok after.billing)) ∨
      (∃ e, r = .error e) ∧ after.billing = s.billing := by
  obtain ⟨e | billing, hx, heq⟩ := path_runLedgerStep.1 h <;>
    obtain ⟨rfl, rfl⟩ := Prod.mk.inj heq
  · exact .inr ⟨⟨e, rfl⟩, rfl⟩
  · exact .inl ⟨rfl, hx⟩

/-- Refreshing the prices leaves the billing as it is. -/
theorem billing_of_refreshPrices {setup : Setup} {s after : Service}
    {xs : List (Exchange Query.Answer)} {r : StepResult}
    (h : (runStep setup s .refreshPrices).Path xs (after, r)) : after.billing = s.billing := by
  obtain ⟨ys, zs, ⟨book, _ | failure⟩, rfl, hx, rfl, heq⟩ := Dialogue.path_bind.1 h <;>
    rw [(Prod.mk.inj heq).1]

/-- A step of a tick changes the billing only if it is the completed reconciliation of a side. -/
theorem billing_of_runStep {setup : Setup} {s after : Service} {step : TickStep}
    {xs : List (Exchange Query.Answer)} {r : StepResult}
    (h : (runStep setup s step).Path xs (after, r)) :
    (∃ side, step = side.step ∧ r = .ok none ∧
        Reconciled setup.accounts s.billing side (readings xs) after.billing) ∨
      ((∀ side : Side, step = side.step → ∃ e, r = .error e) ∧ after.billing = s.billing) := by
  cases step with
  | refreshPrices =>
    refine .inr ⟨?_, billing_of_refreshPrices h⟩
    rintro (_ | _) ⟨⟩
  | reconcileL1 =>
    rcases billing_of_runLedgerStep h with ⟨rfl, hx⟩ | ⟨he, hb⟩
    · exact .inl ⟨.l1, rfl, rfl, Step.reconcileL1_completed hx⟩
    · exact .inr ⟨fun _ _ => he, hb⟩
  | reconcileL2 =>
    rcases billing_of_runLedgerStep h with ⟨rfl, hx⟩ | ⟨he, hb⟩
    · exact .inl ⟨.l2, rfl, rfl, Step.reconcileL2_completed hx⟩
    · exact .inr ⟨fun _ _ => he, hb⟩
  | priceRatio | overhead | l1BaseFee =>
    obtain ⟨_, -, heq⟩ := path_runParameterStep.1 h
    refine .inr ⟨?_, congrArg (fun y => y.1.billing) heq⟩
    rintro (_ | _) ⟨⟩

namespace Progress

variable {setup : Setup} {number : Nat} {p next : Progress} {step : TickStep}
  {xs : List (Exchange Query.Answer)}

@[simp] theorem readings_goAhead (step : TickStep) : readings (goAhead step) = [] := by
  cases step <;> rfl

/-- What a step of a tick does to the billing, by the status that is recorded. -/
theorem Advance.billing (h : Advance setup number p step xs (.ok next)) :
    (∃ side, step = side.step ∧ next.lastStatus = some .completed ∧
        Reconciled setup.accounts p.service.billing side (readings xs) next.service.billing) ∨
      ((∀ side : Side, step = side.step → next.lastStatus ≠ some .completed) ∧
        next.service.billing = p.service.billing) := by
  generalize hr : (Except.ok next : Except Breakdown Progress) = r at h
  cases h with
  | leftOut writes =>
    obtain rfl := Except.ok.inj hr
    exact .inr ⟨fun _ _ => by simp [report, lastStatus], rfl⟩
  | completed ran =>
    obtain rfl := Except.ok.inj hr
    rcases billing_of_runStep ran with ⟨side, hside, -, hb⟩ | ⟨hnone, hb⟩
    · exact .inl ⟨side, hside, by simp [lastStatus], by simpa using hb⟩
    · refine .inr ⟨fun side hside => ?_, hb⟩
      obtain ⟨_, ⟨⟩⟩ := hnone side hside
  | interrupted ran =>
    obtain rfl := Except.ok.inj hr
    rcases billing_of_runStep ran with ⟨_, -, ⟨⟩, -⟩ | ⟨-, hb⟩
    exact .inr ⟨fun _ _ => by simp [lastStatus], hb⟩
  | failed grave ran =>
    obtain rfl := Except.ok.inj hr
    rcases billing_of_runStep ran with ⟨_, -, ⟨⟩, -⟩ | ⟨-, hb⟩
    exact .inr ⟨fun _ _ => by simp [lastStatus], hb⟩
  | broken ran => cases hr

end Progress
end RollupFees
