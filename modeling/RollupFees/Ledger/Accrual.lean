import RollupFees.Ledger

/-!
# Accrual

A balance that was seen at two moments tells what has flowed in between, in the direction that the
counter counts; a movement the other way only moves the base line. The first sight of a balance
counts nothing and starts the total at a given base line.

## Main definitions

* `Flow.accrued` : what a pair of balances counts
* `Flow.reconcile` : the next state of a counter and what it gained
* `Settlement` : a whole ledger brought up to date
* `settle` : the settlement for a side, balance by balance
-/

namespace RollupFees

/-- What the movement of a balance counts. -/
def Flow.accrued (flow : Flow) (before now : Amount) : Amount :=
  match flow with
  | .outflow => before.satSub now
  | .inflow => now.satSub before

/-- The next state of a counter, and what it gained. -/
def Flow.reconcile (flow : Flow) (now : Amount) (previous : Option CounterState)
    (baseline : Amount) : CounterState × Amount :=
  match previous with
  | none => (⟨now, baseline⟩, 0)
  | some before =>
    let gained := flow.accrued before.observed now
    (⟨now, before.cumulative.satAdd gained⟩, gained)

@[simp] theorem Flow.reconcile_none (flow : Flow) (now baseline : Amount) :
    flow.reconcile now none baseline = (⟨now, baseline⟩, 0) := rfl

@[simp] theorem Flow.reconcile_some (flow : Flow) (now : Amount) (before : CounterState)
    (baseline : Amount) :
    flow.reconcile now (some before) baseline =
      (⟨now, before.cumulative.satAdd (flow.accrued before.observed now)⟩,
        flow.accrued before.observed now) := rfl

/-- One counter brought up to date: its next state, what it gained, and the total that had to be
raised, if any. -/
structure Entry where
  state : CounterState
  gained : Amount
  raisedFrom : Option Amount
deriving DecidableEq

/-- Brings one counter up to date. A vault can never hold more than it has ever collected, so a
total below the balance is raised to it. -/
def Counter.settle (c : Counter) (now : Amount) (previous : Option CounterState)
    (baseline : Amount) : Entry :=
  let (next, gained) := c.flow.reconcile now previous baseline
  if c.flow = .inflow ∧ next.cumulative < now then
    ⟨⟨next.observed, now⟩, gained, some next.cumulative⟩
  else ⟨next, gained, none⟩

/-- A ledger brought up to date: its counters, what each one seen gained, and the totals that were
raised, with their values before. -/
structure Settlement where
  counters : CounterMap CounterState
  accrued : CounterMap Amount
  raised : CounterMap Amount
deriving DecidableEq

/-- The entries of the counters of a side whose balance was seen. -/
def settledEntry (side : Side) (committed : CounterMap CounterState)
    (balances baselines : CounterMap Amount) (c : Counter) : Option Entry :=
  if c.side = side then
    (balances.get? c).map fun now =>
      c.settle now (committed.get? c) ((baselines.get? c).getD 0)
  else none

/-- Brings a ledger up to date. Counters without a balance, and those of the other side, keep their
state. -/
def settle (side : Side) (committed : CounterMap CounterState)
    (balances baselines : CounterMap Amount) : Settlement :=
  let entry := settledEntry side committed balances baselines
  { counters := CounterMap.ofFn fun c => ((entry c).map Entry.state).or (committed.get? c)
    accrued := CounterMap.ofFn fun c => (entry c).map Entry.gained
    raised := CounterMap.ofFn fun c => (entry c).bind Entry.raisedFrom }

/-- The counters whose total was raised, in order. -/
def Settlement.repaired (s : Settlement) : List Counter := s.raised.toList.map Prod.fst

@[simp] theorem get?_settle_counters (side : Side) (committed : CounterMap CounterState)
    (balances baselines : CounterMap Amount) (c : Counter) :
    (settle side committed balances baselines).counters.get? c =
      ((settledEntry side committed balances baselines c).map Entry.state).or
        (committed.get? c) :=
  CounterMap.get?_ofFn _ c

@[simp] theorem get?_settle_accrued (side : Side) (committed : CounterMap CounterState)
    (balances baselines : CounterMap Amount) (c : Counter) :
    (settle side committed balances baselines).accrued.get? c =
      (settledEntry side committed balances baselines c).map Entry.gained :=
  CounterMap.get?_ofFn _ c

@[simp] theorem get?_settle_raised (side : Side) (committed : CounterMap CounterState)
    (balances baselines : CounterMap Amount) (c : Counter) :
    (settle side committed balances baselines).raised.get? c =
      (settledEntry side committed balances baselines c).bind Entry.raisedFrom :=
  CounterMap.get?_ofFn _ c

end RollupFees
