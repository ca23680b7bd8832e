import RollupFees.Billing
import RollupFees.Service.Query

/-!
# Reconciliation of the ledgers

Each tick brings both ledgers up to date with the balances on chain. The new snapshot is committed
before anyone sees it: if the commit fails, nothing has changed and the same movement is counted
again on the next tick.

## Main definitions

* `Accounts` : the accounts whose balances are counted
* `Step.reconcileLedger` : one ledger brought up to date and committed
* `Step.reconcileL1`, `Step.reconcileL2` : the two steps of a tick
-/

namespace RollupFees

/-- The accounts whose balances are counted. The secondary fee token is the contract that knows
the balance of its vault. -/
structure Accounts where
  sequencer : Address
  proposer : Address
  relayer : Address
  fastRelayer : Address
  sequencerFeeVault : Address
  secondaryFeeToken : Address
  secondaryFeeTokenVault : Address
  billingContract : Address
deriving DecidableEq

/-- The accounts as a log line shows them. -/
def Accounts.text (a : Accounts) : String :=
  "MonitoredAccounts \x7b sequencer: " ++ a.sequencer.text ++ ", proposer: " ++ a.proposer.text ++
    ", relayer: " ++ a.relayer.text ++ ", fast_relayer: " ++ a.fastRelayer.text ++
    ", sequencer_fee_vault: " ++ a.sequencerFeeVault.text ++ ", secondary_fee_token: " ++
    a.secondaryFeeToken.text ++ ", secondary_fee_token_vault: " ++ a.secondaryFeeTokenVault.text ++
    ", billing_contract: " ++ a.billingContract.text ++ " \x7d"

/-- The warning about a total that was below its balance. -/
def raiseNotice (c : Counter) (total balance : Amount) : Notice :=
  .warn ("counter=" ++ c.name ++ " cumulative=" ++ total.text ++ " below balance=" ++
    balance.text ++ ", raising")

namespace Step

/-- Commits a snapshot. A failure is logged before it stops the step. -/
def commit (s : Snapshot) : Step Unit := do
  let outcome ← ask (.commit s)
  match (outcome : Except Failure Unit) with
  | .ok _ => pure ()
  | .error e =>
    note (.error ("snapshot commit failed side=" ++ s.side.name ++ " error=" ++ e.message))
    fail e

/-- Brings a ledger up to date with balances and commits the result. -/
def reconcileLedger (side : Side) (committed : Option (CounterMap CounterState))
    (balances baselines : CounterMap Amount) : Step LedgerUpdate := do
  let s := settle side (committed.getD CounterMap.empty) balances baselines
  notes (s.raised.toList.map fun e => raiseNotice e.1 e.2 ((balances.get? e.1).getD 0))
  let now ← ask .now
  let snapshot : Snapshot := ⟨side, s.counters, now⟩
  commit snapshot
  pure ⟨snapshot, s.accrued, s.raised⟩

/-- Whether spending of the sequencer has a base line. -/
def isSeeded (b : Billing) : Bool :=
  ((b.committed .l1).bind fun counters => counters.get? .sequencer).isSome

/-- The base line of the first layer: what the second layer has collected when counting starts.
Later ticks need none. -/
def l1Baselines (accounts : Accounts) (b : Billing) : Step (CounterMap Amount) :=
  if isSeeded b then pure CounterMap.empty
  else do
    let vault ← balance .l2 accounts.sequencerFeeVault
    note (.info ("seeding counter=sequencer baseline=" ++ vault.text ++ " from L2 fee vault"))
    pure (CounterMap.empty.set .sequencer vault)

/-- Brings the first layer up to date. The balances of its four accounts are taken together, and
asked in the order of the counters. -/
def reconcileL1 (accounts : Accounts) (b : Billing) : Step Billing := do
  let sequencer ← balance .l1 accounts.sequencer
  let proposer ← balance .l1 accounts.proposer
  let relayer ← balance .l1 accounts.relayer
  let fastRelayer ← balance .l1 accounts.fastRelayer
  let balances : CounterMap Amount :=
    { CounterMap.empty with
      sequencer := some sequencer
      proposer := some proposer
      relayer := some relayer
      fastRelayer := some fastRelayer }
  let baselines ← l1Baselines accounts b
  let update ← reconcileLedger .l1 (b.committed .l1) balances baselines
  notes ((update.accrued.toList.filter fun e => e.2 ≠ 0).map fun e =>
    .info ("counter=" ++ e.1.name ++ " accrued=" ++ e.2.text))
  pure (b.apply update)

/-- Brings the second layer up to date and logs a summary. Its counters start from what the vaults
hold. The three balances are taken together, and asked in the order of the counters. -/
def reconcileL2 (accounts : Accounts) (b : Billing) (prices : PriceBook) : Step Billing := do
  let vault ← balance .l2 accounts.sequencerFeeVault
  let secondary ← tokenBalance accounts.secondaryFeeToken accounts.secondaryFeeTokenVault
  let billing ← balance .l2 accounts.billingContract
  let balances : CounterMap Amount :=
    { CounterMap.empty with
      sequencerFeeVault := some vault
      secondaryFeeTokenVault := some secondary
      billingContract := some billing }
  let update ← reconcileLedger .l2 (b.committed .l2) balances balances
  notes (if update.raised.isEmpty then []
    else [.warn ("raised " ++ update.raised.size.repr ++
      " inflow counter(s) to their current balance")])
  let next := b.apply update
  notes ((next.summary prices).lines.map .info)
  pure next

end Step
end RollupFees
