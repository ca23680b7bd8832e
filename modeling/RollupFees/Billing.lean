import RollupFees.Ledger.Accrual
import RollupFees.Price
import RollupFees.Snapshot

/-!
# Billing

What is known of both ledgers at any time: the last committed snapshots, and what the last
reconciliation of each counter gained. Totals and their value in dollars are derived from it.

## Main definitions

* `Billing` : the committed snapshots of both sides and the last gains
* `Billing.apply` : the state after a committed reconciliation
* `Billing.totalL1Cost`, `relayerCost` : totals over counters
* `Billing.summary` : all totals in tokens and dollars
-/

namespace RollupFees

/-- The committed counters of both sides, and the last gains. A side without counters has not been
reconciled yet. -/
structure Billing where
  l1 : CounterMap CounterState
  l2 : CounterMap CounterState
  lastAccrued : CounterMap Amount
deriving DecidableEq

namespace Billing

/-- The state from loaded snapshots, before any reconciliation. -/
def ofHistory (l1 l2 : Option Snapshot) : Billing :=
  ⟨(l1.map (·.counters)).getD CounterMap.empty, (l2.map (·.counters)).getD CounterMap.empty,
    CounterMap.empty⟩

/-- The state of a service that has not started. -/
def empty : Billing := ofHistory none none

instance : Inhabited Billing := ⟨empty⟩

/-- The counters of a side. -/
def counters (b : Billing) : Side → CounterMap CounterState
  | .l1 => b.l1
  | .l2 => b.l2

/-- The committed counters of a side; nothing until it has any. -/
def committed (b : Billing) (side : Side) : Option (CounterMap CounterState) :=
  if (b.counters side).isEmpty then none else some (b.counters side)

/-- The state after a committed reconciliation. -/
def apply (b : Billing) (u : LedgerUpdate) : Billing :=
  match u.snapshot.side with
  | .l1 => ⟨u.snapshot.counters, b.l2, b.lastAccrued.override u.accrued⟩
  | .l2 => ⟨b.l1, u.snapshot.counters, b.lastAccrued.override u.accrued⟩

/-- The total of a counter. -/
def cumulative (b : Billing) (c : Counter) : Amount :=
  (((b.counters c.side).get? c).map (·.cumulative)).getD 0

/-- What a counter gained when it was last reconciled. -/
def lastGain (b : Billing) (c : Counter) : Amount := (b.lastAccrued.get? c).getD 0

/-- The sum of amounts, held at the largest amount. -/
def sum (amounts : List Amount) : Amount := amounts.foldl Amount.satAdd 0

/-- What all wallets of the first layer have spent. -/
def totalL1Cost (b : Billing) : Amount := sum (Side.l1.counters.map b.cumulative)

/-- What both relayers have spent. -/
def relayerCost (b : Billing) : Amount :=
  (b.cumulative .relayer).satAdd (b.cumulative .fastRelayer)

@[simp] theorem committed_getD (b : Billing) (side : Side) :
    (b.committed side).getD CounterMap.empty = b.counters side := by
  unfold committed
  split
  · next h =>
    ext c a
    rw [CounterMap.isEmpty_iff.1 h c]
    simp
  · rfl

@[simp] theorem counters_apply_self (b : Billing) (u : LedgerUpdate) :
    (b.apply u).counters u.snapshot.side = u.snapshot.counters := by
  unfold apply
  cases h : u.snapshot.side <;> rfl

theorem counters_apply_other (b : Billing) (u : LedgerUpdate) {side : Side}
    (h : side ≠ u.snapshot.side) : (b.apply u).counters side = b.counters side := by
  unfold apply
  cases h' : u.snapshot.side <;> cases side <;> simp_all [counters]

end Billing

/-! ### Amounts in tokens and dollars -/

/-- Whole tokens; nothing for amounts too large for a decimal. -/
def tokens (value : Amount) : Option Decimal :=
  match value.toDecimal tokenDecimals with
  | .ok d => some d
  | .error _ => none

/-- The pair that prices a token. -/
def Denomination.pair : Denomination → Pair
  | .native => .native
  | .secondary => .secondary

/-- The value of an amount in dollars, cut to cents; nothing without a price. -/
def usd (value : Amount) (denomination : Denomination) (prices : PriceBook) : Option Decimal := do
  let price ← prices.value? denomination.pair
  let amount ← tokens value
  let product ← amount.mul? price
  some product.cents

/-- One counter in a summary. -/
structure CounterLine where
  counter : Counter
  cumulative : Option Decimal
  lastAccrued : Option Decimal
  usd : Option Decimal
deriving DecidableEq

/-- All totals in tokens and dollars. -/
structure BillingSummary where
  totalL1Cost : Option Decimal
  totalL1CostUsd : Option Decimal
  relayerCost : Option Decimal
  relayerCostUsd : Option Decimal
  counters : List CounterLine
deriving DecidableEq

namespace Billing

/-- The total of a counter in dollars. -/
def usdValue (b : Billing) (c : Counter) (prices : PriceBook) : Option Decimal :=
  usd (b.cumulative c) c.denomination prices

/-- One counter in a summary. -/
def line (b : Billing) (prices : PriceBook) (c : Counter) : CounterLine :=
  ⟨c, tokens (b.cumulative c), tokens (b.lastGain c), b.usdValue c prices⟩

/-- All totals at the prices of a book. -/
def summary (b : Billing) (prices : PriceBook) : BillingSummary :=
  { totalL1Cost := tokens b.totalL1Cost
    totalL1CostUsd := usd b.totalL1Cost .secondary prices
    relayerCost := tokens b.relayerCost
    relayerCostUsd := usd b.relayerCost .secondary prices
    counters := (Side.l1.counters ++ Side.l2.counters).map (b.line prices) }

end Billing

/-- A figure in a log line: six places at most. -/
def shown : Option Decimal → String
  | none => "unknown"
  | some d => (d.round 6).text

/-- The log lines of a summary. -/
def BillingSummary.lines (s : BillingSummary) : List String :=
  ("billing total_l1_cost=" ++ shown s.totalL1Cost ++ " total_l1_cost_usd=" ++
      shown s.totalL1CostUsd ++ " relayer_cost=" ++ shown s.relayerCost ++ " relayer_cost_usd=" ++
      shown s.relayerCostUsd) ::
    s.counters.map fun l =>
      "billing counter=" ++ l.counter.name ++ " cumulative=" ++ shown l.cumulative ++
        " last_accrued=" ++ shown l.lastAccrued ++ " usd=" ++ shown l.usd

end RollupFees
