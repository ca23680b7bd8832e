import RollupFees.Ledger
import RollupFees.Timestamp

/-!
# Snapshots

A snapshot is what is kept of a ledger between two runs: the state of its counters, and when it was
taken.

## Main definitions

* `Snapshot` : the counters of a side at a point in time
* `LedgerUpdate` : a new snapshot with what led to it
-/

namespace RollupFees

/-- The counters of a side at a point in time. -/
structure Snapshot where
  side : Side
  counters : CounterMap CounterState
  updatedAt : Timestamp
deriving DecidableEq

namespace Snapshot

/-- Whether every counter belongs to the side of the snapshot. -/
def isOwn (s : Snapshot) : Bool := s.counters.toList.all fun e => e.1.side = s.side

end Snapshot

/-- A reconciliation that has been committed: the new snapshot, what each counter gained, and the
totals that were raised. -/
structure LedgerUpdate where
  snapshot : Snapshot
  accrued : CounterMap Amount
  raised : CounterMap Amount
deriving DecidableEq

end RollupFees
