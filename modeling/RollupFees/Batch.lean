import RollupFees.Address
import RollupFees.Amount

/-!
# Batches

Batches of the second layer are submitted to the first. Each submission leaves an event; the
events of a window tell how many elements were submitted and which transactions paid for them.

## Main definitions

* `BatchEvent` : one submission
* `BatchEvent.transactions` : the transactions of events, each once
* `BatchEvent.totalSize` : the elements of the state batches among events
-/

namespace RollupFees

/-- Transactions are submitted to one chain of batches, states to another. -/
inductive BatchKind
  | transaction
  | state
deriving DecidableEq, Repr

/-- One submission. Only state batches carry a size. -/
structure BatchEvent where
  tx : Hash
  block : Nat
  kind : BatchKind
  size : Amount
deriving DecidableEq

namespace BatchEvent

/-- Adds a hash at the end unless it is there. -/
def addNew (seen : List Hash) (h : Hash) : List Hash := if h ∈ seen then seen else seen ++ [h]

/-- The transactions of events, each once, in the order in which they are first seen. -/
def transactions (events : List BatchEvent) : List Hash :=
  events.foldl (fun seen e => addNew seen e.tx) []

/-- The number of elements in the state batches among events. -/
def totalSize (events : List BatchEvent) : Amount :=
  (events.filter fun e => e.kind = .state).foldl (fun sum e => sum.satAdd e.size) 0

/-- Events with the newest block first; those of one block keep their order. -/
def newestFirst (events : List BatchEvent) : List BatchEvent :=
  events.mergeSort fun a b => decide (b.block ≤ a.block)

end BatchEvent
end RollupFees
