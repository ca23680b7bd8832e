import RollupFees.Node
import RollupFees.Node.Record

/-!
# Readings of a chain

## Main definitions

* `Node.balance`, `Node.blockNumber`, `Node.gasPrice`, `Node.receipt` : what is read of a chain
-/

namespace RollupFees.Node

/-- The balance of an account after the last block. -/
def balance (limit : Duration) (account : Address) : Talk (Except Failure Amount) :=
  rpcCall "eth_getBalance" limit
    (ask false "eth_getBalance" (.array [.string account.text, .string "latest"]) amount?)

/-- The number of the last block. -/
def blockNumber (limit : Duration) : Talk (Except Failure Nat) :=
  rpcCall "eth_blockNumber" limit (ask false "eth_blockNumber" .null number?)

/-- The gas price. -/
def gasPrice (limit : Duration) : Talk (Except Failure Amount) :=
  rpcCall "eth_gasPrice" limit (ask false "eth_gasPrice" .null amount?)

/-- The receipt of a transaction, if the node has one. -/
def receipt (limit : Duration) (tx : Hash) : Talk (Except Failure (Option Receipt)) :=
  (rpcCall "eth_getTransactionReceipt" limit
    (ask false "eth_getTransactionReceipt" (.array [.string tx.text]) (nullable? receipt?))).bind
    fun r => .done (r.map fun found => found.map MinedReceipt.summary)

end RollupFees.Node
