import RollupFees.Node.Quantity
import RollupFees.Service.Query

/-!
# Records in answers of a node

Receipts, transactions, logs and blocks are objects. Every known field has to be well formed, and
some have to be there; unknown fields are passed over.

## Main definitions

* `Node.FieldRule`, `Node.conforms` : what is expected of an object
* `Node.MinedReceipt`, `Node.Log` : what is kept of a receipt and of a log
-/

namespace RollupFees.Node

/-- What is expected of a field: whether it may be missing, whether it may be null, and whether a
value is well formed. -/
structure FieldRule where
  name : String
  mayMiss : Bool
  mayBeNull : Bool
  fits : Json → Bool

/-- A field that has to be there. -/
def must {α : Type} (name : String) (read? : Json → Option α) : FieldRule :=
  ⟨name, false, false, fun j => (read? j).isSome⟩

/-- A field that may be missing or null. -/
def may {α : Type} (name : String) (read? : Json → Option α) : FieldRule :=
  ⟨name, true, true, fun j => (read? j).isSome⟩

/-- A field that may be missing but not null. -/
def usually {α : Type} (name : String) (read? : Json → Option α) : FieldRule :=
  ⟨name, true, false, fun j => (read? j).isSome⟩

/-- Whether a value is an object that follows the rules. -/
def conforms (rules : List FieldRule) : Json → Bool
  | .object fields => rules.all fun r =>
    match Json.lookup r.name fields with
    | none => r.mayMiss
    | some .null => r.mayBeNull
    | some v => r.fits v
  | _ => false

/-- A value that follows the rules. -/
def ruled? (rules : List FieldRule) (j : Json) : Option Json :=
  if conforms rules j then some j else none

/-- A list whose items are all read in some way. -/
def list? {α : Type} (read? : Json → Option α) : Json → Option (List α)
  | .array items => items.mapM read?
  | _ => none

/-- A truth value. -/
def flag? : Json → Option Bool
  | .bool b => some b
  | _ => none

/-- A text. -/
def text? : Json → Option String
  | .string s => some s
  | _ => none

/-- Any number. -/
def anyNumber? : Json → Option Unit
  | .int _ | .real _ => some ()
  | _ => none

/-- A number in either notation. -/
def looseAmount? : Json → Option Amount
  | .int n => if 0 ≤ n then some (Amount.clamp n.toNat) else none
  | j => amount? j

/-- A field of an object that may be missing or null. -/
def field? {α : Type} (name : String) (read? : Json → Option α) (j : Json) : Option α :=
  (j.field? name).bind read?

/-! ### Logs -/

/-- A log of an event: what it holds, and where in the chain it stands. -/
structure Log where
  topics : List Hash
  data : List UInt8
  block : Option Nat
  blockHash : Option Hash
  tx : Option Hash
  txIndex : Option Nat
  logIndex : Option Amount

/-- What is expected of a log. -/
def logRules : List FieldRule :=
  [must "address" address?, must "topics" (list? hash?), must "data" bytes?,
    may "blockHash" hash?, may "blockNumber" number?, may "transactionHash" hash?,
    may "transactionIndex" number?, may "logIndex" amount?, may "transactionLogIndex" amount?,
    may "logType" text?, may "removed" flag?]

/-- A log. -/
def log? (j : Json) : Option Log := do
  let _ ← ruled? logRules j
  some ⟨← field? "topics" (list? hash?) j, ← field? "data" bytes? j, field? "blockNumber" number? j,
    field? "blockHash" hash? j, field? "transactionHash" hash? j,
    field? "transactionIndex" number? j, field? "logIndex" amount? j⟩

/-! ### Receipts -/

/-- What is kept of a receipt. Very old ones carry no status. -/
structure MinedReceipt where
  tx : Hash
  gasUsed : Option Amount
  status : Option Nat
  block : Option Nat
deriving DecidableEq

/-- What is expected of a receipt. -/
def receiptRules : List FieldRule :=
  [must "transactionHash" hash?, must "transactionIndex" number?, may "blockHash" hash?,
    may "blockNumber" number?, must "from" address?, may "to" address?,
    must "cumulativeGasUsed" amount?, may "gasUsed" amount?, may "contractAddress" address?,
    must "logs" (list? log?), may "status" number?, may "root" hash?,
    must "logsBloom" (fixed? 256), may "type" number?, may "effectiveGasPrice" amount?]

/-- A receipt. -/
def receipt? (j : Json) : Option MinedReceipt := do
  let _ ← ruled? receiptRules j
  some ⟨← field? "transactionHash" hash? j, field? "gasUsed" amount? j, field? "status" number? j,
    field? "blockNumber" number? j⟩

/-- What the control loop needs to know of a receipt. -/
def MinedReceipt.summary (r : MinedReceipt) : Receipt :=
  ⟨r.tx, r.gasUsed.getD 0, r.status = none ∨ r.status = some 1, r.block⟩

/-! ### Transactions -/

/-- What is expected of an entry of an access list. -/
def accessRules : List FieldRule :=
  [must "address" address?, must "storageKeys" (list? hash?)]

/-- What is expected of a transaction. -/
def transactionRules : List FieldRule :=
  [must "hash" hash?, must "nonce" amount?, may "blockHash" hash?, may "blockNumber" number?,
    may "transactionIndex" number?, usually "from" address?, may "to" address?,
    must "value" amount?, may "gasPrice" amount?, must "gas" amount?, must "input" bytes?,
    must "v" number?, must "r" amount?, must "s" amount?, may "type" number?,
    may "accessList" (list? (ruled? accessRules)), may "maxPriorityFeePerGas" amount?,
    may "maxFeePerGas" amount?, may "chainId" amount?]

/-- The block of a transaction, if it has been mined. -/
def minedBlock? (j : Json) : Option (Option Nat) := do
  let _ ← ruled? transactionRules j
  some (field? "blockNumber" number? j)

/-! ### Fees -/

/-- What is expected of a block. -/
def blockRules : List FieldRule :=
  [may "hash" hash?, usually "parentHash" hash?, usually "sha3Uncles" hash?,
    usually "miner" (nullable? address?), usually "stateRoot" hash?,
    usually "transactionsRoot" hash?, usually "receiptsRoot" hash?, may "number" number?,
    usually "gasUsed" amount?, usually "gasLimit" amount?, usually "extraData" bytes?,
    may "logsBloom" (fixed? 256), usually "timestamp" amount?, usually "difficulty" amount?,
    may "totalDifficulty" amount?, may "sealFields" (list? bytes?), usually "uncles" (list? hash?),
    usually "transactions" (list? hash?), may "size" amount?, may "mixHash" hash?,
    may "nonce" (fixed? 8), may "baseFeePerGas" amount?]

/-- The base fee of a block, if it has one. -/
def baseFee? (j : Json) : Option (Option Amount) := do
  let _ ← ruled? blockRules j
  some (field? "baseFeePerGas" amount? j)

/-- What is expected of a history of fees. -/
def feeHistoryRules : List FieldRule :=
  [must "baseFeePerGas" (list? amount?), must "gasUsedRatio" (list? anyNumber?),
    must "oldestBlock" looseAmount?, usually "reward" (list? (list? amount?))]

end RollupFees.Node
