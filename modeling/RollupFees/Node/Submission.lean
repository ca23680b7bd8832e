import RollupFees.Node.Chain
import RollupFees.Node.View

/-!
# Writing parameters

An update is one transaction. Before it is sent the node is asked for what the transaction still
lacks: the fees of the market, unless a gas price is given, and the gas that it takes. After that
the node is asked again and again until the transaction is mined or given up.

## Main definitions

* `Node.updateCall` : the contract and the data of an update
* `Node.submit` : sends one update
* `Node.confirm` : follows a transaction, for a number of requests
-/

namespace RollupFees.Node

/-- The contract that an update goes to, and the call as data. -/
def updateCall (c : ParameterContracts) : Update → Address × List UInt8
  | .priceRatio ratio market =>
    (c.feeTokenOracle, callData "updatePriceRatio(uint256,uint256)"
      (Abi.amountWord ratio ++ Abi.amountWord market))
  | .overhead v => (c.gasPriceOracle, callData "setOverhead(uint256)" (Abi.amountWord v))
  | .l1BaseFee v => (c.gasPriceOracle, callData "setL1BaseFee(uint256)" (Abi.amountWord v))

/-- The transaction of an update. With a gas price it is of the old type, otherwise it takes part in
the market of fees. -/
def transaction (c : ParameterContracts) (gasPrice : Option Amount) (u : Update) : Json :=
  let (target, data) := updateCall c u
  let price := match gasPrice with
    | some p => [("gasPrice", .string (quantityText p.toNat))]
    | none => []
  .object ([("data", .string (bytesText data))] ++ price ++ [("to", .string target.text),
    ("type", .string (if gasPrice.isSome then "0x00" else "0x02"))])

/-- Asks once more after a fault that is not silence; the first fault counts. -/
def twice {α : Type} (e : Exchange α) : Exchange α :=
  ExceptT.mk (e.outcome.bind fun
    | .ok a => .done (.ok a)
    | .error .silent => .done (.error .silent)
    | .error first => e.outcome.bind fun
      | .ok a => .done (.ok a)
      | .error .silent => .done (.error .silent)
      | .error _ => .done (.error first))

/-- The number of blocks and the share of rewards that fees are worked out from. -/
def feeWindow : Json := .array [.string "0xa", .string "latest", .array [.real 5]]

/-- Asks for the fees of the market. -/
def marketFees : Exchange Unit := do
  let block ← ask true "eth_getBlockByNumber" (.array [.string "latest", .bool false])
    (nullable? baseFee?)
  match block with
  | none => fail (.unfit "Latest block not found")
  | some none => fail (.unfit "EIP-1559 not activated")
  | some (some _) => do
    let _ ← twice (ask true "eth_feeHistory" feeWindow (ruled? feeHistoryRules))
    pure ()

/-- Sends a transaction. -/
def send (gasPrice : Option Amount) (tx : Json) : Exchange Hash := do
  if gasPrice.isNone then marketFees
  let _ ← ask true "eth_estimateGas" (.array [tx]) amount?
  ask true "eth_sendTransaction" (.array [tx]) hash?

/-- Why an update was not taken, in words: the reason of the contract, if it gave one. -/
def refusal : Fault → String
  | .reverted data =>
    match Abi.refusalReason? data with
    | some reason => "execution reverted: " ++ reason
    | none => (Fault.reverted data).message
  | f => f.message

/-- Sends one update. -/
def submit (limit : Duration) (c : ParameterContracts) (gasPrice : Option Amount) (u : Update) :
    Talk (Except Failure Hash) :=
  (send gasPrice (transaction c gasPrice u)).outcome.bind fun
    | .ok tx => .done (.ok tx)
    | .error .silent => .done (.error (.timeout "eth_sendRawTransaction" limit))
    | .error f => .done (.error (.submissionFailed u.parameter.name (refusal f)))

/-! ### Following a transaction -/

/-- What a receipt says of a transaction that was to write a parameter. -/
def judged (parameter : Parameter) (tx : Hash) (r : MinedReceipt) : Except Failure Confirmation :=
  if r.status = some 0 then .error (.reverted parameter.name tx) else .ok ⟨tx, r.block, r.gasUsed⟩

/-- Asks for the receipt until there is one, at most so many times. -/
def receiptOf (parameter : Parameter) (tx : Hash) :
    Nat → Talk (Option (Except Failure Confirmation))
  | 0 => .done none
  | patience + 1 =>
    (ask false "eth_getTransactionReceipt" (.array [.string tx.text])
      (nullable? receipt?)).outcome.bind fun
      | .ok (some r) => .done (some (judged parameter tx r))
      | _ => receiptOf parameter tx patience

/-- How often a node may not know a transaction before it counts as dropped. -/
def maxAbsences : Nat := 3

/-- Asks for a transaction until it is mined, and then for its receipt. A node that does not know
the transaction is asked again a few times; then it has been dropped. Failed requests do not count.
Nothing if so many requests do not settle it. -/
def confirm (parameter : Parameter) (tx : Hash) (absences : Nat) :
    Nat → Talk (Option (Except Failure Confirmation))
  | 0 => .done none
  | patience + 1 =>
    (ask false "eth_getTransactionByHash" (.array [.string tx.text])
      (nullable? minedBlock?)).outcome.bind fun
      | .ok (some (some _)) => receiptOf parameter tx patience
      | .ok (some none) => confirm parameter tx absences patience
      | .ok none =>
        if absences = maxAbsences then .done (some (.error (.dropped tx)))
        else confirm parameter tx (absences + 1) patience
      | .error _ => confirm parameter tx absences patience

end RollupFees.Node
