import RollupFees.Node
import RollupFees.Node.Record

/-!
# Batches in the logs

Submissions of batches are found in the logs of the first layer, by the hash of the signature of
their event. The two kinds are asked for at the same time, those of transactions first.

## Main definitions

* `BatchKind.signature` : the event of a kind of batches
* `Node.Log.batch` : the submission that a log tells of
* `Node.batchEvents` : the submissions in a range of blocks, the newest first
-/

namespace RollupFees

/-- The name of the event of a kind. -/
def BatchKind.eventName : BatchKind → String
  | .transaction => "SequencerBatchAppended"
  | .state => "StateBatchAppended"

/-- The event of a kind with the types of what it tells. -/
def BatchKind.signature : BatchKind → String
  | .transaction => "SequencerBatchAppended(uint256,uint256,uint256)"
  | .state => "StateBatchAppended(uint256,bytes32,uint256,uint256,bytes)"

namespace Node

/-- The hash that marks the logs of a kind. -/
def topic (kind : BatchKind) : Hash := keccak256Text kind.signature

/-- The size in the data of a batch of transactions, which carries none: three numbers that are not
kept. -/
def transactionSize (data : List UInt8) : Except Abi.Fault Amount :=
  Abi.read data fun d => (Abi.wordAt? d 64).map fun _ => 0

/-- The size in the data of a batch of states: a root, the size, a total, and bytes. -/
def stateSize (data : List UInt8) : Except Abi.Fault Amount :=
  Abi.read data fun d => do
    let size ← Abi.wordAt? d 32
    let _ ← Abi.bytesAt? d 96
    some (Amount.clamp size)

/-- Checks the topics of a log: the mark of its kind, and for states the number of the batch. -/
def checkTopics (kind : BatchKind) : List Hash → Except Abi.Fault Unit
  | [] => .error .invalid
  | mark :: rest =>
    if mark ≠ topic kind then .error .invalid
    else
      match kind, rest with
      | .transaction, [] => .ok ()
      | .state, [_] => .ok ()
      | .state, [] => .error .empty
      | _, _ => .error .invalid

/-- The size that a log tells. -/
def batchSize (kind : BatchKind) (log : Log) : Except Abi.Fault Amount :=
  (checkTopics kind log.topics).bind fun _ =>
    match kind with
    | .transaction => transactionSize log.data
    | .state => stateSize log.data

/-- Where a log stands: its transaction and its block. Logs that do not say so in full are stray. -/
def Log.place (log : Log) : Except Breakdown (Hash × Nat) :=
  match log.tx, log.block, log.blockHash, log.txIndex, log.logIndex with
  | some tx, some block, some _, some _, some _ => .ok (tx, block)
  | _, _, _, _, _ => .error .strayLog

/-- The submission that a log tells of. -/
def Log.batch (kind : BatchKind) (log : Log) : Except Stop BatchEvent :=
  match log.place with
  | .error b => .error (.broken b)
  | .ok (tx, block) =>
    match batchSize kind log with
    | .error f => .error (.failed (.contract kind.eventName f.message))
    | .ok size => .ok ⟨tx, block, kind, size⟩

/-- What logs are asked for: those with a mark in a range of blocks, of whatever contract. -/
def logFilter (kind : BatchKind) (first last : Nat) : Json :=
  .object [("fromBlock", .string (quantityText first)), ("toBlock", .string (quantityText last)),
    ("topics", .array [.string (topic kind).text])]

/-- The submissions of one kind in a range of blocks, in the order of the logs. -/
def batchesOf (limit : Duration) (kind : BatchKind) (first last : Nat) :
    Talk (Except Stop (List BatchEvent)) :=
  (contractCall kind.eventName limit
    (ask true "eth_getLogs" (.array [logFilter kind first last]) (list? log?))).bind fun r =>
      .done ((r.mapError .failed).bind fun logs => logs.mapM (Log.batch kind))

/-- Whether time ran out. -/
def outOfTime : Stop → Bool
  | .failed (.timeout ..) => true
  | _ => false

/-- The submissions in a range of blocks, the newest first. The batches of states are asked for as
soon as the node is found to be silent about the others, so that they can still fail in time. -/
def batchEvents (limit : Duration) (first last : Nat) : Talk (Except Stop (List BatchEvent)) :=
  if last < first then
    .done (.error (.failed (.rpc "eth_getLogs"
      ("invalid block range " ++ first.repr ++ ".." ++ last.repr))))
  else
    (batchesOf limit .transaction first last).bind fun
      | .ok transactions =>
        (batchesOf limit .state first last).bind fun r =>
          .done (r.map fun states => BatchEvent.newestFirst (transactions ++ states))
      | .error stop =>
        if outOfTime stop ∧ 0 < limit.nanos then
          (batchesOf limit .state first last).bind fun
            | .ok _ => .done (.error stop)
            | .error other => .done (.error (if outOfTime other then stop else other))
        else .done (.error stop)

end Node
end RollupFees
