import RollupFees.Address
import RollupFees.Conversion
import RollupFees.Duration

/-!
# Failures

Everything that can go wrong in a step of the control loop, and at the start of the service. A
failed step is logged and reported; the loop goes on.

## Main definitions

* `Failure` : the causes
* `Failure.Kind` : the causes by name, as reports and logs show them
* `Failure.message` : the cause in words
* `Breakdown` : what the service does not survive
-/

namespace RollupFees

/-- What storage answered to a failed request: a text of this program, or a refusal of the
operating system, whose words are not fixed. -/
inductive StorageFault
  | stated (text : String)
  | refused
deriving DecidableEq, Repr

/-- The words for a fault of the storage. -/
def StorageFault.message : StorageFault → String
  | .stated text => text
  | .refused => "refused by the operating system"

/-- The causes of a failed step or a failed start. -/
inductive Failure
  | rpc (call message : String)
  | timeout (call : String) (limit : Duration)
  | contract (call message : String)
  | submissionFailed (parameter reason : String)
  | reverted (parameter : String) (tx : Hash)
  | dropped (tx : Hash)
  | unconfirmed (tx : Hash) (limit : Duration)
  | storage (fault : StorageFault)
  | json (reason : String)
  | corruptSnapshot (path reason : String)
  | snapshotVersion (path : String) (found expected : Nat)
  | unresolvedAddress (name : String)
  | conversion (fault : ConversionFault)
  | shutdown
deriving DecidableEq

namespace Failure

/-- The causes by name. -/
inductive Kind
  | rpc
  | timeout
  | contract
  | submissionFailed
  | reverted
  | dropped
  | unconfirmed
  | storage
  | json
  | corruptSnapshot
  | snapshotVersion
  | unresolvedAddress
  | conversion
  | shutdown
deriving DecidableEq, Repr

/-- The name of a cause. -/
def Kind.name : Kind → String
  | .rpc => "rpc"
  | .timeout => "timeout"
  | .contract => "contract"
  | .submissionFailed => "submission_failed"
  | .reverted => "reverted"
  | .dropped => "dropped"
  | .unconfirmed => "confirmation_timeout"
  | .storage => "io"
  | .json => "json"
  | .corruptSnapshot => "corrupt_snapshot"
  | .snapshotVersion => "snapshot_version"
  | .unresolvedAddress => "unresolved_address"
  | .conversion => "conversion"
  | .shutdown => "shutdown"

/-- The kind of a failure. -/
def kind : Failure → Kind
  | .rpc .. => .rpc
  | .timeout .. => .timeout
  | .contract .. => .contract
  | .submissionFailed .. => .submissionFailed
  | .reverted .. => .reverted
  | .dropped .. => .dropped
  | .unconfirmed .. => .unconfirmed
  | .storage .. => .storage
  | .json .. => .json
  | .corruptSnapshot .. => .corruptSnapshot
  | .snapshotVersion .. => .snapshotVersion
  | .unresolvedAddress .. => .unresolvedAddress
  | .conversion .. => .conversion
  | .shutdown => .shutdown

/-- The failure in words. -/
def message : Failure → String
  | .rpc call message => "RPC call `" ++ call ++ "` failed: " ++ message
  | .timeout call limit => "RPC call `" ++ call ++ "` timed out after " ++ limit.text
  | .contract call message => "Contract call `" ++ call ++ "` failed: " ++ message
  | .submissionFailed parameter reason =>
    "Failed to submit " ++ parameter ++ " update: " ++ reason
  | .reverted parameter tx => parameter ++ " update " ++ tx.text ++ " reverted"
  | .dropped tx => "Transaction " ++ tx.text ++ " was dropped from the mempool"
  | .unconfirmed tx limit => "Transaction " ++ tx.text ++ " not confirmed within " ++ limit.text
  | .storage fault => "I/O error: " ++ fault.message
  | .json reason => "JSON error: " ++ reason
  | .corruptSnapshot path reason => "Corrupt snapshot " ++ path ++ ": " ++ reason
  | .snapshotVersion path found expected =>
    "Unsupported snapshot version " ++ found.repr ++ " in " ++ path ++ " (expected " ++
      expected.repr ++ ")"
  | .unresolvedAddress name => "Address registry has no entry for " ++ name
  | .conversion fault => "Conversion error: " ++ fault.message
  | .shutdown => "Shutdown requested"

end Failure

/-- What the service does not survive. Either the fraction of a limit is too large to be counted in
parts per million, which settings never allow, or a log does not say where in the chain it stands,
which a node owes of every log of a mined block. -/
inductive Breakdown
  | fractionTooLarge
  | strayLog
deriving DecidableEq, Repr

end RollupFees
