import RollupFees.Failure

/-!
# Scripted faults

A rehearsal may be told to let a call fail in one of a few ways.

## Main definitions

* `ScriptedFault` : the ways
* `ScriptedFault.failure` : the failure of a call
-/

namespace RollupFees

/-- The ways in which a call may be made to fail. -/
inductive ScriptedFault
  | rpc
  | timeout
  | contract
  | submissionFailed
  | dropped
  | shutdown
  | storage
deriving DecidableEq, Repr

namespace ScriptedFault

/-- The fault of a name; an unknown name stands for a refused connection. -/
def ofName (name : String) : ScriptedFault :=
  if name = "timeout" then .timeout
  else if name = "contract" then .contract
  else if name = "submission_failed" then .submissionFailed
  else if name = "dropped" then .dropped
  else if name = "shutdown" then .shutdown
  else if name = "io" then .storage
  else .rpc

/-- The failure of a call. -/
def failure (call : String) : ScriptedFault → Failure
  | .rpc => .rpc call "connection refused"
  | .timeout => .timeout call (Duration.millis 1500)
  | .contract => .contract call "execution reverted"
  | .submissionFailed => .submissionFailed call "nonce too low"
  | .dropped => .dropped (Hash.repeated 0xdd)
  | .shutdown => .shutdown
  | .storage => .storage (.stated "disk full")

end ScriptedFault
end RollupFees
