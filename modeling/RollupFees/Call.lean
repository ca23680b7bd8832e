import RollupFees.Failure

/-!
# Calls under a time limit

Every call to a node has a limit. A call that takes longer has failed, whatever would have come of
it, and the next tick asks again.

## Main definitions

* `Call.Ending` : how a call ended
* `Call.endingWithin` : the ending of a call that takes some time
* `Call.rpcResult`, `Call.contractResult` : what an ending means
-/

namespace RollupFees.Call

/-- How a call ended: with a value, with a complaint in words, or not in time. -/
inductive Ending (α : Type)
  | finished (outcome : Except String α)
  | overdue
deriving Repr

/-- The ending of a call whose outcome comes after a delay. An outcome that is there at once always
counts. -/
def endingWithin {α : Type} (limit : Duration) (delay : Option Duration)
    (outcome : Except String α) : Ending α :=
  match delay with
  | none => .finished outcome
  | some d => if d.nanos ≤ limit.nanos then .finished outcome else .overdue

/-- What the ending of a call to a node means. -/
def rpcResult {α : Type} (call : String) (limit : Duration) : Ending α → Except Failure α
  | .finished (.ok a) => .ok a
  | .finished (.error complaint) => .error (.rpc call complaint)
  | .overdue => .error (.timeout call limit)

/-- What the ending of a call to a contract means. -/
def contractResult {α : Type} (call : String) (limit : Duration) : Ending α → Except Failure α
  | .finished (.ok a) => .ok a
  | .finished (.error complaint) => .error (.contract call complaint)
  | .overdue => .error (.timeout call limit)

end RollupFees.Call
