import RollupFees.Batch
import RollupFees.Dialogue
import RollupFees.Failure
import RollupFees.Notice
import RollupFees.Parameter
import RollupFees.Price
import RollupFees.Snapshot

/-!
# What the service asks of its surroundings

The control loop reads two chains and two price feeds, writes parameters, keeps snapshots, looks at
the clock, listens for a request to stop, and writes log lines. Each of these is a query with a
type of answers; the loop itself is a dialogue over them.

Readings that are taken together, such as the balances of one layer, are under way at the same time
in a running service, and the first failure to arrive stops the step. Here they are asked in a fixed
order, and the first failure in that order stops the step. Two things are lost: which failure is
reported where there are several, and the readings after a failure, which a running service may have
asked and whose answers it drops. The steps that take readings together say so.

## Main definitions

* `Query`, `Query.Answer` : what is asked, and what may come back
* `Step` : a dialogue that may stop early
* `Stop` : a failure, or a calculation without an answer
-/

namespace RollupFees

/-- What the loop needs to know of a receipt. -/
structure Receipt where
  tx : Hash
  gasUsed : Amount
  success : Bool
  block : Option Nat
deriving DecidableEq

/-- A transaction that has been mined. -/
structure Confirmation where
  tx : Hash
  block : Option Nat
  gasUsed : Option Amount
deriving DecidableEq

/-- How a wait for a transaction ended: with an outcome, by running out of time, or because of a
request to stop. -/
inductive Wait
  | finished (outcome : Except Failure Confirmation)
  | timedOut
  | interrupted

/-- What the service asks of its surroundings. -/
inductive Query
  | latestAnswer (pair : Pair)
  | balance (side : Side) (account : Address)
  | tokenBalance (token holder : Address)
  | blockNumber
  | gasPrice
  | receipt (tx : Hash)
  | batchEvents (first last : Nat)
  | priceRatio
  | priceRatioDecimals
  | overhead
  | l1BaseFee
  | submit (update : Update)
  | confirmation (parameter : Parameter) (tx : Hash) (limit : Duration)
  | shutdownRequested
  | load (side : Side)
  | commit (snapshot : Snapshot)
  | now
  | uptime
  | note (notice : Notice)
  | pause (span : Duration)
deriving DecidableEq

/-- What may come back. A pause answers whether it was cut short by a request to stop. -/
abbrev Query.Answer : Query → Type
  | .latestAnswer _ => Except Failure RawPrice
  | .balance .. => Except Failure Amount
  | .tokenBalance .. => Except Failure Amount
  | .blockNumber => Except Failure Nat
  | .gasPrice => Except Failure Amount
  | .receipt _ => Except Failure (Option Receipt)
  | .batchEvents .. => Except Failure (List BatchEvent)
  | .priceRatio => Except Failure Amount
  | .priceRatioDecimals => Except Failure Nat
  | .overhead => Except Failure Amount
  | .l1BaseFee => Except Failure Amount
  | .submit _ => Except Failure Hash
  | .confirmation .. => Wait
  | .shutdownRequested => Bool
  | .load _ => Except Failure (Option Snapshot)
  | .commit _ => Except Failure Unit
  | .now => Timestamp
  | .uptime => Duration
  | .note _ => Unit
  | .pause _ => Bool

/-- A dialogue with the surroundings of the service. -/
abbrev Talk (α : Type) := Dialogue Query.Answer α

/-- Why a step stops early: a failure, which is reported, or a calculation without an answer, which
ends the service. -/
inductive Stop
  | failed (failure : Failure)
  | broken (breakdown : Breakdown)
deriving DecidableEq

/-- A dialogue that may stop early. -/
abbrev Step (α : Type) := ExceptT Stop Talk α

namespace Step

variable {α : Type}

/-- A question that always has an answer. -/
def ask (q : Query) : Step q.Answer := ExceptT.lift (Dialogue.question q)

/-- A question that may fail; a failure stops the step. -/
def need (talk : Talk (Except Failure α)) : Step α :=
  ExceptT.mk (talk.bind fun r => .done (r.mapError .failed))

/-- Stops with a failure. -/
def fail (f : Failure) : Step α := ExceptT.mk (.done (.error (.failed f)))

/-- A calculation that may have no answer. -/
def compute (r : Except Breakdown α) : Step α := ExceptT.mk (.done (r.mapError .broken))

/-- Writes a log line. -/
def note (n : Notice) : Step Unit := ask (.note n)

/-- Writes log lines in order. -/
def notes : List Notice → Step Unit
  | [] => pure ()
  | n :: rest => do
    note n
    notes rest

/-- The balance of an account. -/
def balance (side : Side) (account : Address) : Step Amount :=
  need (Dialogue.question (Query.balance side account))

/-- The balance of a token on the second layer. -/
def tokenBalance (token holder : Address) : Step Amount :=
  need (Dialogue.question (Query.tokenBalance token holder))

/-- The receipts of transactions, taken together; asked in the order of the transactions. -/
def receipts : List Hash → Step (List (Option Receipt))
  | [] => pure []
  | tx :: rest => do
    let r ← need (Dialogue.question (Query.receipt tx))
    let rs ← receipts rest
    pure (r :: rs)

end Step
end RollupFees
