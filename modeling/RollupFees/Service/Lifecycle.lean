import RollupFees.Service.Tick

/-!
# The life of the service

The service loads its history, ticks at an interval until it is asked to stop, and logs a last
summary.

## Main definitions

* `start` : the state from the stored snapshots
* `turn` : one pause and one tick, unless a request to stop comes first
* `serve` : turns until the service stops, up to a number of them
* `finish` : the last words
-/

namespace RollupFees

/-- The number of counters that were loaded. -/
def historySize : Option Snapshot → Nat
  | none => 0
  | some s => s.counters.size

/-- The line about what was loaded. -/
def historyNotice (l1 l2 : Option Snapshot) : Notice :=
  match l1, l2 with
  | none, none => .warn "No ledger history found, counters will be seeded on the first tick"
  | _, _ =>
    .info ("Loaded ledger history l1_counters=" ++ (historySize l1).repr ++ " l2_counters=" ++
      (historySize l2).repr)

/-- The line before the first tick. -/
def readyNotice (setup : Setup) : Notice :=
  .info ("Control loop ready polling_interval=" ++ setup.pollingInterval.text ++ " l1=" ++
    Side.l1.name ++ " l2=" ++ Side.l2.name ++ " accounts=" ++ setup.accounts.text)

/-- Loads the history of both sides. If either cannot be loaded the service stays as it is. -/
def start (setup : Setup) (s : Service) : Step Service := do
  let l1 ← Step.need (Dialogue.question (Query.load .l1))
  let l2 ← Step.need (Dialogue.question (Query.load .l2))
  Step.note (historyNotice l1 l2)
  Step.note (readyNotice setup)
  pure { s with billing := Billing.ofHistory l1 l2 }

/-- What a turn leads to. -/
inductive Turn
  | again (s : Service)
  | stopped (s : Service)
  | broken (b : Breakdown)

/-- The line about a tick that was not completed. -/
def incompleteNotice (r : TickReport) : List Notice :=
  if r.allCompleted then []
  else [.warn ("tick=" ++ r.tick.repr ++ " finished with failed or cancelled steps")]

/-- Pauses and ticks. A request to stop cuts the pause short, and ends the service after a tick. -/
def turn (setup : Setup) (s : Service) : Talk Turn :=
  (Dialogue.question (Query.pause setup.pollingInterval)).bind fun (cut : Bool) =>
    if cut then .done (.stopped s)
    else
      (tick setup s).bind fun
        | .error b => .done (.broken b)
        | .ok (after, report) =>
          (Step.notes (incompleteNotice report)).run.bind fun _ =>
            (Dialogue.question Query.shutdownRequested).bind fun (stopping : Bool) =>
              .done (if stopping then .stopped after else .again after)

/-- The line after the last tick. -/
def stoppedNotice (s : Service) : Notice :=
  .info ("Control loop stopped after " ++ s.ticks.repr ++ " ticks")

/-- Takes turns until the service stops, at most so many. -/
def serve (setup : Setup) (s : Service) : Nat → Talk Turn
  | 0 => .done (.again s)
  | turns + 1 =>
    (turn setup s).bind fun
      | .again after => serve setup after turns
      | .stopped after =>
        (Dialogue.question (.note (stoppedNotice after))).bind fun _ => .done (.stopped after)
      | .broken b => .done (.broken b)

/-- The last words: a summary. -/
def finish (s : Service) : Talk Unit :=
  (Step.notes (.info "Final billing summary" ::
    (s.billing.summary s.book).lines.map .info)).run.bind fun _ => .done ()

end RollupFees
