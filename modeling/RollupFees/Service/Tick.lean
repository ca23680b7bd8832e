import RollupFees.Service.Pricing
import RollupFees.Service.Reconciliation
import RollupFees.Service.Steering

/-!
# One tick

A tick runs six steps: the prices, the two ledgers, the three parameters. A step that fails is
logged and reported, and the tick moves on. Once a request to stop has come, the steps that write
on chain are cancelled.

## Main definitions

* `TickStep`, `StepStatus`, `TickReport` : what a tick reports
* `Service` : what the service keeps between ticks
* `runStep` : one step, with the state after it
* `tick` : the six steps in order
-/

namespace RollupFees

/-- The steps of a tick. -/
inductive TickStep
  | refreshPrices
  | reconcileL1
  | reconcileL2
  | priceRatio
  | overhead
  | l1BaseFee
deriving DecidableEq, Repr

namespace TickStep

/-- The steps in order. -/
def all : List TickStep :=
  [.refreshPrices, .reconcileL1, .reconcileL2, .priceRatio, .overhead, .l1BaseFee]

/-- The name of a step in logs and reports. -/
def name : TickStep → String
  | .refreshPrices => "refresh_prices"
  | .reconcileL1 => "reconcile_l1"
  | .reconcileL2 => "reconcile_l2"
  | .priceRatio => "price_ratio"
  | .overhead => "overhead"
  | .l1BaseFee => "l1_base_fee"

/-- The step of a name. -/
def ofName? (name : String) : Option TickStep := all.find? fun s => s.name = name

/-- Whether a step writes on chain. -/
def writesOnChain : TickStep → Bool
  | .priceRatio | .overhead | .l1BaseFee => true
  | _ => false

end TickStep

/-- How a step ended. -/
inductive StepStatus
  | completed
  | failed (kind : Failure.Kind) (message : String)
  | cancelled
deriving DecidableEq

/-- What a tick reports. -/
structure TickReport where
  tick : Nat
  steps : List (TickStep × StepStatus)
  parameters : List ParameterOutcome
  duration : Duration
deriving DecidableEq

namespace TickReport

/-- How a step ended; the first entry counts. -/
def status? (r : TickReport) (step : TickStep) : Option StepStatus :=
  (r.steps.find? fun s => s.1 = step).map Prod.snd

/-- The steps that failed. -/
def failedSteps (r : TickReport) : List TickStep :=
  (r.steps.filter fun s =>
    match s.2 with
    | .failed .. => true
    | _ => false).map Prod.fst

/-- Whether every step was completed. -/
def allCompleted (r : TickReport) : Bool := r.steps.all fun s => s.2 = .completed

/-- The number of writes that were mined. -/
def writes (r : TickReport) : Nat := (r.parameters.filter fun p => p.confirmation.isSome).length

end TickReport

/-- What a service is set up with. -/
structure Setup where
  accounts : Accounts
  pollingInterval : Duration
  controller : ControllerSettings
deriving DecidableEq

/-- What the service keeps between ticks. -/
structure Service where
  billing : Billing
  book : PriceBook
  ticks : Nat
deriving DecidableEq

/-- The service before it has started. -/
def Service.fresh : Service := ⟨Billing.empty, PriceBook.empty, 0⟩

instance : Inhabited Service := ⟨Service.fresh⟩

/-- How a step that ran came out: what it did about its parameter, if it has one. -/
abbrev StepResult := Except Stop (Option ParameterOutcome)

/-- Runs a step that brings a ledger up to date. Billing changes only if it succeeds. -/
def runLedgerStep (s : Service) (step : Step Billing) : Talk (Service × StepResult) :=
  step.run.bind fun
    | .ok billing => .done ({ s with billing := billing }, .ok none)
    | .error stop => .done (s, .error stop)

/-- Runs a step that steers a parameter. -/
def runParameterStep (s : Service) (step : Step ParameterOutcome) : Talk (Service × StepResult) :=
  step.run.bind fun r => .done (s, r.map some)

/-- Runs one step, whatever is requested. -/
def runStep (setup : Setup) (s : Service) : TickStep → Talk (Service × StepResult)
  | .refreshPrices =>
    (refreshPrices s.book).bind fun
      | (book, none) => .done ({ s with book := book }, .ok none)
      | (book, some failure) => .done ({ s with book := book }, .error (.failed failure))
  | .reconcileL1 => runLedgerStep s (Step.reconcileL1 setup.accounts s.billing)
  | .reconcileL2 => runLedgerStep s (Step.reconcileL2 setup.accounts s.billing s.book)
  | .priceRatio => runParameterStep s (Step.updatePriceRatio setup.controller s.book)
  | .overhead => runParameterStep s (Step.updateOverhead setup.controller)
  | .l1BaseFee => runParameterStep s (Step.updateL1BaseFee setup.controller)

/-- How far a tick has come. -/
structure Progress where
  service : Service
  steps : List (TickStep × StepStatus)
  parameters : List ParameterOutcome

namespace Progress

/-- One more step with its status. -/
def report (p : Progress) (step : TickStep) (status : StepStatus) : Progress :=
  { p with steps := p.steps ++ [(step, status)] }

/-- The line about a failed step. -/
def failureNotice (tick : Nat) (step : TickStep) (failure : Failure) : Notice :=
  .error ("tick=" ++ tick.repr ++ " step=" ++ step.name ++ " failed kind=" ++ failure.kind.name ++
    ": " ++ failure.message)

/-- Takes in how a step came out. A request to stop cancels the step; every other failure is
logged. -/
def settle (p : Progress) (tick : Nat) (step : TickStep) (service : Service) (r : StepResult) :
    Talk (Except Breakdown Progress) :=
  let after := { p with service := service }
  match r with
  | .ok outcome =>
    .done (.ok ({ after with parameters := p.parameters ++ outcome.toList }.report step .completed))
  | .error (.failed .shutdown) => .done (.ok (after.report step .cancelled))
  | .error (.failed failure) =>
    (Dialogue.question (.note (failureNotice tick step failure))).bind fun _ =>
      .done (.ok (after.report step (.failed failure.kind failure.message)))
  | .error (.broken b) => .done (.error b)

/-- Whether a step is left out because of a request to stop, which matters only to steps that write
on chain. -/
def isCancelled (step : TickStep) : Talk Bool :=
  if step.writesOnChain then Dialogue.question Query.shutdownRequested else .done false

/-- One step of a tick. -/
def advance (setup : Setup) (tick : Nat) (p : Progress) (step : TickStep) :
    Talk (Except Breakdown Progress) :=
  (isCancelled step).bind fun
    | true => .done (.ok (p.report step .cancelled))
    | false => (runStep setup p.service step).bind fun x => p.settle tick step x.1 x.2

/-- Several steps in order. -/
def advanceAll (setup : Setup) (tick : Nat) (p : Progress) :
    List TickStep → Talk (Except Breakdown Progress)
  | [] => .done (.ok p)
  | step :: rest =>
    (advance setup tick p step).bind fun
      | .ok next => advanceAll setup tick next rest
      | .error b => .done (.error b)

end Progress

/-- Names in quotes, in brackets. -/
def quotedNames (names : List String) : String :=
  "[" ++ ", ".intercalate (names.map fun n => "\"" ++ n ++ "\"") ++ "]"

/-- The line at the end of a tick. -/
def tickNotice (r : TickReport) : Notice :=
  ⟨.info, [.words ("tick=" ++ r.tick.repr ++ " finished in "), .elapsed r.duration,
    .words (" failed=" ++ quotedNames (r.failedSteps.map TickStep.name) ++ " updates=" ++
      r.writes.repr)]⟩

/-- Runs the six steps once. -/
def tick (setup : Setup) (s : Service) : Talk (Except Breakdown (Service × TickReport)) :=
  let number := s.ticks + 1
  (Dialogue.question Query.uptime).bind fun started =>
    (Progress.advanceAll setup number ⟨{ s with ticks := number }, [], []⟩ TickStep.all).bind fun
      | .error b => .done (.error b)
      | .ok p =>
        (Dialogue.question Query.uptime).bind fun ended =>
          let report : TickReport :=
            ⟨number, p.steps, p.parameters, ⟨ended.nanos - started.nanos⟩⟩
          (Dialogue.question (.note (tickNotice report))).bind fun _ =>
            .done (.ok (p.service, report))

end RollupFees
