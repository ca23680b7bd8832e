import RollupFees.Service.Query

/-!
# Steering the parameters

Each parameter is read from the chain, a target is worked out from other readings, and the move
that the bounds allow is written. A write is followed until it is mined, for a limited time, unless
a request to stop comes first.

## Main definitions

* `ControllerSettings` : bounds and factors
* `ParameterOutcome` : what a step did about its parameter
* `Step.apply` : one write, followed until it is mined
* `Step.updatePriceRatio`, `updateOverhead`, `updateL1BaseFee` : the three write steps of a tick
-/

namespace RollupFees

/-- Bounds and factors for the parameters. The multiplier is in percent, the overhead ratio in
thousandths, the window in blocks. -/
structure ControllerSettings where
  priceRatio : Bounds
  overhead : Bounds
  l1BaseFee : Bounds
  priceRatioMultiplier : Nat
  overheadRatio : Nat
  overheadWindow : Nat
  confirmationTimeout : Duration
deriving DecidableEq

/-- What a step did about its parameter. -/
structure ParameterOutcome where
  parameter : Parameter
  current : Amount
  target : Option Amount
  action : Action
  confirmation : Option Confirmation
deriving DecidableEq

/-- A reason that hints at a fault is logged as a warning. -/
def SkipReason.isSuspicious : SkipReason → Bool
  | .outOfBounds | .missingPrice | .invalidTarget => true
  | _ => false

/-- The line about a parameter that is left alone. -/
def skipNotice (parameter : Parameter) (current : Amount) (target : Option Amount)
    (reason : SkipReason) : Notice :=
  let line := "parameter=" ++ parameter.name ++ " action=noop reason=" ++ reason.name ++
    " current=" ++ current.text ++ " target=" ++ (target.map Amount.text).getD "none"
  if reason.isSuspicious then .warn line else .info line

/-- The line about a clamped value outside the hard bounds. -/
def clampNotice (bounds : Bounds) (target current next : Amount) : Notice :=
  .warn ("clamped value=" ++ next.text ++ " outside [" ++ bounds.hardFloor.text ++ ", " ++
    bounds.hardCeiling.text ++ "] (target=" ++ target.text ++ " current=" ++ current.text ++ ")")

/-- An optional figure in a log line. -/
def optionText : Option String → String
  | none => "None"
  | some s => "Some(" ++ s ++ ")"

/-- The line about a write that has been mined. -/
def setNotice (parameter : Parameter) (current target written : Amount) (c : Confirmation) :
    Notice :=
  .info ("parameter=" ++ parameter.name ++ " action=set previous=" ++ current.text ++ " value=" ++
    written.text ++ " target=" ++ target.text ++ " tx=" ++ c.tx.text ++ " block=" ++
    optionText (c.block.map Nat.repr))

namespace Step

/-- Writes one update and follows it until it is mined. Nothing is written once a request to stop
has come. -/
def apply (limit : Duration) (u : Update) : Step Confirmation := do
  let stopping ← ask .shutdownRequested
  if (stopping : Bool) then fail .shutdown
  else
    let tx ← need (Dialogue.question (Query.submit u))
    note (.info ("parameter=" ++ u.parameter.name ++ " submitted value=" ++ u.value.text ++
      " tx=" ++ tx.text))
    let wait ← ask (.confirmation u.parameter tx limit)
    match (wait : Wait) with
    | .finished (.ok c) => pure c
    | .finished (.error e) => fail e
    | .timedOut => fail (.unconfirmed tx limit)
    | .interrupted =>
      note (.warn ("parameter=" ++ u.parameter.name ++ " tx=" ++ tx.text ++
        " left unconfirmed on shutdown"))
      fail .shutdown

/-- Leaves a parameter alone, for a reason. -/
def skip (parameter : Parameter) (current : Amount) (target : Option Amount)
    (reason : SkipReason) : Step ParameterOutcome := do
  note (skipNotice parameter current target reason)
  pure ⟨parameter, current, target, .noOp reason, none⟩

/-- Moves a parameter toward a target as far as its bounds allow. -/
def moveToward (limit : Duration) (bounds : Bounds) (parameter : Parameter)
    (current target : Amount) (update : Amount → Update) : Step ParameterOutcome := do
  let action ← compute (bounds.decide target current)
  notes ((bounds.refusedClamp? target current).toList.map (clampNotice bounds target current))
  match action with
  | .noOp reason => skip parameter current (some target) reason
  | .setTo value => do
    let c ← apply limit (update value)
    note (setNotice parameter current target value c)
    pure ⟨parameter, current, some target, .setTo value, some c⟩

/-- Steers the price ratio by the last known prices. The ratio and its decimals are taken together,
and asked in this order. -/
def updatePriceRatio (s : ControllerSettings) (prices : PriceBook) : Step ParameterOutcome := do
  let current ← need (Dialogue.question Query.priceRatio)
  let decimals ← need (Dialogue.question Query.priceRatioDecimals)
  let native := prices.value? .native
  let secondary := prices.value? .secondary
  match priceRatioTarget native secondary decimals s.priceRatioMultiplier with
  | .error reason => skip .priceRatio current none reason
  | .ok (target, market) => do
    note (.info ("parameter=price_ratio current=" ++ current.text ++ " target=" ++ target.text ++
      " market_ratio=" ++ market.text ++ " native_usd=" ++ optionText (native.map Decimal.text) ++
      " secondary_usd=" ++ optionText (secondary.map Decimal.text) ++ " decimals=" ++
      decimals.repr))
    moveToward s.confirmationTimeout s.priceRatio .priceRatio current target
      (Update.priceRatio · market)

/-- The gas used by transactions, all of which have to have receipts. -/
def totalGas : List Hash → List (Option Receipt) → Step Amount
  | hashes, receipts =>
    (hashes.zip receipts).foldlM (fun sum x =>
      match x.2 with
      | some r => pure (sum.satAdd r.gasUsed)
      | none => fail (.rpc "eth_getTransactionReceipt"
          ("no receipt for batch transaction " ++ x.1.text))) 0

/-- Steers the overhead by what the batches of a window have cost. -/
def updateOverhead (s : ControllerSettings) : Step ParameterOutcome := do
  let current ← need (Dialogue.question Query.overhead)
  let latest ← need (Dialogue.question Query.blockNumber)
  let first := latest - s.overheadWindow
  let events ← need (Dialogue.question (Query.batchEvents first latest))
  if events.isEmpty then do
    note (.info ("parameter=overhead no batch events in blocks " ++ first.repr ++ "..=" ++
      latest.repr))
    skip .overhead current none .insufficientData
  else do
    let hashes := BatchEvent.transactions events
    let found ← receipts hashes
    let gas ← totalGas hashes found
    let size := BatchEvent.totalSize events
    match overheadTarget gas size s.overheadRatio with
    | .error reason => skip .overhead current none reason
    | .ok target => do
      note (.info ("parameter=overhead current=" ++ current.text ++ " target=" ++ target.text ++
        " gas_used=" ++ gas.text ++ " batch_size=" ++ size.text ++ " transactions=" ++
        hashes.length.repr ++ " blocks=" ++ first.repr ++ "..=" ++ latest.repr))
      moveToward s.confirmationTimeout s.overhead .overhead current target Update.overhead

/-- Steers the base fee by the gas price of the first layer. Both are taken together, the gas price
being asked first. -/
def updateL1BaseFee (s : ControllerSettings) : Step ParameterOutcome := do
  let target ← need (Dialogue.question Query.gasPrice)
  let current ← need (Dialogue.question Query.l1BaseFee)
  note (.info ("parameter=l1_base_fee current=" ++ current.text ++ " target=" ++ target.text))
  moveToward s.confirmationTimeout s.l1BaseFee.band .l1BaseFee current target Update.l1BaseFee

end Step
end RollupFees
