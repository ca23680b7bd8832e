import RollupFees.Amount
import RollupFees.Conversion
import RollupFees.Failure

/-!
# Fee parameters

Three parameters on chain are steered. A target is written only inside hard bounds and only if the
move is worth making; a move is limited to a fraction of the current value.

## Main definitions

* `Parameter`, `Update` : a parameter and a write of it
* `Bounds` : how a parameter may move
* `Bounds.decide` : what to do about a target
* `priceRatioTarget`, `overheadTarget` : the targets
-/

namespace RollupFees

/-- A fee parameter on chain. -/
inductive Parameter
  | priceRatio
  | overhead
  | l1BaseFee
deriving DecidableEq, Repr, Inhabited

namespace Parameter

/-- Every parameter, in the order in which they are written. -/
def all : List Parameter := [.priceRatio, .overhead, .l1BaseFee]

/-- The name of a parameter in logs and reports. -/
def name : Parameter → String
  | .priceRatio => "price_ratio"
  | .overhead => "overhead"
  | .l1BaseFee => "l1_base_fee"

end Parameter

/-- A write of a parameter. The price ratio is written with the market ratio that it follows. -/
inductive Update
  | priceRatio (ratio marketRatio : Amount)
  | overhead (value : Amount)
  | l1BaseFee (value : Amount)
deriving DecidableEq

namespace Update

/-- The parameter that is written. -/
def parameter : Update → Parameter
  | .priceRatio .. => .priceRatio
  | .overhead _ => .overhead
  | .l1BaseFee _ => .l1BaseFee

/-- The value that is written. -/
def value : Update → Amount
  | .priceRatio ratio _ => ratio
  | .overhead v => v
  | .l1BaseFee v => v

end Update

/-- How a parameter may move. -/
structure Bounds where
  maxDeltaFraction : Option Decimal
  minStep : Amount
  hardFloor : Amount
  hardCeiling : Amount
deriving DecidableEq

/-- Whether a value lies within the hard bounds. -/
def Bounds.contains (b : Bounds) (value : Amount) : Bool :=
  b.hardFloor ≤ value && value ≤ b.hardCeiling

/-- Why a parameter is left alone. -/
inductive SkipReason
  | atTarget
  | belowMinStep
  | outOfBounds
  | missingPrice
  | insufficientData
  | invalidTarget
deriving DecidableEq, Repr

/-- The name of a reason in logs and reports. -/
def SkipReason.name : SkipReason → String
  | .atTarget => "at_target"
  | .belowMinStep => "below_min_step"
  | .outOfBounds => "out_of_bounds"
  | .missingPrice => "missing_price"
  | .insufficientData => "insufficient_data"
  | .invalidTarget => "invalid_target"

/-- What to do about a parameter. -/
inductive Action
  | noOp (reason : SkipReason)
  | setTo (value : Amount)
deriving DecidableEq

/-! ### Limited moves -/

/-- Parts per million. -/
def million : Nat := 1000000

/-- A fraction in parts per million, rounded down. A negative fraction, or one that does not fit in
64 bits, counts as the whole. -/
def partsPerMillion (fraction : Decimal) : Except Breakdown Nat :=
  match (Decimal.ofInt? million).bind fraction.mul? with
  | some product => .ok ((product.floorBelow? (2 ^ 64)).getD million)
  | none => .error .fractionTooLarge

/-- The furthest value on the way to a target, when a move may change a value by so many parts per
million. Upward the change is rounded down and downward up, so that both ends are the floor of the
exact limit. Nothing if the change rounds down to zero. -/
def limitedMove (target current : Amount) (ppm : Nat) : Option Amount :=
  let scaled := current.satMul (Amount.clamp ppm)
  let step := scaled.div (Amount.clamp million)
  if step = 0 then none
  else if current < target then
    let reach := current.satAdd step
    some (if target ≤ reach then target else reach)
  else
    let step := (scaled.satAdd (Amount.clamp (million - 1))).div (Amount.clamp million)
    let reach := current.satSub step
    some (if reach ≤ target then target else reach)

/-- The next value on the way to a target, or nothing if there is no move to make. -/
def nextValue (target current : Amount) (fraction : Option Decimal) :
    Except Breakdown (Option Amount) :=
  match fraction with
  | none => .ok (some target)
  | some f =>
    if current = 0 then .ok (some target)
    else (partsPerMillion f).map (limitedMove target current)

/-- Why a target is not worth a move at all: it is outside the bounds, or reached, or too near. -/
def Bounds.worthMoving (bounds : Bounds) (target current : Amount) : Option SkipReason :=
  if ¬ bounds.contains target then some .outOfBounds
  else if target = current then some .atTarget
  else if target.distance current < bounds.minStep then some .belowMinStep
  else none

/-- What to do about a target. The value that is written lies within the hard bounds. -/
def Bounds.decide (bounds : Bounds) (target current : Amount) : Except Breakdown Action :=
  match bounds.worthMoving target current with
  | some reason => .ok (.noOp reason)
  | none =>
    (nextValue target current bounds.maxDeltaFraction).map fun
      | none => .noOp .belowMinStep
      | some next => if bounds.contains next then .setTo next else .noOp .outOfBounds

/-- A clamped value that is refused because it lies outside the hard bounds. -/
def Bounds.refusedClamp? (bounds : Bounds) (target current : Amount) : Option Amount :=
  match bounds.worthMoving target current with
  | some _ => none
  | none =>
    match nextValue target current bounds.maxDeltaFraction with
    | .ok (some next) => if bounds.contains next then none else some next
    | _ => none

/-- The bounds of a parameter that moves straight to its target. -/
def Bounds.band (b : Bounds) : Bounds := ⟨none, 1, b.hardFloor, b.hardCeiling⟩

/-- What to do about a target for the base fee, which is not limited. -/
def Bounds.decideL1BaseFee (bounds : Bounds) (target current : Amount) :
    Except Breakdown Action :=
  bounds.band.decide target current

/-! ### Targets -/

/-- The power of ten that a price ratio is scaled by. -/
def ratioScale? (decimals : Nat) : Option Decimal :=
  if decimals ≤ 38 then Decimal.ofInt? (10 ^ decimals : Nat) else none

/-- The ratio of two prices in fixed point, and that ratio times a multiplier in percent: first the
target, then the market ratio. -/
def priceRatioTarget (native secondary : Option Decimal) (decimals multiplier : Nat) :
    Except SkipReason (Amount × Amount) :=
  match native, secondary with
  | some a, some b =>
    if b.isZero then .error .missingPrice
    else
      let figures := do
        let scale ← ratioScale? decimals
        let ratio ← a.div? b
        let market ← ratio.mul? scale
        let factor ← Decimal.ofInt? multiplier
        let hundred ← Decimal.ofInt? 100
        let scaled ← market.mul? factor
        let target ← scaled.div? hundred
        some (target, market)
      match figures with
      | none => .error .invalidTarget
      | some (target, market) =>
        match target.toAmount, market.toAmount with
        | .ok t, .ok m => .ok (t, m)
        | _, _ => .error .invalidTarget
  | _, _ => .error .missingPrice

/-- The gas that one element of a batch costs, times a ratio in thousandths. -/
def overheadTarget (gasUsed batchSize : Amount) (ratio : Nat) : Except SkipReason Amount :=
  if batchSize = 0 then .error .insufficientData
  else
    match (gasUsed.div batchSize).mul? (Amount.clamp ratio) with
    | some product => .ok (product.div (Amount.clamp 1000))
    | none => .error .invalidTarget

end RollupFees
