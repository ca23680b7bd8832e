import RollupFees.Settings
import RollupFees.Text.Blank

/-!
# Rules for settings

Settings that were read may still make no sense. The rules are checked in a fixed order, and the
first one that is broken is reported.

## Main definitions

* `Settings.Violation` : a broken rule
* `Settings.validate` : all rules
* `Settings.readAddress` : the reading of a configured address
-/

namespace RollupFees

namespace Settings

/-- A broken rule. -/
inductive Violation
  | notAFraction (key : String) (value : Decimal)
  | emptyRange (minKey maxKey : String) (min max : UInt64)
  | noInterval
  | noMultiplier
  | noWindow
  | decimalsMissing
  | tooManyDecimals (key : String)
  | badAddress (key value : String) (fault : Address.Fault)
deriving DecidableEq

/-- What the operator is told about a broken rule. -/
def Violation.message : Violation → String
  | .notAFraction key value => key ++ " must be a fraction in (0, 1), got " ++ value.text
  | .emptyRange minKey maxKey min max =>
    minKey ++ " (" ++ min.toNat.repr ++ ") must not exceed " ++ maxKey ++ " (" ++
      max.toNat.repr ++ ")"
  | .noInterval => "oracle.polling_interval_seconds must be > 0"
  | .noMultiplier => "oracle ratio multipliers must be > 0"
  | .noWindow => "oracle.overhead_window_blocks must be > 0"
  | .decimalsMissing => "last_price feeds require `decimals`"
  | .tooManyDecimals key => key ++ ".decimals must be at most " ++ maxFeedDecimals.repr
  | .badAddress key value fault =>
    key ++ ": invalid address `" ++ value ++ "`: " ++ fault.message

/-- A condition that has to hold. -/
def need (condition : Bool) (otherwise : Violation) : Except Violation Unit :=
  if condition then .ok () else .error otherwise

/-- More than nothing and less than one. -/
def isFraction (d : Decimal) : Bool := 0 < d.coefficient && d.coefficient < (10 ^ d.scale : Nat)

/-- A configured address; blanks around it do not count. -/
def readAddress (key value : String) : Except Violation Address :=
  (Address.parse (Text.trim value)).mapError (.badAddress key value)

/-- Every address has to be one. -/
def checkAddresses : List (String × String) → Except Violation Unit
  | [] => .ok ()
  | (key, value) :: rest =>
    match readAddress key value with
    | .error v => .error v
    | .ok _ => checkAddresses rest

/-- All rules. -/
def validate (s : Settings) : Except Violation Unit := do
  let o := s.oracle
  need (isFraction o.priceRatioMaxChange)
    (.notAFraction "oracle.price_ratio_max_percent_change" o.priceRatioMaxChange)
  need (isFraction o.overheadMaxChange)
    (.notAFraction "oracle.overhead_max_percent_change" o.overheadMaxChange)
  need (o.minPriceRatio ≤ o.maxPriceRatio)
    (.emptyRange "oracle.min_price_ratio" "oracle.max_price_ratio" o.minPriceRatio
      o.maxPriceRatio)
  need (o.minOverhead ≤ o.maxOverhead)
    (.emptyRange "oracle.min_overhead" "oracle.max_overhead" o.minOverhead o.maxOverhead)
  need (o.minL1BaseFee ≤ o.maxL1BaseFee)
    (.emptyRange "oracle.min_l1_base_fee" "oracle.max_l1_base_fee" o.minL1BaseFee
      o.maxL1BaseFee)
  need (o.pollingInterval.nanos ≠ 0) .noInterval
  need (o.priceRatioMultiplier ≠ 0 ∧ o.overheadRatio ≠ 0) .noMultiplier
  need (o.overheadWindow ≠ 0) .noWindow
  let native := s.priceFeeds.native
  let secondary := s.priceFeeds.secondary
  need (native.knowsDecimals && secondary.knowsDecimals)
    .decimalsMissing
  need native.hasFewDecimals (.tooManyDecimals "price_feeds.native")
  need secondary.hasFewDecimals (.tooManyDecimals "price_feeds.secondary")
  checkAddresses s.addresses

end Settings
end RollupFees
