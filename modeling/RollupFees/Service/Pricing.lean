import RollupFees.Service.Query

/-!
# Refreshing the prices

Both feeds are asked on every tick, whatever the other one answers. What can be recorded is
recorded; the step fails with the first failure.

## Main definitions

* `refreshPrices` : the book after both answers, and the failure if there was one
-/

namespace RollupFees

/-- The line about an answer that was no price. -/
def priceNotice (book : PriceBook) (pair : Pair) (failure : Failure) : Notice :=
  match book.get? pair with
  | some stale =>
    ⟨.warn, [.words ("price pair=" ++ pair.name ++ " fetch failed, keeping value=" ++
      stale.value.text ++ " from "), .instant stale.observedAt, .words (": " ++ failure.message)]⟩
  | none =>
    .warn ("price pair=" ++ pair.name ++ " fetch failed and no prior value: " ++ failure.message)

/-- The line about an answer, if it was no price. -/
def priceNotices (book : PriceBook) (pair : Pair) (fetched : Except Failure RawPrice) :
    List Notice :=
  match PriceBook.judge fetched with
  | .ok _ => []
  | .error failure => [priceNotice book pair failure]

/-- A price in a log line. -/
def priceText (value : Option Decimal) : String := (value.map Decimal.text).getD "unknown"

/-- The line about the prices after a refresh. -/
def pricesNotice (book : PriceBook) : Notice :=
  .info ("prices native_usd=" ++ priceText (book.value? .native) ++ " secondary_usd=" ++
    priceText (book.value? .secondary))

/-- Asks both feeds and records what they answer. Both answers are awaited, so the order in which
they arrive does not matter. -/
def refreshPrices (book : PriceBook) : Talk (PriceBook × Option Failure) := do
  let native ← Dialogue.question (.latestAnswer .native)
  let secondary ← Dialogue.question (.latestAnswer .secondary)
  let now ← Dialogue.question .now
  let after := book.refresh native secondary now
  let _ ← (Step.notes (priceNotices book .native native ++ priceNotices book .secondary secondary
    ++ [pricesNotice after])).run
  pure (after, PriceBook.refreshFailure? native secondary)

end RollupFees
