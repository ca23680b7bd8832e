import RollupFees.Dialogue
import RollupFees.Price

/-!
# Price feeds

There are two kinds of feeds. An aggregator tells the decimals of its answers, which never change,
so they are asked for only until they are known; its answers have a sign, and only positive ones are
prices. The other kind tells a last price alone, and its decimals come from the settings.

## Main definitions

* `Feed` : a feed with what is known of it
* `Feed.Question` : what is asked of the contract behind a feed
* `Feed.latest` : the latest answer, and the feed afterwards
-/

namespace RollupFees

/-- A feed. The decimals of an aggregator are missing until they have been asked for. -/
inductive Feed
  | aggregator (decimals : Option Nat)
  | lastPrice (decimals : Nat)
deriving DecidableEq, Repr

namespace Feed

/-- What is asked of the contract behind a feed. -/
inductive Question
  | decimals
  | latestAnswer
  | lastPrice
deriving DecidableEq, Repr

/-- What may come back. -/
abbrev Question.Answer : Question → Type
  | .decimals => Except Failure Nat
  | .latestAnswer => Except Failure Int
  | .lastPrice => Except Failure Amount

/-- A dialogue with the contract behind a feed. -/
abbrev Talk (α : Type) := Dialogue Question.Answer α

/-- The answer of an aggregator as an amount. An answer that is not positive is not a price. -/
def positive (answer : Int) : Except Failure Amount :=
  if answer ≤ 0 then .error (.contract "latestAnswer" ("non-positive answer " ++ answer.repr))
  else .ok (Amount.clamp answer.toNat)

/-- The decimals of an aggregator: the known ones, or what it tells. -/
def tellDecimals : Option Nat → Talk (Except Failure Nat)
  | some d => .done (.ok d)
  | none => Dialogue.question Question.decimals

/-- The latest answer of a feed, and the feed afterwards. -/
def latest : Feed → Talk (Except Failure RawPrice × Feed)
  | .lastPrice d =>
    (Dialogue.question Question.lastPrice).bind fun (r : Except Failure Amount) =>
      .done (r.map (⟨·, d⟩), .lastPrice d)
  | .aggregator known =>
    (tellDecimals known).bind fun
      | .error f => .done (.error f, .aggregator none)
      | .ok d =>
        (Dialogue.question Question.latestAnswer).bind fun (r : Except Failure Int) =>
          .done ((r.bind positive).map (⟨·, d⟩), .aggregator (some d))

@[simp] theorem tellDecimals_some (d : Nat) : tellDecimals (some d) = .done (.ok d) := rfl

end Feed
end RollupFees
