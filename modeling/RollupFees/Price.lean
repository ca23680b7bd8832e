import RollupFees.Conversion
import RollupFees.Failure
import RollupFees.Timestamp

/-!
# Prices

Two prices in dollars are followed, one for each fee token. A feed gives a raw number with a count
of decimals; the price is that number in dollars, cut to cents. The book keeps the last good price
of each pair: a failed fetch never clears an entry.

## Main definitions

* `Pair` : a token priced in dollars
* `RawPrice.normalize` : the price of a raw answer
* `PriceBook` : the last good price of each pair
* `PriceBook.take` : the book after an answer, and the failure if there was one
-/

namespace RollupFees

/-- A fee token priced in dollars. -/
inductive Pair
  | native
  | secondary
deriving DecidableEq, Repr, Inhabited

namespace Pair

/-- Both pairs, the native one first. -/
def all : List Pair := [.native, .secondary]

/-- The name of a pair in logs. -/
def name : Pair → String
  | .native => "native_usd"
  | .secondary => "secondary_usd"

end Pair

/-- An answer of a feed: `answer / 10 ^ decimals`. -/
structure RawPrice where
  answer : Amount
  decimals : Nat
deriving DecidableEq

/-- The most decimals that a feed may be configured with. -/
def maxFeedDecimals : Nat := 36

/-- The price of an answer, cut to cents. -/
def RawPrice.normalize (raw : RawPrice) : Except Failure Decimal :=
  match raw.answer.toDecimal raw.decimals with
  | .ok d => .ok d.cents
  | .error fault => .error (.conversion fault)

/-- A price and when it was seen. -/
structure Observation where
  value : Decimal
  observedAt : Timestamp
deriving DecidableEq

/-- The last good price of each pair. -/
structure PriceBook where
  native : Option Observation
  secondary : Option Observation
deriving DecidableEq

namespace PriceBook

/-- The book before any price is known. -/
def empty : PriceBook := ⟨none, none⟩

instance : Inhabited PriceBook := ⟨empty⟩

/-- The last good observation of a pair. -/
def get? (book : PriceBook) : Pair → Option Observation
  | .native => book.native
  | .secondary => book.secondary

/-- The last good price of a pair. -/
def value? (book : PriceBook) (pair : Pair) : Option Decimal :=
  (book.get? pair).map (·.value)

/-- The book with a new observation of a pair. -/
def record (book : PriceBook) (pair : Pair) (o : Observation) : PriceBook :=
  match pair with
  | .native => { book with native := some o }
  | .secondary => { book with secondary := some o }

@[simp] theorem get?_record (book : PriceBook) (pair other : Pair) (o : Observation) :
    (book.record pair o).get? other = if other = pair then some o else book.get? other := by
  cases pair <;> cases other <;> rfl

/-- The price that an answer stands for, or why there is none. -/
def judge (fetched : Except Failure RawPrice) : Except Failure Decimal :=
  fetched.bind RawPrice.normalize

/-- The book after an answer for a pair. A failure leaves it as it is. -/
def take (book : PriceBook) (pair : Pair) (fetched : Except Failure RawPrice) (now : Timestamp) :
    PriceBook :=
  match judge fetched with
  | .ok value => book.record pair ⟨value, now⟩
  | .error _ => book

/-- The book after the answers for both pairs. -/
def refresh (book : PriceBook) (native secondary : Except Failure RawPrice) (now : Timestamp) :
    PriceBook :=
  (book.take .native native now).take .secondary secondary now

/-- The failure of a refresh: that of the native pair, else that of the secondary pair. -/
def refreshFailure? (native secondary : Except Failure RawPrice) : Option Failure :=
  match judge native, judge secondary with
  | .error e, _ => some e
  | .ok _, .error e => some e
  | .ok _, .ok _ => none

end PriceBook
end RollupFees
