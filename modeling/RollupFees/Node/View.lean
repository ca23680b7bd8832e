import RollupFees.Feed
import RollupFees.Node
import RollupFees.Node.Quantity

/-!
# Views of contracts

A view is a function of a contract that is called without a transaction. The call goes to an
address with the selector of the function and its arguments; the answer is data to be read.

## Main definitions

* `Node.callData` : a call as data
* `Node.view` : the exchange of a view
* `Node.tokenBalance`, `Node.registered`, `Node.feed` : views of tokens, of the registry, of feeds
* `Node.priceRatio`, `Node.overhead` and others : views of the parameters
-/

namespace RollupFees.Node

/-- A call of a function as data: its selector and its arguments. -/
def callData (signature : String) (arguments : List UInt8) : List UInt8 :=
  Abi.selector signature ++ arguments

/-- Bytes as requests hold them. -/
def bytesText (bytes : List UInt8) : String := "0x" ++ Hex.ofBytes bytes

/-- The state after the last block, as requests name it. -/
def latestState : Json := .string "latest"

/-- Data that has been read, or could not be. -/
def decoded {α : Type} : Except Abi.Fault α → Exchange α
  | .ok a => pure a
  | .error f => fail (.undecodable f)

/-- A view of the contract with an address. -/
def view {α : Type} (target : Address) (data : List UInt8)
    (decode : List UInt8 → Except Abi.Fault α) : Exchange α := do
  let call : Json := .object [("data", .string (bytesText data)), ("to", .string target.text)]
  let answer ← ask true "eth_call" (.array [call, latestState]) bytes?
  decoded (decode answer)

/-- A view without arguments, under a time limit, by the name of its function. -/
def plainView {α : Type} (limit : Duration) (target : Address) (name : String)
    (decode : List UInt8 → Except Abi.Fault α) : Talk (Except Failure α) :=
  contractCall name limit (view target (callData (name ++ "()") []) decode)

/-- The balance of a token. -/
def tokenBalance (limit : Duration) (token holder : Address) : Talk (Except Failure Amount) :=
  contractCall "balanceOf" limit
    (view token (callData "balanceOf(address)" (Abi.word holder.toNat)) Abi.asAmount)

/-- The address that a registry has for a name. -/
def registered (limit : Duration) (manager : Address) (name : String) :
    Talk (Except Failure Address) :=
  contractCall "getAddress" limit
    (view manager (callData "getAddress(string)" (Abi.textArgument name)) Abi.asAddress)

/-- What the contract behind a feed answers. -/
def feed (limit : Duration) (target : Address) : (q : Feed.Question) → Talk q.Answer
  | .decimals => plainView limit target "decimals" Abi.asByte
  | .latestAnswer => plainView limit target "latestAnswer" Abi.asSigned
  | .lastPrice => plainView limit target "lastPrice" Abi.asAmount

/-! ### Parameters -/

/-- The contracts that hold the parameters. -/
structure ParameterContracts where
  gasPriceOracle : Address
  feeTokenOracle : Address
deriving DecidableEq

/-- The price ratio. -/
def priceRatio (limit : Duration) (c : ParameterContracts) : Talk (Except Failure Amount) :=
  plainView limit c.feeTokenOracle "priceRatio" Abi.asAmount

/-- The most decimals that a price ratio may have. -/
def maxRatioDecimals : Nat := 38

/-- Decimals of a price ratio, which must not be too many. -/
def supportedDecimals (decimals : Amount) : Except Failure Nat :=
  if decimals.toNat ≤ maxRatioDecimals then .ok decimals.toNat
  else .error (.contract "decimals" ("unsupported price ratio decimals " ++ decimals.text))

/-- The decimals of the price ratio. -/
def priceRatioDecimals (limit : Duration) (c : ParameterContracts) : Talk (Except Failure Nat) :=
  (plainView limit c.feeTokenOracle "decimals" Abi.asAmount).bind fun r =>
    .done (r.bind supportedDecimals)

/-- The overhead. -/
def overhead (limit : Duration) (c : ParameterContracts) : Talk (Except Failure Amount) :=
  plainView limit c.gasPriceOracle "overhead" Abi.asAmount

/-- The base fee of the first layer. -/
def l1BaseFee (limit : Duration) (c : ParameterContracts) : Talk (Except Failure Amount) :=
  plainView limit c.gasPriceOracle "l1BaseFee" Abi.asAmount

end RollupFees.Node
