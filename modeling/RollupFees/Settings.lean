import RollupFees.Price
import RollupFees.Service.Steering

/-!
# Settings

What the service is told before it starts: where the nodes are, which contracts and accounts
matter, where prices come from, and how the parameters may move.

## Main definitions

* `Settings` : all sections
* `OracleSettings.priceRatioBounds`, `overheadBounds`, `l1BaseFeeBounds` : how parameters may move
* `Settings.controller` : what steers the parameters
-/

namespace RollupFees

/-- The nodes of both layers, the limit of a call, and how often a receipt is asked for. -/
structure RpcSettings where
  l1Url : String
  l2Url : String
  requestTimeout : Duration
  pollInterval : Duration
deriving DecidableEq

/-- The names of contracts that the address registry is asked for. -/
structure RegistryNames where
  canonicalTransactionChain : String := "CanonicalTransactionChain"
  stateCommitmentChain : String := "StateCommitmentChain"
  feeTokenGasPriceOracle : String := "Proxy__Boba_GasPriceOracle"
  secondaryFeeToken : String := "L2_L1NativeToken"
  billingContract : String := "Proxy__BobaBillingContract"
deriving DecidableEq

/-- The names in the order in which they are looked up. -/
def RegistryNames.toList (n : RegistryNames) : List String :=
  [n.canonicalTransactionChain, n.stateCommitmentChain, n.feeTokenGasPriceOracle,
    n.secondaryFeeToken, n.billingContract]

/-- The contracts with known addresses, and the names of the others. -/
structure ContractSettings where
  addressManager : String
  gasPriceOracle : String := "0x420000000000000000000000000000000000000F"
  sequencerFeeVault : String := "0x4200000000000000000000000000000000000011"
  registry : RegistryNames := {}
deriving DecidableEq

/-- The accounts that pay on the first layer. -/
structure AccountSettings where
  sequencer : String
  proposer : String
  relayer : String
  fastRelayer : String
deriving DecidableEq

/-- How a price feed is read. An aggregator tells its decimals, the other kind does not. -/
inductive FeedKind
  | aggregator
  | lastPrice
deriving DecidableEq, Repr

namespace FeedKind

/-- The name of a kind in a settings file. -/
def name : FeedKind → String
  | .aggregator => "aggregator"
  | .lastPrice => "last_price"

/-- The kind of a name. -/
def ofName? (name : String) : Option FeedKind :=
  [FeedKind.aggregator, .lastPrice].find? fun k => k.name = name

end FeedKind

/-- One price feed. -/
structure FeedSettings where
  url : String
  address : String
  kind : FeedKind
  decimals : Option UInt8 := none
deriving DecidableEq

namespace FeedSettings

/-- A feed that does not tell its decimals has to have them configured. -/
def knowsDecimals (f : FeedSettings) : Bool := f.kind = .aggregator || f.decimals.isSome

/-- Configured decimals are limited. -/
def hasFewDecimals (f : FeedSettings) : Bool :=
  match f.decimals with
  | some d => d.toNat ≤ maxFeedDecimals
  | none => true

end FeedSettings

/-- How the parameters may move, and how often they are looked at. -/
structure OracleSettings where
  pollingInterval : Duration := .seconds 60
  priceRatioMultiplier : UInt64 := 100
  priceRatioMaxChange : Decimal := ⟨5, 2, by decide, by decide⟩
  priceRatioMinStep : UInt64 := 1
  minPriceRatio : UInt64 := 1
  maxPriceRatio : UInt64 := 1000000000
  overheadRatio : UInt64 := 1000
  overheadMaxChange : Decimal := ⟨10, 2, by decide, by decide⟩
  overheadMinStep : UInt64 := 1
  minOverhead : UInt64 := 2000
  maxOverhead : UInt64 := 500000
  overheadWindow : UInt64 := 1000
  minL1BaseFee : UInt64 := 1000000000
  maxL1BaseFee : UInt64 := 500000000000
  confirmationTimeout : Duration := .seconds 120
  updateGasPrice : Option UInt64 := none
deriving DecidableEq

namespace OracleSettings

/-- An amount from a number of 64 bits. -/
def amount (n : UInt64) : Amount := .clamp n.toNat

/-- How the price ratio may move. -/
def priceRatioBounds (o : OracleSettings) : Bounds :=
  ⟨some o.priceRatioMaxChange, amount o.priceRatioMinStep, amount o.minPriceRatio,
    amount o.maxPriceRatio⟩

/-- How the overhead may move. -/
def overheadBounds (o : OracleSettings) : Bounds :=
  ⟨some o.overheadMaxChange, amount o.overheadMinStep, amount o.minOverhead,
    amount o.maxOverhead⟩

/-- How the base fee may move: inside its band, however far. -/
def l1BaseFeeBounds (o : OracleSettings) : Bounds :=
  ⟨none, 1, amount o.minL1BaseFee, amount o.maxL1BaseFee⟩

end OracleSettings

/-- The feeds of both prices. -/
structure FeedPair where
  native : FeedSettings
  secondary : FeedSettings
deriving DecidableEq

/-- All sections. The state is kept in `dataDir`, the key of the signer is in the environment
under `privateKeyEnv`, and figures are served at `listenAddr`. -/
structure Settings where
  rpc : RpcSettings
  contracts : ContractSettings
  accounts : AccountSettings
  priceFeeds : FeedPair
  oracle : OracleSettings
  dataDir : String := "data"
  privateKeyEnv : String := "ORACLE_OWNER_PRIVATE_KEY"
  listenAddr : Option String := none
deriving DecidableEq

namespace Settings

/-- What steers the parameters. -/
def controller (s : Settings) : ControllerSettings where
  priceRatio := s.oracle.priceRatioBounds
  overhead := s.oracle.overheadBounds
  l1BaseFee := s.oracle.l1BaseFeeBounds
  priceRatioMultiplier := s.oracle.priceRatioMultiplier.toNat
  overheadRatio := s.oracle.overheadRatio.toNat
  overheadWindow := s.oracle.overheadWindow.toNat
  confirmationTimeout := s.oracle.confirmationTimeout

/-- The configured addresses under their keys, in the order in which they are checked. -/
def addresses (s : Settings) : List (String × String) :=
  [("contracts.address_manager", s.contracts.addressManager),
    ("contracts.gas_price_oracle", s.contracts.gasPriceOracle),
    ("contracts.sequencer_fee_vault", s.contracts.sequencerFeeVault),
    ("accounts.sequencer", s.accounts.sequencer),
    ("accounts.proposer", s.accounts.proposer),
    ("accounts.relayer", s.accounts.relayer),
    ("accounts.fast_relayer", s.accounts.fastRelayer),
    ("price_feeds.native.address", s.priceFeeds.native.address),
    ("price_feeds.secondary.address", s.priceFeeds.secondary.address)]

end Settings
end RollupFees
