import RollupFees.Settings.Section

/-!
# Reading settings

Each section is read field by field. Where several fields are at fault the first one is reported; a
reader that takes up the fields of a table in an order of its own may report another one of them.

## Main definitions

* `Settings.ofFields` : settings from the fields of a file
-/

namespace RollupFees.Settings

/-- The nodes. -/
def readRpc (s : Setting) : Reading RpcSettings := do
  let sec ← Section.of
    ⟨"Rpc", ["l1_http_url", "l2_http_url", "request_timeout_ms", "poll_interval_ms"]⟩ s
  pure {
    l1Url := ← sec.get "l1_http_url" text
    l2Url := ← sec.get "l2_http_url" text
    requestTimeout := .millis (← sec.getD "request_timeout_ms" 10000 word).toNat
    pollInterval := .millis (← sec.getD "poll_interval_ms" 1000 word).toNat }

/-- The names for the address registry. -/
def readRegistry (s : Setting) : Reading RegistryNames := do
  let sec ← Section.of
    ⟨"RegistryNames", ["canonical_transaction_chain", "state_commitment_chain",
      "fee_token_gas_price_oracle", "secondary_fee_token", "billing_contract"]⟩ s
  let names : RegistryNames := {}
  pure {
    canonicalTransactionChain :=
      ← sec.getD "canonical_transaction_chain" names.canonicalTransactionChain text
    stateCommitmentChain := ← sec.getD "state_commitment_chain" names.stateCommitmentChain text
    feeTokenGasPriceOracle :=
      ← sec.getD "fee_token_gas_price_oracle" names.feeTokenGasPriceOracle text
    secondaryFeeToken := ← sec.getD "secondary_fee_token" names.secondaryFeeToken text
    billingContract := ← sec.getD "billing_contract" names.billingContract text }

/-- The contracts. -/
def readContracts (s : Setting) : Reading ContractSettings := do
  let sec ← Section.of
    ⟨"Contracts", ["address_manager", "gas_price_oracle", "sequencer_fee_vault", "registry"]⟩ s
  let addressManager ← sec.get "address_manager" text
  let known : ContractSettings := { addressManager }
  pure {
    addressManager
    gasPriceOracle := ← sec.getD "gas_price_oracle" known.gasPriceOracle text
    sequencerFeeVault := ← sec.getD "sequencer_fee_vault" known.sequencerFeeVault text
    registry := ← sec.getD "registry" known.registry readRegistry }

/-- The paying accounts. -/
def readAccounts (s : Setting) : Reading AccountSettings := do
  let sec ← Section.of ⟨"Accounts", ["sequencer", "proposer", "relayer", "fast_relayer"]⟩ s
  pure {
    sequencer := ← sec.get "sequencer" text
    proposer := ← sec.get "proposer" text
    relayer := ← sec.get "relayer" text
    fastRelayer := ← sec.get "fast_relayer" text }

/-- A kind of feed by name. -/
def feedKindOf (name : String) : Reading FeedKind :=
  match FeedKind.ofName? name with
  | some k => .ok k
  | none => .error (.unknownFeedKind name)

/-- A kind of feed: its name, or a table with the name as the only key. -/
def readFeedKind : Setting → Reading FeedKind
  | .text name => feedKindOf name
  | .table [(name, _)] => feedKindOf name
  | _ => .error .notAFeedKind

/-- One price feed. Only the low eight bits of its decimals count. -/
def readFeed (s : Setting) : Reading FeedSettings := do
  let sec ← Section.of ⟨"FeedSettings", ["rpc_url", "address", "kind", "decimals"]⟩ s
  pure {
    url := ← sec.get "rpc_url" text
    address := ← sec.get "address" text
    kind := ← sec.get "kind" readFeedKind
    decimals := (← sec.getD "decimals" none (optional word)).map UInt64.toUInt8 }

/-- Both price feeds. -/
def readFeeds (s : Setting) : Reading FeedPair := do
  let sec ← Section.of ⟨"PriceFeeds", ["native", "secondary"]⟩ s
  pure { native := ← sec.get "native" readFeed, secondary := ← sec.get "secondary" readFeed }

/-- How the parameters may move. -/
def readOracle (s : Setting) : Reading OracleSettings := do
  let sec ← Section.of
    ⟨"Oracle", ["polling_interval_seconds", "price_ratio_multiplier_100x",
      "price_ratio_max_percent_change", "price_ratio_min_step", "min_price_ratio",
      "max_price_ratio", "overhead_ratio_1000x", "overhead_max_percent_change",
      "overhead_min_step", "min_overhead", "max_overhead", "overhead_window_blocks",
      "min_l1_base_fee", "max_l1_base_fee", "confirmation_timeout_seconds",
      "update_gas_price_wei"]⟩ s
  let usual : OracleSettings := {}
  pure {
    pollingInterval := .seconds (← sec.getD "polling_interval_seconds" 60 word).toNat
    priceRatioMultiplier :=
      ← sec.getD "price_ratio_multiplier_100x" usual.priceRatioMultiplier word
    priceRatioMaxChange :=
      ← sec.getD "price_ratio_max_percent_change" usual.priceRatioMaxChange decimal
    priceRatioMinStep := ← sec.getD "price_ratio_min_step" usual.priceRatioMinStep word
    minPriceRatio := ← sec.getD "min_price_ratio" usual.minPriceRatio word
    maxPriceRatio := ← sec.getD "max_price_ratio" usual.maxPriceRatio word
    overheadRatio := ← sec.getD "overhead_ratio_1000x" usual.overheadRatio word
    overheadMaxChange :=
      ← sec.getD "overhead_max_percent_change" usual.overheadMaxChange decimal
    overheadMinStep := ← sec.getD "overhead_min_step" usual.overheadMinStep word
    minOverhead := ← sec.getD "min_overhead" usual.minOverhead word
    maxOverhead := ← sec.getD "max_overhead" usual.maxOverhead word
    overheadWindow := ← sec.getD "overhead_window_blocks" usual.overheadWindow word
    minL1BaseFee := ← sec.getD "min_l1_base_fee" usual.minL1BaseFee word
    maxL1BaseFee := ← sec.getD "max_l1_base_fee" usual.maxL1BaseFee word
    confirmationTimeout := .seconds (← sec.getD "confirmation_timeout_seconds" 120 word).toNat
    updateGasPrice := ← sec.getD "update_gas_price_wei" none (optional word) }

/-- The only field of a small section, with its default. -/
def readSingle {α : Type} (name field : String) (default : α) (read : Setting → Reading α)
    (s : Setting) : Reading α := do
  let sec ← Section.of ⟨name, [field]⟩ s
  sec.getD field default read

/-- Settings from the fields of a file. -/
def ofFields (fields : List (String × Setting)) : Reading Settings := do
  let sec : Section := ⟨⟨"Settings", []⟩, .inl fields⟩
  let dir := "data"
  let key := "ORACLE_OWNER_PRIVATE_KEY"
  pure {
    rpc := ← sec.get "rpc" readRpc
    contracts := ← sec.get "contracts" readContracts
    accounts := ← sec.get "accounts" readAccounts
    priceFeeds := ← sec.get "price_feeds" readFeeds
    oracle := ← sec.get "oracle" readOracle
    dataDir := ← sec.getD "state" dir (readSingle "State" "data_dir" dir text)
    privateKeyEnv := ← sec.getD "signer" key (readSingle "Signer" "private_key_env" key text)
    listenAddr :=
      ← sec.getD "metrics" none (readSingle "Metrics" "listen_addr" none (optional text)) }

end RollupFees.Settings
