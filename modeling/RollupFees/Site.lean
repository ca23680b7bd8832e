import RollupFees.Endpoint
import RollupFees.Feed
import RollupFees.Settings.Rule

/-!
# A site

Settings name nodes by URL and contracts by address. A site has both in usable form.

## Main definitions

* `FeedSite` : a price feed in its place
* `Site` : the nodes, contracts and accounts that settings name
* `Site.ofSettings` : the site, or why there is none
-/

namespace RollupFees

/-- A price feed in its place: the node that is asked, the contract, and what is known of it. -/
structure FeedSite where
  node : Endpoint.Connection
  contract : Address
  feed : Feed
deriving DecidableEq

/-- The nodes, contracts and accounts that settings name. -/
structure Site where
  l1 : Endpoint.Connection
  l2 : Endpoint.Connection
  native : FeedSite
  secondary : FeedSite
  manager : Address
  gasPriceOracle : Address
  sequencerFeeVault : Address
  sequencer : Address
  proposer : Address
  relayer : Address
  fastRelayer : Address
deriving DecidableEq

namespace Site

/-- Why settings do not make up a site. -/
inductive Fault
  | failure (f : Failure)
  | violation (v : Settings.Violation)
deriving DecidableEq

/-- Why settings do not make up a site, in words. -/
def Fault.message : Fault → String
  | .failure f => f.message
  | .violation v => v.message

/-- A node under a URL. -/
def node (s : Settings) (url : String) : Except Fault Endpoint.Connection :=
  (Endpoint.connect url s.rpc.pollInterval).mapError .failure

/-- A configured address. -/
def address (key value : String) : Except Fault Address :=
  (Settings.readAddress key value).mapError .violation

/-- The feed that settings describe, before anything is known of it. -/
def feedOf (f : FeedSettings) : Except Fault Feed :=
  match f.kind, f.decimals with
  | .aggregator, _ => .ok (.aggregator none)
  | .lastPrice, some d => .ok (.lastPrice d.toNat)
  | .lastPrice, none => .error (.violation .decimalsMissing)

/-- A feed in its place. -/
def feedSite (s : Settings) (key : String) (f : FeedSettings) : Except Fault FeedSite := do
  let node ← node s f.url
  let contract ← address key f.address
  let feed ← feedOf f
  return ⟨node, contract, feed⟩

/-- The site that settings describe. -/
def ofSettings (s : Settings) : Except Fault Site := do
  let l1 ← node s s.rpc.l1Url
  let l2 ← node s s.rpc.l2Url
  let manager ← address "contracts.address_manager" s.contracts.addressManager
  let sequencer ← address "accounts.sequencer" s.accounts.sequencer
  let proposer ← address "accounts.proposer" s.accounts.proposer
  let relayer ← address "accounts.relayer" s.accounts.relayer
  let fastRelayer ← address "accounts.fast_relayer" s.accounts.fastRelayer
  let vault ← address "contracts.sequencer_fee_vault" s.contracts.sequencerFeeVault
  let gasPriceOracle ← address "contracts.gas_price_oracle" s.contracts.gasPriceOracle
  let native ← feedSite s "price_feeds.native" s.priceFeeds.native
  let secondary ← feedSite s "price_feeds.secondary" s.priceFeeds.secondary
  return ⟨l1, l2, native, secondary, manager, gasPriceOracle, vault, sequencer, proposer, relayer,
    fastRelayer⟩

end Site
end RollupFees
