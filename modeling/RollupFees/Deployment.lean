import RollupFees.Node.View
import RollupFees.Registry
import RollupFees.Service.Lifecycle
import RollupFees.Site
import RollupFees.Snapshot.Store

/-!
# A deployment

A site and the contracts that the registry knows make up all that the service needs in order to run.

## Main definitions

* `Deployment` : all that the service needs
* `Deployment.ofRegistry` : the deployment for the contracts that the registry knows
-/

namespace RollupFees

/-- All that the service needs in order to run. -/
structure Deployment where
  site : Site
  parameters : Node.ParameterContracts
  gasPrice : Option Amount
  limit : Duration
  store : SnapshotStore
  setup : Setup

namespace Deployment

/-- The accounts that are watched, with three of the contracts. -/
def accounts (s : Site) (found : Registry.Contracts) : Accounts :=
  ⟨s.sequencer, s.proposer, s.relayer, s.fastRelayer, s.sequencerFeeVault, found.secondaryFeeToken,
    found.feeTokenGasPriceOracle, found.billingContract⟩

/-- The deployment for the contracts that the registry knows. -/
def ofRegistry (settings : Settings) (s : Site) (found : Registry.Contracts) : Deployment where
  site := s
  parameters := ⟨s.gasPriceOracle, found.feeTokenGasPriceOracle⟩
  gasPrice := settings.oracle.updateGasPrice.map fun n => Amount.clamp n.toNat
  limit := settings.rpc.requestTimeout
  store := ⟨settings.dataDir⟩
  setup := ⟨accounts s found, settings.oracle.pollingInterval, settings.controller⟩

/-- How often a pending transaction may be asked for within the time for a confirmation. -/
def patience (d : Deployment) (limit : Duration) : Nat :=
  limit.nanos / max 1 d.site.l2.interval.nanos + 1

end Deployment
end RollupFees
