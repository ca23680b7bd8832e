import RollupFees.Settings.Rule
import RollupFees.Setting

/-!
# The environment over the settings

Some settings may be given in the environment. Blanks around a value do not count, and a value of
nothing but blanks counts as absent.

## Main definitions

* `Settings.withEnvironment` : settings with what the environment says
-/

namespace RollupFees.Settings

/-- Values by name, as far as they are set. -/
abbrev Environment := String → Option String

/-- A value of the environment, if there is more to it than blanks. -/
def Environment.value? (env : Environment) (name : String) : Option String :=
  (env name).bind fun raw =>
    let v := Text.trim raw
    if v.isEmpty then none else some v

/-- Settings with what the environment says. An interval that is no number is ignored. -/
def withEnvironment (s : Settings) (env : Environment) : Settings :=
  let interval := (env.value? "ORACLE_POLLING_INTERVAL_SECONDS").bind Setting.wordOfText?
  { s with
    rpc := { s.rpc with
      l1Url := (env.value? "ORACLE_L1_RPC_URL").getD s.rpc.l1Url
      l2Url := (env.value? "ORACLE_L2_RPC_URL").getD s.rpc.l2Url }
    dataDir := (env.value? "ORACLE_DATA_DIR").getD s.dataDir
    oracle := { s.oracle with
      pollingInterval :=
        (interval.map fun n => Duration.seconds n.toNat).getD s.oracle.pollingInterval } }

end RollupFees.Settings
