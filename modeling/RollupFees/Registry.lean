import RollupFees.Dialogue
import RollupFees.Failure
import RollupFees.Settings

/-!
# The address registry

Contracts are found by name in a registry on chain. A lookup that fails is tried again, with longer
and longer pauses; the zero address means that the registry does not know the name.

## Main definitions

* `Registry.Question` : what is asked of the surroundings
* `Registry.resolve` : the address of one name
* `Registry.resolveContracts` : the contracts of all names, one after the other
-/

namespace RollupFees.Registry

/-- What is asked: the address of a name, or a pause of at most some time before the next try. -/
inductive Question
  | address (name : String)
  | pause (longest : Duration)
deriving DecidableEq

/-- What may come back. -/
abbrev Question.Answer : Question → Type
  | .address _ => Except Failure Address
  | .pause _ => Unit

/-- A dialogue with the registry. -/
abbrev Talk (α : Type) := Dialogue Question.Answer α

/-- The longest pause before each further try: it doubles. -/
def pauses : List Duration := [.millis 500, .millis 1000, .millis 2000, .millis 4000]

/-- Asks for an address, and again after each pause while the answer is a failure. -/
def lookup (name : String) : List Duration → Talk (Except Failure Address)
  | [] => Dialogue.question (Question.address name)
  | p :: rest =>
    (Dialogue.question (Question.address name)).bind fun (r : Except Failure Address) =>
      match r with
      | .ok a => .done (.ok a)
      | .error _ => (Dialogue.question (Question.pause p)).bind fun _ => lookup name rest

/-- The address that the registry has for a name. -/
def known (name : String) (a : Address) : Except Failure Address :=
  if a = Address.zero then .error (.unresolvedAddress name) else .ok a

/-- The address of one name. -/
def resolve (name : String) : Talk (Except Failure Address) :=
  (lookup name pauses).bind fun r => .done (r.bind (known name))

/-- The contracts that are looked up when the service starts. -/
structure Contracts where
  canonicalTransactionChain : Address
  stateCommitmentChain : Address
  feeTokenGasPriceOracle : Address
  secondaryFeeToken : Address
  billingContract : Address
deriving DecidableEq

/-- Their addresses in the order of their names. -/
def Contracts.toList (c : Contracts) : List Address :=
  [c.canonicalTransactionChain, c.stateCommitmentChain, c.feeTokenGasPriceOracle,
    c.secondaryFeeToken, c.billingContract]

/-- The contracts of all names, looked up in order up to the first failure. -/
def resolveContracts (names : RegistryNames) : Talk (Except Failure Contracts) :=
  ExceptT.run do
    let canonicalTransactionChain ← ExceptT.mk (resolve names.canonicalTransactionChain)
    let stateCommitmentChain ← ExceptT.mk (resolve names.stateCommitmentChain)
    let feeTokenGasPriceOracle ← ExceptT.mk (resolve names.feeTokenGasPriceOracle)
    let secondaryFeeToken ← ExceptT.mk (resolve names.secondaryFeeToken)
    let billingContract ← ExceptT.mk (resolve names.billingContract)
    return { canonicalTransactionChain, stateCommitmentChain, feeTokenGasPriceOracle,
             secondaryFeeToken, billingContract }

/-- The addresses of all names, as a list. -/
def resolveAll (names : RegistryNames) : Talk (Except Failure (List Address)) :=
  (resolveContracts names).bind fun r => .done (r.map Contracts.toList)

end RollupFees.Registry
