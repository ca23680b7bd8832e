import RollupFees.Amount

/-!
# Ledgers and counters

Two ledgers are watched. On the first layer, wallets pay for submissions and their spending is
counted; on the second layer, vaults collect fees and their revenue is counted.

## Main definitions

* `Side` : one of the two ledgers
* `Counter` : what is counted, each counter on one side
* `CounterMap` : a partial map from counters
* `CounterState` : a balance with the total counted so far
-/

namespace RollupFees

/-- One of the two ledgers. -/
inductive Side
  | l1
  | l2
deriving DecidableEq, Repr, Inhabited

/-- What is counted. The first four belong to the first layer. -/
inductive Counter
  | sequencer
  | proposer
  | relayer
  | fastRelayer
  | sequencerFeeVault
  | secondaryFeeTokenVault
  | billingContract
deriving DecidableEq, Repr, Inhabited

/-- How the movement of a balance counts: spending counts what goes out, collecting what comes
in. -/
inductive Flow
  | outflow
  | inflow
deriving DecidableEq, Repr

/-- The token that a counter is in. -/
inductive Denomination
  | native
  | secondary
deriving DecidableEq, Repr

namespace Counter

/-- Every counter, in the order in which they are listed and stored. -/
def all : List Counter :=
  [.sequencer, .proposer, .relayer, .fastRelayer, .sequencerFeeVault, .secondaryFeeTokenVault,
    .billingContract]

/-- The name of a counter in logs and snapshots. -/
def name : Counter → String
  | .sequencer => "sequencer"
  | .proposer => "proposer"
  | .relayer => "relayer"
  | .fastRelayer => "fast_relayer"
  | .sequencerFeeVault => "sequencer_fee_vault"
  | .secondaryFeeTokenVault => "secondary_fee_token_vault"
  | .billingContract => "billing_contract"

/-- The counter of a name. -/
def ofName? (name : String) : Option Counter := all.find? fun c => c.name = name

/-- The ledger that a counter belongs to. -/
def side : Counter → Side
  | .sequencer | .proposer | .relayer | .fastRelayer => .l1
  | .sequencerFeeVault | .secondaryFeeTokenVault | .billingContract => .l2

/-- How a counter counts. -/
def flow (c : Counter) : Flow :=
  match c.side with
  | .l1 => .outflow
  | .l2 => .inflow

/-- The token that a counter is in. -/
def denomination : Counter → Denomination
  | .sequencerFeeVault | .billingContract => .native
  | _ => .secondary

theorem mem_all (c : Counter) : c ∈ all := by cases c <;> decide

theorem name_injective {c d : Counter} (h : c.name = d.name) : c = d := by
  revert h
  cases c <;> cases d <;> decide

@[simp] theorem ofName?_name (c : Counter) : ofName? c.name = some c := by cases c <;> decide

end Counter

namespace Side

/-- The name of a ledger in logs and snapshots. -/
def name : Side → String
  | .l1 => "l1"
  | .l2 => "l2"

/-- Both ledgers. -/
def all : List Side := [.l1, .l2]

/-- The ledger of a name. -/
def ofName? (name : String) : Option Side := all.find? fun s => s.name = name

/-- The file that keeps the snapshot of a ledger. -/
def fileName : Side → String
  | .l1 => "l1_history.json"
  | .l2 => "l2_history.json"

/-- The counters of a ledger. -/
def counters (s : Side) : List Counter := Counter.all.filter fun c => c.side = s

@[simp] theorem ofName?_name (s : Side) : ofName? s.name = some s := by cases s <;> decide

theorem mem_counters {s : Side} {c : Counter} : c ∈ s.counters ↔ c.side = s := by
  simp [counters, Counter.mem_all]

end Side

/-- A partial map from counters. -/
structure CounterMap (α : Type) where
  sequencer : Option α
  proposer : Option α
  relayer : Option α
  fastRelayer : Option α
  sequencerFeeVault : Option α
  secondaryFeeTokenVault : Option α
  billingContract : Option α
deriving DecidableEq

namespace CounterMap

variable {α : Type}

/-- The entry of a counter. -/
def get? (m : CounterMap α) : Counter → Option α
  | .sequencer => m.sequencer
  | .proposer => m.proposer
  | .relayer => m.relayer
  | .fastRelayer => m.fastRelayer
  | .sequencerFeeVault => m.sequencerFeeVault
  | .secondaryFeeTokenVault => m.secondaryFeeTokenVault
  | .billingContract => m.billingContract

/-- The map with the given entries. -/
def ofFn (f : Counter → Option α) : CounterMap α :=
  ⟨f .sequencer, f .proposer, f .relayer, f .fastRelayer, f .sequencerFeeVault,
    f .secondaryFeeTokenVault, f .billingContract⟩

@[simp] theorem get?_ofFn (f : Counter → Option α) (c : Counter) : (ofFn f).get? c = f c := by
  cases c <;> rfl

@[ext] theorem ext {m n : CounterMap α} (h : ∀ c, m.get? c = n.get? c) : m = n := by
  cases m; cases n
  simp only [mk.injEq]
  exact ⟨h .sequencer, h .proposer, h .relayer, h .fastRelayer, h .sequencerFeeVault,
    h .secondaryFeeTokenVault, h .billingContract⟩

/-- The map without entries. -/
def empty : CounterMap α := ofFn fun _ => none

instance : Inhabited (CounterMap α) := ⟨empty⟩

/-- The map with one entry set. -/
def set (m : CounterMap α) (c : Counter) (a : α) : CounterMap α :=
  ofFn fun d => if d = c then some a else m.get? d

/-- The entries of `n`, and those of `m` where `n` has none. -/
def override (m n : CounterMap α) : CounterMap α := ofFn fun c => (n.get? c).or (m.get? c)

/-- The entries in the order of the counters. -/
def toList (m : CounterMap α) : List (Counter × α) :=
  Counter.all.filterMap fun c => (m.get? c).map fun a => (c, a)

/-- The map of a list of entries; the last entry of a counter counts. -/
def ofList (entries : List (Counter × α)) : CounterMap α :=
  entries.foldl (fun m e => m.set e.1 e.2) empty

/-- The number of entries. -/
def size (m : CounterMap α) : Nat := m.toList.length

/-- Whether there is no entry. -/
def isEmpty (m : CounterMap α) : Bool := m.toList.isEmpty

@[simp] theorem get?_empty (c : Counter) : (empty : CounterMap α).get? c = none :=
  get?_ofFn _ c

@[simp] theorem get?_set (m : CounterMap α) (c d : Counter) (a : α) :
    (m.set c a).get? d = if d = c then some a else m.get? d :=
  get?_ofFn _ d

@[simp] theorem get?_override (m n : CounterMap α) (c : Counter) :
    (m.override n).get? c = (n.get? c).or (m.get? c) :=
  get?_ofFn _ c

theorem mem_toList {m : CounterMap α} {c : Counter} {a : α} :
    (c, a) ∈ m.toList ↔ m.get? c = some a := by
  simp [toList, Counter.mem_all]

theorem isEmpty_iff {m : CounterMap α} : m.isEmpty = true ↔ ∀ c, m.get? c = none := by
  unfold isEmpty
  rw [List.isEmpty_iff]
  constructor
  · intro h c
    cases hc : m.get? c with
    | none => rfl
    | some a => exact absurd (mem_toList.2 hc) (by simp [h])
  · intro h
    rw [List.eq_nil_iff_forall_not_mem]
    rintro ⟨c, a⟩ hm
    rw [mem_toList, h c] at hm
    cases hm

end CounterMap

/-- The balance last seen and the total counted so far. -/
structure CounterState where
  observed : Amount
  cumulative : Amount
deriving DecidableEq

instance : Inhabited CounterState := ⟨⟨0, 0⟩⟩

end RollupFees
