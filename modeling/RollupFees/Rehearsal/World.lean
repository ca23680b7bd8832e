import RollupFees.Rehearsal.Fault
import RollupFees.Service.Lifecycle
import RollupFees.Shutdown
import RollupFees.Snapshot.Store

/-!
# A rehearsed world

The control loop can be rehearsed without a chain. The world of a rehearsal holds what every query
would read, may let named calls fail, and may request a stop when a call is entered. Time is
simulated: it passes only in pauses and in waits for a transaction.

## Main definitions

* `World` : what the queries read, and what the rehearsal has recorded
* `World.surroundings` : the world as surroundings of the control loop
-/

namespace RollupFees

/-- What becomes of a submitted transaction. -/
inductive Fate
  | mined
  | reverted
  | dropped
  | hangs
deriving DecidableEq, Repr

/-- Where a rehearsal keeps snapshots: in memory, where commits may be made to fail, or on a
rehearsed disk. -/
inductive Storage
  | memory (l1 l2 : Option Snapshot) (failing : Bool)
  | disk (store : SnapshotStore) (disk : Disk)

namespace Storage

/-- An empty memory. -/
def fresh : Storage := .memory none none false

/-- The last committed snapshot of a side. -/
def load (s : Storage) (side : Side) : Except Failure (Option Snapshot) :=
  match s with
  | .memory l1 l2 _ => .ok (match side with | .l1 => l1 | .l2 => l2)
  | .disk store d => ((store.load side).run Disk.honest d).1

/-- Commits a snapshot. -/
def commit (s : Storage) (snapshot : Snapshot) : Except Failure Unit × Storage :=
  match s with
  | .memory l1 l2 true => (.error (.storage (.stated "disk full")), .memory l1 l2 true)
  | .memory l1 l2 false =>
    match snapshot.side with
    | .l1 => (.ok (), .memory (some snapshot) l2 false)
    | .l2 => (.ok (), .memory l1 (some snapshot) false)
  | .disk store d =>
    let (r, after) := (SnapshotStore.commit snapshot).run Disk.honest d
    (r, .disk store after)

/-- Makes commits to memory fail, or succeed again. -/
def setFailing (s : Storage) (failing : Bool) : Storage :=
  match s with
  | .memory l1 l2 _ => .memory l1 l2 failing
  | other => other

end Storage

/-- An account of a rehearsal, by name. -/
structure NamedAccount where
  name : String
  address : Address
deriving DecidableEq

/-- The accounts of a rehearsal: the address of each is one byte, twenty times. -/
def rehearsalAccounts : Accounts :=
  ⟨.repeated 0x11, .repeated 0x22, .repeated 0x33, .repeated 0x44, .repeated 0x55, .repeated 0x66,
    .repeated 0x77, .repeated 0x88⟩

/-- The accounts with their names. -/
def Accounts.named (a : Accounts) : List NamedAccount :=
  [⟨"sequencer", a.sequencer⟩, ⟨"proposer", a.proposer⟩, ⟨"relayer", a.relayer⟩,
    ⟨"fast_relayer", a.fastRelayer⟩, ⟨"sequencer_fee_vault", a.sequencerFeeVault⟩,
    ⟨"secondary_fee_token", a.secondaryFeeToken⟩,
    ⟨"secondary_fee_token_vault", a.secondaryFeeTokenVault⟩,
    ⟨"billing_contract", a.billingContract⟩]

/-- The name of an account; an unknown one goes by its address. -/
def accountName (a : Address) : String :=
  match rehearsalAccounts.named.find? fun n => n.address = a with
  | some n => n.name
  | none => a.text

/-- What the queries of a rehearsal read, and what has been recorded. -/
structure World where
  l1Balances : List (String × Amount)
  l2Balances : List (String × Amount)
  tokenBalance : Amount
  blockNumber : Nat
  gasPrice : Amount
  receipts : List (Hash × Amount)
  events : List BatchEvent
  native : Except ScriptedFault RawPrice
  secondary : Except ScriptedFault RawPrice
  priceRatio : Amount
  priceRatioDecimals : Nat
  overhead : Amount
  l1BaseFee : Amount
  fate : Fate
  fateDelay : Duration
  faults : List (String × ScriptedFault)
  stopOn : Option String
  storage : Storage
  shutdown : Shutdown
  stopAt : Option Duration
  clock : Duration
  submitted : List Update
  calls : List String
  notices : List Notice

namespace World

/-- A quiet world: prices of 1.50 and 0.75 dollars, no balances and no batches. -/
def initial : World :=
  { l1Balances := []
    l2Balances := []
    tokenBalance := 0
    blockNumber := 5000
    gasPrice := 20000000000
    receipts := []
    events := []
    native := .ok ⟨150000000, 8⟩
    secondary := .ok ⟨750000, 6⟩
    priceRatio := 180
    priceRatioDecimals := 2
    overhead := 2500
    l1BaseFee := 20000000000
    fate := .mined
    fateDelay := ⟨0⟩
    faults := []
    stopOn := none
    storage := .fresh
    shutdown := .channel
    stopAt := none
    clock := ⟨0⟩
    submitted := []
    calls := []
    notices := [] }

instance : Inhabited World := ⟨initial⟩

/-- The value of a name in a list; the first one counts. -/
def lookup {α : Type} (name : String) (entries : List (String × α)) : Option α :=
  (entries.find? fun e => e.1 = name).map Prod.snd

/-- The balance of an account by name. -/
def balance (w : World) (side : Side) (name : String) : Amount :=
  (lookup name (match side with | .l1 => w.l1Balances | .l2 => w.l2Balances)).getD 0

/-! ### Time and requests to stop -/

/-- Requests a stop. -/
def requestStop (w : World) : World :=
  let (s, lines) := w.shutdown.request
  { w with shutdown := s, notices := w.notices ++ lines }

/-- Time passes up to a moment. A stop that is due by then is requested. -/
def advanceTo (w : World) (moment : Duration) : World :=
  let later := { w with clock := moment }
  match w.stopAt with
  | some due => if due.nanos ≤ moment.nanos then { later with stopAt := none }.requestStop else later
  | none => later

/-- The moment of a stop that comes before a wait is over, if any. -/
def stopBefore (w : World) (moment : Duration) : Option Duration :=
  if w.shutdown.requested then some w.clock
  else
    match w.stopAt with
    | some due => if due.nanos < moment.nanos then some due else none
    | none => none

/-- The moment after a span of time. -/
def after (w : World) (span : Duration) : Duration := ⟨w.clock.nanos + span.nanos⟩

/-! ### Calls -/

/-- A call by name: whose it is, which method, and with what argument. -/
structure Call where
  place : String
  method : String
  argument : Option String

/-- The name of a call without its argument. -/
def Call.name (c : Call) : String := c.place ++ "." ++ c.method

/-- The name of a call with its argument. -/
def Call.fullName (c : Call) : String :=
  match c.argument with
  | some a => c.name ++ " " ++ a
  | none => c.name

/-- Whether a script means this call: with its argument or without. -/
def Call.isMeant (c : Call) (script : String) : Bool := script = c.fullName || script = c.name

/-- A call is entered: a stop is requested if the script says so, once. -/
def enter (w : World) (c : Call) : World :=
  match w.stopOn with
  | some script => if c.isMeant script then { w with stopOn := none }.requestStop else w
  | none => w

/-- A call is entered and recorded. -/
def record (w : World) (c : Call) : World := { w with calls := w.calls ++ [c.fullName] }.enter c

/-- The scripted failure of a call; one with the argument goes first. -/
def fault? (w : World) (c : Call) : Option Failure :=
  ((lookup c.fullName w.faults).or (lookup c.name w.faults)).map (ScriptedFault.failure c.method)

/-- A recorded call that reads the world, unless it is scripted to fail. -/
def reads {α : Type} (w : World) (c : Call) (value : World → Except Failure α) :
    Except Failure α × World :=
  let entered := w.record c
  match entered.fault? c with
  | some f => (.error f, entered)
  | none => (value entered, entered)

/-- The answer of a price feed. -/
def feed (w : World) : Pair → Except ScriptedFault RawPrice
  | .native => w.native
  | .secondary => w.secondary

/-- The name of a price feed. -/
def feedName : Pair → String
  | .native => "native"
  | .secondary => "secondary"

/-- Takes in a submitted update; its hash is its number. -/
def submit (w : World) (u : Update) : Except Failure Hash × World :=
  let c : Call := ⟨"oracle", "submit", some u.parameter.name⟩
  let entered := w.record c
  match entered.fault? c with
  | some f => (.error f, entered)
  | none =>
    let submitted := entered.submitted ++ [u]
    (.ok (Hash.ofNat submitted.length), { entered with submitted := submitted })

/-- The parameters after an update. -/
def mine (w : World) : Option Update → World
  | some (.priceRatio ratio _) => { w with priceRatio := ratio }
  | some (.overhead v) => { w with overhead := v }
  | some (.l1BaseFee v) => { w with l1BaseFee := v }
  | none => w

/-- What becomes of a transaction in the end. -/
def resolve (w : World) (p : Parameter) (tx : Hash) : Except Failure Confirmation × World :=
  match w.fate with
  | .reverted => (.error (.reverted p.name tx), w)
  | .dropped => (.error (.dropped tx), w)
  | _ => (.ok ⟨tx, some 1, some 50000⟩, w.mine w.submitted.getLast?)

/-- Waits for a transaction. An outcome that is there at once wins over everything; a request to
stop wins over outcomes that take time. -/
def await (w : World) (p : Parameter) (tx : Hash) (limit : Duration) : Wait × World :=
  let c : Call := ⟨"oracle", "await_confirmation", some p.name⟩
  let entered := w.enter c
  match entered.fault? c with
  | some f => (.finished (.error f), entered)
  | none =>
    let inTime := entered.fate ≠ .hangs ∧ entered.fateDelay.nanos ≤ limit.nanos
    if entered.fate ≠ .hangs ∧ entered.fateDelay.nanos = 0 then
      let (r, later) := entered.resolve p tx
      (.finished r, later)
    else
      let moment := entered.after (if inTime then entered.fateDelay else limit)
      match entered.stopBefore moment with
      | some due => (.interrupted, entered.advanceTo due)
      | none =>
        if inTime then
          let (r, later) := (entered.advanceTo moment).resolve p tx
          (.finished r, later)
        else (.timedOut, entered.advanceTo moment)

/-- Pauses, unless a stop comes first. -/
def pause (w : World) (span : Duration) : Bool × World :=
  match w.stopBefore (w.after span) with
  | some due => (true, w.advanceTo due)
  | none => (false, w.advanceTo (w.after span))

/-- The answer to a query. -/
def answer : (q : Query) → World → q.Answer × World
  | .latestAnswer pair, w =>
    w.reads ⟨feedName pair, "latest_answer", none⟩ fun e =>
      (e.feed pair).mapError (ScriptedFault.failure "latestAnswer")
  | .balance side account, w =>
    w.reads ⟨side.name, "get_balance", some (accountName account)⟩ fun e =>
      .ok (e.balance side (accountName account))
  | .tokenBalance token holder, w =>
    w.reads ⟨"l2", "token_balance", some (accountName token ++ " " ++ accountName holder)⟩ fun e =>
      .ok e.tokenBalance
  | .blockNumber, w => w.reads ⟨"l1", "get_block_number", none⟩ fun e => .ok e.blockNumber
  | .gasPrice, w => w.reads ⟨"l1", "get_gas_price", none⟩ fun e => .ok e.gasPrice
  | .receipt tx, w =>
    w.reads ⟨"l1", "get_transaction_receipt", some tx.text⟩ fun e =>
      .ok ((e.receipts.find? fun r => r.1 = tx).map fun r => ⟨tx, r.2, true, some 1⟩)
  | .batchEvents first last, w =>
    w.reads ⟨"logs", "batch_events", some (first.repr ++ " " ++ last.repr)⟩ fun e => .ok e.events
  | .priceRatio, w => w.reads ⟨"oracle", "price_ratio", none⟩ fun e => .ok e.priceRatio
  | .priceRatioDecimals, w =>
    w.reads ⟨"oracle", "price_ratio_decimals", none⟩ fun e => .ok e.priceRatioDecimals
  | .overhead, w => w.reads ⟨"oracle", "overhead", none⟩ fun e => .ok e.overhead
  | .l1BaseFee, w => w.reads ⟨"oracle", "l1_base_fee", none⟩ fun e => .ok e.l1BaseFee
  | .submit u, w => w.submit u
  | .confirmation p tx limit, w => w.await p tx limit
  | .shutdownRequested, w => (w.shutdown.requested, w)
  | .load side, w => (w.storage.load side, w)
  | .commit s, w =>
    let (r, storage) := w.storage.commit s
    (r, { w with storage := storage })
  | .now, w => (Timestamp.epoch, w)
  | .uptime, w => (w.clock, w)
  | .note n, w => ((), { w with notices := w.notices ++ [n] })
  | .pause span, w => w.pause span

/-- The world as surroundings of the control loop. -/
def surroundings : Answerer Query.Answer World := ⟨answer⟩

/-- Forgets what has been recorded of calls, updates and log lines, but not the number of
updates. -/
def clearRecords (w : World) : World := { w with calls := [], notices := [] }

end World
end RollupFees
