import RollupFees.CommandLine
import RollupFees.Deployment
import RollupFees.Json.Parser
import RollupFees.Node.Batches
import RollupFees.Node.Submission
import RollupFees.Node.Wire
import RollupFees.Registry
import Std.Time.DateTime.Timestamp

/-!
# The program

Runs the service in the world. Requests to nodes are written to standard output, one a line, and a
carrier writes each reply to standard input, one a line; log lines go to standard error. The service
stops when the carrier closes its end.
-/

namespace RollupFees.Main

/-- What the program holds on to while it runs. -/
structure Session where
  deployment : Deployment
  native : IO.Ref Feed
  secondary : IO.Ref Feed
  stopping : IO.Ref Bool

/-- Sends a request to a node and waits for the reply of the carrier. -/
def carry (stopping : IO.Ref Bool) (url : String) (q : Node.Request) : IO Node.Reply := do
  let out ← IO.getStdout
  out.putStrLn (q.line url)
  out.flush
  let line ← (← IO.getStdin).getLine
  if line.isEmpty then
    stopping.set true
    return .unreachable "the carrier is gone"
  return match Json.parse? line with
    | some j => .ofJson j
    | none => .unreachable "the carrier sent no JSON"

/-- Sleeps for a span of time. -/
def sleep (span : Duration) : IO Unit := IO.sleep (UInt32.ofNat (span.nanos / 10 ^ 6))

/-- Follows a transaction, with a pause before each request. -/
def follow (s : Session) (parameter : Parameter) (tx : Hash) (limit : Duration) : IO Wait := do
  let node := s.deployment.site.l2
  let talk := Node.confirm parameter tx 0 (s.deployment.patience limit)
  let found ← talk.runM fun q => do
    sleep node.interval
    carry s.stopping node.url q
  return match found with
    | some outcome => .finished outcome
    | none => .timedOut

/-- The latest answer of a feed. -/
def price (s : Session) (site : FeedSite) (known : IO.Ref Feed) : IO (Except Failure RawPrice) := do
  let (answer, after) ← (← known.get).latest.through (Node.feed s.deployment.limit site.contract)
    |>.runM (carry s.stopping site.node.url)
  known.set after
  return answer

/-! ### Files -/

/-- A request to the file system, with its fault if it has one. -/
def attempt {α : Type} (act : IO α) : IO (Except StorageFault α) := do
  try return .ok (← act)
  catch _ => return .error .refused

/-- The contents of a file, if there is one. -/
def readFile? (path : String) : IO (Except StorageFault (Option ByteArray)) := do
  try return .ok (some (← IO.FS.readBinFile path))
  catch
    | .noFileOrDirectory .. => return .ok none
    | _ => return .error .refused

/-- What the file system answers for a directory. -/
def onDisk (directory : String) : (q : FileRequest) → IO q.Reply
  | .read name => readFile? (directory ++ "/" ++ name.text)
  | .makeDirectory => attempt (IO.FS.createDirAll directory)
  | .create name => attempt (IO.FS.writeBinFile (directory ++ "/" ++ name.text) .empty)
  | .write name bytes => attempt (IO.FS.writeBinFile (directory ++ "/" ++ name.text) bytes)
  | .flush _ => return .ok ()
  | .rename source target =>
    attempt (IO.FS.rename (directory ++ "/" ++ source.text) (directory ++ "/" ++ target.text))
  | .remove name => attempt (IO.FS.removeFile (directory ++ "/" ++ name.text))
  | .openDirectory => return .ok ()
  | .flushDirectory => return .ok ()

/-! ### The service in the world -/

/-- Answers what the service asks. -/
def answer (s : Session) : (q : Query) → IO q.Answer
  | .latestAnswer .native => price s s.deployment.site.native s.native
  | .latestAnswer .secondary => price s s.deployment.site.secondary s.secondary
  | .balance .l1 account => (Node.balance s.deployment.limit account).runM l1
  | .balance .l2 account => (Node.balance s.deployment.limit account).runM l2
  | .tokenBalance token holder => (Node.tokenBalance s.deployment.limit token holder).runM l2
  | .blockNumber => (Node.blockNumber s.deployment.limit).runM l1
  | .gasPrice => (Node.gasPrice s.deployment.limit).runM l1
  | .receipt tx => (Node.receipt s.deployment.limit tx).runM l1
  | .batchEvents first last => do
    match ← (Node.batchEvents s.deployment.limit first last).runM l1 with
    | .ok events => return .ok events
    | .error (.failed f) => return .error f
    | .error (.broken _) => throw (IO.userError "a log does not say where in the chain it stands")
  | .priceRatio => (Node.priceRatio s.deployment.limit s.deployment.parameters).runM l2
  | .priceRatioDecimals =>
    (Node.priceRatioDecimals s.deployment.limit s.deployment.parameters).runM l2
  | .overhead => (Node.overhead s.deployment.limit s.deployment.parameters).runM l2
  | .l1BaseFee => (Node.l1BaseFee s.deployment.limit s.deployment.parameters).runM l2
  | .submit u =>
    (Node.submit s.deployment.limit s.deployment.parameters s.deployment.gasPrice u).runM l2
  | .confirmation parameter tx limit => follow s parameter tx limit
  | .shutdownRequested => s.stopping.get
  | .load side => (s.deployment.store.load side).runM (onDisk s.deployment.store.directory)
  | .commit snapshot =>
    (SnapshotStore.commit snapshot).runM (onDisk s.deployment.store.directory)
  | .now => do
    let moment ← Std.Time.Timestamp.now
    return .sinceEpoch moment.toNanosecondsSinceUnixEpoch.toInt.toNat
  | .uptime => return ⟨← IO.monoNanosNow⟩
  | .note n => IO.eprintln n.text
  | .pause span => do
    if ← s.stopping.get then return true
    sleep span
    s.stopping.get
where
  l1 : (q : Node.Request) → IO Node.Reply := carry s.stopping s.deployment.site.l1.url
  l2 : (q : Node.Request) → IO Node.Reply := carry s.stopping s.deployment.site.l2.url

/-- Takes turns until the service stops. -/
partial def run (s : Session) (service : Service) : IO Service := do
  match ← (serve s.deployment.setup service 1000).runM (answer s) with
  | .again after => run s after
  | .stopped after => return after
  | .broken _ => throw (IO.userError "the service broke down")

/-- Ticks once; the steps that failed are an error. -/
def runOnce (s : Session) (service : Service) : IO Unit := do
  match ← (tick s.deployment.setup service).runM (answer s) with
  | .error _ => throw (IO.userError "the service broke down")
  | .ok (after, report) =>
    (finish after).runM (answer s)
    let failed := report.failedSteps.map TickStep.name
    unless failed.isEmpty do
      throw (IO.userError ("tick failed steps: " ++ ", ".intercalate failed))

/-! ### The start -/

/-- The environment as far as settings may be given in it. -/
def environment : IO Settings.Environment := do
  let names := ["ORACLE_L1_RPC_URL", "ORACLE_L2_RPC_URL", "ORACLE_DATA_DIR",
    "ORACLE_POLLING_INTERVAL_SECONDS"]
  let values ← names.mapM fun name => do return (name, ← IO.getEnv name)
  return fun name => (values.lookup name).join

/-- The text of a file, if it can be read. -/
def readText? (path : String) : IO (Option String) := do
  try return some (← IO.FS.readFile path)
  catch _ => return none

/-- The files that a path may mean. -/
def folder (path : String) : IO Settings.Folder := do
  let plain := Settings.plainPath path
  let names := plain :: Settings.Format.extensions.map fun e => plain ++ "." ++ e.1
  let texts ← names.mapM fun name => do return (name, ← readText? name)
  return ⟨toString (← IO.currentDir), fun name => (texts.lookup name).join⟩

/-- An outcome, or the end of the program. -/
def orFail {ε α : Type} (message : ε → String) : Except ε α → IO α
  | .ok a => return a
  | .error e => throw (IO.userError (message e))

/-- Looks up the contracts of the registry. -/
def lookUp (stopping : IO.Ref Bool) (settings : Settings) (site : Site) :
    IO Registry.Contracts := do
  let talk := Registry.resolveContracts settings.contracts.registry
  let found ← talk.runM fun
    | .address name =>
      (Node.registered settings.rpc.requestTimeout site.manager name).runM
        (carry stopping site.l1.url)
    | .pause longest => do
      sleep ⟨← IO.rand 0 longest.nanos⟩
  orFail Failure.message found

/-- Sets the service up and runs it. -/
def start (line : CommandLine) : IO Unit := do
  let loaded := Settings.load (← folder line.settingsPath) (← environment) line.settingsPath
  let settings ← orFail (fun f => "loading " ++ line.settingsPath ++ ": " ++
    f.message?.getD "the file is not well formed") loaded
  let site ← orFail Site.Fault.message (Site.ofSettings settings)
  let stopping ← IO.mkRef false
  let found ← lookUp stopping settings site
  let deployment := Deployment.ofRegistry settings site found
  let s : Session :=
    ⟨deployment, ← IO.mkRef site.native.feed, ← IO.mkRef site.secondary.feed, stopping⟩
  let started ← (RollupFees.start deployment.setup Service.fresh).run.runM (answer s)
  match started with
  | .error (.failed f) => throw (IO.userError ("initializing control loop: " ++ f.message))
  | .error (.broken _) => throw (IO.userError "the service broke down")
  | .ok service =>
    if line.once then runOnce s service
    else (finish (← run s service)).runM (answer s)

end RollupFees.Main

/-- Reads the command line and runs the service. -/
def main (arguments : List String) : IO UInt32 := do
  match RollupFees.CommandLine.parse? arguments with
  | none =>
    IO.eprintln RollupFees.CommandLine.usage
    return 2
  | some line =>
    try
      RollupFees.Main.start line
      return 0
    catch e =>
      IO.eprintln ("Error: " ++ toString e)
      return 1
