import RollupFees.Json.Decode
import RollupFees.Json.Parser
import RollupFees.Json.Printer
import RollupFees.Keccak
import RollupFees.Snapshot

/-!
# The file form of a snapshot

A snapshot is kept as a JSON object with a version, the side, the time, the counters and a
checksum. The checksum is the hash of the compact form of the counters, so that no edit of a
counter goes unnoticed.

Reading looks at the version first, so that a file of a newer form is reported as such. Then come
the structure, the side, the counters of the other side and the checksum; whatever fails first is
the reason.

## Main definitions

* `Snapshot.encode` : the text of a snapshot
* `Snapshot.decode` : the snapshot of a file, or why there is none
* `Snapshot.checksum` : the guard of the counters
-/

namespace RollupFees

/-- A counter in a file. -/
def CounterState.toJson (s : CounterState) : Json :=
  .object [("observed_balance", .string s.observed.text), ("cumulative", .string s.cumulative.text)]

namespace Snapshot

/-- The version of the file form. -/
def version : Nat := 1

/-- Counters in a file. -/
def countersToJson (counters : CounterMap CounterState) : Json :=
  .object (counters.toList.map fun e => (e.1.name, e.2.toJson))

/-- The hash of the compact form of counters. -/
def checksum (counters : CounterMap CounterState) : String :=
  (keccak256Text (countersToJson counters).compact).text

/-- A snapshot in a file. -/
def toJson (s : Snapshot) : Json :=
  .object
    [("version", .int version), ("side", .string s.side.name),
      ("updated_at", .string s.updatedAt.text), ("counters", countersToJson s.counters),
      ("checksum", .string (checksum s.counters))]

/-- The text of a snapshot. -/
def encode (s : Snapshot) : String := s.toJson.spread

end Snapshot

/-! ### Reading -/

/-- An amount, written as decimal digits in a text. -/
def Amount.ofJson (json : Json) : Except Json.Mismatch Amount := do
  let raw ← json.asString
  match Amount.ofDigits? raw with
  | .ok a => .ok a
  | .error fault => .error (.stated ("invalid integer `" ++ raw ++ "`: " ++ fault.message))

/-- A side by name. -/
def Side.ofJson (json : Json) : Except Json.Mismatch Side :=
  json.asChoice (Side.all.map Side.name) Side.ofName?

/-- A counter by name. -/
def Counter.ofJson (json : Json) : Except Json.Mismatch Counter :=
  json.asChoice (Counter.all.map Counter.name) Counter.ofName?

/-- A point in time, written as a text. -/
def Timestamp.ofJson : Json → Except Json.Mismatch Timestamp
  | .string raw =>
    match Timestamp.parse raw with
    | .ok t => .ok t
    | .error fault => .error (.stated fault.message)
  | other => .error (.wrongType other "an RFC 3339 formatted date and time string")

namespace CounterState

/-- What has been read of a counter. -/
structure Gathered where
  observed : Option Amount
  cumulative : Option Amount

/-- One field of a counter; unknown ones are passed over. -/
def Gathered.read (p : Gathered) (key : String) (value : Json) : Except Json.Mismatch Gathered :=
  if key = "observed_balance" then do
    let a ← Amount.ofJson value
    .ok { p with observed := some a }
  else if key = "cumulative" then do
    let a ← Amount.ofJson value
    .ok { p with cumulative := some a }
  else .ok p

/-- A counter, as an object or as the list of its two amounts. -/
def ofJson : Json → Except Json.Mismatch CounterState
  | .object fields => do
    let p ← fields.foldlM (fun (p : Gathered) f => p.read f.1 f.2) ⟨none, none⟩
    let observed ← Json.required "observed_balance" p.observed
    let cumulative ← Json.required "cumulative" p.cumulative
    .ok ⟨observed, cumulative⟩
  | .array items =>
    let expected := "struct CounterSnapshot with 2 elements"
    match items with
    | [] => .error (.tooFewItems 0 expected)
    | [first] => do
      let _ ← Amount.ofJson first
      .error (.tooFewItems 1 expected)
    | first :: second :: rest => do
      let observed ← Amount.ofJson first
      let cumulative ← Amount.ofJson second
      if rest.isEmpty then .ok ⟨observed, cumulative⟩ else .error (.tooManyItems items.length)
  | other => .error (.wrongType other "struct CounterSnapshot")

end CounterState

namespace Snapshot

/-- Counters by name. -/
def countersOfJson : Json → Except Json.Mismatch (CounterMap CounterState)
  | .object fields =>
    fields.foldlM (fun (m : CounterMap CounterState) f => do
      let counter ← Counter.ofJson (.string f.1)
      let state ← CounterState.ofJson f.2
      .ok (m.set counter state)) CounterMap.empty
  | other => .error (.wrongType other "a map")

/-- What a file holds, before it is checked. -/
structure Envelope where
  side : Side
  updatedAt : Timestamp
  counters : CounterMap CounterState
  checksum : String

/-- What has been read of a file. -/
structure Gathered where
  side : Option Side
  updatedAt : Option Timestamp
  counters : Option (CounterMap CounterState)
  checksum : Option String

/-- One field of a file; unknown ones are passed over, and the version has been looked at. -/
def Gathered.read (p : Gathered) (key : String) (value : Json) : Except Json.Mismatch Gathered :=
  if key = "side" then do
    let side ← Side.ofJson value
    .ok { p with side := some side }
  else if key = "updated_at" then do
    let time ← Timestamp.ofJson value
    .ok { p with updatedAt := some time }
  else if key = "counters" then do
    let counters ← countersOfJson value
    .ok { p with counters := some counters }
  else if key = "checksum" then do
    let text ← value.asString
    .ok { p with checksum := some text }
  else .ok p

/-- The contents of a file with a known version. -/
def Envelope.ofFields (fields : List (String × Json)) : Except Json.Mismatch Envelope := do
  let p ← fields.foldlM (fun (p : Gathered) f => p.read f.1 f.2) ⟨none, none, none, none⟩
  let side ← Json.required "side" p.side
  let updatedAt ← Json.required "updated_at" p.updatedAt
  let counters ← Json.required "counters" p.counters
  let checksum ← Json.required "checksum" p.checksum
  .ok ⟨side, updatedAt, counters, checksum⟩

/-- Why a file holds no snapshot of a side. -/
inductive Fault
  | syntaxError
  | noVersion
  | otherVersion (found : Nat)
  | mismatch (m : Json.Mismatch)
  | otherSide (expected found : Side)
  | strayCounter (c : Counter)
  | checksum

/-- The reason in words. A file that is no JSON at all is given by a fixed reason. -/
def Fault.message : Fault → String
  | .syntaxError => "<json syntax>"
  | .noVersion => "missing version"
  | .otherVersion found => "unsupported version " ++ found.repr
  | .mismatch m => m.message
  | .otherSide expected found => "expected side " ++ expected.name ++ ", found " ++ found.name
  | .strayCounter c => "counter " ++ c.name ++ " does not belong here"
  | .checksum => "checksum mismatch"

/-- The version of a file: a field that holds a natural number. -/
def version? (json : Json) : Option Nat :=
  match json.field? "version" with
  | some (.int n) => if 0 ≤ n then some n.toNat else none
  | _ => none

/-- Checks the contents of a file against the side that it should be of. -/
def Envelope.check (e : Envelope) (side : Side) : Except Fault Snapshot :=
  if e.side ≠ side then .error (.otherSide side e.side)
  else
    match e.counters.toList.find? fun x => x.1.side ≠ side with
    | some stray => .error (.strayCounter stray.1)
    | none =>
      if Snapshot.checksum e.counters = e.checksum then .ok ⟨side, e.counters, e.updatedAt⟩
      else .error .checksum

/-- The snapshot of a side in a JSON value. -/
def ofJson (side : Side) (json : Json) : Except Fault Snapshot :=
  match version? json with
  | none => .error .noVersion
  | some found =>
    if found ≠ version then .error (.otherVersion found)
    else
      match json with
      | .object fields =>
        match Envelope.ofFields fields with
        | .error m => .error (.mismatch m)
        | .ok e => e.check side
      | _ => .error .noVersion

/-- The snapshot of a side in a file. -/
def decode (side : Side) (bytes : ByteArray) : Except Fault Snapshot :=
  match Json.parseBytes? bytes with
  | none => .error .syntaxError
  | some json => ofJson side json

end Snapshot
end RollupFees
