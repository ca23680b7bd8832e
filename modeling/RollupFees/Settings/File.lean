import RollupFees.Json.Parser
import RollupFees.Settings.Environment
import RollupFees.Settings.Path
import RollupFees.Settings.Reading
import RollupFees.Toml.Parser

/-!
# Settings files

The format of a file follows from its extension. A path without a known file is tried again with
each extension added.

## Main definitions

* `Settings.ofToml` : settings from a text
* `Settings.Folder` : a folder with files
* `Settings.load` : settings from a file
-/

namespace RollupFees.Settings

/-- The formats of settings files. -/
inductive Format
  | toml
  | json
deriving DecidableEq

/-- The extensions with their formats. -/
def Format.extensions : List (String × Format) := [("toml", .toml), ("json", .json)]

/-- The double nearest to a whole number. -/
def realOfInt (n : Int) : Float :=
  let x := Float.ofScientific n.natAbs false 0
  if n < 0 then -x else x

mutual

/-- A JSON value as a setting. A number above 63 bits is a real one. -/
def ofJson : Json → Setting
  | .null => .absent
  | .bool b => .flag b
  | .int n => if n < 2 ^ 63 then .whole n else .real (realOfInt n)
  | .real x => .real x
  | .string s => .text s
  | .array items => .list (ofJsonItems items)
  | .object fields => .table (ofJsonFields fields)

/-- The items of an array. -/
def ofJsonItems : List Json → List Setting
  | [] => []
  | item :: rest => ofJson item :: ofJsonItems rest

/-- The fields of an object. -/
def ofJsonFields : List (String × Json) → List (String × Setting)
  | [] => []
  | (name, v) :: rest => (name, ofJson v) :: ofJsonFields rest

end

/-- The fields of a text in a format. -/
def Format.parse? (format : Format) (text : String) : Option (List (String × Setting)) :=
  match format with
  | .toml => Toml.parse? text
  | .json =>
    match Json.parse? text with
    | some (.object fields) => some (ofJsonFields fields)
    | _ => none

/-- Settings from a text: what it says, then the environment, then the rules. -/
def ofText (format : Format) (env : Environment) (text : String) (order : Order := .asWritten) :
    Reading Settings := do
  match format.parse? text with
  | none => .error .unreadable
  | some fields =>
    match spread? order fields with
    | none => .error .misplaced
    | some tree =>
      let settings := (← ofFields tree).withEnvironment env
      match settings.validate with
      | .ok () => .ok settings
      | .error v => .error (.invalid v)

/-- Settings from a TOML text. -/
def ofToml (env : Environment) (text : String) (order : Order := .asWritten) : Reading Settings :=
  ofText .toml env text order

/-- A folder: its path, and the files below it by relative path. -/
structure Folder where
  path : String
  file? : String → Option String

/-- The extension of a file: what follows the last point of its name, if something comes before
the point. -/
def extension? (path : String) : Option String :=
  let name := (path.splitOn "/").getLast?.getD path
  match (name.splitOn ".").reverse with
  | last :: _ :: more =>
    if name.startsWith "." ∧ more.isEmpty then none else some last
  | _ => none

/-- The format of a file by its extension. -/
def formatOf? (path : String) : Option Format :=
  (extension? path).bind fun ext => Format.extensions.lookup ext

/-- A relative path without steps that lead nowhere. -/
def plainPath (path : String) : String :=
  if path.startsWith "/" then path
  else "/".intercalate ((path.splitOn "/").filter fun step => step ≠ "" ∧ step ≠ ".")

/-- The file that a path means, with its format and its text: the file of exactly that name, or the
first one with a known extension added. -/
def Folder.find (folder : Folder) (path : String) : Reading (String × Format × String) :=
  let plain := plainPath path
  match folder.file? plain with
  | some text =>
    match formatOf? plain with
    | some format => .ok (plain, format, text)
    | none => .error (.unknownFormat (folder.path ++ "/" ++ path))
  | none =>
    let candidates := Format.extensions.filterMap fun (ext, format) =>
      (folder.file? (plain ++ "." ++ ext)).map fun text => (plain ++ "." ++ ext, format, text)
    match candidates with
    | found :: _ => .ok found
    | [] => .error (.noFile path)

/-- The file that is read unless another one is named. -/
def defaultPath : String := "Config.toml"

/-- A text without a byte order mark in front. -/
def withoutMark (text : String) : String :=
  match text.toList with
  | '\ufeff' :: rest => String.ofList rest
  | _ => text

/-- Settings from a file. -/
def load (folder : Folder) (env : Environment) (path : String) (order : Order := .asWritten) :
    Reading Settings := do
  let (file, format, text) ← folder.find path
  (ofText format env (withoutMark text) order).mapError (Fault.inFile file)

end RollupFees.Settings
