import RollupFees.Json.Number
import RollupFees.Text.Quoted

/-!
# Data out of JSON values

Typed data is read out of a JSON value, and the first thing in the way is reported. An object is
read in the order of its keys; unknown keys are passed over, and only then are missing ones looked
for.

## Main definitions

* `Json.Mismatch` : what was in the way
* `Json.asString`, `Json.asChoice` : a text, and one of several names
-/

namespace RollupFees.Json

/-- What was in the way of reading data out of a value. -/
inductive Mismatch
  | wrongType (found : Json) (expected : String)
  | notSingleKey
  | tooFewItems (count : Nat) (expected : String)
  | tooManyItems (count : Nat)
  | unknownName (name : String) (known : List String)
  | missingField (name : String)
  | stated (reason : String)

/-- A value by its type, the way complaints name it. -/
def describe : Json → String
  | .null => "null"
  | .bool b => "boolean `" ++ (if b then "true" else "false") ++ "`"
  | .int n => "integer `" ++ n.repr ++ "`"
  | .real x => "floating point `" ++ realText x ++ "`"
  | .string s => "string " ++ Text.quoted s
  | .array _ => "sequence"
  | .object _ => "map"

/-- The names that would have been right: two with "or" between them, or a list. -/
def nameList (known : List String) : String :=
  let ticked := known.map fun n => "`" ++ n ++ "`"
  match ticked with
  | [a, b] => "expected " ++ a ++ " or " ++ b
  | names => "expected one of " ++ ", ".intercalate names

/-- The complaint in words. -/
def Mismatch.message : Mismatch → String
  | .wrongType found expected =>
    "invalid type: " ++ describe found ++ ", expected " ++ expected
  | .notSingleKey => "invalid value: map, expected map with a single key"
  | .tooFewItems count expected => "invalid length " ++ count.repr ++ ", expected " ++ expected
  | .tooManyItems count =>
    "invalid length " ++ count.repr ++ ", expected fewer elements in array"
  | .unknownName name known => "unknown variant `" ++ name ++ "`, " ++ nameList known
  | .missingField name => "missing field `" ++ name ++ "`"
  | .stated reason => reason

/-- A text. -/
def asString : Json → Except Mismatch String
  | .string s => .ok s
  | other => .error (.wrongType other "a string")

/-- One of several names, given as a text or as the only key of an object that maps to nothing. -/
def asChoice {α : Type} (known : List String) (ofName? : String → Option α) (json : Json) :
    Except Mismatch α :=
  let choose (name : String) : Except Mismatch α :=
    match ofName? name with
    | some a => .ok a
    | none => .error (.unknownName name known)
  match json with
  | .string name => choose name
  | .object [(name, payload)] =>
    match choose name, payload with
    | .error e, _ => .error e
    | .ok a, .null => .ok a
    | .ok _, other => .error (.wrongType other "unit")
  | .object _ => .error .notSingleKey
  | other => .error (.wrongType other "string or map")

/-- A field that has to be there. -/
def required {α : Type} (name : String) : Option α → Except Mismatch α
  | some a => .ok a
  | none => .error (.missingField name)

end RollupFees.Json
