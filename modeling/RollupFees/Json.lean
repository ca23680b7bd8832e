/-!
# JSON values

A JSON value with the distinctions that readers of settings, snapshots and node replies make:
whole numbers are kept apart from other numbers, and an object holds each key once, in the order of
the keys.

## Main definitions

* `Json` : a value
* `Json.insertField` : a field put into sorted fields, replacing one of the same key
* `Json.field?`, `Json.setPath?` : looking into a value and editing it
-/

namespace RollupFees

/-- A JSON value. Whole numbers lie between `-2 ^ 63` and `2 ^ 64 - 1`; all others are real. -/
inductive Json
  | null
  | bool (value : Bool)
  | int (value : Int)
  | real (value : Float)
  | string (value : String)
  | array (items : List Json)
  | object (fields : List (String × Json))

namespace Json

instance : Inhabited Json := ⟨.null⟩

/-- Puts a field in its place among sorted fields; a field of the same key is replaced. -/
def insertField (key : String) (value : Json) : List (String × Json) → List (String × Json)
  | [] => [(key, value)]
  | (k, v) :: rest =>
    if key = k then (key, value) :: rest
    else if key < k then (key, value) :: (k, v) :: rest
    else (k, v) :: insertField key value rest

/-- The object with these fields; the last one of a repeated key counts. -/
def ofFields (fields : List (String × Json)) : Json :=
  .object (fields.foldl (fun sorted f => insertField f.1 f.2 sorted) [])

/-- The value of a key among fields. -/
def lookup (key : String) : List (String × Json) → Option Json
  | [] => none
  | (k, v) :: rest => if key = k then some v else lookup key rest

/-- The value of a key, if this is an object that has it. -/
def field? (json : Json) (key : String) : Option Json :=
  match json with
  | .object fields => lookup key fields
  | _ => none

/-- The fields without one of them. -/
def dropField (key : String) (fields : List (String × Json)) : List (String × Json) :=
  fields.filter fun f => f.1 ≠ key

/-- The value with the entry under a path of keys set, or removed if there is no new value. The
containers on the way have to exist. -/
def setPath? (json : Json) (path : List String) (value : Option Json) : Option Json :=
  match json, path with
  | _, [] => value
  | .object fields, [key] =>
    match value with
    | some v => some (.object (insertField key v fields))
    | none => some (.object (dropField key fields))
  | .object fields, key :: rest =>
    (lookup key fields).bind fun inner =>
      (setPath? inner rest value).map fun v => .object (insertField key v fields)
  | _, _ => none

end Json
end RollupFees
