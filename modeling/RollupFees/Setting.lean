import RollupFees.Amount
import RollupFees.Decimal.Text
import RollupFees.Fields
import RollupFees.Shortest
import RollupFees.Text.Quoted

/-!
# Values in settings files

A settings file is a tree of named values, whatever its format. What a value is good for depends
on what is asked for: a whole number may stand as a text or a truth value, a text may be given as a
number. A value that cannot serve is reported by its type and its place in the file.

## Main definitions

* `Setting` : a value of a settings file
* `Setting.overlay` : a value laid over another one, tables being merged
* `Setting.asWord`, `asText`, `asDecimal?` : lenient readings
-/

namespace RollupFees

/-- A value of a settings file. -/
inductive Setting
  | absent
  | flag (value : Bool)
  | whole (value : Int)
  | real (value : Float)
  | text (value : String)
  | list (items : List Setting)
  | table (fields : List (String × Setting))

namespace Setting

instance : Inhabited Setting := ⟨.absent⟩

/-! ### Tables -/

/-- The fields of a table; nothing else has any. -/
def fields : Setting → List (String × Setting)
  | .table fs => fs
  | _ => []

mutual

/-- A value laid over another one. Tables are merged name by name; of anything else the new value
counts. An empty table leaves what is there alone. -/
def overlay (new : Setting) (old : Option Setting) : Setting :=
  match new with
  | .table [] => old.getD (.table [])
  | .table fs => .table (overlayFields fs (old.getD .absent).fields)
  | other => other

/-- Fields laid over fields. -/
def overlayFields : List (String × Setting) → List (String × Setting) → List (String × Setting)
  | [], old => old
  | (name, new) :: rest, old =>
    overlayFields rest (Fields.assign name (overlay new (old.lookup name)) old)

end

/-! ### Lenient readings -/

/-- A value of the wrong type. -/
structure Mistype where
  found : Setting
  expected : String

/-- A double with a point, unless it is not finite. -/
def pointedText (x : Float) : String :=
  let text := floatText x
  if x.isFinite ∧ ¬ text.contains '.' then text ++ ".0" else text

/-- A value by its type, with a word for whole numbers. -/
def describe (wholeNumber : String) : Setting → String
  | .absent => "unit value"
  | .flag b => "boolean `" ++ (if b then "true" else "false") ++ "`"
  | .whole n => wholeNumber ++ " `" ++ n.repr ++ "`"
  | .real x => "floating point `" ++ pointedText x ++ "`"
  | .text s => "string " ++ Text.quoted s
  | .list _ => "sequence"
  | .table _ => "map"

/-- Digits with an optional plus sign, below `2 ^ 64`. -/
def wordOfText? (text : String) : Option UInt64 :=
  let digits := match text.toList with
    | '+' :: rest => rest
    | all => all
  if digits.isEmpty then none
  else (Amount.digitsValue? digits).bind fun n =>
    if n < 2 ^ 64 then some (UInt64.ofNat n) else none

/-- A double rounded half away from zero to the range of 64 bits. What is not a number is zero. -/
def wordOfReal (x : Float) : UInt64 := x.round.toUInt64

/-- A number of 64 bits. -/
def asWord (s : Setting) : Except Mistype UInt64 :=
  match s with
  | .whole n =>
    if 0 ≤ n then .ok (UInt64.ofNat n.toNat)
    else .error ⟨s, "an unsigned 64 bit or less integer"⟩
  | .text t =>
    if t.toLower ∈ ["true", "on", "yes"] then .ok 1
    else if t.toLower ∈ ["false", "off", "no"] then .ok 0
    else
      match wordOfText? t with
      | some n => .ok n
      | none => .error ⟨s, "an integer"⟩
  | .flag b => .ok (if b then 1 else 0)
  | .real x => .ok (wordOfReal x)
  | _ => .error ⟨s, "an integer"⟩

/-- A text. -/
def asText (s : Setting) : Except Mistype String :=
  match s with
  | .text t => .ok t
  | .flag b => .ok (if b then "true" else "false")
  | .whole n => .ok n.repr
  | .real x => .ok (floatText x)
  | _ => .error ⟨s, "a string"⟩

/-- A decimal: a number, or a text of one with or without an exponent. -/
def asDecimal? : Setting → Option Decimal
  | .whole n => Decimal.mk? n 0
  | .real x => Decimal.parse? (floatText x)
  | .text t => (Decimal.parse? t).or (Decimal.parseScientific? t)
  | _ => none

end Setting
end RollupFees
