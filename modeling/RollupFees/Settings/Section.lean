import RollupFees.Setting
import RollupFees.Settings.Rule

/-!
# Sections of a settings file

A section is a table of fields, or a list of them in order. Unknown fields are passed over. A field
that is missing takes its default; without one it is reported.

## Main definitions

* `Settings.Fault` : why settings could not be had
* `Settings.Section` : a section with its layout
* `Settings.Section.get`, `getD` : a field that has to be there, and one with a default
-/

namespace RollupFees.Settings

/-- A step on the way to a value: a name, or a place in a list. -/
inductive Stride
  | name (name : String)
  | place (index : Nat)
deriving DecidableEq

/-- A way to a value as one key: names between points, places in brackets. -/
def keyText : List Stride → String
  | [] => ""
  | .place n :: rest => "[" ++ n.repr ++ "]" ++ keyText rest
  | [.name s] => s
  | .name s :: .place n :: rest => s ++ keyText (.place n :: rest)
  | .name s :: rest => s ++ "." ++ keyText rest

/-- Why settings could not be had. -/
inductive Fault
  | noFile (path : String)
  | unknownFormat (path : String)
  | unreadable
  | misplaced
  | mistyped (what : Setting.Mistype) (key : List Stride) (origin : Option String)
  | missingField (name : String)
  | notASection (found : Setting) (name : String)
  | shortSection (count : Nat) (name : String) (size : Nat)
  | notADecimal (found : Setting)
  | unknownFeedKind (name : String)
  | notAFeedKind
  | invalid (violation : Violation)

namespace Fault

/-- What stands in the way of a decimal. -/
def decimalText (found : Setting) : String :=
  let what := match found with
    | .real _ | .text _ | .whole _ => "invalid value: "
    | _ => "invalid type: "
  what ++ found.describe "integer" ++
    ", expected a Decimal type representing a fixed-point number"

/-- What the operator is told; nothing about a file that is not well formed, or that puts a value
before the first item of a list. The program breaks down over the latter. -/
def message? : Fault → Option String
  | .noFile path => some ("configuration file \"" ++ path ++ "\" not found")
  | .unknownFormat path =>
    some ("configuration file \"" ++ path ++ "\" is not of a registered file format")
  | .unreadable | .misplaced => none
  | .mistyped what key origin =>
    some ("invalid type: " ++ what.found.describe "integer 64 bit" ++ ", expected " ++
      what.expected ++ (if key.isEmpty then "" else " for key `" ++ keyText key ++ "`") ++
      (origin.map fun o => " in " ++ o).getD "")
  | .missingField name => some ("missing field `" ++ name ++ "`")
  | .notASection found name =>
    some ("invalid type: " ++ found.describe "integer" ++ ", expected struct " ++ name)
  | .shortSection count name size =>
    some ("invalid length " ++ count.repr ++ ", expected struct " ++ name ++ " with " ++
      size.repr ++ " elements")
  | .notADecimal found => some (decimalText found)
  | .unknownFeedKind name =>
    some ("enum FeedKind does not have variant constructor " ++ name)
  | .notAFeedKind =>
    some ("value of enum FeedKind should be represented by either string or table with " ++
      "exactly one key")
  | .invalid v => some v.message

/-- The fault seen from one step further out. -/
def under (stride : Stride) : Fault → Fault
  | .mistyped what key origin => .mistyped what (stride :: key) origin
  | other => other

/-- The fault with the file it was found in. Tables outside of lists are put together from all
sources, so they belong to no file. -/
def inFile (file : String) : Fault → Fault
  | .mistyped what key origin =>
    let listed := key.any fun
      | .place _ => true
      | .name _ => false
    match what.found with
    | .table _ => .mistyped what key (if listed then some file else origin)
    | _ => .mistyped what key (some file)
  | other => other

end Fault

/-- What a reading of settings gives. -/
abbrev Reading (α : Type) := Except Fault α

/-- The layout of a section: its name and its fields in order. -/
structure Layout where
  name : String
  fields : List String

/-- A section with its layout. -/
structure Section where
  layout : Layout
  content : List (String × Setting) ⊕ List Setting

namespace Section

/-- The section that a value is. -/
def of (layout : Layout) : Setting → Reading Section
  | .table fields => .ok ⟨layout, .inl fields⟩
  | .list items => .ok ⟨layout, .inr items⟩
  | other => .error (.notASection other layout.name)

/-- The value of a field and the step that leads to it. -/
def find? (s : Section) (name : String) : Option (Stride × Setting) :=
  match s.content with
  | .inl fields => (fields.lookup name).map fun v => (.name name, v)
  | .inr items =>
    let place := s.layout.fields.idxOf name
    items[place]?.map fun v => (.place place, v)

/-- The fault of a field that is not there. -/
def missing (s : Section) (name : String) : Fault :=
  match s.content with
  | .inl _ => .missingField name
  | .inr _ => .shortSection (s.layout.fields.idxOf name) s.layout.name s.layout.fields.length

/-- A field, if it is there. -/
def get? {α : Type} (s : Section) (name : String) (read : Setting → Reading α) :
    Reading (Option α) :=
  match s.find? name with
  | none => .ok none
  | some (stride, v) => ((read v).mapError (Fault.under stride)).map some

/-- A field that has to be there. -/
def get {α : Type} (s : Section) (name : String) (read : Setting → Reading α) : Reading α := do
  match ← s.get? name read with
  | some a => .ok a
  | none => .error (s.missing name)

/-- A field with a default. -/
def getD {α : Type} (s : Section) (name : String) (default : α) (read : Setting → Reading α) :
    Reading α := do
  let found ← s.get? name read
  pure (found.getD default)

end Section

/-- A text. -/
def text (s : Setting) : Reading String :=
  s.asText.mapError fun what => .mistyped what [] none

/-- A number of 64 bits. -/
def word (s : Setting) : Reading UInt64 :=
  s.asWord.mapError fun what => .mistyped what [] none

/-- A decimal. -/
def decimal (s : Setting) : Reading Decimal :=
  match s.asDecimal? with
  | some d => .ok d
  | none => .error (.notADecimal s)

/-- A value that may be absent. -/
def optional {α : Type} (read : Setting → Reading α) : Setting → Reading (Option α)
  | .absent => .ok none
  | s => (read s).map some

end RollupFees.Settings
