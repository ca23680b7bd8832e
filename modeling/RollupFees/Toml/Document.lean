import RollupFees.Setting

/-!
# TOML documents

A document is built up one entry and one table header at a time. Nothing may be defined twice. A
table made by dotted keys takes further dotted keys but no header; a table made by headers takes
further headers below it, and its own header once; an array of tables takes a new table with each
of its headers, and other headers go to its last table.

## Main definitions

* `Toml.Node` : a value, a table under construction, or an array of tables
* `Toml.addKey?` : one more key with its value
* `Toml.addTable?` : one more header with its entries
* `Toml.settings` : the finished tree
-/

namespace RollupFees.Toml

/-- A node of a document: a finished value, a table of dotted keys, a table of headers that may
have had its own header, or an array of tables, the last one first. -/
inductive Node
  | leaf (value : Setting)
  | dotted (entries : List (String × Node))
  | headed (closed : Bool) (entries : List (String × Node))
  | tables (reversed : List (List (String × Node)))

/-- The entries of a table in order. -/
abbrev Entries := List (String × Node)

/-- One more key with its value. -/
def addKey? (value : Setting) : List String → Entries → Option Entries
  | [], _ => none
  | [name], entries =>
    match entries.lookup name with
    | none => some (Fields.assign name (.leaf value) entries)
    | some _ => none
  | name :: path, entries =>
    match entries.lookup name with
    | none => (addKey? value path []).map fun inner => Fields.assign name (.dotted inner) entries
    | some (.dotted inner) =>
      (addKey? value path inner).map fun grown => Fields.assign name (.dotted grown) entries
    | some _ => none

/-- Entries of a table added to what headers have put there. -/
def merge? (present : Entries) : Entries → Option Entries
  | [] => some present
  | (name, node) :: rest =>
    match present.lookup name with
    | none => merge? (Fields.assign name node present) rest
    | some _ => none

/-- One more header with its entries. The header of an array of tables is `repeated`. -/
def addTable? (repeated : Bool) (entries : Entries) : List String → Entries → Option Entries
  | [], _ => none
  | [name], doc =>
    match doc.lookup name, repeated with
    | none, false => some (Fields.assign name (.headed true entries) doc)
    | none, true => some (Fields.assign name (.tables [entries]) doc)
    | some (.headed false present), false =>
      (merge? present entries).map fun all => Fields.assign name (.headed true all) doc
    | some (.tables reversed), true => some (Fields.assign name (.tables (entries :: reversed)) doc)
    | _, _ => none
  | name :: path, doc =>
    match doc.lookup name with
    | none =>
      (addTable? repeated entries path []).map fun inner =>
        Fields.assign name (.headed false inner) doc
    | some (.headed closed inner) =>
      (addTable? repeated entries path inner).map fun grown =>
        Fields.assign name (.headed closed grown) doc
    | some (.tables (last :: earlier)) =>
      (addTable? repeated entries path last).map fun grown =>
        Fields.assign name (.tables (grown :: earlier)) doc
    | _ => none

mutual

/-- The finished value of a node. -/
def Node.setting : Node → Setting
  | .leaf v => v
  | .dotted entries => .table (settings entries)
  | .headed _ entries => .table (settings entries)
  | .tables reversed => .list (tableSettings reversed).reverse

/-- The finished fields of a table. -/
def settings : List (String × Node) → List (String × Setting)
  | [] => []
  | (name, node) :: rest => (name, node.setting) :: settings rest

/-- The finished tables of an array. -/
def tableSettings : List (List (String × Node)) → List Setting
  | [] => []
  | entries :: rest => .table (settings entries) :: tableSettings rest

end

end RollupFees.Toml
