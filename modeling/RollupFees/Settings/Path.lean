import RollupFees.Setting

/-!
# Names as paths

A name at the top level of a settings file may be a path: names with points between them, and places
of lists in brackets. The value is put where the path leads, and tables are merged on the way.

The names at the top level are taken up in an order that is left open. It matters where two paths
lead to the same value: the later one counts.

## Main definitions

* `Setting.put` : a value put under a path
* `Settings.namePath` : the path that a name is
* `Settings.Order` : an order in which names are taken up
* `Settings.spread?` : fields with their paths taken apart
-/

namespace RollupFees

namespace Setting

/-- A step on the way to a value: a name in a table, or a place in a list. Places below zero are
counted from the end of the list. -/
inductive Part
  | name (name : String)
  | place (place : Int)
deriving DecidableEq

/-- The items of a list; nothing else has any. -/
def items : Setting → List Setting
  | .list xs => xs
  | _ => []

/-- The index that a place stands for in a list of so many items, unless it is before the first
one. -/
def indexOf? (place : Int) (count : Nat) : Option Nat :=
  if 0 ≤ place then some place.toNat
  else if place.natAbs ≤ count then some (count - place.natAbs)
  else none

/-- Sets an item of a list. Items that are missing before it are absent. -/
def setItem (index : Nat) (value : Setting) (items : List Setting) : List Setting :=
  (items ++ List.replicate (index + 1 - items.length) Setting.absent).set index value

/-- A value put under a path, over an old one. Whatever is no table or no list on the way gives way
to one. A table that is put under a name is laid over what is there; an item is replaced. -/
def put (value : Setting) : List Part → Option Setting → Option Setting
  | [], old => some (overlay value old)
  | .name name :: path, old =>
    let fields := (old.getD .absent).fields
    (put value path (fields.lookup name)).map fun v => .table (Fields.assign name v fields)
  | .place place :: path, old =>
    let items := (old.getD .absent).items
    (indexOf? place items.length).bind fun i =>
      (put value path (if path.isEmpty then none else items[i]?)).map fun v =>
        .list (setItem i v items)

end Setting

namespace Settings

open Setting (Part)

/-! ### Reading a path -/

/-- Whether a character may stand in a name of a path. -/
def isNameLetter (c : Char) : Bool := c.isAlphanum || c = ' ' || c = '_' || c = '-'

/-- Whether a character may stand around a place. -/
def isPlaceBlank (c : Char) : Bool := c = ' ' || c = '\t' || c = '\r' || c = '\n'

/-- A name, from its letters in reverse. -/
def namePart? (passed : List Char) : Option Part :=
  if passed.isEmpty then none else some (.name (String.ofList passed.reverse))

/-- A place, from its letters in reverse: digits with an optional minus sign, with blanks around
them, that fit in 64 bits. -/
def placePart? (passed : List Char) : Option Part :=
  match (passed.dropWhile isPlaceBlank).reverse.dropWhile isPlaceBlank with
  | [] | ['-'] => none
  | '-' :: digits =>
    (Amount.digitsValue? digits).bind fun n => if n ≤ 2 ^ 63 then some (.place (-n)) else none
  | digits =>
    (Amount.digitsValue? digits).bind fun n => if n < 2 ^ 63 then some (.place n) else none

/-- Where the reading of a path stands: in a name or in a place, with its letters so far in reverse,
or behind a place. -/
inductive Spot
  | name (passed : List Char)
  | place (passed : List Char)
  | closed

/-- The rest of a path, if it is one. -/
def pathParts? : Spot → List Char → Option (List Part)
  | .name passed, [] => (namePart? passed).map fun p => [p]
  | .place _, [] => none
  | .closed, [] => some []
  | .name passed, c :: rest =>
    if c = '.' then
      (namePart? passed).bind fun p => (pathParts? (.name []) rest).map (p :: ·)
    else if c = '[' then
      (namePart? passed).bind fun p => (pathParts? (.place []) rest).map (p :: ·)
    else if isNameLetter c then pathParts? (.name (c :: passed)) rest
    else none
  | .place passed, c :: rest =>
    if c = ']' then (placePart? passed).bind fun p => (pathParts? .closed rest).map (p :: ·)
    else pathParts? (.place (c :: passed)) rest
  | .closed, c :: rest =>
    if c = '.' then pathParts? (.name []) rest
    else if c = '[' then pathParts? (.place []) rest
    else none

/-- The path that a name is. One that cannot be read as a path is plain. -/
def namePath (name : String) : List Part :=
  (pathParts? (.name []) name.toList).getD [.name name]

/-! ### Taking paths apart -/

/-- An order in which the names at the top level of a file are taken up. -/
structure Order where
  arrange : List (String × Setting) → List (String × Setting)
  perm : ∀ fields, (arrange fields).Perm fields

/-- The order in which they are written. -/
def Order.asWritten : Order := ⟨id, fun _ => .refl _⟩

/-- A field put into a tree, where the path leads that its name is. -/
def putField (tree : Setting) (field : String × Setting) : Option Setting :=
  Setting.put field.2 (namePath field.1) (some tree)

/-- Fields with the paths among their names taken apart, unless a place is before the first item of
its list. -/
def spread? (order : Order) (fields : List (String × Setting)) : Option (List (String × Setting)) :=
  ((order.arrange fields).foldlM putField (.table [])).map Setting.fields

end Settings
end RollupFees
