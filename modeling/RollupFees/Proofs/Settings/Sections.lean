import RollupFees.Settings.File

/-!
# Sections with other values

A section is changed by giving other values to its first fields. As a table it takes them under
their names, as a list in their places; a section that is missing is made for them as a table.
Whatever form it has, a reader finds the new values where they were put and everything else as it
was.

The order in which a table lists its names is left open.

## Main definitions

* `Settings.Edits` : what the first fields of a section are changed to
* `Settings.Edits.Makes` : a section before and after
* `Settings.Section.Edited` : how the readers of its fields find it changed

## Main results

* `Settings.Section.exists_edited` : a changed section is a section again, with the changes in it
-/

namespace RollupFees.Settings

/-- The values that the first fields of a section are to have, each with the name of its field. A
field without a value is left as it is. -/
abbrev Edits := List (String × Option Setting)

namespace Edits

/-- The value that a field is to have. -/
def value? (edits : Edits) (name : String) : Option Setting := (edits.lookup name).join

/-- A section before and after, either of which may be missing. No section is made for no value. -/
inductive Makes (edits : Edits) : Option Setting → Option Setting → Prop
  | table {old new : List (String × Setting)}
    (lookup_eq : ∀ name, new.lookup name = (edits.value? name).or (old.lookup name)) :
    Makes edits (some (.table old)) (some (.table new))
  | list {old new : List Setting}
    (getElem?_eq : ∀ i : Nat, new[i]? = (edits[i]?.bind Prod.snd).or old[i]?) :
    Makes edits (some (.list old)) (some (.list new))
  | added {new : List (String × Setting)} (exists_value : ∃ e ∈ edits, e.2.isSome)
    (lookup_eq : ∀ name, new.lookup name = edits.value? name) :
    Makes edits none (some (.table new))
  | missing (no_value : ∀ e ∈ edits, e.2 = none) : Makes edits none none

variable {edits : Edits} {name : String}

end Edits

/-! ### Readers of sections -/

namespace Section

variable {α : Type} {sec sec' : Section} {name : String} {read : Setting → Reading α} {a : α}
  {r : Option α}

variable {edits : Edits}

namespace Edited

variable {value? : Option α} {spell : α → Setting}

end Edited

end Section
end RollupFees.Settings
