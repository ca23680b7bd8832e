/-!
# Named values

A list of values with their names, in the order in which the names first came. Values are found by
`List.lookup`.

## Main definitions

* `Fields.assign` : the value of a name set
-/

namespace RollupFees.Fields

variable {α : Type} {name other : String} {value : α} {fields : List (String × α)}
  {f : String × α}

/-- Sets the value of a name; a new name comes last. -/
def assign (name : String) (value : α) : List (String × α) → List (String × α)
  | [] => [(name, value)]
  | (n, v) :: rest => if name = n then (name, value) :: rest else (n, v) :: assign name value rest

theorem lookup_cons (name other : String) (value : α) (rest : List (String × α)) :
    List.lookup other ((name, value) :: rest) =
      if other = name then some value else List.lookup other rest := by
  rw [List.lookup_cons]
  split <;> simp_all

theorem mem_assign (h : f ∈ assign name value fields) : f = (name, value) ∨ f ∈ fields := by
  induction fields with
  | nil => exact .inl (List.mem_singleton.1 h)
  | cons g rest ih =>
    rw [assign] at h
    split at h
    · exact (List.mem_cons.1 h).imp_right (List.mem_cons_of_mem _)
    · rcases List.mem_cons.1 h with rfl | h
      · exact .inr List.mem_cons_self
      · exact (ih h).imp_right (List.mem_cons_of_mem _)

theorem mem_of_lookup (h : fields.lookup name = some value) : (name, value) ∈ fields := by
  obtain ⟨before, after, rfl, -⟩ := List.lookup_eq_some_iff.1 h
  simp

/-- Where no name comes twice, the fields are what is found. -/
theorem lookup_eq_some_iff (h : (fields.map Prod.fst).Nodup) :
    fields.lookup name = some value ↔ (name, value) ∈ fields := by
  refine ⟨mem_of_lookup, fun hmem => ?_⟩
  induction fields with
  | nil => cases hmem
  | cons g rest ih =>
    obtain ⟨hnew, hrest⟩ := List.nodup_cons.1 h
    rw [lookup_cons]
    rcases List.mem_cons.1 hmem with rfl | hmem
    · rw [if_pos rfl]
    · have hne : name ≠ g.1 := fun heq => hnew (heq ▸ List.mem_map_of_mem hmem)
      rw [if_neg hne, ih hrest hmem]

/-- The names after a value is set: those before, with a new one at the end. -/
theorem map_fst_assign (name : String) (value : α) (fields : List (String × α)) :
    (assign name value fields).map Prod.fst =
      if name ∈ fields.map Prod.fst then fields.map Prod.fst else fields.map Prod.fst ++ [name] := by
  induction fields with
  | nil => rfl
  | cons g rest ih =>
    rw [assign]
    by_cases h : name = g.1
    · simp [h]
    · rw [if_neg h, List.map_cons, ih]
      split <;> simp_all

theorem nodup_assign (h : (fields.map Prod.fst).Nodup) (name : String) (value : α) :
    ((assign name value fields).map Prod.fst).Nodup := by
  rw [map_fst_assign]
  split
  · exact h
  · next hnew =>
    refine List.nodup_append.2 ⟨h, List.pairwise_singleton .., fun n hn m hm heq => hnew ?_⟩
    rwa [← List.mem_singleton.1 hm, ← heq]

end RollupFees.Fields
