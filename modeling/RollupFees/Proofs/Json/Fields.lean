import Mathlib.Data.String.Basic
import RollupFees.Json.Decode

/-!
# Fields of objects

Fields are put into an object in the order of their keys, so that each key is there once. Readers of
typed data go through all fields of an object and keep what they know; as no key comes twice, each
of them keeps what a lookup of its key would find.

## Main definitions

* `Json.Sorted` : fields in the order of their keys, each key once
* `Json.Takes` : what comes of reading a field, where it may be missing
-/

namespace RollupFees.Json

variable {key other : String} {value : Json} {fields rest : List (String × Json)}
  {f : String × Json}

/-! ### Fields in order -/

theorem mem_insertField (h : f ∈ insertField key value fields) : f = (key, value) ∨ f ∈ fields := by
  induction fields with
  | nil => exact .inl (List.mem_singleton.1 h)
  | cons g rest ih =>
    obtain ⟨k, v⟩ := g
    rw [insertField] at h
    split at h
    · rcases List.mem_cons.1 h with rfl | h
      · exact .inl rfl
      · exact .inr (List.mem_cons_of_mem _ h)
    · split at h
      · rcases List.mem_cons.1 h with rfl | h
        · exact .inl rfl
        · exact .inr h
      · rcases List.mem_cons.1 h with rfl | h
        · exact .inr List.mem_cons_self
        · exact (ih h).imp_right (List.mem_cons_of_mem _)

theorem mem_insertField_self (key : String) (value : Json) (fields : List (String × Json)) :
    (key, value) ∈ insertField key value fields := by
  induction fields with
  | nil => exact List.mem_singleton.2 rfl
  | cons g rest ih =>
    obtain ⟨k, v⟩ := g
    rw [insertField]
    split
    · exact List.mem_cons_self
    · split
      · exact List.mem_cons_self
      · exact List.mem_cons_of_mem _ ih

/-- A field of another key stays. -/
theorem mem_insertField_of_ne (hne : f.1 ≠ key) (h : f ∈ fields) :
    f ∈ insertField key value fields := by
  induction fields with
  | nil => cases h
  | cons g rest ih =>
    obtain ⟨k, v⟩ := g
    rw [insertField]
    split
    · next heq =>
      rcases List.mem_cons.1 h with rfl | h
      · exact absurd heq.symm hne
      · exact List.mem_cons_of_mem _ h
    · split
      · exact List.mem_cons_of_mem _ h
      · rcases List.mem_cons.1 h with rfl | h
        · exact List.mem_cons_self
        · exact List.mem_cons_of_mem _ (ih h)

/-- Fields in the order of their keys, each key once. -/
def Sorted (fields : List (String × Json)) : Prop := fields.Pairwise fun f g => f.1 < g.1

/-- A field that is put into sorted fields leaves them sorted. -/
theorem Sorted.insertField (h : Sorted fields) (key : String) (value : Json) :
    Sorted (insertField key value fields) := by
  induction fields with
  | nil => exact List.pairwise_singleton ..
  | cons g rest ih =>
    obtain ⟨k, v⟩ := g
    obtain ⟨hfirst, hrest⟩ := List.pairwise_cons.1 h
    rw [Json.insertField]
    split
    · next heq =>
      subst heq
      exact List.pairwise_cons.2 ⟨hfirst, hrest⟩
    · next hne =>
      split
      · next hlt =>
        refine List.pairwise_cons.2 ⟨List.forall_mem_cons.2 ⟨hlt, fun g hg => ?_⟩, h⟩
        exact hlt.trans (hfirst g hg)
      · next hge =>
        refine List.pairwise_cons.2 ⟨fun g hg => ?_, ih hrest⟩
        rcases mem_insertField hg with rfl | hg
        · exact lt_of_le_of_ne (not_lt.1 hge) (Ne.symm hne)
        · exact hfirst g hg

theorem Sorted.nodup (h : Sorted fields) : (fields.map Prod.fst).Nodup :=
  List.pairwise_map.2 (h.imp fun hlt => hlt.ne)

/-! ### Looking up and going through -/

theorem lookup_eq_none_iff : lookup key fields = none ↔ key ∉ fields.map Prod.fst := by
  induction fields with
  | nil => simp [lookup]
  | cons g rest ih =>
    obtain ⟨k, v⟩ := g
    rw [lookup, List.map_cons, List.mem_cons]
    split
    · next heq => simp [heq]
    · next hne => rw [ih]; simp [hne]

theorem mem_of_lookup (h : lookup key fields = some value) : (key, value) ∈ fields := by
  induction fields with
  | nil => cases h
  | cons g rest ih =>
    obtain ⟨k, v⟩ := g
    rw [lookup] at h
    split at h
    · next heq =>
      obtain rfl := Option.some.inj h
      exact heq ▸ List.mem_cons_self
    · exact List.mem_cons_of_mem _ (ih h)

theorem lookup_of_mem (hfields : Sorted fields) (h : (key, value) ∈ fields) :
    lookup key fields = some value := by
  induction fields with
  | nil => cases h
  | cons g rest ih =>
    obtain ⟨k, v⟩ := g
    obtain ⟨hfirst, hrest⟩ := List.pairwise_cons.1 hfields
    rw [lookup]
    rcases List.mem_cons.1 h with heq | hmem
    · obtain ⟨rfl, rfl⟩ := Prod.mk.inj heq
      exact if_pos rfl
    · rw [if_neg (hfirst _ hmem).ne', ih hrest hmem]

/-! ### Readers -/

theorem required_eq_ok {α : Type} {name : String} {o : Option α} {a : α} :
    required name o = .ok a ↔ o = some a := by
  cases o <;> simp [required]

theorem bind_eq_ok {α β : Type} {x : Except Mismatch α} {g : α → Except Mismatch β} {b : β} :
    x >>= g = .ok b ↔ ∃ a, x = .ok a ∧ g a = .ok b := by
  cases x <;> simp [bind, Except.bind]

section Takes

variable {α β : Type} {read : Json → Except Mismatch α} {before after after' : Option α}

/-- What comes of reading the field of a key: what was there before if there is no such field, or
else what the field says. -/
def Takes (key : String) (read : Json → Except Mismatch α) (fields : List (String × Json))
    (before after : Option α) : Prop :=
  match lookup key fields with
  | none => after = before
  | some value => ∃ a, read value = .ok a ∧ after = some a

/-- The first field is read if it has the key, and no other field has it. -/
theorem takes_cons_self (hkey : key ∉ rest.map Prod.fst) :
    Takes key read ((key, value) :: rest) before after ↔
      ∃ a, read value = .ok a ∧ Takes key read rest (some a) after := by
  rw [Takes, lookup, if_pos rfl]
  simp only [Takes, lookup_eq_none_iff.2 hkey]

/-- The first field does not matter if it has another key. -/
theorem takes_cons_of_ne (hne : key ≠ other) :
    Takes key read ((other, value) :: rest) before after ↔ Takes key read rest before after := by
  rw [Takes, Takes, lookup, if_neg hne]

theorem Takes.unique (h : Takes key read fields before after)
    (h' : Takes key read fields before after') : after = after' := by
  rw [Takes] at h h'
  cases hfound : lookup key fields with
  | none =>
    rw [hfound] at h h'
    exact h.trans h'.symm
  | some value =>
    rw [hfound] at h h'
    obtain ⟨a, ha, rfl⟩ := h
    obtain ⟨a', ha', rfl⟩ := h'
    rw [Except.ok.inj (ha.symm.trans ha')]

/-- The field of the key has been read. -/
theorem Takes.exists_read (h : Takes key read fields before after) (hfields : Sorted fields)
    (hmem : (key, value) ∈ fields) : ∃ a, read value = .ok a ∧ after = some a := by
  rwa [Takes, lookup_of_mem hfields hmem] at h

/-- A field that was not there before has been read. -/
theorem takes_none_some {a : α} :
    Takes key read fields none (some a) ↔
      ∃ value, lookup key fields = some value ∧ read value = .ok a := by
  rw [Takes]
  cases lookup key fields with
  | none => simp
  | some value => simp

variable {step : β → String × Json → Except Mismatch β} {b b' : β}

/-- Going through fields keeps of a key what a lookup of it finds, if the field of the key is read
and the other fields leave what has been read of it. -/
theorem takes_of_foldlM (get : β → Option α) (hfields : Sorted fields)
    (hself : ∀ b v b', step b (key, v) = .ok b' → ∃ a, read v = .ok a ∧ get b' = some a)
    (hother : ∀ b f b', f.1 ≠ key → step b f = .ok b' → get b' = get b)
    (h : fields.foldlM step b = .ok b') : Takes key read fields (get b) (get b') := by
  induction fields generalizing b with
  | nil => exact congrArg get (Except.ok.inj h).symm
  | cons f rest ih =>
    have hkey := (List.nodup_cons.1 hfields.nodup).1
    obtain ⟨next, hstep, hnext⟩ := bind_eq_ok.1 (List.foldlM_cons.symm.trans h)
    have hrest := ih (List.pairwise_cons.1 hfields).2 hnext
    by_cases hf : f.1 = key
    · subst hf
      obtain ⟨a, ha, hget⟩ := hself b f.2 next hstep
      exact (takes_cons_self hkey).2 ⟨a, ha, hget ▸ hrest⟩
    · rw [hother b f next hf hstep] at hrest
      exact (takes_cons_of_ne (Ne.symm hf)).2 hrest

/-- If fields can be gone through then each of them can be read. -/
theorem exists_step_of_foldlM (h : fields.foldlM step b = .ok b') :
    ∀ f ∈ fields, ∃ b b', step b f = .ok b' := by
  induction fields generalizing b with
  | nil => exact List.forall_mem_nil _
  | cons f rest ih =>
    obtain ⟨next, hstep, hnext⟩ := bind_eq_ok.1 (List.foldlM_cons.symm.trans h)
    exact List.forall_mem_cons.2 ⟨⟨b, next, hstep⟩, ih hnext⟩

/-- Fields can be gone through if each of them can be read whatever has been read before. -/
theorem exists_foldlM (h : ∀ f ∈ fields, ∀ b, ∃ b', step b f = .ok b') (b : β) :
    ∃ b', fields.foldlM step b = .ok b' := by
  induction fields generalizing b with
  | nil => exact ⟨b, rfl⟩
  | cons f rest ih =>
    obtain ⟨hf, hrest⟩ := List.forall_mem_cons.1 h
    obtain ⟨next, hnext⟩ := hf b
    obtain ⟨b', hb'⟩ := ih hrest next
    exact ⟨b', List.foldlM_cons.trans (bind_eq_ok.2 ⟨next, hnext, hb'⟩)⟩

end Takes

end RollupFees.Json
