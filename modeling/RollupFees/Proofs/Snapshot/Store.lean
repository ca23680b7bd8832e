import RollupFees.Proofs.Snapshot.Encoding
import RollupFees.Snapshot.Store

/-!
# The store as a map

On a disk that can be used, every commit succeeds, and a side reads as its last committed snapshot.
A commit leaves no trace on the other side.

## Main definitions

* `Disk.IsUsable` : nothing stands in the way of the files of the store
* `SnapshotStore.Holds` : what loading from a disk comes to
* `SnapshotStore.session` : commits and loads, one after the other
* `Kept` : a map from sides to their last committed snapshots
-/

namespace RollupFees

/-- No two files of the store have the same name, so it does to tell them apart by what they are. -/
theorem FileName.text_injective {name other : FileName} (h : name.text = other.text) :
    name = other := by
  revert h
  rcases name with (_ | _) | (_ | _) <;> rcases other with (_ | _) | (_ | _) <;> decide

theorem Disk.put_put (d : Disk) (name : FileName) (first last : Option DiskEntry) :
    (d.put name first).put name last = d.put name last := by
  refine congrArg (Disk.mk d.directory) (funext fun other => ?_)
  by_cases hother : other = name
  · simp [hother]
  · simp [hother]

/-- Nothing stands in the way of the files of the store, and a directory that is missing holds
nothing. -/
structure Disk.IsUsable (d : Disk) : Prop where
  free : d.directory ≠ .blocked
  files : ∀ name, d.entries name ≠ some .directory
  bare : d.directory = .missing → ∀ name, d.entries name = none

theorem Disk.isUsable_bare : Disk.bare.IsUsable :=
  ⟨by decide, by simp [bare], by simp [bare]⟩

/-- The disk after a snapshot has been committed: its file is there, and the draft is gone. -/
def Disk.committed (d : Disk) (s : Snapshot) : Disk :=
  ⟨.present, fun name =>
    if name = .snapshot s.side then some (.file s.encode.toUTF8)
    else if name = .draft s.side then none
    else d.entries name⟩

theorem Disk.IsUsable.committed {d : Disk} (h : d.IsUsable) (s : Snapshot) :
    (d.committed s).IsUsable where
  free := by simp [Disk.committed]
  files name := by
    rw [Disk.committed]
    dsimp only
    split
    · simp
    · split
      · simp
      · exact h.files name
  bare hmissing := by cases hmissing

/-- The file of a snapshot reads as what was committed, and the other one as before. -/
theorem Disk.IsUsable.read_committed {d : Disk} (h : d.IsUsable) (s : Snapshot) (side : Side) :
    (d.committed s).read (.snapshot side) =
      if side = s.side then .ok (some s.encode.toUTF8) else d.read (.snapshot side) := by
  by_cases hside : side = s.side
  · subst hside
    simp [read, Disk.committed]
  · have hentry : (d.committed s).entries (.snapshot side) = d.entries (.snapshot side) := by
      simp [Disk.committed, hside]
    have hpresent : (d.committed s).directory = .present := rfl
    rw [if_neg hside]
    unfold read
    rw [hpresent, hentry]
    cases hdir : d.directory with
    | missing => simp [h.bare hdir]
    | blocked => exact absurd hdir h.free
    | present => rfl

/-! ### One commit -/

theorem Disk.IsUsable.makeDirectory_eq {d : Disk} (h : d.IsUsable) :
    answer .makeDirectory d = (.ok (), { d with directory := .present }) := by
  have hfree := h.free
  cases hd : d.directory with
  | blocked => exact absurd hd hfree
  | missing | present => simp [answer, hd]

theorem Disk.store_eq {d : Disk} {name : FileName} (hpresent : d.directory = .present)
    (hentry : d.entries name ≠ some .directory) (bytes : ByteArray) :
    d.store name bytes = (.ok (), d.put name (some (.file bytes))) := by
  rw [store]
  rw [hpresent]
  rcases hname : d.entries name with _ | _ | _
  · rfl
  · rfl
  · exact absurd hname hentry

theorem Disk.store_eq_ok {d d' : Disk} {name : FileName} {bytes : ByteArray}
    (h : d.store name bytes = (.ok (), d')) :
    d.directory = .present ∧ d' = d.put name (some (.file bytes)) := by
  rw [store] at h
  split at h
  · cases h
  · rename_i hpresent _
    exact ⟨hpresent, (Prod.mk.inj h).2.symm⟩
  · cases h

theorem Disk.move_eq {d : Disk} {source target : FileName} {bytes : ByteArray}
    (hsource : d.entries source = some (.file bytes))
    (htarget : d.entries target ≠ some .directory) :
    d.move source target = (.ok (), (d.put source none).put target (some (.file bytes))) := by
  rw [move]
  rw [hsource]
  rcases hname : d.entries target with _ | _ | _
  · rfl
  · rfl
  · exact absurd hname htarget

theorem Disk.move_eq_ok {d d' : Disk} {source target : FileName} {bytes : ByteArray}
    (hsource : d.entries source = some (.file bytes)) (h : d.move source target = (.ok (), d')) :
    d' = (d.put source none).put target (some (.file bytes)) := by
  rw [move, hsource] at h
  rcases hname : d.entries target with _ | _ | _
  all_goals rw [hname] at h
  · exact (Prod.mk.inj h).2.symm
  · exact (Prod.mk.inj h).2.symm
  · cases h

namespace SnapshotStore

/-- Two steps in order: the second one is taken where the first one has succeeded. -/
theorem run_step_bind {α β σ : Type} (env : Answerer FileRequest.Reply σ) (x : FileStep α)
    (f : α → FileStep β) (w : σ) :
    Dialogue.run env (x >>= f).run w =
      match Dialogue.run env x.run w with
      | (.ok a, later) => Dialogue.run env (f a).run later
      | (.error fault, later) => (.error fault, later) := by
  have hrun : Dialogue.run env (x >>= f).run w =
      Dialogue.run env (ExceptT.bindCont f (Dialogue.run env x.run w).1)
        (Dialogue.run env x.run w).2 := Dialogue.run_bind env x.run _ w
  rw [hrun]
  rcases Dialogue.run env x.run w with ⟨_ | a, later⟩ <;> rfl

theorem run_bind_of_ok {α β σ : Type} {env : Answerer FileRequest.Reply σ} {x : FileStep α}
    {f : α → FileStep β} {w w' : σ} {a : α} (h : Dialogue.run env x.run w = (.ok a, w')) :
    Dialogue.run env (x >>= f).run w = Dialogue.run env (f a).run w' := by
  rw [run_step_bind, h]

/-- What succeeds in two steps succeeds in each of them. -/
theorem run_bind_eq_ok {α β σ : Type} {env : Answerer FileRequest.Reply σ} {x : FileStep α}
    {f : α → FileStep β} {w w' : σ} {b : β}
    (h : Dialogue.run env (x >>= f).run w = (.ok b, w')) :
    ∃ a v, Dialogue.run env x.run w = (.ok a, v) ∧
      Dialogue.run env (f a).run v = (.ok b, w') := by
  rw [run_step_bind] at h
  rcases hx : Dialogue.run env x.run w with ⟨_ | a, v⟩
  · rw [hx] at h
    cases h
  · rw [hx] at h
    exact ⟨a, v, rfl, h⟩

/-- What fails in two steps fails in the first one, or in the second one after the first. -/
theorem run_bind_eq_error {α β σ : Type} {env : Answerer FileRequest.Reply σ} {x : FileStep α}
    {f : α → FileStep β} {w w' : σ} {fault : StorageFault}
    (h : Dialogue.run env (x >>= f).run w = (.error fault, w')) :
    Dialogue.run env x.run w = (.error fault, w') ∨
      ∃ a v, Dialogue.run env x.run w = (.ok a, v) ∧
        Dialogue.run env (f a).run v = (.error fault, w') := by
  rw [run_step_bind] at h
  rcases hx : Dialogue.run env x.run w with ⟨_ | a, v⟩
  · rw [hx] at h
    obtain ⟨hfault, hlater⟩ := Prod.mk.inj h
    exact .inl (by rw [Except.error.inj hfault, hlater])
  · rw [hx] at h
    exact .inr ⟨a, v, rfl, h⟩

/-- The draft takes the place of the snapshot if and only if the renaming succeeds. -/
theorem replace_run_eq_ok {σ : Type} {env : Answerer FileRequest.Reply σ} {side : Side} {w w' : σ} :
    Dialogue.run env (replace side).run w = (.ok (), w') ↔
      env.answer (.rename (.draft side) (.snapshot side)) w = (.ok (), w') := by
  rw [replace, ExceptT.run_mk, Dialogue.run_bind, Dialogue.run_question]
  rcases env.answer (.rename (.draft side) (.snapshot side)) w with ⟨fault | _, v⟩
  · simp
  · simp

/-- If the renaming fails the draft is removed. -/
theorem replace_run_eq_error {σ : Type} {env : Answerer FileRequest.Reply σ} {side : Side}
    {w w' : σ} {fault : StorageFault}
    (h : Dialogue.run env (replace side).run w = (.error fault, w')) :
    ∃ v, env.answer (.rename (.draft side) (.snapshot side)) w = (.error fault, v) ∧
      w' = (env.answer (.remove (.draft side)) v).2 := by
  rw [replace, ExceptT.run_mk, Dialogue.run_bind, Dialogue.run_question] at h
  rcases hrename : env.answer (.rename (.draft side) (.snapshot side)) w with ⟨reason | _, v⟩
  · rw [hrename] at h
    obtain ⟨hreason, hlater⟩ := Prod.mk.inj h
    exact ⟨v, by rw [Except.error.inj hreason], hlater.symm⟩
  · rw [hrename] at h
    cases h

theorem commit_run_eq_ok {σ : Type} {env : Answerer FileRequest.Reply σ} {s : Snapshot} {w w' : σ} :
    (commit s).run env w = (.ok (), w') ↔ Dialogue.run env (steps s).run w = (.ok (), w') := by
  rw [commit, Dialogue.run_bind]
  rcases Dialogue.run env (steps s).run w with ⟨fault | _, v⟩
  · simp [Except.mapError]
  · simp [Except.mapError]

theorem commit_run_eq_error {σ : Type} {env : Answerer FileRequest.Reply σ} {s : Snapshot}
    {w w' : σ} {e : Failure} (h : (commit s).run env w = (.error e, w')) :
    ∃ fault, e = .storage fault ∧ Dialogue.run env (steps s).run w = (.error fault, w') := by
  rw [commit, Dialogue.run_bind] at h
  rcases hsteps : Dialogue.run env (steps s).run w with ⟨fault | _, v⟩
  · rw [hsteps] at h
    obtain ⟨hfault, hlater⟩ := Prod.mk.inj h
    exact ⟨fault, (Except.error.inj hfault).symm, by rw [← hlater]⟩
  · rw [hsteps] at h
    cases h

/-- What is asked of the file system until a snapshot is in its place. -/
def replacing (s : Snapshot) : List FileRequest :=
  [.makeDirectory, .create (.draft s.side), .write (.draft s.side) s.encode.toUTF8,
    .flush (.draft s.side), .rename (.draft s.side) (.snapshot s.side)]

/-- Where nothing fails until then, a draft is written and renamed, and only the directory is left
to be flushed. -/
theorem steps_run_of_replacing {env : Answerer FileRequest.Reply Disk} {s : Snapshot}
    (henv : ∀ q ∈ replacing s, ∀ d, env.answer q d = Disk.answer q d) {d : Disk}
    (h : d.IsUsable) :
    Dialogue.run env (steps s).run d =
      Dialogue.run env (do
        request (Dialogue.question FileRequest.openDirectory)
        request (Dialogue.question FileRequest.flushDirectory) : FileStep Unit).run
        (d.committed s) := by
  let made : Disk := { d with directory := .present }
  let created := made.put (.draft s.side) (some (.file .empty))
  let written := created.put (.draft s.side) (some (.file s.encode.toUTF8))
  let renamed := (written.put (.draft s.side) none).put (.snapshot s.side)
    (some (.file s.encode.toUTF8))
  have hmake : Dialogue.run env
      (request (Dialogue.question FileRequest.makeDirectory)).run d = (.ok (), made) :=
    (henv .makeDirectory (by simp [replacing]) d).trans h.makeDirectory_eq
  have hfree : made.entries (.draft s.side) ≠ some .directory := h.files _
  have hcreate : Dialogue.run env
      (request (Dialogue.question (FileRequest.create (.draft s.side)))).run made =
        (.ok (), created) :=
    (henv (.create (.draft s.side)) (by simp [replacing]) made).trans (Disk.store_eq rfl hfree _)
  have hwrite : Dialogue.run env (request (Dialogue.question
      (FileRequest.write (.draft s.side) s.encode.toUTF8))).run created = (.ok (), written) :=
    (henv (.write (.draft s.side) s.encode.toUTF8) (by simp [replacing]) created).trans
      (Disk.store_eq rfl (by simp [created]) _)
  have hflush : Dialogue.run env
      (request (Dialogue.question (FileRequest.flush (.draft s.side)))).run written =
        (.ok (), written) :=
    henv (.flush (.draft s.side)) (by simp [replacing]) written
  have hmove : written.move (.draft s.side) (.snapshot s.side) = (.ok (), renamed) :=
    Disk.move_eq (by simp [written]) (by simp [written, created, made, h.files])
  have hreplace : Dialogue.run env (replace s.side).run written = (.ok (), renamed) := by
    have hanswer : env.answer (.rename (.draft s.side) (.snapshot s.side)) written =
        (.ok (), renamed) := (henv _ (by simp [replacing]) written).trans hmove
    rw [replace]
    rw [ExceptT.run_mk, Dialogue.run_bind, Dialogue.run_question, hanswer]
    rfl
  have hfinal : renamed = d.committed s := by
    refine congrArg (Disk.mk .present) (funext fun name => ?_)
    by_cases hsnapshot : name = .snapshot s.side
    · simp [hsnapshot]
    · by_cases hdraft : name = .draft s.side
      · simp [hdraft, written]
      · simp [hsnapshot, hdraft, written, created, made]
  rw [steps, run_bind_of_ok hmake, run_bind_of_ok hcreate, run_bind_of_ok hwrite,
    run_bind_of_ok hflush, run_bind_of_ok hreplace, hfinal]

/-- A draft is written and renamed. -/
theorem steps_run {d : Disk} (h : d.IsUsable) (s : Snapshot) :
    Dialogue.run Disk.honest (steps s).run d = (.ok (), d.committed s) := by
  rw [steps_run_of_replacing (fun _ _ _ => rfl) h]
  rfl

/-- On a usable disk every commit succeeds. -/
theorem commit_run {d : Disk} (h : d.IsUsable) (s : Snapshot) :
    (commit s).run Disk.honest d = (.ok (), d.committed s) := by
  rw [commit, Dialogue.run_bind, steps_run h s]
  rfl

/-- A committed snapshot stands in its file, on whatever disk. -/
theorem read_of_commit_ok {d d' : Disk} {s : Snapshot}
    (h : (commit s).run Disk.honest d = (.ok (), d')) :
    d'.read (.snapshot s.side) = .ok (some s.encode.toUTF8) := by
  obtain ⟨_, made, -, h⟩ := run_bind_eq_ok (commit_run_eq_ok.1 h)
  obtain ⟨_, created, -, h⟩ := run_bind_eq_ok h
  obtain ⟨_, written, hwrite, h⟩ := run_bind_eq_ok h
  obtain ⟨_, flushed, hflush, h⟩ := run_bind_eq_ok h
  obtain ⟨_, renamed, hreplace, h⟩ := run_bind_eq_ok h
  obtain ⟨_, opened, hopen, hlast⟩ := run_bind_eq_ok h
  obtain ⟨hpresent, hwritten⟩ := Disk.store_eq_ok hwrite
  obtain rfl : written = flushed := (Prod.mk.inj hflush).2
  have hdraft : written.entries (.draft s.side) = some (.file s.encode.toUTF8) := by
    simp [hwritten]
  have hrenamed : written.move (.draft s.side) (.snapshot s.side) = (.ok (), renamed) :=
    replace_run_eq_ok.1 hreplace
  obtain rfl : renamed = opened := (Prod.mk.inj hopen).2
  obtain rfl : renamed = d' := (Prod.mk.inj hlast).2
  rw [Disk.move_eq_ok hdraft hrenamed]
  simp [Disk.read, hwritten, hpresent]

/-! ### Sessions -/

/-- Loading a side is reading its file and making something of it. -/
theorem load_run_eq {σ : Type} (store : SnapshotStore) (side : Side)
    (env : Answerer FileRequest.Reply σ) (w : σ) :
    (store.load side).run env w =
      (store.interpret side (env.answer (.read (.snapshot side)) w).1,
        (env.answer (.read (.snapshot side)) w).2) := rfl

/-- What loading a side from a disk comes to. -/
def contents (store : SnapshotStore) (d : Disk) (side : Side) : Except Failure (Option Snapshot) :=
  store.interpret side (d.read (.snapshot side))

theorem load_run (store : SnapshotStore) (d : Disk) (side : Side) :
    (store.load side).run Disk.honest d = (store.contents d side, d) := rfl

/-- A committed snapshot is what loading its side comes to, and the other side is as before. -/
theorem contents_committed (store : SnapshotStore) {d : Disk} (h : d.IsUsable) {s : Snapshot}
    (hs : s.IsLoadable) (side : Side) :
    store.contents (d.committed s) side =
      if side = s.side then .ok (some s) else store.contents d side := by
  unfold contents
  rw [h.read_committed s side]
  by_cases hside : side = s.side
  · subst hside
    rw [if_pos rfl, if_pos rfl]
    simp only [interpret, Snapshot.decode_encode hs]
  · rw [if_neg hside, if_neg hside]

end SnapshotStore

/-- Something that is done with a store. -/
inductive StoreCall
  | commit (s : Snapshot)
  | load (side : Side)

/-- What comes of it. -/
inductive StoreReply
  | committed (outcome : Except Failure Unit)
  | loaded (outcome : Except Failure (Option Snapshot))

/-- A map from sides to their last committed snapshots. -/
abbrev Kept := Side → Option Snapshot

namespace Kept

/-- The map after a snapshot has been committed. -/
def put (kept : Kept) (s : Snapshot) : Kept :=
  fun side => if side = s.side then some s else kept side

/-- What a map replies. -/
def replies (kept : Kept) : List StoreCall → List StoreReply
  | [] => []
  | .commit s :: rest => .committed (.ok ()) :: (kept.put s).replies rest
  | .load side :: rest => .loaded (.ok (kept side)) :: kept.replies rest

end Kept

namespace SnapshotStore

/-- One call of a store. -/
def call (store : SnapshotStore) : StoreCall → FileTalk StoreReply
  | .commit s => (commit s).bind fun r => .done (.committed r)
  | .load side => (store.load side).bind fun r => .done (.loaded r)

/-- Calls of a store, one after the other. -/
def session (store : SnapshotStore) : List StoreCall → FileTalk (List StoreReply)
  | [] => .done []
  | c :: rest =>
    (store.call c).bind fun reply => (store.session rest).bind fun more => .done (reply :: more)

/-- A disk holds what a map says. -/
def Holds (store : SnapshotStore) (d : Disk) (kept : Kept) : Prop :=
  ∀ side, store.contents d side = .ok (kept side)

theorem Holds.committed {store : SnapshotStore} {d : Disk} {kept : Kept}
    (h : store.Holds d kept) (hd : d.IsUsable) {s : Snapshot} (hs : s.IsLoadable) :
    store.Holds (d.committed s) (kept.put s) := by
  intro side
  rw [store.contents_committed hd hs side, Kept.put]
  split
  · rfl
  · exact h side

/-- A store replies what the map of last committed snapshots replies. -/
theorem session_run (store : SnapshotStore) {calls : List StoreCall} :
    ∀ {d : Disk} {kept : Kept}, d.IsUsable → store.Holds d kept →
      (∀ s, .commit s ∈ calls → s.IsLoadable) →
      ((store.session calls).run Disk.honest d).1 = kept.replies calls := by
  induction calls with
  | nil => intro d kept _ _ _; rfl
  | cons c rest ih =>
    intro d kept hd hkept hcalls
    have hrest : ∀ s, StoreCall.commit s ∈ rest → s.IsLoadable :=
      fun s hs => hcalls s (List.mem_cons_of_mem c hs)
    cases c with
    | commit s =>
      have hs := hcalls s List.mem_cons_self
      have hlater := ih (hd.committed s) (hkept.committed hd hs) hrest
      simp only [session, call, Dialogue.run_bind, commit_run hd s, Dialogue.run_done, hlater,
        Kept.replies]
    | load side =>
      simp only [session, call, Dialogue.run_bind, load_run, hkept side, Dialogue.run_done,
        ih hd hkept hrest, Kept.replies]

end SnapshotStore
end RollupFees
