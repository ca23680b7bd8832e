import RollupFees.Proofs.Snapshot.Acceptance

/-!
# Commits that fail

Every request of a commit may fail on its own, and a write that fails leaves part of a draft. As
long as the snapshot has not been renamed into its place, a commit that fails has changed nothing
that is ever loaded. Two requests come after that, which see to it that the renaming lasts. When one
of them fails the commit reports an error, and the new snapshot is there all the same.

## Main definitions

* `Mishaps` : which requests fail
* `Disk.mishap` : a file system with such failures, which is honest otherwise
* `Disk.IsCoherent` : a directory that is missing holds nothing
* `SnapshotStore.complete` : what loading comes to once all of a snapshot is in its file

## Main results

* `failed_commit_keeps_or_replaces` : what is loaded after a commit that has failed
-/

namespace RollupFees

/-- Which requests fail, and how much of a file gets written where writing it fails. -/
structure Mishaps where
  fault? : FileRequest → Option StorageFault
  written : Nat

namespace FileRequest

/-- The reply to a request that has failed. -/
def failed : (q : FileRequest) → StorageFault → q.Reply
  | .read _, fault => .error fault
  | .makeDirectory, fault => .error fault
  | .create _, fault => .error fault
  | .write _ _, fault => .error fault
  | .flush _, fault => .error fault
  | .rename _ _, fault => .error fault
  | .remove _, fault => .error fault
  | .openDirectory, fault => .error fault
  | .flushDirectory, fault => .error fault

/-- A request that touches no more than the directory and drafts. -/
def isAside : FileRequest → Bool
  | .create (.snapshot _) | .write (.snapshot _) _ | .remove (.snapshot _) | .rename _ _ => false
  | _ => true

end FileRequest

namespace Disk

/-- What a request that has failed leaves behind: of a write the first bytes, else nothing. -/
def leftBy (p : Mishaps) : FileRequest → Disk → Disk
  | .write name bytes, d => (d.store name (bytes.extract 0 p.written)).2
  | _, d => d

/-- A file system in which some requests fail, and which does what it is asked otherwise. -/
def mishap (p : Mishaps) : Answerer FileRequest.Reply Disk where
  answer q d :=
    match p.fault? q with
    | some fault => (q.failed fault, d.leftBy p q)
    | none => answer q d

/-- A directory that is missing holds nothing. -/
def IsCoherent (d : Disk) : Prop := d.directory = .missing → ∀ name, d.entries name = none

theorem IsUsable.isCoherent {d : Disk} (h : d.IsUsable) : d.IsCoherent := h.bare

variable {p : Mishaps} {d t t' : Disk} {side other : Side}

theorem mishap_of_none {q : FileRequest} (h : p.fault? q = none) (d : Disk) :
    (mishap p).answer q d = answer q d := by
  simp [mishap, h]

theorem mishap_of_some {q : FileRequest} {fault : StorageFault} (h : p.fault? q = some fault)
    (d : Disk) : (mishap p).answer q d = (q.failed fault, d.leftBy p q) := by
  simp [mishap, h]

/-! ### What is not disturbed -/

theorem read_put_draft (entry : Option DiskEntry) :
    (d.put (.draft other) entry).read (.snapshot side) = d.read (.snapshot side) := by
  simp [read]

theorem read_store_draft (bytes : ByteArray) :
    (d.store (.draft other) bytes).2.read (.snapshot side) = d.read (.snapshot side) := by
  rw [store]
  split
  · rfl
  · exact read_put_draft _
  · rfl

theorem read_makeDirectory (h : d.IsCoherent) :
    (answer .makeDirectory d).2.read (.snapshot side) = d.read (.snapshot side) := by
  cases hdirectory : d.directory with
  | missing => simp [answer, read, hdirectory, h hdirectory]
  | blocked | present => simp [answer, read, hdirectory]

theorem IsCoherent.store (h : d.IsCoherent) (name : FileName) (bytes : ByteArray) :
    (d.store name bytes).2.IsCoherent := by
  rw [Disk.store]
  split
  · exact h
  · rename_i hpresent _
    intro hmissing
    cases hpresent.symm.trans hmissing
  · exact h

theorem IsCoherent.makeDirectory (h : d.IsCoherent) : (answer .makeDirectory d).2.IsCoherent := by
  cases hdirectory : d.directory with
  | blocked => simpa [answer, hdirectory] using h
  | missing | present => simp [answer, hdirectory, IsCoherent]

theorem IsCoherent.put_none (h : d.IsCoherent) (name : FileName) :
    (d.put name none).IsCoherent := by
  intro hmissing other
  simp [h hmissing]

/-- What making the directory, writing to a draft and removing one all keep is kept by every request
that is done aside. -/
theorem answer_aside (P : Disk → Prop) {q : FileRequest} (hq : q.isAside = true) (h : P d)
    (hdirectory : P (answer .makeDirectory d).2)
    (hstore : ∀ side bytes, P (d.store (.draft side) bytes).2)
    (hremove : ∀ side, P (d.put (.draft side) none)) : P (answer q d).2 := by
  match q, hq with
  | .makeDirectory, _ => exact hdirectory
  | .create (.draft side), _ | .write (.draft side) _, _ => exact hstore side _
  | .remove (.draft side), _ => exact hremove side
  | .read _, _ | .flush _, _ | .openDirectory, _ | .flushDirectory, _ => exact h

/-- A request that is done aside leaves both snapshots as they read. -/
theorem read_answer_aside {q : FileRequest} (hq : q.isAside = true) (h : d.IsCoherent) :
    (answer q d).2.read (.snapshot side) = d.read (.snapshot side) :=
  answer_aside (fun t => t.read (.snapshot side) = d.read (.snapshot side)) hq rfl
    (read_makeDirectory h) (fun _ => read_store_draft) fun _ => read_put_draft none

theorem IsCoherent.answer_aside {q : FileRequest} (hq : q.isAside = true) (h : d.IsCoherent) :
    (answer q d).2.IsCoherent :=
  Disk.answer_aside IsCoherent hq h h.makeDirectory (fun _ => h.store _) fun _ => h.put_none _

/-- Loading from the second disk is loading from the first one. -/
structure Undisturbed (d t : Disk) : Prop where
  coherent : t.IsCoherent
  read : ∀ side, t.read (.snapshot side) = d.read (.snapshot side)

theorem IsCoherent.undisturbed (h : d.IsCoherent) : Undisturbed d d := ⟨h, fun _ => rfl⟩

/-- Writing to a draft disturbs nothing, however much of it is written. -/
theorem Undisturbed.store (h : Undisturbed d t) (bytes : ByteArray) :
    Undisturbed d (t.store (.draft other) bytes).2 :=
  ⟨h.coherent.store _ _, fun side => (read_store_draft bytes).trans (h.read side)⟩

/-- A request that is done aside disturbs nothing, be it done or not. -/
theorem Undisturbed.of_mishap {q : FileRequest} {r : q.Reply} (h : Undisturbed d t)
    (hq : q.isAside = true) (hanswer : (mishap p).answer q t = (r, t')) : Undisturbed d t' := by
  obtain rfl : ((mishap p).answer q t).2 = t' := congrArg Prod.snd hanswer
  cases hfault : p.fault? q with
  | some fault =>
    rw [mishap_of_some hfault]
    match q, hq with
    | .write (.draft _) _, _ => exact h.store _
    | .read _, _ | .makeDirectory, _ | .create (.draft _), _ | .flush _, _
    | .remove (.draft _), _ | .openDirectory, _ | .flushDirectory, _ => exact h
  | none =>
    rw [mishap_of_none hfault]
    exact ⟨h.coherent.answer_aside hq, fun side =>
      (read_answer_aside hq h.coherent).trans (h.read side)⟩

/-! ### What a reply tells -/

/-- What has succeeded has been done. -/
theorem answer_of_mishap {q : FileRequest} {r : q.Reply}
    (hanswer : (mishap p).answer q t = (r, t')) (hr : ∀ fault, r ≠ q.failed fault) :
    answer q t = (r, t') := by
  cases hfault : p.fault? q with
  | some fault =>
    rw [mishap_of_some hfault] at hanswer
    exact absurd (Prod.mk.inj hanswer).1.symm (hr fault)
  | none => rwa [mishap_of_none hfault] at hanswer

theorem move_of_error {source target : FileName} {fault : StorageFault}
    (h : d.move source target = (.error fault, t)) : t = d := by
  rw [move] at h
  split at h
  · exact (Prod.mk.inj h).2.symm
  · cases h
  · exact (Prod.mk.inj h).2.symm

/-- A file that cannot be renamed is where it was. -/
theorem rename_of_error {source target : FileName} {fault : StorageFault}
    (h : (mishap p).answer (.rename source target) t = (.error fault, t')) : t' = t := by
  cases hfault : p.fault? (.rename source target) with
  | some planned =>
    rw [mishap_of_some hfault] at h
    exact (Prod.mk.inj h).2.symm
  | none =>
    rw [mishap_of_none hfault] at h
    exact move_of_error h

/-- A reply that an honest file system would not give has been planned. -/
theorem planned_of_mishap {q : FileRequest} {r : q.Reply}
    (h : (mishap p).answer q t = (r, t')) (hr : (answer q t).1 ≠ r) : (p.fault? q).isSome := by
  cases hfault : p.fault? q with
  | some _ => rfl
  | none =>
    rw [mishap_of_none hfault] at h
    exact absurd (congrArg Prod.fst h) hr

/-- A request that changes nothing where it is done changes nothing where it fails either. -/
theorem eq_of_mishap {q : FileRequest} {r : q.Reply} (h : (mishap p).answer q t = (r, t'))
    (hleft : t.leftBy p q = t) (hhonest : (answer q t).2 = t) : t' = t := by
  cases hfault : p.fault? q with
  | some fault =>
    rw [mishap_of_some hfault] at h
    exact (Prod.mk.inj h).2.symm.trans hleft
  | none =>
    rw [mishap_of_none hfault] at h
    exact (congrArg Prod.snd h).symm.trans hhonest

end Disk

namespace SnapshotStore

variable {p : Mishaps} {s : Snapshot} {d d' : Disk} {fault : StorageFault}

/-- The disk reads as before, but for the file of one snapshot, which is there, all of it. -/
def Replaced (s : Snapshot) (d t : Disk) : Prop :=
  ∀ side, t.read (.snapshot side) =
    if side = s.side then .ok (some s.encode.toUTF8) else d.read (.snapshot side)

/-- What a renaming has done to a draft with all of a snapshot in it. -/
theorem replaced_of_move {written renamed : Disk} (h : d.Undisturbed written)
    (hpresent : written.directory = .present)
    (hdraft : written.entries (.draft s.side) = some (.file s.encode.toUTF8))
    (hmove : written.move (.draft s.side) (.snapshot s.side) = (.ok (), renamed)) :
    renamed.directory = .present ∧ Replaced s d renamed := by
  rw [Disk.move_eq_ok hdraft hmove]
  refine ⟨hpresent, fun side => ?_⟩
  by_cases hside : side = s.side
  · simp [Disk.read, hpresent, hside]
  · rw [if_neg hside, ← h.read side]
    simp [Disk.read, hpresent, hside]

/-- Steps that have failed have disturbed nothing, or one of the last two has failed. -/
theorem steps_run_error (hd : d.IsCoherent)
    (h : Dialogue.run (Disk.mishap p) (steps s).run d = (.error fault, d')) :
    d.Undisturbed d' ∨
      ((p.fault? .openDirectory).isSome ∨ (p.fault? .flushDirectory).isSome) ∧
        Replaced s d d' := by
  have hmade {r made} (h : (Disk.mishap p).answer .makeDirectory d = (r, made)) :
      d.Undisturbed made := hd.undisturbed.of_mishap rfl h
  rcases run_bind_eq_error h with hmake | ⟨_, made, hmake, h⟩
  · exact .inl (hmade hmake)
  have hcreated {r created}
      (h : (Disk.mishap p).answer (.create (.draft s.side)) made = (r, created)) :
      d.Undisturbed created := (hmade hmake).of_mishap rfl h
  rcases run_bind_eq_error h with hcreate | ⟨_, created, hcreate, h⟩
  · exact .inl (hcreated hcreate)
  have hwritten {r written}
      (h : (Disk.mishap p).answer (.write (.draft s.side) s.encode.toUTF8) created =
        (r, written)) :
      d.Undisturbed written := (hcreated hcreate).of_mishap rfl h
  rcases run_bind_eq_error h with hwrite | ⟨_, written, hwrite, h⟩
  · exact .inl (hwritten hwrite)
  rcases run_bind_eq_error h with hflush | ⟨_, flushed, hflush, h⟩
  · exact .inl ((hwritten hwrite).of_mishap (q := .flush (.draft s.side)) rfl hflush)
  have hsame : flushed = written :=
    Disk.eq_of_mishap (q := .flush (.draft s.side)) hflush rfl rfl
  rw [hsame] at h
  rcases run_bind_eq_error h with hreplace | ⟨_, renamed, hreplace, h⟩
  · -- the draft is removed, if that is possible
    obtain ⟨v, hrename, rfl⟩ := replace_run_eq_error hreplace
    obtain rfl := Disk.rename_of_error hrename
    exact .inl ((hwritten hwrite).of_mishap (q := .remove (.draft s.side)) rfl rfl)
  have hstored : created.store (.draft s.side) s.encode.toUTF8 = (.ok (), written) :=
    Disk.answer_of_mishap (q := .write (.draft s.side) s.encode.toUTF8) hwrite nofun
  have hmove : written.move (.draft s.side) (.snapshot s.side) = (.ok (), renamed) :=
    Disk.answer_of_mishap (q := .rename (.draft s.side) (.snapshot s.side))
      (replace_run_eq_ok.1 hreplace) nofun
  obtain ⟨hpresent, hput⟩ := Disk.store_eq_ok hstored
  obtain ⟨hthere, hreplaced⟩ := replaced_of_move (hwritten hwrite) (by simpa [hput] using hpresent)
    (by simp [hput]) hmove
  -- from here on nothing changes any more
  rcases run_bind_eq_error h with hopen | ⟨_, opened, hopen, hlast⟩
  · obtain rfl := Disk.eq_of_mishap (q := .openDirectory) hopen rfl rfl
    have hplanned := Disk.planned_of_mishap (q := .openDirectory) hopen
      (by simp [Disk.answer, hthere])
    exact .inr ⟨.inl hplanned, hreplaced⟩
  · obtain rfl := Disk.eq_of_mishap (q := .openDirectory) hopen rfl rfl
    obtain rfl := Disk.eq_of_mishap (q := .flushDirectory) hlast rfl rfl
    have hplanned := Disk.planned_of_mishap (q := .flushDirectory) hlast (by simp [Disk.answer])
    exact .inr ⟨.inr hplanned, hreplaced⟩

/-- Where opening or flushing the directory is to fail, it does, and changes nothing. -/
theorem lasting_run_error {t : Disk} (hpresent : t.directory = .present)
    (h : (p.fault? .openDirectory).isSome ∨ (p.fault? .flushDirectory).isSome) :
    ∃ fault, Dialogue.run (Disk.mishap p) (do
        request (Dialogue.question FileRequest.openDirectory)
        request (Dialogue.question FileRequest.flushDirectory) : FileStep Unit).run t =
      (.error fault, t) := by
  cases hopen : p.fault? .openDirectory with
  | some fault =>
    have hanswer : Dialogue.run (Disk.mishap p)
        (request (Dialogue.question FileRequest.openDirectory)).run t = (.error fault, t) :=
      Disk.mishap_of_some hopen t
    exact ⟨fault, by rw [run_step_bind, hanswer]⟩
  | none =>
    have hanswer : Dialogue.run (Disk.mishap p)
        (request (Dialogue.question FileRequest.openDirectory)).run t = (.ok (), t) :=
      (Disk.mishap_of_none hopen t).trans (by simp [Disk.answer, hpresent])
    have hflush : (p.fault? .flushDirectory).isSome := by simpa [hopen] using h
    obtain ⟨fault, hfault⟩ := Option.isSome_iff_exists.1 hflush
    exact ⟨fault, (run_bind_of_ok hanswer).trans (Disk.mishap_of_some hfault t)⟩

/-- A commit that fails in one of its last two requests has put the snapshot in its place. -/
theorem commit_run_error (h : d.IsUsable) (hnone : ∀ q ∈ replacing s, p.fault? q = none)
    (hplanned : (p.fault? .openDirectory).isSome ∨ (p.fault? .flushDirectory).isSome) :
    ∃ e, (commit s).run (Disk.mishap p) d = (.error e, d.committed s) := by
  have hreplacing : ∀ q ∈ replacing s, ∀ t, (Disk.mishap p).answer q t = Disk.answer q t :=
    fun q hq t => Disk.mishap_of_none (hnone q hq) t
  obtain ⟨fault, hfails⟩ := lasting_run_error (t := d.committed s) rfl hplanned
  refine ⟨.storage fault, ?_⟩
  rw [commit, Dialogue.run_bind, steps_run_of_replacing hreplacing h, hfails]
  rfl

/-- What loading a side comes to once a snapshot stands in its file, all of it. -/
def complete (store : SnapshotStore) (s : Snapshot) : Except Failure (Option Snapshot) :=
  store.interpret s.side (.ok (some s.encode.toUTF8))

theorem complete_of_isLoadable (store : SnapshotStore) (hs : s.IsLoadable) :
    store.complete s = .ok (some s) :=
  interpret_of_ok (Snapshot.decode_encode hs)

theorem contents_of_undisturbed (store : SnapshotStore) {t : Disk} (h : d.Undisturbed t)
    (side : Side) : store.contents t side = store.contents d side :=
  congrArg (store.interpret side) (h.read side)

theorem contents_of_replaced (store : SnapshotStore) {t : Disk} (h : Replaced s d t)
    (side : Side) :
    store.contents t side = if side = s.side then store.complete s else store.contents d side := by
  rw [contents, h side]
  by_cases hside : side = s.side
  · subst hside
    rw [if_pos rfl, if_pos rfl, complete]
  · rw [if_neg hside, if_neg hside, contents]

end SnapshotStore

/-- **What a failed commit has changed.** Whichever requests fail, and whatever was on the disk: a
commit that reports an error has left what is loaded as it was, or one of the last two requests has
failed and the snapshot is in its place, with the other side as it was. And it is in its place
whenever it is one of these two that fails and nothing before it. -/
theorem failed_commit_keeps_or_replaces (store : SnapshotStore) (p : Mishaps) (s : Snapshot)
    {d : Disk} (hd : d.IsCoherent) :
    (∀ e d', (SnapshotStore.commit s).run (Disk.mishap p) d = (.error e, d') →
      (∀ side, store.contents d' side = store.contents d side) ∨
        ((p.fault? .openDirectory).isSome ∨ (p.fault? .flushDirectory).isSome) ∧
          ∀ side, store.contents d' side =
            if side = s.side then store.complete s else store.contents d side) ∧
      (d.IsUsable → (∀ q ∈ SnapshotStore.replacing s, p.fault? q = none) →
        (p.fault? .openDirectory).isSome ∨ (p.fault? .flushDirectory).isSome →
        ∃ e, (SnapshotStore.commit s).run (Disk.mishap p) d = (.error e, d.committed s)) := by
  constructor
  · intro e d' h
    obtain ⟨fault, rfl, hsteps⟩ := SnapshotStore.commit_run_eq_error h
    rcases SnapshotStore.steps_run_error hd hsteps with hkept | ⟨hplanned, hreplaced⟩
    · exact .inl fun side => store.contents_of_undisturbed hkept side
    · exact .inr ⟨hplanned, fun side => store.contents_of_replaced hreplaced side⟩
  · intro husable hnone hplanned
    exact SnapshotStore.commit_run_error husable hnone hplanned

/-- Mishaps of which there is one: the directory cannot be flushed. -/
def Mishaps.unflushed : Mishaps where
  fault?
    | .flushDirectory => some .refused
    | _ => none
  written := 0

theorem Mishaps.unflushed_replacing (s : Snapshot) :
    ∀ q ∈ SnapshotStore.replacing s, Mishaps.unflushed.fault? q = none := by
  simp [SnapshotStore.replacing, unflushed]

/-- A commit that could not be made to last, in a directory that had not been made. -/
theorem commit_unflushed :
    Disk.bare.IsCoherent ∧ Disk.bare.IsUsable ∧
      (∀ q ∈ SnapshotStore.replacing .drained, Mishaps.unflushed.fault? q = none) ∧
      (Mishaps.unflushed.fault? .flushDirectory).isSome ∧
      ∃ e, (SnapshotStore.commit .drained).run (Disk.mishap .unflushed) .bare =
        (.error e, Disk.bare.committed .drained) := by
  have hnone := Mishaps.unflushed_replacing .drained
  have hplanned : (Mishaps.unflushed.fault? .flushDirectory).isSome := rfl
  obtain ⟨-, hreplaces⟩ := failed_commit_keeps_or_replaces ⟨"data"⟩ .unflushed .drained
    Disk.isUsable_bare.isCoherent
  exact ⟨Disk.isUsable_bare.isCoherent, Disk.isUsable_bare, hnone, hplanned,
    hreplaces Disk.isUsable_bare hnone (.inr hplanned)⟩

/-- The place of a directory that has not been made, and that is reached by going through a
directory with the name of the snapshot of the first side and back. -/
def Disk.roundabout : Disk :=
  ⟨.missing, fun name => if name = .snapshot .l1 then some .directory else none⟩

/-- A commit that reports an error may have changed what is loaded. The directory cannot be flushed,
and the snapshot is there where none was before; or making the directory on the way to it puts
another one in the place of the snapshot, which cannot be loaded from then on. -/
theorem failed_commit_changes :
    let store : SnapshotStore := ⟨"data"⟩
    (∃ e d', (SnapshotStore.commit .drained).run (Disk.mishap .unflushed) .bare = (.error e, d') ∧
        store.contents .bare .l1 = .ok none ∧ store.contents d' .l1 = .ok (some .drained)) ∧
      ∃ e d', (SnapshotStore.commit .drained).run Disk.honest .roundabout = (.error e, d') ∧
        store.contents .roundabout .l1 = .ok none ∧
          store.contents d' .l1 = .error (.storage .refused) := by
  intro store
  constructor
  · obtain ⟨e, hcommit⟩ := SnapshotStore.commit_run_error Disk.isUsable_bare
      (Mishaps.unflushed_replacing .drained) (.inr rfl)
    have hloadable : Snapshot.drained.IsLoadable := ⟨by decide, Timestamp.isValid_epoch⟩
    have hside : Side.l1 = Snapshot.drained.side := rfl
    refine ⟨e, _, hcommit, rfl, ?_⟩
    rw [store.contents_committed Disk.isUsable_bare hloadable, if_pos hside]
  · -- the renaming fails, for a directory has taken the name
    exact ⟨.storage .refused, _, rfl, rfl, rfl⟩

end RollupFees
