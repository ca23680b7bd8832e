import RollupFees.Proofs.Snapshot.Mishap

/-!
# Commits that are cut short

A commit may be cut short between any two of its requests, or in the middle of one. What is found
on the disk afterwards is not settled by what has been asked of it: a renaming may have reached the
disk or not, and what has been written to a file since it was last flushed may be there in any part,
or have turned into anything else. Whatever is found, each side loads as before the commit or, on
the side of the new snapshot, as all of that snapshot; and the next commit goes through.

Here the order of the requests counts. A draft that was renamed before it was flushed could be found
under the name of the snapshot with anything in it.

## Main definitions

* `Dialogue.states` : the states that a run passes through
* `Medium` : a disk, with what may be found on it if everything stops
* `Medium.surroundings` : what becomes of it with each request

## Main results

* `Medium.within_of_mem_states` : what is found after a commit that was cut short
* `commit_cut_short` : what is loaded then, and that the next commit goes through
-/

namespace RollupFees

/-! ### The course of a run -/

namespace Dialogue

variable {Q : Type} {A : Q → Type} {α β σ : Type}

/-- The states that a run passes through, from the first one on. -/
def states (env : Answerer A σ) : Dialogue A α → σ → List σ
  | .done _, w => [w]
  | .ask q next, w => w :: (next (env.answer q w).1).states env (env.answer q w).2

theorem self_mem_states (env : Answerer A σ) (d : Dialogue A α) (w : σ) : w ∈ d.states env w := by
  cases d <;> exact List.mem_cons_self

/-- A sequence of two dialogues passes through what both of them pass through. -/
theorem mem_states_bind {env : Answerer A σ} {d : Dialogue A α} {f : α → Dialogue A β} {w v : σ} :
    v ∈ (d.bind f).states env w ↔
      v ∈ d.states env w ∨ v ∈ (f (d.run env w).1).states env (d.run env w).2 := by
  induction d generalizing w with
  | done a =>
    constructor
    · exact .inr
    · rintro (hself | hlater)
      · rw [List.mem_singleton.1 hself]
        exact self_mem_states env (f a) w
      · exact hlater
  | ask q next ih => simp [states, ih, or_assoc]

theorem run_mem_states (env : Answerer A σ) (d : Dialogue A α) (w : σ) :
    (d.run env w).2 ∈ d.states env w := by
  induction d generalizing w with
  | done a => exact List.mem_cons_self
  | ask q next ih => exact List.mem_cons_of_mem w (ih _ _)

theorem mem_states_question {env : Answerer A σ} {q : Q} {w v : σ} :
    v ∈ (question q : Dialogue A (A q)).states env w ↔ v = w ∨ v = (env.answer q w).2 := by
  simp [question, states]

end Dialogue

namespace SnapshotStore

variable {σ : Type} {env : Answerer FileRequest.Reply σ} {w v : σ}

/-- Two steps in order pass through what the first one passes through, and through what the second
one does where it is taken. -/
theorem mem_states_step_bind {α β : Type} {x : FileStep α} {f : α → FileStep β}
    (h : v ∈ Dialogue.states env (x >>= f).run w) :
    v ∈ Dialogue.states env x.run w ∨
      ∃ a u, Dialogue.run env x.run w = (.ok a, u) ∧ v ∈ Dialogue.states env (f a).run u := by
  have hparts : v ∈ Dialogue.states env x.run w ∨
      v ∈ Dialogue.states env (ExceptT.bindCont f (Dialogue.run env x.run w).1)
        (Dialogue.run env x.run w).2 := Dialogue.mem_states_bind.1 h
  rcases hparts with hfirst | hsecond
  · exact .inl hfirst
  · rcases hx : Dialogue.run env x.run w with ⟨fault | a, u⟩
    · -- a fault ends the steps, in a state that the first one has ended in
      rw [hx] at hsecond
      have hlast := Dialogue.run_mem_states env x.run w
      rw [hx] at hlast
      rw [List.mem_singleton.1 hsecond]
      exact .inl hlast
    · rw [hx] at hsecond
      exact .inr ⟨a, u, rfl, hsecond⟩

theorem mem_states_step_of_ok {α β : Type} {x : FileStep α} {f : α → FileStep β} {a : α} {u : σ}
    (hx : Dialogue.run env x.run w = (.ok a, u)) (h : v ∈ Dialogue.states env (f a).run u) :
    v ∈ Dialogue.states env (x >>= f).run w := by
  have hlater : v ∈ Dialogue.states env (ExceptT.bindCont f (Dialogue.run env x.run w).1)
      (Dialogue.run env x.run w).2 := by
    rw [hx]
    exact h
  exact Dialogue.mem_states_bind.2 (.inr hlater)

end SnapshotStore

/-! ### Disks that are found -/

namespace Disk

variable {d t : Disk} {s : Snapshot}

theorem IsUsable.put_none (h : t.IsUsable) (name : FileName) : (t.put name none).IsUsable where
  free := h.free
  files other := by
    rw [entries_put]
    split
    · simp
    · exact h.files other
  bare hmissing other := by simp [h.bare hmissing]

theorem IsUsable.put_file (h : t.IsUsable) (hpresent : t.directory = .present) (name : FileName)
    (bytes : ByteArray) : (t.put name (some (.file bytes))).IsUsable where
  free := h.free
  files other := by
    rw [entries_put]
    split
    · simp
    · exact h.files other
  bare hmissing := by cases hpresent.symm.trans hmissing

theorem IsUsable.store (h : t.IsUsable) (name : FileName) (bytes : ByteArray) :
    (t.store name bytes).2.IsUsable := by
  rw [Disk.store]
  split
  · exact h
  · rename_i hpresent _
    exact h.put_file hpresent name bytes
  · exact h

theorem IsUsable.makeDirectory (h : t.IsUsable) : (answer .makeDirectory t).2.IsUsable := by
  rw [h.makeDirectory_eq]
  exact ⟨by simp, h.files, nofun⟩

theorem IsUsable.answer_aside {q : FileRequest} (hq : q.isAside = true) (h : t.IsUsable) :
    (answer q t).2.IsUsable :=
  Disk.answer_aside IsUsable hq h h.makeDirectory (fun _ => h.store _) fun _ => h.put_none _

/-- What may be found once the commit of a snapshot has begun: each side reads as before, or it is
the side of the snapshot, and all of the snapshot is there. -/
structure Between (d : Disk) (s : Snapshot) (t : Disk) : Prop where
  usable : t.IsUsable
  read : ∀ side, t.read (.snapshot side) = d.read (.snapshot side) ∨
    side = s.side ∧ t.read (.snapshot side) = .ok (some s.encode.toUTF8)

theorem IsUsable.between (h : d.IsUsable) (s : Snapshot) : Between d s d :=
  ⟨h, fun _ => .inl rfl⟩

theorem Between.of_read {t' : Disk} (h : Between d s t) (husable : t'.IsUsable)
    (hread : ∀ side, t'.read (.snapshot side) = t.read (.snapshot side)) : Between d s t' where
  usable := husable
  read side := by
    rw [hread side]
    exact h.read side

theorem Between.store_draft {side : Side} (h : Between d s t) (bytes : ByteArray) :
    Between d s (t.store (.draft side) bytes).2 :=
  h.of_read (h.usable.store _ _) fun _ => read_store_draft bytes

theorem Between.answer_aside {q : FileRequest} (hq : q.isAside = true) (h : Between d s t) :
    Between d s (answer q t).2 :=
  h.of_read (h.usable.answer_aside hq) fun _ => read_answer_aside hq h.usable.isCoherent

/-- The draft is all there or it is not there, so the renaming keeps what may be found. -/
theorem Between.move (h : Between d s t)
    (hdraft : t.entries (.draft s.side) = none ∨
      t.entries (.draft s.side) = some (.file s.encode.toUTF8)) :
    Between d s (t.move (.draft s.side) (.snapshot s.side)).2 := by
  rcases hdraft with hnone | hfile
  · have hsame : (t.move (.draft s.side) (.snapshot s.side)).2 = t := by
      rw [Disk.move, hnone]
    rw [hsame]
    exact h
  · have hpresent : t.directory = .present := by
      cases hdirectory : t.directory with
      | present => rfl
      | blocked => exact absurd hdirectory h.usable.free
      | missing => simp [h.usable.bare hdirectory] at hfile
    rw [move_eq hfile (h.usable.files _)]
    refine ⟨(h.usable.put_none _).put_file hpresent _ _, fun side => ?_⟩
    by_cases hside : side = s.side
    · exact .inr ⟨hside, by simp [Disk.read, hpresent, hside]⟩
    · rcases h.read side with hkept | ⟨hown, -⟩
      · refine .inl (Eq.trans ?_ hkept)
        simp [Disk.read, hpresent, hside]
      · exact absurd hown hside

end Disk

/-! ### What a request leaves to be found -/

/-- A disk as it answers, and the disks that may be found if everything stops. -/
structure Medium where
  disk : Disk
  found : Disk → Prop

namespace Medium

variable {d t : Disk} {s : Snapshot} {m v : Medium}

/-- A disk that has been at rest is found as it is. -/
def settled (d : Disk) : Medium := ⟨d, fun t => t = d⟩

/-- What may be found during or after a request. A file that is being written may be found with
anything in it, the first part of what is written included, until it is flushed; from then on it is
found as it was flushed, or not at all. Everything else has been done or has not been done, and it
is not before the directory has been flushed that this would be settled; that is not made use of. -/
def lasting (m : Medium) : FileRequest → Disk → Prop
  | .create name, t | .write name _, t =>
    m.found t ∨ ∃ u bytes, m.found u ∧ t = (u.store name bytes).2
  | .flush name, t =>
    m.found t ∧ (t.entries name = none ∨ t.entries name = m.disk.entries name)
  | q, t => m.found t ∨ ∃ u, m.found u ∧ t = (Disk.answer q u).2

/-- A disk that does what it is asked, and that may be cut off. -/
def surroundings : Answerer FileRequest.Reply Medium where
  answer q m := ((Disk.answer q m.disk).1, ⟨(Disk.answer q m.disk).2, m.lasting q⟩)

/-- Whatever is found is between the disk before and the disk with the snapshot. -/
def Within (m : Medium) (d : Disk) (s : Snapshot) : Prop := ∀ t, m.found t → d.Between s t

theorem within_settled (h : d.IsUsable) (s : Snapshot) : (settled d).Within d s := by
  intro t ht
  rw [ht]
  exact h.between s

theorem Within.answer_aside {q : FileRequest} (hq : q.isAside = true) (h : m.Within d s) :
    (surroundings.answer q m).2.Within d s := by
  intro t ht
  match q, hq with
  | .create (.draft _), _ | .write (.draft _) _, _ =>
    rcases ht with hfound | ⟨u, bytes, hu, rfl⟩
    · exact h t hfound
    · exact (h u hu).store_draft bytes
  | .flush _, _ => exact h t ht.1
  | .read _, _ | .makeDirectory, _ | .remove (.draft _), _ | .openDirectory, _
  | .flushDirectory, _ =>
    rcases ht with hfound | ⟨u, hu, hdone⟩
    · exact h t hfound
    · rw [hdone]
      exact (h u hu).answer_aside rfl

theorem Within.of_answer {q : FileRequest} {r : q.Reply} (hq : q.isAside = true)
    (h : m.Within d s) (hanswer : surroundings.answer q m = (r, v)) : v.Within d s := by
  obtain rfl : (surroundings.answer q m).2 = v := congrArg Prod.snd hanswer
  exact h.answer_aside hq

theorem Within.of_mem_question {q : FileRequest} (hq : q.isAside = true) (h : m.Within d s)
    (hv : v ∈ (Dialogue.question q : FileTalk q.Reply).states surroundings m) : v.Within d s := by
  rcases Dialogue.mem_states_question.1 hv with rfl | rfl
  · exact h
  · exact h.answer_aside hq

/-- The draft of a snapshot is found with all of the snapshot in it, or not at all. -/
def HasDraft (m : Medium) (s : Snapshot) : Prop :=
  ∀ t, m.found t → t.entries (.draft s.side) = none ∨
    t.entries (.draft s.side) = some (.file s.encode.toUTF8)

/-- That is so once the draft has been written and flushed. -/
theorem hasDraft_of_flush {written flushed : Medium} {r : Except StorageFault Unit}
    (hwrite : surroundings.answer (.write (.draft s.side) s.encode.toUTF8) m = (.ok (), written))
    (hflush : surroundings.answer (.flush (.draft s.side)) written = (r, flushed)) :
    flushed.HasDraft s := by
  obtain ⟨hstored, hwritten⟩ := Prod.mk.inj hwrite
  obtain ⟨-, hflushed⟩ := Prod.mk.inj hflush
  have hstore : m.disk.store (.draft s.side) s.encode.toUTF8 = (.ok (), written.disk) :=
    Prod.ext hstored (congrArg Medium.disk hwritten)
  have hfile : written.disk.entries (.draft s.side) = some (.file s.encode.toUTF8) := by
    simp [(Disk.store_eq_ok hstore).2]
  intro t ht
  rw [← hflushed] at ht
  rw [← hfile]
  exact ht.2

/-- A flushed draft may be renamed. -/
theorem Within.of_rename {r : Except StorageFault Unit} (h : m.Within d s) (hdraft : m.HasDraft s)
    (hanswer : surroundings.answer (.rename (.draft s.side) (.snapshot s.side)) m = (r, v)) :
    v.Within d s := by
  obtain rfl : (surroundings.answer (.rename (.draft s.side) (.snapshot s.side)) m).2 = v :=
    congrArg Prod.snd hanswer
  intro t ht
  rcases ht with hfound | ⟨u, hu, rfl⟩
  · exact h t hfound
  · exact (h u hu).move (hdraft u hu)

/-- It takes the place of the snapshot, or it is removed. -/
theorem Within.of_mem_replace (h : m.Within d s) (hdraft : m.HasDraft s)
    (hv : v ∈ Dialogue.states surroundings (SnapshotStore.replace s.side).run m) :
    v.Within d s := by
  rcases Dialogue.mem_states_bind.1 hv with hrename | hrest
  · rcases Dialogue.mem_states_question.1 hrename with rfl | rfl
    · exact h
    · exact h.of_rename hdraft rfl
  · rw [Dialogue.run_question] at hrest
    rcases hanswer : surroundings.answer (.rename (.draft s.side) (.snapshot s.side)) m with
      ⟨fault | _, u⟩
    · rw [hanswer] at hrest
      have hrenamed : u.Within d s := h.of_rename hdraft hanswer
      rcases Dialogue.mem_states_bind.1 hrest with hremove | hlast
      · exact hrenamed.of_mem_question (q := .remove (.draft s.side)) rfl hremove
      · rw [List.mem_singleton.1 hlast]
        exact hrenamed.answer_aside rfl
    · rw [hanswer] at hrest
      rw [List.mem_singleton.1 hrest]
      exact h.of_rename hdraft hanswer

/-- Whenever a commit is cut short, what is found is between the disk before and the disk with the
snapshot. Each request but one is done aside; and that one renames a draft that has been flushed. -/
theorem within_of_mem_steps (hd : d.IsUsable)
    (hm : m ∈ Dialogue.states surroundings (SnapshotStore.steps s).run (settled d)) :
    m.Within d s := by
  have hstart := within_settled hd s
  rcases SnapshotStore.mem_states_step_bind hm with hmake | ⟨_, made, hmake, hm⟩
  · exact hstart.of_mem_question (q := .makeDirectory) rfl hmake
  have hmade : made.Within d s := hstart.of_answer (q := .makeDirectory) rfl hmake
  rcases SnapshotStore.mem_states_step_bind hm with hcreate | ⟨_, created, hcreate, hm⟩
  · exact hmade.of_mem_question (q := .create (.draft s.side)) rfl hcreate
  have hcreated : created.Within d s :=
    hmade.of_answer (q := .create (.draft s.side)) rfl hcreate
  rcases SnapshotStore.mem_states_step_bind hm with hwrite | ⟨_, written, hwrite, hm⟩
  · exact hcreated.of_mem_question (q := .write (.draft s.side) s.encode.toUTF8) rfl hwrite
  have hwritten : written.Within d s :=
    hcreated.of_answer (q := .write (.draft s.side) s.encode.toUTF8) rfl hwrite
  rcases SnapshotStore.mem_states_step_bind hm with hflush | ⟨_, flushed, hflush, hm⟩
  · exact hwritten.of_mem_question (q := .flush (.draft s.side)) rfl hflush
  have hflushed : flushed.Within d s :=
    hwritten.of_answer (q := .flush (.draft s.side)) rfl hflush
  have hdraft : flushed.HasDraft s := hasDraft_of_flush hwrite hflush
  rcases SnapshotStore.mem_states_step_bind hm with hreplace | ⟨_, renamed, hreplace, hm⟩
  · exact hflushed.of_mem_replace hdraft hreplace
  have hrenamed : renamed.Within d s :=
    hflushed.of_rename hdraft (SnapshotStore.replace_run_eq_ok.1 hreplace)
  rcases SnapshotStore.mem_states_step_bind hm with hopen | ⟨_, opened, hopen, hm⟩
  · exact hrenamed.of_mem_question (q := .openDirectory) rfl hopen
  have hopened : opened.Within d s := hrenamed.of_answer (q := .openDirectory) rfl hopen
  exact hopened.of_mem_question (q := .flushDirectory) rfl hm

theorem within_of_mem_states (hd : d.IsUsable)
    (hm : m ∈ (SnapshotStore.commit s).states surroundings (settled d)) : m.Within d s := by
  rcases Dialogue.mem_states_bind.1 hm with hsteps | hlast
  · exact within_of_mem_steps hd hsteps
  · rw [List.mem_singleton.1 hlast]
    exact within_of_mem_steps hd (Dialogue.run_mem_states _ _ _)

/-! ### A disk that is merely left alone -/

theorem found_disk_answer (q : FileRequest) (h : m.found m.disk) :
    (surroundings.answer q m).2.found (surroundings.answer q m).2.disk := by
  cases q with
  | create name => exact .inr ⟨m.disk, .empty, h, rfl⟩
  | write name bytes => exact .inr ⟨m.disk, bytes, h, rfl⟩
  | flush name => exact ⟨h, .inr rfl⟩
  | _ => exact .inr ⟨m.disk, h, rfl⟩

/-- The disk is among those that may be found. -/
theorem found_disk {α : Type} {x : FileTalk α} (h : m.found m.disk)
    (hv : v ∈ x.states surroundings m) : v.found v.disk := by
  induction x generalizing m with
  | done a =>
    rw [List.mem_singleton.1 hv]
    exact h
  | ask q next ih =>
    rcases List.mem_cons.1 hv with rfl | hlater
    · exact h
    · exact ih _ (found_disk_answer q h) hlater

/-- The disk is what an honest file system has made of it. -/
theorem map_disk_states {α : Type} (x : FileTalk α) (m : Medium) :
    (x.states surroundings m).map disk = x.states Disk.honest m.disk := by
  induction x generalizing m with
  | done a => rfl
  | ask q next ih => exact congrArg (List.cons m.disk) (ih _ _)

end Medium

/-! ### Commits that are cut short -/

namespace SnapshotStore

variable {d t : Disk} {s : Snapshot}

/-- A disk that may be found after the commit of a snapshot has been cut short. -/
def CutShort (s : Snapshot) (d t : Disk) : Prop :=
  ∃ m ∈ (commit s).states Medium.surroundings (Medium.settled d), m.found t

/-- If the process stops, and nothing else, what is found is what has been done. -/
theorem cutShort_of_mem_states (h : t ∈ (commit s).states Disk.honest d) : CutShort s d t := by
  have hmap := Medium.map_disk_states (commit s) (Medium.settled d)
  have hmem : t ∈ ((commit s).states Medium.surroundings (Medium.settled d)).map Medium.disk := by
    rw [hmap]
    exact h
  obtain ⟨m, hm, rfl⟩ := List.mem_map.1 hmem
  exact ⟨m, hm, Medium.found_disk rfl hm⟩

/-- It may also stop while the draft is being written, with any first part of it there. -/
theorem cutShort_of_prefix (h : d.IsUsable) (s : Snapshot) (n : Nat) :
    CutShort s d (({ d with directory := .present } : Disk).put (.draft s.side)
      (some (.file (s.encode.toUTF8.extract 0 n)))) := by
  let place : Disk := { d with directory := .present }
  let draft : FileName := .draft s.side
  let made := (Medium.surroundings.answer .makeDirectory (Medium.settled d)).2
  let created := (Medium.surroundings.answer (.create draft) made).2
  let written := (Medium.surroundings.answer (.write draft s.encode.toUTF8) created).2
  have hmade : made.disk = place := congrArg Prod.snd h.makeDirectory_eq
  have hstore : made.disk.store draft .empty = (.ok (), place.put draft (some (.file .empty))) := by
    rw [hmade]
    exact Disk.store_eq (d := place) rfl (h.files draft) _
  have hmake : (Medium.surroundings.answer .makeDirectory (Medium.settled d)).1 = .ok () :=
    congrArg Prod.fst h.makeDirectory_eq
  have hcreate : (Medium.surroundings.answer (.create draft) made).1 = .ok () :=
    congrArg Prod.fst hstore
  have hmem : written ∈ (commit s).states Medium.surroundings (Medium.settled d) := by
    refine Dialogue.mem_states_bind.2 (.inl ?_)
    refine mem_states_step_of_ok (Prod.ext hmake rfl) ?_
    refine mem_states_step_of_ok (Prod.ext hcreate rfl) ?_
    exact Dialogue.mem_states_bind.2 (.inl (Dialogue.mem_states_question.2 (.inr rfl)))
  have hfound : created.found created.disk :=
    Medium.found_disk_answer (.create draft) (Medium.found_disk_answer .makeDirectory rfl)
  refine ⟨written, hmem, .inr ⟨created.disk, s.encode.toUTF8.extract 0 n, hfound, ?_⟩⟩
  have hcreated : created.disk = place.put draft (some (.file .empty)) := congrArg Prod.snd hstore
  rw [hcreated, Disk.store_eq rfl (by simp)]
  exact (place.put_put draft _ _).symm

end SnapshotStore

/-- **What a commit that was cut short has left behind.** Wherever that was, and whatever of the
last requests had reached the disk: each side loads as before, or it is the side of the new snapshot
and loads as all of it does. That is the snapshot, or the refusal of a counter of the other side.
And the next commit goes through, with what is loaded then. -/
theorem commit_cut_short (store : SnapshotStore) {d t : Disk} {s : Snapshot} (hd : d.IsUsable)
    (hcut : SnapshotStore.CutShort s d t) :
    (∀ side, store.contents t side = store.contents d side ∨
        side = s.side ∧ store.contents t side = store.complete s) ∧
      (s.IsLoadable → store.complete s = .ok (some s)) ∧
      (s.updatedAt.IsValid → s.isOwn = false →
        ∃ c, (s.counters.get? c).isSome ∧ c.side ≠ s.side ∧
          store.complete s = .error (.corruptSnapshot (store.path s.side)
            (Snapshot.Fault.strayCounter c).message)) ∧
      ∀ next : Snapshot, next.IsLoadable →
        ∃ t', (SnapshotStore.commit next).run Disk.honest t = (.ok (), t') ∧
          ∀ side, store.contents t' side =
            if side = next.side then .ok (some next) else store.contents t side := by
  obtain ⟨m, hm, ht⟩ := hcut
  have hbetween : d.Between s t := Medium.within_of_mem_states hd hm t ht
  refine ⟨fun side => ?_, store.complete_of_isLoadable, fun htime hown => ?_, fun next hnext => ?_⟩
  · rcases hbetween.read side with hkept | ⟨rfl, hnew⟩
    · exact .inl (congrArg (store.interpret side) hkept)
    · exact .inr ⟨rfl, congrArg (store.interpret s.side) hnew⟩
  · obtain ⟨c, hc, hside, hdecode⟩ := Snapshot.decode_encode_of_stray htime hown
    exact ⟨c, hc, hside, SnapshotStore.interpret_of_error hdecode⟩
  · exact ⟨_, SnapshotStore.commit_run hbetween.usable next, fun side =>
      store.contents_committed hbetween.usable hnext side⟩

/-- The third byte of a draft is the last one that has been written; the previous snapshot is kept,
or the new one is there, and the next commit goes through. -/
theorem commit_cut_short_torn :
    let store : SnapshotStore := ⟨"data"⟩
    let d := Disk.bare.committed .drained
    let s := Snapshot.firstOfRefusingOnce
    let torn := ({ d with directory := .present } : Disk).put (.draft .l1)
      (some (.file (s.encode.toUTF8.extract 0 3)))
    d.IsUsable ∧ SnapshotStore.CutShort s d torn ∧ Snapshot.drained.IsLoadable ∧
      (store.contents torn .l1 = .ok (some .drained) ∨ store.contents torn .l1 = .ok (some s)) ∧
      store.contents torn .l2 = .ok none ∧
      ∃ t', (SnapshotStore.commit .drained).run Disk.honest torn = (.ok (), t') ∧
        store.contents t' .l1 = .ok (some .drained) := by
  intro store d s torn
  have husable : d.IsUsable := Disk.isUsable_bare.committed .drained
  have hcut : SnapshotStore.CutShort s d torn := SnapshotStore.cutShort_of_prefix husable s 3
  have hdrained : Snapshot.drained.IsLoadable := ⟨by decide, Timestamp.isValid_epoch⟩
  have hs : s.IsLoadable := ⟨by decide, Timestamp.isValid_epoch⟩
  have hprevious (side : Side) := store.contents_committed Disk.isUsable_bare hdrained side
  obtain ⟨hsides, hcomplete, -, hnext⟩ := commit_cut_short store husable hcut
  obtain ⟨t', hcommit, hlater⟩ := hnext .drained hdrained
  refine ⟨husable, hcut, hdrained, ?_, ?_, t', hcommit, (hlater .l1).trans (if_pos rfl)⟩
  · rcases hsides .l1 with hkept | ⟨-, hnew⟩
    · exact .inl (hkept.trans ((hprevious .l1).trans (if_pos rfl)))
    · exact .inr (hnew.trans (hcomplete hs))
  · rcases hsides .l2 with hkept | ⟨hside, -⟩
    · exact hkept.trans ((hprevious .l2).trans (if_neg (by decide)))
    · cases hside

/-- A snapshot of the first side with a counter of the second one. -/
def Snapshot.straying : Snapshot where
  side := .l1
  counters := CounterMap.empty.set .sequencerFeeVault ⟨Amount.clamp 1, Amount.clamp 1⟩
  updatedAt := Timestamp.epoch

/-- A new snapshot may be there, all of it, and be refused: it holds a counter of the other side. -/
theorem straying_refused :
    let store : SnapshotStore := ⟨"data"⟩
    ∃ t, SnapshotStore.CutShort .straying .bare t ∧ store.contents .bare .l1 = .ok none ∧
      store.contents t .l1 = .error (.corruptSnapshot (store.path .l1)
        "counter sequencer_fee_vault does not belong here") := by
  intro store
  have hlast := Dialogue.run_mem_states Disk.honest (SnapshotStore.commit .straying) .bare
  rw [SnapshotStore.commit_run Disk.isUsable_bare .straying] at hlast
  refine ⟨_, SnapshotStore.cutShort_of_mem_states hlast, rfl, ?_⟩
  obtain ⟨c, hc, -, hdecode⟩ :=
    Snapshot.decode_encode_of_stray (s := .straying) Timestamp.isValid_epoch (by decide)
  have hcounter : c = .sequencerFeeVault := by
    revert hc
    cases c <;> decide
  subst hcounter
  have hread : (Disk.bare.committed .straying).read (.snapshot .l1) =
      .ok (some Snapshot.straying.encode.toUTF8) :=
    (Disk.isUsable_bare.read_committed .straying .l1).trans (if_pos rfl)
  rw [SnapshotStore.contents, hread]
  exact SnapshotStore.interpret_of_error hdecode

end RollupFees
