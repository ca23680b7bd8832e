import RollupFees.Proofs.Restart.Surroundings

/-!
# Two runs side by side

Two runs that meet the same course of things, from disks with the same counters, go on side by
side: their questions about the ledgers are the same and get the same answers, so the counters on
their disks stay the same. In everything else they may differ, and need not even ask the same.

## Main definitions

* `Couple` : a store and a course of things, with two different elsewheres
* `Couple.Alike` : two scenes that cannot be told apart by their ledgers
* `Couple.Twins` : two dialogues that lead from such scenes to such scenes
* `Couple.StepTwins` : the same for steps, which stop for the same reason
-/

namespace RollupFees

/-- Two runs with the same store that meet the same course of things. -/
structure Couple (κ ρ ρ' : Type) where
  store : SnapshotStore
  course : Course κ
  left : Elsewhere ρ
  right : Elsewhere ρ'

namespace Couple

variable {κ ρ ρ' α α' β β' : Type} {c : Couple κ ρ ρ'} {l₀ l : Ledgers}

/-- The surroundings of the run on the left. -/
def leftEnv (c : Couple κ ρ ρ') : Answerer Query.Answer (Scene κ ρ) :=
  surroundings c.store c.course c.left

/-- The surroundings of the run on the right. -/
def rightEnv (c : Couple κ ρ ρ') : Answerer Query.Answer (Scene κ ρ') :=
  surroundings c.store c.course c.right

/-- Two scenes have come equally far, and their disks keep the same counters. -/
structure Alike (c : Couple κ ρ ρ') (l : Ledgers) (w : Scene κ ρ) (w' : Scene κ ρ') : Prop where
  course : w.course = w'.course
  left : w.disk.Keeps c.store l
  right : w'.disk.Keeps c.store l

/-- Scenes are alike if nothing but the rest has changed. -/
theorem Alike.congr {w v : Scene κ ρ} {w' v' : Scene κ ρ'} (h : c.Alike l w w')
    (hv : v.course = w.course ∧ v.disk = w.disk) (hv' : v'.course = w'.course ∧ v'.disk = w'.disk) :
    c.Alike l v v' where
  course := by rw [hv.1, hv'.1, h.course]
  left := by rw [hv.2]; exact h.left
  right := by rw [hv'.2]; exact h.right

/-! ### Dialogues -/

/-- From like scenes with some counters, two dialogues come to like scenes, and their results are
as they should be for the counters that are kept by then. -/
def Twins (c : Couple κ ρ ρ') (l : Ledgers) (d : Talk α) (d' : Talk β)
    (post : α → β → Ledgers → Prop) : Prop :=
  ∀ w w', c.Alike l w w' → ∃ m, c.Alike m (d.run c.leftEnv w).2 (d'.run c.rightEnv w').2 ∧
    post (d.run c.leftEnv w).1 (d'.run c.rightEnv w').1 m

section Dialogues

variable {d : Talk α} {d' : Talk α'} {post : β → β' → Ledgers → Prop}

theorem twins_done {a : β} {b : β'} (h : post a b l) : c.Twins l (.done a) (.done b) post := by
  intro w w' hw
  exact ⟨l, hw, h⟩

theorem Twins.bind {f : α → Talk β} {g : α' → Talk β'} {mid : α → α' → Ledgers → Prop}
    (hd : c.Twins l d d' mid) (hf : ∀ a b m, mid a b m → c.Twins m (f a) (g b) post) :
    c.Twins l (d.bind f) (d'.bind g) post := by
  intro w w' hw
  obtain ⟨m, hm, hmid⟩ := hd w w' hw
  simp only [Dialogue.run_bind]
  exact hf _ _ m hmid _ _ hm

theorem Twins.mono {mid : α → α' → Ledgers → Prop} {last : α → α' → Ledgers → Prop}
    (hd : c.Twins l d d' mid) (hmono : ∀ a b m, mid a b m → last a b m) :
    c.Twins l d d' last := by
  intro w w' hw
  obtain ⟨m, hm, hmid⟩ := hd w w' hw
  exact ⟨m, hm, hmono _ _ _ hmid⟩

/-- A question that has nothing to do with the ledgers leaves both chains and the disk alone. -/
theorem answer_elsewhere (store : SnapshotStore) (course : Course κ) (elsewhere : Elsewhere ρ)
    {q : Query} (hq : q.isElsewhere = true) (w : Scene κ ρ) :
    ((surroundings store course elsewhere).answer q w).2.course = w.course ∧
      ((surroundings store course elsewhere).answer q w).2.disk = w.disk := by
  cases q with
  | balance | tokenBalance | load | commit => cases hq
  | _ => exact ⟨rfl, rfl⟩

theorem run_elsewhere (store : SnapshotStore) (course : Course κ) (elsewhere : Elsewhere ρ)
    {d : Talk α} (hd : d.Asks fun q => q.isElsewhere = true) (w : Scene κ ρ) :
    (d.run (surroundings store course elsewhere) w).2.course = w.course ∧
      (d.run (surroundings store course elsewhere) w).2.disk = w.disk := by
  induction d generalizing w with
  | done a => exact ⟨rfl, rfl⟩
  | ask q next ih =>
    obtain ⟨hcourse, hdisk⟩ := answer_elsewhere store course elsewhere hd.1 w
    obtain ⟨hcourse', hdisk'⟩ :=
      ih ((surroundings store course elsewhere).answer q w).1 (hd.2 _ trivial)
      ((surroundings store course elsewhere).answer q w).2
    exact ⟨hcourse'.trans hcourse, hdisk'.trans hdisk⟩

/-- Dialogues that have nothing to do with the ledgers are twins, however different they are. -/
theorem Twins.elsewhere {P : α → Prop} {P' : α' → Prop}
    (hd : d.Asks fun q => q.isElsewhere = true) (hd' : d'.Asks fun q => q.isElsewhere = true)
    (hpath : ∀ xs a, d.Path xs a → P a) (hpath' : ∀ xs a, d'.Path xs a → P' a) :
    c.Twins l d d' fun a b m => m = l ∧ P a ∧ P' b := by
  intro w w' hw
  have hlast := hw.congr (run_elsewhere c.store c.course c.left hd w)
    (run_elsewhere c.store c.course c.right hd' w')
  exact ⟨l, hlast, rfl, hpath _ _ (Dialogue.path_run ..), hpath' _ _ (Dialogue.path_run ..)⟩

/-- The clocks of both runs show points in time, but not the same ones. -/
theorem twins_now : c.Twins l (Dialogue.question Query.now) (Dialogue.question Query.now)
    fun t t' m => m = l ∧ Timestamp.IsValid t ∧ Timestamp.IsValid t' := by
  intro w w' hw
  exact ⟨l, ⟨hw.course, hw.left, hw.right⟩, rfl, c.left.clock w.rest, c.right.clock w'.rest⟩

theorem twins_balance (side : Side) (account : Address) :
    c.Twins l (Dialogue.question (Query.balance side account))
      (Dialogue.question (Query.balance side account)) fun r r' m => m = l ∧ r = r' := by
  intro w w' hw
  have hanswer := congrArg (c.course.balance side account) hw.course
  exact ⟨l, ⟨congrArg Prod.snd hanswer, hw.left, hw.right⟩, rfl, congrArg Prod.fst hanswer⟩

theorem twins_tokenBalance (token holder : Address) :
    c.Twins l (Dialogue.question (Query.tokenBalance token holder))
      (Dialogue.question (Query.tokenBalance token holder)) fun r r' m => m = l ∧ r = r' := by
  intro w w' hw
  have hanswer := congrArg (c.course.tokenBalance token holder) hw.course
  exact ⟨l, ⟨congrArg Prod.snd hanswer, hw.left, hw.right⟩, rfl, congrArg Prod.fst hanswer⟩

/-- Two snapshots with the same counters are committed, or both commits fail for the same
reason. -/
theorem twins_commit {s s' : Snapshot} (hs : s.IsLoadable) (hs' : s'.IsLoadable)
    (hside : s'.side = s.side) (hcounters : s'.counters = s.counters) :
    c.Twins l (Dialogue.question (Query.commit s)) (Dialogue.question (Query.commit s'))
      fun r r' m => (∃ f, r = .error f ∧ r' = .error f ∧ m = l) ∨
        r = .ok () ∧ r' = .ok () ∧ m = l.put s.side s.counters := by
  intro w w' hw
  simp only [Dialogue.run_question, leftEnv, rightEnv, surroundings, hside, ← hw.course]
  rcases hrefusal : c.course.refusal s.side w.course with ⟨_ | failure, later⟩
  · refine ⟨l.put s.side s.counters, ⟨rfl, ?_, ?_⟩, .inr ⟨?_, ?_, rfl⟩⟩
    · simp only [SnapshotStore.commit_run hw.left.usable s]
      exact hw.left.committed hs
    · have hkeeps := hw.right.committed hs'
      rw [hside, hcounters] at hkeeps
      simp only [SnapshotStore.commit_run hw.right.usable s']
      exact hkeeps
    · simp only [SnapshotStore.commit_run hw.left.usable s]
    · simp only [SnapshotStore.commit_run hw.right.usable s']
  · exact ⟨l, ⟨rfl, hw.left.litter c.left w.rest, hw.right.litter c.right w'.rest⟩,
      .inl ⟨failure, rfl, rfl, rfl⟩⟩

end Dialogues

/-! ### Steps -/

/-- How two steps come out: with values that are as they should be, or for the same reason and with
the counters that there were before. -/
def Settled (before : Ledgers) (post : α → β → Ledgers → Prop) :
    Except Stop α → Except Stop β → Ledgers → Prop
  | .ok a, .ok b, m => post a b m
  | .error e, .error e', m => e = e' ∧ m = before
  | _, _, _ => False

/-- From like scenes, two steps come to like scenes. If they stop early, both do. -/
def StepTwins (c : Couple κ ρ ρ') (before l : Ledgers) (x : Step α) (x' : Step β)
    (post : α → β → Ledgers → Prop) : Prop :=
  c.Twins l x.run x'.run (Settled before post)

section Steps

open Step

variable {x : Step α} {x' : Step α'} {post : β → β' → Ledgers → Prop}

theorem stepTwins_pure {a : β} {b : β'} (h : post a b l) : c.StepTwins l₀ l (pure a) (pure b) post :=
  twins_done h

theorem stepTwins_fail (f : Failure) : c.StepTwins l l (fail f) (fail f) post :=
  twins_done ⟨rfl, rfl⟩

theorem StepTwins.bind {f : α → Step β} {g : α' → Step β'} {mid : α → α' → Ledgers → Prop}
    (hx : c.StepTwins l₀ l x x' mid) (hf : ∀ a b m, mid a b m → c.StepTwins l₀ m (f a) (g b) post) :
    c.StepTwins l₀ l (x >>= f) (x' >>= g) post := by
  refine Twins.bind hx ?_
  intro r r' m hr
  match r, r', hr with
  | .ok a, .ok b, hr => exact hf a b m hr
  | .error e, .error e', hr => exact twins_done hr

theorem Twins.ask {q q' : Query} {mid : q.Answer → q'.Answer → Ledgers → Prop}
    (h : c.Twins l (Dialogue.question q) (Dialogue.question q') mid) :
    c.StepTwins l₀ l (ask q) (ask q') mid := by
  intro w w' hw
  obtain ⟨m, hm, hmid⟩ := h w w' hw
  exact ⟨m, hm, hmid⟩

/-- A value that both need is the same, or missing for the same reason. -/
theorem Twins.need {talk talk' : Talk (Except Failure α)}
    (h : c.Twins l talk talk' fun r r' m => m = l ∧ r = r') :
    c.StepTwins l l (need talk) (need talk') fun a b m => m = l ∧ a = b := by
  refine Twins.bind h ?_
  intro r r' m hr
  obtain ⟨rfl, rfl⟩ := hr
  cases r with
  | error e => exact twins_done ⟨rfl, rfl⟩
  | ok a => exact twins_done ⟨rfl, rfl⟩

theorem stepTwins_notes (ns ns' : List Notice) :
    c.StepTwins l₀ l (notes ns) (notes ns') fun _ _ m => m = l := by
  have hhonours : ∀ ns, Honours (.asking fun q => q.isElsewhere = true) True (fun _ => True)
      (notes ns) := honours_notes fun _ => rfl
  have hasks : ∀ ns, Dialogue.Asks (fun q => q.isElsewhere = true) (notes ns).run :=
    fun ns => (hhonours ns).asks
  have hpath : ∀ ns xs r, Path (notes ns) xs r → r = .ok () := fun _ _ _ h => (path_notes.1 h).2
  refine Twins.mono (Twins.elsewhere (hasks ns) (hasks ns') (hpath ns) (hpath ns')) ?_
  intro r r' m hr
  obtain ⟨rfl, rfl, rfl⟩ := hr
  rfl

theorem stepTwins_note (n n' : Notice) :
    c.StepTwins l₀ l (note n) (note n') fun _ _ m => m = l := by
  intro w w' hw
  exact ⟨l, ⟨hw.course, hw.left, hw.right⟩, rfl⟩

/-- Two commits of the same counters succeed, or fail for the same reason. -/
theorem stepTwins_commit {s s' : Snapshot} (hs : s.IsLoadable) (hs' : s'.IsLoadable)
    (hside : s'.side = s.side) (hcounters : s'.counters = s.counters) :
    c.StepTwins l l (commit s) (commit s') fun _ _ m => m = l.put s.side s.counters := by
  refine StepTwins.bind (twins_commit hs hs' hside hcounters).ask ?_
  intro r r' m hr
  rcases hr with ⟨f, rfl, rfl, rfl⟩ | ⟨rfl, rfl, rfl⟩
  · refine StepTwins.bind (stepTwins_note _ _) ?_
    intro _ _ m hm
    subst hm
    exact stepTwins_fail f
  · exact stepTwins_pure rfl

end Steps

end Couple
end RollupFees
