import RollupFees.Proofs.Restart.Steps

/-!
# Restarts are not observed in the ledgers

A service that is stopped and started again between ticks, as often as one likes, keeps the same
ledgers as one that goes on without a break. What makes this so is that at every boundary between
ticks the billing shows what a start would load.

## Main definitions

* `Event`, `Boundary` : what happens, and what there is to see after it
* `boundaries` : what there is to see of a run
* `LedgerView`, `ledgerViews` : what there is to see of the ledgers after each tick

## Main results

* `ledgerViews_unchanged_by_restarts` : the run with restarts and the run without
-/

namespace RollupFees

/-- What happens to a service: a tick, or a restart. -/
inductive Event
  | tick
  | restart
deriving DecidableEq

/-- What there is to see after an event: the billing, what a load of each side would come to, and
the report if there was a tick. -/
structure Boundary where
  billing : Billing
  loaded : Side → Except Failure (Option Snapshot)
  report : Option TickReport

/-- What there is to see of a run. A tick that breaks down, and a start that fails, end it. -/
def boundaries {κ ρ : Type} (store : SnapshotStore) (course : Course κ) (elsewhere : Elsewhere ρ)
    (setup : Setup) : List Event → Service → Scene κ ρ → List Boundary
  | [], _, _ => []
  | .restart :: rest, _, w =>
    match started (surroundings store course elsewhere) setup w with
    | (.ok s, w') =>
      ⟨s.billing, fun side => ((store.load side).run Disk.honest w'.disk).1, none⟩ ::
        boundaries store course elsewhere setup rest s w'
    | (.error _, _) => []
  | .tick :: rest, s, w =>
    match (tick setup s).run (surroundings store course elsewhere) w with
    | (.ok (after, report), w') =>
      ⟨after.billing, fun side => ((store.load side).run Disk.honest w'.disk).1, some report⟩ ::
        boundaries store course elsewhere setup rest after w'
    | (.error _, _) => []

/-- What there is to see of the ledgers after a tick: the stored counters of each side, the totals,
and how the reconciliation of each side ended. -/
structure LedgerView where
  stored : Side → Except Failure (Option (CounterMap CounterState))
  totals : Counter → Amount
  outcomes : Side → Option StepStatus

/-- What there is to see of the ledgers at the boundary after a tick. -/
def Boundary.ledgerView (b : Boundary) (report : TickReport) : LedgerView where
  stored side := (b.loaded side).map (Option.map (·.counters))
  totals := b.billing.cumulative
  outcomes side := report.status? side.step

/-- What there is to see of the ledgers after each tick. -/
def ledgerViews (bs : List Boundary) : List LedgerView :=
  bs.filterMap fun b => b.report.map b.ledgerView

@[simp] theorem ledgerViews_nil : ledgerViews [] = [] := rfl

@[simp] theorem ledgerViews_cons_none (billing : Billing)
    (loaded : Side → Except Failure (Option Snapshot)) (bs : List Boundary) :
    ledgerViews (⟨billing, loaded, none⟩ :: bs) = ledgerViews bs := rfl

@[simp] theorem ledgerViews_cons_some (billing : Billing)
    (loaded : Side → Except Failure (Option Snapshot)) (report : TickReport) (bs : List Boundary) :
    ledgerViews (⟨billing, loaded, some report⟩ :: bs) =
      Boundary.ledgerView ⟨billing, loaded, some report⟩ report :: ledgerViews bs := rfl

/-- The billing shows what a load of each side would come to. A side is not committed exactly if
there is no snapshot of it, or none with counters. -/
def Boundary.IsFaithful (b : Boundary) : Prop :=
  ∀ side, ∃ kept, b.loaded side = .ok kept ∧
    b.billing.committed side = (kept.map (·.counters)).filter fun m => !m.isEmpty

namespace Couple

variable {κ ρ ρ' : Type} {c : Couple κ ρ ρ'} {l : Ledgers} {setup : Setup}

/-! ### Ticks -/

/-- Steps that are not broken off lead from like scenes to like scenes. -/
theorem advanceAll_twins {number number' : Nat} (steps : List TickStep) :
    ∀ {l p p' w w' last last' v v'}, c.Alike l w w' → p.Matches l p' →
      (Progress.advanceAll setup number p steps).run c.leftEnv w = (.ok last, v) →
      (Progress.advanceAll setup number' p' steps).run c.rightEnv w' = (.ok last', v') →
      ∃ m, c.Alike m v v' ∧ last.Matches m last' := by
  induction steps with
  | nil =>
    intro l p p' w w' last last' v v' hw hp h h'
    cases h
    cases h'
    exact ⟨l, hw, hp⟩
  | cons step rest ih =>
    intro l p p' w w' last last' v v' hw hp h h'
    have htwins : c.Twins l (Progress.advance setup number p step)
        (Progress.advance setup number' p' step)
        fun r r' m => ∀ q q', r = .ok q → r' = .ok q' → q.Matches m q' := twins_advance hp step
    obtain ⟨m, hm, hmatches⟩ := htwins w w' hw
    simp only [Progress.advanceAll, Dialogue.run_bind] at h h'
    rcases hd : (Progress.advance setup number p step).run c.leftEnv w with ⟨_ | next, u⟩
    · rw [hd] at h
      cases h
    · rcases hd' : (Progress.advance setup number' p' step).run c.rightEnv w' with ⟨_ | next', u'⟩
      · rw [hd'] at h'
        cases h'
      · rw [hd] at h hm hmatches
        rw [hd'] at h' hm hmatches
        exact ih hm (hmatches next next' rfl rfl) h h'

/-- A log line and a look at the clock leave scenes alike. -/
theorem Alike.answer {w : Scene κ ρ} {w' : Scene κ ρ'} (h : c.Alike l w w') {q q' : Query}
    (hq : q.isElsewhere = true) (hq' : q'.isElsewhere = true) :
    c.Alike l (c.leftEnv.answer q w).2 (c.rightEnv.answer q' w').2 :=
  h.congr (answer_elsewhere c.store c.course c.left hq w)
    (answer_elsewhere c.store c.course c.right hq' w')

/-- Ticks that do not break down lead from like scenes to like scenes, and both reconciliations end
alike. -/
theorem tick_twins {s s' after after' : Service} {report report' : TickReport}
    {w v : Scene κ ρ} {w' v' : Scene κ ρ'} (hw : c.Alike l w w')
    (hs : s.billing.Shows l) (hs' : s'.billing.Shows l)
    (h : (tick setup s).run c.leftEnv w = (.ok (after, report), v))
    (h' : (tick setup s').run c.rightEnv w' = (.ok (after', report'), v')) :
    ∃ m, c.Alike m v v' ∧ after.billing.Shows m ∧ after'.billing.Shows m ∧
      ∀ side : Side, report.status? side.step = report'.status? side.step := by
  obtain ⟨last, u, n, hlast, rfl, hsteps, -, rfl⟩ := tick_run_ok c.leftEnv s w h
  obtain ⟨last', u', n', hlast', rfl, hsteps', -, rfl⟩ := tick_run_ok c.rightEnv s' w' h'
  have hfirst : s.nextTick.Matches l s'.nextTick := ⟨hs, hs', fun _ => rfl⟩
  obtain ⟨m, hm, hmatches⟩ := advanceAll_twins TickStep.all (hw.answer rfl rfl) hfirst hlast hlast'
  refine ⟨m, (hm.answer rfl rfl).answer rfl rfl, hmatches.left, hmatches.right, ?_⟩
  intro side
  rw [TickReport.status?, TickReport.status?, hsteps, hsteps']
  exact hmatches.statuses side

/-! ### Starts -/

/-- A start from a disk that keeps counters succeeds, and shows them. -/
theorem started_eq {store : SnapshotStore} (course : Course κ) (elsewhere : Elsewhere ρ)
    (setup : Setup) {w : Scene κ ρ} (hw : w.disk.Keeps store l) :
    ∃ s v, started (surroundings store course elsewhere) setup w = (.ok s, v) ∧
      s.billing.Shows l ∧ v.course = w.course ∧ v.disk = w.disk := by
  obtain ⟨l1, hl1, hcounters1⟩ := hw.contents .l1
  obtain ⟨l2, hl2, hcounters2⟩ := hw.contents .l2
  have h₁ : ((surroundings store course elsewhere).answer (.load .l1) w).1 = .ok l1 := hl1
  have h₂ : ((surroundings store course elsewhere).answer (.load .l2) w).1 = .ok l2 := hl2
  refine ⟨_, _, started_of_loaded setup h₁ h₂, ?_, rfl, rfl⟩
  intro side
  cases side with
  | l1 => rw [← hcounters1]; rfl
  | l2 => rw [← hcounters2]; rfl

/-! ### Runs -/

/-- A billing that shows what a disk keeps is faithful to it. -/
theorem isFaithful_of_shows {store : SnapshotStore} {d : Disk} {b : Billing} (hb : b.Shows l)
    (hd : d.Keeps store l) (report : Option TickReport) :
    Boundary.IsFaithful ⟨b, fun side => ((store.load side).run Disk.honest d).1, report⟩ := by
  intro side
  obtain ⟨kept, hkept, hcounters⟩ := hd.contents side
  refine ⟨kept, hkept, ?_⟩
  rw [hcounters, Billing.committed, hb side]
  cases l side with
  | none => simp [CounterMap.isEmpty_iff]
  | some m =>
    rw [Option.getD_some, Option.filter_some]
    by_cases hm : m.isEmpty = true
    · simp [hm]
    · simp [hm]

/-- Boundaries of ticks with the same outcomes, at which the same counters are shown and kept, look
the same. -/
theorem ledgerView_eq {store : SnapshotStore} {d d' : Disk} {b b' : Billing}
    {report report' : TickReport} (hb : b.Shows l) (hb' : b'.Shows l) (hd : d.Keeps store l)
    (hd' : d'.Keeps store l)
    (hreport : ∀ side : Side, report.status? side.step = report'.status? side.step) :
    Boundary.ledgerView ⟨b, fun side => ((store.load side).run Disk.honest d).1, some report⟩
        report =
      Boundary.ledgerView ⟨b', fun side => ((store.load side).run Disk.honest d').1, some report'⟩
        report' := by
  have hstored : ∀ {d : Disk}, d.Keeps store l → ∀ side,
      (store.contents d side).map (Option.map (·.counters)) = .ok (l side) := by
    intro d hd side
    obtain ⟨kept, hkept, hcounters⟩ := hd.contents side
    rw [hkept, ← hcounters]
    rfl
  have htotals : b.cumulative = b'.cumulative := by
    funext counter
    rw [Billing.cumulative, Billing.cumulative, hb, hb']
  have hstored' : (fun side => (store.contents d side).map (Option.map (·.counters))) =
      fun side => (store.contents d' side).map (Option.map (·.counters)) := by
    funext side
    rw [hstored hd, hstored hd']
  have houtcomes : (fun side : Side => report.status? side.step) =
      fun side : Side => report'.status? side.step := funext hreport
  simp only [Boundary.ledgerView, SnapshotStore.load_run, hstored', htotals, houtcomes]

section Runs

variable {store : SnapshotStore} {course : Course κ} {elsewhere : Elsewhere ρ}

/-- A run that starts with a restart goes on from a billing that shows what is on the disk. -/
theorem boundaries_restart (events : List Event) (s : Service) {w : Scene κ ρ}
    (hw : w.disk.Keeps store l) :
    ∃ (next : Service) (v : Scene κ ρ), next.billing.Shows l ∧ v.disk.Keeps store l ∧
      v.course = w.course ∧
      boundaries store course elsewhere setup (.restart :: events) s w =
        ⟨next.billing, fun side => ((store.load side).run Disk.honest v.disk).1, none⟩ ::
          boundaries store course elsewhere setup events next v := by
  obtain ⟨next, v, hstart, hnext, hcourse, hdisk⟩ := started_eq course elsewhere setup hw
  refine ⟨next, v, hnext, ?_, hcourse, ?_⟩
  · rw [hdisk]
    exact hw
  · simp only [boundaries, hstart]

/-- What holds of a run that has ended, and of one more boundary at which the billing is faithful to
the disk, holds of every run. Starts do not fail: a run ends early only with a tick that breaks
down. -/
theorem boundaries_induction {P : List Event → List Boundary → Prop} (ended : P [] [])
    (brokenDown : ∀ rest, ¬ setup.controller.IsScalable → P (.tick :: rest) [])
    (more : ∀ event rest b bs, b.IsFaithful → (b.report.isSome = true ↔ event = .tick) →
      P rest bs → P (event :: rest) (b :: bs)) (events : List Event) :
    ∀ {l s} {w : Scene κ ρ}, w.disk.Keeps store l → s.billing.Shows l →
      P events (boundaries store course elsewhere setup events s w) := by
  induction events with
  | nil =>
    intro l s w _ _
    exact ended
  | cons event rest ih =>
    intro l s w hw hs
    cases event with
    | restart =>
      obtain ⟨next, v, hnext, hv, -, hrun⟩ := boundaries_restart rest s hw
      rw [hrun]
      exact more _ _ _ _ (isFaithful_of_shows hnext hv none) (by simp) (ih hv hnext)
    | tick =>
      rcases htick : (tick setup s).run (surroundings store course elsewhere) w with
        ⟨b | ⟨after, report⟩, v⟩
      · simp only [boundaries, htick]
        refine brokenDown rest ?_
        intro hsetup
        obtain ⟨_, _, _, hok⟩ := tick_run_isOk hsetup (surroundings store course elsewhere) s w
        rw [hok] at htick
        cases htick
      · -- the run is its own twin
        obtain ⟨m, hm, hafter, -, -⟩ := tick_twins (c := ⟨store, course, elsewhere, elsewhere⟩)
          ⟨rfl, hw, hw⟩ hs hs htick htick
        simp only [boundaries, htick]
        exact more _ _ _ _ (isFaithful_of_shows hafter hm.left _) (by simp) (ih hm.left hafter)

variable {s : Service} {w : Scene κ ρ}

/-- At every boundary of a run the billing is faithful to the disk. -/
theorem isFaithful_of_mem_boundaries (events : List Event) (hw : w.disk.Keeps store l)
    (hs : s.billing.Shows l) :
    ∀ b ∈ boundaries store course elsewhere setup events s w, b.IsFaithful := by
  refine boundaries_induction (P := fun _ bs => ∀ b ∈ bs, b.IsFaithful) ?_ ?_ ?_ events hw hs
  · intro b hb
    cases hb
  · intro rest _ b hb
    cases hb
  · intro event rest b bs hb _ ih
    exact List.forall_mem_cons.2 ⟨hb, ih⟩

/-- A start does not fail: where a run ends early, it is a tick that has broken down. -/
theorem getElem?_length_boundaries (events : List Event) (hw : w.disk.Keeps store l)
    (hs : s.billing.Shows l) :
    events[(boundaries store course elsewhere setup events s w).length]? ≠ some .restart := by
  refine boundaries_induction (P := fun es bs => es[bs.length]? ≠ some .restart) ?_ ?_ ?_ events
    hw hs
  · simp
  · simp
  · intro event rest b bs _ _ ih
    rw [List.length_cons, List.getElem?_cons_succ]
    exact ih

/-- A run whose ticks cannot break down does not end early. -/
theorem length_boundaries (hsetup : setup.controller.IsScalable) (events : List Event)
    (hw : w.disk.Keeps store l) (hs : s.billing.Shows l) :
    (boundaries store course elsewhere setup events s w).length = events.length := by
  refine boundaries_induction (P := fun es bs => bs.length = es.length) rfl ?_ ?_ events hw hs
  · intro rest hbroken
    exact absurd hsetup hbroken
  · intro event rest b bs _ _ ih
    rw [List.length_cons, List.length_cons, ih]

/-- A run that does not end early shows the ledgers once for every tick. -/
theorem length_ledgerViews (events : List Event) (hw : w.disk.Keeps store l)
    (hs : s.billing.Shows l) :
    (boundaries store course elsewhere setup events s w).length = events.length →
      (ledgerViews (boundaries store course elsewhere setup events s w)).length =
        (events.filter (· = .tick)).length := by
  refine boundaries_induction (P := fun es bs => bs.length = es.length →
    (ledgerViews bs).length = (es.filter (· = .tick)).length) (fun _ => rfl) ?_ ?_ events hw hs
  · intro rest _ h
    cases h
  · intro event rest b bs _ hreport ih h
    have hrest := ih (Nat.add_right_cancel h)
    obtain ⟨billing, loaded, report⟩ := b
    cases event with
    | restart =>
      cases report with
      | none => simpa using hrest
      | some report => simp at hreport
    | tick =>
      cases report with
      | none => simp at hreport
      | some report => simpa using hrest

end Runs

/-- The ledgers look the same in a run with restarts and in one without, as far as both go. -/
theorem ledgerViews_comparable (events : List Event) :
    ∀ {l s s' w w'}, c.Alike l w w' → s.billing.Shows l → s'.billing.Shows l →
      ledgerViews (boundaries c.store c.course c.left setup events s w) <+:
          ledgerViews (boundaries c.store c.course c.right setup (events.filter (· = .tick)) s' w') ∨
        ledgerViews (boundaries c.store c.course c.right setup (events.filter (· = .tick)) s' w') <+:
          ledgerViews (boundaries c.store c.course c.left setup events s w) := by
  induction events with
  | nil =>
    intro l s s' w w' _ _ _
    exact .inl (List.nil_prefix)
  | cons event rest ih =>
    intro l s s' w w' hw hs hs'
    cases event with
    | restart =>
      obtain ⟨next, v, hnext, hv, hcourse, hrun⟩ := boundaries_restart rest s hw.left
      have hrest := ih ⟨hcourse.trans hw.course, hv, hw.right⟩ hnext hs'
      rw [hrun]
      simpa using hrest
    | tick =>
      rcases htick : (tick setup s).run c.leftEnv w with ⟨_ | ⟨after, report⟩, v⟩
      · rw [leftEnv] at htick
        simp [boundaries, htick]
      · rcases htick' : (tick setup s').run c.rightEnv w' with ⟨_ | ⟨after', report'⟩, v'⟩
        · rw [rightEnv] at htick'
          simp [boundaries, htick']
        · obtain ⟨m, hm, hafter, hafter', hreport⟩ := tick_twins hw hs hs' htick htick'
          have hview := ledgerView_eq hafter hafter' hm.left hm.right hreport
          have hrest := ih hm hafter hafter'
          rw [leftEnv] at htick
          rw [rightEnv] at htick'
          simpa [boundaries, htick, htick', hview, List.cons_prefix_cons] using hrest

end Couple

/-- **Restarts are not observed in the ledgers.** From a disk with loadable snapshots, or without
any, a service is restarted between ticks wherever one likes. At every boundary its billing shows
what a load would come to; every start succeeds; and after each tick the stored counters, the
totals and the outcomes of both reconciliations are those of the service that goes on without a
restart, whatever else is different for the two. Only a tick that breaks down can end either run,
and none does if every limit can be scaled. -/
theorem ledgerViews_unchanged_by_restarts {κ ρ ρ' : Type} (c : Couple κ ρ ρ') (setup : Setup)
    {d : Disk} (hd : d.IsUsable) (hload : ∀ side, ∃ kept, c.store.contents d side = .ok kept)
    (k : κ) (r : ρ) (r' : ρ') (events : List Event) :
    let restarted := boundaries c.store c.course c.left setup (.restart :: events) Service.fresh
      ⟨k, d, r⟩
    let unbroken := boundaries c.store c.course c.right setup
      (.restart :: events.filter (· = .tick)) Service.fresh ⟨k, d, r'⟩
    (∀ b ∈ restarted ++ unbroken, b.IsFaithful) ∧
      (Event.restart :: events)[restarted.length]? ≠ some .restart ∧
      (ledgerViews restarted <+: ledgerViews unbroken ∨
        ledgerViews unbroken <+: ledgerViews restarted) ∧
      (restarted.length = events.length + 1 →
        unbroken.length = (events.filter (· = .tick)).length + 1 →
        ledgerViews restarted = ledgerViews unbroken) ∧
      (setup.controller.IsScalable →
        restarted.length = events.length + 1 ∧
          unbroken.length = (events.filter (· = .tick)).length + 1 ∧
          ledgerViews restarted = ledgerViews unbroken) := by
  intro restarted unbroken
  obtain ⟨l, hkeeps⟩ := Disk.exists_keeps hd hload
  obtain ⟨s, v, hs, hv, hcourse, hrestarted⟩ : ∃ (s : Service) (v : Scene κ ρ),
      s.billing.Shows l ∧ v.disk.Keeps c.store l ∧ v.course = k ∧ restarted =
        ⟨s.billing, fun side => ((c.store.load side).run Disk.honest v.disk).1, none⟩ ::
          boundaries c.store c.course c.left setup events s v :=
    Couple.boundaries_restart events Service.fresh (w := ⟨k, d, r⟩) hkeeps
  obtain ⟨s', v', hs', hv', hcourse', hunbroken⟩ : ∃ (s' : Service) (v' : Scene κ ρ'),
      s'.billing.Shows l ∧ v'.disk.Keeps c.store l ∧ v'.course = k ∧ unbroken =
        ⟨s'.billing, fun side => ((c.store.load side).run Disk.honest v'.disk).1, none⟩ ::
          boundaries c.store c.course c.right setup (events.filter (· = .tick)) s' v' :=
    Couple.boundaries_restart (events.filter (· = .tick)) Service.fresh (w := ⟨k, d, r'⟩) hkeeps
  have hviews : ledgerViews restarted <+: ledgerViews unbroken ∨
      ledgerViews unbroken <+: ledgerViews restarted := by
    rw [hrestarted, hunbroken]
    exact Couple.ledgerViews_comparable events ⟨hcourse.trans hcourse'.symm, hv, hv'⟩ hs hs'
  have hequal : restarted.length = events.length + 1 →
      unbroken.length = (events.filter (· = .tick)).length + 1 →
      ledgerViews restarted = ledgerViews unbroken := by
    intro hlength hlength'
    rw [hrestarted, List.length_cons, Nat.add_right_cancel_iff] at hlength
    rw [hunbroken, List.length_cons, Nat.add_right_cancel_iff] at hlength'
    have hcount : (ledgerViews restarted).length = (events.filter (· = .tick)).length := by
      rw [hrestarted]
      exact Couple.length_ledgerViews events hv hs hlength
    have hcount' : (ledgerViews unbroken).length = (events.filter (· = .tick)).length := by
      have hticks := Couple.length_ledgerViews _ hv' hs' hlength'
      rw [List.filter_filter] at hticks
      rw [hunbroken, ledgerViews_cons_none, hticks]
      simp only [Bool.and_self]
    rcases hviews with hle | hle
    · exact hle.eq_of_length (hcount.trans hcount'.symm)
    · exact (hle.eq_of_length (hcount'.trans hcount.symm)).symm
  refine ⟨?_, ?_, hviews, hequal, ?_⟩
  · intro b hb
    rw [hrestarted, hunbroken] at hb
    rcases List.mem_append.1 hb with hb | hb
    · rcases List.mem_cons.1 hb with rfl | hb
      · exact Couple.isFaithful_of_shows hs hv none
      · exact Couple.isFaithful_of_mem_boundaries events hv hs b hb
    · rcases List.mem_cons.1 hb with rfl | hb
      · exact Couple.isFaithful_of_shows hs' hv' none
      · exact Couple.isFaithful_of_mem_boundaries _ hv' hs' b hb
  · rw [hrestarted, List.length_cons, List.getElem?_cons_succ]
    exact Couple.getElem?_length_boundaries events hv hs
  · intro hsetup
    have hlength : restarted.length = events.length + 1 := by
      rw [hrestarted, List.length_cons, Couple.length_boundaries hsetup events hv hs]
    have hlength' : unbroken.length = (events.filter (· = .tick)).length + 1 := by
      rw [hunbroken, List.length_cons, Couple.length_boundaries hsetup _ hv' hs']
    exact ⟨hlength, hlength', hequal hlength hlength'⟩

/-- A course in which every balance falls by one with every reading, and the second commit of the
first side is refused. The state counts readings and commits. -/
def Course.falling : Course Nat where
  balance _ _ k := (.ok (Amount.clamp (100 - k)), k + 1)
  tokenBalance _ _ k := (.ok 0, k + 1)
  refusal _ k := (if k = 14 then some (.storage (.stated "disk full")) else none, k + 1)

/-- Nothing else can be read, and the clock stands still. -/
def Elsewhere.still {t : Timestamp} (ht : t.IsValid) : Elsewhere Unit where
  others := ⟨fun
    | .now, u => (t, u)
    | q, u => (q.refused, u)⟩
  litter _ d := d
  clock _ := ht
  isUsable_litter _ _ hd := hd
  read_litter _ _ _ := rfl

/-- Two runs of the falling course. -/
def Couple.falling : Couple Nat Unit Unit :=
  ⟨⟨"data"⟩, Course.falling, .still Timestamp.isValid_epoch, .still Timestamp.isValid_epoch⟩

/-- What the refused commit would have counted is counted by the tick after a restart. -/
theorem totals_falling :
    Disk.bare.IsUsable ∧
      (∀ side, ∃ kept, Couple.falling.store.contents Disk.bare side = .ok kept) ∧
      (ledgerViews (boundaries Couple.falling.store Couple.falling.course Couple.falling.left
          Setup.plain [.restart, .tick, .tick, .restart, .tick] Service.fresh
          ⟨0, Disk.bare, ()⟩)).map (fun v => (v.totals .sequencer).toNat) = [96, 96, 115] := by
  have hload : ∀ side, ∃ kept, Couple.falling.store.contents Disk.bare side = .ok kept :=
    fun _ => ⟨none, rfl⟩
  refine ⟨Disk.isUsable_bare, hload, ?_⟩
  obtain ⟨-, -, -, -, hscalable⟩ := ledgerViews_unchanged_by_restarts Couple.falling Setup.plain
    Disk.isUsable_bare hload 0 () () [.tick, .tick, .restart, .tick]
  rw [(hscalable Setup.isScalable_plain).2.2]
  decide +kernel

end RollupFees
