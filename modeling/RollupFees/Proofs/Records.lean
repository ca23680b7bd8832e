import Mathlib.Data.List.Nodup
import RollupFees.Proofs.History

/-!
# The records of a tick

A tick that comes to its end has taken all of its steps, one after the other, and each of them met
the service that the one before left. So a record of the tick can be singled out: what came before
led to the service it met, and what came after started from the service it left. A tick that breaks
down is recorded as far as it went; what every step preserves holds there as well.

## Main definitions

* `Progress.Leads` : records lead from one point of a tick to another, step by step
* `TickRecord.Took` : a step of a tick with what came before and after it

## Main results

* `Progress.leads_of_advanceAll` : the records of a tick lead from its start to its end
* `TickRecord.took_of_mem` : every record of a tick can be singled out
* `forall_mem_history` : what every step preserves holds of the services that a run has met
-/

namespace RollupFees

variable {σ : Type} {setup : Setup}

namespace Progress

variable {number : Nat} {p q last : Progress} {rs rs' : List StepRecord}

/-- The records lead from one point of a tick to another. -/
inductive Leads (setup : Setup) (number : Nat) : Progress → List StepRecord → Progress → Prop
  | here (p : Progress) : Leads setup number p [] p
  | step {p next last : Progress} {step : TickStep} {xs : List (Exchange Query.Answer)}
      {rs : List StepRecord} (first : Advance setup number p step xs (.ok next))
      (rest : Leads setup number next rs last) :
      Leads setup number p (⟨step, p.service, xs, next.lastStatus⟩ :: rs) last

/-- The records of a tick that comes to its end lead there, and are those of all steps in order. -/
theorem leads_of_advanceAll (env : Answerer Query.Answer σ) :
    ∀ (steps : List TickStep) (p : Progress) (w : σ) {last : Progress},
      ((advanceAll setup number p steps).run env w).1 = .ok last →
      Leads setup number p (p.records env setup number steps w) last ∧
        (p.records env setup number steps w).map StepRecord.step = steps := by
  intro steps
  induction steps with
  | nil =>
    intro p w last hrun
    obtain rfl : p = last := by simpa [advanceAll] using hrun
    exact ⟨.here p, rfl⟩
  | cons step rest ih =>
    intro p w last hrun
    have hpath := advance_of_path (Dialogue.path_run env (advance setup number p step) w)
    simp only [advanceAll, Dialogue.run_bind] at hrun
    simp only [records]
    rcases hd : (advance setup number p step).run env w with ⟨_ | next, after⟩ <;>
      rw [hd] at hrun hpath
    · cases hrun
    · obtain ⟨hleads, hsteps⟩ := ih next after hrun
      exact ⟨.step hpath hleads, by simp [hsteps]⟩

/-- What came before a record led to the service it met, and what came after it started from the
service it left. -/
theorem Leads.split {x : StepRecord} (h : Leads setup number p (rs ++ x :: rs') last) :
    ∃ q next, Leads setup number p rs q ∧
      Advance setup number q x.step x.exchanges (.ok next) ∧ x.before = q.service ∧
      x.status = next.lastStatus ∧ Leads setup number next rs' last := by
  induction rs generalizing p with
  | nil =>
    cases h with
    | step first rest => exact ⟨p, _, .here p, first, rfl, rfl, rest⟩
  | cons y rs ih =>
    cases h with
    | step first rest =>
      obtain ⟨q, next, hbefore, hx, hmet, hstatus, hafter⟩ := ih rest
      exact ⟨q, next, .step first hbefore, hx, hmet, hstatus, hafter⟩

/-- What every step of some kinds preserves is preserved by records of such steps. -/
theorem Leads.preserves {I : Progress → Prop} {P : TickStep → Prop}
    (hstep : ∀ p step xs next, P step → I p → Advance setup number p step xs (.ok next) → I next)
    (h : Leads setup number p rs last) (hrs : ∀ x ∈ rs, P x.step) (hp : I p) : I last := by
  induction h with
  | here p => exact hp
  | step first rest ih =>
    obtain ⟨hfirst, hrest⟩ := List.forall_mem_cons.1 hrs
    exact ih hrest (hstep _ _ _ _ hfirst hp first)

/-- A step adds one entry to the report. -/
theorem Advance.exists_steps {step : TickStep} {xs : List (Exchange Query.Answer)}
    {next : Progress} (h : Advance setup number p step xs (.ok next)) :
    ∃ status, next.steps = p.steps ++ [(step, status)] ∧ next.lastStatus = some status := by
  generalize hr : (Except.ok next : Except Breakdown Progress) = r at h
  cases h with
  | leftOut | completed | interrupted | failed =>
    obtain rfl := Except.ok.inj hr
    exact ⟨_, rfl, by simp [report, lastStatus]⟩
  | broken => cases hr

/-- The report has one entry for every record. -/
theorem Leads.map_steps (h : Leads setup number p rs last) :
    last.steps.map (fun s => (s.1, some s.2)) =
      p.steps.map (fun s => (s.1, some s.2)) ++ rs.map fun x => (x.step, x.status) := by
  induction h with
  | here p => simp
  | step first rest ih =>
    obtain ⟨status, hsteps, hstatus⟩ := first.exists_steps
    simp [ih, hsteps, hstatus]

/-- What every step preserves holds of the service that a record has met, be it the one at which
the tick broke down. -/
theorem forall_mem_records (env : Answerer Query.Answer σ) {I : Service → Prop}
    (hstep : ∀ p step xs next, I p.service → Advance setup number p step xs (.ok next) →
      I next.service) :
    ∀ (steps : List TickStep) (p : Progress) (w : σ), I p.service →
      ∀ x ∈ p.records env setup number steps w, I x.before := by
  intro steps
  induction steps with
  | nil => simp [records]
  | cons step rest ih =>
    intro p w hp x hx
    have hpath := advance_of_path (Dialogue.path_run env (advance setup number p step) w)
    simp only [records] at hx
    rcases hd : (advance setup number p step).run env w with ⟨b | next, after⟩ <;>
      rw [hd] at hx hpath
    · obtain rfl := List.mem_singleton.1 hx
      exact hp
    · rcases List.mem_cons.1 hx with rfl | hx
      · exact hp
      · exact ih next after (hstep _ _ _ _ hp hpath) x hx

end Progress

namespace TickReport

/-- Where the report has one entry for every record, it tells of a step what the record tells. -/
theorem status?_eq {report : TickReport} {earlier later : List StepRecord} {x : StepRecord}
    (h : report.steps.map (fun s => (s.1, some s.2)) =
      (earlier ++ x :: later).map fun y => (y.step, y.status))
    (hfirst : ∀ y ∈ earlier, y.step ≠ x.step) : report.status? x.step = x.status := by
  have hfind : (report.steps.find? fun s => s.1 = x.step).map (fun s => (s.1, some s.2)) =
      some (x.step, x.status) := by
    have hmap := congrArg (List.find? fun s : TickStep × Option StepStatus => s.1 = x.step) h
    rw [List.find?_map] at hmap
    refine hmap.trans ?_
    rw [List.map_append, List.find?_append, List.find?_eq_none.2 (by simpa using hfirst)]
    simp
  obtain ⟨s, hs, heq⟩ := Option.map_eq_some_iff.1 hfind
  rw [status?, hs, Option.map_some]
  exact (Prod.mk.inj heq).2

end TickReport

/-- A step of a tick that came to its end: its record, the way it went, and what came before and
after it. -/
structure TickRecord.Took (setup : Setup) (r : TickRecord) (after : Service) (report : TickReport)
    (x : StepRecord) (met left : Progress) : Prop where
  mem : x ∈ r.steps
  status : report.status? x.step = x.status
  before : x.before = met.service
  went : Progress.Advance setup (r.before.ticks + 1) met x.step x.exchanges (.ok left)
  last : x.status = left.lastStatus
  earlier : ∃ rs, Progress.Leads setup (r.before.ticks + 1) r.before.nextTick rs met ∧
    ∀ y ∈ rs, y.step ≠ x.step
  later : ∃ rs last, Progress.Leads setup (r.before.ticks + 1) left rs last ∧
    last.service = after ∧ report.parameters = last.parameters ∧ ∀ y ∈ rs, y.step ≠ x.step

namespace TickRecord

variable {r : TickRecord} {after : Service} {report : TickReport}

/-- The records of a tick that comes to its end, with the report made of them. -/
theorem exists_leads {env : Answerer Query.Answer σ} {n : Nat} {s : Service} {w : σ}
    (hr : r ∈ history env setup n s w) (h : r.result = .ok (after, report)) :
    ∃ last, Progress.Leads setup (r.before.ticks + 1) r.before.nextTick r.steps last ∧
      r.steps.map StepRecord.step = TickStep.all ∧ after = last.service ∧
      report.steps = last.steps ∧ report.parameters = last.parameters := by
  obtain ⟨s', w', rfl⟩ := exists_eq_tickRecord_of_mem_history env n s w r hr
  obtain ⟨last, hlast, hafter, hsteps, hparameters⟩ := tick_run env s' w' h
  obtain ⟨hleads, hall⟩ := Progress.leads_of_advanceAll env _ _ _ hlast
  exact ⟨last, hleads, hall, hafter, hsteps, hparameters⟩

/-- **Every record of a tick that comes to its end can be singled out.** -/
theorem took_of_mem {env : Answerer Query.Answer σ} {n : Nat} {s : Service} {w : σ}
    (hr : r ∈ history env setup n s w) (h : r.result = .ok (after, report)) {x : StepRecord}
    (hx : x ∈ r.steps) : ∃ met left, r.Took setup after report x met left := by
  obtain ⟨last, hleads, hall, rfl, hsteps, hparameters⟩ := exists_leads hr h
  have hnodup : (r.steps.map StepRecord.step).Nodup := by
    rw [hall]
    decide
  obtain ⟨earlier, later, hsplit⟩ := List.append_of_mem hx
  rw [hsplit, List.map_append, List.map_cons, List.nodup_middle, List.nodup_cons,
    List.mem_append, not_or] at hnodup
  have hearlier : ∀ y ∈ earlier, y.step ≠ x.step :=
    fun y hy hsame => hnodup.1.1 (List.mem_map.2 ⟨y, hy, hsame⟩)
  have hlater : ∀ y ∈ later, y.step ≠ x.step :=
    fun y hy hsame => hnodup.1.2 (List.mem_map.2 ⟨y, hy, hsame⟩)
  have hmap := hleads.map_steps
  rw [hsplit] at hleads hmap
  obtain ⟨met, left, hbefore, hwent, hmet, hstatus, hafter⟩ := hleads.split
  refine ⟨met, left, hx, ?_, hmet, hwent, hstatus, ⟨_, hbefore, hearlier⟩,
    ⟨_, _, hafter, rfl, hparameters, hlater⟩⟩
  have hreport : report.steps.map (fun s => (s.1, some s.2)) =
      (earlier ++ x :: later).map fun y => (y.step, y.status) := by
    rw [hsteps, hmap]
    rfl
  exact TickReport.status?_eq hreport hearlier

/-- Every step of a tick that comes to its end has a record. -/
theorem exists_took {env : Answerer Query.Answer σ} {n : Nat} {s : Service} {w : σ}
    (hr : r ∈ history env setup n s w) (h : r.result = .ok (after, report)) (step : TickStep) :
    ∃ x met left, x.step = step ∧ r.Took setup after report x met left := by
  obtain ⟨last, -, hall, -⟩ := exists_leads hr h
  have hmem : step ∈ r.steps.map StepRecord.step := by
    rw [hall]
    cases step <;> decide
  obtain ⟨x, hx, rfl⟩ := List.mem_map.1 hmem
  obtain ⟨met, left, took⟩ := took_of_mem hr h hx
  exact ⟨x, met, left, rfl, took⟩

end TickRecord

/-- What every step preserves, and that has nothing to do with the number of the tick, holds of
every service that a run has met. -/
theorem forall_mem_history (env : Answerer Query.Answer σ) {I : Service → Prop}
    (hcount : ∀ s n, I s → I { s with ticks := n })
    (hstep : ∀ number p step xs next, I p.service →
      Progress.Advance setup number p step xs (.ok next) → I next.service) :
    ∀ n s w, I s → ∀ r ∈ history env setup n s w, I r.before ∧ ∀ x ∈ r.steps, I x.before := by
  intro n
  induction n with
  | zero => simp [history]
  | succ n ih =>
    intro s w hs r hr
    rcases List.mem_cons.1 hr with rfl | hr
    · exact ⟨hs, Progress.forall_mem_records env (fun p step xs next => hstep _ p step xs next)
        TickStep.all s.nextTick _ (hcount s _ hs)⟩
    · rcases hd : (tick setup s).run env w with ⟨b | ⟨next, report⟩, later⟩ <;> rw [hd] at hr
      · cases hr
      · refine ih next later ?_ r hr
        obtain ⟨last, hlast, rfl, -, -⟩ := tick_run env s w (congrArg Prod.fst hd)
        obtain ⟨hleads, -⟩ := Progress.leads_of_advanceAll env _ _ _ hlast
        exact hleads.preserves (I := fun p => I p.service) (P := fun _ => True)
          (fun p step xs next _ hp hadvance => hstep _ p step xs next hp hadvance)
          (fun _ _ => trivial) (hcount s _ hs)

end RollupFees
