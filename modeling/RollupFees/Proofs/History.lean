import RollupFees.Proofs.Path
import RollupFees.Service.Lifecycle

/-!
# The history of a run

A tick is a sequence of steps and a run is a sequence of ticks. The history of a run keeps of every
step which service it met, what it asked and was answered, and how it ended. Nothing in it is
computed apart from the run: the exchanges of the records are those of the run itself.

What one step preserves, a whole run preserves; `ticks_induction` carries that over once and for
all, with the records so far as part of what is preserved.

## Main definitions

* `started` : the service after it has loaded its history
* `ticks` : so many ticks, one after the other
* `StepRecord`, `TickRecord` : what is kept of a step and of a tick
* `history` : what is kept of a run
* `Step.Yields` : a tick has taken the result of a step
* `Progress.Advance` : the ways in which one step of a tick may go
-/

namespace RollupFees

variable {σ : Type}

/-- Runs so many ticks. -/
def ticks (setup : Setup) (s : Service) : Nat → Talk (Except Breakdown Service)
  | 0 => .done (.ok s)
  | n + 1 =>
    (tick setup s).bind fun
      | .ok (after, _) => ticks setup after n
      | .error b => .done (.error b)

/-- The service that has just loaded its history, if that succeeds. -/
def started (env : Answerer Query.Answer σ) (setup : Setup) (w : σ) : Except Stop Service × σ :=
  (start setup Service.fresh).outcome env w

/-- What is kept of a step of a tick. A step that broke down has no status. -/
structure StepRecord where
  step : TickStep
  before : Service
  exchanges : List (Exchange Query.Answer)
  status : Option StepStatus

/-- Whether a step was completed. -/
def StepRecord.isCompleted (r : StepRecord) : Bool := r.status = some .completed

/-- What is kept of a tick: the service it met, its steps, and what it came to. -/
structure TickRecord where
  before : Service
  steps : List StepRecord
  result : Except Breakdown (Service × TickReport)

namespace Progress

/-- The last status that has been reported. -/
def lastStatus (p : Progress) : Option StepStatus := p.steps.getLast?.map Prod.snd

/-- What is kept of the steps to come. A step that breaks down is the last one. -/
def records (env : Answerer Query.Answer σ) (setup : Setup) (tick : Nat) (p : Progress) :
    List TickStep → σ → List StepRecord
  | [], _ => []
  | step :: rest, w =>
    let exchanges := (advance setup tick p step).transcript env w
    match (advance setup tick p step).run env w with
    | (.ok next, after) =>
      ⟨step, p.service, exchanges, next.lastStatus⟩ :: records env setup tick next rest after
    | (.error _, _) => [⟨step, p.service, exchanges, none⟩]

end Progress

/-- Where the steps of a tick start. -/
def Service.nextTick (s : Service) : Progress := ⟨{ s with ticks := s.ticks + 1 }, [], []⟩

/-- What is kept of a tick. -/
def tickRecord (env : Answerer Query.Answer σ) (setup : Setup) (s : Service) (w : σ) : TickRecord :=
  ⟨s, s.nextTick.records env setup (s.ticks + 1) TickStep.all (env.answer .uptime w).2,
    ((tick setup s).run env w).1⟩

/-- What is kept of so many ticks. A tick that breaks down is the last one. -/
def history (env : Answerer Query.Answer σ) (setup : Setup) :
    Nat → Service → σ → List TickRecord
  | 0, _, _ => []
  | n + 1, s, w =>
    tickRecord env setup s w ::
      match (tick setup s).run env w with
      | (.ok (after, _), later) => history env setup n after later
      | (.error _, _) => []

/-- The steps of all ticks in order. -/
def stepsOf (ticks : List TickRecord) : List StepRecord := ticks.flatMap TickRecord.steps

/-! ### Steps that are run by a tick -/

section

variable {s : Service} {xs : List (Exchange Query.Answer)} {y : Service × StepResult}

/-- Billing is what the step has made of it, if it has succeeded. -/
theorem path_runLedgerStep {x : Step Billing} :
    (runLedgerStep s x).Path xs y ↔ ∃ r, Step.Path x xs r ∧
      y = ({ s with billing := r.toOption.getD s.billing }, r.map fun _ => none) :=
  Dialogue.path_bind_done fun r => by cases r <;> rfl

/-- Steering a parameter leaves the service as it is. -/
theorem path_runParameterStep {x : Step ParameterOutcome} :
    (runParameterStep s x).Path xs y ↔ ∃ r, Step.Path x xs r ∧ y = (s, r.map some) :=
  Dialogue.path_bind_done fun _ => rfl

/-- A tick has taken the result of a step, and only changed its value. -/
def Step.Yields {α : Type} (x : Step α) (xs : List (Exchange Query.Answer)) (result : StepResult) :
    Prop :=
  ∃ (r : Except Stop α) (f : α → Option ParameterOutcome), Step.Path x xs r ∧ result = r.map f

theorem yields_of_runLedgerStep {x : Step Billing} (h : (runLedgerStep s x).Path xs y) :
    x.Yields xs y.2 := by
  obtain ⟨r, hpath, rfl⟩ := path_runLedgerStep.1 h
  exact ⟨r, _, hpath, rfl⟩

theorem yields_of_runParameterStep {x : Step ParameterOutcome}
    (h : (runParameterStep s x).Path xs y) : x.Yields xs y.2 := by
  obtain ⟨r, hpath, rfl⟩ := path_runParameterStep.1 h
  exact ⟨r, _, hpath, rfl⟩

end

namespace Progress

variable {setup : Setup} {number : Nat} {p : Progress} {step : TickStep}
  {xs : List (Exchange Query.Answer)} {r : Except Breakdown Progress}

/-- The question that comes before a step that writes on chain, answered with no. -/
def goAhead (step : TickStep) : List (Exchange Query.Answer) :=
  if step.writesOnChain then [⟨.shutdownRequested, false⟩] else []

/-- The ways in which a step of a tick may go. -/
inductive Advance (setup : Setup) (number : Nat) (p : Progress) (step : TickStep) :
    List (Exchange Query.Answer) → Except Breakdown Progress → Prop
  | leftOut (writes : step.writesOnChain = true) :
      Advance setup number p step [⟨.shutdownRequested, true⟩] (.ok (p.report step .cancelled))
  | completed {ys s outcome} (ran : (runStep setup p.service step).Path ys (s, .ok outcome)) :
      Advance setup number p step (goAhead step ++ ys)
        (.ok ⟨s, p.steps ++ [(step, .completed)], p.parameters ++ outcome.toList⟩)
  | interrupted {ys s}
      (ran : (runStep setup p.service step).Path ys (s, .error (.failed .shutdown))) :
      Advance setup number p step (goAhead step ++ ys)
        (.ok ⟨s, p.steps ++ [(step, .cancelled)], p.parameters⟩)
  | failed {ys s failure} (grave : failure ≠ .shutdown)
      (ran : (runStep setup p.service step).Path ys (s, .error (.failed failure))) :
      Advance setup number p step
        (goAhead step ++ ys ++ [⟨.note (failureNotice number step failure), ()⟩])
        (.ok ⟨s, p.steps ++ [(step, .failed failure.kind failure.message)], p.parameters⟩)
  | broken {ys s b} (ran : (runStep setup p.service step).Path ys (s, .error (.broken b))) :
      Advance setup number p step (goAhead step ++ ys) (.error b)

theorem advance_of_path (h : (advance setup number p step).Path xs r) :
    Advance setup number p step xs r := by
  obtain ⟨ys, zs, cancelled, rfl, hask, hrest⟩ := Dialogue.path_bind.1 h
  have hgo : cancelled = false → ys = goAhead step := by
    rintro rfl
    rw [isCancelled] at hask
    rw [goAhead]
    split at hask
    · rwa [if_pos ‹_›, ← Dialogue.path_question]
    · rw [if_neg ‹_›]
      exact hask.1
  cases cancelled with
  | true =>
    obtain ⟨rfl, rfl⟩ := hrest
    rw [isCancelled] at hask
    split at hask
    · obtain rfl := Dialogue.path_question.1 hask
      exact .leftOut ‹_›
    · cases hask.2
  | false =>
    obtain rfl := hgo rfl
    obtain ⟨ys, zs, ⟨s, result⟩, rfl, hrun, hsettle⟩ := Dialogue.path_bind.1 hrest
    rw [← List.append_assoc]
    rcases result with (failure | b) | outcome
    · by_cases hf : failure = .shutdown
      · subst hf
        obtain ⟨rfl, rfl⟩ := hsettle
        rw [List.append_nil]
        exact .interrupted hrun
      · have hs : (Dialogue.bind (Dialogue.question (.note (failureNotice number step failure)))
            fun _ => .done (.ok (({ p with service := s } : Progress).report step
              (.failed failure.kind failure.message)))).Path zs r := by
          cases failure <;> first | exact hsettle | exact absurd rfl hf
        obtain ⟨us, vs, ⟨⟩, rfl, hnote, rfl, rfl⟩ := Dialogue.path_bind.1 hs
        obtain rfl := Dialogue.path_question.1 hnote
        rw [List.append_nil]
        exact .failed hf hrun
    · obtain ⟨rfl, rfl⟩ := hsettle
      rw [List.append_nil]
      exact .broken hrun
    · obtain ⟨rfl, rfl⟩ := hsettle
      rw [List.append_nil]
      exact .completed hrun

/-! ### What a tick preserves -/

/-- **Induction along a tick.** A condition on the progress and on the records so far that every
step preserves holds at the end. -/
theorem advanceAll_induction (env : Answerer Query.Answer σ)
    {I : Progress → List StepRecord → Prop}
    (hstep : ∀ p rs step xs next, I p rs → Advance setup number p step xs (.ok next) →
      I next (rs ++ [⟨step, p.service, xs, next.lastStatus⟩])) :
    ∀ steps p rs w last, I p rs → ((advanceAll setup number p steps).run env w).1 = .ok last →
      I last (rs ++ p.records env setup number steps w) := by
  intro steps
  induction steps with
  | nil =>
    intro p rs w last h0 hrun
    obtain rfl : p = last := by simpa [advanceAll] using hrun
    simpa [records] using h0
  | cons step rest ih =>
    intro p rs w last h0 hrun
    have hpath := advance_of_path
      (Dialogue.path_run env (advance setup number p step) w)
    simp only [advanceAll, Dialogue.run_bind] at hrun
    simp only [records]
    rcases hd : (advance setup number p step).run env w with ⟨_ | next, after⟩
    · rw [hd] at hrun
      cases hrun
    · rw [hd] at hrun hpath
      have := ih next _ after last (hstep p rs step _ next h0 hpath) hrun
      simpa using this

/-- Every record of a tick is that of a step which went in one of the known ways. -/
theorem exists_advance_of_mem_records (env : Answerer Query.Answer σ) :
    ∀ (steps : List TickStep) (p : Progress) (w : σ),
      ∀ x ∈ p.records env setup number steps w, ∃ q r,
      Advance setup number q x.step x.exchanges r ∧ q.service = x.before ∧
        (x.status = none ∨ ∃ next, r = .ok next ∧ x.status = next.lastStatus) := by
  intro steps
  induction steps with
  | nil => simp [records]
  | cons step rest ih =>
    intro p w x hx
    have hpath := advance_of_path
      (Dialogue.path_run env (advance setup number p step) w)
    simp only [records] at hx
    rcases hd : (advance setup number p step).run env w with ⟨b | next, after⟩ <;>
      rw [hd] at hx hpath
    · obtain rfl := List.mem_singleton.1 hx
      exact ⟨p, _, hpath, rfl, .inl rfl⟩
    · rcases List.mem_cons.1 hx with rfl | hx
      · exact ⟨p, _, hpath, rfl, .inr ⟨next, rfl, rfl⟩⟩
      · exact ih next after x hx

/-- The steps that are recorded are the first ones of those that are due. -/
theorem map_step_records_prefix (env : Answerer Query.Answer σ) :
    ∀ (steps : List TickStep) (p : Progress) (w : σ),
      (p.records env setup number steps w).map StepRecord.step <+: steps := by
  intro steps
  induction steps with
  | nil => simp [records]
  | cons step rest ih =>
    intro p w
    simp only [records]
    rcases (advance setup number p step).run env w with ⟨b | next, after⟩
    · simp
    · simpa using ih next after

end Progress

/-! ### What a run preserves -/

variable {setup : Setup}

/-- A tick that did not break down has taken its steps between two looks at the clock and has
written a line at the end. -/
theorem tick_run_ok (env : Answerer Query.Answer σ) (s : Service) (w : σ) {after : Service}
    {report : TickReport} {v : σ} (h : (tick setup s).run env w = (.ok (after, report), v)) :
    ∃ last u n, (Progress.advanceAll setup (s.ticks + 1) s.nextTick TickStep.all).run env
        (env.answer .uptime w).2 = (.ok last, u) ∧
      after = last.service ∧ report.steps = last.steps ∧ report.parameters = last.parameters ∧
      v = (env.answer (.note n) (env.answer .uptime u).2).2 := by
  simp only [tick, Dialogue.run_bind, Dialogue.run_question] at h
  rcases hd : (Progress.advanceAll setup (s.ticks + 1) s.nextTick TickStep.all).run env
      (env.answer .uptime w).2 with ⟨b | last, u⟩ <;>
    simp only [Service.nextTick] at hd <;> rw [hd] at h
  · cases h
  · simp only [Dialogue.run_bind, Dialogue.run_done, Prod.mk.injEq, Except.ok.injEq] at h
    obtain ⟨⟨rfl, rfl⟩, rfl⟩ := h
    exact ⟨last, u, _, rfl, rfl, rfl, rfl, rfl⟩

/-- What a tick that did not break down comes to. -/
theorem tick_run (env : Answerer Query.Answer σ) (s : Service) (w : σ) {after : Service}
    {report : TickReport} (h : ((tick setup s).run env w).1 = .ok (after, report)) :
    ∃ last, ((Progress.advanceAll setup (s.ticks + 1) s.nextTick TickStep.all).run env
        (env.answer .uptime w).2).1 = .ok last ∧
      after = last.service ∧ report.steps = last.steps ∧ report.parameters = last.parameters := by
  obtain ⟨last, u, n, hlast, hafter, hsteps, hparameters, -⟩ := tick_run_ok env s w (Prod.ext h rfl)
  exact ⟨last, congrArg Prod.fst hlast, hafter, hsteps, hparameters⟩

/-- **Induction along a run.** A condition on the service and on the records so far that every step
preserves, and that has nothing to do with the number of the tick, holds at the end of a run. -/
theorem ticks_induction (env : Answerer Query.Answer σ) {I : Service → List StepRecord → Prop}
    (hcount : ∀ s rs n, I s rs → I { s with ticks := n } rs)
    (hstep : ∀ number p rs step xs next, I p.service rs →
      Progress.Advance setup number p step xs (.ok next) →
      I next.service (rs ++ [⟨step, p.service, xs, next.lastStatus⟩])) :
    ∀ n s rs w after, I s rs → ((ticks setup s n).run env w).1 = .ok after →
      I after (rs ++ stepsOf (history env setup n s w)) := by
  intro n
  induction n with
  | zero =>
    intro s rs w after h0 hrun
    obtain rfl : s = after := by simpa [ticks] using hrun
    simpa [history, stepsOf] using h0
  | succ n ih =>
    intro s rs w after h0 hrun
    simp only [ticks, Dialogue.run_bind] at hrun
    simp only [history, stepsOf, List.flatMap_cons]
    rcases hd : (tick setup s).run env w with ⟨b | ⟨next, report⟩, later⟩ <;> rw [hd] at hrun
    · cases hrun
    · obtain ⟨last, hlast, rfl, -, -⟩ := tick_run env s w (by rw [hd])
      have hnext := Progress.advanceAll_induction env
        (I := fun p rs => I p.service rs) (fun p rs step xs next => hstep _ p rs step xs next)
        TickStep.all s.nextTick rs _ last (hcount s rs _ h0) hlast
      have := ih last.service _ later after hnext hrun
      simpa [tickRecord, stepsOf] using this

/-- What is kept of a run is kept of its ticks. -/
theorem exists_eq_tickRecord_of_mem_history (env : Answerer Query.Answer σ) :
    ∀ n s w, ∀ r ∈ history env setup n s w, ∃ s' w', r = tickRecord env setup s' w' := by
  intro n
  induction n with
  | zero => simp [history]
  | succ n ih =>
    intro s w r hr
    rcases List.mem_cons.1 hr with rfl | hr
    · exact ⟨s, w, rfl⟩
    · split at hr
      · exact ih _ _ r hr
      · cases hr

/-- A service starts if both sides can be loaded, and holds what was loaded. -/
theorem started_of_loaded {env : Answerer Query.Answer σ} {w : σ} {l1 l2 : Option Snapshot}
    (setup : Setup) (h₁ : (env.answer (.load .l1) w).1 = .ok l1)
    (h₂ : (env.answer (.load .l2) (env.answer (.load .l1) w).2).1 = .ok l2) :
    started env setup w = (.ok { Service.fresh with billing := Billing.ofHistory l1 l2 },
      (env.answer (.note (readyNotice setup)) (env.answer (.note (historyNotice l1 l2))
        (env.answer (.load .l2) (env.answer (.load .l1) w).2).2).2).2) := by
  have hl1 : Step.outcome env (Step.need (Dialogue.question (Query.load .l1))) w =
      (.ok l1, (env.answer (.load .l1) w).2) := by
    rw [Step.outcome_need, Dialogue.run_question, h₁]
    rfl
  have hl2 : Step.outcome env (Step.need (Dialogue.question (Query.load .l2)))
      (env.answer (.load .l1) w).2 =
      (.ok l2, (env.answer (.load .l2) (env.answer (.load .l1) w).2).2) := by
    rw [Step.outcome_need, Dialogue.run_question, h₂]
    rfl
  have hnote : ∀ n v, Step.outcome env (Step.note n) v = (.ok (), (env.answer (.note n) v).2) :=
    fun _ _ => rfl
  simp only [started, start, Step.outcome_bind, hl1, hl2, hnote]
  rfl

/-! ### Surroundings for cases -/

/-- The answer where nothing can be read or written, and no stop is requested. -/
def Query.refused : (q : Query) → q.Answer
  | .balance .. | .tokenBalance .. | .blockNumber | .gasPrice | .receipt _ | .batchEvents ..
  | .priceRatio | .priceRatioDecimals | .overhead | .l1BaseFee | .latestAnswer _ | .submit _ =>
    .error (.storage .refused)
  | .load _ | .commit _ => .error (.storage .refused)
  | .confirmation .. => .timedOut
  | .shutdownRequested | .pause _ => false
  | .now => Timestamp.epoch
  | .uptime => ⟨0⟩
  | .note _ => ()

/-- Accounts with the addresses from one to eight. -/
def Accounts.numbered : Accounts :=
  ⟨.ofNat 1, .ofNat 2, .ofNat 3, .ofNat 4, .ofNat 5, .ofNat 6, .ofNat 7, .ofNat 8⟩

/-- Bounds that let every move through. -/
def Bounds.loose : Bounds := ⟨none, 1, 0, Amount.clamp Amount.maxNat⟩

/-- A setup with loose bounds. -/
def Setup.plain : Setup :=
  ⟨Accounts.numbered, ⟨0⟩, ⟨Bounds.loose, Bounds.loose, Bounds.loose, 100, 1000, 10, ⟨0⟩⟩⟩

end RollupFees
