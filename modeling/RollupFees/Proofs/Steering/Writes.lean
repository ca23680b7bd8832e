import RollupFees.Proofs.Steering.Steps

/-!
# Writes of a run

Whatever prices, chains and shutdowns a run meets, each step of each tick writes at most once, and
only what its own readings warrant; the report of a tick tells what was written.

## Main definitions

* `TickRecord.SteersSafely` : what is promised of the writes of a tick
-/

namespace RollupFees

variable {σ : Type} {setup : Setup} {xs : List (Exchange Query.Answer)}

/-- The steps of a tick steer each parameter once, in the order of the parameters. -/
theorem TickStep.filterMap_parameter?_all :
    TickStep.all.filterMap TickStep.parameter? = Parameter.all := rfl

theorem TickStep.parameter?_isSome (step : TickStep) :
    step.parameter?.isSome = step.writesOnChain := by cases step <;> rfl

/-- A step that does not write on chain hands in nothing. -/
theorem TickStep.isWriting_of_mayAsk {step : TickStep} (h : step.writesOnChain = false) {q : Query}
    (hq : step.mayAsk q = true) : q.isWriting = false := by
  cases step with
  | refreshPrices | reconcileL1 | reconcileL2 => cases q <;> first | rfl | cases hq
  | priceRatio | overhead | l1BaseFee => cases h

theorem quiet_of_path_runStep {s : Service} {step : TickStep} {a : Service × StepResult}
    (hstep : step.writesOnChain = false) (h : (runStep setup s step).Path xs a) : Quiet xs :=
  fun x hx => TickStep.isWriting_of_mayAsk hstep ((asks_runStep setup s step).path h x hx)

theorem steered_runParameterStep {s after : Service} {x : Step ParameterOutcome} {r : StepResult}
    {step : TickStep} (h : (runParameterStep s x).Path xs (after, r))
    (hsteered : ∀ ys result, Step.Path x ys result →
      Steered setup.controller s.book step ys result.toOption) :
    Steered setup.controller s.book step xs r.toOption.join ∧ ∀ o, r = .ok o → o.isSome := by
  obtain ⟨result, hx, heq⟩ := path_runParameterStep.1 h
  obtain ⟨rfl, rfl⟩ := Prod.mk.inj heq
  have := hsteered xs result hx
  rcases result with e | o
  · exact ⟨this, by simp [Except.map]⟩
  · exact ⟨this, by simp [Except.map]⟩

/-- A step that brings a ledger up to date, or refreshes prices, has nothing to say of a
parameter. -/
theorem outcome_of_path_runStep {s after : Service} {step : TickStep} {r : StepResult}
    (hstep : step.writesOnChain = false) (h : (runStep setup s step).Path xs (after, r)) :
    r.toOption.join = none := by
  have hledger : ∀ {x}, (runLedgerStep s x).Path xs (after, r) → r.toOption.join = none := by
    intro x hx
    obtain ⟨e | b, -, heq⟩ := path_runLedgerStep.1 hx <;>
      rw [(Prod.mk.inj heq).2] <;> rfl
  cases step with
  | refreshPrices =>
    obtain ⟨_, _, ⟨book, _ | failure⟩, rfl, -, hrest⟩ := Dialogue.path_bind.1 h <;>
      rw [(Prod.mk.inj hrest.2).2] <;> rfl
  | reconcileL1 | reconcileL2 => exact hledger h
  | priceRatio | overhead | l1BaseFee => cases hstep

/-- What a step that ran did about its parameter. -/
theorem steered_runStep {s after : Service} {step : TickStep} {r : StepResult}
    (h : (runStep setup s step).Path xs (after, r)) :
    Steered setup.controller s.book step xs r.toOption.join ∧
      ∀ o, r = .ok o → o.isSome = step.writesOnChain := by
  cases hstep : step.writesOnChain with
  | false =>
    have hnone := outcome_of_path_runStep hstep h
    refine ⟨?_, ?_⟩
    · rw [hnone]
      exact (quiet_of_path_runStep hstep h).steered (by simp) (by simp)
    · intro o ho
      subst ho
      simpa [Except.toOption] using hnone
  | true =>
    cases step with
    | refreshPrices | reconcileL1 | reconcileL2 => cases hstep
    | priceRatio =>
      exact steered_runParameterStep h fun _ _ => Step.steered_updatePriceRatio
    | overhead => exact steered_runParameterStep h fun _ _ => Step.steered_updateOverhead
    | l1BaseFee => exact steered_runParameterStep h fun _ _ => Step.steered_updateL1BaseFee

namespace Progress

variable {number : Nat} {p next : Progress} {step : TickStep}

theorem quiet_goAhead (step : TickStep) : Quiet (goAhead step) := by
  cases step <;> simp [goAhead, TickStep.writesOnChain, Quiet, Query.isWriting]

theorem blind_goAhead (step : TickStep) : Blind (goAhead step) := by
  cases step <;> simp [goAhead, TickStep.writesOnChain, Blind, Query.isReading]

/-- What a step of a tick did about its parameter, whether or not it broke down. -/
theorem Advance.exists_steered {r : Except Breakdown Progress}
    (h : Advance setup number p step xs r) :
    ∃ outcome, Steered setup.controller p.service.book step xs outcome ∧
      ∀ next, r = .ok next → next.parameters = p.parameters ++ outcome.toList ∧
        ∃ status, next.steps = p.steps ++ [(step, status)] ∧
          outcome.isSome = (decide (status = .completed) && step.writesOnChain) := by
  have hsurround : ∀ {ys zs outcome}, Steered setup.controller p.service.book step ys outcome →
      Quiet zs → Blind zs →
      Steered setup.controller p.service.book step (goAhead step ++ ys ++ zs) outcome :=
    fun hys => hys.surround (quiet_goAhead step) (blind_goAhead step)
  have hbefore : ∀ {ys outcome}, Steered setup.controller p.service.book step ys outcome →
      Steered setup.controller p.service.book step (goAhead step ++ ys) outcome := by
    intro ys outcome hys
    have hnothing : Quiet [] ∧ Blind [] := by simp [Quiet, Blind]
    simpa using hsurround hys hnothing.1 hnothing.2
  cases h with
  | leftOut writes =>
    refine ⟨none, Quiet.steered (by simp [Quiet, Query.isWriting]) (by simp) (by simp), ?_⟩
    intro next h
    cases h
    exact ⟨by simp [report], .cancelled, rfl, rfl⟩
  | @completed ys s outcome ran =>
    obtain ⟨hsteered, hsome⟩ := steered_runStep ran
    refine ⟨outcome, hbefore hsteered, ?_⟩
    intro next h
    cases h
    exact ⟨rfl, .completed, rfl, by simp [hsome outcome rfl]⟩
  | interrupted ran =>
    obtain ⟨hsteered, -⟩ := steered_runStep ran
    refine ⟨none, hbefore hsteered, ?_⟩
    intro next h
    cases h
    exact ⟨by simp, .cancelled, rfl, rfl⟩
  | @failed ys s failure grave ran =>
    obtain ⟨hsteered, -⟩ := steered_runStep ran
    refine ⟨none, hsurround hsteered (by simp [Quiet, Query.isWriting])
      (by simp [Blind, Query.isReading]), ?_⟩
    intro next h
    cases h
    exact ⟨by simp, .failed failure.kind failure.message, rfl, rfl⟩
  | broken ran =>
    obtain ⟨hsteered, -⟩ := steered_runStep ran
    exact ⟨none, hbefore hsteered, by rintro next ⟨⟩⟩

end Progress

/-! ### The writes of a tick -/

/-- The updates that a step handed in. -/
def StepRecord.submissions (x : StepRecord) : List Update := RollupFees.submissions x.exchanges

/-- What is promised of the writes of a tick. -/
structure TickRecord.SteersSafely (setup : Setup) (r : TickRecord) : Prop where
  /-- Every step hands in at most one update. -/
  once : ∀ x ∈ r.steps, x.submissions.length ≤ 1
  /-- The parameters are written in order, each at most once. -/
  ordered : ((r.steps.flatMap StepRecord.submissions).map Update.parameter).Sublist Parameter.all
  /-- An update is one of the step's own parameter. -/
  own : ∀ x ∈ r.steps, ∀ u ∈ x.submissions, x.step.parameter? = some u.parameter
  /-- An update is what is decided about a target that the readings of the step lead to. -/
  warranted : ∀ x ∈ r.steps, ∀ u ∈ x.submissions,
    Warranted setup.controller x.before.book x.step (chainReads x.exchanges) u
  /-- An update lies within the hard bounds of its parameter. -/
  within : ∀ x ∈ r.steps, ∀ u ∈ x.submissions,
    (setup.controller.boundsOf u.parameter).hardFloor ≤ u.value ∧
      u.value ≤ (setup.controller.boundsOf u.parameter).hardCeiling
  /-- A step that is hindered hands in nothing. -/
  idle : ∀ x ∈ r.steps, Hindered x.before.book x.step (chainReads x.exchanges) → x.submissions = []
  /-- The report has an outcome for a step exactly if it was completed. -/
  reported : ∀ after report, r.result = .ok (after, report) →
    report.parameters.map ParameterOutcome.parameter =
      (report.steps.filter fun s => s.2 = .completed).filterMap fun s => s.1.parameter?
  /-- A value is reported as set exactly if it was handed in and mined. -/
  set : ∀ after report, r.result = .ok (after, report) → ∀ parameter v,
    (∃ o ∈ report.parameters, o.parameter = parameter ∧ o.action = .setTo v) ↔
      ∃ x ∈ r.steps, x.step.parameter? = some parameter ∧ ∃ u, u.value = v ∧
        Confirmed setup.controller.confirmationTimeout x.exchanges u

/-- Every step of a tick did about its parameter what its exchanges tell. -/
theorem exists_steered_of_mem_records (env : Answerer Query.Answer σ) {number : Nat}
    {steps : List TickStep} {p : Progress} {w : σ} {x : StepRecord}
    (hx : x ∈ p.records env setup number steps w) :
    ∃ outcome, Steered setup.controller x.before.book x.step x.exchanges outcome := by
  obtain ⟨q, r, hadvance, hbefore, -⟩ := Progress.exists_advance_of_mem_records env steps p w x hx
  obtain ⟨outcome, hsteered, -⟩ := hadvance.exists_steered
  rw [hbefore] at hsteered
  exact ⟨outcome, hsteered⟩

/-- What a step hands in is of its own parameter, and at most one update. -/
theorem StepRecord.map_parameter_submissions {x : StepRecord} {c : ControllerSettings}
    {outcome : Option ParameterOutcome}
    (h : Steered c x.before.book x.step x.exchanges outcome) :
    (x.submissions.map Update.parameter).Sublist x.step.parameter?.toList := by
  rcases h.submitted with hnone | ⟨u, hu, hone⟩
  · rw [submissions, hnone]
    exact List.nil_sublist _
  · rw [submissions, hone, hu.parameter]
    exact List.Sublist.refl _

/-- The parameters that steps write are among those that they steer, in the same order. -/
theorem map_parameter_flatMap_submissions {steps : List StepRecord}
    (h : ∀ x ∈ steps, (x.submissions.map Update.parameter).Sublist x.step.parameter?.toList) :
    ((steps.flatMap StepRecord.submissions).map Update.parameter).Sublist
      ((steps.map StepRecord.step).filterMap TickStep.parameter?) := by
  induction steps with
  | nil => exact List.Sublist.refl _
  | cons x rest ih =>
    have hx := h x List.mem_cons_self
    have hrest := ih fun y hy => h y (List.mem_cons_of_mem x hy)
    rw [List.flatMap_cons, List.map_append, List.map_cons, List.filterMap_cons]
    cases hp : x.step.parameter? with
    | none =>
      rw [hp] at hx
      rw [List.sublist_nil.1 hx]
      exact hrest
    | some p =>
      rw [hp] at hx
      exact hx.append hrest

/-- What has been reported so far agrees with the records so far. -/
structure Told (setup : Setup) (p : Progress) (rs : List StepRecord) : Prop where
  reported : p.parameters.map ParameterOutcome.parameter =
    (p.steps.filter fun s => s.2 = .completed).filterMap fun s => s.1.parameter?
  set : ∀ parameter v, (∃ o ∈ p.parameters, o.parameter = parameter ∧ o.action = .setTo v) ↔
    ∃ x ∈ rs, x.step.parameter? = some parameter ∧ ∃ u, u.value = v ∧
      Confirmed setup.controller.confirmationTimeout x.exchanges u

theorem Told.advance {number : Nat} {p next : Progress} {rs : List StepRecord} {step : TickStep}
    (h : Told setup p rs) (hadvance : Progress.Advance setup number p step xs (.ok next)) :
    Told setup next (rs ++ [⟨step, p.service, xs, next.lastStatus⟩]) := by
  obtain ⟨outcome, hsteered, hnext⟩ := hadvance.exists_steered
  obtain ⟨hparameters, status, hsteps, hsome⟩ := hnext next rfl
  constructor
  · rw [hparameters, hsteps, List.map_append, h.reported, List.filter_append, List.filterMap_append,
      List.append_cancel_left_eq]
    rw [← TickStep.parameter?_isSome] at hsome
    cases outcome with
    | none =>
      by_cases hstatus : status = .completed
      · have hp : step.parameter? = none := by simpa [hstatus] using hsome
        simp [hstatus, hp]
      · simp [hstatus]
    | some o =>
      have hstatus : status = .completed := by
        by_cases hstatus : status = .completed
        · exact hstatus
        · simp [hstatus] at hsome
      simp [hstatus, hsteered.parameter o rfl]
  · intro parameter v
    have hlast : (∃ o ∈ outcome, o.parameter = parameter ∧ o.action = .setTo v) ↔
        step.parameter? = some parameter ∧ ∃ u, u.value = v ∧
          Confirmed setup.controller.confirmationTimeout xs u := by
      rw [← hsteered.wrote v]
      constructor
      · rintro ⟨o, ho, rfl, hv⟩
        exact ⟨hsteered.parameter o ho, o, ho, hv⟩
      · rintro ⟨hp, o, ho, hv⟩
        exact ⟨o, ho, Option.some.inj ((hsteered.parameter o ho).symm.trans hp), hv⟩
    rw [hparameters]
    simp only [Option.mem_def] at hlast
    simp only [List.mem_append, Option.mem_toList, or_and_right, exists_or, h.set, hlast,
      List.mem_singleton, exists_eq_left]

/-- **Writes are safe.** In every run, from whatever state and in whatever surroundings, every tick
steers its parameters safely. -/
theorem steersSafely_of_mem_history (env : Answerer Query.Answer σ) (setup : Setup) (n : Nat)
    (s : Service) (w : σ) : ∀ r ∈ history env setup n s w, r.SteersSafely setup := by
  intro r hr
  obtain ⟨s, w, rfl⟩ := exists_eq_tickRecord_of_mem_history env n s w r hr
  have hsteered : ∀ x ∈ (tickRecord env setup s w).steps, ∃ outcome,
      Steered setup.controller x.before.book x.step x.exchanges outcome :=
    fun x hx => exists_steered_of_mem_records env hx
  have hwarranted : ∀ x ∈ (tickRecord env setup s w).steps, ∀ u ∈ x.submissions,
      Warranted setup.controller x.before.book x.step (chainReads x.exchanges) u := by
    intro x hx u hu
    obtain ⟨outcome, h⟩ := hsteered x hx
    rcases h.submitted with hnone | ⟨u', hwarranted, hone⟩
    · rw [StepRecord.submissions, hnone] at hu
      cases hu
    · rw [StepRecord.submissions, hone, List.mem_singleton] at hu
      rwa [hu]
  have htold : ∀ after report, (tickRecord env setup s w).result = .ok (after, report) →
      ∃ p : Progress, p.steps = report.steps ∧ p.parameters = report.parameters ∧
        Told setup p (tickRecord env setup s w).steps := by
    intro after report h
    obtain ⟨last, hlast, -, hsteps, hparameters⟩ := tick_run env s w h
    refine ⟨last, hsteps.symm, hparameters.symm, ?_⟩
    have hnone : Told setup s.nextTick [] := ⟨rfl, by simp [Service.nextTick]⟩
    have := Progress.advanceAll_induction env
      (fun p rs step xs next (h : Told setup p rs) hadvance => h.advance hadvance) TickStep.all
      s.nextTick [] (env.answer .uptime w).2 last hnone hlast
    simpa [tickRecord] using this
  constructor
  case once =>
    intro x hx
    obtain ⟨outcome, h⟩ := hsteered x hx
    rcases h.submitted with hnone | ⟨u, -, hone⟩
    · simp [StepRecord.submissions, hnone]
    · simp [StepRecord.submissions, hone]
  case ordered =>
    refine (map_parameter_flatMap_submissions fun x hx => ?_).trans ?_
    · obtain ⟨outcome, h⟩ := hsteered x hx
      exact StepRecord.map_parameter_submissions h
    · rw [← TickStep.filterMap_parameter?_all]
      exact (Progress.map_step_records_prefix env ..).sublist.filterMap _
  case own => exact fun x hx u hu => (hwarranted x hx u hu).parameter
  case warranted => exact hwarranted
  case within => exact fun x hx u hu => (hwarranted x hx u hu).within
  case idle =>
    intro x hx hhindered
    rw [List.eq_nil_iff_forall_not_mem]
    intro u hu
    obtain ⟨aim, haim, -⟩ := hwarranted x hx u hu
    exact haim.not_hindered hhindered
  case reported =>
    intro after report h
    obtain ⟨p, hsteps, hparameters, htold⟩ := htold after report h
    rw [← hsteps, ← hparameters]
    exact htold.reported
  case set =>
    intro after report h
    obtain ⟨p, hsteps, hparameters, htold⟩ := htold after report h
    rw [← hparameters]
    exact htold.set

/-- Surroundings in which the gas price has doubled, and writes are mined. -/
def doubledGas : Answerer Query.Answer Unit where
  answer q w :=
    match q with
    | .gasPrice => (.ok (Amount.clamp 20), w)
    | .l1BaseFee => (.ok (Amount.clamp 10), w)
    | .submit _ => (.ok (Hash.ofNat 1), w)
    | .confirmation _ tx _ => (.finished (.ok ⟨tx, none, none⟩), w)
    | q => (q.refused, w)

/-- The one write of a tick that cannot read the other parameters. -/
theorem steersSafely_doubledGas :
    tickRecord doubledGas Setup.plain Service.fresh () ∈
        history doubledGas Setup.plain 1 Service.fresh () ∧
      ((tickRecord doubledGas Setup.plain Service.fresh ()).steps.flatMap
        StepRecord.submissions) = [.l1BaseFee (Amount.clamp 20)] ∧
      (tickRecord doubledGas Setup.plain Service.fresh ()).SteersSafely Setup.plain :=
  ⟨List.mem_cons_self, by decide +kernel,
    steersSafely_of_mem_history doubledGas Setup.plain 1 Service.fresh () _ List.mem_cons_self⟩

end RollupFees
