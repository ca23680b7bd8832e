import RollupFees.Proofs.Questions

/-!
# What the loop keeps

A property of the billing that every step keeps, in surroundings that keep their part of a
contract, is kept by the ticks of a run and by a service, however long it runs. Nothing that the
loop asks between its steps has to do with it.

## Main definitions

* `Contract.AllowsLoop` : what the loop asks between its steps is allowed
* `Setup.StepsHonour` : every step honours a contract and keeps a property of the billing

## Main results

* `honours_ticks`, `honours_serve` : what the steps honour, a run and a service honour
* `ticks_run_isOk` : a run with limits that can be scaled is taken to its end
-/

namespace RollupFees

variable {α σ : Type} {c : Contract Query.Answer} {breaks : Prop} {I : Billing → Prop}
  {setup : Setup} {s : Service}

/-- What the loop asks between its steps is allowed. -/
structure Contract.AllowsLoop (c : Contract Query.Answer) : Prop where
  note : ∀ n, c.allowed (.note n)
  shutdownRequested : c.allowed .shutdownRequested
  uptime : c.allowed .uptime
  pause : ∀ span, c.allowed (.pause span)

/-- Every step honours a contract, keeps a property of the billing, and breaks down only where that
is possible. -/
def Setup.StepsHonour (setup : Setup) (c : Contract Query.Answer) (breaks : Prop)
    (I : Billing → Prop) : Prop :=
  ∀ (s : Service) (step : TickStep), I s.billing →
    (runStep setup s step).Honours c fun x =>
      Step.Ends breaks (fun _ => True) x.2 ∧ I x.1.billing

/-- How part of a run may end: with a result that has some property, or by breaking down where that
is possible. -/
def Goes (breaks : Prop) (post : α → Prop) : Except Breakdown α → Prop
  | .ok a => post a
  | .error _ => breaks

namespace Progress

theorem honours_isCancelled (hloop : c.AllowsLoop) (step : TickStep) :
    (isCancelled step).Honours c fun _ => True := by
  rw [isCancelled]
  split
  · exact Dialogue.honours_of_allowed hloop.shutdownRequested
  · trivial

theorem honours_settle (hloop : c.AllowsLoop) (p : Progress) (number : Nat) (step : TickStep)
    (h : I s.billing) {r : StepResult} (hr : Step.Ends breaks (fun _ => True) r) :
    (p.settle number step s r).Honours c (Goes breaks fun next => I next.service.billing) := by
  rcases r with (failure | b) | outcome
  · cases failure with
    | shutdown => exact h
    | _ => exact ⟨hloop.note _, fun _ _ => h⟩
  · exact hr
  · exact h

theorem honours_advance (hloop : c.AllowsLoop) {p : Progress} {step : TickStep} (number : Nat)
    (h : I p.service.billing)
    (hrun : (runStep setup p.service step).Honours c fun x =>
      Step.Ends breaks (fun _ => True) x.2 ∧ I x.1.billing) :
    (advance setup number p step).Honours c
      (Goes breaks fun next => I next.service.billing) := by
  refine Dialogue.Honours.bind (honours_isCancelled hloop step) ?_
  intro cancelled _
  cases cancelled with
  | true => exact h
  | false =>
    exact Dialogue.Honours.bind hrun fun x hx => honours_settle hloop p number step hx.2 hx.1

theorem honours_advanceAll (hloop : c.AllowsLoop) (hsteps : setup.StepsHonour c breaks I)
    (number : Nat) (steps : List TickStep) :
    ∀ {p : Progress}, I p.service.billing →
      (advanceAll setup number p steps).Honours c
        (Goes breaks fun last => I last.service.billing) := by
  induction steps with
  | nil => exact fun h => h
  | cons step rest ih =>
    intro p h
    refine Dialogue.Honours.bind (honours_advance hloop number h (hsteps p.service step h)) ?_
    intro r hr
    cases r with
    | error b => exact hr
    | ok next => exact ih hr

end Progress

theorem honours_tick (hloop : c.AllowsLoop) (hsteps : setup.StepsHonour c breaks I)
    (h : I s.billing) :
    (tick setup s).Honours c (Goes breaks fun x => I x.1.billing) := by
  refine Dialogue.Honours.bind (Dialogue.honours_of_allowed hloop.uptime) fun started _ => ?_
  refine Dialogue.Honours.bind (Progress.honours_advanceAll hloop hsteps _ TickStep.all h) ?_
  intro r hr
  cases r with
  | error b => exact hr
  | ok last => exact ⟨hloop.uptime, fun _ _ => ⟨hloop.note _, fun _ _ => hr⟩⟩

/-- What every step honours and keeps, so do the ticks of a run, however many there are. -/
theorem honours_ticks (hloop : c.AllowsLoop) (hsteps : setup.StepsHonour c breaks I) (n : Nat) :
    ∀ {s : Service}, I s.billing →
      (ticks setup s n).Honours c (Goes breaks fun last => I last.billing) := by
  induction n with
  | zero => exact fun h => h
  | succ n ih =>
    intro s h
    refine Dialogue.Honours.bind (honours_tick hloop hsteps h) ?_
    intro r hr
    cases r with
    | error b => exact hr
    | ok x => exact ih hr

/-- A turn that is not the last one is a tick, which keeps what its steps keep. -/
theorem honours_turn (hloop : c.AllowsLoop) (hsteps : setup.StepsHonour c breaks I)
    (h : I s.billing) :
    (turn setup s).Honours c fun t => ∀ after, t = .again after → I after.billing := by
  refine Dialogue.Honours.bind (Dialogue.honours_of_allowed (hloop.pause _)) fun cut _ => ?_
  split
  · intro after h
    cases h
  · refine Dialogue.Honours.bind (honours_tick hloop hsteps h) ?_
    rintro (b | ⟨next, report⟩) hnext
    · intro after h
      cases h
    · have hnotes : (Step.notes (incompleteNotice report)).Honours c True fun _ => True :=
        Step.honours_notes hloop.note _
      refine Dialogue.Honours.bind hnotes fun _ _ => ⟨hloop.shutdownRequested, ?_⟩
      rintro (_ | _) - after ⟨⟩
      exact hnext

/-- What every step honours and keeps, so does a service, however long it runs. -/
theorem honours_serve (hloop : c.AllowsLoop) (hsteps : setup.StepsHonour c breaks I)
    (turns : Nat) :
    ∀ {s : Service}, I s.billing → (serve setup s turns).Honours c fun _ => True := by
  induction turns with
  | zero => exact fun _ => trivial
  | succ turns ih =>
    intro s h
    refine Dialogue.Honours.bind (honours_turn hloop hsteps h) ?_
    rintro (after | after | b) hafter
    · exact ih (hafter after rfl)
    · exact ⟨hloop.note _, fun _ _ => trivial⟩
    · trivial

/-! ### Breakdowns -/

/-- Whatever is answered, no step breaks down if every limit can be scaled. -/
theorem stepsHonour_anything (setup : Setup) :
    setup.StepsHonour (.asking fun _ => True) (¬ setup.controller.IsScalable) fun _ => True := by
  intro s step _
  have hstep := honours_runStep (c := .asking fun _ => True) setup s step
    (fun _ _ _ => trivial) fun _ _ _ _ _ _ => trivial
  exact hstep.and_path fun _ _ _ => trivial

theorem Contract.allowsLoop_anything : AllowsLoop (.asking fun _ => True) :=
  ⟨fun _ => trivial, trivial, trivial, fun _ => trivial⟩

theorem Setup.isScalable_plain : Setup.plain.controller.IsScalable := by
  have hloose : Bounds.loose.IsScalable := by
    refine Bounds.isScalable_of_partsPerMillion ?_
    intro f hf
    cases hf
  exact ⟨hloose, hloose⟩

/-- **What a run survives.** If every limit can be scaled, a run is taken to its end. -/
theorem ticks_run_isOk (h : setup.controller.IsScalable) (env : Answerer Query.Answer σ)
    (s : Service) (n : Nat) (w : σ) : ∃ after, ((ticks setup s n).run env w).1 = .ok after := by
  have hticks : Goes (¬ setup.controller.IsScalable) (fun _ => True)
      ((ticks setup s n).run env w).1 :=
    Dialogue.Honours.run (fun _ _ => trivial)
      (honours_ticks Contract.allowsLoop_anything (stepsHonour_anything setup) n trivial) w
  cases hrun : ((ticks setup s n).run env w).1 with
  | ok after => exact ⟨after, rfl⟩
  | error b =>
    rw [hrun] at hticks
    exact absurd h hticks

/-- If every limit can be scaled, a tick is taken to its end. -/
theorem tick_run_isOk (h : setup.controller.IsScalable) (env : Answerer Query.Answer σ)
    (s : Service) (w : σ) :
    ∃ after report v, (tick setup s).run env w = (.ok (after, report), v) := by
  obtain ⟨last, hlast⟩ := ticks_run_isOk h env s 1 w
  simp only [ticks, Dialogue.run_bind] at hlast
  rcases hrun : (tick setup s).run env w with ⟨b | ⟨after, report⟩, v⟩
  · rw [hrun] at hlast
    cases hlast
  · exact ⟨after, report, v, rfl⟩

/-- Nor does a service break down, however long it runs. -/
theorem serve_run_ne_broken (h : setup.controller.IsScalable) (env : Answerer Query.Answer σ)
    (turns : Nat) (s : Service) (w : σ) (b : Breakdown) :
    ((serve setup s turns).run env w).1 ≠ .broken b := by
  have hturn : ∀ s : Service,
      (turn setup s).Honours (.asking fun _ => True) fun t => ∀ b, t ≠ .broken b := by
    intro s
    refine Dialogue.Honours.bind (Dialogue.honours_of_allowed trivial) fun cut _ => ?_
    split
    · exact nofun
    · refine Dialogue.Honours.bind (honours_tick Contract.allowsLoop_anything
        (stepsHonour_anything setup) trivial) ?_
      rintro (b | ⟨after, report⟩) hr
      · exact absurd h hr
      · have hnotes : ∀ ns, Step.Honours (.asking fun _ => True) True _ (Step.notes ns) :=
          Step.honours_notes fun _ => trivial
        refine Dialogue.Honours.bind (hnotes _) fun _ _ => ⟨trivial, ?_⟩
        rintro (_ | _) - <;> exact nofun
  have hserve : ∀ (turns : Nat) (s : Service),
      (serve setup s turns).Honours (.asking fun _ => True) fun t => ∀ b, t ≠ .broken b := by
    intro turns
    induction turns with
    | zero => exact fun s => nofun
    | succ turns ih =>
      intro s
      refine Dialogue.Honours.bind (hturn s) ?_
      rintro (after | after | b) hb
      · exact ih after
      · exact ⟨trivial, fun _ _ => nofun⟩
      · exact absurd rfl (hb b)
  exact Dialogue.Honours.run (fun _ _ => trivial) (hserve turns s) w b

end RollupFees
