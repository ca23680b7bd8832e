import RollupFees.Proofs.Isolation.Faults
import RollupFees.Proofs.Isolation.Steps
import RollupFees.Proofs.Isolation.Surroundings

/-!
# Steps do not disturb each other

Two ticks start from the same service, in surroundings that need have nothing else in common. If the
calls of a step are answered alike in both, and no stop is requested there, the step comes to the
same in both: it has the same status and the same parameter outcome, has made the same calls, among
them the same submissions, and leaves the same ledger or the same prices. What the calls of the
other steps were answered, and which of them failed where, makes no difference. There is one
exception, and it is meant: the price ratio depends on the prices that the refresh has left.

In every single tick the report lists all steps in order, and tells of a step that it failed exactly
if one of its own calls has brought a failure. A reconciliation that is not completed changes
nothing of its side, neither in the billing nor in the store.

## Main definitions

* `StepStatus.Explained` : a status that is explained by the calls of its step
* `SameOutcome` : a step has come to the same in two ticks

## Main results

* `TickRecord.Took.sameOutcome` : alike answers make a step come to the same in two ticks
* `steps_isolated` : what a tick owes to each of its steps, whatever the other steps met
-/

namespace RollupFees

/-- What is reported of a result if no stop is requested. A breakdown is not reported. -/
def StepStatus.ofResult : StepResult → Option StepStatus
  | .ok _ => some .completed
  | .error (.failed f) => some (.failed f.kind f.message)
  | .error (.broken _) => none

/-- A status that is explained by the calls of its step: a completed step has met no failure, and a
failed one has failed with a failure that a call has brought. -/
inductive StepStatus.Explained (xs : List (Exchange Query.Answer)) : StepStatus → Prop
  | completed (flawless : ∀ x ∈ xs, x.fault? = none) : Explained xs .completed
  | failed {x f} (mem : x ∈ xs) (brought : x.fault? = some f) :
      Explained xs (.failed f.kind f.message)

/-- What a report tells of a parameter. -/
def TickReport.outcomes (r : TickReport) (parameter : Parameter) : List ParameterOutcome :=
  r.parameters.filter fun o => o.parameter = parameter

/-- A step has come to the same in two ticks. -/
structure SameOutcome (x x' : StepRecord) (after after' : Service) (report report' : TickReport) :
    Prop where
  status : report.status? x.step = report'.status? x.step
  outcomes : ∀ parameter, x.step.parameter? = some parameter →
    report.outcomes parameter = report'.outcomes parameter
  calls : calls x.exchanges = calls x'.exchanges
  submissions : x.submissions = x'.submissions
  leaves : x.step.LeavesAlike after after'

variable {σ τ : Type} {setup : Setup} {number : Nat} {p next last : Progress} {step : TickStep}
  {xs ys : List (Exchange Query.Answer)} {rs : List StepRecord}

/-- A step that failed has met a failure, and a completed one has not. -/
theorem StepStatus.Explained.iff {status : StepStatus} (h : status.Explained xs) :
    (∃ kind message, status = .failed kind message) ↔ ∃ x ∈ xs, x.fault? ≠ none := by
  cases h with
  | completed flawless =>
    constructor
    · rintro ⟨kind, message, ⟨⟩⟩
    · rintro ⟨x, hx, hfault⟩
      exact absurd (flawless x hx) hfault
  | failed mem brought =>
    exact ⟨fun _ => ⟨_, mem, by simp [brought]⟩, fun _ => ⟨_, _, rfl⟩⟩

/-- What was submitted is among the calls. -/
theorem filterMap_submission?_calls (xs : List (Exchange Query.Answer)) :
    (calls xs).filterMap Exchange.submission? = submissions xs := by
  rw [calls, List.filterMap_map, List.filterMap_filter, submissions]
  refine List.filterMap_congr fun x _ => ?_
  obtain ⟨q, a⟩ := x
  cases q <;> rfl

/-! ### The book of prices -/

/-- Only the refresh changes the book. -/
theorem book_of_path_runStep {s after : Service} {r : StepResult} (hstep : step ≠ .refreshPrices)
    (h : (runStep setup s step).Path xs (after, r)) : after.book = s.book := by
  cases step with
  | refreshPrices => exact absurd rfl hstep
  | reconcileL1 | reconcileL2 =>
    obtain ⟨_, -, heq⟩ := path_runLedgerStep.1 h
    exact congrArg (fun y => y.1.book) heq
  | priceRatio | overhead | l1BaseFee =>
    obtain ⟨_, -, heq⟩ := path_runParameterStep.1 h
    exact congrArg (fun y => y.1.book) heq

namespace Progress

theorem Advance.book_eq (h : Advance setup number p step xs (.ok next))
    (hstep : step ≠ .refreshPrices) : next.service.book = p.service.book := by
  generalize hr : (Except.ok next : Except Breakdown Progress) = r at h
  cases h with
  | leftOut =>
    obtain rfl := Except.ok.inj hr
    rfl
  | completed ran | interrupted ran | failed _ ran =>
    obtain rfl := Except.ok.inj hr
    exact book_of_path_runStep hstep ran
  | broken => cases hr

theorem Leads.book_eq (h : Leads setup number p rs last)
    (hrs : ∀ x ∈ rs, x.step ≠ .refreshPrices) : last.service.book = p.service.book :=
  h.preserves (I := fun q => q.service.book = p.service.book)
    (fun _ _ _ _ hstep hp hadvance => (hadvance.book_eq hstep).trans hp) hrs rfl

end Progress

namespace TickRecord

variable {r : TickRecord} {after : Service} {report : TickReport} {x : StepRecord}

/-- Every step but the refresh meets the book that the refresh has left. -/
theorem book_eq_of_mem {env : Answerer Query.Answer σ} {n : Nat} {s : Service} {w : σ}
    (hr : r ∈ history env setup n s w) (h : r.result = .ok (after, report)) (hx : x ∈ r.steps)
    (hstep : x.step ≠ .refreshPrices) : x.before.book = after.book := by
  obtain ⟨last, hleads, hall, rfl, -, -⟩ := exists_leads hr h
  generalize r.steps = rs at hleads hall hx
  cases hleads with
  | here => cases hx
  | @step _ first _ kind _ rs hfirst hrest =>
    obtain ⟨hkind, hothers⟩ := List.cons.inj hall
    have hne : ∀ y ∈ rs, y.step ≠ .refreshPrices := by
      intro y hy hrefresh
      have hmem := List.mem_map_of_mem (f := StepRecord.step) hy
      rw [hothers, hrefresh] at hmem
      revert hmem
      decide
    rcases List.mem_cons.1 hx with rfl | hx
    · exact absurd hkind hstep
    · rw [hrest.book_eq hne]
      obtain ⟨earlier, later, rfl⟩ := List.append_of_mem hx
      obtain ⟨q, left, hbefore, -, hmet, -, -⟩ := hrest.split
      rw [hmet]
      exact hbefore.book_eq fun y hy => hne y (List.mem_append_left _ hy)

end TickRecord

namespace TickRecord

variable {r : TickRecord} {after : Service} {report : TickReport} {x : StepRecord}
  {met left : Progress}

/-- The refresh meets the book that the tick has found. -/
theorem Took.book_before (h : r.Took setup after report x met left)
    (hstep : x.step = .refreshPrices) : met.service.book = r.before.book := by
  obtain ⟨earlier, hearlier, hrs⟩ := h.earlier
  exact hearlier.book_eq (hstep ▸ hrs)

/-- The tick leaves the book that the refresh has left. -/
theorem Took.book_after (h : r.Took setup after report x met left)
    (hstep : x.step = .refreshPrices) : after.book = left.service.book := by
  obtain ⟨later, last, hlater, rfl, -, hrs⟩ := h.later
  exact hlater.book_eq (hstep ▸ hrs)

end TickRecord

/-! ### The outcomes in a report -/

namespace Progress

/-- A step adds nothing to the outcomes of a parameter that it does not steer. -/
theorem Advance.outcomes_eq {parameter : Parameter}
    (h : Advance setup number p step xs (.ok next)) (hstep : step.parameter? ≠ some parameter) :
    next.parameters.filter (fun o => o.parameter = parameter) =
      p.parameters.filter fun o => o.parameter = parameter := by
  obtain ⟨outcome, hsteered, hnext⟩ := h.exists_steered
  rw [(hnext next rfl).1, List.filter_append, List.append_right_eq_self, List.filter_eq_nil_iff]
  intro o ho hparameter
  rw [Option.mem_toList] at ho
  exact hstep (of_decide_eq_true hparameter ▸ hsteered.parameter o ho)

theorem Leads.outcomes_eq {parameter : Parameter} (h : Leads setup number p rs last)
    (hrs : ∀ x ∈ rs, x.step.parameter? ≠ some parameter) :
    last.parameters.filter (fun o => o.parameter = parameter) =
      p.parameters.filter fun o => o.parameter = parameter :=
  h.preserves (P := fun step => step.parameter? ≠ some parameter)
    (I := fun q => q.parameters.filter (fun o => o.parameter = parameter) =
      p.parameters.filter fun o => o.parameter = parameter)
    (fun _ _ _ _ hstep hp hadvance => (hadvance.outcomes_eq hstep).trans hp) hrs rfl

end Progress

theorem TickStep.parameter?_inj {step other : TickStep} {parameter : Parameter}
    (h : step.parameter? = some parameter) (h' : other.parameter? = some parameter) :
    step = other := by
  cases step <;> cases h <;> cases other <;> cases h' <;> rfl

/-! ### One step of a tick -/

namespace Progress

theorem calls_goAhead (step : TickStep) : calls (goAhead step) = [] := by
  cases step <;> rfl

theorem fault?_goAhead (step : TickStep) : ∀ x ∈ goAhead step, x.fault? = none := by
  intro x hx
  rw [eq_of_mem_goAhead hx]
  rfl

/-- As long as no stop is requested, a step runs, and its status is explained by its calls. -/
theorem Advance.exists_run (h : Advance setup number p step xs (.ok next)) (hcalm : Calm xs) :
    ∃ ys r, (runStep setup p.service step).Path ys (next.service, r) ∧ Calm ys ∧
      calls xs = calls ys ∧ next.lastStatus = StepStatus.ofResult r ∧
      next.parameters = p.parameters ++ r.toOption.join.toList ∧
      ∃ status, next.lastStatus = some status ∧ status.Explained xs := by
  generalize hr : (Except.ok next : Except Breakdown Progress) = r at h
  cases h with
  | leftOut => exact absurd .told (hcalm _ List.mem_cons_self)
  | completed ran =>
    obtain rfl := Except.ok.inj hr
    obtain ⟨-, hys⟩ := hcalm.of_append
    refine ⟨_, _, ran, hys, by simp [calls_goAhead], by simp [lastStatus, StepStatus.ofResult],
      rfl, .completed, by simp [lastStatus], .completed ?_⟩
    exact List.forall_mem_append.2 ⟨fault?_goAhead step, (blames_runStep ran hys).flawless _ rfl⟩
  | interrupted ran =>
    obtain ⟨-, hys⟩ := hcalm.of_append
    obtain ⟨y, hy, hsummons⟩ := (heeds_runStep ran).2 rfl
    exact absurd hsummons (hys y hy)
  | @failed ys _ failure grave ran =>
    obtain rfl := Except.ok.inj hr
    obtain ⟨-, hys⟩ := hcalm.of_append.1.of_append
    obtain ⟨x, hx, hfault⟩ := (blames_runStep ran hys).blamed failure rfl
    refine ⟨_, _, ran, hys, ?_, by simp [lastStatus, StepStatus.ofResult],
      (List.append_nil _).symm, _, by simp [lastStatus], .failed (x := x) ?_ hfault⟩
    · rw [calls_append, calls_append, calls_goAhead]
      exact List.append_nil _
    · exact List.mem_append_left _ (List.mem_append_right _ hx)
  | broken => cases hr

end Progress

namespace TickRecord

variable {r r' : TickRecord} {after after' : Service} {report report' : TickReport}
  {x x' : StepRecord} {met left met' left' : Progress}

/-- The report tells of a parameter what the step that steers it has added. -/
theorem Took.outcomes_eq (h : r.Took setup after report x met left) {parameter : Parameter}
    (hstep : x.step.parameter? = some parameter) {added : List ParameterOutcome}
    (hleft : left.parameters = met.parameters ++ added) :
    report.outcomes parameter = added.filter fun o => o.parameter = parameter := by
  have hother : ∀ {rs : List StepRecord}, (∀ y ∈ rs, y.step ≠ x.step) →
      ∀ y ∈ rs, y.step.parameter? ≠ some parameter :=
    fun hrs y hy hsame => hrs y hy (TickStep.parameter?_inj hsame hstep)
  obtain ⟨earlier, hearlier, hrs⟩ := h.earlier
  obtain ⟨later, last, hlater, -, hparameters, hrs'⟩ := h.later
  rw [TickReport.outcomes, hparameters, hlater.outcomes_eq (hother hrs'), hleft,
    List.filter_append, hearlier.outcomes_eq (hother hrs)]
  rfl

/-- **Alike answers make a step come to the same in two ticks** from the same service. -/
theorem Took.sameOutcome (h : r.Took setup after report x met left)
    (h' : r'.Took setup after' report' x' met' left') (hsame : r.before = r'.before)
    (hstep : x.step = x'.step) (hcalm : Calm x.exchanges) (hcalm' : Calm x'.exchanges)
    (halike : AnswersAlike x.exchanges x'.exchanges)
    (hprices : x.step = .priceRatio → met.service.book.AgreesWith met'.service.book) :
    SameOutcome x x' after after' report report' := by
  obtain ⟨ys, result, hrun, hys, hcalls, hstatus, hparameters, -⟩ := h.went.exists_run hcalm
  obtain ⟨ys', result', hrun', hys', hcalls', hstatus', hparameters', -⟩ :=
    h'.went.exists_run hcalm'
  have hmeets : x.step.MeetsAlike met.service met'.service := by
    constructor
    · intro side hside
      have hbefore' := h'.agreesOn_before (hstep ▸ hside)
      rw [← hsame] at hbefore'
      exact (h.agreesOn_before hside).symm.trans hbefore'
    · rintro (hrefresh | hratio)
      · intro pair
        rw [h.book_before hrefresh, h'.book_before (hstep ▸ hrefresh), hsame]
      · exact hprices hratio
  rw [← hstep] at hrun'
  obtain ⟨hsameCalls, rfl, hleaves⟩ := matched_runStep setup hmeets _ _ _ _ hrun hrun' hys hys'
    (halike.congr hcalls.symm hcalls'.symm)
  have hcallsEq : calls x.exchanges = calls x'.exchanges := by rw [hcalls, hcalls', hsameCalls]
  constructor
  case status =>
    rw [h.status, h.last, hstatus, hstep, h'.status, h'.last, hstatus']
  case outcomes =>
    intro parameter hparameter
    rw [h.outcomes_eq hparameter hparameters,
      h'.outcomes_eq (hstep ▸ hparameter) hparameters']
  case calls => exact hcallsEq
  case submissions =>
    rw [StepRecord.submissions, StepRecord.submissions, ← filterMap_submission?_calls, hcallsEq,
      filterMap_submission?_calls]
  case leaves =>
    constructor
    · intro side hside
      have hafter' := h'.agreesOn_after (hstep ▸ hside)
      exact (h.agreesOn_after hside).symm.trans ((hleaves.ledger side hside).trans hafter')
    · intro hrefresh
      rw [h.book_after hrefresh, h'.book_after (hstep ▸ hrefresh)]
      exact hleaves.prices hrefresh

end TickRecord

/-! ### Two ticks -/

/-- **Steps do not disturb each other.** Take two ticks from the same service, each in surroundings
of its own. If every limit can be scaled, a tick comes to its end. Then it has taken all steps, and
its report lists them in order. As long as no stop is requested, a step is reported as failed
exactly if one of its own calls has brought a failure, and with a failure that one has brought; all
others are completed. A reconciliation that is not completed changes nothing of its side in the
billing, and nothing in a store in which only a commit that succeeds changes anything. And a step
whose calls are answered alike in both ticks comes to the same in both, whatever the other steps
were answered, and whichever of them failed. Only of the price ratio it is assumed as well that both
ticks have left the same prices in the book. -/
theorem steps_isolated {σ τ : Type} (env : Answerer Query.Answer σ) (env' : Answerer Query.Answer τ)
    (setup : Setup) (s : Service) (w : σ) (w' : τ) :
    let r := tickRecord env setup s w
    let r' := tickRecord env' setup s w'
    (setup.controller.IsScalable → ∃ after report, r.result = .ok (after, report)) ∧
      ∀ after report, r.result = .ok (after, report) →
        (r.steps.map StepRecord.step = TickStep.all ∧
          report.steps.map Prod.fst = TickStep.all) ∧
        (∀ x ∈ r.steps, Calm x.exchanges →
          ∃ status, report.status? x.step = some status ∧ status.Explained x.exchanges ∧
            ((∃ kind message, status = .failed kind message) ↔
              ∃ y ∈ x.exchanges, y.fault? ≠ none)) ∧
        (∀ side : Side, report.status? side.step ≠ some .completed →
          s.billing.AgreesOn side after.billing ∧
            ∀ (β : Type) (view : σ → β), env.KeepsUnlessStored side view →
              view ((tick setup s).run env w).2 = view w) ∧
        ∀ after' report', r'.result = .ok (after', report') →
          ∀ x ∈ r.steps, ∀ x' ∈ r'.steps, x.step = x'.step →
            Calm x.exchanges → Calm x'.exchanges → AnswersAlike x.exchanges x'.exchanges →
            (x.step = .priceRatio → after.book.AgreesWith after'.book) →
            SameOutcome x x' after after' report report' := by
  intro r r'
  constructor
  · intro hscale
    obtain ⟨after, report, v, hrun⟩ := tick_run_isOk hscale env s w
    exact ⟨after, report, congrArg Prod.fst hrun⟩
  intro after report h
  have hr : r ∈ history env setup 1 s w := List.mem_cons_self
  refine ⟨?_, fun x hx hcalm => ?_, fun side hnot => ⟨?_, fun β view henv => ?_⟩, ?_⟩
  · obtain ⟨last, hleads, hall, -, hsteps, -⟩ := TickRecord.exists_leads hr h
    have hmap := congrArg (List.map Prod.fst) hleads.map_steps
    simp only [List.map_map, List.map_append] at hmap
    refine ⟨hall, ?_⟩
    rw [hsteps, ← hall]
    exact hmap
  · obtain ⟨met, left, took⟩ := TickRecord.took_of_mem hr h hx
    obtain ⟨-, -, -, -, -, -, -, status, hlast, hexplained⟩ := took.went.exists_run hcalm
    exact ⟨status, by rw [took.status, took.last, hlast], hexplained, hexplained.iff⟩
  · obtain ⟨x, met, left, hstep, took⟩ := TickRecord.exists_took hr h side.step
    exact took.agreesOn hstep (by rwa [← took.status, hstep])
  · exact view_eq_of_not_completed h henv hnot
  · intro after' report' h' x hx x' hx' hstep hcalm hcalm' halike hprices
    have hr' : r' ∈ history env' setup 1 s w' := List.mem_cons_self
    obtain ⟨met, left, took⟩ := TickRecord.took_of_mem hr h hx
    obtain ⟨met', left', took'⟩ := TickRecord.took_of_mem hr' h' hx'
    refine took.sameOutcome took' rfl hstep hcalm hcalm' halike fun hratio => ?_
    have hbook := TickRecord.book_eq_of_mem hr h hx (by rw [hratio]; decide)
    have hbook' := TickRecord.book_eq_of_mem hr' h' hx' (by rw [← hstep, hratio]; decide)
    rw [← took.before, ← took'.before, hbook, hbook']
    exact hprices hratio

/-- Surroundings in which the gas price has doubled and everything works but some of the calls. The
state is what has been stored. -/
def partlyDown (down : Query → Bool) : Answerer Query.Answer (List Snapshot) where
  answer q kept :=
    if down q then (q.refused, kept)
    else
      match q with
      | .latestAnswer _ => (.ok ⟨Amount.clamp 200, 2⟩, kept)
      | .balance .. | .tokenBalance .. => (.ok (Amount.clamp 7), kept)
      | .gasPrice => (.ok (Amount.clamp 20), kept)
      | .l1BaseFee => (.ok (Amount.clamp 10), kept)
      | .submit _ => (.ok (Hash.ofNat 1), kept)
      | .confirmation _ tx _ => (.finished (.ok ⟨tx, none, none⟩), kept)
      | .commit s => (.ok (), s :: kept)
      | q => (q.refused, kept)

/-- The calls to the feeds, and the commits of the first layer. -/
def Query.isFeedOrL1Commit : Query → Bool
  | .latestAnswer _ => true
  | .commit s => s.side = .l1
  | _ => false

theorem not_isSummons_partlyDown (down : Query → Bool) (q : Query) (kept : List Snapshot) :
    ¬ (⟨q, ((partlyDown down).answer q kept).1⟩ : Exchange Query.Answer).IsSummons := by
  simp only [partlyDown]
  split <;> cases q <;> rintro (_ | _ | ⟨⟨⟩⟩)

theorem keepsUnlessStored_partlyDown (down : Query → Bool) (side : Side) :
    (partlyDown down).KeepsUnlessStored side fun kept => kept.filter fun s => s.side = side := by
  intro q kept hother
  simp only [partlyDown] at hother ⊢
  split
  · rfl
  · next hup =>
    rw [if_neg hup] at hother
    cases q with
    | commit s =>
      have hside := hother s rfl
      simp [hside]
    | _ => rfl

theorem answeredAlike_partlyDown {step : TickStep} (h : step = .reconcileL2 ∨ step = .l1BaseFee) :
    step.AnsweredAlike (partlyDown fun _ => false) (partlyDown Query.isFeedOrL1Commit) := by
  have hup : ∀ q, step.mayAsk q = true → q.isFeedOrL1Commit = false := by
    intro q hq
    cases q with
    | latestAnswer pair => rcases h with rfl | rfl <;> cases hq
    | commit s =>
      have hside := TickStep.step_of_mayAsk_commit hq
      rcases h with rfl | rfl <;> cases hs : s.side <;> rw [hs] at hside <;> cases hside
      exact decide_eq_false (by simp [hs])
    | _ => rfl
  constructor
  · intro q v v' hq _
    simp only [partlyDown, hup q hq]
    cases q <;> rfl
  · intro snapshot t v v' hq
    have hcommit : (Query.commit { snapshot with updatedAt := t }).isFeedOrL1Commit = false :=
      hup (.commit snapshot) hq
    simp only [partlyDown, hcommit]
    rfl

/-- A tick in which the feeds answer and both layers can be committed, and one in which neither the
feeds answer nor the first layer can be committed. The base fee is moved alike in both, and the
second layer is reconciled alike. Of the first layer nothing is changed and nothing is stored in the
second tick. -/
theorem isolated_partlyDown :
    let env := partlyDown fun _ => false
    let env' := partlyDown Query.isFeedOrL1Commit
    ∃ after report after' report',
      (tickRecord env Setup.plain Service.fresh []).result = .ok (after, report) ∧
      (tickRecord env' Setup.plain Service.fresh []).result = .ok (after', report') ∧
      report.failedSteps = [.priceRatio, .overhead] ∧
      report'.failedSteps = [.refreshPrices, .reconcileL1, .priceRatio, .overhead] ∧
      report.outcomes .l1BaseFee = report'.outcomes .l1BaseFee ∧
      after.billing.AgreesOn .l2 after'.billing ∧
      Service.fresh.billing.AgreesOn .l1 after'.billing ∧
      (((tick Setup.plain Service.fresh).run env' []).2.filter fun s => s.side = .l1) = [] := by
  intro env env'
  obtain ⟨hends, htick⟩ := steps_isolated env env' Setup.plain Service.fresh [] []
  obtain ⟨hends', htick'⟩ := steps_isolated env' env Setup.plain Service.fresh [] []
  obtain ⟨after, report, h⟩ := hends Setup.isScalable_plain
  obtain ⟨after', report', h'⟩ := hends' Setup.isScalable_plain
  obtain ⟨⟨hall, -⟩, -, -, hsame⟩ := htick after report h
  obtain ⟨⟨hall', -⟩, -, hkept, -⟩ := htick' after' report' h'
  have hexists : ∀ {down : Query → Bool} (step : TickStep),
      (tickRecord (partlyDown down) Setup.plain Service.fresh []).steps.map StepRecord.step =
        TickStep.all →
      ∃ x ∈ (tickRecord (partlyDown down) Setup.plain Service.fresh []).steps, x.step = step := by
    intro down step hall
    have hmem : step ∈ TickStep.all := by cases step <;> decide
    rw [← hall] at hmem
    exact List.mem_map.1 hmem
  have hsameStep : ∀ step, step = .reconcileL2 ∨ step = .l1BaseFee →
      ∃ x x', x.step = step ∧ SameOutcome x x' after after' report report' := by
    intro step hstep
    obtain ⟨x, hx, rfl⟩ := hexists step hall
    obtain ⟨x', hx', hx'step⟩ := hexists x.step hall'
    refine ⟨x, x', rfl, hsame after' report' h' x hx x' hx' hx'step.symm
      (calm_of_mem_steps (not_isSummons_partlyDown _) hx)
      (calm_of_mem_steps (not_isSummons_partlyDown _) hx')
      ((answeredAlike_partlyDown hstep).answersAlike hx hx') ?_⟩
    rcases hstep with hstep | hstep <;> rw [hstep] <;> nofun
  have hfailed : (tickRecord env Setup.plain Service.fresh []).result.toOption.map
      (fun y => y.2.failedSteps) = some [.priceRatio, .overhead] := by decide +kernel
  have hfailed' : (tickRecord env' Setup.plain Service.fresh []).result.toOption.map
      (fun y => (y.2.failedSteps, decide (y.2.status? Side.l1.step = some .completed))) =
        some ([.refreshPrices, .reconcileL1, .priceRatio, .overhead], false) := by decide +kernel
  simp only [h, Except.toOption, Option.map_some, Option.some.injEq] at hfailed
  simp only [h', Except.toOption, Option.map_some, Option.some.injEq, Prod.mk.injEq] at hfailed'
  obtain ⟨hfailed', hl1⟩ := hfailed'
  have hl1 := of_decide_eq_false hl1
  obtain ⟨x, x', hx, hl2⟩ := hsameStep .reconcileL2 (.inl rfl)
  obtain ⟨y, y', hy, hfee⟩ := hsameStep .l1BaseFee (.inr rfl)
  refine ⟨after, report, after', report', h, h', hfailed, hfailed', ?_, ?_, (hkept .l1 hl1).1, ?_⟩
  · exact hfee.outcomes .l1BaseFee (by rw [hy]; rfl)
  · exact hl2.leaves.ledger .l2 hx
  · exact (hkept .l1 hl1).2 _ _ (keepsUnlessStored_partlyDown _ .l1)

end RollupFees
