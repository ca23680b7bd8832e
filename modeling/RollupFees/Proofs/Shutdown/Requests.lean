import RollupFees.Proofs.Dated
import RollupFees.Proofs.Loop
import RollupFees.Proofs.Shutdown.Heed
import RollupFees.Shutdown
import RollupFees.Snapshot.Store

/-!
# A request to stop

A request to stop may come at any moment: while a question is out, whichever it is, or while the
service pauses. Where a request and something else are ready at the same time, either may be taken
first. From then on nothing is handed in; the steps that write on chain are cancelled, the others
are not; and the service ends with the tick that it is in, or with one more tick that hands in
nothing.

## Main definitions

* `Stoppable` : surroundings in which a request to stop may come at any moment
* `Progress.starts`, `serviceTicks` : the states in which steps and ticks start
* `Stoppable.TickStops`, `Stoppable.ServiceStops` : what a request does to a tick and to a service

## Main results

* `stops_on_request` : every tick and every service stop as they should
-/

namespace RollupFees

/-- What may become of a channel: requests are made, and the handle is given up. -/
inductive Shutdown.Leads : Shutdown → Shutdown → Prop
  | refl (s : Shutdown) : Leads s s
  | request {s t : Shutdown} (h : Leads s t) : Leads s t.request.1
  | drop {s t : Shutdown} (h : Leads s t) : Leads s t.drop

/-- A request stands once it has been made. -/
theorem Shutdown.Leads.isRequested {s t : Shutdown} {signal : Signal} (h : s.Leads t)
    (hs : s.isRequested signal = true) : t.isRequested signal = true := by
  induction h with
  | refl => exact hs
  | @request t _ ih =>
    cases signal with
    | never => exact ih
    | listening =>
      rw [Shutdown.request]
      split
      · rfl
      · exact ih
  | drop _ ih => rw [isRequested_drop, ih]

/-- Committing a snapshot fails for reasons of storage only. -/
theorem SnapshotStore.ne_shutdown_of_path {s : Snapshot} {ys : List (Exchange FileRequest.Reply)}
    {r : Except Failure Unit} (h : (commit s).Path ys r) : r ≠ .error .shutdown := by
  obtain ⟨_, _, e | _, rfl, -, rfl, rfl⟩ := Dialogue.path_bind.1 h <;> nofun

/-- An update that is left unconfirmed because of a request to stop. -/
def Exchange.isInterrupted : Exchange Query.Answer → Bool
  | ⟨.confirmation .., .interrupted⟩ => true
  | _ => false

/-- Surroundings with a channel for requests to stop, which may come while any question is out. A
look at the signal shows how things stand, a wait is interrupted only by a request, and nothing else
that is called claims that there is one: the chains and feeds do not, and snapshots are committed by
the store, whatever the file system makes of it. -/
structure Stoppable (σ : Type) where
  env : Answerer Query.Answer σ
  channel : σ → Shutdown
  signal : Shutdown.Signal
  moves : ∀ q w, (channel w).Leads (channel (env.answer q w).2)
  told : ∀ w, (env.answer .shutdownRequested w).1 =
    (channel (env.answer .shutdownRequested w).2).isRequested signal
  interrupted : ∀ parameter tx limit w,
    (env.answer (.confirmation parameter tx limit) w).1 = .interrupted →
      (channel (env.answer (.confirmation parameter tx limit) w).2).isRequested signal = true
  calls : ∀ q w, q.isReading = true ∨ q.isWriting = true →
    (⟨q, (env.answer q w).1⟩ : Exchange Query.Answer).failure? ≠ some .shutdown
  commits : ∀ s w, ∃ xs, (SnapshotStore.commit s).Path xs (env.answer (.commit s) w).1

variable {σ : Type} {setup : Setup}

namespace Progress

/-- The steps of a tick that are begun, each with the state in which it starts. -/
def starts (env : Answerer Query.Answer σ) (setup : Setup) (number : Nat) (p : Progress) :
    List TickStep → σ → List (TickStep × σ)
  | [], _ => []
  | step :: rest, w =>
    (step, w) ::
      match (advance setup number p step).run env w with
      | (.ok next, later) => starts env setup number next rest later
      | (.error _, _) => []

end Progress

/-- The steps of a tick, each with the state in which it starts. -/
def tickStarts (env : Answerer Query.Answer σ) (setup : Setup) (s : Service) (w : σ) :
    List (TickStep × σ) :=
  s.nextTick.starts env setup (s.ticks + 1) TickStep.all (env.answer .uptime w).2

/-- The ticks of a service in so many turns: the service that each of them meets, with the state in
which it starts. -/
def serviceTicks (env : Answerer Query.Answer σ) (setup : Setup) :
    Nat → Service → σ → List (Service × σ)
  | 0, _, _ => []
  | turns + 1, s, w =>
    let paused : Bool × σ := env.answer (.pause setup.pollingInterval) w
    if paused.1 then []
    else
      (s, paused.2) ::
        match (turn setup s).run env w with
        | (.again after, later) => serviceTicks env setup turns after later
        | _ => []

namespace Stoppable

variable (S : Stoppable σ)

/-- Whether a request has been made. -/
def requested (w : σ) : Bool := (S.channel w).isRequested S.signal

/-- What a request to stop does to a tick, whenever it comes. -/
structure TickStops (setup : Setup) (s : Service) (w : σ) : Prop where
  /-- No update is handed in after the request. -/
  nothingLate : ∀ y ∈ S.env.dated ((tick setup s).transcript S.env w) w, ∀ u,
    y.2.question = .submit u → S.requested y.1 = false
  /-- At most one update is left unconfirmed because of the request. -/
  unconfirmed : (((tick setup s).transcript S.env w).filter Exchange.isInterrupted).length ≤ 1
  /-- There is a report. -/
  reports : setup.controller.IsScalable →
    ∃ after report, ((tick setup s).run S.env w).1 = .ok (after, report)
  /-- The report lists every step once and in order. -/
  listed : ∀ after report, ((tick setup s).run S.env w).1 = .ok (after, report) →
    report.steps.map Prod.fst = TickStep.all ∧
      (tickStarts S.env setup s w).map Prod.fst = TickStep.all
  /-- A step that writes on chain is cancelled if it starts after the request. -/
  cancelled : ∀ after report, ((tick setup s).run S.env w).1 = .ok (after, report) →
    ∀ x ∈ tickStarts S.env setup s w, x.1.writesOnChain = true → S.requested x.2 = true →
      (x.1, .cancelled) ∈ report.steps
  /-- A step that does not write on chain is never cancelled. -/
  reading : ∀ after report, ((tick setup s).run S.env w).1 = .ok (after, report) →
    ∀ x ∈ report.steps, x.1.writesOnChain = false → x.2 ≠ .cancelled
  /-- The steps that are cancelled are the last ones of those that write on chain. -/
  last : ∀ after report, ((tick setup s).run S.env w).1 = .ok (after, report) →
    (report.steps.filter fun x => x.2 = .cancelled) <:+
      report.steps.filter fun x => x.1.writesOnChain

/-- What a request to stop does to a service that takes turns, whenever it comes. -/
structure ServiceStops (setup : Setup) (s : Service) (w : σ) (turns : Nat) : Prop where
  /-- No update is handed in after the request. -/
  nothingLate : ∀ y ∈ S.env.dated ((serve setup s turns).transcript S.env w) w, ∀ u,
    y.2.question = .submit u → S.requested y.1 = false
  /-- At most one update is left unconfirmed because of the request. -/
  unconfirmed :
    (((serve setup s turns).transcript S.env w).filter Exchange.isInterrupted).length ≤ 1
  /-- At most one tick starts after the request. It is the last one, it hands in nothing, and then
  the service ends. -/
  lastTick : ∃ early late, serviceTicks S.env setup turns s w = early ++ late ∧
    (∀ x ∈ early, S.requested x.2 = false) ∧ late.length ≤ 1 ∧
      ∀ x ∈ late, S.requested x.2 = true ∧
        submissions ((tick setup x.1).transcript S.env x.2) = [] ∧
        ∀ after, ((serve setup s turns).run S.env w).1 ≠ .again after
  /-- A service goes on after a turn only if there is no request. -/
  goesOn : ∀ after, turns ≠ 0 → ((serve setup s turns).run S.env w).1 = .again after →
    S.requested ((serve setup s turns).run S.env w).2 = false
  /-- Otherwise it has stopped. -/
  stopped : setup.controller.IsScalable →
    ∃ after, ((serve setup s turns).run S.env w).1 = .again after ∨
      ((serve setup s turns).run S.env w).1 = .stopped after

variable {S} {xs : List (Exchange Query.Answer)} {w : σ}

/-! ### Requests along exchanges -/

/-- A request stands while a question is answered. -/
theorem requested_answer (q : Query) (h : S.requested w = true) :
    S.requested (S.env.answer q w).2 = true := (S.moves q w).isRequested h

theorem requested_after (xs : List (Exchange Query.Answer)) (h : S.requested w = true) :
    S.requested (S.env.after xs w) = true := by
  induction xs generalizing w with
  | nil => exact h
  | cons x xs ih => exact ih (requested_answer x.question h)

theorem requested_run {α : Type} (d : Talk α) (h : S.requested w = true) :
    S.requested (d.run S.env w).2 = true := by
  rw [← Dialogue.after_transcript]
  exact requested_after _ h

/-- What is heard of a request is true, and it is heard from the signal or from a wait. -/
theorem requested_of_isSummons {x : Exchange Query.Answer} (hgives : S.env.Gives xs w)
    (hmem : x ∈ xs) (hsummons : x.IsSummons) :
    (x.question = .shutdownRequested ∨
      ∃ parameter tx limit, x.question = .confirmation parameter tx limit) ∧
      S.requested (S.env.after xs w) = true := by
  induction xs generalizing w with
  | nil => cases hmem
  | cons y ys ih =>
    obtain ⟨hanswer, hrest⟩ := hgives
    rcases List.mem_cons.1 hmem with rfl | hmem
    · have hstands : ∀ later, S.requested (S.env.answer x.question w).2 = true →
          S.requested (S.env.after later (S.env.answer x.question w).2) = true :=
        fun later => requested_after later
      cases hsummons with
      | told => exact ⟨.inl rfl, hstands ys ((S.told w).symm.trans hanswer.symm)⟩
      | interrupted =>
        exact ⟨.inr ⟨_, _, _, rfl⟩, hstands ys (S.interrupted _ _ _ w hanswer.symm)⟩
      | failed hfailure =>
        obtain ⟨q, r⟩ := x
        obtain rfl : r = (S.env.answer q w).1 := hanswer
        cases q with
        | commit s =>
          -- a commit fails for reasons of the disk only
          obtain ⟨zs, hpath⟩ := S.commits s w
          have hne := SnapshotStore.ne_shutdown_of_path hpath
          cases hr : (S.env.answer (.commit s) w).1 with
          | ok _ =>
            rw [hr] at hfailure
            cases hfailure
          | error e =>
            rw [hr] at hfailure hne
            obtain rfl : e = .shutdown := Option.some.inj hfailure
            exact absurd rfl hne
        | shutdownRequested | load | now | uptime | note | pause => cases hfailure
        | submit | confirmation => exact absurd hfailure (S.calls _ w (.inr rfl))
        | _ => exact absurd hfailure (S.calls _ w (.inl rfl))
    · exact ih hrest hmem

theorem isInterrupted_eq_false {x : Exchange Query.Answer} (h : x.question.isWriting = false) :
    x.isInterrupted = false := by
  obtain ⟨q, r⟩ := x
  cases q with
  | confirmation => cases h
  | _ => rfl

/-- An answer that there is no request is true, and there has been none before. -/
theorem idle_of_told (h : false = (S.env.answer .shutdownRequested w).1) :
    S.requested w = false ∧ S.requested (S.env.answer .shutdownRequested w).2 = false := by
  have hafter : S.requested (S.env.answer .shutdownRequested w).2 = false :=
    (S.told w).symm.trans h.symm
  refine ⟨?_, hafter⟩
  cases hw : S.requested w with
  | false => rfl
  | true =>
    rw [requested_answer _ hw] at hafter
    cases hafter

/-- Where writes are in order nothing is handed in after a request, and no more than one wait is
interrupted. -/
theorem stops_of_orderly (h : Orderly xs) (hgives : S.env.Gives xs w) :
    (∀ y ∈ S.env.dated xs w, ∀ u, y.2.question = .submit u → S.requested y.1 = false) ∧
      (xs.filter Exchange.isInterrupted).length ≤ 1 ∧
      (S.requested w = true → xs.filter Exchange.isInterrupted = []) := by
  induction h generalizing w with
  | nil => simp
  | @other x xs quiet _ ih =>
    obtain ⟨-, hrest⟩ := hgives
    obtain ⟨hsubmits, hone, hnone⟩ := ih hrest
    rw [List.filter_cons_of_neg (by simp [isInterrupted_eq_false quiet])]
    refine ⟨?_, hone, fun hw => hnone (requested_answer _ hw)⟩
    rintro y (_ | ⟨_, hy⟩) u hu
    · rw [hu] at quiet
      cases quiet
    · exact hsubmits y hy u hu
  | @refused u e xs _ ih =>
    obtain ⟨hfalse, -, hrest⟩ := hgives
    obtain ⟨hbefore, hidle⟩ := idle_of_told hfalse
    obtain ⟨hsubmits, hone, hnone⟩ := ih hrest
    refine ⟨?_, hone, fun hw => absurd hw (by simp [hbefore])⟩
    rintro y (_ | ⟨_, _ | ⟨_, hy⟩⟩) u' hu
    · cases hu
    · exact hidle
    · exact hsubmits y hy u' hu
  | @followed u tx n limit wait xs _ ih =>
    obtain ⟨hfalse, -, -, hwait, hrest⟩ := hgives
    obtain ⟨hbefore, hidle⟩ := idle_of_told hfalse
    obtain ⟨hsubmits, hone, hnone⟩ := ih hrest
    refine ⟨?_, ?_, fun hw => absurd hw (by simp [hbefore])⟩
    · rintro y (_ | ⟨_, _ | ⟨_, _ | ⟨_, _ | ⟨_, hy⟩⟩⟩⟩) u' hu
      · cases hu
      · exact hidle
      · cases hu
      · cases hu
      · exact hsubmits y hy u' hu
    · rw [List.filter_append]
      cases wait with
      | interrupted =>
        -- after a wait that was interrupted no other one is
        rw [hnone (S.interrupted _ _ _ _ hwait.symm)]
        exact Nat.le_refl 1
      | finished | timedOut => exact hone

/-! ### Steps of a tick -/

variable {number : Nat} {p next : Progress} {step : TickStep}

/-- Whether a step is cancelled: it is if it writes on chain and starts after a request; and if it
is, then it writes on chain and there is a request by its end. -/
theorem exists_status (hgives : S.env.Gives xs w)
    (h : Progress.Advance setup number p step xs (.ok next)) :
    ∃ status, next.steps = p.steps ++ [(step, status)] ∧
      (step.writesOnChain = true → S.requested w = true → status = .cancelled) ∧
      (status = .cancelled →
        step.writesOnChain = true ∧ S.requested (S.env.after xs w) = true) := by
  have hidle : ∀ {ys}, S.env.Gives (Progress.goAhead step ++ ys) w → step.writesOnChain = true →
      S.requested w = true → False := by
    intro ys hys hwrites hw
    rw [Progress.goAhead, if_pos hwrites] at hys
    rw [(idle_of_told hys.1).1] at hw
    cases hw
  generalize hr : (Except.ok next : Except Breakdown Progress) = r at h
  cases h with
  | leftOut writes =>
    obtain rfl := Except.ok.inj hr
    have hheard := requested_of_isSummons hgives (List.mem_singleton_self _) .told
    exact ⟨.cancelled, rfl, fun _ _ => rfl, fun _ => ⟨writes, hheard.2⟩⟩
  | completed ran =>
    obtain rfl := Except.ok.inj hr
    exact ⟨.completed, rfl, fun hwrites hw => (hidle hgives hwrites hw).elim,
      fun hcancelled => by cases hcancelled⟩
  | @interrupted ys s ran =>
    obtain rfl := Except.ok.inj hr
    obtain ⟨x, hx, hsummons⟩ := (heeds_runStep ran).2 rfl
    have hheard := requested_of_isSummons hgives (List.mem_append_right _ hx) hsummons
    refine ⟨.cancelled, rfl, fun _ _ => rfl, fun _ => ⟨?_, hheard.2⟩⟩
    -- only a step that writes on chain asks, and waits
    have hasked := (asks_runStep setup p.service step).path ran x hx
    rcases hheard.1 with hq | ⟨parameter, tx, limit, hq⟩ <;> rw [hq] at hasked <;>
      cases step <;> first | rfl | cases hasked
  | failed grave ran =>
    obtain rfl := Except.ok.inj hr
    rw [List.append_assoc] at hgives
    exact ⟨_, rfl, fun hwrites hw => (hidle hgives hwrites hw).elim,
      fun hcancelled => by cases hcancelled⟩
  | broken ran => cases hr

/-- What a request does to steps in order, of which `reported` tells what became. -/
structure Cancels (S : Stoppable σ) (setup : Setup) (number : Nat) (p : Progress)
    (steps : List TickStep) (w : σ) (reported : List (TickStep × StepStatus)) : Prop where
  listed : reported.map Prod.fst = steps
  begun : (p.starts S.env setup number steps w).map Prod.fst = steps
  late : ∀ x ∈ p.starts S.env setup number steps w, x.1.writesOnChain = true →
    S.requested x.2 = true → (x.1, .cancelled) ∈ reported
  /-- If the request is there from the start, every step that writes on chain is cancelled. -/
  all : S.requested w = true → ∀ y ∈ reported, y.1.writesOnChain = true → y.2 = .cancelled
  writes : ∀ y ∈ reported, y.2 = .cancelled → y.1.writesOnChain = true
  onwards : reported.Pairwise fun y later =>
    y.2 = .cancelled → later.1.writesOnChain = true → later.2 = .cancelled

theorem cancels_nil : Cancels S setup number p [] w [] := by
  constructor <;> simp [Progress.starts]

/-- A step that is cancelled leaves a request behind, and then the later ones are cancelled. -/
theorem Cancels.cons {v : σ} {status : StepStatus} {rest : List TickStep}
    {reported : List (TickStep × StepStatus)}
    (hstep : (Progress.advance setup number p step).run S.env w = (.ok next, v))
    (hlate : step.writesOnChain = true → S.requested w = true → status = .cancelled)
    (hcancelled : status = .cancelled → step.writesOnChain = true ∧ S.requested v = true)
    (h : Cancels S setup number next rest v reported) :
    Cancels S setup number p (step :: rest) w ((step, status) :: reported) where
  listed := by rw [List.map_cons, h.listed]
  begun := by rw [Progress.starts, hstep, List.map_cons, h.begun]
  late := by
    rw [Progress.starts, hstep]
    rintro x (_ | ⟨_, hx⟩) hwrites hw
    · rw [hlate hwrites hw]
      exact List.mem_cons_self
    · exact List.mem_cons_of_mem _ (h.late x hx hwrites hw)
  all hw := by
    have hv := requested_run (Progress.advance setup number p step) hw
    rw [hstep] at hv
    exact List.forall_mem_cons.2 ⟨fun hwrites => hlate hwrites hw, h.all hv⟩
  writes := List.forall_mem_cons.2 ⟨fun hx => (hcancelled hx).1, h.writes⟩
  onwards := List.pairwise_cons.2 ⟨fun y hy hx => h.all (hcancelled hx).2 y hy, h.onwards⟩

theorem cancels_advanceAll (steps : List TickStep) :
    ∀ {p last : Progress} {w v : σ},
      (Progress.advanceAll setup number p steps).run S.env w = (.ok last, v) →
      ∃ reported, last.steps = p.steps ++ reported ∧
        Cancels S setup number p steps w reported := by
  induction steps with
  | nil =>
    intro p last w v h
    obtain ⟨rfl, -⟩ : p = last ∧ w = v := by simpa [Progress.advanceAll] using h
    exact ⟨[], (List.append_nil _).symm, cancels_nil⟩
  | cons step rest ih =>
    intro p last w v h
    simp only [Progress.advanceAll, Dialogue.run_bind] at h
    have hpath := Dialogue.path_run S.env (Progress.advance setup number p step) w
    have hgives := Dialogue.gives_transcript S.env (Progress.advance setup number p step) w
    have hafter := Dialogue.after_transcript S.env (Progress.advance setup number p step) w
    rcases hstep : (Progress.advance setup number p step).run S.env w with ⟨_ | next, u⟩
    · rw [hstep] at h
      cases h
    · rw [hstep] at h hpath hafter
      obtain ⟨status, hsteps, hlate, hcancelled⟩ :=
        exists_status hgives (Progress.advance_of_path hpath)
      rw [hafter] at hcancelled
      obtain ⟨reported, hreported, hrest⟩ := ih h
      refine ⟨(step, status) :: reported, ?_, hrest.cons hstep hlate hcancelled⟩
      rw [hreported, hsteps, List.append_assoc]
      rfl

/-- What is cancelled comes last if everything after it that might be is cancelled, too. -/
theorem filter_suffix_of_pairwise {α : Type} {P Q : α → Bool} {l : List α}
    (hsub : ∀ x ∈ l, P x = true → Q x = true)
    (hpairs : l.Pairwise fun x y => P x = true → Q y = true → P y = true) :
    l.filter P <:+ l.filter Q := by
  induction l with
  | nil => exact List.suffix_refl _
  | cons x l ih =>
    obtain ⟨hfirst, hrest⟩ := List.pairwise_cons.1 hpairs
    obtain ⟨hx, hl⟩ := List.forall_mem_cons.1 hsub
    by_cases hp : P x = true
    · have hsame : (x :: l).filter P = (x :: l).filter Q := by
        refine List.filter_congr ?_
        rintro y (_ | ⟨_, hy⟩)
        · rw [hp, hx hp]
        · rw [Bool.eq_iff_iff]
          exact ⟨hl y hy, hfirst y hy hp⟩
      exact ⟨[], hsame⟩
    · rw [List.filter_cons_of_neg hp]
      have hq : l.filter Q <:+ (x :: l).filter Q := by
        rw [List.filter_cons]
        split
        · exact List.suffix_cons _ _
        · exact List.suffix_refl _
      exact (ih hl hrest).trans hq

/-- Whenever a request to stop comes, a tick stops as it should. -/
theorem tickStops (S : Stoppable σ) (setup : Setup) (s : Service) (w : σ) :
    S.TickStops setup s w := by
  have horderly := orderly_tick setup s _ _ (Dialogue.path_run S.env (tick setup s) w)
  obtain ⟨hsubmits, hone, -⟩ := stops_of_orderly (S := S) horderly
    (Dialogue.gives_transcript S.env (tick setup s) w)
  have hcancels : ∀ after report, ((tick setup s).run S.env w).1 = .ok (after, report) →
      Cancels S setup (s.ticks + 1) s.nextTick TickStep.all (S.env.answer .uptime w).2
        report.steps := by
    intro after report h
    obtain ⟨last, hlast, -, hsteps, -⟩ := tick_run S.env s w h
    obtain ⟨reported, hreported, hcancels⟩ := cancels_advanceAll TickStep.all (Prod.ext hlast rfl)
    have hreport : report.steps = reported := by rw [hsteps, hreported]; rfl
    rw [hreport]
    exact hcancels
  constructor
  case nothingLate => exact hsubmits
  case unconfirmed => exact hone
  case reports =>
    intro hsetup
    obtain ⟨after, report, _, hrun⟩ := tick_run_isOk hsetup S.env s w
    exact ⟨after, report, by rw [hrun]⟩
  case listed =>
    exact fun after report h => ⟨(hcancels after report h).listed, (hcancels after report h).begun⟩
  case cancelled => exact fun after report h => (hcancels after report h).late
  case reading =>
    intro after report h x hx hreads hcancelled
    rw [(hcancels after report h).writes x hx hcancelled] at hreads
    cases hreads
  case last =>
    intro after report h
    refine filter_suffix_of_pairwise (by simpa using (hcancels after report h).writes) ?_
    exact (hcancels after report h).onwards.imp fun himp => by simpa using himp

/-! ### Turns of a service -/

variable {s after : Service} {turns : Nat}

theorem requested_dated (xs : List (Exchange Query.Answer)) (h : S.requested w = true) :
    ∀ y ∈ S.env.dated xs w, S.requested y.1 = true := by
  induction xs generalizing w with
  | nil => simp
  | cons x xs ih =>
    rw [Answerer.dated_cons]
    exact List.forall_mem_cons.2 ⟨h, ih (requested_answer x.question h)⟩

/-- A tick that starts after a request hands in nothing. -/
theorem submissions_tick (h : S.requested w = true) :
    submissions ((tick setup s).transcript S.env w) = [] := by
  rw [submissions, List.filterMap_eq_nil_iff]
  intro x hx
  rw [← Answerer.map_snd_dated S.env ((tick setup s).transcript S.env w) w, List.mem_map] at hx
  obtain ⟨y, hy, rfl⟩ := hx
  obtain ⟨v, q, r⟩ := y
  cases q with
  | submit u =>
    have hidle := (S.tickStops setup s w).nothingLate _ hy u rfl
    rw [requested_dated _ h _ hy] at hidle
    cases hidle
  | _ => rfl

/-- The last thing that a turn does before the service goes on is to ask. -/
theorem path_turn_again (h : (turn setup s).Path xs (.again after)) :
    ∃ ys, xs = ys ++ [⟨.shutdownRequested, false⟩] := by
  obtain ⟨paused, _, cut, rfl, -, h₁⟩ := Dialogue.path_bind.1 h
  cases cut with
  | true => cases h₁.2
  | false =>
    obtain ⟨ticked, _, b | ⟨next, report⟩, rfl, -, h₂⟩ := Dialogue.path_bind.1 h₁
    · cases h₂.2
    · obtain ⟨noted, _, _, rfl, -, h₃⟩ := Dialogue.path_bind.1 h₂
      obtain ⟨_, _, stopping, rfl, hasked, rfl, hturn⟩ := Dialogue.path_bind.1 h₃
      obtain rfl := Dialogue.path_question.1 hasked
      cases stopping with
      | true => cases hturn
      | false => exact ⟨paused ++ (ticked ++ noted), by simp⟩

/-- A turn after which the service goes on has met no request. -/
theorem idle_of_again {v : σ} (h : (turn setup s).run S.env w = (.again after, v)) :
    S.requested v = false := by
  have hpath := Dialogue.path_run S.env (turn setup s) w
  have hgives := Dialogue.gives_transcript S.env (turn setup s) w
  have hafter := Dialogue.after_transcript S.env (turn setup s) w
  rw [h] at hpath hafter
  obtain ⟨ys, hys⟩ := path_turn_again hpath
  rw [hys, Answerer.gives_append] at hgives
  rw [hys, Answerer.after_append] at hafter
  obtain rfl : _ = v := hafter
  exact (idle_of_told hgives.2.1).2

/-- What there is to see of the next turn. -/
theorem run_serve_succ (env : Answerer Query.Answer σ) (setup : Setup) (s : Service) (turns : Nat)
    (w : σ) :
    (serve setup s (turns + 1)).run env w =
      match (turn setup s).run env w with
      | (.again after, v) => (serve setup after turns).run env v
      | (.stopped after, v) => (.stopped after, (env.answer (.note (stoppedNotice after)) v).2)
      | (.broken b, v) => (.broken b, v) := by
  rw [serve, Dialogue.run_bind]
  rcases (turn setup s).run env w with ⟨_ | _ | _, v⟩ <;> rfl

/-- A request that comes during the pause is there at the end of the turn. -/
theorem requested_turn (setup : Setup) (s : Service)
    (h : S.requested (S.env.answer (.pause setup.pollingInterval) w).2 = true) :
    S.requested ((turn setup s).run S.env w).2 = true := by
  rw [turn, Dialogue.run_bind]
  exact requested_run _ h

/-- At most one tick starts after a request, it is the last one, and then the service ends. -/
theorem exists_lastTick (S : Stoppable σ) (setup : Setup) (turns : Nat) :
    ∀ (s : Service) (w : σ), ∃ early late, serviceTicks S.env setup turns s w = early ++ late ∧
      (∀ x ∈ early, S.requested x.2 = false) ∧ late.length ≤ 1 ∧
        ∀ x ∈ late, S.requested x.2 = true ∧
          ∀ after, ((serve setup s turns).run S.env w).1 ≠ .again after := by
  induction turns with
  | zero =>
    intro s w
    exact ⟨[], [], by simp [serviceTicks]⟩
  | succ turns ih =>
    intro s w
    simp only [serviceTicks, run_serve_succ]
    split
    · exact ⟨[], [], by simp⟩
    · cases hturn : (turn setup s).run S.env w with
      | mk t v =>
        cases t with
        | again after =>
          obtain ⟨early, late, hticks, hearly, hone, hlate⟩ := ih after v
          refine ⟨(s, (S.env.answer (.pause setup.pollingInterval) w).2) :: early, late,
            congrArg (List.cons _) hticks, ?_, hone, hlate⟩
          refine List.forall_mem_cons.2 ⟨?_, hearly⟩
          cases hpaused : S.requested (S.env.answer (.pause setup.pollingInterval) w).2 with
          | false => rfl
          | true =>
            have hlater := requested_turn setup s hpaused
            rw [hturn] at hlater
            exact absurd (idle_of_again hturn) (by simp [hlater])
        | stopped | broken =>
          cases hpaused : S.requested (S.env.answer (.pause setup.pollingInterval) w).2 with
          | false => exact ⟨[_], [], rfl, by simpa using hpaused, by simp, by simp⟩
          | true => exact ⟨[], [_], rfl, by simp, Nat.le_refl 1, by simpa using hpaused⟩

/-- A service that goes on after a turn has met no request. -/
theorem idle_of_serve_again (turns : Nat) :
    ∀ {s after : Service} {w : σ}, ((serve setup s (turns + 1)).run S.env w).1 = .again after →
      S.requested ((serve setup s (turns + 1)).run S.env w).2 = false := by
  induction turns with
  | zero =>
    intro s after w h
    rw [run_serve_succ] at h ⊢
    rcases hturn : (turn setup s).run S.env w with ⟨_ | _ | _, v⟩ <;> rw [hturn] at h
    · exact idle_of_again hturn
    · cases h
    · cases h
  | succ turns ih =>
    intro s after w h
    rw [run_serve_succ] at h ⊢
    rcases hturn : (turn setup s).run S.env w with ⟨_ | _ | _, v⟩ <;> rw [hturn] at h
    · exact ih h
    · cases h
    · cases h

/-- Whenever a request to stop comes, a service stops as it should. -/
theorem serviceStops (S : Stoppable σ) (setup : Setup) (s : Service) (w : σ) (turns : Nat) :
    S.ServiceStops setup s w turns := by
  have horderly := orderly_serve setup turns s _ _
    (Dialogue.path_run S.env (serve setup s turns) w)
  obtain ⟨hsubmits, hone, -⟩ := stops_of_orderly (S := S) horderly
    (Dialogue.gives_transcript S.env (serve setup s turns) w)
  constructor
  case nothingLate => exact hsubmits
  case unconfirmed => exact hone
  case lastTick =>
    obtain ⟨early, late, hticks, hearly, hlength, hlate⟩ :=
      exists_lastTick S setup turns s w
    refine ⟨early, late, hticks, hearly, hlength, fun x hx => ?_⟩
    obtain ⟨hrequested, hends⟩ := hlate x hx
    exact ⟨hrequested, submissions_tick hrequested, hends⟩
  case goesOn =>
    intro after hturns h
    obtain ⟨n, rfl⟩ := Nat.exists_eq_succ_of_ne_zero hturns
    exact idle_of_serve_again n h
  case stopped =>
    intro hsetup
    have hbroken := serve_run_ne_broken hsetup S.env turns s w
    cases hend : ((serve setup s turns).run S.env w).1 with
    | again after => exact ⟨after, .inl rfl⟩
    | stopped after => exact ⟨after, .inr rfl⟩
    | broken b => exact absurd hend (hbroken b)

end Stoppable

/-- **A request to stop is heeded.** Whenever it comes, in a tick or between ticks, nothing is
handed in from then on and at most one update is left unconfirmed; the steps that write on chain are
cancelled, and only those; and a service ends after the tick that it is in, or after one more tick
that hands in nothing. -/
theorem stops_on_request (S : Stoppable σ) (setup : Setup) (s : Service) (w : σ) :
    S.TickStops setup s w ∧ ∀ turns, S.ServiceStops setup s w turns :=
  ⟨S.tickStops setup s w, S.serviceStops setup s w⟩

/-- Surroundings in which the request comes while the first update waits for its transaction. The
state is the channel. -/
def Stoppable.waiting : Stoppable Shutdown where
  env :=
    ⟨fun
      | .latestAnswer _, c => (.ok ⟨Amount.clamp 100, 2⟩, c)
      | .priceRatio, c => (.ok (Amount.clamp 500), c)
      | .priceRatioDecimals, c => (.ok 3, c)
      | .gasPrice, c => (.ok (Amount.clamp 20), c)
      | .l1BaseFee, c => (.ok (Amount.clamp 10), c)
      | .submit _, c => (.ok (Hash.ofNat 1), c)
      | .confirmation .., c =>
        (if c.request.1.requested then .interrupted else .timedOut, c.request.1)
      | .shutdownRequested, c => (c.requested, c)
      | q, c => (q.refused, c)⟩
  channel c := c
  signal := .listening
  moves q c := by
    cases q with
    | confirmation => exact .request (.refl c)
    | _ => exact .refl c
  told _ := rfl
  interrupted _ _ _ c h := by
    revert h
    cases hc : c.request.1.requested with
    | true => exact fun _ => hc
    | false => simp [hc]
  calls q c _ := by
    cases q with
    | confirmation =>
      dsimp only
      split <;> nofun
    | _ => nofun
  commits s _ := ⟨[⟨.makeDirectory, .error .refused⟩], .error .refused, [], rfl, rfl, rfl⟩

/-- The first write of a tick is handed in and left unconfirmed, the others are not begun. -/
theorem stops_waiting :
    let S := Stoppable.waiting
    let run := (tick Setup.plain Service.fresh).run S.env Shutdown.channel
    S.requested Shutdown.channel = false ∧ S.requested run.2 = true ∧
      (submissions ((tick Setup.plain Service.fresh).transcript S.env Shutdown.channel)).map
        Update.parameter = [.priceRatio] ∧
      run.1.toOption.map (fun x => (x.2.steps.filter fun y => y.2 = .cancelled).map Prod.fst) =
        some [.priceRatio, .overhead, .l1BaseFee] ∧
      S.TickStops Setup.plain Service.fresh Shutdown.channel ∧
      S.ServiceStops Setup.plain Service.fresh Shutdown.channel 2 := by
  intro S run
  obtain ⟨htick, hservice⟩ := stops_on_request S Setup.plain Service.fresh Shutdown.channel
  exact ⟨rfl, by decide +kernel, by decide +kernel, by decide +kernel, htick, hservice 2⟩

end RollupFees
