import RollupFees.Proofs.Isolation.Calls
import RollupFees.Proofs.Ledger.Gains

/-!
# What a step that fails leaves in the store

The commit is the last call of a reconciliation, and nothing after it can fail. So a reconciliation
that fails has had no snapshot stored, and no other step stores one of that side. What is kept of a
side is therefore the same before and after a tick in which the reconciliation of the side has not
been completed, whatever the store is like, as long as a commit that it refuses changes nothing.

## Main definitions

* `Exchange.stored?` : the snapshot that an exchange has put into the store
* `Step.Withholds` : a step that stops has stored nothing
* `Answerer.KeepsUnlessStored` : what is kept of a side changes only with a snapshot of it

## Main results

* `Progress.Advance.stored` : only a completed reconciliation has stored a snapshot
* `view_eq_of_not_completed` : what is kept of a side is the same after its reconciliation failed
-/

namespace RollupFees

/-- The snapshot that an exchange has put into the store. -/
def Exchange.stored? : Exchange Query.Answer → Option Snapshot
  | ⟨.commit s, .ok _⟩ => some s
  | _ => none

variable {α β σ : Type} {xs : List (Exchange Query.Answer)}

theorem Exchange.stored?_eq_none {x : Exchange Query.Answer} (h : x.question.isCommit = false) :
    x.stored? = none := by
  obtain ⟨q, a⟩ := x
  cases q with
  | commit s => cases h
  | _ => rfl

theorem Exchange.question_of_stored? {x : Exchange Query.Answer} {s : Snapshot}
    (h : x.stored? = some s) : x.question = .commit s := by
  unfold stored? at h
  split at h
  · exact congrArg Query.commit (Option.some.inj h)
  · cases h

/-- Only the step of its side puts a snapshot into the store. -/
theorem TickStep.step_of_mayAsk_commit {step : TickStep} {s : Snapshot}
    (h : step.mayAsk (.commit s) = true) : step = s.side.step := by
  cases step with
  | reconcileL1 | reconcileL2 =>
    rw [of_decide_eq_true h]
    rfl
  | _ => cases h

namespace Step

/-- A step that stops has stored nothing. -/
structure Withholds (x : Step α) : Prop where of_path ::
  path : ∀ {xs e}, Path x xs (.error e) → ∀ y ∈ xs, y.stored? = none

variable {x : Step α} {f : α → Step β}

/-- What comes before the commit stores nothing. -/
theorem Withholds.after (hx : Dialogue.Asks (fun q => q.isCommit = false) x.run)
    (hf : ∀ a, Withholds (f a)) : Withholds (x >>= f) := by
  have hnone : ∀ {xs r}, Path x xs r → ∀ y ∈ xs, y.stored? = none :=
    fun h y hy => Exchange.stored?_eq_none (hx.path h y hy)
  refine .of_path fun {xs e} h => ?_
  rcases path_bind.1 h with ⟨e', hstop, -⟩ | ⟨ys, zs, a, rfl, hdone, hrest⟩
  · exact hnone hstop
  · exact List.forall_mem_append.2 ⟨hnone hdone, (hf a).path hrest⟩

/-- What comes after the commit does not fail. -/
theorem Withholds.before (hx : Withholds x) (hf : ∀ a xs e, ¬ Path (f a) xs (.error e)) :
    Withholds (x >>= f) := by
  refine .of_path fun {xs e} h => ?_
  rcases path_bind.1 h with ⟨e', hstop, -⟩ | ⟨ys, zs, a, rfl, -, hrest⟩
  · exact hx.path hstop
  · exact absurd hrest (hf a zs e)

theorem withholds_commit (s : Snapshot) : Withholds (commit s) := by
  refine .of_path fun {xs e} h => ?_
  obtain ⟨_ | _, ys, rfl, h₁⟩ := path_ask_bind.1 h
  · obtain ⟨zs, rfl, h₂⟩ := path_note_bind.1 h₁
    obtain ⟨rfl, -⟩ := path_fail.1 h₂
    simp [Exchange.stored?]
  · cases (path_pure.1 h₁).2

theorem withholds_reconcileLedger (side : Side) (committed : Option (CounterMap CounterState))
    (balances baselines : CounterMap Amount) :
    Withholds (reconcileLedger side committed balances baselines) := by
  refine .after (Honours.asks (honours_notes (fun _ => rfl) _)) fun _ => ?_
  refine .after (Honours.asks (honours_ask_of_allowed rfl)) fun now => ?_
  exact (withholds_commit _).before fun _ _ _ h => by cases (path_pure.1 h).2

theorem asks_balance (side : Side) (account : Address) :
    Dialogue.Asks (fun q => q.isCommit = false) (balance side account).run :=
  Honours.asks (honours_read (Dialogue.honours_of_allowed rfl))

theorem withholds_reconcileL1 (accounts : Accounts) (b : Billing) :
    Withholds (reconcileL1 accounts b) := by
  refine .after (asks_balance _ _) fun _ => .after (asks_balance _ _) fun _ => ?_
  refine .after (asks_balance _ _) fun _ => .after (asks_balance _ _) fun _ => ?_
  refine .after (Honours.asks (honours_l1Baselines (fun _ => rfl) rfl b)) fun _ => ?_
  refine (withholds_reconcileLedger _ _ _ _).before fun _ _ _ h => ?_
  obtain ⟨_, rfl, hpure⟩ := path_notes_bind.1 h
  cases (path_pure.1 hpure).2

theorem withholds_reconcileL2 (accounts : Accounts) (b : Billing) (prices : PriceBook) :
    Withholds (reconcileL2 accounts b prices) := by
  refine .after (asks_balance _ _) fun _ => ?_
  refine .after (Honours.asks (honours_read (Dialogue.honours_of_allowed rfl))) fun _ => ?_
  refine .after (asks_balance _ _) fun _ => ?_
  refine (withholds_reconcileLedger _ _ _ _).before fun _ _ _ h => ?_
  obtain ⟨_, rfl, h₁⟩ := path_notes_bind.1 h
  obtain ⟨_, rfl, hpure⟩ := path_notes_bind.1 h₁
  cases (path_pure.1 hpure).2

end Step

/-! ### The steps of a tick -/

variable {setup : Setup} {s after : Service} {step : TickStep}

theorem Step.Withholds.of_yields {x : Step α} (hx : x.Withholds) {e : Stop}
    (h : x.Yields xs (.error e)) : ∀ y ∈ xs, y.stored? = none := by
  obtain ⟨stop | a, f, hpath, heq⟩ := h
  · exact hx.path hpath
  · cases heq

/-- A step that stops has stored nothing. -/
theorem withholds_runStep {e : Stop} (h : (runStep setup s step).Path xs (after, .error e)) :
    ∀ y ∈ xs, y.stored? = none := by
  have hasks : (∀ side : Side, step ≠ side.step) → ∀ y ∈ xs, y.stored? = none := by
    intro hstep y hy
    refine Exchange.stored?_eq_none ?_
    have hmay := (asks_runStep setup s step).path h y hy
    obtain ⟨q, a⟩ := y
    cases q with
    | commit snapshot => exact absurd (TickStep.step_of_mayAsk_commit hmay) (hstep _)
    | _ => rfl
  cases step with
  | reconcileL1 => exact (Step.withholds_reconcileL1 ..).of_yields (yields_of_runLedgerStep h)
  | reconcileL2 => exact (Step.withholds_reconcileL2 ..).of_yields (yields_of_runLedgerStep h)
  | _ => exact hasks fun side => by cases side <;> nofun

namespace Progress

variable {number : Nat} {p next : Progress}

/-- **Only a completed reconciliation has stored a snapshot**, which is one of its own side. -/
theorem Advance.stored (h : Advance setup number p step xs (.ok next)) {y : Exchange Query.Answer}
    (hy : y ∈ xs) {snapshot : Snapshot} (hstored : y.stored? = some snapshot) :
    step = snapshot.side.step ∧ next.lastStatus = some .completed := by
  have hgo : ∀ x ∈ goAhead step, x.stored? = none := by
    intro x hx
    rw [eq_of_mem_goAhead hx]
    rfl
  have hnone : y.stored? ≠ none := by simp [hstored]
  generalize hr : (Except.ok next : Except Breakdown Progress) = r at h
  cases h with
  | leftOut =>
    rw [List.mem_singleton.1 hy] at hstored
    cases hstored
  | completed ran =>
    obtain rfl := Except.ok.inj hr
    refine ⟨?_, by simp [lastStatus]⟩
    rcases List.mem_append.1 hy with hy | hy
    · exact absurd (hgo y hy) hnone
    · have hmay := (asks_runStep setup p.service step).path ran y hy
      rw [Exchange.question_of_stored? hstored] at hmay
      exact TickStep.step_of_mayAsk_commit hmay
  | interrupted ran =>
    rcases List.mem_append.1 hy with hy | hy
    · exact absurd (hgo y hy) hnone
    · exact absurd (withholds_runStep ran y hy) hnone
  | failed grave ran =>
    simp only [List.mem_append, List.mem_singleton] at hy
    rcases hy with (hy | hy) | rfl
    · exact absurd (hgo y hy) hnone
    · exact absurd (withholds_runStep ran y hy) hnone
    · cases hstored
  | broken => cases hr

/-- What is asked along several steps is asked in one of them. -/
theorem transcript_advanceAll (env : Answerer Query.Answer σ) (steps : List TickStep) :
    ∀ (p : Progress) (w : σ), (advanceAll setup number p steps).transcript env w =
      (p.records env setup number steps w).flatMap StepRecord.exchanges := by
  induction steps with
  | nil => exact fun _ _ => rfl
  | cons step rest ih =>
    intro p w
    simp only [advanceAll, Dialogue.transcript_bind, records]
    rcases (advance setup number p step).run env w with ⟨b | next, after⟩
    · simp [Dialogue.transcript]
    · simp [ih]

end Progress

/-- Whatever a tick asks besides looking at the clock and writing log lines is asked in one of its
steps. -/
theorem mem_transcript_tick (env : Answerer Query.Answer σ) {w : σ} {y : Exchange Query.Answer}
    (h : y ∈ (tick setup s).transcript env w) :
    (∃ x ∈ (tickRecord env setup s w).steps, y ∈ x.exchanges) ∨ y.question.isCall = false := by
  simp only [tick, Dialogue.transcript_bind, List.mem_append] at h
  rcases h with h | h | h
  · rw [List.mem_singleton.1 h]
    exact .inr rfl
  · refine .inl ?_
    have hrecords : (Progress.advanceAll setup (s.ticks + 1) s.nextTick TickStep.all).transcript
        env (env.answer .uptime w).2 = _ := Progress.transcript_advanceAll env _ _ _
    exact List.mem_flatMap.1 (hrecords ▸ h)
  · refine .inr ?_
    split at h
    · cases h
    · simp only [Dialogue.transcript_bind, Dialogue.question, Dialogue.transcript, List.cons_append,
        List.nil_append, List.mem_cons, List.not_mem_nil, or_false] at h
      rcases h with rfl | rfl <;> rfl

/-! ### What is kept of a side -/

/-- What is kept of a side changes only when a snapshot of that side is put into the store. -/
def Answerer.KeepsUnlessStored (env : Answerer Query.Answer σ) (side : Side) (view : σ → β) :
    Prop :=
  ∀ q w, (∀ s, (⟨q, (env.answer q w).1⟩ : Exchange Query.Answer).stored? = some s →
    s.side ≠ side) → view (env.answer q w).2 = view w

/-- What is kept of a side is kept by a dialogue in which no snapshot of it is stored. -/
theorem Answerer.KeepsUnlessStored.run {env : Answerer Query.Answer σ} {side : Side} {view : σ → β}
    (h : env.KeepsUnlessStored side view) (d : Talk α) : ∀ w,
    (∀ x ∈ d.transcript env w, ∀ s, x.stored? = some s → s.side ≠ side) →
      view (d.run env w).2 = view w := by
  induction d with
  | done a => exact fun _ _ => rfl
  | ask q next ih =>
    intro w hd
    obtain ⟨hfirst, hrest⟩ := List.forall_mem_cons.1 hd
    exact (ih _ _ hrest).trans (h q w hfirst)

/-- **What is kept of a side is the same after its reconciliation has failed.** -/
theorem view_eq_of_not_completed {env : Answerer Query.Answer σ} {w : σ} {report : TickReport}
    (h : (tickRecord env setup s w).result = .ok (after, report)) {side : Side} {view : σ → β}
    (henv : env.KeepsUnlessStored side view)
    (hnot : report.status? side.step ≠ some .completed) :
    view ((tick setup s).run env w).2 = view w := by
  refine henv.run _ w fun y hy snapshot hstored => ?_
  rintro rfl
  have hcommit := Exchange.question_of_stored? hstored
  rcases mem_transcript_tick env hy with ⟨x, hx, hmem⟩ | hcall
  · obtain ⟨met, left, took⟩ := TickRecord.took_of_mem (n := 1) List.mem_cons_self h hx
    obtain ⟨hstep, hdone⟩ := took.went.stored hmem hstored
    exact hnot (by rw [← hstep, took.status, took.last, hdone])
  · rw [hcommit] at hcall
    cases hcall

end RollupFees
