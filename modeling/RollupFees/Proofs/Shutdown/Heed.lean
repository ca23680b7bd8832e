import RollupFees.Proofs.Along
import RollupFees.Proofs.Pricing.Refresh
import RollupFees.Proofs.Steering.Writes

/-!
# How steps heed a request to stop

A step hears of a request to stop in three ways: it asks, a wait is interrupted, or something that
it called says so. Only then does it stop because of one. And it asks right before it hands in an
update, every time: nothing stands between the answer and the update, and nothing but a log line
between the update and the wait for its transaction.

Both facts are put together here from the parts of each step.

## Main definitions

* `Exchange.IsSummons` : an exchange that tells of a request to stop
* `Orderly` : every update is handed in right after an answer that there is no request
* `Step.Heeds` : a step writes in order, and stops for a request only when it has heard of one

## Main results

* `heeds_runStep` : every step of a tick does
* `orderly_serve` : a service writes in order, however long it runs
-/

namespace RollupFees

/-- The failure that a call of a tick has brought. -/
def Exchange.failure? : Exchange Query.Answer → Option Failure
  | ⟨.latestAnswer _, .error e⟩ => some e
  | ⟨.balance .., .error e⟩ => some e
  | ⟨.tokenBalance .., .error e⟩ => some e
  | ⟨.blockNumber, .error e⟩ => some e
  | ⟨.gasPrice, .error e⟩ => some e
  | ⟨.receipt _, .error e⟩ => some e
  | ⟨.batchEvents .., .error e⟩ => some e
  | ⟨.priceRatio, .error e⟩ => some e
  | ⟨.priceRatioDecimals, .error e⟩ => some e
  | ⟨.overhead, .error e⟩ => some e
  | ⟨.l1BaseFee, .error e⟩ => some e
  | ⟨.submit _, .error e⟩ => some e
  | ⟨.confirmation .., .finished (.error e)⟩ => some e
  | ⟨.commit _, .error e⟩ => some e
  | _ => none

/-- An exchange that tells of a request to stop. -/
inductive Exchange.IsSummons : Exchange Query.Answer → Prop
  | told : IsSummons ⟨.shutdownRequested, true⟩
  | interrupted {parameter tx limit} : IsSummons ⟨.confirmation parameter tx limit, .interrupted⟩
  | failed {x} (h : x.failure? = some .shutdown) : IsSummons x

/-- Every update is handed in right after an answer that there is no request to stop, and every wait
follows an update that was accepted. -/
inductive Orderly : List (Exchange Query.Answer) → Prop
  | nil : Orderly []
  | other {x xs} (quiet : x.question.isWriting = false) (rest : Orderly xs) : Orderly (x :: xs)
  | refused {u e xs} (rest : Orderly xs) :
      Orderly (⟨.shutdownRequested, false⟩ :: ⟨.submit u, .error e⟩ :: xs)
  | followed {u tx n limit wait xs} (rest : Orderly xs) :
      Orderly (Step.written limit u tx n wait ++ xs)

theorem Orderly.append {xs ys : List (Exchange Query.Answer)} (hx : Orderly xs)
    (hy : Orderly ys) : Orderly (xs ++ ys) := by
  induction hx with
  | nil => exact hy
  | other quiet _ ih => exact .other quiet ih
  | refused _ ih => exact .refused ih
  | followed _ ih => exact .followed ih

/-- Writes are in order where the parts of a path have them in order. -/
theorem orderly_composes : Composes Orderly where
  nil := .nil
  append := .append
  aside hx := .other hx .nil

namespace Step

variable {α β : Type}

/-- A step writes in order, and stops because of a request only when it has heard of one. -/
structure Heeds (x : Step α) : Prop where of_path ::
  path : ∀ {xs r}, Path x xs r →
    Orderly xs ∧ (r = .error (.failed .shutdown) → ∃ y ∈ xs, y.IsSummons)

/-! ### Parts of a step -/

theorem heeds_pure {a : α} : Heeds (pure a) := by
  refine .of_path fun {xs r} h => ?_
  obtain ⟨rfl, rfl⟩ := path_pure.1 h
  exact ⟨.nil, nofun⟩

theorem heeds_fail {f : Failure} (hf : f ≠ .shutdown) : Heeds (fail f : Step α) := by
  refine .of_path fun {xs r} h => ?_
  obtain ⟨rfl, rfl⟩ := path_fail.1 h
  refine ⟨.nil, fun hr => ?_⟩
  injection hr with hr
  injection hr with hr
  exact absurd hr hf

theorem heeds_compute {c : Except Breakdown α} : Heeds (compute c) := by
  refine .of_path fun {xs r} h => ?_
  obtain ⟨rfl, rfl⟩ := path_compute.1 h
  refine ⟨.nil, fun hr => ?_⟩
  cases c <;> cases hr

theorem Heeds.bind {x : Step α} {f : α → Step β} (hx : Heeds x) (hf : ∀ a, Heeds (f a)) :
    Heeds (x >>= f) := by
  refine .of_path fun {xs r} h => ?_
  rcases path_bind.1 h with ⟨e, hstop, rfl⟩ | ⟨ys, zs, a, rfl, hdone, hrest⟩
  · obtain ⟨horderly, hheard⟩ := hx.path hstop
    refine ⟨horderly, fun he => hheard ?_⟩
    rw [Except.error.inj he]
  · obtain ⟨horderly, -⟩ := hx.path hdone
    obtain ⟨horderly', hheard⟩ := (hf a).path hrest
    refine ⟨horderly.append horderly', fun hr => ?_⟩
    obtain ⟨y, hy, hsummons⟩ := hheard hr
    exact ⟨y, List.mem_append_right ys hy, hsummons⟩

theorem heeds_ask {q : Query} (hq : q.isWriting = false) : Heeds (ask q) := by
  refine .of_path fun {xs r} h => ?_
  obtain ⟨a, rfl, rfl⟩ := path_ask.1 h
  exact ⟨.other hq .nil, nofun⟩

theorem heeds_note (n : Notice) : Heeds (note n) := heeds_ask rfl

theorem heeds_notes (ns : List Notice) : Heeds (notes ns) := by
  induction ns with
  | nil => exact heeds_pure
  | cons n rest ih => exact (heeds_note n).bind fun _ => ih

/-- A reading is a single exchange, which brings the failure if there is one. -/
theorem heeds_read {talk : Talk (Except Failure α)} (q : Query) (read : Except Failure α → q.Answer)
    (htalk : ∀ xs e, talk.Path xs e → xs = [⟨q, read e⟩]) (hq : q.isWriting = false)
    (hfailure : (⟨q, read (.error .shutdown)⟩ : Exchange _).failure? = some .shutdown) :
    Heeds (need talk) := by
  refine .of_path fun {xs r} h => ?_
  obtain ⟨a, ha, rfl⟩ := path_need.1 h
  obtain rfl := htalk xs a ha
  refine ⟨.other hq .nil, fun hr => ⟨_, List.mem_singleton_self _, ?_⟩⟩
  rcases a with e | a <;> cases hr
  exact .failed hfailure

/-! ### Writes -/

/-- A write asks before it hands in its update. -/
theorem heeds_apply (limit : Duration) (u : Update) : Heeds (apply limit u) := by
  refine .of_path fun {xs r} h => ?_
  rw [apply] at h
  obtain ⟨stopping, ys, rfl, h₁⟩ := path_ask_bind.1 h
  cases stopping with
  | true =>
    obtain ⟨rfl, rfl⟩ := path_fail.1 h₁
    exact ⟨.other rfl .nil, fun _ => ⟨_, List.mem_singleton_self _, .told⟩⟩
  | false =>
    rcases path_need_bind.1 h₁ with ⟨e, hsubmit, rfl⟩ | ⟨_, zs, tx, rfl, hsubmit, h₂⟩
    · obtain rfl := Dialogue.path_question.1 hsubmit
      refine ⟨.refused .nil, fun hr => ⟨⟨.submit u, .error e⟩, by simp, .failed ?_⟩⟩
      obtain rfl : e = .shutdown := Stop.failed.inj (Except.error.inj hr)
      rfl
    · obtain rfl := Dialogue.path_question.1 hsubmit
      obtain ⟨zs, rfl, h₃⟩ := path_note_bind.1 h₂
      obtain ⟨wait, zs, rfl, h₄⟩ := path_ask_bind.1 h₃
      -- What follows the wait is at most a line in the log.
      have hrest : Quiet zs ∧ (r = .error (.failed .shutdown) →
          (⟨.confirmation u.parameter tx limit, wait⟩ : Exchange _).IsSummons) := by
        rcases wait with (e | a) | _ | _
        · obtain ⟨rfl, rfl⟩ := path_fail.1 h₄
          refine ⟨by simp [Quiet], fun hr => .failed ?_⟩
          obtain rfl : e = .shutdown := Stop.failed.inj (Except.error.inj hr)
          rfl
        · obtain ⟨rfl, rfl⟩ := path_pure.1 h₄
          exact ⟨by simp [Quiet], fun hr => by cases hr⟩
        · obtain ⟨rfl, rfl⟩ := path_fail.1 h₄
          exact ⟨by simp [Quiet], fun hr => by cases hr⟩
        · obtain ⟨ws, rfl, h₅⟩ := path_note_bind.1 h₄
          obtain ⟨rfl, rfl⟩ := path_fail.1 h₅
          exact ⟨by simp [Quiet, Query.isWriting], fun _ => .interrupted⟩
      obtain ⟨hquiet, hsummons⟩ := hrest
      refine ⟨.followed (orderly_composes.of_quiet hquiet), fun hr => ⟨_, ?_, hsummons hr⟩⟩
      simp

theorem heeds_skip (parameter : Parameter) (current : Amount) (target : Option Amount)
    (reason : SkipReason) : Heeds (skip parameter current target reason) :=
  (heeds_note _).bind fun _ => heeds_pure

theorem heeds_moveToward (limit : Duration) (bounds : Bounds) (parameter : Parameter)
    (current target : Amount) (update : Amount → Update) :
    Heeds (moveToward limit bounds parameter current target update) := by
  refine heeds_compute.bind fun action => (heeds_notes _).bind fun _ => ?_
  cases action with
  | noOp reason => exact heeds_skip ..
  | setTo v =>
    exact (heeds_apply limit _).bind fun _ => (heeds_note _).bind fun _ => heeds_pure

theorem heeds_updatePriceRatio (c : ControllerSettings) (book : PriceBook) :
    Heeds (updatePriceRatio c book) := by
  refine (heeds_read .priceRatio id (fun _ _ => Dialogue.path_question.1) rfl rfl).bind
    fun current => ?_
  refine (heeds_read .priceRatioDecimals id (fun _ _ => Dialogue.path_question.1) rfl rfl).bind
    fun decimals => ?_
  dsimp only
  split
  · exact heeds_skip ..
  · exact (heeds_note _).bind fun _ => heeds_moveToward ..

theorem heeds_receipts (hashes : List Hash) : Heeds (receipts hashes) := by
  induction hashes with
  | nil => exact heeds_pure
  | cons tx rest ih =>
    refine (heeds_read (.receipt tx) id (fun _ _ => Dialogue.path_question.1) rfl rfl).bind
      fun r => ?_
    exact ih.bind fun _ => heeds_pure

theorem heeds_totalGas (hashes : List Hash) (found : List (Option Receipt)) :
    Heeds (totalGas hashes found) := by
  simp only [totalGas]
  generalize (0 : Amount) = sum
  induction hashes.zip found generalizing sum with
  | nil => exact heeds_pure
  | cons x rest ih =>
    rw [List.foldlM_cons]
    refine Heeds.bind ?_ ih
    split
    · exact heeds_pure
    · exact heeds_fail fun hf => by cases hf

theorem heeds_updateOverhead (c : ControllerSettings) : Heeds (updateOverhead c) := by
  refine (heeds_read .overhead id (fun _ _ => Dialogue.path_question.1) rfl rfl).bind
    fun current => ?_
  refine (heeds_read .blockNumber id (fun _ _ => Dialogue.path_question.1) rfl rfl).bind
    fun latest => ?_
  refine (heeds_read (.batchEvents _ _) id (fun _ _ => Dialogue.path_question.1) rfl rfl).bind
    fun events => ?_
  split
  · exact (heeds_note _).bind fun _ => heeds_skip ..
  · refine (heeds_receipts _).bind fun found => (heeds_totalGas _ _).bind fun gas => ?_
    dsimp only
    split
    · exact heeds_skip ..
    · exact (heeds_note _).bind fun _ => heeds_moveToward ..

theorem heeds_updateL1BaseFee (c : ControllerSettings) : Heeds (updateL1BaseFee c) := by
  refine (heeds_read .gasPrice id (fun _ _ => Dialogue.path_question.1) rfl rfl).bind
    fun target => ?_
  refine (heeds_read .l1BaseFee id (fun _ _ => Dialogue.path_question.1) rfl rfl).bind
    fun current => ?_
  exact (heeds_note _).bind fun _ => heeds_moveToward ..

/-! ### Ledgers -/

theorem heeds_balance (side : Side) (account : Address) : Heeds (balance side account) :=
  heeds_read (.balance side account) id (fun _ _ => Dialogue.path_question.1) rfl rfl

theorem heeds_commit (s : Snapshot) : Heeds (commit s) := by
  refine .of_path fun {xs r} h => ?_
  rw [commit] at h
  obtain ⟨e | _, ys, rfl, h₁⟩ := path_ask_bind.1 h
  · obtain ⟨zs, rfl, h₂⟩ := path_note_bind.1 h₁
    obtain ⟨rfl, rfl⟩ := path_fail.1 h₂
    refine ⟨.other rfl (.other rfl .nil), fun hr => ⟨_, List.mem_cons_self, .failed ?_⟩⟩
    obtain rfl : e = .shutdown := Stop.failed.inj (Except.error.inj hr)
    rfl
  · obtain ⟨rfl, rfl⟩ := path_pure.1 h₁
    exact ⟨.other rfl .nil, nofun⟩

theorem heeds_reconcileLedger (side : Side) (committed : Option (CounterMap CounterState))
    (balances baselines : CounterMap Amount) :
    Heeds (reconcileLedger side committed balances baselines) :=
  (heeds_notes _).bind fun _ => (heeds_ask rfl).bind fun _ =>
    (heeds_commit _).bind fun _ => heeds_pure

theorem heeds_l1Baselines (accounts : Accounts) (b : Billing) :
    Heeds (l1Baselines accounts b) := by
  rw [l1Baselines]
  split
  · exact heeds_pure
  · exact (heeds_balance _ _).bind fun _ => (heeds_note _).bind fun _ => heeds_pure

theorem heeds_reconcileL1 (accounts : Accounts) (b : Billing) : Heeds (reconcileL1 accounts b) := by
  refine (heeds_balance _ _).bind fun _ => (heeds_balance _ _).bind fun _ => ?_
  refine (heeds_balance _ _).bind fun _ => (heeds_balance _ _).bind fun _ => ?_
  refine (heeds_l1Baselines _ _).bind fun _ => (heeds_reconcileLedger _ _ _ _).bind fun _ => ?_
  exact (heeds_notes _).bind fun _ => heeds_pure

theorem heeds_reconcileL2 (accounts : Accounts) (b : Billing) (prices : PriceBook) :
    Heeds (reconcileL2 accounts b prices) := by
  refine (heeds_balance _ _).bind fun _ => ?_
  refine (heeds_read (.tokenBalance _ _) id (fun _ _ => Dialogue.path_question.1) rfl rfl).bind
    fun _ => (heeds_balance _ _).bind fun _ => ?_
  refine (heeds_reconcileLedger _ _ _ _).bind fun _ => ?_
  exact (heeds_notes _).bind fun _ => (heeds_notes _).bind fun _ => heeds_pure

end Step

/-! ### Steps of a tick -/

variable {setup : Setup} {s : Service} {xs : List (Exchange Query.Answer)}

theorem RawPrice.normalize_ne_shutdown (raw : RawPrice) : raw.normalize ≠ .error .shutdown := by
  unfold normalize
  generalize raw.answer.toDecimal raw.decimals = d
  cases d <;> nofun

/-- The prices fail with a request to stop only if a feed has said so. -/
theorem PriceBook.eq_error_of_refreshFailure? {native secondary : Except Failure RawPrice}
    (h : refreshFailure? native secondary = some .shutdown) :
    native = .error .shutdown ∨ secondary = .error .shutdown := by
  have hjudge : ∀ fetched, judge fetched = .error .shutdown → fetched = .error .shutdown := by
    intro fetched hfetched
    rcases fetched with e | raw
    · rw [judge, Except.bind] at hfetched
      rw [Except.error.inj hfetched]
    · exact absurd hfetched raw.normalize_ne_shutdown
  unfold refreshFailure? at h
  split at h
  · next e hnative =>
    cases h
    exact .inl (hjudge native hnative)
  · next e _ hsecondary =>
    cases h
    exact .inr (hjudge secondary hsecondary)
  · cases h

/-- A refresh that fails does so with what the feeds have answered. -/
theorem refreshFailure?_of_path {book after : PriceBook} {f : Failure}
    (h : (refreshPrices book).Path xs (after, some f)) :
    ∃ native secondary, PriceBook.refreshFailure? native secondary = some f ∧
      ⟨.latestAnswer .native, native⟩ ∈ xs ∧ ⟨.latestAnswer .secondary, secondary⟩ ∈ xs := by
  obtain ⟨native, secondary, now, ns, rfl, hresult⟩ := exists_of_path_refreshPrices h
  exact ⟨native, secondary, (Prod.mk.inj hresult).2.symm, by simp, by simp⟩

/-- What a tick makes of the result of a step does not put in a request to stop. -/
theorem Step.Heeds.of_yields {α : Type} {x : Step α} (hx : x.Heeds) {r : StepResult}
    (h : x.Yields xs r) :
    Orderly xs ∧ (r = .error (.failed .shutdown) → ∃ y ∈ xs, y.IsSummons) := by
  obtain ⟨e | a, f, hpath, rfl⟩ := h
  · obtain ⟨horderly, hheard⟩ := hx.path hpath
    exact ⟨horderly, fun he => hheard (congrArg Except.error (Except.error.inj he))⟩
  · exact ⟨(hx.path hpath).1, nofun⟩

/-- Every step of a tick writes in order, and stops because of a request only when it has heard of
one. -/
theorem heeds_runStep {step : TickStep} {after : Service} {r : StepResult}
    (h : (runStep setup s step).Path xs (after, r)) :
    Orderly xs ∧ (r = .error (.failed .shutdown) → ∃ y ∈ xs, y.IsSummons) := by
  cases step with
  | refreshPrices =>
    refine ⟨orderly_composes.of_quiet (quiet_of_path_runStep rfl h), ?_⟩
    rintro rfl
    obtain ⟨ys, _, ⟨book, _ | failure⟩, rfl, hrefresh, rfl, heq⟩ := Dialogue.path_bind.1 h <;>
      obtain ⟨-, ⟨⟩⟩ := Prod.mk.inj heq
    obtain ⟨native, secondary, hfailure, hmem, hmem'⟩ := refreshFailure?_of_path hrefresh
    rw [List.append_nil]
    obtain rfl | rfl := PriceBook.eq_error_of_refreshFailure? hfailure
    · exact ⟨_, hmem, .failed rfl⟩
    · exact ⟨_, hmem', .failed rfl⟩
  | reconcileL1 => exact (Step.heeds_reconcileL1 ..).of_yields (yields_of_runLedgerStep h)
  | reconcileL2 => exact (Step.heeds_reconcileL2 ..).of_yields (yields_of_runLedgerStep h)
  | priceRatio => exact (Step.heeds_updatePriceRatio ..).of_yields (yields_of_runParameterStep h)
  | overhead => exact (Step.heeds_updateOverhead ..).of_yields (yields_of_runParameterStep h)
  | l1BaseFee => exact (Step.heeds_updateL1BaseFee ..).of_yields (yields_of_runParameterStep h)

/-! ### Ticks and services -/

theorem Progress.Advance.orderly {number : Nat} {p : Progress} {step : TickStep}
    {r : Except Breakdown Progress} (h : Advance setup number p step xs r) : Orderly xs := by
  have hgo := orderly_composes.of_quiet (quiet_goAhead step)
  cases h with
  | leftOut => exact .other rfl .nil
  | completed ran => exact hgo.append (heeds_runStep ran).1
  | interrupted ran => exact hgo.append (heeds_runStep ran).1
  | failed _ ran => exact (hgo.append (heeds_runStep ran).1).append (.other rfl .nil)
  | broken ran => exact hgo.append (heeds_runStep ran).1

/-- A tick writes in order. -/
theorem orderly_tick (setup : Setup) (s : Service) : (tick setup s).Along Orderly :=
  orderly_composes.along_tick Progress.Advance.orderly s

/-- A service writes in order, however long it runs. -/
theorem orderly_serve (setup : Setup) (turns : Nat) (s : Service) :
    (serve setup s turns).Along Orderly :=
  orderly_composes.along_serve Progress.Advance.orderly turns s

end RollupFees
