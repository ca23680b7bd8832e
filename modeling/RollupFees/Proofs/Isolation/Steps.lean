import RollupFees.Proofs.Isolation.Calls
import RollupFees.Proofs.Ledger.Gains

/-!
# Steps that are answered alike

What a step does depends on what it meets: a ledger step on the committed counters of its side, the
price ratio on the prices in the book, and the two other parameters on nothing. Two services that
agree in this much, with calls that are answered alike, lead a step through the same calls to the
same result, and agree in what the step has changed. The time on the clock, which only dates a
snapshot and a price, and the log lines, some of which show figures of other steps, make no
difference.

## Main definitions

* `PriceBook.AgreesWith` : the same prices, whenever they were seen
* `TickStep.MeetsAlike` : two services agree in what a step depends on
* `TickStep.LeavesAlike` : two services agree in what a step changes

## Main results

* `matched_runStep` : alike answers lead a step through the same calls to the same result
-/

namespace RollupFees

/-- Two books have the same prices, whenever these were seen. -/
def PriceBook.AgreesWith (book book' : PriceBook) : Prop :=
  ∀ pair, book.value? pair = book'.value? pair

/-- Two services agree in what a step depends on. -/
structure TickStep.MeetsAlike (step : TickStep) (s s' : Service) : Prop where
  ledger : ∀ side : Side, step = side.step → s.billing.AgreesOn side s'.billing
  prices : step = .refreshPrices ∨ step = .priceRatio → s.book.AgreesWith s'.book

/-- Two services agree in what a step changes. -/
structure TickStep.LeavesAlike (step : TickStep) (s s' : Service) : Prop where
  ledger : ∀ side : Side, step = side.step → s.billing.AgreesOn side s'.billing
  prices : step = .refreshPrices → s.book.AgreesWith s'.book

/-- An update of a ledger without its time. -/
def LedgerUpdate.undated (u : LedgerUpdate) : LedgerUpdate :=
  { u with snapshot := { u.snapshot with updatedAt := Timestamp.epoch } }

variable {b b' : Billing} {side : Side}

namespace Billing.AgreesOn

theorem committed_eq (h : b.AgreesOn side b') : b.committed side = b'.committed side := by
  rw [committed, committed, h.counters]

/-- The same update keeps an agreement, whatever its time. -/
theorem apply (h : b.AgreesOn side b') {u u' : LedgerUpdate} (hside : u.snapshot.side = side)
    (hu : u.undated = u'.undated) : (b.apply u).AgreesOn side (b'.apply u') := by
  simp only [LedgerUpdate.undated, LedgerUpdate.mk.injEq, Snapshot.mk.injEq, and_true] at hu
  obtain ⟨⟨hsame, hcounters⟩, haccrued, -⟩ := hu
  constructor
  · have hleft := b.counters_apply_self u
    have hright := b'.counters_apply_self u'
    rw [hside] at hleft
    rw [← hsame, hside] at hright
    rw [hleft, hright, hcounters]
  · intro c hc
    have hgain := h.gains c hc
    simp only [lastGain] at hgain
    simp only [lastGain, lastAccrued_apply, CounterMap.get?_override, haccrued]
    cases u'.accrued.get? c with
    | none => simpa using hgain
    | some gain => rfl

end Billing.AgreesOn

namespace Step

/-! ### The ledgers -/

/-- Snapshots that differ only in their time are committed alike. -/
theorem matched_commit {s s' : Snapshot}
    (h : ({ s with updatedAt := Timestamp.epoch } : Snapshot) =
      { s' with updatedAt := Timestamp.epoch }) : Matched Eq (commit s) (commit s') := by
  have hquestion : Dialogue.Matched (fun a b => a = b)
      (Dialogue.question (Query.commit s)) (Dialogue.question (Query.commit s')) := by
    intro xs a ys b hx hy _ _ halike
    obtain rfl := Dialogue.path_question.1 hx
    obtain rfl := Dialogue.path_question.1 hy
    have hsame := halike [] _ _ [] [] rfl rfl (congrArg Query.commit h)
    have hdated : (⟨.commit s, a⟩ : Exchange Query.Answer).undated =
        (⟨.commit s', a⟩ : Exchange Query.Answer).undated :=
      congrArg (fun t => (⟨.commit t, a⟩ : Exchange Query.Answer)) h
    refine ⟨congrArg (fun x => [x]) hsame, ?_⟩
    exact Exchange.answer_eq_of_undated (q := .commit s') (hdated.symm.trans hsame)
  refine Matched.bind (matched_ask hquestion) ?_
  rintro (e | _) _ rfl
  · exact Matched.bind (matched_note _ _) fun _ _ _ => matched_fail e
  · exact matched_pure rfl

/-- A ledger is brought up to date alike whenever it is done. -/
theorem matched_reconcileLedger (side : Side) (committed : Option (CounterMap CounterState))
    (balances baselines : CounterMap Amount) :
    Matched (fun u u' => u.snapshot.side = side ∧ u.undated = u'.undated)
      (reconcileLedger side committed balances baselines)
      (reconcileLedger side committed balances baselines) := by
  refine Matched.bind (matched_notes _ _) fun _ _ _ => ?_
  refine Matched.bind (matched_ask (Dialogue.matched_aside rfl rfl)) fun now now' _ => ?_
  refine Matched.bind (matched_commit rfl) fun _ _ _ => ?_
  exact matched_pure ⟨rfl, rfl⟩

theorem matched_balance (side : Side) (account : Address) :
    Matched Eq (balance side account) (balance side account) :=
  matched_self (Honours.asks (honours_read (Dialogue.honours_of_allowed rfl)))

theorem matched_tokenBalance (token holder : Address) :
    Matched Eq (tokenBalance token holder) (tokenBalance token holder) :=
  matched_self (Honours.asks (honours_read (Dialogue.honours_of_allowed rfl)))

theorem matched_l1Baselines (accounts : Accounts) (h : b.AgreesOn .l1 b') :
    Matched Eq (l1Baselines accounts b) (l1Baselines accounts b') := by
  have hsame : l1Baselines accounts b = l1Baselines accounts b' := by
    rw [l1Baselines, l1Baselines, isSeeded_eq, isSeeded_eq, h.counters]
  rw [hsame]
  exact matched_self (Honours.asks (honours_l1Baselines (fun _ => rfl) rfl b'))

/-- The first layer depends on its own counters. -/
theorem matched_reconcileL1 (accounts : Accounts) (h : b.AgreesOn .l1 b') :
    Matched (Billing.AgreesOn .l1) (reconcileL1 accounts b) (reconcileL1 accounts b') := by
  rw [reconcileL1, reconcileL1, h.committed_eq]
  refine Matched.bind (matched_balance _ _) fun _ sequencer hsequencer => ?_
  refine Matched.bind (matched_balance _ _) fun _ proposer hproposer => ?_
  refine Matched.bind (matched_balance _ _) fun _ relayer hrelayer => ?_
  refine Matched.bind (matched_balance _ _) fun _ fastRelayer hfast => ?_
  subst hsequencer hproposer hrelayer hfast
  refine Matched.bind (matched_l1Baselines accounts h) fun _ baselines hbaselines => ?_
  subst hbaselines
  refine Matched.bind (matched_reconcileLedger _ _ _ _) fun u u' hu => ?_
  refine Matched.bind (matched_notes _ _) fun _ _ _ => ?_
  exact matched_pure (h.apply hu.1 hu.2)

/-- The second layer depends on its own counters; the prices only show in the log. -/
theorem matched_reconcileL2 (accounts : Accounts) (prices prices' : PriceBook)
    (h : b.AgreesOn .l2 b') :
    Matched (Billing.AgreesOn .l2) (reconcileL2 accounts b prices)
      (reconcileL2 accounts b' prices') := by
  rw [reconcileL2, reconcileL2, h.committed_eq]
  refine Matched.bind (matched_balance _ _) fun _ vault hvault => ?_
  refine Matched.bind (matched_tokenBalance _ _) fun _ secondary hsecondary => ?_
  refine Matched.bind (matched_balance _ _) fun _ billing hbilling => ?_
  subst hvault hsecondary hbilling
  refine Matched.bind (matched_reconcileLedger _ _ _ _) fun u u' hu => ?_
  refine Matched.bind (matched_notes _ _) fun _ _ _ => ?_
  refine Matched.bind (matched_notes _ _) fun _ _ _ => ?_
  exact matched_pure (h.apply hu.1 hu.2)

end Step

/-! ### The steps of a tick -/

/-- The same answer keeps an agreement, whenever it came. -/
theorem PriceBook.AgreesWith.take {book book' : PriceBook} (h : book.AgreesWith book') (pair : Pair)
    (fetched : Except Failure RawPrice) (now now' : Timestamp) :
    (book.take pair fetched now).AgreesWith (book'.take pair fetched now') := by
  intro other
  simp only [PriceBook.take]
  cases judge fetched with
  | error e => exact h other
  | ok value =>
    have hother := h other
    simp only [value?, get?_record] at hother ⊢
    split
    · rfl
    · exact hother

theorem matched_refreshPrices {book book' : PriceBook} (h : book.AgreesWith book') :
    Dialogue.Matched (fun y y' => y.2 = y'.2 ∧ y.1.AgreesWith y'.1)
      (refreshPrices book) (refreshPrices book') := by
  refine Dialogue.Matched.bind (Dialogue.matched_call rfl) fun _ native hnative => ?_
  refine Dialogue.Matched.bind (Dialogue.matched_call rfl) fun _ secondary hsecondary => ?_
  subst hnative hsecondary
  refine Dialogue.Matched.bind (Dialogue.matched_aside rfl rfl) fun now now' _ => ?_
  refine Dialogue.Matched.bind (Step.matched_notes _ _) fun _ _ _ => ?_
  exact Dialogue.matched_done ⟨rfl, (h.take _ _ _ _).take _ _ _ _⟩

theorem matched_runLedgerStep {s s' : Service} {x x' : Step Billing}
    (h : s.billing.AgreesOn side s'.billing) (hx : Step.Matched (Billing.AgreesOn side) x x') :
    Dialogue.Matched (fun y y' => y.2 = y'.2 ∧ side.step.LeavesAlike y.1 y'.1)
      (runLedgerStep s x) (runLedgerStep s' x') := by
  have hleaves : ∀ {t t' : Service}, t.billing.AgreesOn side t'.billing →
      side.step.LeavesAlike t t' := by
    refine fun ht => ⟨fun other hother => ?_, fun hprices => ?_⟩
    · rwa [← Side.step_inj.1 hother]
    · cases side <;> cases hprices
  refine Dialogue.Matched.bind hx ?_
  rintro (stop | billing) (stop' | billing') hr
  · exact Dialogue.matched_done ⟨congrArg Except.error hr, hleaves h⟩
  · exact hr.elim
  · exact hr.elim
  · exact Dialogue.matched_done ⟨rfl, hleaves hr⟩

/-- A step that steers a parameter changes neither ledgers nor prices. -/
theorem TickStep.LeavesAlike.of_writesOnChain {step : TickStep} (h : step.writesOnChain = true)
    (s s' : Service) : step.LeavesAlike s s' := by
  constructor
  · rintro (_ | _) rfl <;> cases h
  · rintro rfl
    cases h

/-- No step that steers a parameter looks at the clock. -/
theorem TickStep.isTimeless_of_mayAsk {step : TickStep} (hstep : step.writesOnChain = true)
    {q : Query} (h : step.mayAsk q = true) : q.isTimeless = true := by
  cases step <;> cases hstep <;> cases q <;> first | rfl | cases h

theorem matched_runParameterStep {s s' : Service} {step : TickStep} {x : Step ParameterOutcome}
    (hstep : step.writesOnChain = true) (hx : Dialogue.Asks (fun q => step.mayAsk q = true) x.run) :
    Dialogue.Matched (fun y y' => y.2 = y'.2 ∧ step.LeavesAlike y.1 y'.1)
      (runParameterStep s x) (runParameterStep s' x) := by
  have htimeless : Dialogue.Asks (fun q => q.isTimeless = true) x.run :=
    hx.mono (fun _ => TickStep.isTimeless_of_mayAsk hstep) (fun _ _ h => h) fun _ h => h
  refine Dialogue.Matched.bind (Dialogue.matched_self htimeless) fun r r' hr => ?_
  rw [hr]
  exact Dialogue.matched_done ⟨rfl, .of_writesOnChain hstep _ _⟩

/-- The price ratio depends on nothing of a book but its prices. -/
theorem PriceBook.AgreesWith.updatePriceRatio_eq {book book' : PriceBook}
    (h : book.AgreesWith book') (c : ControllerSettings) :
    Step.updatePriceRatio c book = Step.updatePriceRatio c book' := by
  have hprices : book.value? = book'.value? := funext h
  simp only [Step.updatePriceRatio, hprices]

/-- **Alike answers lead a step through the same calls to the same result.** -/
theorem matched_runStep (setup : Setup) {step : TickStep} {s s' : Service}
    (h : step.MeetsAlike s s') :
    Dialogue.Matched (fun y y' => y.2 = y'.2 ∧ step.LeavesAlike y.1 y'.1)
      (runStep setup s step) (runStep setup s' step) := by
  cases step with
  | refreshPrices =>
    refine Dialogue.Matched.bind (matched_refreshPrices (h.prices (.inl rfl))) ?_
    rintro ⟨book, failure⟩ ⟨book', _⟩ ⟨rfl, hprices⟩
    have hleaves : ∀ b b' n n', TickStep.refreshPrices.LeavesAlike ⟨b, book, n⟩ ⟨b', book', n'⟩ :=
      fun _ _ _ _ => ⟨by rintro (_ | _) ⟨⟩, fun _ => hprices⟩
    cases failure <;> exact Dialogue.matched_done ⟨rfl, hleaves ..⟩
  | reconcileL1 =>
    have hl1 := h.ledger .l1 rfl
    exact matched_runLedgerStep hl1 (Step.matched_reconcileL1 setup.accounts hl1)
  | reconcileL2 =>
    have hl2 := h.ledger .l2 rfl
    exact matched_runLedgerStep hl2 (Step.matched_reconcileL2 setup.accounts s.book s'.book hl2)
  | priceRatio =>
    rw [runStep, runStep, (h.prices (.inr rfl)).updatePriceRatio_eq]
    exact matched_runParameterStep rfl
      (Step.Honours.asks (Step.honours_updatePriceRatio (.inr trivial) _ fun _ hq _ => hq))
  | overhead =>
    exact matched_runParameterStep rfl
      (Step.Honours.asks (Step.honours_updateOverhead (.inr trivial) fun _ hq _ => hq))
  | l1BaseFee =>
    exact matched_runParameterStep rfl
      (Step.Honours.asks (Step.honours_updateL1BaseFee _ fun _ hq _ => hq))

end RollupFees
