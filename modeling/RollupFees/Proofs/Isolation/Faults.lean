import RollupFees.Proofs.Isolation.Calls
import RollupFees.Proofs.Steering.Steps

/-!
# Which call a step fails for

A call may bring a failure in two ways: it is answered with one, or its answer amounts to one. A
price that cannot be worked out, a transaction without a receipt and a wait that runs out of time
are of the second kind. As long as no stop is requested, a step fails exactly if one of its calls
has brought a failure, and it fails with a failure that a call of its own has brought. Nothing that
went on in another step, and no failure that was brought to one, makes it fail.

## Main definitions

* `Exchange.fault?` : the failure that a call has brought to its step
* `Blames` : a result that is explained by the calls that led to it
* `Step.IsBlaming` : a step whose results are all explained by its calls

## Main results

* `blames_runStep` : every step of a tick is one
-/

namespace RollupFees

/-- The failure that a call has brought to its step. -/
def Exchange.fault? : Exchange Query.Answer → Option Failure
  | ⟨.latestAnswer _, fetched⟩ =>
    match PriceBook.judge fetched with
    | .ok _ => none
    | .error e => some e
  | ⟨.receipt tx, .ok none⟩ =>
    some (.rpc "eth_getTransactionReceipt" ("no receipt for batch transaction " ++ tx.text))
  | ⟨.confirmation _ tx limit, .timedOut⟩ => some (.unconfirmed tx limit)
  | x => x.failure?

/-- A result is explained by the calls that led to it: where there is one, no call has brought a
failure, and a failure is one that a call has brought. -/
structure Blames {α : Type} (xs : List (Exchange Query.Answer)) (r : Except Stop α) : Prop where
  flawless : ∀ a, r = .ok a → ∀ x ∈ xs, x.fault? = none
  blamed : ∀ f, r = .error (.failed f) → ∃ x ∈ xs, x.fault? = some f

variable {α β : Type} {xs ys : List (Exchange Query.Answer)}

namespace Blames

theorem ok {a : α} (h : ∀ x ∈ xs, x.fault? = none) : Blames xs (.ok a) :=
  ⟨fun _ _ => h, nofun⟩

theorem failed {f : Failure} {x : Exchange Query.Answer} (hx : x ∈ xs) (h : x.fault? = some f) :
    Blames xs (.error (.failed f) : Except Stop α) := by
  refine ⟨nofun, fun g hg => ⟨x, hx, ?_⟩⟩
  obtain rfl : f = g := Stop.failed.inj (Except.error.inj hg)
  exact h

/-- What has brought no failure leaves the blame to what follows. -/
theorem append {r : Except Stop α} (hx : ∀ x ∈ xs, x.fault? = none) (h : Blames ys r) :
    Blames (xs ++ ys) r := by
  constructor
  · intro a ha y hy
    rcases List.mem_append.1 hy with hy | hy
    · exact hx y hy
    · exact h.flawless a ha y hy
  · intro f hf
    obtain ⟨y, hy, hfault⟩ := h.blamed f hf
    exact ⟨y, List.mem_append_right xs hy, hfault⟩

end Blames

theorem fault?_notes (ns : List Notice) :
    ∀ x ∈ ns.map fun n => (⟨.note n, ()⟩ : Exchange Query.Answer), x.fault? = none := by
  intro x hx
  obtain ⟨n, -, rfl⟩ := List.mem_map.1 hx
  rfl

namespace Step

/-- As long as no stop is requested, all results of a step are explained by its calls. -/
structure IsBlaming (x : Step α) : Prop where of_path ::
  path : ∀ {xs r}, Path x xs r → Calm xs → Blames xs r

/-! ### Parts of a step -/

theorem isBlaming_pure {a : α} : IsBlaming (pure a) := by
  refine .of_path fun {xs r} h _ => ?_
  obtain ⟨rfl, rfl⟩ := path_pure.1 h
  exact .ok (by simp)

theorem isBlaming_compute {c : Except Breakdown α} : IsBlaming (compute c) := by
  refine .of_path fun {xs r} h _ => ?_
  obtain ⟨rfl, rfl⟩ := path_compute.1 h
  cases c with
  | ok a => exact .ok (by simp)
  | error b => exact ⟨nofun, nofun⟩

theorem IsBlaming.bind {x : Step α} {f : α → Step β} (hx : IsBlaming x)
    (hf : ∀ a, IsBlaming (f a)) : IsBlaming (x >>= f) := by
  refine .of_path fun {xs r} h hcalm => ?_
  rcases path_bind.1 h with ⟨e, hstop, rfl⟩ | ⟨ys, zs, a, rfl, hdone, hrest⟩
  · refine ⟨nofun, fun g hg => (hx.path hstop hcalm).blamed g ?_⟩
    rw [Except.error.inj hg]
  · obtain ⟨hcalm₁, hcalm₂⟩ := hcalm.of_append
    exact .append ((hx.path hdone hcalm₁).flawless a rfl) ((hf a).path hrest hcalm₂)

theorem isBlaming_notes (ns : List Notice) : IsBlaming (notes ns) := by
  refine .of_path fun {xs r} h _ => ?_
  obtain ⟨rfl, rfl⟩ := path_notes.1 h
  exact .ok (fault?_notes ns)

theorem isBlaming_note (n : Notice) : IsBlaming (note n) := isBlaming_notes [n]

/-- A question whose answers bring no failure. -/
theorem isBlaming_ask {q : Query} (h : ∀ a, (⟨q, a⟩ : Exchange Query.Answer).fault? = none) :
    IsBlaming (ask q) := by
  refine .of_path fun {xs r} hpath _ => ?_
  obtain ⟨a, rfl, rfl⟩ := path_ask.1 hpath
  exact .ok (by simpa using h a)

/-- A reading is a single exchange, which brings the failure if there is one. -/
theorem isBlaming_read {talk : Talk (Except Failure α)} (q : Query)
    (read : Except Failure α → q.Answer)
    (htalk : ∀ xs e, talk.Path xs e → xs = [⟨q, read e⟩])
    (hfault : ∀ f, (⟨q, read (.error f)⟩ : Exchange Query.Answer).fault? = some f)
    (hnone : ∀ a, (⟨q, read (.ok a)⟩ : Exchange Query.Answer).fault? = none) :
    IsBlaming (need talk) := by
  refine .of_path fun {xs r} h _ => ?_
  obtain ⟨e | a, hread, rfl⟩ := path_need.1 h
  · obtain rfl := htalk xs _ hread
    exact .failed (List.mem_singleton_self _) (hfault e)
  · obtain rfl := htalk xs _ hread
    exact .ok (by simpa using hnone a)

/-! ### Ledgers -/

theorem isBlaming_balance (side : Side) (account : Address) :
    IsBlaming (balance side account) :=
  isBlaming_read (.balance side account) id (fun _ _ => Dialogue.path_question.1)
    (fun _ => rfl) fun _ => rfl

theorem isBlaming_commit (s : Snapshot) : IsBlaming (commit s) := by
  refine .of_path fun {xs r} h _ => ?_
  rw [commit] at h
  obtain ⟨e | _, ys, rfl, h₁⟩ := path_ask_bind.1 h
  · obtain ⟨zs, rfl, h₂⟩ := path_note_bind.1 h₁
    obtain ⟨rfl, rfl⟩ := path_fail.1 h₂
    exact .failed List.mem_cons_self rfl
  · obtain ⟨rfl, rfl⟩ := path_pure.1 h₁
    exact .ok (by simp [Exchange.fault?, Exchange.failure?])

theorem isBlaming_reconcileLedger (side : Side) (committed : Option (CounterMap CounterState))
    (balances baselines : CounterMap Amount) :
    IsBlaming (reconcileLedger side committed balances baselines) := by
  refine (isBlaming_notes _).bind fun _ => (isBlaming_ask fun _ => rfl).bind fun now => ?_
  exact (isBlaming_commit _).bind fun _ => isBlaming_pure

theorem isBlaming_l1Baselines (accounts : Accounts) (b : Billing) :
    IsBlaming (l1Baselines accounts b) := by
  rw [l1Baselines]
  split
  · exact isBlaming_pure
  · exact (isBlaming_balance _ _).bind fun _ => (isBlaming_note _).bind fun _ => isBlaming_pure

theorem isBlaming_reconcileL1 (accounts : Accounts) (b : Billing) :
    IsBlaming (reconcileL1 accounts b) := by
  refine (isBlaming_balance _ _).bind fun _ => (isBlaming_balance _ _).bind fun _ => ?_
  refine (isBlaming_balance _ _).bind fun _ => (isBlaming_balance _ _).bind fun _ => ?_
  refine (isBlaming_l1Baselines _ _).bind fun _ => ?_
  refine (isBlaming_reconcileLedger _ _ _ _).bind fun _ => ?_
  exact (isBlaming_notes _).bind fun _ => isBlaming_pure

theorem isBlaming_reconcileL2 (accounts : Accounts) (b : Billing) (prices : PriceBook) :
    IsBlaming (reconcileL2 accounts b prices) := by
  refine (isBlaming_balance _ _).bind fun _ => ?_
  refine (isBlaming_read (.tokenBalance _ _) id (fun _ _ => Dialogue.path_question.1)
    (fun _ => rfl) fun _ => rfl).bind fun _ => (isBlaming_balance _ _).bind fun _ => ?_
  refine (isBlaming_reconcileLedger _ _ _ _).bind fun _ => (isBlaming_notes _).bind fun _ => ?_
  exact (isBlaming_notes _).bind fun _ => isBlaming_pure

/-! ### Writes -/

/-- A write fails for the call that hands in its update, or for the wait. -/
theorem isBlaming_apply (limit : Duration) (u : Update) : IsBlaming (apply limit u) := by
  refine .of_path fun {xs r} h hcalm => ?_
  rw [apply] at h
  obtain ⟨stopping, ys, rfl, h₁⟩ := path_ask_bind.1 h
  cases stopping with
  | true => exact absurd .told (hcalm _ List.mem_cons_self)
  | false =>
    rcases path_need_bind.1 h₁ with ⟨e, hsubmit, rfl⟩ | ⟨_, zs, tx, rfl, hsubmit, h₂⟩ <;>
      obtain rfl := Dialogue.path_question.1 hsubmit
    · exact .failed (x := ⟨.submit u, .error e⟩) (by simp) rfl
    obtain ⟨zs, rfl, h₃⟩ := path_note_bind.1 h₂
    obtain ⟨wait, zs, rfl, h₄⟩ := path_ask_bind.1 h₃
    rcases wait with (e | a) | _ | _
    · obtain ⟨rfl, rfl⟩ := path_fail.1 h₄
      exact .failed (x := ⟨.confirmation u.parameter tx limit, .finished (.error e)⟩) (by simp) rfl
    · obtain ⟨rfl, rfl⟩ := path_pure.1 h₄
      exact .ok (by simp [Exchange.fault?, Exchange.failure?])
    · obtain ⟨rfl, rfl⟩ := path_fail.1 h₄
      exact .failed (x := ⟨.confirmation u.parameter tx limit, .timedOut⟩) (by simp) rfl
    · exact absurd .interrupted
        (hcalm ⟨.confirmation u.parameter tx limit, .interrupted⟩ (by simp))

theorem isBlaming_skip (parameter : Parameter) (current : Amount) (target : Option Amount)
    (reason : SkipReason) : IsBlaming (skip parameter current target reason) :=
  (isBlaming_note _).bind fun _ => isBlaming_pure

theorem isBlaming_moveToward (limit : Duration) (bounds : Bounds) (parameter : Parameter)
    (current target : Amount) (update : Amount → Update) :
    IsBlaming (moveToward limit bounds parameter current target update) := by
  refine isBlaming_compute.bind fun action => (isBlaming_notes _).bind fun _ => ?_
  cases action with
  | noOp reason => exact isBlaming_skip ..
  | setTo v =>
    exact (isBlaming_apply limit _).bind fun _ => (isBlaming_note _).bind fun _ => isBlaming_pure

theorem isBlaming_updatePriceRatio (c : ControllerSettings) (book : PriceBook) :
    IsBlaming (updatePriceRatio c book) := by
  refine (isBlaming_read .priceRatio id (fun _ _ => Dialogue.path_question.1)
    (fun _ => rfl) fun _ => rfl).bind fun current => ?_
  refine (isBlaming_read .priceRatioDecimals id (fun _ _ => Dialogue.path_question.1)
    (fun _ => rfl) fun _ => rfl).bind fun decimals => ?_
  dsimp only
  split
  · exact isBlaming_skip ..
  · exact (isBlaming_note _).bind fun _ => isBlaming_moveToward ..

theorem isBlaming_updateL1BaseFee (c : ControllerSettings) : IsBlaming (updateL1BaseFee c) := by
  refine (isBlaming_read .gasPrice id (fun _ _ => Dialogue.path_question.1)
    (fun _ => rfl) fun _ => rfl).bind fun target => ?_
  refine (isBlaming_read .l1BaseFee id (fun _ _ => Dialogue.path_question.1)
    (fun _ => rfl) fun _ => rfl).bind fun current => ?_
  exact (isBlaming_note _).bind fun _ => isBlaming_moveToward ..

/-- A missing receipt is noticed only when gas is added up, so both are taken together. -/
theorem isBlaming_gas {hashes : List Hash} {f : List (Option Receipt) → Amount → Step α}
    (hf : ∀ found gas, IsBlaming (f found gas)) :
    IsBlaming (receipts hashes >>= fun found => totalGas hashes found >>= f found) := by
  refine .of_path fun {xs r} h hcalm => ?_
  rcases path_bind.1 h with ⟨e, hreceipts, rfl⟩ | ⟨ys, zs, found, rfl, hreceipts, h₁⟩
  · obtain ⟨tx, f, rfl, hmem⟩ := exists_of_path_receipts hreceipts
    exact .failed hmem rfl
  obtain ⟨-, rfl⟩ := path_receipts_ok hreceipts
  rcases path_bind.1 h₁ with ⟨e, hgas, rfl⟩ | ⟨_, zs, gas, rfl, hgas, h₂⟩
  · obtain ⟨rfl, -⟩ := path_totalGas hgas
    obtain ⟨tx, hmem, rfl⟩ := exists_of_path_totalGas hgas
    refine .failed (x := ⟨.receipt tx, .ok none⟩) ?_ rfl
    rw [List.append_nil]
    exact List.mem_map.2 ⟨_, hmem, rfl⟩
  obtain ⟨rfl, hknown⟩ := path_totalGas hgas
  obtain ⟨known, hzip, -⟩ := hknown gas rfl
  refine .append (fun x hx => ?_) ((hf found gas).path h₂ hcalm.of_append.2)
  rw [hzip, List.map_map] at hx
  obtain ⟨found, -, rfl⟩ := List.mem_map.1 hx
  rfl

theorem isBlaming_updateOverhead (c : ControllerSettings) : IsBlaming (updateOverhead c) := by
  refine (isBlaming_read .overhead id (fun _ _ => Dialogue.path_question.1)
    (fun _ => rfl) fun _ => rfl).bind fun current => ?_
  refine (isBlaming_read .blockNumber id (fun _ _ => Dialogue.path_question.1)
    (fun _ => rfl) fun _ => rfl).bind fun latest => ?_
  refine (isBlaming_read (.batchEvents _ _) id (fun _ _ => Dialogue.path_question.1)
    (fun _ => rfl) fun _ => rfl).bind fun events => ?_
  split
  · exact (isBlaming_note _).bind fun _ => isBlaming_skip ..
  · refine isBlaming_gas fun found gas => ?_
    dsimp only
    split
    · exact isBlaming_skip ..
    · exact (isBlaming_note _).bind fun _ => isBlaming_moveToward ..

end Step

/-! ### The steps of a tick -/

variable {setup : Setup} {s after : Service} {r : StepResult}

/-- A refresh fails for a feed whose answer is no price. -/
theorem blames_refreshPrices {book : PriceBook} {y : PriceBook × Option Failure}
    (h : (refreshPrices book).Path xs y) :
    (y.2 = none → ∀ x ∈ xs, x.fault? = none) ∧
      ∀ f, y.2 = some f → ∃ x ∈ xs, x.fault? = some f := by
  obtain ⟨native, secondary, now, ns, rfl, rfl⟩ := exists_of_path_refreshPrices h
  have hgood : ∀ {pair fetched v}, PriceBook.judge fetched = .ok v →
      (⟨.latestAnswer pair, fetched⟩ : Exchange Query.Answer).fault? = none := fun h => by
    rw [Exchange.fault?, h]
  have hbad : ∀ {pair fetched e}, PriceBook.judge fetched = .error e →
      (⟨.latestAnswer pair, fetched⟩ : Exchange Query.Answer).fault? = some e := fun h => by
    rw [Exchange.fault?, h]
  simp only [PriceBook.refreshFailure?]
  rcases hn : PriceBook.judge native with e | value
  · refine ⟨fun hnone => absurd hnone (Option.some_ne_none e), fun f hf =>
      ⟨⟨.latestAnswer .native, native⟩, by simp, ?_⟩⟩
    rw [hbad hn, ← hf]
  · rcases hs : PriceBook.judge secondary with e | value'
    · refine ⟨fun hnone => absurd hnone (Option.some_ne_none e), fun f hf =>
        ⟨⟨.latestAnswer .secondary, secondary⟩, by simp, ?_⟩⟩
      rw [hbad hs, ← hf]
    · refine ⟨fun _ x hx => ?_, fun f hf => absurd hf.symm (Option.some_ne_none f)⟩
      simp only [List.mem_cons] at hx
      rcases hx with rfl | rfl | rfl | hx
      · exact hgood hn
      · exact hgood hs
      · rfl
      · exact fault?_notes _ x hx

/-- What a tick makes of the result of a step leaves the blame where it is. -/
theorem Step.IsBlaming.blames {x : Step α} (hx : x.IsBlaming) (h : x.Yields xs r)
    (hcalm : Calm xs) : Blames xs r := by
  obtain ⟨e | a, f, hpath, rfl⟩ := h
  · exact ⟨nofun, fun g hg => (hx.path hpath hcalm).blamed g (congrArg _ (Except.error.inj hg))⟩
  · exact .ok ((hx.path hpath hcalm).flawless a rfl)

/-- **A step fails for a call of its own.** As long as no stop is requested, a step is completed if
none of its calls has brought a failure, and otherwise it fails with one that a call has brought. -/
theorem blames_runStep {step : TickStep} (h : (runStep setup s step).Path xs (after, r))
    (hcalm : Calm xs) : Blames xs r := by
  cases step with
  | refreshPrices =>
    obtain ⟨ys, _, ⟨book, _ | failure⟩, rfl, hrefresh, rfl, heq⟩ := Dialogue.path_bind.1 h <;>
      obtain ⟨-, rfl⟩ := Prod.mk.inj heq <;> rw [List.append_nil]
    · exact .ok ((blames_refreshPrices hrefresh).1 rfl)
    · obtain ⟨x, hx, hfault⟩ := (blames_refreshPrices hrefresh).2 failure rfl
      exact .failed hx hfault
  | reconcileL1 => exact (Step.isBlaming_reconcileL1 ..).blames (yields_of_runLedgerStep h) hcalm
  | reconcileL2 => exact (Step.isBlaming_reconcileL2 ..).blames (yields_of_runLedgerStep h) hcalm
  | priceRatio =>
    exact (Step.isBlaming_updatePriceRatio ..).blames (yields_of_runParameterStep h) hcalm
  | overhead => exact (Step.isBlaming_updateOverhead ..).blames (yields_of_runParameterStep h) hcalm
  | l1BaseFee =>
    exact (Step.isBlaming_updateL1BaseFee ..).blames (yields_of_runParameterStep h) hcalm

end RollupFees
