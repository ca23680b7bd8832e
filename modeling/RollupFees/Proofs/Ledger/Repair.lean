import RollupFees.Proofs.Ledger.Observation
import RollupFees.Proofs.Questions
import RollupFees.Proofs.Records

/-!
# Totals are raised once

A vault can never hold more than it has ever collected. A snapshot that says otherwise is put right
by the first reconciliation that is committed: every total that would stay below its balance is
raised to it. From then on no total ever falls short again, whatever the balances do, for a total
grows at least as much as the balance. A service that starts without history has nothing to put
right at all.

A reconciliation that could not be committed has repaired nothing. The one after it starts from the
same snapshot, and is still the first.

## Main definitions

* `Round` : what a reconciliation is given
* `Round.fallsShort` : a total that would stay below its balance
* `rounds` : one reconciliation after the other, each from what the last completed one has committed
* `Covers` : a snapshot in which no vault holds more than it has collected

## Main results

* `settle_covers` : one reconciliation puts every total right
* `repaired_first_only` : only the first one that is completed has anything to repair
-/

namespace RollupFees

variable {c : Counter} {side : Side} {m : CounterMap CounterState}
  {balances baselines : CounterMap Amount}

/-- The counters whose total was raised, in order. -/
def LedgerUpdate.repaired (u : LedgerUpdate) : List Counter := u.raised.toList.map Prod.fst

theorem CounterMap.map_fst_toList {α : Type} (m : CounterMap α) :
    m.toList.map Prod.fst = Counter.all.filter fun c => (m.get? c).isSome := by
  rw [toList, List.map_filterMap, ← List.filterMap_eq_filter]
  congr 1
  funext c
  cases h : m.get? c <;> simp [Option.guard, h]

/-- What a reconciliation is given besides the committed counters. -/
structure Round where
  balances : CounterMap Amount
  baselines : CounterMap Amount

/-- A balance is given for every counter of a side. -/
def Round.IsFull (side : Side) (r : Round) : Prop :=
  ∀ c : Counter, c.side = side → ∃ now, r.balances.get? c = some now

/-- Whether the total of a counter, together with what its balance has risen by, is below the
balance. The total of a counter that was not seen before is its base line. -/
def Round.fallsShort (r : Round) (m : CounterMap CounterState) (c : Counter) : Bool :=
  match r.balances.get? c, m.get? c with
  | some now, some before =>
    before.cumulative.toNat + (now.toNat - before.observed.toNat) < now.toNat
  | some now, none => ((r.baselines.get? c).getD 0).toNat < now.toNat
  | none, _ => false

/-- No counter of a side holds more than it has collected. -/
def Covers (side : Side) (m : CounterMap CounterState) : Prop :=
  ∀ c : Counter, c.side = side → ∀ e, m.get? c = some e → e.observed ≤ e.cumulative

/-! ### One counter -/

theorem Counter.flow_of_side (h : c.side = .l2) : c.flow = .inflow := by
  rw [flow, h]

/-- A total is raised if it counts what comes in and would be below its balance. -/
theorem Counter.isSome_raisedFrom_settle (c : Counter) (now : Amount)
    (previous : Option CounterState) (baseline : Amount) :
    (c.settle now previous baseline).raisedFrom.isSome =
      decide (c.flow = .inflow ∧ (c.flow.reconcile now previous baseline).1.cumulative < now) := by
  simp only [settle]
  split
  · next hraise => exact (decide_eq_true hraise).symm
  · next hnot => exact (decide_eq_false hnot).symm

@[simp] theorem Counter.observed_settle (c : Counter) (now : Amount)
    (previous : Option CounterState) (baseline : Amount) :
    (c.settle now previous baseline).state.observed = now := by
  simp only [settle]
  split <;> cases previous <;> rfl

/-- A total that counts what comes in is not below its balance afterwards. -/
theorem Counter.le_cumulative_settle (h : c.flow = .inflow) (now : Amount)
    (previous : Option CounterState) (baseline : Amount) :
    now ≤ (c.settle now previous baseline).state.cumulative := by
  simp only [settle]
  split
  · simp [Amount.le_iff]
  · next hnot =>
    simp only [h, true_and, Amount.lt_iff, Amount.le_iff] at hnot ⊢
    omega

/-! ### One reconciliation -/

/-- What falls short is what is raised. -/
theorem isSome_raisedFrom_settledEntry (r : Round) (m : CounterMap CounterState)
    (h : c.side = .l2) :
    ((settledEntry .l2 m r.balances r.baselines c).bind Entry.raisedFrom).isSome =
      r.fallsShort m c := by
  have hflow := c.flow_of_side h
  simp only [settledEntry, if_pos h, Round.fallsShort]
  cases r.balances.get? c with
  | none => rfl
  | some now =>
    simp only [Option.map_some, Option.bind_some, Counter.isSome_raisedFrom_settle, hflow, true_and]
    cases m.get? c with
    | none => simp [Amount.lt_iff]
    | some before =>
      -- held at the largest amount, a total is not below any balance
      have hmax := now.le_max
      simp only [Flow.reconcile_some, Flow.accrued, Amount.lt_iff, Amount.toNat_satAdd,
        Amount.toNat_satSub, Amount.maxNat, decide_eq_decide]
      omega

/-- The counters that are raised are those that fall short. -/
theorem repaired_settle (r : Round) (m : CounterMap CounterState) :
    (settle .l2 m r.balances r.baselines).repaired = Side.l2.counters.filter (r.fallsShort m) := by
  rw [Settlement.repaired, CounterMap.map_fst_toList, Side.counters, List.filter_filter]
  refine List.filter_congr fun c _ => ?_
  rw [get?_settle_raised]
  by_cases h : c.side = .l2
  · simp [isSome_raisedFrom_settledEntry r m h, h]
  · simp [settledEntry, h]

/-- Every counter whose balance was given has been brought up to date with it. -/
theorem get?_settle_of_get? {now : Amount} (hc : c.side = side) (h : balances.get? c = some now) :
    (settle side m balances baselines).counters.get? c =
      some (c.settle now (m.get? c) ((baselines.get? c).getD 0)).state := by
  simp [settledEntry, hc, h]

/-- **A reconciliation puts every total right.** With a balance for every vault, no vault holds more
than it has collected, whatever the snapshot said before. -/
theorem settle_covers {r : Round} (hr : r.IsFull .l2) (m : CounterMap CounterState) :
    Covers .l2 (settle .l2 m r.balances r.baselines).counters := by
  intro c hc e he
  obtain ⟨now, hnow⟩ := hr c hc
  rw [get?_settle_of_get? hc hnow] at he
  obtain rfl := Option.some.inj he
  rw [Counter.observed_settle]
  exact c.le_cumulative_settle (c.flow_of_side hc) _ _ _

/-- A counter that holds no more than it has collected does not fall short, and one that was not
seen before does not if its base line is its balance. -/
theorem Covers.not_fallsShort (h : Covers .l2 m) {r : Round} (hc : c.side = .l2)
    (hseen : (∃ e, m.get? c = some e) ∨ r.baselines = r.balances) : r.fallsShort m c = false := by
  rw [Round.fallsShort]
  cases hnow : r.balances.get? c with
  | none => rfl
  | some now =>
    cases hbefore : m.get? c with
    | some before =>
      have hle := h c hc before hbefore
      simp only [Amount.le_iff] at hle
      simp only [decide_eq_false_iff_not]
      omega
    | none =>
      obtain ⟨e, he⟩ | hbase := hseen
      · rw [hbefore] at he
        cases he
      · simp [hbase, hnow]

/-- Where no vault holds more than it has collected, nothing is raised. -/
theorem Covers.repaired_eq_nil (h : Covers .l2 m) {r : Round}
    (hseen : ∀ c : Counter, c.side = .l2 → (∃ e, m.get? c = some e) ∨ r.baselines = r.balances) :
    (settle .l2 m r.balances r.baselines).repaired = [] := by
  rw [repaired_settle, List.filter_eq_nil_iff]
  intro c hc
  have hside := Side.mem_counters.1 hc
  simp [h.not_fallsShort hside (hseen c hside)]

/-- A reconciliation is completed if its commit is, and fails with the failure of the commit
otherwise. -/
theorem Step.path_reconcileLedger {committed : Option (CounterMap CounterState)}
    {xs : List (Exchange Query.Answer)} {reply : Except Stop LedgerUpdate}
    (h : Path (reconcileLedger side committed balances baselines) xs reply) :
    let s := settle side (committed.getD CounterMap.empty) balances baselines
    ∃ now, (⟨.commit ⟨side, s.counters, now⟩, .ok ()⟩ ∈ xs ∧
        reply = .ok ⟨⟨side, s.counters, now⟩, s.accrued, s.raised⟩) ∨
      ∃ f, ⟨.commit ⟨side, s.counters, now⟩, .error f⟩ ∈ xs ∧ reply = .error (.failed f) := by
  obtain ⟨now, ⟨rfl, hreply⟩ | ⟨f, _, rfl, hreply⟩⟩ := exchanges_reconcileLedger h
  · exact ⟨now, .inl ⟨by simp, hreply⟩⟩
  · exact ⟨now, .inr ⟨f, by simp, hreply⟩⟩

/-! ### One reconciliation after the other -/

/-- What is committed after a reply. -/
def committedAfter (committed : Option (CounterMap CounterState)) :
    Except Stop LedgerUpdate → Option (CounterMap CounterState)
  | .ok u => some u.snapshot.counters
  | .error _ => committed

/-- One reconciliation after the other, with all replies. Each of them starts from what the last
completed one has committed. -/
def rounds (side : Side) (committed : Option (CounterMap CounterState)) :
    List Round → Talk (List (Except Stop LedgerUpdate))
  | [] => .done []
  | r :: rest =>
    (Step.reconcileLedger side committed r.balances r.baselines).run.bind fun reply =>
      (rounds side (committedAfter committed reply) rest).bind fun replies =>
        .done (reply :: replies)

theorem path_rounds_cons {committed : Option (CounterMap CounterState)} {r : Round}
    {rest : List Round} {xs : List (Exchange Query.Answer)}
    {replies : List (Except Stop LedgerUpdate)}
    (h : (rounds side committed (r :: rest)).Path xs replies) :
    ∃ ys zs reply later, xs = ys ++ zs ∧ replies = reply :: later ∧
      Step.Path (Step.reconcileLedger side committed r.balances r.baselines) ys reply ∧
      (rounds side (committedAfter committed reply) rest).Path zs later := by
  obtain ⟨ys, _, reply, rfl, hfirst, hrest⟩ := Dialogue.path_bind.1 h
  obtain ⟨zs, _, later, rfl, hlater, rfl, rfl⟩ := Dialogue.path_bind.1 hrest
  exact ⟨ys, zs, reply, later, by simp, rfl, hfirst, hlater⟩

/-- Every call is replied to, and one that is not completed has failed in its commit. -/
theorem length_rounds (calls : List Round) (committed : Option (CounterMap CounterState))
    {xs : List (Exchange Query.Answer)} {replies : List (Except Stop LedgerUpdate)}
    (h : (rounds side committed calls).Path xs replies) :
    replies.length = calls.length ∧ ∀ stop, .error stop ∈ replies →
      ∃ f s, stop = .failed f ∧ ⟨.commit s, .error f⟩ ∈ xs := by
  induction calls generalizing committed xs replies with
  | nil =>
    obtain ⟨-, rfl⟩ := h
    simp
  | cons r rest ih =>
    obtain ⟨ys, zs, reply, later, rfl, rfl, hfirst, hlater⟩ := path_rounds_cons h
    obtain ⟨hlength, hfailed⟩ := ih _ hlater
    refine ⟨by simp [hlength], fun stop hstop => ?_⟩
    rcases List.mem_cons.1 hstop with rfl | hstop
    · obtain ⟨now, ⟨-, ⟨⟩⟩ | ⟨f, hf, hreply⟩⟩ := Step.path_reconcileLedger hfirst
      exact ⟨f, _, Except.error.inj hreply, List.mem_append_left _ hf⟩
    · obtain ⟨f, s, hf, hmem⟩ := hfailed stop hstop
      exact ⟨f, s, hf, List.mem_append_right _ hmem⟩

/-- What a completed call with a balance for every vault has come to: every vault is seen and holds
no more than it has collected, and the totals that fell short have been raised. -/
structure PutRight (m : CounterMap CounterState) (r : Round) (u : LedgerUpdate) : Prop where
  entries : ∀ c : Counter, c.side = .l2 → ∃ e, u.snapshot.counters.get? c = some e ∧
    r.balances.get? c = some e.observed ∧ e.observed ≤ e.cumulative
  repaired : u.repaired = Side.l2.counters.filter (r.fallsShort m)

theorem putRight_of_path {committed : Option (CounterMap CounterState)} {r : Round}
    (hr : r.IsFull .l2) {xs : List (Exchange Query.Answer)} {u : LedgerUpdate}
    (h : Step.Path (Step.reconcileLedger .l2 committed r.balances r.baselines) xs (.ok u)) :
    PutRight (committed.getD CounterMap.empty) r u := by
  obtain ⟨now, ⟨-, hu⟩ | ⟨f, -, ⟨⟩⟩⟩ := Step.path_reconcileLedger h
  obtain rfl := Except.ok.inj hu
  constructor
  · intro c hc
    obtain ⟨balance, hbalance⟩ := hr c hc
    have hentry : (settle .l2 (committed.getD CounterMap.empty) r.balances
        r.baselines).counters.get? c = _ := get?_settle_of_get? hc hbalance
    exact ⟨_, hentry, by simp [hbalance], settle_covers hr _ c hc _ hentry⟩
  · exact repaired_settle r _

/-- Once a call has been completed, the later ones have nothing to repair. -/
theorem PutRight.repaired_later (calls : List Round) (hcalls : ∀ r ∈ calls, r.IsFull .l2)
    {r : Round} {u : LedgerUpdate} (hu : PutRight m r u) {xs : List (Exchange Query.Answer)}
    {replies : List (Except Stop LedgerUpdate)}
    (h : (rounds .l2 (some u.snapshot.counters) calls).Path xs replies) :
    ∀ (i : Nat) r v, calls[i]? = some r → replies[i]? = some (Except.ok v) →
      (∃ m, PutRight m r v) ∧ v.repaired = [] := by
  induction calls generalizing m r u xs replies with
  | nil => simp
  | cons next rest ih =>
    obtain ⟨hnext, hrest⟩ := List.forall_mem_cons.1 hcalls
    obtain ⟨ys, zs, reply, later, rfl, rfl, hfirst, hlater⟩ := path_rounds_cons h
    intro i r v hr hv
    cases i with
    | zero =>
      obtain rfl : next = r := by simpa using hr
      obtain rfl : reply = .ok v := by simpa using hv
      have hput := putRight_of_path hnext hfirst
      refine ⟨⟨_, hput⟩, ?_⟩
      rw [hput.repaired, ← repaired_settle]
      refine Covers.repaired_eq_nil (fun c hc e he => ?_) fun c hc => .inl ?_ <;>
        obtain ⟨e', he', -, hle⟩ := hu.entries c hc
      · rw [Option.getD_some, he'] at he
        exact Option.some.inj he ▸ hle
      · exact ⟨e', he'⟩
    | succ i =>
      cases reply with
      | ok w => exact ih hrest (putRight_of_path hnext hfirst) hlater i r v hr hv
      | error stop => exact ih hrest hu hlater i r v hr hv

/-- Up to the first completed call nothing changes what is committed. -/
theorem putRight_of_path_rounds (calls : List Round) (hcalls : ∀ r ∈ calls, r.IsFull .l2)
    (committed : Option (CounterMap CounterState)) {xs : List (Exchange Query.Answer)}
    {replies : List (Except Stop LedgerUpdate)}
    (h : (rounds .l2 committed calls).Path xs replies) :
    ∀ (i : Nat) r u, calls[i]? = some r → replies[i]? = some (Except.ok u) →
      (∃ m, PutRight m r u) ∧
      ((∃ j < i, ∃ v, replies[j]? = some (Except.ok v)) → u.repaired = []) ∧
      ((∀ j < i, ∀ v, replies[j]? ≠ some (Except.ok v)) →
        u.repaired = Side.l2.counters.filter
          (r.fallsShort (committed.getD CounterMap.empty))) := by
  induction calls generalizing committed xs replies with
  | nil => simp
  | cons next rest ih =>
    obtain ⟨hnext, hrest⟩ := List.forall_mem_cons.1 hcalls
    obtain ⟨ys, zs, reply, later, rfl, rfl, hfirst, hlater⟩ := path_rounds_cons h
    intro i r u hr hu
    cases i with
    | zero =>
      obtain rfl : next = r := by simpa using hr
      obtain rfl : reply = .ok u := by simpa using hu
      have hput := putRight_of_path hnext hfirst
      exact ⟨⟨_, hput⟩, by simp, fun _ => hput.repaired⟩
    | succ i =>
      cases reply with
      | ok v =>
        obtain ⟨hput, hnil⟩ :=
          (putRight_of_path hnext hfirst).repaired_later rest hrest hlater i r u hr hu
        refine ⟨hput, fun _ => hnil, fun hnone => ?_⟩
        exact absurd rfl (hnone 0 (by omega) v)
      | error stop =>
        obtain ⟨hput, hlast, hfirst⟩ := ih hrest committed hlater i r u hr hu
        refine ⟨hput, ?_, fun hnone => hfirst fun j hj v hv => hnone (j + 1) (by omega) v hv⟩
        rintro ⟨_ | j, hj, v, hv⟩
        · cases hv
        · exact hlast ⟨j, by omega, v, hv⟩

/-! ### In a run without history -/

/-- A log line that asks for attention. -/
def Query.isWarning : Query → Bool
  | .note n => n.level = .warn
  | _ => false

/-- Nothing that asks for attention is written. -/
abbrev Contract.unwarned : Contract Query.Answer := .asking fun q => q.isWarning = false

namespace Step

variable {breaks : Prop}

theorem honours_notes_unwarned {ns : List Notice} (h : ∀ n ∈ ns, n.level ≠ .warn) :
    Honours .unwarned breaks (fun _ => True) (notes ns) := by
  induction ns with
  | nil => exact honours_pure trivial
  | cons n rest ih =>
    obtain ⟨hn, hrest⟩ := List.forall_mem_cons.1 h
    exact Honours.bind (honours_ask (decide_eq_false hn) fun _ _ => trivial) fun _ _ => ih hrest

/-- Where nothing has to be raised, the reconciliation of a ledger writes no warning. -/
theorem honours_reconcileLedger_unwarned {committed : Option (CounterMap CounterState)}
    (h : (settle side (committed.getD CounterMap.empty) balances baselines).repaired = []) :
    Honours .unwarned breaks (fun u => u.raised.toList = [])
      (reconcileLedger side committed balances baselines) := by
  have hraised := List.map_eq_nil_iff.1 h
  simp only [reconcileLedger, hraised, List.map_nil]
  refine Honours.bind (honours_notes_unwarned (by simp)) fun _ _ => ?_
  refine Honours.bind (honours_ask_of_allowed rfl) fun now _ => ?_
  have hcommit : ∀ s, Honours .unwarned breaks (fun _ => True) (commit s) := by
    intro s
    refine Honours.bind (honours_ask_of_allowed rfl) ?_
    rintro (e | _) -
    · exact Honours.bind (honours_ask_of_allowed rfl) fun _ _ => honours_fail e
    · exact honours_pure trivial
  exact Honours.bind (hcommit _) fun _ _ => honours_pure hraised

/-- Where no vault holds more than it has collected, the second layer is brought up to date without
a warning. -/
theorem honours_reconcileL2_unwarned {b : Billing} (h : Covers .l2 (b.counters .l2))
    (accounts : Accounts) (prices : PriceBook) :
    Honours .unwarned breaks (fun _ => True) (reconcileL2 accounts b prices) := by
  have hread : ∀ side account, Honours .unwarned breaks (fun _ => True) (balance side account) :=
    fun side account => honours_read (Dialogue.honours_of_allowed rfl)
  refine Honours.bind (hread ..) fun vault _ => ?_
  refine Honours.bind (honours_read (Dialogue.honours_of_allowed rfl)) fun secondary _ => ?_
  refine Honours.bind (hread ..) fun billing _ => ?_
  refine Honours.bind (honours_reconcileLedger_unwarned ?_) fun u hu => ?_
  · rw [b.committed_getD]
    exact h.repaired_eq_nil (r := ⟨_, _⟩) fun _ _ => .inr rfl
  · refine Honours.bind (honours_notes_unwarned ?_) fun _ _ => ?_
    · simp [CounterMap.isEmpty, hu]
    · refine Honours.bind (honours_notes_unwarned ?_) fun _ _ => honours_pure trivial
      intro n hn
      obtain ⟨text, -, rfl⟩ := List.mem_map.1 hn
      exact nofun

end Step

/-- Reconciling either side keeps every vault covered. -/
theorem Covers.reconciled {accounts : Accounts} {b after : Billing}
    {reads : List (Query × Amount)} (h : Covers .l2 (b.counters .l2))
    (hrec : Reconciled accounts b side reads after) : Covers .l2 (after.counters .l2) := by
  cases hrec with
  | seeding | seeded =>
    rw [b.counters_apply_other _ (nofun : Side.l2 ≠ Side.l1)]
    exact h
  | collecting seen now =>
    have hfull : Round.IsFull .l2 ⟨balancesOf .l2 seen, balancesOf .l2 seen⟩ := by
      intro c hc
      exact ⟨seen c, by simp [hc]⟩
    exact settle_covers hfull (b.counters .l2)

/-- Every step keeps every vault covered. -/
theorem Covers.advance {setup : Setup} {number : Nat} {p next : Progress} {step : TickStep}
    {xs : List (Exchange Query.Answer)} (h : Covers .l2 (p.service.billing.counters .l2))
    (hadvance : Progress.Advance setup number p step xs (.ok next)) :
    Covers .l2 (next.service.billing.counters .l2) := by
  rcases hadvance.billing with ⟨side, -, -, hrec⟩ | ⟨-, hsame⟩
  · exact h.reconciled hrec
  · rwa [hsame]

/-- The step of the second layer writes no warning where every vault is covered. -/
theorem Covers.unwarned {setup : Setup} {number : Nat} {p : Progress}
    {xs : List (Exchange Query.Answer)} {r : Except Breakdown Progress}
    (h : Covers .l2 (p.service.billing.counters .l2))
    (hadvance : Progress.Advance setup number p .reconcileL2 xs r) :
    ∀ y ∈ xs, y.question.isWarning = false := by
  have hstep : Step.Honours .unwarned True (fun _ => True)
      (Step.reconcileL2 setup.accounts p.service.billing p.service.book) :=
    Step.honours_reconcileL2_unwarned h setup.accounts p.service.book
  have hrun : (runStep setup p.service .reconcileL2).Asks fun q => q.isWarning = false :=
    (honours_runLedgerStep hstep).asks
  cases hadvance with
  | leftOut writes => cases writes
  | completed ran | interrupted ran | broken ran => exact hrun.path ran
  | failed grave ran =>
    intro y hy
    rcases List.mem_append.1 hy with hy | hy
    · exact hrun.path ran y hy
    · rw [List.mem_singleton.1 hy]
      rfl

/-- **Totals are raised once.** Take any committed counters of the second side, consistent or not,
and call for one reconciliation after the other, each with a balance for every vault and each from
what the last completed one has committed. Every call is replied to, and one that is not completed
has failed in its commit. After every completed call each vault has been seen at its balance and
has collected at least that. The first completed call raises exactly the totals that would stay
below their balance, and no later one raises any. A service that finds no history never raises a
total, whatever balances it reads in whatever tick, and so never warns of one. -/
theorem repaired_first_only {σ : Type} (env : Answerer Query.Answer σ) :
    (∀ (committed : Option (CounterMap CounterState)) (calls : List Round) (w : σ),
      (∀ r ∈ calls, r.IsFull .l2) →
      let replies := ((rounds .l2 committed calls).run env w).1
      replies.length = calls.length ∧
      (∀ stop, .error stop ∈ replies → ∃ f s, stop = .failed f ∧
        ⟨.commit s, .error f⟩ ∈ (rounds .l2 committed calls).transcript env w) ∧
      ∀ (i : Nat) r u, calls[i]? = some r → replies[i]? = some (Except.ok u) →
        (∀ c : Counter, c.side = .l2 → ∃ e, u.snapshot.counters.get? c = some e ∧
          r.balances.get? c = some e.observed ∧ e.observed ≤ e.cumulative) ∧
        ((∃ j < i, ∃ v, replies[j]? = some (Except.ok v)) → u.repaired = []) ∧
        ((∀ j < i, ∀ v, replies[j]? ≠ some (Except.ok v)) →
          u.repaired = Side.l2.counters.filter
            (r.fallsShort (committed.getD CounterMap.empty)))) ∧
    ∀ (setup : Setup) (w : σ), (env.answer (.load .l1) w).1 = .ok none →
      (env.answer (.load .l2) (env.answer (.load .l1) w).2).1 = .ok none →
      ∃ s w', started env setup w = (.ok s, w') ∧
        ∀ n, ∀ r ∈ history env setup n s w', ∀ x ∈ r.steps, x.step = .reconcileL2 →
          (∀ balances ys u, Step.Path (Step.reconcileLedger .l2
            (x.before.billing.committed .l2) balances balances) ys (.ok u) → u.repaired = []) ∧
          ∀ y ∈ x.exchanges, y.question.isWarning = false := by
  constructor
  · intro committed calls w hcalls
    have hpath := Dialogue.path_run env (rounds .l2 committed calls) w
    obtain ⟨hlength, hfailed⟩ := length_rounds calls committed hpath
    refine ⟨hlength, hfailed, fun i r u hr hu => ?_⟩
    obtain ⟨⟨m, hput⟩, hlater, hfirst⟩ :=
      putRight_of_path_rounds calls hcalls committed hpath i r u hr hu
    exact ⟨hput.entries, hlater, hfirst⟩
  · intro setup w hl1 hl2
    refine ⟨_, _, started_of_loaded setup hl1 hl2, fun n r hr x hx hstep => ?_⟩
    have hempty : Covers .l2 ((Billing.ofHistory none none).counters .l2) := by
      intro c _ e he
      cases c <;> cases he
    have hcovers : Covers .l2 (x.before.billing.counters .l2) :=
      (forall_mem_history env (I := fun s => Covers .l2 (s.billing.counters .l2))
        (fun _ _ h => h) (fun _ _ _ _ _ h hadvance => h.advance hadvance)
        n _ _ hempty r hr).2 x hx
    constructor
    · intro balances ys u hpath
      obtain ⟨now, ⟨-, hu⟩ | ⟨f, -, ⟨⟩⟩⟩ := Step.path_reconcileLedger hpath
      obtain rfl := Except.ok.inj hu
      rw [Billing.committed_getD]
      exact hcovers.repaired_eq_nil (r := ⟨balances, balances⟩) fun _ _ => .inr rfl
    · obtain ⟨s', w', rfl⟩ := exists_eq_tickRecord_of_mem_history env n _ _ r hr
      obtain ⟨q, result, hadvance, hmet, -⟩ :=
        Progress.exists_advance_of_mem_records env _ _ _ x hx
      rw [hstep] at hadvance
      rw [← hmet] at hcovers
      exact hcovers.unwarned hadvance

/-- Surroundings in which nothing has been kept and the first commit fails. The state counts the
commits. -/
def refusingFirst : Answerer Query.Answer Nat where
  answer q n :=
    match q with
    | .balance .. | .tokenBalance .. => (.ok (Amount.clamp (100 - n)), n)
    | .commit _ => (if n = 0 then .error (.storage (.stated "disk full")) else .ok (), n + 1)
    | .load _ => (.ok none, n)
    | q => (q.refused, n)

/-- A reconciliation with the same balance for every vault, which starts totals there. -/
def Round.level (n : Nat) : Round :=
  ⟨balancesOf .l2 fun _ => Amount.clamp n, balancesOf .l2 fun _ => Amount.clamp n⟩

theorem Round.isFull_level (n : Nat) : (level n).IsFull .l2 :=
  fun c hc => ⟨Amount.clamp n, by simp [level, hc]⟩

/-- Counters that say of a vault that it holds more than it has collected. -/
def CounterMap.overdrawn : CounterMap CounterState :=
  empty.set .sequencerFeeVault ⟨Amount.clamp 100, Amount.clamp 50⟩

/-- The replies to three calls, of which the first cannot be committed. -/
def overdrawnReplies : List (Except Stop LedgerUpdate) :=
  ((rounds .l2 (some CounterMap.overdrawn) [.level 70, .level 80, .level 90]).run
    refusingFirst 0).1

/-- Of three calls the first one cannot be committed; the second one raises the total that falls
short, and the third one finds nothing to raise. A run without history in the same surroundings
raises nothing. -/
theorem repaired_refusingFirst :
    (∃ u v, overdrawnReplies[1]? = some (Except.ok u) ∧
      overdrawnReplies[2]? = some (Except.ok v) ∧
      u.repaired = [.sequencerFeeVault] ∧ v.repaired = []) ∧
    ∀ r ∈ history refusingFirst Setup.plain 2 Service.fresh 0, ∀ x ∈ r.steps,
      x.step = .reconcileL2 → ∀ y ∈ x.exchanges, y.question.isWarning = false := by
  have hcalls : ∀ r ∈ [Round.level 70, .level 80, .level 90], r.IsFull .l2 := by
    simp [Round.isFull_level]
  obtain ⟨hcallsOf, hrunOf⟩ := repaired_first_only refusingFirst
  constructor
  · obtain ⟨-, -, hall⟩ := hcallsOf (some CounterMap.overdrawn) _ 0 hcalls
    obtain ⟨e, u, v, hreplies⟩ : ∃ e u v, overdrawnReplies = [.error e, .ok u, .ok v] :=
      ⟨_, _, _, rfl⟩
    have hu : overdrawnReplies[1]? = some (Except.ok u) := by simp [hreplies]
    have hv : overdrawnReplies[2]? = some (Except.ok v) := by simp [hreplies]
    refine ⟨u, v, hu, hv, ?_, (hall 2 _ v rfl hv).2.1 ⟨1, by decide, u, hu⟩⟩
    rw [(hall 1 _ u rfl hu).2.2]
    · decide +kernel
    · intro j hj w hw
      obtain rfl : j = 0 := by omega
      rw [← overdrawnReplies, hreplies] at hw
      cases hw
  · obtain ⟨s, w, hstarted, hrun⟩ := hrunOf Setup.plain 0 rfl rfl
    have hfresh : started refusingFirst Setup.plain 0 = (.ok Service.fresh, 0) := rfl
    obtain ⟨rfl, rfl⟩ : Service.fresh = s ∧ 0 = w := by simpa [hfresh] using hstarted
    intro r hr x hx hstep
    exact (hrun 2 r hr x hx hstep).2

end RollupFees
