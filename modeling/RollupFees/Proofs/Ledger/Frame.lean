import RollupFees.Proofs.Ledger.Repair

/-!
# A ledger is brought up to date counter by counter

What a reconciliation makes of a counter depends on what it is given for that counter: the entry
that was committed, the balance, and the base line. Counters of the other side and counters without
a balance keep their entries, whatever is said about them. So the balances may be entered one after
the other, in any order, with the same result.

The result is committed once, and is returned as it was committed. A commit that fails leaves
nothing but its failure, and a line in the log.

## Main definitions

* `Settlement.enter` : one more balance is entered into a ledger
* `Round.Agrees` : nothing different is given for the counters of a side
* `LedgerUpdate.IsPointwise` : every counter has been brought up to date by itself

## Main results

* `Settlement.foldl_enter_of_perm` : balances that are entered one after the other, in any order
* `reconcileLedger_pointwise` : what a reconciliation returns, commits and leaves alone
-/

namespace RollupFees

/-! ### Maps as lists of entries -/

namespace CounterMap

variable {α : Type}

theorem nodup_keys (m : CounterMap α) : (m.toList.map Prod.fst).Nodup := by
  have hall : Counter.all.Nodup := by decide
  rw [map_fst_toList]
  exact hall.filter _

theorem get?_foldl_set_of_not_mem (entries : List (Counter × α)) (m : CounterMap α) {c : Counter}
    (h : c ∉ entries.map Prod.fst) :
    (entries.foldl (fun m e => m.set e.1 e.2) m).get? c = m.get? c := by
  induction entries generalizing m with
  | nil => rfl
  | cons e rest ih =>
    simp only [List.map_cons, List.mem_cons, not_or] at h
    rw [List.foldl_cons, ih _ h.2, get?_set, if_neg h.1]

theorem get?_foldl_set_of_mem {entries : List (Counter × α)} (hkeys : (entries.map Prod.fst).Nodup)
    (m : CounterMap α) {c : Counter} {a : α} (h : (c, a) ∈ entries) :
    (entries.foldl (fun m e => m.set e.1 e.2) m).get? c = some a := by
  induction entries generalizing m with
  | nil => cases h
  | cons e rest ih =>
    obtain ⟨hnew, hrest⟩ := List.nodup_cons.1 hkeys
    rw [List.foldl_cons]
    rcases List.mem_cons.1 h with rfl | h
    · rw [get?_foldl_set_of_not_mem _ _ hnew, get?_set, if_pos rfl]
    · exact ih hrest _ h

/-- The entries of a map make up the map, in whatever order they come. -/
theorem ofList_of_perm {m : CounterMap α} {entries : List (Counter × α)}
    (h : entries.Perm m.toList) :
    ofList entries = m := by
  have hkeys : (entries.map Prod.fst).Nodup := (h.map Prod.fst).nodup_iff.2 m.nodup_keys
  ext c : 1
  cases hc : m.get? c with
  | none =>
    have hnone : c ∉ entries.map Prod.fst := by
      simp only [List.mem_map, Prod.exists, exists_and_right, exists_eq_right, not_exists]
      intro a ha
      rw [h.mem_iff, mem_toList, hc] at ha
      cases ha
    rw [ofList, get?_foldl_set_of_not_mem _ _ hnone, get?_empty]
  | some a => exact get?_foldl_set_of_mem hkeys _ (h.mem_iff.2 (mem_toList.2 hc))

end CounterMap

/-! ### One balance after the other -/

/-- Nothing is made of a counter of the other side, or without a balance. -/
theorem settledEntry_eq_none {side : Side} {balances : CounterMap Amount} {c : Counter}
    (h : c.side ≠ side ∨ balances.get? c = none) (m : CounterMap CounterState)
    (baselines : CounterMap Amount) : settledEntry side m balances baselines c = none := by
  rcases h with h | h <;> simp [settledEntry, h]

namespace Settlement

variable {side : Side} {m : CounterMap CounterState} {balances baselines : CounterMap Amount}

/-- A ledger into which no balance has been entered. -/
def start (m : CounterMap CounterState) : Settlement := ⟨m, CounterMap.empty, CounterMap.empty⟩

/-- One more balance is entered. Those of the other side are passed over. -/
def enter (side : Side) (m : CounterMap CounterState) (baselines : CounterMap Amount)
    (s : Settlement) (balance : Counter × Amount) : Settlement :=
  let (c, now) := balance
  if c.side = side then
    let e := c.settle now (m.get? c) ((baselines.get? c).getD 0)
    { counters := s.counters.set c e.state
      accrued := s.accrued.set c e.gained
      raised := match e.raisedFrom with
        | none => s.raised
        | some total => s.raised.set c total }
  else s

theorem ext_get? {s t : Settlement} (h : ∀ c, s.counters.get? c = t.counters.get? c ∧
    s.accrued.get? c = t.accrued.get? c ∧ s.raised.get? c = t.raised.get? c) : s = t := by
  cases s; cases t
  simp only [mk.injEq]
  exact ⟨CounterMap.ext fun c => (h c).1, CounterMap.ext fun c => (h c).2.1,
    CounterMap.ext fun c => (h c).2.2⟩

theorem settle_empty (side : Side) (m : CounterMap CounterState)
    (baselines : CounterMap Amount) : settle side m CounterMap.empty baselines = start m :=
  ext_get? fun c => by simp [settledEntry_eq_none (.inr (CounterMap.get?_empty c)), start]

theorem settledEntry_set (c d : Counter) (now : Amount) :
    settledEntry side m (balances.set c now) baselines d =
      if d = c then
        if c.side = side then some (c.settle now (m.get? c) ((baselines.get? c).getD 0)) else none
      else settledEntry side m balances baselines d := by
  by_cases hd : d = c
  · subst hd
    simp [settledEntry]
  · simp [settledEntry, hd]

/-- To enter one more balance is to settle with one more balance. -/
theorem enter_settle {c : Counter} (h : balances.get? c = none) (now : Amount) :
    (settle side m balances baselines).enter side m baselines (c, now) =
      settle side m (balances.set c now) baselines := by
  have hnone : settledEntry side m balances baselines c = none :=
    settledEntry_eq_none (.inr h) m baselines
  refine ext_get? fun d => ?_
  simp only [enter, get?_settle_counters, get?_settle_accrued, get?_settle_raised,
    settledEntry_set]
  by_cases hc : c.side = side
  · cases hraised : (c.settle now (m.get? c) ((baselines.get? c).getD 0)).raisedFrom <;>
      by_cases hd : d = c <;> simp_all
  · by_cases hd : d = c <;> simp_all

/-- Balances of counters that had none, entered one after the other. -/
theorem foldl_enter (order : List (Counter × Amount)) (hkeys : (order.map Prod.fst).Nodup)
    (hnew : ∀ c ∈ order.map Prod.fst, balances.get? c = none) :
    order.foldl (enter side m baselines) (settle side m balances baselines) =
      settle side m (order.foldl (fun n e => n.set e.1 e.2) balances) baselines := by
  induction order generalizing balances with
  | nil => rfl
  | cons e rest ih =>
    obtain ⟨hfirst, hrest⟩ := List.nodup_cons.1 hkeys
    have he : balances.get? e.1 = none := hnew e.1 (by simp)
    rw [List.foldl_cons, List.foldl_cons, enter_settle he, ih hrest]
    intro c hc
    have hne : c ≠ e.1 := fun heq => hfirst (heq ▸ hc)
    rw [CounterMap.get?_set, if_neg hne]
    exact hnew c (List.mem_cons_of_mem _ hc)

/-- A ledger is settled by entering its balances one after the other, in any order. -/
theorem foldl_enter_of_perm {order : List (Counter × Amount)} (h : order.Perm balances.toList) :
    order.foldl (enter side m baselines) (start m) = settle side m balances baselines := by
  have hkeys : (order.map Prod.fst).Nodup :=
    (h.map Prod.fst).nodup_iff.2 balances.nodup_keys
  rw [← settle_empty side m baselines,
    foldl_enter order hkeys fun c _ => CounterMap.get?_empty c]
  congr 1
  exact CounterMap.ofList_of_perm h

end Settlement

/-! ### What is given for a counter -/

/-- Nothing different is given for the counters of a side. A base line that is missing is zero. -/
def Round.Agrees (side : Side) (r r' : Round) : Prop :=
  ∀ c : Counter, c.side = side → r.balances.get? c = r'.balances.get? c ∧
    (r.baselines.get? c).getD 0 = (r'.baselines.get? c).getD 0

/-- Every counter has been brought up to date by itself. -/
structure LedgerUpdate.IsPointwise (side : Side) (m : CounterMap CounterState) (r : Round)
    (u : LedgerUpdate) : Prop where
  sameSide : u.snapshot.side = side
  /-- What is made of a counter with a balance. -/
  entered : ∀ (c : Counter) (now : Amount), c.side = side → r.balances.get? c = some now →
    let e := c.settle now (m.get? c) ((r.baselines.get? c).getD 0)
    u.snapshot.counters.get? c = some e.state ∧ u.accrued.get? c = some e.gained ∧
      u.raised.get? c = e.raisedFrom
  /-- All others are left alone. -/
  carried : ∀ c : Counter, c.side ≠ side ∨ r.balances.get? c = none →
    u.snapshot.counters.get? c = m.get? c
  accrued : ∀ c : Counter, (u.accrued.get? c).isSome = true ↔
    c.side = side ∧ (r.balances.get? c).isSome = true
  /-- Only what counts what comes in is raised, where the total would stay below the balance. -/
  repaired : ∀ c : Counter, c ∈ u.repaired ↔ c.side = side ∧ c.flow = .inflow ∧
    ∃ now, r.balances.get? c = some now ∧
      (c.flow.reconcile now (m.get? c) ((r.baselines.get? c).getD 0)).1.cumulative < now
  /-- The order in which the balances are entered does not matter. -/
  inAnyOrder : ∀ order : List (Counter × Amount), order.Perm r.balances.toList →
    order.foldl (Settlement.enter side m r.baselines) (.start m) =
      ⟨u.snapshot.counters, u.accrued, u.raised⟩

section Pointwise

variable {side : Side} {m : CounterMap CounterState} {r r' : Round} {c : Counter}

theorem LedgerUpdate.mem_repaired {u : LedgerUpdate} :
    c ∈ u.repaired ↔ (u.raised.get? c).isSome = true := by
  rw [repaired, CounterMap.map_fst_toList]
  simp [Counter.mem_all]

/-- A settled ledger has been brought up to date counter by counter. -/
theorem isPointwise_settle (side : Side) (m : CounterMap CounterState) (r : Round)
    (now : Timestamp) :
    let s := settle side m r.balances r.baselines
    LedgerUpdate.IsPointwise side m r ⟨⟨side, s.counters, now⟩, s.accrued, s.raised⟩ where
  sameSide := rfl
  entered c now hc hnow := by simp [settledEntry, hc, hnow]
  carried c hc := by simp [settledEntry_eq_none hc m]
  accrued c := by
    rw [get?_settle_accrued]
    by_cases hc : c.side = side <;> simp [settledEntry, hc]
  repaired c := by
    rw [LedgerUpdate.mem_repaired, get?_settle_raised]
    by_cases hc : c.side = side
    · cases hnow : r.balances.get? c <;>
        simp [settledEntry, hc, hnow, Counter.isSome_raisedFrom_settle]
    · simp [settledEntry, hc]
  inAnyOrder order h := Settlement.foldl_enter_of_perm h

/-- What is given for the counters of a side decides what is settled. -/
theorem Round.Agrees.settle_eq (h : r.Agrees side r') (m : CounterMap CounterState) :
    settle side m r'.balances r'.baselines = settle side m r.balances r.baselines := by
  have hentry : settledEntry side m r'.balances r'.baselines =
      settledEntry side m r.balances r.baselines := by
    funext c
    by_cases hc : c.side = side
    · simp [settledEntry, hc, h c hc]
    · simp [settledEntry, hc]
  simp only [settle, hentry]

/-- A reconciliation does not look at what is given for the counters of the other side. -/
theorem Round.Agrees.reconcileLedger_eq (h : r.Agrees side r')
    (committed : Option (CounterMap CounterState)) :
    Step.reconcileLedger side committed r'.balances r'.baselines =
      Step.reconcileLedger side committed r.balances r.baselines := by
  simp only [Step.reconcileLedger, h.settle_eq]
  -- what is raised is of the side, so that the warnings name the same balances
  congr 2
  refine List.map_congr_left ?_
  rintro ⟨c, total⟩ hc
  have hside : c.side = side := by
    rw [CounterMap.mem_toList, get?_settle_raised] at hc
    by_contra hne
    simp [settledEntry, hne] at hc
  rw [(h c hside).1]

end Pointwise

/-- **A reconciliation is told counter by counter.** Whatever is committed of a side and whatever is
given, for whichever counters, one snapshot is committed, once; nothing else is asked of the
surroundings but the time and lines of the log. If the commit succeeds, that snapshot is returned,
and every counter has been brought up to date by itself; if not, there is its failure and nothing
else. What is given for counters of the other side makes no difference at all. -/
theorem reconcileLedger_pointwise (side : Side) (committed : Option (CounterMap CounterState))
    (r : Round) :
    let call := Step.reconcileLedger side committed r.balances r.baselines
    (∀ (σ : Type) (env : Answerer Query.Answer σ) (w : σ),
      let xs := Dialogue.transcript env call.run w
      ∃ (snapshot : Snapshot) (outcome : Except Failure Unit),
        (xs.filter fun x => x.question.isCommit) = [⟨.commit snapshot, outcome⟩] ∧
        (∀ x ∈ xs, x.question = .commit snapshot ∨ x.question = .now ∨
          ∃ n, x.question = .note n) ∧
        match outcome with
        | .ok _ => ∃ u, (call.outcome env w).1 = .ok u ∧ u.snapshot = snapshot ∧
            u.IsPointwise side (committed.getD CounterMap.empty) r
        | .error f => (call.outcome env w).1 = .error (.failed f)) ∧
    ∀ r' : Round, r.Agrees side r' →
      Step.reconcileLedger side committed r'.balances r'.baselines = call := by
  intro call
  refine ⟨fun σ env w => ?_, fun r' h => h.reconcileLedger_eq committed⟩
  have hpath : Step.Path call (Dialogue.transcript env call.run w) (call.outcome env w).1 :=
    Dialogue.path_run env call.run w
  let s := settle side (committed.getD CounterMap.empty) r.balances r.baselines
  obtain ⟨now, ⟨hxs, hreply⟩ | ⟨f, n, hxs, hreply⟩⟩ := Step.exchanges_reconcileLedger hpath
  · have hpointwise := isPointwise_settle side (committed.getD CounterMap.empty) r now
    refine ⟨⟨side, s.counters, now⟩, .ok (), ?_, ?_, _, hreply, rfl, hpointwise⟩
    · simp [hxs, s, List.filter_map, Function.comp_def, Query.isCommit]
    · simp only [hxs, List.mem_append, List.mem_map, List.mem_singleton]
      rintro x ((⟨n, -, rfl⟩ | rfl) | rfl) <;> simp [s]
  · refine ⟨⟨side, s.counters, now⟩, .error f, ?_, ?_, hreply⟩
    · simp [hxs, s, List.filter_map, Function.comp_def, Query.isCommit]
    · simp only [hxs, List.mem_append, List.mem_map, List.mem_cons, List.not_mem_nil, or_false]
      rintro x ((⟨n, -, rfl⟩ | rfl) | rfl | rfl) <;> simp [s]

/-- One balance of the second side. -/
def Round.lone : Round :=
  ⟨CounterMap.empty.set .sequencerFeeVault (Amount.clamp 80), CounterMap.empty⟩

/-- The same balance, and one of the first side. -/
def Round.stray : Round := ⟨lone.balances.set .relayer (Amount.clamp 7), CounterMap.empty⟩

theorem Round.agrees_stray : lone.Agrees .l2 stray := by
  intro c hc
  refine ⟨?_, rfl⟩
  rw [stray, CounterMap.get?_set, if_neg]
  rintro rfl
  cases hc

/-- The balance of the first side does not show, and the total of the vault, which was fifty, is
raised to eighty. Where the commit is refused there is no update. -/
theorem reconcileLedger_stray :
    let call := Step.reconcileLedger .l2 (some CounterMap.overdrawn) Round.stray.balances
      Round.stray.baselines
    (∃ u, (call.outcome refusingFirst 1).1 = .ok u ∧ u.accrued.get? .relayer = none ∧
      u.snapshot.counters.get? .sequencerFeeVault = some ⟨Amount.clamp 80, Amount.clamp 80⟩) ∧
    ∃ f, (call.outcome refusingFirst 0).1 = .error (.failed f) := by
  obtain ⟨hcall, hother⟩ :=
    reconcileLedger_pointwise .l2 (some CounterMap.overdrawn) Round.lone
  intro call
  have hsame : call = _ := hother .stray Round.agrees_stray
  rw [hsame]
  constructor
  · obtain ⟨_, outcome, -, -, hreply⟩ := hcall Nat refusingFirst 1
    cases outcome with
    | error f => cases hreply
    | ok _ =>
      obtain ⟨u, hu, -, hpointwise⟩ := hreply
      refine ⟨u, hu, ?_, ?_⟩
      · have hnone := (hpointwise.accrued .relayer).not.2 (by decide)
        simpa using hnone
      · obtain ⟨hentry, -⟩ := hpointwise.entered .sequencerFeeVault (Amount.clamp 80) rfl rfl
        rw [hentry]
        decide +kernel
  · obtain ⟨_, outcome, -, -, hreply⟩ := hcall Nat refusingFirst 0
    cases outcome with
    | error f => exact ⟨f, hreply⟩
    | ok _ =>
      obtain ⟨u, hu, -⟩ := hreply
      cases hu

end RollupFees
