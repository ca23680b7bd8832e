import RollupFees.Proofs.Ledger.Observation
import RollupFees.Proofs.Loop

/-!
# Nothing is lost and nothing is counted twice

A run that starts without history counts, for every counter, its base line and every movement
between two balances that completed reconciliations have seen one after the other. A reconciliation
that fails, be it in a reading or in the commit, adds nothing; the movement that it would have
counted is part of the movement that the next completed one counts.

## Main definitions

* `Flow.moved` : what a sequence of balances has moved in the direction of a flow
* `balancesSeen` : the balances of a counter in the completed reconciliations of a run
* `startingTotal` : the base line of a counter in a run

## Main results

* `cumulative_eq_startingTotal_add_moved` : the totals of a run without history
-/

namespace RollupFees

/-! ### Movements -/

/-- How far a balance has moved in the direction of a flow. -/
def Flow.movement (flow : Flow) (before now : Nat) : Nat :=
  match flow with
  | .outflow => before - now
  | .inflow => now - before

/-- What a sequence of balances has moved in the direction of a flow, from each to the next. -/
def Flow.moved (flow : Flow) : List Amount → Nat
  | before :: now :: rest => flow.movement before.toNat now.toNat + flow.moved (now :: rest)
  | _ => 0

theorem Flow.toNat_accrued (flow : Flow) (before now : Amount) :
    (flow.accrued before now).toNat = flow.movement before.toNat now.toNat := by
  cases flow <;> rfl

/-- A sequence moves what it moves up to one of its balances and what it moves from there. -/
theorem Flow.moved_append_cons (flow : Flow) (seen : List Amount) (now : Amount)
    (later : List Amount) :
    flow.moved (seen ++ now :: later) = flow.moved (seen ++ [now]) + flow.moved (now :: later) := by
  induction seen with
  | nil => simp [moved]
  | cons a rest ih =>
    cases rest with
    | nil => simp [moved]
    | cons b rest =>
      simp only [List.cons_append, moved] at ih ⊢
      omega

/-- One more balance adds the movement from the last one. -/
theorem Flow.moved_append (flow : Flow) (seen : List Amount) (last now : Amount) :
    flow.moved (seen ++ [last, now]) =
      flow.moved (seen ++ [last]) + flow.movement last.toNat now.toNat :=
  flow.moved_append_cons seen last [now]

/-- A vault holds no more than it held at first and has collected since. -/
theorem Flow.le_add_moved (first last : Amount) (seen : List Amount)
    (h : (first :: seen).getLast? = some last) :
    last.toNat ≤ first.toNat + Flow.inflow.moved (first :: seen) := by
  induction seen generalizing first with
  | nil =>
    obtain rfl : first = last := by simpa using h
    simp
  | cons next rest ih =>
    have := ih next (by simpa using h)
    simp only [moved, movement]
    omega

theorem Amount.clamp_satAdd (n : Nat) (a : Amount) : (clamp n).satAdd a = clamp (n + a.toNat) := by
  ext
  simp only [toNat_satAdd, toNat_clamp]
  omega

/-- A counter that does not have to be raised is brought up to date by its flow alone. -/
theorem Counter.settle_state (c : Counter) (now : Amount) (previous : Option CounterState)
    (baseline : Amount)
    (h : c.flow = .inflow → now ≤ (c.flow.reconcile now previous baseline).1.cumulative) :
    (c.settle now previous baseline).state = (c.flow.reconcile now previous baseline).1 := by
  simp only [settle]
  split
  · next hraise =>
    have := h hraise.1
    simp only [Amount.lt_iff, Amount.le_iff] at hraise this
    omega
  · rfl

/-! ### What a run has seen -/

/-- The completed reconciliations of a side. -/
def completedOf (side : Side) (rs : List StepRecord) : List StepRecord :=
  rs.filter fun r => r.step = side.step ∧ r.isCompleted

/-- The balance of a counter that a reconciliation of its side has read: the counters of a side are
read in order, each by its own question. -/
def StepRecord.balance? (a : Accounts) (c : Counter) (r : StepRecord) : Option Amount :=
  ((c.side.counters.zip (readings r.exchanges)).find? fun x => x.1 = c ∧ x.2.1 = a.question c).map
    fun x => x.2.2

/-- The base line of the sequencer that a reconciliation has read. -/
def StepRecord.vault? (a : Accounts) (r : StepRecord) : Option Amount :=
  ((readings r.exchanges).find? fun x => x.1 = a.vaultQuestion).map Prod.snd

/-- The balances of a counter that the completed reconciliations of its side have read. -/
def balancesSeen (a : Accounts) (c : Counter) (rs : List StepRecord) : List Amount :=
  (completedOf c.side rs).filterMap (StepRecord.balance? a c)

/-- The base line of a counter. Spending of the sequencer starts from the balance of the vault that
the first completed reconciliation of the first side has read, and revenue from the first balance
of the vault itself. -/
def startingTotal (a : Accounts) (c : Counter) (rs : List StepRecord) : Nat :=
  match c with
  | .sequencer => (((completedOf .l1 rs).head?.bind (StepRecord.vault? a)).map Amount.toNat).getD 0
  | .proposer | .relayer | .fastRelayer => 0
  | .sequencerFeeVault | .secondaryFeeTokenVault | .billingContract =>
    ((balancesSeen a c rs).head?.map Amount.toNat).getD 0

/-- What a counter has counted in a run without history. -/
def countedTotal (a : Accounts) (c : Counter) (rs : List StepRecord) : Nat :=
  startingTotal a c rs + c.flow.moved (balancesSeen a c rs)

/-- The entry of a counter after a run without history. -/
def countedEntry (a : Accounts) (c : Counter) (rs : List StepRecord) : Option CounterState :=
  (balancesSeen a c rs).getLast?.map fun last => ⟨last, Amount.clamp (countedTotal a c rs)⟩

variable {a : Accounts} {b after : Billing} {side : Side} {c : Counter}

theorem Accounts.find?_readingsOf (seen : Counter → Amount) (more : List (Query × Amount))
    (hc : c.side = side) :
    ((c.side.counters.zip (a.readingsOf side seen ++ more)).find?
      fun x => x.1 = c ∧ x.2.1 = a.question c).map (fun x => x.2.2) = some (seen c) := by
  subst hc
  cases c <;> simp [Accounts.readingsOf, Counter.side, Side.counters, Counter.all]

theorem Accounts.find?_vaultQuestion (seen : Counter → Amount) (vault : Amount) :
    ((a.readingsOf .l1 seen ++ [(a.vaultQuestion, vault)]).find?
      fun x => x.1 = a.vaultQuestion).map Prod.snd = some vault := by
  simp [Accounts.readingsOf, Accounts.question, Accounts.vaultQuestion, Side.counters,
    Counter.all, Counter.side]

/-- The billing of a side after it has been settled. -/
theorem Billing.get?_apply_settledUpdate (seen : Counter → Amount)
    (baselines : CounterMap Amount) (now : Timestamp) (hc : c.side = side) :
    ((b.apply (b.settledUpdate side seen baselines now)).counters c.side).get? c =
      some (c.settle (seen c) ((b.counters c.side).get? c)
        ((baselines.get? c).getD 0)).state := by
  subst hc
  have hb : (b.apply (b.settledUpdate c.side seen baselines now)).counters c.side =
      (settle c.side (b.counters c.side) (balancesOf c.side seen) baselines).counters :=
    b.counters_apply_self (b.settledUpdate c.side seen baselines now)
  rw [hb]
  simp [settledEntry]

/-- The other side is left as it is. -/
theorem Billing.counters_apply_settledUpdate_of_ne (seen : Counter → Amount)
    (baselines : CounterMap Amount) (now : Timestamp) (hc : c.side ≠ side) :
    (b.apply (b.settledUpdate side seen baselines now)).counters c.side = b.counters c.side :=
  b.counters_apply_other _ hc

theorem CounterState.le_clamp {last now : Amount} {total : Nat}
    (h : now.toNat ≤ total + Flow.inflow.movement last.toNat now.toNat) :
    now ≤ (Flow.reconcile .inflow now (some ⟨last, Amount.clamp total⟩) 0).1.cumulative := by
  have := now.le_max
  simp only [Flow.reconcile_some, Amount.clamp_satAdd, Flow.toNat_accrued, Amount.le_iff,
    Amount.toNat_clamp, Amount.maxNat]
  omega

/-! ### What a step counts -/

theorem completedOf_append (side : Side) (rs : List StepRecord) (r : StepRecord) :
    completedOf side (rs ++ [r]) =
      completedOf side rs ++ if r.step = side.step ∧ r.isCompleted then [r] else [] := by
  simp [completedOf, List.filter_append, List.filter_cons]

/-- The entry of a counter depends on the completed reconciliations of its side only. -/
theorem countedEntry_congr {rs rs' : List StepRecord}
    (h : completedOf c.side rs = completedOf c.side rs') :
    countedEntry a c rs = countedEntry a c rs' := by
  have hseen : balancesSeen a c rs = balancesSeen a c rs' := by simp [balancesSeen, h]
  have hstart : startingTotal a c rs = startingTotal a c rs' := by
    cases c <;> simp only [Counter.side] at h <;> simp [startingTotal, hseen, h]
  simp [countedEntry, countedTotal, hseen, hstart]

theorem balancesSeen_append (rs : List StepRecord) {r : StepRecord} {now : Amount}
    (hr : r.step = c.side.step ∧ r.isCompleted) (hnow : r.balance? a c = some now) :
    balancesSeen a c (rs ++ [r]) = balancesSeen a c rs ++ [now] := by
  simp [balancesSeen, completedOf_append, hr, hnow]

/-- Once a counter has been seen, its base line stays. -/
theorem startingTotal_append {rs : List StepRecord} {r : StepRecord}
    (hseen : balancesSeen a c rs ≠ []) :
    startingTotal a c (rs ++ [r]) = startingTotal a c rs := by
  have hdone : completedOf c.side rs ≠ [] := by
    rintro h
    exact hseen (by simp [balancesSeen, h])
  have hseen' : (balancesSeen a c (rs ++ [r])).head? = (balancesSeen a c rs).head? := by
    unfold balancesSeen at hseen ⊢
    rw [completedOf_append, List.filterMap_append, List.head?_append,
      Option.or_of_isSome (List.isSome_head?.2 hseen)]
  have hdone' : (completedOf c.side (rs ++ [r])).head? = (completedOf c.side rs).head? := by
    rw [completedOf_append, List.head?_append, Option.or_of_isSome (List.isSome_head?.2 hdone)]
  cases c <;> simp only [Counter.side] at hdone' <;> simp [startingTotal, hseen', hdone']

/-- What has been counted so far is what the billing shows, and every completed reconciliation has
read a balance of each counter of its side. -/
structure Counted (a : Accounts) (b : Billing) (rs : List StepRecord) : Prop where
  entry : ∀ c : Counter, (b.counters c.side).get? c = countedEntry a c rs
  isSome_balance? : ∀ c : Counter, ∀ r ∈ completedOf c.side rs, (r.balance? a c).isSome = true

/-- A counter that has not been seen has had no completed reconciliation. -/
theorem Counted.completedOf_eq_nil {rs : List StepRecord} (h : Counted a b rs)
    (hseen : balancesSeen a c rs = []) : completedOf c.side rs = [] := by
  refine List.eq_nil_iff_forall_not_mem.2 fun r hr => ?_
  have hsome := h.isSome_balance? c r hr
  rw [List.filterMap_eq_nil_iff.1 hseen r hr] at hsome
  cases hsome

/-- A reconciliation reads every counter of its side, and settles it on its base line. -/
theorem Reconciled.settles {reads : List (Query × Amount)}
    (h : Reconciled a b side reads after) :
    ∃ (seen : Counter → Amount) (baselines : CounterMap Amount) (now : Timestamp),
      after = b.apply (b.settledUpdate side seen baselines now) ∧
        (∀ c : Counter, c.side = side →
          ((c.side.counters.zip reads).find? fun x => x.1 = c ∧ x.2.1 = a.question c).map
            (fun x => x.2.2) = some (seen c)) ∧
        (side = .l1 → (b.counters .l1).get? .sequencer = none →
          (reads.find? fun x => x.1 = a.vaultQuestion).map Prod.snd =
            baselines.get? .sequencer) ∧
        (side = .l1 → ∀ c : Counter, c ≠ .sequencer → baselines.get? c = none) ∧
        (side = .l2 → baselines = balancesOf .l2 seen) := by
  cases h with
  | seeding seen vault now unseeded =>
    refine ⟨seen, _, now, rfl, fun c => a.find?_readingsOf seen _, fun _ _ => ?_, ?_, by simp⟩
    · rw [a.find?_vaultQuestion]
      simp
    · intro _ c hc
      simp [hc]
  | seeded seen now seeded =>
    refine ⟨seen, _, now, rfl, fun c hc => ?_, fun _ hnone => absurd hnone seeded, by simp,
      by simp⟩
    simpa using a.find?_readingsOf seen [] hc
  | collecting seen now =>
    refine ⟨seen, _, now, rfl, fun c hc => ?_, by simp, by simp, fun _ => rfl⟩
    simpa using a.find?_readingsOf seen [] hc

/-- The first balance of a counter starts its total at the base line. -/
theorem Reconciled.entry_first {rs : List StepRecord} {r : StepRecord}
    (hr : r.step = c.side.step ∧ r.isCompleted)
    (hrec : Reconciled a b c.side (readings r.exchanges) after)
    (hnone : (b.counters c.side).get? c = none) (hseen : balancesSeen a c rs = [])
    (hdone : completedOf c.side rs = []) :
    (after.counters c.side).get? c = countedEntry a c (rs ++ [r]) := by
  obtain ⟨seen, baselines, now, rfl, hread, hvault, hwallet, hl2⟩ := hrec.settles
  have hbalance : r.balance? a c = some (seen c) := hread c rfl
  have hlist := balancesSeen_append rs hr hbalance
  rw [hseen, List.nil_append] at hlist
  have hbase : startingTotal a c (rs ++ [r]) = ((baselines.get? c).getD 0).toNat := by
    cases c with
    | sequencer =>
      have hv : r.vault? a = baselines.get? .sequencer := hvault rfl hnone
      simp only [Counter.side] at hdone hr
      simp only [startingTotal, completedOf_append, hdone, if_pos hr, List.nil_append,
        List.head?_cons, Option.bind_some, hv]
      cases baselines.get? .sequencer <;> simp
    | proposer | relayer | fastRelayer =>
      simp [startingTotal, hwallet rfl]
    | sequencerFeeVault | secondaryFeeTokenVault | billingContract =>
      simp [startingTotal, hlist, hl2 rfl, Counter.side]
  rw [Billing.get?_apply_settledUpdate seen baselines now rfl, hnone, Counter.settle_state]
  · simp [countedEntry, countedTotal, hlist, hbase, Flow.moved]
  · intro hflow
    cases c <;> simp [Counter.flow, Counter.side] at hflow <;>
      simp [hl2 rfl, Counter.side, Amount.le_iff]

/-- Every later balance adds the movement from the last one. -/
theorem Reconciled.entry_later {rs : List StepRecord} {r : StepRecord} {last : Amount}
    (hr : r.step = c.side.step ∧ r.isCompleted)
    (hrec : Reconciled a b c.side (readings r.exchanges) after)
    (hentry : (b.counters c.side).get? c = countedEntry a c rs)
    (hlast : (balancesSeen a c rs).getLast? = some last) :
    (after.counters c.side).get? c = countedEntry a c (rs ++ [r]) := by
  obtain ⟨seen, baselines, now, rfl, hread, -, -, -⟩ := hrec.settles
  have hbalance : r.balance? a c = some (seen c) := hread c rfl
  have hlist := balancesSeen_append rs hr hbalance
  obtain ⟨init, hinit⟩ : ∃ init, balancesSeen a c rs = init ++ [last] :=
    List.getLast?_eq_some_iff.1 hlast
  have hstart : startingTotal a c (rs ++ [r]) = startingTotal a c rs :=
    startingTotal_append (by simp [hinit])
  have htotal : countedTotal a c (rs ++ [r]) =
      countedTotal a c rs + c.flow.movement last.toNat (seen c).toNat := by
    have := c.flow.moved_append init last (seen c)
    simp only [countedTotal, hstart, hlist, hinit, List.append_assoc, List.cons_append,
      List.nil_append, this]
    omega
  have hprevious : (b.counters c.side).get? c =
      some ⟨last, Amount.clamp (countedTotal a c rs)⟩ := by
    rw [hentry, countedEntry, hlast, Option.map_some]
  rw [Billing.get?_apply_settledUpdate seen baselines now rfl, hprevious, Counter.settle_state]
  · simp [countedEntry, htotal, hlist, Amount.clamp_satAdd, Flow.toNat_accrued]
  · intro hflow
    rw [hflow]
    refine CounterState.le_clamp ?_
    have hfirst : last.toNat ≤ countedTotal a c rs := by
      obtain ⟨first, rest, hcons⟩ := List.exists_cons_of_ne_nil (l := balancesSeen a c rs)
        (by simp [hinit])
      have := Flow.le_add_moved first last rest (by rw [← hcons, hlast])
      rw [countedTotal, hflow, hcons]
      cases c <;> simp [Counter.flow, Counter.side] at hflow <;>
        simpa [startingTotal, hcons] using this
    simp only [Flow.movement]
    omega

/-- A completed reconciliation keeps the account. -/
theorem Counted.completed {rs : List StepRecord} {r : StepRecord} (h : Counted a b rs)
    (hr : r.step = side.step ∧ r.isCompleted)
    (hrec : Reconciled a b side (readings r.exchanges) after) : Counted a after (rs ++ [r]) := by
  have hother : ∀ c : Counter, c.side ≠ side →
      completedOf c.side rs = completedOf c.side (rs ++ [r]) := by
    intro c hc
    rw [completedOf_append, if_neg, List.append_nil]
    rintro ⟨hstep, -⟩
    exact hc (Side.step_inj.1 (hstep.symm.trans hr.1))
  constructor
  · intro c
    by_cases hc : c.side = side
    · subst hc
      cases hlast : (balancesSeen a c rs).getLast? with
      | none =>
        have hseen : balancesSeen a c rs = [] := List.getLast?_eq_none_iff.1 hlast
        have hnone : (b.counters c.side).get? c = none := by
          rw [h.entry c, countedEntry, hlast, Option.map_none]
        exact hrec.entry_first hr hnone hseen (h.completedOf_eq_nil hseen)
      | some last => exact hrec.entry_later hr (h.entry c) hlast
    · obtain ⟨seen, baselines, now, rfl, -⟩ := hrec.settles
      rw [Billing.counters_apply_settledUpdate_of_ne seen baselines now hc, h.entry c]
      exact countedEntry_congr (hother c hc)
  · intro c r' hr'
    by_cases hc : c.side = side
    · subst hc
      rw [completedOf_append, if_pos hr] at hr'
      rcases List.mem_append.1 hr' with hr' | hr'
      · exact h.isSome_balance? c r' hr'
      · obtain rfl := List.mem_singleton.1 hr'
        obtain ⟨seen, -, -, -, hread, -⟩ := hrec.settles
        exact Option.isSome_of_eq_some (hread c rfl)
    · rw [← hother c hc] at hr'
      exact h.isSome_balance? c r' hr'

/-- A step that completes no reconciliation keeps the account. -/
theorem Counted.unchanged {rs : List StepRecord} {r : StepRecord} (h : Counted a b rs)
    (hr : ∀ side : Side, r.step = side.step → r.isCompleted = false) :
    Counted a b (rs ++ [r]) := by
  have hsame : ∀ side, completedOf side rs = completedOf side (rs ++ [r]) := by
    intro side
    rw [completedOf_append, if_neg, List.append_nil]
    rintro ⟨hstep, hdone⟩
    rw [hr side hstep] at hdone
    cases hdone
  constructor
  · intro c
    rw [h.entry c]
    exact countedEntry_congr (hsame c.side)
  · intro c
    rw [← hsame]
    exact h.isSome_balance? c

theorem Counted.empty : Counted a Billing.empty [] := by
  constructor
  · intro c
    cases c <;> rfl
  · exact fun _ _ hr => absurd hr List.not_mem_nil

/-- A run keeps the account. -/
theorem Counted.ticks {σ : Type} (env : Answerer Query.Answer σ) (setup : Setup) (n : Nat)
    {s after : Service} {w : σ} (h0 : Counted setup.accounts s.billing [])
    (h : ((RollupFees.ticks setup s n).run env w).1 = .ok after) :
    Counted setup.accounts after.billing (stepsOf (history env setup n s w)) := by
  refine ticks_induction env (I := fun s rs => Counted setup.accounts s.billing rs)
    (fun _ _ _ h => h) ?_ n s [] w after h0 h
  intro number p rs step xs next hp hstep
  rcases hstep.billing with ⟨side, hside, hdone, hrec⟩ | ⟨hnot, hsame⟩
  · exact hp.completed ⟨hside, by simp [StepRecord.isCompleted, hdone]⟩ hrec
  · rw [hsame]
    refine hp.unchanged fun side hside => ?_
    simpa [StepRecord.isCompleted] using hnot side hside

/-- The total of a counter in a run without history. -/
theorem Counted.cumulative {rs : List StepRecord} (h : Counted a b rs) (c : Counter) :
    (b.cumulative c).toNat =
      min Amount.maxNat (startingTotal a c rs + c.flow.moved (balancesSeen a c rs)) := by
  have hentry := h.entry c
  rw [countedEntry] at hentry
  cases hlast : (balancesSeen a c rs).getLast? with
  | none =>
    have hseen := List.getLast?_eq_none_iff.1 hlast
    have hdone := h.completedOf_eq_nil hseen
    rw [hlast, Option.map_none] at hentry
    rw [Billing.cumulative, hentry, hseen]
    cases c <;> simp only [Counter.side] at hdone <;> simp [startingTotal, hseen, hdone, Flow.moved]
  | some last =>
    rw [hlast, Option.map_some] at hentry
    rw [Billing.cumulative, hentry]
    simp [countedTotal, Nat.min_comm]

/-- **Nothing is lost and nothing is counted twice.** A service that finds no history starts, and
shows, after any number of ticks and for every counter, the base line of the counter and every
movement between balances that completed reconciliations have seen one after the other, or the
largest amount if that is less. Every completed reconciliation has seen a balance of each counter of
its side. Readings and commits may fail at any point. Only a limit that cannot be scaled keeps a run
from its end. -/
theorem cumulative_eq_startingTotal_add_moved {σ : Type} (env : Answerer Query.Answer σ)
    (setup : Setup) {w : σ} (hl1 : (env.answer (.load .l1) w).1 = .ok none)
    (hl2 : (env.answer (.load .l2) (env.answer (.load .l1) w).2).1 = .ok none) :
    ∃ s w', started env setup w = (.ok s, w') ∧ ∀ n,
      (setup.controller.IsScalable → ∃ after, ((ticks setup s n).run env w').1 = .ok after) ∧
      ∀ after, ((ticks setup s n).run env w').1 = .ok after → ∀ c : Counter,
        (∀ r ∈ completedOf c.side (stepsOf (history env setup n s w')),
          (r.balance? setup.accounts c).isSome = true) ∧
        (after.billing.cumulative c).toNat =
          min Amount.maxNat
            (startingTotal setup.accounts c (stepsOf (history env setup n s w')) +
              c.flow.moved
                (balancesSeen setup.accounts c (stepsOf (history env setup n s w')))) := by
  refine ⟨_, _, started_of_loaded setup hl1 hl2, ?_⟩
  intro n
  refine ⟨fun hsetup => ticks_run_isOk hsetup env _ n _, ?_⟩
  intro after h c
  have hcounted := Counted.ticks env setup n Counted.empty h
  exact ⟨hcounted.isSome_balance? c, hcounted.cumulative c⟩

/-- Surroundings in which the sequencer spends three with every tick and the second commit of the
first side fails. The state counts how often the time has been asked for, twice in a tick. -/
def refusingOnce : Answerer Query.Answer Nat where
  answer q n :=
    match q with
    | .balance .l1 account =>
      (.ok (if account = .ofNat 1 then Amount.clamp (10 - 3 * (n / 2)) else 0), n)
    | .balance .l2 _ => (.ok (Amount.clamp 100), n)
    | .tokenBalance .. => (.ok 0, n)
    | .commit s =>
      (if s.side = .l1 ∧ n = 3 then .error (.storage (.stated "disk full")) else .ok (), n)
    | .load _ => (.ok none, n)
    | .uptime => (⟨n⟩, n + 1)
    | q => (q.refused, n)

/-- What the failed commit would have counted is counted by the next one: three ticks take the
balance from ten to four, on a base line of a hundred. -/
theorem cumulative_refusingOnce :
    (refusingOnce.answer (.load .l1) 0).1 = .ok none ∧
      (refusingOnce.answer (.load .l2) (refusingOnce.answer (.load .l1) 0).2).1 = .ok none ∧
      ∃ after, ((ticks Setup.plain Service.fresh 3).run refusingOnce 0).1 = .ok after ∧
        (after.billing.cumulative .sequencer).toNat = 106 := by
  have hl1 : (refusingOnce.answer (.load .l1) 0).1 = .ok none := rfl
  have hl2 : (refusingOnce.answer (.load .l2) (refusingOnce.answer (.load .l1) 0).2).1 =
      .ok none := rfl
  have hs : started refusingOnce Setup.plain 0 = (.ok Service.fresh, 0) := rfl
  obtain ⟨s, w, hstarted, hrun⟩ :=
    cumulative_eq_startingTotal_add_moved refusingOnce Setup.plain hl1 hl2
  obtain ⟨rfl, rfl⟩ : Service.fresh = s ∧ 0 = w := by simpa [hs] using hstarted
  obtain ⟨hends, htotal⟩ := hrun 3
  obtain ⟨after, hafter⟩ := hends Setup.isScalable_plain
  refine ⟨hl1, hl2, after, hafter, ?_⟩
  rw [(htotal after hafter .sequencer).2]
  decide +kernel

end RollupFees
