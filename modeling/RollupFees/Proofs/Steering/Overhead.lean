import RollupFees.Proofs.Batches
import RollupFees.Proofs.Steering.Steps

/-!
# The overhead and its batches

The overhead is steered by what the batches of a window have cost. The step reads a list of events,
looks for the transactions in it, and asks for the receipt of each. Whatever the order of the list,
however often it names a transaction and for whichever blocks, the step comes to the same verdict,
which is stated here with unbounded integers.

Nothing is assumed of what else the surroundings answer: a write may be refused, time may run out,
and a request to stop may come.

## Main definitions

* `overheadVerdict` : the target for the overhead, and what is decided about it
* `Exchange.TellsBatches` : an answer that is in line with a list of batches and their receipts

## Main results

* `Step.comesTo_updateOverhead` : the step comes to the verdict about the batches
* `overhead_rests_on_batches` : which batches there were is all that it rests on
-/

namespace RollupFees

/-- The target for the overhead, and what is decided about it, from the gas that transactions have
used and the number of elements in batches. -/
def overheadVerdict (s : ControllerSettings) (current : Amount) (gas size : ℕ) :
    Option Amount × Except Breakdown Action :=
  if size = 0 then (none, .ok (.noOp .insufficientData))
  else if 2 ^ 256 ≤ gas / size * s.overheadRatio then (none, .ok (.noOp .invalidTarget))
  else
    let target := Amount.clamp (gas / size * s.overheadRatio / 1000)
    (some target, s.overhead.decide target current)

/-- An answer that is in line with the overhead on chain, a list of batches, and the receipts of
transactions. Everything else may be answered in any way. -/
def Exchange.TellsBatches (current : Amount) (listed : List BatchEvent)
    (receipts : Hash → Option Receipt) : Exchange Query.Answer → Prop
  | ⟨.overhead, a⟩ => a = .ok current
  | ⟨.blockNumber, a⟩ => ∃ latest, a = .ok latest
  | ⟨.batchEvents _ _, a⟩ => a = .ok listed
  | ⟨.receipt tx, a⟩ => a = .ok (receipts tx)
  | _ => True

variable {s : ControllerSettings} {current : Amount} {events listed : List BatchEvent}
  {receipts : Hash → Option Receipt} {xs : List (Exchange Query.Answer)}
  {r : Except Stop ParameterOutcome}

/-- No reading of the step fails. -/
theorem Exchange.TellsBatches.not_isFailure {x : Exchange Query.Answer}
    (h : x.TellsBatches current listed receipts)
    (own : TickStep.overhead.mayAsk x.question = true) : ¬ x.IsFailure := by
  intro hfailed
  cases hfailed with
  | overhead | batchEvents | receipt => cases h
  | blockNumber =>
    obtain ⟨latest, ⟨⟩⟩ := h
  | _ => cases own

/-! ### The target -/

/-- The gas of the receipts is the gas of the transactions. -/
theorem BatchEvent.toNat_gasOf {found : List (Hash × Receipt)}
    (hcomplete : found.map Prod.fst = transactions events)
    (hfound : ∀ x ∈ found, receipts x.1 = some x.2) :
    (gasOf found).toNat = gasTotal receipts events := by
  have hused : found.map (fun x => x.2.gasUsed.toNat) =
      (transactions events).map (gasUsed receipts) := by
    rw [← hcomplete, List.map_map]
    refine List.map_congr_left fun x hx => ?_
    simp [gasUsed, hfound x hx]
  rw [gasOf, Amount.toNat_foldl_satAdd (fun x : Hash × Receipt => x.2.gasUsed), Amount.toNat_zero,
    Nat.zero_add, hused, gasTotal, ← toFinset_transactions,
    List.sum_toFinset _ (nodup_transactions events)]

/-- The target in unbounded integers. -/
theorem overheadTarget_eq {gas size : Amount} {ratio : ℕ} (hratio : ratio < 2 ^ 64) :
    overheadTarget gas size ratio =
      if size.toNat = 0 then .error .insufficientData
      else if 2 ^ 256 ≤ gas.toNat / size.toNat * ratio then .error .invalidTarget
      else .ok (Amount.clamp (gas.toNat / size.toNat * ratio / 1000)) := by
  have hclamp : (Amount.clamp ratio).toNat = ratio := by
    rw [Amount.toNat_clamp, Amount.maxNat]
    omega
  have hthousand : (Amount.clamp 1000).toNat = 1000 := by decide
  have hzero : size = 0 ↔ size.toNat = 0 := by rw [Amount.ext_iff, Amount.toNat_zero]
  simp only [overheadTarget, hzero, Amount.mul?, Amount.toNat_div, hclamp]
  split
  · rfl
  generalize gas.toNat / size.toNat * ratio = product
  rcases Nat.lt_or_ge product (2 ^ 256) with hfits | hlarge
  · have hle : product ≤ Amount.maxNat := by
      rw [Amount.maxNat]
      omega
    rw [Amount.ofNat?, dif_pos hle, if_neg (by omega)]
    refine congrArg Except.ok (Amount.ext ?_)
    rw [Amount.toNat_div, hthousand, Amount.toNat_clamp]
    exact (min_eq_left ((Nat.div_le_self _ _).trans hle)).symm
  · rw [Amount.ofNat?, dif_neg (by rw [Amount.maxNat]; omega), if_pos hlarge]

/-- The verdict follows from the target. -/
theorem overheadVerdict_eq (hratio : s.overheadRatio < 2 ^ 64) (current gas size : Amount) :
    overheadVerdict s current gas.toNat size.toNat =
      match overheadTarget gas size s.overheadRatio with
      | .error reason => (none, .ok (.noOp reason))
      | .ok target => (some target, s.overhead.decide target current) := by
  rw [overheadTarget_eq hratio, overheadVerdict]
  split_ifs <;> rfl

/-- A decision about a target is never for want of one. -/
theorem Bounds.reason_of_decide {bounds : Bounds} {target current : Amount} {reason : SkipReason}
    (h : bounds.decide target current = .ok (.noOp reason)) :
    reason = .outOfBounds ∨ reason = .atTarget ∨ reason = .belowMinStep := by
  cases decided_of_decide h with
  | unworthy worth =>
    rw [worthMoving] at worth
    split_ifs at worth <;> cases worth <;> simp
  | stuck => simp
  | refused => simp

theorem overheadVerdict_insufficient_iff {gas size : ℕ} :
    (overheadVerdict s current gas size).2 = .ok (.noOp .insufficientData) ↔ size = 0 := by
  rw [overheadVerdict]
  split_ifs with hsize hlarge
  · simp [hsize]
  · simp [hsize]
  · refine iff_of_false (fun h => ?_) hsize
    rcases Bounds.reason_of_decide h with h | h | h <;> cases h

theorem overheadVerdict_invalid_iff {gas size : ℕ} :
    (overheadVerdict s current gas size).2 = .ok (.noOp .invalidTarget) ↔
      2 ^ 256 ≤ gas / size * s.overheadRatio := by
  rw [overheadVerdict]
  split_ifs with hsize hlarge
  · simp [hsize]
  · simp [hlarge]
  · refine iff_of_false (fun h => ?_) hlarge
    rcases Bounds.reason_of_decide h with h | h | h <;> cases h

/-! ### The step -/

namespace Step

section

variable {limit : Duration} {parameter : Parameter} {update : Amount → Update}
  {target : Option Amount} {d : Except Breakdown Action}

/-- An outcome tells the target, and the action that was decided. -/
theorem ComesTo.of_ok {o : ParameterOutcome}
    (h : ComesTo limit parameter current update target d xs (.ok o)) :
    o.target = target ∧ d = .ok o.action := by
  generalize hr : (Except.ok o : Except Stop ParameterOutcome) = r at h
  cases h with
  | broken => cases hr
  | leftAlone =>
    obtain rfl := Except.ok.inj hr
    exact ⟨rfl, rfl⟩
  | @followed v _ w =>
    cases w with
    | error e => cases hr
    | ok a =>
      obtain rfl := Except.ok.inj hr
      exact ⟨rfl, rfl⟩

/-- A parameter is left alone exactly if that is decided. -/
theorem ComesTo.noOp_iff {reason : SkipReason}
    (h : ComesTo limit parameter current update target d xs r) :
    (∃ o, r = .ok o ∧ o.action = .noOp reason) ↔ d = .ok (.noOp reason) := by
  constructor
  · rintro ⟨o, rfl, ho⟩
    rw [h.of_ok.2, ho]
  · rintro rfl
    cases h with
    | leftAlone => exact ⟨_, rfl, rfl⟩

end

/-- The answers tell what was read. -/
theorem told_of_batchReads {read : Amount} {latest : ℕ} {found : List (Hash × Receipt)}
    (htold : ∀ x ∈ batchReads s read latest events found, x.TellsBatches current listed receipts) :
    read = current ∧ events = listed ∧ ∀ x ∈ found, receipts x.1 = some x.2 := by
  simp only [batchReads, List.forall_mem_append, List.forall_mem_cons] at htold
  obtain ⟨⟨hread, -, hevents, -⟩, hfound⟩ := htold
  refine ⟨Except.ok.inj hread, Except.ok.inj hevents, fun x hx => ?_⟩
  exact (Except.ok.inj (hfound _ (List.mem_map_of_mem hx))).symm

/-- **The step comes to the verdict about the batches.** -/
theorem comesTo_updateOverhead (hratio : s.overheadRatio < 2 ^ 64)
    (hknown : ∀ e ∈ events, (receipts e.tx).isSome = true) (h : Path (updateOverhead s) xs r)
    (htold : ∀ x ∈ xs, x.TellsBatches current events receipts) :
    let verdict := overheadVerdict s current (BatchEvent.gasTotal receipts events)
      (BatchEvent.sizeTotal events)
    ComesTo s.confirmationTimeout .overhead current .overhead verdict.1 verdict.2 xs r := by
  cases overheadPath_updateOverhead h with
  | failed _ read own failed => exact absurd failed ((htold _ read).not_isFailure own)
  | noReceipt _ read named missing =>
    obtain rfl := (Except.ok.inj (htold _ read)).symm
    have hnone := Except.ok.inj (htold _ missing)
    rw [BatchEvent.transactions_eq] at named
    obtain ⟨e, he, rfl⟩ : ∃ e ∈ events, e.tx = _ := by simpa using named
    have hsome := hknown e he
    rw [← hnone] at hsome
    cases hsome
  | noEvents ns =>
    obtain ⟨rfl, rfl, -⟩ := told_of_batchReads (List.forall_mem_append.1 htold).1
    exact .leftAlone (quiet_batchReads.append (quiet_notes ns))
  | aimless ns complete figures =>
    obtain ⟨rfl, rfl, hfound⟩ := told_of_batchReads (List.forall_mem_append.1 htold).1
    rw [← BatchEvent.toNat_gasOf complete hfound, ← BatchEvent.toNat_totalSize,
      overheadVerdict_eq hratio, figures]
    exact .leftAlone (quiet_batchReads.append (quiet_notes ns))
  | @aimed _ _ _ _ _ n _ _ _ complete figures move =>
    obtain ⟨rfl, rfl, hfound⟩ := told_of_batchReads (List.forall_mem_append.1 htold).1
    rw [← BatchEvent.toNat_gasOf complete hfound, ← BatchEvent.toNat_totalSize,
      overheadVerdict_eq hratio, figures]
    obtain ⟨zs, rfl, hmove⟩ := path_note_bind.1 move
    exact ((comesTo_moveToward hmove).2.append_left (quiet_notes [n])).append_left quiet_batchReads

end Step

/-! ### Other lists -/

/-- **The overhead rests on which batches there were**, not on their list. Take events whose
transactions have receipts, and surroundings that list the same batches in any way. The step then
comes to the verdict about the events: a target in unbounded integers, and what the bounds make of
it. It is for want of data exactly if there are no elements, and for an invalid target exactly if
the target does not fit. What is reported is the same for every list. -/
theorem overhead_rests_on_batches (hratio : s.overheadRatio < 2 ^ 64)
    (hknown : ∀ e ∈ events, (receipts e.tx).isSome = true)
    (hlisted : BatchEvent.Relisted events listed) (h : Step.Path (Step.updateOverhead s) xs r)
    (htold : ∀ x ∈ xs, x.TellsBatches current listed receipts) :
    let gas := BatchEvent.gasTotal receipts events
    let size := BatchEvent.sizeTotal events
    let verdict := overheadVerdict s current gas size
    Step.ComesTo s.confirmationTimeout .overhead current .overhead verdict.1 verdict.2 xs r ∧
    ((∃ o, r = .ok o ∧ o.action = .noOp .insufficientData) ↔ events = [] ∨ size = 0) ∧
    ((∃ o, r = .ok o ∧ o.action = .noOp .invalidTarget) ↔ 2 ^ 256 ≤ gas / size * s.overheadRatio) ∧
    ∀ ys r', Step.Path (Step.updateOverhead s) ys r' →
      (∀ x ∈ ys, x.TellsBatches current events receipts) → ∀ o o', r = .ok o → r' = .ok o' →
        o.target = o'.target ∧ o.action = o'.action := by
  intro gas size verdict
  have hknown' : ∀ e ∈ listed, (receipts e.tx).isSome = true := by
    intro e he
    have htx : e.tx ∈ (events.map BatchEvent.tx).toFinset := by
      rw [hlisted.toFinset_eq]
      exact List.mem_toFinset.2 (List.mem_map_of_mem he)
    obtain ⟨e', he', heq⟩ := List.mem_map.1 (List.mem_toFinset.1 htx)
    rw [← heq]
    exact hknown e' he'
  have hcomes : Step.ComesTo s.confirmationTimeout .overhead current .overhead verdict.1 verdict.2
      xs r := by
    have := Step.comesTo_updateOverhead hratio hknown' h htold
    rwa [← hlisted.gasTotal_eq, ← hlisted.sizeTotal_eq] at this
  have hempty : events = [] ∨ size = 0 ↔ size = 0 :=
    or_iff_right_of_imp fun hnone => by simp only [size, hnone]; rfl
  refine ⟨hcomes, ?_, ?_, ?_⟩
  · rw [hempty, hcomes.noOp_iff]
    exact overheadVerdict_insufficient_iff
  · rw [hcomes.noOp_iff]
    exact overheadVerdict_invalid_iff
  · rintro ys _ hpath htold' o o' rfl rfl
    obtain ⟨htarget, haction⟩ := hcomes.of_ok
    obtain ⟨htarget', haction'⟩ := (Step.comesTo_updateOverhead hratio hknown hpath htold').of_ok
    exact ⟨htarget.trans htarget'.symm, Except.ok.inj (haction.symm.trans haction')⟩

/-- A state batch of four elements. -/
def BatchEvent.four : BatchEvent := ⟨.ofNat 1, 7, .state, Amount.clamp 4⟩

/-- Its transaction, named again in a later block. -/
def BatchEvent.again : BatchEvent := ⟨.ofNat 1, 9, .transaction, Amount.clamp 5⟩

/-- Every transaction has used eighty units of gas. -/
def eightyUnits (tx : Hash) : Option Receipt := some ⟨tx, Amount.clamp 80, true, none⟩

/-- Surroundings that list the newest event first, and in which writes are mined. -/
def namedTwice : Answerer Query.Answer Unit where
  answer q w :=
    match q with
    | .overhead => (.ok (Amount.clamp 10), w)
    | .blockNumber => (.ok 100, w)
    | .batchEvents .. => (.ok (BatchEvent.newestFirst [.again, .four]), w)
    | .receipt tx => (.ok (eightyUnits tx), w)
    | .submit _ => (.ok (Hash.ofNat 1), w)
    | .confirmation _ tx _ => (.finished (.ok ⟨tx, none, none⟩), w)
    | q => (q.refused, w)

/-- The gas is counted once, and the size of an event that is no state batch not at all. -/
theorem overheadVerdict_four :
    overheadVerdict Setup.plain.controller (Amount.clamp 10)
      (BatchEvent.gasTotal eightyUnits [.four]) (BatchEvent.sizeTotal [.four]) =
        (some (Amount.clamp 20), .ok (.setTo (Amount.clamp 20))) := by
  decide +kernel

/-- The overhead moves to twenty. -/
theorem overhead_namedTwice :
    let step := Step.updateOverhead Setup.plain.controller
    BatchEvent.Relisted [.four] (BatchEvent.newestFirst [.again, .four]) ∧
    (∀ x ∈ step.run.transcript namedTwice (), x.TellsBatches (Amount.clamp 10)
      (BatchEvent.newestFirst [.again, .four]) eightyUnits) ∧
    Step.ComesTo Setup.plain.controller.confirmationTimeout .overhead (Amount.clamp 10) .overhead
      (some (Amount.clamp 20)) (.ok (.setTo (Amount.clamp 20)))
      (step.run.transcript namedTwice ()) (step.run.run namedTwice ()).1 := by
  intro step
  have hlisted : BatchEvent.Relisted [.four] (BatchEvent.newestFirst [.again, .four]) :=
    .trans (.repeated rfl (by decide)) (BatchEvent.relisted_newestFirst _)
  have htold : ∀ x ∈ step.run.transcript namedTwice (), x.TellsBatches (Amount.clamp 10)
      (BatchEvent.newestFirst [.again, .four]) eightyUnits := by
    refine (Dialogue.forall_mem_transcript (I := fun _ => True) (fun q w _ => ?_) _ () trivial).1
    cases q with
    | overhead | batchEvents | receipt => exact ⟨rfl, trivial⟩
    | blockNumber => exact ⟨⟨100, rfl⟩, trivial⟩
    | _ => exact ⟨trivial, trivial⟩
  have hcomes := (overhead_rests_on_batches (by decide) (fun _ _ => rfl) hlisted
    (Dialogue.path_run namedTwice step.run ()) htold).1
  rw [overheadVerdict_four] at hcomes
  exact ⟨hlisted, htold, hcomes⟩

end RollupFees
