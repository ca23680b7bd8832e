import RollupFees.Proofs.History

/-!
# What warrants a write

A step that steers a parameter reads what it needs, aims at a target, and writes what the bounds
make of it. Its readings are listed here in full, so that a write which they warrant cannot rest on
a reading that failed, on an answer of an earlier step, or on a price that is not there.

## Main definitions

* `submissions`, `chainReads` : the updates handed in, and what was read, along a path
* `Aims` : the readings of a step, with what they come to
* `Warranted` : the readings of a step lead to an update
* `Steered` : what a step did about its parameter, told from its exchanges
-/

namespace RollupFees

/-- The parameter that a step steers. -/
def TickStep.parameter? : TickStep → Option Parameter
  | .priceRatio => some .priceRatio
  | .overhead => some .overhead
  | .l1BaseFee => some .l1BaseFee
  | _ => none

/-- The bounds of a parameter. -/
def ControllerSettings.boundsOf (c : ControllerSettings) : Parameter → Bounds
  | .priceRatio => c.priceRatio
  | .overhead => c.overhead
  | .l1BaseFee => c.l1BaseFee

/-! ### Exchanges of a step -/

/-- Whether a question belongs to a write. -/
def Query.isWriting : Query → Bool
  | .submit _ | .confirmation .. => true
  | _ => false

/-- Whether a question reads from a chain or a feed. -/
def Query.isReading : Query → Bool
  | .latestAnswer _ | .balance .. | .tokenBalance .. | .blockNumber | .gasPrice | .receipt _
  | .batchEvents .. | .priceRatio | .priceRatioDecimals | .overhead | .l1BaseFee => true
  | _ => false

/-- The update that an exchange hands in, whatever the answer. -/
def Exchange.submission? : Exchange Query.Answer → Option Update
  | ⟨.submit u, _⟩ => some u
  | _ => none

/-- The updates that were handed in, in order. -/
def submissions (xs : List (Exchange Query.Answer)) : List Update :=
  xs.filterMap Exchange.submission?

/-- What was read from chains and feeds, in order, with the answers. -/
def chainReads (xs : List (Exchange Query.Answer)) : List (Exchange Query.Answer) :=
  xs.filter fun x => x.question.isReading

/-- Whether an exchange is a reading that failed. -/
inductive Exchange.IsFailure : Exchange Query.Answer → Prop
  | latestAnswer {pair e} : IsFailure ⟨.latestAnswer pair, .error e⟩
  | balance {side account e} : IsFailure ⟨.balance side account, .error e⟩
  | tokenBalance {token holder e} : IsFailure ⟨.tokenBalance token holder, .error e⟩
  | blockNumber {e} : IsFailure ⟨.blockNumber, .error e⟩
  | gasPrice {e} : IsFailure ⟨.gasPrice, .error e⟩
  | receipt {tx e} : IsFailure ⟨.receipt tx, .error e⟩
  | batchEvents {first last e} : IsFailure ⟨.batchEvents first last, .error e⟩
  | priceRatio {e} : IsFailure ⟨.priceRatio, .error e⟩
  | priceRatioDecimals {e} : IsFailure ⟨.priceRatioDecimals, .error e⟩
  | overhead {e} : IsFailure ⟨.overhead, .error e⟩
  | l1BaseFee {e} : IsFailure ⟨.l1BaseFee, .error e⟩

/-- An update was accepted, and its transaction was mined in time. -/
def Confirmed (limit : Duration) (xs : List (Exchange Query.Answer)) (u : Update) : Prop :=
  ∃ tx c, ⟨.submit u, .ok tx⟩ ∈ xs ∧
    ⟨.confirmation u.parameter tx limit, .finished (.ok c)⟩ ∈ xs

/-! ### Readings and what they come to -/

/-- What readings come to: a current value, a target, what is decided about them, and the update
that writes a value. -/
structure Aim where
  current : Amount
  target : Amount
  decision : Except Breakdown Action
  update : Amount → Update

/-- The gas that receipts add up to. -/
def gasOf (found : List (Hash × Receipt)) : Amount :=
  found.foldl (fun sum x => sum.satAdd x.2.gasUsed) 0

/-- The readings of a step that gets as far as a target, with what they come to. There are no
others. -/
inductive Aims (c : ControllerSettings) (book : PriceBook) :
    TickStep → List (Exchange Query.Answer) → Aim → Prop
  | priceRatio {current target market : Amount} {decimals : Nat}
      (figures : priceRatioTarget (book.value? .native) (book.value? .secondary) decimals
        c.priceRatioMultiplier = .ok (target, market)) :
      Aims c book .priceRatio
        [⟨.priceRatio, .ok current⟩, ⟨.priceRatioDecimals, .ok decimals⟩]
        ⟨current, target, c.priceRatio.decide target current, (Update.priceRatio · market)⟩
  | overhead {current target : Amount} {latest : Nat} {events : List BatchEvent}
      {found : List (Hash × Receipt)} (some_events : events ≠ [])
      (complete : found.map Prod.fst = BatchEvent.transactions events)
      (figures : overheadTarget (gasOf found) (BatchEvent.totalSize events) c.overheadRatio =
        .ok target) :
      Aims c book .overhead
        ([⟨.overhead, .ok current⟩, ⟨.blockNumber, .ok latest⟩,
          ⟨.batchEvents (latest - c.overheadWindow) latest, .ok events⟩] ++
          found.map fun x => ⟨.receipt x.1, .ok (some x.2)⟩)
        ⟨current, target, c.overhead.decide target current, Update.overhead⟩
  | l1BaseFee {current target : Amount} :
      Aims c book .l1BaseFee [⟨.gasPrice, .ok target⟩, ⟨.l1BaseFee, .ok current⟩]
        ⟨current, target, c.l1BaseFee.decideL1BaseFee target current, Update.l1BaseFee⟩

/-- The readings of a step lead to an update. -/
def Warranted (c : ControllerSettings) (book : PriceBook) (step : TickStep)
    (reads : List (Exchange Query.Answer)) (u : Update) : Prop :=
  ∃ aim, Aims c book step reads aim ∧ aim.decision = .ok (.setTo u.value) ∧
    u = aim.update u.value

/-- The reasons for which a step does not write: a reading failed, a price is missing or cannot be
divided by, there are no batches, one of them has no receipt, or they are empty. -/
inductive Hindered (book : PriceBook) : TickStep → List (Exchange Query.Answer) → Prop
  | failedReading {step reads x} (read : x ∈ reads) (failed : x.IsFailure) :
      Hindered book step reads
  | missingPrice {pair reads} (missing : book.value? pair = none) :
      Hindered book .priceRatio reads
  | zeroPrice {d reads} (known : book.value? .secondary = some d) (zero : d.isZero = true) :
      Hindered book .priceRatio reads
  | noEvents {step reads first last} (read : ⟨.batchEvents first last, .ok []⟩ ∈ reads) :
      Hindered book step reads
  | noReceipt {step reads tx} (read : ⟨.receipt tx, .ok none⟩ ∈ reads) :
      Hindered book step reads
  | noSize {step reads first last events} (read : ⟨.batchEvents first last, .ok events⟩ ∈ reads)
      (empty : BatchEvent.totalSize events = 0) :
      Hindered book step reads

variable {c : ControllerSettings} {book : PriceBook} {step : TickStep}
  {reads xs ys zs : List (Exchange Query.Answer)} {u : Update}

/-- How a decision comes about: the target is not worth a move, there is no move to make, or the
next value is refused or written. -/
inductive Bounds.Decided (bounds : Bounds) (target current : Amount) : Action → Prop
  | unworthy {reason : SkipReason} (worth : bounds.worthMoving target current = some reason) :
      Decided bounds target current (.noOp reason)
  | stuck (worth : bounds.worthMoving target current = none)
      (next : nextValue target current bounds.maxDeltaFraction = .ok none) :
      Decided bounds target current (.noOp .belowMinStep)
  | refused {v : Amount} (worth : bounds.worthMoving target current = none)
      (next : nextValue target current bounds.maxDeltaFraction = .ok (some v))
      (outside : bounds.contains v = false) :
      Decided bounds target current (.noOp .outOfBounds)
  | written {v : Amount} (worth : bounds.worthMoving target current = none)
      (next : nextValue target current bounds.maxDeltaFraction = .ok (some v))
      (inside : bounds.contains v = true) :
      Decided bounds target current (.setTo v)

theorem Bounds.decided_of_decide {bounds : Bounds} {target current : Amount} {action : Action}
    (h : bounds.decide target current = .ok action) : bounds.Decided target current action := by
  rw [Bounds.decide] at h
  split at h
  · next reason worth =>
    obtain rfl := Except.ok.inj h
    exact .unworthy worth
  · next worth =>
    rcases next : nextValue target current bounds.maxDeltaFraction with b | _ | v <;>
      simp only [next, Except.map] at h
    · cases h
    · obtain rfl := Except.ok.inj h
      exact .stuck worth next
    · split at h <;> obtain rfl := Except.ok.inj h
      · next inside => exact .written worth next inside
      · next outside => exact .refused worth next (Bool.eq_false_iff.2 outside)

/-- A decision to write stays within the hard bounds. -/
theorem Bounds.contains_of_decide {bounds : Bounds} {target current v : Amount}
    (h : bounds.decide target current = .ok (.setTo v)) : bounds.contains v = true := by
  cases decided_of_decide h with
  | written _ _ inside => exact inside

/-- A write that is warranted is one of the step's own parameter. -/
theorem Warranted.parameter (h : Warranted c book step reads u) :
    step.parameter? = some u.parameter := by
  obtain ⟨aim, haim, -, hu⟩ := h
  rw [hu]
  cases haim <;> rfl

/-- A write that is warranted lies within the hard bounds. -/
theorem Warranted.within (h : Warranted c book step reads u) :
    (c.boundsOf u.parameter).hardFloor ≤ u.value ∧
      u.value ≤ (c.boundsOf u.parameter).hardCeiling := by
  obtain ⟨aim, haim, hdecision, hu⟩ := h
  have hin : (c.boundsOf u.parameter).contains u.value = true := by
    rw [hu]
    cases haim with
    | priceRatio => exact Bounds.contains_of_decide hdecision
    | overhead => exact Bounds.contains_of_decide hdecision
    | @l1BaseFee current target =>
      have hband : c.l1BaseFee.band.contains u.value = true := Bounds.contains_of_decide hdecision
      exact hband
  simpa [Bounds.contains] using hin

/-- There is a target for the price ratio only if both prices are known, and the one that is divided
by is not zero. -/
theorem prices_of_priceRatioTarget {native secondary : Option Decimal} {decimals multiplier : Nat}
    {figures : Amount × Amount}
    (h : priceRatioTarget native secondary decimals multiplier = .ok figures) :
    ∃ a b, native = some a ∧ secondary = some b ∧ b.isZero = false := by
  unfold priceRatioTarget at h
  split at h
  · next a b =>
    split at h
    · cases h
    · next hzero => exact ⟨a, b, rfl, rfl, by simpa using hzero⟩
  · cases h

/-- What a step aims at rests on no failed reading. -/
theorem Aims.not_isFailure {aim : Aim} (h : Aims c book step reads aim)
    {x : Exchange Query.Answer} (hx : x ∈ reads) : ¬ x.IsFailure := by
  intro hfailed
  cases h with
  | priceRatio | l1BaseFee => cases hfailed <;> simp at hx
  | overhead => cases hfailed <;> simp at hx

/-- A step that is hindered does not aim at anything. -/
theorem Aims.not_hindered {aim : Aim} (h : Aims c book step reads aim) :
    ¬ Hindered book step reads := by
  intro hind
  cases hind with
  | failedReading read failed => exact h.not_isFailure read failed
  | @missingPrice pair _ missing =>
    obtain @⟨_, _, _, _, figures⟩ := h
    obtain ⟨a, b, ha, hb, -⟩ := prices_of_priceRatioTarget figures
    cases pair
    · rw [missing] at ha
      cases ha
    · rw [missing] at hb
      cases hb
  | zeroPrice known zero =>
    obtain @⟨_, _, _, _, figures⟩ := h
    obtain ⟨a, b, -, hb, hzero⟩ := prices_of_priceRatioTarget figures
    obtain rfl := Option.some.inj (known.symm.trans hb)
    rw [zero] at hzero
    cases hzero
  | noEvents read =>
    cases h with
    | priceRatio | l1BaseFee => simp at read
    | overhead some_events => simp [some_events.symm] at read
  | noReceipt read => cases h <;> simp at read
  | noSize read empty =>
    cases h with
    | priceRatio | l1BaseFee => simp at read
    | overhead _ _ figures =>
      obtain ⟨-, rfl⟩ : (_ ∧ _) ∧ _ = _ := by simpa using read
      simp [overheadTarget, empty] at figures

/-! ### Exchanges that write nothing -/

@[simp] theorem submissions_append (xs ys : List (Exchange Query.Answer)) :
    submissions (xs ++ ys) = submissions xs ++ submissions ys := List.filterMap_append

@[simp] theorem chainReads_append (xs ys : List (Exchange Query.Answer)) :
    chainReads (xs ++ ys) = chainReads xs ++ chainReads ys := List.filter_append ..

/-- None of the exchanges belongs to a write. -/
def Quiet (xs : List (Exchange Query.Answer)) : Prop := ∀ x ∈ xs, x.question.isWriting = false

/-- None of the exchanges is a reading. -/
def Blind (xs : List (Exchange Query.Answer)) : Prop := ∀ x ∈ xs, x.question.isReading = false

theorem Quiet.append (hx : Quiet xs) (hy : Quiet ys) : Quiet (xs ++ ys) :=
  List.forall_mem_append.2 ⟨hx, hy⟩

theorem Blind.append (hx : Blind xs) (hy : Blind ys) : Blind (xs ++ ys) :=
  List.forall_mem_append.2 ⟨hx, hy⟩

theorem Blind.chainReads_eq (h : Blind xs) : chainReads xs = [] := by
  rw [chainReads, List.filter_eq_nil_iff]
  intro x hx
  simp [h x hx]

theorem Blind.chainReads_append (h : Blind ys) (xs : List (Exchange Query.Answer)) :
    chainReads (xs ++ ys) = chainReads xs := by
  rw [RollupFees.chainReads_append, h.chainReads_eq, List.append_nil]

theorem Quiet.submissions_eq (h : Quiet xs) : submissions xs = [] := by
  rw [submissions, List.filterMap_eq_nil_iff]
  rintro ⟨q, a⟩ hx
  have := h _ hx
  cases q <;> first | rfl | cases this

theorem Aims.isReading {aim : Aim} (h : Aims c book step reads aim) {x : Exchange Query.Answer}
    (hx : x ∈ reads) : x.question.isReading = true := by
  cases h with
  | priceRatio | l1BaseFee =>
    simp only [List.mem_cons, List.not_mem_nil, or_false] at hx
    rcases hx with rfl | rfl <;> rfl
  | overhead =>
    simp only [List.cons_append, List.nil_append, List.mem_cons, List.mem_map] at hx
    rcases hx with rfl | rfl | rfl | ⟨_, -, rfl⟩ <;> rfl

theorem Aims.chainReads_eq {aim : Aim} (h : Aims c book step reads aim) :
    chainReads reads = reads := List.filter_eq_self.2 fun _ => h.isReading

/-- No reading belongs to a write. -/
theorem Aims.quiet {aim : Aim} (h : Aims c book step reads aim) : Quiet reads := by
  rintro ⟨q, a⟩ hx
  have := h.isReading hx
  cases q <;> first | rfl | cases this

theorem Quiet.not_mem (h : Quiet xs) {q : Query} (a : q.Answer) (hq : q.isWriting = true) :
    (⟨q, a⟩ : Exchange Query.Answer) ∉ xs := by
  intro hmem
  have := h _ hmem
  rw [hq] at this
  cases this

/-- What is confirmed is told from the exchanges that belong to writes. -/
theorem Quiet.confirmed_append_left (h : Quiet xs) {limit : Duration} :
    Confirmed limit (xs ++ ys) u ↔ Confirmed limit ys u := by
  simp [Confirmed, h.not_mem (q := .submit _) _ rfl, h.not_mem (q := .confirmation ..) _ rfl]

theorem Quiet.confirmed_append_right (h : Quiet ys) {limit : Duration} :
    Confirmed limit (xs ++ ys) u ↔ Confirmed limit xs u := by
  simp [Confirmed, h.not_mem (q := .submit _) _ rfl, h.not_mem (q := .confirmation ..) _ rfl]

/-! ### What a step did about its parameter -/

/-- What a step did about its parameter. At most one update was handed in, and one that the readings
warrant; a value is set exactly when its update was accepted and mined. -/
structure Steered (c : ControllerSettings) (book : PriceBook) (step : TickStep)
    (xs : List (Exchange Query.Answer)) (outcome : Option ParameterOutcome) : Prop where
  submitted : submissions xs = [] ∨
    ∃ u, Warranted c book step (chainReads xs) u ∧ submissions xs = [u]
  parameter : ∀ o ∈ outcome, step.parameter? = some o.parameter
  wrote : ∀ v, (∃ o ∈ outcome, o.action = .setTo v) ↔
    ∃ u, u.value = v ∧ Confirmed c.confirmationTimeout xs u

/-- A step that wrote nothing. -/
theorem Quiet.steered (h : Quiet xs) {outcome : Option ParameterOutcome}
    (hparameter : ∀ o ∈ outcome, step.parameter? = some o.parameter)
    (hidle : ∀ o ∈ outcome, ∀ v, o.action ≠ .setTo v) : Steered c book step xs outcome where
  submitted := .inl h.submissions_eq
  parameter := hparameter
  wrote v := by
    constructor
    · rintro ⟨o, ho, hv⟩
      exact absurd hv (hidle o ho v)
    · rintro ⟨u, -, tx, _, hsubmit, -⟩
      exact absurd (h _ hsubmit) (by simp [Query.isWriting])

/-- A step that wrote what its readings warrant. -/
theorem Warranted.steered {outcome : Option ParameterOutcome}
    (h : Warranted c book step (chainReads xs) u) (hx : Quiet xs) (hy : Blind ys)
    (hsubmitted : submissions ys = [u])
    (hconfirmed : ∀ u', Confirmed c.confirmationTimeout ys u' ↔ u' = u ∧ outcome.isSome)
    (hset : ∀ o ∈ outcome, o.parameter = u.parameter ∧ o.action = .setTo u.value) :
    Steered c book step (xs ++ ys) outcome where
  submitted := .inr ⟨u, by rwa [hy.chainReads_append], by simp [hx.submissions_eq, hsubmitted]⟩
  parameter o ho := by rw [h.parameter, (hset o ho).1]
  wrote v := by
    simp only [hx.confirmed_append_left, hconfirmed]
    constructor
    · rintro ⟨o, ho, hv⟩
      rw [(hset o ho).2] at hv
      exact ⟨u, by simpa using hv, rfl, by rw [Option.mem_def.1 ho]; rfl⟩
    · rintro ⟨_, rfl, rfl, hsome⟩
      obtain ⟨o, ho⟩ := Option.isSome_iff_exists.1 hsome
      exact ⟨o, ho, (hset o ho).2⟩

/-- What surrounds a write without reading or writing does not matter to it. -/
theorem Steered.surround {outcome : Option ParameterOutcome} (h : Steered c book step ys outcome)
    (hx : Quiet xs) (hx' : Blind xs) (hz : Quiet zs) (hz' : Blind zs) :
    Steered c book step (xs ++ ys ++ zs) outcome where
  submitted := by
    simpa [hx.submissions_eq, hz.submissions_eq, hx'.chainReads_eq, hz'.chainReads_eq] using
      h.submitted
  parameter := h.parameter
  wrote v := by
    simpa only [hz.confirmed_append_right, hx.confirmed_append_left] using h.wrote v

end RollupFees
