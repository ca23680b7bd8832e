import RollupFees.Proofs.Questions
import RollupFees.Proofs.Steering.Warrant

/-!
# The steps that steer

Each of the three steps that write on chain reads, aims and moves. The ways that end early, and
there are many, have written nothing; the one that is left ends in a single write. All three come
together in `Step.moveToward`, and all writes in `Step.apply`.
-/

namespace RollupFees

namespace Step

variable {c : ControllerSettings} {book : PriceBook} {limit : Duration} {u : Update}
  {xs zs : List (Exchange Query.Answer)}

/-! ### One write -/

/-- The exchanges of a write that was accepted, up to the end of the wait. -/
def written (limit : Duration) (u : Update) (tx : Hash) (n : Notice) (wait : Wait) :
    List (Exchange Query.Answer) :=
  [⟨.shutdownRequested, false⟩, ⟨.submit u, .ok tx⟩, ⟨.note n, ()⟩,
    ⟨.confirmation u.parameter tx limit, wait⟩]

theorem confirmed_written {tx : Hash} {n : Notice} {wait : Wait} {u' : Update} (hz : Quiet zs) :
    Confirmed limit (written limit u tx n wait ++ zs) u' ↔
      u' = u ∧ ∃ a, wait = .finished (.ok a) := by
  rw [hz.confirmed_append_right]
  constructor
  · rintro ⟨tx', a, hsubmit, hconfirmation⟩
    obtain ⟨rfl, rfl⟩ : u' = u ∧ tx' = tx := by simpa [written] using hsubmit
    exact ⟨rfl, a, by simpa [written, eq_comm] using hconfirmation⟩
  · rintro ⟨rfl, a, rfl⟩
    exact ⟨tx, a, by simp [written], by simp [written]⟩

/-- How a write comes out: a request to stop comes first, or its update is handed in, and either it
is not confirmed or it is. -/
inductive Followed (limit : Duration) (u : Update) :
    List (Exchange Query.Answer) → Except Stop Confirmation → Prop
  | stopped {xs : List (Exchange Query.Answer)} (quiet : Quiet xs)
      (told : ⟨.shutdownRequested, true⟩ ∈ xs) : Followed limit u xs (.error (.failed .shutdown))
  | unconfirmed {xs : List (Exchange Query.Answer)} {f : Failure} (submitted : submissions xs = [u])
      (never : ∀ u', ¬ Confirmed limit xs u') : Followed limit u xs (.error (.failed f))
  | confirmed {xs : List (Exchange Query.Answer)} {a : Confirmation}
      (submitted : submissions xs = [u]) (mined : ∀ u', Confirmed limit xs u' ↔ u' = u) :
      Followed limit u xs (.ok a)

/-- A write reads nothing. -/
theorem followed_apply {r : Except Stop Confirmation} (h : Path (apply limit u) xs r) :
    Blind xs ∧ Followed limit u xs r := by
  rw [apply] at h
  obtain ⟨stopping, ys, rfl, h₁⟩ := path_ask_bind.1 h
  cases stopping with
  | true =>
    obtain ⟨rfl, rfl⟩ := path_fail.1 h₁
    exact ⟨by simp [Blind, Query.isReading], .stopped (by simp [Quiet, Query.isWriting]) (by simp)⟩
  | false =>
    rcases path_need_bind.1 h₁ with ⟨e, hsubmit, rfl⟩ | ⟨_, zs, tx, rfl, hsubmit, h₂⟩
    · obtain rfl := Dialogue.path_question.1 hsubmit
      exact ⟨by simp [Blind, Query.isReading], .unconfirmed rfl (by simp [Confirmed])⟩
    · obtain rfl := Dialogue.path_question.1 hsubmit
      obtain ⟨zs, rfl, h₃⟩ := path_note_bind.1 h₂
      obtain ⟨wait, zs, rfl, h₄⟩ := path_ask_bind.1 h₃
      -- What follows the wait is at most a line in the log.
      have hrest : Quiet zs ∧ Blind zs ∧
          ((∃ a, wait = .finished (.ok a) ∧ r = .ok a) ∨
            (∃ f, r = .error (.failed f)) ∧ ∀ a, wait ≠ .finished (.ok a)) := by
        rcases wait with (e | a) | _ | _
        · obtain ⟨rfl, rfl⟩ := path_fail.1 h₄
          simp [Quiet, Blind]
        · obtain ⟨rfl, rfl⟩ := path_pure.1 h₄
          simp [Quiet, Blind]
        · obtain ⟨rfl, rfl⟩ := path_fail.1 h₄
          simp [Quiet, Blind]
        · obtain ⟨ws, rfl, h₅⟩ := path_note_bind.1 h₄
          obtain ⟨rfl, rfl⟩ := path_fail.1 h₅
          simp [Quiet, Blind, Query.isWriting, Query.isReading]
      obtain ⟨hquiet, hblind, hwait⟩ := hrest
      refine ⟨by simpa [Blind, Query.isReading] using hblind, ?_⟩
      change Followed limit u (written limit u tx _ wait ++ zs) r
      have hsubmitted : ∀ n, submissions (written limit u tx n wait ++ zs) = [u] := by
        intro n
        rw [submissions_append, hquiet.submissions_eq]
        rfl
      rcases hwait with ⟨a, rfl, rfl⟩ | ⟨⟨f, rfl⟩, hnever⟩
      · exact .confirmed (hsubmitted _) fun u' => by simp [confirmed_written hquiet]
      · exact .unconfirmed (hsubmitted _) fun u' => by simp [confirmed_written hquiet, hnever]

/-- What surrounds a write does not matter to it if it does not belong to writes. -/
theorem Followed.surround {r : Except Stop Confirmation} (h : Followed limit u ys r)
    (hx : Quiet xs) (hz : Quiet zs) : Followed limit u (xs ++ ys ++ zs) r := by
  have hsubmissions : submissions (xs ++ ys ++ zs) = submissions ys := by
    simp [hx.submissions_eq, hz.submissions_eq]
  have hconfirmed : ∀ u', Confirmed limit (xs ++ ys ++ zs) u' ↔ Confirmed limit ys u' := fun u' =>
    hz.confirmed_append_right.trans hx.confirmed_append_left
  cases h with
  | stopped quiet told => exact .stopped ((hx.append quiet).append hz) (by simp [told])
  | unconfirmed submitted never =>
    exact .unconfirmed (hsubmissions.trans submitted) fun u' => by rw [hconfirmed]; exact never u'
  | confirmed submitted mined =>
    exact .confirmed (hsubmissions.trans submitted) fun u' => (hconfirmed u').trans (mined u')

/-! ### One move -/

theorem path_skip {parameter : Parameter} {current : Amount} {target : Option Amount}
    {reason : SkipReason} {r : Except Stop ParameterOutcome}
    (h : Path (skip parameter current target reason) xs r) :
    (∃ n, xs = [⟨.note n, ()⟩]) ∧ r = .ok ⟨parameter, current, target, .noOp reason, none⟩ := by
  obtain ⟨ys, rfl, h₁⟩ := path_note_bind.1 h
  obtain ⟨rfl, rfl⟩ := path_pure.1 h₁
  exact ⟨⟨_, rfl⟩, rfl⟩

theorem quiet_notes (ns : List Notice) : Quiet (ns.map fun n => ⟨.note n, ()⟩) := by
  simp [Quiet, Query.isWriting]

theorem blind_notes (ns : List Notice) : Blind (ns.map fun n => ⟨.note n, ()⟩) := by
  simp [Blind, Query.isReading]

/-- What comes of a decision about a parameter: nothing if there is none, a parameter that is left
alone, or a write. -/
inductive ComesTo (limit : Duration) (parameter : Parameter) (current : Amount)
    (update : Amount → Update) (target : Option Amount) : Except Breakdown Action →
    List (Exchange Query.Answer) → Except Stop ParameterOutcome → Prop
  | broken {b : Breakdown} {xs : List (Exchange Query.Answer)} (quiet : Quiet xs) :
      ComesTo limit parameter current update target (.error b) xs (.error (.broken b))
  | leftAlone {reason : SkipReason} {xs : List (Exchange Query.Answer)} (quiet : Quiet xs) :
      ComesTo limit parameter current update target (.ok (.noOp reason)) xs
        (.ok ⟨parameter, current, target, .noOp reason, none⟩)
  | followed {v : Amount} {xs : List (Exchange Query.Answer)} {w : Except Stop Confirmation}
      (write : Followed limit (update v) xs w) :
      ComesTo limit parameter current update target (.ok (.setTo v)) xs
        (w.map fun a => ⟨parameter, current, target, .setTo v, some a⟩)

namespace ComesTo

variable {parameter : Parameter} {current : Amount} {update : Amount → Update}
  {target : Option Amount} {d : Except Breakdown Action} {r : Except Stop ParameterOutcome}

/-- What comes before does not matter if it does not belong to writes. -/
theorem append_left (h : ComesTo limit parameter current update target d ys r) (hx : Quiet xs) :
    ComesTo limit parameter current update target d (xs ++ ys) r := by
  cases h with
  | broken quiet => exact .broken (hx.append quiet)
  | leftAlone quiet => exact .leftAlone (hx.append quiet)
  | followed write =>
    have hnothing : Quiet [] := by simp [Quiet]
    simpa using ComesTo.followed (write.surround hx hnothing)

end ComesTo

/-- A move comes to what is decided, and reads nothing. -/
theorem comesTo_moveToward {parameter : Parameter} {bounds : Bounds} {current target : Amount}
    {update : Amount → Update} {r : Except Stop ParameterOutcome}
    (h : Path (moveToward limit bounds parameter current target update) xs r) :
    Blind xs ∧
      ComesTo limit parameter current update (some target) (bounds.decide target current) xs r := by
  rw [moveToward] at h
  rcases path_bind.1 h with ⟨e, hcompute, rfl⟩ | ⟨_, _, action, rfl, hcompute, h₁⟩
  · obtain ⟨rfl, hdecide⟩ := path_compute.1 hcompute
    cases hd : bounds.decide target current with
    | error b =>
      rw [hd] at hdecide
      obtain rfl := Except.error.inj hdecide
      exact ⟨by simp [Blind], .broken (by simp [Quiet])⟩
    | ok action =>
      rw [hd] at hdecide
      cases hdecide
  obtain ⟨rfl, hdecide⟩ := path_compute.1 hcompute
  have hdecided : bounds.decide target current = .ok action := by
    cases hd : bounds.decide target current with
    | error b =>
      rw [hd] at hdecide
      cases hdecide
    | ok a =>
      rw [hd] at hdecide
      exact congrArg Except.ok (Except.ok.inj hdecide).symm
  rw [hdecided]
  obtain ⟨zs, rfl, h₂⟩ := path_notes_bind.1 h₁
  rw [List.nil_append]
  generalize (bounds.refusedClamp? target current).toList.map (clampNotice bounds target current) =
    ns at h₂ ⊢
  suffices Blind zs ∧ ComesTo limit parameter current update (some target) (.ok action) zs r from
    ⟨(blind_notes ns).append this.1, this.2.append_left (quiet_notes ns)⟩
  cases action with
  | noOp reason =>
    obtain ⟨⟨n, rfl⟩, rfl⟩ := path_skip h₂
    exact ⟨blind_notes [n], .leftAlone (quiet_notes [n])⟩
  | setTo v =>
    rcases path_bind.1 h₂ with ⟨e, happly, rfl⟩ | ⟨ys, ws, a, rfl, happly, h₃⟩ <;>
      obtain ⟨hblind, hfollowed⟩ := followed_apply happly
    · exact ⟨hblind, .followed hfollowed⟩
    · obtain ⟨us, rfl, h₄⟩ := path_note_bind.1 h₃
      obtain ⟨rfl, rfl⟩ := path_pure.1 h₄
      have hnothing : Quiet [] := by simp [Quiet]
      exact ⟨hblind.append (blind_notes [_]),
        .followed (hfollowed.surround hnothing (quiet_notes [_]))⟩

/-- A step that leaves its parameter alone. -/
theorem steered_skip {step : TickStep} {parameter : Parameter} {current : Amount}
    {target : Option Amount} {reason : SkipReason} {r : Except Stop ParameterOutcome}
    (hstep : step.parameter? = some parameter) (hx : Quiet xs)
    (h : Path (skip parameter current target reason) zs r) :
    Steered c book step (xs ++ zs) r.toOption := by
  obtain ⟨⟨n, rfl⟩, rfl⟩ := path_skip h
  refine (hx.append (quiet_notes [n])).steered ?_ ?_
  · intro o h
    cases h
    exact hstep
  · rintro o ⟨⟩ v ⟨⟩

/-- A step that stops before it writes. -/
theorem steered_stop {step : TickStep} {e : Stop} (hx : Quiet xs) :
    Steered c book step xs (Except.toOption (.error e)) :=
  hx.steered (by rintro o ⟨⟩) (by rintro o ⟨⟩)

/-- A step that has read and aims moves its parameter by what is decided, or not at all. -/
theorem steered_moveToward {step : TickStep} {parameter : Parameter} {bounds : Bounds}
    {current target : Amount} {update : Amount → Update} {n : Notice}
    {r : Except Stop ParameterOutcome}
    (haim : Aims c book step xs ⟨current, target, bounds.decide target current, update⟩)
    (hstep : step.parameter? = some parameter) (hvalue : ∀ v, (update v).value = v)
    (h : Path (note n >>= fun _ =>
      moveToward c.confirmationTimeout bounds parameter current target update) zs r) :
    Steered c book step (xs ++ zs) r.toOption := by
  obtain ⟨ys, rfl, h₁⟩ := path_note_bind.1 h
  obtain ⟨hunread, hmove⟩ := comesTo_moveToward h₁
  have hblind : Blind (⟨.note n, ()⟩ :: ys) := (blind_notes [n]).append hunread
  have hmoved : ComesTo c.confirmationTimeout parameter current update (some target)
      (bounds.decide target current) (⟨.note n, ()⟩ :: ys) r :=
    hmove.append_left (quiet_notes [n])
  generalize hdecide : bounds.decide target current = d at hmoved
  cases hmoved with
  | broken quiet => exact steered_stop (haim.quiet.append quiet)
  | leftAlone quiet =>
    refine (haim.quiet.append quiet).steered ?_ ?_
    · rintro o ⟨⟩
      exact hstep
    · rintro o ⟨⟩ v ⟨⟩
  | @followed v _ w write =>
    have hwarranted : Warranted c book step xs (update v) :=
      ⟨_, haim, by rw [hvalue]; exact hdecide, by rw [hvalue]⟩
    have hparameter : parameter = (update v).parameter :=
      Option.some.inj (hstep.symm.trans hwarranted.parameter)
    rw [← haim.chainReads_eq] at hwarranted
    cases write with
    | stopped quiet => exact steered_stop (haim.quiet.append quiet)
    | unconfirmed submitted never =>
      refine hwarranted.steered haim.quiet hblind submitted (fun u' => ?_) (by rintro o ⟨⟩)
      simp [never, Except.map, Except.toOption]
    | confirmed submitted mined =>
      refine hwarranted.steered haim.quiet hblind submitted (fun u' => ?_) ?_
      · simp [mined, Except.map, Except.toOption]
      · rintro o ⟨⟩
        exact ⟨hparameter, by rw [hvalue]⟩

/-! ### The three steps -/

theorem steered_updatePriceRatio {r : Except Stop ParameterOutcome}
    (h : Path (updatePriceRatio c book) xs r) :
    Steered c book .priceRatio xs r.toOption := by
  rw [updatePriceRatio] at h
  rcases path_need_bind.1 h with ⟨e, hread, rfl⟩ | ⟨_, _, current, rfl, hread, h₁⟩ <;>
    obtain rfl := Dialogue.path_question.1 hread
  · exact steered_stop (by simp [Quiet, Query.isWriting])
  rcases path_need_bind.1 h₁ with ⟨e, hread, rfl⟩ | ⟨_, _, decimals, rfl, hread, h₂⟩ <;>
    obtain rfl := Dialogue.path_question.1 hread
  · exact steered_stop (by simp [Quiet, Query.isWriting])
  rw [← List.append_assoc]
  rcases hfigures : priceRatioTarget (book.value? .native) (book.value? .secondary) decimals
      c.priceRatioMultiplier with reason | ⟨target, market⟩ <;> simp only [hfigures] at h₂
  · exact steered_skip rfl (by simp [Quiet, Query.isWriting]) h₂
  · exact steered_moveToward (.priceRatio hfigures) rfl (fun _ => rfl) h₂

theorem steered_updateL1BaseFee {r : Except Stop ParameterOutcome}
    (h : Path (updateL1BaseFee c) xs r) :
    Steered c book .l1BaseFee xs r.toOption := by
  rw [updateL1BaseFee] at h
  rcases path_need_bind.1 h with ⟨e, hread, rfl⟩ | ⟨_, _, target, rfl, hread, h₁⟩ <;>
    obtain rfl := Dialogue.path_question.1 hread
  · exact steered_stop (by simp [Quiet, Query.isWriting])
  rcases path_need_bind.1 h₁ with ⟨e, hread, rfl⟩ | ⟨_, _, current, rfl, hread, h₂⟩ <;>
    obtain rfl := Dialogue.path_question.1 hread
  · exact steered_stop (by simp [Quiet, Query.isWriting])
  rw [← List.append_assoc]
  exact steered_moveToward .l1BaseFee rfl (fun _ => rfl) h₂

/-! ### Gas and receipts -/

/-- The receipts of transactions are read one by one. -/
theorem path_receipts_ok {hashes : List Hash} {found : List (Option Receipt)}
    (h : Path (receipts hashes) xs (.ok found)) :
    found.length = hashes.length ∧
      xs = (hashes.zip found).map fun x => ⟨.receipt x.1, .ok x.2⟩ := by
  induction hashes generalizing xs found with
  | nil =>
    obtain ⟨rfl, ⟨⟩⟩ := path_pure.1 h
    exact ⟨rfl, rfl⟩
  | cons tx rest ih =>
    obtain ⟨_, _, r, rfl, hread, h₁⟩ := path_bind_ok.1 h
    obtain rfl := Dialogue.path_question.1 (path_need_ok.1 hread)
    obtain ⟨_, _, rs, rfl, hrest, h₂⟩ := path_bind_ok.1 h₁
    obtain ⟨rfl, ⟨⟩⟩ := path_pure.1 h₂
    obtain ⟨hlength, rfl⟩ := ih hrest
    exact ⟨by simp [hlength], by simp⟩

/-- Gas is added up without asking, and only if every transaction has a receipt. -/
theorem path_totalGas {hashes : List Hash} {found : List (Option Receipt)}
    {r : Except Stop Amount} (h : Path (totalGas hashes found) xs r) :
    xs = [] ∧ ∀ gas, r = .ok gas → ∃ known : List (Hash × Receipt),
      hashes.zip found = known.map (fun x => (x.1, some x.2)) ∧ gas = gasOf known := by
  simp only [totalGas] at h
  unfold gasOf
  generalize (0 : Amount) = sum at h ⊢
  generalize hashes.zip found = pairs at h ⊢
  induction pairs generalizing sum xs with
  | nil =>
    obtain ⟨rfl, rfl⟩ := path_pure.1 h
    refine ⟨rfl, fun gas hgas => ⟨[], rfl, ?_⟩⟩
    cases hgas
    rfl
  | cons x rest ih =>
    obtain ⟨tx, receipt⟩ := x
    rw [List.foldlM_cons] at h
    cases receipt with
    | none =>
      rcases path_bind.1 h with ⟨e, hfail, rfl⟩ | ⟨_, _, a, rfl, hfail, -⟩
      · exact ⟨(path_fail.1 hfail).1, by simp⟩
      · cases (path_fail.1 hfail).2
    | some receipt =>
      rcases path_bind.1 h with ⟨e, hpure, rfl⟩ | ⟨_, _, a, rfl, hpure, h₁⟩
      · cases (path_pure.1 hpure).2
      · obtain ⟨rfl, ⟨⟩⟩ := path_pure.1 hpure
        obtain ⟨rfl, hknown⟩ := ih _ h₁
        refine ⟨rfl, fun gas hgas => ?_⟩
        obtain ⟨known, hrest, rfl⟩ := hknown gas hgas
        exact ⟨(tx, receipt) :: known, by simp [hrest], rfl⟩

/-- Receipts that cannot all be read fail for the one that cannot. -/
theorem exists_of_path_receipts {hashes : List Hash} {e : Stop}
    (h : Path (receipts hashes) xs (.error e)) :
    ∃ tx f, e = .failed f ∧ (⟨.receipt tx, .error f⟩ : Exchange Query.Answer) ∈ xs := by
  induction hashes generalizing xs with
  | nil => cases (path_pure.1 h).2
  | cons tx rest ih =>
    rcases path_need_bind.1 h with ⟨f, hread, he⟩ | ⟨_, zs, r, rfl, hread, h₁⟩
    · obtain rfl := Dialogue.path_question.1 hread
      exact ⟨tx, f, Except.error.inj he, List.mem_singleton_self _⟩
    · rcases path_bind.1 h₁ with ⟨e', hrest, he⟩ | ⟨_, _, rs, rfl, hrest, h₂⟩
      · obtain rfl := Except.error.inj he
        obtain ⟨tx', f, rfl, hmem⟩ := ih hrest
        exact ⟨tx', f, rfl, List.mem_append_right _ hmem⟩
      · cases (path_pure.1 h₂).2

/-- Gas is not added up if a transaction has no receipt, and for no other reason. -/
theorem exists_of_path_totalGas {hashes : List Hash} {found : List (Option Receipt)} {e : Stop}
    (h : Path (totalGas hashes found) xs (.error e)) :
    ∃ tx, (tx, none) ∈ hashes.zip found ∧ e = .failed (.rpc "eth_getTransactionReceipt"
      ("no receipt for batch transaction " ++ tx.text)) := by
  simp only [totalGas] at h
  generalize (0 : Amount) = sum at h
  generalize hashes.zip found = pairs at h ⊢
  induction pairs generalizing sum xs with
  | nil => cases (path_pure.1 h).2
  | cons x rest ih =>
    obtain ⟨tx, receipt⟩ := x
    rw [List.foldlM_cons] at h
    cases receipt with
    | none =>
      rcases path_bind.1 h with ⟨e', hfail, he⟩ | ⟨_, _, a, rfl, hfail, -⟩
      · obtain rfl := Except.error.inj he
        exact ⟨tx, List.mem_cons_self, Except.error.inj (path_fail.1 hfail).2⟩
      · cases (path_fail.1 hfail).2
    | some receipt =>
      rcases path_bind.1 h with ⟨e', hpure, he⟩ | ⟨_, _, a, rfl, hpure, h₁⟩
      · cases (path_pure.1 hpure).2
      · obtain ⟨tx', hmem, rfl⟩ := ih _ h₁
        exact ⟨tx', List.mem_cons_of_mem _ hmem, rfl⟩

/-- What the overhead is steered by: its value, the newest block, and batches with receipts. -/
def batchReads (c : ControllerSettings) (current : Amount) (latest : Nat)
    (events : List BatchEvent) (found : List (Hash × Receipt)) : List (Exchange Query.Answer) :=
  [⟨.overhead, .ok current⟩, ⟨.blockNumber, .ok latest⟩,
    ⟨.batchEvents (latest - c.overheadWindow) latest, .ok events⟩] ++
    found.map fun x => ⟨.receipt x.1, .ok (some x.2)⟩

/-- The ways through the step that steers the overhead. A reading fails, or a transaction has no
receipt; there are no batches; they lead to no target; or they lead to one, and the step moves. -/
inductive OverheadPath (c : ControllerSettings) :
    List (Exchange Query.Answer) → Except Stop ParameterOutcome → Prop
  | failed {xs : List (Exchange Query.Answer)} {x : Exchange Query.Answer} {f : Failure}
      (quiet : Quiet xs) (read : x ∈ xs) (own : TickStep.overhead.mayAsk x.question = true)
      (failed : x.IsFailure) : OverheadPath c xs (.error (.failed f))
  | noReceipt {xs : List (Exchange Query.Answer)} {first last : Nat} {events : List BatchEvent}
      {tx : Hash} {f : Failure} (quiet : Quiet xs)
      (read : ⟨.batchEvents first last, .ok events⟩ ∈ xs)
      (named : tx ∈ BatchEvent.transactions events) (missing : ⟨.receipt tx, .ok none⟩ ∈ xs) :
      OverheadPath c xs (.error (.failed f))
  | noEvents {current : Amount} {latest : Nat} (ns : List Notice) :
      OverheadPath c (batchReads c current latest [] [] ++ ns.map fun n => ⟨.note n, ()⟩)
        (.ok ⟨.overhead, current, none, .noOp .insufficientData, none⟩)
  | aimless {current : Amount} {latest : Nat} {events : List BatchEvent}
      {found : List (Hash × Receipt)} {reason : SkipReason} (ns : List Notice)
      (complete : found.map Prod.fst = BatchEvent.transactions events)
      (figures : overheadTarget (gasOf found) (BatchEvent.totalSize events) c.overheadRatio =
        .error reason) :
      OverheadPath c (batchReads c current latest events found ++ ns.map fun n => ⟨.note n, ()⟩)
        (.ok ⟨.overhead, current, none, .noOp reason, none⟩)
  | aimed {current target : Amount} {latest : Nat} {events : List BatchEvent}
      {found : List (Hash × Receipt)} {n : Notice} {zs : List (Exchange Query.Answer)}
      {r : Except Stop ParameterOutcome} (some_events : events ≠ [])
      (complete : found.map Prod.fst = BatchEvent.transactions events)
      (figures : overheadTarget (gasOf found) (BatchEvent.totalSize events) c.overheadRatio =
        .ok target)
      (move : Path (note n >>= fun _ => moveToward c.confirmationTimeout c.overhead .overhead
        current target Update.overhead) zs r) :
      OverheadPath c (batchReads c current latest events found ++ zs) r

theorem quiet_batchReads {current : Amount} {latest : Nat} {events : List BatchEvent}
    {found : List (Hash × Receipt)} : Quiet (batchReads c current latest events found) := by
  refine Quiet.append (by simp [Quiet, Query.isWriting]) ?_
  intro x hx
  obtain ⟨_, -, rfl⟩ := List.mem_map.1 hx
  rfl

theorem quiet_receipts {hashes : List Hash} {r : Except Stop (List (Option Receipt))}
    (h : Path (receipts hashes) xs r) : Quiet xs := by
  have hhonours : Honours (.asking fun q => q.isWriting = false) True (fun _ => True)
      (receipts hashes) := honours_receipts (fun _ => rfl) _
  exact hhonours.asks.path h

theorem overheadPath_updateOverhead {r : Except Stop ParameterOutcome}
    (h : Path (updateOverhead c) xs r) : OverheadPath c xs r := by
  rw [updateOverhead] at h
  rcases path_need_bind.1 h with ⟨e, hread, rfl⟩ | ⟨_, _, current, rfl, hread, h₁⟩ <;>
    obtain rfl := Dialogue.path_question.1 hread
  · exact .failed (by simp [Quiet, Query.isWriting]) (List.mem_singleton_self _) rfl .overhead
  rcases path_need_bind.1 h₁ with ⟨e, hread, rfl⟩ | ⟨_, _, latest, rfl, hread, h₂⟩ <;>
    obtain rfl := Dialogue.path_question.1 hread
  · exact .failed (x := ⟨.blockNumber, .error e⟩) (by simp [Quiet, Query.isWriting]) (by simp)
      rfl .blockNumber
  rcases path_need_bind.1 h₂ with ⟨e, hread, rfl⟩ | ⟨_, _, events, rfl, hread, h₃⟩ <;>
    obtain rfl := Dialogue.path_question.1 hread
  · exact .failed (x := ⟨.batchEvents (latest - c.overheadWindow) latest, .error e⟩)
      (by simp [Quiet, Query.isWriting]) (by simp) rfl .batchEvents
  simp only [← List.append_assoc]
  change OverheadPath c (batchReads c current latest events [] ++ _) r
  have hquiet : Quiet (batchReads c current latest events []) := quiet_batchReads
  have hevents : ⟨.batchEvents (latest - c.overheadWindow) latest, .ok events⟩ ∈
      batchReads c current latest events [] := by simp [batchReads]
  split at h₃
  · next hempty =>
    obtain rfl := List.isEmpty_iff.1 hempty
    obtain ⟨ys, rfl, h₄⟩ := path_note_bind.1 h₃
    obtain ⟨⟨n, rfl⟩, rfl⟩ := path_skip h₄
    exact .noEvents [_, n]
  next hsome =>
  rcases path_bind.1 h₃ with ⟨e, hreceipts, rfl⟩ | ⟨_, _, answers, rfl, hreceipts, h₄⟩
  · obtain ⟨tx, f, rfl, hmem⟩ := exists_of_path_receipts hreceipts
    exact .failed (hquiet.append (quiet_receipts hreceipts)) (List.mem_append_right _ hmem) rfl
      .receipt
  obtain ⟨hlength, hasked⟩ := path_receipts_ok hreceipts
  rcases path_bind.1 h₄ with ⟨e, hgas, rfl⟩ | ⟨_, _, gas, rfl, hgas, h₅⟩
  · obtain ⟨rfl, -⟩ := path_totalGas hgas
    obtain ⟨tx, hmem, rfl⟩ := exists_of_path_totalGas hgas
    rw [List.append_nil]
    refine .noReceipt (hquiet.append (quiet_receipts hreceipts)) (List.mem_append_left _ hevents)
      (List.of_mem_zip hmem).1 (List.mem_append_right _ ?_)
    rw [hasked]
    exact List.mem_map.2 ⟨_, hmem, rfl⟩
  obtain ⟨rfl, hknown⟩ := path_totalGas hgas
  obtain ⟨known, hzip, rfl⟩ := hknown gas rfl
  have hcomplete : known.map Prod.fst = BatchEvent.transactions events := by
    have := congrArg (List.map Prod.fst) hzip
    rw [List.map_fst_zip (Nat.le_of_eq hlength.symm)] at this
    rw [this, List.map_map]
    rfl
  rw [hzip, List.map_map] at hasked
  subst hasked
  rw [List.nil_append, ← List.append_assoc]
  change OverheadPath c (batchReads c current latest events known ++ _) r
  rcases hfigures : overheadTarget (gasOf known) (BatchEvent.totalSize events) c.overheadRatio
    with reason | target <;> simp only [hfigures] at h₅
  · obtain ⟨⟨n, rfl⟩, rfl⟩ := path_skip h₅
    exact .aimless [n] hcomplete hfigures
  · exact .aimed (by simpa [List.isEmpty_iff] using hsome) hcomplete hfigures h₅

theorem steered_updateOverhead {r : Except Stop ParameterOutcome}
    (h : Path (updateOverhead c) xs r) :
    Steered c book .overhead xs r.toOption := by
  cases overheadPath_updateOverhead h with
  | failed quiet | noReceipt quiet => exact steered_stop quiet
  | noEvents ns | aimless ns =>
    refine (quiet_batchReads.append (quiet_notes ns)).steered ?_ ?_
    · rintro o ⟨⟩
      rfl
    · rintro o ⟨⟩ v ⟨⟩
  | aimed some_events complete figures move =>
    exact steered_moveToward (.overhead some_events complete figures) rfl (fun _ => rfl) move

end Step
end RollupFees
