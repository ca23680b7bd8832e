import RollupFees.Node.View
import RollupFees.Proofs.Pricing.Feeds

/-!
# What an aggregator is asked

An aggregator is asked for its decimals in each call until it has told them, and never again. A call
in which they stay unknown asks for nothing else. So the state of a feed is no more than the first
decimals that its contract has told, and every price goes with these decimals and with the answer of
its own call.

The answers of an aggregator are signed integers of 256 bits. A positive one is below half of the
largest amount, and taking it for an amount loses nothing.

## Main definitions

* `Feed.calls` : what is kept of calls of one feed, one after the other
* `Feed.decimals?` : the first decimals that a contract has told in some calls
* `Feed.Course` : the ways in which a call of an aggregator may go
* `Node.contract` : the contract behind a node, as a feed meets it

## Main results

* `Feed.course_of_path` : a call goes in one of these ways
* `Feed.asks_until_told` : decimals are asked for until they are told, and prices go with them
-/

namespace RollupFees

variable {σ : Type}

namespace Feed

/-! ### Calls -/

/-- What is kept of a call of a feed: the feed that was called, what its contract was asked, what
came of it, and the feed that is left. -/
structure CallRecord where
  met : Feed
  exchanges : List (Exchange Question.Answer)
  quote : Except Failure RawPrice
  left : Feed

/-- What is kept of one call. -/
def callRecord (contract : Answerer Question.Answer σ) (feed : Feed) (w : σ) : CallRecord :=
  ⟨feed, feed.latest.transcript contract w, (feed.latest.run contract w).1.1,
    (feed.latest.run contract w).1.2⟩

/-- What is kept of so many calls of a feed, one after the other. -/
def calls (contract : Answerer Question.Answer σ) : ℕ → Feed → σ → List CallRecord
  | 0, _, _ => []
  | n + 1, feed, w =>
    callRecord contract feed w ::
      calls contract n (callRecord contract feed w).left (feed.latest.run contract w).2

/-- The decimals that an exchange tells. -/
def told? : Exchange Question.Answer → Option ℕ
  | ⟨.decimals, .ok d⟩ => some d
  | _ => none

/-- The first decimals that have been told in some calls. -/
def decimals? (records : List CallRecord) : Option ℕ :=
  (records.flatMap CallRecord.exchanges).findSome? told?

/-- Whether a request came to nothing. -/
def hasFailed : Exchange Question.Answer → Bool
  | ⟨.decimals, .error _⟩ | ⟨.latestAnswer, .error _⟩ | ⟨.lastPrice, .error _⟩ => true
  | _ => false

/-- The answers of an aggregator are signed integers of 256 bits. -/
def IsSigned (contract : Answerer Question.Answer σ) : Prop :=
  ∀ w (a : ℤ), (contract.answer .latestAnswer w).1 = .ok a → -2 ^ 255 ≤ a ∧ a < 2 ^ 255

theorem decimals?_append (records : List CallRecord) (record : CallRecord) :
    decimals? (records ++ [record]) =
      (decimals? records).or (record.exchanges.findSome? told?) := by
  simp [decimals?, List.flatMap_append, List.findSome?_append]

/-! ### The ways of a call -/

/-- The ways in which a call of an aggregator may go, with the decimals that are known before and
after it: they are not told, or told in this call, or known from an earlier one. -/
inductive Course : Option ℕ → List (Exchange Question.Answer) → Except Failure RawPrice →
    Option ℕ → Prop
  | untold (f : Failure) : Course none [⟨.decimals, .error f⟩] (.error f) none
  | told (d : ℕ) (answer : Except Failure ℤ) :
    Course none [⟨.decimals, .ok d⟩, ⟨.latestAnswer, answer⟩]
      ((answer.bind positive).map (⟨·, d⟩)) (some d)
  | known (d : ℕ) (answer : Except Failure ℤ) :
    Course (some d) [⟨.latestAnswer, answer⟩] ((answer.bind positive).map (⟨·, d⟩)) (some d)

variable {known now : Option ℕ} {later : Feed} {xs : List (Exchange Question.Answer)}
  {quote : Except Failure RawPrice}

/-- **A call of an aggregator goes in one of these ways.** -/
theorem course_of_path (h : (latest (.aggregator known)).Path xs (quote, later)) :
    ∃ now, later = .aggregator now ∧ Course known xs quote now := by
  cases known with
  | some d =>
    rw [latest, tellDecimals_some, Dialogue.done_bind] at h
    obtain ⟨_, _, answer, rfl, hasked, rfl, hresult⟩ := Dialogue.path_bind.1 h
    obtain rfl := Dialogue.path_question.1 hasked
    obtain ⟨rfl, rfl⟩ := Prod.mk.inj hresult
    exact ⟨some d, rfl, .known d answer⟩
  | none =>
    obtain ⟨ys, zs, decimals, rfl, hdecimals, hrest⟩ := Dialogue.path_bind.1 h
    obtain rfl := Dialogue.path_question.1 hdecimals
    rcases decimals with f | d
    · obtain ⟨rfl, hresult⟩ := hrest
      obtain ⟨rfl, rfl⟩ := Prod.mk.inj hresult
      exact ⟨none, rfl, .untold f⟩
    · obtain ⟨us, vs, answer, rfl, hasked, rfl, hresult⟩ := Dialogue.path_bind.1 hrest
      obtain rfl := Dialogue.path_question.1 hasked
      obtain ⟨rfl, rfl⟩ := Prod.mk.inj hresult
      exact ⟨some d, rfl, .told d answer⟩

namespace Course

/-- What is known afterwards is what was known before, or what has been told. -/
theorem now_eq (h : Course known xs quote now) : now = known.or (xs.findSome? told?) := by
  cases h <;> rfl

/-- The decimals are asked for if they are not known, and the answer once they are. -/
theorem questions_eq (h : Course known xs quote now) : xs.map Exchange.question =
    (if known = none then [.decimals] else []) ++ if now = none then [] else [.latestAnswer] := by
  cases h <;> rfl

end Course

/-- A positive answer is the amount itself. -/
theorem toNat_of_positive {a : ℤ} {v : Amount} (h : positive a = .ok v) (ha : a < 2 ^ 255) :
    0 < a ∧ (v.toNat : ℤ) = a := by
  unfold positive at h
  split at h
  · cases h
  · next hpos =>
    obtain rfl := Except.ok.inj h
    rw [Amount.toNat_clamp, Amount.maxNat]
    omega

/-- An answer has a price exactly if it arrived and is positive. -/
theorem fails_iff {answer : Except Failure ℤ} {d : ℕ} :
    (∃ f, (answer.bind positive).map (RawPrice.mk · d) = .error f) ↔
      hasFailed ⟨.latestAnswer, answer⟩ = true ∨ ∃ a ≤ 0, answer = .ok a := by
  rcases answer with f | a
  · exact iff_of_true ⟨f, rfl⟩ (.inl rfl)
  · by_cases ha : a ≤ 0
    · obtain ⟨f, hf⟩ := positive_of_not_pos ha
      refine iff_of_true ⟨f, ?_⟩ (.inr ⟨a, ha, rfl⟩)
      rw [Except.bind, hf]
      rfl
    · have hprice : (Except.ok a : Except Failure ℤ).bind positive =
          .ok (Amount.clamp a.toNat) := if_neg ha
      rw [hprice]
      simp [Except.map, hasFailed, ha]

namespace Course

/-- A call fails exactly if a request failed, or the answer is not positive. -/
theorem fails_iff (h : Course known xs quote now) : (∃ f, quote = .error f) ↔
    (∃ x ∈ xs, hasFailed x = true) ∨ ∃ a ≤ 0, ⟨.latestAnswer, .ok a⟩ ∈ xs := by
  cases h with
  | untold f => exact iff_of_true ⟨f, rfl⟩ (.inl ⟨_, List.mem_singleton_self _, rfl⟩)
  | told d answer =>
    rw [Feed.fails_iff]
    simp [hasFailed, @eq_comm _ answer]
  | known d answer =>
    rw [Feed.fails_iff]
    simp [hasFailed, @eq_comm _ answer]

/-- A price goes with the decimals that are known and with the answer of the call. -/
theorem price_eq (h : Course known xs quote now)
    (hsigned : ∀ a : ℤ, ⟨.latestAnswer, .ok a⟩ ∈ xs → a < 2 ^ 255) {raw : RawPrice}
    (hquote : quote = .ok raw) :
    now = some raw.decimals ∧ ⟨.latestAnswer, .ok (raw.answer.toNat : ℤ)⟩ ∈ xs ∧
      1 ≤ raw.answer.toNat ∧ raw.answer.toNat ≤ 2 ^ 255 - 1 := by
  have hanswer : ∃ (d : ℕ) (answer : Except Failure ℤ), now = some d ∧
      ⟨.latestAnswer, answer⟩ ∈ xs ∧ (answer.bind positive).map (⟨·, d⟩) = .ok raw := by
    cases h with
    | untold f => cases hquote
    | told d answer => exact ⟨d, answer, rfl, by simp, hquote⟩
    | known d answer => exact ⟨d, answer, rfl, by simp, hquote⟩
  obtain ⟨d, answer, hnow, hmem, hprice⟩ := hanswer
  rcases answer with f | a
  · cases hprice
  cases hpositive : positive a with
  | error f =>
    rw [Except.bind, hpositive] at hprice
    cases hprice
  | ok v =>
    rw [Except.bind, hpositive] at hprice
    obtain rfl := Except.ok.inj hprice
    obtain ⟨hpos, hvalue⟩ := toNat_of_positive hpositive (hsigned a hmem)
    have hbelow := hsigned a hmem
    refine ⟨hnow, hvalue ▸ hmem, ?_, ?_⟩ <;> dsimp only <;> omega

end Course

/-! ### Calls of one aggregator -/

section Calls

variable {contract : Answerer Question.Answer σ} {w : σ}

theorem length_calls (n : ℕ) (feed : Feed) (w : σ) : (calls contract n feed w).length = n := by
  induction n generalizing feed w with
  | zero => rfl
  | succ n ih => exact congrArg Nat.succ (ih _ _)

/-- A call that ends in some way is kept so, and the calls after it go on from its end. -/
theorem calls_succ_of_run {feed left : Feed} {quote : Except Failure RawPrice} {w' : σ}
    (h : feed.latest.run contract w = ((quote, left), w')) (n : ℕ) :
    calls contract (n + 1) feed w =
      ⟨feed, feed.latest.transcript contract w, quote, left⟩ :: calls contract n left w' := by
  rw [calls, callRecord, h]

/-- What the answers of a contract are like, those in a call are like. -/
theorem IsSigned.of_mem_transcript (hsigned : IsSigned contract) (feed : Feed) (w : σ) {a : ℤ}
    (h : ⟨.latestAnswer, .ok a⟩ ∈ feed.latest.transcript contract w) : a < 2 ^ 255 := by
  let P : Exchange Question.Answer → Prop := fun x =>
    ∀ a : ℤ, x = ⟨.latestAnswer, .ok a⟩ → a < 2 ^ 255
  have henv : ∀ q w, True → P ⟨q, (contract.answer q w).1⟩ ∧ True := by
    rintro q w -
    refine ⟨fun a ha => ?_, trivial⟩
    cases q with
    | latestAnswer =>
      exact (hsigned w a (eq_of_heq (Exchange.mk.inj ha).2)).2
    | _ => cases ha
  exact ((feed.latest.forall_mem_transcript henv w trivial).1 _ h) a rfl

/-- Every call of an aggregator goes in one of its ways, from what has been told before to what has
been told by then. -/
theorem course_of_calls (hsigned : IsSigned contract) (n : ℕ) (known : Option ℕ) (w : σ)
    {earlier later : List CallRecord} {record : CallRecord}
    (h : calls contract n (.aggregator known) w = earlier ++ record :: later) :
    record.met = .aggregator (known.or (decimals? earlier)) ∧
      ∃ now, record.left = .aggregator now ∧
        Course (known.or (decimals? earlier)) record.exchanges record.quote now ∧
        ∀ a : ℤ, ⟨.latestAnswer, .ok a⟩ ∈ record.exchanges → a < 2 ^ 255 := by
  induction n generalizing known w earlier with
  | zero => cases earlier <;> cases h
  | succ n ih =>
    rw [calls] at h
    have hpath := Dialogue.path_run contract (latest (.aggregator known)) w
    obtain ⟨now, hleft, hcourse⟩ := course_of_path hpath
    rcases earlier with _ | ⟨first, earlier⟩
    · obtain ⟨rfl, -⟩ := List.cons.inj h
      rw [show decimals? [] = none from rfl, Option.or_none]
      exact ⟨rfl, now, hleft, hcourse, fun a => hsigned.of_mem_transcript _ _⟩
    · obtain ⟨rfl, hrest⟩ := List.cons.inj h
      rw [show (callRecord contract (.aggregator known) w).left = .aggregator now from hleft]
        at hrest
      have htold : known.or (decimals? (callRecord contract (.aggregator known) w :: earlier)) =
          now.or (decimals? earlier) := by
        rw [hcourse.now_eq, Option.or_assoc]
        simp [decimals?, List.findSome?_append, callRecord]
      rw [htold]
      exact ih now _ hrest

/-- **An aggregator is asked for its decimals until they are told.** Take a contract whose answers
are signed integers of 256 bits, and which answers or fails in any way, and any number of calls of
one feed. The feed knows the first decimals that the contract has told so far, and whatever is told
later these stay. A call asks for the decimals, once, if none have been told before, and then for
the answer, once, if some have been told by now. A price has the first decimals that were told and
the answer of its own call, which is positive and below `2 ^ 255`. A call fails exactly if one of
its requests failed, or its answer is not positive. -/
theorem asks_until_told (hsigned : IsSigned contract) (n : ℕ) (w : σ) :
    (calls contract n (.aggregator none) w).length = n ∧
    ∀ (earlier : List CallRecord) (record : CallRecord) (later : List CallRecord),
      calls contract n (.aggregator none) w = earlier ++ record :: later →
      record.met = .aggregator (decimals? earlier) ∧
      record.left = .aggregator (decimals? (earlier ++ [record])) ∧
      (∀ d, decimals? earlier = some d → decimals? (earlier ++ [record]) = some d) ∧
      record.exchanges.map Exchange.question =
        (if decimals? earlier = none then [.decimals] else []) ++
          (if decimals? (earlier ++ [record]) = none then [] else [.latestAnswer]) ∧
      (∀ raw : RawPrice, record.quote = .ok raw →
        decimals? (earlier ++ [record]) = some raw.decimals ∧
        ⟨.latestAnswer, .ok (raw.answer.toNat : ℤ)⟩ ∈ record.exchanges ∧
        1 ≤ raw.answer.toNat ∧ raw.answer.toNat ≤ 2 ^ 255 - 1) ∧
      ((∃ f, record.quote = .error f) ↔
        (∃ x ∈ record.exchanges, hasFailed x = true) ∨
          ∃ a : ℤ, a ≤ 0 ∧ ⟨.latestAnswer, .ok a⟩ ∈ record.exchanges) := by
  refine ⟨length_calls n _ w, fun earlier record later h => ?_⟩
  obtain ⟨hmet, now, hleft, hcourse, hbelow⟩ := course_of_calls hsigned n none w h
  rw [Option.none_or] at hmet hcourse
  have hnow : now = decimals? (earlier ++ [record]) := by
    rw [hcourse.now_eq, decimals?_append]
  subst hnow
  refine ⟨hmet, hleft, fun d hd => ?_, hcourse.questions_eq,
    fun raw => hcourse.price_eq hbelow, hcourse.fails_iff⟩
  rw [decimals?_append, hd, Option.some_or]

end Calls

end Feed

/-! ### Contracts behind nodes -/

theorem bytesToNat_lt (bytes : List UInt8) : bytesToNat bytes < 256 ^ bytes.length := by
  induction bytes using List.reverseRecOn with
  | nil => decide
  | append_singleton bytes b ih =>
    have hbyte := b.toNat_lt
    have hlast : bytesToNat (bytes ++ [b]) = 256 * bytesToNat bytes + b.toNat := by
      simp [bytesToNat, List.foldl_append]
    rw [hlast, List.length_append, List.length_singleton, pow_succ]
    omega

/-- A number with a sign that is read from data has 256 bits. -/
theorem Abi.bounds_of_asSigned {data : List UInt8} {a : ℤ} (h : Abi.asSigned data = .ok a) :
    -2 ^ 255 ≤ a ∧ a < 2 ^ 255 := by
  rw [Abi.asSigned, Abi.read] at h
  split at h
  · cases h
  · cases hword : Abi.wordAt? data 0 with
    | none =>
      rw [hword] at h
      cases h
    | some n =>
      rw [hword] at h
      obtain rfl := Except.ok.inj h
      have hn : n < 2 ^ 256 := by
        unfold Abi.wordAt? at hword
        split at hword
        · next hlong =>
          obtain rfl := Option.some.inj hword
          have hbytes := bytesToNat_lt ((data.drop 0).take 32)
          rw [List.length_take_of_le (by rw [List.length_drop]; omega)] at hbytes
          exact hbytes
        · cases hword
      dsimp only
      split <;> omega

namespace Node

variable {env : Answerer (fun _ : Request => Reply) σ} {limit : Duration} {target : Address}

/-- The contract behind a node, as a feed meets it: a request may lead to a value, be refused, or
run out of time. -/
def contract (env : Answerer (fun _ : Request => Reply) σ) (limit : Duration) (target : Address) :
    Answerer Feed.Question.Answer σ :=
  ⟨fun q w => (feed limit target q).run env w⟩

/-- What a contract gives under a time limit is what the exchange with it gives. -/
theorem run_contractCall_eq_ok {α : Type} {call : String} {e : Exchange α} {w : σ} {a : α}
    (h : ((contractCall call limit e).run env w).1 = .ok a) :
    (e.outcome.run env w).1 = .ok a := by
  rw [contractCall, Dialogue.run_bind] at h
  generalize (e.outcome.run env w).1 = r at h ⊢
  cases r with
  | ok b => exact congrArg Except.ok (Except.ok.inj h)
  | error f => cases f <;> cases h

/-- A value that an exchange leads to by a reading of data has been read from some data. -/
theorem exists_decode_of_run {α : Type} {e : Exchange (List UInt8)}
    {decode : List UInt8 → Except Abi.Fault α} {w : σ} {a : α}
    (h : ((e >>= fun bytes => decoded (decode bytes) : Exchange α).outcome.run env w).1 = .ok a) :
    ∃ bytes, decode bytes = .ok a := by
  have hbind : ((e >>= fun bytes => decoded (decode bytes) : Exchange α).outcome.run env w) =
      (ExceptT.bindCont (fun bytes => decoded (decode bytes)) (e.outcome.run env w).1).run env
        (e.outcome.run env w).2 :=
    Dialogue.run_bind env e.run _ w
  rw [hbind] at h
  generalize (e.outcome.run env w).1 = r at h
  rcases r with f | bytes
  · cases h
  · refine ⟨bytes, ?_⟩
    cases hdecode : decode bytes with
    | ok b =>
      rw [ExceptT.bindCont, hdecode] at h
      exact congrArg Except.ok (Except.ok.inj h)
    | error f =>
      rw [ExceptT.bindCont, hdecode] at h
      cases h

/-- Whatever a node replies, the contract behind it answers with signed integers of 256 bits. -/
theorem isSigned_contract : Feed.IsSigned (contract env limit target) := by
  intro w a h
  obtain ⟨bytes, hbytes⟩ := exists_decode_of_run (run_contractCall_eq_ok h)
  exact Abi.bounds_of_asSigned hbytes

end Node

/-- A node that is silent at first, and then tells eight decimals, a negative answer and a positive
one. -/
def fitfulNode : Answerer (fun _ : Node.Request => Node.Reply) ℕ where
  answer _ n :=
    (match n with
      | 0 => .silent
      | 1 => .result (.string (Node.bytesText (Abi.word 8)))
      | 2 => .result (.string (Node.bytesText (Abi.word (2 ^ 256 - 1))))
      | _ => .result (.string (Node.bytesText (Abi.word 150000000))), n + 1)

/-- The contract behind such a node. -/
def fitfulContract : Answerer Feed.Question.Answer ℕ :=
  Node.contract fitfulNode (.seconds 1) Address.zero

/-- Three calls behind this node: what comes of them, the feed that is left, and how often the node
has been asked by then. -/
theorem run_fitful :
    (Feed.latest (.aggregator none)).run fitfulContract 0 =
      ((.error (.timeout "decimals" (.seconds 1)), .aggregator none), 1) ∧
    (Feed.latest (.aggregator none)).run fitfulContract 1 =
      ((.error (.contract "latestAnswer" "non-positive answer -1"), .aggregator (some 8)), 3) ∧
    (Feed.latest (.aggregator (some 8))).run fitfulContract 3 =
      ((.ok ⟨Amount.clamp 150000000, 8⟩, .aggregator (some 8)), 4) := by
  decide +kernel

/-- A call without decimals and one without a price, and then a price with the decimals that have
been told before. -/
theorem asks_until_told_fitful : Feed.IsSigned fitfulContract ∧
    ∃ first second third : Feed.CallRecord,
    Feed.calls fitfulContract 3 (.aggregator none) 0 = [first, second] ++ third :: [] ∧
    first.quote = .error (.timeout "decimals" (.seconds 1)) ∧
    second.quote = .error (.contract "latestAnswer" "non-positive answer -1") ∧
    third.quote = .ok ⟨Amount.clamp 150000000, 8⟩ ∧ third.left = .aggregator (some 8) ∧
    third.exchanges.map Exchange.question = [.latestAnswer] := by
  have hsigned : Feed.IsSigned fitfulContract := Node.isSigned_contract
  obtain ⟨hfirst, hsecond, hthird⟩ := run_fitful
  have hsplit := Feed.calls_succ_of_run hfirst 2
  rw [Feed.calls_succ_of_run hsecond 1, Feed.calls_succ_of_run hthird 0, Feed.calls] at hsplit
  obtain ⟨hmet, -, -, hasked, hprice, -⟩ :=
    (Feed.asks_until_told hsigned 3 0).2 [_, _] _ [] hsplit
  rw [(hprice _ rfl).1, ← (Feed.aggregator.inj hmet : some 8 = _)] at hasked
  exact ⟨hsigned, _, _, _, hsplit, rfl, rfl, rfl, rfl, hasked⟩

end RollupFees
