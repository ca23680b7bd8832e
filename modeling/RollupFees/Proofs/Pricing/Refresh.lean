import RollupFees.Proofs.History

/-!
# The last good prices

A refresh asks both feeds. What a feed answers may be an error, a number without a price, or a
number with one. Only the last is recorded, for its own pair, so that after any number of refreshes
the book holds for each pair the price of the last answer that had one, whatever the other feed has
answered in the meantime. The refresh itself fails if a pair was not recorded, with the failure of
the native pair if there is one.

## Main definitions

* `RefreshRecord`, `refreshes` : what is kept of a refresh, and of so many of them
* `quotes` : what the feed of a pair has answered
* `lastGood?`, `lastPrice?` : the last answer of a feed that had a price, and this price

## Main results

* `holds_lastPrice` : the book holds the last prices, and a refresh fails for a pair that it has not
  recorded
-/

namespace RollupFees

variable {σ : Type} {pair : Pair}

/-- What is kept of a refresh: the book it met, what was asked and answered, the book it left and
its failure. -/
structure RefreshRecord where
  before : PriceBook
  exchanges : List (Exchange Query.Answer)
  after : PriceBook
  failure : Option Failure

/-- What is kept of a refresh in surroundings. -/
def refreshRecord (env : Answerer Query.Answer σ) (book : PriceBook) (w : σ) : RefreshRecord :=
  ⟨book, (refreshPrices book).transcript env w, ((refreshPrices book).run env w).1.1,
    ((refreshPrices book).run env w).1.2⟩

/-- What is kept of so many refreshes, one after the other. -/
def refreshes (env : Answerer Query.Answer σ) : Nat → PriceBook → σ → List RefreshRecord
  | 0, _, _ => []
  | n + 1, book, w =>
    refreshRecord env book w ::
      refreshes env n (refreshRecord env book w).after ((refreshPrices book).run env w).2

/-- The answer of the feed of a pair, if that is what was asked for. -/
def Exchange.quote? (pair : Pair) : Exchange Query.Answer → Option (Except Failure RawPrice)
  | ⟨.latestAnswer other, fetched⟩ => if other = pair then some fetched else none
  | _ => none

/-- What the feed of a pair has answered. -/
def quotes (pair : Pair) (rs : List RefreshRecord) : List (Except Failure RawPrice) :=
  rs.flatMap fun r => r.exchanges.filterMap (Exchange.quote? pair)

/-- The answer, if there is one and it has a price. -/
def goodAnswer? : Except Failure RawPrice → Option RawPrice
  | .ok raw => if raw.normalize.isOk then some raw else none
  | .error _ => none

/-- The last answer of the feed of a pair that had a price. -/
def lastGood? (pair : Pair) (rs : List RefreshRecord) : Option RawPrice :=
  ((quotes pair rs).filterMap goodAnswer?).getLast?

/-- The price of the last answer that had one. -/
def lastPrice? (pair : Pair) (rs : List RefreshRecord) : Option Decimal :=
  (lastGood? pair rs).bind fun raw => raw.normalize.toOption

/-! ### Good answers -/

/-- An answer with a price is a good one. -/
theorem exists_goodAnswer? {fetched : Except Failure RawPrice} {v : Decimal}
    (h : PriceBook.judge fetched = .ok v) :
    ∃ raw, goodAnswer? fetched = some raw ∧ raw.normalize = .ok v := by
  rcases fetched with f | raw
  · cases h
  · have hprice : raw.normalize = .ok v := h
    refine ⟨raw, ?_, hprice⟩
    rw [goodAnswer?, hprice]
    rfl

/-- An answer without a price is not. -/
theorem goodAnswer?_eq_none {fetched : Except Failure RawPrice} {f : Failure}
    (h : PriceBook.judge fetched = .error f) : goodAnswer? fetched = none := by
  rcases fetched with e | raw
  · rfl
  · have hprice : raw.normalize = .error f := h
    rw [goodAnswer?, hprice]
    rfl

theorem Exchange.eq_of_quote? {x : Exchange Query.Answer} {fetched : Except Failure RawPrice}
    (h : x.quote? pair = some fetched) : x = ⟨.latestAnswer pair, fetched⟩ := by
  obtain ⟨q, a⟩ := x
  cases q <;> try cases h
  simp only [quote?] at h
  split at h
  · next hpair =>
    subst hpair
    rw [Option.some.inj h]
  · cases h

theorem quotes_append (pair : Pair) (rs rs' : List RefreshRecord) :
    quotes pair (rs ++ rs') = quotes pair rs ++ quotes pair rs' := List.flatMap_append

/-- One more answer is the last good one, if it is good. -/
theorem lastGood?_append {rs : List RefreshRecord} {r : RefreshRecord}
    {fetched : Except Failure RawPrice} (h : quotes pair [r] = [fetched]) :
    lastGood? pair (rs ++ [r]) = (goodAnswer? fetched).or (lastGood? pair rs) := by
  rw [lastGood?, quotes_append, h, List.filterMap_append, List.getLast?_append]
  cases hgood : goodAnswer? fetched <;> simp [hgood, lastGood?]

/-- The last good answer is one that the feed has given, and it has a price. -/
theorem mem_quotes_of_lastGood? {rs : List RefreshRecord} {raw : RawPrice}
    (h : lastGood? pair rs = some raw) : .ok raw ∈ quotes pair rs ∧ raw.normalize.isOk := by
  obtain ⟨fetched, hfetched, hgood⟩ := List.mem_filterMap.1 (List.mem_of_getLast? h)
  rcases fetched with f | answer
  · cases hgood
  · rw [goodAnswer?] at hgood
    split at hgood
    · next hprice =>
      obtain rfl := Option.some.inj hgood
      exact ⟨hfetched, hprice⟩
    · cases hgood

theorem value?_empty (pair : Pair) : PriceBook.empty.value? pair = lastPrice? pair [] := by
  cases pair <;> simp [PriceBook.value?, PriceBook.get?, PriceBook.empty, lastPrice?, lastGood?,
    quotes]

/-! ### One refresh -/

namespace PriceBook

variable {book : PriceBook}

@[simp] theorem get?_take (pair other : Pair) (fetched : Except Failure RawPrice)
    (now : Timestamp) : (book.take pair fetched now).get? other =
      match judge fetched with
      | .ok v => if other = pair then some ⟨v, now⟩ else book.get? other
      | .error _ => book.get? other := by
  rw [take]
  cases judge fetched with
  | ok v => exact get?_record ..
  | error f => rfl

/-- What a refresh leaves of a pair depends on the answer for this pair alone. -/
theorem get?_refresh (told : Pair → Except Failure RawPrice) (now : Timestamp) (pair : Pair) :
    (book.refresh (told .native) (told .secondary) now).get? pair =
      match judge (told pair) with
      | .ok v => some ⟨v, now⟩
      | .error _ => book.get? pair := by
  rw [refresh, get?_take, get?_take]
  cases pair <;> cases judge (told .native) <;> cases judge (told .secondary) <;> rfl

theorem refreshFailure?_eq_none_iff {native secondary : Except Failure RawPrice} :
    refreshFailure? native secondary = none ↔
      (∃ v, judge native = .ok v) ∧ ∃ v, judge secondary = .ok v := by
  rw [refreshFailure?]
  cases judge native <;> cases judge secondary <;> simp

theorem refreshFailure?_eq_some_iff {native secondary : Except Failure RawPrice} {f : Failure} :
    refreshFailure? native secondary = some f ↔
      judge native = .error f ∨ (∃ v, judge native = .ok v) ∧ judge secondary = .error f := by
  rw [refreshFailure?]
  cases judge native <;> cases judge secondary <;> simp

end PriceBook

namespace RefreshRecord

variable {r : RefreshRecord} {told : Pair → Except Failure RawPrice} {now : Timestamp}

/-- Both feeds have answered, and the clock. What was made of the answers is in the record. -/
structure Answered (r : RefreshRecord) (told : Pair → Except Failure RawPrice)
    (now : Timestamp) : Prop where
  quotes : ∀ pair, RollupFees.quotes pair [r] = [told pair]
  clock : ⟨.now, now⟩ ∈ r.exchanges
  after : r.after = r.before.refresh (told .native) (told .secondary) now
  failure : r.failure = PriceBook.refreshFailure? (told .native) (told .secondary)

/-- A pair is recorded: the book has the price of its answer, with the time of the refresh. -/
def Records (r : RefreshRecord) (told : Pair → Except Failure RawPrice) (now : Timestamp)
    (pair : Pair) : Prop :=
  ∃ v, PriceBook.judge (told pair) = .ok v ∧ r.after.get? pair = some ⟨v, now⟩

namespace Answered

theorem records_iff (h : r.Answered told now) :
    r.Records told now pair ↔ ∃ v, PriceBook.judge (told pair) = .ok v := by
  constructor
  · rintro ⟨v, hv, -⟩
    exact ⟨v, hv⟩
  · rintro ⟨v, hv⟩
    refine ⟨v, hv, ?_⟩
    rw [h.after, PriceBook.get?_refresh, hv]

/-- A pair that is not recorded is left as it is. -/
theorem get?_of_judge_error (h : r.Answered told now) {f : Failure}
    (hf : PriceBook.judge (told pair) = .error f) : r.after.get? pair = r.before.get? pair := by
  rw [h.after, PriceBook.get?_refresh, hf]

/-- A refresh fails unless it has recorded both pairs. -/
theorem failure_eq_none_iff (h : r.Answered told now) :
    r.failure = none ↔ ∀ pair, r.Records told now pair := by
  simp only [h.failure, PriceBook.refreshFailure?_eq_none_iff, h.records_iff]
  constructor
  · rintro ⟨hnative, hsecondary⟩ (_ | _)
    · exact hnative
    · exact hsecondary
  · exact fun hall => ⟨hall .native, hall .secondary⟩

/-- **What one refresh preserves.** If the book held the last prices, it holds them afterwards. -/
theorem value?_eq_lastPrice? (h : r.Answered told now) {rs : List RefreshRecord}
    (hbefore : ∀ pair, r.before.value? pair = lastPrice? pair rs) (pair : Pair) :
    r.after.value? pair = lastPrice? pair (rs ++ [r]) := by
  rw [lastPrice?, lastGood?_append (h.quotes pair), PriceBook.value?]
  cases hjudge : PriceBook.judge (told pair) with
  | ok v =>
    obtain ⟨raw, hgood, hprice⟩ := exists_goodAnswer? hjudge
    rw [h.after, PriceBook.get?_refresh, hjudge, hgood, Option.some_or, Option.bind_some, hprice]
    rfl
  | error f =>
    rw [h.get?_of_judge_error hjudge, goodAnswer?_eq_none hjudge, Option.none_or]
    exact hbefore pair

end Answered
end RefreshRecord

/-- A refresh asks both feeds and the clock, writes its notes and records what it was told. -/
theorem exists_of_path_refreshPrices {book : PriceBook} {xs : List (Exchange Query.Answer)}
    {y : PriceBook × Option Failure} (h : (refreshPrices book).Path xs y) :
    ∃ native secondary now ns, xs = ⟨.latestAnswer .native, native⟩ ::
        ⟨.latestAnswer .secondary, secondary⟩ :: ⟨.now, now⟩ ::
        List.map (fun n => ⟨.note n, ()⟩) ns ∧
      y = (book.refresh native secondary now, PriceBook.refreshFailure? native secondary) := by
  obtain ⟨_, _, native, rfl, hnative, h₁⟩ := Dialogue.path_bind.1 h
  obtain ⟨_, _, secondary, rfl, hsecondary, h₂⟩ := Dialogue.path_bind.1 h₁
  obtain ⟨_, _, now, rfl, hnow, h₃⟩ := Dialogue.path_bind.1 h₂
  obtain ⟨_, _, _, rfl, hnotes, rfl, rfl⟩ := Dialogue.path_bind.1 h₃
  obtain rfl := Dialogue.path_question.1 hnative
  obtain rfl := Dialogue.path_question.1 hsecondary
  obtain rfl := Dialogue.path_question.1 hnow
  obtain ⟨rfl, -⟩ := Step.path_notes.1 hnotes
  exact ⟨native, secondary, now, _, by rw [List.append_nil]; rfl, rfl⟩

/-- One thing for each pair. -/
def Pair.choose {α : Type} (native secondary : α) : Pair → α
  | .native => native
  | .secondary => secondary

/-- Every way through a refresh leads along an answer of each feed and of the clock. -/
theorem answered_of_path {r : RefreshRecord}
    (h : (refreshPrices r.before).Path r.exchanges (r.after, r.failure)) :
    ∃ told now, r.Answered told now := by
  obtain ⟨native, secondary, now, ns, hxs, hresult⟩ := exists_of_path_refreshPrices h
  refine ⟨Pair.choose native secondary, now, ?_, ?_, ?_, ?_⟩
  · intro pair
    rw [quotes, List.flatMap_singleton, hxs]
    cases pair <;> simp [Exchange.quote?, Pair.choose]
  · simp [hxs]
  · exact (Prod.mk.inj hresult).1
  · exact (Prod.mk.inj hresult).2

/-! ### All refreshes -/

variable (env : Answerer Query.Answer σ)

/-- A record is that of a refresh. -/
theorem path_refreshRecord (book : PriceBook) (w : σ) :
    (refreshPrices book).Path (refreshRecord env book w).exchanges
      ((refreshRecord env book w).after, (refreshRecord env book w).failure) :=
  Dialogue.path_run env (refreshPrices book) w

theorem path_of_mem_refreshes {n : Nat} {book : PriceBook} {w : σ} {r : RefreshRecord}
    (h : r ∈ refreshes env n book w) :
    (refreshPrices r.before).Path r.exchanges (r.after, r.failure) := by
  induction n generalizing book w with
  | zero => cases h
  | succ n ih =>
    rcases List.mem_cons.1 h with rfl | h
    · exact path_refreshRecord env book w
    · exact ih h

theorem length_refreshes (n : Nat) (book : PriceBook) (w : σ) :
    (refreshes env n book w).length = n := by
  induction n generalizing book w with
  | zero => rfl
  | succ n ih => exact congrArg Nat.succ (ih _ _)

/-- What every refresh preserves, with the records so far as part of it, holds before and after each
of them. -/
theorem refreshes_induction {I : PriceBook → List RefreshRecord → Prop}
    (hstep : ∀ r rs, (refreshPrices r.before).Path r.exchanges (r.after, r.failure) →
      I r.before rs → I r.after (rs ++ [r])) :
    ∀ n book w rs, I book rs → ∀ earlier r later,
      refreshes env n book w = earlier ++ r :: later →
        I r.before (rs ++ earlier) ∧ I r.after (rs ++ earlier ++ [r]) := by
  intro n
  induction n with
  | zero =>
    intro book w rs _ earlier r later hsplit
    cases earlier <;> cases hsplit
  | succ n ih =>
    intro book w rs hbook earlier r later hsplit
    rw [refreshes] at hsplit
    have hfirst := hstep (refreshRecord env book w) rs (path_refreshRecord env book w) hbook
    rcases earlier with _ | ⟨first, earlier⟩
    · obtain ⟨rfl, -⟩ := List.cons.inj hsplit
      rw [List.append_nil]
      exact ⟨hbook, hfirst⟩
    · obtain ⟨rfl, hrest⟩ := List.cons.inj hsplit
      have := ih _ _ _ hfirst earlier r later hrest
      simpa only [List.append_assoc, List.singleton_append] using this

theorem answered_of_mem_refreshes {n : Nat} {book : PriceBook} {w : σ} {r : RefreshRecord}
    (h : r ∈ refreshes env n book w) : ∃ told now, r.Answered told now :=
  answered_of_path (path_of_mem_refreshes env h)

/-- Before and after every refresh the book holds the last prices. -/
theorem value?_of_refreshes {n : Nat} {w : σ} {earlier later : List RefreshRecord}
    {r : RefreshRecord} (h : refreshes env n .empty w = earlier ++ r :: later) :
    (∀ pair, r.before.value? pair = lastPrice? pair earlier) ∧
      ∀ pair, r.after.value? pair = lastPrice? pair (earlier ++ [r]) :=
  refreshes_induction env (I := fun book rs => ∀ pair, book.value? pair = lastPrice? pair rs)
    (fun r rs hpath hbefore => by
      obtain ⟨told, now, hanswered⟩ := answered_of_path hpath
      exact hanswered.value?_eq_lastPrice? hbefore)
    n .empty w [] value?_empty earlier r later h

/-- **The book holds the last good prices.** Take any surroundings, and any number of refreshes from
an empty book. Before and after each of them the book has for each pair the price of the last answer
of its feed that could be fetched and had a price, and nothing if there was none. A refresh asks
each feed once. It succeeds exactly if both pairs are recorded in it, and otherwise fails with the
failure of the native pair, or with that of the secondary pair if the native one is recorded. -/
theorem holds_lastPrice (n : Nat) (w : σ) :
    (refreshes env n .empty w).length = n ∧
    ∀ earlier r later, refreshes env n .empty w = earlier ++ r :: later →
      (∀ pair, r.before.value? pair = lastPrice? pair earlier ∧
        r.after.value? pair = lastPrice? pair (earlier ++ [r])) ∧
      ∃ told now, r.Answered told now ∧
        (∀ pair f, PriceBook.judge (told pair) = .error f →
          r.after.get? pair = r.before.get? pair) ∧
        (r.failure = none ↔ ∀ pair, r.Records told now pair) ∧
        ∀ f, r.failure = some f ↔ PriceBook.judge (told .native) = .error f ∨
          r.Records told now .native ∧ PriceBook.judge (told .secondary) = .error f := by
  refine ⟨length_refreshes env n .empty w, fun earlier r later hsplit => ⟨?_, ?_⟩⟩
  · obtain ⟨hbefore, hafter⟩ := value?_of_refreshes env hsplit
    exact fun pair => ⟨hbefore pair, hafter pair⟩
  · have hmem : r ∈ refreshes env n .empty w := hsplit ▸ List.mem_append_right _ List.mem_cons_self
    obtain ⟨told, now, hanswered⟩ := answered_of_mem_refreshes env hmem
    refine ⟨told, now, hanswered, fun pair f => hanswered.get?_of_judge_error,
      hanswered.failure_eq_none_iff, fun f => ?_⟩
    rw [hanswered.failure, PriceBook.refreshFailure?_eq_some_iff, hanswered.records_iff]

/-- Feeds that tell both prices once. Then the native one is not reached, and the secondary one
tells a number with more decimals than can be converted. -/
def falteringFeeds : Answerer Query.Answer Nat where
  answer q n :=
    match q with
    | .latestAnswer .native =>
      (if n = 0 then .ok ⟨.clamp 200, 2⟩ else .error (.rpc "latestAnswer" "refused"), n)
    | .latestAnswer .secondary => (.ok ⟨.clamp 750000, if n = 0 then 6 else 255⟩, n)
    | .now => (Timestamp.epoch, n + 1)
    | q => (q.refused, n)

/-- Both prices outlive a failure, be it of the fetch or of the conversion. -/
theorem holds_lastPrice_faltering : ∃ first second,
    refreshes falteringFeeds 2 .empty 0 = [first] ++ second :: [] ∧
      first.failure = none ∧ second.failure = some (.rpc "latestAnswer" "refused") ∧
      second.after.value? .native = lastPrice? .native [first, second] ∧
      second.after.value? .secondary = lastPrice? .secondary [first, second] ∧
      lastGood? .native [first, second] = some ⟨.clamp 200, 2⟩ ∧
      lastGood? .secondary [first, second] = some ⟨.clamp 750000, 6⟩ := by
  let first := refreshRecord falteringFeeds .empty 0
  let second := refreshRecord falteringFeeds first.after
    ((refreshPrices .empty).run falteringFeeds 0).2
  have hsplit : refreshes falteringFeeds 2 .empty 0 = [first] ++ second :: [] := rfl
  have hholds := ((holds_lastPrice falteringFeeds 2 0).2 _ _ _ hsplit).1
  exact ⟨first, second, hsplit, by decide +kernel, by decide +kernel, (hholds .native).2,
    (hholds .secondary).2, by decide +kernel, by decide +kernel⟩

end RollupFees
