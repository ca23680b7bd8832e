import RollupFees.Feed
import RollupFees.Proofs.Pricing.Cents
import RollupFees.Proofs.Pricing.Refresh

/-!
# Prices from feeds

Behind each pair is a feed, and behind each feed a contract. An aggregator answers with a sign, and
what is not positive is a failure. A feed of last prices has no such check: its zero is an answer
like any other. For both kinds the answer is then cut to cents, and nothing looks at what is left.

So a price in the book need not be positive. It is positive exactly if the answer that it comes from
is worth a cent; otherwise the book holds a zero, in place of the price that was there.

## Main definitions

* `Answerer.withFeeds` : surroundings in which the feeds ask their contracts
* `Feed.Tells` : an answer that a feed of some kind can give

## Main results

* `Feed.fails_of_not_positive` : an answer of an aggregator that is not positive is a failure
* `pos_iff_worth_cent` : when a price in the book is positive
-/

namespace RollupFees

variable {σ : Type} {pair : Pair}

/-! ### Feeds and their contracts -/

namespace Feed

variable {feed later : Feed} {xs : List (Exchange Question.Answer)}
  {quote : Except Failure RawPrice} {raw : RawPrice}

/-- Two feeds are of one kind. What is known of an aggregator does not count. -/
def SameKind : Feed → Feed → Prop
  | .aggregator _, .aggregator _ => True
  | .lastPrice d, .lastPrice d' => d = d'
  | _, _ => False

/-- A feed of this kind gives the answer, when its contract answers in this way. -/
def Tells (feed : Feed) (xs : List (Exchange Question.Answer)) (quote : Except Failure RawPrice) :
    Prop :=
  ∃ met later, feed.SameKind met ∧ (latest met).Path xs (quote, later)

/-- What is known of a number that a feed gives: it is positive, or it has the decimals that are
configured. -/
def Admits : Feed → RawPrice → Prop
  | .aggregator _, raw => 0 < raw.answer.toNat
  | .lastPrice d, raw => raw.decimals = d

theorem SameKind.refl (feed : Feed) : feed.SameKind feed := by
  cases feed
  · exact trivial
  · exact rfl

theorem SameKind.trans {met : Feed} (h : feed.SameKind met) (h' : met.SameKind later) :
    feed.SameKind later := by
  cases feed <;> cases met <;> cases later <;> simp_all [SameKind]

theorem positive_of_not_pos {a : ℤ} (h : a ≤ 0) : ∃ f, positive a = .error f :=
  ⟨_, if_pos h⟩

theorem pos_of_positive {a : ℤ} {v : Amount} (h : positive a = .ok v) : 0 < v.toNat := by
  unfold positive at h
  split at h
  · cases h
  · next hpos =>
    obtain rfl := Except.ok.inj h
    rw [Amount.toNat_clamp, Amount.maxNat]
    omega

/-- What the contract of a feed of last prices answers is passed on. -/
theorem path_lastPrice {d : ℕ} (h : (latest (.lastPrice d)).Path xs (quote, later)) :
    later = .lastPrice d ∧ ∃ told, xs = [⟨.lastPrice, told⟩] ∧ quote = told.map (⟨·, d⟩) := by
  obtain ⟨ys, _, told, rfl, hasked, rfl, hresult⟩ := Dialogue.path_bind.1 h
  obtain rfl := Dialogue.path_question.1 hasked
  exact ⟨congrArg Prod.snd hresult, told, rfl, congrArg Prod.fst hresult⟩

theorem path_tellDecimals {known : Option ℕ} {r : Except Failure ℕ}
    (h : (tellDecimals known).Path xs r) : ∀ x ∈ xs, x.question = .decimals := by
  cases known with
  | some d =>
    obtain ⟨rfl, -⟩ := h
    exact fun x hx => absurd hx List.not_mem_nil
  | none =>
    obtain rfl := Dialogue.path_question.1 h
    exact fun x hx => List.mem_singleton.1 hx ▸ rfl

/-- What the contract of an aggregator answers has to be positive. Its decimals may be missing. -/
theorem path_aggregator {known : Option ℕ}
    (h : (latest (.aggregator known)).Path xs (quote, later)) :
    (∃ now, later = .aggregator now) ∧
    ((∃ f, quote = .error f) ∧ (∀ x ∈ xs, x.question = .decimals) ∨
      ∃ ys d told, xs = ys ++ [⟨.latestAnswer, told⟩] ∧ (∀ x ∈ ys, x.question = .decimals) ∧
        quote = (told.bind positive).map (⟨·, d⟩)) := by
  obtain ⟨ys, zs, decimals, rfl, htold, hrest⟩ := Dialogue.path_bind.1 h
  have hdecimals := path_tellDecimals htold
  rcases decimals with f | d
  · obtain ⟨rfl, hresult⟩ := hrest
    rw [List.append_nil]
    exact ⟨⟨none, congrArg Prod.snd hresult⟩, .inl ⟨⟨f, congrArg Prod.fst hresult⟩, hdecimals⟩⟩
  · obtain ⟨us, _, told, rfl, hasked, rfl, hresult⟩ := Dialogue.path_bind.1 hrest
    obtain rfl := Dialogue.path_question.1 hasked
    exact ⟨⟨some d, congrArg Prod.snd hresult⟩,
      .inr ⟨ys, d, told, rfl, hdecimals, congrArg Prod.fst hresult⟩⟩

/-- A feed stays of its kind. -/
theorem sameKind_of_path (h : (latest feed).Path xs (quote, later)) : feed.SameKind later := by
  cases feed with
  | lastPrice d =>
    obtain ⟨rfl, -⟩ := path_lastPrice h
    exact .refl _
  | aggregator known =>
    obtain ⟨⟨now, rfl⟩, -⟩ := path_aggregator h
    trivial

/-- **An answer of an aggregator that is not positive is a failure.** -/
theorem fails_of_not_positive (h : (latest feed).Path xs (quote, later)) {a : ℤ}
    (hasked : ⟨.latestAnswer, .ok a⟩ ∈ xs) (ha : a ≤ 0) : ∃ f, quote = .error f := by
  cases feed with
  | lastPrice d =>
    obtain ⟨-, told, rfl, -⟩ := path_lastPrice h
    cases List.mem_singleton.1 hasked
  | aggregator known =>
    obtain ⟨-, ⟨hfails, -⟩ | ⟨ys, d, told, rfl, hdecimals, rfl⟩⟩ := path_aggregator h
    · exact hfails
    · rcases List.mem_append.1 hasked with hearly | hlast
      · cases hdecimals _ hearly
      · obtain ⟨⟩ := List.mem_singleton.1 hlast
        obtain ⟨f, hf⟩ := positive_of_not_pos ha
        exact ⟨f, by rw [Except.bind, hf]; rfl⟩

/-- What a feed answers is as its kind admits. -/
theorem admits_of_path (h : (latest feed).Path xs (.ok raw, later)) : feed.Admits raw := by
  cases feed with
  | lastPrice d =>
    obtain ⟨-, told, -, hquote⟩ := path_lastPrice h
    rcases told with f | v <;> cases hquote
    rfl
  | aggregator known =>
    obtain ⟨-, ⟨⟨f, hquote⟩, -⟩ | ⟨ys, d, told, -, -, hquote⟩⟩ := path_aggregator h
    · cases hquote
    · rcases told with f | a
      · cases hquote
      · cases hpositive : positive a with
        | error f => simp [Except.bind, hpositive, Except.map] at hquote
        | ok v =>
          simp only [Except.bind, hpositive, Except.map, Except.ok.injEq] at hquote
          rw [hquote]
          exact pos_of_positive hpositive

theorem SameKind.admits {met : Feed} (h : feed.SameKind met) (hraw : met.Admits raw) :
    feed.Admits raw := by
  cases feed <;> cases met <;> simp_all [SameKind, Admits]

end Feed

/-! ### Surroundings with feeds -/

/-- Surroundings in which the feeds ask their contracts. What the feeds know of them is part of the
state. -/
def Answerer.withFeeds (env : Answerer Query.Answer σ)
    (contract : Pair → Answerer Feed.Question.Answer σ) :
    Answerer Query.Answer ((Pair → Feed) × σ) where
  answer q s :=
    match q with
    | .latestAnswer pair =>
      let told := (s.1 pair).latest.run (contract pair) s.2
      (told.1.1, Function.update s.1 pair told.1.2, told.2)
    | q => ((env.answer q s.2).1, s.1, (env.answer q s.2).2)

/-- What the state of surroundings guarantees of every answer holds of the exchanges of all
refreshes. -/
theorem forall_mem_refreshes {env : Answerer Query.Answer σ} {I : σ → Prop}
    {P : Exchange Query.Answer → Prop}
    (henv : ∀ q w, I w → P ⟨q, (env.answer q w).1⟩ ∧ I (env.answer q w).2) (n : ℕ) :
    ∀ book w, I w → ∀ r ∈ refreshes env n book w, ∀ x ∈ r.exchanges, P x := by
  induction n with
  | zero => exact fun _ _ _ r hr => absurd hr List.not_mem_nil
  | succ n ih =>
    intro book w hw
    obtain ⟨hfirst, hlater⟩ := (refreshPrices book).forall_mem_transcript henv w hw
    exact List.forall_mem_cons.2 ⟨hfirst, ih _ _ hlater⟩

section WithFeeds

variable {env : Answerer Query.Answer σ} {contract : Pair → Answerer Feed.Question.Answer σ}
  {feeds : Pair → Feed} {n : ℕ} {w : σ}

/-- An exchange in which a feed has answered as its kind does. -/
def Exchange.IsOf (feeds : Pair → Feed) : Exchange Query.Answer → Prop
  | ⟨.latestAnswer pair, quote⟩ => ∃ xs, (feeds pair).Tells xs quote
  | _ => True

/-- In surroundings with feeds, feeds stay of their kinds and answer as their kinds do. -/
theorem isOf_withFeeds (q : Query) (s : (Pair → Feed) × σ)
    (h : ∀ pair, (feeds pair).SameKind (s.1 pair)) :
    Exchange.IsOf feeds ⟨q, ((env.withFeeds contract).answer q s).1⟩ ∧
      ∀ pair, (feeds pair).SameKind (((env.withFeeds contract).answer q s).2.1 pair) := by
  cases q with
  | latestAnswer asked =>
    have hpath := Dialogue.path_run (contract asked) (s.1 asked).latest s.2
    refine ⟨⟨_, _, _, h asked, hpath⟩, fun pair => ?_⟩
    by_cases hsame : pair = asked
    · subst hsame
      rw [show ((env.withFeeds contract).answer (.latestAnswer pair) s).2.1 pair =
        ((s.1 pair).latest.run (contract pair) s.2).1.2 from Function.update_self ..]
      exact (h pair).trans (Feed.sameKind_of_path hpath)
    · rw [show ((env.withFeeds contract).answer (.latestAnswer asked) s).2.1 pair = s.1 pair from
        Function.update_of_ne hsame ..]
      exact h pair
  | _ => exact ⟨trivial, h⟩

/-- Every quote has come from a feed of the kind that the pair has. -/
theorem tells_of_mem_quotes {rs : List RefreshRecord} {quote : Except Failure RawPrice}
    (hrs : ∀ r ∈ rs, r ∈ refreshes (env.withFeeds contract) n .empty (feeds, w))
    (h : quote ∈ quotes pair rs) : ∃ xs, (feeds pair).Tells xs quote := by
  obtain ⟨r, hr, hquote⟩ := List.mem_flatMap.1 h
  obtain ⟨x, hx, hasked⟩ := List.mem_filterMap.1 hquote
  obtain rfl := Exchange.eq_of_quote? hasked
  exact forall_mem_refreshes (I := fun s : (Pair → Feed) × σ =>
    ∀ pair, (feeds pair).SameKind (s.1 pair)) isOf_withFeeds n .empty (feeds, w)
    (fun pair => .refl _) r (hrs r hr) _ hx

/-- **When a price in the book is positive.** Take feeds of either kind, contracts that answer
anything, and any number of refreshes from an empty book. In each refresh the feed of a pair gives
one answer. Where an aggregator is answered with a number that is not positive, this is a failure,
and for a failure, or an answer without a price, the refresh fails and the price of the pair stays.
A price that the book holds is that of the last answer that had one, in whole cents, and it is
positive exactly if this answer is worth a cent. -/
theorem pos_iff_worth_cent {earlier later : List RefreshRecord} {r : RefreshRecord}
    (h : refreshes (env.withFeeds contract) n .empty (feeds, w) = earlier ++ r :: later)
    (pair : Pair) :
    (∃ quote xs, quotes pair [r] = [quote] ∧ (feeds pair).Tells xs quote ∧
      (∀ a, ⟨.latestAnswer, .ok a⟩ ∈ xs → a ≤ 0 → ∃ f, quote = .error f) ∧
      ∀ f, PriceBook.judge quote = .error f →
        r.failure ≠ none ∧ r.after.value? pair = r.before.value? pair) ∧
    ∀ price, r.after.value? pair = some price → ∃ raw,
      lastGood? pair (earlier ++ [r]) = some raw ∧ (feeds pair).Admits raw ∧
      price.toRat = (100 * raw.answer.toNat / 10 ^ raw.decimals : ℕ) / 100 ∧
      (0 < price.toRat ↔ 10 ^ raw.decimals ≤ 100 * raw.answer.toNat) := by
  have hmem : ∀ x ∈ earlier ++ [r],
      x ∈ refreshes (env.withFeeds contract) n .empty (feeds, w) := by
    intro x hx
    rw [h, List.append_cons]
    exact List.mem_append_left _ hx
  constructor
  · obtain ⟨told, now, hanswered⟩ := answered_of_mem_refreshes _ (hmem r (by simp))
    have hquote : told pair ∈ quotes pair [r] := hanswered.quotes pair ▸ List.mem_singleton_self _
    have hlast : ∀ x ∈ [r], x ∈ refreshes (env.withFeeds contract) n .empty (feeds, w) :=
      fun x hx => hmem x (List.mem_append_right _ hx)
    obtain ⟨xs, met, met', hkind, hpath⟩ := tells_of_mem_quotes hlast hquote
    refine ⟨told pair, xs, hanswered.quotes pair, ⟨met, met', hkind, hpath⟩,
      fun a => Feed.fails_of_not_positive hpath, fun f hf => ⟨fun hnone => ?_, ?_⟩⟩
    · obtain ⟨v, hv⟩ := hanswered.records_iff.1 (hanswered.failure_eq_none_iff.1 hnone pair)
      rw [hf] at hv
      cases hv
    · rw [PriceBook.value?, hanswered.get?_of_judge_error hf, PriceBook.value?]
  · intro price hprice
    rw [(value?_of_refreshes _ h).2 pair, lastPrice?, Option.bind_eq_some_iff] at hprice
    obtain ⟨raw, hgood, hnormalize⟩ := hprice
    obtain ⟨hquote, -⟩ := mem_quotes_of_lastGood? hgood
    obtain ⟨xs, met, met', hkind, hpath⟩ := tells_of_mem_quotes hmem hquote
    have hexact : raw.normalize = .ok price := by
      cases hcase : raw.normalize <;> rw [hcase] at hnormalize <;> cases hnormalize
      rfl
    exact ⟨raw, hgood, hkind.admits (Feed.admits_of_path hpath),
      RawPrice.toRat_of_normalize hexact, RawPrice.pos_iff_of_normalize hexact⟩

end WithFeeds

/-- Contracts that answer with good prices first, and then with less than a cent and with zero. -/
def dwindlingContract : Pair → Answerer Feed.Question.Answer ℕ
  | .native => ⟨fun
    | .decimals, n => (.ok 3, n)
    | .latestAnswer, n => (.ok (if n = 0 then 1500 else 9), n)
    | .lastPrice, n => (.ok 0, n)⟩
  | .secondary => ⟨fun
    | .decimals, n => (.ok 6, n)
    | .latestAnswer, n => (.ok 0, n)
    | .lastPrice, n => (.ok (if n = 0 then .clamp 750000 else 0), n)⟩

/-- An aggregator for the native price, and a feed of last prices for the secondary one. -/
def bothKinds : Pair → Feed
  | .native => .aggregator none
  | .secondary => .lastPrice 6

/-- The first refresh with such feeds. -/
def dwindlingFirst : RefreshRecord :=
  refreshRecord (falteringFeeds.withFeeds dwindlingContract) .empty (bothKinds, 0)

/-- The second refresh with such feeds. -/
def dwindlingSecond : RefreshRecord :=
  refreshRecord (falteringFeeds.withFeeds dwindlingContract) dwindlingFirst.after
    ((refreshPrices .empty).run (falteringFeeds.withFeeds dwindlingContract) (bothKinds, 0)).2

theorem refreshes_dwindling :
    refreshes (falteringFeeds.withFeeds dwindlingContract) 2 .empty (bothKinds, 0) =
      [dwindlingFirst] ++ dwindlingSecond :: [] := rfl

/-- A good price is replaced by a zero, and the refresh does not fail. -/
theorem zero_replaces_price : dwindlingSecond.failure = none ∧
    (dwindlingSecond.before.value? .secondary).map Decimal.toRat = some (3 / 4) ∧
    (dwindlingSecond.after.value? .secondary).map Decimal.toRat = some 0 := by
  decide +kernel

/-- The zero is the price of the last answer, which is not worth a cent. -/
theorem worth_cent_dwindling : ∃ price, dwindlingSecond.after.value? .secondary = some price ∧
    lastGood? .secondary [dwindlingFirst, dwindlingSecond] = some ⟨0, 6⟩ ∧ ¬ 0 < price.toRat := by
  obtain ⟨price, hprice, -⟩ := Option.map_eq_some_iff.1 zero_replaces_price.2.2
  obtain ⟨raw, hgood, -, -, hpos⟩ :=
    (pos_iff_worth_cent refreshes_dwindling .secondary).2 price hprice
  have hzero : lastGood? .secondary [dwindlingFirst, dwindlingSecond] = some ⟨0, 6⟩ := by
    decide +kernel
  obtain rfl := Option.some.inj (hgood.symm.trans hzero)
  exact ⟨price, hprice, hzero, by rw [hpos]; decide⟩

/-- Prices in the book are not always positive. -/
theorem zero_price_held : ¬ ∀ (env : Answerer Query.Answer ℕ)
    (contract : Pair → Answerer Feed.Question.Answer ℕ) (feeds : Pair → Feed) (n w : ℕ),
    ∀ r ∈ refreshes (env.withFeeds contract) n .empty (feeds, w), ∀ pair price,
      r.after.value? pair = some price → 0 < price.toRat := by
  intro hpositive
  obtain ⟨price, hprice, hzero⟩ := Option.map_eq_some_iff.1 zero_replaces_price.2.2
  have hmem : dwindlingSecond ∈
      refreshes (falteringFeeds.withFeeds dwindlingContract) 2 .empty (bothKinds, 0) := by
    rw [refreshes_dwindling]
    exact List.mem_append_right _ List.mem_cons_self
  exact (hpositive _ _ _ _ _ _ hmem .secondary price hprice).ne' hzero

end RollupFees
