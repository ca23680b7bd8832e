import RollupFees.Proofs.Path
import RollupFees.Rehearsal.Directory

/-!
# What the registry is asked

A registry may answer anything at any time. To say which of its answers count, a name is followed as
if it were looked up again and again, with the pauses between the tries: that gives one answer for
each try. The resolution of a name looks at the answers up to the first one that is no failure, and
at five of them at most.

The names of a deployment are resolved one after the other, and each resolution starts where the one
before has left the registry. The first resolution that fails is the last one.

## Main definitions

* `Registry.answerAfter` : the answer to a lookup after so many others
* `Registry.FirstFound` : the first answer that is no failure
* `Registry.resolutions` : what is kept of resolutions of names, one after the other
* `Registry.resolveList` : the addresses of any names, one after the other

## Main results

* `Registry.lookup_stops` : how many answers a resolution looks at
* `Registry.resolves_in_order` : resolutions are bounded, exact and in order
-/

namespace RollupFees.Registry

variable {σ : Type} (env : Answerer Question.Answer σ)

/-! ### One name -/

/-- The longest pause after so many failed lookups and one more: half a second, and twice as long
each time, but never more than ten seconds. -/
def pauseAfter (failed : Nat) : Duration := .millis (min (500 * 2 ^ failed) 10000)

/-- What the surroundings are like after so many lookups of a name, each with a pause after it. -/
def waited (name : String) (w : σ) : Nat → σ
  | 0 => w
  | n + 1 =>
    (env.answer (.pause (pauseAfter n)) (env.answer (.address name) (waited name w n)).2).2

/-- The answer to a lookup of a name after so many others. -/
def answerAfter (name : String) (w : σ) (n : Nat) : Except Failure Address :=
  (env.answer (.address name) (waited env name w n)).1

/-- Among answers, the first one that is no failure. -/
structure FirstFound (answers : Nat → Except Failure Address) (k : Nat) (a : Address) : Prop where
  found : answers k = .ok a
  failed : ∀ i < k, ∃ f, answers i = .error f

/-- A lookup with its answer. -/
def lookup? : Exchange Question.Answer → Option (String × Except Failure Address)
  | ⟨.address name, answer⟩ => some (name, answer)
  | ⟨.pause _, _⟩ => none

/-- The lookups among exchanges, in order. -/
def lookups (xs : List (Exchange Question.Answer)) : List (String × Except Failure Address) :=
  xs.filterMap lookup?

@[simp] theorem lookups_nil : lookups [] = [] := rfl

@[simp] theorem lookups_address (name : String) (answer : Except Failure Address)
    (xs : List (Exchange Question.Answer)) :
    lookups (⟨.address name, answer⟩ :: xs) = (name, answer) :: lookups xs := rfl

@[simp] theorem lookups_pause (longest : Duration) (answer : Unit)
    (xs : List (Exchange Question.Answer)) :
    lookups (⟨.pause longest, answer⟩ :: xs) = lookups xs := rfl

theorem pauses_eq : pauses = (List.range' 0 4).map pauseAfter := by decide

/-- **A name is looked up until there is an answer that is no failure, or no pause is left.** -/
theorem lookup_stops (name : String) (w : σ) (m i : Nat) :
    ∃ c ≤ m, (∀ j < c, ∃ f, answerAfter env name w (i + j) = .error f) ∧
      (c < m → ∃ a, answerAfter env name w (i + c) = .ok a) ∧
      lookups ((lookup name ((List.range' i m).map pauseAfter)).transcript env
        (waited env name w i)) =
          (List.range' i (c + 1)).map (fun j => (name, answerAfter env name w j)) ∧
      ((lookup name ((List.range' i m).map pauseAfter)).run env (waited env name w i)).1 =
        answerAfter env name w (i + c) := by
  induction m generalizing i with
  | zero => exact ⟨0, Nat.le_refl _, by simp, by simp, rfl, rfl⟩
  | succ m ih =>
    rw [List.range'_succ, List.map_cons, lookup, Dialogue.transcript_bind, Dialogue.run_bind,
      Dialogue.run_question]
    have hanswer : (env.answer (.address name) (waited env name w i)).1 =
      answerAfter env name w i := rfl
    rw [hanswer]
    cases hi : answerAfter env name w i with
    | ok a =>
      refine ⟨0, Nat.zero_le _, by simp, fun _ => ⟨a, hi⟩, ?_, hi.symm⟩
      simp [Dialogue.question, Dialogue.transcript, hanswer, hi]
    | error f =>
      obtain ⟨c, hc, hfailed, hfound, hlookups, hresult⟩ := ih (i + 1)
      refine ⟨c + 1, by omega, fun j hj => ?_, fun hlt => ?_, ?_, ?_⟩
      · cases j with
        | zero => exact ⟨f, hi⟩
        | succ j =>
          obtain ⟨g, hg⟩ := hfailed j (by omega)
          exact ⟨g, by rw [← hg]; congr 1; omega⟩
      · obtain ⟨a, ha⟩ := hfound (by omega)
        exact ⟨a, by rw [← ha]; congr 1; omega⟩
      · rw [List.range'_succ, List.map_cons, ← hlookups]
        simp [Dialogue.question, Dialogue.transcript, hanswer, waited]
      · rw [show i + (c + 1) = i + 1 + c by omega, ← hresult]
        rfl

/-- The resolution of a name looks at so many answers, and the last of them decides. -/
theorem resolve_stops (name : String) (w : σ) :
    ∃ c ≤ 4, (∀ j < c, ∃ f, answerAfter env name w j = .error f) ∧
      (c < 4 → ∃ a, answerAfter env name w c = .ok a) ∧
      lookups ((resolve name).transcript env w) =
        (List.range (c + 1)).map (fun j => (name, answerAfter env name w j)) ∧
      ((resolve name).run env w).1 = (answerAfter env name w c).bind (known name) := by
  obtain ⟨c, hc, hfailed, hfound, hlookups, hresult⟩ := lookup_stops env name w 4 0
  simp only [Nat.zero_add] at hfailed hfound hresult
  refine ⟨c, hc, hfailed, hfound, ?_, ?_⟩
  · rw [resolve, Dialogue.transcript_bind, pauses_eq, List.range_eq_range', ← hlookups]
    simp [waited, Dialogue.transcript]
  · rw [resolve, Dialogue.run_bind, pauses_eq, ← hresult]
    rfl

/-- What is kept of a resolution: the name, what the registry was asked, and the result. -/
structure Resolution where
  name : String
  exchanges : List (Exchange Question.Answer)
  result : Except Failure Address

/-- What is kept of the resolution of a name. -/
def resolution (name : String) (w : σ) : Resolution :=
  ⟨name, (resolve name).transcript env w, ((resolve name).run env w).1⟩

@[simp] theorem name_resolution (name : String) (w : σ) :
    (resolution env name w).name = name := rfl

@[simp] theorem exchanges_resolution (name : String) (w : σ) :
    (resolution env name w).exchanges = (resolve name).transcript env w := rfl

@[simp] theorem result_resolution (name : String) (w : σ) :
    (resolution env name w).result = ((resolve name).run env w).1 := rfl

/-- A resolution looks at the answers up to the first one that is no failure, and at five of them at
most. The address that it finds is the result, unless it is zero; if it finds none, the fifth
failure is. -/
structure Resolution.IsExact (r : Resolution) (answers : Nat → Except Failure Address) : Prop where
  of_found : ∀ {k a}, FirstFound answers k a →
    lookups r.exchanges = (List.range (min 5 (k + 1))).map fun i => (r.name, answers i)
  result_of_found : ∀ {k a}, FirstFound answers k a → k < 5 →
    r.result = if a = Address.zero then .error (.unresolvedAddress r.name) else .ok a
  of_failed : (∀ i < 5, ∃ f, answers i = .error f) →
    lookups r.exchanges = (List.range 5).map (fun i => (r.name, answers i)) ∧ r.result = answers 4

/-- The first answer that is no failure is the last one looked at, unless it comes too late. -/
theorem FirstFound.count_eq {answers : Nat → Except Failure Address} {k c : Nat} {a : Address}
    (h : FirstFound answers k a) (hc : c ≤ 4) (hfailed : ∀ j < c, ∃ f, answers j = .error f)
    (hfound : c < 4 → ∃ b, answers c = .ok b) : c = min 4 k := by
  have hle : c ≤ k := by
    refine Nat.le_of_not_lt fun hlt => ?_
    obtain ⟨f, hf⟩ := hfailed k hlt
    cases hf.symm.trans h.found
  by_cases hlt : c < 4
  · have hge : k ≤ c := by
      refine Nat.le_of_not_lt fun hlater => ?_
      obtain ⟨f, hf⟩ := h.failed c hlater
      obtain ⟨b, hb⟩ := hfound hlt
      cases hf.symm.trans hb
    omega
  · omega

/-- **A resolution is bounded and exact.** -/
theorem isExact_resolution (name : String) (w : σ) :
    (resolution env name w).IsExact (answerAfter env name w) := by
  obtain ⟨c, hc, hfailed, hfound, hlookups, hresult⟩ := resolve_stops env name w
  have hcount : ∀ {k a}, FirstFound (answerAfter env name w) k a → c = min 4 k :=
    fun hfirst => hfirst.count_eq hc hfailed hfound
  refine ⟨fun {k a} hfirst => ?_, fun {k a} hfirst hk => ?_, fun hall => ?_⟩
  · rw [show min 5 (k + 1) = c + 1 by rw [hcount hfirst]; omega]
    exact hlookups
  · obtain rfl : c = k := by rw [hcount hfirst]; omega
    have hknown : ((resolve name).run env w).1 = known name a := by
      rw [hresult, hfirst.found]
      rfl
    exact hknown
  · obtain rfl : c = 4 := by
      refine Nat.le_antisymm hc (Nat.le_of_not_lt fun hlt => ?_)
      obtain ⟨f, hf⟩ := hall c (Nat.lt_succ_of_lt hlt)
      obtain ⟨a, ha⟩ := hfound hlt
      cases hf.symm.trans ha
    refine ⟨hlookups, ?_⟩
    obtain ⟨f, hf⟩ := hall 4 (by decide)
    rw [resolution, hresult, hf]
    rfl

/-! ### Names in order -/

/-- What is kept of resolutions of names, one after the other. -/
def resolutions : List String → σ → List Resolution
  | [], _ => []
  | name :: rest, w => resolution env name w :: resolutions rest ((resolve name).run env w).2

/-- An address that a resolution gives is not zero, and it is the last answer that the registry gave
for the name. -/
theorem of_mem_resolutions {names : List String} {w : σ} {r : Resolution}
    (hr : r ∈ resolutions env names w) {a : Address} (h : r.result = .ok a) :
    a ≠ Address.zero ∧ (lookups r.exchanges).getLast? = some (r.name, .ok a) := by
  induction names generalizing w with
  | nil => cases hr
  | cons name rest ih =>
    rcases List.mem_cons.1 hr with rfl | hr
    · obtain ⟨c, -, -, -, hlookups, hresult⟩ := resolve_stops env name w
      have hknown : (answerAfter env name w c).bind (known name) = .ok a := hresult ▸ h
      cases hanswer : answerAfter env name w c with
      | error f =>
        rw [hanswer] at hknown
        cases hknown
      | ok b =>
        rw [hanswer, Except.bind, known] at hknown
        split at hknown
        · cases hknown
        · next hzero =>
          cases hknown
          refine ⟨hzero, ?_⟩
          rw [exchanges_resolution, hlookups, List.range_succ, List.map_append, List.map_singleton,
            hanswer, List.getLast?_concat, name_resolution]
    · exact ih hr

/-- The addresses of names in order, up to the first failure. -/
def resolveList : List String → Talk (Except Failure (List Address))
  | [] => .done (.ok [])
  | name :: rest =>
    (resolve name).bind fun
      | .error f => .done (.error f)
      | .ok a => (resolveList rest).bind fun r => .done (r.map (a :: ·))

/-- A name that is resolved before others is resolved before their list. -/
theorem resolve_bind_eq_resolveList {name : String} {rest : List String} {before : List Address}
    {next : Address → ExceptT Failure (Dialogue Question.Answer) Contracts}
    (hnext : ∀ a, (next a).run.bind (fun r => .done (r.map Contracts.toList)) =
      (resolveList rest).bind fun r => .done (r.map (before ++ [a] ++ ·))) :
    (ExceptT.mk (resolve name) >>= next).run.bind (fun r => .done (r.map Contracts.toList)) =
      (resolveList (name :: rest)).bind fun r => .done (r.map (before ++ ·)) := by
  have hbind : (ExceptT.mk (resolve name) >>= next).run =
      (resolve name).bind (ExceptT.bindCont next) := rfl
  rw [hbind, resolveList, Dialogue.bind_assoc, Dialogue.bind_assoc]
  refine congrArg _ (funext fun answer => ?_)
  rcases answer with f | a
  · rfl
  · rw [Dialogue.bind_assoc]
    refine (hnext a).trans (congrArg _ (funext fun r => ?_))
    cases r <;> simp [Except.map]

/-- The contracts are found as their names are resolved in a list. -/
theorem resolveContracts_eq_resolveList (names : RegistryNames) (w : σ) :
    (resolveContracts names).transcript env w = (resolveList names.toList).transcript env w ∧
      ((resolveContracts names).run env w).1.map Contracts.toList =
        ((resolveList names.toList).run env w).1 := by
  have hlist : (resolveContracts names).bind (fun r => .done (r.map Contracts.toList)) =
      (resolveList names.toList).bind fun r => .done (r.map ([] ++ ·)) :=
    resolve_bind_eq_resolveList fun _ => resolve_bind_eq_resolveList fun _ =>
      resolve_bind_eq_resolveList fun _ => resolve_bind_eq_resolveList fun _ =>
        resolve_bind_eq_resolveList fun _ => rfl
  have htranscript := congrArg (Dialogue.transcript env · w) hlist
  have hresult := congrArg (fun d => (Dialogue.run env d w).1) hlist
  simp only [Dialogue.transcript_bind, Dialogue.transcript, List.append_nil] at htranscript
  simp only [Dialogue.run_bind, Dialogue.run_done] at hresult
  refine ⟨htranscript, hresult.trans ?_⟩
  cases ((resolveList names.toList).run env w).1 <;> rfl

/-- **The first resolution that fails is the last one.** -/
theorem resolveList_of_failed {names : List String} {w : σ} {earlier later : List Resolution}
    {r : Resolution} (h : resolutions env names w = earlier ++ r :: later)
    (hearlier : ∀ x ∈ earlier, ∃ a, x.result = .ok a) {f : Failure} (hr : r.result = .error f) :
    (resolveList names).transcript env w = (earlier ++ [r]).flatMap Resolution.exchanges ∧
      ((resolveList names).run env w).1 = .error f := by
  induction names generalizing w earlier with
  | nil => cases earlier <;> cases h
  | cons name rest ih =>
    rw [resolutions] at h
    rw [resolveList, Dialogue.transcript_bind, Dialogue.run_bind]
    cases earlier with
    | nil =>
      obtain ⟨rfl, -⟩ := List.cons.inj h
      rw [result_resolution] at hr
      rw [hr]
      simp [Dialogue.transcript]
    | cons first earlier =>
      obtain ⟨rfl, hrest⟩ := List.cons.inj h
      obtain ⟨⟨a, ha⟩, hearlier⟩ := List.forall_mem_cons.1 hearlier
      obtain ⟨htranscript, hresult⟩ := ih hrest hearlier
      rw [result_resolution] at ha
      rw [ha]
      simp [Dialogue.transcript, htranscript, hresult, Except.map]

/-- If all resolutions succeed, their addresses are the result. -/
theorem resolveList_of_found {names : List String} {w : σ}
    (h : ∀ x ∈ resolutions env names w, ∃ a, x.result = .ok a) :
    (resolveList names).transcript env w =
        (resolutions env names w).flatMap Resolution.exchanges ∧
      ∃ addresses, ((resolveList names).run env w).1 = .ok addresses ∧
        (resolutions env names w).map Resolution.result = addresses.map .ok := by
  induction names generalizing w with
  | nil => exact ⟨rfl, [], rfl, rfl⟩
  | cons name rest ih =>
    rw [resolutions] at h ⊢
    obtain ⟨⟨a, ha⟩, hrest⟩ := List.forall_mem_cons.1 h
    obtain ⟨htranscript, addresses, hresult, haddresses⟩ := ih hrest
    rw [result_resolution] at ha
    rw [resolveList, Dialogue.transcript_bind, Dialogue.run_bind, ha]
    refine ⟨?_, a :: addresses, ?_, ?_⟩
    · simp [Dialogue.transcript, htranscript]
    · simp [hresult, Except.map]
    · simp [ha, haddresses]

theorem map_name_resolutions (names : List String) (w : σ) :
    (resolutions env names w).map Resolution.name = names := by
  induction names generalizing w with
  | nil => rfl
  | cons name rest ih => exact congrArg (name :: ·) (ih _)

/-- The first resolution of a contract that fails is the last one. -/
theorem resolveContracts_of_failed {names : RegistryNames} {w : σ} {earlier later : List Resolution}
    {r : Resolution} (h : resolutions env names.toList w = earlier ++ r :: later)
    (hearlier : ∀ x ∈ earlier, ∃ a, x.result = .ok a) {f : Failure} (hr : r.result = .error f) :
    (resolveContracts names).transcript env w = (earlier ++ [r]).flatMap Resolution.exchanges ∧
      ((resolveContracts names).run env w).1 = .error f := by
  obtain ⟨htranscript, hresult⟩ := resolveContracts_eq_resolveList env names w
  obtain ⟨hlist, hfailed⟩ := resolveList_of_failed env h hearlier hr
  refine ⟨htranscript.trans hlist, ?_⟩
  rw [hfailed] at hresult
  generalize ((resolveContracts names).run env w).1 = result at hresult ⊢
  cases result with
  | error g => exact congrArg Except.error (Except.error.inj hresult)
  | ok contracts => cases hresult

/-- If all resolutions succeed, each contract has the address of its own name. -/
theorem resolveContracts_of_found {names : RegistryNames} {w : σ}
    (h : ∀ x ∈ resolutions env names.toList w, ∃ a, x.result = .ok a) :
    (resolveContracts names).transcript env w =
        (resolutions env names.toList w).flatMap Resolution.exchanges ∧
      ∃ contracts, ((resolveContracts names).run env w).1 = .ok contracts ∧
        (resolutions env names.toList w).map Resolution.result = contracts.toList.map .ok := by
  obtain ⟨htranscript, hresult⟩ := resolveContracts_eq_resolveList env names w
  obtain ⟨hlist, addresses, hfound, haddresses⟩ := resolveList_of_found env h
  refine ⟨htranscript.trans hlist, ?_⟩
  rw [hfound] at hresult
  generalize ((resolveContracts names).run env w).1 = result at hresult ⊢
  cases result with
  | error g => cases hresult
  | ok contracts => exact ⟨contracts, rfl, by rw [haddresses, ← Except.ok.inj hresult]⟩

/-- **Resolutions are bounded, exact and in order.** Take any registry. A name is looked up until
the first answer that is no failure, and five times at most. An address among the first five answers
is the result, unless it is zero: that means that the name is not known. After five failures the
fifth one is the result. The names of a deployment are resolved in this way one after the other, in
a fixed order, up to the first resolution that fails, whose failure is the result. If none fails,
each contract has the address that the registry gave for its own name, which is not zero. -/
theorem resolves_in_order (names : RegistryNames) (w : σ) :
    (∀ name v, (resolution env name v).IsExact (answerAfter env name v)) ∧
    (resolutions env names.toList w).map Resolution.name =
      [names.canonicalTransactionChain, names.stateCommitmentChain, names.feeTokenGasPriceOracle,
        names.secondaryFeeToken, names.billingContract] ∧
    (∀ earlier r later f, resolutions env names.toList w = earlier ++ r :: later →
      (∀ x ∈ earlier, ∃ a, x.result = .ok a) → r.result = .error f →
        (resolveContracts names).transcript env w = (earlier ++ [r]).flatMap Resolution.exchanges ∧
        ((resolveContracts names).run env w).1 = .error f) ∧
    ((∀ x ∈ resolutions env names.toList w, ∃ a, x.result = .ok a) →
      (resolveContracts names).transcript env w =
          (resolutions env names.toList w).flatMap Resolution.exchanges ∧
        ∃ contracts, ((resolveContracts names).run env w).1 = .ok contracts ∧
          (resolutions env names.toList w).map Resolution.result =
            [.ok contracts.canonicalTransactionChain, .ok contracts.stateCommitmentChain,
              .ok contracts.feeTokenGasPriceOracle, .ok contracts.secondaryFeeToken,
              .ok contracts.billingContract]) ∧
    ∀ x ∈ resolutions env names.toList w, ∀ a, x.result = .ok a →
      a ≠ Address.zero ∧ (lookups x.exchanges).getLast? = some (x.name, .ok a) :=
  ⟨isExact_resolution env, map_name_resolutions env _ w,
    fun _ _ _ _ hsplit hearlier hfailed => resolveContracts_of_failed env hsplit hearlier hfailed,
    resolveContracts_of_found env, fun _ hx _ => of_mem_resolutions env hx⟩

/-- A registry that knows two names. Two lookups of the first one fail, and four of the second. -/
def flakyDirectory : Directory :=
  Directory.fresh
    [("CanonicalTransactionChain", Address.repeated 1), ("StateCommitmentChain", Address.repeated 2)]
    [some .rpc, some .rpc, none, some .timeout, some .timeout, some .timeout, some .timeout]

/-- Such a registry is asked three times for the first name, five times for the second, and once for
the third, which it does not know. -/
theorem resolves_flaky : ∃ first second third later,
    resolutions Directory.surroundings ({} : RegistryNames).toList flakyDirectory =
      [first, second] ++ third :: later ∧
    first.result = .ok (Address.repeated 1) ∧ second.result = .ok (Address.repeated 2) ∧
    third.result = .error (.unresolvedAddress "Proxy__Boba_GasPriceOracle") ∧
    ((resolveContracts {}).run Directory.surroundings flakyDirectory).1 =
      .error (.unresolvedAddress "Proxy__Boba_GasPriceOracle") ∧
    (lookups ((resolveContracts {}).transcript Directory.surroundings flakyDirectory)).map Prod.fst =
      List.replicate 3 "CanonicalTransactionChain" ++ List.replicate 5 "StateCommitmentChain" ++
        ["Proxy__Boba_GasPriceOracle"] := by
  have hsplit : ∃ first second third later,
      resolutions Directory.surroundings ({} : RegistryNames).toList flakyDirectory =
        [first, second] ++ third :: later ∧
      first.result = .ok (Address.repeated 1) ∧ second.result = .ok (Address.repeated 2) ∧
      third.result = .error (.unresolvedAddress "Proxy__Boba_GasPriceOracle") :=
    ⟨_, _, _, _, rfl, rfl, rfl, rfl⟩
  obtain ⟨first, second, third, later, hsplit, hfirst, hsecond, hthird⟩ := hsplit
  have hfound : ∀ x ∈ [first, second], ∃ a, x.result = .ok a := by
    simp [hfirst, hsecond]
  obtain ⟨-, -, hfailed, -, -⟩ := resolves_in_order Directory.surroundings {} flakyDirectory
  exact ⟨first, second, third, later, hsplit, hfirst, hsecond, hthird,
    (hfailed _ _ _ _ hsplit hfound hthird).2, by decide +kernel⟩

end RollupFees.Registry
