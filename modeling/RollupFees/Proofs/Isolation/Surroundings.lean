import RollupFees.Proofs.Isolation.Stores

/-!
# Surroundings that answer a step alike

That calls are answered alike, and that no stop is requested, is said of the exchanges of a step.
Surroundings may also be known to answer like this whatever has happened before. Then the exchanges
of every tick in them are as they should be.

## Main definitions

* `TickStep.AnsweredAlike` : two surroundings answer the calls of a step alike

## Main results

* `calm_of_mem_steps` : where no stop is ever requested, every step is calm
* `TickStep.AnsweredAlike.answersAlike` : the calls of a step are answered alike in any two ticks
-/

namespace RollupFees

variable {σ τ : Type} {setup : Setup} {number : Nat} {p : Progress} {step : TickStep}
  {xs : List (Exchange Query.Answer)} {env : Answerer Query.Answer σ}
  {env' : Answerer Query.Answer τ} {s : Service} {w : σ} {w' : τ} {x x' : StepRecord}

/-- What a step of a tick was answered, the surroundings have answered in some state. -/
theorem exists_answer_of_mem_steps (hx : x ∈ (tickRecord env setup s w).steps)
    {y : Exchange Query.Answer} (hy : y ∈ x.exchanges) :
    ∃ v, y = ⟨y.question, (env.answer y.question v).1⟩ := by
  have hpromised : y ∈ (Progress.advanceAll setup (s.ticks + 1) s.nextTick TickStep.all).transcript
      env (env.answer .uptime w).2 := by
    rw [Progress.transcript_advanceAll]
    exact List.mem_flatMap.2 ⟨x, hx, hy⟩
  obtain ⟨v, hv⟩ := Dialogue.promised_of_mem_transcript
    (c := ⟨fun q a => ∃ v, a = (env.answer q v).1, fun _ => True⟩) (fun _ v => ⟨v, rfl⟩) _ _ y
    hpromised
  exact ⟨v, by rw [← hv]⟩

/-- In surroundings that never tell of a stop every step is calm. -/
theorem calm_of_mem_steps
    (henv : ∀ q v, ¬ (⟨q, (env.answer q v).1⟩ : Exchange Query.Answer).IsSummons)
    (hx : x ∈ (tickRecord env setup s w).steps) : Calm x.exchanges := by
  intro y hy
  obtain ⟨v, hv⟩ := exists_answer_of_mem_steps hx hy
  rw [hv]
  exact henv _ v

/-- But for the time of a snapshot, a question is that of its exchange. -/
theorem Exchange.question_of_undated {q q' : Query} {a : q.Answer} {a' : q'.Answer}
    (h : (⟨q, a⟩ : Exchange Query.Answer).undated.question =
      (⟨q', a'⟩ : Exchange Query.Answer).undated.question) :
    q = q' ∨ ∃ snapshot t, q = .commit snapshot ∧
      q' = .commit { snapshot with updatedAt := t } := by
  cases hq : q.isCommit with
  | false =>
    have hsame : (⟨q, a⟩ : Exchange Query.Answer).undated = ⟨q, a⟩ := by
      cases q <;> first | rfl | cases hq
    rw [hsame] at h
    cases q' with
    | commit s' =>
      obtain rfl : q = .commit _ := h
      cases hq
    | _ => exact .inl h
  | true =>
    cases q with
    | commit s =>
      cases q' with
      | commit s' =>
        obtain ⟨hside, hcounters⟩ : s.side = s'.side ∧ s.counters = s'.counters := by
          simpa [Exchange.undated] using h
        exact .inr ⟨s, s'.updatedAt, rfl, by rw [hside, hcounters]⟩
      | _ => cases h
    | _ => cases hq

/-- Two surroundings answer the calls of a step alike, whatever has happened before, and whatever
time a snapshot bears. -/
structure TickStep.AnsweredAlike (step : TickStep) (env : Answerer Query.Answer σ)
    (env' : Answerer Query.Answer τ) : Prop where
  same : ∀ q v v', step.mayAsk q = true → q.isCall = true →
    (env.answer q v).1 = (env'.answer q v').1
  undated : ∀ snapshot t v v', step.mayAsk (.commit snapshot) = true →
    (env.answer (.commit snapshot) v).1 =
      (env'.answer (.commit { snapshot with updatedAt := t }) v').1

theorem Progress.Advance.mayAsk {r : Except Breakdown Progress}
    (h : Advance setup number p step xs r) {y : Exchange Query.Answer} (hy : y ∈ xs)
    (hcall : y.question.isCall = true) : step.mayAsk y.question = true := by
  have hran : ∀ {ys a}, (runStep setup p.service step).Path ys a → y ∈ goAhead step ++ ys →
      step.mayAsk y.question = true := by
    intro ys a ran hy
    rcases List.mem_append.1 hy with hy | hy
    · rw [eq_of_mem_goAhead hy] at hcall
      cases hcall
    · exact (asks_runStep setup p.service step).path ran y hy
  cases h with
  | leftOut =>
    rw [List.mem_singleton.1 hy] at hcall
    cases hcall
  | completed ran | interrupted ran | broken ran => exact hran ran hy
  | failed grave ran =>
    rcases List.mem_append.1 hy with hy | hy
    · exact hran ran hy
    · rw [List.mem_singleton.1 hy] at hcall
      cases hcall

/-- What a step called is one of its own questions, and the surroundings have answered it. -/
theorem exists_of_mem_calls (hx : x ∈ (tickRecord env setup s w).steps)
    {y : Exchange Query.Answer} (hy : y ∈ calls x.exchanges) :
    ∃ q v, x.step.mayAsk q = true ∧ q.isCall = true ∧
      y = (⟨q, (env.answer q v).1⟩ : Exchange Query.Answer).undated := by
  obtain ⟨z, hz, rfl⟩ := List.mem_map.1 hy
  obtain ⟨hz, hcall⟩ := List.mem_filter.1 hz
  obtain ⟨v, hv⟩ := exists_answer_of_mem_steps hx hz
  obtain ⟨q, r, hadvance, -, -⟩ := Progress.exists_advance_of_mem_records env _ _ _ x hx
  exact ⟨z.question, v, hadvance.mayAsk hz hcall, hcall, congrArg Exchange.undated hv⟩

/-- Surroundings that answer the calls of a step alike whatever has happened do so in any tick. -/
theorem TickStep.AnsweredAlike.answersAlike (h : x.step.AnsweredAlike env env')
    (hx : x ∈ (tickRecord env setup s w).steps) (hx' : x' ∈ (tickRecord env' setup s w').steps) :
    AnswersAlike x.exchanges x'.exchanges := by
  intro front y y' rest rest' hy hy' hquestion
  obtain ⟨q, v, hq, hcall, rfl⟩ := exists_of_mem_calls hx (y := y) (by simp [hy])
  obtain ⟨q', v', -, -, rfl⟩ := exists_of_mem_calls hx' (y := y') (by simp [hy'])
  rcases Exchange.question_of_undated hquestion with rfl | ⟨snapshot, t, rfl, rfl⟩
  · rw [h.same q v v' hq hcall]
  · exact congrArg (fun a => (⟨.commit _, a⟩ : Exchange Query.Answer)) (h.undated _ _ _ _ hq)

end RollupFees
