import RollupFees.Proofs.Along
import RollupFees.Proofs.Steering.Writes

/-!
# The reading behind an update

An update of a limited parameter is worked out from one reading of it: the reading comes first in
its step, it is the only one, and nothing else of the parameter is handed in between. So every
update of a run has a reading of its own, the last one before it.

## Main definitions

* `Grounded` : every update of a parameter goes back to a reading of its own

## Main results

* `grounded_ticks` : in every run, updates are what is decided about their readings
-/

namespace RollupFees

namespace Parameter

/-- The question that reads a parameter. -/
def question : Parameter → Query
  | .priceRatio => .priceRatio
  | .overhead => .overhead
  | .l1BaseFee => .l1BaseFee

/-- A reading of a parameter that succeeded. -/
def told : Parameter → Amount → Exchange Query.Answer
  | .priceRatio, v => ⟨.priceRatio, .ok v⟩
  | .overhead, v => ⟨.overhead, .ok v⟩
  | .l1BaseFee, v => ⟨.l1BaseFee, .ok v⟩

theorem isReading_question (p : Parameter) : p.question.isReading = true := by cases p <;> rfl

end Parameter

/-- None of the exchanges reads a parameter or hands in an update of it. -/
def Untouched (p : Parameter) (xs : List (Exchange Query.Answer)) : Prop :=
  ∀ x ∈ xs, x.question ≠ p.question ∧ ∀ u, x.submission? = some u → u.parameter ≠ p

/-- Every update of a parameter goes back to a reading of its own, the last one before it, to which
it stands in a relation. -/
def Grounded (p : Parameter) (R : Amount → Amount → Prop) (xs : List (Exchange Query.Answer)) :
    Prop :=
  ∀ ys u r zs, xs = ys ++ ⟨.submit u, r⟩ :: zs → u.parameter = p →
    ∃ earlier current between, ys = earlier ++ p.told current :: between ∧
      Untouched p between ∧ R current u.value

/-- What has been decided about a current value. -/
def Bounds.Decides (bounds : Bounds) (current v : Amount) : Prop :=
  ∃ target, bounds.decide target current = .ok (.setTo v)

variable {p : Parameter} {R : Amount → Amount → Prop} {xs ys : List (Exchange Query.Answer)}

theorem Grounded.of_append (h : Grounded p R (xs ++ ys)) : Grounded p R xs := by
  rintro front u r zs rfl hu
  exact h front u r (zs ++ ys) (by simp) hu

theorem grounded_composes : Composes (Grounded p R) where
  nil := by
    intro ys u r zs h
    simp at h
  append := by
    intro xs ys hx hy front u r zs h hu
    rcases List.append_eq_append_iff.1 h with ⟨gap, rfl, hsplit⟩ | ⟨gap, rfl, hsplit⟩
    · obtain ⟨earlier, current, between, rfl, hbetween, hR⟩ := hy gap u r zs hsplit hu
      exact ⟨xs ++ earlier, current, between, by simp, hbetween, hR⟩
    · cases gap with
      | nil =>
        obtain ⟨earlier, current, between, hnil, -⟩ := hy [] u r zs hsplit.symm hu
        simp at hnil
      | cons x gap =>
        obtain ⟨rfl, -⟩ := List.cons.inj hsplit
        exact hx front u r gap rfl hu
  aside := by
    intro x hx ys u r zs h
    have hmem : (⟨.submit u, r⟩ : Exchange Query.Answer) ∈ [x] := by simp [h]
    obtain rfl := List.mem_singleton.1 hmem
    cases hx

/-! ### The reading of a step -/

variable {c : ControllerSettings} {book : PriceBook} {step : TickStep}
  {reads : List (Exchange Query.Answer)} {u : Update}

/-- What warrants an update of a limited parameter is a reading of it, which comes first and is the
only one, and what is decided about it. -/
theorem Warranted.exists_told (h : Warranted c book step reads u)
    (hu : u.parameter ≠ .l1BaseFee) :
    ∃ current rest, reads = u.parameter.told current :: rest ∧
      (∀ x ∈ rest, x.question ≠ u.parameter.question) ∧
      (c.boundsOf u.parameter).Decides current u.value := by
  obtain ⟨aim, haim, hdecision, heq⟩ := h
  rw [heq] at hu ⊢
  cases haim with
  | priceRatio => exact ⟨_, _, rfl, by simp [Update.parameter, Parameter.question], _, hdecision⟩
  | overhead =>
    refine ⟨_, ⟨.blockNumber, .ok _⟩ :: ⟨.batchEvents _ _, .ok _⟩ :: List.map _ _, rfl, ?_, _,
      hdecision⟩
    simp only [List.forall_mem_cons, List.forall_mem_map]
    exact ⟨nofun, nofun, fun _ _ => nofun⟩
  | l1BaseFee => exact absurd rfl hu

/-- What needs an answer first begins with the question. -/
theorem Step.exists_answer_of_path {α β : Type} {q : Query} {talk : Talk (Except Failure α)}
    {f : α → Step β} {r : Except Stop β} (htalk : ∀ ys a, talk.Path ys a → ∃ b, ys = [⟨q, b⟩])
    (h : Path (need talk >>= f) xs r) : ∃ b rest, xs = ⟨q, b⟩ :: rest := by
  rcases path_need_bind.1 h with ⟨e, hread, -⟩ | ⟨_, rest, current, rfl, hread, -⟩ <;>
    obtain ⟨b, rfl⟩ := htalk _ _ hread
  · exact ⟨b, [], rfl⟩
  · exact ⟨b, rest, rfl⟩

variable {setup : Setup} {s : Service}

/-- A step begins with the reading of its parameter, if that is limited. -/
theorem exists_reading_of_path_runStep {a : Service × StepResult}
    (hstep : step.parameter? = some p) (hp : p ≠ .l1BaseFee)
    (h : (runStep setup s step).Path xs a) : ∃ r rest, xs = ⟨p.question, r⟩ :: rest := by
  cases step with
  | refreshPrices | reconcileL1 | reconcileL2 => cases hstep
  | priceRatio =>
    obtain rfl := Option.some.inj hstep
    obtain ⟨_, _, _, rfl, hran, rfl, -⟩ := Dialogue.path_bind.1 h
    obtain ⟨r, rest, rfl⟩ := Step.exists_answer_of_path
      (fun _ a hread => ⟨a, (Dialogue.path_question (q := Query.priceRatio)).1 hread⟩) hran
    exact ⟨r, rest ++ [], rfl⟩
  | overhead =>
    obtain rfl := Option.some.inj hstep
    obtain ⟨_, _, _, rfl, hran, rfl, -⟩ := Dialogue.path_bind.1 h
    obtain ⟨r, rest, rfl⟩ := Step.exists_answer_of_path
      (fun _ a hread => ⟨a, (Dialogue.path_question (q := Query.overhead)).1 hread⟩) hran
    exact ⟨r, rest ++ [], rfl⟩
  | l1BaseFee => exact absurd (Option.some.inj hstep).symm hp

namespace Progress

variable {number : Nat} {q : Progress} {r : Except Breakdown Progress}

/-- A step of a tick that is not left out begins with the reading of its parameter, right after the
go-ahead. -/
theorem Advance.exists_reading (hstep : step.parameter? = some p) (hp : p ≠ .l1BaseFee)
    (h : Advance setup number q step xs r) :
    xs = [⟨.shutdownRequested, true⟩] ∨
      ∃ a rest, xs = ⟨.shutdownRequested, false⟩ :: ⟨p.question, a⟩ :: rest := by
  have hgo : goAhead step = [⟨.shutdownRequested, false⟩] := by
    rw [goAhead, ← step.parameter?_isSome, hstep]
    rfl
  have hran : ∀ {ys zs a}, (runStep setup q.service step).Path ys a →
      ∃ a rest, goAhead step ++ ys ++ zs =
        ⟨.shutdownRequested, false⟩ :: ⟨p.question, a⟩ :: rest := by
    intro ys zs a ran
    obtain ⟨a, rest, rfl⟩ := exists_reading_of_path_runStep hstep hp ran
    exact ⟨a, rest ++ zs, by simp [hgo]⟩
  cases h with
  | leftOut => exact .inl rfl
  | failed _ ran => exact .inr (hran ran)
  | completed ran | interrupted ran | broken ran =>
    rw [← List.append_nil (goAhead step ++ _)]
    exact .inr (hran ran)

/-- What a step hands in goes back to what it has read first. -/
theorem Advance.grounded (hp : p ≠ .l1BaseFee) (h : Advance setup number q step xs r) :
    Grounded p (setup.controller.boundsOf p).Decides xs := by
  rintro ys u a zs rfl rfl
  obtain ⟨outcome, hsteered, -⟩ := h.exists_steered
  obtain hnone | ⟨u', hwarranted, hone⟩ := hsteered.submitted
  · simp [submissions, Exchange.submission?] at hnone
  obtain ⟨hys, rfl⟩ : submissions ys = [] ∧ u = u' := by
    have hcons : submissions (⟨.submit u, a⟩ :: zs) = u :: submissions zs := rfl
    rw [submissions_append, hcons] at hone
    obtain ⟨hys, hu⟩ | ⟨-, hnil⟩ := List.append_eq_singleton_iff.1 hone
    · exact ⟨hys, (List.cons.inj hu).1⟩
    · cases hnil
  obtain ⟨current, rest, hreads, honly, hdecides⟩ := hwarranted.exists_told hp
  obtain hleft | ⟨b, later, hxs⟩ := h.exists_reading hwarranted.parameter hp
  · simp [List.append_eq_singleton_iff] at hleft
  -- the go-ahead and the reading come before the update
  rcases ys with _ | ⟨go, _ | ⟨reading, between⟩⟩
  · cases hxs
  · obtain ⟨-, hread⟩ := List.cons.inj hxs
    have hquestion : Query.submit u = u.parameter.question :=
      congrArg Exchange.question (List.cons.inj hread).1
    have hreading := u.parameter.isReading_question
    rw [← hquestion] at hreading
    cases hreading
  · obtain ⟨rfl, hread⟩ := List.cons.inj hxs
    obtain ⟨rfl, -⟩ := List.cons.inj hread
    have hcons : chainReads (⟨u.parameter.question, b⟩ :: (between ++ ⟨.submit u, a⟩ :: zs)) =
        ⟨u.parameter.question, b⟩ :: (chainReads between ++ chainReads (⟨.submit u, a⟩ :: zs)) := by
      rw [← chainReads_append]
      exact List.filter_cons_of_pos u.parameter.isReading_question
    obtain ⟨htold, hrest⟩ := List.cons.inj (hcons.symm.trans hreads)
    refine ⟨[⟨.shutdownRequested, false⟩], current, between, by rw [← htold]; rfl, ?_, hdecides⟩
    intro x hx
    constructor
    · intro hquestion
      have hreading : x ∈ chainReads between :=
        List.mem_filter.2 ⟨hx, hquestion ▸ u.parameter.isReading_question⟩
      exact honly x (hrest ▸ List.mem_append_left _ hreading) hquestion
    · intro u' hu'
      have hnone := List.filterMap_eq_nil_iff.1 hys x (.tail _ (.tail _ hx))
      rw [hu'] at hnone
      cases hnone

end Progress

/-- In every run, each update of a limited parameter is what is decided about a reading of its own,
the last one before it. -/
theorem grounded_ticks (hp : p ≠ .l1BaseFee) (n : Nat) (s : Service) :
    (ticks setup s n).Along (Grounded p (setup.controller.boundsOf p).Decides) :=
  grounded_composes.along_ticks (Progress.Advance.grounded hp) n s

end RollupFees
