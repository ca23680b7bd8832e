import RollupFees.Proofs.Contract
import RollupFees.Proofs.Shutdown.Heed

/-!
# What was called, and the same answers to it

A step calls: it reads from chains and feeds, it hands in updates and waits for them, and it commits
snapshots. Besides that it looks at the clock, writes log lines and asks whether a stop is
requested. Two runs answer the calls of a step alike if, as long as they have made the same calls
and got the same answers, the next call has the same answer in both, if it is the same. Nothing is
assumed of how the two runs answer anything else, of the time on their clocks, or of calls that only
one of them makes.

A step whose calls are answered alike makes the same calls and comes to the same result. Here this
is said of dialogues and of their parts, so that it can be shown of a step part by part.

## Main definitions

* `Query.isCall`, `calls` : what a step calls
* `AnswersAlike` : the same answers to the same calls
* `Calm` : nothing tells of a request to stop
* `Dialogue.Matched`, `Step.Matched` : alike answers lead two dialogues through the same calls to
  results that match

## Main results

* `Dialogue.Matched.bind` : dialogues match if their parts do
* `Dialogue.matched_self` : a dialogue without a look at the clock matches itself
-/

namespace RollupFees

/-! ### Calls -/

/-- Whether a question goes to a chain, a feed or the store. -/
def Query.isCall : Query → Bool
  | .note _ | .now | .uptime | .shutdownRequested | .pause _ => false
  | _ => true

/-- Whether the answer to a question has nothing to do with a clock. -/
def Query.isTimeless : Query → Bool
  | .now | .uptime | .pause _ => false
  | _ => true

/-- An exchange as it would be at the beginning of time. Only the commit of a snapshot tells the
time. -/
def Exchange.undated : Exchange Query.Answer → Exchange Query.Answer
  | ⟨.commit s, r⟩ => ⟨.commit { s with updatedAt := Timestamp.epoch }, r⟩
  | x => x

/-- What was called, in order, with the answers. Snapshots are compared without their time. -/
def calls (xs : List (Exchange Query.Answer)) : List (Exchange Query.Answer) :=
  (xs.filter fun x => x.question.isCall).map Exchange.undated

/-- As long as the same calls have been made with the same answers, the same next call has the same
answer. -/
def AnswersAlike (xs ys : List (Exchange Query.Answer)) : Prop :=
  ∀ front x y rest rest', calls xs = front ++ x :: rest → calls ys = front ++ y :: rest' →
    x.question = y.question → x = y

/-- Nothing tells of a request to stop. -/
def Calm (xs : List (Exchange Query.Answer)) : Prop := ∀ x ∈ xs, ¬ x.IsSummons

variable {xs ys zs ws : List (Exchange Query.Answer)}

@[simp] theorem calls_nil : calls [] = [] := rfl

@[simp] theorem calls_append (xs ys : List (Exchange Query.Answer)) :
    calls (xs ++ ys) = calls xs ++ calls ys := by
  simp [calls]

theorem calls_cons_of_isCall {x : Exchange Query.Answer} (hx : x.question.isCall = true)
    (xs : List (Exchange Query.Answer)) : calls (x :: xs) = x.undated :: calls xs := by
  simp [calls, hx]

@[simp] theorem calls_notes (ns : List Notice) : calls (ns.map fun n => ⟨.note n, ()⟩) = [] := by
  simp [calls, Query.isCall]

/-- What is answered alike is answered alike up to any point. -/
theorem AnswersAlike.of_append (h : AnswersAlike (xs ++ ys) (zs ++ ws)) : AnswersAlike xs zs := by
  intro front x y rest rest' hx hy hquestion
  refine h front x y (rest ++ calls ys) (rest' ++ calls ws) ?_ ?_ hquestion
  · simp [hx]
  · simp [hy]

/-- What is answered alike is answered alike after the same calls. -/
theorem AnswersAlike.after (h : AnswersAlike (xs ++ ys) (zs ++ ws)) (hcalls : calls xs = calls zs) :
    AnswersAlike ys ws := by
  intro front x y rest rest' hx hy hquestion
  refine h (calls xs ++ front) x y rest rest' ?_ ?_ hquestion
  · simp [hx]
  · simp [hy, hcalls]

/-- Only what was called matters. -/
theorem AnswersAlike.congr (h : AnswersAlike xs ys) (hxs : calls zs = calls xs)
    (hys : calls ws = calls ys) : AnswersAlike zs ws := by
  intro front x y rest rest' hx hy hquestion
  exact h front x y rest rest' (hxs ▸ hx) (hys ▸ hy) hquestion

theorem Calm.of_append (h : Calm (xs ++ ys)) : Calm xs ∧ Calm ys :=
  List.forall_mem_append.1 h

theorem Progress.eq_of_mem_goAhead {step : TickStep} {x : Exchange Query.Answer}
    (h : x ∈ goAhead step) : x = ⟨.shutdownRequested, false⟩ := by
  rw [goAhead] at h
  split at h
  · exact List.mem_singleton.1 h
  · cases h

theorem Exchange.answer_eq_of_undated {q : Query} {a b : q.Answer}
    (h : (⟨q, a⟩ : Exchange Query.Answer).undated = (⟨q, b⟩ : Exchange _).undated) : a = b := by
  cases q <;> simp_all [undated]

/-! ### Dialogues that match -/

variable {α α' β β' : Type}

namespace Dialogue

/-- Answers that are alike lead two dialogues through the same calls to results that match, as long
as no stop is requested. -/
def Matched (R : α → α' → Prop) (d : Talk α) (d' : Talk α') : Prop :=
  ∀ xs a ys b, d.Path xs a → d'.Path ys b → Calm xs → Calm ys → AnswersAlike xs ys →
    calls xs = calls ys ∧ R a b

variable {R : α → α' → Prop} {S : β → β' → Prop} {d : Talk α} {d' : Talk α'}

theorem matched_done {a : α} {b : α'} (h : R a b) : Matched R (.done a) (.done b) := by
  rintro xs a' ys b' ⟨rfl, rfl⟩ ⟨rfl, rfl⟩ - - -
  exact ⟨rfl, h⟩

/-- **Dialogues match if their parts do.** -/
theorem Matched.bind {f : α → Talk β} {g : α' → Talk β'} (h : Matched R d d')
    (hnext : ∀ a b, R a b → Matched S (f a) (g b)) : Matched S (d.bind f) (d'.bind g) := by
  intro xs c ys c' hx hy hcalm hcalm' halike
  obtain ⟨xs₁, xs₂, a, rfl, hfirst, hrest⟩ := path_bind.1 hx
  obtain ⟨ys₁, ys₂, b, rfl, hfirst', hrest'⟩ := path_bind.1 hy
  obtain ⟨hcalm₁, hcalm₂⟩ := hcalm.of_append
  obtain ⟨hcalm₁', hcalm₂'⟩ := hcalm'.of_append
  obtain ⟨hcalls, hR⟩ := h _ _ _ _ hfirst hfirst' hcalm₁ hcalm₁' halike.of_append
  obtain ⟨hcalls', hS⟩ := hnext a b hR _ _ _ _ hrest hrest' hcalm₂ hcalm₂' (halike.after hcalls)
  exact ⟨by simp [hcalls, hcalls'], hS⟩

theorem Matched.mono {R' : α → α' → Prop} (h : Matched R d d') (hR : ∀ a b, R a b → R' a b) :
    Matched R' d d' := by
  intro xs a ys b hx hy hcalm hcalm' halike
  obtain ⟨hcalls, hab⟩ := h xs a ys b hx hy hcalm hcalm' halike
  exact ⟨hcalls, hR a b hab⟩

/-- The same call has the same answer. -/
theorem matched_call {q : Query} (hq : q.isCall = true) :
    Matched Eq (question q) (question q) := by
  intro xs a ys b hx hy _ _ halike
  obtain rfl := path_question.1 hx
  obtain rfl := path_question.1 hy
  have hsame : (⟨q, a⟩ : Exchange Query.Answer).undated = (⟨q, b⟩ : Exchange _).undated := by
    refine halike [] _ _ [] [] ?_ ?_ ?_
    · simp [calls_cons_of_isCall, hq]
    · simp [calls_cons_of_isCall, hq]
    · cases q <;> rfl
  have hanswer := Exchange.answer_eq_of_undated hsame
  exact ⟨by rw [hanswer], hanswer⟩

/-- Whatever is no call is asked without a trace. -/
theorem matched_aside {q q' : Query} (hq : q.isCall = false) (hq' : q'.isCall = false) :
    Matched (fun _ _ => True) (question q) (question q') := by
  intro xs a ys b hx hy _ _ _
  obtain rfl := path_question.1 hx
  obtain rfl := path_question.1 hy
  exact ⟨by simp [calls, hq, hq'], trivial⟩

/-- Where no stop is requested, none is heard of. -/
theorem matched_shutdownRequested : Matched (fun a b => a = false ∧ b = false)
    (question Query.shutdownRequested) (question Query.shutdownRequested) := by
  intro xs a ys b hx hy hcalm hcalm' _
  obtain rfl := path_question.1 hx
  obtain rfl := path_question.1 hy
  refine ⟨rfl, ?_, ?_⟩
  · cases a with
    | false => rfl
    | true => exact absurd .told (hcalm _ (List.mem_singleton_self _))
  · cases b with
    | false => rfl
    | true => exact absurd .told (hcalm' _ (List.mem_singleton_self _))

/-- **A dialogue without a look at the clock matches itself.** -/
theorem matched_self {d : Talk α} (h : d.Asks fun q => q.isTimeless = true) : Matched Eq d d := by
  induction d with
  | done a => exact matched_done rfl
  | ask q next ih =>
    obtain ⟨hq, hnext⟩ := h
    have hrest : ∀ a, Matched Eq (next a) (next a) := fun a => ih a (hnext a trivial)
    -- the first question has the same answer on both sides
    have hfirst : Matched Eq (question q) (question q) := by
      cases q with
      | note n => exact (matched_aside rfl rfl).mono fun _ _ _ => rfl
      | shutdownRequested =>
        exact matched_shutdownRequested.mono fun _ _ h => h.1.trans h.2.symm
      | now | uptime | pause => cases hq
      | _ => exact matched_call rfl
    refine Matched.bind (f := next) (g := next) hfirst fun a b hab => ?_
    rw [← hab]
    exact hrest a

end Dialogue

namespace Step

/-- Results of two steps match: both are completed with values that match, or both stop for the same
reason. -/
def Agree (R : α → α' → Prop) : Except Stop α → Except Stop α' → Prop
  | .ok a, .ok b => R a b
  | .error e, .error e' => e = e'
  | _, _ => False

/-- Answers that are alike lead two steps through the same calls to results that match, as long as
no stop is requested. -/
def Matched (R : α → α' → Prop) (x : Step α) (x' : Step α') : Prop :=
  Dialogue.Matched (Agree R) x.run x'.run

variable {R : α → α' → Prop} {S : β → β' → Prop} {x : Step α} {x' : Step α'}

theorem agree_refl (r : Except Stop α) : Agree Eq r r := by
  cases r <;> rfl

theorem matched_pure {a : α} {b : α'} (h : R a b) : Matched R (pure a) (pure b) :=
  Dialogue.matched_done h

theorem matched_fail (f : Failure) : Matched R (fail f) (fail f) := Dialogue.matched_done rfl

theorem Matched.bind {f : α → Step β} {g : α' → Step β'} (h : Matched R x x')
    (hnext : ∀ a b, R a b → Matched S (f a) (g b)) : Matched S (x >>= f) (x' >>= g) := by
  refine Dialogue.Matched.bind h fun r r' hr => ?_
  cases r <;> cases r'
  · exact Dialogue.matched_done hr
  · exact hr.elim
  · exact hr.elim
  · exact hnext _ _ hr

/-- A step without a look at the clock matches itself. -/
theorem matched_self {x : Step α} (h : Dialogue.Asks (fun q => q.isTimeless = true) x.run) :
    Matched Eq x x := by
  refine (Dialogue.matched_self h).mono fun r r' hr => ?_
  rw [hr]
  exact agree_refl r'

theorem matched_ask {q q' : Query} {R : q.Answer → q'.Answer → Prop}
    (h : Dialogue.Matched R (Dialogue.question q) (Dialogue.question q')) :
    Matched R (ask q) (ask q') := by
  intro xs r ys r' hx hy hcalm hcalm' halike
  obtain ⟨a, rfl, rfl⟩ := path_ask.1 hx
  obtain ⟨b, rfl, rfl⟩ := path_ask.1 hy
  exact h _ _ _ _ (Dialogue.path_question.2 rfl) (Dialogue.path_question.2 rfl) hcalm hcalm' halike

/-- Log lines are written without a trace. -/
theorem matched_notes (ns ns' : List Notice) :
    Matched (fun _ _ => True) (notes ns) (notes ns') := by
  intro xs r ys r' hx hy _ _ _
  obtain ⟨rfl, rfl⟩ := path_notes.1 hx
  obtain ⟨rfl, rfl⟩ := path_notes.1 hy
  exact ⟨by simp, trivial⟩

theorem matched_note (n n' : Notice) : Matched (fun _ _ => True) (note n) (note n') :=
  matched_notes [n] [n']

end Step

end RollupFees
