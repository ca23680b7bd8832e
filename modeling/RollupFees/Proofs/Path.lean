import RollupFees.Service.Query

/-!
# Paths through a dialogue

A path is one way in which a dialogue may go: the questions it asks, an answer to each of them, and
the result that these answers lead to. What holds along every path holds in all surroundings, so
facts about a step of the service are stated along paths, and the surroundings come in only when
steps are put together.

## Main definitions

* `Dialogue.Path d xs a` : the exchanges `xs` lead through `d` to the result `a`
* `Step.Path` : the same for a dialogue that may stop early
* `Dialogue.path_run` : surroundings take a dialogue along one of its paths
-/

namespace RollupFees

namespace Dialogue

variable {Q : Type} {A : Q → Type} {α β σ : Type}

/-- The exchanges lead through a dialogue to a result. -/
def Path : Dialogue A α → List (Exchange A) → α → Prop
  | .done b, xs, a => xs = [] ∧ a = b
  | .ask q next, xs, a => ∃ (r : A q) (ys : _), xs = ⟨q, r⟩ :: ys ∧ (next r).Path ys a

@[simp] theorem path_done (b a : α) (xs : List (Exchange A)) :
    (Dialogue.done b : Dialogue A α).Path xs a ↔ xs = [] ∧ a = b := Iff.rfl

@[simp] theorem path_ask (q : Q) (next : A q → Dialogue A α) (a : α) (xs : List (Exchange A)) :
    (Dialogue.ask q next).Path xs a ↔ ∃ r ys, xs = ⟨q, r⟩ :: ys ∧ (next r).Path ys a := Iff.rfl

/-- A path through a sequence is a path through its first part and one through what follows. -/
theorem path_bind {d : Dialogue A α} {f : α → Dialogue A β} {xs : List (Exchange A)} {b : β} :
    (d.bind f).Path xs b ↔ ∃ ys zs a, xs = ys ++ zs ∧ d.Path ys a ∧ (f a).Path zs b := by
  induction d generalizing xs with
  | done c =>
    constructor
    · intro h
      exact ⟨[], xs, c, rfl, ⟨rfl, rfl⟩, h⟩
    · rintro ⟨ys, zs, a, rfl, ⟨rfl, rfl⟩, h⟩
      exact h
  | ask q next ih =>
    simp only [ask_bind, path_ask, ih]
    constructor
    · rintro ⟨r, ws, rfl, ys, zs, a, rfl, h, h'⟩
      exact ⟨⟨q, r⟩ :: ys, zs, a, rfl, ⟨r, ys, rfl, h⟩, h'⟩
    · rintro ⟨ys, zs, a, rfl, ⟨r, ws, rfl, h⟩, h'⟩
      exact ⟨r, ws ++ zs, rfl, ws, zs, a, rfl, h, h'⟩

/-- What only changes the result asks nothing. -/
theorem path_bind_done {d : Dialogue A α} {f : α → Dialogue A β} {g : α → β}
    (hf : ∀ a, f a = .done (g a)) {xs : List (Exchange A)} {b : β} :
    (d.bind f).Path xs b ↔ ∃ a, d.Path xs a ∧ b = g a := by
  rw [path_bind]
  constructor
  · rintro ⟨ys, zs, a, rfl, h, h'⟩
    rw [hf] at h'
    obtain ⟨rfl, rfl⟩ := h'
    exact ⟨a, by rwa [List.append_nil], rfl⟩
  · rintro ⟨a, h, rfl⟩
    exact ⟨xs, [], a, (List.append_nil xs).symm, h, hf a ▸ ⟨rfl, rfl⟩⟩

theorem path_question {q : Q} {xs : List (Exchange A)} {a : A q} :
    (question q : Dialogue A (A q)).Path xs a ↔ xs = [⟨q, a⟩] := by
  constructor
  · rintro ⟨r, ys, rfl, rfl, rfl⟩
    rfl
  · rintro rfl
    exact ⟨a, [], rfl, rfl, rfl⟩

/-- Surroundings take a dialogue along one of its paths. -/
theorem path_run (env : Answerer A σ) (d : Dialogue A α) (s : σ) :
    d.Path (d.transcript env s) (d.run env s).1 := by
  induction d generalizing s with
  | done a => exact ⟨rfl, rfl⟩
  | ask q next ih => exact ⟨_, _, rfl, ih _ _⟩

/-- What the state of surroundings guarantees of every answer, as long as every answer preserves it,
holds of the exchanges of a dialogue. -/
theorem forall_mem_transcript {env : Answerer A σ} {I : σ → Prop} {P : Exchange A → Prop}
    (henv : ∀ q w, I w → P ⟨q, (env.answer q w).1⟩ ∧ I (env.answer q w).2) (d : Dialogue A α) :
    ∀ w, I w → (∀ x ∈ d.transcript env w, P x) ∧ I (d.run env w).2 := by
  induction d with
  | done a => exact fun w hw => ⟨fun x hx => absurd hx List.not_mem_nil, hw⟩
  | ask q next ih =>
    intro w hw
    obtain ⟨hfirst, hlater⟩ := henv q w hw
    obtain ⟨hrest, hend⟩ := ih _ _ hlater
    exact ⟨List.forall_mem_cons.2 ⟨hfirst, hrest⟩, hend⟩

end Dialogue

namespace Step

variable {α β : Type} {xs : List (Exchange Query.Answer)}

/-- The exchanges lead through a step to a result, or to the reason for stopping. -/
def Path (x : Step α) (xs : List (Exchange Query.Answer)) (r : Except Stop α) : Prop :=
  Dialogue.Path x.run xs r

theorem path_pure {a : α} {r : Except Stop α} :
    Path (pure a) xs r ↔ xs = [] ∧ r = .ok a := Iff.rfl

/-- A path through a sequence stops in its first part, or goes on into what follows. -/
theorem path_bind {x : Step α} {f : α → Step β} {r : Except Stop β} :
    Path (x >>= f) xs r ↔
      (∃ e, Path x xs (.error e) ∧ r = .error e) ∨
        ∃ ys zs a, xs = ys ++ zs ∧ Path x ys (.ok a) ∧ Path (f a) zs r := by
  have h : Path (x >>= f) xs r ↔
      ∃ ys zs a, xs = ys ++ zs ∧ Path x ys a ∧
        Dialogue.Path (ExceptT.bindCont f a) zs r := Dialogue.path_bind
  rw [h]
  constructor
  · rintro ⟨ys, zs, a | a, rfl, hx, hf⟩
    · obtain ⟨rfl, rfl⟩ := hf
      exact .inl ⟨a, by simpa using hx, rfl⟩
    · exact .inr ⟨ys, zs, a, rfl, hx, hf⟩
  · rintro (⟨e, hx, rfl⟩ | ⟨ys, zs, a, rfl, hx, hf⟩)
    · exact ⟨xs, [], .error e, by simp, hx, rfl, rfl⟩
    · exact ⟨ys, zs, .ok a, rfl, hx, hf⟩

/-- A sequence is completed if both of its parts are. -/
theorem path_bind_ok {x : Step α} {f : α → Step β} {b : β} :
    Path (x >>= f) xs (.ok b) ↔
      ∃ ys zs a, xs = ys ++ zs ∧ Path x ys (.ok a) ∧ Path (f a) zs (.ok b) := by
  rw [path_bind]
  constructor
  · rintro (⟨e, -, ⟨⟩⟩ | h)
    exact h
  · exact .inr

theorem path_ask {q : Query} {r : Except Stop q.Answer} :
    Path (ask q) xs r ↔ ∃ a, xs = [⟨q, a⟩] ∧ r = .ok a := by
  constructor
  · rintro ⟨a, ys, rfl, rfl, rfl⟩
    exact ⟨a, rfl, rfl⟩
  · rintro ⟨a, rfl, rfl⟩
    exact ⟨a, [], rfl, rfl, rfl⟩

theorem path_need {talk : Talk (Except Failure α)} {r : Except Stop α} :
    Path (need talk) xs r ↔ ∃ a, talk.Path xs a ∧ r = a.mapError .failed :=
  Dialogue.path_bind_done fun _ => rfl

theorem path_need_ok {talk : Talk (Except Failure α)} {a : α} :
    Path (need talk) xs (.ok a) ↔ talk.Path xs (.ok a) := by
  rw [path_need]
  constructor
  · rintro ⟨_ | a, h, ⟨⟩⟩
    exact h
  · intro h
    exact ⟨.ok a, h, rfl⟩

theorem path_balance_ok {side : Side} {account : Address} {a : Amount} :
    Path (balance side account) xs (.ok a) ↔ xs = [⟨.balance side account, .ok a⟩] :=
  path_need_ok.trans Dialogue.path_question

theorem path_tokenBalance_ok {token holder : Address} {a : Amount} :
    Path (tokenBalance token holder) xs (.ok a) ↔ xs = [⟨.tokenBalance token holder, .ok a⟩] :=
  path_need_ok.trans Dialogue.path_question

theorem path_fail {f : Failure} {r : Except Stop α} :
    Path (fail f) xs r ↔ xs = [] ∧ r = .error (.failed f) := Iff.rfl

theorem path_compute {c : Except Breakdown α} {r : Except Stop α} :
    Path (compute c) xs r ↔ xs = [] ∧ r = c.mapError .broken := Iff.rfl

theorem path_note {n : Notice} {r : Except Stop Unit} :
    Path (note n) xs r ↔ xs = [⟨.note n, ()⟩] ∧ r = .ok () := by
  rw [note, path_ask]
  constructor
  · rintro ⟨⟨⟩, rfl, rfl⟩
    exact ⟨rfl, rfl⟩
  · rintro ⟨rfl, rfl⟩
    exact ⟨(), rfl, rfl⟩

theorem path_notes {ns : List Notice} {r : Except Stop Unit} :
    Path (notes ns) xs r ↔ xs = ns.map (fun n => ⟨.note n, ()⟩) ∧ r = .ok () := by
  induction ns generalizing xs with
  | nil => exact path_pure
  | cons n rest ih =>
    rw [notes, path_bind]
    simp only [path_note, ih]
    constructor
    · rintro (⟨e, ⟨-, ⟨⟩⟩, -⟩ | ⟨ys, zs, a, rfl, ⟨rfl, -⟩, rfl, rfl⟩)
      exact ⟨rfl, rfl⟩
    · rintro ⟨rfl, rfl⟩
      exact .inr ⟨[⟨.note n, ()⟩], _, (), rfl, ⟨rfl, trivial⟩, rfl, rfl⟩

/-! ### The first question of a step -/

theorem path_ask_bind {q : Query} {f : q.Answer → Step β} {r : Except Stop β} :
    Path (ask q >>= f) xs r ↔ ∃ a ys, xs = ⟨q, a⟩ :: ys ∧ Path (f a) ys r := by
  simp only [path_bind, path_ask]
  constructor
  · rintro (⟨e, ⟨a, -, ⟨⟩⟩, -⟩ | ⟨_, zs, a, rfl, ⟨_, rfl, ⟨⟩⟩, h⟩)
    exact ⟨a, zs, rfl, h⟩
  · rintro ⟨a, ys, rfl, h⟩
    exact .inr ⟨[⟨q, a⟩], ys, a, rfl, ⟨a, rfl, rfl⟩, h⟩

theorem path_note_bind {n : Notice} {f : Unit → Step β} {r : Except Stop β} :
    Path (note n >>= f) xs r ↔ ∃ ys, xs = ⟨.note n, ()⟩ :: ys ∧ Path (f ()) ys r := by
  refine path_ask_bind.trans ?_
  constructor
  · rintro ⟨⟨⟩, ys, rfl, h⟩
    exact ⟨ys, rfl, h⟩
  · rintro ⟨ys, rfl, h⟩
    exact ⟨(), ys, rfl, h⟩

theorem path_notes_bind {ns : List Notice} {f : Unit → Step β} {r : Except Stop β} :
    Path (notes ns >>= f) xs r ↔
      ∃ ys, xs = ns.map (fun n => ⟨.note n, ()⟩) ++ ys ∧ Path (f ()) ys r := by
  simp only [path_bind, path_notes]
  constructor
  · rintro (⟨e, ⟨-, ⟨⟩⟩, -⟩ | ⟨_, zs, ⟨⟩, rfl, ⟨rfl, -⟩, h⟩)
    exact ⟨zs, rfl, h⟩
  · rintro ⟨ys, rfl, h⟩
    exact .inr ⟨_, ys, (), rfl, ⟨rfl, trivial⟩, h⟩

theorem path_need_bind {talk : Talk (Except Failure α)} {f : α → Step β} {r : Except Stop β} :
    Path (need talk >>= f) xs r ↔
      (∃ e, talk.Path xs (.error e) ∧ r = .error (.failed e)) ∨
        ∃ ys zs a, xs = ys ++ zs ∧ talk.Path ys (.ok a) ∧ Path (f a) zs r := by
  simp only [path_bind, path_need_ok]
  refine or_congr_left ?_
  constructor
  · rintro ⟨e, h, rfl⟩
    obtain ⟨_ | a, h', ⟨⟩⟩ := path_need.1 h
    exact ⟨_, h', rfl⟩
  · rintro ⟨e, h, rfl⟩
    exact ⟨_, path_need.2 ⟨.error e, h, rfl⟩, rfl⟩

/-! ### Steps in surroundings -/

variable {σ : Type}

/-- What a step comes to in surroundings. -/
def outcome (env : Answerer Query.Answer σ) (x : Step α) (w : σ) : Except Stop α × σ :=
  Dialogue.run env x.run w

theorem outcome_bind (env : Answerer Query.Answer σ) (x : Step α) (f : α → Step β) (w : σ) :
    outcome env (x >>= f) w =
      match outcome env x w with
      | (.ok a, later) => outcome env (f a) later
      | (.error e, later) => (.error e, later) := by
  have h : outcome env (x >>= f) w =
      Dialogue.run env (ExceptT.bindCont f (outcome env x w).1) (outcome env x w).2 :=
    Dialogue.run_bind env x.run _ w
  rw [h]
  rcases outcome env x w with ⟨_ | a, later⟩ <;> rfl

@[simp] theorem outcome_need (env : Answerer Query.Answer σ) (talk : Talk (Except Failure α))
    (w : σ) : outcome env (need talk) w =
      ((talk.run env w).1.mapError .failed, (talk.run env w).2) :=
  Dialogue.run_bind env talk _ w

end Step
end RollupFees
