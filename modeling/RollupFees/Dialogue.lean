/-!
# Dialogues

A dialogue is a computation that asks its surroundings one question at a time and goes on with
each answer. The surroundings are left open: the same dialogue is run against a live chain, a
rehearsal, or an arbitrary answerer in a theorem.

## Main definitions

* `Dialogue A α` : questions `q : Q`, answers in `A q`, and a result in `α`
* `Dialogue.run` : the result under an answerer that carries a state
* `Dialogue.runM` : the result when every question is answered in a monad
* `Dialogue.transcript` : the questions asked on the way, with the answers they got
* `Dialogue.through` : a dialogue whose questions are answered by dialogues with other surroundings
-/

namespace RollupFees

/-- A finished result, or a question with what follows for each answer. -/
inductive Dialogue {Q : Type} (A : Q → Type) (α : Type) : Type
  | done (value : α)
  | ask (question : Q) (next : A question → Dialogue A α)

/-- Surroundings with a state of type `σ` that answer every question. -/
structure Answerer {Q : Type} (A : Q → Type) (σ : Type) where
  answer : (question : Q) → σ → A question × σ

/-- One question with the answer that it got. -/
structure Exchange {Q : Type} (A : Q → Type) where
  question : Q
  answer : A question

namespace Dialogue

variable {Q : Type} {A : Q → Type} {α β σ : Type}

/-- Go on with `f` once `d` is done. -/
def bind (d : Dialogue A α) (f : α → Dialogue A β) : Dialogue A β :=
  match d with
  | .done a => f a
  | .ask q next => .ask q fun a => (next a).bind f

instance : Monad (Dialogue A) where
  pure := .done
  bind := bind

/-- Ask one question and return its answer. -/
def question (q : Q) : Dialogue A (A q) := .ask q .done

/-- The result and the state that the answerer ends in. -/
def run (env : Answerer A σ) : Dialogue A α → σ → α × σ
  | .done a, s => (a, s)
  | .ask q next, s => (next (env.answer q s).1).run env (env.answer q s).2

/-- The result when every question is answered in a monad. -/
def runM {m : Type → Type} [Monad m] (answer : (q : Q) → m (A q)) : Dialogue A α → m α
  | .done a => pure a
  | .ask q next => do (next (← answer q)).runM answer

/-- The questions asked while `env` answers, in order, with their answers. -/
def transcript (env : Answerer A σ) : Dialogue A α → σ → List (Exchange A)
  | .done _, _ => []
  | .ask q next, s =>
    ⟨q, (env.answer q s).1⟩ :: (next (env.answer q s).1).transcript env (env.answer q s).2

/-- The dialogue in which every question is settled by a dialogue with other surroundings. -/
def through {R : Type} {B : R → Type} (settle : (q : Q) → Dialogue B (A q)) :
    Dialogue A α → Dialogue B α
  | .done a => .done a
  | .ask q next => (settle q).bind fun a => (next a).through settle

@[simp] theorem pure_eq_done (a : α) : (pure a : Dialogue A α) = .done a := rfl

@[simp] theorem bind_eq (d : Dialogue A α) (f : α → Dialogue A β) : d >>= f = d.bind f := rfl

@[simp] theorem done_bind (a : α) (f : α → Dialogue A β) :
    (Dialogue.done a : Dialogue A α).bind f = f a := rfl

@[simp] theorem ask_bind (q : Q) (next : A q → Dialogue A α) (f : α → Dialogue A β) :
    (Dialogue.ask q next).bind f = .ask q fun a => (next a).bind f := rfl

theorem bind_assoc {γ : Type} (d : Dialogue A α) (f : α → Dialogue A β) (g : β → Dialogue A γ) :
    (d.bind f).bind g = d.bind fun a => (f a).bind g := by
  induction d with
  | done a => rfl
  | ask q next ih => exact congrArg (ask q) (funext ih)

@[simp] theorem run_done (env : Answerer A σ) (a : α) (s : σ) :
    (Dialogue.done a : Dialogue A α).run env s = (a, s) := rfl

@[simp] theorem run_ask (env : Answerer A σ) (q : Q) (next : A q → Dialogue A α) (s : σ) :
    (Dialogue.ask q next).run env s =
      (next (env.answer q s).1).run env (env.answer q s).2 := rfl

/-- A sequence of two dialogues runs one after the other. -/
@[simp] theorem run_bind (env : Answerer A σ) (d : Dialogue A α) (f : α → Dialogue A β) (s : σ) :
    (d.bind f).run env s = (f (d.run env s).1).run env (d.run env s).2 := by
  induction d generalizing s with
  | done a => rfl
  | ask q next ih => exact ih _ _

@[simp] theorem run_question (env : Answerer A σ) (q : Q) (s : σ) :
    (question q : Dialogue A (A q)).run env s = env.answer q s := rfl

/-- The exchanges of a sequence are those of its parts in order. -/
@[simp] theorem transcript_bind (env : Answerer A σ) (d : Dialogue A α) (f : α → Dialogue A β)
    (s : σ) :
    (d.bind f).transcript env s =
      d.transcript env s ++ (f (d.run env s).1).transcript env (d.run env s).2 := by
  induction d generalizing s with
  | done a => rfl
  | ask q next ih => simp [transcript, ih]

end Dialogue
end RollupFees
