import RollupFees.Dialogue

/-!
# Exchanges and the states they meet

What surroundings answer depends on the state that they are in, and the exchanges so far tell which
state that is. A transcript can therefore be read again beside the states: which one a question has
met, and which one it has left behind.

## Main definitions

* `Answerer.after` : the state after exchanges
* `Answerer.dated` : exchanges, each with the state in which its question was put
* `Answerer.Gives` : the answers are those of the surroundings
-/

namespace RollupFees

variable {Q : Type} {A : Q → Type} {α σ : Type}

namespace Answerer

variable {env : Answerer A σ} {xs ys : List (Exchange A)} {x : Exchange A} {w : σ}

/-- The state of surroundings after exchanges. -/
def after (env : Answerer A σ) : List (Exchange A) → σ → σ
  | [], w => w
  | x :: xs, w => env.after xs (env.answer x.question w).2

/-- Exchanges, each with the state in which its question was put. -/
def dated (env : Answerer A σ) : List (Exchange A) → σ → List (σ × Exchange A)
  | [], _ => []
  | x :: xs, w => (w, x) :: env.dated xs (env.answer x.question w).2

/-- Every answer is the one that the surroundings give in the state that they are in by then. -/
def Gives (env : Answerer A σ) : List (Exchange A) → σ → Prop
  | [], _ => True
  | x :: xs, w => x.answer = (env.answer x.question w).1 ∧ env.Gives xs (env.answer x.question w).2

@[simp] theorem after_nil : env.after [] w = w := rfl

@[simp] theorem after_cons :
    env.after (x :: xs) w = env.after xs (env.answer x.question w).2 := rfl

@[simp] theorem dated_nil : env.dated [] w = [] := rfl

@[simp] theorem dated_cons :
    env.dated (x :: xs) w = (w, x) :: env.dated xs (env.answer x.question w).2 := rfl

theorem gives_cons :
    env.Gives (x :: xs) w ↔
      x.answer = (env.answer x.question w).1 ∧ env.Gives xs (env.answer x.question w).2 := Iff.rfl

@[simp] theorem after_append : env.after (xs ++ ys) w = env.after ys (env.after xs w) := by
  induction xs generalizing w with
  | nil => rfl
  | cons x xs ih => exact ih

/-- The states are beside the exchanges, which are all there. -/
@[simp] theorem map_snd_dated (env : Answerer A σ) (xs : List (Exchange A)) (w : σ) :
    (env.dated xs w).map Prod.snd = xs := by
  induction xs generalizing w with
  | nil => rfl
  | cons x xs ih => rw [dated_cons, List.map_cons, ih]

theorem gives_append : env.Gives (xs ++ ys) w ↔ env.Gives xs w ∧ env.Gives ys (env.after xs w) := by
  induction xs generalizing w with
  | nil => simp [Gives]
  | cons x xs ih => simp only [List.cons_append, gives_cons, ih, and_assoc, after_cons]

end Answerer

namespace Dialogue

/-- Answers in a transcript are those of the surroundings. -/
theorem gives_transcript (env : Answerer A σ) (d : Dialogue A α) (w : σ) :
    env.Gives (d.transcript env w) w := by
  induction d generalizing w with
  | done a => trivial
  | ask q next ih => exact ⟨rfl, ih _ _⟩

/-- A run ends in the state that its transcript leads to. -/
theorem after_transcript (env : Answerer A σ) (d : Dialogue A α) (w : σ) :
    env.after (d.transcript env w) w = (d.run env w).2 := by
  induction d generalizing w with
  | done a => rfl
  | ask q next ih => exact ih _ _

end Dialogue
end RollupFees
