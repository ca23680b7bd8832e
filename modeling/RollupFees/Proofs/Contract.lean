import RollupFees.Proofs.Path

/-!
# Contracts

A contract is about a dialogue and its surroundings together: as long as every answer is as the
surroundings promise, every question is one that the dialogue is allowed to ask. A dialogue that
honours a contract also says what its result is like, so that contracts of parts are put together
to contracts of whole runs without a look at the surroundings.

## Main definitions

* `Contract` : what is promised of the answers, and what is allowed to be asked
* `Dialogue.Honours`, `Step.Honours` : a dialogue keeps to a contract
* `Dialogue.Asks` : a dialogue keeps to certain questions, whatever it is answered
* `Dialogue.Honours.path` : what a contract says of a path
-/

namespace RollupFees

/-- What surroundings promise of their answers, and what may be asked of them in return. -/
structure Contract {Q : Type} (A : Q → Type) where
  promised : (q : Q) → A q → Prop
  allowed : Q → Prop

/-- Only some questions are allowed, and nothing is promised. -/
def Contract.asking {Q : Type} {A : Q → Type} (P : Q → Prop) : Contract A where
  promised _ _ := True
  allowed := P

namespace Dialogue

variable {Q : Type} {A : Q → Type} {α β σ : Type} {c : Contract A} {post : α → Prop} {P : Q → Prop}

/-- A dialogue keeps to a contract, and comes to a result with some property. -/
def Honours (c : Contract A) (post : α → Prop) : Dialogue A α → Prop
  | .done a => post a
  | .ask q next => c.allowed q ∧ ∀ r, c.promised q r → (next r).Honours c post

/-- A dialogue asks only questions with a property. -/
def Asks (P : Q → Prop) (d : Dialogue A α) : Prop := d.Honours (.asking P) fun _ => True

theorem honours_question {q : Q} {post : A q → Prop} (h : c.allowed q)
    (hpost : ∀ r, c.promised q r → post r) : (question q : Dialogue A (A q)).Honours c post :=
  ⟨h, hpost⟩

theorem honours_of_allowed {q : Q} (h : c.allowed q) :
    (question q : Dialogue A (A q)).Honours c fun _ => True :=
  honours_question h fun _ _ => trivial

theorem Honours.bind {d : Dialogue A α} {f : α → Dialogue A β} {after : β → Prop}
    (hd : d.Honours c post) (hf : ∀ a, post a → (f a).Honours c after) :
    (d.bind f).Honours c after := by
  induction d with
  | done a => exact hf a hd
  | ask q next ih => exact ⟨hd.1, fun r hr => ih r (hd.2 r hr)⟩

/-- A contract may allow more and promise more, and a result may be taken for less. -/
theorem Honours.mono {c' : Contract A} {after : α → Prop} {d : Dialogue A α} (hd : d.Honours c post)
    (hallowed : ∀ q, c.allowed q → c'.allowed q)
    (hpromised : ∀ q r, c'.promised q r → c.promised q r) (hpost : ∀ a, post a → after a) :
    d.Honours c' after := by
  induction d with
  | done a => exact hpost a hd
  | ask q next ih => exact ⟨hallowed q hd.1, fun r hr => ih r (hd.2 r (hpromised q r hr))⟩

theorem Honours.asks {d : Dialogue A α} (hd : d.Honours (.asking P) post) : d.Asks P :=
  hd.mono (fun _ hq => hq) (fun _ _ hr => hr) fun _ _ => trivial

/-- A result is also like the results of all paths. -/
theorem Honours.and_path {after : α → Prop} {d : Dialogue A α} (hd : d.Honours c post)
    (hpath : ∀ xs a, d.Path xs a → after a) : d.Honours c fun a => post a ∧ after a := by
  induction d with
  | done a => exact ⟨hd, hpath [] a ⟨rfl, rfl⟩⟩
  | ask q next ih =>
    refine ⟨hd.1, fun r hr => ih r (hd.2 r hr) fun xs a h => ?_⟩
    exact hpath (⟨q, r⟩ :: xs) a ⟨r, xs, rfl, h⟩

/-- Along a path whose answers are as promised, nothing is asked that is not allowed, and the result
is as expected. -/
theorem Honours.path {d : Dialogue A α} (hd : d.Honours c post) {xs : List (Exchange A)} {a : α}
    (h : d.Path xs a) (hxs : ∀ x ∈ xs, c.promised x.question x.answer) :
    (∀ x ∈ xs, c.allowed x.question) ∧ post a := by
  induction d generalizing xs with
  | done b =>
    obtain ⟨rfl, rfl⟩ := h
    exact ⟨fun x hx => absurd hx List.not_mem_nil, hd⟩
  | ask q next ih =>
    obtain ⟨r, ys, rfl, h⟩ := h
    obtain ⟨hr, hys⟩ := List.forall_mem_cons.1 hxs
    obtain ⟨hallowed, hpost⟩ := ih r (hd.2 r hr) h hys
    exact ⟨List.forall_mem_cons.2 ⟨hd.1, hallowed⟩, hpost⟩

theorem Asks.path {d : Dialogue A α} (hd : d.Asks P) {xs : List (Exchange A)} {a : α}
    (h : d.Path xs a) : ∀ x ∈ xs, P x.question :=
  (Honours.path hd h fun _ _ => trivial).1

/-- Surroundings that keep their promise keep it all the way. -/
theorem promised_of_mem_transcript {env : Answerer A σ}
    (henv : ∀ q w, c.promised q (env.answer q w).1) (d : Dialogue A α) (w : σ) :
    ∀ x ∈ d.transcript env w, c.promised x.question x.answer := by
  induction d generalizing w with
  | done a => exact fun x hx => absurd hx List.not_mem_nil
  | ask q next ih => exact List.forall_mem_cons.2 ⟨henv q w, ih _ _⟩

/-- In surroundings that keep their promise nothing is asked that is not allowed. -/
theorem Honours.transcript {env : Answerer A σ} (henv : ∀ q w, c.promised q (env.answer q w).1)
    {d : Dialogue A α} (hd : d.Honours c post) (w : σ) :
    ∀ x ∈ d.transcript env w, c.allowed x.question :=
  (hd.path (path_run env d w) (promised_of_mem_transcript henv d w)).1

/-- In surroundings that keep their promise the result is as expected. -/
theorem Honours.run {env : Answerer A σ} (henv : ∀ q w, c.promised q (env.answer q w).1)
    {d : Dialogue A α} (hd : d.Honours c post) (w : σ) : post (d.run env w).1 :=
  (hd.path (path_run env d w) (promised_of_mem_transcript henv d w)).2

end Dialogue

namespace Step

variable {α β : Type} {c : Contract Query.Answer} {breaks : Prop} {post : α → Prop}

/-- How a step may end: with a value that has some property, with any failure, or by breaking down
where that is possible. -/
def Ends (breaks : Prop) (post : α → Prop) : Except Stop α → Prop
  | .ok a => post a
  | .error (.failed _) => True
  | .error (.broken _) => breaks

/-- A step keeps to a contract, and comes to a value with some property if it is completed. -/
def Honours (c : Contract Query.Answer) (breaks : Prop) (post : α → Prop) (x : Step α) : Prop :=
  Dialogue.Honours c (Ends breaks post) x.run

theorem honours_pure {a : α} (h : post a) : Honours c breaks post (pure a : Step α) := h

theorem honours_fail (f : Failure) : Honours c breaks post (fail f : Step α) := trivial

/-- A calculation needs an answer only where nothing may break down. -/
theorem honours_compute {r : Except Breakdown α} (h : (∃ a, r = .ok a) ∨ breaks) :
    Honours c breaks (fun _ => True) (compute r) := by
  cases r with
  | ok a => trivial
  | error b =>
    rcases h with ⟨a, ⟨⟩⟩ | h
    exact h

theorem Honours.bind {x : Step α} {f : α → Step β} {after : β → Prop} (hx : Honours c breaks post x)
    (hf : ∀ a, post a → Honours c breaks after (f a)) : Honours c breaks after (x >>= f) := by
  refine Dialogue.Honours.bind hx ?_
  rintro ((failure | b) | a) ha
  · trivial
  · exact ha
  · exact hf a ha

theorem honours_ask {q : Query} {post : q.Answer → Prop} (h : c.allowed q)
    (hpost : ∀ r, c.promised q r → post r) : Honours c breaks post (ask q) := ⟨h, hpost⟩

theorem honours_ask_of_allowed {q : Query} (h : c.allowed q) :
    Honours c breaks (fun _ => True) (ask q) := honours_ask h fun _ _ => trivial

theorem honours_need {talk : Talk (Except Failure α)}
    (h : talk.Honours c fun r => ∀ a, r = .ok a → post a) :
    Honours c breaks post (need talk) := by
  refine Dialogue.Honours.bind h ?_
  rintro (e | a) ha
  · trivial
  · exact ha a rfl

/-- A step that keeps to a contract keeps to its questions, whether or not it may break down. -/
theorem Honours.asks {P : Query → Prop} {x : Step α} (hx : Honours (.asking P) True post x) :
    Dialogue.Asks P x.run :=
  Dialogue.Honours.asks hx

/-- A value whose source is allowed to be asked, and about which nothing is said. -/
theorem honours_read {talk : Talk (Except Failure α)} (h : talk.Honours c fun _ => True) :
    Honours c breaks (fun _ => True) (need talk) :=
  honours_need (h.mono (fun _ hq => hq) (fun _ _ hr => hr) fun _ _ _ _ => trivial)

theorem honours_note (h : ∀ n, c.allowed (.note n)) (n : Notice) :
    Honours c breaks (fun _ => True) (note n) := honours_ask_of_allowed (h n)

theorem honours_notes (h : ∀ n, c.allowed (.note n)) (ns : List Notice) :
    Honours c breaks (fun _ => True) (notes ns) := by
  induction ns with
  | nil => trivial
  | cons n rest ih => exact Honours.bind (honours_note h n) fun _ _ => ih

end Step
end RollupFees
