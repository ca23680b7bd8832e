import RollupFees.Proofs.Steering.Warrant

/-!
# What holds along the loop

Between its steps a loop looks at the clock, pauses, listens for a request to stop and writes log
lines. A property of exchanges that is made up of parts, and that those parts have, holds along the
whole loop as soon as it holds along each step. That is shown here once, for ticks and for services.

## Main definitions

* `Dialogue.Along` : a property of exchanges holds along every path
* `Composes` : a property that is made up of parts

## Main results

* `along_tick`, `along_ticks`, `along_serve` : what steps have, the loop has
-/

namespace RollupFees

/-- Along every path of a dialogue the exchanges have a property. -/
def Dialogue.Along {Q : Type} {A : Q → Type} {α : Type} (P : List (Exchange A) → Prop)
    (d : Dialogue A α) : Prop :=
  ∀ xs a, d.Path xs a → P xs

/-- A property that holds of exchanges if it holds of their parts, and that every single exchange
has which does not belong to a write. -/
structure Composes (P : List (Exchange Query.Answer) → Prop) : Prop where
  nil : P []
  append : ∀ {xs ys}, P xs → P ys → P (xs ++ ys)
  aside : ∀ {x : Exchange Query.Answer}, x.question.isWriting = false → P [x]

variable {α β : Type} {P : List (Exchange Query.Answer) → Prop}

namespace Composes

theorem along_done (hP : Composes P) (a : α) : (Dialogue.done a : Talk α).Along P := by
  rintro xs b ⟨rfl, rfl⟩
  exact hP.nil

theorem along_question (hP : Composes P) {q : Query} (hq : q.isWriting = false) :
    (Dialogue.question q : Talk q.Answer).Along P := by
  intro xs a h
  obtain rfl := Dialogue.path_question.1 h
  exact hP.aside hq

theorem along_bind (hP : Composes P) {d : Talk α} {f : α → Talk β} (hd : d.Along P)
    (hf : ∀ a, (f a).Along P) : (d.bind f).Along P := by
  intro xs b h
  obtain ⟨ys, zs, a, rfl, hfirst, hrest⟩ := Dialogue.path_bind.1 h
  exact hP.append (hd ys a hfirst) (hf a zs b hrest)

theorem of_quiet (hP : Composes P) {xs : List (Exchange Query.Answer)} (h : Quiet xs) : P xs := by
  induction xs with
  | nil => exact hP.nil
  | cons x xs ih =>
    obtain ⟨hx, hxs⟩ := List.forall_mem_cons.1 h
    exact hP.append (hP.aside hx) (ih hxs)

theorem along_notes (hP : Composes P) (ns : List Notice) : (Step.notes ns).run.Along P := by
  intro xs r h
  obtain ⟨rfl, -⟩ := Step.path_notes.1 h
  refine hP.of_quiet fun x hx => ?_
  obtain ⟨n, -, rfl⟩ := List.mem_map.1 hx
  rfl

/-! ### The loop -/

section Loop

variable {setup : Setup} (hP : Composes P)
  (hsteps : ∀ {number p step xs r}, Progress.Advance setup number p step xs r → P xs)

include hP hsteps

theorem along_advanceAll (number : Nat) (steps : List TickStep) :
    ∀ p : Progress, (Progress.advanceAll setup number p steps).Along P := by
  induction steps with
  | nil => exact fun p => hP.along_done _
  | cons step rest ih =>
    intro p
    refine hP.along_bind (fun _ _ h => hsteps (Progress.advance_of_path h)) ?_
    rintro (b | next)
    · exact hP.along_done _
    · exact ih next

theorem along_tick (s : Service) : (tick setup s).Along P := by
  refine hP.along_bind (hP.along_question rfl) fun _ => ?_
  refine hP.along_bind (hP.along_advanceAll hsteps _ _ _) ?_
  rintro (b | p)
  · exact hP.along_done _
  · refine hP.along_bind (hP.along_question rfl) fun _ => ?_
    exact hP.along_bind (hP.along_question rfl) fun _ => hP.along_done _

theorem along_ticks (n : Nat) : ∀ s : Service, (ticks setup s n).Along P := by
  induction n with
  | zero => exact fun s => hP.along_done _
  | succ n ih =>
    intro s
    refine hP.along_bind (hP.along_tick hsteps s) ?_
    rintro (b | ⟨after, report⟩)
    · exact hP.along_done _
    · exact ih after

theorem along_turn (s : Service) : (turn setup s).Along P := by
  refine hP.along_bind (hP.along_question rfl) fun cut => ?_
  split
  · exact hP.along_done _
  · refine hP.along_bind (hP.along_tick hsteps s) ?_
    rintro (b | ⟨after, report⟩)
    · exact hP.along_done _
    · refine hP.along_bind (hP.along_notes _) fun _ => ?_
      exact hP.along_bind (hP.along_question rfl) fun _ => hP.along_done _

/-- What holds along each step holds along a service, however long it runs. -/
theorem along_serve (turns : Nat) : ∀ s : Service, (serve setup s turns).Along P := by
  induction turns with
  | zero => exact fun s => hP.along_done _
  | succ turns ih =>
    intro s
    refine hP.along_bind (hP.along_turn hsteps s) ?_
    rintro (after | after | b)
    · exact ih after
    · exact hP.along_bind (hP.along_question rfl) fun _ => hP.along_done _
    · exact hP.along_done _

end Loop

end Composes
end RollupFees
