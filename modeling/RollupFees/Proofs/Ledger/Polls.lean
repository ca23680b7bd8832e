import RollupFees.Proofs.Ledger.Alignment

/-!
# What missed polls cost

A counter sees a balance only when it is polled. What comes in between two polls and has gone out
again by the second one is not counted either way, so that polling less often counts less, and what
is lost is lost both ways: the difference between what goes out and what comes in is the difference
between the first balance and the last one, however often the balance was polled. Nothing is lost
where a balance only rises, or only falls, between the polls that took place.

Polls that took place and polls that were missed are kept in one list. A list of polls whose first
and last one took place falls into gaps, each with the polls that were missed between two that took
place, and everything is shown by going through the gaps (`gaps_induction`).

## Main definitions

* `Poll` : a balance at a time, and whether it was seen
* `Flow.tally` : a counter that is brought up to date with one poll after the other
* `IsSteady` : no balance turns back between two polls that took place
* `AddsUp` : what a counter comes to, in both flows

## Main results

* `shortfall_of_missed` : what missed polls cost
-/

namespace RollupFees

/-- A poll of a balance, with the base line that is offered for a counter without history. The poll
took place, or it was missed. -/
structure Poll where
  balance : Amount
  baseline : Amount
  met : Bool

/-- A counter on its way: its state, and what it has gained so far. -/
structure Tally where
  state : Option CounterState
  gained : Nat

/-- A counter brought up to date with one more poll. -/
def Flow.poll (flow : Flow) (t : Tally) (p : Poll) : Tally :=
  let (next, gained) := flow.reconcile p.balance t.state p.baseline
  ⟨some next, t.gained + gained.toNat⟩

/-- A counter without history brought up to date with one poll after the other. -/
def Flow.tally (flow : Flow) (polls : List Poll) : Tally := polls.foldl flow.poll ⟨none, 0⟩

/-- The first and the last poll took place. -/
def EndsMet (polls : List Poll) : Prop :=
  (∀ p ∈ polls.head?, p.met = true) ∧ ∀ p ∈ polls.getLast?, p.met = true

/-- Balances that only rise, or only fall. -/
def IsDirect (balances : List Amount) : Prop :=
  balances.Pairwise (fun a b => a ≤ b) ∨ balances.Pairwise (fun a b => b ≤ a)

/-- Where polls were missed, the balance has only risen, or only fallen, from the last poll that
took place before to the first one after. -/
def IsSteady (polls : List Poll) : Prop :=
  ∀ earlier a missed b later, polls = earlier ++ a :: (missed ++ b :: later) → a.met = true →
    b.met = true → (∀ p ∈ missed, p.met = false) →
    IsDirect ((a :: (missed ++ [b])).map Poll.balance)

/-! ### What a sequence of balances moves -/

namespace Flow

variable (flow : Flow) (first last : Amount) (missed : List Amount)

/-- A detour does not move less. -/
theorem movement_triangle (a b c : Nat) :
    flow.movement a c ≤ flow.movement a b + flow.movement b c := by
  cases flow <;> simp only [movement] <;> omega

theorem movement_le_moved :
    flow.movement first.toNat last.toNat ≤ flow.moved (first :: (missed ++ [last])) := by
  induction missed generalizing first with
  | nil => simp [moved]
  | cons next rest ih =>
    calc flow.movement first.toNat last.toNat
        ≤ flow.movement first.toNat next.toNat + flow.movement next.toNat last.toNat :=
          flow.movement_triangle _ _ _
      _ ≤ flow.movement first.toNat next.toNat + flow.moved (next :: (rest ++ [last])) :=
          Nat.add_le_add_left (ih next) _

/-- Balances none of which moves on to a later one in the direction of the flow. -/
theorem moved_eq_zero {seen : List Amount}
    (h : seen.Pairwise fun a b => flow.movement a.toNat b.toNat = 0) : flow.moved seen = 0 := by
  induction seen with
  | nil => rfl
  | cons a rest ih =>
    obtain ⟨hfirst, hrest⟩ := List.pairwise_cons.1 h
    cases rest with
    | nil => rfl
    | cons b rest => rw [moved, ih hrest, hfirst b List.mem_cons_self]

/-- Balances that do not turn back move what the first and the last one tell. -/
theorem moved_of_isDirect (h : IsDirect (first :: (missed ++ [last]))) :
    flow.moved (first :: (missed ++ [last])) = flow.movement first.toNat last.toNat := by
  have hlast : (first :: (missed ++ [last])).getLast? = some last :=
    List.getLast?_concat (l := first :: missed)
  have hboth := add_moved_inflow first last (missed ++ [last]) hlast
  rcases h with hrising | hfalling
  · -- nothing has gone out, so that both tell what came in
    have hnone := outflow.moved_eq_zero (hrising.imp Nat.sub_eq_zero_of_le)
    cases flow <;> simp only [movement] <;> omega
  · have hnone := inflow.moved_eq_zero (hfalling.imp Nat.sub_eq_zero_of_le)
    cases flow <;> simp only [movement] <;> omega

/-! ### What a counter gains -/

/-- A counter with history gains what its balances move, and its total grows by that. -/
theorem foldl_poll (rest : List Poll) (before : Amount) (total gained : Nat) :
    rest.foldl flow.poll (Tally.mk (some ⟨before, Amount.clamp total⟩) gained) =
      ⟨some ⟨(rest.map Poll.balance).getLastD before,
          Amount.clamp (total + flow.moved (before :: rest.map Poll.balance))⟩,
        gained + flow.moved (before :: rest.map Poll.balance)⟩ := by
  induction rest generalizing before total gained with
  | nil => simp [moved]
  | cons p rest ih =>
    simp only [List.foldl_cons, poll, reconcile_some, Amount.clamp_satAdd, toNat_accrued, ih,
      List.map_cons, List.getLastD_cons, moved, Nat.add_assoc]

/-- A counter without history starts from the base line of the first poll. -/
theorem tally_cons (p : Poll) (rest : List Poll) : flow.tally (p :: rest) =
    ⟨some ⟨(rest.map Poll.balance).getLastD p.balance,
        Amount.clamp (p.baseline.toNat + flow.moved ((p :: rest).map Poll.balance))⟩,
      flow.moved ((p :: rest).map Poll.balance)⟩ := by
  have hstart := flow.foldl_poll rest p.balance p.baseline.toNat 0
  rw [Amount.clamp_toNat, Nat.zero_add] at hstart
  exact hstart

theorem gained_tally (polls : List Poll) :
    (flow.tally polls).gained = flow.moved (polls.map Poll.balance) := by
  cases polls with
  | nil => rfl
  | cons p rest => rw [tally_cons]

end Flow

/-! ### Gaps -/

/-- What holds of a single poll, and along every gap, holds of all polls whose first and last one
took place. -/
theorem gaps_induction {P : List Poll → Prop} (nil : P [])
    (single : ∀ a : Poll, a.met = true → P [a])
    (gap : ∀ (a : Poll) (missed : List Poll) (b : Poll) (later : List Poll), a.met = true →
      (∀ p ∈ missed, p.met = false) → b.met = true → P (b :: later) →
      P (a :: (missed ++ b :: later))) :
    ∀ polls : List Poll, EndsMet polls → P polls
  | [], _ => nil
  | a :: rest, ⟨hfirst, hlast⟩ => by
    have ha : a.met = true := hfirst a rfl
    cases hnext : rest.find? Poll.met with
    | none =>
      -- the last poll took place, so that it is the first one
      obtain rfl : rest = [] := by
        rw [List.eq_nil_iff_forall_not_mem]
        intro p hp
        have hmem := List.getLast_mem (List.ne_nil_of_mem hp)
        refine List.find?_eq_none.1 hnext _ hmem (hlast _ ?_)
        simp [List.getLast?_cons, List.getLast?_eq_some_getLast (List.ne_nil_of_mem hp)]
      exact single a ha
    | some b =>
      obtain ⟨hb, missed, later, hrest, hmissed⟩ := List.find?_eq_some_iff_append.1 hnext
      have hmet : b.met = true := by simpa using hb
      have hends : EndsMet (b :: later) := by
        refine ⟨by simpa using hmet, fun p hp => hlast p ?_⟩
        rw [hrest, ← List.cons_append, List.getLast?_append, hp]
        exact Option.some_or
      have hshorter : later.length < rest.length := by
        rw [hrest, List.length_append, List.length_cons]
        omega
      have hlater : P (b :: later) := gaps_induction nil single gap (b :: later) hends
      rw [hrest]
      exact gap a missed b later ha (by simpa using hmissed) hmet hlater
termination_by polls => polls.length
decreasing_by
  simp only [List.length_cons]
  omega

section Gap

variable {a b : Poll} {missed later : List Poll}

theorem filter_gap (ha : a.met = true) (hmissed : ∀ p ∈ missed, p.met = false) :
    (a :: (missed ++ b :: later)).filter Poll.met = a :: (b :: later).filter Poll.met := by
  have hnone : missed.filter Poll.met = [] := by simpa using hmissed
  rw [List.filter_cons_of_pos ha, List.filter_append, hnone, List.nil_append]

/-- All polls move what those of a gap move and what those after it move. -/
theorem Flow.moved_gap (flow : Flow) : flow.moved ((a :: (missed ++ b :: later)).map Poll.balance) =
    flow.moved ((a :: (missed ++ [b])).map Poll.balance) +
      flow.moved ((b :: later).map Poll.balance) := by
  simpa using flow.moved_append_cons ((a :: missed).map Poll.balance) b.balance
    (later.map Poll.balance)

/-- Without the missed ones, the polls of a gap move what its ends tell. -/
theorem Flow.moved_filter_gap (flow : Flow) (ha : a.met = true)
    (hmissed : ∀ p ∈ missed, p.met = false) (hb : b.met = true) :
    flow.moved (((a :: (missed ++ b :: later)).filter Poll.met).map Poll.balance) =
      flow.movement a.balance.toNat b.balance.toNat +
        flow.moved (((b :: later).filter Poll.met).map Poll.balance) := by
  rw [filter_gap ha hmissed, List.filter_cons_of_pos hb]
  rfl

theorem IsSteady.isDirect (h : IsSteady (a :: (missed ++ b :: later))) (ha : a.met = true)
    (hmissed : ∀ p ∈ missed, p.met = false) (hb : b.met = true) :
    IsDirect ((a :: (missed ++ [b])).map Poll.balance) :=
  h [] a missed b later rfl ha hb hmissed

theorem IsSteady.after_gap (h : IsSteady (a :: (missed ++ b :: later))) :
    IsSteady (b :: later) := by
  intro earlier a' missed' b' later' heq
  exact h (a :: missed ++ earlier) a' missed' b' later' (by simp [heq])

end Gap

/-! ### Polls that were missed -/

namespace EndsMet

variable {polls : List Poll} (h : EndsMet polls)
include h

/-- The last balance is seen in any case. -/
theorem getLast?_filter : (polls.filter Poll.met).getLast? = polls.getLast? := by
  rcases List.eq_nil_or_concat polls with rfl | ⟨earlier, b, rfl⟩
  · rfl
  · have hb : b.met = true := h.2 b (by simp)
    simp [hb]

/-- The polls that took place move no more than all of them. -/
theorem moved_filter_le (flow : Flow) :
    flow.moved ((polls.filter Poll.met).map Poll.balance) ≤
      flow.moved (polls.map Poll.balance) := by
  refine gaps_induction (P := fun polls => flow.moved ((polls.filter Poll.met).map Poll.balance) ≤
    flow.moved (polls.map Poll.balance)) ?nil ?single ?gap polls h
  case nil => exact Nat.le_refl _
  case single =>
    intro a ha
    refine Nat.le_of_eq ?_
    rw [List.filter_cons_of_pos ha, List.filter_nil]
  case gap =>
    intro a missed b later ha hmissed hb ih
    rw [flow.moved_filter_gap ha hmissed hb, flow.moved_gap]
    refine Nat.add_le_add ?_ ih
    simpa using flow.movement_le_moved a.balance b.balance (missed.map Poll.balance)

/-- Where no balance turns back, they move as much. -/
theorem moved_filter_of_isSteady (hsteady : IsSteady polls) (flow : Flow) :
    flow.moved ((polls.filter Poll.met).map Poll.balance) =
      flow.moved (polls.map Poll.balance) := by
  revert hsteady
  refine gaps_induction (P := fun polls => IsSteady polls →
    flow.moved ((polls.filter Poll.met).map Poll.balance) =
      flow.moved (polls.map Poll.balance)) ?nil ?single ?gap polls h
  case nil => exact fun _ => rfl
  case single =>
    intro a ha _
    rw [List.filter_cons_of_pos ha, List.filter_nil]
  case gap =>
    intro a missed b later ha hmissed hb ih hsteady
    have hdirect : IsDirect (a.balance :: (missed.map Poll.balance ++ [b.balance])) := by
      simpa using hsteady.isDirect ha hmissed hb
    rw [flow.moved_filter_gap ha hmissed hb, flow.moved_gap, ih hsteady.after_gap,
      ← flow.moved_of_isDirect a.balance b.balance _ hdirect]
    simp

/-- The first and the last balance tell the difference of both flows, with the missed polls and
without. -/
theorem moved_filter_add_moved :
    Flow.outflow.moved (polls.map Poll.balance) +
        Flow.inflow.moved ((polls.filter Poll.met).map Poll.balance) =
      Flow.inflow.moved (polls.map Poll.balance) +
        Flow.outflow.moved ((polls.filter Poll.met).map Poll.balance) := by
  cases polls with
  | nil => rfl
  | cons a rest =>
    obtain ⟨b, hb⟩ : ∃ b, ((a :: rest).map Poll.balance).getLast? = some b :=
      ⟨_, List.getLast?_cons⟩
    have hfilter := h.getLast?_filter
    rw [List.filter_cons_of_pos (h.1 a rfl)] at hfilter ⊢
    have hall := Flow.add_moved_inflow a.balance b (rest.map Poll.balance) hb
    have htaken := Flow.add_moved_inflow a.balance b ((rest.filter Poll.met).map Poll.balance)
      (by rw [← List.map_cons, List.getLast?_map, hfilter, ← List.getLast?_map, hb])
    simp only [List.map_cons]
    omega

end EndsMet

/-- What the polls that took place come to: the difference of both flows is the difference between
the first balance and the last one, and as long as no sum is too large, every total is the base
line of the first poll and what was gained. -/
structure AddsUp (seen : List Poll) : Prop where
  flows : ∀ first ∈ seen.head?, ∀ last ∈ seen.getLast?,
    ((Flow.outflow.tally seen).gained : Int) - (Flow.inflow.tally seen).gained =
      (first.balance.toNat : Int) - last.balance.toNat
  total : ∀ flow : Flow, ∀ first ∈ seen.head?, ∀ last ∈ seen.getLast?,
    first.baseline.toNat + (flow.tally seen).gained ≤ Amount.maxNat →
    ∃ e, (flow.tally seen).state = some e ∧ e.observed = last.balance ∧
      e.cumulative.toNat = first.baseline.toNat + (flow.tally seen).gained

theorem addsUp (seen : List Poll) : AddsUp seen := by
  cases seen with
  | nil => exact ⟨nofun, nofun⟩
  | cons first rest =>
    have hlast : ∀ last ∈ (first :: rest).getLast?,
        (rest.map Poll.balance).getLastD first.balance = last.balance := by
      intro last hlast
      rw [List.getLast?_cons, Option.mem_some_iff] at hlast
      rw [← hlast, List.getLastD_eq_getLast?, List.getLast?_map, Option.getD_map]
    constructor
    · rintro _ ⟨⟩ last hmem
      have hseen : (first.balance :: rest.map Poll.balance).getLast? = some last.balance := by
        rw [List.getLast?_cons, ← List.getLastD_eq_getLast?, hlast last hmem]
      have hboth := Flow.add_moved_inflow first.balance last.balance _ hseen
      simp only [Flow.gained_tally, List.map_cons]
      omega
    · rintro flow _ ⟨⟩ last hmem hfits
      rw [flow.gained_tally] at hfits ⊢
      refine ⟨_, congrArg Tally.state (flow.tally_cons first rest), hlast last hmem, ?_⟩
      rw [Amount.toNat_clamp, Nat.min_eq_left hfits]

/-- **What missed polls cost.** Some polls of a balance were missed, but not the first one or the
last one. A counter that saw the others counts no more than one that would have seen them all, in
either flow and whatever base lines were offered, and what it has not counted is the same in both
flows. Where the balance did not turn back while polls were missed, nothing is lost. -/
theorem shortfall_of_missed (polls taken : List Poll) (hends : EndsMet polls)
    (htaken : taken.map Poll.balance = (polls.filter Poll.met).map Poll.balance) :
    (∀ flow : Flow, (flow.tally taken).gained ≤ (flow.tally polls).gained) ∧
      (Flow.outflow.tally polls).gained - (Flow.outflow.tally taken).gained =
        (Flow.inflow.tally polls).gained - (Flow.inflow.tally taken).gained ∧
      AddsUp taken ∧ AddsUp polls ∧
      (IsSteady polls → ∀ flow : Flow, (flow.tally taken).gained = (flow.tally polls).gained) := by
  have hgained : ∀ flow : Flow, (flow.tally taken).gained =
      flow.moved ((polls.filter Poll.met).map Poll.balance) := by
    intro flow
    rw [flow.gained_tally, htaken]
  have hle : ∀ flow : Flow, (flow.tally taken).gained ≤ (flow.tally polls).gained := by
    intro flow
    rw [hgained, flow.gained_tally]
    exact hends.moved_filter_le flow
  refine ⟨hle, ?_, addsUp taken, addsUp polls, ?_⟩
  · have hflows := hends.moved_filter_add_moved
    simp only [hgained, Flow.gained_tally]
    omega
  · intro hsteady flow
    rw [hgained, flow.gained_tally]
    exact hends.moved_filter_of_isSteady hsteady flow

/-- A balance that falls from a hundred to sixty and is two hundred when it is polled again. -/
def missedDip : List Poll := [⟨100, 0, true⟩, ⟨60, 0, false⟩, ⟨200, 0, true⟩, ⟨150, 0, true⟩]

/-- The same balance without the missed poll, from a base line of seven. -/
def takenDip : List Poll := [⟨100, 7, true⟩, ⟨200, 0, true⟩, ⟨150, 0, true⟩]

/-- The forty that have gone out and come in again are missing from both flows. -/
theorem shortfall_missedDip :
    EndsMet missedDip ∧
      takenDip.map Poll.balance = (missedDip.filter Poll.met).map Poll.balance ∧
      (Flow.outflow.tally missedDip).gained = 90 ∧ (Flow.outflow.tally takenDip).gained = 50 ∧
      (Flow.inflow.tally missedDip).gained - (Flow.inflow.tally takenDip).gained = 40 := by
  have hends : EndsMet missedDip := by
    constructor <;> rintro _ ⟨⟩ <;> rfl
  have htaken : takenDip.map Poll.balance = (missedDip.filter Poll.met).map Poll.balance := rfl
  have hmissed : (Flow.outflow.tally missedDip).gained = 90 := by decide +kernel
  have hseen : (Flow.outflow.tally takenDip).gained = 50 := by decide +kernel
  obtain ⟨-, hshortfall, -⟩ := shortfall_of_missed missedDip takenDip hends htaken
  refine ⟨hends, htaken, hmissed, hseen, ?_⟩
  rw [← hshortfall, hmissed, hseen]

end RollupFees
