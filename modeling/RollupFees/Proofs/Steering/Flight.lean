import Mathlib.Logic.Function.Iterate
import RollupFees.Proofs.Dated
import RollupFees.Proofs.Steering.Grounds
import RollupFees.Proofs.Steering.Limit

/-!
# Updates in flight

An update that has been handed in is mined at some later time, in the order of the submissions; the
wait for it may be over by then. A step moves a parameter by a limited amount from the value that it
has read. If an earlier update of the parameter was still in flight at the reading, that is not the
value that the update replaces, and nothing limits the move on chain. If none was, it is, and the
limit holds on chain.

## Main definitions

* `Chain` : the values on chain with the updates in flight and those that have been mined
* `Mempool` : surroundings in which updates are mined at any time
* `Mempool.KeepsLimit` : no mined update moves a parameter beyond its limit

## Main results

* `limited_when_alone` : the limit that every mined update keeps to
* `overtaking_exceeds_limit` : where an update is worked out while another is in flight, the limit
  may not hold on chain
-/

namespace RollupFees

/-- An update that has been handed in, with the value of its parameter that was read last, and
whether no other update of the parameter was in flight at that reading. -/
structure Flight where
  update : Update
  read : Amount
  alone : Bool
deriving DecidableEq

/-- The parameter that a flight is about. -/
def Flight.parameter (f : Flight) : Parameter := f.update.parameter

/-- An update that has been mined, with the value that it has replaced. -/
structure Replacement where
  before : Amount
  flight : Flight
deriving DecidableEq

/-- The values on chain, the updates in flight and those that have been mined, both in the order in
which they were handed in, and what was last read of each parameter, with whether no update of it
was in flight. -/
structure Chain where
  value : Parameter → Amount
  flights : List Flight
  mined : List Replacement
  seen : Parameter → Amount × Bool

namespace Chain

/-- A chain on which nothing has been handed in or read yet. -/
def idle (value : Parameter → Amount) : Chain := ⟨value, [], [], fun _ => (0, false)⟩

/-- The updates of a parameter in flight. -/
def waiting (c : Chain) (p : Parameter) : List Flight := c.flights.filter fun f => f.parameter = p

/-- The first update in flight is mined. -/
def mineOne (c : Chain) : Chain :=
  match c.flights with
  | [] => c
  | f :: rest =>
    { c with
      value := Function.update c.value f.parameter f.update.value
      flights := rest
      mined := c.mined ++ [⟨c.value f.parameter, f⟩] }

/-- The first so many updates in flight are mined. -/
def mine (k : Nat) (c : Chain) : Chain := mineOne^[k] c

/-- A parameter is read. -/
def look (p : Parameter) (c : Chain) : Chain :=
  { c with seen := Function.update c.seen p (c.value p, (c.waiting p).isEmpty) }

/-- An update is handed in. -/
def join (u : Update) (c : Chain) : Chain :=
  { c with flights := c.flights ++ [⟨u, (c.seen u.parameter).1, (c.seen u.parameter).2⟩] }

/-- What a chain answers where others would answer `a`: a reading that succeeds gives the value on
chain. -/
def tell (c : Chain) : (q : Query) → q.Answer → q.Answer
  | .priceRatio, .ok _ => .ok (c.value .priceRatio)
  | .overhead, .ok _ => .ok (c.value .overhead)
  | .l1BaseFee, .ok _ => .ok (c.value .l1BaseFee)
  | _, a => a

/-- What an exchange leads to. An update that was refused may have been handed in all the same. -/
def meet (strays : Bool) (c : Chain) : Exchange Query.Answer → Chain
  | ⟨.priceRatio, .ok _⟩ => c.look .priceRatio
  | ⟨.overhead, .ok _⟩ => c.look .overhead
  | ⟨.l1BaseFee, .ok _⟩ => c.look .l1BaseFee
  | ⟨.submit u, .ok _⟩ => c.join u
  | ⟨.submit u, .error _⟩ => if strays then c.join u else c
  | _ => c

end Chain

/-- Surroundings in which updates are mined in the order of their submissions, at any time: before
each answer, as many as the schedule says. Everything but the values of the parameters is up to
others, and so is whether an update that they refuse has been handed in all the same. -/
structure Mempool (ρ : Type) where
  others : Answerer Query.Answer ρ
  schedule : Query → ρ → Nat
  strays : ρ → Bool

variable {ρ : Type}

namespace Mempool

/-- What a service meets. -/
def surroundings (m : Mempool ρ) : Answerer Query.Answer (ρ × Chain) where
  answer q w :=
    let chain := w.2.mine (m.schedule q w.1)
    let told := m.others.answer q w.1
    let answer := chain.tell q told.1
    (answer, told.2, chain.meet (m.strays w.1) ⟨q, answer⟩)

/-- The chain after so many ticks from one on which nothing has happened yet, when so many more
updates have been mined. -/
def chainAfter (m : Mempool ρ) (setup : Setup) (s : Service) (n k : Nat) (r : ρ)
    (value : Parameter → Amount) : Chain :=
  ((ticks setup s n).run m.surroundings (r, Chain.idle value)).2.2.mine k

end Mempool

/-- The fraction that moves of a parameter are limited to, if they are. -/
def ControllerSettings.limitOf? (c : ControllerSettings) : Parameter → Option Decimal
  | .priceRatio => c.priceRatio.maxDeltaFraction
  | .overhead => c.overhead.maxDeltaFraction
  | .l1BaseFee => none

/-- No update that has been mined in the course of a run, or after it, has moved a value on chain
beyond the limit of its parameter. -/
def Mempool.KeepsLimit (m : Mempool ρ) (setup : Setup) (s : Service) (n k : Nat) (r : ρ)
    (value : Parameter → Amount) : Prop :=
  ∀ x ∈ (m.chainAfter setup s n k r value).mined, ∀ f,
    setup.controller.limitOf? x.flight.parameter = some f → f.isNegative = false →
      x.before ≠ 0 → WithinLimit f x.before x.flight.update.value

namespace Chain

variable {p q : Parameter} {R : Amount → Amount → Prop} {current : Amount} {c : Chain} {u : Update}

/-- A parameter has been read, and if nothing of it was in flight then its value is still what was
read. -/
structure Poised (p : Parameter) (current : Amount) (c : Chain) : Prop where
  read : (c.seen p).1 = current
  stands : (c.seen p).2 = true → c.waiting p = [] ∧ c.value p = current

/-- The updates of a parameter stand in a relation to what was read for them; and where nothing else
was in flight at the reading, they replace what was read. -/
structure Sound (p : Parameter) (R : Amount → Amount → Prop) (c : Chain) : Prop where
  aloft : ∀ f ∈ c.waiting p, R f.read f.update.value
  /-- Only the first one in flight can have been alone. -/
  first : ∀ f rest, c.waiting p = f :: rest →
    (f.alone = true → c.value p = f.read) ∧ ∀ g ∈ rest, g.alone = false
  landed : ∀ x ∈ c.mined, x.flight.parameter = p →
    R x.flight.read x.flight.update.value ∧
      (x.flight.alone = true → x.before = x.flight.read)

theorem sound_idle (value : Parameter → Amount) : (idle value).Sound p R where
  aloft := nofun
  first := nofun
  landed := nofun

/-! ### Mining -/

theorem Poised.mineOne (h : c.Poised p current) : c.mineOne.Poised p current := by
  unfold Chain.mineOne
  split
  · exact h
  · next f rest hflights =>
    refine ⟨h.read, fun halone => ?_⟩
    obtain ⟨hwaiting, hvalue⟩ := h.stands halone
    rw [waiting, hflights, List.filter_eq_nil_iff] at hwaiting
    obtain ⟨hf, hrest⟩ := List.forall_mem_cons.1 hwaiting
    have hne : p ≠ f.parameter := fun heq => hf (by simp [heq])
    exact ⟨List.filter_eq_nil_iff.2 hrest, (Function.update_of_ne hne _ _).trans hvalue⟩

theorem Sound.mineOne (h : c.Sound p R) : c.mineOne.Sound p R := by
  unfold Chain.mineOne
  split
  · exact h
  · next f rest hflights =>
    by_cases hf : f.parameter = p
    · have hwaiting : c.waiting p = f :: rest.filter fun f => f.parameter = p := by
        rw [waiting, hflights, List.filter_cons_of_pos (by simpa using hf)]
      obtain ⟨halone, hlate⟩ := h.first f _ hwaiting
      have haloft := h.aloft
      rw [hwaiting] at haloft
      obtain ⟨hR, haloft⟩ := List.forall_mem_cons.1 haloft
      refine ⟨haloft, ?_, ?_⟩
      · -- what was behind the first one was not alone
        intro g later (hg : (rest.filter fun f => f.parameter = p) = g :: later)
        rw [hg, List.forall_mem_cons] at hlate
        exact ⟨fun hgalone => absurd hgalone (by simp [hlate.1]), hlate.2⟩
      · refine List.forall_mem_append.2 ⟨h.landed, ?_⟩
        rw [List.forall_mem_singleton]
        exact fun _ => ⟨hR, fun hfalone => hf ▸ halone hfalone⟩
    · have hwaiting : c.waiting p = rest.filter fun f => f.parameter = p := by
        rw [waiting, hflights, List.filter_cons_of_neg (by simpa using hf)]
      refine ⟨fun g hg => h.aloft g (hwaiting ▸ hg), ?_, ?_⟩
      · intro g later hg
        obtain ⟨halone, hlate⟩ := h.first g later (hwaiting.trans hg)
        exact ⟨fun hgalone => (Function.update_of_ne (Ne.symm hf) _ _).trans (halone hgalone), hlate⟩
      · refine List.forall_mem_append.2 ⟨h.landed, ?_⟩
        rw [List.forall_mem_singleton]
        exact fun hp => absurd hp hf

theorem Poised.mine (h : c.Poised p current) (k : Nat) : (c.mine k).Poised p current := by
  induction k generalizing c with
  | zero => exact h
  | succ k ih => exact ih h.mineOne

theorem Sound.mine (h : c.Sound p R) (k : Nat) : (c.mine k).Sound p R := by
  induction k generalizing c with
  | zero => exact h
  | succ k ih => exact ih h.mineOne

/-! ### Reading and handing in -/

@[simp] theorem seen_look_self (c : Chain) (p : Parameter) :
    (c.look p).seen p = (c.value p, (c.waiting p).isEmpty) := Function.update_self ..

theorem seen_look_of_ne (c : Chain) (h : p ≠ q) : (c.look q).seen p = c.seen p :=
  Function.update_of_ne h ..

theorem poised_look (c : Chain) (p : Parameter) : (c.look p).Poised p (c.value p) where
  read := by rw [seen_look_self]
  stands halone := by
    rw [seen_look_self] at halone
    exact ⟨List.isEmpty_iff.1 halone, rfl⟩

theorem Poised.look (h : c.Poised p current) (hq : p ≠ q) : (c.look q).Poised p current := by
  constructor <;> rw [c.seen_look_of_ne hq]
  · exact h.read
  · exact h.stands

theorem Sound.look (h : c.Sound p R) (q : Parameter) : (c.look q).Sound p R :=
  ⟨h.aloft, h.first, h.landed⟩

theorem waiting_join_self (c : Chain) (u : Update) :
    (c.join u).waiting u.parameter = c.waiting u.parameter ++
      [⟨u, (c.seen u.parameter).1, (c.seen u.parameter).2⟩] := by
  rw [waiting, join, List.filter_append, List.filter_cons_of_pos (by simp [Flight.parameter])]
  rfl

theorem waiting_join_of_ne (c : Chain) (hu : u.parameter ≠ p) :
    (c.join u).waiting p = c.waiting p := by
  rw [waiting, join, List.filter_append,
    List.filter_cons_of_neg (by simp [Flight.parameter, hu]), List.filter_nil,
    List.append_nil, waiting]

theorem Poised.join (h : c.Poised p current) (hu : u.parameter ≠ p) :
    (c.join u).Poised p current := by
  refine ⟨h.read, ?_⟩
  rw [c.waiting_join_of_ne hu]
  exact h.stands

/-- An update of another parameter changes nothing. -/
theorem Sound.join_of_ne (h : c.Sound p R) (hu : u.parameter ≠ p) : (c.join u).Sound p R := by
  constructor
  · rw [c.waiting_join_of_ne hu]
    exact h.aloft
  · rw [c.waiting_join_of_ne hu]
    exact h.first
  · exact h.landed

/-- An update of a parameter that has just been read may be handed in, if it stands in the relation
to what was read. -/
theorem Sound.join_self (h : c.Sound u.parameter R) (hpoised : c.Poised u.parameter current)
    (hR : R current u.value) : (c.join u).Sound u.parameter R where
  aloft := by
    rw [waiting_join_self, List.forall_mem_append, List.forall_mem_singleton]
    refine ⟨h.aloft, ?_⟩
    rw [hpoised.read]
    exact hR
  first f rest hf := by
    rw [waiting_join_self] at hf
    cases hwaiting : c.waiting u.parameter with
    | nil =>
      rw [hwaiting] at hf
      obtain ⟨rfl, rfl⟩ := List.cons.inj hf
      refine ⟨fun halone => ?_, nofun⟩
      rw [hpoised.read]
      exact (hpoised.stands halone).2
    | cons g later =>
      rw [hwaiting] at hf
      obtain ⟨rfl, rfl⟩ := List.cons.inj hf
      obtain ⟨halone, hlate⟩ := h.first g later hwaiting
      refine ⟨halone, List.forall_mem_append.2 ⟨hlate, ?_⟩⟩
      -- it is not alone, as one is in flight
      rw [List.forall_mem_singleton, Bool.eq_false_iff]
      intro hseen
      rw [(hpoised.stands hseen).1] at hwaiting
      cases hwaiting
  landed := h.landed

/-! ### Exchanges -/

variable {strays : Bool} {x : Exchange Query.Answer} {v : Amount}

theorem meet_told (strays : Bool) (c : Chain) (p : Parameter) (v : Amount) :
    c.meet strays (p.told v) = c.look p := by cases p <;> rfl

theorem tell_told {q : Query} {a : q.Answer} (h : (⟨q, c.tell q a⟩ : Exchange _) = p.told v) :
    v = c.value p := by
  cases p <;>
  · obtain rfl := congrArg Exchange.question h
    rcases a with e | a <;> cases h
    rfl

/-- What neither reads a parameter nor hands in an update of it leaves it as it was read. -/
theorem Poised.meet (h : c.Poised p current) (hread : x.question ≠ p.question)
    (hsubmit : ∀ u, x.submission? = some u → u.parameter ≠ p) :
    (c.meet strays x).Poised p current := by
  unfold Chain.meet
  split
  · exact h.look fun hp => hread (hp ▸ rfl)
  · exact h.look fun hp => hread (hp ▸ rfl)
  · exact h.look fun hp => hread (hp ▸ rfl)
  · exact h.join (hsubmit _ rfl)
  · split
    · exact h.join (hsubmit _ rfl)
    · exact h
  · exact h

theorem Sound.join (h : c.Sound p R)
    (hu : u.parameter = p → ∃ current, c.Poised p current ∧ R current u.value) :
    (c.join u).Sound p R := by
  by_cases hp : u.parameter = p
  · obtain ⟨current, hpoised, hR⟩ := hu hp
    subst hp
    exact h.join_self hpoised hR
  · exact h.join_of_ne hp

theorem Sound.meet (h : c.Sound p R)
    (hsubmit : ∀ u, x.submission? = some u → u.parameter = p →
      ∃ current, c.Poised p current ∧ R current u.value) :
    (c.meet strays x).Sound p R := by
  unfold Chain.meet
  split
  · exact h.look _
  · exact h.look _
  · exact h.look _
  · exact h.join (hsubmit _ rfl)
  · split
    · exact h.join (hsubmit _ rfl)
    · exact h
  · exact h

end Chain

/-! ### Runs -/

namespace Mempool

variable {m : Mempool ρ} {p : Parameter} {R : Amount → Amount → Prop} {current : Amount}
  {x : Exchange Query.Answer} {xs ys : List (Exchange Query.Answer)} {w : ρ × Chain}

/-- What an exchange does to the chain. A reading tells the value after what has been mined. -/
theorem exists_chain_answer (h : x.answer = (m.surroundings.answer x.question w).1) :
    ∃ k strays, (m.surroundings.answer x.question w).2.2 = (w.2.mine k).meet strays x ∧
      ∀ p v, x = p.told v → v = (w.2.mine k).value p := by
  obtain ⟨q, a⟩ := x
  obtain rfl : a = (m.surroundings.answer q w).1 := h
  exact ⟨_, _, rfl, fun p v htold => Chain.tell_told htold⟩

/-- A parameter that is not touched stays as it was read. -/
theorem poised_after (hgives : m.surroundings.Gives xs w) (h : w.2.Poised p current)
    (hx : Untouched p xs) : (m.surroundings.after xs w).2.Poised p current := by
  induction xs generalizing w with
  | nil => exact h
  | cons x xs ih =>
    obtain ⟨⟨hread, hsubmit⟩, hrest⟩ := List.forall_mem_cons.1 hx
    obtain ⟨k, strays, hchain, -⟩ := exists_chain_answer hgives.1
    refine ih hgives.2 ?_ hrest
    rw [hchain]
    exact (h.mine k).meet hread hsubmit

/-- After a reading a parameter is as it was read, until it is touched. -/
theorem poised_of_told (hgives : m.surroundings.Gives (xs ++ p.told current :: ys) w)
    (hy : Untouched p ys) :
    (m.surroundings.after (xs ++ p.told current :: ys) w).2.Poised p current := by
  obtain ⟨-, htold, hrest⟩ := Answerer.gives_append.1 hgives
  obtain ⟨k, strays, hchain, hvalue⟩ := exists_chain_answer htold
  rw [Answerer.after_append, Answerer.after_cons]
  refine poised_after hrest ?_ hy
  rw [hchain, Chain.meet_told, hvalue p current rfl]
  exact Chain.poised_look _ p

/-- Where updates go back to readings, they stand in the same relation to what was read when they
are mined. -/
theorem sound_after (hground : Grounded p R xs) (hgives : m.surroundings.Gives xs w)
    (h : w.2.Sound p R) : (m.surroundings.after xs w).2.Sound p R := by
  induction xs using List.reverseRecOn with
  | nil => exact h
  | append_singleton xs x ih =>
    obtain ⟨hxs, hx, -⟩ := Answerer.gives_append.1 hgives
    obtain ⟨k, strays, hchain, -⟩ := exists_chain_answer hx
    rw [Answerer.after_append, Answerer.after_cons, Answerer.after_nil, hchain]
    refine ((ih hground.of_append hxs).mine k).meet fun u hu hp => ?_
    obtain ⟨q, a⟩ := x
    cases q with
    | submit u' =>
      obtain rfl := Option.some.inj hu
      obtain ⟨earlier, current, between, rfl, hbetween, hR⟩ := hground xs u' a [] rfl hp
      exact ⟨current, (poised_of_told hxs hbetween).mine k, hR⟩
    | _ => cases hu

/-- In every run, what is mined has been decided about what was read, and has replaced that if
nothing else of the parameter was in flight. -/
theorem sound_chainAfter (m : Mempool ρ) (setup : Setup) (hp : p ≠ .l1BaseFee) (s : Service)
    (n k : Nat) (r : ρ) (value : Parameter → Amount) :
    (m.chainAfter setup s n k r value).Sound p (setup.controller.boundsOf p).Decides := by
  refine Chain.Sound.mine ?_ k
  rw [← Dialogue.after_transcript]
  exact sound_after (grounded_ticks hp n s _ _ (Dialogue.path_run ..))
    (Dialogue.gives_transcript ..) (Chain.sound_idle value)

end Mempool

/-- **The limit on chain.** Whenever updates are mined, in the course of a run or after it, each one
is within the limit of its parameter as seen from the value that was read for it. Where no other
update of the parameter was in flight at that reading, this is the value that it replaces, and the
limit holds on chain. -/
theorem limited_when_alone (m : Mempool ρ) (setup : Setup) (s : Service) (n k : Nat) (r : ρ)
    (value : Parameter → Amount) :
    ∀ x ∈ (m.chainAfter setup s n k r value).mined, ∀ f,
      setup.controller.limitOf? x.flight.parameter = some f → f.isNegative = false →
        (x.flight.read ≠ 0 → WithinLimit f x.flight.read x.flight.update.value) ∧
          (x.flight.alone = true → x.before ≠ 0 →
            WithinLimit f x.before x.flight.update.value) := by
  intro x hx f hlimit hf
  have hp : x.flight.parameter ≠ .l1BaseFee := by
    intro hp
    rw [hp] at hlimit
    cases hlimit
  have hfraction : (setup.controller.boundsOf x.flight.parameter).maxDeltaFraction = some f := by
    cases hparameter : x.flight.parameter <;> rw [hparameter] at hlimit
    · exact hlimit
    · exact hlimit
    · cases hlimit
  obtain ⟨⟨target, hdecide⟩, hbefore⟩ :=
    (m.sound_chainAfter setup hp s n k r value).landed x hx rfl
  refine ⟨fun hread => withinLimit_of_decide hfraction hf hread hdecide, fun halone hzero => ?_⟩
  rw [hbefore halone] at hzero ⊢
  exact withinLimit_of_decide hfraction hf hzero hdecide

/-! ### An update that is overtaken -/

/-- Moves of the price ratio are limited to a tenth. -/
def Setup.limited : Setup :=
  { Setup.plain with
    controller := { Setup.plain.controller with
      priceRatio := ⟨some ⟨1, 1, by decide, by decide⟩, 1, 1, 1000000⟩ } }

/-- Once an update has been handed in, the native price falls. Nothing is mined in time. -/
def Mempool.overtaking : Mempool Nat where
  others :=
    ⟨fun
      | .latestAnswer .native, n => (.ok ⟨if n = 0 then 200 else 10, 2⟩, n)
      | .latestAnswer .secondary, n => (.ok ⟨100, 2⟩, n)
      | .priceRatio, n => (.ok 0, n)
      | .priceRatioDecimals, n => (.ok 3, n)
      | .submit _, n => (.ok (Hash.ofNat n), n + 1)
      | q, n => (q.refused, n)⟩
  schedule _ _ := 0
  strays _ := false

/-- The ratio is to be doubled; before the first move is mined it is to fall. Both moves go from the
same reading. -/
theorem Mempool.mined_overtaking :
    (overtaking.chainAfter Setup.limited Service.fresh 2 2 0 fun _ => 1000).mined =
      [⟨1000, .priceRatio 1100 2000, 1000, true⟩, ⟨1100, .priceRatio 900 100, 1000, false⟩] := by
  decide +kernel

/-- The first move was alone and keeps to the limit on chain; the second one does so only as seen
from what was read for it. -/
theorem limited_overtaking :
    let c := Mempool.overtaking.chainAfter Setup.limited Service.fresh 2 2 0 fun _ => 1000
    c.mined.map (fun x => (x.before, x.flight.read, x.flight.update.value, x.flight.alone)) =
        [(1000, 1000, 1100, true), (1100, 1000, 900, false)] ∧
      ∃ f, Setup.limited.controller.limitOf? .priceRatio = some f ∧ WithinLimit f 1000 1100 ∧
        WithinLimit f 1000 900 := by
  intro c
  have hmined := Mempool.mined_overtaking
  have hlimited := limited_when_alone Mempool.overtaking Setup.limited Service.fresh 2 2 0
    fun _ => 1000
  rw [hmined, List.forall_mem_cons, List.forall_mem_singleton] at hlimited
  obtain ⟨hfirst, hsecond⟩ := hlimited
  refine ⟨by rw [hmined]; rfl, _, rfl, ?_, ?_⟩
  · exact (hfirst _ rfl (by decide)).2 rfl (by decide)
  · exact (hsecond _ rfl (by decide)).1 (by decide)

/-- **The limit may not hold on chain.** An update that is worked out while another one is in flight
replaces a value that was not read, and may be further from it than the limit allows. -/
theorem overtaking_exceeds_limit :
    ¬ Mempool.overtaking.KeepsLimit Setup.limited Service.fresh 2 2 0 fun _ => 1000 := by
  intro h
  have hsecond := h ⟨1100, .priceRatio 900 100, 1000, false⟩
    (by rw [Mempool.mined_overtaking]; decide) _ rfl (by decide) (by decide)
  have htenth : Decimal.toRat ⟨1, 1, by decide, by decide⟩ = 1 / 10 := by norm_num [Decimal.toRat]
  have hfloor : ⌊((1100 : Amount).toNat : ℚ) * (1 - 1 / 10)⌋ = 990 := by
    rw [show (1100 : Amount).toNat = 1100 by decide]
    norm_num
  have hbelow := hsecond.1
  rw [htenth, hfloor] at hbelow
  exact absurd hbelow (by decide)

end RollupFees
