import Mathlib.Algebra.BigOperators.Ring.Finset
import RollupFees.Service.Query

/-!
# Batches without an order

Events come in a list, but what they tell is told by which batches there were: the set of
transactions that paid for them, and the sizes of the state batches in any order. Neither depends on
the order of the list, on the blocks, or on how often a transaction is named by events that carry no
size.

A sum of amounts that stops at the largest one is the sum, or the largest amount. So it does not
depend on an order either, though it may stop at any of its summands.

## Main definitions

* `BatchEvent.gasTotal`, `BatchEvent.sizeTotal` : what is told by events
* `BatchEvent.Relisted` : another list of the same batches

## Main results

* `BatchEvent.transactions_eq` : the transactions of events, each once
* `BatchEvent.Relisted.gasTotal_eq`, `sizeTotal_eq` : what is told does not depend on the list
-/

namespace RollupFees

/-- A sum that stops at the largest amount is the sum or the largest amount. -/
theorem Amount.toNat_foldl_satAdd {α : Type} (f : α → Amount) (xs : List α) (a : Amount) :
    (xs.foldl (fun sum x => sum.satAdd (f x)) a).toNat =
      min (a.toNat + (xs.map fun x => (f x).toNat).sum) maxNat := by
  induction xs generalizing a with
  | nil => exact (min_eq_left a.le_max).symm
  | cons x xs ih =>
    rw [List.foldl_cons, ih, toNat_satAdd, List.map_cons, List.sum_cons]
    omega

namespace BatchEvent

/-! ### What events tell -/

/-- The gas that a transaction has used, as its receipt says. -/
def gasUsed (receipts : Hash → Option Receipt) (tx : Hash) : ℕ :=
  ((receipts tx).map fun r => r.gasUsed.toNat).getD 0

/-- The gas that the transactions of events have used, each counted once. -/
def gasTotal (receipts : Hash → Option Receipt) (events : List BatchEvent) : ℕ :=
  min (∑ tx ∈ (events.map BatchEvent.tx).toFinset, gasUsed receipts tx) Amount.maxNat

/-- The sizes of the state batches among events. -/
def stateSizes (events : List BatchEvent) : List ℕ :=
  (events.filter fun e => e.kind = .state).map fun e => e.size.toNat

/-- The number of elements in the state batches among events. -/
def sizeTotal (events : List BatchEvent) : ℕ := min (stateSizes events).sum Amount.maxNat

/-- The transactions of events, each in the place where it comes first. -/
theorem transactions_eq (events : List BatchEvent) :
    transactions events = (events.map BatchEvent.tx).reverse.dedup.reverse := by
  induction events using List.reverseRecOn with
  | nil => rfl
  | append_singleton events e ih =>
    have hstep : transactions (events ++ [e]) = addNew (transactions events) e.tx := by
      rw [transactions, List.foldl_append]
      rfl
    rw [hstep, addNew, ih, List.map_append, List.reverse_append, List.map_singleton,
      List.reverse_singleton, List.singleton_append, List.dedup_cons]
    by_cases h : e.tx ∈ events.map BatchEvent.tx <;> simp [h]

theorem nodup_transactions (events : List BatchEvent) : (transactions events).Nodup := by
  rw [transactions_eq]
  exact List.nodup_reverse.2 (List.nodup_dedup _)

theorem toFinset_transactions (events : List BatchEvent) :
    (transactions events).toFinset = (events.map BatchEvent.tx).toFinset := by
  ext tx
  simp [transactions_eq]

theorem toNat_totalSize (events : List BatchEvent) :
    (totalSize events).toNat = sizeTotal events := by
  rw [totalSize, Amount.toNat_foldl_satAdd (fun e : BatchEvent => e.size), Amount.toNat_zero,
    Nat.zero_add]
  rfl

/-! ### Other lists of the same batches -/

/-- The event without its block. -/
def unplaced (e : BatchEvent) : Hash × BatchKind × Amount := (e.tx, e.kind, e.size)

/-- Another list of the same batches: events may be listed in another order and for other blocks,
and events without a size may name a transaction again. -/
inductive Relisted : List BatchEvent → List BatchEvent → Prop
  | reordered {events listed : List BatchEvent} (perm : events.Perm listed) :
      Relisted events listed
  | replaced {events listed : List BatchEvent}
      (same : events.map unplaced = listed.map unplaced) : Relisted events listed
  | repeated {events : List BatchEvent} {e : BatchEvent} (kind : e.kind = .transaction)
      (named : e.tx ∈ events.map BatchEvent.tx) : Relisted events (e :: events)
  | trans {events between listed : List BatchEvent} (first : Relisted events between)
      (second : Relisted between listed) : Relisted events listed

namespace Relisted

variable {events listed : List BatchEvent}

theorem toFinset_eq (h : Relisted events listed) :
    (events.map BatchEvent.tx).toFinset = (listed.map BatchEvent.tx).toFinset := by
  induction h with
  | reordered perm => exact List.toFinset_eq_of_perm _ _ (perm.map _)
  | @replaced events listed same =>
    have htx := congrArg (List.map Prod.fst) same
    rw [List.map_map, List.map_map] at htx
    exact congrArg List.toFinset htx
  | repeated _ named =>
    rw [List.map_cons, List.toFinset_cons, Finset.insert_eq_of_mem (List.mem_toFinset.2 named)]
  | trans _ _ ih₁ ih₂ => exact ih₁.trans ih₂

theorem perm_stateSizes (h : Relisted events listed) :
    (stateSizes events).Perm (stateSizes listed) := by
  induction h with
  | reordered perm => exact (perm.filter _).map _
  | @replaced events listed same =>
    have hsizes : ∀ es : List BatchEvent, stateSizes es =
        ((es.map unplaced).filter fun x => x.2.1 = .state).map fun x => x.2.2.toNat := by
      intro es
      rw [List.filter_map, List.map_map]
      rfl
    rw [hsizes, hsizes, same]
  | repeated kind => simp [stateSizes, kind]
  | trans _ _ ih₁ ih₂ => exact ih₁.trans ih₂

theorem gasTotal_eq (h : Relisted events listed) (receipts : Hash → Option Receipt) :
    gasTotal receipts events = gasTotal receipts listed := by
  rw [gasTotal, gasTotal, h.toFinset_eq]

theorem sizeTotal_eq (h : Relisted events listed) : sizeTotal events = sizeTotal listed := by
  rw [sizeTotal, sizeTotal, h.perm_stateSizes.sum_eq]

end Relisted

/-- Events with the newest block first are the same events. -/
theorem relisted_newestFirst (events : List BatchEvent) : Relisted events (newestFirst events) :=
  .reordered (List.mergeSort_perm events _).symm

end BatchEvent
end RollupFees
