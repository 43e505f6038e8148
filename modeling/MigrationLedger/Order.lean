/-!
# Sorting by a comparison

Every order of this library is a comparison `α → α → Ordering`, and every sort is
stable: elements that compare as equal keep their order.

## Main definitions

* `sortBy cmp l` — the list `l` in the order `cmp`, stably.
* `greatestBy? cmp l` — the greatest element of `l`, the last of several.
* `countDistinct cmp l` — the number of elements of `l` up to `cmp`.

## Main results

* `sortBy_perm`, `pairwise_sortBy` — a sort is a sorted permutation.
* `sortBy_eq_self` — sorting a sorted list changes nothing.
-/

namespace MigrationLedger

/-- The list in the order `cmp`, stably. -/
def sortBy {α : Type} (cmp : α → α → Ordering) (l : List α) : List α :=
  l.mergeSort fun a b => (cmp a b).isLE

/-- The greater of an optional best so far and a new element, the new one on a tie. -/
def pickGreater {α : Type} (cmp : α → α → Ordering) : Option α → α → Option α
  | none, b => some b
  | some a, b => if (cmp a b).isLE then some b else some a

/-- The greatest element, the last one of several. -/
def greatestBy? {α : Type} (cmp : α → α → Ordering) (l : List α) : Option α :=
  l.foldl (pickGreater cmp) none

/-- The number of elements, those that compare as equal counted once. -/
def countDistinct {α : Type} (cmp : α → α → Ordering) : List α → Nat
  | [] => 0
  | a :: l => if l.any (fun b => cmp a b == .eq) then countDistinct cmp l
      else countDistinct cmp l + 1

theorem sortBy_perm {α : Type} (cmp : α → α → Ordering) (l : List α) :
    (sortBy cmp l).Perm l :=
  List.mergeSort_perm l _

@[simp] theorem sortBy_nil {α : Type} (cmp : α → α → Ordering) : sortBy cmp [] = [] :=
  List.mergeSort_nil

@[simp] theorem mem_sortBy {α : Type} {cmp : α → α → Ordering} {l : List α} {a : α} :
    a ∈ sortBy cmp l ↔ a ∈ l :=
  (sortBy_perm cmp l).mem_iff

@[simp] theorem length_sortBy {α : Type} (cmp : α → α → Ordering) (l : List α) :
    (sortBy cmp l).length = l.length :=
  (sortBy_perm cmp l).length_eq

theorem pairwise_sortBy {α : Type} (cmp : α → α → Ordering) [Std.TransCmp cmp] (l : List α) :
    (sortBy cmp l).Pairwise fun a b => (cmp a b).isLE = true := by
  refine List.pairwise_mergeSort (fun a b c => Std.TransCmp.isLE_trans) (fun a b => ?_) l
  rw [@Std.OrientedCmp.eq_swap α cmp _ a b]
  cases cmp b a <;> rfl

theorem sortBy_eq_self {α : Type} {cmp : α → α → Ordering} {l : List α}
    (h : l.Pairwise fun a b => (cmp a b).isLE = true) : sortBy cmp l = l :=
  List.mergeSort_of_pairwise h

end MigrationLedger
