import Mathlib.Data.List.DropRight
import MigrationLedger.Order

/-!
# Lists continued with a least element

Two lists of different lengths are compared as if the shorter one went on with a given element.
When that element is the least one, continuing with it decides as leaving it out at the end of
both lists does.

## Main definitions

* `comparePadded` — the first difference of two lists, the shorter one continued.

## Main results

* `comparePadded_map` — a function that keeps comparisons keeps those of continued lists.
* `comparePadded_eq_compare` — **continuing with the least element is leaving it out at the end.**
* `comparePadded_eq_iff_of_ne`, `comparePadded_eq_eq_iff` — **the first place at which the lists,
  continued for ever, differ decides.**
-/

namespace MigrationLedger

section

variable {α : Type} [Ord α]

/-- The first difference between two lists decides, where the shorter one is continued with a
given element. -/
def comparePadded (zero : α) (l m : List α) : Ordering :=
  ((List.zipWithAll (fun a b => compare (a.getD zero) (b.getD zero)) l m).find? (· != .eq)).getD .eq

variable {zero : α}

theorem comparePadded_cons_cons (a b : α) (l m : List α) :
    comparePadded zero (a :: l) (b :: m) = (compare a b).then (comparePadded zero l m) := by
  rw [comparePadded, List.zipWithAll_cons_cons, List.find?_cons, Option.getD_some, Option.getD_some]
  cases compare a b <;> rfl

theorem comparePadded_nil_cons (b : α) (m : List α) :
    comparePadded zero [] (b :: m) = (compare zero b).then (comparePadded zero [] m) := by
  rw [comparePadded, comparePadded, List.nil_zipWithAll, List.nil_zipWithAll, List.map_cons,
    List.find?_cons, Option.getD_none, Option.getD_some]
  cases compare zero b <;> rfl

theorem comparePadded_cons_nil (a : α) (l : List α) :
    comparePadded zero (a :: l) [] = (compare a zero).then (comparePadded zero l []) := by
  rw [comparePadded, comparePadded, List.zipWithAll_nil, List.zipWithAll_nil, List.map_cons,
    List.find?_cons, Option.getD_none, Option.getD_some]
  cases compare a zero <;> rfl

/-- A function that keeps comparisons keeps those of continued lists. -/
theorem comparePadded_map {β : Type} [Ord β] {f : α → β}
    (h : ∀ a b, compare (f a) (f b) = compare a b) (l m : List α) :
    comparePadded (f zero) (l.map f) (m.map f) = comparePadded zero l m := by
  unfold comparePadded
  rw [List.zipWithAll_map]
  have hpad : ∀ a : Option α, (f <$> a).getD (f zero) = f (a.getD zero) := by
    intro a
    cases a <;> rfl
  simp only [hpad, h]

end

/-- An element before a list is left out with the rest of it, or stays before what is left. -/
theorem rdropWhile_cons {α : Type} (p : α → Bool) (a : α) (l : List α) :
    (a :: l).rdropWhile p
      = if (l.rdropWhile p).isEmpty && p a then [] else a :: l.rdropWhile p := by
  unfold List.rdropWhile
  rw [List.reverse_cons, List.dropWhile_append, List.isEmpty_reverse]
  cases hempty : (l.reverse.dropWhile p).isEmpty with
  | false => simp
  | true =>
    rw [List.isEmpty_iff.1 hempty]
    cases hp : p a <;> simp [hp]

theorem compare_least_eq_lt {α : Type} [Ord α] [Std.LawfulEqOrd α] {zero a : α}
    (hzero : ∀ a : α, (compare zero a).isLE = true) (ha : a ≠ zero) : compare zero a = .lt := by
  have hne : compare zero a ≠ .eq := fun heq => ha (Std.compare_eq_iff_eq.1 heq).symm
  have hle := hzero a
  revert hle hne
  cases compare zero a <;> simp

section

variable {α : Type} [Ord α] [Std.TransOrd α] [Std.LawfulEqOrd α] [DecidableEq α] {zero : α}

theorem comparePadded_nil (hzero : ∀ a : α, (compare zero a).isLE = true) (m : List α) :
    comparePadded zero [] m = compare ([] : List α) (m.rdropWhile (· == zero)) := by
  induction m with
  | nil => rfl
  | cons b m ih =>
    rw [comparePadded_nil_cons, ih, rdropWhile_cons]
    by_cases hb : b = zero
    · subst hb
      rw [Std.compare_self]
      cases m.rdropWhile (· == b) <;> simp
    · simp [compare_least_eq_lt hzero hb, hb]

/-- **Continuing with the least element is leaving out the last least elements.** -/
theorem comparePadded_eq_compare (hzero : ∀ a : α, (compare zero a).isLE = true) (l m : List α) :
    comparePadded zero l m
      = compare (l.rdropWhile (· == zero)) (m.rdropWhile (· == zero)) := by
  have hlt : ∀ {a : α}, a ≠ zero → compare zero a = .lt := compare_least_eq_lt hzero
  have hgt : ∀ {a : α}, a ≠ zero → compare a zero = .gt := fun ha =>
    Std.OrientedCmp.gt_iff_lt.2 (hlt ha)
  induction l generalizing m with
  | nil => exact comparePadded_nil hzero m
  | cons a l ih =>
    cases m with
    | nil =>
      rw [comparePadded_cons_nil, ih, List.rdropWhile_nil, rdropWhile_cons]
      by_cases ha : a = zero
      · subst ha
        rw [Std.compare_self]
        cases l.rdropWhile (· == a) <;> simp
      · simp [hgt ha, ha]
    | cons b m =>
      -- the first elements decide, unless they agree or nothing but zeros follows one of them
      rw [comparePadded_cons_cons, ih, rdropWhile_cons, rdropWhile_cons]
      by_cases ha : a = zero <;> by_cases hb : b = zero <;>
        cases l.rdropWhile (· == zero) <;> cases m.rdropWhile (· == zero) <;>
        simp_all

end

/-! ### Lists continued for ever -/

theorem getD_succ {α : Type} (zero : α) (l : List α) (i : Nat) :
    l.getD (i + 1) zero = l.tail.getD i zero := by
  cases l <;> rfl

section

variable {α : Type} [Ord α] [Std.LawfulEqOrd α] {zero : α}

/-- The first places decide, or else the lists behind them. -/
theorem comparePadded_eq_then (l m : List α) :
    comparePadded zero l m
      = (compare (l.getD 0 zero) (m.getD 0 zero)).then (comparePadded zero l.tail m.tail) := by
  cases l with
  | nil =>
    cases m with
    | nil =>
      rw [List.getD_nil, Std.compare_self]
      rfl
    | cons b m => exact comparePadded_nil_cons b m
  | cons a l =>
    cases m with
    | nil => exact comparePadded_cons_nil a l
    | cons b m => exact comparePadded_cons_cons a b l m

theorem then_eq_iff_of_ne {x y o : Ordering} (ho : o ≠ .eq) :
    x.then y = o ↔ x = o ∨ x = .eq ∧ y = o := by
  cases x <;> simp [ho.symm]

/-- **The first place at which the lists differ decides.** -/
theorem comparePadded_eq_iff_of_ne {o : Ordering} (ho : o ≠ .eq) (l m : List α) :
    comparePadded zero l m = o ↔ ∃ i, (∀ j < i, l.getD j zero = m.getD j zero) ∧
      compare (l.getD i zero) (m.getD i zero) = o := by
  obtain ⟨n, hl, hm⟩ : ∃ n, l.length ≤ n ∧ m.length ≤ n :=
    ⟨_, Nat.le_max_left _ _, Nat.le_max_right _ _⟩
  induction n generalizing l m with
  | zero =>
    -- there is no such place behind both lists
    obtain rfl := List.eq_nil_of_length_eq_zero (Nat.le_zero.1 hl)
    obtain rfl := List.eq_nil_of_length_eq_zero (Nat.le_zero.1 hm)
    refine iff_of_false (Ne.symm ho) ?_
    rintro ⟨i, -, hi⟩
    rw [List.getD_nil, Std.compare_self] at hi
    exact ho hi.symm
  | succ n ih =>
    have hl' : l.tail.length ≤ n := by
      rw [List.length_tail]
      omega
    have hm' : m.tail.length ≤ n := by
      rw [List.length_tail]
      omega
    rw [comparePadded_eq_then, then_eq_iff_of_ne ho, Std.compare_eq_iff_eq,
      ih l.tail m.tail hl' hm']
    refine Iff.trans ?_ Nat.or_exists_add_one
    simp only [Nat.forall_lt_succ_left, Nat.not_lt_zero, getD_succ, and_assoc, exists_and_left,
      false_implies, implies_true, true_and]

/-- Lists that differ at no place are equal, and only these. -/
theorem comparePadded_eq_eq_iff (l m : List α) :
    comparePadded zero l m = .eq ↔ ∀ i, l.getD i zero = m.getD i zero := by
  constructor
  · intro h i
    induction i using Nat.strong_induction_on with
    | _ i ih =>
      refine Std.compare_eq_iff_eq.1 (not_not.1 fun hne => hne ?_)
      rw [← (comparePadded_eq_iff_of_ne hne l m).2 ⟨i, ih, rfl⟩, h]
  · intro h
    refine not_not.1 fun hne => ?_
    obtain ⟨i, -, hi⟩ := (comparePadded_eq_iff_of_ne hne l m).1 rfl
    rw [h, Std.compare_self] at hi
    exact hne hi.symm

end

end MigrationLedger
