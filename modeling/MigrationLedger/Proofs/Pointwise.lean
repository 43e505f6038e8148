import Mathlib.Data.List.Forall2
import MigrationLedger.Proofs.Sorting

/-!
# Lists related element by element

What a function of lists does to two lists whose elements are related one by one, when everything
it asks of an element has the same answer for related ones.  A filter and a search keep the same
places.  A sort does so as well: related elements compare as equal, so that two of one list compare
as their partners in the other list do.

## Main results

* `forall₂_filter`, `forall₂_filterMap` — what is left of related lists is related.
* `rel_find?`, `rel_getLast?` — what is found in related lists is related.
* `forall₂_sortBy` — **related lists are sorted alike.**
* `rel_greatestBy?` — their greatest elements are related.
-/

namespace MigrationLedger

variable {α β : Type} {R : α → α → Prop} {S : β → β → Prop} {l m : List α}

/-! ### Options -/

theorem any_eq_of_rel {p q : α → Bool} {a b : Option α} (hpq : ∀ x y, R x y → p x = q y)
    (h : Option.Rel R a b) : a.any p = b.any q := by
  cases h with
  | none => rfl
  | some hab => exact hpq _ _ hab

theorem isSome_eq_of_rel {a b : Option α} (h : Option.Rel R a b) : a.isSome = b.isSome := by
  cases h <;> rfl

theorem rel_map {f g : α → β} {a b : Option α} (hfg : ∀ x y, R x y → S (f x) (g y))
    (h : Option.Rel R a b) : Option.Rel S (a.map f) (b.map g) := by
  cases h with
  | none => exact .none
  | some hab => exact .some (hfg _ _ hab)

/-! ### Lists -/

theorem forall₂_filter {p q : α → Bool} (hpq : ∀ a b, R a b → p a = q b)
    (h : List.Forall₂ R l m) : List.Forall₂ R (l.filter p) (m.filter q) :=
  List.rel_filter (fun a b hab => Bool.eq_iff_iff.1 (hpq a b hab)) h

theorem forall₂_filterMap {f g : α → Option β} (hfg : ∀ a b, R a b → Option.Rel S (f a) (g b))
    (h : List.Forall₂ R l m) : List.Forall₂ S (l.filterMap f) (m.filterMap g) :=
  List.rel_filterMap (fun {_ _} hab => hfg _ _ hab) h

/-- What a function makes of the elements that it does not leave out. -/
theorem forall₂_filter_filterMap {f : α → Option β} {p : α → Bool}
    (h : ∀ a, (f a).isSome = p a) (l : List α) :
    List.Forall₂ (fun a b => f a = some b) (l.filter p) (l.filterMap f) := by
  induction l with
  | nil => exact .nil
  | cons a l ih =>
    rw [List.filter_cons, ← h a, List.filterMap_cons]
    cases ha : f a with
    | none => exact ih
    | some b => exact .cons ha ih

theorem any_eq_of_forall₂ {p q : α → Bool} (hpq : ∀ a b, R a b → p a = q b)
    (h : List.Forall₂ R l m) : l.any p = m.any q := by
  induction h with
  | nil => rfl
  | cons hab _ ih => rw [List.any_cons, List.any_cons, hpq _ _ hab, ih]

theorem map_eq_of_forall₂ {f g : α → β} (hfg : ∀ a b, R a b → f a = g b)
    (h : List.Forall₂ R l m) : l.map f = m.map g := by
  rw [← List.forall₂_eq_eq_eq]
  exact List.rel_map (fun _ _ hab => hfg _ _ hab) h

theorem rel_find? {p q : α → Bool} (hpq : ∀ a b, R a b → p a = q b) (h : List.Forall₂ R l m) :
    Option.Rel R (l.find? p) (m.find? q) := by
  induction h with
  | nil => exact .none
  | @cons a b l m hab _ ih =>
    rw [List.find?_cons, List.find?_cons, hpq a b hab]
    cases q b with
    | true => exact .some hab
    | false => exact ih

theorem rel_getLast? (h : List.Forall₂ R l m) : Option.Rel R l.getLast? m.getLast? := by
  rw [List.getLast?_eq_head?_reverse, List.getLast?_eq_head?_reverse]
  have hreverse : List.Forall₂ R l.reverse m.reverse := List.rel_reverse h
  generalize l.reverse = l', m.reverse = m' at hreverse
  cases hreverse with
  | nil => exact .none
  | cons hab _ => exact .some hab

/-! ### Orders -/

theorem compareOn_eq [Ord β] [Std.ReflOrd β] {f : α → β} {a b : α} (h : f a = f b) :
    compareOn f a b = .eq := by
  rw [compareOn, h, Std.ReflOrd.compare_self]

theorem compare_eq_of_rel [Ord α] {a b : Option α}
    (h : Option.Rel (fun x y => compare x y = .eq) a b) : compare a b = .eq := by
  cases h with
  | none => rfl
  | some hab => exact hab

theorem compareLex_eq {cmp cmp' : α → α → Ordering} {a b : α} (h : cmp a b = .eq)
    (h' : cmp' a b = .eq) : compareLex cmp cmp' a b = .eq := by
  rw [compareLex, h, h', Ordering.then_eq_eq]
  exact ⟨rfl, rfl⟩

/-- Related lists are the two sides of one list of related pairs. -/
theorem exists_pairs (h : List.Forall₂ R l m) :
    ∃ ps : List {p : α × α // R p.1 p.2}, l = ps.map (·.1.1) ∧ m = ps.map (·.1.2) := by
  induction h with
  | nil => exact ⟨[], rfl, rfl⟩
  | cons hab _ ih =>
    obtain ⟨ps, rfl, rfl⟩ := ih
    exact ⟨⟨(_, _), hab⟩ :: ps, rfl, rfl⟩

section

variable {cmp : α → α → Ordering} [Std.TransCmp cmp]

theorem compare_congr {a b c d : α} (hab : cmp a b = .eq) (hcd : cmp c d = .eq) :
    cmp a c = cmp b d :=
  (Std.TransCmp.congr_left hab).trans (Std.TransCmp.congr_right hcd)

/-- **Related lists are sorted alike**, when related elements compare as equal. -/
theorem forall₂_sortBy (hR : ∀ a b, R a b → cmp a b = .eq) (h : List.Forall₂ R l m) :
    List.Forall₂ R (sortBy cmp l) (sortBy cmp m) := by
  obtain ⟨ps, rfl, rfl⟩ := exists_pairs h
  -- sorting the pairs by either side is the same
  have hfirst : sortBy cmp (ps.map (·.1.1)) = _ := sortBy_map (fun _ _ => rfl) ps
  have hsecond : sortBy cmp (ps.map (·.1.2)) = _ :=
    sortBy_map (fun p q => (compare_congr (hR _ _ p.2) (hR _ _ q.2)).symm) ps
  rw [hfirst, hsecond, List.forall₂_map_left_iff, List.forall₂_map_right_iff, List.forall₂_same]
  exact fun p _ => p.2

theorem rel_pickGreater (hR : ∀ a b, R a b → cmp a b = .eq) {a b : Option α} {c d : α}
    (hab : Option.Rel R a b) (hcd : R c d) :
    Option.Rel R (pickGreater cmp a c) (pickGreater cmp b d) := by
  cases hab with
  | none => exact .some hcd
  | some hab =>
    simp only [pickGreater, compare_congr (hR _ _ hab) (hR _ _ hcd)]
    split
    · exact .some hcd
    · exact .some hab

/-- The greatest elements of related lists are related. -/
theorem rel_greatestBy? (hR : ∀ a b, R a b → cmp a b = .eq) (h : List.Forall₂ R l m) :
    Option.Rel R (greatestBy? cmp l) (greatestBy? cmp m) :=
  List.rel_foldl (P := Option.Rel R) (R := R) (fun _ _ hab _ _ hcd => rel_pickGreater hR hab hcd)
    .none h

end

end MigrationLedger
