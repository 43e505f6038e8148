import Mathlib.Data.List.Induction
import Mathlib.Data.List.Pairwise
import MigrationLedger.Order

/-!
# Sorted lists and greatest elements

What a comparison determines: a strictly ordered list is determined by its elements,
and the greatest element of a list decides every question that is monotone in the
order.  A stable sort is determined by the order and the list: it keeps the ties of every element,
and sorted lists with the same ties are the same.

## Main definitions

* `tiesOf` — the elements that compare as equal with a given one.
* `IsStableSort` — a list in the order of a comparison, with its ties as they were.

## Main results

* `eq_of_pairwise_of_mem_iff` — strictly ordered lists with the same elements are equal.
* `sortBy_eq_of_perm` — sorting undoes a permutation of a strictly ordered list.
* `sortBy_map` — sorting goes through a function that keeps the comparison.
* `sortBy_eq_sortBy_of_perm` — where nothing ties, the order of a list does not matter.
* `IsStableSort.eq_sortBy` — **there is one stable sort of a list.**
* `sortBy_flatMap_sortBy` — sorting the parts before the whole changes nothing.
* `sortBy_filterMap` — sorting goes through a function that leaves elements out.
* `head?_sortBy_eq_some_iff`, `getLast?_sortBy_eq_some_iff` — the first and the last element of a
  sorted list.
* `any_greatestBy?` — a monotone question holds of the greatest element as soon as it
  holds of some element.
* `any_greatestBy?_iff_forall` — an antitone one holds of the greatest element when it holds
  of all elements.
-/

namespace MigrationLedger

variable {α : Type}

/-- Strictly ordered lists with the same elements are equal. -/
theorem eq_of_pairwise_of_mem_iff {r : α → α → Prop} (hr : ∀ a b, r a b → ¬ r b a)
    {l m : List α} (hl : l.Pairwise r) (hm : m.Pairwise r) (h : ∀ a, a ∈ l ↔ a ∈ m) :
    l = m := by
  have hne : ∀ {a b : α}, r a b → a ≠ b := by
    rintro a b hab rfl
    exact hr a a hab hab
  have hperm : l.Perm m := (List.perm_ext_iff_of_nodup (hl.imp hne) (hm.imp hne)).2 h
  exact hperm.eq_of_pairwise (fun a b _ _ hab hba => absurd hba (hr a b hab)) hl hm

/-- Sorting undoes a permutation of a strictly ordered list. -/
theorem sortBy_eq_of_perm {cmp : α → α → Ordering} [Std.TransCmp cmp] {l m : List α}
    (hm : m.Pairwise fun a b => cmp a b = .lt) (h : l.Perm m) : sortBy cmp l = m := by
  have hperm : (sortBy cmp l).Perm m := (sortBy_perm cmp l).trans h
  have hne : m.Pairwise fun a b => cmp a b ≠ .eq := hm.imp fun hab => by simp [hab]
  have hsymm : Std.Symm fun a b => cmp a b ≠ .eq :=
    ⟨fun a b h h' => h (Std.OrientedCmp.eq_symm h')⟩
  refine hperm.eq_of_pairwise (fun a b ha hb hab hba => ?_) (pairwise_sortBy cmp l)
    (hm.imp fun hab => by simp [hab])
  by_contra h'
  exact hne.forall (hperm.mem_iff.1 ha) hb h' (Std.OrientedCmp.isLE_antisymm hab hba)

/-- Sorting goes through a function that keeps the comparison, ties included. -/
theorem sortBy_map {β : Type} {cmp : α → α → Ordering} {cmp' : β → β → Ordering} {f : α → β}
    (h : ∀ a b, cmp' (f a) (f b) = cmp a b) (l : List α) :
    sortBy cmp' (l.map f) = (sortBy cmp l).map f := by
  unfold sortBy
  exact (List.map_mergeSort fun a _ b _ => by rw [h]).symm

/-- A sorted list in which no two elements compare as equal is strictly ordered. -/
theorem pairwise_lt_of_isLE {cmp : α → α → Ordering} {l : List α}
    (hle : l.Pairwise fun a b => (cmp a b).isLE = true)
    (hne : l.Pairwise fun a b => cmp a b ≠ .eq) : l.Pairwise fun a b => cmp a b = .lt := by
  refine (hle.and hne).imp fun {a b} hab => ?_
  revert hab
  cases cmp a b <;> simp

/-- So is a list once it is sorted. -/
theorem pairwise_lt_sortBy {cmp : α → α → Ordering} [Std.TransCmp cmp] {l : List α}
    (hne : l.Pairwise fun a b => cmp a b ≠ .eq) :
    (sortBy cmp l).Pairwise fun a b => cmp a b = .lt :=
  pairwise_lt_of_isLE (pairwise_sortBy cmp l)
    (hne.perm (sortBy_perm cmp l).symm fun h h' => h (Std.OrientedCmp.eq_symm h'))

/-- Where no two elements compare as equal, a list and its permutations are sorted alike. -/
theorem sortBy_eq_sortBy_of_perm {cmp : α → α → Ordering} [Std.TransCmp cmp] {l m : List α}
    (hne : l.Pairwise fun a b => cmp a b ≠ .eq) (h : l.Perm m) : sortBy cmp l = sortBy cmp m :=
  (sortBy_eq_of_perm (pairwise_lt_sortBy hne) (h.symm.trans (sortBy_perm cmp l).symm)).symm

/-! ### Stable sorts -/

/-- The elements of a list that compare as equal with `a`, in the order of the list. -/
def tiesOf (cmp : α → α → Ordering) (a : α) (l : List α) : List α :=
  l.filter fun b => cmp a b == .eq

theorem mem_tiesOf {cmp : α → α → Ordering} {a b : α} {l : List α} :
    b ∈ tiesOf cmp a l ↔ b ∈ l ∧ cmp a b = .eq := by
  rw [tiesOf, List.mem_filter, beq_iff_eq]

theorem tiesOf_cons (cmp : α → α → Ordering) (a b : α) (l : List α) :
    tiesOf cmp a (b :: l) = if cmp a b = .eq then b :: tiesOf cmp a l else tiesOf cmp a l := by
  simp [tiesOf, List.filter_cons]

/-- The list `m` is `l` in the order `cmp`, with its ties as they were. -/
structure IsStableSort (cmp : α → α → Ordering) (l m : List α) : Prop where
  /-- The elements stay the same. -/
  perm : m.Perm l
  /-- They are in the order `cmp`. -/
  sorted : m.Pairwise fun a b => (cmp a b).isLE = true
  /-- Those that compare as equal keep their order. -/
  stable : ∀ a, tiesOf cmp a m = tiesOf cmp a l

section

variable {cmp : α → α → Ordering} [Std.TransCmp cmp]

theorem tiesOf_congr {a b : α} (h : cmp a b = .eq) (l : List α) :
    tiesOf cmp a l = tiesOf cmp b l := by
  unfold tiesOf
  congr 1
  funext c
  rw [Std.TransCmp.congr_left h]

theorem tiesOf_sortBy (a : α) (l : List α) : tiesOf cmp a (sortBy cmp l) = tiesOf cmp a l := by
  have hties : (tiesOf cmp a l).Pairwise fun b c => (cmp b c).isLE = true := by
    refine List.pairwise_of_forall_mem_list fun b hb c hc => ?_
    have hba : cmp b a = .eq := Std.OrientedCmp.eq_symm (mem_tiesOf.1 hb).2
    rw [Std.TransCmp.eq_trans hba (mem_tiesOf.1 hc).2]
    rfl
  have hsub : (tiesOf cmp a l).Sublist (sortBy cmp l) := by
    refine List.sublist_mergeSort (fun _ _ _ => Std.TransCmp.isLE_trans) (fun b c => ?_) hties
      List.filter_sublist
    rw [@Std.OrientedCmp.eq_swap α cmp _ b c]
    cases cmp c b <;> rfl
  -- sorting keeps the ties in their order, and it adds none
  have hsub' : (tiesOf cmp a l).Sublist (tiesOf cmp a (sortBy cmp l)) := by
    simpa [tiesOf, List.filter_filter] using hsub.filter fun b => cmp a b == .eq
  exact (hsub'.eq_of_length ((sortBy_perm cmp l).filter _).length_eq.symm).symm

theorem isStableSort_sortBy (l : List α) : IsStableSort cmp l (sortBy cmp l) :=
  ⟨sortBy_perm cmp l, pairwise_sortBy cmp l, fun a => tiesOf_sortBy a l⟩

theorem mem_of_tiesOf_eq {l m : List α} (h : ∀ a, tiesOf cmp a l = tiesOf cmp a m) {a : α}
    (ha : a ∈ l) : a ∈ m := by
  have htie : a ∈ tiesOf cmp a l := mem_tiesOf.2 ⟨ha, Std.ReflCmp.compare_self⟩
  rw [h] at htie
  exact (mem_tiesOf.1 htie).1

/-- No element of a sorted list is less than the first one. -/
theorem isLE_of_mem_of_pairwise {a b : α} {l : List α}
    (h : (a :: l).Pairwise fun a b => (cmp a b).isLE = true) (hb : b ∈ a :: l) :
    (cmp a b).isLE = true := by
  rcases List.mem_cons.1 hb with rfl | hb
  · simp [Std.ReflCmp.compare_self]
  · exact List.rel_of_pairwise_cons h hb

/-- Sorted lists with the same ties are equal. -/
theorem eq_of_pairwise_of_tiesOf_eq {l m : List α}
    (hl : l.Pairwise fun a b => (cmp a b).isLE = true)
    (hm : m.Pairwise fun a b => (cmp a b).isLE = true)
    (h : ∀ a, tiesOf cmp a l = tiesOf cmp a m) : l = m := by
  induction l generalizing m with
  | nil =>
    have hnot : ∀ a, a ∉ m := fun a ha =>
      List.not_mem_nil (mem_of_tiesOf_eq (fun a => (h a).symm) ha)
    exact (List.eq_nil_iff_forall_not_mem.2 hnot).symm
  | cons a l ih =>
    cases m with
    | nil => exact absurd (mem_of_tiesOf_eq h List.mem_cons_self) List.not_mem_nil
    | cons b m =>
      -- the first element of each list is in the other list, so the two compare as equal
      have hab : (cmp a b).isLE = true :=
        isLE_of_mem_of_pairwise hl (mem_of_tiesOf_eq (fun a => (h a).symm) List.mem_cons_self)
      have hba : (cmp b a).isLE = true :=
        isLE_of_mem_of_pairwise hm (mem_of_tiesOf_eq h List.mem_cons_self)
      have heq : cmp a b = .eq := Std.OrientedCmp.isLE_antisymm hab hba
      have hties := h a
      rw [tiesOf_cons, tiesOf_cons, if_pos Std.ReflCmp.compare_self, if_pos heq] at hties
      obtain rfl : a = b := (List.cons.inj hties).1
      refine congrArg (a :: ·) (ih hl.of_cons hm.of_cons fun c => ?_)
      have hc := h c
      rw [tiesOf_cons, tiesOf_cons] at hc
      split at hc
      · exact (List.cons.inj hc).2
      · exact hc

/-- **There is one stable sort of a list.** -/
theorem IsStableSort.eq_sortBy {l m : List α} (h : IsStableSort cmp l m) : m = sortBy cmp l :=
  eq_of_pairwise_of_tiesOf_eq h.sorted (pairwise_sortBy cmp l) fun a =>
    (h.stable a).trans (tiesOf_sortBy a l).symm

/-- Sorting goes through a function that leaves elements out, when what it makes of the others
compares as they do. -/
theorem sortBy_filterMap {β : Type} {cmp' : β → β → Ordering} [Std.TransCmp cmp'] {f : α → Option β}
    (h : ∀ a b x y, f a = some x → f b = some y → cmp' x y = cmp a b) (l : List α) :
    sortBy cmp' (l.filterMap f) = (sortBy cmp l).filterMap f := by
  have hsorted : ((sortBy cmp l).filterMap f).Pairwise fun x y => (cmp' x y).isLE = true :=
    (pairwise_sortBy cmp l).filterMap f fun a b hab x hx y hy => by rwa [h a b x y hx hy]
  -- the ties of what is made of `a` are made of the ties of `a`
  have hties : ∀ (a : α) (y : β), f a = some y → ∀ l : List α,
      tiesOf cmp' y (l.filterMap f) = (tiesOf cmp a l).filterMap f := by
    intro a y hy l
    rw [tiesOf, tiesOf, List.filter_filterMap, List.filterMap_filter]
    congr 1
    funext b
    cases hb : f b with
    | none => simp
    | some z => simp [Option.filter, h a b y z hy hb]
  refine (IsStableSort.eq_sortBy ⟨(sortBy_perm cmp l).filterMap f, hsorted, fun x => ?_⟩).symm
  by_cases hx : ∃ a y, f a = some y ∧ cmp' x y = .eq
  · obtain ⟨a, y, hy, hxy⟩ := hx
    rw [tiesOf_congr hxy, tiesOf_congr hxy, hties a y hy, hties a y hy, tiesOf_sortBy]
  · have hnone : ∀ l : List α, tiesOf cmp' x (l.filterMap f) = [] := by
      refine fun l => List.filter_eq_nil_iff.2 fun y hy hxy => hx ?_
      obtain ⟨a, -, ha⟩ := List.mem_filterMap.1 hy
      exact ⟨a, y, ha, by simpa using hxy⟩
    rw [hnone, hnone]

theorem filter_sortBy (p : α → Bool) (l : List α) :
    (sortBy cmp l).filter p = sortBy cmp (l.filter p) := by
  rw [← List.filterMap_eq_filter]
  refine (sortBy_filterMap (fun a b x y hx hy => ?_) l).symm
  obtain rfl : a = x := (Option.guard_eq_some_iff.1 hx).1
  obtain rfl : b = y := (Option.guard_eq_some_iff.1 hy).1
  rfl

/-- Sorting lists one by one before they are joined and sorted changes nothing. -/
theorem sortBy_flatMap_sortBy (ls : List (List α)) :
    sortBy cmp (ls.flatMap (sortBy cmp)) = sortBy cmp ls.flatten := by
  refine eq_of_pairwise_of_tiesOf_eq (pairwise_sortBy cmp _) (pairwise_sortBy cmp _) fun a => ?_
  rw [tiesOf_sortBy, tiesOf_sortBy]
  induction ls with
  | nil => rfl
  | cons l ls ih =>
    have happend : ∀ l m : List α, tiesOf cmp a (l ++ m) = tiesOf cmp a l ++ tiesOf cmp a m :=
      fun _ _ => List.filter_append ..
    rw [List.flatMap_cons, List.flatten_cons, happend, happend, tiesOf_sortBy, ih]

/-! ### The ends of a sorted list -/

/-- A sorted list begins with the first of its least elements. -/
theorem head?_sortBy_eq_some_iff {a : α} {l : List α} :
    (sortBy cmp l).head? = some a ↔
      (∀ b ∈ l, (cmp a b).isLE = true) ∧ (tiesOf cmp a l).head? = some a := by
  have hsorted := pairwise_sortBy cmp l
  rw [← tiesOf_sortBy]
  constructor
  · intro ha
    obtain ⟨rest, hrest⟩ := List.head?_eq_some_iff.1 ha
    rw [hrest] at hsorted ⊢
    exact ⟨fun b hb => isLE_of_mem_of_pairwise hsorted (hrest ▸ mem_sortBy.2 hb),
      by simp [tiesOf_cons, Std.ReflCmp.compare_self]⟩
  · rintro ⟨hleast, htie⟩
    have hmem : a ∈ sortBy cmp l := (mem_tiesOf.1 (List.mem_of_head? htie)).1
    cases hl : sortBy cmp l with
    | nil => simp [hl] at hmem
    | cons b rest =>
      -- `a` and the first element are both least, so that the first element is the first tie
      rw [hl] at hsorted hmem htie
      have hab := hleast b (mem_sortBy.1 (hl ▸ List.mem_cons_self))
      have hba : (cmp b a).isLE = true := isLE_of_mem_of_pairwise hsorted hmem
      rw [tiesOf_cons, if_pos (Std.OrientedCmp.isLE_antisymm hab hba)] at htie
      exact htie

/-- A sorted list ends with the last of its greatest elements. -/
theorem getLast?_sortBy_eq_some_iff {a : α} {l : List α} :
    (sortBy cmp l).getLast? = some a ↔
      (∀ b ∈ l, (cmp b a).isLE = true) ∧ (tiesOf cmp a l).getLast? = some a := by
  have hsorted := pairwise_sortBy cmp l
  have hlast : ∀ {front : List α} {b c : α}, sortBy cmp l = front ++ [b] → c ∈ l →
      (cmp c b).isLE = true := by
    intro front b c hl hc
    rw [hl] at hsorted
    rcases List.mem_append.1 (hl ▸ mem_sortBy.2 hc) with hc | hc
    · exact (List.pairwise_append.1 hsorted).2.2 c hc b List.mem_cons_self
    · obtain rfl : c = b := by simpa using hc
      simp [Std.ReflCmp.compare_self]
  rw [← tiesOf_sortBy]
  constructor
  · intro ha
    obtain ⟨front, hfront⟩ := List.getLast?_eq_some_iff.1 ha
    refine ⟨fun b hb => hlast hfront hb, ?_⟩
    simp [hfront, tiesOf, Std.ReflCmp.compare_self]
  · rintro ⟨hgreatest, htie⟩
    have hmem : a ∈ l := mem_sortBy.1 (mem_tiesOf.1 (List.mem_of_getLast? htie)).1
    cases hl : (sortBy cmp l).getLast? with
    | none => simp [List.getLast?_eq_none_iff.1 hl, tiesOf] at htie
    | some b =>
      obtain ⟨front, hfront⟩ := List.getLast?_eq_some_iff.1 hl
      have hb : b ∈ l := mem_sortBy.1 (List.mem_of_getLast? hl)
      have htied : cmp a b = .eq :=
        Std.OrientedCmp.isLE_antisymm (hlast hfront hmem) (hgreatest b hb)
      rw [hfront] at htie
      simpa [tiesOf, htied] using htie

end

/-! ### Greatest elements -/

theorem greatestBy?_concat (cmp : α → α → Ordering) (l : List α) (a : α) :
    greatestBy? cmp (l ++ [a]) = pickGreater cmp (greatestBy? cmp l) a := by
  simp [greatestBy?]

theorem greatestBy?_eq_none_iff {cmp : α → α → Ordering} {l : List α} :
    greatestBy? cmp l = none ↔ l = [] := by
  induction l using List.reverseRecOn with
  | nil => simp [greatestBy?]
  | append_singleton l a _ =>
    rw [greatestBy?_concat]
    cases greatestBy? cmp l with
    | none => simp [pickGreater]
    | some b => by_cases h : (cmp b a).isLE = true <;> simp [pickGreater, h]

theorem mem_of_greatestBy? {cmp : α → α → Ordering} {l : List α} {a : α}
    (h : greatestBy? cmp l = some a) : a ∈ l := by
  induction l using List.reverseRecOn with
  | nil => simp [greatestBy?] at h
  | append_singleton l b ih =>
    rw [greatestBy?_concat] at h
    cases hg : greatestBy? cmp l with
    | none => simp_all [pickGreater]
    | some c =>
      rw [hg, pickGreater] at h
      split at h
      · simp_all
      · exact List.mem_append_left _ (ih (hg.trans h))

/-- No element is greater than the greatest one. -/
theorem isLE_of_greatestBy? {cmp : α → α → Ordering} [Std.TransCmp cmp] {l : List α} {a : α}
    (h : greatestBy? cmp l = some a) : ∀ b ∈ l, (cmp b a).isLE = true := by
  induction l using List.reverseRecOn generalizing a with
  | nil => simp
  | append_singleton l c ih =>
    intro b hb
    rw [greatestBy?_concat] at h
    cases hg : greatestBy? cmp l with
    | none =>
      obtain rfl : l = [] := greatestBy?_eq_none_iff.1 hg
      obtain rfl : c = a := by simpa [pickGreater, greatestBy?] using h
      obtain rfl : b = c := by simpa using hb
      simp [Std.ReflCmp.compare_self]
    | some g =>
      rw [hg, pickGreater] at h
      split at h
      · next hgc =>
        obtain rfl : c = a := by simpa using h
        rcases List.mem_append.1 hb with hb | hb
        · exact Std.TransCmp.isLE_trans (ih hg b hb) hgc
        · obtain rfl : b = c := by simpa using hb
          simp [Std.ReflCmp.compare_self]
      · next hgc =>
        obtain rfl : g = a := by simpa using h
        rcases List.mem_append.1 hb with hb | hb
        · exact ih hg b hb
        · obtain rfl : b = c := by simpa using hb
          rw [@Std.OrientedCmp.eq_swap α cmp]
          revert hgc
          cases cmp g b <;> simp

/-- A question that greater elements answer alike is decided by the greatest element. -/
theorem any_greatestBy? {cmp : α → α → Ordering} [Std.TransCmp cmp] {l : List α} {p : α → Bool}
    (hp : ∀ a b, (cmp a b).isLE = true → p a = true → p b = true) :
    (greatestBy? cmp l).any p = true ↔ ∃ a ∈ l, p a = true := by
  cases hg : greatestBy? cmp l with
  | none => simp [greatestBy?_eq_none_iff.1 hg]
  | some g =>
    constructor
    · intro h
      exact ⟨g, mem_of_greatestBy? hg, by simpa using h⟩
    · rintro ⟨a, ha, hpa⟩
      simpa using hp a g (isLE_of_greatestBy? hg a ha) hpa

/-- A question that lesser elements answer alike holds of the greatest element when it holds of
all elements. -/
theorem any_greatestBy?_iff_forall {cmp : α → α → Ordering} [Std.TransCmp cmp] {l : List α}
    {p : α → Bool} (hp : ∀ a b, (cmp a b).isLE = true → p b = true → p a = true) :
    (greatestBy? cmp l).any p = true ↔ (∃ a, a ∈ l) ∧ ∀ a ∈ l, p a = true := by
  cases hg : greatestBy? cmp l with
  | none => simp [greatestBy?_eq_none_iff.1 hg]
  | some g =>
    have hmem : g ∈ l := mem_of_greatestBy? hg
    constructor
    · intro h
      exact ⟨⟨g, hmem⟩, fun a ha => hp a g (isLE_of_greatestBy? hg a ha) (by simpa using h)⟩
    · rintro ⟨-, hall⟩
      simpa using hall g hmem

end MigrationLedger
