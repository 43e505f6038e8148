import MigrationLedger.Registry

/-!
# Kinds and their names

A registry is asked in two ways.  For the name of a kind it goes to the provider that the kind
names, and wants to see that very kind there, facets and all.  For the kind of a name it takes the
first kind so called, among the built-in ones and then from provider to provider, unless the name
is one that only old ledgers hold.  Where every provider lists kinds of its own, each listed kind
has a name; the name leads back to the kind unless another one stands in front of it.  Whatever a
name leads to is what its own name leads to.

## Main definitions

* `Registry.ListsOwnKinds` — every provider lists kinds that carry its name.
* `Registry.legacy?` — the built-in kind that an old name stands for.
* `Registry.firstNamed?` — the first kind of a name.

## Main results

* `Registry.kindOf?_eq` — a name means what an old ledger means by it, or the first kind so called.
* `Registry.nameOf_of_mem_kinds` — a listed kind is stored under its name.
* `Registry.kindOf_name_of_kindOf` — what a name means is what the name of that kind means.
* `kind_names_round_trip` — **names lead back to their kinds, except to those that are
  shadowed.**
-/

namespace MigrationLedger

namespace Registry

/-- Every provider lists kinds that carry its name. -/
def ListsOwnKinds (r : Registry) : Prop :=
  ∀ p ∈ r.providers, ∀ k ∈ p.kinds, k.provider = p.name

instance (r : Registry) : Decidable r.ListsOwnKinds :=
  inferInstanceAs (Decidable (∀ p ∈ r.providers, ∀ k ∈ p.kinds, k.provider = p.name))

/-- The built-in kind that an old name stands for. -/
def legacy? (s : String) : Option CoreKind := legacyNames.lookup s

/-- The first kind of a name: built-in kinds first, then the kinds of the providers in order. -/
def firstNamed? (r : Registry) (s : String) : Option Kind := r.kinds.find? fun k => k.name == s

variable {r : Registry} {s : String} {k : Kind}

/-! ### Old names -/

/-- The names that have an old meaning are the old names. -/
theorem legacy?_eq_none_iff : legacy? s = none ↔ s ∉ legacyNames.map Prod.fst := by
  rw [legacy?, List.lookup_eq_none_iff, List.mem_map]
  constructor
  · rintro h ⟨p, hp, rfl⟩
    exact absurd (beq_self_eq_true p.1) (by simpa using h p hp)
  · intro h p hp
    rw [bne_iff_ne]
    rintro rfl
    exact h ⟨p, hp, rfl⟩

/-- No built-in kind goes by an old name now. -/
theorem legacy?_name (c : CoreKind) : legacy? c.name = none := by
  cases c <;> decide

/-- The kind that an old name stands for has a name of its own. -/
theorem name_ne_of_legacy? {c : CoreKind} (h : legacy? s = some c) : c.name ≠ s := by
  rintro rfl
  rw [legacy?_name] at h
  exact nomatch h

/-! ### The first kind of a name -/

theorem find?_core (s : String) :
    (CoreKind.all.map Kind.core).find? (fun k => k.name == s) = (CoreKind.ofName? s).map .core := by
  rw [List.find?_map, CoreKind.ofName?]
  rfl

theorem find?_external (ps : List Provider) (s : String) :
    (ps.flatMap fun p => p.kinds.map Kind.external).find? (fun k => k.name == s)
      = (ps.findSome? fun p => p.kinds.find? fun k => k.name == s).map .external := by
  induction ps with
  | nil => rfl
  | cons p ps ih =>
    have hhead : (p.kinds.map Kind.external).find? (fun k => k.name == s)
        = (p.kinds.find? fun k => k.name == s).map .external := by
      rw [List.find?_map]
      rfl
    rw [List.flatMap_cons, List.find?_append, ih, hhead, List.findSome?_cons]
    cases p.kinds.find? fun k => k.name == s <;> rfl

/-- **A name means what an old ledger means by it, or the first kind so called.** -/
theorem kindOf?_eq (r : Registry) (s : String) :
    r.kindOf? s = ((legacy? s).map .core).or (r.firstNamed? s) := by
  rw [kindOf?, firstNamed?, kinds, List.find?_append, find?_core, find?_external, ← external?,
    legacy?]
  cases legacyNames.lookup s with
  | some c => rfl
  | none =>
    cases CoreKind.ofName? s with
    | some c => rfl
    | none => rfl

theorem name_of_firstNamed? (h : r.firstNamed? s = some k) : k.name = s := by
  simpa using List.find?_some h

theorem mem_kinds_of_firstNamed? (h : r.firstNamed? s = some k) : k ∈ r.kinds :=
  List.mem_of_find?_eq_some h

/-- A built-in kind is the first one of its name. -/
theorem firstNamed?_core (c : CoreKind) : r.firstNamed? c.name = some (.core c) := by
  rw [firstNamed?, kinds, List.find?_append, find?_core, CoreKind.ofName?_eq_some_iff.2 rfl]
  rfl

/-! ### Going back and forth -/

/-- The name a kind is stored under is the one it carries. -/
theorem eq_name_of_nameOf (h : r.nameOf k = .ok s) : s = k.name := by
  cases k with
  | core c => exact (Except.ok.inj h).symm
  | external e =>
    rw [nameOf] at h
    split at h
    · exact (Except.ok.inj h).symm
    · exact nomatch h

/-- **A listed kind is stored under its name**, where providers list kinds of their own. -/
theorem nameOf_of_mem_kinds (h : r.ListsOwnKinds) (hk : k ∈ r.kinds) : r.nameOf k = .ok k.name := by
  cases k with
  | core c => rfl
  | external e =>
    have hlists : r.lists e = true := by
      simp only [kinds, List.mem_append, List.mem_map, List.mem_flatMap] at hk
      rcases hk with ⟨c, -, hc⟩ | ⟨p, hp, e', he, heq⟩
      · exact nomatch hc
      · obtain rfl : e' = e := Kind.external.inj heq
        exact List.any_eq_true.2 ⟨p, hp, by simp [h p hp e' he, he]⟩
    rw [nameOf, if_pos hlists]
    rfl

/-- The name of a kind leads back to it when the name is no old one and the kind is the first so
called. -/
theorem kindOf_name_eq_ok_iff :
    r.kindOf k.name = .ok k ↔ legacy? k.name = none ∧ r.firstNamed? k.name = some k := by
  rw [kindOf_eq_ok_iff, kindOf?_eq]
  cases hold : legacy? k.name with
  | none => simp
  | some c =>
    -- an old name leads to a kind of another name
    have hne := name_ne_of_legacy? hold
    simp only [Option.map_some, Option.some_or, reduceCtorEq, false_and, iff_false]
    intro heq
    rw [← Option.some.inj heq] at hne
    exact hne rfl

/-- **What a name means is what the name of that kind means.** -/
theorem kindOf_name_of_kindOf (h : r.kindOf s = .ok k) : r.kindOf k.name = .ok k := by
  rw [kindOf_eq_ok_iff, kindOf?_eq] at h
  rw [kindOf_name_eq_ok_iff]
  cases hold : legacy? s with
  | some c =>
    rw [hold] at h
    obtain rfl : Kind.core c = k := Option.some.inj h
    exact ⟨legacy?_name c, firstNamed?_core c⟩
  | none =>
    rw [hold] at h
    have hfirst : r.firstNamed? s = some k := h
    rw [name_of_firstNamed? hfirst]
    exact ⟨hold, hfirst⟩

/-- What a name means is a kind of the registry. -/
theorem mem_kinds_of_kindOf (h : r.kindOf s = .ok k) : k ∈ r.kinds :=
  mem_kinds_of_firstNamed? (kindOf_name_eq_ok_iff.1 (kindOf_name_of_kindOf h)).2

end Registry

open Registry (legacyNames)

/-- **Names lead back to their kinds, except to those that are shadowed.**  Where every provider
lists kinds of its own, each kind of the registry has a name, and that name leads back to it exactly
when it is no old name and no kind so called stands in front of it.  Whatever a name leads to has a
name too, and that leads to it again. -/
theorem kind_names_round_trip {r : Registry} (h : r.ListsOwnKinds) :
    (∀ k ∈ r.kinds, ∃ name, r.nameOf k = .ok name ∧
      (r.kindOf name = .ok k ↔ name ∉ legacyNames.map Prod.fst ∧
        r.kinds.find? (fun j => j.name == name) = some k)) ∧
    ∀ s k, r.kindOf s = .ok k → ∃ name, r.nameOf k = .ok name ∧ r.kindOf name = .ok k := by
  constructor
  · intro k hk
    refine ⟨k.name, Registry.nameOf_of_mem_kinds h hk, ?_⟩
    rw [Registry.kindOf_name_eq_ok_iff, Registry.legacy?_eq_none_iff]
    rfl
  · intro s k hkind
    exact ⟨k.name, Registry.nameOf_of_mem_kinds h (Registry.mem_kinds_of_kindOf hkind),
      Registry.kindOf_name_of_kindOf hkind⟩

namespace Plain

/-- A kind without facets. -/
def kind (provider name : String) : ExternalKind := ⟨provider, name, ⟨false, false, false⟩⟩

/-- A published kind with a facet. -/
def syntheticKind (provider name : String) : ExternalKind := ⟨provider, name, ⟨true, false, false⟩⟩

/-- A registry with shadowed kinds. -/
def shadowing : Registry where
  providers :=
    [⟨"json", [kind "json" "JSON", kind "json" "SQL", kind "json" "SPRING_JDBC"]⟩,
      ⟨"yaml", [kind "yaml" "YAML", kind "yaml" "JSON"]⟩,
      ⟨"json", [syntheticKind "json" "JSON"]⟩]

/-- Its shadowed kinds: by a built-in kind, by an old name, by a kind of another provider, and by
one of a provider of the same name. -/
def shadowed : List Kind :=
  [.external (kind "json" "SQL"), .external (kind "json" "SPRING_JDBC"),
    .external (kind "yaml" "JSON"), .external (syntheticKind "json" "JSON")]

end Plain

/-- The first kind of a name is found again, the four kinds behind it are not. -/
theorem kind_names_round_trip_shadowing :
    Plain.shadowing.ListsOwnKinds ∧
      (∃ name, Plain.shadowing.nameOf (.external (Plain.kind "json" "JSON")) = .ok name ∧
        Plain.shadowing.kindOf name = .ok (.external (Plain.kind "json" "JSON"))) ∧
      ∀ k ∈ Plain.shadowed, ∃ name, Plain.shadowing.nameOf k = .ok name ∧
        Plain.shadowing.kindOf name ≠ .ok k := by
  have hown : Plain.shadowing.ListsOwnKinds := by decide
  obtain ⟨hkinds, -⟩ := kind_names_round_trip hown
  refine ⟨hown, ?_, fun k hk => ?_⟩
  · obtain ⟨name, hname, hback⟩ := hkinds (.external (Plain.kind "json" "JSON")) (by decide)
    obtain rfl := Registry.eq_name_of_nameOf hname
    exact ⟨_, hname, hback.2 ⟨by decide, by decide⟩⟩
  · have hshadowed : ∀ k ∈ Plain.shadowed, k ∈ Plain.shadowing.kinds ∧
        ¬ (k.name ∉ legacyNames.map Prod.fst ∧
          Plain.shadowing.kinds.find? (fun j => j.name == k.name) = some k) := by decide
    obtain ⟨hmem, hnot⟩ := hshadowed k hk
    obtain ⟨name, hname, hback⟩ := hkinds k hmem
    obtain rfl := Registry.eq_name_of_nameOf hname
    exact ⟨_, hname, fun h => hnot (hback.1 h)⟩

end MigrationLedger
