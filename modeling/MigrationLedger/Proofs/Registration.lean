import MigrationLedger.Proofs.KindNames

/-!
# Registering providers

Ledgers outlive the programs that read them, so a name in a row must not change its meaning because
a provider was added.  A name means what it means without any provider, and else what the first
provider that lists the name says.  A provider that is registered later comes behind all others, and
so it is asked only for names that meant nothing before.

The order of the providers matters for those names alone that several of them list.  Which kinds
have a name, and which names have a kind, does not depend on it at all.

## Main definitions

* `Registry.registerAll` — the registry with further providers, one after the other.
* `Registry.builtIn?` — what a name means without any provider.

## Main results

* `Registry.kindOf?_eq_or` — the built-in meaning first, then the providers.
* `Registry.nameOf_register` — a further provider takes no name from a kind.
* `Registry.nameOf_of_perm`, `Registry.exists_kindOf_iff_of_perm` — what the order of the providers
  leaves alone.
* `Registry.exists_rivals_of_perm` — two orders differ on a name that two providers list.
* `registering_keeps_names` — **registering providers never changes what already resolves.**
-/

namespace MigrationLedger

namespace Registry

variable {r r' : Registry} {s : String} {k k' : Kind}

/-! ### Further providers -/

/-- The registry with further providers, registered one after the other. -/
def registerAll (r : Registry) (later : List Provider) : Registry := later.foldl register r

@[simp] theorem registerAll_nil (r : Registry) : r.registerAll [] = r := rfl

@[simp] theorem registerAll_cons (r : Registry) (p : Provider) (later : List Provider) :
    r.registerAll (p :: later) = (r.register p).registerAll later := rfl

theorem nameOf_external_eq_ok_iff {e : ExternalKind} :
    r.nameOf (.external e) = .ok s ↔ r.lists e = true ∧ e.name = s := by
  rw [nameOf]
  split <;> simp_all

/-- A further provider takes no name from a kind. -/
theorem nameOf_register (p : Provider) (h : r.nameOf k = .ok s) :
    (r.register p).nameOf k = .ok s := by
  cases k with
  | core c => exact h
  | external e =>
    rw [nameOf_external_eq_ok_iff] at h ⊢
    refine ⟨?_, h.2⟩
    rw [lists, register, List.any_append, Bool.or_eq_true]
    exact .inl h.1

theorem kindOf_registerAll (later : List Provider) (h : r.kindOf s = .ok k) :
    (r.registerAll later).kindOf s = .ok k := by
  induction later generalizing r with
  | nil => exact h
  | cons p later ih => exact ih (kindOf_append p h)

theorem nameOf_registerAll (later : List Provider) (h : r.nameOf k = .ok s) :
    (r.registerAll later).nameOf k = .ok s := by
  induction later generalizing r with
  | nil => exact h
  | cons p later ih => exact ih (nameOf_register p h)

/-! ### Names with and without providers -/

/-- What a name means without any provider. -/
def builtIn? (s : String) : Option Kind := ((legacy? s).or (CoreKind.ofName? s)).map .core

/-- **A name means what it means without any provider, and else what the first provider that lists
it says.** -/
theorem kindOf?_eq_or (r : Registry) (s : String) :
    r.kindOf? s = (builtIn? s).or ((r.external? s).map .external) := by
  rw [kindOf?, builtIn?, legacy?]
  cases legacyNames.lookup s with
  | some c => rfl
  | none => cases CoreKind.ofName? s <;> rfl

theorem builtIn?_eq_none_iff :
    builtIn? s = none ↔ s ∉ legacyNames.map Prod.fst ∧ ∀ c : CoreKind, c.name ≠ s := by
  have hcore : CoreKind.ofName? s = none ↔ ∀ c : CoreKind, c.name ≠ s := by
    simp [Option.eq_none_iff_forall_ne_some, CoreKind.ofName?_eq_some_iff]
  rw [builtIn?, Option.map_eq_none_iff, Option.or_eq_none_iff, legacy?_eq_none_iff, hcore]

/-- The kind of a name that a provider says is one that it lists under this name. -/
theorem exists_lister_of_external? {e : ExternalKind} (h : r.external? s = some e) :
    ∃ p ∈ r.providers, p.kinds.find? (fun k => k.name == s) = some e ∧ e ∈ p.kinds ∧
      e.name = s := by
  obtain ⟨p, hp, hfind⟩ := List.exists_of_findSome?_eq_some h
  exact ⟨p, hp, hfind, List.mem_of_find?_eq_some hfind, by simpa using List.find?_some hfind⟩

/-! ### The order of the providers -/

/-- Which kinds have a name does not depend on the order of the providers, nor does the name. -/
theorem nameOf_of_perm (h : r'.providers.Perm r.providers) (k : Kind) :
    r'.nameOf k = r.nameOf k := by
  cases k with
  | core c => rfl
  | external e => rw [nameOf, nameOf, lists, lists, h.any_eq]

theorem isSome_kindOf?_of_perm (h : r'.providers.Perm r.providers) (s : String) :
    (r'.kindOf? s).isSome = (r.kindOf? s).isSome := by
  have hexternal : (r'.external? s).isSome = (r.external? s).isSome := by
    rw [external?, external?, List.isSome_findSome?, List.isSome_findSome?, h.any_eq]
  rw [kindOf?_eq_or, kindOf?_eq_or, Option.isSome_or, Option.isSome_or, Option.isSome_map,
    Option.isSome_map, hexternal]

/-- Which names have a kind does not depend on the order of the providers. -/
theorem exists_kindOf_iff_of_perm (h : r'.providers.Perm r.providers) (s : String) :
    (∃ k, r'.kindOf s = .ok k) ↔ ∃ k, r.kindOf s = .ok k := by
  simp only [kindOf_eq_ok_iff, ← Option.isSome_iff_exists, isSome_kindOf?_of_perm h]

/-- **Two orders of the providers differ on a name only where two providers list it**, and list
different kinds under it. -/
theorem exists_rivals_of_perm (h : r'.providers.Perm r.providers) (hk : r.kindOf s = .ok k)
    (hk' : r'.kindOf s = .ok k') (hne : k ≠ k') :
    builtIn? s = none ∧ ∃ p ∈ r.providers, ∃ q ∈ r.providers, p ≠ q ∧
      ∃ e ∈ p.kinds, ∃ e' ∈ q.kinds, e.name = s ∧ e'.name = s ∧
        k = .external e ∧ k' = .external e' := by
  rw [kindOf_eq_ok_iff, kindOf?_eq_or] at hk hk'
  cases hbuilt : builtIn? s with
  | some c =>
    -- both orders agree on a built-in meaning
    rw [hbuilt, Option.some_or] at hk hk'
    exact absurd ((Option.some.inj hk).symm.trans (Option.some.inj hk')) hne
  | none =>
    rw [hbuilt, Option.none_or, Option.map_eq_some_iff] at hk hk'
    obtain ⟨e, hexternal, rfl⟩ := hk
    obtain ⟨e', hexternal', rfl⟩ := hk'
    obtain ⟨p, hp, hfind, he, hname⟩ := exists_lister_of_external? hexternal
    obtain ⟨q, hq, hfind', he', hname'⟩ := exists_lister_of_external? hexternal'
    refine ⟨rfl, p, hp, q, h.mem_iff.1 hq, ?_, e, he, e', he', hname, hname', rfl, rfl⟩
    -- a single provider always says the same
    rintro rfl
    rw [hfind, Option.some.injEq] at hfind'
    exact hne (congrArg Kind.external hfind')

end Registry

open Registry (legacyNames)

/-- **Registering providers never changes what already resolves.**  Whatever providers are
registered later, a name that meant a kind means the same kind, and a kind that had a name has the
same name.  In whatever order the providers are registered, every kind is answered with the same
name or refused alike, and the same names mean something.  A name means another kind in another
order only if it is neither a built-in name nor an old one, and two providers list it for the two
kinds. -/
theorem registering_keeps_names (r : Registry) :
    (∀ later : List Provider,
      (∀ s k, r.kindOf s = .ok k → (r.registerAll later).kindOf s = .ok k) ∧
      ∀ k s, r.nameOf k = .ok s → (r.registerAll later).nameOf k = .ok s) ∧
    ∀ r' : Registry, r'.providers.Perm r.providers →
      (∀ k, r'.nameOf k = r.nameOf k) ∧
      (∀ s, (∃ k, r'.kindOf s = .ok k) ↔ ∃ k, r.kindOf s = .ok k) ∧
      ∀ s k k', r.kindOf s = .ok k → r'.kindOf s = .ok k' → k ≠ k' →
        s ∉ legacyNames.map Prod.fst ∧ (∀ c : CoreKind, c.name ≠ s) ∧
        ∃ p ∈ r.providers, ∃ q ∈ r.providers, p ≠ q ∧
          ∃ e ∈ p.kinds, ∃ e' ∈ q.kinds, e.name = s ∧ e'.name = s ∧
            k = .external e ∧ k' = .external e' := by
  constructor
  · intro later
    exact ⟨fun s k => Registry.kindOf_registerAll later,
      fun k s => Registry.nameOf_registerAll later⟩
  · intro r' hperm
    refine ⟨Registry.nameOf_of_perm hperm, Registry.exists_kindOf_iff_of_perm hperm, ?_⟩
    intro s k k' hk hk' hne
    obtain ⟨hbuilt, hrivals⟩ := Registry.exists_rivals_of_perm hperm hk hk' hne
    obtain ⟨hold, hcore⟩ := Registry.builtIn?_eq_none_iff.1 hbuilt
    exact ⟨hold, hcore, hrivals⟩

/-- In the opposite order the synthetic kind comes first and takes the name that three providers
list, while all names of kinds stay.  A further provider that lists the name comes too late. -/
theorem registering_keeps_names_shadowing :
    let turned : Registry := ⟨Plain.shadowing.providers.reverse⟩
    let json := Kind.external (Plain.kind "json" "JSON")
    let late : Provider := ⟨"late", [Plain.kind "late" "JSON"]⟩
    (Plain.shadowing.registerAll [late]).kindOf "JSON" = .ok json ∧
      turned.kindOf "JSON" = .ok (.external (Plain.syntheticKind "json" "JSON")) ∧
      turned.nameOf json = .ok "JSON" ∧
      (∃ k, turned.kindOf "YAML" = .ok k) ∧
      (∀ c : CoreKind, c.name ≠ "JSON") ∧
      ∃ p ∈ Plain.shadowing.providers, ∃ q ∈ Plain.shadowing.providers, p ≠ q ∧
        Plain.kind "json" "JSON" ∈ p.kinds ∧ Plain.syntheticKind "json" "JSON" ∈ q.kinds := by
  intro turned json late
  have hjson : Plain.shadowing.kindOf "JSON" = .ok json :=
    Registry.kindOf_eq_ok_iff.2 (by decide)
  have hturned : turned.kindOf "JSON" = .ok (.external (Plain.syntheticKind "json" "JSON")) :=
    Registry.kindOf_eq_ok_iff.2 (by decide)
  have hyaml : Plain.shadowing.kindOf "YAML" = .ok (.external (Plain.kind "yaml" "YAML")) :=
    Registry.kindOf_eq_ok_iff.2 (by decide)
  have hlisted : Plain.shadowing.nameOf json = .ok "JSON" :=
    Registry.nameOf_external_eq_ok_iff.2 (by decide)
  obtain ⟨hlater, horder⟩ := registering_keeps_names Plain.shadowing
  obtain ⟨hname, hresolves, hrivals⟩ := horder turned (List.reverse_perm _)
  obtain ⟨-, hcore, p, hp, q, hq, hne, e, he, e', he', -, -, heq, heq'⟩ :=
    hrivals "JSON" _ _ hjson hturned (by decide)
  obtain rfl := Kind.external.inj heq
  obtain rfl := Kind.external.inj heq'
  refine ⟨(hlater [late]).1 _ _ hjson, hturned, (hname json).trans hlisted,
    (hresolves "YAML").2 ⟨_, hyaml⟩, hcore, p, hp, q, hq, hne, he, he'⟩

end MigrationLedger
