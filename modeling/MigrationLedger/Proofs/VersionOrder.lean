import MigrationLedger.Key
import MigrationLedger.Proofs.ByteOrder
import MigrationLedger.Proofs.Numerals
import MigrationLedger.Proofs.Padding

/-!
# The order of versions and keys

Versions are compared part by part, the shorter one continued with zeros; numbers are compared
as numerals, texts by their bytes.  A hash cannot continue anything: it is fed the parts up to the
last one that is not zero.  The two agree, because zero is the least part: continuing with it
decides as leaving it out at the end does.  So versions that compare as equal, and keys made of
them, are fed to a hash in the same way, and only those.

## Main definitions

* `Part`, `Version.parts` — the parts of a version as they are written and compared.
* `Version.significantParts`, `Key.fed` — what a hash is fed.
* `Version.same`, `Key.agreesWith` — equality as the fields have it.
* `IsHashedOrder` — an order, an equality and a hash that go together.

## Main results

* `Version.compare_eq_comparePadded` — versions compare part by part.
* `Version.exists_version_append_zeros` — zero components may be put behind a version.
* `versions_and_keys_are_ordered` — **the order of versions and of keys agrees with equality and
  with what a hash is fed.**
-/

namespace MigrationLedger

/-! ### The parts of a version -/

/-- A part of a version: a numeral, or a text. -/
inductive Part
  /-- Digits, without leading zeros. -/
  | numeral (n : Numeral)
  /-- Anything else, as written. -/
  | text (s : String)
  deriving DecidableEq

namespace Part

/-- The part of a zero component, and of a missing one. -/
def zero : Part := .numeral .zero

/-- Reads a part. -/
def ofChars (cs : List Char) : Part :=
  if h : cs.all Char.isDigit = true then .numeral (.ofDigits cs (List.all_eq_true.1 h))
  else .text (String.ofList cs)

/-- Numerals by length and digits, texts by bytes, every numeral before every text. -/
instance : Ord Part where
  compare
    | .numeral m, .numeral n => compare m n
    | .numeral _, .text _ => .lt
    | .text _, .numeral _ => .gt
    | .text s, .text t => compare (Text.bytes s) (Text.bytes t)

/-- The component that a part is written for. -/
def component : Part → Component
  | .numeral n => .number n.value
  | .text s => .text s

@[simp] theorem component_zero : zero.component = Version.zero := rfl

theorem component_ofChars (cs : List Char) : (ofChars cs).component = .ofChars cs := by
  unfold ofChars Component.ofChars
  split
  · rw [component, Numeral.value_ofDigits]
    rfl
  · rfl

/-- Parts compare as their components do. -/
theorem compare_component : ∀ p q : Part, compare p.component q.component = compare p q
  | .numeral m, .numeral n => Numeral.compare_value m n
  | .numeral _, .text _ => rfl
  | .text _, .numeral _ => rfl
  | .text s, .text t => (Text.compare_bytes s t).symm

theorem component_injective {p q : Part} (h : p.component = q.component) : p = q := by
  cases p with
  | numeral m =>
    cases q with
    | numeral n => exact congrArg numeral (Numeral.value_injective (Component.number.inj h))
    | text t => exact nomatch h
  | text s =>
    cases q with
    | numeral n => exact nomatch h
    | text t => exact congrArg text (Component.text.inj h)

end Part

namespace Version

/-- The parts of a version, as written. -/
def parts (v : Version) : List Part := (v.text.toList.splitOnP isSeparator).map Part.ofChars

/-- The parts up to the last one that is not zero. -/
def significantParts (v : Version) : List Part := v.parts.rdropWhile (· == Part.zero)

/-- Reading a list element by element, where an element is read, as a function of it, when it
satisfies `p`. -/
theorem mapM_eq_ok_iff {α β ε : Type} {f : α → Except ε β} {g : α → β} {p : α → Prop}
    (h : ∀ a b, f a = .ok b ↔ p a ∧ b = g a) {l : List α} {m : List β} :
    l.mapM f = .ok m ↔ (∀ a ∈ l, p a) ∧ m = l.map g := by
  induction l generalizing m with
  | nil =>
    constructor
    · intro hm
      exact ⟨by simp, (Except.ok.inj hm).symm⟩
    · rintro ⟨-, rfl⟩
      rfl
  | cons a l ih =>
    rw [List.mapM_cons, List.forall_mem_cons, List.map_cons]
    constructor
    · intro hm
      cases ha : f a with
      | error e =>
        rw [ha] at hm
        exact nomatch hm
      | ok b =>
        cases hl : l.mapM f with
        | error e =>
          rw [ha, hl] at hm
          exact nomatch hm
        | ok bs =>
          rw [ha, hl] at hm
          obtain rfl : b :: bs = m := Except.ok.inj hm
          obtain ⟨hp, rfl⟩ := (h a b).1 ha
          obtain ⟨hall, rfl⟩ := ih.1 hl
          exact ⟨⟨hp, hall⟩, rfl⟩
    · rintro ⟨⟨hp, hall⟩, rfl⟩
      rw [(h a (g a)).2 ⟨hp, rfl⟩, ih.2 ⟨hall, rfl⟩]
      rfl

/-- Characters that can be read as a component: some, and no blank among them. -/
def IsReadable (cs : List Char) : Prop := cs ≠ [] ∧ ∀ x ∈ cs, Text.isBlank x = false

instance : DecidablePred IsReadable := fun cs =>
  decidable_of_iff (cs ≠ [] ∧ cs.all (fun x => !Text.isBlank x) = true) (by simp [IsReadable])

theorem readComponent_eq_ok_iff (text : String) (cs : List Char) (c : Component) :
    readComponent text cs = .ok c ↔ IsReadable cs ∧ c = .ofChars cs := by
  constructor
  · intro h
    obtain ⟨hne, hblank, hc⟩ := readComponent_ok h
    exact ⟨⟨hne, hblank⟩, hc⟩
  · rintro ⟨⟨hne, hblank⟩, rfl⟩
    have hnone : cs.any Text.isBlank = false := List.any_eq_false.2 (by simpa using hblank)
    simp [readComponent, hne, hnone]

/-- A text is read when everything between its separators is readable. -/
theorem readComponents_eq_ok_iff {text : String} {components : List Component} :
    readComponents text = .ok components ↔
      (∀ cs ∈ text.toList.splitOnP isSeparator, IsReadable cs) ∧
        components = (text.toList.splitOnP isSeparator).map Component.ofChars := by
  rw [← mapM_eq_ok_iff (readComponent_eq_ok_iff text), readComponents]
  split
  · next hempty =>
    -- a text without characters has one component, and that is empty
    obtain rfl : text = "" := String.isEmpty_iff.1 hempty
    simp [readComponent]
  · rfl

/-- The components are those that the parts are written for. -/
theorem map_component_parts (v : Version) : v.parts.map Part.component = v.components := by
  rw [(readComponents_eq_ok_iff.1 v.reads).2, parts, List.map_map]
  exact List.map_congr_left fun cs _ => Part.component_ofChars cs

theorem component_eq_zero_iff {p : Part} : p.component = zero ↔ p = Part.zero :=
  ⟨fun h => Part.component_injective h, fun h => congrArg Part.component h⟩

theorem map_component_significantParts (v : Version) :
    v.significantParts.map Part.component = v.significant := by
  have hzero : (fun p : Part => p.component == zero) = (· == Part.zero) := by
    funext p
    rw [Bool.eq_iff_iff, beq_iff_eq, beq_iff_eq, component_eq_zero_iff]
  rw [significant, ← map_component_parts, ← List.map_reverse, List.dropWhile_map,
    ← List.map_reverse, significantParts, List.rdropWhile, ← hzero]
  rfl

/-- Versions compare as equal when the same parts are left of them without zeros at the end. -/
theorem compare_eq_iff_significantParts {v w : Version} :
    compare v w = .eq ↔ v.significantParts = w.significantParts := by
  rw [compare_eq_iff, ← map_component_significantParts, ← map_component_significantParts]
  exact (List.map_injective_iff.2 fun _ _ => Part.component_injective).eq_iff

theorem isLE_zero : ∀ c : Component, (compare zero c).isLE = true
  | .number n => Nat.isLE_compare.2 (Nat.zero_le n)
  | .text _ => rfl

theorem compare_eq_comparePadded_components (v w : Version) :
    compare v w = comparePadded zero v.components w.components :=
  (comparePadded_eq_compare isLE_zero v.components w.components).symm

/-- **Versions compare part by part, the shorter one continued with zeros.** -/
theorem compare_eq_comparePadded (v w : Version) :
    compare v w = comparePadded Part.zero v.parts w.parts := by
  calc compare v w
    _ = comparePadded zero v.components w.components :=
        compare_eq_comparePadded_components v w
    _ = comparePadded Part.zero.component (v.parts.map Part.component)
          (w.parts.map Part.component) := by
        rw [map_component_parts, map_component_parts, Part.component_zero]
    _ = comparePadded Part.zero v.parts w.parts := comparePadded_map Part.compare_component _ _

/-! ### Zeros behind a version -/

/-- Zero components, each with the separator before it and one zero digit or more. -/
def zeroTail (tail : List (Char × Nat)) : List Char :=
  tail.flatMap fun x => x.1 :: List.replicate (x.2 + 1) '0'

theorem ofChars_replicate_zero (n : Nat) : Part.ofChars (List.replicate (n + 1) '0') = .zero := by
  have hdigit : (List.replicate (n + 1) '0').all Char.isDigit = true := by
    rw [List.all_replicate]
    rfl
  rw [Part.ofChars, dif_pos hdigit, Part.zero]
  refine congrArg Part.numeral (Numeral.ext ?_)
  rw [Numeral.digits_ofDigits, List.dropWhile_replicate]
  rfl

/-- A version with one zero component behind it. -/
theorem exists_version_append_zero (v : Version) {c : Char} (hc : isSeparator c = true) (n : Nat) :
    ∃ w : Version, w.text = v.text ++ String.ofList (c :: List.replicate (n + 1) '0') ∧
      w.parts = v.parts ++ [Part.zero] := by
  have hsplit : (v.text ++ String.ofList (c :: List.replicate (n + 1) '0')).toList.splitOnP
      isSeparator = v.text.toList.splitOnP isSeparator ++ [List.replicate (n + 1) '0'] := by
    have hzeros : ∀ d ∈ List.replicate (n + 1) '0', isSeparator d = false := by
      intro d hd
      rw [List.eq_of_mem_replicate hd]
      decide
    rw [String.toList_append, String.toList_ofList, List.splitOnP_append_cons _ _ hc,
      List.splitOnP_eq_singleton hzeros]
  have hreadable : IsReadable (List.replicate (n + 1) '0') := by
    refine ⟨by simp, fun d hd => ?_⟩
    rw [List.eq_of_mem_replicate hd]
    decide
  have hall : ∀ cs ∈ (v.text ++ String.ofList (c :: List.replicate (n + 1) '0')).toList.splitOnP
      isSeparator, IsReadable cs := by
    rw [hsplit, List.forall_mem_append, List.forall_mem_singleton]
    exact ⟨(readComponents_eq_ok_iff.1 v.reads).1, hreadable⟩
  refine ⟨⟨_, _, readComponents_eq_ok_iff.2 ⟨hall, rfl⟩⟩, rfl, ?_⟩
  rw [parts, hsplit, List.map_append, List.map_singleton, ofChars_replicate_zero, parts]

/-- A version with zero components behind it. -/
theorem exists_version_append_zeros (v : Version) {tail : List (Char × Nat)}
    (h : ∀ x ∈ tail, isSeparator x.1 = true) :
    ∃ w : Version, w.text = v.text ++ String.ofList (zeroTail tail) ∧
      w.parts = v.parts ++ List.replicate tail.length Part.zero := by
  induction tail generalizing v with
  | nil => exact ⟨v, by simp [zeroTail], by simp⟩
  | cons x tail ih =>
    obtain ⟨u, hu, hparts⟩ := exists_version_append_zero v (h x List.mem_cons_self) x.2
    obtain ⟨w, hw, hparts'⟩ := ih u fun y hy => h y (List.mem_cons_of_mem x hy)
    refine ⟨w, ?_, ?_⟩
    · rw [hw, hu, String.append_assoc, ← String.ofList_append]
      rfl
    · rw [hparts', hparts, List.append_assoc, List.length_cons, List.replicate_succ]
      rfl

/-- Zeros behind the parts do not count. -/
theorem compare_eq_of_parts_append {v w : Version} {n : Nat}
    (h : w.parts = v.parts ++ List.replicate n Part.zero) : compare w v = .eq := by
  rw [compare_eq_iff_significantParts, significantParts, h, significantParts]
  clear h
  induction n with
  | zero => rw [List.replicate_zero, List.append_nil]
  | succ n ih =>
    rw [List.replicate_succ', ← List.append_assoc, List.rdropWhile_concat_pos _ _ _ (by simp), ih]

/-! ### Versions and keys as keys of maps -/

/-- Both versions are the same, however they are spelled. -/
def same (v w : Version) : Bool := compare v w == .eq

/-- Versions that may be missing: a missing one first. -/
def compareOptional : Option Version → Option Version → Ordering
  | none, none => .eq
  | none, some _ => .lt
  | some _, none => .gt
  | some v, some w => comparePadded Part.zero v.parts w.parts

theorem compareOptional_eq_compare (v w : Option Version) : compareOptional v w = compare v w := by
  cases v with
  | none => cases w <;> rfl
  | some v =>
    cases w with
    | none => rfl
    | some w => exact (compare_eq_comparePadded v w).symm

end Version

namespace Key

/-- Field by field: versions that are the same, or none in either key, and one script. -/
def agreesWith (a b : Key) : Bool :=
  (match a.version, b.version with
    | none, none => true
    | some v, some w => v.same w
    | _, _ => false) && a.script == b.script

theorem agreesWith_eq_true_iff {a b : Key} : a.agreesWith b = true ↔ compare a b = .eq := by
  rw [compare_eq_iff, agreesWith, Bool.and_eq_true, beq_iff_eq]
  refine and_congr_left fun _ => ?_
  cases a.version with
  | none => cases b.version <;> simp
  | some v =>
    cases b.version with
    | none => simp
    | some w => exact beq_iff_eq

/-- What a hash is fed of a key. -/
def fed (k : Key) : Option (List Part) × String :=
  (k.version.map Version.significantParts, k.script)

/-- Keys compare by their versions, a missing one first, and then by the bytes of their scripts. -/
theorem compare_eq_compareOptional (a b : Key) :
    compare a b = (Version.compareOptional a.version b.version).then
      (compare (Text.bytes a.script) (Text.bytes b.script)) := by
  rw [compare_def, Version.compareOptional_eq_compare, Text.compare_bytes]

theorem compare_eq_iff_fed {a b : Key} : compare a b = .eq ↔ a.fed = b.fed := by
  have hversion : compare a.version b.version = .eq ↔
      a.version.map Version.significantParts = b.version.map Version.significantParts := by
    cases a.version with
    | none => cases b.version <;> simp
    | some v =>
      cases b.version with
      | none => simp
      | some w =>
        rw [Option.map_some, Option.map_some, Option.some_inj]
        exact Version.compare_eq_iff_significantParts
  rw [compare_eq_iff, hversion, fed, fed, Prod.mk.injEq]

end Key

/-- An order, an equality and what a hash is fed, going together: the order is total, its ties are
the equal elements, and these are the ones that are fed alike. -/
structure IsHashedOrder {α β : Type} (cmp : α → α → Ordering) (same : α → α → Bool)
    (fed : α → β) : Prop where
  /-- The order reverses with its arguments. -/
  swap : ∀ a b, cmp a b = (cmp b a).swap
  /-- The order is transitive. -/
  trans : ∀ a b c, (cmp a b).isLE = true → (cmp b c).isLE = true → (cmp a c).isLE = true
  /-- The ties are the equal elements. -/
  same_iff : ∀ a b, same a b = true ↔ cmp a b = .eq
  /-- The ties are fed alike, and nothing else is. -/
  fed_iff : ∀ a b, cmp a b = .eq ↔ fed a = fed b
  /-- Looking for an equal element where the hash leads finds what the order finds. -/
  lookup : ∀ (hash : β → UInt64) (l : List α) (a : α),
    l.find? (fun b => hash (fed b) == hash (fed a) && same b a) = l.find? fun b => cmp b a == .eq

/-- An order with an equality and a hash that see its ties looks up the same elements. -/
theorem IsHashedOrder.of_compare {α β : Type} {cmp : α → α → Ordering} [Std.TransCmp cmp]
    {same : α → α → Bool} {fed : α → β} (hsame : ∀ a b, same a b = true ↔ cmp a b = .eq)
    (hfed : ∀ a b, cmp a b = .eq ↔ fed a = fed b) : IsHashedOrder cmp same fed where
  swap _ _ := Std.OrientedCmp.eq_swap
  trans _ _ _ := Std.TransCmp.isLE_trans
  same_iff := hsame
  fed_iff := hfed
  lookup hash l a := by
    have hagree : ∀ b, (hash (fed b) == hash (fed a) && same b a) = (cmp b a == .eq) := by
      intro b
      rw [Bool.eq_iff_iff, Bool.and_eq_true, beq_iff_eq, beq_iff_eq, hsame]
      exact ⟨fun h => h.2, fun h => ⟨congrArg hash ((hfed b a).1 h), h⟩⟩
    exact congrArg (fun p => l.find? p) (funext hagree)

/-- **Versions and keys are totally ordered, and their equality and their hash agree with the
order.**  A version stays the same with zeros behind it; a key without a version comes first, and
keys of one version are in the order of the bytes of their scripts. -/
theorem versions_and_keys_are_ordered :
    IsHashedOrder compare Version.same Version.significantParts ∧
    (∀ v w : Version, compare v w = comparePadded Part.zero v.parts w.parts) ∧
    (∀ (v : Version) (tail : List (Char × Nat)), (∀ x ∈ tail, Version.isSeparator x.1 = true) →
      ∃ w, Version.parse? (v.text ++ String.ofList (Version.zeroTail tail)) = .ok w ∧
        w.parts = v.parts ++ List.replicate tail.length Part.zero ∧ Version.same w v = true) ∧
    IsHashedOrder compare Key.agreesWith Key.fed ∧
    (∀ a b : Key, compare a b = (Version.compareOptional a.version b.version).then
      (compare (Text.bytes a.script) (Text.bytes b.script))) ∧
    ∀ a b : Key, a.same b = a.agreesWith b := by
  refine ⟨.of_compare (fun v w => beq_iff_eq) fun v w => Version.compare_eq_iff_significantParts,
    Version.compare_eq_comparePadded, fun v tail htail => ?_,
    .of_compare (fun a b => Key.agreesWith_eq_true_iff) fun a b => Key.compare_eq_iff_fed,
    Key.compare_eq_compareOptional, fun a b => ?_⟩
  · obtain ⟨w, htext, hparts⟩ := v.exists_version_append_zeros htail
    exact ⟨w, htext ▸ w.parse?_text, hparts,
      beq_iff_eq.2 (Version.compare_eq_of_parts_append hparts)⟩
  · rw [Bool.eq_iff_iff, Key.same_eq_true_iff, Key.agreesWith_eq_true_iff]

/-- The version `1` keeps its place and its hash when it is spelled `1.0_00`. -/
theorem versions_and_keys_are_ordered_spelling :
    ∃ v w : Version, Version.parse? "1" = .ok v ∧ Version.parse? "1.0_00" = .ok w ∧
      Version.same w v = true ∧ w.significantParts = v.significantParts ∧
      (Key.mk (some w) "a.sql").fed = (Key.mk (some v) "a.sql").fed := by
  obtain ⟨hversion, -, happend, hkey, -⟩ := versions_and_keys_are_ordered
  let v : Version := ⟨"1", [.number 1], by decide⟩
  obtain ⟨w, hparse, -, hsame⟩ := happend v [('.', 0), ('_', 1)] (by decide)
  have htext : v.text ++ String.ofList (Version.zeroTail [('.', 0), ('_', 1)]) = "1.0_00" := by
    decide
  have hcompare : compare w v = .eq := (hversion.same_iff w v).1 hsame
  refine ⟨v, w, v.parse?_text, htext ▸ hparse, hsame, (hversion.fed_iff w v).1 hcompare,
    (hkey.fed_iff _ _).1 ?_⟩
  exact Key.compare_eq_iff.2 ⟨hcompare, rfl⟩

end MigrationLedger
