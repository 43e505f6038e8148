import Mathlib.Data.List.GetD
import Mathlib.Data.Sum.Order
import MigrationLedger.Proofs.StoredRows
import MigrationLedger.Proofs.VersionOrder

/-!
# The meaning of a version

A version means a sequence that goes on for ever: at each place stands a number or a text, and the
number zero at every place behind the last component.  A component of ASCII digits means the number
that the digits denote, however many they are and however many zeros they start with; any other
one means its bytes, and is greater than every number.

Versions are compared as these sequences are, by the first place at which they differ.  Doing so
takes no number: of two numerals without leading zeros the longer one is greater, and behind the
components of both versions there is nothing left to differ.

## Main definitions

* `Meaning`, `Meaning.ofChars` — what a component means.
* `Version.meaningAt` — what the text of a version means at a place.
* `Version.Precedes` — less at the first place at which two texts differ.

## Main results

* `Component.meaning_lt_iff` — components compare as what they mean.
* `versions_compare_by_meaning` — **versions compare as what their texts mean.**
-/

namespace MigrationLedger

/-- A number or the bytes of a text, in this order. -/
abbrev Meaning : Type := ℕ ⊕ₗ List UInt8

namespace Meaning

/-- A number. -/
def number (n : ℕ) : Meaning := Sum.inlₗ n

/-- The bytes of a text. -/
def text (s : String) : Meaning := Sum.inrₗ (Text.bytes s)

/-- What the characters of a component mean. -/
def ofChars (cs : List Char) : Meaning :=
  if cs.all Char.isDigit then number (valueOf cs) else text (String.ofList cs)

end Meaning

/-- Lists of bytes are ordered by the first byte that differs. -/
theorem compare_bytes_eq_lt_iff {l m : List UInt8} : compare l m = .lt ↔ l < m := by
  induction l generalizing m with
  | nil => cases m <;> simp [List.compare_nil_cons]
  | cons a l ih =>
    cases m with
    | nil => simp [List.compare_cons_nil]
    | cons b m => rw [Text.compare_cons_eq_lt_iff, ih, List.cons_lt_cons_iff]

namespace Component

/-- What a component means. -/
def meaning : Component → Meaning
  | number n => .number n
  | text s => .text s

theorem meaning_ofChars (cs : List Char) : (ofChars cs).meaning = Meaning.ofChars cs := by
  unfold ofChars Meaning.ofChars
  split <;> rfl

/-- **Components compare as what they mean.** -/
theorem meaning_lt_iff : ∀ {a b : Component}, a.meaning < b.meaning ↔ compare a b = .lt
  | number _, number _ => Sum.Lex.inl_lt_inl_iff.trans Nat.compare_eq_lt.symm
  | number _, text _ => iff_of_true (Sum.Lex.inl_lt_inr _ _) rfl
  | text _, number _ => iff_of_false Sum.Lex.not_inr_lt_inl nofun
  | text s, text t => by
    rw [compare_text, ← Text.compare_bytes, compare_bytes_eq_lt_iff]
    exact Sum.Lex.inr_lt_inr_iff

theorem meaning_inj {a b : Component} : a.meaning = b.meaning ↔ a = b := by
  -- a component is not less than another one of its meaning, which is not less than itself
  have hnot : ∀ {a b : Component}, a.meaning = b.meaning → compare a b ≠ .lt := by
    intro a b h hlt
    rw [← meaning_lt_iff, h, meaning_lt_iff, Std.compare_self] at hlt
    exact nomatch hlt
  constructor
  · intro h
    cases hcmp : compare a b with
    | lt => exact absurd hcmp (hnot h)
    | eq => exact Std.compare_eq_iff_eq.1 hcmp
    | gt => exact absurd (Std.OrientedCmp.gt_iff_lt.1 hcmp) (hnot h.symm)
  · exact congrArg meaning

end Component

namespace Version

/-- What stands at a place of a text, counted from zero. -/
def meaningAt (s : String) (i : ℕ) : Meaning :=
  (((Text.trim s).toList.splitOnP isSeparator).map Meaning.ofChars).getD i (.number 0)

/-- The one text is less at the first place at which the two differ. -/
def Precedes (s t : String) : Prop :=
  ∃ i, (∀ j < i, meaningAt s j = meaningAt t j) ∧ meaningAt s i < meaningAt t i

section

variable {s t : String} {v w : Version}

/-- A place of a text means what the component at that place means. -/
theorem meaningAt_eq (h : parse? s = .ok v) (i : ℕ) :
    meaningAt s i = (v.components.getD i zero).meaning := by
  have hcomponents : v.components = ((Text.trim s).toList.splitOnP isSeparator).map .ofChars := by
    rw [← text_of_parse? h]
    exact (readComponents_eq_ok_iff.1 v.reads).2
  have hmeaning : ((Text.trim s).toList.splitOnP isSeparator).map Meaning.ofChars
      = v.components.map Component.meaning := by
    rw [hcomponents, List.map_map]
    exact List.map_congr_left fun cs _ => (Component.meaning_ofChars cs).symm
  rw [meaningAt, hmeaning]
  exact List.getD_map v.components zero Component.meaning

theorem compare_eq_lt_iff_precedes (hv : parse? s = .ok v) (hw : parse? t = .ok w) :
    compare v w = .lt ↔ Precedes s t := by
  rw [compare_eq_comparePadded_components, comparePadded_eq_iff_of_ne (by decide)]
  simp only [Precedes, meaningAt_eq hv, meaningAt_eq hw, Component.meaning_inj,
    Component.meaning_lt_iff]

theorem compare_eq_eq_iff_meaningAt (hv : parse? s = .ok v) (hw : parse? t = .ok w) :
    compare v w = .eq ↔ ∀ i, meaningAt s i = meaningAt t i := by
  rw [compare_eq_comparePadded_components, comparePadded_eq_eq_iff]
  simp only [meaningAt_eq hv, meaningAt_eq hw, Component.meaning_inj]

end

end Version

/-- **Versions compare as what their texts mean.**  Of two texts that are read as versions, the one
is the lesser version when it is less at the first place at which the two differ, as numbers of any
size or as bytes, and they are the same version when they differ at no place.  The parts of the
versions, numerals without leading zeros compared by their lengths and then by their digits, give
the same order. -/
theorem versions_compare_by_meaning {s t : String} {v w : Version}
    (hv : Version.parse? s = .ok v) (hw : Version.parse? t = .ok w) :
    (compare v w = .lt ↔ Version.Precedes s t) ∧ (compare v w = .gt ↔ Version.Precedes t s) ∧
      (compare v w = .eq ↔ ∀ i, Version.meaningAt s i = Version.meaningAt t i) ∧
      comparePadded Part.zero v.parts w.parts = compare v w := by
  refine ⟨Version.compare_eq_lt_iff_precedes hv hw, ?_,
    Version.compare_eq_eq_iff_meaningAt hv hw, (Version.compare_eq_comparePadded v w).symm⟩
  rw [Std.OrientedCmp.gt_iff_lt]
  exact Version.compare_eq_lt_iff_precedes hw hv

/-- The version `1.007.99999999999999999999` precedes `01_7.100000000000000000000.beta`: the numbers
at the first two places are the same, and at the third place the second text has one digit more. -/
theorem versions_compare_by_meaning_digits :
    ∃ v w, Version.parse? "1.007.99999999999999999999" = .ok v ∧
      Version.parse? "01_7.100000000000000000000.beta" = .ok w ∧
      Version.meaningAt "1.007.99999999999999999999" 2 = .number 99999999999999999999 ∧
      Version.meaningAt "01_7.100000000000000000000.beta" 2 = .number 100000000000000000000 ∧
      compare v w = .lt ∧ compare w v = .gt := by
  let v : Version := ⟨"1.007.99999999999999999999",
    [.number 1, .number 7, .number 99999999999999999999], by decide⟩
  let w : Version := ⟨"01_7.100000000000000000000.beta",
    [.number 1, .number 7, .number 100000000000000000000, .text "beta"], by decide⟩
  obtain ⟨hlt, -⟩ := versions_compare_by_meaning v.parse?_text w.parse?_text
  obtain ⟨-, hgt, -⟩ := versions_compare_by_meaning w.parse?_text v.parse?_text
  have hv : Version.meaningAt v.text 2 = .number 99999999999999999999 := by decide
  have hw : Version.meaningAt w.text 2 = .number 100000000000000000000 := by decide
  have hprecedes : Version.Precedes v.text w.text := by
    refine ⟨2, by decide, ?_⟩
    rw [hv, hw]
    exact Sum.Lex.inl_lt_inl_iff.2 (by decide)
  exact ⟨v, w, v.parse?_text, w.parse?_text, hv, hw, hlt.2 hprecedes, hgt.2 hprecedes⟩

end MigrationLedger
