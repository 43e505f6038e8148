import Mathlib.Data.String.Basic
import Mathlib.Tactic.SplitIfs
import MigrationLedger.Text.Blank

/-!
# Texts in the order of their bytes

Texts are compared character by character.  A reader who compares the bytes of their UTF-8 form
finds the same order: of two characters, the one with the greater code has the greater first byte,
or the same first bytes and then a greater one, and no form is the beginning of another.

## Main definitions

* `Text.bytes` — the bytes of a text.

## Main results

* `Text.compare_encoded_eq_lt` — the lesser character decides, whatever follows.
* `Text.compare_bytes` — **texts compare as their bytes do.**
-/

namespace MigrationLedger

namespace Text

/-- The bytes of the UTF-8 form of a text. -/
def bytes (s : String) : List UInt8 := s.toByteArray.data.toList

theorem bytes_eq_flatMap (s : String) : bytes s = s.toList.flatMap String.utf8EncodeChar := by
  have hencoded : s.toByteArray = (s.toList.flatMap String.utf8EncodeChar).toByteArray :=
    String.utf8Encode_toList.symm
  rw [bytes, hencoded]
  simp

/-- A text is known by its bytes. -/
theorem bytes_injective {s t : String} (h : bytes s = bytes t) : s = t :=
  String.toByteArray_inj.1 (ByteArray.ext (Array.toList_inj.1 h))

theorem compare_cons_eq_lt_iff {a b : UInt8} {l m : List UInt8} :
    compare (a :: l) (b :: m) = .lt ↔ a < b ∨ a = b ∧ compare l m = .lt := by
  rw [List.compare_cons_cons, Ordering.then_eq_lt, Std.compare_eq_lt, Std.compare_eq_iff_eq]

theorem ofNat_lt_iff {m n : Nat} : UInt8.ofNat m < UInt8.ofNat n ↔ m % 256 < n % 256 := by
  rw [UInt8.lt_iff_toNat_lt, UInt8.toNat_ofNat', UInt8.toNat_ofNat']

theorem ofNat_eq_iff {m n : Nat} : UInt8.ofNat m = UInt8.ofNat n ↔ m % 256 = n % 256 := by
  rw [← UInt8.toNat_inj, UInt8.toNat_ofNat', UInt8.toNat_ofNat']

/-- The lesser of two characters decides, whatever follows them. -/
theorem compare_encoded_eq_lt {c d : Char} (h : c < d) (l m : List UInt8) :
    compare (String.utf8EncodeChar c ++ l) (String.utf8EncodeChar d ++ m) = .lt := by
  have hlt : c.val.toNat < d.val.toNat := h
  have hbound : d.val.toNat < 1114112 := by
    rcases d.valid with hd | ⟨-, hd⟩
    · exact Nat.lt_trans hd (by decide)
    · exact hd
  unfold String.utf8EncodeChar
  generalize c.val.toNat = v at hlt
  generalize d.val.toNat = w at hlt hbound
  -- a form has one to four bytes; in each case the places of 64 decide, from the front
  dsimp only
  split_ifs <;>
    simp (disch := omega) only [List.cons_append, List.nil_append, compare_cons_eq_lt_iff,
      ofNat_lt_iff, ofNat_eq_iff, Nat.mod_eq_of_lt] <;>
    omega

theorem compare_append_left (l x y : List UInt8) : compare (l ++ x) (l ++ y) = compare x y := by
  induction l with
  | nil => rfl
  | cons a l ih =>
    rw [List.cons_append, List.cons_append, List.compare_cons_cons, Std.compare_self, ih]
    rfl

theorem compare_flatMap_eq_lt {cs ds : List Char} (h : List.Lex (· < ·) cs ds) :
    compare (cs.flatMap String.utf8EncodeChar) (ds.flatMap String.utf8EncodeChar) = .lt := by
  induction h with
  | @nil d ds =>
    -- a form is not empty
    rw [List.flatMap_nil, List.flatMap_cons]
    cases hform : String.utf8EncodeChar d with
    | nil => exact absurd hform String.utf8EncodeChar_ne_nil
    | cons b bs => exact List.compare_nil_cons
  | @rel c cs d ds hlt =>
    rw [List.flatMap_cons, List.flatMap_cons]
    exact compare_encoded_eq_lt hlt _ _
  | @cons c cs ds _ ih =>
    rw [List.flatMap_cons, List.flatMap_cons, compare_append_left, ih]

theorem compare_bytes_eq_lt {s t : String} (h : s < t) : compare (bytes s) (bytes t) = .lt := by
  rw [bytes_eq_flatMap, bytes_eq_flatMap]
  exact compare_flatMap_eq_lt (String.lt_iff_toList_lt.1 h)

/-- **Texts compare as their bytes do.** -/
theorem compare_bytes (s t : String) : compare (bytes s) (bytes t) = compare s t := by
  have hdef : compare s t = if s < t then .lt else if s = t then .eq else .gt := rfl
  rw [hdef]
  split_ifs with hlt heq
  · exact compare_bytes_eq_lt hlt
  · rw [heq, Std.compare_self]
  · -- of two texts that are not the same, one is less than the other
    have hgt : t < s := lt_of_le_of_ne (not_lt.1 hlt) (Ne.symm heq)
    rw [Std.OrientedCmp.gt_iff_lt]
    exact compare_bytes_eq_lt hgt

end Text

end MigrationLedger
