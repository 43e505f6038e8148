import Mathlib.Algebra.Group.Nat.Defs
import Mathlib.Data.List.Basic
import Mathlib.Data.Nat.Digits.Defs
import MigrationLedger.Version

/-!
# Numerals

A component of ASCII digits denotes a number of any size, which leading zeros do not change.
Written without them, numbers need not be computed to be compared: the longer numeral is the
greater one, and of two of one length the digits decide from the front.

## Main definitions

* `valueOf` — the number that digits denote.
* `Numeral` — digits without leading zeros, and `0` alone for zero.
* `Numeral.ofDigits` — the digits without their leading zeros.

## Main results

* `valueOf_toDigits` — the digits of a number denote it.
* `toDigits_eq_cons` — they start with no sign and no idle zero.
* `compare_valueOf` — of digits of one length, those compare as the numbers do.
* `Numeral.compare_value` — **numerals compare as the numbers they denote.**
* `Numeral.value_ofDigits` — leading zeros do not change the number.
-/

namespace MigrationLedger

/-- The number that digits denote. -/
def valueOf (ds : List Char) : Nat := Nat.ofDigitChars 10 ds 0

theorem valueOf_cons (d : Char) (ds : List Char) :
    valueOf (d :: ds) = 10 ^ ds.length * (d.toNat - 48) + valueOf ds := by
  rw [valueOf, Nat.ofDigitChars_cons, Nat.ofDigitChars_eq_ofDigitChars_zero, Nat.mul_zero,
    Nat.zero_add]
  rfl

theorem toNat_of_isDigit {c : Char} (h : c.isDigit = true) : 48 ≤ c.toNat ∧ c.toNat ≤ 57 :=
  Char.isDigit_iff_toNat.1 h

theorem valueOf_lt {ds : List Char} (h : ∀ c ∈ ds, c.isDigit = true) :
    valueOf ds < 10 ^ ds.length := by
  induction ds with
  | nil => decide
  | cons d ds ih =>
    have hrest := ih fun c hc => h c (List.mem_cons_of_mem _ hc)
    have hd : d.toNat - 48 ≤ 9 := by
      have := toNat_of_isDigit (h d List.mem_cons_self)
      omega
    have hfirst : 10 ^ ds.length * (d.toNat - 48) ≤ 10 ^ ds.length * 9 :=
      Nat.mul_le_mul_left _ hd
    rw [valueOf_cons, List.length_cons, Nat.pow_succ]
    omega

/-! ### The digits of a number -/

theorem isDigit_of_mem_toDigits {n : Nat} : ∀ c ∈ Nat.toDigits 10 n, c.isDigit = true :=
  fun _ => Nat.isDigit_of_mem_toDigits (by decide) (by decide)

theorem valueOf_toDigits (n : Nat) : valueOf (Nat.toDigits 10 n) = n :=
  Nat.ofDigitChars_ten_toDigits

/-- No zero stands in front of the other digits of a number. -/
theorem toDigits_ne_zero_cons {n : Nat} {d : Char} {ds : List Char} :
    Nat.toDigits 10 n ≠ '0' :: d :: ds := by
  intro h
  have hdigits : ∀ c ∈ d :: ds, c.isDigit = true := by
    intro c hc
    exact isDigit_of_mem_toDigits c (h ▸ List.mem_cons_of_mem _ hc)
  have hvalue : valueOf (d :: ds) = n := by
    rw [← valueOf_toDigits n, h, valueOf_cons '0']
    simp
  -- without the zero the number would have to be shorter than it is
  have hlen := Nat.toDigits_length 10 n (d :: ds).length (Nat.succ_pos _)
    (hvalue ▸ valueOf_lt hdigits)
  rw [h] at hlen
  exact Nat.not_succ_le_self _ hlen

/-- The digits of a number start with no sign, and with a zero only if there is no other digit. -/
theorem toDigits_eq_cons (n : Nat) :
    ∃ c ds, Nat.toDigits 10 n = c :: ds ∧ c.isDigit = true ∧ (c = '0' → ds = []) := by
  cases hds : Nat.toDigits 10 n with
  | nil => exact absurd hds Nat.toDigits_ne_nil
  | cons c ds =>
    refine ⟨c, ds, rfl, isDigit_of_mem_toDigits (n := n) c (by simp [hds]), ?_⟩
    rintro rfl
    cases ds with
    | nil => rfl
    | cons d ds => exact absurd hds toDigits_ne_zero_cons

/-! ### Comparing digits -/

theorem compare_char_eq_lt {c d : Char} (h : c.toNat < d.toNat) : compare c d = .lt := if_pos h

/-- The greater first digit decides between numbers of one length. -/
theorem valueOf_cons_lt {c d : Char} {cs ds : List Char} (hlen : cs.length = ds.length)
    (hc : c.isDigit = true) (hcs : ∀ x ∈ cs, x.isDigit = true) (hcd : c.toNat < d.toNat) :
    valueOf (c :: cs) < valueOf (d :: ds) := by
  have hrest := valueOf_lt hcs
  have hbound := toNat_of_isDigit hc
  have hfirst : 10 ^ ds.length * (c.toNat - 48 + 1) ≤ 10 ^ ds.length * (d.toNat - 48) :=
    Nat.mul_le_mul_left _ (by omega)
  rw [valueOf_cons, valueOf_cons, hlen]
  rw [Nat.mul_succ] at hfirst
  rw [hlen] at hrest
  omega

/-- **Digits of one length compare as the numbers they denote.** -/
theorem compare_valueOf {cs ds : List Char} (hlen : cs.length = ds.length)
    (hcs : ∀ x ∈ cs, x.isDigit = true) (hds : ∀ x ∈ ds, x.isDigit = true) :
    compare cs ds = compare (valueOf cs) (valueOf ds) := by
  induction cs generalizing ds with
  | nil =>
    obtain rfl : ds = [] := List.eq_nil_of_length_eq_zero hlen.symm
    rfl
  | cons c cs ih =>
    cases ds with
    | nil => exact nomatch hlen
    | cons d ds =>
      have hlen' : cs.length = ds.length := Nat.succ.inj hlen
      obtain ⟨hc, hrest⟩ := List.forall_mem_cons.1 hcs
      obtain ⟨hd, hrest'⟩ := List.forall_mem_cons.1 hds
      rw [List.compare_cons_cons]
      rcases Nat.lt_trichotomy c.toNat d.toNat with hcd | hcd | hcd
      · rw [compare_char_eq_lt hcd, Nat.compare_eq_lt.2 (valueOf_cons_lt hlen' hc hrest hcd)]
        rfl
      · -- the first digits agree, and the others decide
        obtain rfl : c = d := Char.toNat_inj.1 hcd
        rw [Std.compare_self, ih hlen' hrest hrest', valueOf_cons, valueOf_cons, hlen',
          Nat.compare_eq_ite_lt, Nat.compare_eq_ite_lt]
        simp only [Nat.add_lt_add_iff_left]
        rfl
      · rw [Std.OrientedCmp.gt_iff_lt.2 (compare_char_eq_lt hcd),
          Nat.compare_eq_gt.2 (valueOf_cons_lt hlen'.symm hd hrest' hcd)]
        rfl

/-! ### Numerals without leading zeros -/

/-- Digits without leading zeros, and `0` alone for zero. -/
structure Numeral where
  /-- The digits. -/
  digits : List Char
  /-- They are ASCII digits. -/
  isDigit : ∀ c ∈ digits, c.isDigit = true
  /-- Only the numeral of zero starts with a zero. -/
  normal : digits = ['0'] ∨ ∃ d ds, digits = d :: ds ∧ d ≠ '0'
  deriving DecidableEq

namespace Numeral

/-- The numeral of zero. -/
def zero : Numeral := ⟨['0'], List.forall_mem_singleton.2 rfl, .inl rfl⟩

/-- The number that a numeral denotes. -/
def value (n : Numeral) : Nat := valueOf n.digits

/-- By length, and then digit by digit. -/
instance : Ord Numeral := ⟨compareLex (compareOn fun n => n.digits.length) (compareOn digits)⟩

instance : Std.TransOrd Numeral :=
  inferInstanceAs (Std.TransCmp
    (compareLex (compareOn fun n : Numeral => n.digits.length) (compareOn digits)))

@[ext] theorem ext {m n : Numeral} (h : m.digits = n.digits) : m = n := by
  cases m; cases n; cases h; rfl

theorem compare_def (m n : Numeral) :
    compare m n = (compare m.digits.length n.digits.length).then (compare m.digits n.digits) := rfl

theorem pos_length (n : Numeral) : 0 < n.digits.length := by
  rcases n.normal with h | ⟨d, ds, h, -⟩ <;> simp [h]

/-- A numeral of several digits is at least the least number of its length. -/
theorem pow_le_value {n : Numeral} {k : Nat} (h : n.digits.length = k + 2) :
    10 ^ (k + 1) ≤ n.value := by
  rcases n.normal with hzero | ⟨d, ds, hds, hd⟩
  · simp [hzero] at h
  · have hdigit := toNat_of_isDigit (n.isDigit d (by simp [hds]))
    have hne : d.toNat ≠ 48 := fun heq => hd (Char.toNat_inj.1 heq)
    have hlen : ds.length = k + 1 := by simpa [hds] using h
    have hfirst : 10 ^ (k + 1) * 1 ≤ 10 ^ (k + 1) * (d.toNat - 48) :=
      Nat.mul_le_mul_left _ (by omega)
    rw [value, hds, valueOf_cons, hlen]
    omega

/-- The longer numeral is the greater one. -/
theorem value_lt_of_length_lt {m n : Numeral} (h : m.digits.length < n.digits.length) :
    m.value < n.value := by
  have hpos := m.pos_length
  obtain ⟨k, hk⟩ : ∃ k, n.digits.length = k + 2 := ⟨n.digits.length - 2, by omega⟩
  calc m.value
    _ < 10 ^ m.digits.length := valueOf_lt m.isDigit
    _ ≤ 10 ^ (k + 1) := Nat.pow_le_pow_right (by decide) (by omega)
    _ ≤ n.value := pow_le_value hk

/-- **Numerals compare as the numbers they denote.** -/
theorem compare_value (m n : Numeral) : compare m.value n.value = compare m n := by
  rw [compare_def]
  rcases Nat.lt_trichotomy m.digits.length n.digits.length with hlen | hlen | hlen
  · rw [Nat.compare_eq_lt.2 (value_lt_of_length_lt hlen), Nat.compare_eq_lt.2 hlen]
    rfl
  · rw [compare_valueOf hlen m.isDigit n.isDigit, Nat.compare_eq_eq.2 hlen]
    rfl
  · rw [Nat.compare_eq_gt.2 (value_lt_of_length_lt hlen), Nat.compare_eq_gt.2 hlen]
    rfl

/-- Two numerals of one number are the same. -/
theorem value_injective {m n : Numeral} (h : m.value = n.value) : m = n := by
  have hcmp : compare m n = .eq := by rw [← compare_value, h, Std.compare_self]
  rw [compare_def, Ordering.then_eq_eq] at hcmp
  exact ext (Std.compare_eq_iff_eq.1 hcmp.2)

/-- The digits without their leading zeros. -/
def ofDigits (cs : List Char) (h : ∀ c ∈ cs, c.isDigit = true) : Numeral :=
  match hcs : cs.dropWhile (· == '0') with
  | [] => zero
  | d :: ds =>
    { digits := d :: ds
      isDigit := fun c hc => h c ((List.dropWhile_sublist _).subset (hcs ▸ hc))
      normal := by
        have hhead := List.head?_dropWhile_not (· == '0') cs
        rw [hcs] at hhead
        exact .inr ⟨d, ds, rfl, by simpa using hhead⟩ }

theorem digits_ofDigits (cs : List Char) (h : ∀ c ∈ cs, c.isDigit = true) :
    (ofDigits cs h).digits
      = if (cs.dropWhile (· == '0')).isEmpty then ['0'] else cs.dropWhile (· == '0') := by
  unfold ofDigits
  split
  · next hcs => simp [hcs, zero]
  · next d ds hcs => simp [hcs]

/-- Leading zeros do not change the number. -/
theorem valueOf_dropWhile (cs : List Char) : valueOf (cs.dropWhile (· == '0')) = valueOf cs := by
  induction cs with
  | nil => rfl
  | cons c cs ih =>
    by_cases hc : c = '0'
    · rw [hc, List.dropWhile_cons_of_pos (by rfl), ih, valueOf_cons]
      simp
    · rw [List.dropWhile_cons_of_neg (by simpa using hc)]

theorem value_ofDigits (cs : List Char) (h : ∀ c ∈ cs, c.isDigit = true) :
    (ofDigits cs h).value = valueOf cs := by
  rw [value, digits_ofDigits, ← valueOf_dropWhile cs]
  cases cs.dropWhile (· == '0') <;> rfl

end Numeral

end MigrationLedger
