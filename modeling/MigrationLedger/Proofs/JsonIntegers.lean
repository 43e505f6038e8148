import MigrationLedger.Json.Scalar
import MigrationLedger.Proofs.Numerals

/-!
# Reading back a written integer

An integer is written with the fewest digits.  The reader looks at more than the digits: it must
not find a zero in front of them, a fraction or an exponent behind them, or a value too large for
double precision.  Of an integer of 64 bits it finds none of these, if a comma or the end of an
object follows.

## Main definitions

* `EndsValue` — what follows a value in an object.

## Main results

* `Double.exists_nearest?`, `Double.isSome_mul?` — what is far from the limit of double precision
  is not too large for it.
* `Json.exceedsDouble_eq_false` — no number of 64 bits is.
* `Json.readNumber_digits` — digits are read up to the end of the value.
* `Json.readInteger_writeInt` — **a written integer reads back as that integer.**
-/

namespace MigrationLedger

/-! ### Numbers far from the limit of double precision -/

theorem roundDiv_le (n d : Nat) : roundDiv n d ≤ n + 1 := by
  have hdiv := Nat.div_le_self n d
  unfold roundDiv
  split <;> omega

namespace Double

/-- The last place lies as far down as the digits of the fraction say, or one place higher. -/
theorem lastPlace_le (n d : Nat) : lastPlace n d ≤ max (-1074) ((n.log2 : Int) - 52) := by
  unfold lastPlace
  simp only
  split <;> omega

theorem le_lastPlace (n d : Nat) : (n.log2 : Int) - d.log2 - 53 ≤ lastPlace n d := by
  unfold lastPlace
  simp only
  split <;> omega

/-- A fraction whose numerator is far from the limit has a nearest number of double precision. -/
theorem exists_nearest? {n : Nat} (d : Nat) (h : n.log2 < 1022) :
    ∃ x, nearest? n d = some x ∧ x.exponent ≤ lastPlace n d + 1 ∧
      x.mantissa ≤ max (2 ^ 52) (n * 2 ^ (-lastPlace n d).toNat + 1) := by
  have hplace := lastPlace_le n d
  have hround : roundDiv (inUnits n d (lastPlace n d)).1 (inUnits n d (lastPlace n d)).2
      ≤ n * 2 ^ (-lastPlace n d).toNat + 1 := roundDiv_le _ _
  unfold nearest?
  simp only
  split
  · refine ⟨_, if_neg ?_, Int.le_refl _, Nat.le_max_left _ _⟩
    simp only
    omega
  · refine ⟨_, if_neg ?_, Int.le_of_lt (Int.lt_succ _), Nat.le_trans hround (Nat.le_max_right _ _)⟩
    simp only
    omega

theorem log2_lt_of_lt {n k : Nat} (hk : 0 < k) (h : n < 2 ^ k) : n.log2 < k := by
  by_cases hn : n = 0
  · subst hn
    exact hk
  · exact (Nat.log2_lt hn).2 h

/-- A product far from the limit of double precision is not too large. -/
theorem isSome_mul? {x y : Double}
    (h : (x.mantissa * y.mantissa * 2 ^ (x.exponent + y.exponent).toNat).log2 < 1022) :
    (mul? x y).isSome = true := by
  unfold mul?
  simp only [inUnits, Nat.pow_eq, Int.neg_neg, Nat.one_mul]
  obtain ⟨z, hz, -⟩ := exists_nearest? (2 ^ (-(x.exponent + y.exponent)).toNat) h
  rw [hz]
  rfl

/-- The number 1 in double precision. -/
def one : Double := ⟨Nat.pow 2 52, -52⟩

theorem nearest?_one : nearest? 1 1 = some one := by
  decide

end Double

namespace Json

theorem exceedsDouble_eq_false_of_mul? {m : Nat} {e : Int} {x y : Double} (he : e ≤ 308)
    (hx : Double.nearest? m 1 = some x) (hy : Double.nearest? (Nat.pow 10 e.toNat) 1 = some y)
    (hproduct : (Double.mul? x y).isSome = true) : exceedsDouble m e = false := by
  have hnone : (Double.mul? x y).isNone = false := by
    rw [← Option.not_isSome, hproduct]
    rfl
  have hsmall : decide (308 < e) = false := decide_eq_false (Int.not_lt.2 he)
  simp only [exceedsDouble, hx, hy, Option.bind_eq_bind, Option.bind_some, hnone, hsmall,
    Bool.or_false, Bool.and_false]

open Double in
/-- **A number of 64 bits is not too large for double precision.** -/
theorem exceedsDouble_eq_false {m : Nat} (h : m < 2 ^ 64) : exceedsDouble m 0 = false := by
  have hlog : m.log2 < 64 := log2_lt_of_lt (by decide) h
  have hhigh := lastPlace_le m 1
  have hlow := le_lastPlace m 1
  have hone : Nat.log2 1 = 0 := rfl
  obtain ⟨x, hx, hexponent, hmantissa⟩ := exists_nearest? (n := m) 1 (by omega)
  have hnum : m * 2 ^ (-lastPlace m 1).toNat ≤ 2 ^ 64 * 2 ^ 53 :=
    Nat.mul_le_mul (Nat.le_of_lt h) (Nat.pow_le_pow_right (by decide) (by omega))
  have hproduct : (mul? x one).isSome = true := by
    apply isSome_mul?
    have hexp : (x.exponent + one.exponent).toNat = 0 := by
      have hlast : one.exponent = -52 := rfl
      omega
    have hmant : one.mantissa = 2 ^ 52 := rfl
    -- at most 117 bits of the one factor and 53 of the other, against the limit of 1022
    have hbound : x.mantissa * 2 ^ 52 < 2 ^ 170 :=
      calc x.mantissa * 2 ^ 52
        _ ≤ (2 ^ 64 * 2 ^ 53 + 1) * 2 ^ 52 := Nat.mul_le_mul_right _ (by omega)
        _ < 2 ^ 170 := by decide
    rw [hexp, hmant, Nat.pow_zero, Nat.mul_one]
    exact Nat.lt_trans (log2_lt_of_lt (by decide) hbound) (by decide)
  exact exceedsDouble_eq_false_of_mul? (by decide) hx nearest?_one hproduct

/-! ### What counts of the digits -/

/-- Digits that fit are taken in full. -/
theorem appendDigits_eq {ds : List Char} {n : Nat} (h : Nat.ofDigitChars 10 ds n < 2 ^ 64) :
    appendDigits n ds = (Nat.ofDigitChars 10 ds n, []) := by
  induction ds generalizing n with
  | nil => rfl
  | cons c ds ih =>
    rw [Nat.ofDigitChars_cons] at h ⊢
    have hfits : 10 * n + (c.toNat - '0'.toNat) < 2 ^ 64 := by
      rw [Nat.ofDigitChars_eq_ofDigitChars_zero] at h
      have hone : 1 ≤ 10 ^ ds.length := Nat.one_le_pow _ _ (by decide)
      have hle := Nat.mul_le_mul_right (10 * n + (c.toNat - '0'.toNat)) hone
      omega
    rw [appendDigits]
    exact (if_pos hfits).trans (ih h)

/-- A number of 64 bits is all that counts of its digits. -/
theorem significand_toDigits {n : Nat} (h : n < 2 ^ 64) :
    significand (Nat.toDigits 10 n) [] 0 = (n, 0) := by
  have hvalue : Nat.ofDigitChars 10 (Nat.toDigits 10 n) 0 = n := valueOf_toDigits n
  rw [significand, appendDigits_eq (by rwa [hvalue]), hvalue]
  rfl

/-! ### Integers of 64 bits -/

/-- What follows a value in an object: a comma, or the end of the object. -/
def EndsValue (rest : List Char) : Prop := ∃ c cs, rest = c :: cs ∧ (c = ',' ∨ c = '\x7d')

namespace EndsValue

variable {rest : List Char}

theorem takeWhile_isDigit (h : EndsValue rest) : rest.takeWhile Char.isDigit = [] := by
  obtain ⟨c, cs, rfl, rfl | rfl⟩ := h <;> rfl

theorem dropWhile_isDigit (h : EndsValue rest) : rest.dropWhile Char.isDigit = rest := by
  obtain ⟨c, cs, rfl, rfl | rfl⟩ := h <;> rfl

theorem readFraction (h : EndsValue rest) : readFraction rest = .ok (none, rest) := by
  obtain ⟨c, cs, rfl, rfl | rfl⟩ := h <;> rfl

theorem readExponent (h : EndsValue rest) : readExponent rest = .ok (none, rest) := by
  obtain ⟨c, cs, rfl, rfl | rfl⟩ := h <;> rfl

end EndsValue

/-- The digits of a number of 64 bits are read up to the end of the value, behind a sign if the
number is not zero. -/
theorem readNumber_digits {negative : Bool} {n : Nat} {rest : List Char} (h : n < 2 ^ 64)
    (hsign : negative = true → n ≠ 0) (hrest : EndsValue rest) :
    readNumber ((if negative then ['-'] else []) ++ Nat.toDigits 10 n ++ rest)
      = .ok (some (if negative then -(n : Int) else n), rest) := by
  have hdigits := isDigit_of_mem_toDigits (n := n)
  have htake : (Nat.toDigits 10 n ++ rest).takeWhile Char.isDigit = Nat.toDigits 10 n := by
    rw [List.takeWhile_append_of_pos hdigits, hrest.takeWhile_isDigit, List.append_nil]
  have hdrop : (Nat.toDigits 10 n ++ rest).dropWhile Char.isDigit = rest := by
    rw [List.dropWhile_append_of_pos hdigits, hrest.dropWhile_isDigit]
  have hvalue : Nat.ofDigitChars 10 (Nat.toDigits 10 n) 0 = n := valueOf_toDigits n
  have hsize := significand_toDigits h
  obtain ⟨c, ds, hds, hc, hzero⟩ := toDigits_eq_cons n
  rw [hds] at htake hdrop hvalue hsize ⊢
  rw [List.cons_append] at htake hdrop
  have hplain : c ≠ '-' := by
    rintro rfl
    exact absurd hc (by decide)
  have hleading : ¬ (c = '0' ∧ 0 < ds.length) := by
    rintro ⟨hcz, hlen⟩
    rw [hzero hcz] at hlen
    exact Nat.lt_irrefl 0 hlen
  have hlarge := exceedsDouble_eq_false h
  cases negative with
  | true =>
    have hn : n ≠ 0 := hsign rfl
    simp [readNumber, htake, hdrop, hvalue, hleading, hrest.readFraction, hrest.readExponent,
      hsize, hlarge, hn, bind, Except.bind, pure, Except.pure]
  | false =>
    simp [readNumber, htake, hdrop, hvalue, hleading, hplain, hrest.readFraction,
      hrest.readExponent, hsize, hlarge, bind, Except.bind, pure, Except.pure]

/-- An integer is written as its digits, behind a sign if it is negative. -/
theorem writeInt_eq (i : Int) :
    writeInt i = (if decide (i < 0) then ['-'] else []) ++ Nat.toDigits 10 i.natAbs := by
  cases i with
  | ofNat n => rfl
  | negSucc n =>
    rw [decide_eq_true (Int.negSucc_lt_zero n)]
    rfl

/-- An integer starts as numbers do. -/
theorem writeInt_eq_cons (i : Int) :
    ∃ c cs, writeInt i = c :: cs ∧ (c = '-' ∨ c.isDigit = true) := by
  rw [writeInt_eq]
  by_cases hi : i < 0
  · exact ⟨'-', _, by rw [decide_eq_true hi]; rfl, .inl rfl⟩
  · obtain ⟨c, ds, hds, hc, -⟩ := toDigits_eq_cons i.natAbs
    exact ⟨c, ds, by rw [decide_eq_false hi, hds]; rfl, .inr hc⟩

theorem isSpace_eq_false_of_startsNumber {c : Char} (h : c = '-' ∨ c.isDigit = true) :
    isSpace c = false := by
  rcases h with rfl | h
  · rfl
  · have hdigit := toNat_of_isDigit h
    have hne : ∀ d : Char, d.toNat < 48 → c ≠ d := by
      rintro d hd rfl
      omega
    simp [isSpace, hne ' ' (by decide), hne '\n' (by decide), hne '\t' (by decide),
      hne '\r' (by decide)]

theorem skipSpace_cons {c : Char} (h : isSpace c = false) (cs : List Char) :
    skipSpace (c :: cs) = c :: cs := by
  rw [skipSpace, List.dropWhile_cons_of_neg (Bool.eq_false_iff.1 h)]

/-- **A written integer reads back as that integer** where a value ends behind it. -/
theorem readInteger_writeInt {i low high : Int} {rest : List Char} (hlow : low ≤ i)
    (hhigh : i ≤ high) (hsize : i.natAbs < 2 ^ 64) (hrest : EndsValue rest) :
    readInteger low high (writeInt i ++ rest) = .ok (i, rest) := by
  have hsign : decide (i < 0) = true → i.natAbs ≠ 0 := by
    rw [decide_eq_true_iff]
    omega
  have hnumber : readNumber (writeInt i ++ rest) = .ok (some i, rest) := by
    rw [writeInt_eq, readNumber_digits hsize hsign hrest]
    by_cases hi : i < 0
    · rw [decide_eq_true hi, if_pos rfl, Int.ofNat_natAbs_of_nonpos (Int.le_of_lt hi), Int.neg_neg]
    · rw [decide_eq_false hi, if_neg Bool.false_ne_true, Int.natAbs_of_nonneg (Int.not_lt.1 hi)]
  obtain ⟨c, cs, hcons, hstart⟩ := writeInt_eq_cons i
  have hskip := skipSpace_cons (isSpace_eq_false_of_startsNumber hstart) (cs ++ rest)
  rw [hcons, List.cons_append] at hnumber ⊢
  simp only [readInteger, hskip, hnumber, hlow, hhigh]
  rcases hstart with rfl | hdigit
  · rfl
  · simp [hdigit]

end Json

end MigrationLedger
