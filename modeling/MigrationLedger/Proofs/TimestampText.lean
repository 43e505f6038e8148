import MigrationLedger.Proofs.Numerals
import MigrationLedger.Timestamp

/-!
# Reading back a written timestamp

A timestamp is written as numbers of a fixed width with marks between them.  The reader takes at
most the digits of that width, so a number ends where it was written to end even if a digit should
follow; only a year of more than four digits has no width, and there the mark behind it ends it.
What the reader allows besides, such as blanks and other offsets, does not occur in a written
timestamp.

## Main results

* `readNumber_padded`, `readYear_writeYear`, `readFraction_writeFraction` — the parts of a
  timestamp read back.
* `ofLocal?_self` — the numbers of a moment in UTC are those of no other moment.
* `read?_write` — **a written timestamp reads back as that timestamp.**
-/

namespace MigrationLedger.Timestamp

/-! ### Numbers of a fixed width -/

theorem isDigit_of_mem_padded {w n : Nat} : ∀ c ∈ padded w n, c.isDigit = true := by
  intro c hc
  rcases List.mem_append.1 hc with hzero | hdigit
  · rw [List.eq_of_mem_replicate hzero]
    rfl
  · exact isDigit_of_mem_toDigits c hdigit

/-- Zeros in front of a number do not change it. -/
theorem valueOf_padded (w n : Nat) : valueOf (padded w n) = n := by
  simp only [padded]
  induction w - (Nat.toDigits 10 n).length with
  | zero => exact valueOf_toDigits n
  | succ k ih =>
    rw [List.replicate_succ, List.cons_append, valueOf_cons, ih]
    simp

/-- A number that fits is written with just the digits of the width. -/
theorem length_padded {w n : Nat} (hw : 0 < w) (h : n < 10 ^ w) : (padded w n).length = w := by
  have hlen := Nat.toDigits_length 10 n w hw h
  simp only [padded, List.length_append, List.length_replicate]
  omega

theorem padded_eq_cons (w n : Nat) : ∃ c ds, padded w n = c :: ds ∧ c.isDigit = true := by
  cases hds : padded w n with
  | nil => exact absurd (List.append_eq_nil_iff.1 hds).2 Nat.toDigits_ne_nil
  | cons c ds => exact ⟨c, ds, rfl, isDigit_of_mem_padded (w := w) (n := n) c (by simp [hds])⟩

theorem padded_ne_nil {w n : Nat} : padded w n ≠ [] := by
  obtain ⟨c, ds, hds, -⟩ := padded_eq_cons w n
  rw [hds]
  exact List.cons_ne_nil c ds

theorem isBlank_eq_false_of_isDigit {c : Char} (h : c.isDigit = true) : Text.isBlank c = false := by
  have hbound := toNat_of_isDigit h
  simp only [Text.isBlank, Bool.or_eq_false_iff, Bool.and_eq_false_iff, decide_eq_false_iff_not,
    beq_eq_false_iff_ne]
  omega

/-- No blanks are skipped in front of a digit. -/
theorem skipBlanks_cons_of_isDigit {c : Char} (hc : c.isDigit = true) (cs : List Char) :
    skipBlanks (c :: cs) = c :: cs := by
  have hblank := isBlank_eq_false_of_isDigit hc
  rw [skipBlanks, List.dropWhile_cons_of_neg (by simp [hblank])]

theorem skipBlanks_padded (w n : Nat) (rest : List Char) :
    skipBlanks (padded w n ++ rest) = padded w n ++ rest := by
  obtain ⟨c, ds, hds, hc⟩ := padded_eq_cons w n
  rw [hds, List.cons_append, skipBlanks_cons_of_isDigit hc]

/-- Digits are read in full, and no more, if no digit follows or no more digits are allowed. -/
theorem readDigits_append {ds rest : List Char} {most : Nat} (hds : ∀ c ∈ ds, c.isDigit = true)
    (hne : ds ≠ []) (hmost : ds.length ≤ most)
    (hrest : (rest.take (most - ds.length)).takeWhile Char.isDigit = []) :
    readDigits most (ds ++ rest) = some (ds, rest) := by
  have htaken : ((ds ++ rest).take most).takeWhile Char.isDigit = ds := by
    rw [List.take_append, List.take_of_length_le hmost, List.takeWhile_append_of_pos hds, hrest,
      List.append_nil]
  simp [readDigits, htaken, hne]

theorem readNumber_padded {w n : Nat} (hw : 0 < w) (h : n < 10 ^ w) (rest : List Char) :
    readNumber w (padded w n ++ rest) = some (n, rest) := by
  have hlen := length_padded hw h
  have hread : readDigits w (padded w n ++ rest) = some (padded w n, rest) := by
    refine readDigits_append isDigit_of_mem_padded padded_ne_nil (Nat.le_of_eq hlen) ?_
    rw [hlen, Nat.sub_self]
    rfl
  rw [readNumber, skipBlanks_padded, hread]
  exact congrArg (fun n => some (n, rest)) (valueOf_padded w n)

/-! ### Years and fractions -/

theorem readDigits_padded_mark {w n most : Nat} (hmost : (padded w n).length ≤ most) {c : Char}
    (hc : c.isDigit = false) (rest : List Char) :
    readDigits most (padded w n ++ c :: rest) = some (padded w n, c :: rest) := by
  refine readDigits_append isDigit_of_mem_padded padded_ne_nil hmost ?_
  cases most - (padded w n).length with
  | zero => rfl
  | succ k => rw [List.take_succ_cons, List.takeWhile_cons_of_neg (by simp [hc])]

/-- A year without a sign has at most four digits. -/
theorem readYear_cons_of_isDigit {c : Char} (hc : c.isDigit = true) (cs : List Char) :
    readYear (c :: cs)
      = (readDigits 4 (c :: cs)).map fun (ds, rest) => ((valueOf ds : Int), rest) := by
  rw [readYear, skipBlanks_cons_of_isDigit hc]
  split
  · next h =>
    obtain rfl : c = '-' := (List.cons.inj h).1
    exact absurd hc (by decide)
  · next h =>
    obtain rfl : c = '+' := (List.cons.inj h).1
    exact absurd hc (by decide)
  · rfl

/-- A written year reads back, up to the mark behind it. -/
theorem readYear_writeYear (year : Int) (rest : List Char) :
    readYear (writeYear year ++ '-' :: rest) = some (year, '-' :: rest) := by
  have hmark : Char.isDigit '-' = false := rfl
  unfold writeYear
  split
  · next hshort =>
    have hlen : (padded 4 year.toNat).length = 4 := length_padded (by decide) (by omega)
    obtain ⟨c, ds, hds, hc⟩ := padded_eq_cons 4 year.toNat
    have hread := readDigits_padded_mark (Nat.le_of_eq hlen) hmark rest
    rw [hds, List.cons_append] at hread ⊢
    have hvalue : ((valueOf (c :: ds) : Nat) : Int) = year := by
      rw [← hds, valueOf_padded, Int.toNat_of_nonneg hshort.1]
    rw [readYear_cons_of_isDigit hc, hread]
    simp only [Option.map_some, hvalue]
  · -- a sign is written, and the digits go up to the mark
    have hread : readDigits (padded 4 year.natAbs ++ '-' :: rest).length
        (padded 4 year.natAbs ++ '-' :: rest) = some (padded 4 year.natAbs, '-' :: rest) := by
      refine readDigits_padded_mark ?_ hmark rest
      rw [List.length_append]
      exact Nat.le_add_right _ _
    have hvalue : Nat.ofDigitChars 10 (padded 4 year.natAbs) 0 = year.natAbs :=
      valueOf_padded 4 year.natAbs
    by_cases hneg : year < 0
    · have hskip : ∀ cs, skipBlanks ('-' :: cs) = '-' :: cs := fun _ => rfl
      rw [if_pos hneg, List.cons_append, readYear, hskip]
      simp only [hread, Option.map_some, hvalue]
      rw [Int.ofNat_natAbs_of_nonpos (Int.le_of_lt hneg), Int.neg_neg]
    · have hskip : ∀ cs, skipBlanks ('+' :: cs) = '+' :: cs := fun _ => rfl
      rw [if_neg hneg, List.cons_append, readYear, hskip]
      simp only [hread, Option.map_some, hvalue]
      rw [Int.natAbs_of_nonneg (Int.not_lt.1 hneg)]

/-- A fraction is read up to a mark behind it. -/
theorem readFraction_padded {w n : Nat} (hw : 0 < w) (hnine : w ≤ 9) (h : n < 10 ^ w) {c : Char}
    (hc : c.isDigit = false) (rest : List Char) :
    readFraction ('.' :: padded w n ++ c :: rest) = some (n * 10 ^ (9 - w), c :: rest) := by
  have hlen := length_padded hw h
  have hread : readDigits 9 (padded w n ++ c :: rest) = some (padded w n, c :: rest) :=
    readDigits_padded_mark (by omega) hc rest
  have hvalue : Nat.ofDigitChars 10 (padded w n) 0 = n := valueOf_padded w n
  have hdrop : (c :: rest).dropWhile Char.isDigit = c :: rest :=
    List.dropWhile_cons_of_neg (by simp [hc])
  simp only [List.cons_append, readFraction, hread, Option.map_some, hvalue, hlen, hdrop,
    Nat.pow_eq]

/-- A written fraction reads back; the zeros that were not written are put back. -/
theorem readFraction_writeFraction {nanos : Nat} (h : nanos < 1000000000) :
    readFraction (writeFraction nanos ++ ['Z']) = some (nanos, ['Z']) := by
  have hz : Char.isDigit 'Z' = false := rfl
  unfold writeFraction
  split
  · next hzero =>
    rw [hzero]
    rfl
  · split
    · next hmillis =>
      rw [readFraction_padded (by decide) (by decide) (by omega) hz]
      simp only [Option.some.injEq, Prod.mk.injEq, and_true]
      omega
    · split
      · next hmicros =>
        rw [readFraction_padded (by decide) (by decide) (by omega) hz]
        simp only [Option.some.injEq, Prod.mk.injEq, and_true]
        omega
      · rw [readFraction_padded (by decide) (by decide) (by omega) hz]
        simp

/-! ### Moments -/

theorem daysInMonth_le (year : Int) (month : Nat) : daysInMonth year month ≤ 31 := by
  unfold daysInMonth
  split
  · split <;> decide
  all_goals decide

/-- The numbers of a moment in UTC are those of no other moment. -/
theorem ofLocal?_self (t : Timestamp) :
    ofLocal? t.date t.hour t.minute t.second t.nanos 0 = some t := by
  obtain ⟨hhour, hminute, hsecond, hnanos⟩ := t.valid
  have hday : ((t.hour * 60 + t.minute : Nat) - 0 : Int) / 1440 = 0 := by omega
  have hrest : (((t.hour * 60 + t.minute : Nat) - 0 : Int) % 1440).toNat
      = t.hour * 60 + t.minute := by
    omega
  have hhours : (t.hour * 60 + t.minute) / 60 = t.hour := by omega
  have hminutes : (t.hour * 60 + t.minute) % 60 = t.minute := by omega
  simp only [ofLocal?, hday, hrest, hhours, hminutes, Date.shift?_zero, Option.bind_eq_bind,
    Option.bind_some]
  exact dif_pos t.valid

/-- **A written timestamp reads back as that timestamp.** -/
theorem read?_write (t : Timestamp) : read? t.write = some t := by
  obtain ⟨hhour, hminute, hsecond, hnanos⟩ := t.valid
  obtain ⟨-, ⟨-, hmonth⟩, -, hday⟩ := t.date.valid
  have hlong := daysInMonth_le t.date.year t.date.month
  have htwo : ∀ {n : Nat}, n < 100 → ∀ rest, readNumber 2 (padded 2 n ++ rest) = some (n, rest) :=
    fun h => readNumber_padded (by decide) h
  have hdash : ∀ rest, readMark '-' ('-' :: rest) = some rest := fun _ => rfl
  have hcolon : ∀ rest, readMark ':' (':' :: rest) = some rest := fun _ => rfl
  rw [read?, write, String.toList_ofList]
  simp only [List.append_assoc, List.cons_append]
  unfold readChars?
  -- the date
  refine Option.bind_eq_some_iff.2 ⟨_, readYear_writeYear _ _, ?_⟩
  refine Option.bind_eq_some_iff.2 ⟨_, hdash _, ?_⟩
  refine Option.bind_eq_some_iff.2 ⟨_, htwo (by omega) _, ?_⟩
  refine Option.bind_eq_some_iff.2 ⟨_, hdash _, ?_⟩
  refine Option.bind_eq_some_iff.2 ⟨_, htwo (by omega) _, ?_⟩
  refine Option.bind_eq_some_iff.2 ⟨_, rfl, ?_⟩
  -- the time
  refine Option.bind_eq_some_iff.2 ⟨_, htwo (by omega) _, ?_⟩
  refine Option.bind_eq_some_iff.2 ⟨_, hcolon _, ?_⟩
  refine Option.bind_eq_some_iff.2 ⟨_, htwo (by omega) _, ?_⟩
  refine Option.bind_eq_some_iff.2 ⟨_, hcolon _, ?_⟩
  refine Option.bind_eq_some_iff.2 ⟨_, htwo (by omega) _, ?_⟩
  refine Option.bind_eq_some_iff.2 ⟨_, readFraction_writeFraction hnanos, ?_⟩
  -- the offset, which is none
  refine Option.bind_eq_some_iff.2 ⟨_, rfl, ?_⟩
  simp [hhour, hminute, ofLocal?_self, skipBlanks]

end MigrationLedger.Timestamp
