/-!
# Numbers of double precision

The numbers that are not negative and can be written as `m * 2 ^ q` with 53 binary
digits.  A fraction stands for the nearest of them; halfway between two it stands for
the one with the even mantissa, and from `2 ^ 1024 - 2 ^ 970` on for none.

## Main definitions

* `roundDiv` — the nearest natural number to a fraction.
* `Double.nearest?`, `Double.ofDecimal?` — the number nearest to a fraction, or to a decimal.
* `Double.mul?` — the product, rounded once.

## Main results

* `two_mul_roundDiv_le`, `le_two_mul_roundDiv` — rounding moves by half a unit at most.
* `roundDiv_eq_even` — a half goes to the even neighbour.
-/

namespace MigrationLedger

/-! ### Rounding a fraction -/

/-- The natural number nearest to `n / d`; a half goes to the even neighbour. -/
def roundDiv (n d : Nat) : Nat :=
  if 2 * (n % d) < d ∨ (2 * (n % d) = d ∧ n / d % 2 = 0) then n / d else n / d + 1

theorem roundDiv_mul_right (k : Nat) {d : Nat} (h : 0 < d) : roundDiv (k * d) d = k := by
  simp [roundDiv, h]

theorem two_mul_roundDiv_le {n d : Nat} (h : 0 < d) : 2 * (roundDiv n d * d) ≤ 2 * n + d := by
  have hdiv := Nat.div_add_mod' n d
  have hmod := Nat.mod_lt n h
  unfold roundDiv
  split
  · omega
  · rw [Nat.add_mul]
    omega

theorem le_two_mul_roundDiv {n d : Nat} (h : 0 < d) : 2 * n ≤ 2 * (roundDiv n d * d) + d := by
  have hdiv := Nat.div_add_mod' n d
  have hmod := Nat.mod_lt n h
  unfold roundDiv
  split
  · omega
  · rw [Nat.add_mul]
    omega

/-- Halfway between two numbers the even one is taken. -/
theorem roundDiv_eq_even {n d : Nat} (h : 2 * (n % d) = d) : roundDiv n d % 2 = 0 := by
  unfold roundDiv
  split <;> omega

/-! ### Numbers with 53 binary digits -/

/-- The number `mantissa * 2 ^ exponent`. -/
structure Double where
  /-- The binary digits, at most 53. -/
  mantissa : Nat
  /-- The place of the last digit, between -1074 and 971. -/
  exponent : Int
  deriving DecidableEq, Repr

namespace Double

/-- The numerator and the denominator of `n / d` counted in units of `2 ^ q`. -/
def inUnits (n d : Nat) (q : Int) : Nat × Nat :=
  (n * Nat.pow 2 (-q).toNat, d * Nat.pow 2 q.toNat)

/-- The place of the last digit of `n / d`: the least one that leaves less than 54 digits. -/
def lastPlace (n d : Nat) : Int :=
  let q : Int := (n.log2 : Int) - d.log2 - 53
  let (num, den) := inUnits n d q
  max (-1074) (if num < Nat.pow 2 53 * den then q else q + 1)

/-- The number nearest to `n / d`, unless that is too large. -/
def nearest? (n d : Nat) : Option Double :=
  let q := lastPlace n d
  let (num, den) := inUnits n d q
  let m := roundDiv num den
  -- rounding up may need a digit more, which is then a power of two
  let x : Double := if m = Nat.pow 2 53 then ⟨Nat.pow 2 52, q + 1⟩ else ⟨m, q⟩
  if 971 < x.exponent then none else some x

/-- The product of two numbers, rounded once, unless it is too large. -/
def mul? (x y : Double) : Option Double :=
  let (num, den) := inUnits (x.mantissa * y.mantissa) 1 (-(x.exponent + y.exponent))
  nearest? num den

/-- The number nearest to `m * 10 ^ e`, unless that is too large. -/
def ofDecimal? (m : Nat) (e : Int) : Option Double :=
  let size : Int := (Nat.toDigits 10 m).length + e
  -- far from the limits the power of ten is not worth computing
  if m = 0 ∨ size < -330 then some ⟨0, -1074⟩
  else if 320 < size then none
  else nearest? (m * Nat.pow 10 e.toNat) (Nat.pow 10 (-e).toNat)

end Double

end MigrationLedger
