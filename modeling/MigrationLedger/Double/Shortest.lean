import MigrationLedger.Double

/-!
# The shortest decimal of a number

Every number of double precision is nearest to a whole interval of decimals.  It is
shown by the shortest of them; of two that are equally short by the nearer one, and
halfway between them by the larger one.

## Main definitions

* `Double.readsBack` — a decimal is in the interval of a number.
* `Double.shortest` — the decimal that a number is shown by.

## Main results

* `readsBack_of_onGrid?` — what is found on a grid of decimals reads back.
* `onGrid?_eq_none_iff` — a grid is passed over only if neither neighbour on it reads back.
-/

namespace MigrationLedger

/-- The decimal `digits * 10 ^ exponent`. -/
structure Decimal where
  /-- The digits, as a number. -/
  digits : Nat
  /-- The power of ten of the last digit. -/
  exponent : Int
  deriving DecidableEq, Repr

namespace Double

/-- The length of a step of the grid `10 ^ e` in quarters of the last place of a number, as a
fraction. -/
def step (x : Double) (e : Int) : Nat × Nat :=
  (Nat.pow 10 e.toNat * Nat.pow 2 (-(x.exponent - 2)).toNat,
    Nat.pow 2 (x.exponent - 2).toNat * Nat.pow 10 (-e).toNat)

/-- The lower end of the interval of a number, in quarters of its last place.  Below a power of
two the next number is only half as far away. -/
def lowerEnd (x : Double) : Nat :=
  if x.mantissa = Nat.pow 2 52 ∧ -1074 < x.exponent then 4 * x.mantissa - 1
  else 4 * x.mantissa - 2

/-- The upper end of the interval of a number, in quarters of its last place. -/
def upperEnd (x : Double) : Nat := 4 * x.mantissa + 2

/-- The number is the one nearest to the decimal: its interval holds it, with the ends if the
mantissa is even. -/
def readsBack (x : Double) (d : Decimal) : Bool :=
  let (num, den) := x.step d.exponent
  if x.mantissa % 2 = 0 then
    x.lowerEnd * den ≤ d.digits * num && d.digits * num ≤ x.upperEnd * den
  else
    x.lowerEnd * den < d.digits * num && d.digits * num < x.upperEnd * den

/-- The last point of the grid `10 ^ e` that is not above the number. -/
def below (x : Double) (e : Int) : Decimal :=
  let (num, den) := x.step e
  ⟨4 * x.mantissa * den / num, e⟩

/-- The first point of the grid `10 ^ e` that is above the number. -/
def above (x : Double) (e : Int) : Decimal := ⟨(x.below e).digits + 1, e⟩

/-- The number is halfway to the next point of the grid `10 ^ e` or beyond. -/
def isInUpperHalf (x : Double) (e : Int) : Bool :=
  let (num, den) := x.step e
  num ≤ 2 * (4 * x.mantissa * den % num)

/-- The point of the grid `10 ^ e` next to the number that reads back: of two the nearer one, and
the larger one halfway between them. -/
def onGrid? (x : Double) (e : Int) : Option Decimal :=
  if x.readsBack (x.above e) && (x.isInUpperHalf e || !x.readsBack (x.below e)) then
    some (x.above e)
  else if x.readsBack (x.below e) then some (x.below e)
  else none

/-- A power of ten that is larger than a number, and at most a hundred times as large. -/
def powerAbove (x : Double) : Int :=
  let (num, den) := inUnits x.mantissa 1 (-x.exponent)
  (Nat.toDigits 10 num).length - (Nat.toDigits 10 den).length + 1

/-- The shortest decimal that reads back: the coarsest grid with one decides.  Seventeen digits
are enough for every number. -/
def shortest (x : Double) : Decimal :=
  if x.mantissa = 0 then ⟨0, 0⟩
  else ((List.range 19).findSome? fun i : Nat => x.onGrid? (x.powerAbove - i)).getD ⟨0, 0⟩

/-! ### What a grid yields -/

theorem readsBack_of_onGrid? {x : Double} {e : Int} {d : Decimal} (h : x.onGrid? e = some d) :
    x.readsBack d = true := by
  unfold onGrid? at h
  split at h
  · next habove =>
    obtain rfl := Option.some.inj h
    exact (Bool.and_eq_true_iff.1 habove).1
  · split at h
    · next hbelow =>
      obtain rfl := Option.some.inj h
      exact hbelow
    · exact absurd h (by simp)

theorem onGrid?_eq_none_iff {x : Double} {e : Int} :
    x.onGrid? e = none ↔ x.readsBack (x.below e) = false ∧ x.readsBack (x.above e) = false := by
  unfold onGrid?
  cases hbelow : x.readsBack (x.below e) <;> cases habove : x.readsBack (x.above e) <;> simp
  split <;> simp

/-- The number zero is shown by the decimal zero. -/
theorem shortest_of_zero {x : Double} (h : x.mantissa = 0) : x.shortest = ⟨0, 0⟩ := by
  simp [shortest, h]

end Double

end MigrationLedger
