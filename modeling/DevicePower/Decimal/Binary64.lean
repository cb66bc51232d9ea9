/-!
# Double-precision numbers

A number with a fraction or an exponent is kept as a double: a number of the form `m · 2 ^ q` with
at most 53 bits in `m`. The value is held exactly, as its sign, its significand and its exponent, so
every question about it is one of whole-number arithmetic. A quotient of whole numbers is rounded
to the nearest double, a tie to the even significand; one beyond the largest double has none. Sums
are not needed; products and quotients are rounded from their exact values.

## Main results

* `toInt?_eq_some_iff`: `toInt?` gives an integer exactly when the double has that value.
-/

namespace DevicePower.Decimal

/-- The least exponent of a double. -/
def minExponent : Int := -1074

/-- The greatest exponent of a finite double. -/
def maxExponent : Int := 971

/-- The bound of significands, `2 ^ 53`. -/
def significandBound : Nat := 0x20000000000000

/-- A power of ten. -/
def powerOfTen (n : Nat) : Nat := Nat.pow 10 n

/-- A finite double: `m · 2 ^ q`, negated if `negative`. Zero has a sign too. -/
structure Binary64 where
  negative : Bool
  /-- The significand. -/
  m : Nat
  /-- The exponent of its last bit. -/
  q : Int
deriving DecidableEq

namespace Binary64

/-- A zero with a sign. -/
def zero (negative : Bool) : Binary64 := ⟨negative, 0, minExponent⟩

/-- `num / den` rounded to a whole number, a half going to the even neighbour. -/
def roundDiv (num den : Nat) : Nat :=
  let quotient := num / den
  let twice := 2 * (num % den)
  if twice < den ∨ twice = den ∧ quotient % 2 = 0 then quotient else quotient + 1

/-- The exponent at which `num / den` has 53 bits before the point, or the least one if that is too
small. -/
def scale (num den : Nat) : Int :=
  let guess := max ((num.log2 : Int) - den.log2 - 53) minExponent
  if num <<< (-guess).toNat < significandBound * den <<< guess.toNat then guess else guess + 1

/-- The double nearest to `num / den`, if that is finite. -/
def ofRatio? (negative : Bool) (num den : Nat) : Option Binary64 :=
  if num = 0 then some (zero negative) else
  let q := scale num den
  let m := roundDiv (num <<< (-q).toNat) (den <<< q.toNat)
  let rounded : Binary64 :=
    if m = significandBound then ⟨negative, significandBound / 2, q + 1⟩ else ⟨negative, m, q⟩
  if rounded.q ≤ maxExponent then some rounded else none

/-- The double nearest to a whole number, if that is finite. -/
def ofNat? (negative : Bool) (n : Nat) : Option Binary64 := ofRatio? negative n 1

/-- The size of a double as a quotient of whole numbers: the upper one. -/
def num (x : Binary64) : Nat := x.m <<< x.q.toNat

/-- The size of a double as a quotient of whole numbers: the lower one. -/
def den (x : Binary64) : Nat := 1 <<< (-x.q).toNat

/-- The double nearest to a product, if that is finite. -/
def mul? (x y : Binary64) : Option Binary64 :=
  ofRatio? (x.negative != y.negative) (x.num * y.num) (x.den * y.den)

/-- The double nearest to a quotient, if that is finite. -/
def div? (x y : Binary64) : Option Binary64 :=
  if y.m = 0 then none
  else ofRatio? (x.negative != y.negative) (x.num * y.den) (x.den * y.num)

/-- The absolute value as a whole number, if it is one. -/
def magnitude? (x : Binary64) : Option Nat :=
  if x.num % x.den = 0 then some (x.num / x.den) else none

/-- The value as an integer, if it is one. -/
def toInt? (x : Binary64) : Option Int :=
  x.magnitude?.map fun (n : Nat) => if x.negative then -(n : Int) else (n : Int)

/-- `x` has the value `i`: the quotient that `x` is equals `i`, with its sign. -/
def HasValue (x : Binary64) (i : Int) : Prop :=
  (if x.negative then -(x.num : Int) else x.num) = i * x.den

theorem den_pos (x : Binary64) : 0 < x.den := by
  rw [den, Nat.one_shiftLeft]
  exact Nat.two_pow_pos _

/-- A double has the integer value `i` exactly when `toInt?` gives `i`. -/
theorem toInt?_eq_some_iff (x : Binary64) (i : Int) : x.toInt? = some i ↔ x.HasValue i := by
  have hPos := x.den_pos
  unfold toInt? magnitude? HasValue
  generalize x.num = n
  generalize x.den = d at hPos ⊢
  have hPosInt : (d : Int) ≠ 0 := by omega
  by_cases hMod : n % d = 0
  · have hEq : (n : Int) = (n / d : Nat) * (d : Int) := by
      rw [← Int.natCast_mul, Nat.div_mul_cancel (Nat.dvd_of_mod_eq_zero hMod)]
    simp only [if_pos hMod, Option.map_some, Option.some.injEq]
    rw [hEq]
    split
    · rw [← Int.neg_mul, Int.mul_eq_mul_right_iff hPosInt]
    · rw [Int.mul_eq_mul_right_iff hPosInt]
  · simp only [if_neg hMod, Option.map_none, reduceCtorEq, false_iff]
    intro h
    apply hMod
    have hDvd : (d : Int) ∣ (n : Int) := by
      split at h
      · exact ⟨-i, by rw [Int.mul_neg, Int.mul_comm, ← h, Int.neg_neg]⟩
      · exact ⟨i, by rw [Int.mul_comm, ← h]⟩
    exact Nat.mod_eq_zero_of_dvd (Int.natCast_dvd_natCast.mp hDvd)

end Binary64

end DevicePower.Decimal
