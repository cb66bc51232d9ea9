import DevicePower.Decimal.Binary64
import DevicePower.Text.Numeral

/-!
# Decimal literals

A literal is read into a 64-bit word of digits and a power of ten. Digits that do not fit the word
are dropped; dropped digits of the whole part still count for the power. The double of a literal
comes from two roundings: the word is rounded to a double, and that is multiplied or divided by a
power of ten, itself rounded, with the result rounded again. So a literal of few digits and a small
power has the nearest double, and a long one may be off by one place.

## Main results

* `digits_whole_lt`, `digits_fraction_lt`: the digits fit a 64-bit word.
-/

namespace DevicePower.Decimal

/-- The digits kept of a literal, and the power of ten they are to be multiplied by. -/
structure Literal where
  digits : Nat := 0
  exponent : Int := 0
  /-- Whether a digit was dropped in the present part of the literal. -/
  isCut : Bool := false
deriving DecidableEq

namespace Literal

/-- Whether one more digit fits. -/
def fits (l : Literal) (d : Nat) : Bool := !l.isCut && 10 * l.digits + d < Text.word64

/-- Adds a digit of the whole part. -/
def whole (l : Literal) (d : Nat) : Literal :=
  if l.fits d then { l with digits := 10 * l.digits + d }
  else { l with exponent := l.exponent + 1, isCut := true }

/-- Goes on to the fraction. -/
def point (l : Literal) : Literal := { l with isCut := false }

/-- Adds a digit of the fraction. -/
def fraction (l : Literal) (d : Nat) : Literal :=
  if l.fits d then { l with digits := 10 * l.digits + d, exponent := l.exponent - 1 }
  else { l with isCut := true }

/-- An exponent so great that a greater one makes no difference to a literal of any length. -/
def farShift : Nat := 2147483647

/-- The greatest power of ten that is a double. -/
def greatestPower : Nat := 308

/-- A power of ten as a double. -/
def power? (e : Nat) : Option Binary64 := Binary64.ofNat? false (powerOfTen e)

/-- A double divided by a power of ten that is a double. -/
def divided (x : Binary64) (e : Nat) : Option Binary64 := (power? e).bind x.div?

/-- The double of a literal, if that is finite. A power too small for a double is applied in two
steps; after two whole ones nothing is left. -/
def toDouble? (negative : Bool) (l : Literal) : Option Binary64 := do
  let x ← Binary64.ofNat? negative l.digits
  if l.digits = 0 then return x
  else
    match l.exponent with
    | .ofNat e => if e ≤ greatestPower then (← power? e).mul? x else none
    | .negSucc n =>
      let e := n + 1
      if e ≤ greatestPower then divided x e
      else if e ≤ 2 * greatestPower then
        divided (← divided x greatestPower) (e - greatestPower)
      else return .zero negative

theorem digits_whole_lt {l : Literal} (h : l.digits < Text.word64) (d : Nat) :
    (l.whole d).digits < Text.word64 := by
  unfold whole
  split
  · next hFits =>
    simp only [fits, Bool.and_eq_true, decide_eq_true_eq] at hFits
    exact hFits.2
  · exact h

theorem digits_fraction_lt {l : Literal} (h : l.digits < Text.word64) (d : Nat) :
    (l.fraction d).digits < Text.word64 := by
  unfold fraction
  split
  · next hFits =>
    simp only [fits, Bool.and_eq_true, decide_eq_true_eq] at hFits
    exact hFits.2
  · exact h

end Literal

end DevicePower.Decimal
