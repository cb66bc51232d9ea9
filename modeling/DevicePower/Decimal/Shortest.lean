import DevicePower.Decimal.Binary64
import DevicePower.Text.Numeral

/-!
# The shortest decimal of a double

A double is written with the fewest digits that still read back as that double, and of the decimals
of that length with the nearest one. The reals that round to a double `m · 2 ^ q` form an interval
around it, whose ends belong to it when `m` is even; the search tries grids of decimals from coarse
to fine, and on each grid only the two neighbours of the value can be nearest.

## Main results

* `readsBack_of_onGrid?`: what a grid offers lies in the interval.
-/

namespace DevicePower.Decimal

/-- The decimal `digits · 10 ^ exponent`. -/
structure Scaled where
  digits : Nat
  exponent : Int
deriving DecidableEq

/-- Compares `a · 10 ^ i` with `n · 2 ^ j` exactly. -/
def compareScaled (a : Nat) (i : Int) (n : Nat) (j : Int) : Ordering :=
  compare ((a * powerOfTen i.toNat) <<< (-j).toNat) (n <<< j.toNat * powerOfTen (-i).toNat)

/-- Whether the next double below is only half as far away as the next one above. -/
def Binary64.isNarrowBelow (x : Binary64) : Bool :=
  x.m == significandBound / 2 && x.q != minExponent

/-- Whether `d` lies among the reals that round to the size of `x`. -/
def Binary64.readsBack (x : Binary64) (d : Scaled) : Bool :=
  let low := if x.isNarrowBelow then 4 * x.m - 1 else 4 * x.m - 2
  let high := 4 * x.m + 2
  let closed := x.m % 2 == 0
  let above := compareScaled d.digits d.exponent low (x.q - 2)
  let below := compareScaled d.digits d.exponent high (x.q - 2)
  (above == .gt || (closed && above == .eq)) && (below == .lt || (closed && below == .eq))

/-- The value divided by `10 ^ e`, as a quotient of whole numbers. -/
def Binary64.over (x : Binary64) (e : Int) : Nat × Nat :=
  (x.num * powerOfTen (-e).toNat, x.den * powerOfTen e.toNat)

/-- The better of the value's two neighbours among the multiples of `10 ^ e`, if one reads back. Of
two that do the nearer is taken, and of two equally near the even one. -/
def Binary64.onGrid? (x : Binary64) (e : Int) : Option Scaled :=
  let (num, den) := x.over e
  let nearest := Binary64.roundDiv num den
  let other := if nearest * den ≤ num then nearest + 1 else nearest - 1
  [nearest, other].findSome? fun d =>
    if 0 < d ∧ x.readsBack ⟨d, e⟩ = true then some ⟨d, e⟩ else none

/-- The power of ten just above the value: the first grid with a chance. -/
def Binary64.firstGrid (x : Binary64) : Int :=
  let (num, den) := x.over 0
  if den ≤ num then (Nat.toDigits 10 (num / den)).length
  else 1 - (Nat.toDigits 10 (den / num)).length

/-- The shortest decimal of a double other than zero. A double has at most seventeen digits; should
none of those grids answer, the exact value stands in. -/
def Binary64.shortest (x : Binary64) : Scaled :=
  let top := x.firstGrid
  match (List.range 20).findSome? fun (i : Nat) => x.onGrid? (top - i) with
  | some d => d
  | none => ⟨x.num * Nat.pow 5 (-x.q).toNat, min x.q 0⟩

/-! ## Layout -/

/-- The exponents of the leading digit that are written without an exponent part. -/
def plainFrom : Int := -5

/-- The last exponent of the leading digit that is written without an exponent part. -/
def plainTo : Int := 15

/-- The exponent part, with its sign always. -/
def exponentPart (e : Int) : List Char :=
  'e' :: (if e < 0 then '-' else '+') :: Text.digits e.natAbs

/-- The digits `ds` of a decimal whose leading digit stands for `10 ^ e`, laid out with a point or
an exponent. Without an exponent there is always a digit after the point. -/
def layout (ds : List Char) (e : Int) : List Char :=
  if plainFrom ≤ e ∧ e ≤ plainTo then
    if e < 0 then '0' :: '.' :: List.replicate (-e - 1).toNat '0' ++ ds
    else
      let whole := e.toNat + 1
      if ds.length ≤ whole then ds ++ List.replicate (whole - ds.length) '0' ++ ['.', '0']
      else ds.take whole ++ '.' :: ds.drop whole
  else
    match ds with
    | [] => []
    | [d] => d :: exponentPart e
    | d :: rest => d :: '.' :: rest ++ exponentPart e

/-- A double as text. -/
def Binary64.text (x : Binary64) : List Char :=
  let size :=
    if x.m = 0 then ['0', '.', '0']
    else
      let d := x.shortest
      let ds := Text.digits d.digits
      layout ds (d.exponent + (ds.length : Int) - 1)
  if x.negative then '-' :: size else size

/-- What a grid offers lies in the interval. -/
theorem readsBack_of_onGrid? {x : Binary64} {e : Int} {d : Scaled} (h : x.onGrid? e = some d) :
    x.readsBack d = true := by
  simp only [Binary64.onGrid?] at h
  obtain ⟨n, _, hn⟩ := List.exists_of_findSome?_eq_some h
  split at hn
  · next hBack =>
    rw [← Option.some.inj hn]
    exact hBack.2
  · simp at hn

end DevicePower.Decimal
