import DevicePower.Decimal.Shortest
import Mathlib.Algebra.Order.Field.Power
import Mathlib.Algebra.Order.Ring.Rat
import Mathlib.Tactic.FieldSimp
import Mathlib.Tactic.Linarith
import Mathlib.Tactic.NormNum
import Mathlib.Tactic.Ring

/-!
# The double nearest to a number

A number is rounded to the nearest double, a tie to the even significand, as if there were no
greatest exponent. That is said here over the rationals, without an algorithm. What the search for
the shortest decimal accepts is then shown to be what this rounding takes to the double, so the
printed decimal of a double names that double and no other.

The reals that go to `m · 2 ^ q` lie between the midpoints to its neighbours. Both distances are
`2 ^ q`, but for the neighbour below a power of two, which is half as far away.

## Main results

* `IsNearest.unique`: a number has at most one nearest double.
* `isNearest_of_readsBack`: what the search accepts rounds to the double.
* `isNearest_shortest`: so does the shortest decimal.
-/

namespace DevicePower.Decimal

/-- The number `m · 2 ^ q`. -/
def binary (m : Nat) (q : Int) : ℚ := m * 2 ^ q

/-- The number that a decimal is. -/
def Scaled.value (d : Scaled) : ℚ := d.digits * 10 ^ d.exponent

/-- Whether a significand and an exponent are in the range of doubles, but for the greatest
exponent. -/
structure InFormat (m : Nat) (q : Int) : Prop where
  bound : m < significandBound
  least : minExponent ≤ q

namespace Binary64

/-- The absolute value of a double. -/
def size (x : Binary64) : ℚ := binary x.m x.q

/-- Whether a double has the one form that its value has: all bits of the significand are used, or
the exponent is the least one. -/
structure IsCanonical (x : Binary64) : Prop extends InFormat x.m x.q where
  greatest : x.q ≤ maxExponent
  full : significandBound / 2 ≤ x.m ∨ x.q = minExponent

/-- Whether `x` is, but for the sign, the double that `r` is rounded to: none is nearer, and if
another is as near, the significand of `x` is even. -/
structure IsNearest (r : ℚ) (x : Binary64) : Prop where
  nearest : ∀ m q, InFormat m q → |r - x.size| ≤ |r - binary m q|
  even : ∀ m q, InFormat m q → binary m q ≠ x.size → |r - binary m q| = |r - x.size| →
    x.m % 2 = 0

end Binary64

/-! ## Powers -/

theorem two_zpow_pos (q : Int) : (0 : ℚ) < 2 ^ q := zpow_pos (by norm_num) q

theorem two_zpow_sub_one (q : Int) : (2 : ℚ) ^ (q - 1) = 2 ^ q / 2 := by
  rw [zpow_sub_one₀ (by norm_num)]
  ring

theorem two_zpow_sub_two (q : Int) : (2 : ℚ) ^ (q - 2) = 2 ^ q / 4 := by
  have hTwice : q - 2 = q - 1 - 1 := by omega
  rw [hTwice, two_zpow_sub_one, two_zpow_sub_one]
  ring

/-- A power with an integer exponent as a quotient of powers with natural exponents. -/
theorem pow_toNat {b : ℚ} (h : b ≠ 0) (i : Int) : b ^ i.toNat = b ^ i * b ^ (-i).toNat := by
  rcases le_total 0 i with hSign | hSign
  · obtain ⟨n, rfl⟩ := Int.eq_ofNat_of_zero_le hSign
    simp
  · obtain ⟨n, hn⟩ := Int.eq_ofNat_of_zero_le (Int.neg_nonneg_of_nonpos hSign)
    obtain rfl : i = -(n : Int) := by omega
    simp [h]

/-! ## Neighbours -/

/-- At an exponent that is no less than another, a number is a multiple of the other's last bit. -/
theorem exists_binary_eq {m : Nat} {q q' : Int} (h : q ≤ q') : ∃ k, binary m q' = binary k q := by
  obtain ⟨n, rfl⟩ := Int.le.dest h
  refine ⟨m * 2 ^ n, ?_⟩
  unfold binary
  rw [zpow_add₀ (by norm_num), zpow_natCast]
  push_cast
  ring

theorem binary_lt_iff {m k : Nat} {q : Int} : binary m q < binary k q ↔ m < k := by
  unfold binary
  rw [mul_lt_mul_iff_left₀ (two_zpow_pos q)]
  exact Nat.cast_lt

theorem half_le_cast {m : Nat} (h : significandBound / 2 ≤ m) : (significandBound : ℚ) / 2 ≤ m := by
  have hTwice : significandBound ≤ 2 * m := by
    unfold significandBound at h ⊢
    omega
  have hCast : ((significandBound : Nat) : ℚ) ≤ ((2 * m : Nat) : ℚ) := Nat.cast_le.mpr hTwice
  push_cast at hCast
  linarith

/-- Below the exponent of a canonical double are only numbers that are less than half its last bit
above the power of two. -/
theorem binary_le_of_lt {m : Nat} {q q' : Int} (hFormat : InFormat m q') (h : q' < q) :
    binary m q' ≤ (significandBound / 2 - 1 / 2) * 2 ^ q := by
  have hBits : (m : ℚ) ≤ significandBound - 1 := by
    have hNat : m + 1 ≤ significandBound := hFormat.bound
    have hCast : ((m + 1 : Nat) : ℚ) ≤ significandBound := Nat.cast_le.mpr hNat
    push_cast at hCast
    linarith
  have hPower : (2 : ℚ) ^ q' ≤ 2 ^ (q - 1) := zpow_le_zpow_right₀ (by norm_num) (by omega)
  calc binary m q' ≤ (significandBound - 1) * 2 ^ (q - 1) :=
        mul_le_mul hBits hPower (two_zpow_pos q').le (le_trans m.cast_nonneg hBits)
    _ = (significandBound / 2 - 1 / 2) * 2 ^ q := by rw [two_zpow_sub_one]; ring

namespace Binary64

/-- A canonical double with room for a smaller exponent uses all bits of its significand. -/
theorem IsCanonical.half_le {x : Binary64} (h : x.IsCanonical) {q : Int}
    (hLeast : minExponent ≤ q) (hLess : q < x.q) : significandBound / 2 ≤ x.m := by
  rcases h.full with hFull | hMin
  · exact hFull
  · omega

/-- The next number above is one last bit away. -/
theorem IsCanonical.add_le {x : Binary64} (h : x.IsCanonical) {m : Nat} {q : Int}
    (hFormat : InFormat m q) (hAbove : x.size < binary m q) :
    x.size + 2 ^ x.q ≤ binary m q := by
  rcases lt_or_ge q x.q with hLess | hGe
  · have hHalf := half_le_cast (h.half_le hFormat.least hLess)
    have hBelow := binary_le_of_lt hFormat hLess
    have hSize : (significandBound / 2 - 1 / 2 : ℚ) * 2 ^ x.q ≤ x.size :=
      mul_le_mul_of_nonneg_right (by linarith) (two_zpow_pos x.q).le
    linarith
  · obtain ⟨k, hk⟩ := exists_binary_eq (m := m) hGe
    rw [hk] at hAbove ⊢
    have hNext : x.m + 1 ≤ k := binary_lt_iff.mp hAbove
    have hCast : (x.m : ℚ) + 1 ≤ k := by exact_mod_cast hNext
    calc x.size + 2 ^ x.q = (x.m + 1) * 2 ^ x.q := by unfold size binary; ring
      _ ≤ k * 2 ^ x.q := mul_le_mul_of_nonneg_right hCast (two_zpow_pos x.q).le

/-- The distance to the next number below. -/
def gapBelow (x : Binary64) : ℚ := if x.isNarrowBelow then 2 ^ x.q / 2 else 2 ^ x.q

theorem IsCanonical.le_sub {x : Binary64} (h : x.IsCanonical) {m : Nat} {q : Int}
    (hFormat : InFormat m q) (hBelow : binary m q < x.size) :
    binary m q ≤ x.size - x.gapBelow := by
  have hPos := two_zpow_pos x.q
  have hGap : x.gapBelow ≤ 2 ^ x.q := by unfold gapBelow; split <;> linarith
  rcases lt_or_ge q x.q with hLess | hGe
  · have hLow := binary_le_of_lt hFormat hLess
    have hFull := h.half_le hFormat.least hLess
    rcases Nat.lt_or_eq_of_le hFull with hMore | hExact
    · have hCast : (significandBound : ℚ) / 2 ≤ (x.m - 1 : Nat) :=
        half_le_cast (Nat.le_sub_one_of_lt hMore)
      rw [Nat.cast_pred (Nat.zero_lt_of_lt hMore)] at hCast
      have hSize : (significandBound / 2 + 1 : ℚ) * 2 ^ x.q ≤ x.size :=
        mul_le_mul_of_nonneg_right (by linarith) hPos.le
      linarith
    · have hNarrow : x.isNarrowBelow = true := by
        have hLeast := hFormat.least
        simp only [isNarrowBelow, Bool.and_eq_true, beq_iff_eq, bne_iff_ne]
        exact ⟨hExact.symm, by omega⟩
      have hSize : x.size = (significandBound / 2 : ℚ) * 2 ^ x.q := by
        unfold size binary
        rw [← hExact]
        norm_num [significandBound]
      rw [gapBelow, if_pos hNarrow]
      linarith
  · obtain ⟨k, hk⟩ := exists_binary_eq (m := m) hGe
    rw [hk] at hBelow ⊢
    have hNext : k + 1 ≤ x.m := binary_lt_iff.mp hBelow
    have hCast : (k : ℚ) + 1 ≤ x.m := by exact_mod_cast hNext
    have hSize : binary k x.q + 2 ^ x.q ≤ x.size := by
      calc binary k x.q + 2 ^ x.q = (k + 1) * 2 ^ x.q := by unfold binary; ring
        _ ≤ x.size := mul_le_mul_of_nonneg_right hCast hPos.le
    linarith

/-! ## One nearest double -/

/-- A canonical double is known by its size and its sign. -/
theorem IsCanonical.eq_of_size_eq {x y : Binary64} (hx : x.IsCanonical) (hy : y.IsCanonical)
    (h : x.size = y.size) : x.m = y.m ∧ x.q = y.q := by
  -- Of two exponents the greater one leaves no room for the same number at the smaller one.
  have hLess : ∀ {x y : Binary64}, x.IsCanonical → y.IsCanonical → x.size = y.size →
      ¬ x.q < y.q := by
    intro x y hx hy h hLess
    have hHalf := half_le_cast (hy.half_le hx.least hLess)
    have hLow := binary_le_of_lt hx.toInFormat hLess
    have hSize : (significandBound / 2 : ℚ) * 2 ^ y.q ≤ y.size :=
      mul_le_mul_of_nonneg_right hHalf (two_zpow_pos y.q).le
    have hPos := two_zpow_pos y.q
    change x.size ≤ _ at hLow
    linarith
  have hExponent : x.q = y.q :=
    le_antisymm (not_lt.mp (hLess hy hx h.symm)) (not_lt.mp (hLess hx hy h))
  refine ⟨?_, hExponent⟩
  unfold size binary at h
  rw [hExponent] at h
  exact_mod_cast mul_right_cancel₀ (two_zpow_pos y.q).ne' h

theorem nearer_low_iff {r a b : ℚ} (h : a < b) : |r - a| ≤ |r - b| ↔ 2 * r ≤ a + b := by
  rw [← sq_le_sq]
  constructor <;> intro hLe <;> nlinarith

theorem nearer_high_iff {r a b : ℚ} (h : a < b) : |r - b| ≤ |r - a| ↔ a + b ≤ 2 * r := by
  rw [← sq_le_sq]
  constructor <;> intro hLe <;> nlinarith

/-- Two nearest doubles are not one above the other. -/
theorem IsNearest.not_size_lt {r : ℚ} {x y : Binary64} (hx : x.IsCanonical) (hy : y.IsCanonical)
    (hNearestX : IsNearest r x) (hNearestY : IsNearest r y) : ¬ x.size < y.size := by
  intro hLess
  have hTie : |r - x.size| = |r - y.size| :=
    le_antisymm (hNearestX.nearest y.m y.q hy.toInFormat)
      (hNearestY.nearest x.m x.q hx.toInFormat)
  have hEvenX : x.m % 2 = 0 := hNearestX.even y.m y.q hy.toInFormat hLess.ne' hTie.symm
  have hEvenY : y.m % 2 = 0 := hNearestY.even x.m x.q hx.toInFormat hLess.ne hTie
  -- The number after `x` is in the format, for the last significand is odd.
  have hBound : x.m + 1 < significandBound := by
    have hIn := hx.bound
    unfold significandBound at hIn ⊢
    omega
  let next : Binary64 := ⟨false, x.m + 1, x.q⟩
  have hNext : next.size = x.size + 2 ^ x.q := by
    show binary (x.m + 1) x.q = binary x.m x.q + 2 ^ x.q
    unfold binary
    push_cast
    ring
  have hCanonical : next.IsCanonical :=
    ⟨⟨hBound, hx.least⟩, hx.greatest, hx.full.imp_left fun hFull => Nat.le_succ_of_le hFull⟩
  have hAfter : x.size < next.size := by
    rw [hNext]
    linarith [two_zpow_pos x.q]
  have hUpTo : next.size ≤ y.size := hNext ▸ hx.add_le hy.toInFormat hLess
  have hLow : 2 * r ≤ x.size + next.size :=
    (nearer_low_iff hAfter).mp (hNearestX.nearest next.m next.q hCanonical.toInFormat)
  have hHigh : x.size + y.size ≤ 2 * r :=
    (nearer_high_iff hLess).mp (hNearestY.nearest x.m x.q hx.toInFormat)
  have hOdd : x.m + 1 = y.m := (hCanonical.eq_of_size_eq hy (by linarith)).1
  omega

/-- A number has at most one nearest double of each sign. -/
theorem IsNearest.unique {r : ℚ} {x y : Binary64} (hx : x.IsCanonical) (hy : y.IsCanonical)
    (hNearestX : IsNearest r x) (hNearestY : IsNearest r y) (hSign : x.negative = y.negative) :
    x = y := by
  have hSize : x.size = y.size :=
    le_antisymm (not_lt.mp (hNearestY.not_size_lt hy hx hNearestX))
      (not_lt.mp (hNearestX.not_size_lt hx hy hNearestY))
  obtain ⟨hBits, hExponent⟩ := hx.eq_of_size_eq hy hSize
  obtain ⟨_, m, q⟩ := x
  obtain ⟨_, m', q'⟩ := y
  simp_all

/-- A double is nearest to itself. -/
theorem isNearest_size (x : Binary64) : IsNearest x.size x where
  nearest m q _ := by
    rw [sub_self, abs_zero]
    exact abs_nonneg _
  even m q _ hOther hTie := by
    rw [sub_self, abs_zero, abs_eq_zero, sub_eq_zero] at hTie
    exact absurd hTie.symm hOther

end Binary64

/-! ## What the search accepts -/

/-- Comparing with the powers multiplied out is comparing the numbers. -/
theorem compareScaled_eq (a : Nat) (i : Int) (n : Nat) (j : Int) :
    compareScaled a i n j = compare ((a : ℚ) * 10 ^ i) (binary n j) := by
  let c : ℚ := 10 ^ (-i).toNat * 2 ^ (-j).toNat
  have hPos : 0 < c := by positivity
  have hLeft : (((a * powerOfTen i.toNat) <<< (-j).toNat : Nat) : ℚ) = a * 10 ^ i * c := by
    rw [Nat.shiftLeft_eq]
    show ((a * 10 ^ i.toNat * 2 ^ (-j).toNat : Nat) : ℚ) = a * 10 ^ i * (_ * _)
    push_cast
    rw [pow_toNat (by norm_num) i]
    ring
  have hRight : ((n <<< j.toNat * powerOfTen (-i).toNat : Nat) : ℚ) = binary n j * c := by
    rw [Nat.shiftLeft_eq]
    show ((n * 2 ^ j.toNat * 10 ^ (-i).toNat : Nat) : ℚ) = n * 2 ^ j * (_ * _)
    push_cast
    rw [pow_toNat (by norm_num) j]
    ring
  have hLess : ∀ {p q : Nat} {r s : ℚ}, (p : ℚ) = r * c → (q : ℚ) = s * c →
      (p < q ↔ r < s) := by
    intro p q r s hp hq
    rw [← Nat.cast_lt (α := ℚ), hp, hq, mul_lt_mul_iff_left₀ hPos]
  unfold compareScaled
  rcases lt_trichotomy ((a : ℚ) * 10 ^ i) (binary n j) with h | h | h
  · rw [compare_lt_iff_lt.mpr h, compare_lt_iff_lt]
    exact (hLess hLeft hRight).mpr h
  · rw [compare_eq_iff_eq.mpr h, compare_eq_iff_eq]
    exact_mod_cast (hLeft.trans (h ▸ hRight.symm))
  · rw [compare_gt_iff_gt.mpr h, compare_gt_iff_gt]
    exact (hLess hRight hLeft).mpr h

namespace Binary64

/-- What the search accepts lies between the midpoints to the neighbours, and on one of them only if
the significand is even. -/
theorem bounds_of_readsBack {x : Binary64} (hPositive : x.m ≠ 0) {d : Scaled}
    (h : x.readsBack d = true) :
    (x.size - x.gapBelow / 2 < d.value ∨ x.size - x.gapBelow / 2 = d.value ∧ x.m % 2 = 0) ∧
      (d.value < x.size + 2 ^ x.q / 2 ∨ d.value = x.size + 2 ^ x.q / 2 ∧ x.m % 2 = 0) := by
  have hHigh : binary (4 * x.m + 2) (x.q - 2) = x.size + 2 ^ x.q / 2 := by
    unfold size binary
    rw [two_zpow_sub_two]
    push_cast
    ring
  have hLow : binary (if x.isNarrowBelow then 4 * x.m - 1 else 4 * x.m - 2) (x.q - 2) =
      x.size - x.gapBelow / 2 := by
    unfold gapBelow size binary
    rw [two_zpow_sub_two]
    split
    · rw [Nat.cast_sub (by omega)]
      push_cast
      ring
    · rw [Nat.cast_sub (by omega)]
      push_cast
      ring
  simp only [readsBack, compareScaled_eq, hLow, hHigh, Bool.and_eq_true, Bool.or_eq_true,
    beq_iff_eq, compare_gt_iff_gt, compare_lt_iff_lt, compare_eq_iff_eq] at h
  exact ⟨h.1.imp_right fun hEnd => ⟨hEnd.2.symm, hEnd.1⟩, h.2.imp_right fun hEnd => hEnd.symm⟩

/-- What the search accepts rounds to the double. -/
theorem isNearest_of_readsBack {x : Binary64} (hCanonical : x.IsCanonical) (hPositive : x.m ≠ 0)
    {d : Scaled} (h : x.readsBack d = true) : IsNearest d.value x := by
  obtain ⟨hLow, hHigh⟩ := bounds_of_readsBack hPositive h
  have hBelow : x.size - x.gapBelow / 2 ≤ d.value := hLow.elim le_of_lt fun hEnd => hEnd.1.le
  have hAbove : d.value ≤ x.size + 2 ^ x.q / 2 := hHigh.elim le_of_lt fun hEnd => hEnd.1.le
  constructor
  · intro m q hFormat
    rcases lt_trichotomy (binary m q) x.size with hOther | hSame | hOther
    · exact (nearer_high_iff hOther).mpr (by linarith [hCanonical.le_sub hFormat hOther])
    · rw [hSame]
    · exact (nearer_low_iff hOther).mpr (by linarith [hCanonical.add_le hFormat hOther])
  · intro m q hFormat hNe hTie
    rcases lt_or_gt_of_ne hNe with hOther | hOther
    · have hEnd := (nearer_low_iff hOther).mp hTie.le
      have hGap := hCanonical.le_sub hFormat hOther
      exact hLow.elim (fun hInside => by linarith) And.right
    · have hEnd := (nearer_high_iff hOther).mp hTie.le
      have hGap := hCanonical.add_le hFormat hOther
      exact hHigh.elim (fun hInside => by linarith) And.right

/-- The exact decimal of a double. -/
theorem value_exact (x : Binary64) :
    Scaled.value ⟨x.num * Nat.pow 5 (-x.q).toNat, min x.q 0⟩ = x.size := by
  unfold Scaled.value num size binary
  rw [Nat.shiftLeft_eq]
  show ((x.m * 2 ^ x.q.toNat * 5 ^ (-x.q).toNat : Nat) : ℚ) * 10 ^ min x.q 0 = _
  push_cast
  rw [pow_toNat (by norm_num) x.q]
  rcases le_total 0 x.q with hSign | hSign
  · obtain ⟨n, hn⟩ := Int.eq_ofNat_of_zero_le hSign
    simp [hn]
  · obtain ⟨n, hn⟩ := Int.eq_ofNat_of_zero_le (Int.neg_nonneg_of_nonpos hSign)
    have hExponent : x.q = -(n : Int) := by omega
    have hTen : (10 : ℚ) ^ n = 2 ^ n * 5 ^ n := by rw [← mul_pow]; norm_num
    rw [min_eq_left hSign, hExponent]
    simp only [neg_neg, Int.toNat_natCast, zpow_neg, zpow_natCast, hTen]
    field_simp

theorem digits_pos_of_onGrid? {x : Binary64} {e : Int} {d : Scaled} (h : x.onGrid? e = some d) :
    0 < d.digits := by
  simp only [onGrid?] at h
  obtain ⟨n, -, hn⟩ := List.exists_of_findSome?_eq_some h
  split at hn
  · next hBoth =>
    obtain rfl := Option.some.inj hn
    exact hBoth.1
  · cases hn

/-- The shortest decimal of a double other than zero rounds to it, and has a digit that is not
zero. -/
theorem isNearest_shortest {x : Binary64} (hCanonical : x.IsCanonical) (hPositive : x.m ≠ 0) :
    IsNearest x.shortest.value x ∧ 0 < x.shortest.digits := by
  unfold shortest
  dsimp only
  split
  · next d hFound =>
    obtain ⟨i, -, hGrid⟩ := List.exists_of_findSome?_eq_some hFound
    exact ⟨isNearest_of_readsBack hCanonical hPositive (readsBack_of_onGrid? hGrid),
      digits_pos_of_onGrid? hGrid⟩
  · refine ⟨x.value_exact ▸ isNearest_size x, ?_⟩
    have hNum : 0 < x.num := by
      rw [num, Nat.shiftLeft_eq]
      exact Nat.mul_pos (Nat.pos_of_ne_zero hPositive) (Nat.two_pow_pos _)
    exact Nat.mul_pos hNum (Nat.pow_pos (by decide))

end Binary64

end DevicePower.Decimal
