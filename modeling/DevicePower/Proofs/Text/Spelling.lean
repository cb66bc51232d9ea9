import DevicePower.Proofs.Caller
import DevicePower.Proofs.Json.Double
import Mathlib.Data.List.Induction

/-!
# How whole numbers may be spelled

Numbers are printed in one way and read in many: with a plus sign in front, with further zeros, and
with a minus sign even before a zero. The spellings of a number are said here from its digits, and
the readers accept just these, for the numbers in their range. Of all spellings of a number the
printed one is the only one without anything needless in front.

## Main results

* `unsigned?_eq_some_iff`, `signed?_eq_some_iff`: what the readers accept, and as what.
* `IsUnsigned.eq_digits_iff`, `IsSigned.eq_integer_iff`: which spelling is the printed one.
-/

namespace DevicePower.Text

/-- The digits of a number, with zeros in front or none. -/
def IsPadded (n : Nat) (ds : List Char) : Prop :=
  ∃ zeros, ds = List.replicate zeros '0' ++ digits n

/-- A spelling of a number where no minus sign makes sense. -/
inductive IsUnsigned (n : Nat) : List Char → Prop
  | bare {ds : List Char} (hDigits : IsPadded n ds) : IsUnsigned n ds
  | plus {ds : List Char} (hDigits : IsPadded n ds) : IsUnsigned n ('+' :: ds)

/-- A spelling of an integer. -/
inductive IsSigned : Int → List Char → Prop
  | unsigned {n : Nat} {s : List Char} (hNumber : IsUnsigned n s) : IsSigned n s
  | minus {n : Nat} {ds : List Char} (hDigits : IsPadded n ds) : IsSigned (-n) ('-' :: ds)

/-- Whether a spelling has nothing needless in front: no plus sign, no zero before another digit,
and no minus sign before a zero. -/
def IsPlain : List Char → Prop
  | '+' :: _ => False
  | '-' :: '0' :: _ => False
  | '0' :: _ :: _ => False
  | _ => True

/-! ## Digits -/

theorem eq_digitChar_of_digitValue? {c : Char} {d : Nat} (h : digitValue? c = some d) :
    c = Nat.digitChar d ∧ d < 10 := by
  unfold digitValue? at h
  split at h
  · next hRange =>
    have hLow : 48 ≤ c.toNat := hRange.1
    have hHigh : c.toNat ≤ 57 := hRange.2
    have hCode : c.toNat - 48 = d := Option.some.inj h
    have hSmall : d < 10 := by omega
    have hChar : c = Char.ofNat (48 + d) := by
      rw [← hCode, Nat.add_sub_cancel' hLow, Char.ofNat_toNat]
    refine ⟨hChar.trans ?_, hSmall⟩
    match d, hSmall with
    | 0, _ | 1, _ | 2, _ | 3, _ | 4, _ | 5, _ | 6, _ | 7, _ | 8, _ | 9, _ => rfl
  · exact nomatch h

/-- The digits of a number with one more at the end. -/
theorem isPadded_append {m d : Nat} {ds : List Char} (h : IsPadded m ds) (hDigit : d < 10) :
    IsPadded (10 * m + d) (ds ++ [Nat.digitChar d]) := by
  obtain ⟨zeros, rfl⟩ := h
  rcases Nat.eq_zero_or_pos m with rfl | hPos
  · -- The only digit of zero becomes one of the zeros in front.
    refine ⟨zeros + 1, ?_⟩
    rw [Nat.mul_zero, Nat.zero_add, digits_of_lt hDigit, List.replicate_succ']
    rfl
  · refine ⟨zeros, ?_⟩
    have hFront : (10 * m + d) / 10 = m := by omega
    have hLast : (10 * m + d) % 10 = d := by omega
    rw [digits_eq_append (show 10 ≤ 10 * m + d by omega), hFront, hLast, List.append_assoc]

theorem isPadded_of_digitsFrom? {ds : List Char} (hSome : ds ≠ []) :
    ∀ {n : Nat}, digitsFrom? 0 ds = some n → IsPadded n ds := by
  induction ds using List.reverseRecOn with
  | nil => exact absurd rfl hSome
  | append_singleton front c ih =>
    intro n h
    rw [digitsFrom?_append] at h
    obtain ⟨m, hFront, hLast⟩ := Option.bind_eq_some_iff.mp h
    obtain ⟨d, hDigit, hValue⟩ := Option.bind_eq_some_iff.mp hLast
    obtain ⟨rfl, hSmall⟩ := eq_digitChar_of_digitValue? hDigit
    obtain rfl : 10 * m + d = n := Option.some.inj hValue
    by_cases hFirst : front = []
    · subst hFirst
      obtain rfl : 0 = m := Option.some.inj hFront
      refine ⟨0, ?_⟩
      rw [Nat.mul_zero, Nat.zero_add, digits_of_lt hSmall]
      rfl
    · exact isPadded_append (ih hFirst hFront) hSmall

/-- A run of digits has a value if it is the digits of that number, but for zeros in front. -/
theorem digitsValue?_eq_some_iff {ds : List Char} {n : Nat} :
    digitsValue? ds = some n ↔ IsPadded n ds := by
  constructor
  · intro h
    have hSome : ds ≠ [] := by
      rintro rfl
      exact nomatch h
    rw [Json.Grammar.digitsValue?_eq_from hSome] at h
    exact isPadded_of_digitsFrom? hSome h
  · rintro ⟨zeros, rfl⟩
    have hPadded := Json.Grammar.digitsValue?_padded n zeros 0
    rwa [List.replicate_zero, List.append_nil, pow_zero, Nat.mul_one] at hPadded

theorem IsPadded.notMem {n : Nat} {ds : List Char} (h : IsPadded n ds) {c : Char}
    (hMark : digitValue? c = none) : c ∉ ds := by
  intro hMem
  have hValue := digitsValue?_eq_some_iff.mpr h
  have hSome : ds ≠ [] := List.ne_nil_of_mem hMem
  rw [Json.Grammar.digitsValue?_eq_from hSome] at hValue
  obtain ⟨d, hDigit⟩ := digitValue?_of_mem hMem hValue
  exact nomatch hMark.symm.trans hDigit

/-! ## What is read -/

/-- What the reader of unsigned numbers accepts. -/
theorem unsigned?_eq_some_iff {bound n : Nat} {s : List Char} :
    unsigned? bound s = some n ↔ IsUnsigned n s ∧ n < bound := by
  unfold unsigned?
  simp only [Option.filter_eq_some_iff, decide_eq_true_eq, digitsValue?_eq_some_iff]
  refine and_congr_left fun _ => ?_
  constructor
  · intro h
    split at h
    · exact .plus h
    · exact .bare h
  · intro h
    cases h with
    | bare hDigits =>
      split
      · exact absurd List.mem_cons_self (hDigits.notMem rfl)
      · exact hDigits
    | plus hDigits => exact hDigits

theorem IsUnsigned.dash_notMem {n : Nat} {s : List Char} (h : IsUnsigned n s) : '-' ∉ s := by
  cases h with
  | bare hDigits => exact hDigits.notMem rfl
  | plus hDigits =>
    rintro (_ | ⟨_, hMem⟩)
    exact hDigits.notMem rfl hMem

theorem signed?_minus (half : Nat) (ds : List Char) :
    signed? half ('-' :: ds) =
      ((digitsValue? ds).filter (· ≤ half)).map fun (n : Nat) => -(n : Int) := by
  show Option.map _ (Option.bind _ _) = _
  cases (digitsValue? ds).filter (· ≤ half) <;> rfl

/-- What the reader of signed numbers accepts. -/
theorem signed?_eq_some_iff {half : Nat} (hHalf : 0 < half) {i : Int} {s : List Char} :
    signed? half s = some i ↔ IsSigned i s ∧ -(half : Int) ≤ i ∧ i < half := by
  by_cases hMinus : ∃ ds, s = '-' :: ds
  · obtain ⟨ds, rfl⟩ := hMinus
    rw [signed?_minus]
    simp only [Option.map_eq_some_iff, Option.filter_eq_some_iff, decide_eq_true_eq,
      digitsValue?_eq_some_iff]
    constructor
    · rintro ⟨n, ⟨hDigits, hSize⟩, rfl⟩
      exact ⟨.minus hDigits, by omega, by omega⟩
    · rintro ⟨hSpelled, hLow, -⟩
      cases hSpelled with
      | unsigned hNumber => exact absurd List.mem_cons_self hNumber.dash_notMem
      | @minus n _ hDigits => exact ⟨n, ⟨hDigits, by omega⟩, rfl⟩
  · unfold signed?
    split
    · next ds => exact absurd ⟨ds, rfl⟩ hMinus
    simp only [Option.map_eq_some_iff, unsigned?_eq_some_iff, Int.ofNat_eq_natCast]
    constructor
    · rintro ⟨n, ⟨hNumber, hSize⟩, rfl⟩
      exact ⟨.unsigned hNumber, by omega, by omega⟩
    · rintro ⟨hSpelled, -, hHigh⟩
      cases hSpelled with
      | @unsigned n _ hNumber => exact ⟨n, ⟨hNumber, by omega⟩, rfl⟩
      | minus hDigits => exact absurd ⟨_, rfl⟩ hMinus

/-! ## The printed spelling -/

theorem isPadded_digits (n : Nat) : IsPadded n (digits n) := ⟨0, rfl⟩

theorem integer_natCast (n : Nat) : integer n = digits n := by
  unfold integer
  rw [if_neg (by omega), Int.natAbs_natCast]

theorem integer_neg {n : Nat} (h : 0 < n) : integer (-(n : Int)) = '-' :: digits n := by
  unfold integer
  rw [if_pos (by omega), Int.natAbs_neg, Int.natAbs_natCast]

theorem isSigned_integer (i : Int) : IsSigned i (integer i) := by
  rcases lt_or_ge i 0 with hNegative | hNot
  · obtain ⟨n, rfl⟩ : ∃ n : Nat, i = -(n : Int) := ⟨i.natAbs, by omega⟩
    rw [integer_neg (by omega)]
    exact .minus (isPadded_digits n)
  · obtain ⟨n, rfl⟩ := Int.eq_ofNat_of_zero_le hNot
    rw [integer_natCast]
    exact .unsigned (.bare (isPadded_digits n))

/-- A text that begins with no sign is plain unless a zero is followed by something. -/
theorem isPlain_cons_iff {c : Char} {rest : List Char} (hPlus : c ≠ '+') (hMinus : c ≠ '-') :
    IsPlain (c :: rest) ↔ (c = '0' → rest = []) := by
  cases rest with
  | nil => exact iff_of_true (by unfold IsPlain; split <;> simp_all) fun _ => rfl
  | cons d more =>
    unfold IsPlain
    split <;> simp_all

/-- A text behind a minus sign is plain unless it begins with a zero. -/
theorem isPlain_minus_iff {c : Char} {rest : List Char} : IsPlain ('-' :: c :: rest) ↔ c ≠ '0' := by
  unfold IsPlain
  split <;> simp_all

/-- Digits begin with a zero, unless they are the printed ones of a positive number. -/
theorem IsPadded.printed_or_zero {n : Nat} {ds : List Char} (h : IsPadded n ds) :
    0 < n ∧ ds = digits n ∨ (0 < n → ds ≠ digits n) ∧ ∃ rest, ds = '0' :: rest := by
  obtain ⟨zeros, rfl⟩ := h
  cases zeros with
  | zero =>
    rcases Nat.eq_zero_or_pos n with rfl | hPos
    · exact .inr ⟨fun hPos => absurd hPos (Nat.lt_irrefl 0), [], rfl⟩
    · exact .inl ⟨hPos, rfl⟩
  | succ zeros =>
    refine .inr ⟨fun _ hEq => ?_, _, rfl⟩
    have hLength := congrArg List.length hEq
    rw [List.length_append, List.length_replicate] at hLength
    omega

/-- Digits are the printed ones if no zero stands before another digit. -/
theorem IsPadded.eq_digits_iff {n : Nat} {ds : List Char} (h : IsPadded n ds) :
    ds = digits n ↔ IsPlain ds := by
  rcases h.printed_or_zero with ⟨hPos, rfl⟩ | ⟨hOther, rest, rfl⟩
  · obtain ⟨d, rest, hText, hLead⟩ := Json.digits_eq_cons hPos
    have hNoPlus : '+' ∉ d :: rest := hText ▸ h.notMem rfl
    have hNoMinus : '-' ∉ d :: rest := hText ▸ h.notMem rfl
    rw [hText, isPlain_cons_iff (List.ne_of_not_mem_cons hNoPlus).symm
      (List.ne_of_not_mem_cons hNoMinus).symm]
    exact iff_of_true rfl fun hFirst => absurd hFirst hLead
  · rw [isPlain_cons_iff (by decide) (by decide)]
    constructor
    · rintro hEq -
      rcases Nat.eq_zero_or_pos n with rfl | hPos
      · exact List.tail_eq_of_cons_eq hEq
      · exact absurd hEq (hOther hPos)
    · intro hPlain
      obtain rfl := hPlain rfl
      obtain rfl : 0 = n := Option.some.inj (digitsValue?_eq_some_iff.mpr h)
      rfl

/-- Of the spellings of a number the printed one is the plain one. -/
theorem IsUnsigned.eq_digits_iff {n : Nat} {s : List Char} (h : IsUnsigned n s) :
    s = digits n ↔ IsPlain s := by
  cases h with
  | bare hDigits => exact hDigits.eq_digits_iff
  | plus _ =>
    refine iff_of_false (fun hEq => ?_) id
    exact (isPadded_digits n).notMem (c := '+') rfl (hEq ▸ List.mem_cons_self)

/-- Of the spellings of an integer the printed one is the plain one. -/
theorem IsSigned.eq_integer_iff {i : Int} {s : List Char} (h : IsSigned i s) :
    s = integer i ↔ IsPlain s := by
  cases h with
  | unsigned hNumber =>
    rw [integer_natCast]
    exact hNumber.eq_digits_iff
  | @minus n ds hDigits =>
    rcases hDigits.printed_or_zero with ⟨hPos, rfl⟩ | ⟨hOther, rest, rfl⟩
    · obtain ⟨d, rest, hText, hLead⟩ := Json.digits_eq_cons hPos
      refine iff_of_true (integer_neg hPos).symm ?_
      rw [hText, isPlain_minus_iff]
      exact hLead
    · refine iff_of_false (fun hEq => ?_) id
      rcases Nat.eq_zero_or_pos n with rfl | hPos
      · exact nomatch hEq
      · rw [integer_neg hPos] at hEq
        exact hOther hPos (List.tail_eq_of_cons_eq hEq)

end DevicePower.Text
