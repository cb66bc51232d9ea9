import DevicePower.Proofs.Decimal.Nearest
import DevicePower.Proofs.Json.Number

/-!
# What the text of a double stands for

A number with a fraction or an exponent stands for a rational number, that of its digits times a
power of ten, and then for the double nearest to it. The layouts of a decimal, with leading or
trailing zeros, with a point inside and with an exponent, all stand for the same number, and with
the shortest decimal that number is rounded back to the double that was printed.

## Main results

* `HasSize.unique`, `IsDouble.unique`: a text stands for one number, and for one double.
* `hasSize_layout`: every layout of a decimal stands for the decimal.
* `isDouble_text`: the printed text of a double stands for that double.
* `text_inj`: so different doubles have different texts.
-/

namespace DevicePower.Json.Grammar

open Decimal

/-- A fraction, if there is one, and its digits. -/
inductive HasFraction : List Char → List Char → Prop
  | none : HasFraction [] []
  | some {ds : List Char} (hDigits : IsDigits ds) : HasFraction ('.' :: ds) ds

/-- The value of digits after a sign, if there is one. -/
def signedValue? : List Char → Option Int
  | '-' :: ds => (Text.digitsValue? ds).map fun (n : Nat) => -(n : Int)
  | '+' :: ds => (Text.digitsValue? ds).map Int.ofNat
  | ds => (Text.digitsValue? ds).map Int.ofNat

/-- An exponent, if there is one, and its value. -/
inductive HasExponent : List Char → Int → Prop
  | none : HasExponent [] 0
  | some {mark : Char} {cs : List Char} {e : Int} (hMark : mark = 'e' ∨ mark = 'E')
      (hValue : signedValue? cs = some e) : HasExponent (mark :: cs) e

/-- A number without a sign that has a fraction or an exponent, and what it stands for: all its
digits, times the power of ten that puts the point in its place. -/
inductive HasSize (cs : List Char) (r : ℚ) : Prop
  | intro {whole fraction exponent ds : List Char} {n : Nat} {e : Int}
      (hText : cs = whole ++ (fraction ++ exponent)) (hWhole : IsWhole whole)
      (hFraction : HasFraction fraction ds) (hExponent : HasExponent exponent e)
      (hPart : fraction ≠ [] ∨ exponent ≠ [])
      (hDigits : Text.digitsValue? (whole ++ ds) = some n)
      (hValue : r = n * 10 ^ (e - ds.length))

/-- A text of a double: its number, but for the sign, is rounded to the double. -/
structure IsDouble (x : Binary64) (cs : List Char) : Prop where
  canonical : x.IsCanonical
  text : ∃ size r, cs = (if x.negative then '-' :: size else size) ∧ HasSize size r ∧
    Binary64.IsNearest r x

/-! ## Digits -/

theorem digitsValue?_eq_from {ds : List Char} (h : ds ≠ []) :
    Text.digitsValue? ds = Text.digitsFrom? 0 ds := by
  cases ds with
  | nil => exact absurd rfl h
  | cons c rest => rfl

theorem digitsFrom?_zeros (acc k : Nat) :
    Text.digitsFrom? acc (List.replicate k '0') = some (acc * 10 ^ k) := by
  induction k generalizing acc with
  | zero => simp [Text.digitsFrom?]
  | succ k ih =>
    have hZero : Text.digitValue? '0' = some 0 := rfl
    rw [List.replicate_succ, Text.digitsFrom?, hZero, Option.bind_some, ih, pow_succ]
    congr 1
    ring

/-- Zeros on both sides of the digits of a number. -/
theorem digitsValue?_padded (n before behind : Nat) :
    Text.digitsValue? (List.replicate before '0' ++ (Text.digits n ++ List.replicate behind '0')) =
      some (n * 10 ^ behind) := by
  have hSome : List.replicate before '0' ++ (Text.digits n ++ List.replicate behind '0') ≠ [] := by
    simp [Text.digits_ne_nil n]
  rw [digitsValue?_eq_from hSome, Text.digitsFrom?_append, digitsFrom?_zeros, Nat.zero_mul,
    Option.bind_some, Text.digitsFrom?_append, Text.digitsFrom?_digits, Option.bind_some,
    digitsFrom?_zeros]

theorem isDigits_append {ds more : List Char} (h : IsDigits ds)
    (hMore : ∀ c ∈ more, '0' ≤ c ∧ c ≤ '9') : IsDigits (ds ++ more) :=
  ⟨List.append_ne_nil_of_left_ne_nil h.1 more,
    fun c hMem => (List.mem_append.mp hMem).elim (h.2 c) (hMore c)⟩

theorem zeros_areDigits (k : Nat) : ∀ c ∈ List.replicate k '0', '0' ≤ c ∧ c ≤ '9' := by
  intro c hMem
  obtain rfl := List.eq_of_mem_replicate hMem
  decide

/-- The digits of a positive number may begin a whole part. -/
theorem isWhole_digits_append {n : Nat} (h : 0 < n) {front more : List Char}
    (hFront : front <+: Text.digits n) (hSome : front ≠ [])
    (hMore : ∀ c ∈ more, '0' ≤ c ∧ c ≤ '9') : IsWhole (front ++ more) := by
  obtain ⟨d, rest, hDigits, hLead⟩ := digits_eq_cons h
  have hAll : IsDigits front :=
    ⟨hSome, fun c hMem => (isDigits_digits n).2 c (hFront.subset hMem)⟩
  cases front with
  | nil => exact absurd rfl hSome
  | cons c front =>
    rw [hDigits, List.cons_prefix_cons] at hFront
    exact .other (isDigits_append hAll hMore) (hFront.1 ▸ hLead)

/-! ## One number for a text -/

theorem digit_of_digitValue? {c : Char} {d : Nat} (h : Text.digitValue? c = some d) :
    '0' ≤ c ∧ c ≤ '9' := by
  unfold Text.digitValue? at h
  split at h
  · assumption
  · exact nomatch h

theorem digits_of_digitsFrom? {ds : List Char} {acc n : Nat}
    (h : Text.digitsFrom? acc ds = some n) : ∀ c ∈ ds, '0' ≤ c ∧ c ≤ '9' := by
  induction ds generalizing acc with
  | nil => exact nofun
  | cons c rest ih =>
    obtain ⟨d, hHead, hRest⟩ := Option.bind_eq_some_iff.mp h
    intro other hMem
    rcases List.mem_cons.mp hMem with rfl | hLater
    · exact digit_of_digitValue? hHead
    · exact ih hRest other hLater

theorem isDigits_of_digitsValue? {ds : List Char} {n : Nat} (h : Text.digitsValue? ds = some n) :
    IsDigits ds := by
  have hSome : ds ≠ [] := by
    rintro rfl
    exact nomatch h
  rw [digitsValue?_eq_from hSome] at h
  exact ⟨hSome, digits_of_digitsFrom? h⟩

theorem HasFraction.isFraction {fraction ds : List Char} (h : HasFraction fraction ds) :
    IsFraction fraction := by
  cases h with
  | none => exact .none
  | some hDigits => exact .some hDigits

theorem HasExponent.isExponent {exponent : List Char} {e : Int} (h : HasExponent exponent e) :
    IsExponent exponent := by
  cases h with
  | none => exact .none
  | @some mark cs e hMark hValue =>
    unfold signedValue? at hValue
    split at hValue
    all_goals obtain ⟨n, hDigits, -⟩ := Option.map_eq_some_iff.mp hValue
    · exact @IsExponent.some mark ['-'] _ hMark (by decide) (isDigits_of_digitsValue? hDigits)
    · exact @IsExponent.some mark ['+'] _ hMark (by decide) (isDigits_of_digitsValue? hDigits)
    · exact @IsExponent.some mark [] _ hMark (by decide) (isDigits_of_digitsValue? hDigits)

/-- A text without a sign that stands for a number is a number. -/
theorem HasSize.isNumber {cs : List Char} {r : ℚ} (h : HasSize cs r) {sign : List Char}
    (hSign : sign = [] ∨ sign = ['-']) : IsNumber (sign ++ cs) := by
  obtain ⟨rfl, hWhole, hFraction, hExponent, -, -, -⟩ := h
  exact .intro hSign hWhole hFraction.isFraction hExponent.isExponent

theorem IsDouble.isNumber {x : Binary64} {cs : List Char} (h : IsDouble x cs) : IsNumber cs := by
  obtain ⟨size, r, rfl, hSize, -⟩ := h.text
  split
  · exact hSize.isNumber (Or.inr rfl)
  · exact hSize.isNumber (Or.inl rfl)

theorem HasExponent.head_not_digit {exponent : List Char} {e : Int} (h : HasExponent exponent e) :
    ∀ c ∈ exponent.head?, isDigit c = false ∧ c ≠ '.' := by
  cases h with
  | none => exact nofun
  | some hMark =>
    intro c hMem
    obtain rfl := Option.some.inj hMem
    rcases hMark with rfl | rfl <;> decide

/-- An exponent has one value. -/
theorem HasExponent.unique {exponent : List Char} {e e' : Int} (h : HasExponent exponent e)
    (h' : HasExponent exponent e') : e = e' := by
  cases h with
  | none => cases h'; rfl
  | some _ hValue =>
    cases h' with
    | some _ hValue' => exact Option.some.inj (hValue.symm.trans hValue')

/-- Digits before something that is no digit are known by the whole text. -/
theorem digits_append_inj {ds ds' rest rest' : List Char} (h : IsDigits ds) (h' : IsDigits ds')
    (hStop : ∀ c ∈ rest.head?, isDigit c = false) (hStop' : ∀ c ∈ rest'.head?, isDigit c = false)
    (hText : ds ++ rest = ds' ++ rest') : ds = ds' ∧ rest = rest' := by
  obtain ⟨hTake, hDrop⟩ := takeWhile_digits h hStop
  obtain ⟨hTake', hDrop'⟩ := takeWhile_digits h' hStop'
  exact ⟨by rw [← hTake, ← hTake', hText], by rw [← hDrop, ← hDrop', hText]⟩

/-- What follows the whole part of a number is known by the whole text. -/
theorem afterWhole_unique {fraction fraction' exponent exponent' ds ds' : List Char} {e e' : Int}
    (hFraction : HasFraction fraction ds) (hFraction' : HasFraction fraction' ds')
    (hExponent : HasExponent exponent e) (hExponent' : HasExponent exponent' e')
    (hText : fraction ++ exponent = fraction' ++ exponent') : ds = ds' ∧ e = e' := by
  have hStop := fun c hMem => (hExponent.head_not_digit c hMem).1
  have hStop' := fun c hMem => (hExponent'.head_not_digit c hMem).1
  cases hFraction with
  | none =>
    cases hFraction' with
    | none =>
      obtain rfl : exponent = exponent' := hText
      exact ⟨rfl, hExponent.unique hExponent'⟩
    | some =>
      obtain rfl : exponent = _ := hText
      exact absurd rfl (hExponent.head_not_digit '.' rfl).2
  | some hDigits =>
    cases hFraction' with
    | none =>
      obtain rfl : _ = exponent' := hText
      exact absurd rfl (hExponent'.head_not_digit '.' rfl).2
    | some hDigits' =>
      obtain ⟨rfl, rfl⟩ :=
        digits_append_inj hDigits hDigits' hStop hStop' (List.cons.inj hText).2
      exact ⟨rfl, hExponent.unique hExponent'⟩

theorem IsWhole.isDigits {whole : List Char} (h : IsWhole whole) : IsDigits whole := by
  cases h with
  | zero => exact ⟨by decide, zeros_areDigits 1⟩
  | other hDigits => exact hDigits

/-- A text stands for one number. -/
theorem HasSize.unique {cs : List Char} {r r' : ℚ} (h : HasSize cs r) (h' : HasSize cs r') :
    r = r' := by
  obtain @⟨whole, fraction, exponent, ds, n, e, rfl, hWhole, hFraction, hExponent, -, hDigits,
    rfl⟩ := h
  obtain @⟨whole', fraction', exponent', ds', n', e', hText, hWhole', hFraction', hExponent', -,
    hDigits', rfl⟩ := h'
  have hStop := noDigit_afterWhole hFraction.isFraction hExponent.isExponent endsNumber_nil
  have hStop' := noDigit_afterWhole hFraction'.isFraction hExponent'.isExponent endsNumber_nil
  rw [List.append_nil] at hStop hStop'
  obtain ⟨rfl, hRest⟩ := digits_append_inj hWhole.isDigits hWhole'.isDigits hStop hStop' hText
  obtain ⟨rfl, rfl⟩ := afterWhole_unique hFraction hFraction' hExponent hExponent' hRest
  obtain rfl : n = n' := Option.some.inj (hDigits.symm.trans hDigits')
  rfl

theorem not_hasSize_minus {cs : List Char} {r : ℚ} : ¬ HasSize ('-' :: cs) r := by
  intro h
  obtain ⟨hText, hWhole, -, -, -, -, -⟩ := h
  obtain ⟨d, ds, rfl, hDigit⟩ := IsWhole.head_eq hWhole
  obtain rfl := (List.cons.inj hText).1
  exact nomatch hDigit

/-- A text stands for one double. -/
theorem IsDouble.unique {x y : Binary64} {cs : List Char} (h : IsDouble x cs) (h' : IsDouble y cs) :
    x = y := by
  obtain ⟨size, r, hText, hSize, hNearest⟩ := h.text
  obtain ⟨size', r', hText', hSize', hNearest'⟩ := h'.text
  have hSame := hText.symm.trans hText'
  cases hSign : x.negative <;> cases hSign' : y.negative <;> rw [hSign, hSign'] at hSame
  · obtain rfl : size = size' := hSame
    exact (hSize.unique hSize' ▸ hNearest).unique h.canonical h'.canonical hNearest'
      (hSign.trans hSign'.symm)
  · obtain rfl : size = '-' :: size' := hSame
    exact absurd hSize not_hasSize_minus
  · obtain rfl : '-' :: size = size' := hSame
    exact absurd hSize' not_hasSize_minus
  · obtain rfl : size = size' := (List.cons.inj hSame).2
    exact (hSize.unique hSize' ▸ hNearest).unique h.canonical h'.canonical hNearest'
      (hSign.trans hSign'.symm)

/-! ## Layouts -/

theorem hasExponent_part (e : Int) : HasExponent (exponentPart e) e := by
  have hDigits := Text.digitsValue?_digits e.natAbs
  refine .some (Or.inl rfl) ?_
  split
  · next hNegative =>
    have hValue : -(e.natAbs : Int) = e := by omega
    show (Text.digitsValue? (Text.digits e.natAbs)).map (fun (n : Nat) => -(n : Int)) = _
    rw [hDigits, Option.map_some, hValue]
  · next hNot =>
    have hValue : Int.ofNat e.natAbs = e := by
      rw [Int.ofNat_eq_natCast]
      omega
    show (Text.digitsValue? (Text.digits e.natAbs)).map Int.ofNat = _
    rw [hDigits, Option.map_some, hValue]

section Layout

variable {n : Nat}

/-- A number below one, with zeros behind the point. -/
theorem hasSize_small (n k : Nat) :
    HasSize ('0' :: '.' :: List.replicate k '0' ++ Text.digits n)
      (n * 10 ^ (-((k + (Text.digits n).length : Nat) : Int))) := by
  have hFraction : IsDigits (List.replicate k '0' ++ Text.digits n) :=
    ⟨by simp [Text.digits_ne_nil n], fun c hMem => (List.mem_append.mp hMem).elim
      (zeros_areDigits k c) ((isDigits_digits n).2 c)⟩
  have hDigits : Text.digitsValue? (['0'] ++ (List.replicate k '0' ++ Text.digits n)) = some n := by
    simpa [List.replicate_succ] using digitsValue?_padded n (k + 1) 0
  refine .intro ?_ .zero (.some hFraction) .none (Or.inl (List.cons_ne_nil _ _)) hDigits ?_
  · simp
  · simp

/-- A whole number, with zeros up to the point and one behind it. -/
theorem hasSize_whole (h : 0 < n) (k : Nat) :
    HasSize (Text.digits n ++ List.replicate k '0' ++ ['.', '0']) (n * 10 ^ (k : Int)) := by
  have hWhole : IsWhole (Text.digits n ++ List.replicate k '0') :=
    isWhole_digits_append h List.prefix_rfl (Text.digits_ne_nil n) (zeros_areDigits k)
  have hDigits : Text.digitsValue? (Text.digits n ++ List.replicate k '0' ++ ['0']) =
      some (n * 10 ^ (k + 1)) := by
    simpa [List.replicate_succ'] using digitsValue?_padded n 0 (k + 1)
  refine .intro ?_ hWhole (.some ⟨by decide, zeros_areDigits 1⟩) .none
    (Or.inl (List.cons_ne_nil _ _)) hDigits ?_
  · simp
  · push_cast
    rw [pow_succ, zero_sub, List.length_singleton, Nat.cast_one, zpow_neg_one, zpow_natCast]
    ring

/-- The digits with a point inside them, and then an exponent if there is one. -/
theorem hasSize_split (h : 0 < n) {front behind exponent : List Char} {e : Int}
    (hSplit : Text.digits n = front ++ behind) (hFront : front ≠ []) (hBehind : behind ≠ [])
    (hExponent : HasExponent exponent e) :
    HasSize (front ++ ('.' :: behind ++ exponent)) (n * 10 ^ (e - behind.length)) := by
  have hWhole : IsWhole (front ++ []) :=
    isWhole_digits_append h (hSplit ▸ List.prefix_append front behind) hFront nofun
  have hFraction : IsDigits behind :=
    ⟨hBehind, fun c hMem => (isDigits_digits n).2 c (hSplit ▸ List.mem_append_right front hMem)⟩
  rw [List.append_nil] at hWhole
  exact .intro rfl hWhole (.some hFraction) hExponent (Or.inl (List.cons_ne_nil _ _))
    (hSplit ▸ Text.digitsValue?_digits n) rfl

/-- A single digit and an exponent. -/
theorem hasSize_single (h : 0 < n) {d : Char} (hDigits : Text.digits n = [d]) (e : Int) :
    HasSize (d :: exponentPart e) (n * 10 ^ e) := by
  have hWhole : IsWhole ([d] ++ []) :=
    isWhole_digits_append h (hDigits ▸ List.prefix_rfl) (List.cons_ne_nil _ _) nofun
  refine .intro ?_ hWhole .none (hasExponent_part e) (Or.inr (List.cons_ne_nil _ _))
    (hDigits ▸ Text.digitsValue?_digits n) ?_
  · rfl
  · simp

/-- Every layout of a decimal stands for the decimal whose leading digit stands for `10 ^ e`. -/
theorem hasSize_layout (h : 0 < n) (e : Int) :
    HasSize (layout (Text.digits n) e) (n * 10 ^ (e + 1 - (Text.digits n).length)) := by
  have hSome := List.length_pos_iff.mpr (Text.digits_ne_nil n)
  unfold layout
  split
  · split
    · next hNegative =>
      have hPower : e + 1 - ((Text.digits n).length : Int) =
          -(((-e - 1).toNat + (Text.digits n).length : Nat) : Int) := by omega
      rw [hPower]
      exact hasSize_small n (-e - 1).toNat
    · dsimp only
      split
      · next hPositive hShort =>
        have hPower : e + 1 - ((Text.digits n).length : Int) =
            ((e.toNat + 1 - (Text.digits n).length : Nat) : Int) := by omega
        rw [hPower]
        exact hasSize_whole h _
      · next hPositive hLong =>
        have hFront : (Text.digits n).take (e.toNat + 1) ≠ [] := by
          rw [← List.length_pos_iff, List.length_take]
          omega
        have hBehind : (Text.digits n).drop (e.toNat + 1) ≠ [] := by
          rw [← List.length_pos_iff, List.length_drop]
          omega
        have hSize := hasSize_split h (List.take_append_drop (e.toNat + 1) _).symm hFront hBehind
          .none
        have hPower : (0 : Int) - ((Text.digits n).drop (e.toNat + 1)).length =
            e + 1 - (Text.digits n).length := by
          rw [List.length_drop]
          omega
        rw [hPower, List.append_nil] at hSize
        exact hSize
  · split
    · next hDigits => exact absurd hDigits (Text.digits_ne_nil n)
    · next d hDigits =>
      have hPower : e + 1 - ((Text.digits n).length : Int) = e := by simp [hDigits]
      rw [hPower]
      exact hasSize_single h hDigits e
    · next d rest hNotSingle hDigits =>
      have hSplit : Text.digits n = [d] ++ rest := hDigits
      have hSize := hasSize_split h hSplit (List.cons_ne_nil _ _) hNotSingle (hasExponent_part e)
      have hPower : e + 1 - ((Text.digits n).length : Int) = e - rest.length := by
        rw [hDigits, List.length_cons]
        push_cast
        omega
      rw [hPower]
      exact hSize

end Layout

/-! ## Doubles -/

theorem hasSize_zero : HasSize ['0', '.', '0'] 0 := by
  have hDigits : Text.digitsValue? (['0'] ++ ['0']) = some 0 := rfl
  refine .intro ?_ .zero (.some ⟨by decide, zeros_areDigits 1⟩) .none
    (Or.inl (List.cons_ne_nil _ _)) hDigits ?_
  · rfl
  · simp

/-- The printed text of a double stands for that double. -/
theorem isDouble_text {x : Binary64} (h : x.IsCanonical) : IsDouble x x.text := by
  refine ⟨h, ?_⟩
  by_cases hZero : x.m = 0
  · have hSize : x.size = 0 := by simp [Binary64.size, binary, hZero]
    refine ⟨['0', '.', '0'], 0, ?_, hasSize_zero, hSize ▸ x.isNearest_size⟩
    simp only [Binary64.text, if_pos hZero]
  · obtain ⟨hNearest, hPositive⟩ := Binary64.isNearest_shortest h hZero
    have hSize := hasSize_layout hPositive
      (x.shortest.exponent + ((Text.digits x.shortest.digits).length : Int) - 1)
    have hPower : x.shortest.exponent + ((Text.digits x.shortest.digits).length : Int) - 1 + 1 -
        (Text.digits x.shortest.digits).length = x.shortest.exponent := by omega
    rw [hPower] at hSize
    refine ⟨_, _, ?_, hSize, hNearest⟩
    simp only [Binary64.text, if_neg hZero]

/-- Different doubles have different texts. -/
theorem text_inj {x y : Binary64} (hx : x.IsCanonical) (hy : y.IsCanonical)
    (h : x.text = y.text) : x = y :=
  (isDouble_text hx).unique (h ▸ isDouble_text hy)

end DevicePower.Json.Grammar
