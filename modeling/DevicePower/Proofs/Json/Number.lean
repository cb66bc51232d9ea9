import DevicePower.Proofs.Json.Scan

/-!
# The tokens of numbers

A number of any length is read to its end as one token, which may be passed over whatever its value.
An integer that was printed is read back if it fits a signed or an unsigned 64-bit word.

The parts of a number are read one after the other, and each reader stops at the first character
that is no digit. So the lemmas go from the exponent to the front, each for any literal read so far.

## Main results

* `scans_number`: a number is one token.
* `scans_integer`: a printed integer is one token that holds it.
-/

namespace DevicePower.Json

open Grammar

theorem isDigit_iff {c : Char} : isDigit c = true ↔ '0' ≤ c ∧ c ≤ '9' := by
  simp [isDigit]

/-- Digits are read up to what is none. -/
theorem takeWhile_digits {ds rest : List Char} (h : IsDigits ds)
    (hRest : ∀ c ∈ rest.head?, isDigit c = false) :
    (ds ++ rest).takeWhile isDigit = ds ∧ (ds ++ rest).dropWhile isDigit = rest := by
  have hAll : ∀ c ∈ ds, isDigit c = true := fun c hMem => isDigit_iff.mpr (h.2 c hMem)
  rw [List.takeWhile_append_of_pos hAll, List.dropWhile_append_of_pos hAll]
  cases rest with
  | nil => exact ⟨List.append_nil ds, rfl⟩
  | cons c more =>
    have hStop : isDigit c = false := hRest c rfl
    rw [List.takeWhile_cons_of_neg (by simp [hStop]), List.dropWhile_cons_of_neg (by simp [hStop])]
    exact ⟨List.append_nil ds, rfl⟩

theorem not_digit_head {rest : List Char} (h : ∀ c ∈ rest.head?, isDigit c = false) :
    ¬ (rest.head?.map isDigit).getD false = true := by
  cases hHead : rest.head? with
  | none => exact Bool.false_ne_true
  | some c => simpa using h c hHead

theorem head?_noDigit {rest : List Char} (h : EndsNumber rest) :
    ∀ c ∈ rest.head?, isDigit c = false := fun c hMem => (h c hMem).1

theorem IsDigits.head_eq {ds : List Char} (h : IsDigits ds) : ∃ d more, ds = d :: more ∧
    isDigit d = true := by
  cases ds with
  | nil => exact absurd rfl h.1
  | cons d more => exact ⟨d, more, rfl, isDigit_iff.mpr (h.2 d List.mem_cons_self)⟩

/-- The literal with an exponent of these digits. -/
def shifted (l : Decimal.Literal) (minus : Bool) (ds : List Char) : Decimal.Literal :=
  let shift := ds.foldl (fun n d => min Decimal.Literal.farShift (10 * n + digitValue d)) 0
  { l with exponent := if minus then l.exponent - shift else l.exponent + shift }

theorem scanExponent_of_sign {cs ds rest : List Char} {minus : Bool}
    (hSign : (match cs with
      | '-' :: rest => (true, rest)
      | '+' :: rest => (false, rest)
      | _ => (false, cs)) = (minus, ds ++ rest))
    (h : IsDigits ds) (hEnds : EndsNumber rest) (negative : Bool) (l : Decimal.Literal) :
    scanExponent negative l cs = (decimalToken negative (shifted l minus ds), rest) := by
  obtain ⟨hTake, hDrop⟩ := takeWhile_digits h (head?_noDigit hEnds)
  have hNotEmpty : ¬ ds.isEmpty = true := by simpa using h.1
  unfold scanExponent
  split
  next minus' body hBody =>
  have hSame : (minus', body) = (minus, ds ++ rest) := hBody.symm.trans hSign
  obtain ⟨rfl, rfl⟩ := Prod.mk.inj hSame
  dsimp only
  rw [hTake, hDrop, if_neg hNotEmpty]
  rfl

/-- The digits of an exponent are read whatever its sign. -/
theorem scanExponent_digits {ds : List Char} (h : IsDigits ds) {sign : List Char}
    (hSign : sign = [] ∨ sign = ['+'] ∨ sign = ['-']) (negative : Bool) (l : Decimal.Literal) :
    ∃ l', ∀ rest, EndsNumber rest →
      scanExponent negative l (sign ++ ds ++ rest) = (decimalToken negative l', rest) := by
  rcases hSign with rfl | rfl | rfl
  · refine ⟨shifted l false ds, fun rest hEnds => scanExponent_of_sign ?_ h hEnds negative l⟩
    obtain ⟨d, more, rfl, hDigit⟩ := IsDigits.head_eq h
    split
    · next heq =>
      obtain rfl := (List.cons.inj heq).1
      exact nomatch hDigit
    · next heq =>
      obtain rfl := (List.cons.inj heq).1
      exact nomatch hDigit
    · rfl
  · exact ⟨shifted l false ds, fun rest hEnds => scanExponent_of_sign rfl h hEnds negative l⟩
  · exact ⟨shifted l true ds, fun rest hEnds => scanExponent_of_sign rfl h hEnds negative l⟩

/-- An exponent is read, or there is none and the literal ends. -/
theorem scanExponent_cases {exponent : List Char} (h : IsExponent exponent) (negative : Bool)
    (l : Decimal.Literal) :
    exponent = [] ∨ ∃ mark digits l', exponent = mark :: digits ∧ (mark = 'e' ∨ mark = 'E') ∧
      ∀ rest, EndsNumber rest →
        scanExponent negative l (digits ++ rest) = (decimalToken negative l', rest) := by
  cases h with
  | none => exact Or.inl rfl
  | @some mark sign ds hMark hSign hDigits =>
    obtain ⟨l', hScan⟩ := scanExponent_digits hDigits hSign negative l
    exact Or.inr ⟨mark, sign ++ ds, l', rfl, hMark, hScan⟩

/-- The digits of a fraction are read, and the exponent behind them. -/
theorem scanFraction_digits {ds exponent : List Char} (h : IsDigits ds)
    (hExponent : IsExponent exponent) (negative : Bool) (l : Decimal.Literal) :
    ∃ l', ∀ rest, EndsNumber rest →
      scanFraction negative l (ds ++ exponent ++ rest) = (decimalToken negative l', rest) := by
  let read := ds.foldl (fun l d => l.fraction (digitValue d)) l.point
  have hNotEmpty : ds.isEmpty = false := by simpa using h.1
  rcases scanExponent_cases hExponent negative read with rfl | ⟨mark, digits, l', rfl, hMark, hScan⟩
  · refine ⟨read, fun rest hEnds => ?_⟩
    obtain ⟨hTake, hDrop⟩ := takeWhile_digits h (head?_noDigit hEnds)
    unfold scanFraction
    rw [List.append_nil, hTake, hDrop]
    dsimp only
    rw [hNotEmpty, if_neg Bool.false_ne_true]
    split
    · exact absurd rfl (hEnds 'e' rfl).2.2.1
    · exact absurd rfl (hEnds 'E' rfl).2.2.2
    · rfl
  · refine ⟨l', fun rest hEnds => ?_⟩
    have hStop : ∀ c ∈ (mark :: digits ++ rest).head?, isDigit c = false := by
      intro c hMem
      obtain rfl : mark = c := Option.some.inj hMem
      rcases hMark with rfl | rfl <;> decide
    obtain ⟨hTake, hDrop⟩ := takeWhile_digits h hStop
    unfold scanFraction
    rw [List.append_assoc, hTake, hDrop]
    dsimp only [List.cons_append]
    rw [hNotEmpty, if_neg Bool.false_ne_true]
    rcases hMark with rfl | rfl
    · exact hScan rest hEnds
    · exact hScan rest hEnds

/-- Where a number ends after its whole part, its value is that of the part. -/
theorem scanAfterWhole_end {rest : List Char} (hEnds : EndsNumber rest) (negative : Bool)
    (l : Decimal.Literal) :
    scanAfterWhole negative l rest =
      (.number
        (match Number.ofWhole? negative l with
          | some x => .ok x
          | none => .error .numberTooLarge)
        (.ok ()), rest) := by
  unfold scanAfterWhole
  split
  · exact absurd rfl (hEnds '.' rfl).2.1
  · exact absurd rfl (hEnds 'e' rfl).2.2.1
  · exact absurd rfl (hEnds 'E' rfl).2.2.2
  · rfl

/-- What follows the whole part of a number is read to its end. -/
theorem scanAfterWhole_number {fraction exponent : List Char} (hFraction : IsFraction fraction)
    (hExponent : IsExponent exponent) (negative : Bool) (l : Decimal.Literal) :
    ∃ strict, ∀ rest, EndsNumber rest →
      scanAfterWhole negative l (fraction ++ exponent ++ rest) =
        (.number strict (.ok ()), rest) := by
  cases hFraction with
  | some hDigits =>
    obtain ⟨l', hScan⟩ := scanFraction_digits hDigits hExponent negative l
    exact ⟨_, fun rest hEnds => hScan rest hEnds⟩
  | none =>
    rcases scanExponent_cases hExponent negative l with
      rfl | ⟨mark, digits, l', rfl, hMark, hScan⟩
    · exact ⟨_, fun rest hEnds => scanAfterWhole_end hEnds negative l⟩
    · rcases hMark with rfl | rfl
      · exact ⟨_, fun rest hEnds => hScan rest hEnds⟩
      · exact ⟨_, fun rest hEnds => hScan rest hEnds⟩

/-- What follows the whole part of a number does not begin with a digit. -/
theorem noDigit_afterWhole {fraction exponent rest : List Char} (hFraction : IsFraction fraction)
    (hExponent : IsExponent exponent) (hEnds : EndsNumber rest) :
    ∀ c ∈ (fraction ++ exponent ++ rest).head?, isDigit c = false := by
  intro c hMem
  cases hFraction with
  | some =>
    obtain rfl : '.' = c := Option.some.inj hMem
    rfl
  | none =>
    cases hExponent with
    | none => exact (hEnds c hMem).1
    | some hMark =>
      obtain rfl := Option.some.inj hMem
      rcases hMark with rfl | rfl <;> rfl

/-- A number is read to its end. -/
theorem scanNumber_number {whole fraction exponent : List Char} (hWhole : IsWhole whole)
    (hFraction : IsFraction fraction) (hExponent : IsExponent exponent) (negative : Bool) :
    ∃ strict, ∀ rest, EndsNumber rest →
      scanNumber negative (whole ++ (fraction ++ exponent) ++ rest) =
        (.number strict (.ok ()), rest) := by
  cases hWhole with
  | zero =>
    obtain ⟨strict, hScan⟩ := scanAfterWhole_number hFraction hExponent negative {}
    refine ⟨strict, fun rest hEnds => ?_⟩
    have hStop := noDigit_afterWhole hFraction hExponent hEnds
    show (if ((fraction ++ exponent ++ rest).head?.map isDigit).getD false = true then _
      else scanAfterWhole negative {} (fraction ++ exponent ++ rest)) = _
    rw [if_neg (not_digit_head hStop)]
    exact hScan rest hEnds
  | @other d ds hDigits hLead =>
    obtain ⟨strict, hScan⟩ := scanAfterWhole_number hFraction hExponent negative
      ((d :: ds).foldl (fun l d => l.whole (digitValue d)) {})
    refine ⟨strict, fun rest hEnds => ?_⟩
    obtain ⟨hTake, hDrop⟩ :=
      takeWhile_digits hDigits (noDigit_afterWhole hFraction hExponent hEnds)
    rw [List.append_assoc]
    unfold scanNumber
    split
    · next heq => exact absurd (List.cons.inj heq).1 hLead
    · dsimp only
      rw [hTake, hDrop, if_neg (by simp), hScan rest hEnds]

/-- A digit begins a number. -/
theorem scan_digit {d : Char} (h : isDigit d = true) (rest : List Char) :
    scan (d :: rest) =
      (scanNumber false (d :: rest)).1 :: scan (scanNumber false (d :: rest)).2 := by
  have hGap : isGap d = false := by
    rw [Bool.eq_false_iff]
    intro hBlank
    simp only [isGap, Bool.or_eq_true, beq_iff_eq] at hBlank
    rcases hBlank with ((rfl | rfl) | rfl) | rfl <;> exact absurd h (by decide)
  have hToken : scanToken d rest = scanNumber false (d :: rest) := by
    unfold scanToken
    split
    all_goals first | exact absurd h (by decide) | exact if_pos h
  rw [scan_cons hGap, hToken]

theorem IsWhole.head_eq {whole : List Char} (h : IsWhole whole) : ∃ d ds, whole = d :: ds ∧
    isDigit d = true := by
  cases h with
  | zero => exact ⟨'0', [], rfl, rfl⟩
  | other hDigits => exact IsDigits.head_eq hDigits

/-- A number of any size is one token that may be passed over. -/
theorem scans_number {cs : List Char} (h : IsNumber cs) :
    ∃ strict, Scans cs [.number strict (.ok ())] := by
  obtain ⟨hSign, hWhole, hFraction, hExponent⟩ := h
  rename_i sign whole fraction exponent
  rcases hSign with rfl | rfl
  · obtain ⟨strict, hScan⟩ := scanNumber_number hWhole hFraction hExponent false
    refine ⟨strict, fun rest hEnds => ?_⟩
    have hRead := hScan rest hEnds
    obtain ⟨d, ds, rfl, hDigit⟩ := IsWhole.head_eq hWhole
    show scan (d :: (ds ++ (fraction ++ exponent) ++ rest)) = _
    rw [scan_digit hDigit]
    show (scanNumber false (d :: ds ++ (fraction ++ exponent) ++ rest)).1 ::
      scan (scanNumber false (d :: ds ++ (fraction ++ exponent) ++ rest)).2 = _
    rw [hRead]
    rfl
  · obtain ⟨strict, hScan⟩ := scanNumber_number hWhole hFraction hExponent true
    refine ⟨strict, fun rest hEnds => ?_⟩
    show scan ('-' :: (whole ++ (fraction ++ exponent) ++ rest)) = _
    rw [scan_cons (by decide)]
    show (scanNumber true (whole ++ (fraction ++ exponent) ++ rest)).1 ::
      scan (scanNumber true (whole ++ (fraction ++ exponent) ++ rest)).2 = _
    rw [hScan rest hEnds]
    rfl

/-! ## Printed integers -/

/-- The digits of a number that fits a 64-bit word are all kept. -/
theorem foldl_whole_digits (n : Nat) (h : n < Text.word64) :
    (Text.digits n).foldl (fun l d => l.whole (digitValue d)) ({} : Decimal.Literal) =
      { digits := n } := by
  have hValue : ∀ d < 10, digitValue (Nat.digitChar d) = d := by decide
  induction n using Nat.strongRecOn with
  | _ n ih =>
    by_cases hSmall : n < 10
    · rw [Text.digits_of_lt hSmall, List.foldl_cons, List.foldl_nil, hValue n hSmall]
      unfold Decimal.Literal.whole Decimal.Literal.fits
      simp [h]
    · have hMod : n % 10 < 10 := Nat.mod_lt _ (by omega)
      have hSum : 10 * (n / 10) + n % 10 = n := Nat.div_add_mod n 10
      rw [Text.digits_eq_append (by omega), List.foldl_append, ih (n / 10) (by omega) (by omega),
        List.foldl_cons, List.foldl_nil, hValue _ hMod]
      unfold Decimal.Literal.whole Decimal.Literal.fits
      simp [hSum, h]

theorem isDigits_digits (n : Nat) : IsDigits (Text.digits n) := by
  refine ⟨Text.digits_ne_nil n, ?_⟩
  have hDigit : ∀ d < 10, '0' ≤ Nat.digitChar d ∧ Nat.digitChar d ≤ '9' := by decide
  induction n using Nat.strongRecOn with
  | _ n ih =>
    intro c hMem
    by_cases hSmall : n < 10
    · rw [Text.digits_of_lt hSmall] at hMem
      obtain rfl := List.mem_singleton.mp hMem
      exact hDigit n hSmall
    · rw [Text.digits_eq_append (by omega)] at hMem
      rcases List.mem_append.mp hMem with hEarly | hLast
      · exact ih (n / 10) (by omega) c hEarly
      · obtain rfl := List.mem_singleton.mp hLast
        exact hDigit _ (Nat.mod_lt _ (by omega))

/-- The digits of a positive number do not begin with a zero. -/
theorem digits_eq_cons {n : Nat} (h : 0 < n) : ∃ d ds, Text.digits n = d :: ds ∧ d ≠ '0' := by
  have hDigit : ∀ d < 10, 0 < d → Nat.digitChar d ≠ '0' := by decide
  induction n using Nat.strongRecOn with
  | _ n ih =>
    by_cases hSmall : n < 10
    · exact ⟨_, [], Text.digits_of_lt hSmall, hDigit n hSmall h⟩
    · obtain ⟨d, ds, hFront, hLead⟩ := ih (n / 10) (by omega) (by omega)
      refine ⟨d, ds ++ [Nat.digitChar (n % 10)], ?_, hLead⟩
      rw [Text.digits_eq_append (by omega), hFront]
      rfl

/-- The digits of a number are read as that number. -/
theorem scanNumber_digits {n : Nat} (h : n < Text.word64) (negative : Bool) {rest : List Char}
    (hEnds : EndsNumber rest) :
    scanNumber negative (Text.digits n ++ rest) =
      scanAfterWhole negative { digits := n } rest := by
  rcases Nat.eq_zero_or_pos n with rfl | hPos
  · show (if (rest.head?.map isDigit).getD false = true then _
      else scanAfterWhole negative {} rest) = _
    exact if_neg (not_digit_head (head?_noDigit hEnds))
  · obtain ⟨d, ds, hDigits, hLead⟩ := digits_eq_cons hPos
    obtain ⟨hTake, hDrop⟩ := takeWhile_digits (isDigits_digits n) (head?_noDigit hEnds)
    have hNotEmpty : ¬ (Text.digits n).isEmpty = true := by simpa using Text.digits_ne_nil n
    unfold scanNumber
    split
    · next heq =>
      rw [hDigits] at heq
      exact absurd (List.cons.inj heq).1 hLead
    · dsimp only
      rw [hTake, hDrop, foldl_whole_digits n h, if_neg hNotEmpty]

/-- A printed integer is read back. -/
theorem scans_integer {i : Int} (hLow : -(Text.half64 : Int) ≤ i) (hHigh : i < Text.word64) :
    Scans (Text.integer i) [.number (.ok (.integer i)) (.ok ())] := by
  intro rest hEnds
  unfold Text.integer
  split
  · next hNegative =>
    have hSize : i.natAbs < Text.word64 := by unfold Text.half64 at hLow; unfold Text.word64; omega
    have hSigned : 0 < i.natAbs ∧ i.natAbs ≤ Text.half64 := by omega
    have hWhole : Number.ofWhole? true { digits := i.natAbs } = some (.integer i) := by
      show (if 0 < i.natAbs ∧ i.natAbs ≤ Text.half64 then _ else _) = _
      rw [if_pos hSigned]
      show some (Number.integer (-(i.natAbs : Int))) = _
      congr 2
      omega
    rw [List.cons_append, scan_cons (by decide)]
    show (scanNumber true (Text.digits i.natAbs ++ rest)).1 ::
      scan (scanNumber true (Text.digits i.natAbs ++ rest)).2 = _
    rw [scanNumber_digits hSize true hEnds, scanAfterWhole_end hEnds, hWhole]
    rfl
  · next hNot =>
    have hSize : i.natAbs < Text.word64 := by unfold Text.word64 at hHigh ⊢; omega
    have hWhole : Number.ofWhole? false { digits := i.natAbs } = some (.integer i) := by
      show some (Number.integer (i.natAbs : Int)) = _
      congr 2
      omega
    obtain ⟨d, ds, hDigits, hDigit⟩ := IsDigits.head_eq (isDigits_digits i.natAbs)
    have hRead := scanNumber_digits hSize false hEnds
    rw [hDigits] at hRead ⊢
    rw [List.cons_append, scan_digit hDigit]
    show (scanNumber false (d :: ds ++ rest)).1 :: scan (scanNumber false (d :: ds ++ rest)).2 = _
    rw [hRead, scanAfterWhole_end hEnds, hWhole]
    rfl

end DevicePower.Json
