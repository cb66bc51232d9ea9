/-!
# Whole numbers as text

Whole numbers are printed with no sign unless they are negative and with no leading zeros. They are
read more freely: a `+` may stand in front, zeros may lead, and the value must lie in the range that
the place asks for. A minus sign is read only where negative numbers make sense.

## Main results

* `digitsValue?_digits`: the printed digits of a number are read back as that number.
-/

namespace DevicePower.Text

/-- The value of an ASCII digit. -/
def digitValue? (c : Char) : Option Nat :=
  if '0' ≤ c ∧ c ≤ '9' then some (c.toNat - '0'.toNat) else none

/-- The value of the digits `s` written after a number `acc`. -/
def digitsFrom? (acc : Nat) : List Char → Option Nat
  | [] => some acc
  | c :: rest => (digitValue? c).bind fun d => digitsFrom? (10 * acc + d) rest

/-- The value of a non-empty run of digits. -/
def digitsValue? : List Char → Option Nat
  | [] => none
  | s => digitsFrom? 0 s

/-- The digits of a number, most significant first. -/
def digits (n : Nat) : List Char := Nat.toDigits 10 n

/-- A number below `bound` as text, with an optional `+` in front. -/
def unsigned? (bound : Nat) (s : List Char) : Option Nat :=
  let body := match s with
    | '+' :: rest => rest
    | _ => s
  (digitsValue? body).filter (· < bound)

/-- A number from `-half` up to and without `half` as text, with an optional sign in front. -/
def signed? (half : Nat) : List Char → Option Int
  | '-' :: rest => ((digitsValue? rest).filter (· ≤ half)).map fun n => -(n : Int)
  | s => (unsigned? half s).map Int.ofNat

/-- The printed form of a whole number: its digits, after a minus sign if it is negative. -/
def integer (i : Int) : List Char :=
  if i < 0 then '-' :: digits i.natAbs else digits i.natAbs

/-- The printed form of a whole number, as a string. -/
def integerText (i : Int) : String := String.ofList (integer i)

/-- The printed form of a natural number, as a string. -/
def naturalText (n : Nat) : String := String.ofList (digits n)

/-- The bounds of the words that numbers are kept in. -/
def word32 : Nat := 0x100000000

/-- The bound of a 64-bit word. -/
def word64 : Nat := 0x10000000000000000

/-- The bound on the size of a signed 32-bit number. -/
def half32 : Nat := 0x80000000

/-- The bound on the size of a signed 64-bit number. -/
def half64 : Nat := 0x8000000000000000

/-! ## Reading back what was printed -/

theorem digitsFrom?_append (acc : Nat) (s t : List Char) :
    digitsFrom? acc (s ++ t) = (digitsFrom? acc s).bind fun n => digitsFrom? n t := by
  induction s generalizing acc with
  | nil => rfl
  | cons c rest ih =>
    simp only [List.cons_append, digitsFrom?]
    cases digitValue? c with
    | none => rfl
    | some d => exact ih _

theorem digitValue?_digitChar {d : Nat} (h : d < 10) : digitValue? (Nat.digitChar d) = some d := by
  match d, h with
  | 0, _ | 1, _ | 2, _ | 3, _ | 4, _ | 5, _ | 6, _ | 7, _ | 8, _ | 9, _ => rfl

theorem digits_of_lt {n : Nat} (h : n < 10) : digits n = [Nat.digitChar n] :=
  Nat.toDigits_of_lt_base h

theorem digits_eq_append {n : Nat} (h : 10 ≤ n) :
    digits n = digits (n / 10) ++ [Nat.digitChar (n % 10)] :=
  by simpa [digits, Nat.not_lt.mpr h] using Nat.toDigits_eq_if (b := 10) (n := n) (by omega)

theorem digitsFrom?_digits (n : Nat) : digitsFrom? 0 (digits n) = some n := by
  induction n using Nat.strongRecOn with
  | _ n ih =>
    by_cases h : n < 10
    · simp [digits_of_lt h, digitsFrom?, digitValue?_digitChar h]
    · have hMod : n % 10 < 10 := Nat.mod_lt _ (by omega)
      rw [digits_eq_append (by omega), digitsFrom?_append, ih (n / 10) (by omega)]
      simp only [Option.bind_some, digitsFrom?, digitValue?_digitChar hMod]
      congr 1
      omega

theorem digits_ne_nil (n : Nat) : digits n ≠ [] := by
  by_cases h : n < 10
  · simp [digits_of_lt h]
  · simp [digits_eq_append (Nat.le_of_not_lt h)]

/-- The printed digits of a number are read back as that number. -/
theorem digitsValue?_digits (n : Nat) : digitsValue? (digits n) = some n := by
  cases hDigits : digits n with
  | nil => exact absurd hDigits (digits_ne_nil n)
  | cons c rest =>
    show digitsFrom? 0 (c :: rest) = some n
    rw [← hDigits]
    exact digitsFrom?_digits n

end DevicePower.Text
