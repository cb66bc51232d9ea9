/-!
# Hexadecimal digits

Bytes are shown as two digits each, in lower case. Digits are read in either case.

## Main results

* `hexBytes?_hexPairs`: shown bytes are read back.
-/

namespace DevicePower.Text

/-- A hexadecimal digit in lower case. -/
def hexDigit (n : Nat) : Char := Nat.digitChar n

/-- The value of a hexadecimal digit. -/
def hexValue? (c : Char) : Option Nat :=
  if '0' ≤ c ∧ c ≤ '9' then some (c.toNat - '0'.toNat)
  else if 'a' ≤ c ∧ c ≤ 'f' then some (c.toNat - 'a'.toNat + 10)
  else if 'A' ≤ c ∧ c ≤ 'F' then some (c.toNat - 'A'.toNat + 10)
  else none

/-- The two digits of a byte. -/
def hexPair (b : UInt8) : List Char := [hexDigit (b.toNat / 16), hexDigit (b.toNat % 16)]

/-- The digits of bytes. -/
def hexPairs (bytes : List UInt8) : List Char := bytes.flatMap hexPair

/-- The bytes that digits stand for, two for each. -/
def hexBytes? : List Char → Option (List UInt8)
  | [] => some []
  | [_] => none
  | a :: b :: rest => do
    let high ← hexValue? a
    let low ← hexValue? b
    return UInt8.ofNat (16 * high + low) :: (← hexBytes? rest)

theorem hexValue?_hexDigit {n : Nat} (h : n < 16) : hexValue? (hexDigit n) = some n :=
  (by decide : ∀ n < 16, hexValue? (hexDigit n) = some n) n h

/-- Shown bytes are read back. -/
theorem hexBytes?_hexPairs (bytes : List UInt8) : hexBytes? (hexPairs bytes) = some bytes := by
  induction bytes with
  | nil => rfl
  | cons b rest ih =>
    have hByte := b.toNat_lt
    have hHigh : b.toNat / 16 < 16 := by omega
    have hLow : b.toNat % 16 < 16 := Nat.mod_lt _ (by decide)
    have hSum : UInt8.ofNat (16 * (b.toNat / 16) + b.toNat % 16) = b := by
      rw [Nat.div_add_mod, UInt8.ofNat_toNat]
    rw [hexPairs, List.flatMap_cons]
    show hexBytes? (hexDigit (b.toNat / 16) :: hexDigit (b.toNat % 16) :: hexPairs rest) = _
    rw [hexBytes?, hexValue?_hexDigit hHigh, hexValue?_hexDigit hLow, ih]
    exact congrArg (fun first => some (first :: rest)) hSum

end DevicePower.Text
