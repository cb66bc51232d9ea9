import DevicePower.Text.Unprintable

/-!
# Text shown in quotes

A text that is shown inside a message or a debug line stands between double quotes, with a
backslash before quotes and backslashes, letters for the common controls, and the code point in
braces for every other character that would disturb the line.

## Main results

* `newline_notMem_quoteChar`: no line break is left in a quoted text.
-/

namespace DevicePower.Text

/-- A number in lower-case hexadecimal digits. -/
def hexDigits (n : Nat) : List Char := Nat.toDigits 16 n

/-- A character as it is written between quotes. -/
def quoteChar (c : Char) : List Char :=
  if c = '"' then ['\\', '"']
  else if c = '\\' then ['\\', '\\']
  else if c = '\n' then ['\\', 'n']
  else if c = '\r' then ['\\', 'r']
  else if c = '\t' then ['\\', 't']
  else if c.toNat = 0 then ['\\', '0']
  else if isUnprintable c then ['\\', 'u', '{'] ++ hexDigits c.toNat ++ ['}']
  else [c]

/-- A text between quotes. -/
def quoted (s : String) : String :=
  String.ofList ('"' :: s.toList.flatMap quoteChar ++ ['"'])

theorem digitChar_ne_newline (d : Nat) : Nat.digitChar d ≠ '\n' := by
  rcases Nat.lt_or_ge d 16 with h | h
  · exact (by decide : ∀ n < 16, Nat.digitChar n ≠ '\n') d h
  · have hStar : Nat.digitChar d = '*' := by
      unfold Nat.digitChar
      repeat rw [if_neg (by omega)]
    simp [hStar]

theorem newline_notMem_hexDigits (n : Nat) : '\n' ∉ hexDigits n := by
  induction n using Nat.strongRecOn with
  | _ n ih =>
    rw [hexDigits, Nat.toDigits_eq_if (by omega)]
    split
    · simp [(digitChar_ne_newline n).symm]
    · next h =>
      simp only [List.mem_append, List.mem_singleton, not_or]
      exact ⟨ih (n / 16) (by omega), (digitChar_ne_newline _).symm⟩

/-- No line break is left in a quoted text. -/
theorem newline_notMem_quoteChar (c : Char) : '\n' ∉ quoteChar c := by
  unfold quoteChar
  by_cases hLine : c = '\n'
  · subst hLine; decide
  · have hOther : '\n' ≠ c := Ne.symm hLine
    repeat' split
    all_goals simp [newline_notMem_hexDigits, hOther]

end DevicePower.Text
