import DevicePower.Caller

/-!
# A connection belongs to one caller

Sessions are kept by the name of their connection and not by their caller. This is harmless because
a connection's name tells its caller: its last dash stands before the token, since the digits of the
token have none, and each of the two parts is the printed form of one number only.

## Main results

* `integer_inj`: a number is told by its printed form.
* `connectId_inj`: a caller is told by its connection.
-/

namespace DevicePower

namespace Text

/-- What is read as a number consists of digits. -/
theorem digitValue?_of_mem {c : Char} {s : List Char} (hMem : c ∈ s) :
    ∀ {acc n : Nat}, digitsFrom? acc s = some n → ∃ d, digitValue? c = some d := by
  induction s with
  | nil => exact absurd hMem List.not_mem_nil
  | cons first rest ih =>
    intro acc n hRead
    obtain ⟨d, hDigit, hRest⟩ := Option.bind_eq_some_iff.mp hRead
    rcases List.mem_cons.mp hMem with rfl | hLater
    · exact ⟨d, hDigit⟩
    · exact ih hLater hRest

theorem dash_notMem_digits (n : Nat) : '-' ∉ digits n := by
  intro hMem
  obtain ⟨d, hDigit⟩ := digitValue?_of_mem hMem (digitsFrom?_digits n)
  exact nomatch hDigit

theorem digits_inj {m n : Nat} (h : digits m = digits n) : m = n := by
  have hRead : digitsValue? (digits n) = some m := h ▸ digitsValue?_digits m
  exact Option.some.inj (hRead.symm.trans (digitsValue?_digits n))

/-- Only the printed form of a negative number has a dash. -/
theorem dash_mem_integer {i : Int} : '-' ∈ integer i ↔ i < 0 := by
  unfold integer
  split
  · next hNegative => simp [hNegative]
  · next hNot => exact iff_of_false (dash_notMem_digits _) hNot

/-- A number is told by its printed form. -/
theorem integer_inj {i j : Int} (h : integer i = integer j) : i = j := by
  have hSign : i < 0 ↔ j < 0 := by
    rw [← dash_mem_integer, ← dash_mem_integer, h]
  unfold integer at h
  by_cases hNegative : i < 0
  · rw [if_pos hNegative, if_pos (hSign.mp hNegative)] at h
    have hSize : i.natAbs = j.natAbs := digits_inj (List.tail_eq_of_cons_eq h)
    omega
  · rw [if_neg hNegative, if_neg fun hOther => hNegative (hSign.mpr hOther)] at h
    have hSize : i.natAbs = j.natAbs := digits_inj h
    omega

end Text

namespace Caller

/-- The name of a connection is taken apart into the numbers of its caller. -/
theorem splitLast_connectChars (c : Caller) :
    ConnectId.splitLast '-' c.connectChars =
      some (Text.integer c.pid.toInt, Text.digits c.token.toNat) :=
  ConnectId.splitLast_append _ (Text.dash_notMem_digits _)

example : ConnectId.splitLast '-' (connectChars ⟨-1, 2⟩) = some (['-', '1'], ['2']) := by decide

/-- A caller is told by its connection. -/
theorem connectId_inj {c d : Caller} (h : c.connectId = d.connectId) : c = d := by
  have hChars : c.connectChars = d.connectChars := String.ofList_injective h
  have hParts := (splitLast_connectChars c).symm.trans (hChars ▸ splitLast_connectChars d)
  obtain ⟨hPid, hToken⟩ := Prod.mk.inj (Option.some.inj hParts)
  have hSamePid : c.pid = d.pid := Int32.toInt_inj.mp (Text.integer_inj hPid)
  have hSameToken : c.token = d.token := UInt32.toNat_inj.mp (Text.digits_inj hToken)
  cases c
  cases d
  cases hSamePid
  cases hSameToken
  rfl

end Caller

end DevicePower
