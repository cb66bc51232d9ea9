import DevicePower.Proofs.Json.Number

/-!
# A document on one line

A document that is printed on one line has no control character in it, whatever texts and numbers it
holds: texts are escaped, and numbers are made of digits, signs, a point and a letter. So it has no
line break.

## Main results

* `noControl_text`: a printed double has no control character.
* `noControl_print`, `newline_notMem_print`: nor has a document.
-/

namespace DevicePower

namespace Text

/-- Whether no character of a text is an ASCII control character but for the last one, `DEL`. -/
def NoControl (cs : List Char) : Prop := ∀ c ∈ cs, 0x20 ≤ c.toNat

@[simp] theorem noControl_nil : NoControl [] := nofun

@[simp] theorem noControl_cons {c : Char} {cs : List Char} :
    NoControl (c :: cs) ↔ 0x20 ≤ c.toNat ∧ NoControl cs := List.forall_mem_cons

@[simp] theorem noControl_append {cs more : List Char} :
    NoControl (cs ++ more) ↔ NoControl cs ∧ NoControl more := List.forall_mem_append

theorem NoControl.newline_notMem {cs : List Char} (h : NoControl cs) : '\n' ∉ cs := fun hMem =>
  absurd (h '\n' hMem) (by decide)

/-! ## Numbers -/

theorem noControl_digits (n : Nat) : NoControl (digits n) := fun c hMem =>
  Nat.le_trans (by decide : 0x20 ≤ '0'.toNat) ((Json.isDigits_digits n).2 c hMem).1

theorem noControl_integer (i : Int) : NoControl (integer i) := by
  unfold integer
  split
  · exact noControl_cons.mpr ⟨by decide, noControl_digits _⟩
  · exact noControl_digits _

theorem noControl_zeros (n : Nat) : NoControl (List.replicate n '0') := by
  intro c hMem
  obtain rfl := List.eq_of_mem_replicate hMem
  decide

end Text

open Text

namespace Decimal

theorem noControl_exponentPart (e : Int) : NoControl (exponentPart e) := by
  unfold exponentPart
  refine noControl_cons.mpr ⟨by decide, noControl_cons.mpr ⟨?_, noControl_digits _⟩⟩
  split <;> decide

theorem noControl_layout {ds : List Char} (h : NoControl ds) (e : Int) :
    NoControl (layout ds e) := by
  have hPart := noControl_exponentPart e
  unfold layout
  split
  · split
    · simp [h, noControl_zeros]
    · dsimp only
      split
      · simp [h, noControl_zeros]
      · have hTake : NoControl (ds.take (e.toNat + 1)) := fun c hMem =>
          h c (List.mem_of_mem_take hMem)
        have hDrop : NoControl (ds.drop (e.toNat + 1)) := fun c hMem =>
          h c (List.mem_of_mem_drop hMem)
        simp [hTake, hDrop]
  · split
    · exact noControl_nil
    · exact noControl_cons.mpr ⟨(noControl_cons.mp h).1, hPart⟩
    · obtain ⟨hHead, hRest⟩ := noControl_cons.mp h
      simp [hHead, hRest, hPart]

/-- A printed double has no control character. -/
theorem noControl_text (x : Binary64) : NoControl x.text := by
  have hSize : NoControl (if x.m = 0 then ['0', '.', '0']
      else layout (digits x.shortest.digits)
        (x.shortest.exponent + ((digits x.shortest.digits).length : Int) - 1)) := by
    split
    · simp
    · exact noControl_layout (noControl_digits _) _
  unfold Binary64.text
  dsimp only
  split
  · exact noControl_cons.mpr ⟨by decide, hSize⟩
  · exact hSize

end Decimal

/-! ## Documents -/

namespace Json

theorem noControl_escape (c : Char) : NoControl (escape c) := by
  have hDigit : ∀ n, n < 16 → 0x20 ≤ (hexDigit n).toNat := by decide
  unfold escape
  repeat' split
  all_goals try simp
  · exact ⟨hDigit _ (by omega), hDigit _ (by omega)⟩
  · omega

theorem noControl_printText (s : String) : NoControl (printText s) := by
  have hBody : NoControl (s.toList.flatMap escape) := by
    intro c hMem
    obtain ⟨other, -, hEscape⟩ := List.mem_flatMap.mp hMem
    exact noControl_escape other c hEscape
  simp [printText, hBody]

theorem noControl_printNumber (n : Number) : NoControl (printNumber n) := by
  cases n with
  | integer i => exact noControl_integer i
  | double x => exact Decimal.noControl_text x

mutual

/-- A document on one line has no control character. -/
theorem noControl_print : ∀ v : Value, NoControl (print v)
  | .null => by rw [print]; simp
  | .bool true => by rw [print]; simp
  | .bool false => by rw [print]; simp
  | .number n => by rw [print]; exact noControl_printNumber n
  | .text s => by rw [print]; exact noControl_printText s
  | .list xs => by
    rw [print]
    simp [noControl_printItems xs]
  | .object ms => by
    rw [print]
    simp [noControl_printMembers ms]

theorem noControl_printItems : ∀ xs : List Value, NoControl (printItems xs)
  | [] => by rw [printItems]; exact noControl_nil
  | [x] => by rw [printItems]; exact noControl_print x
  | x :: y :: rest => by
    rw [printItems]
    simp [noControl_print x, noControl_printItems (y :: rest)]

theorem noControl_printMembers : ∀ ms : List (String × Value), NoControl (printMembers ms)
  | [] => by rw [printMembers]; exact noControl_nil
  | [(name, x)] => by
    rw [printMembers]
    simp [noControl_printText name, noControl_print x]
  | (name, x) :: y :: rest => by
    rw [printMembers]
    simp [noControl_printText name, noControl_print x, noControl_printMembers (y :: rest)]

end

/-- A document on one line has no line break. -/
theorem newline_notMem_print (v : Value) : '\n' ∉ print v := (noControl_print v).newline_notMem

end Json

end DevicePower
