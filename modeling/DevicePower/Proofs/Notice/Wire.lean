import DevicePower.Notice.Parcel
import DevicePower.Proofs.Text.Utf8

/-!
# Fields are read back

What has been written to a parcel is read from it again. A read looks at the unread bytes only, so
each lemma says: if these begin with the bytes of a field, the field is read and the cursor stands
behind it. What comes before the cursor and what follows the field do not matter.

## Main results

* `readInt_of_unread`, `readText_of_unread`: a number and a text are read back.
* `readText_ok`: a text that is read had been written there, and is short enough.
* `Reply.read_write`: a reply that is written behind other bytes is read back, and nothing is left.
-/

namespace DevicePower.Notice

namespace Parcel

/-- The parcel with more bytes read. -/
def advance (p : Parcel) (n : Nat) : Parcel := { p with cursor := p.cursor + n }

theorem remaining_eq (p : Parcel) : p.remaining = p.unread.length := by
  unfold remaining unread
  rw [List.length_drop]

theorem unread_advance (p : Parcel) (n : Nat) : (p.advance n).unread = p.unread.drop n := by
  unfold unread advance
  rw [List.drop_drop]

theorem advance_advance (p : Parcel) (m n : Nat) :
    (p.advance m).advance n = p.advance (m + n) := by
  unfold advance
  rw [Nat.add_assoc]

variable {p : Parcel} {bytes rest : List UInt8}

/-- The bytes behind a field that has been read. -/
theorem unread_advance_of_append (h : p.unread = bytes ++ rest) :
    (p.advance bytes.length).unread = rest := by
  rw [unread_advance, h, List.drop_left]

theorem take_of_unread (what : String) (h : p.unread = bytes ++ rest) :
    p.take bytes.length what = (.ok bytes, p.advance bytes.length) := by
  have hEnough : ¬ p.remaining < bytes.length := by
    rw [remaining_eq, h, List.length_append]
    omega
  unfold take advance
  rw [if_neg hEnough, h, List.take_left]

/-- A number below `2 ^ 32` is read back. -/
theorem readWord_of_unread {n : Nat} (hWord : n < Text.word32)
    (h : p.unread = wordBytes n ++ rest) : p.readWord = (.ok n, p.advance 4) := by
  have hTake := take_of_unread "i32" h
  rw [length_wordBytes] at hTake
  unfold readWord
  rw [hTake]
  dsimp only
  rw [wordValue_wordBytes, Nat.mod_eq_of_lt hWord]

/-- A signed number is read back. -/
theorem readInt_of_unread {v : Int32} (h : p.unread = intBytes v ++ rest) :
    p.readInt = (.ok v, p.advance 4) := by
  have hWord : v.toUInt32.toNat < Text.word32 := v.toUInt32.toNat_lt
  unfold readInt
  rw [readWord_of_unread hWord h]
  dsimp only
  rw [UInt32.ofNat_toNat, Int32.toInt32_toUInt32]

/-- A text that is not too long is read back. -/
theorem readText_of_unread {s : String} (hSize : (Text.Utf8.bytes s).length ≤ maxTextSize)
    (h : p.unread = textBytes s ++ rest) :
    p.readText = (.ok s, p.advance (textBytes s).length) := by
  have hWord : (Text.Utf8.bytes s).length < Text.word32 :=
    Nat.lt_of_le_of_lt hSize (by decide)
  have hParts : p.unread =
      wordBytes (Text.Utf8.bytes s).length ++ (Text.Utf8.bytes s ++ rest) := by
    rw [h]
    unfold textBytes
    rw [List.append_assoc]
  have hBehind : (p.advance 4).unread = Text.Utf8.bytes s ++ rest :=
    unread_advance_of_append hParts
  have hLength : (textBytes s).length = 4 + (Text.Utf8.bytes s).length := by
    unfold textBytes
    rw [List.length_append, length_wordBytes]
  unfold readText
  rw [readWord_of_unread hWord hParts]
  dsimp only
  rw [if_neg (Nat.not_lt.mpr hSize), take_of_unread "string" hBehind]
  dsimp only
  rw [Text.Utf8.decode_bytes, advance_advance, hLength]
  rfl

/-! ### What has been read was there -/

theorem take_ok {n : Nat} {what : String} {q : Parcel} (h : p.take n what = (.ok bytes, q)) :
    p.unread = bytes ++ q.unread ∧ bytes.length = n ∧ q = p.advance n := by
  unfold take at h
  split at h
  · exact nomatch (Prod.mk.inj h).1
  · next hEnough =>
    obtain ⟨hBytes, hRest⟩ := Prod.mk.inj h
    have hAdvance : q = p.advance n := hRest.symm
    obtain rfl : p.unread.take n = bytes := Except.ok.inj hBytes
    rw [remaining_eq] at hEnough
    refine ⟨?_, ?_, hAdvance⟩
    · rw [hAdvance, unread_advance, List.take_append_drop]
    · rw [List.length_take]
      omega

/-- Four bytes are those of the number that they stand for. -/
theorem wordBytes_wordValue (h : bytes.length = 4) : wordBytes (wordValue bytes) = bytes := by
  match bytes, h with
  | [a, b, c, d], _ =>
    have hA := a.toNat_lt
    have hB := b.toNat_lt
    have hC := c.toNat_lt
    have hD := d.toNat_lt
    simp only [wordBytes, wordValue, List.cons.injEq, ← UInt8.toNat_inj, UInt8.toNat_ofNat',
      and_true]
    omega

/-- The higher bits of a number make no difference to its bytes. -/
theorem wordBytes_mod (n : Nat) : wordBytes (n % Text.word32) = wordBytes n := by
  rw [← wordValue_wordBytes, wordBytes_wordValue (length_wordBytes n)]

theorem readWord_ok {n : Nat} {q : Parcel} (h : p.readWord = (.ok n, q)) :
    p.unread = wordBytes n ++ q.unread ∧ q = p.advance 4 := by
  unfold readWord at h
  split at h
  · next bytes q' hTake =>
    obtain ⟨hValue, rfl⟩ := Prod.mk.inj h
    obtain ⟨hUnread, hLength, hRest⟩ := take_ok hTake
    obtain rfl : wordValue bytes = n := Except.ok.inj hValue
    rw [wordBytes_wordValue hLength]
    exact ⟨hUnread, hRest⟩
  · exact nomatch (Prod.mk.inj h).1

/-- A text that is read was there with its length, and is not too long. -/
theorem readText_ok {s : String} {q : Parcel} (h : p.readText = (.ok s, q)) :
    p.unread = textBytes s ++ q.unread ∧ (Text.Utf8.bytes s).length ≤ maxTextSize := by
  unfold readText at h
  split at h
  · exact nomatch (Prod.mk.inj h).1
  · next n p' hWord =>
    obtain ⟨hLength, -⟩ := readWord_ok hWord
    split at h
    · exact nomatch (Prod.mk.inj h).1
    · next hShort =>
      split at h
      · exact nomatch (Prod.mk.inj h).1
      · next bytes q' hTake =>
        obtain ⟨hBytes, hSize, -⟩ := take_ok hTake
        obtain ⟨hRead, rfl⟩ := Prod.mk.inj h
        cases hDecode : Text.Utf8.decode bytes with
        | error defect => rw [hDecode] at hRead; exact nomatch hRead
        | ok t =>
          rw [hDecode] at hRead
          obtain rfl : t = s := Except.ok.inj hRead
          have hSame : Text.Utf8.bytes t = bytes := Text.Utf8.bytes_of_decode hDecode
          have hText : textBytes t = wordBytes n ++ bytes := by
            unfold textBytes
            dsimp only
            rw [hSame, hSize]
          rw [hText, hSame, hSize, List.append_assoc, ← hBytes]
          exact ⟨hLength, Nat.le_of_not_lt hShort⟩

/-- Bytes that are added behind a parcel that has been read are what is left to read. -/
theorem unread_append (p : Parcel) (bytes : List UInt8) :
    ({ p.append bytes with cursor := p.data.length }).unread = bytes := by
  unfold unread append
  rw [List.drop_left]

end Parcel

namespace Reply

/-- The bytes of a reply. -/
def bytes (r : Reply) : List UInt8 := Parcel.intBytes r.status ++ Parcel.textBytes r.message

theorem write_eq_append (r : Reply) (p : Parcel) : r.write p = p.append r.bytes := by
  unfold write Parcel.writeInt Parcel.writeText Parcel.append bytes
  rw [List.append_assoc]

theorem read_of_unread {r : Reply} {p : Parcel} {rest : List UInt8}
    (hSize : (Text.Utf8.bytes r.message).length ≤ maxTextSize)
    (h : p.unread = r.bytes ++ rest) : read p = (.ok r, p.advance r.bytes.length) := by
  have hParts : p.unread =
      Parcel.intBytes r.status ++ (Parcel.textBytes r.message ++ rest) := by
    rw [h]
    unfold bytes
    rw [List.append_assoc]
  have hBehind : (p.advance 4).unread = Parcel.textBytes r.message ++ rest :=
    Parcel.unread_advance_of_append hParts
  have hLength : r.bytes.length = 4 + (Parcel.textBytes r.message).length := by
    unfold bytes Parcel.intBytes
    rw [List.length_append, length_wordBytes]
  unfold read
  rw [Parcel.readInt_of_unread hParts]
  dsimp only
  rw [Parcel.readText_of_unread hSize hBehind]
  dsimp only
  rw [Parcel.advance_advance, hLength]

/-- A reply that is written behind other bytes is read back, and nothing is left. -/
theorem read_write (r : Reply) (p : Parcel)
    (hSize : (Text.Utf8.bytes r.message).length ≤ maxTextSize) :
    ∃ q, read { r.write p with cursor := p.data.length } = (.ok r, q) ∧ q.remaining = 0 := by
  have hUnread : ({ r.write p with cursor := p.data.length } : Parcel).unread = r.bytes ++ [] := by
    rw [write_eq_append, Parcel.unread_append, List.append_nil]
  refine ⟨_, read_of_unread hSize hUnread, ?_⟩
  rw [Parcel.remaining_eq, Parcel.unread_advance_of_append hUnread]
  rfl

end Reply

end DevicePower.Notice
