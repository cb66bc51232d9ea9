import DevicePower.Proofs.Notice.Decoding

/-!
# Texts whose length is cut

A text is written with its length as a number of four bytes, and a longer length loses its higher
bits. The reader goes by what was written. So of a text of `2 ^ 32` bytes or more it reads a front,
if the length that was written is within the limit and does not end inside a character, and it
cannot tell that there was more. Every other text is read back, or refused.

## Main results

* `readText_writeText`: what is read of a text of any length.
* `readsBack_iff`: the texts that are read back or refused.
* `exists_front_of_not_readsBack`: what is read of the others.
* `written_text_outcome`: the two together.
-/

namespace DevicePower.Notice

open Text (Utf8.bytes Utf8.decode)

namespace Parcel

/-- The length that is written with a text. -/
def writtenLength (s : String) : Nat := (Utf8.bytes s).length % Text.word32

variable (s : String)

theorem writtenLength_le : writtenLength s ≤ (Utf8.bytes s).length := Nat.mod_le _ _

theorem writtenLength_lt : writtenLength s < Text.word32 := Nat.mod_lt _ (by decide)

theorem length_take_writtenLength :
    ((Utf8.bytes s).take (writtenLength s)).length = writtenLength s := by
  rw [List.length_take, Nat.min_eq_left (writtenLength_le s)]

theorem unread_writeText :
    (writeText {} s).unread = wordBytes (writtenLength s) ++ Utf8.bytes s := by
  unfold writtenLength
  rw [wordBytes_mod]
  rfl

/-- A text of any length is read as far as the length says that was written with it, if that is
within the limit. -/
theorem readText_writeText :
    (writeText {} s).readText =
      if maxTextSize < writtenLength s then
        (.error (.tooLong (writtenLength s)), (writeText {} s).advance 4)
      else
        ((Utf8.decode ((Utf8.bytes s).take (writtenLength s))).mapError .notText,
          (writeText {} s).advance (4 + writtenLength s)) := by
  have hUnread := unread_writeText s
  split
  · next hLong => exact readText_of_noText (.tooLong hUnread (writtenLength_lt s) hLong)
  · next hNotLong =>
    have hShort := Nat.le_of_not_lt hNotLong
    have hFront := length_take_writtenLength s
    rw [← List.take_append_drop (writtenLength s) (Utf8.bytes s)] at hUnread
    cases hDecode : Utf8.decode ((Utf8.bytes s).take (writtenLength s)) with
    | error defect =>
      have hNone := Text.Utf8.exists_defect_iff.mp ⟨defect, hDecode⟩
      exact readText_of_noText (.garbled hUnread hFront hShort hNone hDecode)
    | ok t =>
      rw [← Text.Utf8.bytes_of_decode hDecode] at hFront hUnread
      rw [← hFront] at hShort hUnread ⊢
      exact readText_eq_ok_iff.mpr ⟨_, hUnread, hShort, rfl⟩

/-- A text that is written is read back with nothing left over, or it is refused. -/
def ReadsBack (s : String) : Prop :=
  ((writeText {} s).readText.1 = .ok s ∧ (writeText {} s).readText.2.remaining = 0) ∨
    ∃ f, (writeText {} s).readText.1 = .error f

/-- What is left over of a text that was read in front. -/
theorem remaining_advance_writeText {n : Nat} (h : n ≤ (Utf8.bytes s).length) :
    ((writeText {} s).advance (4 + n)).remaining = (Utf8.bytes s).length - n := by
  rw [remaining_eq, unread_advance, unread_writeText, List.length_drop, List.length_append,
    length_wordBytes]
  omega

/-- A text is read back or refused exactly if its length is kept, or what is kept of its length is
above the limit or ends inside a character. -/
theorem readsBack_iff :
    ReadsBack s ↔ (Utf8.bytes s).length < Text.word32 ∨ maxTextSize < writtenLength s ∨
      ∀ t, Utf8.bytes t ≠ (Utf8.bytes s).take (writtenLength s) := by
  unfold ReadsBack
  rw [readText_writeText]
  by_cases hLong : maxTextSize < writtenLength s
  · simp [hLong]
  rw [if_neg hLong]
  cases hDecode : Utf8.decode ((Utf8.bytes s).take (writtenLength s)) with
  | error defect =>
    have hNone := Text.Utf8.exists_defect_iff.mp ⟨defect, hDecode⟩
    exact iff_of_true (.inr ⟨_, rfl⟩) (.inr (.inr hNone))
  | ok t =>
    have hFront := Text.Utf8.bytes_of_decode hDecode
    constructor
    · rintro (⟨hSame, -⟩ | ⟨f, hFault⟩)
      · obtain rfl : t = s := Except.ok.inj hSame
        have hLength : (Utf8.bytes t).length = writtenLength t := by
          rw [hFront, length_take_writtenLength]
        rw [hLength]
        exact .inl (writtenLength_lt t)
      · exact nomatch hFault
    · rintro (hKept | hAbove | hNone)
      · have hWhole : writtenLength s = (Utf8.bytes s).length := Nat.mod_eq_of_lt hKept
        rw [hWhole, List.take_length, Text.Utf8.decode_bytes] at hDecode
        obtain rfl : s = t := Except.ok.inj hDecode
        refine .inl ⟨rfl, ?_⟩
        rw [remaining_advance_writeText s (writtenLength_le s), hWhole, Nat.sub_self]
      · exact absurd hAbove hLong
      · exact absurd hFront (hNone t)

/-- Of any other text a front is read that is not all of it. What is left over is the rest, and it
has a multiple of `2 ^ 32` bytes. -/
theorem exists_front_of_not_readsBack (h : ¬ ReadsBack s) :
    ∃ t u, s = t ++ u ∧ (writeText {} s).readText =
        (.ok t, (writeText {} s).advance (4 + (Utf8.bytes t).length)) ∧
      (writeText {} s).readText.2.remaining = (Utf8.bytes u).length ∧
      0 < (Utf8.bytes u).length ∧ Text.word32 ∣ (Utf8.bytes u).length := by
  rw [readsBack_iff, not_or, not_or, Nat.not_lt] at h
  obtain ⟨hMore, hNotLong, hSome⟩ := h
  obtain ⟨t, hFront⟩ := Classical.not_forall_not.mp hSome
  have hLength : (Utf8.bytes t).length = writtenLength s := by
    rw [hFront, length_take_writtenLength]
  have hBytes : Utf8.bytes s = Utf8.bytes t ++ (Utf8.bytes s).drop (writtenLength s) := by
    rw [hFront, List.take_append_drop]
  obtain ⟨u, hText, hRest⟩ := Text.Utf8.exists_append_of_bytes_eq hBytes
  have hLeft : (Utf8.bytes u).length = (Utf8.bytes s).length - writtenLength s := by
    rw [hRest, List.length_drop]
  have hRead := readText_writeText s
  rw [if_neg hNotLong, ← hFront, Text.Utf8.decode_bytes, ← hLength] at hRead
  have hWord := writtenLength_lt s
  refine ⟨t, u, hText, hRead, ?_, by omega, ?_⟩
  · rw [hRead, hLength, remaining_advance_writeText s (writtenLength_le s), hLeft]
  · rw [hLeft]
    exact Nat.dvd_sub_mod _

/-- What comes of a text of any length that is written to an empty parcel and read. It is read back
with nothing left over, or it is refused, exactly if its length is kept by the writer, or what is
kept of it is above the limit or ends inside a character. Otherwise a front of the text is read, and
the rest is left over. -/
theorem written_text_outcome :
    (ReadsBack s ↔ (Utf8.bytes s).length < Text.word32 ∨ maxTextSize < writtenLength s ∨
        ∀ t, Utf8.bytes t ≠ (Utf8.bytes s).take (writtenLength s)) ∧
      (¬ ReadsBack s → ∃ t u, s = t ++ u ∧ (writeText {} s).readText =
          (.ok t, (writeText {} s).advance (4 + (Utf8.bytes t).length)) ∧
        (writeText {} s).readText.2.remaining = (Utf8.bytes u).length ∧
        0 < (Utf8.bytes u).length ∧ Text.word32 ∣ (Utf8.bytes u).length) :=
  ⟨readsBack_iff s, exists_front_of_not_readsBack s⟩

/-- A text of `2 ^ 32` bytes is read as the empty text. -/
theorem readText_writeText_of_length {s : String} (h : (Utf8.bytes s).length = Text.word32) :
    (writeText {} s).readText.1 = .ok "" ∧ ¬ ReadsBack s := by
  have hWritten : writtenLength s = 0 := by
    unfold writtenLength
    rw [h, Nat.mod_self]
  have hRead : (writeText {} s).readText.1 = .ok "" := by
    rw [readText_writeText, hWritten]
    rfl
  refine ⟨hRead, ?_⟩
  unfold ReadsBack
  rw [hRead]
  rintro (⟨hSame, -⟩ | ⟨f, hFault⟩)
  · obtain rfl : "" = s := Except.ok.inj hSame
    exact absurd h.symm (by decide)
  · exact nomatch hFault

/-- The bytes of a text that is repeated. -/
theorem length_bytes_repeated (s : String) (times : Nat) :
    (Utf8.bytes (String.join (List.replicate times s))).length =
      times * (Utf8.bytes s).length := by
  unfold Utf8.bytes Text.Utf8.encode
  rw [String.toList_join, List.flatMap_assoc, List.flatMap_replicate, List.length_flatten,
    List.map_replicate, List.sum_replicate_nat]

/-- There is such a text. -/
theorem long_text_may_be_read_as_empty :
    (writeText {} (String.join (List.replicate Text.word32 "a"))).readText.1 = .ok "" ∧
      ¬ ReadsBack (String.join (List.replicate Text.word32 "a")) := by
  have hOne : (Utf8.bytes "a").length = 1 := rfl
  refine readText_writeText_of_length ?_
  rw [length_bytes_repeated, hOne, Nat.mul_one]

end Parcel

end DevicePower.Notice
