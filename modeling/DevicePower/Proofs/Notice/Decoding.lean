import DevicePower.Proofs.Notice.Fields

/-!
# What is accepted as a text

Bytes come from another process and may be anything. A text is read if and only if the unread bytes
begin with its length and its UTF-8 bytes and the length is within the limit; there is one way to
write a text, so what has been read can be written again as the bytes it took. Every other beginning
is refused in one of four ways, each of which uses up its own number of bytes; the reads that follow
go on from there.

Reading takes stretches out of the bytes by their positions. `take?` and the reads above it are the
same reads with the three steps that have no result everywhere: the difference of two positions, the
stretch between two positions, and four bytes taken as a number. (A stretch that is there ends at
most at the number of bytes, so its end needs no step of its own.) As long as the cursor is not
behind the end, none of these steps fails, and the cursor never gets there.

## Main results

* `readText_eq_ok_iff`, `readText_eq_error_iff`: what is read as a text, and what is not and why.
* `isSafe_run`: no step of a sequence of reads fails.
* `readText_accepts_wire_form`: the two together.
-/

namespace DevicePower.Notice

open Text (Utf8.bytes Utf8.decode)

/-- Why bytes do not begin with a text, and how many of them it takes to see that. -/
inductive NoText (bytes : List UInt8) : ReadFault → Nat → Prop
  /-- There is no length. -/
  | short (hShort : bytes.length < 4) : NoText bytes (.truncated "i32" 4 bytes.length) 0
  /-- The length is above the limit. -/
  | tooLong {n : Nat} {rest : List UInt8} (hBytes : bytes = wordBytes n ++ rest)
      (hWord : n < Text.word32) (hLong : maxTextSize < n) : NoText bytes (.tooLong n) 4
  /-- There are fewer bytes than the length says. -/
  | cut {n : Nat} {rest : List UInt8} (hBytes : bytes = wordBytes n ++ rest)
      (hShort : n ≤ maxTextSize) (hLeft : rest.length < n) :
      NoText bytes (.truncated "string" n rest.length) 4
  /-- There are as many bytes, but they are not those of a text. -/
  | garbled {n : Nat} {body rest : List UInt8} {defect : Text.Utf8.Defect}
      (hBytes : bytes = wordBytes n ++ (body ++ rest)) (hBody : body.length = n)
      (hShort : n ≤ maxTextSize) (hNone : ∀ s, Utf8.bytes s ≠ body)
      (hDefect : Utf8.decode body = .error defect) : NoText bytes (.notText defect) (4 + n)

namespace Parcel

variable {p q : Parcel} {n : Nat} {what : String} {f : ReadFault} {s : String}

/-! ## Texts -/

theorem take_error (h : p.take n what = (.error f, q)) :
    p.unread.length < n ∧ f = .truncated what n p.unread.length ∧ q = p := by
  unfold take at h
  rw [remaining_eq] at h
  split at h
  · next hLeft =>
    obtain ⟨hFault, hSame⟩ := Prod.mk.inj h
    exact ⟨hLeft, (Except.error.inj hFault).symm, hSame.symm⟩
  · exact nomatch (Prod.mk.inj h).1

theorem take_of_short (what : String) (h : p.unread.length < n) :
    p.take n what = (.error (.truncated what n p.unread.length), p) := by
  unfold take
  rw [remaining_eq, if_pos h]

theorem readWord_of_short (h : p.unread.length < 4) :
    p.readWord = (.error (.truncated "i32" 4 p.unread.length), p) := by
  unfold readWord
  rw [take_of_short "i32" h]

theorem readWord_error (h : p.readWord = (.error f, q)) :
    p.unread.length < 4 ∧ f = .truncated "i32" 4 p.unread.length ∧ q = p := by
  unfold readWord at h
  split at h
  · exact nomatch (Prod.mk.inj h).1
  · next hTake =>
    obtain ⟨hFault, rfl⟩ := Prod.mk.inj h
    rw [← Except.error.inj hFault]
    exact take_error hTake

theorem readWord_lt (h : p.readWord = (.ok n, q)) : n < Text.word32 := by
  unfold readWord at h
  split at h
  · next bytes q' hTake =>
    obtain ⟨-, hLength, -⟩ := take_ok hTake
    rw [← Except.ok.inj (Prod.mk.inj h).1, ← wordBytes_wordValue hLength, wordValue_wordBytes]
    exact Nat.mod_lt _ (by decide)
  · exact nomatch (Prod.mk.inj h).1

/-- A text is read exactly if it was there with its length and is not too long, and then the cursor
stands behind it. -/
theorem readText_eq_ok_iff :
    p.readText = (.ok s, q) ↔
      ∃ rest, p.unread = wordBytes (Utf8.bytes s).length ++ (Utf8.bytes s ++ rest) ∧
        (Utf8.bytes s).length ≤ maxTextSize ∧ q = p.advance (4 + (Utf8.bytes s).length) := by
  have hLength : (textBytes s).length = 4 + (Utf8.bytes s).length := by
    unfold textBytes
    rw [List.length_append, length_wordBytes]
  have hParts (rest : List UInt8) :
      textBytes s ++ rest = wordBytes (Utf8.bytes s).length ++ (Utf8.bytes s ++ rest) := by
    unfold textBytes
    rw [List.append_assoc]
  constructor
  · intro h
    obtain ⟨hUnread, hShort⟩ := readText_ok h
    have hRead := readText_of_unread hShort hUnread
    rw [h, hLength] at hRead
    exact ⟨q.unread, (hParts _).symm ▸ hUnread, hShort, (Prod.mk.inj hRead).2⟩
  · rintro ⟨rest, hUnread, hShort, rfl⟩
    rw [readText_of_unread hShort ((hParts rest).symm ▸ hUnread), hLength]

theorem maxTextSize_lt : maxTextSize < Text.word32 := by decide

/-- What the bytes that do not begin with a text are refused with. -/
theorem readText_of_noText {used : Nat} (h : NoText p.unread f used) :
    p.readText = (.error f, p.advance used) := by
  cases h with
  | short hShort =>
    unfold readText
    rw [readWord_of_short hShort]
    rfl
  | tooLong hBytes hWord hLong =>
    unfold readText
    rw [readWord_of_unread hWord hBytes]
    dsimp only
    rw [if_pos hLong]
  | @cut n rest hBytes hShort hLeft =>
    have hWord := Nat.lt_of_le_of_lt hShort maxTextSize_lt
    have hBehind : (p.advance 4).unread = rest := unread_advance_of_append hBytes
    unfold readText
    rw [readWord_of_unread hWord hBytes]
    dsimp only
    rw [if_neg (Nat.not_lt.mpr hShort), take_of_short "string" (hBehind.symm ▸ hLeft), hBehind]
  | @garbled n body rest defect hBytes hBody hShort hNone hDefect =>
    have hWord := Nat.lt_of_le_of_lt hShort maxTextSize_lt
    have hBehind : (p.advance 4).unread = body ++ rest := unread_advance_of_append hBytes
    have hTake := take_of_unread "string" hBehind
    rw [hBody] at hTake
    unfold readText
    rw [readWord_of_unread hWord hBytes]
    dsimp only
    rw [if_neg (Nat.not_lt.mpr hShort), hTake]
    dsimp only
    rw [hDefect, advance_advance]
    rfl

/-- A text is refused exactly if the bytes do not begin with one. -/
theorem readText_eq_error_iff :
    p.readText = (.error f, q) ↔ ∃ used, NoText p.unread f used ∧ q = p.advance used := by
  constructor
  · intro h
    unfold readText at h
    split at h
    · next hWord =>
      obtain ⟨hFault, rfl⟩ := Prod.mk.inj h
      obtain ⟨hShort, hTruncated, rfl⟩ := readWord_error hWord
      rw [← Except.error.inj hFault, hTruncated]
      exact ⟨0, .short hShort, rfl⟩
    · next n p' hWord =>
      obtain ⟨hBytes, rfl⟩ := readWord_ok hWord
      split at h
      · next hLong =>
        obtain ⟨hFault, rfl⟩ := Prod.mk.inj h
        rw [← Except.error.inj hFault]
        exact ⟨4, .tooLong hBytes (readWord_lt hWord) hLong, rfl⟩
      · next hNotLong =>
        have hShort := Nat.le_of_not_lt hNotLong
        split at h
        · next hTake =>
          obtain ⟨hFault, rfl⟩ := Prod.mk.inj h
          obtain ⟨hLeft, hTruncated, rfl⟩ := take_error hTake
          rw [← Except.error.inj hFault, hTruncated]
          exact ⟨4, .cut hBytes hShort hLeft, rfl⟩
        · next body q' hTake =>
          obtain ⟨hRead, rfl⟩ := Prod.mk.inj h
          obtain ⟨hBody, hLength, rfl⟩ := take_ok hTake
          rw [hBody] at hBytes
          cases hDecode : Utf8.decode body with
          | ok t => rw [hDecode] at hRead; exact nomatch hRead
          | error defect =>
            rw [hDecode] at hRead
            rw [← Except.error.inj hRead]
            have hNone := Text.Utf8.exists_defect_iff.mp ⟨defect, hDecode⟩
            exact ⟨4 + n, .garbled hBytes hLength hShort hNone hDecode, advance_advance p 4 n⟩
  · rintro ⟨used, hNoText, rfl⟩
    exact readText_of_noText hNoText

/-! ## Reads whose steps may have no result -/

/-- The bytes between two positions, if both are there and in this order. -/
def stretch? (bytes : List UInt8) (first last : Nat) : Option (List UInt8) :=
  if first ≤ last ∧ last ≤ bytes.length then some ((bytes.drop first).take (last - first))
  else none

/-- How many bytes have not been read, if the cursor is not behind the end. -/
def remaining? (p : Parcel) : Option Nat :=
  if p.cursor ≤ p.data.length then some (p.data.length - p.cursor) else none

def take? (p : Parcel) (n : Nat) (what : String) :
    Option (Except ReadFault (List UInt8) × Parcel) :=
  p.remaining?.bind fun left =>
    if left < n then some (.error (.truncated what n left), p)
    else
      (stretch? p.data p.cursor (p.cursor + n)).map fun bytes =>
        (.ok bytes, { p with cursor := p.cursor + n })

/-- The number that four bytes stand for. -/
def fourBytes? (bytes : List UInt8) : Option Nat :=
  if bytes.length = 4 then some (wordValue bytes) else none

def readWord? (p : Parcel) : Option (Except ReadFault Nat × Parcel) :=
  (p.take? 4 "i32").bind fun
    | (.ok bytes, p) => (fourBytes? bytes).map fun n => (.ok n, p)
    | (.error f, p) => some (.error f, p)

def readInt? (p : Parcel) : Option (Except ReadFault Int32 × Parcel) :=
  p.readWord?.map fun
    | (.ok n, p) => (.ok (UInt32.ofNat n).toInt32, p)
    | (.error f, p) => (.error f, p)

def readText? (p : Parcel) : Option (Except ReadFault String × Parcel) :=
  p.readWord?.bind fun
    | (.error f, p) => some (.error f, p)
    | (.ok n, p) =>
      if maxTextSize < n then some (.error (.tooLong n), p)
      else
        (p.take? n "string").map fun
          | (.error f, p) => (.error f, p)
          | (.ok bytes, p) => ((Utf8.decode bytes).mapError .notText, p)

end Parcel

def Reply.read? (p : Parcel) : Option (Except ReadFault Reply × Parcel) :=
  p.readInt?.bind fun
    | (.error f, p) => some (.error f, p)
    | (.ok status, p) =>
      p.readText?.map fun
        | (.error f, p) => (.error f, p)
        | (.ok message, p) => (.ok ⟨status, message⟩, p)

/-- Whether an access reads. -/
def Access.isRead : Access → Bool
  | read _ | readReply => true
  | _ => false

namespace Parcel

def step? (p : Parcel) : Access → Option (Option (Except ReadFault Item) × Parcel)
  | .read .int => p.readInt?.map fun (r, p) => (some ((r.map Field.int).map .field), p)
  | .read .text => p.readText?.map fun (r, p) => (some ((r.map Field.text).map .field), p)
  | .readReply => (Reply.read? p).map fun (r, p) => (some (r.map .reply), p)
  | a => some (p.step a)

def run? (p : Parcel) : List Access → Option (List (Except ReadFault Item) × Parcel)
  | [] => some ([], p)
  | a :: rest =>
    (p.step? a).bind fun (item, p) =>
      (p.run? rest).map fun (items, p) => (item.toList ++ items, p)

/-- A read that leaves the bytes alone and the cursor within them, and of which no step fails. -/
structure IsSafe {α : Type} (p : Parcel) (checked : Option (α × Parcel)) (plain : α × Parcel) :
    Prop where
  eq : checked = some plain
  data_eq : plain.2.data = p.data
  cursor_le : p.cursor ≤ plain.2.cursor
  within : plain.2.cursor ≤ p.data.length

namespace IsSafe

variable {α β : Type} {p : Parcel} {checked : Option (α × Parcel)} {plain : α × Parcel}

/-- Nothing is read. -/
theorem refl (hWithin : p.cursor ≤ p.data.length) (a : α) : IsSafe p (some (a, p)) (a, p) :=
  ⟨rfl, rfl, Nat.le_refl _, hWithin⟩

/-- A read goes on from where another one ended. -/
theorem bind {checkedNext : α × Parcel → Option (β × Parcel)} {plainNext : β × Parcel}
    (h : IsSafe p checked plain)
    (hNext : plain.2.cursor ≤ plain.2.data.length → IsSafe plain.2 (checkedNext plain) plainNext) :
    IsSafe p (checked.bind checkedNext) plainNext := by
  have hThere : plain.2.cursor ≤ plain.2.data.length := by
    rw [h.data_eq]
    exact h.within
  have hAfter := hNext hThere
  have hWithin := hAfter.within
  rw [h.data_eq] at hWithin
  refine ⟨?_, hAfter.data_eq.trans h.data_eq, Nat.le_trans h.cursor_le hAfter.cursor_le, hWithin⟩
  rw [h.eq, Option.bind_some, hAfter.eq]

/-- What has been read is taken as something else. -/
theorem map {g : α × Parcel → β × Parcel} (h : IsSafe p checked plain)
    (hSame : ∀ r, (g r).2 = r.2) : IsSafe p (checked.map g) (g plain) := by
  refine ⟨?_, ?_, ?_, ?_⟩
  · rw [h.eq, Option.map_some]
  · rw [hSame, h.data_eq]
  · rw [hSame]
    exact h.cursor_le
  · rw [hSame]
    exact h.within

end IsSafe

section Safe

variable {p : Parcel} (hWithin : p.cursor ≤ p.data.length)

include hWithin

theorem isSafe_take (n : Nat) (what : String) : IsSafe p (p.take? n what) (p.take n what) := by
  unfold take? remaining?
  rw [if_pos hWithin, Option.bind_some]
  unfold take remaining
  split
  · exact .refl hWithin _
  · next hEnough =>
    have hEnd : p.cursor + n ≤ p.data.length := by omega
    refine ⟨?_, rfl, Nat.le_add_right _ _, hEnd⟩
    unfold stretch?
    rw [if_pos ⟨Nat.le_add_right _ _, hEnd⟩, Nat.add_sub_cancel_left]
    rfl

theorem isSafe_readWord : IsSafe p p.readWord? p.readWord := by
  have hTake := isSafe_take hWithin 4 "i32"
  unfold readWord? readWord
  refine hTake.bind fun hThere => ?_
  split
  · next bytes q hEq =>
    obtain ⟨-, hLength, -⟩ := take_ok hEq
    rw [hEq] at hThere ⊢
    dsimp only
    unfold fourBytes?
    rw [if_pos hLength]
    exact .refl hThere _
  · next f q hEq =>
    rw [hEq] at hThere ⊢
    exact .refl hThere _

theorem isSafe_readInt : IsSafe p p.readInt? p.readInt := by
  unfold readInt? readInt
  exact (isSafe_readWord hWithin).map fun
    | (.ok _, _) => rfl
    | (.error _, _) => rfl

theorem isSafe_readText : IsSafe p p.readText? p.readText := by
  unfold readText? readText
  refine (isSafe_readWord hWithin).bind fun hThere => ?_
  split
  · next f q hEq =>
    rw [hEq] at hThere ⊢
    exact .refl hThere _
  · next n q hEq =>
    rw [hEq] at hThere ⊢
    dsimp only
    split
    · exact .refl hThere _
    · exact (isSafe_take hThere n "string").map fun
        | (.ok _, _) => rfl
        | (.error _, _) => rfl

theorem isSafe_readReply : IsSafe p (Reply.read? p) (Reply.read p) := by
  unfold Reply.read? Reply.read
  refine (isSafe_readInt hWithin).bind fun hThere => ?_
  split
  · next f q hEq =>
    rw [hEq] at hThere ⊢
    exact .refl hThere _
  · next status q hEq =>
    rw [hEq] at hThere ⊢
    exact (isSafe_readText hThere).map fun
      | (.ok _, _) => rfl
      | (.error _, _) => rfl

theorem isSafe_step {a : Access} (hRead : a.isRead = true) : IsSafe p (p.step? a) (p.step a) := by
  cases a with
  | read k =>
    cases k with
    | int => exact (isSafe_readInt hWithin).map fun _ => rfl
    | text => exact (isSafe_readText hWithin).map fun _ => rfl
  | readReply => exact (isSafe_readReply hWithin).map fun _ => rfl
  | write | writeReply | rewrap => exact nomatch hRead

end Safe

/-- No step of a sequence of reads fails, the bytes stay as they are, and the cursor moves forward
and not behind the end. -/
theorem isSafe_run {reads : List Access} (hReads : ∀ a ∈ reads, a.isRead = true) :
    ∀ {p : Parcel}, p.cursor ≤ p.data.length → IsSafe p (p.run? reads) (p.run reads) := by
  induction reads with
  | nil => exact fun hWithin => .refl hWithin _
  | cons a rest ih =>
    intro p hWithin
    have hStep := isSafe_step hWithin (hReads a List.mem_cons_self)
    refine hStep.bind fun hThere => ?_
    exact (ih (fun b hMem => hReads b (List.mem_cons_of_mem a hMem)) hThere).map fun _ => rfl

/-- Texts are accepted exactly in their wire form. A text is read if and only if the unread bytes
begin with its length and its UTF-8 bytes and it is not too long; then the cursor stands behind it,
and writing it again gives the bytes that it took. Otherwise the read fails, and the way in which
the bytes do not begin with a text says how many of them are used up. Whatever is read in whatever
order, no step fails, the bytes stay as they are, and the cursor stays within them. -/
theorem readText_accepts_wire_form (p : Parcel) (hWithin : p.cursor ≤ p.data.length) :
    (∀ s q, p.readText = (.ok s, q) ↔
      ∃ rest, p.unread = wordBytes (Utf8.bytes s).length ++ (Utf8.bytes s ++ rest) ∧
        (Utf8.bytes s).length ≤ maxTextSize ∧ q = p.advance (4 + (Utf8.bytes s).length)) ∧
      (∀ s q, p.readText = (.ok s, q) →
        p.unread.take (q.cursor - p.cursor) = (writeText {} s).data) ∧
      (∀ f q, p.readText = (.error f, q) ↔ ∃ used, NoText p.unread f used ∧ q = p.advance used) ∧
      (∀ f : ReadFault, ∃ message, f.error = .parcelRead message) ∧
      ∀ reads : List Access, (∀ a ∈ reads, a.isRead = true) →
        p.run? reads = some (p.run reads) ∧ (p.run reads).2.data = p.data ∧
          p.cursor ≤ (p.run reads).2.cursor ∧ (p.run reads).2.cursor ≤ p.data.length := by
  refine ⟨fun s q => readText_eq_ok_iff, fun s q h => ?_, fun f q => readText_eq_error_iff,
    fun f => ⟨f.message, rfl⟩, fun reads hReads => ?_⟩
  · obtain ⟨hUnread, hShort⟩ := readText_ok h
    have hRead := readText_of_unread hShort hUnread
    rw [h] at hRead
    have hCursor : q.cursor = p.cursor + (textBytes s).length :=
      congrArg cursor (Prod.mk.inj hRead).2
    rw [hCursor, Nat.add_sub_cancel_left, hUnread, List.take_left]
    rfl
  · have hSafe := isSafe_run hReads hWithin
    exact ⟨hSafe.eq, hSafe.data_eq, hSafe.cursor_le, hSafe.within⟩

/-- The overlong form of a NUL character is no text. It is used up with its length, and the number
behind it is cut off. -/
theorem overlong_form_is_refused :
    NoText [2, 0, 0, 0, 0xC0, 0x80, 7] (.notText ⟨0, some 1⟩) 6 ∧
      (ofBytes [2, 0, 0, 0, 0xC0, 0x80, 7]).run? [.read .text, .read .int] =
        some ([.error (.notText ⟨0, some 1⟩), .error (.truncated "i32" 4 1)],
          ⟨[2, 0, 0, 0, 0xC0, 0x80, 7], 6⟩) := by
  obtain ⟨-, -, hError, -, hRuns⟩ :=
    readText_accepts_wire_form (ofBytes [2, 0, 0, 0, 0xC0, 0x80, 7]) (by decide)
  obtain ⟨used, hNoText, hUsed⟩ :=
    (hError (.notText ⟨0, some 1⟩) ⟨[2, 0, 0, 0, 0xC0, 0x80, 7], 6⟩).mp rfl
  obtain rfl : 6 = used := (congrArg cursor hUsed).trans (Nat.zero_add used)
  exact ⟨hNoText, (hRuns [.read .text, .read .int] (by decide)).1⟩

end Parcel
end DevicePower.Notice
