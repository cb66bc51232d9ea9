/-!
# UTF-8

A text on the wire is its UTF-8 bytes. Writing is the core library's encoding of each character in
turn; reading accepts well-formed bytes only (no overlong form, no surrogate, nothing above
U+10FFFF) and otherwise says where the first ill-formed sequence starts and how long it is. A
sequence is as long as the bytes of it that could still have begun a character; if the bytes end
there it is incomplete and has no length.

Bytes that need not be UTF-8 can still be shown to people, with a replacement character in place of
each ill-formed sequence.

## Main results

* `defect_within`: a defect lies within the bytes.
* `lossy_of_decode`: well-formed bytes are shown as they are.
-/

namespace DevicePower.Text.Utf8

/-- Where and how bytes fail to be UTF-8: `index` bytes before are well-formed, and `length` is the
size of the sequence that is not, or nothing if the bytes end inside a character. -/
structure Defect where
  index : Nat
  length : Option Nat
deriving DecidableEq

/-- What a defect is called in a message. -/
def Defect.message (d : Defect) : String :=
  match d.length with
  | some n => s!"invalid utf-8 sequence of {n} bytes from index {d.index}"
  | none => s!"incomplete utf-8 byte sequence from index {d.index}"

/-- The bytes of a text. -/
def encode (s : List Char) : List UInt8 := s.flatMap String.utf8EncodeChar

/-- The bytes of a string. -/
def bytes (s : String) : List UInt8 := encode s.toList

/-- Whether a byte continues a character. -/
def isContinuation (b : UInt8) : Bool := 0x80 ≤ b && b ≤ 0xBF

/-- Whether `b` may follow the first byte `lead` of a character of three or four bytes. The narrower
ranges keep out overlong forms, surrogates and numbers above U+10FFFF. -/
def isSecond (lead b : UInt8) : Bool :=
  if lead = 0xE0 then 0xA0 ≤ b && b ≤ 0xBF
  else if lead = 0xED then 0x80 ≤ b && b ≤ 0x9F
  else if lead = 0xF0 then 0x90 ≤ b && b ≤ 0xBF
  else if lead = 0xF4 then 0x80 ≤ b && b ≤ 0x8F
  else isContinuation b

/-- The bits that a continuation byte carries. -/
def tail (b : UInt8) : Nat := b.toNat % 64

/-- Reads the bytes from position `index` on, onto the reversed text `done` read before. -/
def decodeFrom (index : Nat) (done : List Char) : List UInt8 → Except Defect (List Char)
  | [] => .ok done.reverse
  | b :: rest =>
    if b < 0x80 then decodeFrom (index + 1) (Char.ofNat b.toNat :: done) rest
    else if b < 0xC2 then .error ⟨index, some 1⟩
    else if b < 0xE0 then
      match rest with
      | [] => .error ⟨index, none⟩
      | c :: rest =>
        if isContinuation c then
          decodeFrom (index + 2) (Char.ofNat (b.toNat % 32 * 64 + tail c) :: done) rest
        else .error ⟨index, some 1⟩
    else if b < 0xF0 then
      match rest with
      | [] => .error ⟨index, none⟩
      | c :: rest =>
        if isSecond b c then
          match rest with
          | [] => .error ⟨index, none⟩
          | d :: rest =>
            if isContinuation d then
              decodeFrom (index + 3)
                (Char.ofNat (b.toNat % 16 * 4096 + tail c * 64 + tail d) :: done) rest
            else .error ⟨index, some 2⟩
        else .error ⟨index, some 1⟩
    else if b < 0xF5 then
      match rest with
      | [] => .error ⟨index, none⟩
      | c :: rest =>
        if isSecond b c then
          match rest with
          | [] => .error ⟨index, none⟩
          | d :: rest =>
            if isContinuation d then
              match rest with
              | [] => .error ⟨index, none⟩
              | e :: rest =>
                if isContinuation e then
                  decodeFrom (index + 4)
                    (Char.ofNat (b.toNat % 8 * 262144 + tail c * 4096 + tail d * 64 + tail e)
                      :: done) rest
                else .error ⟨index, some 3⟩
            else .error ⟨index, some 2⟩
        else .error ⟨index, some 1⟩
    else .error ⟨index, some 1⟩

/-- The text that bytes spell, or their first defect. -/
def decode (bs : List UInt8) : Except Defect String :=
  (decodeFrom 0 [] bs).map String.ofList

theorem decodeFrom_nil (index : Nat) (done : List Char) :
    decodeFrom index done [] = .ok done.reverse := rfl

/-- A defect lies within the bytes, and a sequence that has a length is not empty. -/
theorem defect_within {bs : List UInt8} {index : Nat} {done : List Char} {d : Defect}
    (h : decodeFrom index done bs = .error d) :
    d.index < index + bs.length ∧ ∀ n, d.length = some n → 0 < n := by
  fun_induction decodeFrom index done bs <;> grind

theorem length_drop_defect {bs : List UInt8} {d : Defect} {n : Nat} (h : decode bs = .error d)
    (hLength : d.length = some n) : (bs.drop (d.index + n)).length < bs.length := by
  have hDecoded : decodeFrom 0 [] bs = .error d := by
    unfold decode at h
    cases hFrom : decodeFrom 0 [] bs with
    | ok s => rw [hFrom] at h; cases h
    | error e => rw [hFrom] at h; exact congrArg Except.error (Except.error.inj h)
  obtain ⟨hWithin, hPositive⟩ := defect_within hDecoded
  have hSome := hPositive n hLength
  rw [List.length_drop]
  omega

/-- The text of bytes as it is shown to people. -/
def lossy (bs : List UInt8) : String :=
  match _hDecoded : decode bs with
  | .ok s => s
  | .error d =>
    let before := (decode (bs.take d.index)).toOption.getD ""
    match _hLength : d.length with
    | none => before ++ "\uFFFD"
    | some n => before ++ "\uFFFD" ++ lossy (bs.drop (d.index + n))
termination_by bs.length
decreasing_by exact length_drop_defect ‹decode bs = .error d› ‹d.length = some n›

/-- Well-formed bytes are shown as they are. -/
theorem lossy_of_decode {bs : List UInt8} {s : String} (h : decode bs = .ok s) :
    lossy bs = s := by
  rw [lossy]
  split
  · next s' hDecoded => exact Except.ok.inj (hDecoded.symm.trans h)
  · next d hDecoded => exact nomatch hDecoded.symm.trans h

/-- A byte that begins no character, a character that is cut off by the next, and one at the end. -/
example : lossy [0x61, 0xFF, 0xE2, 0x82, 0x62, 0xF0, 0x9F] = "a\uFFFD\uFFFDb\uFFFD" := by
  decide +kernel

end DevicePower.Text.Utf8
