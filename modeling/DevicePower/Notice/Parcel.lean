import DevicePower.Error
import DevicePower.Text.Utf8

/-!
# Parcels

A parcel carries the fields of a request or a reply as bytes. A number is four bytes, the least
significant first; a text is the number of its UTF-8 bytes, in the same form, and then those bytes.
Fields are written at the end and read from a cursor. A text may not be longer than 65536 bytes;
that is checked when it is read, while the writer puts down the length modulo `2 ^ 32`.

A read that fails keeps what it used up: the cursor is past the length even if the text behind it
cannot be had, and past the text's bytes if they are not UTF-8.

## Main results

* `length_wordBytes`: a number takes four bytes.
* `data_readWord`, `data_readText`: reading never changes the bytes.
-/

namespace DevicePower.Notice

/-- Bytes and how many of them have been read. -/
structure Parcel where
  data : List UInt8 := []
  cursor : Nat := 0
deriving DecidableEq

/-- Why a field could not be read. -/
inductive ReadFault where
  | truncated (what : String) (need left : Nat)
  | tooLong (length : Nat)
  | notText (defect : Text.Utf8.Defect)
deriving DecidableEq

/-- The longest text that is read, in bytes. -/
def maxTextSize : Nat := 65536

namespace ReadFault

/-- The wording of each failure. -/
def message : ReadFault → String
  | truncated what need left =>
    s!"truncated {what}: need {need} bytes, {left} left"
  | tooLong length => s!"string length {length} exceeds {maxTextSize}"
  | notText defect => "string is not UTF-8: " ++ defect.message

/-- The failure as an error of the facade. -/
def error (f : ReadFault) : Error := .parcelRead f.message

end ReadFault

/-- The four bytes of a number, the least significant first. Higher bits are lost. -/
def wordBytes (n : Nat) : List UInt8 :=
  [UInt8.ofNat n, UInt8.ofNat (n / 256), UInt8.ofNat (n / 65536), UInt8.ofNat (n / 16777216)]

/-- The number of which these are the bytes, the least significant first. -/
def wordValue : List UInt8 → Nat
  | [] => 0
  | b :: rest => b.toNat + 256 * wordValue rest

@[simp] theorem length_wordBytes (n : Nat) : (wordBytes n).length = 4 := rfl

/-- Four bytes stand for a number below `2 ^ 32`, and for any other without its higher bits. -/
theorem wordValue_wordBytes (n : Nat) : wordValue (wordBytes n) = n % Text.word32 := by
  simp only [Text.word32, wordBytes, wordValue, UInt8.toNat_ofNat']
  omega

namespace Parcel

/-- A parcel of received bytes. -/
def ofBytes (data : List UInt8) : Parcel := ⟨data, 0⟩

/-- The bytes not yet read. -/
def unread (p : Parcel) : List UInt8 := p.data.drop p.cursor

/-- How many bytes have not been read. -/
def remaining (p : Parcel) : Nat := p.data.length - p.cursor

/-! ## Writing -/

/-- Adds bytes at the end. -/
def append (p : Parcel) (bytes : List UInt8) : Parcel := { p with data := p.data ++ bytes }

/-- The bytes of a number. -/
def intBytes (v : Int32) : List UInt8 := wordBytes v.toUInt32.toNat

/-- The bytes of a text with its length. -/
def textBytes (s : String) : List UInt8 :=
  let bytes := Text.Utf8.bytes s
  wordBytes bytes.length ++ bytes

/-- Writes a number. -/
def writeInt (p : Parcel) (v : Int32) : Parcel := p.append (intBytes v)

/-- Writes a text. -/
def writeText (p : Parcel) (s : String) : Parcel := p.append (textBytes s)

/-! ## Reading -/

/-- The next `n` bytes, of a field called `what`. -/
def take (p : Parcel) (n : Nat) (what : String) : Except ReadFault (List UInt8) × Parcel :=
  if p.remaining < n then (.error (.truncated what n p.remaining), p)
  else (.ok (p.unread.take n), { p with cursor := p.cursor + n })

/-- Reads four bytes as a number without sign. -/
def readWord (p : Parcel) : Except ReadFault Nat × Parcel :=
  match p.take 4 "i32" with
  | (.ok bytes, p) => (.ok (wordValue bytes), p)
  | (.error f, p) => (.error f, p)

/-- Reads a number. -/
def readInt (p : Parcel) : Except ReadFault Int32 × Parcel :=
  match p.readWord with
  | (.ok n, p) => (.ok (UInt32.ofNat n).toInt32, p)
  | (.error f, p) => (.error f, p)

/-- Reads a text. -/
def readText (p : Parcel) : Except ReadFault String × Parcel :=
  match p.readWord with
  | (.error f, p) => (.error f, p)
  | (.ok n, p) =>
    if maxTextSize < n then (.error (.tooLong n), p)
    else
      match p.take n "string" with
      | (.error f, p) => (.error f, p)
      | (.ok bytes, p) => ((Text.Utf8.decode bytes).mapError .notText, p)

theorem data_take (p : Parcel) (n : Nat) (what : String) : (p.take n what).2.data = p.data := by
  unfold take
  split <;> rfl

theorem data_readWord (p : Parcel) : p.readWord.2.data = p.data := by
  have h := data_take p 4 "i32"
  unfold readWord
  split <;> simp_all

/-- Reading never changes the bytes. -/
theorem data_readText (p : Parcel) : p.readText.2.data = p.data := by
  have hWord := data_readWord p
  unfold readText
  split
  · simp_all
  · next n q heq =>
    rw [heq] at hWord
    split
    · exact hWord
    · have h := data_take q n "string"
      split <;> simp_all

end Parcel

/-! ## Replies -/

/-- What a request is answered with. -/
structure Reply where
  status : Int32
  message : String
deriving DecidableEq

namespace Reply

/-- The request was carried out. -/
def success : Reply := ⟨0, "success"⟩

/-- The request could not be carried out. -/
def failed : Reply := ⟨-1, "failed"⟩

/-- The request did not begin with the right token. -/
def tokenMismatch : Reply := ⟨-1, "the token does not match"⟩

/-- The request's command is unknown. -/
def notSupported : Reply := ⟨-1, "not support"⟩

/-- Whether the request was carried out. -/
def isSuccess (r : Reply) : Bool := r.status == 0

/-- How a reply is shown. -/
def text (r : Reply) : String :=
  "(" ++ Text.integerText r.status.toInt ++ ",'" ++ r.message ++ "')"

/-- Writes a reply. -/
def write (r : Reply) (p : Parcel) : Parcel := (p.writeInt r.status).writeText r.message

/-- Reads a reply. -/
def read (p : Parcel) : Except ReadFault Reply × Parcel :=
  match p.readInt with
  | (.error f, p) => (.error f, p)
  | (.ok status, p) =>
    match p.readText with
    | (.error f, p) => (.error f, p)
    | (.ok message, p) => (.ok ⟨status, message⟩, p)

end Reply

end DevicePower.Notice
