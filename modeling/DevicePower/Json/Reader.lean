import DevicePower.Json.Decoder

/-!
# Reading JSON values

A value whose shape is not known beforehand is read as it stands. Lists and objects inside each
other are read to a depth of 127; a member named twice has its last value.
-/

namespace DevicePower.Json

namespace Decoder

/-- Reads the rest of an object of values. -/
def entries (d : Decoder Value) : Nat → Bool → Members → Decoder Members
  | 0, _, _, _ => malformed .endInObject
  | rounds + 1, isFirst, done, tokens => do
    match ← memberName isFirst tokens with
    | (none, rest) => .ok (done, rest)
    | (some name, rest) =>
      let rest ← colon rest
      let (value, rest) ← d rest
      entries d rounds false (done.set name value) rest

/-- Reads a value that is no list and no object. -/
def scalar : Decoder Value
  | [] => malformed .endInValue
  | .word (.ok .null) :: rest => .ok (.null, rest)
  | .word (.ok .yes) :: rest => .ok (.bool true, rest)
  | .word (.ok .no) :: rest => .ok (.bool false, rest)
  | .word (.error reason) :: _ => malformed reason
  | .number (.ok n) _ :: rest => .ok (.number n, rest)
  | .number (.error reason) _ :: _ => malformed reason
  | .text (.ok s) _ :: rest => .ok (.text s, rest)
  | .text (.error reason) _ :: _ => malformed reason
  | _ => malformed .expectedValue

/-- Reads any value in which at most `room` levels are opened. -/
def valueWithin : Nat → Decoder Value
  | 0, .openList :: _ => malformed .tooDeep
  | 0, .openObject :: _ => malformed .tooDeep
  | room + 1, .openList :: rest =>
    (items (valueWithin room) (rest.length + 1) true [] rest).map fun (xs, rest) => (.list xs, rest)
  | room + 1, .openObject :: rest =>
    (entries (valueWithin room) (rest.length + 1) true [] rest).map fun (ms, rest) =>
      (.object ms, rest)
  | _, tokens => scalar tokens

/-- The number of levels that a document may open. -/
def levels : Nat := 127

/-- Reads any value. -/
def value : Decoder Value := valueWithin levels

end Decoder

/-- The value that a text spells. -/
def Value.ofText (source : String) : Except ReadError Value := Decoder.value.document source

end DevicePower.Json
