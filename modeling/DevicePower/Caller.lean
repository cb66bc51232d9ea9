import DevicePower.Json.Decoder

/-!
# Callers and their connections

A request on the notice channel comes from a process with an access token. The two numbers together
name its connection: the process id, a dash, and the token. A process id may be negative, so a
connection id is taken apart at its last dash.

## Main results

* `splitLast_append`: a text is split at the mark after which there is no other.
-/

namespace DevicePower

/-- Who sent a request. -/
structure Caller where
  /-- The process id. -/
  pid : Int32
  /-- The access token. -/
  token : UInt32
deriving DecidableEq

/-- The name of a connection. -/
abbrev ConnectId := String

namespace Caller

/-- The characters of a connection id. -/
def connectChars (c : Caller) : List Char :=
  Text.integer c.pid.toInt ++ '-' :: Text.digits c.token.toNat

/-- The connection of a caller. -/
def connectId (c : Caller) : ConnectId := String.ofList c.connectChars

/-- Whether the token belongs to a native system process: its bits 27 and 28 hold the token's type,
and 1 is native. -/
def isNative (c : Caller) : Bool := (c.token >>> 27) &&& 3 == 1

/-- A caller as a document. -/
def toJson (c : Caller) : Json.Value :=
  .object [("pid", .int c.pid.toInt), ("token_id", .nat c.token.toNat)]

/-- Reads a caller. -/
def decoder : Json.Decoder Caller :=
  Json.Decoder.record "CallerIdentity"
    [.needed "pid" Json.Decoder.int32 fun pid c => { c with pid := Int32.ofInt pid },
     .needed "token_id" Json.Decoder.word32 fun token c => { c with token := UInt32.ofNat token }]
    ⟨0, 0⟩

end Caller

namespace ConnectId

/-- The text before and after the last occurrence of a character. -/
def splitLast (mark : Char) : List Char → Option (List Char × List Char)
  | [] => none
  | c :: rest =>
    match splitLast mark rest with
    | some (before, after) => some (c :: before, after)
    | none => if c = mark then some ([], rest) else none

/-- Accepts a text of two numbers around its last dash, the first a signed and the second an
unsigned 32-bit number. -/
def parse? (s : String) : Option ConnectId :=
  match splitLast '-' s.toList with
  | none => none
  | some (pid, token) =>
    if (Text.signed? Text.half32 pid).isSome && (Text.unsigned? Text.word32 token).isSome then
      some s
    else none

/-- A text without the mark is not split. -/
theorem splitLast_of_notMem {mark : Char} {s : List Char} (h : mark ∉ s) :
    splitLast mark s = none := by
  induction s with
  | nil => rfl
  | cons c rest ih =>
    simp only [List.mem_cons, not_or] at h
    simp [splitLast, ih h.2, Ne.symm h.1]

/-- A text is split at the mark after which there is no other. -/
theorem splitLast_append {mark : Char} (before : List Char) {after : List Char}
    (h : mark ∉ after) : splitLast mark (before ++ mark :: after) = some (before, after) := by
  induction before with
  | nil => simp [splitLast, splitLast_of_notMem h]
  | cons c rest ih => simp [splitLast, ih]

end ConnectId

end DevicePower
