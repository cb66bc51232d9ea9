import DevicePower.Log.Pattern.Basic
import DevicePower.Text.Hexadecimal

/-!
# Single characters and places of a pattern

An atom is a part of a pattern without parts of its own. Most stand for themselves; a backslash
gives the character behind it another meaning, or takes its meaning away.

Some atoms are allowed in some modes only. No tables tell here which characters are digits, blanks
or parts of words outside ASCII, and none tell the other case of a letter; and a pattern must not
come to bytes that are no text.
-/

namespace DevicePower.Log.Pattern

/-- A part of a pattern without parts of its own. -/
inductive Atom where
  /-- A character; `isByte` if it was written as the number of a byte. -/
  | char (c : Char) (isByte : Bool)
  /-- Any character of a line. -/
  | any
  /-- The start or the end of the text or of a line. -/
  | margin
  /-- The start or the end of a word, or no such place. -/
  | wordEdge
  /-- A digit, a blank or a character of words, or any other character. -/
  | family (isNegated : Bool)

namespace Atom

/-- Whether an atom is allowed in a mode. -/
def isAllowed (m : Mode) : Atom → Bool
  | char c isByte => if m.isUnicode then !m.ignoresCase else !isByte || c.toNat < 0x80
  | any => m.isUnicode
  | margin => true
  | wordEdge => !m.isUnicode
  | family isNegated => !m.isUnicode && !isNegated

/-- Whether an atom is allowed between brackets. Bytes between brackets are ASCII. -/
def isAllowedWithin (m : Mode) : Atom → Bool
  | char c _ => if m.isUnicode then !m.ignoresCase else c.toNat < 0x80
  | family isNegated => !m.isUnicode && !isNegated
  | _ => false

end Atom

/-! ## Escapes -/

/-- The number that `n` hexadecimal digits stand for. -/
def hexNumber? (m : Mode) : Nat → Nat → List Char → Option (Nat × List Char)
  | 0, value, s => some (value, s)
  | _ + 1, _, [] => none
  | n + 1, value, c :: rest =>
    (Text.hexValue? c).bind fun d => hexNumber? m n (16 * value + d) (m.next rest)

/-- The character whose number is written in `n` hexadecimal digits. -/
def numbered? (m : Mode) (n : Nat) (s : List Char) : Option (Atom × List Char) :=
  (hexNumber? m n 0 (m.next s)).bind fun (value, rest) =>
    if h : value.isValidChar then some (.char (Char.ofNatAux value h) (n == 2), rest) else none

/-- Whether a backslash takes the meaning away from a character. -/
def isMuted (c : Char) : Bool := c.toNat < 0x80 && !c.isAlphanum && c != '<' && c != '>'

/-- Reads what stands behind a backslash. -/
def escape? (m : Mode) : List Char → Option (Atom × List Char)
  | [] => none
  | c :: rest =>
    match c with
    | 'x' => numbered? m 2 rest
    | 'u' => numbered? m 4 rest
    | 'U' => numbered? m 8 rest
    | 'a' => some (.char '\x07' false, rest)
    | 'f' => some (.char '\x0c' false, rest)
    | 't' => some (.char '\t' false, rest)
    | 'n' => some (.char '\n' false, rest)
    | 'r' => some (.char '\r' false, rest)
    | 'v' => some (.char '\x0b' false, rest)
    | 'A' | 'z' => some (.margin, rest)
    | 'b' | 'B' | '<' | '>' => some (.wordEdge, rest)
    | 'd' | 's' | 'w' => some (.family false, rest)
    | 'D' | 'S' | 'W' => some (.family true, rest)
    | _ => if isMuted c then some (.char c false, rest) else none

end DevicePower.Log.Pattern
