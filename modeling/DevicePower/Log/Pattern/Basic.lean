import DevicePower.Text.Blank

/-!
# How patterns are read

A pattern is read in a mode, which flags inside the pattern change. In a spaced pattern blanks and
comments may stand between the characters; a comment goes from a hash sign to the end of its line.

The parts of a pattern are nested, and how deep is limited, so the height of every part is kept.
-/

namespace DevicePower.Log.Pattern

/-! ## Modes -/

/-- What flags decide about the characters of a pattern. -/
structure Mode where
  /-- The two cases of a letter count as one. -/
  ignoresCase : Bool := false
  /-- A pattern is about characters. Otherwise it is about bytes. -/
  isUnicode : Bool := true
  /-- Blanks and comments are passed over. -/
  isSpaced : Bool := false
deriving DecidableEq

/-- Drops blanks and comments. `inComment` says that a comment has begun. -/
def dropFill (inComment : Bool) : List Char → List Char
  | [] => []
  | c :: rest =>
    if inComment then dropFill (c != '\n') rest
    else if Text.isBlank c then dropFill false rest
    else if c = '#' then dropFill true rest
    else c :: rest

namespace Mode

/-- What is left of a pattern from the next character that counts on. -/
def next (m : Mode) (s : List Char) : List Char := if m.isSpaced then dropFill false s else s

/-- The character ahead that decides what a dash between brackets is. In a spaced pattern it is the
first that is not blank; it may stand inside a comment, but not begin one. -/
def ahead? (m : Mode) (s : List Char) : Option Char :=
  if m.isSpaced then
    match s.dropWhile Text.isBlank with
    | '#' :: comment => (comment.dropWhile Text.isBlank).head?
    | rest => rest.head?
  else s.head?

/-- The mode after a row of flags, which are turned on or, behind a dash, off. Some flags decide
nothing here. -/
def flagged (m : Mode) (isOn : Bool) : List Char → Mode
  | [] => m
  | c :: rest =>
    if c = '-' then m.flagged false rest
    else if c = 'i' then { m with ignoresCase := isOn }.flagged isOn rest
    else if c = 'u' then { m with isUnicode := isOn }.flagged isOn rest
    else if c = 'x' then { m with isSpaced := isOn }.flagged isOn rest
    else m.flagged isOn rest

end Mode

/-! ## Heights -/

/-- Parts that stand side by side: how many they are, and the height of the highest. -/
structure Siblings where
  count : Nat := 0
  height : Nat := 0
deriving DecidableEq

namespace Siblings

/-- One more part. -/
def add (s : Siblings) (height : Nat) : Siblings := ⟨s.count + 1, max s.height height⟩

/-- The height of the parts together. Several are higher by one than the highest of them. -/
def total (s : Siblings) : Nat := if s.count < 2 then s.height else s.height + 1

end Siblings

end DevicePower.Log.Pattern
