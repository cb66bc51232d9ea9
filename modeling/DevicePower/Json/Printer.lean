import DevicePower.Decimal.Shortest
import DevicePower.Json.Value
import DevicePower.Text.Hexadecimal

/-!
# Printing JSON values

A value is printed on one line without blanks, or over several lines with two blanks per level.
Quotes, backslashes and ASCII controls in texts are escaped and nothing else is, so a printed value
has no line break of its own.

The members of an object are printed in their order. That order means nothing to a reader: a program
that keeps its payloads and the lines of its log in maps prints the same members sorted by name.

## Main results

* `newline_notMem_escape`: an escaped character holds no line break.
-/

namespace DevicePower.Json

/-- A character as it stands in a printed text. -/
def escape (c : Char) : List Char :=
  if c = '"' then ['\\', '"']
  else if c = '\\' then ['\\', '\\']
  else if c = '\x08' then ['\\', 'b']
  else if c = '\x0c' then ['\\', 'f']
  else if c = '\n' then ['\\', 'n']
  else if c = '\r' then ['\\', 'r']
  else if c = '\t' then ['\\', 't']
  else if c.toNat < 0x20 then
    ['\\', 'u', '0', '0', Text.hexDigit (c.toNat / 16), Text.hexDigit (c.toNat % 16)]
  else [c]

/-- A text as it is printed. -/
def printText (s : String) : List Char := '"' :: s.toList.flatMap escape ++ ['"']

/-- A number as it is printed. -/
def printNumber : Number → List Char
  | .integer i => Text.integer i
  | .double x => x.text

mutual

/-- A value on one line. -/
def print : Value → List Char
  | .null => ['n', 'u', 'l', 'l']
  | .bool true => ['t', 'r', 'u', 'e']
  | .bool false => ['f', 'a', 'l', 's', 'e']
  | .number n => printNumber n
  | .text s => printText s
  | .list xs => '[' :: printItems xs ++ [']']
  | .object ms => '{' :: printMembers ms ++ ['}']

/-- The items of a list, with commas between them. -/
def printItems : List Value → List Char
  | [] => []
  | [x] => print x
  | x :: y :: rest => print x ++ ',' :: printItems (y :: rest)

/-- The members of an object, with commas between them. -/
def printMembers : List (String × Value) → List Char
  | [] => []
  | [(name, x)] => printText name ++ ':' :: print x
  | (name, x) :: y :: rest => printText name ++ ':' :: print x ++ ',' :: printMembers (y :: rest)

end

/-- A new line at a level. -/
def newLine (level : Nat) : List Char := '\n' :: List.replicate (2 * level) ' '

mutual

/-- A value over several lines. -/
def pretty (level : Nat) : Value → List Char
  | .list [] => ['[', ']']
  | .object [] => ['{', '}']
  | .list (x :: xs) =>
    '[' :: newLine (level + 1) ++ prettyItems (level + 1) (x :: xs) ++ newLine level ++ [']']
  | .object (m :: ms) =>
    '{' :: newLine (level + 1) ++ prettyMembers (level + 1) (m :: ms) ++ newLine level ++ ['}']
  | .null => print .null
  | .bool b => print (.bool b)
  | .number n => print (.number n)
  | .text s => print (.text s)

/-- The items of a list, one on a line. -/
def prettyItems (level : Nat) : List Value → List Char
  | [] => []
  | [x] => pretty level x
  | x :: y :: rest => pretty level x ++ ',' :: newLine level ++ prettyItems level (y :: rest)

/-- The members of an object, one on a line. -/
def prettyMembers (level : Nat) : List (String × Value) → List Char
  | [] => []
  | [(name, x)] => printText name ++ ':' :: ' ' :: pretty level x
  | (name, x) :: y :: rest =>
    printText name ++ ':' :: ' ' :: pretty level x ++ ',' :: newLine level
      ++ prettyMembers level (y :: rest)

end

/-- A value as a one-line string. -/
def Value.line (v : Value) : String := String.ofList (print v)

/-- A value as a string of several lines. -/
def Value.lines (v : Value) : String := String.ofList (pretty 0 v)

/-- An escaped character holds no line break. -/
theorem newline_notMem_escape (c : Char) : '\n' ∉ escape c := by
  have hDigit : ∀ n, n < 16 → '\n' ≠ Text.hexDigit n := by decide
  unfold escape
  by_cases hLine : c = '\n'
  · subst hLine; decide
  · have hOther : '\n' ≠ c := Ne.symm hLine
    repeat' split
    all_goals try simp [hOther]
    exact ⟨hDigit _ (by omega), hDigit _ (by omega)⟩

end DevicePower.Json
