import DevicePower.Log.Pattern.Bracket
import DevicePower.Text.Alphanumeric
import DevicePower.Text.Lowercase

/-!
# Patterns for the values of fields

A directive can ask that a field have a value, by a number or by a regular expression. No record is
ever compared with one, because values are asked of spans alone; what matters is whether a text is a
regular expression at all. So a pattern is read for its form and its height, and nothing is kept of
what it matches. Back references and looking around belong to no pattern here.
-/

namespace DevicePower.Log.Pattern

/-! ## Open groups -/

/-- The last item of a row. -/
structure Item where
  height : Nat
  isRepeatable : Bool := true

/-- A group that is open, or the pattern around all groups, as far as it has been read. -/
structure Level where
  /-- The mode outside. -/
  around : Mode := {}
  /-- The alternatives before the last bar. -/
  branches : Siblings := {}
  /-- The row of items behind it, but for the last item. -/
  row : Siblings := {}
  last : Option Item := none

namespace Level

/-- All items of the row. -/
def items (l : Level) : Siblings :=
  match l.last with
  | none => l.row
  | some item => l.row.add item.height

/-- The level with one more item. -/
def add (l : Level) (item : Item) : Level := { l with row := l.items, last := some item }

/-- The level behind a bar. -/
def divide (l : Level) : Level :=
  { l with branches := l.branches.add l.items.total, row := {}, last := none }

/-- The level after its last item has been made to repeat, if it can be. -/
def repeat? (l : Level) : Option Level :=
  (l.last.filter fun item => item.isRepeatable).map fun item =>
    { l with last := some { item with height := item.height + 1 } }

/-- The height of what the level holds. -/
def height (l : Level) : Nat := (l.branches.add l.items.total).total

end Level

/-- How far the reading of a pattern is. -/
structure Reading where
  mode : Mode := {}
  /-- The names that groups have. -/
  names : List (List Char) := []
  level : Level := {}
  /-- The levels around, the nearest first. -/
  outer : List Level := []

namespace Reading

/-- One more item. -/
def add (r : Reading) (item : Item) : Reading := { r with level := r.level.add item }

/-- The start of a group, in a mode of its own. -/
def descend (r : Reading) (mode : Mode) : Reading :=
  { r with mode, level := { around := r.mode }, outer := r.level :: r.outer }

/-- The end of a group. The mode is as before it. -/
def ascend? (r : Reading) : Option Reading :=
  match r.outer with
  | [] => none
  | around :: outer =>
    some { r with
      mode := r.level.around
      level := around.add { height := r.level.height + 1 }
      outer }

end Reading

/-! ## The start of a group -/

/-- Reads a row of flags up to the character behind it. A flag stands once; a dash, which turns the
flags behind it off, stands once and before a flag. -/
def flags? (seen : List Char) : List Char → Option (List Char × List Char)
  | [] => none
  | c :: rest =>
    if c = ':' ∨ c = ')' then
      if seen.head? = some '-' then none else some (seen.reverse, c :: rest)
    else if ['-', 'i', 'm', 's', 'U', 'u', 'R', 'x'].contains c && !seen.contains c then
      flags? (c :: seen) rest
    else none

/-- Reads the name of a group and the bracket behind it. -/
def groupName? (s : List Char) : Option (List Char × List Char) :=
  match s.span (· != '>') with
  | (c :: more, '>' :: rest) =>
    if (c == '_' || Text.isAlphabetic c)
        && more.all fun d => "_.[]".toList.contains d || Text.isAlphanumeric d then
      some (c :: more, rest)
    else none
  | _ => none

/-- Reads the start of a group with a name, which no other group has. -/
def named? (r : Reading) (s : List Char) : Option (Reading × List Char) :=
  (groupName? s).bind fun (name, rest) =>
    if r.names.contains name then none
    else some ({ r with names := name :: r.names }.descend r.mode, rest)

/-- Reads the start of a group, behind its opening bracket, or flags that take the place of one. -/
def opening? (r : Reading) (s : List Char) : Option (Reading × List Char) :=
  match r.mode.next s with
  | '?' :: 'P' :: '<' :: rest => named? r rest
  | '?' :: '<' :: rest => named? r rest
  | '?' :: rest =>
    match flags? [] rest with
    | some (flags, ':' :: rest) => some (r.descend (r.mode.flagged true flags), rest)
    | some (flag :: flags, ')' :: rest) =>
      some ({ r with mode := r.mode.flagged true (flag :: flags) }.add ⟨0, false⟩, rest)
    | _ => none
  | rest => some (r.descend r.mode, rest)

/-! ## Whole patterns -/

/-- The atom that a character is by itself. -/
def atomOf (c : Char) : Atom :=
  if c = '.' then .any else if c = '^' ∨ c = '$' then .margin else .char c false

/-- The height of a pattern whose rest is given. Each round uses up a character. A count of
repetitions cannot stand in a directive, whose field ends with the first closing brace. -/
def height? : Nat → Reading → List Char → Option Nat
  | 0, _, _ => none
  | rounds + 1, r, s =>
    match r.mode.next s with
    | [] => if r.outer.isEmpty then some r.level.height else none
    | '(' :: rest => (opening? r rest).bind fun (r, rest) => height? rounds r rest
    | ')' :: rest => r.ascend?.bind fun r => height? rounds r rest
    | '|' :: rest => height? rounds { r with level := r.level.divide } rest
    | '[' :: rest =>
      (bracket? r.mode rest).bind fun (height, rest) => height? rounds (r.add { height }) rest
    | '{' :: _ => none
    | '\\' :: rest =>
      (escape? r.mode rest).bind fun (atom, rest) =>
        if atom.isAllowed r.mode then height? rounds (r.add { height := 0 }) rest else none
    | c :: rest =>
      if c = '*' ∨ c = '+' ∨ c = '?' then
        r.level.repeat?.bind fun level =>
          height? rounds { r with level } (if rest.head? = some '?' then rest.tail else rest)
      else if (atomOf c).isAllowed r.mode then height? rounds (r.add { height := 0 }) rest
      else none

/-- How high a pattern may be. -/
def greatestHeight : Nat := 250

/-- Whether `s` is a regular expression. -/
def isPattern (s : List Char) : Bool :=
  (height? (s.length + 1) {} s).any fun height => height ≤ greatestHeight

/-! ## Values -/

/-- Whether `s` is a decimal number without a sign, or the name of an infinity or of no number. -/
def isUnsignedDecimal (s : List Char) : Bool :=
  let isName := ["inf", "infinity", "nan"].any fun name => Text.spells (String.ofList s) name
  let (whole, rest) := s.span Char.isDigit
  let (fraction, rest) := match rest with
    | '.' :: rest => rest.span Char.isDigit
    | _ => ([], rest)
  let isExponent := match rest with
    | [] => true
    | c :: rest =>
      let digits := match rest with
        | '+' :: digits => digits
        | '-' :: digits => digits
        | _ => rest
      (c = 'e' || c = 'E') && !digits.isEmpty && digits.all Char.isDigit
  isName || (!(whole ++ fraction).isEmpty && isExponent)

/-- Whether a value can be asked for by `s`. A number can, also with a plus in front; any other
number is a pattern anyway. -/
def isValue (s : List Char) : Bool :=
  match s with
  | '+' :: rest => isUnsignedDecimal rest
  | _ => isPattern s

end DevicePower.Log.Pattern
