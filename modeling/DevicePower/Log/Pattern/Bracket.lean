import DevicePower.Log.Pattern.Atom

/-!
# Characters between brackets

Brackets hold the characters that may stand at a place: single ones, ranges, named classes, and
other brackets. A caret at the start stands for all other characters. Two sets can be joined by an
operator: what is in both (`&&`), in the first alone (`--`), or in one alone (`~~`). Operators are
read from the left.
-/

namespace DevicePower.Log.Pattern

/-- Open brackets, as far as they have been read. -/
structure Bracket where
  /-- Whether the characters that are not named are meant. -/
  isNegated : Bool := false
  /-- The height of what stands left of the last operator. -/
  left : Option Nat := none
  /-- What stands behind it. -/
  items : Siblings := {}

namespace Bracket

/-- The height of what stands between the brackets. -/
def settled (b : Bracket) : Nat :=
  match b.left with
  | none => b.items.total
  | some height => max height b.items.total + 1

/-- The brackets behind an operator. -/
def operate (b : Bracket) : Bracket := { b with left := some b.settled, items := {} }

/-- The brackets with one more item. -/
def add (b : Bracket) (height : Nat) : Bracket := { b with items := b.items.add height }

/-- Whether brackets are allowed in a mode. All other bytes are no text. -/
def isAllowed (m : Mode) (b : Bracket) : Bool := m.isUnicode || !b.isNegated

end Bracket

/-! ## Items -/

/-- The names that may stand between `[:` and `:]`. -/
def classNames : List String :=
  ["alnum", "alpha", "ascii", "blank", "cntrl", "digit", "graph", "lower", "print", "punct",
   "space", "upper", "word", "xdigit"]

/-- Reads a named class, behind its opening bracket: whether a caret negates it, and what is behind
it. -/
def namedClass? : List Char → Option (Bool × List Char)
  | ':' :: rest =>
    let (isNegated, rest) := match rest with
      | '^' :: after => (true, after)
      | _ => (false, rest)
    match rest.span (· != ':') with
    | (name, ':' :: ']' :: after) =>
      if classNames.contains (String.ofList name) then some (isNegated, after) else none
    | _ => none
  | _ => none

/-- Whether a named class is allowed in a mode. -/
def isNameAllowed (m : Mode) (isNegated : Bool) : Bool :=
  if m.isUnicode then !m.ignoresCase else !isNegated

/-- Reads a character or an escape between brackets. -/
def itemAtom? (m : Mode) : List Char → Option (Atom × List Char)
  | [] => none
  | '\\' :: rest => escape? m rest
  | c :: rest => some (.char c false, rest)

/-- Passes over a range behind its dash, or over the single item `first` if there is no dash. A dash
before a closing bracket or another dash makes no range. -/
def itemEnd? (m : Mode) (first : Atom) (s : List Char) : Option (List Char) :=
  match m.next s with
  | '-' :: rest =>
    if m.ahead? rest = some ']' ∨ m.ahead? rest = some '-' then some ('-' :: rest)
    else do
      let (last, rest) ← itemAtom? m (m.next rest)
      match first, last with
      | .char c _, .char d _ => if c ≤ d ∧ last.isAllowedWithin m then some rest else none
      | _, _ => none
  | rest => some rest

/-- Passes over an item. -/
def item? (m : Mode) (s : List Char) : Option (List Char) := do
  let (first, rest) ← itemAtom? m s
  let rest ← itemEnd? m first rest
  if first.isAllowedWithin m then some rest else none

/-- Adds the dashes at the start of brackets, which stand for themselves. -/
def leadingDashes (m : Mode) : Nat → Bracket → List Char → Bracket × List Char
  | 0, b, s => (b, s)
  | rounds + 1, b, s =>
    match s with
    | '-' :: rest => leadingDashes m rounds (b.add 0) (m.next rest)
    | _ => (b, s)

/-- Reads the start of brackets, behind the opening one: a negation, and dashes or one closing
bracket that stand for themselves. -/
def bracketStart? (m : Mode) (s : List Char) : Option (Bracket × List Char) :=
  let (isNegated, s) := match m.next s with
    | '^' :: rest => (true, m.next rest)
    | rest => (false, rest)
  let (b, rest) := match s with
    | ']' :: rest => (({ isNegated } : Bracket).add 0, rest)
    | _ => leadingDashes m s.length { isNegated } s
  if b.items.count = 0 || (Atom.char '-' false).isAllowedWithin m then some (b, rest) else none

/-- Passes over the rest of brackets that lie in others: the height of the outermost, and what is
behind them. Each round uses up a character. -/
def bracketRest? (m : Mode) : Nat → Bracket → List Bracket → List Char → Option (Nat × List Char)
  | 0, _, _, _ => none
  | rounds + 1, b, outer, s =>
    match m.next s with
    | [] => none
    | '[' :: rest =>
      match namedClass? rest with
      | some (isNegated, rest) =>
        if isNameAllowed m isNegated then bracketRest? m rounds (b.add 0) outer rest else none
      | none =>
        (bracketStart? m rest).bind fun (inner, rest) =>
          bracketRest? m rounds inner (b :: outer) rest
    | ']' :: rest =>
      if b.isAllowed m then
        match outer with
        | [] => some (b.settled + 1, rest)
        | around :: outer => bracketRest? m rounds (around.add (b.settled + 1)) outer rest
      else none
    | '&' :: '&' :: rest => bracketRest? m rounds b.operate outer rest
    | '-' :: '-' :: rest => bracketRest? m rounds b.operate outer rest
    | '~' :: '~' :: rest => bracketRest? m rounds b.operate outer rest
    | rest => (item? m rest).bind fun rest => bracketRest? m rounds (b.add 0) outer rest

/-- Passes over brackets, behind the opening one: their height, and what is behind them. -/
def bracket? (m : Mode) (s : List Char) : Option (Nat × List Char) :=
  (bracketStart? m s).bind fun (b, rest) => bracketRest? m (s.length + 1) b [] rest

end DevicePower.Log.Pattern
