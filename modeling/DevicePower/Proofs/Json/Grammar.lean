import DevicePower.Json.Printer

/-!
# The grammar of JSON texts

This module says what a JSON text is, without a reader: which characters make up a number, what may
stand between the quotes of a text and which characters it spells, and how values, commas and blanks
make up a list or an object. Nesting may go to any depth, a number may be of any size, and half a
surrogate pair may be written between quotes; only then no text is spelled.

Two statements are made of a value's text. `IsValue` says that it is one, whatever its value is.
`Writes` says that it is a text of a given value, with any blanks and any escapes.

## Main results

* `spells_escape`, `writes_printText`: a printed text spells what was printed.
-/

namespace DevicePower.Json.Grammar

/-- Characters between the parts of a text. -/
def IsGap (cs : List Char) : Prop := ∀ c ∈ cs, c = ' ' ∨ c = '\n' ∨ c = '\t' ∨ c = '\r'

/-! ## Numbers -/

/-- One digit or more. -/
def IsDigits (cs : List Char) : Prop := cs ≠ [] ∧ ∀ c ∈ cs, '0' ≤ c ∧ c ≤ '9'

/-- The whole part of a number, in which no zero may lead. -/
inductive IsWhole : List Char → Prop
  | zero : IsWhole ['0']
  | other {d : Char} {ds : List Char} (hDigits : IsDigits (d :: ds)) (hLead : d ≠ '0') :
      IsWhole (d :: ds)

/-- The fraction of a number, if it has one. -/
inductive IsFraction : List Char → Prop
  | none : IsFraction []
  | some {ds : List Char} (hDigits : IsDigits ds) : IsFraction ('.' :: ds)

/-- The exponent of a number, if it has one. -/
inductive IsExponent : List Char → Prop
  | none : IsExponent []
  | some {mark : Char} {sign ds : List Char} (hMark : mark = 'e' ∨ mark = 'E')
      (hSign : sign = [] ∨ sign = ['+'] ∨ sign = ['-']) (hDigits : IsDigits ds) :
      IsExponent (mark :: (sign ++ ds))

/-- A number of any size. -/
inductive IsNumber : List Char → Prop
  | intro {sign whole fraction exponent : List Char} (hSign : sign = [] ∨ sign = ['-'])
      (hWhole : IsWhole whole) (hFraction : IsFraction fraction)
      (hExponent : IsExponent exponent) : IsNumber (sign ++ (whole ++ (fraction ++ exponent)))

/-! ## Texts -/

/-- A hexadecimal digit with its value, in either case. -/
def IsHexDigit (c : Char) (v : Nat) : Prop :=
  v < 16 ∧ (c = Nat.digitChar v ∨ c = (Nat.digitChar v).toUpper)

/-- The four digits of a 16-bit unit. -/
inductive IsUnit : List Char → Nat → Prop
  | intro {a b c d : Char} {w x y z : Nat} (hA : IsHexDigit a w) (hB : IsHexDigit b x)
      (hC : IsHexDigit c y) (hD : IsHexDigit d z) :
      IsUnit [a, b, c, d] (0x1000 * w + 0x100 * x + 0x10 * y + z)

/-- The escapes of one letter, with the characters that they stand for. -/
def shortEscapes : List (Char × Char) :=
  [('"', '"'), ('\\', '\\'), ('/', '/'), ('b', '\x08'), ('f', '\x0c'), ('n', '\n'), ('r', '\r'),
   ('t', '\t')]

/-- Whether a character may stand for itself between quotes. -/
def IsPlain (c : Char) : Prop := c ≠ '"' ∧ c ≠ '\\' ∧ 0x20 ≤ c.toNat

/-- What may stand between the quotes of a text. -/
inductive IsBody : List Char → Prop
  | nil : IsBody []
  | plain {c : Char} {cs : List Char} (hPlain : IsPlain c) (h : IsBody cs) : IsBody (c :: cs)
  | short {e c : Char} {cs : List Char} (hEscape : (e, c) ∈ shortEscapes) (h : IsBody cs) :
      IsBody ('\\' :: e :: cs)
  | unit {u cs : List Char} {n : Nat} (hUnit : IsUnit u n) (h : IsBody cs) :
      IsBody ('\\' :: 'u' :: (u ++ cs))

/-- What stands between quotes, and the characters that it spells. Units from `D800` to `DFFF` spell
a character in pairs only. -/
inductive Spells : List Char → List Char → Prop
  | nil : Spells [] []
  | plain {c : Char} {cs s : List Char} (hPlain : IsPlain c) (h : Spells cs s) :
      Spells (c :: cs) (c :: s)
  | short {e c : Char} {cs s : List Char} (hEscape : (e, c) ∈ shortEscapes) (h : Spells cs s) :
      Spells ('\\' :: e :: cs) (c :: s)
  | unit {u cs s : List Char} {n : Nat} (hUnit : IsUnit u n) (hWhole : n < 0xD800 ∨ 0xDFFF < n)
      (h : Spells cs s) : Spells ('\\' :: 'u' :: (u ++ cs)) (Char.ofNat n :: s)
  | pair {u w cs s : List Char} {high low : Nat} (hHigh : IsUnit u (0xD800 + high))
      (hLow : IsUnit w (0xDC00 + low)) (hHighSize : high < 0x400) (hLowSize : low < 0x400)
      (h : Spells cs s) :
      Spells ('\\' :: 'u' :: (u ++ '\\' :: 'u' :: (w ++ cs)))
        (Char.ofNat (0x10000 + 0x400 * high + low) :: s)

/-- A text between quotes. -/
def quotes (body : List Char) : List Char := '"' :: (body ++ ['"'])

/-- A character as it is printed spells itself. -/
theorem spells_escape (c : Char) {cs s : List Char} (h : Spells cs s) :
    Spells (escape c ++ cs) (c :: s) := by
  have hShort : ∀ e, (e, c) ∈ shortEscapes → Spells ('\\' :: e :: cs) (c :: s) :=
    fun e hEscape => .short hEscape h
  unfold escape
  split
  · next hQuote => subst hQuote; exact hShort '"' (by decide)
  split
  · next hSlash => subst hSlash; exact hShort '\\' (by decide)
  split
  · next hBack => subst hBack; exact hShort 'b' (by decide)
  split
  · next hFeed => subst hFeed; exact hShort 'f' (by decide)
  split
  · next hLine => subst hLine; exact hShort 'n' (by decide)
  split
  · next hReturn => subst hReturn; exact hShort 'r' (by decide)
  split
  · next hTab => subst hTab; exact hShort 't' (by decide)
  split
  · next hControl =>
    have hDigit : ∀ {v : Nat}, v < 16 → IsHexDigit (Text.hexDigit v) v := fun hv => ⟨hv, Or.inl rfl⟩
    have hUnit := IsUnit.intro (hDigit (v := 0) (by decide)) (hDigit (v := 0) (by decide))
      (hDigit (v := c.toNat / 16) (by omega)) (hDigit (v := c.toNat % 16) (by omega))
    have hNumber : 0x1000 * 0 + 0x100 * 0 + 0x10 * (c.toNat / 16) + c.toNat % 16 = c.toNat := by
      omega
    rw [hNumber] at hUnit
    have hSpells := Spells.unit hUnit (by omega) h
    rwa [Char.ofNat_toNat] at hSpells
  · next hQuote hSlash _ _ _ _ _ hControl =>
    exact .plain ⟨hQuote, hSlash, Nat.le_of_not_lt hControl⟩ h

theorem spells_flatMap_escape (s : List Char) : Spells (s.flatMap escape) s := by
  induction s with
  | nil => exact .nil
  | cons c rest ih =>
    rw [List.flatMap_cons]
    exact spells_escape c ih

/-! ## Lists and objects -/

/-- Parts with commas between them, and blanks around each. -/
inductive Separated : List (List Char) → List Char → Prop
  | last {x g g' : List Char} (hBefore : IsGap g) (hBehind : IsGap g') :
      Separated [x] (g ++ (x ++ g'))
  | cons {x g g' cs : List Char} {xs : List (List Char)} (hBefore : IsGap g) (hBehind : IsGap g')
      (hRest : Separated xs cs) : Separated (x :: xs) (g ++ (x ++ (g' ++ ',' :: cs)))

/-- Parts between brackets. -/
inductive Bracketed (left right : Char) : List (List Char) → List Char → Prop
  | empty {g : List Char} (hGap : IsGap g) : Bracketed left right [] (left :: (g ++ [right]))
  | parts {xs : List (List Char)} {cs : List Char} (hParts : Separated xs cs) :
      Bracketed left right xs (left :: (cs ++ [right]))

/-- A member of an object as it is written. -/
structure Member where
  /-- The name, without its quotes. -/
  body : List Char
  /-- Blanks before the colon. -/
  before : List Char
  /-- Blanks behind the colon. -/
  behind : List Char
  value : List Char

namespace Member

/-- All of a member. -/
def text (m : Member) : List Char := quotes m.body ++ (m.before ++ ':' :: (m.behind ++ m.value))

/-- Whether a member is well formed but for its value. -/
structure IsLaidOut (m : Member) : Prop where
  body : IsBody m.body
  before : IsGap m.before
  behind : IsGap m.behind

/-- Whether a member has this name and is well formed but for its value. -/
structure HasName (m : Member) (name : String) : Prop where
  spells : Spells m.body name.toList
  before : IsGap m.before
  behind : IsGap m.behind

end Member

/-- A text of some value. -/
inductive IsValue : List Char → Prop
  | null : IsValue ['n', 'u', 'l', 'l']
  | yes : IsValue ['t', 'r', 'u', 'e']
  | no : IsValue ['f', 'a', 'l', 's', 'e']
  | number {cs : List Char} (hNumber : IsNumber cs) : IsValue cs
  | text {body : List Char} (hBody : IsBody body) : IsValue (quotes body)
  | list {xs : List (List Char)} {cs : List Char} (hItems : ∀ x ∈ xs, IsValue x)
      (hText : Bracketed '[' ']' xs cs) : IsValue cs
  | object {ms : List Member} {cs : List Char} (hNames : ∀ m ∈ ms, m.IsLaidOut)
      (hValues : ∀ m ∈ ms, IsValue m.value)
      (hText : Bracketed '{' '}' (ms.map Member.text) cs) : IsValue cs

/-- A text of a given value: a truth value, an integer, a text, or a list of such. -/
inductive Writes : Value → List Char → Prop
  | yes : Writes (.bool true) ['t', 'r', 'u', 'e']
  | no : Writes (.bool false) ['f', 'a', 'l', 's', 'e']
  | int (i : Int) : Writes (.int i) (Text.integer i)
  | text {s : String} {body : List Char} (hBody : Spells body s.toList) :
      Writes (.text s) (quotes body)
  | list {xs : List (Value × List Char)} {cs : List Char} (hItems : ∀ x ∈ xs, Writes x.1 x.2)
      (hText : Bracketed '[' ']' (xs.map Prod.snd) cs) : Writes (.list (xs.map Prod.fst)) cs

theorem writes_printText (s : String) : Writes (.text s) (printText s) :=
  .text (spells_flatMap_escape s.toList)

end DevicePower.Json.Grammar
