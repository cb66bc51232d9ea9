import DevicePower.Json.Value
import DevicePower.Text.Hexadecimal

/-!
# Tokens of a JSON text

A JSON text is read in two steps: characters to tokens here, tokens to values in
`DevicePower.Json.Decoder`. A reader asks for one kind of value at a time and reports the first
thing that disappoints it, so a token that is malformed inside is no failure yet: it carries its
failure with it, and the reader meets it only if it gets that far.

Texts and numbers carry two verdicts. The strict one is for values that are wanted and holds the
value. The loose one is for values that are passed over: there the pairing of surrogate escapes and
the size of numbers do not matter.

## Main results

* `length_scanToken_le`: a token uses up its first character, so scanning ends.
-/

namespace DevicePower.Json

/-- What can be wrong with the form of a JSON text. -/
inductive Malformed where
  | endInValue
  | endInObject
  | endInList
  | endInText
  | expectedValue
  | expectedWord
  | expectedColon
  | expectedListEnd
  | expectedObjectEnd
  | keyNotText
  | trailingComma
  | trailingCharacters
  | badNumber
  | numberTooLarge
  | badEscape
  | leadUnitAlone
  | unpairedUnit
  | controlCharacter
  | tooDeep
deriving DecidableEq

/-- The wording of each defect. -/
def Malformed.message : Malformed → String
  | endInValue => "EOF while parsing a value"
  | endInObject => "EOF while parsing an object"
  | endInList => "EOF while parsing a list"
  | endInText => "EOF while parsing a string"
  | expectedValue => "expected value"
  | expectedWord => "expected ident"
  | expectedColon => "expected `:`"
  | expectedListEnd => "expected `,` or `]`"
  | expectedObjectEnd => "expected `,` or `\x7d`"
  | keyNotText => "key must be a string"
  | trailingComma => "trailing comma"
  | trailingCharacters => "trailing characters"
  | badNumber => "invalid number"
  | numberTooLarge => "number out of range"
  | badEscape => "invalid escape"
  | leadUnitAlone => "unexpected end of hex escape"
  | unpairedUnit => "lone leading surrogate in hex escape"
  | controlCharacter => "control character (\\u0000-\\u001F) found while parsing a string"
  | tooDeep => "recursion limit exceeded"

/-- The three words of JSON. -/
inductive Word where
  | null
  | yes
  | no
deriving DecidableEq

/-- How a word is spelled. -/
def Word.spelling : Word → List Char
  | null => ['n', 'u', 'l', 'l']
  | yes => ['t', 'r', 'u', 'e']
  | no => ['f', 'a', 'l', 's', 'e']

/-- A token, with its failure if it is malformed inside. -/
inductive Token where
  | openList
  | closeList
  | openObject
  | closeObject
  | comma
  | colon
  | word (read : Except Malformed Word)
  | number (strict : Except Malformed Number) (loose : Except Malformed Unit)
  | text (strict : Except Malformed String) (loose : Except Malformed Unit)
  /-- A character that begins no token. -/
  | stray

/-! ## Texts -/

/-- How far a text has been read strictly: the characters so far, last first; the same with the
first half of a surrogate pair waiting for its second; or the first failure. -/
inductive Reading where
  | soFar (done : List Char)
  | lead (done : List Char) (unit : Nat)
  | failed (reason : Malformed)

namespace Reading

/-- Takes a character that is not part of a `\u` escape. -/
def char (c : Char) : Reading → Reading
  | soFar done => soFar (c :: done)
  | lead _ _ => failed .leadUnitAlone
  | failed reason => failed reason

/-- Takes the 16-bit unit of a `\u` escape. -/
def unit (n : Nat) : Reading → Reading
  | soFar done =>
    if 0xDC00 ≤ n ∧ n ≤ 0xDFFF then failed .unpairedUnit
    else if 0xD800 ≤ n ∧ n ≤ 0xDBFF then lead done n
    else soFar (Char.ofNat n :: done)
  | lead done high =>
    if 0xDC00 ≤ n ∧ n ≤ 0xDFFF then
      soFar (Char.ofNat (0x10000 + (high - 0xD800) * 0x400 + (n - 0xDC00)) :: done)
    else failed .unpairedUnit
  | failed reason => failed reason

/-- Meets something that is wrong after any character and, where a second half is awaited, is not
even the start of one. -/
def stop (reason : Malformed) : Reading → Malformed
  | soFar _ => reason
  | lead _ _ => .leadUnitAlone
  | failed first => first

/-- Meets something that is wrong in either place. -/
def stopAnywhere (reason : Malformed) : Reading → Malformed
  | failed first => first
  | _ => reason

/-- Meets the closing quote. -/
def close : Reading → Except Malformed String
  | soFar done => .ok (String.ofList done.reverse)
  | lead _ _ => .error .leadUnitAlone
  | failed reason => .error reason

end Reading

/-- The value of four hexadecimal digits. -/
def hexUnit? (a b c d : Char) : Option Nat := do
  return (← Text.hexValue? a) * 0x1000 + (← Text.hexValue? b) * 0x100 + (← Text.hexValue? c) * 0x10
    + (← Text.hexValue? d)

/-- The character that a one-letter escape stands for. -/
def escaped? (c : Char) : Option Char :=
  match c with
  | '"' => some '"'
  | '\\' => some '\\'
  | '/' => some '/'
  | 'b' => some '\x08'
  | 'f' => some '\x0c'
  | 'n' => some '\n'
  | 'r' => some '\r'
  | 't' => some '\t'
  | _ => none

/-- A text token that ends in a failure of both verdicts. -/
def badText (strict loose : Malformed) : Token × List Char :=
  (.text (.error strict) (.error loose), [])

/-- What is wrong with a `\u` escape that has fewer than four characters after it. The four digits
are counted in bytes, so a few characters outside ASCII can fill the place. -/
def shortEscape (rest : List Char) : Malformed :=
  if 4 ≤ (String.ofList rest).utf8ByteSize then .badEscape else .endInText

/-- Reads a text after its opening quote. -/
def scanText (reading : Reading) : List Char → Token × List Char
  | [] => badText (reading.stopAnywhere .endInText) .endInText
  | '"' :: rest => (.text reading.close (.ok ()), rest)
  | '\\' :: 'u' :: a :: b :: c :: d :: rest =>
    match hexUnit? a b c d with
    | some n => scanText (reading.unit n) rest
    | none => badText (reading.stopAnywhere .badEscape) .badEscape
  | '\\' :: 'u' :: rest =>
    badText (reading.stopAnywhere (shortEscape rest)) (shortEscape rest)
  | ['\\'] => badText (reading.stopAnywhere .endInText) .endInText
  | '\\' :: e :: rest =>
    match escaped? e with
    | some c => scanText (reading.char c) rest
    | none => badText (reading.stop .badEscape) .badEscape
  | c :: rest =>
    if c.toNat < 0x20 then badText (reading.stop .controlCharacter) .controlCharacter
    else scanText (reading.char c) rest

/-! ## Numbers -/

/-- A number token that fails by both verdicts. Where a digit is missing, the strict verdict says
whether the text ended there. -/
def badNumber (rest : List Char) : Token × List Char :=
  (.number (.error (if rest.isEmpty then .endInValue else .badNumber)) (.error .badNumber), rest)

/-- A number token for a literal with a fraction or an exponent. -/
def decimalToken (negative : Bool) (l : Decimal.Literal) : Token :=
  .number
    (match l.toDouble? negative with
      | some x => .ok (.double x)
      | none => .error .numberTooLarge)
    (.ok ())

/-- Whether a character is an ASCII digit. -/
def isDigit (c : Char) : Bool := '0' ≤ c && c ≤ '9'

/-- The value of a digit. -/
def digitValue (d : Char) : Nat := d.toNat - '0'.toNat

/-- Reads the exponent of a literal, after its mark. -/
def scanExponent (negative : Bool) (l : Decimal.Literal) (cs : List Char) :
    Token × List Char :=
  let (minus, body) := match cs with
    | '-' :: rest => (true, rest)
    | '+' :: rest => (false, rest)
    | _ => (false, cs)
  let ds := body.takeWhile isDigit
  let rest := body.dropWhile isDigit
  if ds.isEmpty then badNumber rest
  else
    let shift := ds.foldl (fun n d => min Decimal.Literal.farShift (10 * n + digitValue d)) 0
    let exponent := if minus then l.exponent - shift else l.exponent + shift
    (decimalToken negative { l with exponent }, rest)

/-- Reads the fraction of a literal, after its point. -/
def scanFraction (negative : Bool) (l : Decimal.Literal) (cs : List Char) :
    Token × List Char :=
  let ds := cs.takeWhile isDigit
  let rest := cs.dropWhile isDigit
  if ds.isEmpty then badNumber rest
  else
    let l := ds.foldl (fun l d => l.fraction (digitValue d)) l.point
    match rest with
    | 'e' :: after | 'E' :: after => scanExponent negative l after
    | _ => (decimalToken negative l, rest)

/-- Reads what may follow the whole part of a literal. -/
def scanAfterWhole (negative : Bool) (l : Decimal.Literal) (cs : List Char) :
    Token × List Char :=
  match cs with
  | '.' :: rest => scanFraction negative l rest
  | 'e' :: rest | 'E' :: rest => scanExponent negative l rest
  | _ =>
    (.number
      (match Number.ofWhole? negative l with
        | some x => .ok x
        | none => .error .numberTooLarge)
      (.ok ()), cs)

/-- Reads a number after its minus sign, if it has one. A zero may not lead. -/
def scanNumber (negative : Bool) (cs : List Char) : Token × List Char :=
  match cs with
  | '0' :: rest =>
    if (rest.head?.map isDigit).getD false then
      (.number (.error .badNumber) (.error .badNumber), rest)
    else scanAfterWhole negative {} rest
  | _ =>
    let ds := cs.takeWhile isDigit
    let rest := cs.dropWhile isDigit
    if ds.isEmpty then badNumber rest
    else scanAfterWhole negative (ds.foldl (fun l d => l.whole (digitValue d)) {}) rest

/-! ## Words and marks -/

/-- Reads the rest of a word. -/
def scanWord (w : Word) (spelling cs : List Char) : Token × List Char :=
  match spelling, cs with
  | [], rest => (.word (.ok w), rest)
  | _ :: _, [] => (.word (.error .endInValue), [])
  | s :: spelling, c :: rest =>
    if s = c then scanWord w spelling rest else (.word (.error .expectedWord), rest)

/-- Whether a character may stand between tokens. -/
def isGap (c : Char) : Bool := c == ' ' || c == '\n' || c == '\t' || c == '\r'

/-- Reads the token that starts with `c`. -/
def scanToken (c : Char) (rest : List Char) : Token × List Char :=
  match c with
  | '[' => (.openList, rest)
  | ']' => (.closeList, rest)
  | '{' => (.openObject, rest)
  | '}' => (.closeObject, rest)
  | ',' => (.comma, rest)
  | ':' => (.colon, rest)
  | '"' => scanText (.soFar []) rest
  | 'n' => scanWord .null Word.null.spelling.tail rest
  | 't' => scanWord .yes Word.yes.spelling.tail rest
  | 'f' => scanWord .no Word.no.spelling.tail rest
  | '-' => scanNumber true rest
  | _ => if isDigit c then scanNumber false (c :: rest) else (.stray, rest)

/-! ## What is left gets shorter -/

theorem length_scanText_le (reading : Reading) (cs : List Char) :
    (scanText reading cs).2.length ≤ cs.length := by
  fun_induction scanText reading cs <;> simp_all [badText] <;> omega

theorem length_dropWhile_le (p : Char → Bool) (cs : List Char) :
    (cs.dropWhile p).length ≤ cs.length :=
  (List.dropWhile_sublist p).length_le

theorem length_badNumber (rest : List Char) : (badNumber rest).2.length = rest.length := rfl

theorem length_scanExponent_le (negative : Bool) (l : Decimal.Literal) (cs : List Char) :
    (scanExponent negative l cs).2.length ≤ cs.length := by
  unfold scanExponent
  split
  rename_i minus body hBody
  have hLe : body.length ≤ cs.length := by
    split at hBody <;> simp only [Prod.mk.injEq] at hBody <;> simp [← hBody.2]
  have hDrop := length_dropWhile_le isDigit body
  dsimp only
  split <;> simp only [length_badNumber] <;> omega

theorem length_scanFraction_le (negative : Bool) (l : Decimal.Literal) (cs : List Char) :
    (scanFraction negative l cs).2.length ≤ cs.length := by
  unfold scanFraction
  have hDrop := length_dropWhile_le isDigit cs
  dsimp only
  split
  · simp only [length_badNumber]; omega
  · split
    · next after hRest =>
      have := length_scanExponent_le negative
        ((cs.takeWhile isDigit).foldl (fun l d => l.fraction (digitValue d)) l.point) after
      rw [hRest] at hDrop
      simp only [List.length_cons] at hDrop
      omega
    · next after hRest =>
      have := length_scanExponent_le negative
        ((cs.takeWhile isDigit).foldl (fun l d => l.fraction (digitValue d)) l.point) after
      rw [hRest] at hDrop
      simp only [List.length_cons] at hDrop
      omega
    · omega

theorem length_scanAfterWhole_le (negative : Bool) (l : Decimal.Literal) (cs : List Char) :
    (scanAfterWhole negative l cs).2.length ≤ cs.length := by
  unfold scanAfterWhole
  split
  · next rest => have := length_scanFraction_le negative l rest; simp only [List.length_cons]; omega
  · next rest => have := length_scanExponent_le negative l rest; simp only [List.length_cons]; omega
  · next rest => have := length_scanExponent_le negative l rest; simp only [List.length_cons]; omega
  · exact Nat.le_refl _

/-- Reading a number leaves no more than there was. -/
theorem length_scanNumber_le (negative : Bool) (cs : List Char) :
    (scanNumber negative cs).2.length ≤ cs.length := by
  unfold scanNumber
  split
  · next rest =>
    have := length_scanAfterWhole_le negative {} rest
    split <;> simp only [List.length_cons] <;> omega
  · have hDrop := length_dropWhile_le isDigit cs
    dsimp only
    split
    · simp only [length_badNumber]; omega
    · have := length_scanAfterWhole_le negative
        ((cs.takeWhile isDigit).foldl (fun l d => l.whole (digitValue d)) {}) (cs.dropWhile isDigit)
      omega

/-- A number that begins with a digit uses it up. -/
theorem length_scanNumber_lt (negative : Bool) (c : Char) (rest : List Char)
    (h : isDigit c = true) : (scanNumber negative (c :: rest)).2.length < (c :: rest).length := by
  unfold scanNumber
  split
  · next tail heq =>
    simp only [List.cons.injEq] at heq
    obtain ⟨-, rfl⟩ := heq
    have := length_scanAfterWhole_le negative {} rest
    split <;> simp only [List.length_cons] <;> omega
  · have hDrop := length_dropWhile_le isDigit rest
    have hWhile : (c :: rest).dropWhile isDigit = rest.dropWhile isDigit := by
      simp [h]
    dsimp only
    rw [hWhile]
    split
    · simp only [length_badNumber, List.length_cons]; omega
    · have := length_scanAfterWhole_le negative
        (((c :: rest).takeWhile isDigit).foldl (fun l d => l.whole (digitValue d)) {})
        (rest.dropWhile isDigit)
      simp only [List.length_cons]; omega

theorem length_scanWord_le (w : Word) (spelling cs : List Char) :
    (scanWord w spelling cs).2.length ≤ cs.length := by
  fun_induction scanWord w spelling cs <;> grind

/-- Reading a token leaves no more than what stood after its first character. -/
theorem length_scanToken_le (c : Char) (rest : List Char) :
    (scanToken c rest).2.length ≤ rest.length := by
  unfold scanToken
  split
  any_goals exact Nat.le_refl _
  · exact length_scanText_le _ _
  · exact length_scanWord_le _ _ _
  · exact length_scanWord_le _ _ _
  · exact length_scanWord_le _ _ _
  · exact length_scanNumber_le _ _
  · split
    · next h =>
      have := length_scanNumber_lt false c rest h
      simp only [List.length_cons] at this
      omega
    · exact Nat.le_refl _

/-- The tokens of a text. -/
def scan : List Char → List Token
  | [] => []
  | c :: rest =>
    if isGap c then scan rest
    else (scanToken c rest).1 :: scan (scanToken c rest).2
termination_by cs => cs.length
decreasing_by
  · simp
  · have := length_scanToken_le c rest
    simp only [List.length_cons]
    omega

end DevicePower.Json
