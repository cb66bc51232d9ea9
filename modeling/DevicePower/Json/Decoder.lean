import DevicePower.Json.Skip
import DevicePower.Decimal.Shortest
import DevicePower.Text.Quoted

/-!
# Reading typed values from JSON

A document is read for what is expected at each place, from left to right, and the first thing that
is not as expected is the answer: a failure deep inside an early member comes before a broken comma
further on. A record is read from an object, whose members may come in any order, or from a list of
its fields in order.

## Main results

* `record`: the one reader of records, from a table of fields.
-/

namespace DevicePower.Json

/-- What kind of value was found. -/
inductive Found where
  | null
  | bool (value : Bool)
  | number (value : Number)
  | text (value : String)
  | list
  | object

/-- How a found value is called in a message. -/
def Found.message : Found → String
  | null => "null"
  | bool true => "boolean `true`"
  | bool false => "boolean `false`"
  | number (.integer i) => "integer `" ++ Text.integerText i ++ "`"
  | number (.double x) => "floating point `" ++ String.ofList x.text ++ "`"
  | text s => "string " ++ Text.quoted s
  | list => "sequence"
  | object => "map"

/-- Why a document could not be read. -/
inductive ReadError where
  | malformed (reason : Malformed)
  | wrongKind (found : Found) (expected : String)
  | outOfRange (value : Int) (expected : String)
  | wrongLength (length : Nat) (expected : String)
  | unknownVariant (name : String) (known : List String)
  | missingField (name : String)
  | duplicateField (name : String)

/-- A name between backquotes. -/
def ticked (name : String) : String := "`" ++ name ++ "`"

/-- How the known names of an enumeration are listed. -/
def listed : List String → String
  | [] => "there are no variants"
  | [a] => "expected " ++ ticked a
  | [a, b] => "expected " ++ ticked a ++ " or " ++ ticked b
  | names => "expected one of " ++ String.intercalate ", " (names.map ticked)

/-- The wording of each failure. -/
def ReadError.message : ReadError → String
  | malformed reason => reason.message
  | wrongKind found expected => "invalid type: " ++ found.message ++ ", expected " ++ expected
  | outOfRange value expected =>
    "invalid value: integer " ++ ticked (Text.integerText value) ++ ", expected " ++ expected
  | wrongLength length expected =>
    "invalid length " ++ Text.naturalText length ++ ", expected " ++ expected
  | unknownVariant name known => "unknown variant " ++ ticked name ++ ", " ++ listed known
  | missingField name => "missing field " ++ ticked name
  | duplicateField name => "duplicate field " ++ ticked name

/-- A reader of one value: it gives a failure, or the value and the tokens after it. -/
abbrev Decoder (α : Type) := List Token → Except ReadError (α × List Token)

namespace Decoder

/-- A value read in place of another. -/
def map {α β : Type} (f : α → β) (d : Decoder α) : Decoder β := fun tokens =>
  match d tokens with
  | .ok (a, rest) => .ok (f a, rest)
  | .error e => .error e

/-- A failure of form. -/
def malformed {α : Type} (reason : Malformed) : Except ReadError (α × List Token) :=
  .error (.malformed reason)

/-- The failure to find `expected` at a token that is something else. -/
def wrongKind {α : Type} (expected : String) (token : Token) : Except ReadError (α × List Token) :=
  let found (f : Found) : Except ReadError (α × List Token) := .error (.wrongKind f expected)
  match token with
  | .word (.ok .null) => found .null
  | .word (.ok .yes) => found (.bool true)
  | .word (.ok .no) => found (.bool false)
  | .word (.error reason) => malformed reason
  | .number (.ok n) _ => found (.number n)
  | .number (.error reason) _ => malformed reason
  | .text (.ok s) _ => found (.text s)
  | .text (.error reason) _ => malformed reason
  | .openList => found .list
  | .openObject => found .object
  | _ => malformed .expectedValue

/-- Reads a text. -/
def text (expected : String) : Decoder String
  | [] => malformed .endInValue
  | .text (.ok s) _ :: rest => .ok (s, rest)
  | token :: _ => wrongKind expected token

/-- Reads a truth value. -/
def bool : Decoder Bool
  | [] => malformed .endInValue
  | .word (.ok .yes) :: rest => .ok (true, rest)
  | .word (.ok .no) :: rest => .ok (false, rest)
  | token :: _ => wrongKind "a boolean" token

/-- Reads null. -/
def unit : Decoder Unit
  | [] => malformed .endInValue
  | .word (.ok .null) :: rest => .ok ((), rest)
  | token :: _ => wrongKind "unit" token

/-- Reads an integer from `low` to `high`. -/
def integer (expected : String) (low high : Int) : Decoder Int
  | [] => malformed .endInValue
  | .number (.ok (.integer i)) _ :: rest =>
    if low ≤ i ∧ i ≤ high then .ok (i, rest) else .error (.outOfRange i expected)
  | token :: _ => wrongKind expected token

/-- Reads null as nothing and anything else with `d`. -/
def optional {α : Type} (d : Decoder α) : Decoder (Option α)
  | .word (.ok .null) :: rest => .ok (none, rest)
  | .word (.error reason) :: _ => malformed reason
  | tokens => map some d tokens

/-- The value with a name in a table of names. -/
def choose {α : Type} (table : List (String × α)) (name : String) : Except ReadError α :=
  match table.find? fun entry => entry.1 == name with
  | some entry => .ok entry.2
  | none => .error (.unknownVariant name (table.map Prod.fst))

/-- Reads the name of the only member of an object. -/
def variantName : Decoder String
  | [] => malformed .endInObject
  | .text (.ok name) _ :: rest => .ok (name, rest)
  | .text (.error reason) _ :: _ => malformed reason
  | .closeObject :: _ => malformed .expectedValue
  | _ => malformed .keyNotText

/-- Reads a name from a table, given as a text or as the only member of an object, whose value is
null. -/
def variant {α : Type} (table : List (String × α)) : Decoder α
  | [] => malformed .endInValue
  | .text (.ok name) _ :: rest => (choose table name).map fun a => (a, rest)
  | .text (.error reason) _ :: _ => malformed reason
  | .openObject :: rest => do
    let (name, rest) ← variantName rest
    let a ← choose table name
    match rest with
    | [] => malformed .endInObject
    | .colon :: rest =>
      let (_, rest) ← unit rest
      match rest with
      | [] => malformed .endInObject
      | .closeObject :: rest => .ok (a, rest)
      | _ => malformed .expectedValue
    | _ => malformed .expectedColon
  | _ => malformed .expectedValue

/-- Reads the rest of a list, whose next token begins an item, a comma included if one is due. Each
item uses up a token, so as many rounds as there are tokens are enough. -/
def items {α : Type} (d : Decoder α) : Nat → Bool → List α → Decoder (List α)
  | 0, _, _, _ => malformed .endInList
  | rounds + 1, isFirst, done, tokens =>
    let item (tokens : List Token) : Except ReadError (List α × List Token) :=
      match d tokens with
      | .ok (a, rest) => items d rounds false (a :: done) rest
      | .error e => .error e
    match tokens with
    | [] => malformed .endInList
    | .closeList :: rest => .ok (done.reverse, rest)
    | .comma :: rest =>
      if isFirst then item tokens
      else
        match rest with
        | [] => malformed .endInValue
        | .closeList :: _ => malformed .trailingComma
        | _ => item rest
    | _ => if isFirst then item tokens else malformed .expectedListEnd

/-- Reads a list of values. -/
def list {α : Type} (d : Decoder α) : Decoder (List α)
  | [] => malformed .endInValue
  | .openList :: rest => items d (rest.length + 1) true [] rest
  | token :: _ => wrongKind "a sequence" token

/-- Reads the name of a member and the colon after it, after `{` if `isFirst` and else after a
value; or the end of the object, as nothing. -/
def memberName (isFirst : Bool) (tokens : List Token) :
    Except ReadError (Option String × List Token) :=
  let name (tokens : List Token) : Except ReadError (Option String × List Token) :=
    match tokens with
    | [] => malformed .endInValue
    | .text (.ok s) _ :: rest => .ok (some s, rest)
    | .text (.error reason) _ :: _ => malformed reason
    | .closeObject :: _ => malformed .trailingComma
    | _ => malformed .keyNotText
  match tokens with
  | [] => malformed .endInObject
  | .closeObject :: rest => .ok (none, rest)
  | .comma :: rest => if isFirst then malformed .keyNotText else name rest
  | _ => if isFirst then name tokens else malformed .expectedObjectEnd

/-- Reads the colon after a member's name. -/
def colon : List Token → Except ReadError (List Token)
  | [] => .error (.malformed .endInObject)
  | .colon :: rest => .ok rest
  | _ => .error (.malformed .expectedColon)

end Decoder

/-! ## Records -/

/-- A field of a record: its name, how its value changes the record, and whether the record can be
had without it, as an absent member of an object or as a missing end of a list. -/
structure Field (α : Type) where
  name : String
  read : Decoder (α → α)
  mayBeAbsent : Bool
  mayBeCutOff : Bool

/-- A field that keeps its default where it is not given. -/
def Field.withDefault {α β : Type} (name : String) (read : Decoder β) (put : β → α → α) :
    Field α :=
  ⟨name, read.map put, true, true⟩

/-- A field that has to be given. -/
def Field.needed {α β : Type} (name : String) (read : Decoder β) (put : β → α → α) : Field α :=
  ⟨name, read.map put, false, false⟩

/-- A field that may be null, and that an object may leave out. -/
def Field.nullable {α β : Type} (name : String) (read : Decoder β)
    (put : Option β → α → α) : Field α :=
  ⟨name, (Decoder.optional read).map put, true, false⟩

namespace Decoder

/-- Reads the rest of an object into a record. `seen` are the names of the fields met so far. -/
def members {α : Type} (fields : List (Field α)) :
    Nat → Bool → List String → α → Decoder α
  | 0, _, _, _, _ => malformed .endInObject
  | rounds + 1, isFirst, seen, record, tokens => do
    match ← memberName isFirst tokens with
    | (none, rest) =>
      match fields.find? fun f => !f.mayBeAbsent && !seen.contains f.name with
      | some f => .error (.missingField f.name)
      | none => .ok (record, rest)
    | (some name, rest) =>
      match fields.find? fun f => f.name == name with
      | some f =>
        if seen.contains name then .error (.duplicateField name)
        else
          let rest ← colon rest
          let (put, rest) ← f.read rest
          members fields rounds false (name :: seen) (put record) rest
      | none =>
        let rest ← colon rest
        match skipValue rest with
        | .ok rest => members fields rounds false seen record rest
        | .error reason => malformed reason

/-- Reads the rest of a list into the fields of a record, in order. `index` fields were read. -/
def inOrder {α : Type} (expected : String) :
    List (Field α) → Nat → α → Decoder α
  | [], _, record, tokens =>
    match tokens with
    | [] => malformed .endInList
    | .closeList :: rest => .ok (record, rest)
    | .comma :: .closeList :: _ => malformed .trailingComma
    | _ => malformed .trailingCharacters
  | field :: fields, index, record, tokens =>
    let item (tokens : List Token) : Except ReadError (α × List Token) := do
      let (put, rest) ← field.read tokens
      inOrder expected fields (index + 1) (put record) rest
    match tokens with
    | [] => malformed .endInList
    | .closeList :: rest =>
      if (field :: fields).all fun f => f.mayBeCutOff then .ok (record, rest)
      else
        let read := ((field :: fields).takeWhile fun f => f.mayBeCutOff).length
        .error (.wrongLength (index + read) expected)
    | .comma :: rest =>
      if index = 0 then item tokens
      else
        match rest with
        | [] => malformed .endInValue
        | .closeList :: _ => malformed .trailingComma
        | _ => item rest
    | _ => if index = 0 then item tokens else malformed .expectedListEnd

/-- How many fields a record has, in words. -/
def elements (n : Nat) : String :=
  Text.naturalText n ++ (if n = 1 then " element" else " elements")

/-- Reads a record called `title`, from an object or from a list, starting from `start`. -/
def record {α : Type} (title : String) (fields : List (Field α)) (start : α) : Decoder α
  | [] => malformed .endInValue
  | .openObject :: rest => members fields (rest.length + 1) true [] start rest
  | .openList :: rest =>
    inOrder ("struct " ++ title ++ " with " ++ elements fields.length) fields 0 start rest
  | token :: _ => wrongKind ("struct " ++ title) token

/-- Reads a whole document. -/
def document {α : Type} (d : Decoder α) (source : String) : Except ReadError α := do
  match ← d (scan source.toList) with
  | (a, []) => .ok a
  | _ => .error (.malformed .trailingCharacters)

/-! ## Integers of fixed width -/

/-- Reads a signed 32-bit integer. -/
def int32 : Decoder Int := integer "i32" (-Text.half32) (Text.half32 - 1)

/-- Reads an unsigned 32-bit integer. -/
def word32 : Decoder Nat := (integer "u32" 0 (Text.word32 - 1)).map Int.toNat

/-- Reads an unsigned 64-bit integer. -/
def word64 : Decoder Nat := (integer "u64" 0 (Text.word64 - 1)).map Int.toNat

/-- Reads a text where any text will do. -/
def anyText : Decoder String := text "a string"

end Decoder

end DevicePower.Json
