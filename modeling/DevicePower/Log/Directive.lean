import DevicePower.Log.Pattern
import DevicePower.Log.Record
import DevicePower.Text.Slice

/-!
# Directives of a filter

A directive says how much is written of some events. It is a level alone, the start of an event's
name alone, or `event[span{field=value}]=level` with every part but one left out at will. A level
that is left out is `trace`.

Blanks around a directive do not count while its parts are found, but they are there when the parts
are cut out at the byte offsets where they were found. So a blank in front displaces every part, a
blank behind belongs to the last part, and a displaced part may begin inside a character.

## Main results

* `concerns_of_needsSpan`: a directive about spans is about no record.
-/

namespace DevicePower.Log

/-- What is asked of a field: its name, and whether its value matters too. -/
structure FieldTest where
  name : List Char
  hasValue : Bool
deriving DecidableEq

/-- How much is written of some events. -/
structure Directive where
  /-- What the names of the events start with. -/
  target : List Char := []
  /-- The span that the events have to lie in. -/
  span : Option (List Char) := none
  /-- The field that the events have to have. -/
  field : Option FieldTest := none
  verbosity : Verbosity := .trace
deriving DecidableEq

namespace Directive

/-- Why a directive could not be read. -/
inductive Defect where
  | malformed
  /-- A part would begin or end inside a character. -/
  | torn
deriving DecidableEq

/-- A level, in any mix of cases or as its rank. A missing one is `trace`. -/
def level? (s : List Char) : Option Verbosity :=
  if s.isEmpty then some .trace
  else
    match Text.unsigned? Text.word64 s with
    | some rank => Verbosity.ofRank? rank
    | none => Verbosity.all.find? fun v => Text.spells (String.ofList s) v.name

/-- Reads the test of a field: its name, and after an equals sign the value that is asked for. A
second equals sign ends the value. -/
def fieldTest? (s : List Char) : Option FieldTest :=
  match s.span (· != '=') with
  | (name, []) => if name.isEmpty then none else some ⟨name, false⟩
  | (name, _ :: rest) =>
    if Pattern.isValue (rest.takeWhile (· != '=')) then some ⟨name, true⟩ else none

/-- Whether a directive may start with a character other than a bracket. -/
def isStart (c : Char) : Bool := c == '-' || c == ':' || c == '_' || Text.isAlphanumeric c

/-- How far the reading of a directive is. A number is the offset of the part being read. -/
inductive Stage where
  | start
  /-- In a level or the start of an event's name. -/
  | word
  | span (first : Nat)
  | field (first : Nat)
  /-- Behind the braces of a field. -/
  | afterField
  /-- Behind the brackets of a span. -/
  | afterSpan
  | level (first : Nat)
deriving DecidableEq

/-- The part of a directive between two offsets. -/
def cut (given : List Char) (first last : Nat) : Except Defect (List Char) :=
  match Text.slice? given first last with
  | some part => .ok part
  | none => .error .torn

/-- Reads on, over a character at an offset. -/
def step (given : List Char) (offset : Nat) (c : Char) :
    Directive × Stage → Except Defect (Directive × Stage)
  | (d, .start) =>
    if c = '[' then .ok (d, .span (offset + 1))
    else if isStart c then .ok (d, .word)
    else .error .malformed
  | (d, .word) => do
    if c = '=' then return ({ d with target := ← cut given 0 offset }, .level (offset + 1))
    else if c = '[' then return ({ d with target := ← cut given 0 offset }, .span (offset + 1))
    else return (d, .word)
  | (d, .span first) => do
    if c = ']' then return ({ d with span := some (← cut given first offset) }, .afterSpan)
    else if c = '{' then
      let name ← cut given first offset
      return ({ d with span := if name.isEmpty then none else some name }, .field (offset + 1))
    else return (d, .span first)
  | (d, .field first) => do
    if c = '}' then
      match fieldTest? (← cut given first offset) with
      | some test => return ({ d with field := some test }, .afterField)
      | none => throw .malformed
    else return (d, .field first)
  | (d, .afterField) => if c = ']' then .ok (d, .afterSpan) else .error .malformed
  | (d, .afterSpan) => if c = '=' then .ok (d, .level (offset + 1)) else .error .malformed
  | (d, .level first) => .ok (d, .level first)

/-- Reads on, over characters that begin at an offset. -/
def steps (given : List Char) :
    Nat → List Char → Directive × Stage → Except Defect (Directive × Stage)
  | _, [], s => .ok s
  | offset, c :: rest, s => do steps given (offset + c.utf8Size) rest (← step given offset c s)

/-- The directive at the end of its text. -/
def finish (given : List Char) : Directive × Stage → Except Defect Directive
  | (d, .word) =>
    match level? given with
    | some v => .ok { d with verbosity := v }
    | none => .ok { d with target := given }
  | (d, .level first) => do
    match level? (← cut given first (Text.byteCount given)) with
    | some v => return { d with verbosity := v }
    | none => throw .malformed
  | (d, .afterSpan) => .ok d
  | _ => .error .malformed

/-- Reads one directive. -/
def parse (given : List Char) : Except Defect Directive := do
  finish given (← steps given 0 (Text.trim (String.ofList given)).toList ({}, .start))

/-- Whether a directive is about spans, or about what is recorded in them, and not about events. -/
def needsSpan (d : Directive) : Bool := d.span.isSome || d.field.any fun f => f.hasValue

/-- Whether a directive is about a record. -/
def concerns (d : Directive) (r : Record) : Bool :=
  !d.needsSpan && d.target.isPrefixOf r.event.toList
    && d.field.all fun f => r.fields.any fun given => given.1.toList == f.name

/-- A directive about spans is about no record. -/
theorem concerns_of_needsSpan {d : Directive} (h : d.needsSpan = true) (r : Record) :
    d.concerns r = false := by
  simp [concerns, h]

/-- Whether a directive comes before another where both are about a record: the longer name first,
then the one that asks for a field, then the field whose name is later in the alphabet. -/
def outranks (d e : Directive) : Bool :=
  let name (d : Directive) : String := String.ofList ((d.field.map fun f => f.name).getD [])
  match compare d.target.length e.target.length with
  | .gt => true
  | .lt => false
  | .eq =>
    match compare d.field.isSome.toNat e.field.isSome.toNat with
    | .gt => true
    | .lt => false
    | .eq => name e < name d

end Directive

end DevicePower.Log
