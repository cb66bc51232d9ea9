import DevicePower.Log.Record

/-!
# Spans

Records are made in spans. A span is made with some fields, and others may be recorded on it later.
It lies in another span or in none, and that is settled when it is made: it lies in the span that is
current then, unless its maker names another or none. A record is placed in the same way. Its scope
is the span that it is placed in with all that this lies in, the innermost first.

Which span is current changes as spans are entered and left, by rules of the library that keeps
them; here any span may become current at any time. So a span that was entered need not be in the
scope of the records that follow. It is there only if the current span lies in it.

Of a span the writer of the lines keeps what it was made with, as far as that says where a record
belongs.

## Main results

* `scope_nested`: of spans that are each made and entered in the one before, all are in the scope.
-/

namespace DevicePower.Log

/-- A span. -/
structure Span where
  /-- The number of the span that it lies in, if any. -/
  parent : Option Nat
  /-- The fields it was made with. -/
  made : Fields
  /-- The fields that were recorded on it later. -/
  later : Fields := []

namespace Span

/-- All that was recorded on a span. -/
def fields (s : Span) : Fields := s.made ++ s.later

/-- What is kept of a span for the lines of records. -/
def kept (s : Span) : Fields := s.made.filter fun f => correlationNames.contains f.1

end Span

/-- Where a span or a record is placed. -/
inductive Placement where
  | current
  | inside (number : Nat)
  | apart

/-- The spans that were made, and which is current. -/
structure Spans where
  /-- The newest comes first. The number of a span is that of the spans made before it. -/
  all : List Span := []
  current : Option Nat := none

namespace Spans

/-- The number of the span that something is placed in. -/
def parent? (s : Spans) (place : Placement) : Option Nat :=
  let number? :=
    match place with
    | .current => s.current
    | .inside number => some number
    | .apart => none
  number?.filter fun number => number < s.all.length

/-- The spans from the one with a number outwards, among some of which the newest comes first. -/
def outwards : List Span → Option Nat → List Span
  | [], _ => []
  | span :: older, number? =>
    if number? = some older.length then span :: outwards older span.parent
    else outwards older number?

/-- The scope of a record, the innermost span first. -/
def scope (s : Spans) (place : Placement) : List Span := outwards s.all (s.parent? place)

/-- Makes a span. -/
def make (s : Spans) (place : Placement) (fields : Fields) : Spans :=
  { s with all := { parent := s.parent? place, made := fields } :: s.all }

/-- Adds fields to the span with a number, among some of which the newest comes first. -/
def addTo (number : Nat) (fields : Fields) : List Span → List Span
  | [] => []
  | span :: older =>
    if number = older.length then { span with later := span.later ++ fields } :: older
    else span :: addTo number fields older

/-- Records fields on a span that was made before. -/
def record (s : Spans) (number : Nat) (fields : Fields) : Spans :=
  { s with all := addTo number fields s.all }

/-- Makes another span current, or none. -/
def focus (s : Spans) (number? : Option Nat) : Spans := { s with current := number? }

/-- Makes a span and enters it. -/
def enter (s : Spans) (place : Placement) (fields : Fields) : Spans :=
  (s.make place fields).focus (some s.all.length)

/-- The line of a record that is made at a time. -/
def line (s : Spans) (place : Placement) (time : String) (r : Record) : String :=
  r.line time ((s.scope place).map Span.kept)

/-- Spans that are each made and entered in the one before, the outermost given first. -/
def nested (stack : List Fields) : Spans := stack.foldl (fun s fields => s.enter .current fields) {}

theorem scope_enter (s : Spans) (place : Placement) (fields : Fields) :
    (s.enter place fields).scope .current =
      { parent := s.parent? place, made := fields } :: s.scope place := by
  have hParent : (s.enter place fields).parent? .current = some s.all.length := by
    simp [enter, make, focus, parent?]
  unfold scope
  rw [hParent]
  show outwards ({ parent := s.parent? place, made := fields } :: s.all) (some s.all.length) = _
  rw [outwards, if_pos rfl]

/-- Of spans that are each made and entered in the one before, all are in the scope. -/
theorem scope_nested (stack : List Fields) :
    ((nested stack).scope .current).map Span.fields = stack.reverse := by
  have hFrom : ∀ s : Spans,
      ((stack.foldl (fun s fields => s.enter .current fields) s).scope .current).map Span.fields =
        stack.reverse ++ (s.scope .current).map Span.fields := by
    induction stack with
    | nil => exact fun s => rfl
    | cons fields rest ih =>
      intro s
      rw [List.foldl_cons, ih, scope_enter, List.map_cons, List.reverse_cons, List.append_assoc]
      simp [Span.fields]
  exact (hFrom {}).trans (List.append_nil _)

end Spans

end DevicePower.Log
