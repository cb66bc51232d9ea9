import DevicePower.Json.Printer
import DevicePower.Log.Level

/-!
# Records of the log and their lines

A record has a level, the name of an event, and fields. It is written as one line, a JSON object.
Four fields tell which run, host, connection and stage a record belongs to and stand at the top of
the object; the message stands beside them; the others stand under `fields`. What a record does not
say about where it belongs is taken from the spans around it, the innermost first.
-/

namespace DevicePower.Log

/-- The value of a field. -/
inductive FieldValue where
  | text (value : String)
  | integer (value : Int)
  | bool (value : Bool)
  | double (value : Decimal.Binary64)
  /-- An infinity or a value that is no number; a document cannot hold it. -/
  | nonFinite
  /-- Nothing: the field was announced and given no value. -/
  | absent

/-- The value of a field in a document, if it can be in one. -/
def FieldValue.json? : FieldValue → Option Json.Value
  | text s => some (.text s)
  | integer i => some (.int i)
  | bool b => some (.bool b)
  | double x => some (.number (.double x))
  | nonFinite => none
  | absent => none

/-- Named values, as they were recorded. -/
abbrev Fields := List (String × FieldValue)

/-- A record of the log. -/
structure Record where
  level : Level
  event : String
  fields : Fields

/-- The fields that say where a record belongs. -/
def correlationNames : List String := ["run_id", "host_id", "connect_id", "stage"]

/-- The name of the field that holds the message. -/
def messageName : String := "message"

namespace Fields

/-- The value recorded under a name, if a document can hold it. -/
def json? (fields : Fields) (name : String) : Option Json.Value :=
  ((fields.filter fun f => f.1 == name).filterMap fun f => f.2.json?).getLast?

/-- The members for the names of a list that have a value. -/
def select (names : List String) (value? : String → Option Json.Value) : Json.Members :=
  names.filterMap fun name => (value? name).map fun v => (name, v)

/-- The members for all fields that are neither the message nor say where the record belongs. -/
def own (fields : Fields) : Json.Members :=
  fields.foldl
    (fun members f =>
      if correlationNames.contains f.1 || f.1 == messageName then members
      else
        match f.2.json? with
        | some v => Json.Members.set members f.1 v
        | none => members)
    []

end Fields

/-- The value under a name in the first of some spans that has one. Each span is given by what is
kept of it, the innermost first. -/
def inherited (spans : List Fields) (name : String) : Option Json.Value :=
  spans.findSome? fun span => span.json? name

namespace Record

/-- The value under one of the names that say where the record belongs: its own, or else that of
the innermost span that has one. -/
def correlated (r : Record) (spans : List Fields) (name : String) : Option Json.Value :=
  (r.fields.json? name).or (inherited spans name)

/-- The message as text. A message that is not a text is printed. -/
def message? (r : Record) : Option String :=
  (r.fields.json? messageName).map fun v =>
    match v with
    | .text s => s
    | other => other.line

/-- The members of a record's line, inside spans given innermost first, but for the time. A writer
that keeps members in a map prints them sorted by name; the order here is another, and means
nothing. -/
def members (r : Record) (spans : List Fields) : Json.Members :=
  [("level", .text r.level.name), ("event", .text r.event)]
    ++ Fields.select correlationNames (r.correlated spans)
    ++ (r.message?.map fun m => (messageName, Json.Value.text m)).toList
    ++ (if r.fields.own.isEmpty then [] else [("fields", .object r.fields.own)])

/-- The object of a record's line. -/
def json (r : Record) (spans : List Fields) : Json.Value := .object (r.members spans)

/-- The line of a record that was made at a time. -/
def line (time : String) (r : Record) (spans : List Fields) : String :=
  (Json.Value.object (("ts", .text time) :: r.members spans)).line

end Record

/-- A record in the log, and when it was written, in nanoseconds since the start of the run. -/
structure Entry where
  instant : Nat
  record : Record

/-! ## Records of one run -/

/-- What all records of a run share. -/
structure Origin where
  run : String
  host : String
deriving DecidableEq

namespace Origin

/-- A record of a run, about a connection if there is one. The field for the connection is announced
in any case. -/
def record (origin : Origin) (connection : Option String) (level : Level) (event : Event)
    (stage : Stage) (message : String) (fields : Fields) : Record :=
  ⟨level, event.name,
    [("run_id", .text origin.run), ("host_id", .text origin.host),
     ("connect_id", (connection.map FieldValue.text).getD .absent),
     ("stage", .text stage.name), (messageName, .text message)] ++ fields⟩

end Origin

end DevicePower.Log
