import DevicePower.Log.Record
import DevicePower.Text.Quoted

/-!
# Records as lines for people

On a console a record is one line: when, how severe, which event, the message, and the other fields
with their names.
-/

namespace DevicePower.Log

/-- The level as it stands on a console, five characters wide. -/
def Level.consoleName : Level → String
  | trace => "TRACE"
  | debug => "DEBUG"
  | info => " INFO"
  | warn => " WARN"
  | error => "ERROR"

/-- The value of a field on a console, if it has one. -/
def FieldValue.consoleText? : FieldValue → Option String
  | .text s => some (Text.quoted s)
  | .integer i => some (Text.integerText i)
  | .bool b => some (if b then "true" else "false")
  | .double x => some (String.ofList x.text)
  | .nonFinite => some "NaN"
  | .absent => none

/-- A field on a console. A field without a value is not shown. -/
def fieldText (field : String × FieldValue) : String :=
  match field.2.consoleText? with
  | some value => " " ++ field.1 ++ "=" ++ value
  | none => ""

/-- The line of a record that was made at a time. -/
def Record.consoleLine (time : String) (r : Record) : String :=
  let others := r.fields.filter fun f => f.1 != messageName
  time ++ " " ++ r.level.consoleName ++ " " ++ r.event ++ ": " ++ r.message?.getD ""
    ++ String.join (others.map fieldText)

end DevicePower.Log
