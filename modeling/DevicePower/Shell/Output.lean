import DevicePower.Json.Printer
import DevicePower.Name

/-!
# Forms of output

A command's payload is printed as a document over several lines or on one, or as text for people,
whole or its first line alone.

## Main results

* `newline_notMem_firstLine`: a summary is one line.
-/

namespace DevicePower.Shell

/-- How payloads are printed. -/
inductive Output where
  | json
  | jsonl
  | human
  | summary
deriving DecidableEq

namespace Output

/-- All forms. -/
def all : List Output := [json, jsonl, human, summary]

/-- The name of a form. -/
def name : Output → String
  | json => "json"
  | jsonl => "jsonl"
  | human => "human"
  | summary => "summary"

/-- The names that stand for forms in documents. -/
def documentNames : List (String × Output) := all.map fun o => (o.name, o)

/-- Whether a form is meant for machines. -/
def isMachine : Output → Bool
  | json => true
  | jsonl => true
  | _ => false

/-- The form that a word names, exactly or in any mix of ASCII cases. -/
def ofWord? (s : String) (ignoreCase : Bool) : Option Output :=
  all.find? fun o =>
    s == o.name || ignoreCase && s.toList.map Char.toLower == o.name.toList.map Char.toLower

/-- The message for a word that names no form. -/
def unknownMessage (s : String) : String := "invalid variant: " ++ s

/-- The part of a text before its first line break. -/
def beforeBreak (s : List Char) : List Char := s.takeWhile (· != '\n')

/-- The first line of a text. A carriage return before the line break belongs to the break. -/
def firstLine (s : List Char) : List Char :=
  let line := beforeBreak s
  if line.length < s.length && line.getLast? == some '\r' then line.dropLast else line

/-- What is printed for a payload, given as a document and as text for people. -/
def render (o : Output) (document : Json.Value) (text : String) : String :=
  match o with
  | json => document.lines ++ "\n"
  | jsonl => document.line ++ "\n"
  | human => text ++ "\n"
  | summary => String.ofList (firstLine text.toList) ++ "\n"

theorem ofWord?_name (o : Output) (ignoreCase : Bool) : ofWord? o.name ignoreCase = some o := by
  cases o <;> cases ignoreCase <;> rfl

theorem newline_notMem_beforeBreak (s : List Char) : '\n' ∉ beforeBreak s := by
  intro h
  have hTrue := List.all_takeWhile (l := s) (p := (· != '\n'))
  simpa using List.all_eq_true.mp hTrue _ h

/-- A summary is one line. -/
theorem newline_notMem_firstLine (s : List Char) : '\n' ∉ firstLine s := by
  unfold firstLine
  dsimp only
  split
  · exact fun h => newline_notMem_beforeBreak s ((List.dropLast_sublist _).subset h)
  · exact newline_notMem_beforeBreak s

end Output

end DevicePower.Shell
