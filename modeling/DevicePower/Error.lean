import DevicePower.Json.Printer
import DevicePower.Json.Reader

/-!
# Errors of the facade

Every operation of the facade that can fail does so with one of these errors. A wrong argument has
the business code 401; a failure of the platform has the platform's own code, if it gave one; no
other error has a code. An error is shown as a business error (a code and a message), as a
structured report for machines, or as two lines for people.
-/

namespace DevicePower

/-- What went wrong. -/
inductive Error where
  | invalidArgument (message : String)
  | platform (code : Option Int32) (message : String)
  | unavailable (message : String)
  | tokenMismatch
  | parcelRead (message : String)
  | unsupportedCommand (code : UInt32)
  | config (message : String)
  | io (message : String)
  | json (message : String)
deriving DecidableEq

/-- The part of the system that an error belongs to. -/
inductive Category where
  | argument
  | platform
  | ipc
  | config
  | io
deriving DecidableEq

namespace Category

/-- The name of a category. -/
def name : Category → String
  | argument => "argument"
  | platform => "platform"
  | ipc => "ipc"
  | config => "config"
  | io => "io"

/-- The names that stand for categories in documents. -/
def documentNames : List (String × Category) :=
  [argument, platform, ipc, config, io].map fun c => (c.name, c)

end Category

namespace Error

/-- The business code of a wrong argument. -/
def invalidArgumentCode : Int32 := 401

/-- The message of an error. -/
def message : Error → String
  | invalidArgument text => text
  | platform _ text => "platform call failed: " ++ text
  | unavailable text => "platform service unavailable: " ++ text
  | tokenMismatch => "the token does not match"
  | parcelRead text => "parcel read failed: " ++ text
  | unsupportedCommand code => "command code " ++ Text.naturalText code.toNat ++ " not supported"
  | config text => "configuration error: " ++ text
  | io text => "I/O error: " ++ text
  | json text => "JSON serialization error: " ++ text

/-- The code that callers see. -/
def businessCode : Error → Option Int32
  | invalidArgument _ => some invalidArgumentCode
  | platform code _ => code
  | _ => none

/-- The part of the system that an error belongs to. -/
def category : Error → Category
  | invalidArgument _ => .argument
  | platform _ _ => .platform
  | unavailable _ => .platform
  | tokenMismatch => .ipc
  | parcelRead _ => .ipc
  | unsupportedCommand _ => .ipc
  | config _ => .config
  | io _ => .io
  | json _ => .io

/-- Whether the same call may succeed another time. -/
def isRecoverable : Error → Bool
  | platform _ _ => true
  | unavailable _ => true
  | config _ => true
  | io _ => true
  | _ => false

/-- A short title for people. -/
def headline : Error → String
  | invalidArgument _ => "Invalid Argument"
  | platform _ _ => "Platform Failure"
  | unavailable _ => "Service Unavailable"
  | tokenMismatch => "Interface Token Mismatch"
  | parcelRead _ => "Malformed Request"
  | unsupportedCommand _ => "Unsupported Command"
  | config _ => "Configuration Error"
  | io _ => "I/O Error"
  | json _ => "JSON Parse Error"

/-- The two lines that people are shown, the mark in red if colours are wanted. -/
def humanText (e : Error) (color : Bool) : String :=
  let mark := if color then "\x1b[31m✗\x1b[0m" else "✗"
  mark ++ " " ++ e.headline ++ "\n  Reason: " ++ e.message

end Error

/-! ## Business errors -/

/-- What a caller of the programming interface is told. -/
structure BusinessError where
  code : Option Int32
  message : String
deriving DecidableEq

namespace BusinessError

/-- The business form of an error. -/
def ofError (e : Error) : BusinessError := ⟨e.businessCode, e.message⟩

/-- The one-line form. -/
def text (b : BusinessError) : String :=
  match b.code with
  | some code => "[" ++ Text.integerText code.toInt ++ "] " ++ b.message
  | none => b.message

/-- The document form, without the code if there is none. -/
def toJson (b : BusinessError) : Json.Value :=
  .object ((b.code.map fun code => ("code", Json.Value.int code.toInt)).toList
    ++ [("message", .text b.message)])

end BusinessError

/-! ## Structured reports -/

/-- An error as machines are told it. -/
structure Report where
  code : Option Int32
  category : Category
  message : String
  recoverable : Bool
  /-- Further facts by name. -/
  context : Json.Members

namespace Report

/-- The report of an error. The number of an unknown command is one of its facts. -/
def ofError (e : Error) : Report where
  code := e.businessCode
  category := e.category
  message := e.message
  recoverable := e.isRecoverable
  context :=
    match e with
    | .unsupportedCommand code => [("command_code", .nat code.toNat)]
    | _ => []

/-- The report with a fact added, or changed if its name was there. -/
def withFact (r : Report) (name : String) (value : Json.Value) : Report :=
  { r with context := r.context.set name value }

/-- The document form. The code is left out if there is none, and so is an empty context. -/
def toJson (r : Report) : Json.Value :=
  .object ((r.code.map fun code => ("code", Json.Value.int code.toInt)).toList
    ++ [("category", .text r.category.name), ("message", .text r.message),
        ("recoverable", .bool r.recoverable)]
    ++ (if r.context.isEmpty then [] else [("context", .object r.context)]))

/-- The document on one line. -/
def line (r : Report) : String := r.toJson.line

/-- The levels that a document of a report leaves for the values of its context. -/
def contextLevels : Nat := Json.Decoder.levels - 2

/-- Reads an object of any values. -/
def contextDecoder : Json.Decoder Json.Members
  | [] => Json.Decoder.malformed .endInValue
  | .openObject :: rest =>
    Json.Decoder.entries (Json.Decoder.valueWithin contextLevels) (rest.length + 1) true [] rest
  | token :: _ => Json.Decoder.wrongKind "a map" token

/-- Reads a report. -/
def decoder : Json.Decoder Report :=
  Json.Decoder.record "StructuredError"
    [.nullable "code" Json.Decoder.int32 fun code r => { r with code := code.map Int32.ofInt },
     .needed "category" (Json.Decoder.variant Category.documentNames)
       fun category r => { r with category },
     .needed "message" Json.Decoder.anyText fun message r => { r with message },
     .needed "recoverable" Json.Decoder.bool fun recoverable r => { r with recoverable },
     .withDefault "context" contextDecoder fun context r => { r with context }]
    ⟨none, .argument, "", false, []⟩

end Report

/-- Reads a business error. -/
def BusinessError.decoder : Json.Decoder BusinessError :=
  Json.Decoder.record "BusinessError"
    [.nullable "code" Json.Decoder.int32 fun code b => { b with code := code.map Int32.ofInt },
     .needed "message" Json.Decoder.anyText fun message b => { b with message }]
    ⟨none, ""⟩

end DevicePower
