import DevicePower.Config.Load
import DevicePower.Log.Settings
import DevicePower.Notice.Command
import DevicePower.Shell.Grammar
import DevicePower.Shell.Output

/-!
# The commands of the shell

The grammar of the shell's command line, and the commands as they come out of it. Four options may
stand with every command; the configuration file may be named by a variable too. Of an option that
stands at several commands of one line the innermost counts.
-/

namespace DevicePower.Shell

/-- What the shell is called. -/
def programName : String := "pm-shell"

/-- The version of the shell. -/
def programVersion : String := "0.1.0"

/-- The options that every command has. -/
def commonOptions : List Opt :=
  [{ name := "config", value := some .path, fallback := some Config.fileVariable },
   { name := "format", short := some 'f',
     value := some (.choice (Output.all.map fun o => o.name)) },
   { name := "verbose", short := some 'v', isRepeatable := true },
   { name := "quiet", short := some 'q' }]

/-- A command without commands of its own. -/
def leaf (name : String) (positionals : List Positional) (options : List Opt) : Grammar :=
  { name, positionals, options := commonOptions ++ options }

/-- The grammar of the shell. -/
def grammar : Grammar where
  name := programName
  options := commonOptions
  commands :=
    [leaf "setmode" [{ name := "code" }] [],
     leaf "getmode" [] [],
     leaf "wakeup" [] [{ name := "detail", value := some .text }],
     leaf "suspend" [] [],
     leaf "screen" [] [],
     leaf "dump" [] [],
     leaf "lock" [{ name := "name" }]
       [{ name := "type", value := some .text }, { name := "hold-ms", value := some .word64 },
        { name := "wait" }],
     leaf "notice" [{ name := "action", kind := .choice ["open", "close"] }]
       [{ name := "token", value := some .text }, { name := "pid", value := some .int32 },
        { name := "code", value := some .word32 }],
     { name := "config"
       options := commonOptions
       commands :=
         [leaf "show" [] [],
          leaf "validate" [{ name := "path", kind := .path, isRequired := false }] [],
          leaf "schema" [] []] },
     leaf "version" [] []]

/-- The options of one command line that any command has. -/
structure Common where
  /-- The configuration file. -/
  config : Option String := none
  output : Output := .json
  verbosity : Nat := 0
  isQuiet : Bool := false
deriving DecidableEq

/-- A command with its arguments. -/
inductive Command where
  | setMode (code : String)
  | getMode
  | wakeup (detail : String)
  | suspend
  | screen
  | dump
  /-- Makes a lock, holds it for some milliseconds, and may wait until that is over. -/
  | lock (name kind : String) (hold : Nat) (wait : Bool)
  /-- Sends a request, with the configured token unless another is given. -/
  | notice (code : UInt32) (token : Option String) (pid : Option Int32)
  | showConfig
  | validateConfig (path : Option String)
  | schema
  | version
deriving DecidableEq

/-- What is to be carried out. -/
structure Invocation where
  common : Common
  command : Command
deriving DecidableEq

namespace Common

/-- The common options of a command line. -/
def ofMatches (env : Config.Environment) (m : Matches) : Common where
  config := (m.value? "config").or (env Config.fileVariable)
  output := ((m.value? "format").bind fun s => Output.ofWord? s false).getD .json
  verbosity := m.count "verbose"
  isQuiet := m.has "quiet"

/-- The log level that the options ask for. -/
def level? (c : Common) : Option Log.Verbosity :=
  if c.isQuiet then some .error
  else
    match c.verbosity with
    | 0 => none
    | 1 => some .debug
    | _ => some .trace

/-- The settings of the log. Machines get the log as they get the payload. -/
def logSettings (c : Common) (env : Config.Environment) : Log.Settings :=
  Log.Settings.resolve env c.level? (if c.output.isMachine then some .jsonl else none)

end Common

namespace Command

/-- The command code of a notice request: the one given, or that of the action. -/
def noticeCode (m : Matches) : UInt32 :=
  match (m.value? "code").bind word32? with
  | some code => UInt32.ofNat code
  | none =>
    if m.value? "action" = some "open" then Notice.Command.openNotice.code
    else Notice.Command.closeNotice.code

/-- The command of a command line that fits the grammar. -/
def ofMatches (m : Matches) : Option Command :=
  match m.path with
  | ["setmode"] => (m.value? "code").map setMode
  | ["getmode"] => some getMode
  | ["wakeup"] => some (wakeup ((m.value? "detail").getD programName))
  | ["suspend"] => some suspend
  | ["screen"] => some screen
  | ["dump"] => some dump
  | ["lock"] =>
    (m.value? "name").map fun name =>
      lock name ((m.value? "type").getD Lock.Kind.background.name)
        (((m.value? "hold-ms").bind fun s => Text.unsigned? Text.word64 s.toList).getD 0)
        (m.has "wait")
  | ["notice"] =>
    some (notice (noticeCode m) (m.value? "token")
      (((m.value? "pid").bind fun s => Text.signed? Text.half32 s.toList).map Int32.ofInt))
  | ["config", "show"] => some showConfig
  | ["config", "validate"] => some (validateConfig (m.value? "path"))
  | ["config", "schema"] => some schema
  | ["version"] => some version
  | _ => none

end Command

/-- What a command line asks for. -/
def Invocation.parse (env : Config.Environment) (words : List String) :
    Except Stop Invocation := do
  let m ← read env programName grammar {} words
  match Command.ofMatches m with
  | some command => return { common := Common.ofMatches env m, command }
  | none => throw .misuse

end DevicePower.Shell
