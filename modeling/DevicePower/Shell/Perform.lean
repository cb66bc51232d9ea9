import DevicePower.Config.Schema
import DevicePower.Exit
import DevicePower.Facade
import DevicePower.Shell.Command

/-!
# Carrying out a command

A command runs against a facade of its own, on a simulated platform. It comes to a payload for the
output or a report of what went wrong, with an exit status, and to the log of the run. The payload
and the report exclude each other: a notice request that is refused has a payload and a status of
its own, every other failure has a report.

What a command comes to is printed line by line: the payload on the standard output, the log and the
report on the standard error. A stream may take nothing, and then the shell does not always survive
that. Neither does it always survive the reading of the filter of its log.

## Main results

* `report_ofError`: the report of an error is not empty.
-/

namespace DevicePower.Shell

/-- What a command finds around it. -/
structure Machine where
  files : Config.Files
  /-- The variables, whose values are texts. -/
  env : Config.Environment
  /-- The directory of the user's configurations, if there is one. -/
  userBase : Option Config.Path := none
  /-- The library that reads the filter of the log. -/
  filters : Log.FilterLibrary
  /-- The process of the shell. -/
  pid : Int32
  origin : Log.Origin
  /-- How an instant is written but for its zone, given in nanoseconds since the start. -/
  stamp : Nat → String
  /-- Why the system starts no thread for an alarm, if it does not. -/
  threadRefusal : Option String := none
  /-- Whether the standard output can be written. -/
  takesOutput : Bool := true
  /-- Whether the standard error can be written. -/
  takesErrors : Bool := true
  /-- Whether the library that writes the log for people goes on when a line cannot be written. -/
  survivesLost : Log.Entry → Bool := fun _ => false

namespace Machine

/-- An instant in a document. -/
def zulu (m : Machine) (instant : Nat) : String := m.stamp instant ++ "Z"

/-- An instant at which a line was written. -/
def offset (m : Machine) (instant : Nat) : String := m.stamp instant ++ "+00:00"

/-- The configuration that the library finds here. -/
def load (m : Machine) (argument : Option Config.Path) : Except Config.LoadError Config.Loaded :=
  Config.load m.files m.env m.userBase argument

/-- The host of a facade that was started, with what the machine says of the threads of alarms. -/
def running (m : Machine) (h : Host) : Host := { h with threadRefusal := m.threadRefusal }

end Machine

/-- A payload, as a document and as text for people, and the status that goes with it. The members
of a document may be printed in any order. -/
structure Payload where
  document : Json.Value
  text : String
  exit : Exit := .clean
  /-- How many of the last records of the log are written after it. -/
  later : Nat := 0

/-- What a command comes to before it is printed. -/
inductive Verdict where
  | done (payload : Payload)
  | failed (error : Error)
  | unconfigured (error : Config.LoadError)

/-! ## What is printed -/

/-- The line that reports an error of the facade. -/
def errorReport (o : Output) (e : Error) : String :=
  let line :=
    if o.isMachine then
      ((Report.ofError e).withFact "exit_code" (.text (Exit.ofError e).name)).line
    else e.humanText false
  line ++ "\n"

/-- The status of a failure to load the configuration. -/
def loadExit : Config.LoadError → Exit
  | .unreadable _ _ => .ioError
  | _ => .configError

/-- The lines that report a failure to load the configuration. -/
def loadReport (o : Output) (e : Config.LoadError) : String :=
  if o.isMachine then
    (Json.Value.object
      [("schema_version", .text Config.knownVersion), ("status", .text "error"),
       ("error", .object
         [("code", .nat (loadExit e).code), ("kind", .text (loadExit e).name),
          ("message", .text e.message)])]).line ++ "\n"
  else "# Configuration Error\n\nError: " ++ e.message ++ "\n"

/-- Something that is printed. -/
inductive Print where
  /-- A line of the log, on the standard error. -/
  | record (entry : Log.Entry)
  /-- On the standard output. -/
  | payload (text : String)
  /-- On the standard error. -/
  | report (text : String)

/-- The lines of the log, of which only records that pass the filter are written. -/
def Print.records (passes : Log.Record → Bool) (journal : List Log.Entry) : List Print :=
  (journal.filter fun e => passes e.record).map record

namespace Verdict

/-- The status that a verdict gives. -/
def exit : Verdict → Exit
  | done p => p.exit
  | failed e => Exit.ofError e
  | unconfigured e => loadExit e

/-- What is printed for a verdict and the log that led to it, in order. -/
def prints (v : Verdict) (o : Output) (passes : Log.Record → Bool) (journal : List Log.Entry) :
    List Print :=
  match v with
  | done p =>
    let first := journal.length - p.later
    Print.records passes (journal.take first)
      ++ .payload (o.render p.document p.text) :: Print.records passes (journal.drop first)
  | failed e => Print.records passes journal ++ [.report (errorReport o e)]
  | unconfigured e => Print.records passes journal ++ [.report (loadReport o e)]

end Verdict

/-! ## Printing -/

/-- How a command line ends. -/
structure Ending where
  /-- The exit status. There is none where the shell crashed: it then leaves it to the system. -/
  status : Option Nat := none
  /-- The text on the standard output. -/
  output : String := ""
  /-- What is logged, oldest first. -/
  journal : List Log.Entry := []
  /-- The text that follows the log. -/
  report : String := ""

/-- The ending with something printed. -/
def Ending.add (e : Ending) : Print → Ending
  | .record entry => { e with journal := e.journal ++ [entry] }
  | .payload text => { e with output := e.output ++ text }
  | .report text => { e with report := e.report ++ text }

/-- What becomes of something that is printed. -/
inductive Fate where
  | written
  /-- It is lost, and the shell goes on. -/
  | lost
  | crashed
deriving DecidableEq

namespace Machine

/-- What becomes of something that is printed. A log for machines goes on without the lines that
cannot be written. -/
def fate (m : Machine) (format : Log.Format) : Print → Fate
  | .record entry =>
    if m.takesErrors then .written
    else if format = .jsonl ∨ m.survivesLost entry = true then .lost
    else .crashed
  | .payload _ => if m.takesOutput then .written else .crashed
  | .report _ => if m.takesErrors then .written else .crashed

/-- Prints on, and ends with a status. What is written while a crash is dealt with does not
count. -/
def print (m : Machine) (format : Log.Format) (status : Nat) (e : Ending) : List Print → Ending
  | [] => { e with status := some status }
  | p :: rest =>
    match m.fate format p with
    | .written => m.print format status (e.add p) rest
    | .lost => m.print format status e rest
    | .crashed => e

end Machine

/-! ## Commands on the facade -/

/-- What a command that ran on a facade leaves. -/
abbrev Result := Except Error Payload × Facade × Host

/-- An outcome as the shell takes it: a crash is an operation without a result. (An operation
crashes only over a name with a NUL character, and there is none in the words of a command line.) -/
def settled {α : Type} (outcome : Outcome α) : Except Error α :=
  (Pending.running : Pending α).wait outcome

/-- Makes a power call and shows its result. -/
def power (method : String) (values : List Json.Value) (payload : Json.Value → Facade → Payload)
    (f : Facade) (h : Host) : Result :=
  let (outcome, f, h) := f.callPower .direct method values h
  ((settled outcome).map fun v => payload v f, f, h)

/-- The payload of a power call that is shown as it is. -/
def powerPayload (method : String) (text : Json.Value → String) (result : Json.Value)
    (f : Facade) : Payload where
  document :=
    .object [("command", .text method), ("result", result),
      ("screen_on", .bool f.power.screen.isOn)]
  text := text result

/-- Sets the mode. A code that is no integer goes through as text, and fails as one. -/
def setMode (code : String) : Facade → Host → Result :=
  let value : Json.Value :=
    match Text.signed? Text.half64 code.toList with
    | some i => .int i
    | none => .text code
  power "setPowerMode" [value] fun _ f =>
    { document :=
        .object [("command", .text "setmode"), ("power_mode", .text f.power.mode.name),
          ("power_mode_code", .nat f.power.mode.code)]
      text := "Set Mode: " ++ Text.naturalText f.power.mode.code ++ "\nSet Mode Success!" }

/-- A truth value in text. -/
def flagText (b : Bool) : String := if b then "true" else "false"

/-- How the milliseconds left of a hold are shown. -/
def remainingText : Option Nat → String
  | some n => "Some(" ++ Text.naturalText n ++ ")"
  | none => "None"

/-- The line of a lock in the text of a dump. -/
def lockLine (s : Lock.Snapshot) : String :=
  "\n  " ++ Lock.idText s.id ++ " name=" ++ s.name ++ " type=" ++ s.kind.name ++ " held="
    ++ flagText s.held ++ " remaining_ms=" ++ remainingText s.remaining

/-- How a way of showing the notice is called in the text of a dump. -/
def presenterText : Notice.Presenter → String
  | .notification _ => "Notification"
  | .capsule => "Capsule"

/-- Shows the state of every part. -/
def dump (m : Machine) (f : Facade) (h : Host) : Result :=
  let locks := f.locks.snapshot h.now
  (.ok
    { document := f.dump m.zulu h
      text :=
        "run: " ++ h.origin.run ++ "\ndevice class: " ++ f.config.device.name
          ++ "\npower mode: " ++ f.power.mode.name ++ " (" ++ Text.naturalText f.power.mode.code
          ++ ")\nscreen: " ++ f.power.screen.name ++ "\nrunning locks: "
          ++ Text.naturalText locks.length ++ String.join (locks.map lockLine)
          ++ "\nnotice presenter: " ++ presenterText f.notice.presenter },
   f, h)

/-- How long is waited after a hold should have ended, in milliseconds. -/
def slack : Nat := 100

/-- Holds a lock that was made, and shows it. -/
def holdLock (m : Machine) (id hold : Nat) (wait : Bool) (f : Facade) (h : Host) : Result :=
  match f.onLock? id h (Api.callLock "hold" [.nat hold]) with
  | none => (.error Pending.abandoned, f, h)
  | some (.error e, f, h) => ((settled (.error e)).map fun v => v, f, h)
  | some (.ok _, f, h) =>
    let held := ((f.locks.find? id).map fun l => l.isHolding h.now).getD false
    let (f, h) := if wait && 0 < hold then f.advance (hold + slack) h else (f, h)
    match f.locks.find? id with
    | none => (.error Pending.abandoned, f, h)
    | some l =>
      let s := l.snapshot h.now
      (.ok
        { document :=
            .object [("command", .text "lock"), ("held_after_hold", .bool held),
              ("lock", s.toJson m.zulu)]
          text :=
            s.name ++ " (" ++ s.kind.name ++ "): held after hold = " ++ flagText held
              ++ ", holding now = " ++ flagText s.held },
       f, h)

/-- Makes a lock and holds it. The lock is dropped at the end, after its payload is printed. -/
def lock (m : Machine) (name kind : String) (hold : Nat) (wait : Bool) (f : Facade) (h : Host) :
    Result :=
  match Lock.Kind.parse kind with
  | .error e => (.error (.invalidArgument e.message), f, h)
  | .ok kind =>
    let (made, f, h) := f.createLock .direct "createRunningLock" [.text name, .nat kind.code] h
    match settled made with
    | .error e => (.error e, f, h)
    | .ok id =>
      let (result, f, held) := holdLock m id hold wait f h
      let (_, f, h) := f.dropLock id held
      let later := h.journal.length - held.journal.length
      (result.map fun p => { p with later }, f, h)

/-- The request that the shell sends: the token, and the process id if one is given. -/
def noticeRequest (token : String) (pid : Option Int32) : Notice.Parcel :=
  let data := Notice.Parcel.writeText {} token
  match pid with
  | some pid => data.writeInt pid
  | none => data

/-- Sends a request on the notice channel and shows the reply. -/
def notice (m : Machine) (code : UInt32) (token : Option String) (pid : Option Int32)
    (f : Facade) (h : Host) : Result :=
  let data := noticeRequest (token.getD f.config.notice.token) pid
  let caller : Caller := ⟨m.pid, 0⟩
  let h := Notice.Service.connected caller h
  let (_, _, answer, service, h) := f.notice.receive ⟨caller, code⟩ data {} h
  let f := { f with notice := service }
  match (Notice.Reply.read answer).1 with
  | .error fault => (.error fault.error, f, h)
  | .ok reply =>
    (.ok
      { document :=
          .object [("command", .text "notice"), ("code", .nat code.toNat),
            ("status", .int reply.status.toInt), ("message", .text reply.message),
            ("presenter", .text f.notice.presenter.name),
            ("sessions", .list (f.notice.sessionsJson m.zulu))]
        text := reply.text
        exit := if reply.isSuccess then .clean else .ipcRejected },
     f, h)

/-! ## Commands without a facade -/

/-- Shows the configuration and where it comes from. -/
def showConfig (m : Machine) (l : Config.Loaded) : Payload where
  document :=
    .object
      [("schema_version", .text Config.knownVersion), ("generated_at", .text (m.offset 0)),
       ("source", .object
         [("path", .optional .text l.snapshot.path), ("kind", .text l.snapshot.source),
          ("hash", .optional .text l.snapshot.digest),
          ("using_defaults", .bool l.snapshot.path.isNone)]),
       ("config", l.config.toJson)]
  text :=
    "# Configuration\n"
      ++ (match l.snapshot.path with
        | some path => "Source: " ++ path ++ " (" ++ l.snapshot.source ++ ")\n"
        | none => "Source: built-in defaults\n")
      ++ "Device class: " ++ l.snapshot.device ++ "\nInitial mode: "
      ++ Text.naturalText l.snapshot.initialMode.toNat

/-- Says that a configuration is valid. -/
def validConfig (m : Machine) (l : Config.Loaded) : Payload where
  document :=
    .object
      [("schema_version", .text Config.knownVersion), ("generated_at", .text (m.offset 0)),
       ("status", .text "valid"), ("path", .optional .text l.snapshot.path),
       ("using_defaults", .bool l.snapshot.path.isNone)]
  text :=
    "Status: valid\nConfig: "
      ++ (match l.snapshot.path with
        | some path => path
        | none => "using built-in defaults")

/-- The schema of configurations. -/
def schemaPayload : Payload where
  document := Config.Schema.document
  text := Config.Schema.document.lines

/-- The version of the toolchain that the shell is made for. -/
def toolchainVersion : String := "1.88"

/-- The version of the shell. -/
def versionPayload : Payload where
  document :=
    .object [("schema_version", .text Config.knownVersion),
      ("pm_shell_version", .text programVersion), ("rust_version", .text toolchainVersion)]
  text :=
    programName ++ " " ++ programVersion ++ "\nconfig schema version: " ++ Config.knownVersion

/-! ## All commands -/

/-- Loads the configuration, and goes on with it and the log of the loading. -/
def withConfig (m : Machine) (path : Option String)
    (next : Config.Loaded → Verdict × List Log.Entry) : Verdict × List Log.Entry :=
  match m.load (path.map Config.Path.ofText) with
  | .error e => (.unconfigured e, [])
  | .ok l =>
    let (v, journal) := next l
    (v, ⟨0, l.record⟩ :: journal)

/-- The verdict on what a command on the facade left. A notice request that cannot be answered is
reported without a record. -/
def conclude (isNotice : Bool) : Result → Verdict × List Log.Entry
  | (.ok p, _, h) => (.done p, h.journal)
  | (.error e, _, h) =>
    let h :=
      if isNotice then h
      else h.log .debug .internalError .shell "command failed" [("error", .text e.message)]
    (.failed e, h.journal)

/-- Loads the configuration, starts a facade, and runs a command on it. -/
def withFacade (m : Machine) (path : Option String) (isNotice : Bool)
    (command : Facade → Host → Result) : Verdict × List Log.Entry :=
  withConfig m path fun l =>
    match Facade.start l.config (Facade.hostFor l.config m.origin) with
    | (.ok f, h) => conclude isNotice (command f (m.running h))
    | (.error (.refused e), h) => (.failed e, h.journal)
    | (.error .crashed, h) => (.failed Pending.abandoned, h.journal)

/-- Carries out a command. -/
def Command.verdict (c : Command) (m : Machine) (path : Option String) :
    Verdict × List Log.Entry :=
  match c with
  | .setMode code => withFacade m path false (Shell.setMode code)
  | .getMode =>
    withFacade m path false (power "getPowerMode" []
      (powerPayload "getPowerMode" fun v => "Power Mode: " ++ v.line))
  | .wakeup detail =>
    withFacade m path false (power "wakeup" [.text detail]
      (powerPayload "wakeup" fun _ => "wakeup done"))
  | .suspend =>
    withFacade m path false (power "suspend" [] (powerPayload "suspend" fun _ => "suspend done"))
  | .screen =>
    withFacade m path false (power "isScreenOn" []
      (powerPayload "isScreenOn" fun v => "Screen On: " ++ v.line))
  | .dump => withFacade m path false (Shell.dump m)
  | .lock name kind hold wait => withFacade m path false (Shell.lock m name kind hold wait)
  | .notice code token pid => withFacade m path true (Shell.notice m code token pid)
  | .showConfig => withConfig m path fun l => (.done (Shell.showConfig m l), [])
  | .validateConfig _ => withConfig m path fun l => (.done (validConfig m l), [])
  | .schema => (.done schemaPayload, [])
  | .version => (.done versionPayload, [])

/-- The configuration file that a command line names. -/
def Invocation.configPath (i : Invocation) : Option String :=
  match i.command with
  | .validateConfig given => given.or i.common.config
  | _ => i.common.config

/-- The files that carrying out a command line may read. -/
def Invocation.paths (i : Invocation) (env : Config.Environment) (userBase : Option Config.Path) :
    List Config.Path :=
  (Config.candidates env userBase (i.configPath.map Config.Path.ofText)).map Prod.snd

/-- What carrying out a command line prints, under a filter. -/
def Invocation.prints (i : Invocation) (m : Machine) (passes : Log.Record → Bool) : List Print :=
  let (verdict, journal) := i.command.verdict m i.configPath
  verdict.prints i.common.output passes journal

/-- Carries out what a command line asks for. -/
def Invocation.perform (i : Invocation) (m : Machine) : Ending :=
  let settings := i.common.logSettings m.env
  match settings.filter? m.filters with
  | none => {}
  | some passes =>
    let (verdict, _) := i.command.verdict m i.configPath
    m.print settings.format verdict.exit.code {} (i.prints m passes)

/-- How a command line ends that asks for nothing to be carried out. -/
def Stop.ending : Stop → Ending
  | .help => { status := some 0, output := "Usage: " ++ programName ++ " [OPTIONS] <COMMAND>\n" }
  | .version title => { status := some 0, output := title ++ " " ++ programVersion ++ "\n" }
  | .misuse =>
    { status := some 2, report := "Usage: " ++ programName ++ " [OPTIONS] <COMMAND>\n" }

/-- Carries out a command line. -/
def run (m : Machine) (words : List String) : Ending :=
  match Invocation.parse m.env words with
  | .ok i => i.perform m
  | .error stop => stop.ending

/-- The report of an error is not empty. -/
theorem report_ofError (o : Output) (e : Error) : errorReport o e ≠ "" := by
  intro h
  have hLength := congrArg String.length h
  simp [errorReport, String.length_append] at hLength

end DevicePower.Shell
