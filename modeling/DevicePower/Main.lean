import DevicePower.Log.Console
import DevicePower.Log.Filter
import DevicePower.Shell.Perform
import DevicePower.Text.Instant
import Std.Time.DateTime.Timestamp

/-!
# The shell as a program

Gathers what a command line finds around it, carries the command line out, and prints what it comes
to: the payload on the standard output, the log and the report on the standard error.
-/

namespace DevicePower.Shell

/-- The variables that a command line may depend on. -/
def variableNames : List String :=
  [Config.fileVariable, Config.directoryVariable, "XDG_CONFIG_HOME", "HOME", "PM_LOG",
   "PM_LOG_FORMAT", "RUST_LOG"]

/-- The environment of the process. -/
def environment : IO Config.Environment := do
  let values ← variableNames.mapM fun name => do return (name, ← IO.getEnv name)
  return fun name => (values.find? fun v => v.1 == name).bind fun v => v.2

/-- How the operating system words a failure, and its number. -/
def failure (e : IO.Error) : Nat × String :=
  let worded (code : UInt32) (details : String) : Nat × String :=
    (code.toNat, details ++ " (os error " ++ Text.naturalText code.toNat ++ ")")
  match e with
  | .noFileOrDirectory _ code details => worded code details
  | .inappropriateType _ code details => worded code details
  | .permissionDenied _ code details => worded code details
  | .invalidArgument _ code details => worded code details
  | .noSuchThing _ code details => worded code details
  | .resourceExhausted _ code details => worded code details
  | .otherError code details => worded code details
  | .hardwareFault code details => worded code details
  | other => (0, toString other)

/-- The failures that mean that nothing is found at a path: no such name, a file on the way, a name
that is too long, links that lead nowhere. -/
def absences : List Nat := [2, 20, 36, 40]

/-- The failure that means that there is no permission. -/
def denial : Nat := 13

/-- What is found at a path. Where permission is missing, it is for a directory on the way or for
the file itself, whose place can then be told. -/
def look (path : String) : IO Config.Entry := do
  try
    let bytes ← IO.FS.readBinFile path
    return .file bytes.toList
  catch e =>
    let (code, reason) := failure e
    if absences.contains code then return .absent reason
    if code == denial then
      try
        let _ ← IO.FS.realPath path
        return .unreadable reason
      catch _ => return .hidden reason
    return .unreadable reason

/-- The files at some paths. -/
def filesAt (paths : List Config.Path) : IO Config.Files := do
  let entries ← paths.mapM fun path => do return (path, ← look path.text)
  return fun path => ((entries.find? fun e => e.1 == path).map Prod.snd).getD .missing

/-- The home directory of the account of this process, by the table of accounts. -/
def accountHome : IO (Option Config.Path) := do
  let status ← try IO.FS.readFile "/proc/self/status" catch _ => pure ""
  let table ← try IO.FS.readFile "/etc/passwd" catch _ => pure ""
  let user? := (status.splitOn "\n").findSome? fun line =>
    match line.splitOn "\t" with
    | "Uid:" :: user :: _ => some user
    | _ => none
  return (table.splitOn "\n").findSome? fun line =>
    match line.splitOn ":" with
    | [_, _, user, _, _, home, _] => if some user = user? then some (.ofText home) else none
    | _ => none

/-- Random hexadecimal digits, two for each of `n` bytes. -/
def randomDigits (n : Nat) : IO String := do
  let bytes ← IO.getRandomBytes (USize.ofNat n)
  return String.ofList (Text.hexPairs bytes.toList)

/-- The name of this host: from the machine's own id, or made up. -/
def hostName : IO String := do
  let known ← try IO.FS.readFile "/etc/machine-id" catch _ => pure ""
  let name := Text.trim known
  if 8 ≤ name.length && name.toList.all fun c => c.toNat < 128 then
    return "host-" ++ String.ofList (name.toList.take 8)
  else return "host-" ++ (← randomDigits 4)

/-- The number of this process. -/
def processId : IO Int32 := do
  let status ← try IO.FS.readFile "/proc/self/stat" catch _ => pure ""
  let word := status.toList.takeWhile Char.isDigit
  return Int32.ofInt ((Text.digitsValue? word).getD 0)

/-- The status of a shell that crashed. -/
def crashedStatus : UInt32 := 101

/-- Prints line by line, and ends with a status. A line of the log is lost where the log is for
machines and the line cannot be written; anything else that cannot be written is a crash. -/
def printAll (format : Log.Format) (time : Nat → String) (status : UInt32) :
    List Print → IO UInt32
  | [] => return status
  | p :: rest => do
    try
      match p with
      | .record entry =>
        IO.eprintln <|
          match format with
          | .human => entry.record.consoleLine (time entry.instant)
          | .jsonl => entry.record.line (time entry.instant) []
      | .payload text => IO.print text
      | .report text => IO.eprint text
    catch _ =>
      match format, p with
      | .jsonl, .record _ => pure ()
      | _, _ => return crashedStatus
    printAll format time status rest

/-- Carries out a command line in this process. -/
def start (words : List String) : IO UInt32 := do
  let env ← environment
  let now := (← Std.Time.Timestamp.now).toNanosecondsSinceUnixEpoch.val.toNat
  match Invocation.parse env words with
  | .error stop =>
    let e := stop.ending
    IO.eprint e.report
    IO.print e.output
    return UInt32.ofNat (e.status.getD 0)
  | .ok i =>
    let userBase := Config.userBase? env (← accountHome)
    let machine : Machine :=
      { files := ← filesAt (i.paths env userBase)
        env := env
        userBase := userBase
        filters := Log.Filter.library
        pid := ← processId
        origin := ⟨"run-" ++ (← randomDigits 6), ← hostName⟩
        stamp := fun instant => Text.instantText (now + instant) }
    let settings := i.common.logSettings env
    match settings.filter? machine.filters with
    | none => return crashedStatus
    | some passes =>
      let status := (i.command.verdict machine i.configPath).1.exit.code
      printAll settings.format machine.offset (UInt32.ofNat status) (i.prints machine passes)

end DevicePower.Shell

/-- The shell. -/
def main (words : List String) : IO UInt32 := DevicePower.Shell.start words
