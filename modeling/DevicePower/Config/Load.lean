import DevicePower.Config.Files
import DevicePower.Config.Validation
import DevicePower.Digest.Sha256
import DevicePower.Log.Record

/-!
# Finding and loading the configuration

The configuration is in the first file found of these: one named by the caller, one named by
`POWER_FACADE_CONFIG`, `config.json` in the directory named by `POWER_FACADE_CONFIG_DIR`, that in
the user's configuration directory, and that of the system. If none is there the defaults hold. A
file that is there and cannot be used makes loading fail; a later one does not stand in for it.

Where the directory of a user's configurations is, the program asks a library. Here its answer is
given, and `userBase?` is the rule by which the executable finds it.
-/

namespace DevicePower.Config

/-- Where a configuration comes from. -/
inductive Source where
  | argument
  | environment
  | user
  | system
  | builtin
deriving DecidableEq

/-- How a source is called. -/
def Source.text : Source → String
  | argument => "CLI argument"
  | environment => "environment variable"
  | user => "XDG config"
  | system => "system config"
  | builtin => "builtin default"

/-- The file a configuration is in, if any, and what led to it. -/
structure Place where
  path : Option Path := none
  source : Source := .builtin
deriving DecidableEq

/-- The values of environment variables, as far as they are texts. -/
abbrev Environment := String → Option String

/-- What is seen of the variables of a process. The system has bytes for values; a value that is not
UTF-8 is passed over as if the variable were not set. -/
def Environment.ofSystem (raw : String → Option (List UInt8)) : Environment :=
  fun name => (raw name).bind fun bytes => (Text.Utf8.decode bytes).toOption

/-- The variable that names a configuration file. -/
def fileVariable : String := "POWER_FACADE_CONFIG"

/-- The variable that names a directory with a configuration file. -/
def directoryVariable : String := "POWER_FACADE_CONFIG_DIR"

/-- The name of a configuration file in its directory. -/
def fileName : String := "config.json"

/-- The directory for this program below a directory of configurations. -/
def ownDirectory (base : Path) : Path := base.join "power-facade"

/-- The system's directory. -/
def systemDirectory : Path := ownDirectory "/etc"

/-- The directory of a user's configurations: `XDG_CONFIG_HOME` if that is absolute, else `.config`
in the home directory. The home directory is `HOME`, or that of the user's account. -/
def userBase? (env : Environment) (account : Option Path) : Option Path :=
  match ((env "XDG_CONFIG_HOME").map Path.ofText).filter Path.isAbsolute with
  | some base => some base
  | none =>
    let home := ((env "HOME").filter fun home => !home.isEmpty).map Path.ofText
    (home.or account).map fun home => home.join ".config"

section Candidates

variable (files : Files) (env : Environment) (base argument : Option Path)

/-- The files that are looked for, in order, below the user's directory `base` if there is one. -/
def candidates : List (Source × Path) :=
  (argument.map fun path => (Source.argument, path)).toList
    ++ ((env fileVariable).map fun path => (Source.environment, Path.ofText path)).toList
    ++ ((env directoryVariable).map fun dir =>
      (Source.environment, (Path.ofText dir).join fileName)).toList
    ++ (base.map fun base => (Source.user, (ownDirectory base).join fileName)).toList
    ++ [(Source.system, systemDirectory.join fileName)]

/-- The place of the configuration. -/
def resolve : Place :=
  match (candidates env base argument).find? fun c => (files c.2).isPresent with
  | some (source, path) => ⟨some path, source⟩
  | none => {}

end Candidates

/-! ## Loading -/

/-- What a process was started with. -/
structure Snapshot where
  version : String
  path : Option String
  source : String
  /-- The digest of the file's text. -/
  digest : Option String
  device : String
  initialMode : UInt32
deriving DecidableEq

namespace Snapshot

/-- The snapshot of a configuration from a place, whose file has the text `raw`. -/
def capture (c : Config) (place : Place) (raw : Option String) : Snapshot where
  version := c.version
  path := place.path.map Path.text
  source := place.source.text
  digest := raw.map Digest.textDigest
  device := c.device.name
  initialMode := c.power.initialMode

/-- A snapshot as a document, but for the time it was taken at. -/
def toJson (s : Snapshot) : Json.Value :=
  .object [("schema_version", .text s.version), ("path", .optional .text s.path),
    ("source", .text s.source), ("content_hash", .optional .text s.digest),
    ("device_class", .text s.device), ("initial_mode", .nat s.initialMode.toNat)]

end Snapshot

/-- Why a configuration could not be loaded. -/
inductive LoadError where
  | notFound (path : Path)
  | unreadable (path : Path) (reason : String)
  | invalid (path : Path) (error : ValidationError)
  | unsound (error : ValidationError)
deriving DecidableEq

namespace LoadError

/-- The wording of each failure. -/
def message : LoadError → String
  | notFound path => "Config file not found: " ++ path.text
  | unreadable path reason => "I/O error reading " ++ path.text ++ ": " ++ reason
  | invalid path error => "Invalid config " ++ path.text ++ ": " ++ error.message
  | unsound error => "Semantic validation failed: " ++ error.message

end LoadError

/-- A sound configuration and where it comes from. -/
structure Loaded where
  config : Config
  place : Place
  snapshot : Snapshot

/-- The record that loading leaves in the log. -/
def Loaded.record (l : Loaded) : Log.Record :=
  match l.snapshot.path with
  | some path =>
    ⟨.info, Log.Event.configLoaded.name,
      [("path", .text path), ("source", .text l.snapshot.source),
       (Log.messageName, .text "configuration loaded")]⟩
  | none =>
    ⟨.debug, Log.Event.configDefaultUsed.name,
      [(Log.messageName, .text "no config file found, using defaults")]⟩

/-- The configuration at a place and the text it was read from. -/
def readPlace (files : Files) (place : Place) :
    Except LoadError (Config × Option String) :=
  match place.path with
  | none => .ok ({}, none)
  | some path =>
    match (files path).read with
    | .error reason => .error (.unreadable path reason)
    | .ok raw =>
      match parse raw with
      | .error e => .error (.invalid path e)
      | .ok c => .ok (c, some raw)

/-- Loads the configuration. A file named by the caller has to be there. -/
def load (files : Files) (env : Environment) (base argument : Option Path) :
    Except LoadError Loaded :=
  match argument.filter fun path => !(files path).isPresent with
  | some path => .error (.notFound path)
  | none => do
    let place := resolve files env base argument
    let (c, raw) ← readPlace files place
    match validate c with
    | .error e => .error (.unsound e)
    | .ok () => .ok ⟨c, place, .capture c place raw⟩

/-- The configuration in one file, as it stands. -/
def ofFile (files : Files) (path : Path) : Except ValidationError Config :=
  match (files path).read with
  | .error reason => .error (.unreadable (path.text ++ ": " ++ reason))
  | .ok raw => parse raw

end DevicePower.Config
