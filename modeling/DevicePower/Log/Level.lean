import DevicePower.Name
import DevicePower.Text.Blank

/-!
# Levels, stages and events of the log

Each record of the log has a level, belongs to a stage of the program, and says which event it
reports. What is written at all is set by a verbosity, which is a level or off.
-/

namespace DevicePower.Log

/-- How severe a record is. -/
inductive Level where
  | trace
  | debug
  | info
  | warn
  | error
deriving DecidableEq

namespace Level

/-- The rank of a level, the most severe lowest. -/
def rank : Level → Nat
  | error => 1
  | warn => 2
  | info => 3
  | debug => 4
  | trace => 5

/-- The name of a level. -/
def name : Level → String
  | trace => "trace"
  | debug => "debug"
  | info => "info"
  | warn => "warn"
  | error => "error"

/-- The names that stand for levels in documents. -/
def documentNames : List (String × Level) :=
  [trace, debug, info, warn, error].map fun l => (l.name, l)

end Level

/-- What is written: the records down to a level, or none. -/
inductive Verbosity where
  | trace
  | debug
  | info
  | warn
  | error
  | off
deriving DecidableEq

namespace Verbosity

/-- The rank of the least severe level that is written. -/
def rank : Verbosity → Nat
  | off => 0
  | error => 1
  | warn => 2
  | info => 3
  | debug => 4
  | trace => 5

/-- The verbosity with a rank. -/
def ofRank? : Nat → Option Verbosity
  | 0 => some off
  | 1 => some error
  | 2 => some warn
  | 3 => some info
  | 4 => some debug
  | 5 => some trace
  | _ => none

/-- Whether records of a level are written. -/
def passes (v : Verbosity) (l : Level) : Bool := l.rank ≤ v.rank

/-- The name of a verbosity. -/
def name : Verbosity → String
  | trace => "trace"
  | debug => "debug"
  | info => "info"
  | warn => "warn"
  | error => "error"
  | off => "off"

/-- All verbosities, the most talkative first. -/
def all : List Verbosity := [trace, debug, info, warn, error, off]

/-- All names by which a verbosity may be given. -/
def names : List (String × Verbosity) :=
  [("trace", trace), ("debug", debug), ("info", info), ("warn", warn), ("warning", warn),
   ("error", error), ("off", off), ("quiet", off)]

/-- The names that stand for verbosities in documents. -/
def documentNames : List (String × Verbosity) := all.map fun v => (v.name, v)

/-- The verbosity that a text names, between blanks or not. -/
def parse (s : String) : Except NameError Verbosity :=
  match Text.named? names (Text.trim s) with
  | some v => .ok v
  | none => .error (.unknownName "log level" s)

end Verbosity

/-- How records are written. -/
inductive Format where
  /-- Lines for people. -/
  | human
  /-- One JSON object a line. -/
  | jsonl
deriving DecidableEq

namespace Format

/-- The name of a format. -/
def name : Format → String
  | human => "human"
  | jsonl => "jsonl"

/-- All names by which a format may be given. -/
def names : List (String × Format) :=
  [("human", human), ("console", human), ("jsonl", jsonl), ("json", jsonl)]

/-- The names that stand for formats in documents. -/
def documentNames : List (String × Format) := [human, jsonl].map fun f => (f.name, f)

/-- The format that a text names. -/
def parse (s : String) : Except NameError Format := Name.byName "log format" names s

end Format

/-- The part of the program that a record comes from. -/
inductive Stage where
  | init
  | lock
  | mode
  | action
  | notice
  | api
  | shell
deriving DecidableEq

namespace Stage

/-- The name of a stage. -/
def name : Stage → String
  | init => "init"
  | lock => "lock"
  | mode => "mode"
  | action => "action"
  | notice => "notice"
  | api => "api"
  | shell => "shell"

/-- All stages. -/
def all : List Stage := [init, lock, mode, action, notice, api, shell]

/-- The names that stand for stages in documents. -/
def documentNames : List (String × Stage) := all.map fun s => (s.name, s)

end Stage

/-- What a record reports. -/
inductive Event where
  | configLoaded
  | configDefaultUsed
  | contextReady
  | lockCreated
  | lockAcquired
  | lockReleased
  | lockTimeout
  | lockDropped
  | modeChanged
  | modeRejected
  | screenWakeup
  | screenSuspend
  | powerShutdown
  | powerReboot
  | actionFailed
  | deprecatedAlias
  | noticeRequest
  | noticeTokenMismatch
  | noticeOpened
  | noticeOpenFailed
  | noticeClosed
  | noticeUnsupported
  | noticeUserCancel
  | noticeRejected
  | sessionCreated
  | sessionDestroyed
  | internalError
deriving DecidableEq

namespace Event

/-- The name of an event. -/
def name : Event → String
  | configLoaded => "config.loaded"
  | configDefaultUsed => "config.default_used"
  | contextReady => "context.ready"
  | lockCreated => "lock.created"
  | lockAcquired => "lock.acquired"
  | lockReleased => "lock.released"
  | lockTimeout => "lock.timeout"
  | lockDropped => "lock.dropped"
  | modeChanged => "mode.changed"
  | modeRejected => "mode.rejected"
  | screenWakeup => "screen.wakeup"
  | screenSuspend => "screen.suspend"
  | powerShutdown => "power.shutdown"
  | powerReboot => "power.reboot"
  | actionFailed => "action.failed"
  | deprecatedAlias => "api.deprecated_alias"
  | noticeRequest => "notice.request"
  | noticeTokenMismatch => "notice.token_mismatch"
  | noticeOpened => "notice.opened"
  | noticeOpenFailed => "notice.open_failed"
  | noticeClosed => "notice.closed"
  | noticeUnsupported => "notice.unsupported"
  | noticeUserCancel => "notice.user_cancel"
  | noticeRejected => "notice.rejected"
  | sessionCreated => "session.created"
  | sessionDestroyed => "session.destroyed"
  | internalError => "internal_error"

/-- All events: starting, locks, modes, actions, calls, notices, failures. -/
def all : List Event :=
  [configLoaded, configDefaultUsed, contextReady, lockCreated, lockAcquired, lockReleased,
   lockTimeout, lockDropped, modeChanged, modeRejected, screenWakeup, screenSuspend, powerShutdown,
   powerReboot, actionFailed, deprecatedAlias, noticeRequest, noticeTokenMismatch, noticeOpened,
   noticeOpenFailed, noticeClosed, noticeUnsupported, noticeUserCancel, noticeRejected,
   sessionCreated, sessionDestroyed, internalError]

end Event

end DevicePower.Log
