import DevicePower.Api.LockCall
import DevicePower.Api.PowerCall
import DevicePower.Config.Settings
import DevicePower.Notice.Service

/-!
# The facade

One value holds all parts of the facade: the configuration it was started with, the power state, the
running locks and the notice service. All of them act on one host. Starting the facade checks the
initial mode first, because a configuration may be used that has not been validated.
-/

namespace DevicePower

/-- All parts of the facade. -/
structure Facade where
  config : Config
  power : Power.State
  locks : Lock.Registry := {}
  notice : Notice.Service
  /-- When the facade was started. -/
  started : Nat

namespace Facade

/-- The message for an initial mode that is none. -/
def badModeMessage (code : UInt32) : String :=
  "power.initial_mode " ++ Text.naturalText code.toNat ++ " is not a power mode code"

/-- The host of a run on a platform that can hold the locks of a configuration. -/
def hostFor (c : Config) (origin : Log.Origin) : Host where
  platform := { supported := c.lockKinds }
  origin := origin

/-- The state that a configuration starts in, with a mode. -/
def initialPower (c : Config) (mode : Power.Mode) : Power.State :=
  ⟨mode, Power.Screen.ofBool c.power.screenOn⟩

/-- Starts the facade. -/
def start (c : Config) (h : Host) : Outcome Facade × Host :=
  match Power.Mode.ofCode? c.power.initialMode.toNat with
  | none => (.error (.refused (.config (badModeMessage c.power.initialMode))), h)
  | some mode =>
    match Notice.Service.start c.notice c.device h with
    | (.error f, h) => (.error f, h)
    | (.ok notice, h) =>
      (.ok { config := c, power := initialPower c mode, notice, started := h.now },
        h.log .info .contextReady .init "power context ready"
          [("device_class", .text c.device.name), ("mode", .integer mode.code)])

/-! ## Calls -/

/-- Makes a power call. -/
def callPower (f : Facade) (form : Form) (method : String) (values : List Json.Value) (h : Host) :
    Outcome Json.Value × Facade × Host :=
  let (outcome, power, h) := Api.callPower form method values f.power h
  (outcome, { f with power }, h)

/-- Makes a lock, and gives its number. -/
def createLock (f : Facade) (form : Form) (method : String) (values : List Json.Value) (h : Host) :
    Outcome Nat × Facade × Host :=
  let (outcome, locks, h) := Api.createLock form method values f.locks h
  (outcome, { f with locks }, h)

/-- Works on a lock that has a handle. -/
def onLock? {α : Type} (f : Facade) (id : Nat) (h : Host)
    (op : Lock.Running → Host → Outcome α × Lock.Running × Host) :
    Option (Outcome α × Facade × Host) :=
  (f.locks.onLock? id h op).map fun (outcome, locks, h) => (outcome, { f with locks }, h)

/-- Takes a handle from a lock. -/
def dropLock (f : Facade) (id : Nat) (h : Host) : Outcome Unit × Facade × Host :=
  let (outcome, locks, h) := f.locks.drop id h
  (outcome, { f with locks }, h)

/-- Lets milliseconds pass. -/
def advance (f : Facade) (milliseconds : Nat) (h : Host) : Facade × Host :=
  let (locks, h) := f.locks.advance (milliseconds * Lock.millisecond) h
  ({ f with locks }, h)

/-! ## What is seen -/

/-- The state of every part, as a document. Instants are written by `stamp`. -/
def dump (stamp : Nat → String) (f : Facade) (h : Host) : Json.Value :=
  .object
    [("run_id", .text h.origin.run), ("started_at", .text (stamp f.started)),
     ("device_class", .text f.config.device.name), ("power_mode", .text f.power.mode.name),
     ("power_mode_code", .nat f.power.mode.code), ("screen", .text f.power.screen.name),
     ("running_locks", .list ((f.locks.snapshot h.now).map fun s => s.toJson stamp)),
     ("notice_presenter", .text f.notice.presenter.name),
     ("notice_sessions", .list (f.notice.sessionsJson stamp))]

/-- The debug line of the facade. -/
def debugText (f : Facade) (h : Host) : String :=
  "PowerContext \x7b run_id: " ++ Text.quoted h.origin.run ++ ", modes: " ++ f.power.debugText
    ++ ", locks: " ++ f.locks.debugText ++ ", .. \x7d"

/-! ## Starting -/

end Facade

end DevicePower
