import DevicePower.Error
import DevicePower.Lock.Kind
import DevicePower.Power.Mode

/-!
# The platform below the facade

The facade never touches the device. It asks the platform to act, and the platform accepts the call
and records it, refuses it with an error, or crashes in it. Which of the three happens is decided
from the call and the platform's present condition alone, and only an accepted call changes
anything.

## Main results

* `calls_attempt`: the record grows by the call if it is accepted, and stays as it is otherwise.
-/

namespace DevicePower

/-- What the platform is asked to do. -/
inductive Call where
  | shutdown (reason : String)
  | reboot (reason : String)
  | wakeup (detail : String)
  | suspend
  | setMode (mode : Power.Mode)
  | acquireLock (id : Nat) (name : String) (kind : Lock.Kind) (timeout : Nat)
  | releaseLock (id : Nat)
  | requestEnable
  | publish (id : Int32) (label : String) (pid : Option Int32) (closeEvent : String)
  | cancel (id : Int32) (label : String)
  | capsuleVisible (visible : Bool)
  | closePanel
  | authorize (granted : Bool)
deriving DecidableEq

/-- The operations that calls belong to. -/
inductive Operation where
  | shutdown
  | reboot
  | wakeup
  | suspend
  | setMode
  | acquireLock
  | releaseLock
  | requestEnable
  | publish
  | cancel
  | capsule
  | closePanel
  | authorize
deriving DecidableEq

namespace Operation

/-- The name of an operation. -/
def name : Operation → String
  | shutdown => "Shutdown"
  | reboot => "Reboot"
  | wakeup => "Wakeup"
  | suspend => "Suspend"
  | setMode => "SetMode"
  | acquireLock => "AcquireLock"
  | releaseLock => "ReleaseLock"
  | requestEnable => "RequestEnable"
  | publish => "Publish"
  | cancel => "Cancel"
  | capsule => "Capsule"
  | closePanel => "ClosePanel"
  | authorize => "Authorize"

/-- All operations. -/
def all : List Operation :=
  [shutdown, reboot, wakeup, suspend, setMode, acquireLock, releaseLock, requestEnable, publish,
   cancel, capsule, closePanel, authorize]

end Operation

namespace Call

/-- The operation of a call. -/
def operation : Call → Operation
  | shutdown _ => .shutdown
  | reboot _ => .reboot
  | wakeup _ => .wakeup
  | suspend => .suspend
  | setMode _ => .setMode
  | acquireLock _ _ _ _ => .acquireLock
  | releaseLock _ => .releaseLock
  | requestEnable => .requestEnable
  | publish _ _ _ _ => .publish
  | cancel _ _ => .cancel
  | capsuleVisible _ => .capsule
  | closePanel => .closePanel
  | authorize _ => .authorize

/-- The word for a call in documents. -/
def tag : Call → String
  | shutdown _ => "shutdown"
  | reboot _ => "reboot"
  | wakeup _ => "wakeup"
  | suspend => "suspend"
  | setMode _ => "set_mode"
  | acquireLock _ _ _ _ => "acquire_lock"
  | releaseLock _ => "release_lock"
  | requestEnable => "request_enable"
  | publish _ _ _ _ => "publish"
  | cancel _ _ => "cancel"
  | capsuleVisible _ => "capsule_visible"
  | closePanel => "close_panel"
  | authorize _ => "authorize"

/-- What a call says, as members of a document. A published notice stays until it is closed and has
a floating icon. -/
def details : Call → Json.Members
  | shutdown reason => [("reason", .text reason)]
  | reboot reason => [("reason", .text reason)]
  | wakeup detail => [("detail", .text detail)]
  | setMode mode => [("mode", .text mode.name)]
  | acquireLock id name kind timeout =>
    [("id", .nat id), ("name", .text name), ("lock_type", .text kind.name),
     ("timeout_ms", .nat timeout)]
  | releaseLock id => [("id", .nat id)]
  | publish id label pid closeEvent =>
    [("id", .int id.toInt), ("label", .text label),
     ("caller_pid", .optional (fun p => .int p.toInt) pid), ("close_event", .text closeEvent),
     ("ongoing", .bool true), ("floating_icon", .bool true)]
  | cancel id label => [("id", .int id.toInt), ("label", .text label)]
  | capsuleVisible visible => [("visible", .bool visible)]
  | authorize granted => [("granted", .bool granted)]
  | suspend => []
  | requestEnable => []
  | closePanel => []

/-- A call as a document. -/
def toJson (c : Call) : Json.Value := .object (("op", .text c.tag) :: c.details)

end Call

/-- How an operation ended that did not succeed. -/
inductive Failure where
  | refused (error : Error)
  | crashed
deriving DecidableEq

/-- How an operation ended. -/
abbrev Outcome (α : Type) := Except Failure α

/-- The condition of the platform, and the calls it has accepted, oldest first. -/
structure Platform where
  supported : List Lock.Kind
  /-- The operations that are switched off. -/
  failing : List Operation := []
  /-- The operations that end as given before they reach the platform. -/
  faults : List (Operation × Failure) := []
  calls : List Call := []

namespace Platform

/-- Switches an operation off. -/
def fail (p : Platform) (op : Operation) : Platform := { p with failing := op :: p.failing }

/-- Switches an operation on again. -/
def heal (p : Platform) (op : Operation) : Platform :=
  { p with failing := p.failing.filter (· != op) }

/-- Makes an operation end as given. -/
def inject (p : Platform) (op : Operation) (f : Failure) : Platform :=
  { p with faults := (op, f) :: p.faults.filter (·.1 != op) }

/-- Lets an operation reach the platform again. -/
def restore (p : Platform) (op : Operation) : Platform :=
  { p with faults := p.faults.filter (·.1 != op) }

/-- The same platform with no calls on record. -/
def clear (p : Platform) : Platform := { p with calls := [] }

/-- Whether locks of a kind can be held. -/
def supports (p : Platform) (kind : Lock.Kind) : Bool := p.supported.contains kind

/-- Why the platform itself refuses a call, if it does. -/
def objection? (p : Platform) (c : Call) : Option Error :=
  let switchedOff : Option Error :=
    if p.failing.contains c.operation then
      some (.platform none ("simulated " ++ c.operation.name ++ " failure"))
    else none
  match c with
  | .acquireLock _ _ kind _ =>
    if p.supports kind then switchedOff
    else some (.platform none ("running lock type " ++ kind.name ++ " not supported"))
  | _ => switchedOff

/-- How a call ends. -/
def answer (p : Platform) (c : Call) : Outcome Unit :=
  match p.faults.find? fun f => f.1 == c.operation with
  | some f => .error f.2
  | none =>
    match p.objection? c with
    | some e => .error (.refused e)
    | none => .ok ()

/-- Whether a call is accepted. -/
def accepts (p : Platform) (c : Call) : Bool := (p.answer c).isOk

/-- The platform after a call. -/
def attempt (p : Platform) (c : Call) : Platform :=
  match p.answer c with
  | .ok () => { p with calls := p.calls ++ [c] }
  | .error _ => p

/-- The record grows by the call if it is accepted, and stays as it is otherwise. -/
theorem calls_attempt (p : Platform) (c : Call) :
    (p.attempt c).calls = p.calls ++ (if p.accepts c then [c] else []) := by
  unfold attempt accepts
  split
  · next h => simp [h, Except.isOk, Except.toBool]
  · next h => simp [h, Except.isOk, Except.toBool]

end Platform

end DevicePower
