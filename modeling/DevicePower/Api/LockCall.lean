import DevicePower.Api.Arguments
import DevicePower.Lock.Registry
import DevicePower.Pending

/-!
# Lock calls

The lock part of the programming interface makes running locks, tells which kinds of lock there can
be, and has three methods on a lock, each under two names. Messages name a method as the caller did.

## Main results

* `resolve_name`, `eq_name_of_resolve`: methods and names determine each other.
-/

namespace DevicePower.Api

/-- The argument at a place as a kind of lock: nothing for an integer that is the code of none. -/
def Arguments.lockKind (a : Arguments) (index : Nat) : Except Objection (Option Lock.Kind) :=
  (a.integer index).map Lock.Kind.ofInt?

/-- A request for a new lock that has been checked. -/
structure LockRequest where
  name : String
  kind : Lock.Kind
deriving DecidableEq

namespace LockRequest

/-- Checks a request for a new lock: a name that is not empty, and a kind. -/
def parse (method : String) (values : List Json.Value) : Except Objection LockRequest := do
  let a : Arguments := ⟨method, values⟩
  a.expectCount 2
  let name ← a.text 0
  if name.isEmpty then throw .emptyLockName
  match ← a.lockKind 1 with
  | none => throw .unknownLockKind
  | some kind => return { name, kind }

end LockRequest

/-- Makes a lock. The request is checked before anything else, whichever way the call is made. -/
def createLock (form : Form) (method : String) (values : List Json.Value) (r : Lock.Registry)
    (h : Host) : Outcome Nat × Lock.Registry × Host :=
  match LockRequest.parse method values with
  | .error o => (.error (.refused o.error), r, h)
  | .ok request =>
    if form.canBear method then
      let (made, r, h) := r.create request.name request.kind h
      (form.deliver (made.mapError .refused), r, h)
    else (.error .crashed, r, h)

/-- Whether the platform can hold locks of the kind that the argument gives. -/
def isLockKindSupported (values : List Json.Value) (p : Platform) : Except Objection Bool := do
  let a : Arguments := ⟨"isRunningLockTypeSupported", values⟩
  a.expectCount 1
  return (← a.lockKind 0).any p.supports

/-- The methods on a lock. The last three are older names of the first. -/
inductive LockMethod where
  | hold
  | unhold
  | isHolding
  | lock
  | unlock
  | isUsed
deriving DecidableEq

namespace LockMethod

/-- All methods. -/
def all : List LockMethod := [hold, unhold, isHolding, lock, unlock, isUsed]

/-- The name of a method. -/
def name : LockMethod → String
  | hold => "hold"
  | unhold => "unhold"
  | isHolding => "isHolding"
  | lock => "lock"
  | unlock => "unlock"
  | isUsed => "isUsed"

/-- How a method is shown in a debug line. -/
def debugName : LockMethod → String
  | hold => "Hold"
  | unhold => "Unhold"
  | isHolding => "IsHolding"
  | lock => "Lock"
  | unlock => "Unlock"
  | isUsed => "IsUsed"

/-- The method with a name. -/
def resolve (name : String) : Option LockMethod := all.find? fun m => m.name == name

theorem resolve_name (m : LockMethod) : resolve m.name = some m := by
  cases m <;> decide

theorem eq_name_of_resolve {name : String} {m : LockMethod} (h : resolve name = some m) :
    m.name = name := by
  simpa using List.find?_some h

end LockMethod

/-- A call on a lock that has been checked. -/
inductive LockCall where
  | hold (timeout : Nat)
  | release
  | isHolding
deriving DecidableEq

namespace LockCall

/-- Checks the arguments of a method. -/
def check (m : LockMethod) (a : Arguments) : Except Objection LockCall := do
  match m with
  | .hold | .lock =>
    a.expectCount 1
    return hold (← a.natural 0 "timeout")
  | .unhold | .unlock =>
    a.expectCount 0
    return release
  | .isHolding | .isUsed =>
    a.expectCount 0
    return isHolding

/-- Checks a call. Nothing is done yet. -/
def parse (method : String) (values : List Json.Value) : Except Objection LockCall :=
  match LockMethod.resolve method with
  | none => .error (.unknownLockMethod method)
  | some m => check m ⟨method, values⟩

/-- Does what a call asks for. -/
def run (c : LockCall) (l : Lock.Running) (h : Host) :
    Outcome Json.Value × Lock.Running × Host :=
  match c with
  | hold timeout =>
    let (outcome, l, h) := l.hold timeout h
    (outcome.map fun _ => .null, l, h)
  | release =>
    let (outcome, l, h) := l.release h
    (outcome.map fun _ => .null, l, h)
  | isHolding => (.ok (.bool (l.isHolding h.now)), l, h)

end LockCall

/-- Calls a method of a lock. -/
def callLock (method : String) (values : List Json.Value) (l : Lock.Running) (h : Host) :
    Outcome Json.Value × Lock.Running × Host :=
  match LockCall.parse method values with
  | .error o => (.error (.refused o.error), l, h)
  | .ok c => c.run l h

end DevicePower.Api
