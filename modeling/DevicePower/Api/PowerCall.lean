import DevicePower.Api.Arguments
import DevicePower.Pending
import DevicePower.Power.Control

/-!
# Power calls

The power part of the programming interface has seven methods. Four of them have an older name,
which works as the present one does and is recorded as deprecated. A call is checked as a whole
before anything is done; messages name the method by its present name.

## Main results

* `resolve_name`, `resolve_alias`: each name of a method stands for it.
* `eq_name_of_resolve`: no other name stands for a method.
-/

namespace DevicePower.Api

/-- The methods for power. -/
inductive PowerMethod where
  | shutdown
  | reboot
  | isScreenOn
  | wakeup
  | suspend
  | getPowerMode
  | setPowerMode
deriving DecidableEq

namespace PowerMethod

/-- All methods. -/
def all : List PowerMethod :=
  [shutdown, reboot, isScreenOn, wakeup, suspend, getPowerMode, setPowerMode]

/-- The name of a method. -/
def name : PowerMethod → String
  | shutdown => "shutdown"
  | reboot => "reboot"
  | isScreenOn => "isScreenOn"
  | wakeup => "wakeup"
  | suspend => "suspend"
  | getPowerMode => "getPowerMode"
  | setPowerMode => "setPowerMode"

/-- The older name of a method. -/
def alias? : PowerMethod → Option String
  | shutdown => some "shutdownDevice"
  | reboot => some "rebootDevice"
  | wakeup => some "wakeupDevice"
  | suspend => some "suspendDevice"
  | _ => none

/-- The method with a name, present or older. -/
def resolve (name : String) : Option PowerMethod :=
  all.find? fun m => m.name == name || m.alias? == some name

theorem resolve_name (m : PowerMethod) : resolve m.name = some m := by
  cases m <;> decide

theorem resolve_alias {m : PowerMethod} {older : String} (h : m.alias? = some older) :
    resolve older = some m := by
  cases m <;> simp only [alias?, Option.some.injEq, reduceCtorEq] at h <;> subst h <;> decide

/-- No other name stands for a method. -/
theorem eq_name_of_resolve {name : String} {m : PowerMethod} (h : resolve name = some m) :
    m.name = name ∨ m.alias? = some name := by
  simpa using List.find?_some h

end PowerMethod

/-- A power call that has been checked. -/
inductive PowerCall where
  | act (action : Power.Action)
  | isScreenOn
  | getPowerMode
  | setPowerMode (mode : Power.Mode)
deriving DecidableEq

namespace PowerCall

/-- Checks that there is one argument, a text. -/
def oneText (a : Arguments) : Except Objection String := do
  a.expectCount 1
  a.text 0

/-- Checks that there is one argument, an integer. -/
def oneInteger (a : Arguments) : Except Objection Int := do
  a.expectCount 1
  a.integer 0

/-- Checks the arguments of a method that takes no mode. -/
def plain (m : PowerMethod) (a : Arguments) : Except Objection PowerCall :=
  match m with
  | .shutdown => (oneText a).map fun reason => act (.shutdown reason)
  | .reboot => (oneText a).map fun reason => act (.reboot reason)
  | .wakeup => (oneText a).map fun detail => act (.wakeup detail)
  | .suspend => (a.expectCount 0).map fun _ => act .suspend
  | .isScreenOn => (a.expectCount 0).map fun _ => isScreenOn
  | .getPowerMode | .setPowerMode => (a.expectCount 0).map fun _ => getPowerMode

/-- Checks the arguments of a method. A number that is no mode is recorded. -/
def check (m : PowerMethod) (a : Arguments) (h : Host) : Except Error PowerCall × Host :=
  match m with
  | .setPowerMode =>
    match oneInteger a with
    | .error o => (.error o.error, h)
    | .ok code =>
      let (mode, h) := Power.decodeMode code h
      (mode.map setPowerMode, h)
  | _ => ((plain m a).mapError Objection.error, h)

/-- Records that a method was called by its older name. -/
def noteAlias (m : PowerMethod) (given : String) (h : Host) : Host :=
  if m.name = given then h
  else
    h.log .debug .deprecatedAlias .api "deprecated power method"
      [("alias", .text given), ("method", .text m.name)]

/-- Checks a call. Nothing is done yet. -/
def parse (method : String) (values : List Json.Value) (h : Host) :
    Except Error PowerCall × Host :=
  match PowerMethod.resolve method with
  | none => (.error (Objection.unknownPowerMethod method).error, h)
  | some m => check m ⟨m.name, values⟩ (noteAlias m method h)

/-- Does what a call asks for. -/
def run (c : PowerCall) (s : Power.State) (h : Host) :
    Outcome Json.Value × Power.State × Host :=
  match c with
  | act action =>
    let (outcome, s, h) := s.act action h
    (outcome.map fun _ => .null, s, h)
  | isScreenOn => (.ok (.bool s.screen.isOn), s, h)
  | getPowerMode => (.ok (.nat s.mode.code), s, h)
  | setPowerMode mode =>
    let (outcome, s, h) := s.setMode mode h
    (outcome.map fun _ => .null, s, h)

end PowerCall

/-- A power call, checked at once and then carried out. -/
def callPower (form : Form) (method : String) (values : List Json.Value) (s : Power.State)
    (h : Host) : Outcome Json.Value × Power.State × Host :=
  match PowerCall.parse method values h with
  | (.error e, h) => (.error (.refused e), s, h)
  | (.ok c, h) =>
    let (outcome, s, h) := c.run s h
    (form.deliver outcome, s, h)

end DevicePower.Api
