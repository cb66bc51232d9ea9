import DevicePower.Host

/-!
# Controlling mode and screen

The facade remembers the power mode and whether the screen is lit. It changes what it remembers only
after the platform has accepted the change, so a refusal and a crash leave both as they were.

Shutting down and rebooting are recorded before the platform is asked, because nothing may be left
to write afterwards. Switching the screen is recorded once it has happened.

## Main results

* `act_of_error`: an action that fails leaves the state as it was.
* `screen_act`: one that succeeds leaves the screen as was asked for.
-/

namespace DevicePower.Power

/-- The mode and the screen, as the facade knows them. -/
structure State where
  mode : Mode
  screen : Screen
deriving DecidableEq

/-- What can be done with the device, other than setting its mode. -/
inductive Action where
  | shutdown (reason : String)
  | reboot (reason : String)
  /-- Lights the screen. -/
  | wakeup (detail : String)
  /-- Puts the screen out. -/
  | suspend
deriving DecidableEq

namespace Action

/-- The call that an action makes. -/
def call : Action → Call
  | shutdown reason => .shutdown reason
  | reboot reason => .reboot reason
  | wakeup detail => .wakeup detail
  | suspend => .suspend

/-- What an action makes of the screen, if it is about the screen. -/
def screen? : Action → Option Screen
  | wakeup _ => some .on
  | suspend => some .off
  | _ => none

/-- Writes the record of an action. -/
def log (a : Action) (h : Host) : Host :=
  match a with
  | shutdown reason =>
    h.log .info .powerShutdown .action "shutdown requested" [("reason", .text reason)]
  | reboot reason => h.log .info .powerReboot .action "reboot requested" [("reason", .text reason)]
  | wakeup detail => h.log .info .screenWakeup .action "screen on" [("detail", .text detail)]
  | suspend => h.log .info .screenSuspend .action "screen off" []

@[simp] theorem platform_log (a : Action) (h : Host) : (a.log h).platform = h.platform := by
  cases a <;> rfl

end Action

/-- The message for a number that is no mode. -/
def badModeMessage (code : Int) : String :=
  "Parameter error. " ++ Text.integerText code ++ " is not a valid power mode."

/-- The mode that a caller means by a number. A number that is no mode is recorded. -/
def decodeMode (code : Int) (h : Host) : Except Error Mode × Host :=
  match Mode.ofInt? code with
  | some m => (.ok m, h)
  | none =>
    (.error (.invalidArgument (badModeMessage code)),
      h.log .warn .modeRejected .mode "power mode rejected" [("code", .integer code)])

namespace State

/-- Sets the mode. -/
def setMode (s : State) (m : Mode) (h : Host) : Outcome Unit × State × Host :=
  match h.answer (.setMode m) with
  | .error f => (.error f, s, h.attempt (.setMode m))
  | .ok () =>
    (.ok (), { s with mode := m },
      (h.attempt (.setMode m)).log .info .modeChanged .mode "power mode changed"
        [("from", .integer s.mode.code), ("to", .integer m.code)])

/-- Makes the call of an action. A refusal is recorded. -/
def forward (a : Action) (h : Host) : Outcome Unit × Host :=
  match h.answer a.call with
  | .error (.refused e) =>
    (.error (.refused e),
      (h.attempt a.call).log .warn .actionFailed .action "platform rejected power action"
        [("error", .text e.message)])
  | outcome => (outcome, h.attempt a.call)

/-- Carries out an action. -/
def act (s : State) (a : Action) (h : Host) : Outcome Unit × State × Host :=
  match a.screen? with
  | none =>
    let (outcome, h) := forward a (a.log h)
    (outcome, s, h)
  | some screen =>
    match forward a h with
    | (.ok (), h) => (.ok (), { s with screen }, a.log h)
    | (.error f, h) => (.error f, s, h)

/-- The debug line of what is known about the mode. -/
def debugText (s : State) : String :=
  "PowerModeStore \x7b current: " ++ s.mode.debugName ++ ", .. \x7d"

/-- An action that is not accepted leaves the state as it was. -/
theorem act_of_error {s : State} {a : Action} {h : Host} {f : Failure}
    (hFail : (s.act a h).1 = .error f) : (s.act a h).2.1 = s := by
  unfold act at *
  split at hFail
  · rfl
  · split at hFail <;> simp_all

/-- An action that is accepted leaves the screen as it says. -/
theorem screen_act {s : State} {a : Action} {h : Host} (hDone : (s.act a h).1 = .ok ()) :
    (s.act a h).2.1 = { s with screen := a.screen?.getD s.screen } := by
  unfold act at *
  split at hDone
  · next hScreen => simp [hScreen]
  · next hScreen => split at hDone <;> simp_all

end State

end DevicePower.Power
