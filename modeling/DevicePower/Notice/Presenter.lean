import DevicePower.Config.Settings
import DevicePower.Host

/-!
# How the inject notice is shown

On a desktop-class device the notice is a capsule in the status bar; on every other it is a
notification. The two differ in the platform calls that show the notice, close it at the
authorizer's request, and dismiss it, which also takes back the permission to inject.

Where closing or dismissing takes several calls, every one is made whatever became of those before,
unless the platform crashes; the first refusal is the outcome.

## Main results

* `authorize_mem_dismissal`: every dismissal takes back the permission.
-/

namespace DevicePower.Notice

/-- A way of showing the notice. -/
inductive Presenter where
  | notification (settings : Config.NoticeSettings)
  | capsule
deriving DecidableEq

namespace Presenter

/-- The presenter for a class of device. -/
def forDevice (device : Device) (settings : Config.NoticeSettings) : Presenter :=
  if device.isDesktop then capsule else notification settings

/-- The name of a way of showing the notice. -/
def name : Presenter → String
  | notification _ => "notification"
  | capsule => "capsule"

/-- Whether requests carry the caller's process id after the token. -/
def readsPid : Presenter → Bool
  | notification _ => true
  | capsule => false

/-- The call that shows the notice. -/
def showing (pid : Option Int32) : Presenter → Call
  | notification s => .publish s.id s.label pid s.closeEvent
  | capsule => .capsuleVisible true

/-- The calls that take the notice away and the permission with it. -/
def dismissal : Presenter → List Call
  | notification s => [.authorize false, .cancel s.id s.label]
  | capsule => [.capsuleVisible false, .closePanel, .authorize false]

/-- Every dismissal takes back the permission. -/
theorem authorize_mem_dismissal (p : Presenter) : Call.authorize false ∈ p.dismissal := by
  cases p <;> simp [dismissal]

end Presenter

end DevicePower.Notice

namespace DevicePower.Host

/-- The event of the record about a refused step. -/
def stepEvent : String := "pm_core::notice::presenter"

/-- The record about a refused step. -/
def stepRecord (e : Error) : Log.Record :=
  ⟨.warn, stepEvent, [(Log.messageName, .text ("notice step failed: " ++ e.message))]⟩

/-- Makes calls one after the other, whatever becomes of each, and gives the refusals. A crash ends
the sequence. -/
def attemptEach (h : Host) : List Call → Outcome (List Error) × Host
  | [] => (.ok [], h)
  | c :: rest =>
    match h.answer c with
    | .error .crashed => (.error .crashed, h.attempt c)
    | .ok () => attemptEach (h.attempt c) rest
    | .error (.refused e) =>
      let (refusals, h) := attemptEach (h.attempt c) rest
      (refusals.map (e :: ·), h)

/-- Makes calls one after the other and ends with the first refusal, if there is one. Every refusal
is recorded once all calls have been made. -/
def attemptAll (h : Host) (calls : List Call) : Outcome Unit × Host :=
  match h.attemptEach calls with
  | (.error f, h) => (.error f, h)
  | (.ok refusals, h) =>
    (match refusals with
      | [] => .ok ()
      | e :: _ => .error (.refused e),
     refusals.foldl (fun h e => h.write (stepRecord e)) h)

/-- Makes one call. -/
def attemptOne (h : Host) (c : Call) : Outcome Unit × Host := (h.answer c, h.attempt c)

end DevicePower.Host

namespace DevicePower.Notice.Presenter

/-- Shows the notice for a caller. -/
def present (p : Presenter) (pid : Option Int32) (h : Host) : Outcome Unit × Host :=
  h.attemptOne (p.showing pid)

/-- Dismisses the notice. -/
def dismiss (p : Presenter) (h : Host) : Outcome Unit × Host := h.attemptAll p.dismissal

/-- Closes the notice at the authorizer's request. A notification is taken away; a capsule is
dismissed. -/
def close (p : Presenter) (h : Host) : Outcome Unit × Host :=
  match p with
  | notification s => h.attemptOne (.cancel s.id s.label)
  | capsule => dismiss capsule h

end DevicePower.Notice.Presenter
