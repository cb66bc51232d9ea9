import DevicePower.Config.Settings

/-!
# The event of the close button

When the user closes the notice, the platform sends the event that was published with it, and the
number of the notice. Both have to be the configured ones for the event to be meant for this notice.

## Main results

* `isFor_iff`: which event is meant for a notice.
-/

namespace DevicePower.Notice

/-- An event of a close button. -/
structure CloseEvent where
  event : String
  id : Int32
deriving DecidableEq

namespace CloseEvent

/-- The event of the notice with these settings. -/
def ofSettings (s : Config.NoticeSettings) : CloseEvent := ⟨s.closeEvent, s.id⟩

/-- Whether an event is meant for the notice with these settings. -/
def isFor (e : CloseEvent) (s : Config.NoticeSettings) : Bool := e == ofSettings s

/-- An event as a document. -/
def toJson (e : CloseEvent) : Json.Value :=
  .object [("event", .text e.event), ("notice_id", .int e.id.toInt)]

/-- Reads an event. -/
def decoder : Json.Decoder CloseEvent :=
  Json.Decoder.record "CloseEvent"
    [.needed "event" Json.Decoder.anyText fun event e => { e with event },
     .needed "notice_id" Json.Decoder.int32 fun id e => { e with id := Int32.ofInt id }]
    ⟨"", 0⟩

theorem isFor_iff (e : CloseEvent) (s : Config.NoticeSettings) :
    e.isFor s = true ↔ e.event = s.closeEvent ∧ e.id = s.id := by
  cases e
  simp [isFor, ofSettings]

end CloseEvent

end DevicePower.Notice
