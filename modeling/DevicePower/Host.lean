import DevicePower.Log.Record
import DevicePower.Platform

/-!
# What the parts of the facade share

Every part of the facade acts on one host: the platform, the clock, the log of the run, and whether
the system starts threads for the alarms of locks. An operation of a part takes the host and gives
it back, changed, together with its outcome.

## Main results

* `platform_log`, `now_log`: writing to the log touches neither the platform nor the clock.
* `records_write`: writing adds one record at the end.
-/

namespace DevicePower

/-- The platform, the threads of alarms, the clock and the log. -/
structure Host where
  platform : Platform
  origin : Log.Origin
  /-- Why the system starts no thread for an alarm now, if it does not. -/
  threadRefusal : Option String := none
  /-- Nanoseconds since the start. -/
  now : Nat := 0
  /-- What was written so far, oldest first. -/
  journal : List Log.Entry := []

namespace Host

/-- How a call to the platform ends. -/
def answer (h : Host) (c : Call) : Outcome Unit := h.platform.answer c

/-- The host after a call to the platform. -/
def attempt (h : Host) (c : Call) : Host := { h with platform := h.platform.attempt c }

/-- Whether the system starts a thread for an alarm when it is asked for one. -/
def startsThreads (h : Host) : Bool := h.threadRefusal.isNone

/-- The host after writing a record as it stands. -/
def write (h : Host) (r : Log.Record) : Host :=
  { h with journal := h.journal ++ [⟨h.now, r⟩] }

/-- The records written so far, oldest first. -/
def records (h : Host) : List Log.Record := h.journal.map fun e => e.record

/-- The host after writing a record of this run about a connection. -/
def logFor (h : Host) (connection : Option String) (level : Log.Level) (event : Log.Event)
    (stage : Log.Stage) (message : String) (fields : Log.Fields) : Host :=
  h.write (h.origin.record connection level event stage message fields)

/-- The host after writing a record of this run about no connection. -/
def log (h : Host) (level : Log.Level) (event : Log.Event) (stage : Log.Stage) (message : String)
    (fields : Log.Fields) : Host :=
  h.logFor none level event stage message fields

/-- Writing adds one record at the end. -/
theorem records_write (h : Host) (r : Log.Record) : (h.write r).records = h.records ++ [r] := by
  simp [records, write]

@[simp] theorem platform_write (h : Host) (r : Log.Record) :
    (h.write r).platform = h.platform := rfl

@[simp] theorem now_write (h : Host) (r : Log.Record) : (h.write r).now = h.now := rfl

@[simp] theorem platform_logFor (h : Host) (connection : Option String) (level : Log.Level)
    (event : Log.Event) (stage : Log.Stage) (message : String) (fields : Log.Fields) :
    (h.logFor connection level event stage message fields).platform = h.platform := rfl

@[simp] theorem now_logFor (h : Host) (connection : Option String) (level : Log.Level)
    (event : Log.Event) (stage : Log.Stage) (message : String) (fields : Log.Fields) :
    (h.logFor connection level event stage message fields).now = h.now := rfl

@[simp] theorem platform_log (h : Host) (level : Log.Level) (event : Log.Event)
    (stage : Log.Stage) (message : String) (fields : Log.Fields) :
    (h.log level event stage message fields).platform = h.platform := rfl

@[simp] theorem now_log (h : Host) (level : Log.Level) (event : Log.Event) (stage : Log.Stage)
    (message : String) (fields : Log.Fields) :
    (h.log level event stage message fields).now = h.now := rfl

@[simp] theorem platform_attempt (h : Host) (c : Call) :
    (h.attempt c).platform = h.platform.attempt c := rfl

@[simp] theorem now_attempt (h : Host) (c : Call) : (h.attempt c).now = h.now := rfl

end Host

end DevicePower
