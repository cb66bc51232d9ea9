import DevicePower.Host
import DevicePower.Lock.Timer

/-!
# Running locks

A running lock is held on the platform, with a deadline or without one. A deadline has an alarm that
releases the lock by itself. An alarm may wake late, after its hold has been replaced or released,
so every hold has a generation: the alarm carries the generation of the hold it was set for and does
nothing in any other.

A hold and a release that the platform refuses leave the lock as it was, but for one thing: a
release calls the alarm off before it asks the platform. A release by an alarm gives the lock up
even if the platform refuses.

An alarm is a thread that bears the name of its lock, and a name with a NUL character cannot be
borne. Setting such an alarm crashes, after the platform has accepted the hold. If the system does
not start the thread, that is put on record and the hold goes on, with a deadline and without an
alarm.

## Main results

* `isHolding_holding`: a hold with a timeout is seen until its deadline and no longer.
* `pending_holding`: the alarm that a hold sets.
-/

namespace DevicePower

namespace Lock

/-- A running lock. -/
structure Running where
  id : Nat
  name : String
  kind : Kind
  /-- When the lock was made. -/
  created : Nat := 0
  held : Bool := false
  /-- When the hold ends by itself. -/
  deadline : Option Nat := none
  /-- How often the lock was held or given up. The counter of the program has 64 bits; this one has
  no bound. -/
  generation : Nat := 0
  /-- The pending release, for the generation of the hold it was set for. -/
  alarm : Timer Nat := {}
  /-- Whether an operation on this lock crashed. -/
  damaged : Bool := false
deriving DecidableEq

/-- Nanoseconds in a millisecond. -/
def millisecond : Nat := 1000000

end Lock

namespace Host

/-- The event of the record about a thread that was not started for an alarm. -/
def alarmEvent : String := "pm_core::runninglock::timer"

/-- The record about a thread that was not started for an alarm. -/
def threadRecord (reason : String) : Log.Record :=
  ⟨.warn, alarmEvent,
    [(Log.messageName, .text ("failed to spawn release timer thread: " ++ reason))]⟩

/-- The host after it was asked to start the thread of an alarm. -/
def askThread (h : Host) : Host :=
  match h.threadRefusal with
  | none => h
  | some reason => h.write (threadRecord reason)

@[simp] theorem platform_askThread (h : Host) : h.askThread.platform = h.platform := by
  unfold askThread
  cases h.threadRefusal <;> rfl

@[simp] theorem now_askThread (h : Host) : h.askThread.now = h.now := by
  unfold askThread
  cases h.threadRefusal <;> rfl

end Host

namespace Lock

namespace Running

/-- The lock after a call that failed: a crash leaves its mark. -/
def afterFailure (l : Running) : Failure → Running
  | .refused _ => l
  | .crashed => { l with damaged := true }

/-- The field of a record that names the lock. -/
def field (l : Running) : String × Log.FieldValue := ("lock", .integer l.id)

/-- The lock once a hold has been accepted at a time. Its alarm is set if its thread was started. -/
def holding (l : Running) (now timeout : Nat) (started : Bool) : Running :=
  let deadline := if timeout = 0 then none else some (now + timeout * millisecond)
  { l with
    held := true
    deadline := deadline
    generation := l.generation + 1
    alarm :=
      match deadline with
      | none => l.alarm.cancel
      | some due => l.alarm.schedule due (l.generation + 1) started }

/-- Whether an alarm can bear the name of the lock. -/
def canBeAlarmed (l : Running) : Bool := !l.name.toList.contains '\x00'

/-- The lock once a hold has been accepted whose alarm could not be set. -/
def stranded (l : Running) (now timeout : Nat) : Running :=
  { l.holding now timeout false with damaged := true }

/-- The lock once it has been given up. -/
def givenUp (l : Running) : Running :=
  { l with held := false, deadline := none, generation := l.generation + 1 }

/-- Holds the lock, for `timeout` milliseconds or, if that is zero, until it is released. -/
def hold (l : Running) (timeout : Nat) (h : Host) : Outcome Unit × Running × Host :=
  let call := Call.acquireLock l.id l.name l.kind timeout
  match h.answer call with
  | .error f => (.error f, l.afterFailure f, h.attempt call)
  | .ok () =>
    if timeout = 0 || l.canBeAlarmed then
      let asked := if timeout = 0 then h.attempt call else (h.attempt call).askThread
      (.ok (), l.holding h.now timeout h.startsThreads,
        asked.log .debug .lockAcquired .lock "running lock held"
          [l.field, ("timeout_ms", .integer timeout)])
    else (.error .crashed, l.stranded h.now timeout, h.attempt call)

/-- Releases the lock. Releasing a lock that is not held does nothing. -/
def release (l : Running) (h : Host) : Outcome Unit × Running × Host :=
  let calm := { l with alarm := l.alarm.cancel }
  if !l.held then (.ok (), calm, h)
  else
    let call := Call.releaseLock l.id
    match h.answer call with
    | .error f => (.error f, calm.afterFailure f, h.attempt call)
    | .ok () =>
      (.ok (), calm.givenUp,
        (h.attempt call).log .debug .lockReleased .lock "running lock released" [l.field])

/-- What an alarm does that was set for a generation. -/
def expire (l : Running) (generation : Nat) (h : Host) : Running × Host :=
  if !l.held || l.generation != generation then (l, h)
  else
    let call := Call.releaseLock l.id
    let ended (h : Host) : Running × Host :=
      (l.givenUp, h.log .debug .lockTimeout .lock "running lock timed out" [l.field])
    match h.answer call with
    | .ok () => ended (h.attempt call)
    | .error (.refused e) =>
      ended ((h.attempt call).log .warn .lockTimeout .lock "platform release after timeout failed"
        [l.field, ("error", .text e.message)])
    | .error .crashed => ({ l with damaged := true }, h.attempt call)

/-- An alarm wakes. If it is the one the lock is waiting for, it is used up. -/
def wake (l : Running) (generation : Nat) (h : Host) : Running × Host :=
  let (l, h) := l.expire generation h
  ({ l with alarm := l.alarm.settle generation }, h)

/-- What happens when the last handle of the lock is dropped: a lock that is held is released. A
lock damaged by a crash counts as not held. -/
def dropped (l : Running) (h : Host) : Outcome Unit × Host :=
  if !l.held || l.damaged then (.ok (), h)
  else
    let call := Call.releaseLock l.id
    match h.answer call with
    | .ok () =>
      (.ok (), (h.attempt call).log .debug .lockDropped .lock "running lock dropped while held"
        [l.field])
    | .error (.refused e) =>
      (.ok (), (h.attempt call).log .warn .lockDropped .lock "platform release on drop failed"
        [l.field, ("error", .text e.message)])
    | .error .crashed => (.error .crashed, h.attempt call)

/-- Whether the lock is seen as held at a time. -/
def isHolding (l : Running) (now : Nat) : Bool :=
  l.held && (match l.deadline with
    | none => true
    | some due => now < due)

/-- Whether an alarm is set. -/
def hasPendingRelease (l : Running) : Bool := l.alarm.isPending

end Running

/-- What is seen of a lock at a time. -/
structure Snapshot where
  id : Nat
  name : String
  kind : Kind
  held : Bool
  /-- The whole milliseconds left of a hold with a deadline. -/
  remaining : Option Nat
  /-- When the lock was made. -/
  created : Nat
deriving DecidableEq

namespace Running

/-- What is seen of the lock at a time. A hold with less than a millisecond left is not shown. -/
def snapshot (l : Running) (now : Nat) : Snapshot :=
  let remaining :=
    (l.deadline.filter fun _ => l.held).map fun due => (due - now) / millisecond
  { id := l.id
    name := l.name
    kind := l.kind
    held := l.held && remaining != some 0
    remaining := remaining
    created := l.created }

/-- The debug line of the lock. -/
def debugText (l : Running) (now : Nat) : String :=
  "RunningLock \x7b id: LockId(" ++ Text.naturalText l.id ++ "), name: " ++ Text.quoted l.name
    ++ ", lock_type: " ++ l.kind.debugName ++ ", held: "
    ++ (if l.isHolding now then "true" else "false") ++ " \x7d"

end Running

/-- A snapshot as a document. Instants are written by `stamp`. -/
def Snapshot.toJson (stamp : Nat → String) (s : Snapshot) : Json.Value :=
  .object ([("id", .nat s.id), ("name", .text s.name), ("lock_type", .text s.kind.name),
      ("held", .bool s.held)]
    ++ (s.remaining.map fun n => ("remaining_ms", Json.Value.nat n)).toList
    ++ [("created_at", .text (stamp s.created))])

/-- A hold with a timeout is seen until its deadline and no longer. -/
theorem isHolding_holding (l : Running) (start timeout now : Nat) (started : Bool) :
    (l.holding start timeout started).isHolding now = true
      ↔ timeout = 0 ∨ now < start + timeout * millisecond := by
  unfold Running.isHolding Running.holding
  by_cases h : timeout = 0 <;> simp [h]

/-- A hold with a timeout sets an alarm, if its thread is started. The one before is called off in
any case. -/
theorem pending_holding (l : Running) (now timeout : Nat) (started : Bool) :
    (l.holding now timeout started).alarm.pending =
      if timeout ≠ 0 ∧ started = true then
        some ⟨now + timeout * millisecond, l.generation + 1⟩
      else none := by
  unfold Running.holding
  by_cases h : timeout = 0 <;> simp [h]

end Lock

end DevicePower
