import DevicePower.Proofs.Notice.Ledger

/-!
# The notice service in several threads

Requests, close events and the end of the service may come from several threads at once. What they
share is the service, the platform, and a lock for each session that is held while a request of the
session is carried out. Here every thread is cut into the steps between which others may act:

* A request gets its session from the table, takes the session's lock and is counted, looks whether
  the session is retired, takes its process id, makes the calls of the presenter one by one, sets
  the status, and releases the lock.
* A close event makes the calls that dismiss the notice one by one, lists the sessions, and changes
  one session after the other. It takes no lock.
* The end of the service closes the table, then takes the lock of one session after the other, marks
  the session as retired and releases the lock, and only then dismisses the notice.
* Aside from these, time passes and the platform begins or stops to fail.

A step is a function of what is shared and of the thread, and which thread goes next is up to a
schedule. So a statement about every schedule is one about every interleaving. The log is left out,
since nothing reads it. What the steps of a thread come to if no other thread acts meanwhile is told
in `DevicePower.Proofs.Notice.Alone`.

What was done is kept in a trace, the latest first, with the thread that did it.

## Main results

* `step_of_step?`: what one step of a thread does.
* `run_keeps`: what each step keeps, a run keeps.
-/

namespace DevicePower.Notice

/-- The order in which the sessions of a table are gone through. It is up to the table. -/
structure Listing where
  order : List ConnectId → List ConnectId
  perm : ∀ ids, (order ids).Perm ids

/-- The connections of the sessions that a table has. -/
def Table.liveIds (t : Table) : List ConnectId := t.live.map fun s => s.connectId

/-- Whether the session of a connection is retired. -/
def Table.isRetired (t : Table) (id : ConnectId) : Bool := (t.find? id).any fun s => s.retired

namespace Session

/-- The session after a request that carried this process id, or none. -/
def told (pid : Option Int32) (s : Session) : Session := { s with lastPid := pid.or s.lastPid }

@[simp] theorem caller_told (pid : Option Int32) (s : Session) :
    (s.told pid).caller = s.caller :=
  rfl

@[simp] theorem caller_retire (s : Session) : s.retire.caller = s.caller := rfl

end Session

/-- The calls that carry out a command. -/
def Presenter.calls (p : Presenter) (pid : Option Int32) : Command → List Call
  | .openNotice => [p.showing pid]
  | .closeNotice => p.closing

/-! ## Threads -/

/-- How far a request has come. -/
inductive Stage where
  /-- It has not been looked at. -/
  | arrived
  /-- It has its session, and waits for the session's lock. -/
  | admitted (c : Command)
  /-- It has the lock, and was counted. -/
  | counted (c : Command)
  /-- It has found its session not retired. -/
  | cleared (c : Command)
  /-- It has calls to make. Earlier ones may have been refused. -/
  | calling (c : Command) (left : List Call) (refused : Bool)
  /-- It has its reply, and still the lock. -/
  | leaving (reply : Reply)
  | answered (reply : Reply)

/-- How far a close event has come. -/
inductive CancelStage where
  | arrived
  | calling (left : List Call)
  /-- There are sessions to change. -/
  | marking (left : List ConnectId)
  | ended (outcome : Outcome Bool)

/-- How far the end of the service has come. -/
inductive DestroyStage where
  | arrived
  /-- There are sessions to retire. -/
  | retiring (left : List ConnectId)
  /-- It has the lock of a session. -/
  | holding (id : ConnectId) (left : List ConnectId)
  /-- It has retired the session, and still has the lock. -/
  | leaving (id : ConnectId) (left : List ConnectId)
  | calling (left : List Call)
  | ended (outcome : Outcome Unit)

/-- What happens aside from the service. -/
inductive Aside where
  | pass (nanoseconds : Nat)
  | change (c : Lock.Change)

/-- A thread and how far it has come. -/
inductive Thread where
  | request (r : Service.Request) (data : Parcel) (stage : Stage)
  | userCancel (event : CloseEvent) (stage : CancelStage)
  | destroy (stage : DestroyStage)
  | aside (script : List Aside)

/-- What a thread is started for. -/
inductive Arrival where
  | request (r : Service.Request) (data : Parcel)
  | userCancel (event : CloseEvent)
  | destroy
  | aside (script : List Aside)

/-- A thread that has been started. -/
def Arrival.thread : Arrival → Thread
  | request r data => .request r data .arrived
  | userCancel event => .userCancel event .arrived
  | destroy => .destroy .arrived
  | aside script => .aside script

/-- What a step does that matters to others. -/
inductive Deed where
  | passed
  /-- The platform was asked. -/
  | asked (call : Call) (accepted : Bool)
  /-- The session of a connection was given a status. -/
  | became (id : ConnectId) (status : Status)
  /-- The end of the service begins to dismiss the notice. -/
  | dismissing
deriving DecidableEq

namespace Thread

/-- The lock that a thread has. -/
def holds : Thread → Option ConnectId
  | request r _ (.counted _) => some r.caller.connectId
  | request r _ (.cleared _) => some r.caller.connectId
  | request r _ (.calling _ _ _) => some r.caller.connectId
  | request r _ (.leaving _) => some r.caller.connectId
  | destroy (.holding id _) => some id
  | destroy (.leaving id _) => some id
  | _ => none

/-- The lock that a thread needs to go on. -/
def needs : Thread → Option ConnectId
  | request r _ (.admitted _) => some r.caller.connectId
  | destroy (.retiring (id :: _)) => some id
  | _ => none

/-- Whether a thread has nothing left to do. -/
def isDone : Thread → Bool
  | request _ _ (.answered _) => true
  | userCancel _ (.ended _) => true
  | destroy (.ended _) => true
  | aside [] => true
  | _ => false

/-- The reply that a request was answered with. -/
def reply? : Thread → Option Reply
  | request _ _ (.answered reply) => some reply
  | _ => none

end Thread

/-! ## Steps -/

/-- What the threads share. -/
structure Shared where
  service : Service
  platform : Platform
  now : Nat
  /-- The connections whose locks are held. -/
  taken : List ConnectId := []

namespace Shared

/-- The same with another table. -/
def withTable (s : Shared) (t : Table) : Shared :=
  { s with service := { s.service with table := t } }

/-- The same with the session of a connection changed. -/
def modify (s : Shared) (id : ConnectId) (f : Session → Session) : Shared :=
  s.withTable (s.service.table.modify id f)

/-- A lock is taken. -/
def take (s : Shared) (id : ConnectId) : Shared := { s with taken := id :: s.taken }

/-- A lock is released. -/
def release (s : Shared) (id : ConnectId) : Shared := { s with taken := s.taken.erase id }

/-- The platform is asked. -/
def ask (s : Shared) (call : Call) : Shared := { s with platform := s.platform.attempt call }

/-- What happens aside. -/
def turn (s : Shared) : Aside → Shared
  | .pass nanoseconds => { s with now := s.now + nanoseconds }
  | .change c => { s with platform := c.apply s.platform }

/-- The platform was asked. -/
def asked (s : Shared) (call : Call) : Deed := .asked call (s.platform.accepts call)

/-- The next step of a request, if there is one and it does not have to wait. -/
def request? (s : Shared) (r : Service.Request) (data : Parcel) :
    Stage → Option (Shared × Stage × Deed)
  | .arrived =>
    if data.token? ≠ some s.service.settings.token then
      some (s, .answered .tokenMismatch, .passed)
    else
      match Command.ofCode? r.code with
      | none => some (s, .answered .notSupported, .passed)
      | some c =>
        match s.service.table.open? r.caller s.now with
        | none => some (s, .answered .failed, .passed)
        | some (_, _, t) => some (s.withTable t, .admitted c, .passed)
  | .admitted c =>
    if r.caller.connectId ∈ s.taken then none
    else some ((s.take r.caller.connectId).modify r.caller.connectId fun x => x.counted,
      .counted c, .passed)
  | .counted c =>
    some (s, if s.service.table.isRetired r.caller.connectId then .leaving .failed else .cleared c,
      .passed)
  | .cleared c =>
    let s := s.modify r.caller.connectId (Session.told (s.service.presenter.pid? data))
    let pid := (s.service.table.find? r.caller.connectId).bind fun x => x.lastPid
    some (s, .calling c (s.service.presenter.calls pid c) false, .passed)
  | .calling c (call :: left) refused =>
    some (s.ask call,
      if s.platform.crashes call then .leaving .failed
      else .calling c left (refused || !s.platform.accepts call),
      s.asked call)
  | .calling c [] refused =>
    if c = .openNotice ∧ refused = true then some (s, .leaving .failed, .passed)
    else some (s.modify r.caller.connectId fun x => x.become c.status, .leaving .success,
      .became r.caller.connectId c.status)
  | .leaving reply => some (s.release r.caller.connectId, .answered reply, .passed)
  | .answered _ => none

/-- The next step of a close event, if there is one. -/
def userCancel? (listing : Listing) (s : Shared) (event : CloseEvent) :
    CancelStage → Option (Shared × CancelStage × Deed)
  | .arrived =>
    some (s, if event.isFor s.service.settings then .calling s.service.presenter.dismissal
      else .ended (.ok false), .passed)
  | .calling (call :: left) =>
    some (s.ask call,
      if s.platform.crashes call then .ended (.error .crashed) else .calling left,
      s.asked call)
  | .calling [] => some (s, .marking (listing.order s.service.table.liveIds), .passed)
  | .marking (id :: left) =>
    some (s.modify id fun x => x.become .manClose, .marking left, .became id .manClose)
  | .marking [] => some (s, .ended (.ok true), .passed)
  | .ended _ => none

/-- The next step of the end of the service, if there is one and it does not have to wait. -/
def destroy? (listing : Listing) (s : Shared) : DestroyStage → Option (Shared × DestroyStage × Deed)
  | .arrived =>
    some (s.withTable s.service.table.close.2,
      .retiring (listing.order s.service.table.liveIds), .passed)
  | .retiring (id :: left) =>
    if id ∈ s.taken then none else some (s.take id, .holding id left, .passed)
  | .holding id left => some (s.modify id fun x => x.retire, .leaving id left, .passed)
  | .leaving id left => some (s.release id, .retiring left, .passed)
  | .retiring [] => some (s, .calling s.service.presenter.dismissal, .dismissing)
  | .calling (call :: left) =>
    some (s.ask call,
      if s.platform.crashes call then .ended (.error .crashed) else .calling left,
      s.asked call)
  | .calling [] => some (s, .ended (.ok ()), .passed)
  | .ended _ => none

end Shared

/-- The next step of a thread, if there is one and it does not have to wait. -/
def Thread.step? (listing : Listing) (s : Shared) : Thread → Option (Shared × Thread × Deed)
  | request r data stage =>
    (s.request? r data stage).map fun (s, stage, deed) => (s, request r data stage, deed)
  | userCancel event stage =>
    (s.userCancel? listing event stage).map fun (s, stage, deed) =>
      (s, userCancel event stage, deed)
  | destroy stage =>
    (s.destroy? listing stage).map fun (s, stage, deed) => (s, destroy stage, deed)
  | aside [] => none
  | aside (a :: rest) => some (s.turn a, aside rest, .passed)

/-- Threads at work. -/
structure Traffic where
  listing : Listing
  shared : Shared
  threads : List Thread
  /-- What was done so far and by which thread, the latest first. -/
  trace : List (Nat × Deed) := []

namespace Traffic

/-- The traffic after a step of a thread. -/
def stepped (t : Traffic) (i : Nat) (s : Shared) (thread : Thread) (deed : Deed) : Traffic :=
  { t with shared := s, threads := t.threads.set i thread, trace := (i, deed) :: t.trace }

/-- The traffic after the next step of a thread, if it can go on. -/
def step? (t : Traffic) (i : Nat) : Option Traffic :=
  t.threads[i]?.bind fun thread =>
    (thread.step? t.listing t.shared).map fun (s, thread, deed) => t.stepped i s thread deed

/-- The traffic after a thread was given a turn. -/
def go (t : Traffic) (i : Nat) : Traffic := (t.step? i).getD t

/-- The traffic after the threads were given turns in this order. -/
def run (t : Traffic) (schedule : List Nat) : Traffic := schedule.foldl go t

/-- Threads are started in the middle of a run. -/
def start (s : Scene) (listing : Listing) (arrivals : List Arrival) : Traffic where
  listing := listing
  shared := { service := s.service, platform := s.host.platform, now := s.host.now }
  threads := arrivals.map Arrival.thread

/-- Whether every thread has nothing left to do. -/
def isDone (t : Traffic) : Bool := t.threads.all Thread.isDone

end Traffic

/-! ## What a step does -/

namespace Thread

/-- What one step of a thread does: what is shared afterwards, how far the thread has come, and what
was done. -/
inductive Step (listing : Listing) (s : Shared) : Thread → Shared → Thread → Deed → Prop
  | misunderstood {r : Service.Request} {data : Parcel} {reply : Reply}
    (hWrong : data.token? ≠ some s.service.settings.token ∨ Command.ofCode? r.code = none)
    (hReply : reply ≠ .success) :
    Step listing s (request r data .arrived) s (request r data (.answered reply)) .passed
  | late {r : Service.Request} {data : Parcel} (hClosed : s.service.table.closed = true) :
    Step listing s (request r data .arrived) s (request r data (.answered .failed)) .passed
  | admitted {r : Service.Request} {data : Parcel} {c : Command}
    (hTakes : s.service.Takes r data c) :
    Step listing s (request r data .arrived)
      (s.withTable (s.service.table.entered r.caller s.now)) (request r data (.admitted c)) .passed
  | counted {r : Service.Request} {data : Parcel} {c : Command}
    (hFree : r.caller.connectId ∉ s.taken) :
    Step listing s (request r data (.admitted c))
      ((s.take r.caller.connectId).modify r.caller.connectId fun x => x.counted)
      (request r data (.counted c)) .passed
  | retired {r : Service.Request} {data : Parcel} {c : Command}
    (hRetired : s.service.table.isRetired r.caller.connectId = true) :
    Step listing s (request r data (.counted c)) s (request r data (.leaving .failed)) .passed
  | cleared {r : Service.Request} {data : Parcel} {c : Command}
    (hRetired : s.service.table.isRetired r.caller.connectId = false) :
    Step listing s (request r data (.counted c)) s (request r data (.cleared c)) .passed
  | told {r : Service.Request} {data : Parcel} {c : Command} {pid : Option Int32}
    (hPid : pid = ((s.service.table.modify r.caller.connectId
      (Session.told (s.service.presenter.pid? data))).find? r.caller.connectId).bind
        fun x => x.lastPid) :
    Step listing s (request r data (.cleared c))
      (s.modify r.caller.connectId (Session.told (s.service.presenter.pid? data)))
      (request r data (.calling c (s.service.presenter.calls pid c) false)) .passed
  | crashed {r : Service.Request} {data : Parcel} {c : Command} {call : Call} {left : List Call}
    {refused : Bool} (hCrash : s.platform.crashes call = true) :
    Step listing s (request r data (.calling c (call :: left) refused)) (s.ask call)
      (request r data (.leaving .failed)) (s.asked call)
  | called {r : Service.Request} {data : Parcel} {c : Command} {call : Call} {left : List Call}
    {refused : Bool} (hCrash : s.platform.crashes call = false) :
    Step listing s (request r data (.calling c (call :: left) refused)) (s.ask call)
      (request r data (.calling c left (refused || !s.platform.accepts call))) (s.asked call)
  | unsettled {r : Service.Request} {data : Parcel} :
    Step listing s (request r data (.calling .openNotice [] true)) s
      (request r data (.leaving .failed)) .passed
  | settled {r : Service.Request} {data : Parcel} {c : Command} {refused : Bool}
    (hRefused : c = .openNotice → refused = false) :
    Step listing s (request r data (.calling c [] refused))
      (s.modify r.caller.connectId fun x => x.become c.status) (request r data (.leaving .success))
      (.became r.caller.connectId c.status)
  | left {r : Service.Request} {data : Parcel} {reply : Reply} :
    Step listing s (request r data (.leaving reply)) (s.release r.caller.connectId)
      (request r data (.answered reply)) .passed
  | ignored {event : CloseEvent} (hFor : event.isFor s.service.settings = false) :
    Step listing s (userCancel event .arrived) s (userCancel event (.ended (.ok false))) .passed
  | meant {event : CloseEvent} (hFor : event.isFor s.service.settings = true) :
    Step listing s (userCancel event .arrived) s
      (userCancel event (.calling s.service.presenter.dismissal)) .passed
  | cancelCrashed {event : CloseEvent} {call : Call} {left : List Call}
    (hCrash : s.platform.crashes call = true) :
    Step listing s (userCancel event (.calling (call :: left))) (s.ask call)
      (userCancel event (.ended (.error .crashed))) (s.asked call)
  | cancelCalled {event : CloseEvent} {call : Call} {left : List Call}
    (hCrash : s.platform.crashes call = false) :
    Step listing s (userCancel event (.calling (call :: left))) (s.ask call)
      (userCancel event (.calling left)) (s.asked call)
  | listed {event : CloseEvent} :
    Step listing s (userCancel event (.calling [])) s
      (userCancel event (.marking (listing.order s.service.table.liveIds))) .passed
  | marked {event : CloseEvent} {id : ConnectId} {left : List ConnectId} :
    Step listing s (userCancel event (.marking (id :: left)))
      (s.modify id fun x => x.become .manClose) (userCancel event (.marking left))
      (.became id .manClose)
  | cancelEnded {event : CloseEvent} :
    Step listing s (userCancel event (.marking [])) s (userCancel event (.ended (.ok true))) .passed
  | closed :
    Step listing s (destroy .arrived) (s.withTable s.service.table.close.2)
      (destroy (.retiring (listing.order s.service.table.liveIds))) .passed
  | locked {id : ConnectId} {left : List ConnectId} (hFree : id ∉ s.taken) :
    Step listing s (destroy (.retiring (id :: left))) (s.take id) (destroy (.holding id left))
      .passed
  | retires {id : ConnectId} {left : List ConnectId} :
    Step listing s (destroy (.holding id left)) (s.modify id fun x => x.retire)
      (destroy (.leaving id left)) .passed
  | unlocked {id : ConnectId} {left : List ConnectId} :
    Step listing s (destroy (.leaving id left)) (s.release id) (destroy (.retiring left)) .passed
  | dismissing :
    Step listing s (destroy (.retiring [])) s
      (destroy (.calling s.service.presenter.dismissal)) .dismissing
  | destroyCrashed {call : Call} {left : List Call} (hCrash : s.platform.crashes call = true) :
    Step listing s (destroy (.calling (call :: left))) (s.ask call)
      (destroy (.ended (.error .crashed))) (s.asked call)
  | destroyCalled {call : Call} {left : List Call} (hCrash : s.platform.crashes call = false) :
    Step listing s (destroy (.calling (call :: left))) (s.ask call) (destroy (.calling left))
      (s.asked call)
  | destroyEnded :
    Step listing s (destroy (.calling [])) s (destroy (.ended (.ok ()))) .passed
  | turned {a : Aside} {rest : List Aside} :
    Step listing s (aside (a :: rest)) (s.turn a) (aside rest) .passed

end Thread

namespace Shared

open Thread (Step)

variable {listing : Listing} {s s' : Shared} {deed : Deed}

theorem step_of_request? {r : Service.Request} {data : Parcel} {stage stage' : Stage}
    (h : s.request? r data stage = some (s', stage', deed)) :
    Step listing s (.request r data stage) s' (.request r data stage') deed := by
  cases stage with
  | arrived =>
    rw [request?] at h
    split at h
    · next hToken =>
      cases h
      exact .misunderstood (Or.inl hToken) nofun
    · next hToken =>
      split at h
      · next hCommand =>
        cases h
        exact .misunderstood (Or.inr hCommand) nofun
      · next c hCommand =>
        cases hClosed : s.service.table.closed with
        | true =>
          rw [Table.open?_of_closed hClosed] at h
          cases h
          exact .late hClosed
        | false =>
          obtain ⟨made, hOpen⟩ := Table.open?_of_open hClosed r.caller s.now
          rw [hOpen] at h
          cases h
          exact .admitted ⟨Classical.not_not.mp hToken, hCommand, hClosed⟩
  | admitted c =>
    rw [request?] at h
    split at h
    · exact nomatch h
    · next hFree =>
      cases h
      exact .counted hFree
  | counted c =>
    rw [request?] at h
    cases h
    split
    · next hRetired => exact .retired hRetired
    · next hRetired => exact .cleared (Bool.eq_false_iff.mpr hRetired)
  | cleared c =>
    cases h
    exact .told rfl
  | calling c left refused =>
    cases left with
    | cons call left =>
      cases h
      split
      · next hCrash => exact .crashed hCrash
      · next hCrash => exact .called (Bool.eq_false_iff.mpr hCrash)
    | nil =>
      rw [request?] at h
      split at h
      · next hOpen =>
        obtain ⟨rfl, rfl⟩ := hOpen
        cases h
        exact .unsettled
      · next hOpen =>
        cases h
        exact .settled fun hCommand =>
          Bool.eq_false_iff.mpr fun hRefused => hOpen ⟨hCommand, hRefused⟩
  | leaving reply =>
    cases h
    exact .left
  | answered reply => exact nomatch h

theorem step_of_userCancel? {event : CloseEvent} {stage stage' : CancelStage}
    (h : s.userCancel? listing event stage = some (s', stage', deed)) :
    Step listing s (.userCancel event stage) s' (.userCancel event stage') deed := by
  cases stage with
  | arrived =>
    cases h
    split
    · next hFor => exact .meant hFor
    · next hFor => exact .ignored (Bool.eq_false_iff.mpr hFor)
  | calling left =>
    cases left with
    | cons call left =>
      cases h
      split
      · next hCrash => exact .cancelCrashed hCrash
      · next hCrash => exact .cancelCalled (Bool.eq_false_iff.mpr hCrash)
    | nil =>
      cases h
      exact .listed
  | marking left =>
    cases left with
    | cons id left =>
      cases h
      exact .marked
    | nil =>
      cases h
      exact .cancelEnded
  | ended outcome => exact nomatch h

theorem step_of_destroy? {stage stage' : DestroyStage}
    (h : s.destroy? listing stage = some (s', stage', deed)) :
    Step listing s (.destroy stage) s' (.destroy stage') deed := by
  cases stage with
  | arrived =>
    cases h
    exact .closed
  | retiring left =>
    cases left with
    | cons id left =>
      rw [destroy?] at h
      split at h
      · exact nomatch h
      · next hFree =>
        cases h
        exact .locked hFree
    | nil =>
      cases h
      exact .dismissing
  | holding id left =>
    cases h
    exact .retires
  | leaving id left =>
    cases h
    exact .unlocked
  | calling left =>
    cases left with
    | cons call left =>
      cases h
      split
      · next hCrash => exact .destroyCrashed hCrash
      · next hCrash => exact .destroyCalled (Bool.eq_false_iff.mpr hCrash)
    | nil =>
      cases h
      exact .destroyEnded
  | ended outcome => exact nomatch h

end Shared

namespace Thread

variable {listing : Listing} {s s' : Shared} {thread thread' : Thread} {deed : Deed}

theorem step_of_step? (h : thread.step? listing s = some (s', thread', deed)) :
    Step listing s thread s' thread' deed := by
  cases thread with
  | request r data stage =>
    obtain ⟨⟨s', stage', deed⟩, hStep, hEq⟩ := Option.map_eq_some_iff.mp h
    cases hEq
    exact Shared.step_of_request? hStep
  | userCancel event stage =>
    obtain ⟨⟨s', stage', deed⟩, hStep, hEq⟩ := Option.map_eq_some_iff.mp h
    cases hEq
    exact Shared.step_of_userCancel? hStep
  | destroy stage =>
    obtain ⟨⟨s', stage', deed⟩, hStep, hEq⟩ := Option.map_eq_some_iff.mp h
    cases hEq
    exact Shared.step_of_destroy? hStep
  | aside script =>
    cases script with
    | nil => exact nomatch h
    | cons a rest =>
      cases h
      exact .turned

end Thread

namespace Traffic

/-- A turn is a step of the thread, or the thread cannot go on. -/
theorem go_cases (t : Traffic) (i : Nat) :
    t.go i = t ∨ ∃ thread s thread' deed, t.threads[i]? = some thread ∧
      Thread.Step t.listing t.shared thread s thread' deed ∧
      t.go i = t.stepped i s thread' deed := by
  unfold go step?
  cases hThread : t.threads[i]? with
  | none => exact Or.inl rfl
  | some thread =>
    cases hStep : thread.step? t.listing t.shared with
    | none =>
      left
      rw [Option.bind_some, hStep]
      rfl
    | some next =>
      obtain ⟨s, thread', deed⟩ := next
      right
      refine ⟨thread, s, thread', deed, rfl, Thread.step_of_step? hStep, ?_⟩
      rw [Option.bind_some, hStep]
      rfl

/-- After a step, a thread is the one that acted or one that did not. -/
theorem getElem?_stepped {t : Traffic} {i j : Nat} {thread' other : Thread} {s : Shared}
    {deed : Deed} (h : (t.stepped i s thread' deed).threads[j]? = some other) :
    (i = j ∧ other = thread') ∨ (i ≠ j ∧ t.threads[j]? = some other) := by
  unfold stepped at h
  dsimp only at h
  rw [List.getElem?_set] at h
  split at h
  · next hSame =>
    split at h
    · exact Or.inl ⟨hSame, (Option.some.inj h).symm⟩
    · exact nomatch h
  · next hNe => exact Or.inr ⟨hNe, h⟩

/-- What each step keeps, a run keeps. -/
theorem run_keeps {P : Traffic → Prop}
    (step : ∀ t i thread s thread' deed, P t → t.threads[i]? = some thread →
      Thread.Step t.listing t.shared thread s thread' deed → P (t.stepped i s thread' deed))
    (schedule : List Nat) {t : Traffic} (h : P t) : P (t.run schedule) := by
  induction schedule generalizing t with
  | nil => exact h
  | cons i schedule ih =>
    apply ih
    rcases t.go_cases i with hSame | ⟨thread, s, thread', deed, hThread, hStep, hGo⟩
    · rw [hSame]
      exact h
    · rw [hGo]
      exact step t i thread s thread' deed h hThread hStep

/-- No thread is lost. -/
theorem length_threads_run (s : Scene) (listing : Listing) (arrivals : List Arrival)
    (schedule : List Nat) :
    ((start s listing arrivals).run schedule).threads.length = arrivals.length := by
  refine run_keeps (P := fun t => t.threads.length = arrivals.length) ?_ schedule
    (List.length_map _)
  intro t i thread s' thread' deed hBefore _ _
  exact List.length_set.trans hBefore

end Traffic

end DevicePower.Notice
