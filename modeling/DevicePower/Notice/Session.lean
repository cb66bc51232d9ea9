import DevicePower.Caller
import DevicePower.Json.Value
import DevicePower.Notice.Presenter

/-!
# Sessions of the notice channel

Every connection that sent a proper request has a session. The table of sessions can be closed; from
then on it has no sessions and takes none. Who still holds a session can go on using it, so a closed
table keeps the sessions that were in it out of sight.

## Main results

* `live_close`: a closed table has no sessions.
* `open?_of_closed`: a closed table takes no sessions.
-/

namespace DevicePower.Notice

/-- What became of the notice, as one connection sees it. -/
inductive Status where
  | untouched
  /-- Shown at the connection's request. -/
  | opening
  /-- Closed at the authorizer's request. -/
  | serverClose
  /-- Closed by the user. -/
  | manClose
deriving DecidableEq

namespace Status

/-- The name of a status. -/
def name : Status → String
  | untouched => "default"
  | opening => "opening"
  | serverClose => "server_close"
  | manClose => "man_close"

/-- All statuses. -/
def all : List Status := [untouched, opening, serverClose, manClose]

end Status

/-- The requests of one connection. -/
structure Session where
  caller : Caller
  /-- When the session was made. -/
  created : Nat := 0
  status : Status := .untouched
  /-- How many requests were counted. The counter of the program has 64 bits; this one has no
  bound. -/
  requests : Nat := 0
  /-- The process id that a request last carried. -/
  lastPid : Option Int32 := none
  /-- Whether requests are refused. -/
  retired : Bool := false
deriving DecidableEq

namespace Session

/-- The connection of a session. -/
def connectId (s : Session) : ConnectId := s.caller.connectId

/-- The session after one more request. -/
def counted (s : Session) : Session := { s with requests := s.requests + 1 }

/-- The session after a request that carried a process id. -/
def carrying (s : Session) (pid : Int32) : Session := { s with lastPid := some pid }

/-- The session with a status. -/
def become (s : Session) (status : Status) : Session := { s with status }

/-- The session, refusing requests from now on. -/
def retire (s : Session) : Session := { s with retired := true }

/-- What is seen of a session, as a document. Instants are written by `stamp`. -/
def toJson (stamp : Nat → String) (p : Presenter) (s : Session) : Json.Value :=
  .object ([("connect_id", .text s.connectId), ("status", .text s.status.name),
      ("requests", .nat s.requests)]
    ++ (s.lastPid.map fun pid => ("last_caller_pid", Json.Value.int pid.toInt)).toList
    ++ [("presenter", .text p.name), ("created_at", .text (stamp s.created))])

end Session

/-- The sessions by connection. -/
structure Table where
  /-- In the order of their first requests. -/
  sessions : List Session := []
  closed : Bool := false
deriving DecidableEq

namespace Table

/-- The sessions that the table has. -/
def live (t : Table) : List Session := if t.closed then [] else t.sessions

/-- The session of a connection, in sight or not. -/
def find? (t : Table) (id : ConnectId) : Option Session :=
  t.sessions.find? fun s => s.connectId == id

/-- The table with every session of a connection changed. -/
def modify (t : Table) (id : ConnectId) (f : Session → Session) : Table :=
  { t with sessions := t.sessions.map fun s => if s.connectId == id then f s else s }

/-- The table with every session in sight changed. -/
def modifyLive (t : Table) (f : Session → Session) : Table :=
  if t.closed then t else { t with sessions := t.sessions.map f }

/-- The session of a caller, made now if there is none, and whether it was made. A closed table
gives none. -/
def open? (t : Table) (caller : Caller) (now : Nat) : Option (Session × Bool × Table) :=
  if t.closed then none
  else
    match t.find? caller.connectId with
    | some s => some (s, false, t)
    | none =>
      let s : Session := { caller, created := now }
      some (s, true, { t with sessions := t.sessions ++ [s] })

/-- The sessions of the table, which is closed by this. -/
def close (t : Table) : List Session × Table := (t.live, { t with closed := true })

/-- The sessions of the table in the order of their connections. -/
def sorted (t : Table) : List Session :=
  t.live.mergeSort fun a b => a.connectId ≤ b.connectId

@[simp] theorem live_close (t : Table) : t.close.2.live = [] := rfl

@[simp] theorem open?_of_closed {t : Table} (h : t.closed = true) (caller : Caller) (now : Nat) :
    t.open? caller now = none := by
  simp [open?, h]

end Table

end DevicePower.Notice
