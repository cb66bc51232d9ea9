import DevicePower.Lock.Hold

/-!
# The registry of running locks

The registry makes locks, numbers them from one without reuse, and knows those that still have a
handle. Handles of one lock share it; the last one to go drops it. When time passes the alarms that
are due wake, the earliest first.

## Main results

* `find?_put_self`, `find?_put_ne`: changing one lock leaves the others alone.
-/

namespace DevicePower.Lock

/-- A lock and the number of its handles. -/
structure Entry where
  lock : Running
  handles : Nat := 1

/-- The locks that have a handle, in the order of their numbers, and the next number. The numbers of
the program have 64 bits; here they have no bound. -/
structure Registry where
  nextId : Nat := 1
  entries : List Entry := []

namespace Registry

/-- The lock with a number. -/
def find? (r : Registry) (id : Nat) : Option Running :=
  (r.entries.find? fun e => e.lock.id == id).map (·.lock)

/-- The registry with a lock changed. -/
def put (r : Registry) (l : Running) : Registry :=
  { r with entries := r.entries.map fun e => if e.lock.id == l.id then { e with lock := l } else e }

/-- Makes a lock with one handle. A lock needs a name. -/
def create (r : Registry) (name : String) (kind : Kind) (h : Host) :
    Except Error Nat × Registry × Host :=
  if name.isEmpty then (.error (.invalidArgument emptyNameMessage), r, h)
  else
    let id := r.nextId
    let lock : Running := { id, name, kind, created := h.now }
    (.ok id, { nextId := id + 1, entries := r.entries ++ [{ lock }] },
      h.log .debug .lockCreated .lock "running lock created"
        [("lock", .integer id), ("name", .text name), ("lock_type", .integer kind.code)])

/-- Works on the lock with a number, if it is there. -/
def onLock? {α : Type} (r : Registry) (id : Nat) (h : Host)
    (op : Running → Host → Outcome α × Running × Host) : Option (Outcome α × Registry × Host) :=
  (r.find? id).map fun l =>
    let (outcome, l, h) := op l h
    (outcome, r.put l, h)

/-- Adds a handle to a lock. -/
def clone (r : Registry) (id : Nat) : Registry :=
  { r with entries := r.entries.map fun e =>
      if e.lock.id == id then { e with handles := e.handles + 1 } else e }

/-- Takes a handle from a lock, and drops the lock with its last one. -/
def drop (r : Registry) (id : Nat) (h : Host) : Outcome Unit × Registry × Host :=
  match r.entries.find? fun e => e.lock.id == id with
  | none => (.ok (), r, h)
  | some e =>
    if 1 < e.handles then
      (.ok (), { r with entries := r.entries.map fun e =>
        if e.lock.id == id then { e with handles := e.handles - 1 } else e }, h)
    else
      let (outcome, h) := e.lock.dropped h
      (outcome, { r with entries := r.entries.filter fun e => e.lock.id != id }, h)

/-- The alarm of a lock wakes. -/
def wake (r : Registry) (id generation : Nat) (h : Host) : Registry × Host :=
  match r.find? id with
  | none => (r, h)
  | some l =>
    let (l, h) := l.wake generation h
    (r.put l, h)

/-- The deadlines that have come, the earliest first, with the numbers of their locks. -/
def due (r : Registry) (now : Nat) : List (Nat × Deadline Nat) :=
  let pending := r.entries.filterMap fun e => (e.lock.alarm.due? now).map fun d => (e.lock.id, d)
  pending.mergeSort fun a b => a.2.due ≤ b.2.due

/-- Lets time pass and wakes the alarms that are due then. -/
def advance (r : Registry) (nanoseconds : Nat) (h : Host) : Registry × Host :=
  let h := { h with now := h.now + nanoseconds }
  (r.due h.now).foldl (fun (r, h) (id, d) => r.wake id d.purpose h) (r, h)

/-- What is seen of the locks at a time. -/
def snapshot (r : Registry) (now : Nat) : List Snapshot :=
  r.entries.map fun e => e.lock.snapshot now

/-- The number of locks that are seen as held at a time. -/
def heldCount (r : Registry) (now : Nat) : Nat :=
  ((r.snapshot now).filter fun s => s.held).length

/-- The debug line of the registry. -/
def debugText (r : Registry) : String :=
  "RunningLockRegistry \x7b next_id: " ++ Text.naturalText r.nextId ++ ", .. \x7d"

theorem find?_put_ne (r : Registry) (l : Running) {id : Nat} (h : id ≠ l.id) :
    (r.put l).find? id = r.find? id := by
  unfold find? put
  dsimp only
  induction r.entries with
  | nil => rfl
  | cons e rest ih =>
    simp only [List.map_cons, List.find?_cons]
    by_cases hSame : e.lock.id = l.id
    · have hNe : ¬ l.id = id := fun hEq => h hEq.symm
      simp only [hSame, beq_self_eq_true, if_true, beq_eq_false_iff_ne.mpr hNe]
      exact ih
    · simp only [beq_eq_false_iff_ne.mpr hSame, Bool.false_eq_true, if_false]
      split
      · rfl
      · exact ih

theorem find?_put_self (r : Registry) (l : Running) (h : (r.find? l.id).isSome = true) :
    (r.put l).find? l.id = some l := by
  unfold find? put at *
  dsimp only at *
  generalize r.entries = entries at h ⊢
  induction entries with
  | nil => simp at h
  | cons e rest ih =>
    rw [List.map_cons, List.find?_cons]
    rw [List.find?_cons] at h
    by_cases hSame : e.lock.id = l.id
    · simp [hSame]
    · simp only [beq_eq_false_iff_ne.mpr hSame, Bool.false_eq_true, if_false] at h ⊢
      exact ih h

end Registry

end DevicePower.Lock
