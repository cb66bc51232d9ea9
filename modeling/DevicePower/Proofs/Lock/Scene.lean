import DevicePower.Proofs.Lock.Operation

/-!
# Running locks at work

A scene is a registry of locks on a host, in the middle of a run. Anything may happen next: a lock
is made, a handle is copied or dropped, a lock is held or released, time passes, the platform begins
or stops to fail, the system begins or stops to refuse threads, and the rest of the facade uses the
platform.

An alarm acts in two steps, and everything else may come between them. First it is *roused*: its
deadline has come and nobody has called it off. Then it *wakes*, which is the library's `wake`. An
alarm that has been roused can no longer be called off, so when it wakes its hold may have been
replaced or released, and its lock may be gone. This is why holds have generations.

What was done is kept in a history, the latest first, with the calls that the platform accepted
meanwhile.

## How statements about single locks are proved

What one action can do to one lock is said once, by `Turn`, over the view of that lock: the lock,
its roused alarms, the accepted calls about it and its part of the history. Only the proof that an
action gives a lock such a turn goes through all actions and through the registry. An invariant of
single locks is then a property of views that every turn keeps.

## Main results

* `run_keeps`, `run_induction`: what each action keeps, a run keeps.
-/

namespace DevicePower.Lock

/-! ## What can happen -/

/-- A change of what the platform accepts. -/
inductive Change where
  | fail (op : Operation)
  | heal (op : Operation)
  | inject (op : Operation) (f : Failure)
  | restore (op : Operation)

/-- What happens next. -/
inductive Action where
  | create (name : String) (kind : Kind)
  /-- A handle of a lock is copied. -/
  | clone (id : Nat)
  /-- A handle of a lock is dropped. -/
  | drop (id : Nat)
  | hold (id timeout : Nat)
  | release (id : Nat)
  /-- The alarm of a lock stops waiting because its deadline has come. -/
  | rouse (id : Nat)
  /-- An alarm that was roused acts. -/
  | wake (id : Nat) (alarm : Deadline Nat)
  /-- Time passes. -/
  | pass (nanoseconds : Nat)
  | change (c : Change)
  /-- The system begins to refuse threads, for a reason, or starts them again. -/
  | threads (refusal : Option String)
  /-- The rest of the facade calls the platform. -/
  | other (call : Call)

namespace Change

/-- The operation whose answers change. -/
def operation : Change → Operation
  | fail op => op
  | heal op => op
  | inject op _ => op
  | restore op => op

/-- The platform after a change. -/
def apply (p : Platform) : Change → Platform
  | fail op => p.fail op
  | heal op => p.heal op
  | inject op f => p.inject op f
  | restore op => p.restore op

@[simp] theorem calls_apply (c : Change) (p : Platform) : (c.apply p).calls = p.calls := by
  cases c <;> rfl

@[simp] theorem supported_apply (c : Change) (p : Platform) :
    (c.apply p).supported = p.supported := by
  cases c <;> rfl

/-- Only the operation that was changed sees the change. -/
theorem answer_apply {c : Change} {call : Call} (h : call.operation ≠ c.operation) (p : Platform) :
    (c.apply p).answer call = p.answer call := by
  have hKept : ∀ f : Operation × Failure, (f.1 == call.operation) = true →
      (f.1 != c.operation) = true := by
    intro f hFound
    rw [beq_iff_eq.mp hFound]
    exact bne_iff_ne.mpr h
  have hFaults : ((c.apply p).faults.find? fun f => f.1 == call.operation) =
      p.faults.find? fun f => f.1 == call.operation := by
    cases c with
    | fail op => rfl
    | heal op => rfl
    | inject op f =>
      have hNe : ¬ op = call.operation := fun hEq => h hEq.symm
      dsimp only [apply, Platform.inject]
      rw [List.find?_cons_of_neg (by simpa using hNe)]
      exact find?_filter_of_imp hKept p.faults
    | restore op => exact find?_filter_of_imp hKept p.faults
  have hFailing : (c.apply p).failing.contains call.operation =
      p.failing.contains call.operation := by
    cases c with
    | fail op =>
      dsimp only [apply, Platform.fail]
      rw [List.contains_cons, show (call.operation == op) = false from beq_eq_false_iff_ne.mpr h,
        Bool.false_or]
    | heal op =>
      dsimp only [apply, Platform.heal]
      rw [Bool.eq_iff_iff, List.contains_iff_mem, List.contains_iff_mem, List.mem_filter]
      exact and_iff_left (bne_iff_ne.mpr h)
    | inject op f => rfl
    | restore op => rfl
  have hSupports : ∀ kind, (c.apply p).supports kind = p.supports kind := by
    intro kind
    unfold Platform.supports
    rw [supported_apply]
  unfold Platform.answer Platform.objection?
  rw [hFaults]
  simp only [hFailing, hSupports]

end Change

namespace Action

/-- The lock whose state an action works on. Handles are not part of that state. -/
def lock? : Action → Option Nat
  | hold id _ => some id
  | release id => some id
  | rouse id => some id
  | wake id _ => some id
  | _ => none

/-- How long an action takes. -/
def duration : Action → Nat
  | pass nanoseconds => nanoseconds
  | _ => 0

/-- Whether an action is a call of a user of the lock. -/
def isCallOn (id : Nat) : Action → Bool
  | hold i _ => i == id
  | release i => i == id
  | _ => false

end Action

/-- Something that was done. -/
structure Event where
  action : Action
  /-- How it ended. -/
  outcome : Outcome Unit
  /-- What the platform accepted meanwhile, oldest first. -/
  calls : List Call
  /-- When it was done. -/
  time : Nat

/-- A registry on a host in the middle of a run. -/
structure Scene where
  registry : Registry := {}
  host : Host
  /-- The alarms of each lock that have been roused and have not woken yet. -/
  roused : Nat → List (Deadline Nat) := fun _ => []
  /-- What was done so far, the latest first. -/
  history : List Event := []

/-- What is kept for each lock, changed for one lock. -/
def setAt {α : Type} (f : Nat → α) (id : Nat) (value : α) : Nat → α :=
  fun i => if i = id then value else f i

@[simp] theorem setAt_self {α : Type} (f : Nat → α) (id : Nat) (value : α) :
    setAt f id value id = value := if_pos rfl

theorem setAt_ne {α : Type} (f : Nat → α) {id other : Nat} (value : α) (h : other ≠ id) :
    setAt f id value other = f other := if_neg h

namespace Scene

/-- The lock with a number. -/
def lock? (s : Scene) (id : Nat) : Option Running := s.registry.find? id

/-- The part of the history that worked on a lock. -/
def historyOf (s : Scene) (id : Nat) : List Event :=
  s.history.filter fun e => e.action.lock? == some id

/-- Works on a lock, if it is there. -/
def onLock? (s : Scene) (id : Nat) (op : Running → Host → Outcome Unit × Running × Host) :
    Option (Outcome Unit × Scene) :=
  (s.registry.onLock? id s.host op).map fun (outcome, registry, host) =>
    (outcome, { s with registry, host })

/-- The alarm of a lock whose deadline has come, if it has not been roused before. -/
def waiting? (s : Scene) (id : Nat) : Option (Deadline Nat) :=
  (s.lock? id).bind fun l => (l.alarm.due? s.host.now).filter fun alarm => alarm ∉ s.roused id

/-- How an action ends and what it leaves, before it is put into the history. There is none if the
action cannot happen: there is no such lock, no alarm has come due, or no such alarm was roused. -/
def act? (s : Scene) : Action → Option (Outcome Unit × Scene)
  | .create name kind =>
    let made := s.registry.create name kind s.host
    some ((made.1.map fun _ => ()).mapError .refused,
      { s with registry := made.2.1, host := made.2.2 })
  | .clone id => some (.ok (), { s with registry := s.registry.clone id })
  | .drop id =>
    let dropped := s.registry.drop id s.host
    some (dropped.1, { s with registry := dropped.2.1, host := dropped.2.2 })
  | .hold id timeout => s.onLock? id fun l h => l.hold timeout h
  | .release id => s.onLock? id fun l h => l.release h
  | .rouse id => (s.waiting? id).map fun alarm =>
    (.ok (), { s with roused := setAt s.roused id (alarm :: s.roused id) })
  | .wake id alarm =>
    if alarm ∈ s.roused id then
      let outcome :=
        match s.lock? id with
        | none => .ok ()
        | some l => l.alarmOutcome alarm.purpose s.host
      let woken := s.registry.wake id alarm.purpose s.host
      some (outcome,
        { s with
          registry := woken.1
          host := woken.2
          roused := setAt s.roused id ((s.roused id).filter (· ≠ alarm)) })
    else none
  | .pass nanoseconds =>
    some (.ok (), { s with host := { s.host with now := s.host.now + nanoseconds } })
  | .change c =>
    some (.ok (), { s with host := { s.host with platform := c.apply s.host.platform } })
  | .threads refusal =>
    some (.ok (), { s with host := { s.host with threadRefusal := refusal } })
  | .other call =>
    if call.lock? = none then some (s.host.answer call, { s with host := s.host.attempt call })
    else none

/-- How an action ends. -/
def outcome? (s : Scene) (a : Action) : Option (Outcome Unit) := (s.act? a).map (·.1)

/-- The scene after an action. -/
def after (s : Scene) (a : Action) : Scene :=
  match s.act? a with
  | none => s
  | some (outcome, s') =>
    let calls := s'.host.platform.calls.drop s.host.platform.calls.length
    { s' with history := ⟨a, outcome, calls, s.host.now⟩ :: s.history }

/-- The scene after some actions. -/
def run (s : Scene) (actions : List Action) : Scene := actions.foldl after s

/-- The scene before anything is done, on a platform that accepts every call. -/
def start (origin : Log.Origin) (supported : List Kind) : Scene :=
  { host := { platform := { supported }, origin } }

/-- A scene to which some run leads. -/
def Reachable (s : Scene) : Prop :=
  ∃ origin supported actions, s = (start origin supported).run actions

theorem run_append (s : Scene) (first second : List Action) :
    s.run (first ++ second) = (s.run first).run second :=
  List.foldl_append

theorem reachable_run (origin : Log.Origin) (supported : List Kind) (actions : List Action) :
    ((start origin supported).run actions).Reachable :=
  ⟨origin, supported, actions, rfl⟩

/-- What every allowed action keeps, every allowed run keeps. -/
theorem run_keeps (P : Scene → Prop) (allowed : Action → Prop)
    (step : ∀ s a, allowed a → P s → P (s.after a)) :
    ∀ (actions : List Action) (s : Scene), (∀ a ∈ actions, allowed a) → P s →
      P (s.run actions) := by
  intro actions
  induction actions with
  | nil => intro s _ hStart; exact hStart
  | cons a actions ih =>
    intro s hAllowed hStart
    have hFirst : P (s.after a) := step s a (hAllowed a (by simp)) hStart
    exact ih (s.after a) (fun b hb => hAllowed b (by simp [hb])) hFirst

/-- What holds at the start and is kept by each action of a run holds after the run. The state that
an action finds may be taken as the end of a run of its own. -/
theorem run_induction {P : Scene → Prop} {s : Scene} (start : P s)
    (step : ∀ actions a, P (s.run actions) → P ((s.run actions).after a)) (actions : List Action) :
    P (s.run actions) := by
  have hKept := run_keeps (fun t => (∃ earlier, t = s.run earlier) ∧ P t) (fun _ => True)
  refine (hKept ?_ actions s (fun _ _ => trivial) ⟨⟨[], rfl⟩, start⟩).2
  rintro t a - ⟨⟨earlier, rfl⟩, hBefore⟩
  exact ⟨⟨earlier ++ [a], (run_append s earlier [a]).symm⟩, step earlier a hBefore⟩

end Scene

end DevicePower.Lock
