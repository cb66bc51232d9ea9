import DevicePower.Proofs.Lock.Coherent

/-!
# Alarms end their holds

As long as the platform accepts releases, an alarm does what it was set for. A lock with a deadline
has exactly one pending alarm, for that deadline and for the present hold; every other lock has
none. An alarm of an earlier hold changes nothing when it wakes, however late. And after an accepted
hold with a timeout, until the next accepted hold or release, either the alarm of that hold is still
pending, or it has woken and the lock is free, and was released on the platform.

There are two exceptions. An alarm cannot bear a name with a NUL character: such a hold crashes
after the platform has accepted it. And the system may refuse the thread of an alarm: such a hold
succeeds. Both leave a held lock with a deadline and without an alarm.

## Main results

* `timely_of_turn`: a turn keeps the alarms in order if releases are accepted.
* `timely_of_sparing`: the alarms of a lock that can be alarmed are in order in every such run.
* `always_timely_iff`: the locks whose alarms are always in order, on a system that starts threads
  and on any system.
-/

namespace DevicePower.Lock

/-- An action that does not change whether the platform accepts releases. -/
def Action.SparesReleases (a : Action) : Prop := ∀ c, a = .change c → c.operation ≠ .releaseLock

/-- An action after which the system does not refuse threads, unless it did before. -/
def Action.SparesThreads (a : Action) : Prop := ∀ reason, a ≠ .threads (some reason)

/-- Whether an event is a hold or a release that succeeded. -/
def Event.isGranted (e : Event) : Bool :=
  match e.action, e.outcome with
  | .hold _ _, .ok () => true
  | .release _, .ok () => true
  | _, _ => false

/-! ## The alarms of one lock -/

namespace View

/-- The state of a lock that an alarm has been set for and that no user has held or released since:
the alarm is pending, or it has woken and ended the hold. -/
inductive Awaits (v : View) (d : Deadline Nat) (later : List Event) : Prop where
  | waiting : v.lock.held = true → v.lock.alarm.pending = some d →
      (∀ x ∈ later, x.action ≠ .wake v.lock.id d) → Awaits v d later
  | ended : v.lock.held = false → v.lock.alarm.pending = none →
      v.calls.getLast? = some v.lock.releaseCall →
      (∃ x ∈ later, x.action = .wake v.lock.id d) → Awaits v d later

/-- The alarms of a lock are in order. -/
structure Timely (v : View) : Prop where
  timed : ∀ due, v.lock.held = true → v.lock.deadline = some due →
    v.lock.alarm.pending = some ⟨due, v.lock.generation⟩
  onTime : ∀ later e earlier timeout, v.history = later ++ e :: earlier →
    (∀ x ∈ later, x.isGranted = false) → e.action = .hold v.lock.id timeout →
    e.outcome = .ok () → 0 < timeout →
    ∃ generation, v.Awaits ⟨e.time + timeout * millisecond, generation⟩ later

theorem timely_fresh (id : Nat) (name : String) (kind : Kind) (now : Nat) :
    (fresh id name kind now).Timely := by
  refine ⟨fun _ hHeld => Bool.noConfusion hHeld, ?_⟩
  intro later e earlier timeout hHistory
  cases later <;> cases hHistory

/-- Something happens that is neither a hold nor a release that succeeded. What the lock awaits
decides. -/
theorem Timely.cons {v v' : View} {x : Event} (h : v.Timely)
    (hHistory : v'.history = x :: v.history) (hId : v'.lock.id = v.lock.id)
    (hNotGranted : x.isGranted = false)
    (hTimed : ∀ due, v'.lock.held = true → v'.lock.deadline = some due →
      v'.lock.alarm.pending = some ⟨due, v'.lock.generation⟩)
    (hAwaits : ∀ d later, v.Awaits d later → v'.Awaits d (x :: later)) : v'.Timely := by
  refine ⟨hTimed, ?_⟩
  intro later e earlier timeout hSplit hQuiet hAction hOutcome hTimeout
  rw [hHistory] at hSplit
  cases later with
  | nil =>
    obtain ⟨rfl, rfl⟩ := List.cons.inj hSplit
    unfold Event.isGranted at hNotGranted
    rw [hAction, hOutcome] at hNotGranted
    cases hNotGranted
  | cons first later =>
    obtain ⟨rfl, hBefore⟩ := List.cons.inj hSplit
    have hQuietBefore : ∀ y ∈ later, y.isGranted = false :=
      fun y hMem => hQuiet y (List.mem_cons_of_mem _ hMem)
    rw [hId] at hAction
    obtain ⟨generation, hBeforeAwaits⟩ :=
      h.onTime later e earlier timeout hBefore hQuietBefore hAction hOutcome hTimeout
    exact ⟨generation, hAwaits _ later hBeforeAwaits⟩

/-- A hold or a release succeeds. It alone decides what the lock awaits. -/
theorem Timely.granted {v v' : View} {x : Event} (hHistory : v'.history = x :: v.history)
    (hGranted : x.isGranted = true)
    (hTimed : ∀ due, v'.lock.held = true → v'.lock.deadline = some due →
      v'.lock.alarm.pending = some ⟨due, v'.lock.generation⟩)
    (hAwaits : ∀ timeout, x.action = .hold v'.lock.id timeout → 0 < timeout →
      v'.lock.held = true ∧
        ∃ generation, v'.lock.alarm.pending = some ⟨x.time + timeout * millisecond, generation⟩) :
    v'.Timely := by
  refine ⟨hTimed, ?_⟩
  intro later e earlier timeout hSplit hQuiet hAction _ hTimeout
  rw [hHistory] at hSplit
  cases later with
  | nil =>
    obtain ⟨rfl, rfl⟩ := List.cons.inj hSplit
    obtain ⟨hHeld, generation, hPending⟩ := hAwaits timeout hAction hTimeout
    exact ⟨generation, .waiting hHeld hPending (List.forall_mem_nil _)⟩
  | cons first later =>
    obtain ⟨rfl, _⟩ := List.cons.inj hSplit
    rw [hQuiet x List.mem_cons_self] at hGranted
    cases hGranted

/-- What a lock awaits does not change with an action that is not one of its alarms. -/
theorem Awaits.cons {v v' : View} {d : Deadline Nat} {later : List Event} {x : Event}
    (h : v.Awaits d later) (hId : v'.lock.id = v.lock.id) (hHeld : v'.lock.held = v.lock.held)
    (hPending : v'.lock.alarm.pending = v.lock.alarm.pending) (hCalls : v'.calls = v.calls)
    (hAction : v.lock.alarm.pending = some d → x.action ≠ .wake v.lock.id d) :
    v'.Awaits d (x :: later) := by
  cases h with
  | waiting hWas hSet hNotYet =>
    refine .waiting (hHeld.trans hWas) (hPending.trans hSet) ?_
    intro y hMem
    rw [hId]
    rcases List.mem_cons.mp hMem with rfl | hBefore
    · exact hAction hSet
    · exact hNotYet y hBefore
  | ended hWas hUnset hLast hWoken =>
    refine .ended (hHeld.trans hWas) (hPending.trans hUnset) ?_ ?_
    · rw [hCalls, hLast]
      unfold Running.releaseCall
      rw [hId]
    · obtain ⟨y, hMem, hWake⟩ := hWoken
      exact ⟨y, List.mem_cons_of_mem _ hMem, by rw [hId]; exact hWake⟩

/-- The alarm of the present hold wakes and ends the hold. -/
theorem Awaits.expire {v v' : View} {d woken : Deadline Nat} {later : List Event} {x : Event}
    (h : v.Awaits d later) (hCoherent : v.lock.Coherent v.roused) (hRoused : woken ∈ v.roused)
    (hHeld : v.lock.held = true) (hGeneration : v.lock.generation = woken.purpose)
    (hId : v'.lock.id = v.lock.id) (hFree : v'.lock.held = false)
    (hUnset : v'.lock.alarm.pending = none) (hLast : v'.calls.getLast? = some v.lock.releaseCall)
    (hAction : x.action = .wake v.lock.id woken) : v'.Awaits d (x :: later) := by
  cases h with
  | waiting _ hSet _ =>
    obtain ⟨_, hDeadline, hPurpose⟩ := hCoherent.of_pending d hSet
    -- Only one alarm is for the present hold, so it is the awaited one that has woken.
    have hSame : woken = d := by
      rw [hCoherent.eq_of_purpose_eq hRoused hGeneration.symm hDeadline, ← hPurpose]
    refine .ended hFree hUnset ?_ ⟨x, List.mem_cons_self, ?_⟩
    · rw [hLast]
      unfold Running.releaseCall
      rw [hId]
    · rw [hId, hAction, hSame]
  | ended hWas _ _ _ =>
    rw [hHeld] at hWas
    cases hWas

end View

/-- A turn keeps the alarms of a lock in order, if a release would be accepted and no hold would be
accepted whose alarm cannot be set. -/
theorem timely_of_turn {h : Host} {v v' : View} {a : Action} (hTurn : Turn h v a v')
    (hCoherent : v.lock.Coherent v.roused) (hRelease : h.answer v.lock.releaseCall = .ok ())
    (hAlarm : (v.lock.canBeAlarmed = true ∧ h.startsThreads = true) ∨
      ∀ timeout, h.answer (v.lock.acquireCall timeout) ≠ .ok ())
    (hTimely : v.Timely) : v'.Timely := by
  cases hTurn with
  | idle _ => exact hTimely
  | holdFailed timeout f _ =>
    cases f with
    | refused e =>
      exact hTimely.cons rfl rfl rfl hTimely.timed fun d later hAwaits =>
        hAwaits.cons rfl rfl rfl rfl nofun
    | crashed =>
      exact hTimely.cons rfl rfl rfl hTimely.timed fun d later hAwaits =>
        hAwaits.cons rfl rfl rfl rfl nofun
  | held timeout hAnswer _ =>
    have hStarted : h.startsThreads = true := by
      rcases hAlarm with ⟨_, hStarts⟩ | hNever
      · exact hStarts
      · exact absurd hAnswer (hNever timeout)
    have hPending : timeout ≠ 0 →
        (v.lock.holding h.now timeout h.startsThreads).alarm.pending =
          some ⟨h.now + timeout * millisecond, v.lock.generation + 1⟩ := by
      intro hTimeout
      rw [pending_holding, if_pos ⟨hTimeout, hStarted⟩]
    refine View.Timely.granted rfl rfl ?_ ?_
    · intro due _ hDeadline
      by_cases hTimeout : timeout = 0
      · simp [View.asked, Running.holding, hTimeout] at hDeadline
      · obtain rfl : h.now + timeout * millisecond = due := by
          simpa [View.asked, Running.holding, hTimeout] using hDeadline
        exact hPending hTimeout
    · intro other hAction hPositive
      obtain rfl : timeout = other := (Action.hold.inj hAction).2
      exact ⟨rfl, v.lock.generation + 1, hPending (Nat.ne_of_gt hPositive)⟩
  | stranded timeout hAnswer _ hName =>
    rcases hAlarm with ⟨hCan, _⟩ | hNever
    · exact nomatch hName.symm.trans hCan
    · exact absurd hAnswer (hNever timeout)
  | calmed hFree =>
    refine View.Timely.granted rfl rfl ?_ nofun
    intro due hHeld
    exact nomatch hFree.symm.trans hHeld
  | releaseFailed f _ hAnswer => exact nomatch hAnswer.symm.trans hRelease
  | released _ _ => exact View.Timely.granted rfl rfl nofun nofun
  | roused d _ _ =>
    exact hTimely.cons rfl rfl rfl hTimely.timed fun d later hAwaits =>
      hAwaits.cons rfl rfl rfl rfl nofun
  | stale d _ hStale =>
    rw [hCoherent.settled_of_stale hStale]
    refine hTimely.cons rfl rfl rfl hTimely.timed ?_
    intro awaited later hAwaits
    refine hAwaits.cons rfl rfl rfl rfl ?_
    intro hPending hWake
    obtain ⟨hHeld, _, hPurpose⟩ := hCoherent.of_pending awaited hPending
    obtain rfl : d = awaited := (Action.wake.inj hWake).2
    rcases hStale with hFree | hOther
    · exact nomatch hFree.symm.trans hHeld
    · exact hOther hPurpose.symm
  | expired d hRoused hHeld hGeneration _ =>
    refine hTimely.cons rfl rfl rfl nofun ?_
    intro awaited later hAwaits
    exact hAwaits.expire hCoherent hRoused hHeld hGeneration rfl rfl
      (hCoherent.pending_settle hGeneration) List.getLast?_concat rfl
  | abandoned d e _ _ _ hAnswer => exact nomatch hAnswer.symm.trans hRelease
  | wakeCrashed d _ _ _ hAnswer => exact nomatch hAnswer.symm.trans hRelease

/-! ## The alarms of a scene -/

theorem Running.canBeAlarmed_iff (l : Running) :
    l.canBeAlarmed = true ↔ '\x00' ∉ l.name.toList := by
  unfold canBeAlarmed
  rw [Bool.not_eq_true', ← Bool.not_eq_true, List.contains_iff_mem]

namespace Scene

/-- The alarms of a lock are in order. -/
structure Timely (s : Scene) (id : Nat) (l : Running) : Prop where
  /-- A free lock has neither a deadline nor an alarm. -/
  unheld : l.held = false → l.deadline = none ∧ l.alarm.pending = none
  /-- A hold with a deadline has an alarm, for that deadline and for this hold. -/
  timed : ∀ due, l.held = true → l.deadline = some due →
    l.alarm.pending = some ⟨due, l.generation⟩
  /-- A hold without a deadline has no alarm. -/
  untimed : l.held = true → l.deadline = none → l.alarm.pending = none
  /-- An alarm that is not the pending one changes nothing when it wakes. -/
  stale : ∀ d ∈ s.roused id, l.alarm.pending ≠ some d →
    (s.after (.wake id d)).lock? id = some l ∧ (s.after (.wake id d)).host = s.host
  /-- After a hold with a timeout, until the next hold or release that succeeds, either the alarm
  for its deadline is still pending and has not woken since, or it has, and the lock is free and was
  released on the platform. -/
  onTime : ∀ later e earlier timeout, s.historyOf id = later ++ e :: earlier →
    (∀ x ∈ later, x.isGranted = false) → e.action = .hold id timeout → e.outcome = .ok () →
    0 < timeout →
    ∃ d, d.due = e.time + timeout * millisecond ∧
      ((l.held = true ∧ l.alarm.pending = some d ∧ ∀ x ∈ later, x.action ≠ .wake id d) ∨
       (l.held = false ∧ l.alarm.pending = none ∧
        s.host.platform.lastCallAbout? id = some (.releaseLock id) ∧
        ∃ x ∈ later, x.action = .wake id d))

/-- An alarm wakes that is for no present hold. -/
theorem after_wake_of_stale {s : Scene} {id : Nat} {l : Running} {d : Deadline Nat}
    (hLock : s.lock? id = some l) (hCoherent : l.Coherent (s.roused id)) (hRoused : d ∈ s.roused id)
    (hStale : l.held = false ∨ l.generation ≠ d.purpose) :
    (s.after (.wake id d)).lock? id = some l ∧ (s.after (.wake id d)).host = s.host := by
  have hWake : l.wake d.purpose s.host = (l, s.host) := by
    rcases l.wake_cases d.purpose s.host with ⟨_, hWake⟩ | ⟨_, _, hHeld, hSame, _⟩ |
      ⟨_, _, _, hHeld, hSame, _⟩ | ⟨hHeld, hSame, _⟩
    · rw [hWake, hCoherent.settled_of_stale hStale]
    · exact absurd hStale (by simp [hHeld, hSame])
    · exact absurd hStale (by simp [hHeld, hSame])
    · exact absurd hStale (by simp [hHeld, hSame])
  rw [after_of_act? (done_wake hRoused hLock), hWake]
  exact ⟨Registry.find?_put_of_find? hLock (id_of_lock? hLock), rfl⟩

/-- The alarms of a lock are in order if its view says so. -/
theorem timely_of_view {s : Scene} {id : Nat} {l : Running} (hLock : s.lock? id = some l)
    (hCoherent : l.Coherent (s.roused id)) (hTimely : (s.viewOf id l).Timely) : s.Timely id l := by
  obtain rfl : l.id = id := id_of_lock? hLock
  refine ⟨fun hHeld => ⟨hCoherent.of_unheld hHeld, hCoherent.pending_eq_none hHeld⟩,
    hTimely.timed, ?_, ?_, ?_⟩
  · intro _ hDeadline
    cases hPending : l.alarm.pending with
    | none => rfl
    | some d => exact nomatch hDeadline.symm.trans (hCoherent.of_pending d hPending).2.1
  · intro d hRoused hNotPending
    apply after_wake_of_stale hLock hCoherent hRoused
    refine Or.inr fun hGeneration => hNotPending ?_
    obtain ⟨hHeld, hDeadline⟩ := hCoherent.of_roused d hRoused hGeneration.symm
    have hSet : l.alarm.pending = some ⟨d.due, l.generation⟩ :=
      hTimely.timed d.due hHeld hDeadline
    rw [hSet, hGeneration]
  · intro later e earlier timeout hHistory hQuiet hAction hOutcome hTimeout
    obtain ⟨generation, hAwaits⟩ :=
      hTimely.onTime later e earlier timeout hHistory hQuiet hAction hOutcome hTimeout
    refine ⟨⟨e.time + timeout * millisecond, generation⟩, rfl, ?_⟩
    cases hAwaits with
    | waiting hHeld hPending hNotYet => exact Or.inl ⟨hHeld, hPending, hNotYet⟩
    | ended hFree hUnset hLast hWoken => exact Or.inr ⟨hFree, hUnset, hLast, hWoken⟩

/-- The system goes on to start threads. -/
theorem startsThreads_after_of_spares {s : Scene} {a : Action} (hSpares : a.SparesThreads)
    (hStarts : s.host.startsThreads = true) : (s.after a).host.startsThreads = true := by
  by_cases hThreads : ∃ refusal, a = .threads refusal
  · obtain ⟨refusal, rfl⟩ := hThreads
    cases refusal with
    | none => rfl
    | some reason => exact absurd rfl (hSpares reason)
  · have hKept := s.startsThreads_after fun refusal hEq => hThreads ⟨refusal, hEq⟩
    exact hKept.trans hStarts

/-- What runs keep that spare releases, and threads if the kind is supported: the platform accepts
releases, and the locks of a name and a kind have their alarms in order. -/
structure Spared (supported : List Kind) (name : String) (kind : Kind) (s : Scene) : Prop where
  numbered : s.WellNumbered
  supported_eq : s.host.platform.supported = supported
  releases : ∀ id, s.host.answer (.releaseLock id) = .ok ()
  threads : kind ∈ supported → s.host.startsThreads = true
  timely : ∀ id v, s.view? id = some v → v.lock.Coherent v.roused ∧
    (v.lock.name = name → v.lock.kind = kind → v.Timely)

theorem spared_start (origin : Log.Origin) (supported : List Kind) (name : String) (kind : Kind) :
    Spared supported name kind (start origin supported) :=
  ⟨wellNumbered_start origin supported, rfl, fun _ => rfl, fun _ => rfl,
    fun _ _ hNone => nomatch hNone⟩

variable {supported : List Kind} {name : String} {kind : Kind}

theorem spared_after (hName : '\x00' ∉ name.toList ∨ kind ∉ supported) {s : Scene} {a : Action}
    (hSpares : a.SparesReleases) (hThreads : kind ∈ supported → a.SparesThreads)
    (h : Spared supported name kind s) : Spared supported name kind (s.after a) := by
  refine ⟨wellNumbered_after h.numbered a, (s.supported_after a).trans h.supported_eq, ?_,
    fun hKind => startsThreads_after_of_spares (hThreads hKind) (h.threads hKind), ?_⟩
  · intro id
    have hOther : ∀ c, a = .change c → (Call.releaseLock id).operation ≠ c.operation :=
      fun c hChange => (hSpares c hChange).symm
    rw [s.answer_after hOther]
    exact h.releases id
  · refine views_after (P := fun v => v.lock.Coherent v.roused ∧
      (v.lock.name = name → v.lock.kind = kind → v.Timely)) h.numbered ?_ ?_ h.timely
    · intro id name kind now _
      exact ⟨Running.coherent_fresh id name kind now, fun _ _ => View.timely_fresh id name kind now⟩
    · intro v v' ⟨hCoherent, hTimely⟩ hTurn
      refine ⟨coherent_of_turn hTurn hCoherent, ?_⟩
      obtain ⟨hSameName, hSameKind⟩ := named_of_turn hTurn
      rw [hSameName, hSameKind]
      intro hIsName hIsKind
      refine timely_of_turn hTurn hCoherent (h.releases v.lock.id) ?_ (hTimely hIsName hIsKind)
      by_cases hKind : kind ∈ supported
      · have hNoNul : '\x00' ∉ v.lock.name.toList :=
          hIsName ▸ hName.resolve_right (not_not_intro hKind)
        exact Or.inl ⟨v.lock.canBeAlarmed_iff.mpr hNoNul, h.threads hKind⟩
      · rw [← h.supported_eq, ← hIsKind] at hKind
        exact Or.inr fun timeout => Platform.answer_acquireLock_ne_ok hKind _ _ timeout

/-- While the platform accepts releases, the alarms of a lock are in order, if its holds are never
accepted, or their alarms can bear its name and the system starts threads. -/
theorem timely_of_sparing (hName : '\x00' ∉ name.toList ∨ kind ∉ supported) {origin : Log.Origin}
    {actions : List Action} (hSpares : ∀ a ∈ actions, a.SparesReleases)
    (hThreads : kind ∈ supported → ∀ a ∈ actions, a.SparesThreads) {id : Nat} {l : Running}
    (hLock : ((start origin supported).run actions).lock? id = some l) (hIsName : l.name = name)
    (hIsKind : l.kind = kind) : ((start origin supported).run actions).Timely id l := by
  have hSpared := run_keeps (Spared supported name kind)
    (fun a => a.SparesReleases ∧ (kind ∈ supported → a.SparesThreads))
    (fun _ _ hAllowed h => spared_after hName hAllowed.1 hAllowed.2 h) actions
    (start origin supported) (fun a hMem => ⟨hSpares a hMem, fun hKind => hThreads hKind a hMem⟩)
    (spared_start origin supported name kind)
  obtain ⟨hCoherent, hTimely⟩ := hSpared.timely id _ (view?_of_lock? hLock)
  exact timely_of_view hLock hCoherent (hTimely hIsName hIsKind)

/-- An alarm wakes that had been roused when its hold was replaced. The new hold goes on. -/
example : ((start ⟨"", ""⟩ [.background]).run [.create "ab" .background, .hold 1 1,
      .pass millisecond, .rouse 1, .hold 1 0, .wake 1 ⟨millisecond, 1⟩]).lock? 1 =
    some { id := 1, name := "ab", kind := .background, held := true, generation := 2 } := by
  decide +kernel

/-- A lock is made and held for a millisecond. -/
def heldOnce (name : String) (kind : Kind) : List Action := [.create name kind, .hold 1 1]

theorem heldOnce_sparesReleases : ∀ a ∈ heldOnce name kind, a.SparesReleases := by
  intro a hMem c hChange
  rw [hChange] at hMem
  simp [heldOnce] at hMem

theorem heldOnce_sparesThreads : ∀ a ∈ heldOnce name kind, a.SparesThreads := by
  intro a hMem reason hThreads
  rw [hThreads] at hMem
  simp [heldOnce] at hMem

theorem isEmpty_eq_false_of_nul (hNul : '\x00' ∈ name.toList) : name.isEmpty = false := by
  cases hEmpty : name.isEmpty with
  | false => rfl
  | true =>
    rw [String.isEmpty_iff.mp hEmpty] at hNul
    cases hNul

/-- A lock whose alarm cannot be set, because of its name or because threads are refused, is held
with a deadline and without an alarm, as soon as the platform has accepted the hold. -/
theorem unalarmed_of_heldOnce {s : Scene} (hNew : s.registry = {})
    (hPlatform : s.host.platform = { supported }) (hNow : s.host.now = 0)
    (hNotEmpty : name.isEmpty = false) (hKind : kind ∈ supported)
    (hCannot : '\x00' ∈ name.toList ∨ s.host.startsThreads = false) :
    ∃ l, (s.run (heldOnce name kind)).lock? 1 = some l ∧ l.name = name ∧ l.kind = kind ∧
      l.held = true ∧ l.deadline = some millisecond ∧ l.alarm.pending = none := by
  obtain ⟨_, _, hKept, _, hFind⟩ := Registry.find?_create_ok s.registry kind s.host hNotEmpty
  have hMade : (s.after (.create name kind)).lock? 1 = some { id := 1, name, kind } := by
    have hFound : (s.after (.create name kind)).lock? 1 = _ := hFind 1
    rw [hFound, hNew, hNow]
    rfl
  have hAnswer : (s.after (.create name kind)).host.answer (.acquireLock 1 name kind 1) =
      .ok () := by
    have hSupports : ({ supported } : Platform).supports kind = true :=
      List.contains_iff_mem.mpr hKind
    have hSame : (s.after (.create name kind)).host.platform = { supported } :=
      hKept.trans hPlatform
    unfold Host.answer Platform.answer Platform.objection?
    rw [hSame]
    dsimp only
    rw [hSupports]
    rfl
  have hClock : (s.after (.create name kind)).host.now = 0 := (s.now_after _).trans hNow
  have hStarts := s.startsThreads_after (a := .create name kind) nofun
  have hRun : s.run (heldOnce name kind) = (s.after (.create name kind)).after (.hold 1 1) := rfl
  generalize s.after (.create name kind) = made at hMade hAnswer hClock hStarts hRun
  have hAfter := after_of_act? (show made.act? (.hold 1 1) = _ from onLock?_of_lock? _ hMade)
  rw [hRun, hAfter]
  rcases Running.hold_cases { id := 1, name, kind } 1 made.host with ⟨f, hError, _⟩ |
    ⟨h', hHold, _, hAlarm, _⟩ | ⟨_, _, _, hHold⟩
  · exact nomatch hAnswer.symm.trans hError
  · have hRefused : made.host.startsThreads = false := by
      rcases hCannot with hNul | hRefused
      · exact absurd hNul ((Running.canBeAlarmed_iff _).mp (hAlarm.resolve_left Nat.one_ne_zero))
      · exact hStarts.trans hRefused
    rw [hHold]
    refine ⟨_, Registry.find?_put_of_find? hMade rfl, rfl, rfl, rfl, ?_, ?_⟩
    · rw [hClock]
      rfl
    · rw [pending_holding, hRefused]
      rfl
  · rw [hHold]
    refine ⟨_, Registry.find?_put_of_find? hMade rfl, rfl, rfl, rfl, ?_, rfl⟩
    rw [hClock]
    rfl

/-- A lock whose alarm cannot bear its name. -/
theorem stranded_of_nul (origin : Log.Origin) (hNul : '\x00' ∈ name.toList)
    (hKind : kind ∈ supported) :
    ∃ l, ((start origin supported).run (heldOnce name kind)).lock? 1 = some l ∧
      l.name = name ∧ l.kind = kind ∧ l.held = true ∧ l.deadline = some millisecond ∧
      l.alarm.pending = none :=
  unalarmed_of_heldOnce rfl rfl rfl (isEmpty_eq_false_of_nul hNul) hKind (Or.inl hNul)

/-- The alarms of the locks of a name and a kind are in order in every run of actions that are
allowed. -/
def AlwaysTimely (allowed : Action → Prop) (origin : Log.Origin) (supported : List Kind)
    (name : String) (kind : Kind) : Prop :=
  ∀ actions, (∀ a ∈ actions, allowed a) → ∀ id l,
    ((start origin supported).run actions).lock? id = some l → l.name = name → l.kind = kind →
    ((start origin supported).run actions).Timely id l

/-- A run to a lock that is held with a deadline and without an alarm. -/
theorem not_alwaysTimely {allowed : Action → Prop} {origin : Log.Origin} (actions : List Action)
    (hAllowed : ∀ a ∈ actions, allowed a)
    (hUnalarmed : ∃ l, ((start origin supported).run actions).lock? 1 = some l ∧ l.name = name ∧
      l.kind = kind ∧ l.held = true ∧ l.deadline = some millisecond ∧ l.alarm.pending = none) :
    ¬ AlwaysTimely allowed origin supported name kind := by
  obtain ⟨l, hLock, hName, hKind, hHeld, hDeadline, hNone⟩ := hUnalarmed
  intro hAlways
  have hTimely := hAlways actions hAllowed 1 l hLock hName hKind
  exact nomatch hNone.symm.trans (hTimely.timed millisecond hHeld hDeadline)

/-- The platform accepts releases throughout. On a system that starts threads the locks whose alarms
are in order in every run are exactly those with a name without NUL, or of a kind that the platform
does not support. On a system that may refuse threads they are those of the unsupported kinds alone,
but for the empty name, which no lock has. -/
theorem always_timely_iff (origin : Log.Origin) (supported : List Kind) (name : String)
    (kind : Kind) :
    (AlwaysTimely (fun a => a.SparesReleases ∧ a.SparesThreads) origin supported name kind ↔
      '\x00' ∉ name.toList ∨ kind ∉ supported) ∧
    (AlwaysTimely Action.SparesReleases origin supported name kind ↔
      name = "" ∨ kind ∉ supported) := by
  refine ⟨⟨?_, ?_⟩, ?_, ?_⟩
  · intro hAlways
    apply Decidable.byContradiction
    intro hNot
    obtain ⟨hNul, hKind⟩ := not_or.mp hNot
    exact not_alwaysTimely _
      (fun a hMem => ⟨heldOnce_sparesReleases a hMem, heldOnce_sparesThreads a hMem⟩)
      (stranded_of_nul origin (Decidable.not_not.mp hNul) (Decidable.not_not.mp hKind)) hAlways
  · intro hName actions hSpares id l hLock hIsName hIsKind
    exact timely_of_sparing hName (fun a hMem => (hSpares a hMem).1)
      (fun _ a hMem => (hSpares a hMem).2) hLock hIsName hIsKind
  · intro hAlways
    apply Decidable.byContradiction
    intro hNot
    obtain ⟨hName, hKind⟩ := not_or.mp hNot
    -- Threads are refused from the start on.
    refine not_alwaysTimely (.threads (some "") :: heldOnce name kind) ?_ ?_ hAlways
    · exact List.forall_mem_cons.mpr ⟨nofun, heldOnce_sparesReleases⟩
    · have hNotEmpty : name.isEmpty = false :=
        Bool.eq_false_iff.mpr fun hEmpty => hName (String.isEmpty_iff.mp hEmpty)
      exact unalarmed_of_heldOnce (s := (start origin supported).after (.threads (some ""))) rfl rfl
        rfl hNotEmpty (Decidable.not_not.mp hKind) (Or.inr rfl)
  · rintro (hName | hKind) actions hSpares id l hLock hIsName hIsKind
    · exact absurd (hIsName.trans hName)
        (name_ne_empty (reachable_run origin supported actions) hLock)
    · exact timely_of_sparing (Or.inr hKind) hSpares (fun hSupported => absurd hSupported hKind)
        hLock hIsName hIsKind

/-- A lock with a NUL character in its name may be held with a deadline that no alarm is set for,
although the platform accepts releases and the system starts threads. -/
theorem deadline_may_have_no_alarm :
    ¬ ∀ (origin : Log.Origin) (supported : List Kind) (actions : List Action) (id due : Nat)
        (l : Running), (∀ a ∈ actions, a.SparesReleases ∧ a.SparesThreads) →
      ((start origin supported).run actions).lock? id = some l → l.held = true →
      l.deadline = some due → l.alarm.pending = some ⟨due, l.generation⟩ := by
  intro hAlways
  have hNul : '\x00' ∈ "a\x00b".toList := by decide
  have hKind : Kind.background ∈ [Kind.background] := List.mem_singleton_self _
  obtain ⟨l, hLock, _, _, hHeld, hDeadline, hNone⟩ := stranded_of_nul ⟨"", ""⟩ hNul hKind
  have hPending := hAlways ⟨"", ""⟩ [.background] (heldOnce "a\x00b" .background) 1 millisecond l
    (fun a hMem => ⟨heldOnce_sparesReleases a hMem, heldOnce_sparesThreads a hMem⟩) hLock hHeld
    hDeadline
  exact nomatch hNone.symm.trans hPending

end Scene

end DevicePower.Lock
