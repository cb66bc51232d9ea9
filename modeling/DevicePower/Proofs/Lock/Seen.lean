import DevicePower.Proofs.Lock.Alarm

/-!
# What is seen of a hold

A lock is asked at any time whether it is held. The answer is told by the history of the lock and
the clock alone: the latest hold or release that took effect was a hold, and it has not run out.
Alarms do not change the answer. They wake when their deadline has come, and from then on the lock
is seen as free whether its alarm has woken or not. A call that fails does not change it either.

A hold takes effect when it succeeds. There is one other way: a hold that crashes on its alarm has
been accepted before, and the lock is held by it although the call failed. This needs a name that
no alarm can bear.

## Main results

* `seen_of_turn`: a turn keeps what is seen in step with the history.
* `isHolding_eq_lastsBy`: the answer in every run, in terms of what took effect.
* `seen_as_granted_iff`: the locks for which only calls that succeeded count.
-/

namespace DevicePower.Lock

/-! ## What counts -/

namespace Event

/-- Whether an event is a hold that lasts at a time. -/
def lastsAt (e : Event) (now : Nat) : Bool :=
  match e.action with
  | .hold _ timeout => timeout == 0 || decide (now < e.time + timeout * millisecond)
  | _ => false

/-- Whether an event is a hold that the platform accepted and that crashed on its alarm. -/
def isStranded (e : Event) : Bool :=
  match e.action, e.outcome with
  | .hold _ _, .error .crashed => !e.calls.isEmpty
  | _, _ => false

/-- Whether an event is a hold or a release that took effect. -/
def tookEffect (e : Event) : Bool := e.isGranted || e.isStranded

theorem lastsAt_eq_true_iff (e : Event) (now : Nat) :
    e.lastsAt now = true ↔ ∃ id timeout, e.action = .hold id timeout ∧
      (timeout = 0 ∨ now < e.time + timeout * millisecond) := by
  unfold lastsAt
  cases hAction : e.action with
  | hold id timeout =>
    constructor
    · intro hLasts
      exact ⟨id, timeout, rfl, by simpa using hLasts⟩
    · rintro ⟨_, _, hSame, hLasts⟩
      cases hSame
      simpa using hLasts
  | _ => simp

end Event

/-- Whether the latest event that counts is a hold that lasts at a time. The latest event comes
first. -/
def lastsBy (counts : Event → Bool) (history : List Event) (now : Nat) : Bool :=
  match history.find? counts with
  | some e => e.lastsAt now
  | none => false

variable {counts : Event → Bool} {e : Event} {earlier : List Event} {now : Nat}

theorem lastsBy_cons_of_counts (hCounts : counts e = true) :
    lastsBy counts (e :: earlier) now = e.lastsAt now := by
  unfold lastsBy
  rw [List.find?_cons_of_pos hCounts]

theorem lastsBy_cons_of_not_counts (hCounts : counts e = false) :
    lastsBy counts (e :: earlier) now = lastsBy counts earlier now := by
  unfold lastsBy
  rw [List.find?_cons_of_neg (by simp [hCounts])]

theorem lastsBy_of_none (hNone : ∀ x ∈ earlier, counts x = false) :
    lastsBy counts earlier now = false := by
  have hFind : earlier.find? counts = none := by
    rw [List.find?_eq_none]
    intro x hMem
    simp [hNone x hMem]
  unfold lastsBy
  rw [hFind]

theorem lastsBy_congr {others : Event → Bool} {history : List Event}
    (hSame : ∀ e ∈ history, counts e = others e) :
    lastsBy counts history now = lastsBy others history now := by
  induction history with
  | nil => rfl
  | cons e earlier ih =>
    obtain ⟨hFirst, hEarlier⟩ := List.forall_mem_cons.mp hSame
    cases hCounts : counts e with
    | true =>
      rw [lastsBy_cons_of_counts hCounts, lastsBy_cons_of_counts (hFirst.symm.trans hCounts)]
    | false =>
      rw [lastsBy_cons_of_not_counts hCounts,
        lastsBy_cons_of_not_counts (hFirst.symm.trans hCounts)]
      exact ih hEarlier

theorem lastsBy_eq_true_iff {history : List Event} :
    lastsBy counts history now = true ↔
      ∃ e, history.find? counts = some e ∧ e.lastsAt now = true := by
  unfold lastsBy
  cases history.find? counts with
  | none => simp
  | some e => simp

/-! ## What one turn changes -/

namespace View

/-- What is seen of a lock from a time on is told by its history, and no alarm is roused early. -/
structure Seen (v : View) (now : Nat) : Prop where
  due_le : ∀ d ∈ v.roused, d.due ≤ now
  isHolding_eq : ∀ later, now ≤ later →
    v.lock.isHolding later = lastsBy Event.tookEffect v.history later

variable {v v' : View} {x : Event}

theorem seen_fresh (id : Nat) (name : String) (kind : Kind) (created now : Nat) :
    (fresh id name kind created).Seen now :=
  ⟨List.forall_mem_nil _, fun _ _ => rfl⟩

/-- What is seen at a time is not undone by time that passes. -/
theorem Seen.mono (h : v.Seen now) {later : Nat} (hLater : now ≤ later) : v.Seen later where
  due_le d hRoused := Nat.le_trans (h.due_le d hRoused) hLater
  isHolding_eq time hTime := h.isHolding_eq time (Nat.le_trans hLater hTime)

/-- An event without effect leaves a lock that is seen as before. -/
theorem Seen.cons (h : v.Seen now) (hHistory : v'.history = x :: v.history)
    (hRoused : ∀ d ∈ v'.roused, d.due ≤ now) (hNoEffect : x.tookEffect = false)
    (hSame : ∀ later, now ≤ later → v'.lock.isHolding later = v.lock.isHolding later) :
    v'.Seen now := by
  refine ⟨hRoused, ?_⟩
  intro later hLater
  rw [hSame later hLater, hHistory, lastsBy_cons_of_not_counts hNoEffect]
  exact h.isHolding_eq later hLater

/-- An event with effect alone decides how the lock is seen. -/
theorem Seen.effect (h : v.Seen now) (hHistory : v'.history = x :: v.history)
    (hRoused : v'.roused = v.roused) (hEffect : x.tookEffect = true)
    (hDecides : ∀ later, v'.lock.isHolding later = x.lastsAt later) : v'.Seen now := by
  refine ⟨by rw [hRoused]; exact h.due_le, ?_⟩
  intro later _
  rw [hHistory, lastsBy_cons_of_counts hEffect]
  exact hDecides later

end View

namespace Running

theorem isHolding_holding_eq (l : Running) (start timeout now : Nat) (started : Bool) :
    (l.holding start timeout started).isHolding now =
      (timeout == 0 || decide (now < start + timeout * millisecond)) := by
  have hSeen := isHolding_holding l start timeout now started
  rw [Bool.eq_iff_iff, hSeen]
  simp

theorem isHolding_afterFailure (l : Running) (f : Failure) (now : Nat) :
    (l.afterFailure f).isHolding now = l.isHolding now := by
  cases f <;> rfl

/-- A hold whose alarm has been roused has run out. -/
theorem isHolding_of_roused {l : Running} {roused : List (Deadline Nat)} {d : Deadline Nat}
    (hCoherent : l.Coherent roused) (hRoused : d ∈ roused) (hGeneration : l.generation = d.purpose)
    {now : Nat} (hDue : d.due ≤ now) : l.isHolding now = false := by
  obtain ⟨hHeld, hDeadline⟩ := hCoherent.of_roused d hRoused hGeneration.symm
  have hOver : ¬ now < d.due := Nat.not_lt.mpr hDue
  unfold isHolding
  rw [hHeld, hDeadline]
  simp [hOver]

end Running

/-- Every turn keeps what is seen in step with the history. -/
theorem seen_of_turn {h : Host} {v v' : View} {a : Action} (hTurn : Turn h v a v')
    (hCoherent : v.lock.Coherent v.roused) (hSeen : v.Seen h.now) : v'.Seen h.now := by
  -- An alarm that has woken is gone from the roused ones.
  have hWoken : ∀ d : Deadline Nat, ∀ e ∈ v.roused.filter (· ≠ d), e.due ≤ h.now :=
    fun _ e hMem => hSeen.due_le e (List.mem_filter.mp hMem).1
  -- An alarm ends a hold that has run out already.
  have hOver : ∀ d ∈ v.roused, v.lock.generation = d.purpose →
      ∀ later, h.now ≤ later → v.lock.isHolding later = false := by
    intro d hRoused hGeneration later hLater
    have hDue : d.due ≤ later := Nat.le_trans (hSeen.due_le d hRoused) hLater
    exact Running.isHolding_of_roused hCoherent hRoused hGeneration hDue
  cases hTurn with
  | idle _ => exact hSeen
  | holdFailed timeout f _ =>
    have hNoEffect :
        (Event.mk (.hold v.lock.id timeout) (.error f) [] h.now).tookEffect = false := by
      cases f <;> rfl
    exact hSeen.cons rfl hSeen.due_le hNoEffect
      fun later _ => v.lock.isHolding_afterFailure f later
  | held timeout _ _ =>
    exact hSeen.effect rfl rfl rfl fun later =>
      v.lock.isHolding_holding_eq h.now timeout later h.startsThreads
  | stranded timeout _ _ _ =>
    exact hSeen.effect rfl rfl rfl fun later =>
      v.lock.isHolding_holding_eq h.now timeout later false
  | calmed hFree =>
    have hFreeThen : v.lock.calmed.held = false := hFree
    exact hSeen.effect rfl rfl rfl fun later => Running.isHolding_of_free hFreeThen later
  | releaseFailed f _ _ =>
    have hNoEffect : (Event.mk (.release v.lock.id) (.error f) [] h.now).tookEffect = false := by
      cases f <;> rfl
    exact hSeen.cons rfl hSeen.due_le hNoEffect
      fun later _ => v.lock.calmed.isHolding_afterFailure f later
  | released _ _ => exact hSeen.effect rfl rfl rfl fun _ => rfl
  | roused d hDue _ =>
    refine hSeen.cons rfl ?_ rfl fun _ _ => rfl
    intro e hMem
    rcases List.mem_cons.mp hMem with rfl | hBefore
    · exact of_decide_eq_true (Option.filter_eq_some_iff.mp hDue).2
    · exact hSeen.due_le e hBefore
  | stale d _ _ => exact hSeen.cons rfl (hWoken d) rfl fun _ _ => rfl
  | expired d hRoused _ hGeneration _ =>
    refine hSeen.cons rfl (hWoken d) rfl ?_
    intro later hLater
    rw [hOver d hRoused hGeneration later hLater]
    rfl
  | abandoned d e hRoused _ hGeneration _ =>
    refine hSeen.cons rfl (hWoken d) rfl ?_
    intro later hLater
    rw [hOver d hRoused hGeneration later hLater]
    rfl
  | wakeCrashed d _ _ _ _ => exact hSeen.cons rfl (hWoken d) rfl fun _ _ => rfl

/-- In a turn of a lock that can be alarmed, or whose holds are not accepted, no hold is
stranded. -/
theorem unstranded_of_turn {h : Host} {v v' : View} {a : Action} (hTurn : Turn h v a v')
    (hAlarm : v.lock.canBeAlarmed = true ∨
      ∀ timeout, h.answer (v.lock.acquireCall timeout) ≠ .ok ())
    (hBefore : ∀ e ∈ v.history, e.isStranded = false) : ∀ e ∈ v'.history, e.isStranded = false := by
  have hCons : ∀ x : Event, x.isStranded = false → ∀ e ∈ x :: v.history, e.isStranded = false :=
    fun x hx => List.forall_mem_cons.mpr ⟨hx, hBefore⟩
  cases hTurn with
  | idle _ => exact hBefore
  | holdFailed timeout f _ => exact hCons _ (by cases f <;> rfl)
  | stranded timeout hAnswer _ hName =>
    rcases hAlarm with hCan | hNever
    · exact nomatch hName.symm.trans hCan
    · exact absurd hAnswer (hNever timeout)
  | releaseFailed f _ _ => exact hCons _ (by cases f <;> rfl)
  | _ => exact hCons _ rfl

/-! ## What is seen in a scene -/

namespace Scene

/-- In a scene every lock is seen as its history says. -/
structure WellSeen (s : Scene) : Prop where
  numbered : s.WellNumbered
  seen : ∀ id v, s.view? id = some v → v.lock.Coherent v.roused ∧ v.Seen s.host.now

theorem wellSeen_start (origin : Log.Origin) (supported : List Kind) :
    (start origin supported).WellSeen :=
  ⟨wellNumbered_start origin supported, fun _ _ hNone => nomatch hNone⟩

theorem wellSeen_after {s : Scene} (h : s.WellSeen) (a : Action) : (s.after a).WellSeen := by
  refine ⟨wellNumbered_after h.numbered a, ?_⟩
  have hViews := views_after (a := a) (P := fun v => v.lock.Coherent v.roused ∧ v.Seen s.host.now)
    h.numbered (fun id name kind now _ => ⟨Running.coherent_fresh id name kind now, ?_⟩) ?_ h.seen
  · intro id v hView
    obtain ⟨hCoherent, hSeen⟩ := hViews id v hView
    refine ⟨hCoherent, hSeen.mono ?_⟩
    rw [now_after]
    exact Nat.le_add_right _ _
  · exact View.seen_fresh id name kind now s.host.now
  · rintro v v' ⟨hCoherent, hSeen⟩ hTurn
    exact ⟨coherent_of_turn hTurn hCoherent, seen_of_turn hTurn hCoherent hSeen⟩

/-- In every run, whatever fails and whenever alarms wake, a lock is seen as held exactly if the
latest of its holds and releases that took effect was a hold that has not run out. -/
theorem isHolding_eq_lastsBy {s : Scene} (hReachable : s.Reachable) {id : Nat} {l : Running}
    (hLock : s.lock? id = some l) :
    l.isHolding s.host.now = lastsBy Event.tookEffect (s.historyOf id) s.host.now := by
  obtain ⟨origin, supported, actions, rfl⟩ := hReachable
  have hWellSeen := run_induction (wellSeen_start origin supported)
    (fun _ a hBefore => wellSeen_after hBefore a) actions
  obtain ⟨_, hSeen⟩ := hWellSeen.seen id _ (view?_of_lock? hLock)
  exact hSeen.isHolding_eq _ (Nat.le_refl _)

/-- The latest hold or release of a lock that succeeded was a hold that has not run out. -/
def LastsAsGranted (s : Scene) (id : Nat) : Prop :=
  ∃ e timeout, (s.historyOf id).find? Event.isGranted = some e ∧ e.action = .hold id timeout ∧
    (timeout = 0 ∨ s.host.now < e.time + timeout * millisecond)

theorem lastsAsGranted_iff (s : Scene) (id : Nat) :
    s.LastsAsGranted id ↔ lastsBy Event.isGranted (s.historyOf id) s.host.now = true := by
  rw [lastsBy_eq_true_iff]
  constructor
  · rintro ⟨e, timeout, hLatest, hAction, hLasts⟩
    exact ⟨e, hLatest, (e.lastsAt_eq_true_iff _).mpr ⟨id, timeout, hAction, hLasts⟩⟩
  · rintro ⟨e, hLatest, hLasts⟩
    obtain ⟨i, timeout, hAction, hNotOver⟩ := (e.lastsAt_eq_true_iff _).mp hLasts
    have hMem : e ∈ s.historyOf id := List.mem_of_find?_eq_some hLatest
    have hTarget : (e.action.lock? == some id) = true := (List.mem_filter.mp hMem).2
    rw [hAction] at hTarget
    obtain rfl : i = id := Option.some.inj (beq_iff_eq.mp hTarget)
    exact ⟨e, timeout, hLatest, hAction, hNotOver⟩

/-- What runs keep about the locks of a name and a kind whose holds are never stranded. -/
structure Unstranded (supported : List Kind) (name : String) (kind : Kind) (s : Scene) : Prop where
  numbered : s.WellNumbered
  supported_eq : s.host.platform.supported = supported
  unstranded : ∀ id v, s.view? id = some v → v.lock.name = name → v.lock.kind = kind →
    ∀ e ∈ v.history, e.isStranded = false

variable {supported : List Kind} {name : String} {kind : Kind}

theorem unstranded_after (hName : '\x00' ∉ name.toList ∨ kind ∉ supported) {s : Scene}
    (h : Unstranded supported name kind s) (a : Action) :
    Unstranded supported name kind (s.after a) := by
  refine ⟨wellNumbered_after h.numbered a, (s.supported_after a).trans h.supported_eq, ?_⟩
  refine views_after (P := fun v => v.lock.name = name → v.lock.kind = kind →
    ∀ e ∈ v.history, e.isStranded = false) h.numbered ?_ ?_ h.unstranded
  · intro id other kind now _ _ _
    exact List.forall_mem_nil _
  · intro v v' hBefore hTurn
    obtain ⟨hSameName, hSameKind⟩ := named_of_turn hTurn
    rw [hSameName, hSameKind]
    intro hIsName hIsKind
    refine unstranded_of_turn hTurn ?_ (hBefore hIsName hIsKind)
    rcases hName with hNoNul | hNotSupported
    · rw [← hIsName] at hNoNul
      exact Or.inl (v.lock.canBeAlarmed_iff.mpr hNoNul)
    · rw [← h.supported_eq, ← hIsKind] at hNotSupported
      exact Or.inr fun timeout => Platform.answer_acquireLock_ne_ok hNotSupported _ _ timeout

/-- A lock whose holds are never stranded is seen as the calls say that succeeded. -/
theorem isHolding_iff_lastsAsGranted (hName : '\x00' ∉ name.toList ∨ kind ∉ supported)
    {origin : Log.Origin} {actions : List Action} {id : Nat} {l : Running}
    (hLock : ((start origin supported).run actions).lock? id = some l) (hIsName : l.name = name)
    (hIsKind : l.kind = kind) :
    l.isHolding ((start origin supported).run actions).host.now = true ↔
      ((start origin supported).run actions).LastsAsGranted id := by
  have hStart : Unstranded supported name kind (start origin supported) :=
    ⟨wellNumbered_start origin supported, rfl, fun _ _ hNone => nomatch hNone⟩
  have hRun := run_induction hStart (fun _ a hBefore => unstranded_after hName hBefore a) actions
  have hNone := hRun.unstranded id _ (view?_of_lock? hLock) hIsName hIsKind
  have hSame : ∀ e ∈ ((start origin supported).run actions).historyOf id,
      e.tookEffect = e.isGranted := by
    intro e hMem
    unfold Event.tookEffect
    rw [hNone e hMem, Bool.or_false]
  have hReachable := reachable_run origin supported actions
  rw [lastsAsGranted_iff, isHolding_eq_lastsBy hReachable hLock, lastsBy_congr hSame]

/-- A hold with a timeout does not succeed on a lock whose alarm cannot bear its name. -/
theorem ungranted_after_hold {s : Scene} {id timeout : Nat} {l : Running}
    (hLock : s.lock? id = some l) (hTimeout : timeout ≠ 0) (hName : l.canBeAlarmed = false)
    (hBefore : ∀ e ∈ s.historyOf id, e.isGranted = false) :
    ∀ e ∈ (s.after (.hold id timeout)).historyOf id, e.isGranted = false := by
  obtain ⟨v', hView, hTurn⟩ := turn_hold hLock timeout
  obtain rfl : l.id = id := id_of_lock? hLock
  obtain ⟨l', _, rfl⟩ := Option.map_eq_some_iff.mp hView
  generalize hHistory : (s.after (.hold l.id timeout)).viewOf l.id l' = v' at hTurn
  have hSame : (s.after (.hold l.id timeout)).historyOf l.id = v'.history := by rw [← hHistory]; rfl
  rw [hSame]
  cases hTurn with
  | idle hIdle => simp [Action.isCallOn, viewOf] at hIdle
  | holdFailed _ f _ => exact List.forall_mem_cons.mpr ⟨rfl, hBefore⟩
  | held _ _ hAlarm =>
    rcases hAlarm with hZero | hCan
    · exact absurd hZero hTimeout
    · exact nomatch hName.symm.trans hCan
  | stranded _ _ _ _ => exact List.forall_mem_cons.mpr ⟨rfl, hBefore⟩

/-- A lock whose alarm cannot bear its name is seen as held although none of its holds succeeded, as
soon as the platform has accepted a hold. -/
theorem seen_of_nul (origin : Log.Origin) (hNul : '\x00' ∈ name.toList) (hKind : kind ∈ supported) :
    ∃ l, ((start origin supported).run (heldOnce name kind)).lock? 1 = some l ∧ l.name = name ∧
      l.kind = kind ∧
      l.isHolding ((start origin supported).run (heldOnce name kind)).host.now = true ∧
      ¬ ((start origin supported).run (heldOnce name kind)).LastsAsGranted 1 := by
  obtain ⟨l, hLock, hIsName, hIsKind, hHeld, hDeadline, _⟩ := stranded_of_nul origin hNul hKind
  have hRun : (start origin supported).run (heldOnce name kind) =
      ((start origin supported).after (.create name kind)).after (.hold 1 1) := rfl
  have hNow : ((start origin supported).run (heldOnce name kind)).host.now = 0 := by
    rw [hRun, now_after, now_after]
    rfl
  refine ⟨l, hLock, hIsName, hIsKind, ?_, ?_⟩
  · rw [hNow]
    unfold Running.isHolding
    rw [hHeld, hDeadline]
    rfl
  · obtain ⟨_, _, _, _, hFind⟩ :=
      Registry.find?_create_ok (start origin supported).registry kind
        (start origin supported).host (isEmpty_eq_false_of_nul hNul)
    have hMade : ((start origin supported).after (.create name kind)).lock? 1 =
        some { id := 1, name, kind } := hFind 1
    have hCannot : Running.canBeAlarmed { id := 1, name, kind } = false := by
      rw [← Bool.not_eq_true, Running.canBeAlarmed_iff]
      exact not_not_intro hNul
    have hNone := ungranted_after_hold hMade Nat.one_ne_zero hCannot (List.forall_mem_nil _)
    rw [lastsAsGranted_iff, hRun, lastsBy_of_none hNone]
    exact Bool.false_ne_true

/-- In every run, with any calls refused or crashing at any time and alarms as late as they may be,
a lock is seen as held exactly if the latest of its holds and releases that took effect was a hold
that has not run out. The locks for which that is always one that succeeded are exactly those with a
name without NUL, or of a kind that the platform does not support. -/
theorem seen_as_granted_iff (origin : Log.Origin) (supported : List Kind) (name : String)
    (kind : Kind) :
    (∀ actions id l, ((start origin supported).run actions).lock? id = some l →
      l.isHolding ((start origin supported).run actions).host.now =
        lastsBy Event.tookEffect (((start origin supported).run actions).historyOf id)
          ((start origin supported).run actions).host.now) ∧
    ((∀ actions id l, ((start origin supported).run actions).lock? id = some l →
      l.name = name → l.kind = kind →
      (l.isHolding ((start origin supported).run actions).host.now = true ↔
        ((start origin supported).run actions).LastsAsGranted id)) ↔
      '\x00' ∉ name.toList ∨ kind ∉ supported) := by
  refine ⟨fun actions id l hLock =>
    isHolding_eq_lastsBy (reachable_run origin supported actions) hLock, ?_, ?_⟩
  · intro hAlways
    apply Decidable.byContradiction
    intro hNot
    obtain ⟨hNul, hKind⟩ := not_or.mp hNot
    obtain ⟨l, hLock, hIsName, hIsKind, hHolding, hNotGranted⟩ :=
      seen_of_nul origin (Decidable.not_not.mp hNul) (Decidable.not_not.mp hKind)
    have hSame := hAlways (heldOnce name kind) 1 l hLock hIsName hIsKind
    exact hNotGranted (hSame.mp hHolding)
  · intro hName actions id l hLock hIsName hIsKind
    exact isHolding_iff_lastsAsGranted hName hLock hIsName hIsKind

/-- A lock may be seen as held although no hold of it has succeeded. -/
theorem ungranted_may_be_seen :
    ¬ ∀ (s : Scene) (id : Nat) (l : Running), s.Reachable → s.lock? id = some l →
      (l.isHolding s.host.now = true ↔ s.LastsAsGranted id) := by
  intro hAlways
  have hNul : '\x00' ∈ "a\x00b".toList := by decide
  obtain ⟨l, hLock, _, _, hHolding, hNotGranted⟩ :=
    seen_of_nul ⟨"", ""⟩ hNul (List.mem_singleton_self Kind.background)
  have hReachable := reachable_run ⟨"", ""⟩ [.background] (heldOnce "a\x00b" .background)
  exact hNotGranted ((hAlways _ 1 l hReachable hLock).mp hHolding)

end Scene

end DevicePower.Lock
