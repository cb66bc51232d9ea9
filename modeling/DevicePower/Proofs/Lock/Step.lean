import DevicePower.Proofs.Lock.Lookup
import DevicePower.Proofs.Lock.Scene

/-!
# What one action leaves

An action that can happen leaves a scene and an event. `Done` says for each action what it leaves,
in terms of the operations of the registry and of the locks. From there it is told what the platform
was asked for, what the other locks see of the action, and that nothing is known of a lock before it
is made.

## Main results

* `done_of_act?`: the cases of an action.
* `platform_of_done`: an action makes at most one call, and a release only for a lock that is held.
* `answer_after`: only a change of an operation changes how its calls end.
* `now_after`: only time that passes moves the clock.
* `apart_of_done`: an action on one lock is not seen by another.
* `wellNumbered_run`: nothing is known of a lock that has not been made.
-/

namespace DevicePower.Lock.Scene

theorem id_of_lock? {s : Scene} {id : Nat} {l : Running} (h : s.lock? id = some l) : l.id = id :=
  Registry.id_of_find? h

/-! ## From the action to the scene after it -/

theorem after_of_act?_eq_none {s : Scene} {a : Action} (h : s.act? a = none) : s.after a = s := by
  unfold after
  rw [h]

theorem after_of_act? {s s' : Scene} {a : Action} {o : Outcome Unit}
    (h : s.act? a = some (o, s')) :
    s.after a = { s' with history :=
      ⟨a, o, s'.host.platform.calls.drop s.host.platform.calls.length, s.host.now⟩ ::
        s.history } := by
  unfold after
  rw [h]

/-- An action cannot happen, or it leaves what it leaves and an event. -/
theorem after_cases (s : Scene) (a : Action) :
    (s.act? a = none ∧ s.after a = s) ∨
    ∃ o s', s.act? a = some (o, s') ∧ s.after a = { s' with history :=
      ⟨a, o, s'.host.platform.calls.drop s.host.platform.calls.length, s.host.now⟩ ::
        s.history } := by
  cases hAct : s.act? a with
  | none => exact Or.inl ⟨rfl, after_of_act?_eq_none hAct⟩
  | some result => exact Or.inr ⟨result.1, result.2, rfl, after_of_act? hAct⟩

/-- An action that works on another lock adds nothing to the history of this one. -/
theorem historyOf_after_ne (s : Scene) {a : Action} {id : Nat} (hLock : a.lock? ≠ some id) :
    (s.after a).historyOf id = s.historyOf id := by
  rcases s.after_cases a with ⟨_, hSame⟩ | ⟨o, s', _, hAfter⟩
  · rw [hSame]
  · rw [hAfter]
    unfold historyOf
    rw [List.filter_cons_of_neg (by simpa using hLock)]

/-! ## The actions one by one -/

/-- What is left of an action that can happen, and how it ends. -/
inductive Done (s : Scene) : Action → Outcome Unit → Scene → Prop where
  | create (name : String) (kind : Kind) (o : Outcome Unit) :
      Done s (.create name kind) o
        { s with
          registry := (s.registry.create name kind s.host).2.1
          host := (s.registry.create name kind s.host).2.2 }
  | clone (id : Nat) : Done s (.clone id) (.ok ()) { s with registry := s.registry.clone id }
  | drop (id : Nat) :
      Done s (.drop id) (s.registry.drop id s.host).1
        { s with
          registry := (s.registry.drop id s.host).2.1
          host := (s.registry.drop id s.host).2.2 }
  | hold {id : Nat} {l : Running} (timeout : Nat) : s.lock? id = some l →
      Done s (.hold id timeout) (l.hold timeout s.host).1
        { s with
          registry := s.registry.put (l.hold timeout s.host).2.1
          host := (l.hold timeout s.host).2.2 }
  | release {id : Nat} {l : Running} : s.lock? id = some l →
      Done s (.release id) (l.release s.host).1
        { s with
          registry := s.registry.put (l.release s.host).2.1
          host := (l.release s.host).2.2 }
  | rouse {id : Nat} {l : Running} {d : Deadline Nat} : s.lock? id = some l →
      l.alarm.due? s.host.now = some d → d ∉ s.roused id →
      Done s (.rouse id) (.ok ()) { s with roused := setAt s.roused id (d :: s.roused id) }
  | wake {id : Nat} {l : Running} {d : Deadline Nat} : d ∈ s.roused id → s.lock? id = some l →
      Done s (.wake id d) (l.alarmOutcome d.purpose s.host)
        { s with
          registry := s.registry.put (l.wake d.purpose s.host).1
          host := (l.wake d.purpose s.host).2
          roused := setAt s.roused id ((s.roused id).filter (· ≠ d)) }
  /-- An alarm wakes and finds its lock gone. -/
  | wakeAlone {id : Nat} {d : Deadline Nat} : d ∈ s.roused id → s.lock? id = none →
      Done s (.wake id d) (.ok ())
        { s with roused := setAt s.roused id ((s.roused id).filter (· ≠ d)) }
  | pass (nanoseconds : Nat) :
      Done s (.pass nanoseconds) (.ok ())
        { s with host := { s.host with now := s.host.now + nanoseconds } }
  | change (c : Change) :
      Done s (.change c) (.ok ())
        { s with host := { s.host with platform := c.apply s.host.platform } }
  | threads (refusal : Option String) :
      Done s (.threads refusal) (.ok ())
        { s with host := { s.host with threadRefusal := refusal } }
  | other {call : Call} : call.lock? = none →
      Done s (.other call) (s.host.answer call) { s with host := s.host.attempt call }

theorem onLock?_eq_none {s : Scene} {id : Nat}
    (op : Running → Host → Outcome Unit × Running × Host) (h : s.lock? id = none) :
    s.onLock? id op = none := by
  unfold onLock?
  rw [Registry.onLock?_of_find?_eq_none s.host op h]
  rfl

theorem onLock?_of_lock? {s : Scene} {id : Nat} {l : Running}
    (op : Running → Host → Outcome Unit × Running × Host) (h : s.lock? id = some l) :
    s.onLock? id op = some ((op l s.host).1,
      { s with registry := s.registry.put (op l s.host).2.1, host := (op l s.host).2.2 }) := by
  unfold onLock?
  rw [Registry.onLock?_of_find? s.host op h]
  rfl

/-- An alarm waits to be roused when its deadline has come, and only once. -/
theorem waiting?_eq_some_iff {s : Scene} {id : Nat} {d : Deadline Nat} :
    s.waiting? id = some d ↔
      (∃ l, s.lock? id = some l ∧ l.alarm.due? s.host.now = some d) ∧ d ∉ s.roused id := by
  unfold waiting?
  rw [Option.bind_eq_some_iff]
  constructor
  · rintro ⟨l, hLock, hWaiting⟩
    obtain ⟨hDue, hNew⟩ := Option.filter_eq_some_iff.mp hWaiting
    exact ⟨⟨l, hLock, hDue⟩, of_decide_eq_true hNew⟩
  · rintro ⟨⟨l, hLock, hDue⟩, hNew⟩
    exact ⟨l, hLock, Option.filter_eq_some_iff.mpr ⟨hDue, decide_eq_true hNew⟩⟩

theorem done_wake {s : Scene} {id : Nat} {d : Deadline Nat} {l : Running}
    (hRoused : d ∈ s.roused id) (hLock : s.lock? id = some l) :
    s.act? (.wake id d) = some (l.alarmOutcome d.purpose s.host,
      { s with
        registry := s.registry.put (l.wake d.purpose s.host).1
        host := (l.wake d.purpose s.host).2
        roused := setAt s.roused id ((s.roused id).filter (· ≠ d)) }) := by
  unfold act?
  dsimp only
  rw [if_pos hRoused, hLock, Registry.wake_of_find? d.purpose s.host hLock]

theorem done_of_act? {s s' : Scene} {a : Action} {o : Outcome Unit}
    (hAct : s.act? a = some (o, s')) : Done s a o s' := by
  cases a with
  | create name kind => cases hAct; exact .create name kind _
  | clone id => cases hAct; exact .clone id
  | drop id => cases hAct; exact .drop id
  | hold id timeout =>
    have hOn : s.onLock? id (fun l h => l.hold timeout h) = some (o, s') := hAct
    cases hLock : s.lock? id with
    | none => rw [onLock?_eq_none _ hLock] at hOn; cases hOn
    | some l => rw [onLock?_of_lock? _ hLock] at hOn; cases hOn; exact .hold timeout hLock
  | release id =>
    have hOn : s.onLock? id (fun l h => l.release h) = some (o, s') := hAct
    cases hLock : s.lock? id with
    | none => rw [onLock?_eq_none _ hLock] at hOn; cases hOn
    | some l => rw [onLock?_of_lock? _ hLock] at hOn; cases hOn; exact .release hLock
  | rouse id =>
    obtain ⟨d, hWaiting, hEq⟩ := Option.map_eq_some_iff.mp hAct
    obtain ⟨⟨l, hLock, hDue⟩, hNew⟩ := waiting?_eq_some_iff.mp hWaiting
    cases hEq
    exact .rouse hLock hDue hNew
  | wake id d =>
    by_cases hRoused : d ∈ s.roused id
    · cases hLock : s.lock? id with
      | some l => rw [done_wake hRoused hLock] at hAct; cases hAct; exact .wake hRoused hLock
      | none =>
        unfold act? at hAct
        dsimp only at hAct
        rw [if_pos hRoused, hLock, Registry.wake_of_find?_eq_none d.purpose s.host hLock] at hAct
        cases hAct
        exact .wakeAlone hRoused hLock
    · rw [show s.act? (.wake id d) = none from if_neg hRoused] at hAct
      cases hAct
  | pass nanoseconds => cases hAct; exact .pass nanoseconds
  | change c => cases hAct; exact .change c
  | threads refusal => cases hAct; exact .threads refusal
  | other call =>
    by_cases hCall : call.lock? = none
    · rw [show s.act? (.other call) = _ from if_pos hCall] at hAct
      cases hAct
      exact .other hCall
    · rw [show s.act? (.other call) = none from if_neg hCall] at hAct
      cases hAct

/-! ## What the other locks see of an action -/

/-- What an action keeps of a lock that it neither works on nor takes a handle from. -/
structure Apart (s s' : Scene) (id : Nat) : Prop where
  roused_eq : s'.roused id = s.roused id
  callsAbout_eq : s'.host.platform.callsAbout id = s.host.platform.callsAbout id
  /-- The lock is as it was, or it has just been made. -/
  lock?_eq : s'.lock? id = s.lock? id ∨
    (s.registry.nextId = id ∧ s'.registry.nextId = id + 1 ∧ ∃ name kind, name ≠ "" ∧
      s'.lock? id = (s.lock? id).or (some { id, name, kind, created := s.host.now }))

/-- Working on one lock keeps what is known of another. -/
theorem apart_of_put {s s' : Scene} {id other : Nat} {l l' : Running}
    (hLock : s.lock? id = some l) (hWithin : l.StaysWithin s.host l' s'.host)
    (hRegistry : s'.registry = s.registry.put l') (hRoused : s'.roused other = s.roused other)
    (hOther : other ≠ id) : Apart s s' other := by
  have hId : l.id = id := id_of_lock? hLock
  have hOtherId : other ≠ l.id := fun hEq => hOther (hEq.trans hId)
  refine ⟨hRoused, hWithin.asked.callsAbout_eq hOtherId, Or.inl ?_⟩
  unfold lock?
  rw [hRegistry]
  apply Registry.find?_put_ne
  rw [hWithin.id_eq]
  exact hOtherId

theorem apart_create (s : Scene) (name : String) (kind : Kind) (id : Nat) :
    Apart s { s with
      registry := (s.registry.create name kind s.host).2.1
      host := (s.registry.create name kind s.host).2.2 } id := by
  cases hName : name.isEmpty with
  | true =>
    rw [Registry.create_of_isEmpty s.registry kind s.host hName]
    exact ⟨rfl, rfl, Or.inl rfl⟩
  | false =>
    obtain ⟨_, hNext, hPlatform, _, hFind⟩ :=
      Registry.find?_create_ok s.registry kind s.host hName
    refine ⟨rfl, congrArg (·.callsAbout id) hPlatform, ?_⟩
    have hFound := hFind id
    by_cases hId : s.registry.nextId = id
    · rw [if_pos hId, hId] at hFound
      have hNamed : name ≠ "" := fun hEq =>
        Bool.false_ne_true (hName.symm.trans (String.isEmpty_iff.mpr hEq))
      exact Or.inr ⟨hId, hNext.trans (by rw [hId]), name, kind, hNamed, hFound⟩
    · rw [if_neg hId, Option.or_none] at hFound
      exact Or.inl hFound

theorem apart_drop (s : Scene) {i id : Nat} (hOther : id ≠ i) :
    Apart s { s with
      registry := (s.registry.drop i s.host).2.1
      host := (s.registry.drop i s.host).2.2 } id := by
  rcases s.registry.drop_cases i s.host with ⟨_, hEq⟩ | ⟨r', hEq, _, _, hFind⟩ |
    ⟨l, r', hThere, hEq, _, _, hFind⟩
  · rw [hEq]
    exact ⟨rfl, rfl, Or.inl rfl⟩
  · rw [hEq]
    exact ⟨rfl, rfl, Or.inl (hFind id)⟩
  · have hOtherId : id ≠ l.id := fun hEq => hOther (hEq.trans (Registry.id_of_find? hThere))
    rw [hEq]
    exact ⟨rfl, (l.asked_dropped s.host).callsAbout_eq hOtherId, Or.inl (hFind id hOther)⟩

theorem apart_of_done {s s' : Scene} {a : Action} {o : Outcome Unit} {id : Nat}
    (hDone : Done s a o s') (hTarget : a.lock? ≠ some id) (hDrop : a ≠ .drop id) :
    Apart s s' id := by
  cases hDone with
  | create name kind o => exact apart_create s name kind id
  | clone i => exact ⟨rfl, rfl, Or.inl (Registry.find?_clone s.registry i id)⟩
  | drop i => exact apart_drop s fun hEq => hDrop (by rw [hEq])
  | @hold i l timeout hLock =>
    exact apart_of_put hLock (l.hold_staysWithin timeout s.host) rfl rfl
      fun hEq => hTarget (by rw [hEq]; rfl)
  | @release i l hLock =>
    exact apart_of_put hLock (l.release_staysWithin s.host) rfl rfl
      fun hEq => hTarget (by rw [hEq]; rfl)
  | @rouse i l d hLock hDue hNew =>
    have hOther : id ≠ i := fun hEq => hTarget (by rw [hEq]; rfl)
    exact ⟨setAt_ne _ _ hOther, rfl, Or.inl rfl⟩
  | @wake i l d hRoused hLock =>
    have hOther : id ≠ i := fun hEq => hTarget (by rw [hEq]; rfl)
    exact apart_of_put hLock (l.wake_staysWithin d.purpose s.host) rfl (setAt_ne _ _ hOther) hOther
  | @wakeAlone i d hRoused hLock =>
    have hOther : id ≠ i := fun hEq => hTarget (by rw [hEq]; rfl)
    exact ⟨setAt_ne _ _ hOther, rfl, Or.inl rfl⟩
  | pass nanoseconds => exact ⟨rfl, rfl, Or.inl rfl⟩
  | change c =>
    refine ⟨rfl, ?_, Or.inl rfl⟩
    unfold Platform.callsAbout
    dsimp only
    rw [Change.calls_apply]
  | threads refusal => exact ⟨rfl, rfl, Or.inl rfl⟩
  | other hCall =>
    refine ⟨rfl, ?_, Or.inl rfl⟩
    apply Platform.callsAbout_attempt_ne
    rw [hCall]
    exact nofun

/-! ## What the platform sees of an action -/

/-- An action leaves the platform alone, or asks it for something about one lock, or changes what it
accepts, or asks it for something about no lock. -/
theorem platform_of_done {s s' : Scene} {a : Action} {o : Outcome Unit} (hDone : Done s a o s') :
    s'.host.platform = s.host.platform ∨
    (∃ id l, s.lock? id = some l ∧ l.Asked s.host.platform s'.host.platform) ∨
    (∃ c, a = .change c ∧ s'.host.platform = c.apply s.host.platform) ∨
    (∃ call, a = .other call ∧ call.lock? = none ∧
      s'.host.platform = s.host.platform.attempt call) := by
  cases hDone with
  | create name kind o => exact Or.inl (s.registry.platform_create name kind s.host)
  | drop id =>
    dsimp only
    rcases s.registry.drop_cases id s.host with ⟨_, hEq⟩ | ⟨r', hEq, _⟩ | ⟨l, r', hThere, hEq, _⟩
    · rw [hEq]
      exact Or.inl rfl
    · rw [hEq]
      exact Or.inl rfl
    · rw [hEq]
      exact Or.inr (Or.inl ⟨id, l, hThere, l.asked_dropped s.host⟩)
  | @hold id l timeout hLock =>
    exact Or.inr (Or.inl ⟨id, l, hLock, (l.hold_staysWithin timeout s.host).asked⟩)
  | @release id l hLock =>
    exact Or.inr (Or.inl ⟨id, l, hLock, (l.release_staysWithin s.host).asked⟩)
  | @wake id l d _ hLock =>
    exact Or.inr (Or.inl ⟨id, l, hLock, (l.wake_staysWithin d.purpose s.host).asked⟩)
  | change c => exact Or.inr (Or.inr (Or.inl ⟨c, rfl, rfl⟩))
  | other hCall => exact Or.inr (Or.inr (Or.inr ⟨_, rfl, hCall, rfl⟩))
  | _ => exact Or.inl rfl

/-- Only a change of an operation changes how its calls end. -/
theorem answer_after (s : Scene) {a : Action} {call : Call}
    (hChange : ∀ c, a = .change c → call.operation ≠ c.operation) :
    (s.after a).host.answer call = s.host.answer call := by
  rcases s.after_cases a with ⟨_, hSame⟩ | ⟨o, s', hAct, hAfter⟩
  · rw [hSame]
  · rw [hAfter]
    dsimp only [Host.answer]
    rcases platform_of_done (done_of_act? hAct) with hSame | ⟨id, l, _, hAsked⟩ |
      ⟨c, hIs, hChanged⟩ | ⟨other, _, _, hCalled⟩
    · rw [hSame]
    · exact hAsked.answer_eq call
    · rw [hChanged, Change.answer_apply (hChange c hIs)]
    · rw [hCalled, Platform.answer_attempt]

/-- What kinds of locks the platform supports never changes. -/
theorem supported_after (s : Scene) (a : Action) :
    (s.after a).host.platform.supported = s.host.platform.supported := by
  rcases s.after_cases a with ⟨_, hSame⟩ | ⟨o, s', hAct, hAfter⟩
  · rw [hSame]
  · rw [hAfter]
    dsimp only
    rcases platform_of_done (done_of_act? hAct) with hSame | ⟨id, l, _, hAsked⟩ |
      ⟨c, _, hChanged⟩ | ⟨other, _, _, hCalled⟩
    · rw [hSame]
    · exact hAsked.supported_eq
    · rw [hChanged, Change.supported_apply]
    · rw [hCalled, Platform.supported_attempt]

/-! ## The clock and the threads -/

/-- Only time that passes and a change of the threads touch the clock or the threads. -/
theorem beside_of_done {s s' : Scene} {a : Action} {o : Outcome Unit} (hDone : Done s a o s')
    (hPass : ∀ nanoseconds, a ≠ .pass nanoseconds) (hThreads : ∀ refusal, a ≠ .threads refusal) :
    s.host.Beside s'.host := by
  cases hDone with
  | create name kind o => exact s.registry.beside_create name kind s.host
  | drop id =>
    dsimp only
    rcases s.registry.drop_cases id s.host with ⟨_, hEq⟩ | ⟨r', hEq, _⟩ | ⟨l, r', _, hEq, _⟩
    · rw [hEq]
      exact .refl s.host
    · rw [hEq]
      exact .refl s.host
    · rw [hEq]
      exact l.beside_dropped s.host
  | @hold _ l timeout _ => exact (l.hold_staysWithin timeout s.host).beside
  | @release _ l _ => exact (l.release_staysWithin s.host).beside
  | @wake _ l d _ _ => exact (l.wake_staysWithin d.purpose s.host).beside
  | pass nanoseconds => exact absurd rfl (hPass nanoseconds)
  | threads refusal => exact absurd rfl (hThreads refusal)
  | _ => exact ⟨rfl, rfl⟩

/-- Only time that passes moves the clock. -/
theorem now_after (s : Scene) (a : Action) :
    (s.after a).host.now = s.host.now + a.duration := by
  rcases s.after_cases a with ⟨hNone, hSame⟩ | ⟨o, s', hAct, hAfter⟩
  · rw [hSame]
    cases a with
    | pass nanoseconds => cases hNone
    | _ => rfl
  · rw [hAfter]
    dsimp only
    have hDone : Done s a o s' := done_of_act? hAct
    cases a with
    | pass nanoseconds => cases hDone; rfl
    | threads refusal => cases hDone; rfl
    | _ => exact (beside_of_done hDone nofun nofun).now_eq

/-- Only a change of the threads changes whether they start. -/
theorem startsThreads_after (s : Scene) {a : Action} (hThreads : ∀ refusal, a ≠ .threads refusal) :
    (s.after a).host.startsThreads = s.host.startsThreads := by
  rcases s.after_cases a with ⟨_, hSame⟩ | ⟨o, s', hAct, hAfter⟩
  · rw [hSame]
  · rw [hAfter]
    dsimp only [Host.startsThreads]
    have hDone : Done s a o s' := done_of_act? hAct
    cases a with
    | pass nanoseconds => cases hDone; rfl
    | threads refusal => exact absurd rfl (hThreads refusal)
    | _ => rw [(beside_of_done hDone nofun nofun).threadRefusal_eq]

/-! ## Locks that have not been made -/

/-- Nothing is known of a lock. -/
structure Unmade (s : Scene) (id : Nat) : Prop where
  lock?_eq : s.lock? id = none
  roused_eq : s.roused id = []
  callsAbout_eq : s.host.platform.callsAbout id = []
  historyOf_eq : s.historyOf id = []

/-- Nothing is known of the locks whose numbers have not been given yet. -/
def WellNumbered (s : Scene) : Prop := ∀ id, s.registry.nextId ≤ id → s.Unmade id

theorem wellNumbered_start (origin : Log.Origin) (supported : List Kind) :
    (start origin supported).WellNumbered :=
  fun _ _ => ⟨rfl, rfl, rfl, rfl⟩

/-- No action works on a lock that has not been made. -/
theorem Unmade.lock?_ne {s s' : Scene} {id : Nat} (h : s.Unmade id) {a : Action}
    {o : Outcome Unit} (hDone : Done s a o s') : a.lock? ≠ some id := by
  intro hTarget
  cases hDone with
  | hold timeout hLock => cases hTarget; exact nomatch hLock.symm.trans h.lock?_eq
  | release hLock => cases hTarget; exact nomatch hLock.symm.trans h.lock?_eq
  | rouse hLock hDue hNew => cases hTarget; exact nomatch hLock.symm.trans h.lock?_eq
  | wake hRoused hLock => cases hTarget; exact nomatch hLock.symm.trans h.lock?_eq
  | wakeAlone hRoused hLock =>
    cases hTarget
    rw [h.roused_eq] at hRoused
    exact List.not_mem_nil hRoused
  | _ => cases hTarget

/-- Numbers are never given back. -/
theorem nextId_le_of_done {s s' : Scene} {a : Action} {o : Outcome Unit}
    (hDone : Done s a o s') : s.registry.nextId ≤ s'.registry.nextId := by
  cases hDone with
  | create name kind o =>
    dsimp only
    cases hName : name.isEmpty with
    | true =>
      have hSame := Registry.create_of_isEmpty s.registry kind s.host hName
      exact Nat.le_of_eq (congrArg (·.2.1.nextId) hSame).symm
    | false =>
      rw [(Registry.find?_create_ok s.registry kind s.host hName).2.1]
      exact Nat.le_succ _
  | drop i =>
    dsimp only
    rcases s.registry.drop_cases i s.host with ⟨_, hEq⟩ | ⟨r', hEq, hSame, _⟩ |
      ⟨l, r', _, hEq, hSame, _⟩
    · exact Nat.le_of_eq (congrArg (·.2.1.nextId) hEq).symm
    · rw [hEq]
      exact Nat.le_of_eq hSame.symm
    · rw [hEq]
      exact Nat.le_of_eq hSame.symm
  | _ => exact Nat.le_refl _

/-- Dropping a handle of a lock that is not there changes nothing. -/
theorem unmade_of_done {s s' : Scene} {a : Action} {o : Outcome Unit} {id : Nat}
    (hDone : Done s a o s') (h : s.Unmade id) (hNumber : s'.registry.nextId ≤ id) :
    s'.lock? id = none ∧ s'.roused id = [] ∧ s'.host.platform.callsAbout id = [] := by
  by_cases hDrop : a = .drop id
  · subst hDrop
    cases hDone
    rcases s.registry.drop_cases id s.host with ⟨_, hEq⟩ | ⟨r', _, _, ⟨l, hThere⟩, _⟩ |
      ⟨l, r', hThere, _⟩
    · rw [hEq]
      exact ⟨h.lock?_eq, h.roused_eq, h.callsAbout_eq⟩
    · exact nomatch hThere.symm.trans h.lock?_eq
    · exact nomatch hThere.symm.trans h.lock?_eq
  · have hApart := apart_of_done hDone (h.lock?_ne hDone) hDrop
    refine ⟨?_, hApart.roused_eq.trans h.roused_eq, hApart.callsAbout_eq.trans h.callsAbout_eq⟩
    rcases hApart.lock?_eq with hSame | ⟨_, hNext, _⟩
    · exact hSame.trans h.lock?_eq
    · omega

theorem wellNumbered_after {s : Scene} (hNumbered : s.WellNumbered) (a : Action) :
    (s.after a).WellNumbered := by
  rcases s.after_cases a with ⟨_, hSame⟩ | ⟨o, s', hAct, hAfter⟩
  · rw [hSame]
    exact hNumbered
  · have hDone : Done s a o s' := done_of_act? hAct
    intro id hNumber
    have hNumber' : s'.registry.nextId ≤ id := by
      rw [hAfter] at hNumber
      exact hNumber
    have hUnmade := hNumbered id (Nat.le_trans (nextId_le_of_done hDone) hNumber')
    obtain ⟨hLock, hRoused, hCalls⟩ := unmade_of_done hDone hUnmade hNumber'
    have hHistory := s.historyOf_after_ne (hUnmade.lock?_ne hDone)
    refine ⟨?_, ?_, ?_, hHistory.trans hUnmade.historyOf_eq⟩
    · rw [hAfter]; exact hLock
    · rw [hAfter]; exact hRoused
    · rw [hAfter]; exact hCalls

theorem wellNumbered_run {s : Scene} (hNumbered : s.WellNumbered) (actions : List Action) :
    (s.run actions).WellNumbered :=
  run_keeps WellNumbered (fun _ => True) (fun _ a _ h => wellNumbered_after h a) actions s
    (fun _ _ => trivial) hNumbered

end DevicePower.Lock.Scene
