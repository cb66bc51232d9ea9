import DevicePower.Proofs.Lock.Step

/-!
# What one action does to one lock

An invariant of single locks need not go through every action and through the registry again. The
view of a lock is what the scene knows of it: the lock, its roused alarms, the accepted calls about
it and its part of the history. A `Turn` is all that one action can do to one view, with the
platform's answer that leads there.

## Main results

* `turn_of_view?`: an action gives a lock one turn, unless it drops a handle of it.
* `turn_of_after`: a lock that is there after an action has taken one turn, or has been made.
* `views_run`: a property of views that every turn keeps holds of every lock in every run.
-/

namespace DevicePower.Lock

/-- What is known of one lock. -/
structure View where
  lock : Running
  roused : List (Deadline Nat)
  /-- The accepted calls about the lock, oldest first. -/
  calls : List Call
  /-- What was done with the lock, the latest first. -/
  history : List Event

namespace View

/-- The view of a lock that has just been made. -/
def fresh (id : Nat) (name : String) (kind : Kind) (now : Nat) : View :=
  ⟨{ id, name, kind, created := now }, [], [], []⟩

/-- The view with an event added for which the platform accepted nothing. -/
def quiet (v : View) (a : Action) (outcome : Outcome Unit) (now : Nat) : View :=
  { v with history := ⟨a, outcome, [], now⟩ :: v.history }

/-- The view with an event added for which the platform accepted a call. -/
def asked (v : View) (a : Action) (outcome : Outcome Unit) (now : Nat) (c : Call) : View :=
  { v with calls := v.calls ++ [c], history := ⟨a, outcome, [c], now⟩ :: v.history }

end View

/-- What an action does to a lock, on a host. -/
inductive Turn (h : Host) (v : View) : Action → View → Prop where
  /-- The action is about something else, or cannot happen now. -/
  | idle {a : Action} : a.isCallOn v.lock.id = false → Turn h v a v
  /-- A hold is not accepted. -/
  | holdFailed (timeout : Nat) (f : Failure) :
      h.answer (v.lock.acquireCall timeout) = .error f →
      Turn h v (.hold v.lock.id timeout)
        ({ v with lock := v.lock.afterFailure f }.quiet (.hold v.lock.id timeout) (.error f) h.now)
  /-- A hold is accepted. Its alarm is set if the system starts threads. -/
  | held (timeout : Nat) :
      h.answer (v.lock.acquireCall timeout) = .ok () →
      timeout = 0 ∨ v.lock.canBeAlarmed = true →
      Turn h v (.hold v.lock.id timeout)
        ({ v with lock := v.lock.holding h.now timeout h.startsThreads }.asked
          (.hold v.lock.id timeout) (.ok ()) h.now (v.lock.acquireCall timeout))
  /-- A hold is accepted, but its alarm cannot bear the name of the lock. -/
  | stranded (timeout : Nat) :
      h.answer (v.lock.acquireCall timeout) = .ok () → timeout ≠ 0 →
      v.lock.canBeAlarmed = false →
      Turn h v (.hold v.lock.id timeout)
        ({ v with lock := v.lock.stranded h.now timeout }.asked (.hold v.lock.id timeout)
          (.error .crashed) h.now (v.lock.acquireCall timeout))
  /-- A lock is released that is not held. -/
  | calmed :
      v.lock.held = false →
      Turn h v (.release v.lock.id)
        ({ v with lock := v.lock.calmed }.quiet (.release v.lock.id) (.ok ()) h.now)
  /-- A release is not accepted. -/
  | releaseFailed (f : Failure) :
      v.lock.held = true → h.answer v.lock.releaseCall = .error f →
      Turn h v (.release v.lock.id)
        ({ v with lock := v.lock.calmed.afterFailure f }.quiet (.release v.lock.id) (.error f)
          h.now)
  /-- A release is accepted. -/
  | released :
      v.lock.held = true → h.answer v.lock.releaseCall = .ok () →
      Turn h v (.release v.lock.id)
        ({ v with lock := v.lock.calmed.givenUp }.asked (.release v.lock.id) (.ok ()) h.now
          v.lock.releaseCall)
  /-- The alarm of the lock is roused. -/
  | roused (d : Deadline Nat) :
      v.lock.alarm.due? h.now = some d → d ∉ v.roused →
      Turn h v (.rouse v.lock.id)
        ({ v with roused := d :: v.roused }.quiet (.rouse v.lock.id) (.ok ()) h.now)
  /-- An alarm wakes whose hold is over. -/
  | stale (d : Deadline Nat) :
      d ∈ v.roused → v.lock.held = false ∨ v.lock.generation ≠ d.purpose →
      Turn h v (.wake v.lock.id d)
        ({ v with lock := v.lock.settled d.purpose, roused := v.roused.filter (· ≠ d) }.quiet
          (.wake v.lock.id d) (.ok ()) h.now)
  /-- An alarm ends its hold. -/
  | expired (d : Deadline Nat) :
      d ∈ v.roused → v.lock.held = true → v.lock.generation = d.purpose →
      h.answer v.lock.releaseCall = .ok () →
      Turn h v (.wake v.lock.id d)
        ({ v with lock := v.lock.givenUp.settled d.purpose,
                  roused := v.roused.filter (· ≠ d) }.asked
          (.wake v.lock.id d) (.ok ()) h.now v.lock.releaseCall)
  /-- An alarm gives its hold up although the platform refuses. -/
  | abandoned (d : Deadline Nat) (e : Error) :
      d ∈ v.roused → v.lock.held = true → v.lock.generation = d.purpose →
      h.answer v.lock.releaseCall = .error (.refused e) →
      Turn h v (.wake v.lock.id d)
        ({ v with lock := v.lock.givenUp.settled d.purpose,
                  roused := v.roused.filter (· ≠ d) }.quiet
          (.wake v.lock.id d) (.error (.refused e)) h.now)
  /-- An alarm crashes. -/
  | wakeCrashed (d : Deadline Nat) :
      d ∈ v.roused → v.lock.held = true → v.lock.generation = d.purpose →
      h.answer v.lock.releaseCall = .error .crashed →
      Turn h v (.wake v.lock.id d)
        ({ v with lock := v.lock.hurt.settled d.purpose, roused := v.roused.filter (· ≠ d) }.quiet
          (.wake v.lock.id d) (.error .crashed) h.now)

/-- A lock keeps its name and its kind. -/
theorem named_of_turn {h : Host} {v v' : View} {a : Action} (hTurn : Turn h v a v') :
    v'.lock.name = v.lock.name ∧ v'.lock.kind = v.lock.kind := by
  cases hTurn with
  | holdFailed timeout f _ => cases f <;> exact ⟨rfl, rfl⟩
  | releaseFailed f _ _ => cases f <;> exact ⟨rfl, rfl⟩
  | _ => exact ⟨rfl, rfl⟩

namespace Scene

/-- What is known of a lock under its number. -/
def viewOf (s : Scene) (id : Nat) (l : Running) : View :=
  ⟨l, s.roused id, s.host.platform.callsAbout id, s.historyOf id⟩

/-- What is known of the lock with a number. -/
def view? (s : Scene) (id : Nat) : Option View := (s.lock? id).map (s.viewOf id)

theorem lock?_of_view? {s : Scene} {id : Nat} {v : View} (h : s.view? id = some v) :
    s.lock? id = some v.lock := by
  unfold view? at h
  obtain ⟨l, hLock, rfl⟩ := Option.map_eq_some_iff.mp h
  exact hLock

theorem view?_of_lock? {s : Scene} {id : Nat} {l : Running} (h : s.lock? id = some l) :
    s.view? id = some (s.viewOf id l) := by
  unfold view?
  rw [h]
  rfl

/-- An action that works on a lock and asks the platform for nothing. -/
theorem view?_after_quiet {s s' : Scene} {a : Action} {o : Outcome Unit} {id : Nat} {l' : Running}
    (hAct : s.act? a = some (o, s')) (hTarget : a.lock? = some id) (hLock : s'.lock? id = some l')
    (hPlatform : s'.host.platform = s.host.platform) :
    (s.after a).view? id = some (View.quiet
      ⟨l', s'.roused id, s.host.platform.callsAbout id, s.historyOf id⟩ a o s.host.now) := by
  have hFind : s'.registry.find? id = some l' := hLock
  rw [after_of_act? hAct]
  unfold view? viewOf View.quiet historyOf lock?
  simp only [hFind, Option.map_some, hPlatform, List.drop_length]
  rw [List.filter_cons_of_pos (by simp [hTarget])]

/-- An action that works on a lock and for which the platform accepts a call about the lock. -/
theorem view?_after_asked {s s' : Scene} {a : Action} {o : Outcome Unit} {id : Nat} {l' : Running}
    {c : Call} (hAct : s.act? a = some (o, s')) (hTarget : a.lock? = some id)
    (hLock : s'.lock? id = some l') (hAnswer : s.host.answer c = .ok ()) (hCall : c.lock? = some id)
    (hPlatform : s'.host.platform = s.host.platform.attempt c) :
    (s.after a).view? id = some (View.asked
      ⟨l', s'.roused id, s.host.platform.callsAbout id, s.historyOf id⟩ a o s.host.now c) := by
  have hFind : s'.registry.find? id = some l' := hLock
  have hCalls : s'.host.platform.calls = s.host.platform.calls ++ [c] := by
    rw [hPlatform]
    exact Platform.calls_attempt_of_ok hAnswer
  rw [after_of_act? hAct]
  unfold view? viewOf View.asked historyOf lock?
  simp only [hFind, Option.map_some, hCalls, List.drop_left]
  rw [List.filter_cons_of_pos (by simp [hTarget]), hPlatform,
    Platform.callsAbout_attempt_self hAnswer hCall]

/-! ## What the lock itself sees of an action -/

theorem turn_hold {s : Scene} {id : Nat} {l : Running} (hLock : s.lock? id = some l)
    (timeout : Nat) :
    ∃ v', (s.after (.hold id timeout)).view? id = some v' ∧
      Turn s.host (s.viewOf id l) (.hold id timeout) v' := by
  obtain rfl : l.id = id := id_of_lock? hLock
  have hAct : s.act? (.hold l.id timeout) = _ :=
    onLock?_of_lock? (fun l h => l.hold timeout h) hLock
  have hThere := Registry.find?_put_of_find? hLock (l.hold_staysWithin timeout s.host).id_eq
  rcases l.hold_cases timeout s.host with ⟨f, hAnswer, hHold⟩ |
    ⟨h', hHold, hAnswer, hAlarm, hPlatform, _⟩ | ⟨hAnswer, hTimeout, hName, hHold⟩
  · rw [hHold] at hAct hThere
    refine ⟨_, view?_after_quiet hAct rfl hThere rfl, ?_⟩
    exact .holdFailed timeout f hAnswer
  · rw [hHold] at hAct hThere
    refine ⟨_, view?_after_asked hAct rfl hThere hAnswer rfl hPlatform, ?_⟩
    exact .held timeout hAnswer hAlarm
  · rw [hHold] at hAct hThere
    refine ⟨_, view?_after_asked hAct rfl hThere hAnswer rfl rfl, ?_⟩
    exact .stranded timeout hAnswer hTimeout hName

theorem turn_release {s : Scene} {id : Nat} {l : Running} (hLock : s.lock? id = some l) :
    ∃ v', (s.after (.release id)).view? id = some v' ∧
      Turn s.host (s.viewOf id l) (.release id) v' := by
  obtain rfl : l.id = id := id_of_lock? hLock
  have hAct : s.act? (.release l.id) = _ := onLock?_of_lock? (fun l h => l.release h) hLock
  have hThere := Registry.find?_put_of_find? hLock (l.release_staysWithin s.host).id_eq
  rcases l.release_cases s.host with ⟨hHeld, hRelease⟩ | ⟨f, hHeld, hAnswer, hRelease⟩ |
    ⟨h', hRelease, hHeld, hAnswer, hPlatform, _⟩
  · rw [hRelease] at hAct hThere
    refine ⟨_, view?_after_quiet hAct rfl hThere rfl, ?_⟩
    exact .calmed hHeld
  · rw [hRelease] at hAct hThere
    refine ⟨_, view?_after_quiet hAct rfl hThere rfl, ?_⟩
    exact .releaseFailed f hHeld hAnswer
  · rw [hRelease] at hAct hThere
    refine ⟨_, view?_after_asked hAct rfl hThere hAnswer rfl hPlatform, ?_⟩
    exact .released hHeld hAnswer

theorem turn_rouse {s : Scene} {id : Nat} {l : Running} (hLock : s.lock? id = some l) :
    ∃ v', (s.after (.rouse id)).view? id = some v' ∧
      Turn s.host (s.viewOf id l) (.rouse id) v' := by
  obtain rfl : l.id = id := id_of_lock? hLock
  cases hWaiting : s.waiting? l.id with
  | none =>
    rw [after_of_act?_eq_none (show s.act? (.rouse l.id) = none by unfold act?; simp [hWaiting])]
    exact ⟨_, view?_of_lock? hLock, .idle rfl⟩
  | some d =>
    obtain ⟨⟨found, hFound, hDue⟩, hNew⟩ := waiting?_eq_some_iff.mp hWaiting
    obtain rfl := Option.some.inj (hLock.symm.trans hFound)
    have hAct : s.act? (.rouse l.id) = some (.ok (),
        { s with roused := setAt s.roused l.id (d :: s.roused l.id) }) := by
      unfold act?
      simp [hWaiting]
    have hAfter := view?_after_quiet hAct rfl hLock rfl
    dsimp only at hAfter
    rw [setAt_self] at hAfter
    refine ⟨_, hAfter, ?_⟩
    exact .roused d hDue hNew

theorem turn_wake {s : Scene} {id : Nat} {l : Running} (hLock : s.lock? id = some l)
    (d : Deadline Nat) :
    ∃ v', (s.after (.wake id d)).view? id = some v' ∧
      Turn s.host (s.viewOf id l) (.wake id d) v' := by
  obtain rfl : l.id = id := id_of_lock? hLock
  by_cases hRoused : d ∈ s.roused l.id
  · have hAct := done_wake hRoused hLock
    have hThere := Registry.find?_put_of_find? hLock
      (l.wake_staysWithin d.purpose s.host).id_eq
    rcases l.wake_cases d.purpose s.host with ⟨hStale, hWake⟩ |
      ⟨h', hWake, hHeld, hGeneration, hAnswer, hPlatform, _⟩ |
      ⟨e, h', hWake, hHeld, hGeneration, hAnswer, hPlatform, _⟩ |
      ⟨hHeld, hGeneration, hAnswer, hWake⟩
    · rw [hWake, Running.alarmOutcome_of_stale s.host hStale] at hAct
      rw [hWake] at hThere
      have hAfter := view?_after_quiet hAct rfl hThere rfl
      dsimp only at hAfter
      rw [setAt_self] at hAfter
      refine ⟨_, hAfter, ?_⟩
      exact .stale d hRoused hStale
    · rw [hWake, Running.alarmOutcome_of_held s.host hHeld hGeneration, hAnswer] at hAct
      rw [hWake] at hThere
      have hAfter := view?_after_asked hAct rfl hThere hAnswer rfl hPlatform
      dsimp only at hAfter
      rw [setAt_self] at hAfter
      refine ⟨_, hAfter, ?_⟩
      exact .expired d hRoused hHeld hGeneration hAnswer
    · rw [hWake, Running.alarmOutcome_of_held s.host hHeld hGeneration, hAnswer] at hAct
      rw [hWake] at hThere
      have hAfter := view?_after_quiet hAct rfl hThere hPlatform
      dsimp only at hAfter
      rw [setAt_self] at hAfter
      refine ⟨_, hAfter, ?_⟩
      exact .abandoned d e hRoused hHeld hGeneration hAnswer
    · rw [hWake, Running.alarmOutcome_of_held s.host hHeld hGeneration, hAnswer] at hAct
      rw [hWake] at hThere
      have hAfter := view?_after_quiet hAct rfl hThere rfl
      dsimp only at hAfter
      rw [setAt_self] at hAfter
      refine ⟨_, hAfter, ?_⟩
      exact .wakeCrashed d hRoused hHeld hGeneration hAnswer
  · rw [after_of_act?_eq_none (show s.act? (.wake l.id d) = none from if_neg hRoused)]
    exact ⟨_, view?_of_lock? hLock, .idle rfl⟩

/-- An action that works on a lock gives it a turn, and the lock is still there. -/
theorem turn_of_lock? {s : Scene} {a : Action} {id : Nat} {l : Running}
    (hLock : s.lock? id = some l) (hTarget : a.lock? = some id) :
    ∃ v', (s.after a).view? id = some v' ∧ Turn s.host (s.viewOf id l) a v' := by
  cases a with
  | hold i timeout => cases hTarget; exact turn_hold hLock timeout
  | release i => cases hTarget; exact turn_release hLock
  | rouse i => cases hTarget; exact turn_rouse hLock
  | wake i d => cases hTarget; exact turn_wake hLock d
  | _ => cases hTarget

/-! ## One turn for each lock -/

/-- What is known of a lock stays when an action neither works on it nor makes it. -/
theorem view?_after_apart {s s' : Scene} {a : Action} {o : Outcome Unit} {id : Nat}
    (hAct : s.act? a = some (o, s')) (hTarget : a.lock? ≠ some id)
    (hRoused : s'.roused id = s.roused id)
    (hCalls : s'.host.platform.callsAbout id = s.host.platform.callsAbout id)
    (hLock : s'.lock? id = s.lock? id) : (s.after a).view? id = s.view? id := by
  have hHistory := s.historyOf_after_ne hTarget
  have hAfter := after_of_act? hAct
  have hFound : (s.after a).lock? id = s.lock? id := by rw [hAfter]; exact hLock
  have hSeen : (s.after a).viewOf id = s.viewOf id := by
    funext l
    unfold viewOf
    rw [hHistory, hAfter]
    simp only [hRoused, hCalls]
  unfold view?
  rw [hFound, hSeen]

/-- No turn is missed: a call on a lock that is there can happen. -/
theorem isCallOn_eq_false_of_act? {s : Scene} {a : Action} {id : Nat} {l : Running}
    (hLock : s.lock? id = some l) (hAct : s.act? a = none) : a.isCallOn id = false := by
  cases a with
  | hold i timeout =>
    refine Bool.eq_false_iff.mpr fun hCall => ?_
    obtain rfl : i = id := beq_iff_eq.mp hCall
    rw [show s.act? (.hold i timeout) = _ from onLock?_of_lock? _ hLock] at hAct
    cases hAct
  | release i =>
    refine Bool.eq_false_iff.mpr fun hCall => ?_
    obtain rfl : i = id := beq_iff_eq.mp hCall
    rw [show s.act? (.release i) = _ from onLock?_of_lock? _ hLock] at hAct
    cases hAct
  | _ => rfl

theorem isCallOn_eq_false_of_lock? {a : Action} {id : Nat} (hTarget : a.lock? ≠ some id) :
    a.isCallOn id = false := by
  cases a with
  | hold i timeout =>
    exact beq_eq_false_iff_ne.mpr fun hEq => hTarget (congrArg some hEq)
  | release i => exact beq_eq_false_iff_ne.mpr fun hEq => hTarget (congrArg some hEq)
  | _ => rfl

/-- A handle of a lock goes. If the lock is still there, nothing about it has changed. -/
theorem view?_after_drop {s : Scene} {id : Nat} {v' : View}
    (hView : (s.after (.drop id)).view? id = some v') : s.view? id = some v' := by
  have hTarget : (Action.drop id).lock? ≠ some id := nofun
  have hAct : s.act? (.drop id) = some ((s.registry.drop id s.host).1, { s with
      registry := (s.registry.drop id s.host).2.1
      host := (s.registry.drop id s.host).2.2 }) := rfl
  rcases s.registry.drop_cases id s.host with ⟨_, hEq⟩ | ⟨r', hEq, _, _, hFind⟩ |
    ⟨l, r', _, hEq, _, hGone, _⟩
  · rw [hEq] at hAct
    rw [← view?_after_apart hAct hTarget rfl rfl rfl]
    exact hView
  · rw [hEq] at hAct
    rw [← view?_after_apart hAct hTarget rfl rfl (hFind id)]
    exact hView
  · rw [hEq] at hAct
    have hNone : (s.after (.drop id)).lock? id = none := by
      rw [after_of_act? hAct]
      exact hGone
    exact nomatch (lock?_of_view? hView).symm.trans hNone

/-- A lock that is there takes a turn with every action that does not drop a handle of it. -/
theorem turn_of_view? {s : Scene} {a : Action} {id : Nat} {v : View} (hView : s.view? id = some v)
    (hDrop : a ≠ .drop id) : ∃ v', (s.after a).view? id = some v' ∧ Turn s.host v a v' := by
  have hLock : s.lock? id = some v.lock := lock?_of_view? hView
  have hId : v.lock.id = id := id_of_lock? hLock
  rcases s.after_cases a with ⟨hNone, hSame⟩ | ⟨o, s', hAct, _⟩
  · rw [hSame]
    exact ⟨v, hView, .idle (by rw [hId]; exact isCallOn_eq_false_of_act? hLock hNone)⟩
  · by_cases hTarget : a.lock? = some id
    · have hSeen : s.viewOf id v.lock = v :=
        Option.some.inj ((view?_of_lock? hLock).symm.trans hView)
      have hTurn := turn_of_lock? hLock hTarget
      rw [hSeen] at hTurn
      exact hTurn
    · have hApart := apart_of_done (done_of_act? hAct) hTarget hDrop
      have hSame : s'.lock? id = s.lock? id := by
        rcases hApart.lock?_eq with hSame | ⟨_, _, name, kind, _, hMade⟩
        · exact hSame
        · rw [hMade, hLock]
          rfl
      refine ⟨v, ?_, .idle (by rw [hId]; exact isCallOn_eq_false_of_lock? hTarget)⟩
      rw [view?_after_apart hAct hTarget hApart.roused_eq hApart.callsAbout_eq hSame]
      exact hView

/-- An alarm may still wake on a lock that is gone. No action brings the lock back: if it is there
afterwards, it was not worked on but made. -/
theorem apart_of_lock?_eq_none {s : Scene} {a : Action} {id : Nat} {l : Running}
    (hLock : s.lock? id = none) (hThere : (s.after a).lock? id = some l) :
    ∃ o s', s.act? a = some (o, s') ∧ a.lock? ≠ some id ∧ Apart s s' id := by
  rcases s.after_cases a with ⟨_, hSame⟩ | ⟨o, s', hAct, hAfter⟩
  · rw [hSame] at hThere
    exact nomatch hThere.symm.trans hLock
  · have hDone : Done s a o s' := done_of_act? hAct
    have hThere' : s'.lock? id = some l := by
      rw [hAfter] at hThere
      exact hThere
    have hTarget : a.lock? ≠ some id := by
      intro hTarget
      cases hDone with
      | wakeAlone _ _ => cases hTarget; exact nomatch hThere'.symm.trans hLock
      | hold timeout hOther => cases hTarget; exact nomatch hOther.symm.trans hLock
      | release hOther => cases hTarget; exact nomatch hOther.symm.trans hLock
      | rouse hOther _ _ => cases hTarget; exact nomatch hOther.symm.trans hLock
      | wake _ hOther => cases hTarget; exact nomatch hOther.symm.trans hLock
      | _ => cases hTarget
    have hDrop : a ≠ .drop id := by
      rintro rfl
      have hBefore : s.lock? id = some l :=
        lock?_of_view? (view?_after_drop (view?_of_lock? hThere))
      exact nomatch hBefore.symm.trans hLock
    exact ⟨o, s', hAct, hTarget, apart_of_done hDone hTarget hDrop⟩

/-- A lock that was not there before an action has just been made. -/
theorem made_of_lock?_eq_none {s : Scene} {a : Action} {id : Nat} {l : Running}
    (hLock : s.lock? id = none) (hThere : (s.after a).lock? id = some l) :
    s.registry.nextId = id ∧
      ∃ name kind, name ≠ "" ∧ l = { id, name, kind, created := s.host.now } := by
  obtain ⟨o, s', hAct, -, hApart⟩ := apart_of_lock?_eq_none hLock hThere
  have hThere' : s'.lock? id = some l := by
    rw [after_of_act? hAct] at hThere
    exact hThere
  rcases hApart.lock?_eq with hSame | ⟨hNext, _, name, kind, hNamed, hMade⟩
  · exact nomatch (hSame.symm.trans hThere').symm.trans hLock
  · rw [hMade, hLock] at hThere'
    exact ⟨hNext, name, kind, hNamed, (Option.some.inj hThere').symm⟩

/-- Only the next number can become that of a new lock, and nothing is known of it yet. -/
theorem view?_of_lock?_eq_none {s : Scene} (hNumbered : s.WellNumbered) {a : Action} {id : Nat}
    {v' : View} (hLock : s.lock? id = none) (hView : (s.after a).view? id = some v') :
    s.registry.nextId = id ∧ ∃ name kind, name ≠ "" ∧ v' = .fresh id name kind s.host.now := by
  have hThere : (s.after a).lock? id = some v'.lock := lock?_of_view? hView
  obtain ⟨o, s', hAct, hTarget, hApart⟩ := apart_of_lock?_eq_none hLock hThere
  obtain ⟨hNext, name, kind, hNamed, hMade⟩ := made_of_lock?_eq_none hLock hThere
  have hUnmade := hNumbered id (Nat.le_of_eq hNext)
  refine ⟨hNext, name, kind, hNamed, ?_⟩
  rw [view?_of_lock? (hThere.trans (congrArg some hMade))] at hView
  have hFresh := (Option.some.inj hView).symm
  unfold viewOf at hFresh
  rw [s.historyOf_after_ne hTarget, hUnmade.historyOf_eq, after_of_act? hAct] at hFresh
  simp only [hApart.roused_eq, hApart.callsAbout_eq, hUnmade.roused_eq,
    hUnmade.callsAbout_eq] at hFresh
  exact hFresh

/-- An action gives each lock one turn, or makes it. -/
theorem turn_of_after {s : Scene} (hNumbered : s.WellNumbered) {a : Action} {id : Nat} {v' : View}
    (hView : (s.after a).view? id = some v') :
    (∃ v, s.view? id = some v ∧ Turn s.host v a v') ∨
    (s.registry.nextId = id ∧
      ∃ name kind, name ≠ "" ∧ v' = .fresh id name kind s.host.now) := by
  by_cases hDrop : a = .drop id
  · subst hDrop
    exact Or.inl ⟨v', view?_after_drop hView, .idle rfl⟩
  · cases hLock : s.lock? id with
    | none => exact Or.inr (view?_of_lock?_eq_none hNumbered hLock hView)
    | some l =>
      obtain ⟨w, hTaken, hTurn⟩ := turn_of_view? (view?_of_lock? hLock) hDrop
      obtain rfl : w = v' := Option.some.inj (hTaken.symm.trans hView)
      exact Or.inl ⟨_, view?_of_lock? hLock, hTurn⟩

/-- What a fresh lock has and every turn keeps holds of every lock after an action. -/
theorem views_after {P : View → Prop} {s : Scene} (hNumbered : s.WellNumbered) {a : Action}
    (fresh : ∀ id name kind now, name ≠ "" → P (.fresh id name kind now))
    (turn : ∀ v v', P v → Turn s.host v a v' → P v')
    (hViews : ∀ id v, s.view? id = some v → P v) :
    ∀ id v, (s.after a).view? id = some v → P v := by
  intro id v' hView
  rcases turn_of_after hNumbered hView with ⟨v, hBefore, hTurn⟩ |
    ⟨_, name, kind, hNamed, rfl⟩
  · exact turn v v' (hViews id v hBefore) hTurn
  · exact fresh id name kind s.host.now hNamed

/-- What a fresh lock has and every turn keeps holds of every lock in every run. -/
theorem views_run {P : View → Prop}
    (fresh : ∀ id name kind now, name ≠ "" → P (.fresh id name kind now))
    (turn : ∀ h v a v', P v → Turn h v a v' → P v') (origin : Log.Origin) (supported : List Kind)
    (actions : List Action) :
    ∀ id v, ((start origin supported).run actions).view? id = some v → P v := by
  have hKept := run_keeps (fun s => s.WellNumbered ∧ ∀ id v, s.view? id = some v → P v)
    (fun _ => True) (fun s a _ h => ⟨wellNumbered_after h.1 a,
      views_after h.1 fresh (fun v v' => turn s.host v a v') h.2⟩)
    actions (start origin supported) (fun _ _ => trivial)
    ⟨wellNumbered_start origin supported, fun _ _ hNone => nomatch hNone⟩
  exact hKept.2

/-- In every run every lock has a name. -/
theorem name_ne_empty {s : Scene} (hReachable : s.Reachable) {id : Nat} {l : Running}
    (hLock : s.lock? id = some l) : l.name ≠ "" := by
  obtain ⟨origin, supported, actions, rfl⟩ := hReachable
  refine views_run (P := fun v => v.lock.name ≠ "") (fun _ _ _ _ hNamed => hNamed) ?_ origin
    supported actions id _ (view?_of_lock? hLock)
  intro h v a v' hBefore hTurn
  rw [(named_of_turn hTurn).1]
  exact hBefore

end Scene

end DevicePower.Lock
