import DevicePower.Proofs.Lock.Turn

/-!
# The lock's own account and the platform's record

On the platform a lock is held while the last accepted call about it is a hold. The lock itself has
only its flag. The two agree but for one event: an alarm gives its hold up although the platform
refuses the release. From then on the platform holds a lock that counts as free, until the next call
about it is accepted.

## Main results

* `accounted_of_turn`, `accounted_of_lock?`: the flags, the record and the history fit together.
* `acquired_iff_of_lock?`: which locks the platform holds.
-/

namespace DevicePower

/-- The last accepted call about a lock is a hold. -/
def Platform.Acquired (p : Platform) (id : Nat) : Prop :=
  ∃ name kind timeout, p.lastCallAbout? id = some (.acquireLock id name kind timeout)

namespace Lock

namespace Event

/-- Whether an alarm gave its hold up although the platform refused. -/
def gaveUp (e : Event) : Bool :=
  match e.action, e.outcome with
  | .wake _ _, .error (.refused _) => true
  | _, _ => false

end Event

/-- Whether an alarm gave a hold up against the platform, and nothing has been accepted since. The
latest event comes first. -/
def abandoned : List Event → Bool
  | [] => false
  | e :: earlier => e.gaveUp || (e.calls.isEmpty && abandoned earlier)

theorem abandoned_cons_of_calls {e : Event} {c : Call} (earlier : List Event)
    (hAction : e.gaveUp = false) (hCalls : e.calls = [c]) : abandoned (e :: earlier) = false := by
  unfold abandoned
  rw [hAction, hCalls]
  rfl

theorem abandoned_cons_of_quiet {e : Event} (earlier : List Event)
    (hAction : e.gaveUp = false) (hCalls : e.calls = []) :
    abandoned (e :: earlier) = abandoned earlier := by
  rw [abandoned, hAction, hCalls]
  rfl

namespace View

/-- On the platform the lock is held. -/
def Acquired (v : View) : Prop :=
  ∃ name kind timeout, v.calls.getLast? = some (.acquireLock v.lock.id name kind timeout)

/-- The flags of a lock fit to the record of the platform and to the history. -/
structure Accounted (v : View) : Prop where
  acquired_iff : v.Acquired ↔ v.lock.held = true ∨ abandoned v.history = true
  not_abandoned : v.lock.held = true → abandoned v.history = false
  damaged_iff : v.lock.damaged = true ↔ ∃ e ∈ v.history, e.outcome = .error .crashed

theorem accounted_fresh (id : Nat) (name : String) (kind : Kind) (now : Nat) :
    (fresh id name kind now).Accounted := by
  have hNone : ¬ (fresh id name kind now).Acquired := by
    unfold Acquired
    simp [fresh]
  refine ⟨⟨fun hAcquired => absurd hAcquired hNone, ?_⟩, fun _ => rfl, ?_⟩
  · rintro (hHeld | hAbandoned)
    · cases hHeld
    · cases hAbandoned
  · simp [fresh]

variable {v : View} {l' : Running} {roused : List (Deadline Nat)} {a : Action} {o : Outcome Unit}
  {now : Nat}

/-- The lock has been damaged by this action or before. -/
theorem damaged_cons (h : v.Accounted) {calls : List Call}
    (hDamaged : l'.damaged = true ↔ o = .error .crashed ∨ v.lock.damaged = true) :
    l'.damaged = true ↔ ∃ e ∈ ⟨a, o, calls, now⟩ :: v.history, e.outcome = .error .crashed := by
  rw [hDamaged, h.damaged_iff]
  simp

/-- Nothing is accepted and the lock stays held, or stays free. -/
theorem Accounted.quiet (h : v.Accounted) (hId : l'.id = v.lock.id)
    (hHeld : l'.held = v.lock.held) (hAction : (Event.mk a o [] now).gaveUp = false)
    (hDamaged : l'.damaged = true ↔ o = .error .crashed ∨ v.lock.damaged = true) :
    (View.quiet ⟨l', roused, v.calls, v.history⟩ a o now).Accounted := by
  have hAbandoned := abandoned_cons_of_quiet v.history hAction rfl
  refine ⟨?_, ?_, damaged_cons h hDamaged⟩
  · have hAcquired := h.acquired_iff
    unfold Acquired at hAcquired ⊢
    dsimp only [View.quiet]
    rw [hId, hHeld, hAbandoned]
    exact hAcquired
  · dsimp only [View.quiet]
    rw [hHeld, hAbandoned]
    exact h.not_abandoned

/-- A hold is accepted. -/
theorem Accounted.acquired (h : v.Accounted) (timeout : Nat) (hId : l'.id = v.lock.id)
    (hHeld : l'.held = true)
    (hAction : (Event.mk a o [v.lock.acquireCall timeout] now).gaveUp = false)
    (hDamaged : l'.damaged = true ↔ o = .error .crashed ∨ v.lock.damaged = true) :
    (View.asked ⟨l', roused, v.calls, v.history⟩ a o now
      (v.lock.acquireCall timeout)).Accounted := by
  have hAbandoned := abandoned_cons_of_calls v.history hAction rfl
  refine ⟨⟨fun _ => Or.inl hHeld, fun _ => ?_⟩, fun _ => hAbandoned, damaged_cons h hDamaged⟩
  refine ⟨v.lock.name, v.lock.kind, timeout, ?_⟩
  dsimp only [View.asked]
  rw [List.getLast?_concat, hId]
  rfl

/-- A release is accepted. -/
theorem Accounted.released (h : v.Accounted) (hHeld : l'.held = false)
    (hAction : (Event.mk a o [v.lock.releaseCall] now).gaveUp = false)
    (hDamaged : l'.damaged = true ↔ o = .error .crashed ∨ v.lock.damaged = true) :
    (View.asked ⟨l', roused, v.calls, v.history⟩ a o now v.lock.releaseCall).Accounted := by
  have hAbandoned := abandoned_cons_of_calls v.history hAction rfl
  refine ⟨⟨?_, ?_⟩, fun _ => hAbandoned, damaged_cons h hDamaged⟩
  · rintro ⟨name, kind, timeout, hLast⟩
    dsimp only [View.asked] at hLast
    rw [List.getLast?_concat] at hLast
    cases Option.some.inj hLast
  · dsimp only [View.asked]
    rw [hHeld, hAbandoned]
    rintro (hFalse | hFalse) <;> cases hFalse

/-- An alarm gives its hold up against the platform. -/
theorem Accounted.gaveUp (h : v.Accounted) (hWas : v.lock.held = true) (hId : l'.id = v.lock.id)
    (hHeld : l'.held = false) (hAction : (Event.mk a o [] now).gaveUp = true)
    (hDamaged : l'.damaged = true ↔ o = .error .crashed ∨ v.lock.damaged = true) :
    (View.quiet ⟨l', roused, v.calls, v.history⟩ a o now).Accounted := by
  have hAbandoned : abandoned (⟨a, o, [], now⟩ :: v.history) = true := by
    rw [abandoned, hAction]
    rfl
  refine ⟨⟨fun _ => Or.inr hAbandoned, fun _ => ?_⟩, ?_, damaged_cons h hDamaged⟩
  · have hAcquired := h.acquired_iff.mpr (Or.inl hWas)
    unfold Acquired at hAcquired ⊢
    dsimp only [View.quiet]
    rw [hId]
    exact hAcquired
  · dsimp only [View.quiet]
    rw [hHeld]
    exact nofun

end View

/-- After a call that failed, a lock is damaged if it was before or if the call crashed. -/
theorem Running.damaged_afterFailure (l : Running) (f : Failure) :
    (l.afterFailure f).damaged = true ↔
      (Except.error f : Outcome Unit) = .error .crashed ∨ l.damaged = true := by
  cases f with
  | refused e => simp [Running.afterFailure]
  | crashed => simp [Running.afterFailure]

theorem Running.held_afterFailure (l : Running) (f : Failure) :
    (l.afterFailure f).held = l.held := by
  cases f <;> rfl

/-- Every turn keeps the account. -/
theorem accounted_of_turn {h : Host} {v v' : View} {a : Action} (hTurn : Turn h v a v')
    (hAccounted : v.Accounted) : v'.Accounted := by
  cases hTurn with
  | idle _ => exact hAccounted
  | holdFailed timeout f _ =>
    exact hAccounted.quiet (v.lock.id_afterFailure f) (v.lock.held_afterFailure f) rfl
      (v.lock.damaged_afterFailure f)
  | held timeout _ _ => exact hAccounted.acquired timeout rfl rfl rfl (by simp [Running.holding])
  | stranded timeout _ _ _ =>
    exact hAccounted.acquired timeout rfl rfl rfl (by simp [Running.stranded])
  | calmed _ => exact hAccounted.quiet rfl rfl rfl (by simp [Running.calmed])
  | releaseFailed f _ _ =>
    exact hAccounted.quiet (v.lock.calmed.id_afterFailure f) (v.lock.calmed.held_afterFailure f) rfl
      (v.lock.calmed.damaged_afterFailure f)
  | released _ _ => exact hAccounted.released rfl rfl (by simp [Running.givenUp, Running.calmed])
  | roused d _ _ => exact hAccounted.quiet rfl rfl rfl (by simp)
  | stale d _ _ => exact hAccounted.quiet rfl rfl rfl (by simp [Running.settled])
  | expired d _ _ _ _ =>
    exact hAccounted.released rfl rfl (by simp [Running.givenUp, Running.settled])
  | abandoned d e _ hHeld _ _ =>
    exact hAccounted.gaveUp hHeld rfl rfl rfl (by simp [Running.givenUp, Running.settled])
  | wakeCrashed d _ _ _ _ =>
    exact hAccounted.quiet rfl rfl rfl (by simp [Running.hurt, Running.settled])

namespace Scene

variable {s : Scene} {id : Nat} {l : Running}

/-- In every run the flags of every lock fit to the record and to the history. -/
theorem accounted_of_lock? (hReachable : s.Reachable) (hLock : s.lock? id = some l) :
    (s.viewOf id l).Accounted := by
  obtain ⟨origin, supported, actions, rfl⟩ := hReachable
  exact views_run (P := View.Accounted)
    (fun id name kind now _ => View.accounted_fresh id name kind now)
    (fun _ _ _ _ hAccounted hTurn => accounted_of_turn hTurn hAccounted) origin supported actions
    id _ (view?_of_lock? hLock)

/-- The platform holds a lock while it counts as held, and after its hold was abandoned. -/
theorem acquired_iff_of_lock? (hReachable : s.Reachable) (hLock : s.lock? id = some l) :
    s.host.platform.Acquired id ↔ l.held = true ∨ abandoned (s.historyOf id) = true := by
  have hAcquired := (accounted_of_lock? hReachable hLock).acquired_iff
  obtain rfl : l.id = id := id_of_lock? hLock
  exact hAcquired

end Scene

end Lock

end DevicePower
