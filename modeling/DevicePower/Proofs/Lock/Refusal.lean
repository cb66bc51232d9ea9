import DevicePower.Proofs.Lock.Coherent

/-!
# What a refusal leaves

A hold that the platform refuses leaves everything as it was. A release that the platform refuses
does not: it has called the alarm off before it asked. The lock stays held, with a deadline that
nothing will act on. Only an alarm that had been roused before can still end the hold, since a
refusal does not begin a new generation.

## Main results

* `refused_hold`, `refused_release`: the lock and the host after a refusal.
* `released_iff_roused`: when a lock is still released after its release was refused.
* `refusal_effects`: the three together, in every run.
-/

namespace DevicePower

/-- Once an operation has been switched on and restored, a release is accepted. -/
theorem Platform.answer_releaseLock_of_restored (p : Platform) (id : Nat) :
    ((p.heal .releaseLock).restore .releaseLock).answer (.releaseLock id) = .ok () := by
  have hNoFault : (((p.heal .releaseLock).restore .releaseLock).faults.find?
      fun f => f.1 == (Call.releaseLock id).operation) = none := by
    rw [List.find?_eq_none]
    intro f hMem
    have hNe := (List.mem_filter.mp hMem).2
    simpa [Call.operation] using hNe
  have hNotFailing : ((p.heal .releaseLock).restore .releaseLock).failing.contains
      (Call.releaseLock id).operation = false := by
    simp [restore, heal, Call.operation]
  unfold answer objection?
  rw [hNoFault]
  dsimp only
  rw [hNotFailing]
  rfl

namespace Lock

/-- An action is left to the alarm: no user works on the lock or drops a handle of it. -/
def Action.LeavesAlone (id : Nat) (a : Action) : Prop := a.isCallOn id = false ∧ a ≠ .drop id

/-- Calling the alarm off changes exactly a lock whose alarm is pending. -/
theorem Running.calmed_eq_iff (l : Running) : l.calmed = l ↔ l.hasPendingRelease = false := by
  unfold hasPendingRelease Timer.isPending
  rw [Option.isSome_eq_false_iff, Option.isNone_iff_eq_none]
  constructor
  · intro hEq
    rw [← hEq]
    rfl
  · intro hNone
    unfold calmed Timer.cancel
    rw [← hNone]

/-- No alarm is set for the present generation of a lock, pending or roused, and the record about it
is as given. -/
structure View.Silent (v : View) (generation : Nat) (calls : List Call) : Prop where
  pending_eq : v.lock.alarm.pending = none
  generation_eq : v.lock.generation = generation
  purpose_ne : ∀ d ∈ v.roused, d.purpose ≠ generation
  calls_eq : v.calls = calls

/-- While no user works on it, a lock without an alarm keeps silent. -/
theorem silent_of_turn {h : Host} {v v' : View} {a : Action} {generation : Nat} {calls : List Call}
    (hTurn : Turn h v a v') (hAlone : a.isCallOn v.lock.id = false)
    (hSilent : v.Silent generation calls) : v'.Silent generation calls := by
  have hCall : ∀ {id timeout}, Action.isCallOn id (.hold id timeout) = true :=
    fun {id} _ => beq_self_eq_true id
  have hRelease : Action.isCallOn v.lock.id (.release v.lock.id) = true :=
    beq_self_eq_true v.lock.id
  obtain ⟨hPending, rfl, hPurpose, hCalls⟩ := hSilent
  cases hTurn with
  | idle _ => exact ⟨hPending, rfl, hPurpose, hCalls⟩
  | holdFailed _ _ _ => rw [hCall] at hAlone; cases hAlone
  | held _ _ _ => rw [hCall] at hAlone; cases hAlone
  | stranded _ _ _ _ => rw [hCall] at hAlone; cases hAlone
  | calmed _ => rw [hRelease] at hAlone; cases hAlone
  | releaseFailed _ _ _ => rw [hRelease] at hAlone; cases hAlone
  | released _ _ => rw [hRelease] at hAlone; cases hAlone
  | roused d hDue _ =>
    have hSome := (Option.filter_eq_some_iff.mp hDue).1
    rw [hPending] at hSome
    cases hSome
  | stale d _ _ =>
    refine ⟨?_, rfl, ?_, hCalls⟩
    · dsimp only [View.quiet, Running.settled, Timer.settle]
      rw [hPending]
      rfl
    · intro e hMem
      exact hPurpose e (List.mem_filter.mp hMem).1
  | expired d hMem _ hGeneration _ => exact absurd hGeneration.symm (hPurpose d hMem)
  | abandoned d _ hMem _ hGeneration _ => exact absurd hGeneration.symm (hPurpose d hMem)
  | wakeCrashed d hMem _ hGeneration _ => exact absurd hGeneration.symm (hPurpose d hMem)

namespace Scene

/-! ## The refusal itself -/

theorem outcome?_hold {s : Scene} {id : Nat} {l : Running} (hLock : s.lock? id = some l)
    (timeout : Nat) : s.outcome? (.hold id timeout) = some (l.hold timeout s.host).1 := by
  unfold outcome?
  rw [show s.act? (.hold id timeout) = _ from onLock?_of_lock? _ hLock]
  rfl

theorem outcome?_release {s : Scene} {id : Nat} {l : Running} (hLock : s.lock? id = some l) :
    s.outcome? (.release id) = some (l.release s.host).1 := by
  unfold outcome?
  rw [show s.act? (.release id) = _ from onLock?_of_lock? _ hLock]
  rfl

/-- A hold that is refused leaves the lock, the host and the roused alarms as they were. -/
theorem refused_hold {s : Scene} {id timeout : Nat} {l : Running} {e : Error}
    (hLock : s.lock? id = some l)
    (hRefused : s.outcome? (.hold id timeout) = some (.error (.refused e))) :
    (s.after (.hold id timeout)).lock? id = some l ∧
      (s.after (.hold id timeout)).host = s.host ∧
      (s.after (.hold id timeout)).roused = s.roused := by
  rw [outcome?_hold hLock] at hRefused
  have hAfter := after_of_act?
    (show s.act? (.hold id timeout) = _ from onLock?_of_lock? _ hLock)
  rcases l.hold_cases timeout s.host with ⟨f, _, hHold⟩ | ⟨_, hHold, _⟩ | ⟨_, _, _, hHold⟩
  · rw [hHold] at hRefused hAfter
    obtain rfl : f = .refused e := Except.error.inj (Option.some.inj hRefused)
    rw [hAfter]
    exact ⟨Registry.find?_put_of_find? hLock (id_of_lock? hLock), rfl, rfl⟩
  · rw [hHold] at hRefused
    cases Option.some.inj hRefused
  · rw [hHold] at hRefused
    cases Option.some.inj hRefused

/-- A release that is refused leaves the host and the roused alarms as they were, but calls the
alarm of the lock off. -/
theorem refused_release {s : Scene} {id : Nat} {l : Running} {e : Error}
    (hLock : s.lock? id = some l)
    (hRefused : s.outcome? (.release id) = some (.error (.refused e))) :
    (s.after (.release id)).lock? id = some l.calmed ∧
      (s.after (.release id)).host = s.host ∧
      (s.after (.release id)).roused = s.roused ∧ l.held = true := by
  rw [outcome?_release hLock] at hRefused
  have hAfter := after_of_act? (show s.act? (.release id) = _ from onLock?_of_lock? _ hLock)
  rcases l.release_cases s.host with ⟨_, hRelease⟩ | ⟨f, hHeld, _, hRelease⟩ | ⟨_, hRelease, _⟩
  · rw [hRelease] at hRefused
    cases Option.some.inj hRefused
  · rw [hRelease] at hRefused hAfter
    obtain rfl : f = .refused e := Except.error.inj (Option.some.inj hRefused)
    rw [hAfter]
    have hId : l.id = id := id_of_lock? hLock
    exact ⟨Registry.find?_put_of_find? hLock hId, rfl, rfl, hHeld⟩
  · rw [hRelease] at hRefused
    cases Option.some.inj hRefused

/-! ## What happens afterwards -/

/-- An alarm for the present hold wakes, and the platform accepts the release. -/
theorem callsAbout_after_wake {s : Scene} {id : Nat} {l : Running} {d : Deadline Nat}
    (hLock : s.lock? id = some l) (hRoused : d ∈ s.roused id) (hHeld : l.held = true)
    (hGeneration : l.generation = d.purpose)
    (hAnswer : s.host.answer (.releaseLock id) = .ok ()) :
    (s.after (.wake id d)).host.platform.callsAbout id =
      s.host.platform.callsAbout id ++ [.releaseLock id] := by
  obtain rfl : l.id = id := id_of_lock? hLock
  rw [after_of_act? (done_wake hRoused hLock)]
  dsimp only
  rcases l.wake_cases d.purpose s.host with ⟨hFree | hOther, _⟩ |
    ⟨h', hWake, _, _, _, hPlatform, _⟩ |
    ⟨e, _, _, _, _, hError, _⟩ | ⟨_, _, hError, _⟩
  · rw [hHeld] at hFree
    cases hFree
  · exact absurd hGeneration hOther
  · rw [hWake, hPlatform]
    exact Platform.callsAbout_attempt_self hAnswer rfl
  · exact nomatch hAnswer.symm.trans hError
  · exact nomatch hAnswer.symm.trans hError

/-- A lock that keeps silent is not released by itself. -/
theorem callsAbout_run_of_silent {s : Scene} {id generation : Nat} {v : View} {calls : List Call}
    (hView : s.view? id = some v) (hSilent : v.Silent generation calls) {later : List Action}
    (hAlone : ∀ a ∈ later, a.LeavesAlone id) :
    (s.run later).host.platform.callsAbout id = calls := by
  have hKept := run_keeps (fun s => ∃ v, s.view? id = some v ∧ v.Silent generation calls)
    (Action.LeavesAlone id) ?_ later s hAlone ⟨v, hView, hSilent⟩
  · obtain ⟨w, hThere, hStill⟩ := hKept
    rw [← hStill.calls_eq]
    obtain ⟨l, _, rfl⟩ := Option.map_eq_some_iff.mp hThere
    rfl
  · rintro s a ⟨hCall, hDrop⟩ ⟨v, hView, hSilent⟩
    obtain ⟨v', hAfter, hTurn⟩ := turn_of_view? hView hDrop
    have hId : v.lock.id = id := id_of_lock? (lock?_of_view? hView)
    exact ⟨v', hAfter, silent_of_turn hTurn (by rw [hId]; exact hCall) hSilent⟩

/-- A held lock whose alarm has been called off is released by an alarm exactly if the alarm of its
hold has been roused. -/
theorem released_iff_roused {s : Scene} {id due : Nat} {l : Running}
    (hLock : s.lock? id = some l) (hCoherent : l.Coherent (s.roused id)) (hHeld : l.held = true)
    (hDeadline : l.deadline = some due) (hPending : l.alarm.pending = none) :
    (∃ later, (∀ a ∈ later, Action.LeavesAlone id a) ∧
      (s.run later).host.platform.callsAbout id =
        s.host.platform.callsAbout id ++ [.releaseLock id]) ↔
      ⟨due, l.generation⟩ ∈ s.roused id := by
  constructor
  · rintro ⟨later, hAlone, hReleased⟩
    apply Decidable.byContradiction
    intro hNotRoused
    have hSilent : (s.viewOf id l).Silent l.generation (s.host.platform.callsAbout id) := by
      refine ⟨hPending, rfl, ?_, rfl⟩
      intro d hMem hPurpose
      apply hNotRoused
      rw [← hCoherent.eq_of_purpose_eq hMem hPurpose hDeadline]
      exact hMem
    rw [callsAbout_run_of_silent (view?_of_lock? hLock) hSilent hAlone] at hReleased
    cases List.self_eq_append_right.mp hReleased
  · intro hRoused
    -- The platform accepts releases again, and the alarm wakes.
    let healed := (s.after (.change (.heal .releaseLock))).after (.change (.restore .releaseLock))
    have hAnswer : healed.host.answer (.releaseLock id) = .ok () :=
      s.host.platform.answer_releaseLock_of_restored id
    have hWoken : (healed.after (.wake id ⟨due, l.generation⟩)).host.platform.callsAbout id =
        healed.host.platform.callsAbout id ++ [.releaseLock id] :=
      callsAbout_after_wake hLock hRoused hHeld rfl hAnswer
    refine ⟨[.change (.heal .releaseLock), .change (.restore .releaseLock),
      .wake id ⟨due, l.generation⟩], ?_, hWoken⟩
    intro a hMem
    simp only [List.mem_cons, List.not_mem_nil, or_false] at hMem
    rcases hMem with rfl | rfl | rfl <;> exact ⟨rfl, nofun⟩

/-- In every run, whatever the platform refuses: a hold that is refused leaves the lock, the host
and the roused alarms as they were. A release that is refused leaves all but the alarm as it was;
the lock is as it was exactly if no alarm was pending. A lock with a deadline whose release was
refused is still released by an alarm exactly if the alarm of its hold had already been roused. -/
theorem refusal_effects {s : Scene} (hReachable : s.Reachable) {id : Nat} {l : Running}
    (hLock : s.lock? id = some l) :
    (∀ timeout e, s.outcome? (.hold id timeout) = some (.error (.refused e)) →
      (s.after (.hold id timeout)).lock? id = some l ∧
      (s.after (.hold id timeout)).host = s.host ∧
      (s.after (.hold id timeout)).roused = s.roused) ∧
    (∀ e, s.outcome? (.release id) = some (.error (.refused e)) →
      (s.after (.release id)).host = s.host ∧
      (s.after (.release id)).roused = s.roused ∧
      (s.after (.release id)).lock? id = some l.calmed ∧
      (l.calmed = l ↔ l.hasPendingRelease = false) ∧
      ∀ due, l.deadline = some due →
        ((∃ later, (∀ a ∈ later, Action.LeavesAlone id a) ∧
          ((s.after (.release id)).run later).host.platform.callsAbout id =
            s.host.platform.callsAbout id ++ [.releaseLock id]) ↔
          ⟨due, l.generation⟩ ∈ s.roused id)) := by
  refine ⟨fun timeout e hRefused => refused_hold hLock hRefused, ?_⟩
  intro e hRefused
  obtain ⟨hCalmed, hHost, hRoused, hHeld⟩ := refused_release hLock hRefused
  refine ⟨hHost, hRoused, hCalmed, l.calmed_eq_iff, ?_⟩
  intro due hDeadline
  have hCoherent : l.calmed.Coherent ((s.after (.release id)).roused id) := by
    rw [hRoused]
    exact (coherent_of_lock? hReachable hLock).calmed
  have hReleased := released_iff_roused hCalmed hCoherent hHeld hDeadline rfl
  rw [hHost, hRoused] at hReleased
  exact hReleased

/-- A lock is held for a millisecond, and the platform begins to refuse releases. -/
def refusingReleases : List Action :=
  [.create "ab" .background, .hold 1 1, .change (.fail .releaseLock)]

/-- The lock that is then held. -/
def heldForMillisecond : Running :=
  { id := 1, name := "ab", kind := .background, held := true, deadline := some millisecond,
    generation := 1, alarm := ⟨some ⟨millisecond, 1⟩⟩ }

/-- A lock that is held for a millisecond loses its alarm with a refused release, and is not
released any more. -/
theorem alarm_lost_with_refused_release :
    (((start ⟨"", ""⟩ [.background]).run refusingReleases).after (.release 1)).lock? 1 =
        some heldForMillisecond.calmed ∧
      ¬ ∃ later, (∀ a ∈ later, Action.LeavesAlone 1 a) ∧
        ((((start ⟨"", ""⟩ [.background]).run refusingReleases).after (.release 1)).run
          later).host.platform.callsAbout 1 =
        ((start ⟨"", ""⟩ [.background]).run refusingReleases).host.platform.callsAbout 1 ++
          [.releaseLock 1] := by
  have hLock : ((start ⟨"", ""⟩ [.background]).run refusingReleases).lock? 1 =
      some heldForMillisecond := by decide +kernel
  have hEffects := refusal_effects (reachable_run ⟨"", ""⟩ [.background] refusingReleases) hLock
  obtain ⟨_, _, hCalmed, _, hReleased⟩ := hEffects.2 _ rfl
  refine ⟨hCalmed, ?_⟩
  rw [hReleased millisecond rfl]
  decide +kernel

/-- A release may be refused and change its lock all the same. -/
theorem refused_release_may_change :
    ¬ ∀ (s : Scene) (id : Nat) (l : Running) (e : Error), s.Reachable → s.lock? id = some l →
      s.outcome? (.release id) = some (.error (.refused e)) →
      (s.after (.release id)).lock? id = some l := by
  intro hNever
  have hSame := hNever ((start ⟨"", ""⟩ [.background]).run refusingReleases) 1 heldForMillisecond
    _ (reachable_run ⟨"", ""⟩ [.background] refusingReleases) (by decide +kernel) rfl
  revert hSame
  decide +kernel

end Scene

end Lock

end DevicePower
