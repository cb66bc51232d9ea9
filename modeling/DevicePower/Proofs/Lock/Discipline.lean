import DevicePower.Proofs.Lock.Account

/-!
# Holds and releases on the record of the platform

Three operations ask the platform to release a lock: a release, an alarm, and the end of the lock.
Each asks only while the lock counts as held, and then the last accepted call about the lock is its
hold. So on the record no release comes without a hold before it, and no hold is released twice.

## Main results

* `disciplined_attempt`: one more call keeps the order.
* `releases_follow_holds`: the record of every run is in order.
-/

namespace DevicePower

/-- Each release of a lock on record has a hold of the lock before it, and no other release in
between. -/
def Disciplined (id : Nat) (record : List Call) : Prop :=
  ∀ before after, record = before ++ .releaseLock id :: after →
    ∃ early name kind timeout late,
      before = early ++ .acquireLock id name kind timeout :: late ∧ .releaseLock id ∉ late

/-- A lock is held on the platform: its hold is on record, and no release after it. -/
theorem Platform.Acquired.split {p : Platform} {id : Nat} (h : p.Acquired id) :
    ∃ early name kind timeout late,
      p.calls = early ++ .acquireLock id name kind timeout :: late ∧ .releaseLock id ∉ late := by
  obtain ⟨name, kind, timeout, hLast⟩ := h
  obtain ⟨others, hAbout⟩ := List.getLast?_eq_some_iff.mp hLast
  obtain ⟨first, rest, hCalls, _, hRest⟩ := List.filter_eq_append_iff.mp hAbout
  obtain ⟨between, late, rfl, _, _, hLate⟩ := List.filter_eq_cons_iff.mp hRest
  refine ⟨first ++ between, name, kind, timeout, late, ?_, ?_⟩
  · rw [hCalls, List.append_assoc]
  · intro hMem
    have hNone := List.filter_eq_nil_iff.mp hLate _ hMem
    exact hNone (beq_self_eq_true (some id))

theorem disciplined_nil (id : Nat) : Disciplined id [] := by
  intro before after hEq
  cases before <;> cases hEq

/-- A record stays in order when a call is added, if a release is added only while the lock is held
on the platform. -/
theorem Disciplined.concat {id : Nat} {p : Platform} (h : Disciplined id p.calls) {c : Call}
    (hRelease : c = .releaseLock id → p.Acquired id) : Disciplined id (p.calls ++ [c]) := by
  intro before after hEq
  rcases List.eq_nil_or_concat after with rfl | ⟨after', last, rfl⟩
  · obtain ⟨hBefore, hCall⟩ := List.append_inj' hEq rfl
    rw [← hBefore]
    exact (hRelease (List.cons.inj hCall).1).split
  · rw [List.concat_eq_append, ← List.cons_append, ← List.append_assoc] at hEq
    exact h before after' (List.append_inj' hEq rfl).1

theorem disciplined_attempt {id : Nat} {p : Platform} (h : Disciplined id p.calls) {c : Call}
    (hRelease : c = .releaseLock id → p.Acquired id) : Disciplined id (p.attempt c).calls := by
  rw [Platform.calls_attempt]
  split
  · exact h.concat hRelease
  · rw [List.append_nil]
    exact h

namespace Lock.Scene

/-- An action keeps the order if each lock that counts as held is held on the platform. -/
theorem disciplined_after {s : Scene} {id : Nat} (a : Action)
    (hAcquired : ∀ l, s.lock? id = some l → l.held = true → s.host.platform.Acquired id)
    (h : Disciplined id s.host.platform.calls) :
    Disciplined id (s.after a).host.platform.calls := by
  rcases s.after_cases a with ⟨_, hSame⟩ | ⟨o, s', hAct, hAfter⟩
  · rw [hSame]
    exact h
  · rw [hAfter]
    dsimp only
    rcases platform_of_done (done_of_act? hAct) with hSame | ⟨asked, l, hLock, hAsked⟩ |
      ⟨c, _, hChanged⟩ | ⟨call, _, hNone, hCalled⟩
    · rw [hSame]
      exact h
    · generalize s'.host.platform = p' at hAsked
      cases hAsked with
      | nothing => exact h
      | acquire timeout => exact disciplined_attempt h nofun
      | release hHeld =>
        apply disciplined_attempt h
        intro hCall
        obtain rfl : l.id = id := Call.releaseLock.inj hCall
        obtain rfl : l.id = asked := id_of_lock? hLock
        exact hAcquired l hLock hHeld
    · rw [hChanged, Change.calls_apply]
      exact h
    · rw [hCalled]
      apply disciplined_attempt h
      rintro rfl
      cases hNone

theorem disciplined_run (origin : Log.Origin) (supported : List Kind) (id : Nat)
    (actions : List Action) :
    Disciplined id ((start origin supported).run actions).host.platform.calls := by
  refine run_induction (P := fun s => Disciplined id s.host.platform.calls) (disciplined_nil id) ?_
    actions
  intro earlier a hBefore
  apply disciplined_after a ?_ hBefore
  intro l hLock hHeld
  exact (acquired_iff_of_lock? (reachable_run origin supported earlier) hLock).mpr (Or.inl hHeld)

/-- In every run, with any calls refused or crashing at any time, each release of a lock that the
platform has accepted follows a hold of the lock with no other release in between, and a lock that
counts as held has its hold as the last accepted call. -/
theorem releases_follow_holds (origin : Log.Origin) (supported : List Kind)
    (actions : List Action) (id : Nat) :
    Disciplined id ((start origin supported).run actions).host.platform.calls ∧
      ∀ l, ((start origin supported).run actions).lock? id = some l → l.held = true →
        ((start origin supported).run actions).host.platform.Acquired id := by
  refine ⟨disciplined_run origin supported id actions, ?_⟩
  intro l hLock hHeld
  have hReachable := reachable_run origin supported actions
  exact (acquired_iff_of_lock? hReachable hLock).mpr (Or.inl hHeld)

end Lock.Scene

end DevicePower
