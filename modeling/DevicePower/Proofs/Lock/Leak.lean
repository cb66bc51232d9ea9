import DevicePower.Proofs.Lock.Account

/-!
# Locks that the platform keeps

When the last handle of a lock goes, a lock that counts as held is released. What the platform holds
but the lock does not count stays held for ever, since the number of the lock is not given again.
There are two ways to get there. An alarm may have given its hold up although the platform refused
the release. Or something crashed in an operation on the lock, and a damaged lock counts as not
held.

## Main results

* `acquired_after_dropped`: what the end of a lock leaves on the platform.
* `acquired_after_last_drop_iff`: exactly which locks the platform keeps, in terms of their history.
-/

namespace DevicePower

theorem Platform.answer_of_accepts {p : Platform} {c : Call} (h : p.accepts c = true) :
    p.answer c = .ok () := by
  unfold accepts at h
  cases hAnswer : p.answer c with
  | ok u => rfl
  | error f =>
    rw [hAnswer] at h
    cases h

namespace Lock

/-- On a platform that accepts releases, the end of a lock leaves the platform holding it if the
platform held it before and the lock did not count as held or was damaged. -/
theorem acquired_after_dropped (l : Running) {h : Host}
    (hAccepts : h.platform.accepts l.releaseCall = true) :
    (l.dropped h).2.platform.Acquired l.id ↔
      h.platform.Acquired l.id ∧ (l.held = false ∨ l.damaged = true) := by
  have hAnswer : h.answer l.releaseCall = .ok () := Platform.answer_of_accepts hAccepts
  rcases l.dropped_cases h with ⟨hQuiet, hEq⟩ | ⟨hHeld, hWhole, _, hPlatform⟩ |
    ⟨f, _, _, hError, _⟩
  · rw [hEq]
    exact ⟨fun hAcquired => ⟨hAcquired, hQuiet⟩, And.left⟩
  · rw [hPlatform]
    constructor
    · rintro ⟨name, kind, timeout, hLast⟩
      unfold Platform.lastCallAbout? at hLast
      rw [Platform.callsAbout_attempt_self hAnswer rfl, List.getLast?_concat] at hLast
      cases Option.some.inj hLast
    · rintro ⟨_, hFree | hDamaged⟩
      · rw [hHeld] at hFree
        cases hFree
      · rw [hWhole] at hDamaged
        cases hDamaged
  · rw [hAnswer] at hError
    cases hError

namespace Scene

/-- When a lock goes with a handle, the platform is as the end of the lock leaves it. -/
theorem platform_after_last_drop {s : Scene} {id : Nat} {l : Running} (hLock : s.lock? id = some l)
    (hLast : (s.after (.drop id)).lock? id = none) :
    (s.after (.drop id)).host.platform = (l.dropped s.host).2.platform := by
  have hAfter : s.after (.drop id) = _ := after_of_act? rfl
  rw [hAfter] at hLast ⊢
  dsimp only [lock?] at hLast ⊢
  rcases s.registry.drop_cases id s.host with ⟨hNone, _⟩ | ⟨r', hEq, _, _, hFind⟩ |
    ⟨found, r', hThere, hEq, _⟩
  · exact nomatch hLock.symm.trans hNone
  · rw [hEq] at hLast
    exact nomatch (hLock.symm.trans (hFind id).symm).trans hLast
  · obtain rfl := Option.some.inj (hThere.symm.trans hLock)
    rw [hEq]

/-- In every run, whatever fails meanwhile: after the last handle of a lock has gone on a platform
that accepts releases, the platform still holds the lock exactly when an alarm gave its hold up
against the platform and nothing was accepted for it since, or when it counts as held and an
operation on it crashed. -/
theorem acquired_after_last_drop_iff {s : Scene} (hReachable : s.Reachable) {id : Nat} {l : Running}
    (hLock : s.lock? id = some l) (hLast : (s.after (.drop id)).lock? id = none)
    (hAccepts : s.host.platform.accepts (.releaseLock id) = true) :
    (s.after (.drop id)).host.platform.Acquired id ↔
      abandoned (s.historyOf id) = true ∨
      (l.held = true ∧ ∃ e ∈ s.historyOf id, e.outcome = .error .crashed) := by
  have hAccounted := accounted_of_lock? hReachable hLock
  have hBefore := acquired_iff_of_lock? hReachable hLock
  rw [platform_after_last_drop hLock hLast]
  obtain rfl : l.id = id := id_of_lock? hLock
  have hCrashed : l.damaged = true ↔ ∃ e ∈ s.historyOf l.id, e.outcome = .error .crashed :=
    hAccounted.damaged_iff
  rw [acquired_after_dropped l hAccepts, hBefore, ← hCrashed]
  constructor
  · rintro ⟨hHeld | hAbandoned, hNotReleased⟩
    · refine Or.inr ⟨hHeld, ?_⟩
      exact hNotReleased.resolve_left (by rw [hHeld]; exact Bool.noConfusion)
    · exact Or.inl hAbandoned
  · rintro (hAbandoned | ⟨hHeld, hDamaged⟩)
    · refine ⟨Or.inr hAbandoned, Or.inl ?_⟩
      -- A lock whose hold was abandoned does not count as held.
      cases hHeld : l.held with
      | false => rfl
      | true => exact nomatch hAbandoned.symm.trans (hAccounted.not_abandoned hHeld)
    · exact ⟨Or.inl hHeld, Or.inr hDamaged⟩

/-- A lock is held for a millisecond, the platform refuses the release by the alarm, and only then
accepts releases again. -/
def refusedAlarm : List Action :=
  [.create "ab" .background, .hold 1 1, .change (.fail .releaseLock), .pass millisecond, .rouse 1,
    .wake 1 ⟨millisecond, 1⟩, .change (.heal .releaseLock)]

/-- The platform keeps a lock whose alarm it refused. -/
theorem acquired_after_refused_alarm :
    (((start ⟨"", ""⟩ [.background]).run refusedAlarm).after (.drop 1)).host.platform.Acquired 1 :=
  (acquired_after_last_drop_iff (reachable_run ⟨"", ""⟩ [.background] refusedAlarm)
    (l := { id := 1, name := "ab", kind := .background, generation := 2 })
    (by decide +kernel) (by decide +kernel) (by decide +kernel)).mpr (Or.inl (by decide +kernel))

/-- A lock may stay held on the platform after its last handle has gone, although the platform
accepts releases. -/
theorem last_drop_may_leave_acquired :
    ¬ ∀ (s : Scene) (id : Nat) (l : Running), s.Reachable → s.lock? id = some l →
      (s.after (.drop id)).lock? id = none →
      s.host.platform.accepts (.releaseLock id) = true →
      ¬ (s.after (.drop id)).host.platform.Acquired id := by
  intro hNever
  apply hNever ((start ⟨"", ""⟩ [.background]).run refusedAlarm) 1
    { id := 1, name := "ab", kind := .background, generation := 2 }
  · exact reachable_run ⟨"", ""⟩ [.background] refusedAlarm
  · decide +kernel
  · decide +kernel
  · decide +kernel
  · exact ⟨"ab", .background, 1, by decide +kernel⟩

end Scene

end Lock

end DevicePower
