import DevicePower.Lock.Registry

/-!
# What each operation on a running lock can do

Every operation on a running lock asks the platform for at most one call. This module says, once for
each operation, which ends it can have: what was asked, what the platform answered, what the lock is
then and which calls about the lock are on record. What is said of locks elsewhere goes through
these lemmas and never through the bodies of the operations.

The record of the platform is read lock by lock: `callsAbout` are the accepted calls about one lock.

## Main results

* `hold_cases`, `release_cases`, `wake_cases`, `dropped_cases`: the ends of the four operations.
* `callsAbout_attempt_self`, `callsAbout_attempt_ne`: an accepted call is on record for its own lock
  and for no other.
* `hold_staysWithin`, `release_staysWithin`, `wake_staysWithin`, `asked_dropped`: an operation on a
  lock asks for that lock only, and for its release only while it is held.
-/

namespace DevicePower

/-- What is looked for is found after a filter that keeps it. -/
theorem find?_filter_of_imp {α : Type} {keep wanted : α → Bool}
    (h : ∀ x, wanted x = true → keep x = true) (xs : List α) :
    (xs.filter keep).find? wanted = xs.find? wanted := by
  rw [List.find?_filter]
  congr 1
  funext x
  cases hWanted : wanted x with
  | false => simp
  | true => simp [h x hWanted]

/-- The lock that a call is about. -/
def Call.lock? : Call → Option Nat
  | .acquireLock id _ _ _ => some id
  | .releaseLock id => some id
  | _ => none

namespace Platform

/-- The accepted calls about a lock, oldest first. -/
def callsAbout (p : Platform) (id : Nat) : List Call :=
  p.calls.filter fun c => c.lock? == some id

/-- The last accepted call about a lock. -/
def lastCallAbout? (p : Platform) (id : Nat) : Option Call := (p.callsAbout id).getLast?

theorem attempt_of_error {p : Platform} {c : Call} {f : Failure} (h : p.answer c = .error f) :
    p.attempt c = p := by
  unfold attempt
  rw [h]

theorem calls_attempt_of_ok {p : Platform} {c : Call} (h : p.answer c = .ok ()) :
    (p.attempt c).calls = p.calls ++ [c] := by
  unfold attempt
  rw [h]

/-- A call does not change what the platform accepts. -/
@[simp] theorem answer_attempt (p : Platform) (c other : Call) :
    (p.attempt c).answer other = p.answer other := by
  unfold attempt
  split <;> rfl

@[simp] theorem supported_attempt (p : Platform) (c : Call) :
    (p.attempt c).supported = p.supported := by
  unfold attempt
  split <;> rfl

/-- A hold of a kind that the platform does not support is not accepted. -/
theorem answer_acquireLock_ne_ok {p : Platform} {kind : Lock.Kind} (h : kind ∉ p.supported)
    (id : Nat) (name : String) (timeout : Nat) :
    p.answer (.acquireLock id name kind timeout) ≠ .ok () := by
  have hSupports : p.supports kind = false := by
    unfold supports
    exact Bool.eq_false_iff.mpr fun hMem => h (List.contains_iff_mem.mp hMem)
  unfold answer objection?
  dsimp only
  rw [hSupports]
  split <;> exact nofun

/-- An accepted call is on record for its own lock. -/
theorem callsAbout_attempt_self {p : Platform} {c : Call} {id : Nat} (h : p.answer c = .ok ())
    (hLock : c.lock? = some id) : (p.attempt c).callsAbout id = p.callsAbout id ++ [c] := by
  unfold callsAbout
  rw [calls_attempt_of_ok h, List.filter_append]
  simp [hLock]

/-- No call is on record for a lock that it is not about. -/
theorem callsAbout_attempt_ne (p : Platform) {c : Call} {id : Nat} (hLock : c.lock? ≠ some id) :
    (p.attempt c).callsAbout id = p.callsAbout id := by
  unfold callsAbout
  rw [calls_attempt, List.filter_append]
  split <;> simp [hLock]

end Platform

namespace Host

theorem attempt_of_error {h : Host} {c : Call} {f : Failure} (hAnswer : h.answer c = .error f) :
    h.attempt c = h := by
  unfold attempt
  rw [Platform.attempt_of_error hAnswer]

/-- A host at the same time as another, whose system starts the same threads. -/
structure Beside (h h' : Host) : Prop where
  now_eq : h'.now = h.now
  threadRefusal_eq : h'.threadRefusal = h.threadRefusal

theorem Beside.refl (h : Host) : h.Beside h := ⟨rfl, rfl⟩

theorem beside_askThread (h : Host) : h.Beside h.askThread := by
  unfold askThread
  cases hRefusal : h.threadRefusal with
  | none => exact .refl h
  | some reason => exact ⟨rfl, rfl⟩

end Host

namespace Lock

namespace Running

/-- The call that asks for a hold. -/
def acquireCall (l : Running) (timeout : Nat) : Call := .acquireLock l.id l.name l.kind timeout

/-- The call that gives a lock back. -/
def releaseCall (l : Running) : Call := .releaseLock l.id

/-- The lock with its alarm called off. -/
def calmed (l : Running) : Running := { l with alarm := l.alarm.cancel }

/-- The lock once an alarm for a generation has been dealt with. -/
def settled (l : Running) (generation : Nat) : Running :=
  { l with alarm := l.alarm.settle generation }

/-- The lock after a crash. -/
def hurt (l : Running) : Running := { l with damaged := true }

/-- How the platform answers an alarm. One that is set for another hold asks nothing. -/
def alarmOutcome (l : Running) (generation : Nat) (h : Host) : Outcome Unit :=
  if !l.held || l.generation != generation then .ok () else h.answer l.releaseCall

theorem alarmOutcome_of_stale {l : Running} {generation : Nat} (h : Host)
    (hStale : l.held = false ∨ l.generation ≠ generation) :
    l.alarmOutcome generation h = .ok () := by
  unfold alarmOutcome
  rw [if_pos (by simpa using hStale)]

theorem alarmOutcome_of_held {l : Running} {generation : Nat} (h : Host) (hHeld : l.held = true)
    (hGeneration : l.generation = generation) :
    l.alarmOutcome generation h = h.answer l.releaseCall := by
  unfold alarmOutcome
  rw [if_neg (by simp [hHeld, hGeneration])]

theorem isHolding_of_free {l : Running} (hFree : l.held = false) (now : Nat) :
    l.isHolding now = false := by
  unfold isHolding
  rw [hFree]
  rfl

@[simp] theorem id_afterFailure (l : Running) (f : Failure) : (l.afterFailure f).id = l.id := by
  cases f <;> rfl

/-! ## The ends of the four operations -/

/-- A hold is not accepted, or it is and its alarm, if there is one, can bear the name of the lock,
or it is accepted and crashes on its alarm. -/
theorem hold_cases (l : Running) (timeout : Nat) (h : Host) :
    (∃ f, h.answer (l.acquireCall timeout) = .error f ∧
      l.hold timeout h = (.error f, l.afterFailure f, h)) ∨
    (∃ h', l.hold timeout h = (.ok (), l.holding h.now timeout h.startsThreads, h') ∧
      h.answer (l.acquireCall timeout) = .ok () ∧ (timeout = 0 ∨ l.canBeAlarmed = true) ∧
      h'.platform = h.platform.attempt (l.acquireCall timeout) ∧ h.Beside h') ∨
    (h.answer (l.acquireCall timeout) = .ok () ∧ timeout ≠ 0 ∧ l.canBeAlarmed = false ∧
      l.hold timeout h =
        (.error .crashed, l.stranded h.now timeout, h.attempt (l.acquireCall timeout))) := by
  have hCall : Call.acquireLock l.id l.name l.kind timeout = l.acquireCall timeout := rfl
  unfold hold
  dsimp only
  rw [hCall]
  cases hAnswer : h.answer (l.acquireCall timeout) with
  | error f => exact Or.inl ⟨f, rfl, by simp only [Host.attempt_of_error hAnswer]⟩
  | ok u =>
    dsimp only
    by_cases hAlarm : timeout = 0 ∨ l.canBeAlarmed = true
    · rw [if_pos (by simpa using hAlarm)]
      refine Or.inr (Or.inl ⟨_, rfl, rfl, hAlarm, ?_, ?_⟩)
      · split <;> simp
      · split
        · exact ⟨rfl, rfl⟩
        · obtain ⟨hNow, hThreads⟩ := (h.attempt (l.acquireCall timeout)).beside_askThread
          exact ⟨hNow, hThreads⟩
    · rw [if_neg (by simpa using hAlarm)]
      obtain ⟨hTimeout, hName⟩ := not_or.mp hAlarm
      exact Or.inr (Or.inr ⟨rfl, hTimeout, Bool.eq_false_iff.mpr hName, rfl⟩)

/-- A release finds the lock not held, or is not accepted, or ends the hold. In each case the alarm
has been called off. -/
theorem release_cases (l : Running) (h : Host) :
    (l.held = false ∧ l.release h = (.ok (), l.calmed, h)) ∨
    (∃ f, l.held = true ∧ h.answer l.releaseCall = .error f ∧
      l.release h = (.error f, l.calmed.afterFailure f, h)) ∨
    (∃ h', l.release h = (.ok (), l.calmed.givenUp, h') ∧ l.held = true ∧
      h.answer l.releaseCall = .ok () ∧
      h'.platform = h.platform.attempt l.releaseCall ∧ h.Beside h') := by
  have hCall : Call.releaseLock l.id = l.releaseCall := rfl
  unfold release
  dsimp only
  rw [hCall]
  by_cases hHeld : l.held = true
  · rw [if_neg (by simp [hHeld])]
    cases hAnswer : h.answer l.releaseCall with
    | error f =>
      refine Or.inr (Or.inl ⟨f, hHeld, rfl, ?_⟩)
      dsimp only
      rw [Host.attempt_of_error hAnswer]
      rfl
    | ok u => exact Or.inr (Or.inr ⟨_, rfl, hHeld, rfl, rfl, ⟨rfl, rfl⟩⟩)
  · rw [if_pos (by simp [hHeld])]
    exact Or.inl ⟨Bool.eq_false_iff.mpr hHeld, rfl⟩

/-- An alarm is for another hold, or it ends the hold with the platform's consent, or it ends the
hold although the platform refuses, or it crashes. -/
theorem wake_cases (l : Running) (generation : Nat) (h : Host) :
    ((l.held = false ∨ l.generation ≠ generation) ∧
      l.wake generation h = (l.settled generation, h)) ∨
    (∃ h', l.wake generation h = (l.givenUp.settled generation, h') ∧ l.held = true ∧
      l.generation = generation ∧ h.answer l.releaseCall = .ok () ∧
      h'.platform = h.platform.attempt l.releaseCall ∧ h.Beside h') ∨
    (∃ e h', l.wake generation h = (l.givenUp.settled generation, h') ∧ l.held = true ∧
      l.generation = generation ∧ h.answer l.releaseCall = .error (.refused e) ∧
      h'.platform = h.platform ∧ h.Beside h') ∨
    (l.held = true ∧ l.generation = generation ∧ h.answer l.releaseCall = .error .crashed ∧
      l.wake generation h = (l.hurt.settled generation, h)) := by
  have hCall : Call.releaseLock l.id = l.releaseCall := rfl
  unfold wake expire
  dsimp only
  rw [hCall]
  by_cases hStale : l.held = false ∨ l.generation ≠ generation
  · rw [if_pos (by simpa using hStale)]
    exact Or.inl ⟨hStale, rfl⟩
  · rw [if_neg (by simpa using hStale)]
    obtain ⟨hNotFree, hSame⟩ := not_or.mp hStale
    have hHeld : l.held = true := eq_true_of_ne_false hNotFree
    have hGeneration : l.generation = generation := Decidable.not_not.mp hSame
    cases hAnswer : h.answer l.releaseCall with
    | ok u => exact Or.inr (Or.inl ⟨_, rfl, hHeld, hGeneration, rfl, rfl, ⟨rfl, rfl⟩⟩)
    | error f =>
      cases f with
      | refused e =>
        have hSamePlatform : (h.attempt l.releaseCall).platform = h.platform :=
          congrArg Host.platform (Host.attempt_of_error hAnswer)
        exact Or.inr (Or.inr (Or.inl
          ⟨e, _, rfl, hHeld, hGeneration, rfl, hSamePlatform, ⟨rfl, rfl⟩⟩))
      | crashed =>
        refine Or.inr (Or.inr (Or.inr ⟨hHeld, hGeneration, rfl, ?_⟩))
        dsimp only
        rw [Host.attempt_of_error hAnswer]
        rfl

/-- The end of a lock asks nothing if the lock is not held or is damaged. Otherwise it gives the
lock back, if the platform accepts that. -/
theorem dropped_cases (l : Running) (h : Host) :
    ((l.held = false ∨ l.damaged = true) ∧ l.dropped h = (.ok (), h)) ∨
    (l.held = true ∧ l.damaged = false ∧ h.answer l.releaseCall = .ok () ∧
      (l.dropped h).2.platform = h.platform.attempt l.releaseCall) ∨
    (∃ f, l.held = true ∧ l.damaged = false ∧ h.answer l.releaseCall = .error f ∧
      (l.dropped h).2.platform = h.platform) := by
  have hCall : Call.releaseLock l.id = l.releaseCall := rfl
  unfold dropped
  dsimp only
  rw [hCall]
  by_cases hQuiet : l.held = false ∨ l.damaged = true
  · rw [if_pos (by simpa using hQuiet)]
    exact Or.inl ⟨hQuiet, rfl⟩
  · rw [if_neg (by simpa using hQuiet)]
    obtain ⟨hNotFree, hNotDamaged⟩ := not_or.mp hQuiet
    have hHeld : l.held = true := eq_true_of_ne_false hNotFree
    have hWhole : l.damaged = false := Bool.eq_false_iff.mpr hNotDamaged
    cases hAnswer : h.answer l.releaseCall with
    | ok u => exact Or.inr (Or.inl ⟨hHeld, hWhole, rfl, rfl⟩)
    | error f =>
      have hSamePlatform : (h.attempt l.releaseCall).platform = h.platform :=
        congrArg Host.platform (Host.attempt_of_error hAnswer)
      refine Or.inr (Or.inr ⟨f, hHeld, hWhole, rfl, ?_⟩)
      cases f with
      | refused e => exact hSamePlatform
      | crashed => exact hSamePlatform

/-! ## Nothing else is touched -/

/-- The platform was asked for nothing, or for a hold of the lock, or for the release of the lock
while it was held. -/
inductive Asked (l : Running) (p : Platform) : Platform → Prop where
  | nothing : Asked l p p
  | acquire (timeout : Nat) : Asked l p (p.attempt (l.acquireCall timeout))
  | release : l.held = true → Asked l p (p.attempt l.releaseCall)

/-- What is asked for one lock is not on record for another. -/
theorem Asked.callsAbout_eq {l : Running} {p p' : Platform} (h : l.Asked p p') {other : Nat}
    (hOther : other ≠ l.id) : p'.callsAbout other = p.callsAbout other := by
  have hNe : some l.id ≠ some other := fun hEq => hOther (Option.some.inj hEq).symm
  cases h with
  | nothing => rfl
  | acquire timeout => exact Platform.callsAbout_attempt_ne p hNe
  | release _ => exact Platform.callsAbout_attempt_ne p hNe

/-- Asking changes neither what the platform accepts nor which kinds it supports. -/
theorem Asked.answer_eq {l : Running} {p p' : Platform} (h : l.Asked p p') (call : Call) :
    p'.answer call = p.answer call := by
  cases h with
  | nothing => rfl
  | acquire timeout => exact Platform.answer_attempt p _ call
  | release _ => exact Platform.answer_attempt p _ call

theorem Asked.supported_eq {l : Running} {p p' : Platform} (h : l.Asked p p') :
    p'.supported = p.supported := by
  cases h with
  | nothing => rfl
  | acquire timeout => exact Platform.supported_attempt p _
  | release _ => exact Platform.supported_attempt p _

/-- An operation on a lock keeps its number and asks the platform for that lock only. It touches
neither the clock nor the threads. -/
structure StaysWithin (l : Running) (h : Host) (l' : Running) (h' : Host) : Prop where
  id_eq : l'.id = l.id
  asked : l.Asked h.platform h'.platform
  beside : h.Beside h'

theorem hold_staysWithin (l : Running) (timeout : Nat) (h : Host) :
    l.StaysWithin h (l.hold timeout h).2.1 (l.hold timeout h).2.2 := by
  rcases l.hold_cases timeout h with ⟨f, _, hEq⟩ | ⟨h', hEq, _, _, hPlatform, hBeside⟩ |
    ⟨_, _, _, hEq⟩
  · rw [hEq]
    exact ⟨l.id_afterFailure f, .nothing, .refl h⟩
  · rw [hEq]
    exact ⟨rfl, hPlatform ▸ .acquire timeout, hBeside⟩
  · rw [hEq]
    exact ⟨rfl, .acquire timeout, ⟨rfl, rfl⟩⟩

theorem release_staysWithin (l : Running) (h : Host) :
    l.StaysWithin h (l.release h).2.1 (l.release h).2.2 := by
  rcases l.release_cases h with ⟨_, hEq⟩ | ⟨f, _, _, hEq⟩ |
    ⟨h', hEq, hHeld, _, hPlatform, hBeside⟩
  · rw [hEq]
    exact ⟨rfl, .nothing, .refl h⟩
  · rw [hEq]
    exact ⟨l.calmed.id_afterFailure f, .nothing, .refl h⟩
  · rw [hEq]
    exact ⟨rfl, hPlatform ▸ .release hHeld, hBeside⟩

theorem wake_staysWithin (l : Running) (generation : Nat) (h : Host) :
    l.StaysWithin h (l.wake generation h).1 (l.wake generation h).2 := by
  rcases l.wake_cases generation h with ⟨_, hEq⟩ | ⟨h', hEq, hHeld, _, _, hPlatform, hBeside⟩ |
    ⟨e, h', hEq, _, _, _, hPlatform, hBeside⟩ | ⟨_, _, _, hEq⟩
  · rw [hEq]
    exact ⟨rfl, .nothing, .refl h⟩
  · rw [hEq]
    exact ⟨rfl, hPlatform ▸ .release hHeld, hBeside⟩
  · rw [hEq]
    exact ⟨rfl, hPlatform ▸ .nothing, hBeside⟩
  · rw [hEq]
    exact ⟨rfl, .nothing, .refl h⟩

/-- The end of a lock asks for its release at most. -/
theorem asked_dropped (l : Running) (h : Host) : l.Asked h.platform (l.dropped h).2.platform := by
  rcases l.dropped_cases h with ⟨_, hEq⟩ | ⟨hHeld, _, _, hPlatform⟩ | ⟨f, _, _, _, hPlatform⟩
  · rw [hEq]
    exact .nothing
  · rw [hPlatform]
    exact .release hHeld
  · rw [hPlatform]
    exact .nothing

/-- The end of a lock touches neither the clock nor the threads. -/
theorem beside_dropped (l : Running) (h : Host) : h.Beside (l.dropped h).2 := by
  unfold dropped
  dsimp only
  split
  · exact .refl h
  · split <;> exact ⟨rfl, rfl⟩

end Running

end Lock

end DevicePower
