import DevicePower.Proofs.Lock.Turn

/-!
# A lock and its alarms

An alarm can wake late, so the lock cannot trust it. What it can trust are the generations: they
only grow, and an alarm is set for the generation of its hold. This module says what a lock, its
pending alarm and its roused alarms have in common at any time, and that every turn keeps it.

## Main results

* `coherent_of_turn`, `coherent_of_lock?`: the lock and its alarms fit together in every run.
* `settled_of_stale`: an alarm that is not for the present hold finds nothing to change.
-/

namespace DevicePower.Lock

namespace Running

/-- A lock fits to its roused alarms. -/
structure Coherent (l : Running) (roused : List (Deadline Nat)) : Prop where
  /-- The pending alarm is for the present hold. -/
  of_pending : ∀ d, l.alarm.pending = some d →
    l.held = true ∧ l.deadline = some d.due ∧ d.purpose = l.generation
  /-- A roused alarm is for no later hold. -/
  purpose_le : ∀ d ∈ roused, d.purpose ≤ l.generation
  /-- A roused alarm for the present generation is for the present hold. -/
  of_roused : ∀ d ∈ roused, d.purpose = l.generation → l.held = true ∧ l.deadline = some d.due
  /-- Only a hold has a deadline. -/
  of_unheld : l.held = false → l.deadline = none

namespace Coherent

variable {l : Running} {roused : List (Deadline Nat)}

theorem pending_eq_none (h : l.Coherent roused) (hHeld : l.held = false) :
    l.alarm.pending = none := by
  cases hPending : l.alarm.pending with
  | none => rfl
  | some d =>
    have hIsHeld := (h.of_pending d hPending).1
    rw [hHeld] at hIsHeld
    cases hIsHeld

/-- A roused alarm of the present generation is the one that the hold was given. -/
theorem eq_of_purpose_eq (h : l.Coherent roused) {d : Deadline Nat} (hRoused : d ∈ roused)
    (hPurpose : d.purpose = l.generation) {due : Nat} (hDeadline : l.deadline = some due) :
    d = ⟨due, l.generation⟩ := by
  obtain ⟨_, hDue⟩ := h.of_roused d hRoused hPurpose
  cases d
  simp_all

/-- An alarm that is not for the present hold finds nothing to change. -/
theorem settled_of_stale (h : l.Coherent roused) {generation : Nat}
    (hStale : l.held = false ∨ l.generation ≠ generation) : l.settled generation = l := by
  have hAlarm : l.alarm.settle generation = l.alarm := by
    unfold Timer.settle
    cases hPending : l.alarm.pending with
    | none => rw [Option.filter_none, ← hPending]
    | some d =>
      obtain ⟨hHeld, _, hPurpose⟩ := h.of_pending d hPending
      have hNe : d.purpose ≠ generation := by
        rw [hPurpose]
        exact hStale.resolve_left (by rw [hHeld]; exact Bool.noConfusion)
      rw [Option.filter_some, if_pos (decide_eq_true hNe), ← hPending]
  unfold settled
  rw [hAlarm]

/-- The alarm of the present hold is used up when it has been dealt with. -/
theorem pending_settle (h : l.Coherent roused) {generation : Nat}
    (hGeneration : l.generation = generation) : (l.alarm.settle generation).pending = none := by
  subst hGeneration
  unfold Timer.settle
  cases hPending : l.alarm.pending with
  | none => rfl
  | some d =>
    obtain ⟨_, _, hPurpose⟩ := h.of_pending d hPending
    rw [Option.filter_some, if_neg (by simp [hPurpose])]

/-! ## What keeps a lock and its alarms together -/

/-- What an alarm does not see may change. -/
theorem congr (h : l.Coherent roused) {l' : Running} (hHeld : l'.held = l.held)
    (hDeadline : l'.deadline = l.deadline) (hGeneration : l'.generation = l.generation)
    (hAlarm : l'.alarm.pending = l.alarm.pending ∨ l'.alarm.pending = none) :
    l'.Coherent roused := by
  refine ⟨?_, ?_, ?_, ?_⟩
  · intro d hPending
    rw [hHeld, hDeadline, hGeneration]
    rcases hAlarm with hSame | hNone
    · exact h.of_pending d (hSame ▸ hPending)
    · rw [hNone] at hPending
      cases hPending
  · rw [hGeneration]
    exact h.purpose_le
  · rw [hHeld, hDeadline, hGeneration]
    exact h.of_roused
  · rw [hHeld, hDeadline]
    exact h.of_unheld

/-- Fewer alarms fit as well. -/
theorem subset (h : l.Coherent roused) {fewer : List (Deadline Nat)}
    (hFewer : ∀ d ∈ fewer, d ∈ roused) : l.Coherent fewer where
  of_pending := h.of_pending
  purpose_le d hMem := h.purpose_le d (hFewer d hMem)
  of_roused d hMem := h.of_roused d (hFewer d hMem)
  of_unheld := h.of_unheld

/-- The pending alarm is roused. -/
theorem cons (h : l.Coherent roused) {d : Deadline Nat} (hPending : l.alarm.pending = some d) :
    l.Coherent (d :: roused) := by
  obtain ⟨hHeld, hDeadline, hPurpose⟩ := h.of_pending d hPending
  refine ⟨h.of_pending, ?_, ?_, h.of_unheld⟩
  · intro d' hMem
    rcases List.mem_cons.mp hMem with rfl | hBefore
    · exact Nat.le_of_eq hPurpose
    · exact h.purpose_le d' hBefore
  · intro d' hMem hCurrent
    rcases List.mem_cons.mp hMem with rfl | hBefore
    · exact ⟨hHeld, hDeadline⟩
    · exact h.of_roused d' hBefore hCurrent

/-- In a new generation no roused alarm counts any more. -/
theorem next (h : l.Coherent roused) {l' : Running} (hGeneration : l'.generation = l.generation + 1)
    (hPending : ∀ d, l'.alarm.pending = some d →
      l'.held = true ∧ l'.deadline = some d.due ∧ d.purpose = l'.generation)
    (hUnheld : l'.held = false → l'.deadline = none) : l'.Coherent roused := by
  refine ⟨hPending, ?_, ?_, hUnheld⟩
  · intro d hMem
    have hLe := h.purpose_le d hMem
    omega
  · intro d hMem hPurpose
    have hLe := h.purpose_le d hMem
    omega

theorem holding (h : l.Coherent roused) (now timeout : Nat) (started : Bool) :
    (l.holding now timeout started).Coherent roused := by
  refine h.next rfl ?_ nofun
  intro d hPending
  rw [pending_holding] at hPending
  split at hPending
  case isTrue hSet =>
    cases hPending
    exact ⟨rfl, if_neg hSet.1, rfl⟩
  case isFalse => cases hPending

theorem stranded (h : l.Coherent roused) (now timeout : Nat) :
    (l.stranded now timeout).Coherent roused :=
  (h.holding now timeout false).congr rfl rfl rfl (Or.inl rfl)

theorem released (h : l.Coherent roused) : l.calmed.givenUp.Coherent roused :=
  h.next rfl nofun fun _ => rfl

/-- An alarm ends its hold. -/
theorem ended (h : l.Coherent roused) {generation : Nat} (hGeneration : l.generation = generation) :
    (l.givenUp.settled generation).Coherent roused := by
  refine h.next rfl ?_ fun _ => rfl
  intro d hPending
  have hNone : (l.givenUp.settled generation).alarm.pending = none := h.pending_settle hGeneration
  rw [hNone] at hPending
  cases hPending

theorem afterFailure (h : l.Coherent roused) (f : Failure) :
    (l.afterFailure f).Coherent roused := by
  cases f with
  | refused e => exact h
  | crashed => exact h.congr rfl rfl rfl (Or.inl rfl)

theorem calmed (h : l.Coherent roused) : l.calmed.Coherent roused :=
  h.congr rfl rfl rfl (Or.inr rfl)

/-- An alarm crashes and is used up all the same. -/
theorem crashed (h : l.Coherent roused) {generation : Nat}
    (hGeneration : l.generation = generation) : (l.hurt.settled generation).Coherent roused :=
  h.congr rfl rfl rfl (Or.inr (h.pending_settle hGeneration))

end Coherent

theorem coherent_fresh (id : Nat) (name : String) (kind : Kind) (now : Nat) :
    Coherent { id, name, kind, created := now } [] :=
  ⟨nofun, nofun, nofun, fun _ => rfl⟩

end Running

/-- Every turn keeps the lock and its alarms together. -/
theorem coherent_of_turn {h : Host} {v v' : View} {a : Action} (hTurn : Turn h v a v')
    (hCoherent : v.lock.Coherent v.roused) : v'.lock.Coherent v'.roused := by
  -- An alarm that has woken is gone from the roused ones.
  have hWoken : ∀ d : Deadline Nat, ∀ e ∈ v.roused.filter (· ≠ d), e ∈ v.roused :=
    fun _ _ hMem => (List.mem_filter.mp hMem).1
  cases hTurn with
  | idle _ => exact hCoherent
  | holdFailed timeout f _ => exact hCoherent.afterFailure f
  | held timeout _ _ => exact hCoherent.holding h.now timeout _
  | stranded timeout _ _ _ => exact hCoherent.stranded h.now timeout
  | calmed _ => exact hCoherent.calmed
  | releaseFailed f _ _ => exact hCoherent.calmed.afterFailure f
  | released _ _ => exact hCoherent.released
  | roused d hDue _ => exact hCoherent.cons (Option.filter_eq_some_iff.mp hDue).1
  | stale d _ hStale =>
    dsimp only [View.quiet]
    rw [hCoherent.settled_of_stale hStale]
    exact hCoherent.subset (hWoken d)
  | expired d _ _ hGeneration _ => exact (hCoherent.ended hGeneration).subset (hWoken d)
  | abandoned d _ _ _ hGeneration _ => exact (hCoherent.ended hGeneration).subset (hWoken d)
  | wakeCrashed d _ _ hGeneration _ => exact (hCoherent.crashed hGeneration).subset (hWoken d)

namespace Scene

/-- In every run every lock fits to its alarms. -/
theorem coherent_of_lock? {s : Scene} (hReachable : s.Reachable) {id : Nat} {l : Running}
    (hLock : s.lock? id = some l) : l.Coherent (s.roused id) := by
  obtain ⟨origin, supported, actions, rfl⟩ := hReachable
  exact views_run (P := fun v => v.lock.Coherent v.roused)
    (fun id name kind now _ => Running.coherent_fresh id name kind now)
    (fun _ _ _ _ hCoherent hTurn => coherent_of_turn hTurn hCoherent) origin supported actions
    id _ (view?_of_lock? hLock)

end Scene

end DevicePower.Lock
