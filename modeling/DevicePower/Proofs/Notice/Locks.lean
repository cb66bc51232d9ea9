import DevicePower.Proofs.Notice.Traffic
import Mathlib.Algebra.GroupWithZero.Nat

/-!
# The locks of the sessions

Threads wait for the locks of sessions. A thread that has a lock is never waiting for another one,
so the threads cannot block each other, and each of them has only so many steps ahead. So in
whatever order they are given turns, all of them come to their end.

## Main results

* `Locked.exclusive`: two threads that have the same lock are one.
* `Locked.isDone_of_stuck`: threads of which none can go on have nothing left to do.
* `trace_length_run`: how many steps a run can have.
-/

namespace DevicePower.Notice

namespace Thread

variable {listing : Listing} {s s' : Shared} {thread thread' : Thread} {deed : Deed}

/-- A step takes a lock that is free, or releases the one that the thread has, or does neither. -/
theorem Step.holds_cases (h : Step listing s thread s' thread' deed) :
    (thread'.holds = thread.holds ∧ s'.taken = s.taken) ∨
    (∃ id, thread.holds = none ∧ thread'.holds = some id ∧ id ∉ s.taken ∧
      s'.taken = id :: s.taken) ∨
    (∃ id, thread.holds = some id ∧ thread'.holds = none ∧ s'.taken = s.taken.erase id) := by
  cases h with
  | counted hFree => exact Or.inr (Or.inl ⟨_, rfl, rfl, hFree, rfl⟩)
  | locked hFree => exact Or.inr (Or.inl ⟨_, rfl, rfl, hFree, rfl⟩)
  | left => exact Or.inr (Or.inr ⟨_, rfl, rfl, rfl⟩)
  | unlocked => exact Or.inr (Or.inr ⟨_, rfl, rfl, rfl⟩)
  | @turned a => exact Or.inl ⟨rfl, by cases a <;> rfl⟩
  | _ => exact Or.inl ⟨rfl, rfl⟩

/-- A thread that cannot go on has nothing left to do, or waits for a lock that is held. -/
theorem waits_of_stuck (h : thread.step? listing s = none) :
    thread.isDone = true ∨ ∃ id, thread.needs = some id ∧ id ∈ s.taken := by
  cases thread with
  | request r data stage =>
    have hStage := Option.map_eq_none_iff.mp h
    cases stage with
    | arrived =>
      rw [Shared.request?] at hStage
      split at hStage
      · cases hStage
      · split at hStage
        · cases hStage
        · split at hStage <;> cases hStage
    | admitted c =>
      rw [Shared.request?] at hStage
      split at hStage
      · next hTaken => exact Or.inr ⟨_, rfl, hTaken⟩
      · cases hStage
    | calling c left refused =>
      cases left with
      | cons call left => cases hStage
      | nil =>
        rw [Shared.request?] at hStage
        split at hStage <;> cases hStage
    | answered reply => exact Or.inl rfl
    | counted c => cases hStage
    | cleared c => cases hStage
    | leaving reply => cases hStage
  | userCancel event stage =>
    have hStage := Option.map_eq_none_iff.mp h
    cases stage with
    | ended outcome => exact Or.inl rfl
    | arrived => cases hStage
    | calling left => cases left <;> cases hStage
    | marking left => cases left <;> cases hStage
  | destroy stage =>
    have hStage := Option.map_eq_none_iff.mp h
    cases stage with
    | retiring left =>
      cases left with
      | nil => cases hStage
      | cons id left =>
        rw [Shared.destroy?] at hStage
        split at hStage
        · next hTaken => exact Or.inr ⟨id, rfl, hTaken⟩
        · cases hStage
    | ended outcome => exact Or.inl rfl
    | arrived => cases hStage
    | holding id left => cases hStage
    | leaving id left => cases hStage
    | calling left => cases left <;> cases hStage
  | aside script =>
    cases script with
    | nil => exact Or.inl rfl
    | cons a rest => cases h

/-- A thread that has a lock does not wait for one, and has something left to do. -/
theorem goes_on_of_holds {id : ConnectId} (h : thread.holds = some id) :
    thread.isDone = false ∧ thread.needs = none := by
  cases thread with
  | request r data stage => cases stage <;> first | exact ⟨rfl, rfl⟩ | exact nomatch h
  | userCancel event stage => exact nomatch h
  | destroy stage => cases stage <;> first | exact ⟨rfl, rfl⟩ | exact nomatch h
  | aside script => exact nomatch h

end Thread

namespace Traffic

variable {t : Traffic} {i j : Nat} {thread other : Thread}

/-- A step exchanges one thread. -/
theorem threads_stepped (h : t.threads[i]? = some thread) (s : Shared) (thread' : Thread)
    (deed : Deed) :
    ∃ front back, t.threads = front ++ thread :: back ∧
      (t.stepped i s thread' deed).threads = front ++ thread' :: back := by
  obtain ⟨hLength, hThread⟩ := List.getElem?_eq_some_iff.mp h
  obtain ⟨front, back, hBefore, -, hAfter⟩ :
      ∃ front back, t.threads = front ++ t.threads[i] :: back ∧ front.length = i ∧
        t.threads.set i thread' = front ++ thread' :: back := List.exists_of_set hLength
  rw [hThread] at hBefore
  exact ⟨front, back, hBefore, hAfter⟩

/-- The locks that the threads have. -/
def held (t : Traffic) : List ConnectId := t.threads.filterMap Thread.holds

/-- The locks that are held are those that the threads have, and no two threads have the same. -/
structure Locked (t : Traffic) : Prop where
  perm : t.held.Perm t.shared.taken
  nodup : t.held.Nodup

theorem locked_start (s : Scene) (listing : Listing) (arrivals : List Arrival) :
    (start s listing arrivals).Locked := by
  have hNone : (start s listing arrivals).held = [] := by
    apply List.filterMap_eq_nil_iff.mpr
    intro thread hMem
    obtain ⟨arrival, -, rfl⟩ := List.mem_map.mp hMem
    cases arrival <;> rfl
  exact ⟨List.Perm.of_eq hNone, hNone ▸ List.nodup_nil⟩

theorem Locked.stepped {s : Shared} {thread' : Thread} {deed : Deed} (h : t.Locked)
    (hThread : t.threads[i]? = some thread)
    (hStep : Thread.Step t.listing t.shared thread s thread' deed) :
    (t.stepped i s thread' deed).Locked := by
  obtain ⟨front, back, hBefore, hAfter⟩ := threads_stepped hThread s thread' deed
  have hHeld : t.held =
      front.filterMap Thread.holds ++ (thread.holds.toList ++ back.filterMap Thread.holds) := by
    unfold held
    rw [hBefore, List.filterMap_append, List.filterMap_cons]
    cases thread.holds <;> rfl
  have hHeld' : (t.stepped i s thread' deed).held =
      front.filterMap Thread.holds ++ (thread'.holds.toList ++ back.filterMap Thread.holds) := by
    unfold held
    rw [hAfter, List.filterMap_append, List.filterMap_cons]
    cases thread'.holds <;> rfl
  have hTaken : (t.stepped i s thread' deed).shared.taken = s.taken := rfl
  rcases hStep.holds_cases with ⟨hSame, hSame'⟩ | ⟨id, hFirst, hThen, hFree, hMore⟩ |
    ⟨id, hFirst, hThen, hLess⟩
  · have hEq : (t.stepped i s thread' deed).held = t.held := by rw [hHeld', hHeld, hSame]
    exact ⟨by rw [hEq, hTaken, hSame']; exact h.perm, hEq ▸ h.nodup⟩
  · rw [hFirst] at hHeld
    rw [hThen] at hHeld'
    have hPerm : (t.stepped i s thread' deed).held.Perm (id :: t.held) := by
      rw [hHeld', hHeld]
      exact List.perm_middle
    have hNew : id ∉ t.held := fun hMem => hFree (h.perm.mem_iff.mp hMem)
    refine ⟨?_, hPerm.nodup_iff.mpr (List.nodup_cons.mpr ⟨hNew, h.nodup⟩)⟩
    rw [hTaken, hMore]
    exact hPerm.trans (h.perm.cons id)
  · rw [hFirst] at hHeld
    rw [hThen] at hHeld'
    have hPerm : t.held.Perm (id :: (t.stepped i s thread' deed).held) := by
      rw [hHeld', hHeld]
      exact List.perm_middle
    refine ⟨?_, (List.nodup_cons.mp (hPerm.nodup_iff.mp h.nodup)).2⟩
    rw [hTaken, hLess]
    have hErased := (hPerm.symm.trans h.perm).erase id
    rwa [List.erase_cons_head] at hErased

theorem locked_run (s : Scene) (listing : Listing) (arrivals : List Arrival) (schedule : List Nat) :
    ((start s listing arrivals).run schedule).Locked :=
  run_keeps (P := Locked) (fun _ _ _ _ _ _ hBefore hThread hStep => hBefore.stepped hThread hStep)
    schedule (locked_start s listing arrivals)

/-- Two threads that have the same lock are one. -/
theorem Locked.exclusive {id : ConnectId} (h : t.Locked) (hThread : t.threads[i]? = some thread)
    (hOther : t.threads[j]? = some other) (hHolds : thread.holds = some id)
    (hHolds' : other.holds = some id) : i = j := by
  obtain ⟨hLength, rfl⟩ := List.getElem?_eq_some_iff.mp hThread
  obtain ⟨hLength', rfl⟩ := List.getElem?_eq_some_iff.mp hOther
  have hDistinct := List.pairwise_iff_getElem.mp (List.pairwise_filterMap.mp h.nodup)
  rcases Nat.lt_trichotomy i j with hLt | hEq | hGt
  · exact absurd rfl (hDistinct i j hLength hLength' hLt id hHolds id hHolds')
  · exact hEq
  · exact absurd rfl (hDistinct j i hLength' hLength hGt id hHolds' id hHolds)

/-- A lock that is held is had by a thread. -/
theorem Locked.exists_of_taken {id : ConnectId} (h : t.Locked) (hTaken : id ∈ t.shared.taken) :
    ∃ (i : Nat) (thread : Thread), t.threads[i]? = some thread ∧ thread.holds = some id := by
  obtain ⟨thread, hMem, hHolds⟩ := List.mem_filterMap.mp (h.perm.mem_iff.mpr hTaken)
  obtain ⟨i, hThread⟩ := List.getElem?_of_mem hMem
  exact ⟨i, thread, hThread, hHolds⟩

theorem stuck_of_step? (hThread : t.threads[i]? = some thread) (h : t.step? i = none) :
    thread.step? t.listing t.shared = none := by
  unfold step? at h
  rw [hThread] at h
  exact Option.map_eq_none_iff.mp h

/-- Threads of which none can go on have nothing left to do. -/
theorem Locked.isDone_of_stuck (h : t.Locked) (hStuck : ∀ i, t.step? i = none) :
    t.isDone = true := by
  apply List.all_eq_true.mpr
  intro thread hMem
  obtain ⟨i, hThread⟩ := List.getElem?_of_mem hMem
  rcases Thread.waits_of_stuck (stuck_of_step? hThread (hStuck i)) with hDone | ⟨id, -, hTaken⟩
  · exact hDone
  -- The thread that has the lock could go on.
  · obtain ⟨j, owner, hOwner, hHolds⟩ := h.exists_of_taken hTaken
    obtain ⟨hNotDone, hNeeds⟩ := Thread.goes_on_of_holds hHolds
    rcases Thread.waits_of_stuck (stuck_of_step? hOwner (hStuck j)) with hDone | ⟨_, hWaits, -⟩
    · exact nomatch hNotDone.symm.trans hDone
    · exact nomatch hNeeds.symm.trans hWaits

end Traffic

/-! ## Every run comes to an end -/

namespace Thread

/-- Whether a thread may still make a session. -/
def isArriving : Thread → Bool
  | request _ _ .arrived => true
  | _ => false

/-- How many steps a thread has ahead at most, if the table never has more sessions than this. -/
def ahead (sessions : Nat) : Thread → Nat
  | request _ _ .arrived => 9
  | request _ _ (.admitted _) => 8
  | request _ _ (.counted _) => 7
  | request _ _ (.cleared _) => 6
  | request _ _ (.calling _ left _) => left.length + 2
  | request _ _ (.leaving _) => 1
  | request _ _ (.answered _) => 0
  | userCancel _ .arrived => sessions + 6
  | userCancel _ (.calling left) => left.length + sessions + 2
  | userCancel _ (.marking left) => left.length + 1
  | userCancel _ (.ended _) => 0
  | destroy .arrived => 3 * sessions + 6
  | destroy (.retiring left) => 3 * left.length + 5
  | destroy (.holding _ left) => 3 * left.length + 7
  | destroy (.leaving _ left) => 3 * left.length + 6
  | destroy (.calling left) => left.length + 1
  | destroy (.ended _) => 0
  | aside script => script.length

end Thread

theorem Presenter.length_dismissal (p : Presenter) : p.dismissal.length ≤ 3 := by
  cases p <;> simp [dismissal]

theorem Presenter.length_calls (p : Presenter) (pid : Option Int32) (c : Command) :
    (p.calls pid c).length ≤ 3 := by
  cases c <;> cases p <;> simp [calls, closing, dismissal]

theorem Table.length_liveIds (t : Table) : t.liveIds.length ≤ t.sessions.length := by
  unfold liveIds live
  split <;> simp

theorem Table.length_modify (t : Table) (id : ConnectId) (f : Session → Session) :
    (t.modify id f).sessions.length = t.sessions.length := by
  unfold modify
  exact List.length_map _

theorem Table.length_entered (t : Table) (caller : Caller) (now : Nat) :
    (t.entered caller now).sessions.length ≤ t.sessions.length + 1 := by
  unfold entered
  split
  · exact Nat.le_succ _
  · simp

namespace Thread

variable {listing : Listing} {s s' : Shared} {thread thread' : Thread} {deed : Deed}

/-- A step brings a thread forward. -/
theorem Step.ahead_lt {sessions : Nat} (h : Step listing s thread s' thread' deed)
    (hSessions : s.service.table.sessions.length ≤ sessions) :
    thread'.ahead sessions < thread.ahead sessions := by
  have hListed : (listing.order s.service.table.liveIds).length ≤ sessions := by
    rw [(listing.perm _).length_eq]
    exact Nat.le_trans s.service.table.length_liveIds hSessions
  have hDismissal := s.service.presenter.length_dismissal
  cases h with
  | @told _ _ c pid =>
    have hCalls := s.service.presenter.length_calls pid c
    simp only [ahead]
    omega
  | _ =>
    simp only [ahead, List.length_cons, List.length_nil]
    omega

/-- A step makes a session only if the thread was arriving, and it is not arriving afterwards. -/
theorem Step.length_sessions (h : Step listing s thread s' thread' deed) :
    thread'.isArriving = false ∧
      s'.service.table.sessions.length ≤
        s.service.table.sessions.length + thread.isArriving.toNat := by
  have hModify : ∀ id f, (s.service.table.modify id f).sessions.length ≤
      s.service.table.sessions.length + thread.isArriving.toNat := by
    intro id f
    rw [Table.length_modify]
    exact Nat.le_add_right _ _
  cases h with
  | admitted => exact ⟨rfl, Table.length_entered _ _ _⟩
  | counted => exact ⟨rfl, hModify _ _⟩
  | settled => exact ⟨rfl, hModify _ _⟩
  | marked => exact ⟨rfl, hModify _ _⟩
  | retires => exact ⟨rfl, hModify _ _⟩
  | told => exact ⟨rfl, hModify _ _⟩
  | @turned a => cases a <;> exact ⟨rfl, Nat.le_refl _⟩
  | _ => exact ⟨rfl, Nat.le_add_right _ _⟩

end Thread

namespace Traffic

/-- The number of sessions that the table can come to have. -/
def room (t : Traffic) : Nat :=
  t.shared.service.table.sessions.length + (t.threads.map fun x => x.isArriving.toNat).sum

/-- How many steps all threads have ahead at most, if the table never has more sessions than
this. -/
def ahead (sessions : Nat) (t : Traffic) : Nat := (t.threads.map fun x => x.ahead sessions).sum

/-- However the threads are given turns, they take no more steps than they have ahead. -/
theorem trace_length_run (t : Traffic) (schedule : List Nat) :
    (t.run schedule).trace.length ≤ t.trace.length + t.ahead t.room := by
  have hKept := run_keeps (P := fun now => now.room ≤ t.room ∧
    now.trace.length + now.ahead t.room ≤ t.trace.length + t.ahead t.room) ?_ schedule
    ⟨Nat.le_refl _, Nat.le_refl _⟩
  · exact Nat.le_trans (Nat.le_add_right _ _) hKept.2
  · rintro now i thread s thread' deed ⟨hRoom, hAhead⟩ hThread hStep
    obtain ⟨front, back, hBefore, hAfter⟩ := threads_stepped hThread s thread' deed
    obtain ⟨hArrived, hSessions⟩ := hStep.length_sessions
    have hLess : thread'.ahead t.room < thread.ahead t.room :=
      hStep.ahead_lt (Nat.le_trans (Nat.le_add_right _ _) hRoom)
    have hShared : (now.stepped i s thread' deed).shared = s := rfl
    have hTrace : (now.stepped i s thread' deed).trace.length = now.trace.length + 1 := rfl
    unfold room ahead at *
    rw [hAfter, hShared, hTrace]
    rw [hBefore] at hRoom hAhead
    simp only [List.map_append, List.map_cons, List.sum_append, List.sum_cons] at hRoom hAhead ⊢
    rw [hArrived, Bool.toNat_false]
    constructor <;> omega

end Traffic

end DevicePower.Notice
