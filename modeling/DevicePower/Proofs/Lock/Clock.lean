import DevicePower.Proofs.Lock.Numbering

/-!
# Letting time pass

When the program lets time pass, the alarms that are due wake one after the other, the earliest
first. That is one of the runs of a scene: time passes, and then each of these alarms is roused and
wakes at once. So what is said of all runs holds of the program's clock.

## Main results

* `Numbered.due`: no two alarms that are due are of one lock.
* `run_sleep`: letting time pass is a run.
-/

namespace DevicePower.Lock

namespace Registry

theorem numbers_due_sublist (entries : List Entry) (now : Nat) :
    ((entries.filterMap fun e => (e.lock.alarm.due? now).map fun d => (e.lock.id, d)).map
      (·.1)).Sublist (entries.map fun e => e.lock.id) := by
  induction entries with
  | nil => exact List.Sublist.slnil
  | cons e rest ih =>
    cases hDue : e.lock.alarm.due? now with
    | none =>
      rw [List.filterMap_cons_none (by rw [hDue]; rfl)]
      exact ih.cons _
    | some d =>
      rw [List.filterMap_cons_some (by rw [hDue]; rfl)]
      exact ih.cons_cons _

/-- An alarm that is due is that of a lock, and no two are of one lock. -/
theorem Numbered.due {r : Registry} (h : r.Numbered) (now : Nat) :
    ((r.due now).map (·.1)).Nodup ∧
      ∀ alarm ∈ r.due now, ∃ l, r.find? alarm.1 = some l ∧ l.alarm.due? now = some alarm.2 := by
  have hPerm : (r.due now).Perm
      (r.entries.filterMap fun e => (e.lock.alarm.due? now).map fun d => (e.lock.id, d)) :=
    List.mergeSort_perm _ _
  constructor
  · rw [(hPerm.map (·.1)).nodup_iff]
    exact h.nodup.sublist (numbers_due_sublist r.entries now)
  · intro alarm hMem
    obtain ⟨e, hEntry, hSome⟩ := List.mem_filterMap.mp (hPerm.mem_iff.mp hMem)
    obtain ⟨d, hDue, rfl⟩ := Option.map_eq_some_iff.mp hSome
    exact ⟨e.lock, h.find?_of_mem hEntry, hDue⟩

/-- An alarm that wakes leaves the time and the other locks alone. -/
theorem wake_apart (r : Registry) (id generation : Nat) (h : Host) :
    (r.wake id generation h).2.now = h.now ∧
      ∀ other, other ≠ id → (r.wake id generation h).1.find? other = r.find? other := by
  cases hFind : r.find? id with
  | none =>
    rw [wake_of_find?_eq_none generation h hFind]
    exact ⟨rfl, fun _ _ => rfl⟩
  | some l =>
    have hId : (l.wake generation h).1.id = id :=
      (l.wake_staysWithin generation h).id_eq.trans (id_of_find? hFind)
    rw [wake_of_find? generation h hFind]
    exact ⟨(l.wake_staysWithin generation h).beside.now_eq,
      fun other hOther => r.find?_put_ne _ (by rw [hId]; exact hOther)⟩

end Registry

namespace Scene

/-- What the clock does: the alarms wake one after the other. -/
def wakeAll (alarms : List (Nat × Deadline Nat)) (r : Registry) (h : Host) : Registry × Host :=
  alarms.foldl (fun (r, h) (id, d) => r.wake id d.purpose h) (r, h)

/-- Each alarm is roused and wakes at once, one after the other. -/
def wakings (alarms : List (Nat × Deadline Nat)) : List Action :=
  alarms.flatMap fun (id, d) => [.rouse id, .wake id d]

/-- Time passes, and the alarms that are due then wake. -/
def sleep (s : Scene) (nanoseconds : Nat) : List Action :=
  .pass nanoseconds :: wakings (s.registry.due (s.host.now + nanoseconds))

/-- An alarm that is due is roused and wakes. What is left is what the registry leaves. -/
theorem after_waking {s : Scene} {id : Nat} {d : Deadline Nat} {l : Running}
    (hLock : s.lock? id = some l) (hDue : l.alarm.due? s.host.now = some d)
    (hQuiet : ∀ i, s.roused i = []) :
    ((s.after (.rouse id)).after (.wake id d)).registry =
        (s.registry.wake id d.purpose s.host).1 ∧
      ((s.after (.rouse id)).after (.wake id d)).host =
        (s.registry.wake id d.purpose s.host).2 ∧
      ∀ i, ((s.after (.rouse id)).after (.wake id d)).roused i = [] := by
  have hNew : d ∉ s.roused id := by
    rw [hQuiet id]
    exact List.not_mem_nil
  have hWaiting : s.waiting? id = some d := waiting?_eq_some_iff.mpr ⟨⟨l, hLock, hDue⟩, hNew⟩
  have hRouse : s.act? (.rouse id) = some (.ok (),
      { s with roused := setAt s.roused id (d :: s.roused id) }) := by
    unfold act?
    simp [hWaiting]
  have hRoused : (s.after (.rouse id)).roused = setAt s.roused id [d] := by
    rw [after_of_act? hRouse]
    dsimp only
    rw [hQuiet id]
  have hThere : (s.after (.rouse id)).lock? id = some l := by
    rw [after_of_act? hRouse]
    exact hLock
  have hMem : d ∈ (s.after (.rouse id)).roused id := by
    rw [hRoused, setAt_self]
    exact List.mem_singleton_self d
  rw [after_of_act? (done_wake hMem hThere), Registry.wake_of_find? d.purpose s.host hLock]
  dsimp only
  rw [hRoused, after_of_act? hRouse]
  refine ⟨rfl, rfl, ?_⟩
  intro i
  by_cases hId : i = id
  · subst hId
    simp
  · rw [setAt_ne _ _ hId, setAt_ne _ _ hId]
    exact hQuiet i

/-- Alarms that are due, each of another lock, wake one after the other as the clock wakes them. -/
theorem run_wakings (alarms : List (Nat × Deadline Nat)) :
    ∀ s : Scene, (alarms.map (·.1)).Nodup →
      (∀ alarm ∈ alarms, ∃ l, s.lock? alarm.1 = some l ∧
        l.alarm.due? s.host.now = some alarm.2) →
      (∀ i, s.roused i = []) →
      (s.run (wakings alarms)).registry = (wakeAll alarms s.registry s.host).1 ∧
        (s.run (wakings alarms)).host = (wakeAll alarms s.registry s.host).2 ∧
        ∀ i, (s.run (wakings alarms)).roused i = [] := by
  induction alarms with
  | nil => exact fun s _ _ hQuiet => ⟨rfl, rfl, hQuiet⟩
  | cons alarm rest ih =>
    intro s hNodup hDue hQuiet
    obtain ⟨id, d⟩ := alarm
    obtain ⟨hNew, hRest⟩ := List.nodup_cons.mp hNodup
    obtain ⟨l, hLock, hAlarm⟩ := hDue (id, d) List.mem_cons_self
    obtain ⟨hRegistry, hHost, hStill⟩ := after_waking hLock hAlarm hQuiet
    obtain ⟨hNow, hApart⟩ := s.registry.wake_apart id d.purpose s.host
    have hDueThen : ∀ alarm ∈ rest, ∃ l,
        ((s.after (.rouse id)).after (.wake id d)).lock? alarm.1 = some l ∧
          l.alarm.due? ((s.after (.rouse id)).after (.wake id d)).host.now = some alarm.2 := by
      intro alarm hMem
      have hOther : alarm.1 ≠ id := fun hEq =>
        hNew (List.mem_map.mpr ⟨alarm, hMem, hEq⟩)
      obtain ⟨other, hThere, hOtherDue⟩ := hDue alarm (List.mem_cons_of_mem _ hMem)
      refine ⟨other, ?_, ?_⟩
      · unfold lock?
        rw [hRegistry, hApart alarm.1 hOther]
        exact hThere
      · rw [hHost, hNow]
        exact hOtherDue
    have hThen := ih ((s.after (.rouse id)).after (.wake id d)) hRest hDueThen hStill
    rw [hRegistry, hHost] at hThen
    exact hThen

/-- Letting time pass is a run: if no alarm is on its way, the clock leaves the registry and the
host as the run leaves them in which each alarm that is due is roused and wakes at once. -/
theorem run_sleep {s : Scene} (hReachable : s.Reachable) (hQuiet : ∀ i, s.roused i = [])
    (nanoseconds : Nat) :
    (s.run (s.sleep nanoseconds)).registry = (s.registry.advance nanoseconds s.host).1 ∧
      (s.run (s.sleep nanoseconds)).host = (s.registry.advance nanoseconds s.host).2 ∧
      ∀ i, (s.run (s.sleep nanoseconds)).roused i = [] := by
  obtain ⟨hNodup, hDue⟩ :=
    (numbered_of_reachable hReachable).due (s.host.now + nanoseconds)
  exact run_wakings (s.registry.due (s.host.now + nanoseconds)) (s.after (.pass nanoseconds))
    hNodup hDue hQuiet

end Scene

end DevicePower.Lock
