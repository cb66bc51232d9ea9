import DevicePower.Proofs.Lock.Step

/-!
# The numbers of locks

Each lock in the registry has a number of its own, below the next number. So a lock that is in the
registry is the one that is found under its number.

## Main results

* `Numbered.entryAt?_of_mem`, `Numbered.find?_of_mem`: a lock in the registry is found under its
  number.
* `numbered_of_reachable`: the registry is numbered in every run.
-/

namespace DevicePower.Lock

namespace Registry

/-- Each lock has a number of its own, and the next number is above them. -/
structure Numbered (r : Registry) : Prop where
  nodup : (r.entries.map fun e => e.lock.id).Nodup
  lt : ∀ id ∈ r.entries.map fun e => e.lock.id, id < r.nextId

theorem numbered_empty : Numbered {} := ⟨List.nodup_nil, List.forall_mem_nil _⟩

/-- Changing anything but the numbers keeps them in order. -/
theorem Numbered.mapEntries {r : Registry} (h : r.Numbered) (f : Entry → Entry)
    (hSame : ∀ e, (f e).lock.id = e.lock.id) :
    Numbered { r with entries := r.entries.map f } := by
  have hIds : ((r.entries.map f).map fun e => e.lock.id) = r.entries.map fun e => e.lock.id := by
    rw [List.map_map]
    exact List.map_congr_left fun e _ => hSame e
  constructor
  · rw [hIds]
    exact h.nodup
  · rw [hIds]
    exact h.lt

theorem Numbered.put {r : Registry} (h : r.Numbered) (l : Running) : (r.put l).Numbered := by
  apply h.mapEntries
  intro e
  by_cases hId : e.lock.id = l.id
  · rw [if_pos (beq_iff_eq.mpr hId), hId]
  · rw [if_neg (by simpa using hId)]

theorem Numbered.clone {r : Registry} (h : r.Numbered) (id : Nat) : (r.clone id).Numbered := by
  apply h.mapEntries
  intro e
  split <;> rfl

theorem Numbered.create {r : Registry} (h : r.Numbered) (name : String) (kind : Kind)
    (host : Host) : (r.create name kind host).2.1.Numbered := by
  unfold Registry.create
  split
  · exact h
  · have hNew : r.nextId ∉ r.entries.map fun e => e.lock.id :=
      fun hMem => Nat.lt_irrefl _ (h.lt r.nextId hMem)
    constructor
    · rw [List.map_append]
      refine List.nodup_append.mpr ⟨h.nodup, by simp, ?_⟩
      intro id hMem other hOther
      have hNext : other = r.nextId := by simpa using hOther
      rintro rfl
      exact hNew (hNext ▸ hMem)
    · intro id hMem
      rw [List.map_append] at hMem
      rcases List.mem_append.mp hMem with hOld | hLast
      · exact Nat.lt_succ_of_lt (h.lt id hOld)
      · have hNext : id = r.nextId := by simpa using hLast
        rw [hNext]
        exact Nat.lt_succ_self _

theorem Numbered.drop {r : Registry} (h : r.Numbered) (id : Nat) (host : Host) :
    (r.drop id host).2.1.Numbered := by
  unfold Registry.drop
  split
  · exact h
  · split
    · apply h.mapEntries
      intro e
      split <;> rfl
    · have hSub : ((r.entries.filter fun e => e.lock.id != id).map fun e => e.lock.id).Sublist
          (r.entries.map fun e => e.lock.id) := List.filter_sublist.map _
      exact ⟨h.nodup.sublist hSub, fun other hMem => h.lt other (hSub.subset hMem)⟩

/-- The entry of a lock: the lock and the number of its handles. -/
def entryAt? (r : Registry) (id : Nat) : Option Entry := r.entries.find? fun e => e.lock.id == id

/-- An entry of the registry is found under its number. -/
theorem Numbered.entryAt?_of_mem {r : Registry} (h : r.Numbered) {e : Entry}
    (hMem : e ∈ r.entries) :
    r.entryAt? e.lock.id = some e := by
  have hNodup := h.nodup
  unfold entryAt?
  generalize r.entries = entries at hMem hNodup
  induction entries with
  | nil => cases hMem
  | cons first rest ih =>
    rw [List.map_cons, List.nodup_cons] at hNodup
    rw [List.find?_cons]
    rcases List.mem_cons.mp hMem with rfl | hRest
    · rw [beq_self_eq_true]
    · have hNe : first.lock.id ≠ e.lock.id := fun hEq =>
        hNodup.1 (List.mem_map.mpr ⟨e, hRest, hEq.symm⟩)
      rw [beq_eq_false_iff_ne.mpr hNe]
      exact ih hRest hNodup.2

/-- A lock in the registry is found under its number. -/
theorem Numbered.find?_of_mem {r : Registry} (h : r.Numbered) {e : Entry} (hMem : e ∈ r.entries) :
    r.find? e.lock.id = some e.lock :=
  congrArg (Option.map Entry.lock) (h.entryAt?_of_mem hMem)

end Registry

namespace Scene

theorem numbered_of_done {s s' : Scene} {a : Action} {o : Outcome Unit} (hDone : Done s a o s')
    (h : s.registry.Numbered) : s'.registry.Numbered := by
  cases hDone with
  | create name kind o => exact h.create name kind s.host
  | clone id => exact h.clone id
  | drop id => exact h.drop id s.host
  | hold timeout _ => exact h.put _
  | release _ => exact h.put _
  | wake _ _ => exact h.put _
  | _ => exact h

/-- In every run each lock has a number of its own. -/
theorem numbered_of_reachable {s : Scene} (hReachable : s.Reachable) : s.registry.Numbered := by
  obtain ⟨origin, supported, actions, rfl⟩ := hReachable
  refine run_induction (P := fun s => s.registry.Numbered) Registry.numbered_empty ?_ actions
  intro earlier a hBefore
  rcases ((start origin supported).run earlier).after_cases a with ⟨_, hSame⟩ |
    ⟨o, s', hAct, hAfter⟩
  · rw [hSame]
    exact hBefore
  · have hDone : Done _ a o s' := done_of_act? hAct
    have hNumbered : s'.registry.Numbered := numbered_of_done hDone hBefore
    rw [hAfter]
    exact hNumbered

end Scene

end DevicePower.Lock
