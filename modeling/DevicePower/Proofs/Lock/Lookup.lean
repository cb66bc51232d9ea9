import DevicePower.Proofs.Lock.Operation

/-!
# Finding a lock after the registry has changed

The registry is read through `find?`. This module says for each change of the registry what is found
afterwards, for the lock that was meant and for every other lock.

## Main results

* `find?_create_ok`, `find?_clone`: making a lock and copying a handle.
* `drop_cases`: a handle goes, and a lock goes with its last handle.
* `onLock?_of_find?`, `find?_put_of_find?`, `wake_of_find?`: working on a lock.
-/

namespace DevicePower.Lock.Registry

theorem id_of_find? {r : Registry} {id : Nat} {l : Running} (h : r.find? id = some l) :
    l.id = id := by
  unfold find? at h
  obtain ⟨e, hEntry, rfl⟩ := Option.map_eq_some_iff.mp h
  simpa using List.find?_some hEntry

/-- Changing handles alone changes no lock. -/
theorem find?_map (r : Registry) (f : Entry → Entry) (hLock : ∀ e, (f e).lock = e.lock) (id : Nat) :
    { r with entries := r.entries.map f }.find? id = r.find? id := by
  unfold find?
  dsimp only
  induction r.entries with
  | nil => rfl
  | cons e rest ih =>
      simp only [List.map_cons, List.find?_cons, hLock]
      split
      · simp only [Option.map_some, hLock]
      · exact ih

/-- A lock whose entries have been taken out is not found. -/
theorem find?_filter_self (r : Registry) (id : Nat) :
    { r with entries := r.entries.filter fun e => e.lock.id != id }.find? id = none := by
  unfold find?
  rw [Option.map_eq_none_iff, List.find?_eq_none]
  intro e hMem
  have hNe := (List.mem_filter.mp hMem).2
  simpa using hNe

/-- Taking out the entries of one lock leaves every other lock. -/
theorem find?_filter_ne (r : Registry) {id other : Nat} (h : other ≠ id) :
    { r with entries := r.entries.filter fun e => e.lock.id != id }.find? other =
      r.find? other := by
  unfold find?
  dsimp only
  rw [find?_filter_of_imp]
  intro e hOther
  rw [beq_iff_eq] at hOther
  rw [hOther]
  exact bne_iff_ne.mpr h

/-! ## The operations of the registry -/

/-- Making a lock without a name changes nothing. -/
theorem create_of_isEmpty {name : String} (r : Registry) (kind : Kind) (h : Host)
    (hName : name.isEmpty = true) :
    r.create name kind h = (.error (.invalidArgument emptyNameMessage), r, h) := by
  unfold create
  rw [if_pos hName]

/-- Making a lock with a name adds it under the next number and asks the platform for nothing. -/
theorem find?_create_ok {name : String} (r : Registry) (kind : Kind) (h : Host)
    (hName : name.isEmpty = false) :
    (r.create name kind h).1 = .ok r.nextId ∧
      (r.create name kind h).2.1.nextId = r.nextId + 1 ∧
      (r.create name kind h).2.2.platform = h.platform ∧
      (r.create name kind h).2.2.now = h.now ∧
      ∀ id, (r.create name kind h).2.1.find? id = (r.find? id).or
        (if r.nextId = id then some { id := r.nextId, name, kind, created := h.now }
          else none) := by
  unfold create
  rw [if_neg (by simp [hName])]
  refine ⟨rfl, rfl, rfl, rfl, ?_⟩
  intro id
  unfold find?
  rw [List.find?_append, Option.map_or]
  congr 1
  by_cases hId : r.nextId = id
  · simp [hId]
  · simp [hId]

/-- Making a lock asks the platform for nothing. -/
theorem platform_create (r : Registry) (name : String) (kind : Kind) (h : Host) :
    (r.create name kind h).2.2.platform = h.platform := by
  cases hName : name.isEmpty with
  | true => rw [create_of_isEmpty r kind h hName]
  | false => exact (find?_create_ok r kind h hName).2.2.1

/-- Making a lock touches neither the clock nor the threads. -/
theorem beside_create (r : Registry) (name : String) (kind : Kind) (h : Host) :
    h.Beside (r.create name kind h).2.2 := by
  unfold create
  split
  · exact .refl h
  · exact ⟨rfl, rfl⟩

theorem find?_clone (r : Registry) (copied id : Nat) : (r.clone copied).find? id = r.find? id := by
  unfold clone
  apply find?_map
  intro e
  split <;> rfl

/-- What dropping a handle can do: there is no such lock, the lock has another handle, or the lock
ends. Only in the last case a lock goes, and no other lock goes with it. -/
theorem drop_cases (r : Registry) (id : Nat) (h : Host) :
    (r.find? id = none ∧ r.drop id h = (.ok (), r, h)) ∨
    (∃ r', r.drop id h = (.ok (), r', h) ∧ r'.nextId = r.nextId ∧
      (∃ l, r.find? id = some l) ∧ ∀ other, r'.find? other = r.find? other) ∨
    (∃ l r', r.find? id = some l ∧ r.drop id h = ((l.dropped h).1, r', (l.dropped h).2) ∧
      r'.nextId = r.nextId ∧ r'.find? id = none ∧
      ∀ other, other ≠ id → r'.find? other = r.find? other) := by
  have hFind : r.find? id = (r.entries.find? fun e => e.lock.id == id).map (·.lock) := rfl
  unfold drop
  cases hEntry : r.entries.find? fun e => e.lock.id == id with
  | none =>
    rw [hEntry] at hFind
    exact Or.inl ⟨hFind, rfl⟩
  | some e =>
    rw [hEntry] at hFind
    dsimp only
    by_cases hMore : 1 < e.handles
    · rw [if_pos hMore]
      refine Or.inr (Or.inl ⟨_, rfl, rfl, ⟨e.lock, hFind⟩, ?_⟩)
      intro other
      apply find?_map
      intro e
      split <;> rfl
    · rw [if_neg hMore]
      refine Or.inr (Or.inr ⟨e.lock, _, hFind, rfl, rfl, find?_filter_self r id, ?_⟩)
      intro other hOther
      exact find?_filter_ne r hOther

theorem onLock?_of_find?_eq_none {α : Type} {r : Registry} {id : Nat} (h : Host)
    (op : Running → Host → Outcome α × Running × Host) (hFind : r.find? id = none) :
    r.onLock? id h op = none := by
  unfold onLock?
  rw [hFind]
  rfl

theorem onLock?_of_find? {α : Type} {r : Registry} {id : Nat} {l : Running} (h : Host)
    (op : Running → Host → Outcome α × Running × Host) (hFind : r.find? id = some l) :
    r.onLock? id h op = some ((op l h).1, r.put (op l h).2.1, (op l h).2.2) := by
  unfold onLock?
  rw [hFind]
  rfl

/-- A lock that is there is replaced by what was put in its place. -/
theorem find?_put_of_find? {r : Registry} {id : Nat} {l l' : Running} (hFind : r.find? id = some l)
    (hId : l'.id = id) : (r.put l').find? id = some l' := by
  subst hId
  exact find?_put_self r l' (by rw [hFind]; rfl)

/-- Putting a lock back as it was found changes nothing that is found. -/
theorem find?_put_same {r : Registry} {id : Nat} {l : Running} (hFind : r.find? id = some l)
    (other : Nat) : (r.put l).find? other = r.find? other := by
  have hId : l.id = id := id_of_find? hFind
  by_cases hSame : other = id
  · rw [hSame, hFind]
    exact find?_put_of_find? hFind hId
  · exact find?_put_ne r l fun hEq => hSame (hEq.trans hId)

theorem wake_of_find?_eq_none {r : Registry} {id : Nat} (generation : Nat) (h : Host)
    (hFind : r.find? id = none) : r.wake id generation h = (r, h) := by
  unfold wake
  rw [hFind]

theorem wake_of_find? {r : Registry} {id : Nat} {l : Running} (generation : Nat) (h : Host)
    (hFind : r.find? id = some l) :
    r.wake id generation h = (r.put (l.wake generation h).1, (l.wake generation h).2) := by
  unfold wake
  rw [hFind]

end DevicePower.Lock.Registry
