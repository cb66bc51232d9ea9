import DevicePower.Proofs.Notice.Trace

/-!
# For whom a session was made

The table gives a caller the session that it finds under the name of the caller's connection.
Whether this is the caller's own session depends on who had it made. So a table is looked at here
together with the callers for whom its sessions were made, in that order. Sessions are only ever
added behind the others, and nothing changes the caller of a session, so the session with a number
was made for the caller with that number. The name of a connection tells its caller, and what is
found under it is the caller's own.

The operations on a table may come in any order here, whoever makes them and from however many
threads, since each is one step. The tables that a service has in its runs, and those between the
steps of its threads, are among the tables that arise so.

## Main results

* `callers_run`: sessions are made for callers one after the other, and stay theirs.
* `given_of_open?`: who is given a session that was there, and who a new one.
* `arises_of_reachable`, `arises_of_traffic`: the tables of a service arise so.
* `connections_tell_callers`: names tell callers, and so do the sessions under them.
-/

namespace DevicePower

/-- The name of a connection tells the two numbers of its caller. -/
theorem Caller.connectId_eq_iff (c d : Caller) :
    c.connectId = d.connectId ↔ c.pid = d.pid ∧ c.token = d.token := by
  constructor
  · intro h
    obtain rfl : c = d := connectId_inj h
    exact ⟨rfl, rfl⟩
  · rintro ⟨hPid, hToken⟩
    obtain rfl : c = d := by
      cases c
      cases hPid
      cases hToken
      rfl
    rfl

namespace Notice.Table

/-- The callers of the sessions. -/
def callers (t : Table) : List Caller := t.sessions.map fun x => x.caller

/-! ## The operations on a table -/

/-- What asking for the session of a caller comes to. -/
inductive Opened (t : Table) (caller : Caller) (now : Nat) : Option (Session × Bool × Table) → Prop
  | refused (hClosed : t.closed = true) : Opened t caller now none
  | found {x : Session} (hOpen : t.closed = false) (hFind : t.find? caller.connectId = some x) :
    Opened t caller now (some (x, false, t))
  | made (hOpen : t.closed = false) (hFind : t.find? caller.connectId = none) :
    Opened t caller now (some ({ caller, created := now }, true,
      { t with sessions := t.sessions ++ [{ caller, created := now }] }))

theorem opened_open? (t : Table) (caller : Caller) (now : Nat) :
    Opened t caller now (t.open? caller now) := by
  unfold open?
  split
  · next hClosed => exact .refused hClosed
  · next hOpen =>
    have hStands : t.closed = false := Bool.eq_false_iff.mpr hOpen
    cases hFind : t.find? caller.connectId with
    | some x => exact .found hStands hFind
    | none => exact .made hStands hFind

/-- What may be done with a table and its sessions. -/
inductive Action where
  /-- The session of a caller is asked for. -/
  | get (caller : Caller) (now : Nat)
  /-- The session of a connection changes, but for its caller. -/
  | change (id : ConnectId) (f : Session → Session) (kept : ∀ x, (f x).caller = x.caller)
  /-- All sessions in sight change, but for their callers. -/
  | changeLive (f : Session → Session) (kept : ∀ x, (f x).caller = x.caller)
  | close

/-- A table in the middle of a run. -/
structure Scene where
  table : Table := {}
  /-- The callers for whom sessions were made, the first one first. -/
  makers : List Caller := []

namespace Scene

/-- The scene after an action. -/
def after (s : Scene) : Action → Scene
  | .get caller now =>
    match s.table.open? caller now with
    | none => s
    | some (_, made, table) =>
      { table, makers := if made then s.makers ++ [caller] else s.makers }
  | .change id f _ => { s with table := s.table.modify id f }
  | .changeLive f _ => { s with table := s.table.modifyLive f }
  | .close => { s with table := s.table.close.2 }

/-- The scene after some actions. -/
def run (s : Scene) (actions : List Action) : Scene := actions.foldl after s

end Scene

/-! ## Sessions stay with their callers -/

theorem callers_modify (t : Table) (id : ConnectId) {f : Session → Session}
    (hCaller : ∀ x, (f x).caller = x.caller) : (t.modify id f).callers = t.callers := by
  unfold callers modify
  rw [List.map_map]
  refine List.map_congr_left fun x _ => ?_
  dsimp only [Function.comp]
  split
  · exact hCaller x
  · rfl

theorem callers_modifyLive (t : Table) {f : Session → Session}
    (hCaller : ∀ x, (f x).caller = x.caller) : (t.modifyLive f).callers = t.callers := by
  unfold callers modifyLive
  split
  · rfl
  · rw [List.map_map]
    exact List.map_congr_left fun x _ => hCaller x

theorem callers_after {s : Scene} (h : s.table.callers = s.makers) (a : Action) :
    (s.after a).table.callers = (s.after a).makers := by
  cases a with
  | get caller now =>
    have hOpened := opened_open? s.table caller now
    unfold Scene.after
    dsimp only
    generalize s.table.open? caller now = given at hOpened
    cases hOpened with
    | refused _ => exact h
    | found _ _ => exact h
    | made _ _ =>
      dsimp only
      rw [if_pos rfl, ← h]
      exact List.map_append
  | change id f kept => exact (callers_modify s.table id kept).trans h
  | changeLive f kept => exact (callers_modifyLive s.table kept).trans h
  | close => exact h

/-- Sessions are made for callers one after the other, and stay theirs. -/
theorem callers_run (actions : List Action) :
    ∀ {s : Scene}, s.table.callers = s.makers →
      (s.run actions).table.callers = (s.run actions).makers := by
  induction actions with
  | nil => exact fun h => h
  | cons a actions ih => exact fun h => ih (callers_after h a)

/-! ## Who is given which session -/

/-- What is true of a session that a caller was given. -/
structure Given (s : Scene) (caller : Caller) (x : Session) (made : Bool) : Prop where
  /-- If it was there, it is one that was made for a caller with the same two numbers. -/
  found : made = false → ∃ (number : Nat) (earlier : Caller),
    s.table.sessions[number]? = some x ∧ s.makers[number]? = some earlier ∧
      earlier.pid = caller.pid ∧ earlier.token = caller.token
  /-- If it is new, it is this caller's, and none was made for a caller with these two numbers
  before. -/
  fresh : made = true → x.caller = caller ∧
    ∀ earlier ∈ s.makers, ¬ (earlier.pid = caller.pid ∧ earlier.token = caller.token)

theorem given_of_open? {s : Scene} (hCallers : s.table.callers = s.makers) {caller : Caller}
    {now : Nat} {x : Session} {made : Bool} {t : Table}
    (h : s.table.open? caller now = some (x, made, t)) : Given s caller x made := by
  have hOpened := opened_open? s.table caller now
  rw [h] at hOpened
  cases hOpened with
  | found _ hFind =>
    refine ⟨fun _ => ?_, fun hMade => nomatch hMade⟩
    obtain ⟨number, hNumber⟩ := List.mem_iff_getElem?.mp (List.mem_of_find?_eq_some hFind)
    have hMaker : s.makers[number]? = some x.caller := by
      rw [← hCallers]
      unfold callers
      rw [List.getElem?_map, hNumber]
      rfl
    have hSame : x.caller.connectId = caller.connectId := connectId_of_find? hFind
    exact ⟨number, x.caller, hNumber, hMaker, (Caller.connectId_eq_iff _ _).mp hSame⟩
  | made _ hFind =>
    refine ⟨fun hFound => (nomatch hFound), fun _ => ⟨rfl, fun earlier hMem hSame => ?_⟩⟩
    rw [← hCallers] at hMem
    obtain ⟨other, hOther, rfl⟩ := List.mem_map.mp hMem
    have hName : other.connectId = caller.connectId := (Caller.connectId_eq_iff _ _).mpr hSame
    exact List.find?_eq_none.mp hFind other hOther (beq_iff_eq.mpr hName)

/-! ## The tables of a service -/

/-- Whether some run of operations leads to a table. -/
def Arises (t : Table) : Prop := ∃ actions, t = (({} : Scene).run actions).table

theorem arises_empty : Arises {} := ⟨[], rfl⟩

section Arises

variable {t : Table} {f : Session → Session}

theorem Arises.after (h : Arises t) (a : Action)
    {t' : Table} (hTable : ∀ makers, (Scene.after ⟨t, makers⟩ a).table = t') : Arises t' := by
  obtain ⟨actions, rfl⟩ := h
  refine ⟨actions ++ [a], ?_⟩
  rw [← hTable (({} : Scene).run actions).makers]
  unfold Scene.run
  rw [List.foldl_append]
  rfl

theorem Arises.entered (h : Arises t) (hOpen : t.closed = false) (caller : Caller) (now : Nat) :
    Arises (t.entered caller now) := by
  refine h.after (.get caller now) fun makers => ?_
  obtain ⟨made, hGiven⟩ := open?_of_open hOpen caller now
  unfold Scene.after
  dsimp only
  rw [hGiven]

theorem Arises.modify (h : Arises t) (id : ConnectId) (hCaller : ∀ x, (f x).caller = x.caller) :
    Arises (t.modify id f) :=
  h.after (.change id f hCaller) fun _ => rfl

theorem Arises.modifyLive (h : Arises t) (hCaller : ∀ x, (f x).caller = x.caller) :
    Arises (t.modifyLive f) :=
  h.after (.changeLive f hCaller) fun _ => rfl

theorem Arises.closed (h : Arises t) : Arises t.close.2 := h.after .close fun _ => rfl

theorem Arises.served (h : Arises t) (hOpen : t.closed = false) (caller : Caller) (now : Nat)
    (hCaller : ∀ x, (f x).caller = x.caller) : Arises (t.served caller now f) :=
  (h.entered hOpen caller now).modify _ hCaller

end Arises

/-- The table of a service arises so. -/
theorem arises_of_reachable {s : Notice.Scene} (h : s.Reachable) : Arises s.service.table := by
  refine Notice.Scene.holds_of_reachable (P := fun s => Arises s.service.table) ?_ ?_ h
  · intro s hBegun
    rw [hBegun.table_eq]
    exact arises_empty
  · intro s a _ hBefore
    obtain ⟨answer, outcome, t, h', hDone, hAfter⟩ := s.after_cases a
    rw [hAfter]
    cases hDone with
    | request reply hAnswered hPlatform =>
      cases hAnswered with
      | retired hTakes => exact hBefore.served hTakes.open_eq _ _ Session.caller_counted
      | opened hTakes => exact hBefore.served hTakes.open_eq _ _ (Session.caller_noted _ _)
      | closed hTakes => exact hBefore.served hTakes.open_eq _ _ (Session.caller_noted _ _)
      | _ => exact hBefore
    | @userCancel event h' hFor crashed hCrashed hPlatform =>
      cases crashed with
      | true => exact hBefore
      | false => exact hBefore.modifyLive (Session.caller_become _)
    | destroy => exact (hBefore.modifyLive Session.caller_retire).closed
    | _ => exact hBefore

/-- What one step of a thread makes of a table arises so. -/
theorem arises_of_changes {thread : Thread} {t t' : Table} {deed : Deed}
    (hChanges : thread.Changes t t' deed) (h : Arises t) : Arises t' := by
  cases hChanges with
  | same _ => exact h
  | entered hOpen caller now => exact h.entered hOpen caller now
  | noted id hCaller _ _ => exact h.modify id hCaller
  | became id status => exact h.modify id (Session.caller_become status)
  | retired _ => exact h.modify _ Session.caller_retire
  | closed _ => exact h.closed

/-- The table between the steps of threads arises so. -/
theorem arises_of_traffic {s : Notice.Scene} (h : s.Reachable) (listing : Listing)
    (arrivals : List Arrival) (schedule : List Nat) :
    Arises ((Traffic.start s listing arrivals).run schedule).shared.service.table := by
  refine Traffic.run_keeps (P := fun t => Arises t.shared.service.table) ?_ schedule
    (arises_of_reachable h)
  intro t i thread s' thread' deed hBefore _ hStep
  exact arises_of_changes hStep.changes hBefore

/-- Two callers have the same connection if they have the same process id and the same token, and
only then. So whatever was done with a table before, a caller that is given a session that was there
is given one that was made for a caller with these two numbers, and a new session is made only where
there was none for them. The tables of a service, after any run and between the steps of any
threads, are among those that arise so. -/
theorem connections_tell_callers :
    (∀ c d : Caller, c.connectId = d.connectId ↔ c.pid = d.pid ∧ c.token = d.token) ∧
    (∀ actions caller now x made t,
      (({} : Scene).run actions).table.open? caller now = some (x, made, t) →
        Given (({} : Scene).run actions) caller x made) ∧
    ∀ s : Notice.Scene, s.Reachable → Arises s.service.table ∧
      ∀ listing arrivals schedule,
        Arises ((Traffic.start s listing arrivals).run schedule).shared.service.table := by
  refine ⟨Caller.connectId_eq_iff, ?_, ?_⟩
  · intro actions caller now x made t hGiven
    exact given_of_open? (callers_run actions rfl) hGiven
  · intro s hReachable
    exact ⟨arises_of_reachable hReachable, arises_of_traffic hReachable⟩

/-- Two callers whose process ids differ in their signs alone have sessions of their own. The first
one comes back and finds its session, which has changed since. -/
theorem signed_callers_apart :
    let s := ({} : Scene).run
      [.get ⟨-1, 2⟩ 5, .get ⟨1, 2⟩ 6, .change "-1-2" Session.counted Session.caller_counted]
    let x : Session := { caller := ⟨-1, 2⟩, created := 5, requests := 1 }
    s.table.open? ⟨-1, 2⟩ 9 = some (x, false, s.table) ∧ Given s ⟨-1, 2⟩ x false ∧
      s.makers = [⟨-1, 2⟩, ⟨1, 2⟩] ∧ (Notice.Scene.fresh {} .phone).Reachable ∧
      Arises (Notice.Scene.fresh {} .phone).service.table := by
  intro s x
  have hGiven : s.table.open? ⟨-1, 2⟩ 9 = some (x, false, s.table) := by decide +kernel
  have hMakers : s.makers = [⟨-1, 2⟩, ⟨1, 2⟩] := by decide +kernel
  have hReachable : (Notice.Scene.fresh {} .phone).Reachable :=
    Notice.Scene.reachable_of_begun (Notice.Scene.begun_fresh {} .phone)
  obtain ⟨-, hFound, hTables⟩ := connections_tell_callers
  exact ⟨hGiven, hFound _ _ _ _ _ _ hGiven, hMakers, hReachable, (hTables _ hReachable).1⟩

end Notice.Table

end DevicePower
