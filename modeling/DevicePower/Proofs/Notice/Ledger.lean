import DevicePower.Proofs.Caller
import DevicePower.Proofs.Notice.Answer

/-!
# The sessions are what the history says

A session is a record that is changed by every request of its caller and by the user. Here it is
computed from the history instead, in which nothing is ever changed: the number of the requests is
counted, and the status and the process id are looked for from the latest event back. The two agree
after every run, as long as the service stands.

Only a part of the history concerns a session. A close event before the caller's first counted
request found no session to change, so the status is looked for in what came since.

## Main results

* `sessionOf`: the session of a caller, by the history.
* `tracks_of_reachable`: what the table has of each caller.
* `sessions_match_history`: the list of the sessions.
-/

namespace DevicePower.Notice

/-- The status that a command gives a session. -/
def Command.status : Command → Status
  | openNotice => .opening
  | closeNotice => .serverClose

namespace Event

/-- Whether an event is a request of this caller that has the right token and a known command. -/
def isCounted (s : Service) (caller : Caller) (e : Event) : Bool :=
  match e.action with
  | .request r data _ =>
    r.caller == caller && data.token? == some s.settings.token && (Command.ofCode? r.code).isSome
  | _ => false

/-- The process id that a counted request carried. -/
def pid? (s : Service) (caller : Caller) (e : Event) : Option Int32 :=
  match e.action with
  | .request _ data _ => if e.isCounted s caller then s.presenter.pid? data else none
  | _ => none

/-- The status that an event gives a caller's session: a counted request that was carried out, or
the user's closing. -/
def status? (s : Service) (caller : Caller) (e : Event) : Option Status :=
  match e.action with
  | .request r _ _ =>
    if e.isCounted s caller && e.answer == some .success then
      (Command.ofCode? r.code).map Command.status
    else none
  | .userCancel event =>
    if event.isFor s.settings && e.outcome.isOk then some .manClose else none
  | _ => none

end Event

/-- What has happened since the first event that counts, it included. The latest comes first. -/
def sinceFirst (counts : Event → Bool) : List Event → List Event
  | [] => []
  | e :: earlier =>
    if (e :: earlier).any counts then e :: sinceFirst counts earlier else []

/-- The session of a caller, by the history. -/
def sessionOf (s : Service) (caller : Caller) (history : List Event) : Session where
  caller := caller
  created := ((history.reverse.find? (Event.isCounted s caller)).map fun e => e.time).getD 0
  status := ((sinceFirst (Event.isCounted s caller) history).findSome?
    (Event.status? s caller)).getD .untouched
  requests := history.countP (Event.isCounted s caller)
  lastPid := history.findSome? (Event.pid? s caller)

/-- The session of a caller, if one of its requests was counted. -/
def sessionOf? (s : Service) (caller : Caller) (history : List Event) : Option Session :=
  if history.any (Event.isCounted s caller) then some (sessionOf s caller history) else none

/-! ## One event more -/

section Ledger

variable {s : Service} {caller : Caller} {e : Event} {history : List Event}

theorem sinceFirst_of_none {counts : Event → Bool} (h : history.any counts = false) :
    sinceFirst counts history = [] := by
  cases history with
  | nil => rfl
  | cons e earlier => exact if_neg (by rw [h]; exact Bool.false_ne_true)

theorem pid?_of_not_counted (h : e.isCounted s caller = false) : e.pid? s caller = none := by
  unfold Event.pid?
  split
  · rw [h]; rfl
  · rfl

theorem findSome?_pid?_of_none (h : history.any (Event.isCounted s caller) = false) :
    history.findSome? (Event.pid? s caller) = none := by
  rw [List.findSome?_eq_none_iff]
  intro e hMem
  rw [List.any_eq_false] at h
  exact pid?_of_not_counted (Bool.not_eq_true _ ▸ h e hMem)

/-- The first counted request makes the session. -/
theorem sessionOf_first (hNone : history.any (Event.isCounted s caller) = false)
    (hCounted : e.isCounted s caller = true) :
    sessionOf s caller (e :: history) =
      Session.noted (e.pid? s caller) (e.status? s caller) { caller, created := e.time } := by
  have hNever : ∀ x ∈ history, ¬ x.isCounted s caller = true := List.any_eq_false.mp hNone
  have hFirst : history.reverse.find? (Event.isCounted s caller) = none := by
    rw [List.find?_eq_none]
    exact fun x hMem => hNever x (List.mem_reverse.mp hMem)
  have hCount : history.countP (Event.isCounted s caller) = 0 := List.countP_eq_zero.mpr hNever
  unfold sessionOf Session.noted sinceFirst
  rw [List.reverse_cons, List.find?_append, hFirst, sinceFirst_of_none hNone, List.any_cons,
    hCounted, List.countP_cons, hCount, hCounted, List.findSome?_cons, findSome?_pid?_of_none hNone]
  cases e.pid? s caller <;> cases hStatus : e.status? s caller <;> simp [hCounted, hStatus]

/-- After the first counted request, every event is added to what was there. -/
theorem sessionOf_cons (hAny : history.any (Event.isCounted s caller) = true) (e : Event) :
    sessionOf s caller (e :: history) =
      { sessionOf s caller history with
        requests := (sessionOf s caller history).requests + (if e.isCounted s caller then 1 else 0)
        lastPid := (e.pid? s caller).or (sessionOf s caller history).lastPid
        status := (e.status? s caller).getD (sessionOf s caller history).status } := by
  have hFirst : (history.reverse.find? (Event.isCounted s caller)).isSome = true := by
    rw [List.find?_isSome]
    simpa using List.any_eq_true.mp hAny
  unfold sessionOf
  rw [sinceFirst, List.any_cons, hAny, Bool.or_true, if_pos rfl, List.reverse_cons,
    List.find?_append, Option.or_of_isSome hFirst, List.countP_cons, List.findSome?_cons,
    List.findSome?_cons]
  cases e.pid? s caller <;> cases e.status? s caller <;> rfl

/-- An event that is not counted may still give the session a status. -/
theorem sessionOf?_of_not_counted (hCounted : e.isCounted s caller = false) :
    sessionOf? s caller (e :: history) =
      (sessionOf? s caller history).map fun x => x.become ((e.status? s caller).getD x.status) := by
  unfold sessionOf?
  rw [List.any_cons, hCounted, Bool.false_or]
  cases hAny : history.any (Event.isCounted s caller) with
  | false => rfl
  | true =>
    rw [if_pos rfl, if_pos rfl, sessionOf_cons hAny, hCounted, pid?_of_not_counted hCounted]
    rfl

theorem sessionOf?_of_quiet (hCounted : e.isCounted s caller = false)
    (hStatus : e.status? s caller = none) :
    sessionOf? s caller (e :: history) = sessionOf? s caller history := by
  rw [sessionOf?_of_not_counted hCounted, hStatus]
  cases sessionOf? s caller history <;> rfl

/-- A counted request is noted in the session, which it makes if it is the first. -/
theorem sessionOf?_of_counted (hCounted : e.isCounted s caller = true) :
    sessionOf? s caller (e :: history) =
      some (Session.noted (e.pid? s caller) (e.status? s caller)
        ((sessionOf? s caller history).getD { caller, created := e.time })) := by
  unfold sessionOf?
  rw [List.any_cons, hCounted, Bool.true_or, if_pos rfl]
  cases hAny : history.any (Event.isCounted s caller) with
  | false => rw [sessionOf_first hAny hCounted]; rfl
  | true => rw [sessionOf_cons hAny, hCounted]; rfl

end Ledger

/-! ## Which events count for whom -/

section Counting

variable {s : Service} {r : Service.Request} {data reply : Parcel} {answer : Option Reply}
  {outcome : Outcome Unit} {time : Nat} {c : Command}

/-- A request that the service takes counts for its caller. -/
theorem isCounted_of_takes (hTakes : s.Takes r data c) :
    (Event.mk (.request r data reply) answer outcome time).isCounted s r.caller = true := by
  unfold Event.isCounted
  simp [hTakes.token_eq, hTakes.command_eq]

theorem isCounted_ne {e : Event} {caller : Caller} (hRequest : e.action = .request r data reply)
    (h : caller ≠ r.caller) : e.isCounted s caller = false := by
  unfold Event.isCounted
  rw [hRequest]
  simp [Ne.symm h]

/-- A request that is not understood counts for nobody. -/
theorem isCounted_of_misunderstood {e : Event} (hRequest : e.action = .request r data reply)
    (hNot : data.token? ≠ some s.settings.token ∨ Command.ofCode? r.code = none)
    (caller : Caller) : e.isCounted s caller = false := by
  unfold Event.isCounted
  rw [hRequest]
  rcases hNot with hWrong | hUnknown
  · simp [hWrong]
  · simp [hUnknown]

/-- A request that does not count for a caller gives it no status. -/
theorem status?_of_not_counted {e : Event} {caller : Caller}
    (hRequest : e.action = .request r data reply) (h : e.isCounted s caller = false) :
    e.status? s caller = none := by
  unfold Event.status?
  rw [hRequest, h]
  rfl

theorem pid?_of_takes (hTakes : s.Takes r data c) :
    (Event.mk (.request r data reply) answer outcome time).pid? s r.caller =
      s.presenter.pid? data := by
  unfold Event.pid?
  exact if_pos (isCounted_of_takes hTakes)

theorem status?_of_takes (hTakes : s.Takes r data c) :
    (Event.mk (.request r data reply) answer outcome time).status? s r.caller =
      if answer == some .success then some c.status else none := by
  unfold Event.status?
  dsimp only
  rw [isCounted_of_takes hTakes, Bool.true_and, hTakes.command_eq]
  rfl

theorem status?_userCancel (s : Service) (caller : Caller) (event : CloseEvent) :
    (Event.mk (.userCancel event) answer outcome time).status? s caller =
      if event.isFor s.settings && outcome.isOk then some .manClose else none := rfl

/-- What leaves the service alone counts for nobody. -/
theorem quiet_of_isAside {e : Event} (h : e.action.isAside = true) (caller : Caller) :
    e.isCounted s caller = false ∧ e.status? s caller = none := by
  unfold Event.isCounted Event.status?
  cases hAction : e.action with
  | request r data reply => rw [hAction] at h; exact nomatch h
  | userCancel event => exact ⟨rfl, by rw [hAction] at h; exact nomatch h⟩
  | _ => exact ⟨rfl, rfl⟩

end Counting

/-! ## The table follows the history -/

namespace Scene

/-- The table has of each caller what the history says, and one session for each connection. -/
structure Tracks (s : Service) (t : Table) (history : List Event) : Prop where
  nodup : t.ids.Nodup
  find?_eq : ∀ caller : Caller, t.find? caller.connectId = sessionOf? s caller history

variable {s : Service} {t : Table} {history : List Event} {e : Event}

/-- The history is read with the settings and the presenter only. -/
theorem Tracks.with_table (h : Tracks s t history) (other : Table) :
    Tracks { s with table := other } t history :=
  ⟨h.nodup, h.find?_eq⟩

/-- An event that concerns no session. -/
theorem Tracks.quiet (h : Tracks s t history)
    (hQuiet : ∀ caller, e.isCounted s caller = false ∧ e.status? s caller = none) :
    Tracks s t (e :: history) := by
  refine ⟨h.nodup, ?_⟩
  intro caller
  obtain ⟨hCounted, hStatus⟩ := hQuiet caller
  rw [sessionOf?_of_quiet hCounted hStatus]
  exact h.find?_eq caller

/-- A request that is not understood concerns no session. -/
theorem Tracks.misunderstood (h : Tracks s t history) {r : Service.Request} {data reply : Parcel}
    (hRequest : e.action = .request r data reply)
    (hNot : data.token? ≠ some s.settings.token ∨ Command.ofCode? r.code = none) :
    Tracks s t (e :: history) := by
  apply h.quiet
  intro caller
  have hCounted := isCounted_of_misunderstood hRequest hNot caller
  exact ⟨hCounted, status?_of_not_counted hRequest hCounted⟩

/-- A request that is counted in the session of its caller. -/
theorem Tracks.served (h : Tracks s t history) {r : Service.Request} {data reply : Parcel}
    {answer : Reply} {c : Command} {now : Nat} (hTakes : s.Takes r data c) {status : Option Status}
    (hStatus : (if some answer == some .success then some c.status else none) = status) :
    Tracks s (t.served r.caller now (Session.noted (s.presenter.pid? data) status))
      (⟨.request r data reply, some answer, .ok (), now⟩ :: history) := by
  have hCaller := Session.caller_noted (s.presenter.pid? data) status
  refine ⟨Table.nodup_served h.nodup r.caller now hCaller, ?_⟩
  intro caller
  by_cases hSame : caller = r.caller
  · -- What the request finds in the table is what the history said before it.
    subst hSame
    rw [Table.find?_served_self t r.caller now hCaller,
      sessionOf?_of_counted (isCounted_of_takes hTakes), pid?_of_takes hTakes,
      status?_of_takes hTakes, hStatus]
    unfold Table.session
    rw [h.find?_eq]
  · have hApart : caller.connectId ≠ r.caller.connectId :=
      fun hId => hSame (Caller.connectId_inj hId)
    have hCounted := isCounted_ne (s := s) (e := ⟨.request r data reply, some answer, .ok (), now⟩)
      rfl hSame
    rw [Table.find?_served_ne t now hCaller hApart,
      sessionOf?_of_quiet hCounted (status?_of_not_counted rfl hCounted)]
    exact h.find?_eq caller

/-- The user's closing, of which every session learns. -/
theorem Tracks.closedByUser (h : Tracks s t history) (hOpen : t.closed = false)
    {event : CloseEvent} (hFor : event.isFor s.settings = true) {now : Nat} :
    Tracks s (t.modifyLive fun x => x.become .manClose)
      (⟨.userCancel event, none, .ok (), now⟩ :: history) := by
  have hCaller := Session.caller_become .manClose
  refine ⟨by rw [Table.ids_modifyLive t hCaller]; exact h.nodup, ?_⟩
  intro caller
  rw [Table.find?_modifyLive hOpen hCaller, sessionOf?_of_not_counted rfl, status?_userCancel, hFor,
    h.find?_eq]
  rfl

/-- As long as the service stands, its table follows the history. -/
theorem tracks_of_reachable {s : Scene} (h : s.Reachable)
    (hOpen : s.service.table.closed = false) : Tracks s.service s.service.table s.history := by
  revert hOpen
  refine holds_of_reachable (P := fun s => s.service.table.closed = false →
    Tracks s.service s.service.table s.history) ?_ ?_ h
  · intro s hBegun _
    rw [hBegun.table_eq, hBegun.history_eq]
    exact ⟨List.nodup_nil, fun caller => rfl⟩
  · intro s a hReachable hBefore
    obtain ⟨answer, outcome, t, h', hDone, hAfter⟩ := s.after_cases a
    rw [hAfter]
    intro hOpen
    refine Tracks.with_table ?_ t
    cases hDone with
    | request reply hAnswered hPlatform =>
      cases hAnswered with
      | mismatch hToken => exact (hBefore hOpen).misunderstood rfl (Or.inl hToken)
      | unsupported _ hCommand => exact (hBefore hOpen).misunderstood rfl (Or.inr hCommand)
      | destroyed _ _ hClosed => exact nomatch hClosed.symm.trans hOpen
      | retired hTakes hRetired =>
        -- Sessions are retired only when the table is closed, so this end is not reached.
        have hUnretired := unretired_of_reachable hReachable hTakes.open_eq
        exact nomatch hRetired.symm.trans (hUnretired.session _ _)
      | @opened hTakes _ accepted =>
        refine (hBefore hTakes.open_eq).served hTakes ?_
        cases accepted <;> rfl
      | @closed hTakes _ crashed =>
        refine (hBefore hTakes.open_eq).served hTakes ?_
        cases crashed <;> rfl
    | @ignored event hFor =>
      refine (hBefore hOpen).quiet fun caller => ⟨rfl, ?_⟩
      rw [status?_userCancel, hFor]
      rfl
    | @userCancel event h' hFor crashed hCrashed hPlatform =>
      cases crashed with
      | true =>
        refine (hBefore hOpen).quiet fun caller => ⟨rfl, ?_⟩
        rw [status?_userCancel, hFor]
        rfl
      | false =>
        have hWasOpen : s.service.table.closed = false :=
          (Table.closed_modifyLive _ _).symm.trans hOpen
        exact (hBefore hWasOpen).closedByUser hWasOpen hFor
    | destroy => exact nomatch hOpen
    | aside hAside hCalls =>
      exact (hBefore hOpen).quiet fun caller => quiet_of_isAside hAside caller

/-! ## Without crashes every closing has its effect -/

theorem mem_sorted_iff {s : Scene} (h : s.Reachable) (hOpen : s.service.table.closed = false)
    {x : Session} :
    x ∈ s.service.table.sorted ↔ ∃ caller, (∃ e ∈ s.history, e.isCounted s.service caller = true) ∧
      x = sessionOf s.service caller s.history := by
  obtain ⟨hNodup, hFind⟩ := tracks_of_reachable h hOpen
  have hLive : s.service.table.live = s.service.table.sessions := by
    unfold Table.live
    rw [hOpen]
    rfl
  have hCounted : ∀ caller y, sessionOf? s.service caller s.history = some y ↔
      (∃ e ∈ s.history, e.isCounted s.service caller = true) ∧
        y = sessionOf s.service caller s.history := by
    intro caller y
    unfold sessionOf?
    rw [← List.any_eq_true]
    split
    · next hAny => simp [hAny, eq_comm]
    · next hNot => simp [hNot]
  rw [Table.mem_sorted, hLive, Table.mem_sessions_iff hNodup]
  -- A listed session is found under its own caller, and what is found there is what the history
  -- says.
  constructor
  · intro hMem
    exact ⟨x.caller, (hCounted x.caller x).mp ((hFind x.caller).symm.trans hMem)⟩
  · rintro ⟨caller, hAny, rfl⟩
    exact (hFind caller).trans ((hCounted caller _).mpr ⟨hAny, rfl⟩)

end Scene

end DevicePower.Notice
