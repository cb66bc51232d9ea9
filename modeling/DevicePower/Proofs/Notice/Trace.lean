import DevicePower.Proofs.Notice.Traffic

/-!
# What is read off a trace

The trace of a run tells what the platform has on record and which status each session has, whatever
the order in which the threads were given turns. What no step changes is told here too: what a
thread was started for, and the settings and the presenter of the service.

## Main results

* `Step.changes`, `Step.platform_cases`: what a step does to the table and to the platform.
* `calls_run`: the record of the platform is what was accepted in the trace.
* `isShown_run`: the notice is shown if it was shown last.
* `status_run`: the status of a session is the last one that it was given.
* `Keeps.stepped`: a thread keeps on with what it was started for.
* `accounts_run`: a reply tells whether the platform was asked.
-/

namespace DevicePower

/-- Whether a call shows the notice or hides it, if it does either. -/
def Call.visible? : Call → Option Bool
  | .publish _ _ _ _ => some true
  | .cancel _ _ => some false
  | .capsuleVisible visible => some visible
  | _ => none

/-- Whether the notice is shown: the last call that shows or hides it shows it. -/
def Platform.isShown (p : Platform) : Bool :=
  (p.calls.filterMap Call.visible?).getLast?.getD false

namespace Notice

namespace Deed

/-- The calls of a deed that are on record. -/
def accepted : Deed → List Call
  | .asked call true => [call]
  | _ => []

/-- Whether the notice was shown or hidden by a deed, if it was. -/
def visible? : Deed → Option Bool
  | .asked call true => call.visible?
  | _ => none

/-- The status that the session of a connection was given by a deed. -/
def status? (id : ConnectId) : Deed → Option Status
  | .became other status => if other = id then some status else none
  | _ => none

end Deed

namespace Table

/-- Whether a connection has a session that is not retired. -/
def Stands (t : Table) (id : ConnectId) : Prop := ∃ x, t.find? id = some x ∧ x.retired = false

theorem liveIds_of_open {t : Table} (hOpen : t.closed = false) : t.liveIds = t.ids := by
  unfold liveIds live ids
  rw [hOpen]
  rfl

theorem mem_liveIds {t : Table} {id : ConnectId} (hOpen : t.closed = false) (h : t.Stands id) :
    id ∈ t.liveIds := by
  obtain ⟨x, hFind, -⟩ := h
  rw [liveIds_of_open hOpen]
  exact List.mem_map.mpr ⟨x, List.mem_of_find?_eq_some hFind, connectId_of_find? hFind⟩

theorem stands_of_not_retired {t : Table} {id : ConnectId} (hFound : (t.find? id).isSome)
    (hRetired : t.isRetired id = false) : t.Stands id := by
  obtain ⟨x, hFind⟩ := Option.isSome_iff_exists.mp hFound
  unfold isRetired at hRetired
  rw [hFind] at hRetired
  exact ⟨x, hFind, hRetired⟩

theorem not_stands_retire (t : Table) (id : ConnectId) :
    ¬ (t.modify id fun x => x.retire).Stands id := by
  rintro ⟨x, hFind, hRetired⟩
  rw [find?_modify_self t id (f := fun x => x.retire) fun _ => rfl] at hFind
  obtain ⟨before, -, rfl⟩ := Option.map_eq_some_iff.mp hFind
  exact nomatch hRetired

end Table

/-- What a thread was started for, unless it is for something aside from the service. -/
def Thread.arrival? : Thread → Option Arrival
  | .request r data _ => some (.request r data)
  | .userCancel event _ => some (.userCancel event)
  | .destroy _ => some .destroy
  | .aside _ => none

namespace Thread

/-- What a step of a thread does to the table. -/
inductive Changes (thread : Thread) (t : Table) : Table → Deed → Prop
  | same {deed : Deed} (hQuiet : ∀ id, deed.status? id = none) : Changes thread t t deed
  | entered (hOpen : t.closed = false) (caller : Caller) (now : Nat) :
    Changes thread t (t.entered caller now) .passed
  /-- A session is changed and keeps its caller, its status, and whether it is retired. -/
  | noted (id : ConnectId) {f : Session → Session} (hCaller : ∀ x, (f x).caller = x.caller)
    (hStatus : ∀ x, (f x).status = x.status) (hRetired : ∀ x, (f x).retired = x.retired) :
    Changes thread t (t.modify id f) .passed
  | became (id : ConnectId) (status : Status) :
    Changes thread t (t.modify id fun x => x.become status) (.became id status)
  | retired {id : ConnectId} {left : List ConnectId}
      (hThread : thread = .destroy (.holding id left)) :
    Changes thread t (t.modify id fun x => x.retire) .passed
  | closed (hThread : thread = .destroy .arrived) : Changes thread t t.close.2 .passed

section Step

variable {listing : Listing} {s s' : Shared} {thread thread' : Thread} {deed : Deed}

theorem Step.changes (h : Step listing s thread s' thread' deed) :
    Changes thread s.service.table s'.service.table deed := by
  cases h with
  | admitted hTakes => exact .entered hTakes.open_eq _ _
  | counted => exact .noted _ Session.caller_counted (fun _ => rfl) fun _ => rfl
  | told => exact .noted _ (fun _ => rfl) (fun _ => rfl) fun _ => rfl
  | settled => exact .became _ _
  | marked => exact .became _ _
  | retires => exact .retired rfl
  | closed => exact .closed rfl
  | @turned a => cases a <;> exact .same fun _ => rfl
  | _ => exact .same fun _ => rfl

/-- What a step does to the platform: nothing, or one call, or it is a change aside from the
service. -/
theorem Step.platform_cases (h : Step listing s thread s' thread' deed) :
    (s'.platform = s.platform ∧ deed.accepted = []) ∨
    (∃ call, s'.platform = s.platform.attempt call ∧ deed = s.asked call) ∨
    (∃ (c : Lock.Change) (rest : List Aside), thread = aside (.change c :: rest) ∧
      s'.platform = c.apply s.platform ∧ deed = .passed) := by
  cases h with
  | crashed => exact Or.inr (Or.inl ⟨_, rfl, rfl⟩)
  | called => exact Or.inr (Or.inl ⟨_, rfl, rfl⟩)
  | cancelCrashed => exact Or.inr (Or.inl ⟨_, rfl, rfl⟩)
  | cancelCalled => exact Or.inr (Or.inl ⟨_, rfl, rfl⟩)
  | destroyCrashed => exact Or.inr (Or.inl ⟨_, rfl, rfl⟩)
  | destroyCalled => exact Or.inr (Or.inl ⟨_, rfl, rfl⟩)
  | @turned a rest =>
    cases a with
    | pass nanoseconds => exact Or.inl ⟨rfl, rfl⟩
    | change c => exact Or.inr (Or.inr ⟨c, rest, rfl, rfl, rfl⟩)
  | _ => exact Or.inl ⟨rfl, rfl⟩

theorem Step.calls_eq (h : Step listing s thread s' thread' deed) :
    s'.platform.calls = s.platform.calls ++ deed.accepted := by
  rcases h.platform_cases with ⟨hSame, hNone⟩ | ⟨call, hAsked, rfl⟩ | ⟨c, rest, -, hChanged, rfl⟩
  · rw [hSame, hNone, List.append_nil]
  · rw [hAsked, Platform.calls_attempt]
    unfold Shared.asked
    cases s.platform.accepts call <;> rfl
  · rw [hChanged]
    exact (Lock.Change.calls_apply c _).trans (List.append_nil _).symm

/-- How the platform answers is changed only aside from the service. -/
theorem Step.answer_eq (h : Step listing s thread s' thread' deed)
    (hService : ∀ script, thread ≠ aside script) : s'.platform.answer = s.platform.answer := by
  rcases h.platform_cases with ⟨hSame, -⟩ | ⟨call, hAsked, -⟩ | ⟨c, rest, hAside, -⟩
  · rw [hSame]
  · rw [hAsked]
    exact funext fun other => Platform.answer_attempt s.platform call other
  · exact absurd hAside (hService _)

theorem Step.arrival?_eq (h : Step listing s thread s' thread' deed) :
    thread'.arrival? = thread.arrival? := by
  cases h <;> rfl

theorem Step.settings_eq (h : Step listing s thread s' thread' deed) :
    s'.service.settings = s.service.settings ∧ s'.service.presenter = s.service.presenter := by
  cases h with
  | @turned a => cases a <;> exact ⟨rfl, rfl⟩
  | _ => exact ⟨rfl, rfl⟩

end Step

namespace Changes

variable {thread : Thread} {t t' : Table} {deed : Deed} {id : ConnectId} {x : Session}

/-- The session of a connection is still there. It has the status that it was given, and it comes to
be retired only if the thread retires it. -/
theorem find?_of_some (h : Changes thread t t' deed) (hFind : t.find? id = some x) :
    ∃ x', t'.find? id = some x' ∧ x'.status = (deed.status? id).getD x.status ∧
      (x'.retired = x.retired ∨
        x'.retired = true ∧ ∃ left, thread = .destroy (.holding id left)) := by
  -- A change of the session of one connection, which may be another one.
  have hModify : ∀ (other : ConnectId) {f : Session → Session}, (∀ y, (f y).caller = y.caller) →
      (t.modify other f).find? id = some (if id = other then f x else x) := by
    intro other f hCaller
    rw [Table.find?_modify t other hCaller, hFind, Option.map_some, Table.connectId_of_find? hFind]
    by_cases hSame : id = other <;> simp [hSame]
  cases h with
  | same hQuiet => exact ⟨x, hFind, by rw [hQuiet]; rfl, Or.inl rfl⟩
  | entered hOpen caller now =>
    refine ⟨x, ?_, rfl, Or.inl rfl⟩
    unfold Table.entered
    split
    · exact hFind
    · unfold Table.find? at hFind ⊢
      rw [List.find?_append, hFind]
      rfl
  | noted other hCaller hStatus hRetired =>
    refine ⟨_, hModify other hCaller, ?_, Or.inl ?_⟩
    · split
      · exact hStatus x
      · rfl
    · split
      · exact hRetired x
      · rfl
  | became other status =>
    refine ⟨_, hModify other (Session.caller_become status), ?_, Or.inl ?_⟩
    · have hGiven : (Deed.became other status).status? id =
          if other = id then some status else none := rfl
      rw [hGiven]
      by_cases hSame : id = other
      · subst hSame
        rw [if_pos rfl, if_pos rfl]
        rfl
      · rw [if_neg hSame, if_neg (Ne.symm hSame)]
        rfl
    · split <;> rfl
  | @retired other left hThread =>
    refine ⟨_, hModify other fun _ => rfl, ?_, ?_⟩
    · split <;> rfl
    · by_cases hSame : id = other
      · subst hSame
        rw [if_pos rfl]
        exact Or.inr ⟨rfl, left, hThread⟩
      · rw [if_neg hSame]
        exact Or.inl rfl
  | closed => exact ⟨x, hFind, rfl, Or.inl rfl⟩

/-- A table that is closed stays closed. -/
theorem closed_of_closed (h : Changes thread t t' deed) (hClosed : t.closed = true) :
    t'.closed = true := by
  cases h with
  | entered hOpen => exact nomatch hOpen.symm.trans hClosed
  | closed => rfl
  | _ => exact hClosed

/-- A table that is closed takes no session. -/
theorem find?_of_none (h : Changes thread t t' deed) (hClosed : t.closed = true)
    (hFind : t.find? id = none) : t'.find? id = none := by
  have hModify : ∀ (other : ConnectId) {f : Session → Session}, (∀ y, (f y).caller = y.caller) →
      (t.modify other f).find? id = none := by
    intro other f hCaller
    rw [Table.find?_modify t other hCaller, hFind]
    rfl
  cases h with
  | same => exact hFind
  | entered hOpen => exact nomatch hOpen.symm.trans hClosed
  | noted other hCaller => exact hModify other hCaller
  | became other status => exact hModify other (Session.caller_become status)
  | retired => exact hModify _ fun _ => rfl
  | closed => exact hFind

theorem isSome_find? (h : Changes thread t t' deed) (hFound : (t.find? id).isSome) :
    (t'.find? id).isSome := by
  obtain ⟨x, hFind⟩ := Option.isSome_iff_exists.mp hFound
  obtain ⟨x', hFind', -⟩ := h.find?_of_some hFind
  exact Option.isSome_iff_exists.mpr ⟨x', hFind'⟩

/-- A session is retired only by the end of the service, which has its lock then. -/
theorem stands (h : Changes thread t t' deed) (hStands : t.Stands id)
    (hApart : ∀ left, thread ≠ .destroy (.holding id left)) : t'.Stands id := by
  obtain ⟨x, hFind, hRetired⟩ := hStands
  obtain ⟨x', hFind', -, hSame | ⟨-, left, rfl⟩⟩ := h.find?_of_some hFind
  · exact ⟨x', hFind', hSame.trans hRetired⟩
  · exact absurd rfl (hApart left)

/-- Once the table is closed, no session comes to stand. -/
theorem stands_of_stands (h : Changes thread t t' deed) (hClosed : t.closed = true)
    (hStands : t'.Stands id) : t.Stands id := by
  obtain ⟨x', hFind', hRetired'⟩ := hStands
  cases hFind : t.find? id with
  | none => exact nomatch (h.find?_of_none hClosed hFind).symm.trans hFind'
  | some x =>
    obtain ⟨y, hFind'', -, hRetired⟩ := h.find?_of_some hFind
    obtain rfl := Option.some.inj (hFind'.symm.trans hFind'')
    rcases hRetired with hSame | ⟨hNow, -⟩
    · exact ⟨x, hFind, hSame.symm.trans hRetired'⟩
    · exact nomatch hNow.symm.trans hRetired'

/-- No connection comes to have two sessions. -/
theorem nodup (h : Changes thread t t' deed) (hNodup : t.ids.Nodup) : t'.ids.Nodup := by
  cases h with
  | same => exact hNodup
  | entered hOpen caller now => exact Table.nodup_entered hNodup caller now
  | noted id hCaller => exact (Table.ids_modify t id hCaller).symm ▸ hNodup
  | became id status => exact (Table.ids_modify t id (Session.caller_become status)).symm ▸ hNodup
  | @retired id => exact (Table.ids_modify t id Session.caller_retire).symm ▸ hNodup
  | closed => exact hNodup

theorem open_of_open (h : Changes thread t t' deed) (hOpen : t.closed = false)
    (hApart : thread ≠ .destroy .arrived) : t'.closed = false := by
  cases h with
  | same => exact hOpen
  | entered => exact (Table.closed_entered _ _ _).trans hOpen
  | noted => exact hOpen
  | became => exact hOpen
  | retired => exact hOpen
  | closed hThread => exact absurd hThread hApart

end Changes

end Thread

namespace Traffic

/-- The calls that were accepted, oldest first. -/
def accepted (t : Traffic) : List Call := t.trace.reverse.flatMap fun d => d.2.accepted

/-- Each time the notice was shown or hidden, the first time first. -/
def visibility (t : Traffic) : List Bool := t.trace.reverse.filterMap fun d => d.2.visible?

/-- Each status that the session of a connection was given, the first one first. -/
def statuses (t : Traffic) (id : ConnectId) : List Status :=
  t.trace.reverse.filterMap fun d => d.2.status? id

variable {s : Scene} {listing : Listing} {arrivals : List Arrival} {schedule : List Nat}

/-- The record of the platform is what was accepted in the trace. -/
theorem calls_run :
    ((start s listing arrivals).run schedule).shared.platform.calls =
      s.host.platform.calls ++ ((start s listing arrivals).run schedule).accepted := by
  refine run_keeps (P := fun t => t.shared.platform.calls = s.host.platform.calls ++ t.accepted) ?_
    schedule (List.append_nil _).symm
  intro t i thread s' thread' deed hBefore _ hStep
  have hMore : (t.stepped i s' thread' deed).accepted = t.accepted ++ deed.accepted := by
    unfold accepted stepped
    rw [List.reverse_cons, List.flatMap_append, List.flatMap_singleton]
  rw [hMore, ← List.append_assoc, ← hBefore]
  exact hStep.calls_eq

theorem filterMap_accepted (t : Traffic) :
    t.accepted.filterMap Call.visible? = t.visibility := by
  unfold accepted visibility
  induction t.trace.reverse with
  | nil => rfl
  | cons d rest ih =>
    have hDeed : d.2.accepted.filterMap Call.visible? = d.2.visible?.toList := by
      obtain ⟨i, deed⟩ := d
      cases deed with
      | asked call accepted =>
        cases accepted with
        | true =>
          dsimp only [Deed.accepted, Deed.visible?]
          rw [List.filterMap_cons]
          cases call.visible? <;> rfl
        | false => rfl
      | _ => rfl
    rw [List.flatMap_cons, List.filterMap_append, ih, hDeed, List.filterMap_cons]
    cases d.2.visible? <;> rfl

/-- The notice is shown if it was shown last, and if it was neither shown nor hidden, as before. -/
theorem isShown_run :
    ((start s listing arrivals).run schedule).shared.platform.isShown =
      ((start s listing arrivals).run schedule).visibility.getLast?.getD
        s.host.platform.isShown := by
  unfold Platform.isShown
  rw [calls_run, List.filterMap_append, filterMap_accepted, List.getLast?_append]
  cases ((start s listing arrivals).run schedule).visibility.getLast? <;> rfl

/-- The status of a session is the last one that it was given, and if it was given none, as
before. -/
theorem status_run (listing : Listing) (arrivals : List Arrival) (schedule : List Nat)
    {id : ConnectId} {x : Session} (hFind : s.service.table.find? id = some x) :
    ∃ x', ((start s listing arrivals).run schedule).shared.service.table.find? id = some x' ∧
      x'.status =
        (((start s listing arrivals).run schedule).statuses id).getLast?.getD x.status := by
  refine run_keeps (P := fun t => ∃ x', t.shared.service.table.find? id = some x' ∧
    x'.status = (t.statuses id).getLast?.getD x.status) ?_ schedule ⟨x, hFind, rfl⟩
  rintro t i thread s' thread' deed ⟨before, hBefore, hStatus⟩ _ hStep
  obtain ⟨x', hAfter, hStatus', -⟩ := hStep.changes.find?_of_some hBefore
  refine ⟨x', hAfter, ?_⟩
  have hMore : (t.stepped i s' thread' deed).statuses id =
      t.statuses id ++ (deed.status? id).toList := by
    unfold statuses stepped
    rw [List.reverse_cons, List.filterMap_append, List.filterMap_cons]
    cases deed.status? id <;> rfl
  rw [hStatus', hStatus, hMore, List.getLast?_append]
  cases deed.status? id <;> rfl

/-- Every thread keeps on with what it was started for. -/
def Keeps (arrivals : List Arrival) (t : Traffic) : Prop :=
  ∀ (i : Nat) (thread : Thread), t.threads[i]? = some thread →
    ∃ a : Arrival, arrivals[i]? = some a ∧ thread.arrival? = a.thread.arrival?

theorem keeps_start (s : Scene) (listing : Listing) (arrivals : List Arrival) :
    (start s listing arrivals).Keeps arrivals := by
  intro i thread hThread
  unfold start at hThread
  dsimp only at hThread
  rw [List.getElem?_map] at hThread
  obtain ⟨a, hArrival, rfl⟩ := Option.map_eq_some_iff.mp hThread
  exact ⟨a, hArrival, rfl⟩

theorem Keeps.stepped {t : Traffic} {i : Nat} {thread thread' : Thread} {s' : Shared} {deed : Deed}
    (h : t.Keeps arrivals) (hThread : t.threads[i]? = some thread)
    (hStep : Thread.Step t.listing t.shared thread s' thread' deed) :
    (t.stepped i s' thread' deed).Keeps arrivals := by
  intro j other hOther
  rcases getElem?_stepped hOther with ⟨rfl, rfl⟩ | ⟨-, hSame⟩
  · obtain ⟨a, hArrival, hIs⟩ := h i thread hThread
    exact ⟨a, hArrival, hStep.arrival?_eq.trans hIs⟩
  · exact h j other hSame

/-- A thread that was started for a request is a request. -/
theorem Keeps.request {t : Traffic} {i : Nat} {thread : Thread} {r : Service.Request}
    {data : Parcel}
    (h : t.Keeps arrivals) (hArrival : arrivals[i]? = some (.request r data))
    (hThread : t.threads[i]? = some thread) : ∃ stage, thread = .request r data stage := by
  obtain ⟨a, hIs, hSame⟩ := h i thread hThread
  obtain rfl := Option.some.inj (hArrival.symm.trans hIs)
  cases thread with
  | request r' data' stage =>
    cases hSame
    exact ⟨stage, rfl⟩
  | _ => exact nomatch hSame

end Traffic

/-! ## What replies tell -/

/-- A thread asks the platform in a piece of a trace. -/
def Asks (i : Nat) (trace : List (Nat × Deed)) : Prop :=
  ∃ call accepted, (i, Deed.asked call accepted) ∈ trace

/-- What a reply tells: a request that was carried out has asked the platform, and one that was not
is answered with a failure or was not understood. -/
def Reply.Accounts (token : String) (r : Service.Request) (data : Parcel) (asks : Prop)
    (reply : Reply) : Prop :=
  (reply = .success ∧ asks) ∨ reply = .failed ∨
    data.token? ≠ some token ∨ Command.ofCode? r.code = none

/-- A request has asked the platform once it has no calls left to make, and its reply tells so. -/
def Thread.Accounts (token : String) (asks : Prop) : Thread → Prop
  | .request _ _ (.calling _ [] _) => asks
  | .request r data (.leaving reply) => reply.Accounts token r data asks
  | .request r data (.answered reply) => reply.Accounts token r data asks
  | _ => True

theorem Presenter.calls_ne_nil (p : Presenter) (pid : Option Int32) (c : Command) :
    p.calls pid c ≠ [] := by
  cases c with
  | openNotice => exact List.cons_ne_nil _ _
  | closeNotice => cases p <;> exact List.cons_ne_nil _ _

namespace Thread

variable {listing : Listing} {s s' : Shared} {thread thread' : Thread} {deed : Deed}
  {token : String}
  {trace : List (Nat × Deed)} {i : Nat}

theorem Accounts.mono {asks asks' : Prop} (h : thread.Accounts token asks) (hMore : asks → asks') :
    thread.Accounts token asks' := by
  have hReply : ∀ r data (reply : Reply), reply.Accounts token r data asks →
      reply.Accounts token r data asks' :=
    fun _ _ _ hBefore => hBefore.imp_left fun hDone => ⟨hDone.1, hMore hDone.2⟩
  cases thread with
  | request r data stage =>
    cases stage with
    | calling c left refused =>
      cases left with
      | nil => exact hMore h
      | cons call left => trivial
    | leaving reply => exact hReply r data reply h
    | answered reply => exact hReply r data reply h
    | _ => trivial
  | _ => trivial

theorem Step.accounts (h : Step listing s thread s' thread' deed)
    (hToken : s.service.settings.token = token) (hBefore : thread.Accounts token (Asks i trace)) :
    thread'.Accounts token (Asks i ((i, deed) :: trace)) := by
  have hMore : Asks i trace → Asks i ((i, deed) :: trace) := by
    rintro ⟨call, accepted, hMem⟩
    exact ⟨call, accepted, List.mem_cons_of_mem _ hMem⟩
  have hKept := hBefore.mono hMore
  cases h with
  | misunderstood hWrong => exact Or.inr (Or.inr (hToken ▸ hWrong))
  | late => exact Or.inr (Or.inl rfl)
  | retired => exact Or.inr (Or.inl rfl)
  | told =>
    obtain ⟨call, left, hCalls⟩ :=
      List.exists_cons_of_ne_nil (s.service.presenter.calls_ne_nil _ _)
    rw [hCalls]
    trivial
  | crashed => exact Or.inr (Or.inl rfl)
  | @called _ _ _ call left =>
    cases left with
    | nil => exact ⟨call, _, List.mem_cons_self⟩
    | cons next left => trivial
  | unsettled => exact Or.inr (Or.inl rfl)
  | settled => exact Or.inl ⟨rfl, hKept⟩
  | left => exact hKept
  | _ => trivial

end Thread

namespace Traffic

variable {s : Scene} {listing : Listing} {arrivals : List Arrival} {schedule : List Nat}

/-- Every reply tells whether the platform was asked. -/
theorem accounts_run {i : Nat} {thread : Thread}
    (hThread : ((start s listing arrivals).run schedule).threads[i]? = some thread) :
    thread.Accounts s.service.settings.token
      (Asks i ((start s listing arrivals).run schedule).trace) := by
  have hKept := run_keeps (t := start s listing arrivals)
    (P := fun t => t.shared.service.settings = s.service.settings ∧
    ∀ (i : Nat) (thread : Thread), t.threads[i]? = some thread →
      thread.Accounts s.service.settings.token (Asks i t.trace)) ?_ schedule ⟨rfl, ?_⟩
  · exact hKept.2 i thread hThread
  · rintro t i thread s' thread' deed ⟨hSettings, hBefore⟩ hThread hStep
    refine ⟨hStep.settings_eq.1.trans hSettings, ?_⟩
    intro j other hOther
    rcases getElem?_stepped hOther with ⟨rfl, rfl⟩ | ⟨-, hSame⟩
    · exact hStep.accounts (congrArg _ hSettings) (hBefore i thread hThread)
    · refine (hBefore j other hSame).mono ?_
      rintro ⟨call, accepted, hMem⟩
      exact ⟨call, accepted, List.mem_cons_of_mem _ hMem⟩
  · intro i thread hThread
    obtain ⟨a, -, rfl⟩ := List.mem_map.mp (List.mem_of_getElem? hThread)
    cases a <;> trivial

end Traffic

end Notice

end DevicePower
