import DevicePower.Proofs.Lock.Scene
import DevicePower.Proofs.Notice.Handling

/-!
# The notice service at work

A scene is a notice service on a host, in the middle of a run. Anything may happen next: a request
comes in, the user closes the notice, the service is ended, time passes, the platform begins or
stops to fail, and the rest of the facade uses the platform. What was done is kept in a history, the
latest first.

A run begins where the service has just been started, for any settings and device and on any
platform. What one action leaves is said once, by `Done`.

## Main results

* `after_cases`: the cases of an action.
* `run_keeps`: what each action keeps, a run keeps.
* `closed_run`: a service that has ended stays ended.
* `unretired_of_reachable`: a session is not retired as long as the service stands.
-/

namespace DevicePower

/-- Whether a call is one of the notice service. -/
def Call.isNotice : Call → Bool
  | .requestEnable => true
  | .publish _ _ _ _ => true
  | .cancel _ _ => true
  | .capsuleVisible _ => true
  | .closePanel => true
  | .authorize _ => true
  | _ => false

/-- A platform without faults accepts every call of the service. -/
theorem Platform.accepts_of_faultless {p : Platform} {c : Call} (hFailing : p.failing = [])
    (hFaults : p.faults = []) (hNotice : c.isNotice = true) : p.accepts c = true := by
  unfold accepts answer objection?
  rw [hFaults, hFailing]
  cases c <;> first | rfl | exact nomatch hNotice

/-- The platform does not crash in a call that it accepts. -/
theorem Platform.calm_of_accepts {p : Platform} {c : Call} (h : p.accepts c = true) :
    p.crashes c = false := by
  unfold crashes
  rw [accepts_iff.mp h]

namespace Notice

namespace Presenter

theorem isNotice_showing (p : Presenter) (pid : Option Int32) :
    (p.showing pid).isNotice = true := by
  cases p <;> rfl

theorem isNotice_of_mem_dismissal {p : Presenter} {call : Call} (h : call ∈ p.dismissal) :
    call.isNotice = true := by
  cases p with
  | notification settings =>
    simp only [dismissal, List.mem_cons, List.not_mem_nil, or_false] at h
    rcases h with rfl | rfl <;> rfl
  | capsule =>
    simp only [dismissal, List.mem_cons, List.not_mem_nil, or_false] at h
    rcases h with rfl | rfl | rfl <;> rfl

/-- The calls that close the notice on request are among those that dismiss it. -/
theorem mem_dismissal_of_mem_closing {p : Presenter} {call : Call} (h : call ∈ p.closing) :
    call ∈ p.dismissal := by
  cases p with
  | notification settings => exact List.mem_cons_of_mem _ h
  | capsule => exact h

theorem isNotice_of_mem_closing {p : Presenter} {call : Call} (h : call ∈ p.closing) :
    call.isNotice = true :=
  isNotice_of_mem_dismissal (mem_dismissal_of_mem_closing h)

end Presenter

/-- What happens next. -/
inductive Action where
  /-- A request comes in, and its reply is to be written to a parcel. -/
  | request (r : Service.Request) (data reply : Parcel)
  | userCancel (event : CloseEvent)
  | destroy
  /-- Time passes. -/
  | pass (nanoseconds : Nat)
  | change (c : Lock.Change)
  /-- The rest of the facade calls the platform. -/
  | other (call : Call) (apart : call.isNotice = false)

/-- Whether an action leaves the service alone. -/
def Action.isAside : Action → Bool
  | .pass _ => true
  | .change _ => true
  | .other _ _ => true
  | _ => false

/-- Something that was done. -/
structure Event where
  action : Action
  /-- The reply, if it was a request. -/
  answer : Option Reply
  /-- How it ended. A request ends well whatever its reply. -/
  outcome : Outcome Unit
  /-- When it was done. -/
  time : Nat

/-- A service on a host in the middle of a run. -/
structure Scene where
  service : Service
  host : Host
  /-- What was done so far, the latest first. -/
  history : List Event := []

namespace Scene

/-- How an action ends and what it leaves, before it is put into the history. -/
def act (s : Scene) : Action → Option Reply × Outcome Unit × Service × Host
  | .request r data reply =>
    let (answer, _, _, service, host) := s.service.onRequest r data reply s.host
    (some answer, .ok (), service, host)
  | .userCancel event =>
    let (outcome, service, host) := s.service.userCancel event s.host
    (none, outcome.map fun _ => (), service, host)
  | .destroy =>
    let (outcome, service, host) := s.service.destroy s.host
    (none, outcome, service, host)
  | .pass nanoseconds =>
    (none, .ok (), s.service, { s.host with now := s.host.now + nanoseconds })
  | .change c =>
    (none, .ok (), s.service, { s.host with platform := c.apply s.host.platform })
  | .other call _ => (none, s.host.answer call, s.service, s.host.attempt call)

/-- The scene after an action. -/
def after (s : Scene) (a : Action) : Scene :=
  let (answer, outcome, service, host) := s.act a
  { service, host, history := ⟨a, answer, outcome, s.host.now⟩ :: s.history }

/-- The scene after some actions. -/
def run (s : Scene) (actions : List Action) : Scene := actions.foldl after s

/-- A scene in which the service has just been started. -/
structure Begun (s : Scene) : Prop where
  history_eq : s.history = []
  started : ∃ settings device h, Service.start settings device h = (.ok s.service, s.host)

/-- A host whose platform accepts every call of the service. -/
def calmHost : Host := { platform := { supported := [] }, origin := ⟨"", ""⟩ }

/-- A service that has just been started there. -/
def fresh (settings : Config.NoticeSettings) (device : Device) : Scene :=
  { service := Service.silent settings device, host := (Service.start settings device calmHost).2 }

theorem begun_fresh (settings : Config.NoticeSettings) (device : Device) :
    (fresh settings device).Begun := by
  refine ⟨rfl, settings, device, calmHost, ?_⟩
  cases device <;> rfl

/-- A scene to which some run leads. -/
def Reachable (s : Scene) : Prop := ∃ start actions, Begun start ∧ s = start.run actions

/-- What a service begins with. -/
theorem Begun.service_eq {s : Scene} (h : s.Begun) :
    ∃ settings device, s.service = Service.silent settings device := by
  obtain ⟨settings, device, host, hStart⟩ := h.started
  have hService : ∀ x, Service.start settings device host = x → x.1 = .ok s.service →
      s.service = Service.silent settings device := by
    rintro x rfl hOk
    unfold Service.start at hOk
    dsimp only at hOk
    split at hOk
    · exact (Except.ok.inj hOk).symm
    · split at hOk
      · exact (Except.ok.inj hOk).symm
      · exact nomatch hOk
      · exact (Except.ok.inj hOk).symm
  exact ⟨settings, device, hService _ hStart rfl⟩

/-- A service begins without sessions. -/
theorem Begun.table_eq {s : Scene} (h : s.Begun) : s.service.table = {} := by
  obtain ⟨settings, device, hService⟩ := h.service_eq
  rw [hService]
  rfl

/-- What each action keeps, a run keeps. -/
theorem run_keeps (P : Scene → Prop) (step : ∀ s a, P s → P (s.after a)) (actions : List Action) :
    ∀ s : Scene, P s → P (s.run actions) := by
  induction actions with
  | nil => intro s hStart; exact hStart
  | cons a actions ih =>
    intro s hStart
    have hFirst : P (s.after a) := step s a hStart
    exact ih (s.after a) hFirst

theorem reachable_of_begun {s : Scene} (h : s.Begun) : s.Reachable := ⟨s, [], h, rfl⟩

theorem reachable_run {s : Scene} (h : s.Reachable) (actions : List Action) :
    (s.run actions).Reachable := by
  obtain ⟨first, earlier, hBegun, rfl⟩ := h
  exact ⟨first, earlier ++ actions, hBegun, List.foldl_append.symm⟩

/-- What holds at the start of every run and is kept by each action holds in every scene that is
reached. -/
theorem holds_of_reachable {P : Scene → Prop} (start : ∀ s : Scene, s.Begun → P s)
    (step : ∀ s a, s.Reachable → P s → P (s.after a)) {s : Scene} (h : s.Reachable) : P s := by
  obtain ⟨first, actions, hBegun, rfl⟩ := h
  have hKept := run_keeps (fun t => t.Reachable ∧ P t) ?_ actions first
    ⟨reachable_of_begun hBegun, start first hBegun⟩
  · exact hKept.2
  · rintro t a ⟨hReachable, hBefore⟩
    exact ⟨reachable_run hReachable [a], step t a hReachable hBefore⟩

/-! ## The actions one by one -/

/-- What is left of an action, and how it ends. The settings and the presenter are never changed. -/
inductive Done (s : Scene) : Action → Option Reply → Outcome Unit → Table → Host → Prop where
  | request {r : Service.Request} {data : Parcel} (reply : Parcel) {answer : Reply} {t : Table}
      {p : Platform} {h' : Host} (hAnswered : s.service.Answered r data s.host answer t p)
      (hPlatform : h'.platform = p) :
      Done s (.request r data reply) (some answer) (.ok ()) t h'
  /-- A close event is not meant for this notice. -/
  | ignored {event : CloseEvent} (hFor : event.isFor s.service.settings = false) :
      Done s (.userCancel event) none (.ok ()) s.service.table s.host
  | userCancel {event : CloseEvent} {h' : Host}
      (hFor : event.isFor s.service.settings = true) {crashed : Bool}
      (hCrashed : s.service.presenter.dismissal.any s.host.platform.crashes = crashed)
      (hPlatform : h'.platform =
        s.host.platform.recorded (s.host.platform.acceptedOf s.service.presenter.dismissal)) :
      Done s (.userCancel event) none (if crashed then .error .crashed else .ok ())
        (if crashed then s.service.table
          else s.service.table.modifyLive fun s => s.become .manClose)
        h'
  | destroy {outcome : Outcome Unit} {h' : Host}
      (hPlatform : h'.platform =
        s.host.platform.recorded (s.host.platform.acceptedOf s.service.presenter.dismissal)) :
      Done s .destroy none outcome s.service.table.ended h'
  | aside {a : Action} (hAside : a.isAside = true) {outcome : Outcome Unit} {h' : Host}
      (hCalls : ∃ more, h'.platform.calls = s.host.platform.calls ++ more ∧
        ∀ c ∈ more, c.isNotice = false) :
      Done s a none outcome s.service.table h'

theorem done_other (s : Scene) {call : Call} (hApart : call.isNotice = false) :
    Done s (.other call hApart) none (s.host.answer call) s.service.table
      (s.host.attempt call) := by
  refine .aside rfl ⟨if s.host.platform.accepts call then [call] else [], ?_, ?_⟩
  · exact Platform.calls_attempt s.host.platform call
  · intro c hMem
    split at hMem
    · rw [List.mem_singleton.mp hMem]
      exact hApart
    · exact absurd hMem List.not_mem_nil

/-- Every action leaves what it leaves, and an event. -/
theorem after_cases (s : Scene) (a : Action) :
    ∃ answer outcome t h', Done s a answer outcome t h' ∧
      s.after a = ⟨{ s.service with table := t }, h',
        ⟨a, answer, outcome, s.host.now⟩ :: s.history⟩ := by
  unfold after
  cases a with
  | request r data reply =>
    obtain ⟨answer, rest, t, h', hEq, hAnswered, -⟩ := s.service.onRequest_cases r data reply s.host
    unfold act
    dsimp only
    rw [hEq]
    exact ⟨_, _, _, _, .request reply hAnswered rfl, rfl⟩
  | userCancel event =>
    unfold act
    dsimp only
    cases hFor : event.isFor s.service.settings with
    | false =>
      rw [s.service.userCancel_of_not_isFor s.host hFor]
      exact ⟨_, _, _, _, .ignored hFor, rfl⟩
    | true =>
      obtain ⟨h', hEq, hPlatform⟩ := s.service.userCancel_cases s.host hFor rfl
      rw [hEq]
      refine ⟨_, _, _, _, .userCancel hFor rfl hPlatform, ?_⟩
      split <;> rfl
  | destroy =>
    obtain ⟨outcome, h', hEq, hPlatform⟩ := s.service.destroy_cases s.host
    unfold act
    dsimp only
    rw [hEq]
    exact ⟨_, _, _, _, .destroy hPlatform, rfl⟩
  | pass nanoseconds =>
    have hCalls : s.host.platform.calls = s.host.platform.calls ++ [] := (List.append_nil _).symm
    exact ⟨none, .ok (), _, { s.host with now := s.host.now + nanoseconds },
      .aside rfl ⟨[], hCalls, List.forall_mem_nil _⟩, rfl⟩
  | change c =>
    have hCalls : (c.apply s.host.platform).calls = s.host.platform.calls ++ [] := by
      rw [Lock.Change.calls_apply, List.append_nil]
    exact ⟨none, .ok (), _, { s.host with platform := c.apply s.host.platform },
      .aside rfl ⟨[], hCalls, List.forall_mem_nil _⟩, rfl⟩
  | other call apart => exact ⟨_, _, _, _, done_other s apart, rfl⟩

/-- The settings and the presenter stay as they are. -/
theorem service_run (actions : List Action) (s : Scene) :
    (s.run actions).service.settings = s.service.settings ∧
      (s.run actions).service.presenter = s.service.presenter := by
  refine run_keeps (fun t => t.service.settings = s.service.settings ∧
    t.service.presenter = s.service.presenter) ?_ actions s ⟨rfl, rfl⟩
  intro t a hBefore
  obtain ⟨answer, outcome, table, h', -, hAfter⟩ := t.after_cases a
  rw [hAfter]
  exact hBefore

/-- A service that has ended stays ended. -/
theorem closed_after {s : Scene} (h : s.service.table.closed = true) (a : Action) :
    (s.after a).service.table.closed = true := by
  obtain ⟨answer, outcome, t, h', hDone, hAfter⟩ := s.after_cases a
  rw [hAfter]
  cases hDone with
  | request reply hAnswered hPlatform =>
    cases hAnswered with
    | mismatch => exact h
    | unsupported => exact h
    | destroyed => exact h
    | retired => exact (Table.closed_served _ _ _ _).trans h
    | opened => exact (Table.closed_served _ _ _ _).trans h
    | closed => exact (Table.closed_served _ _ _ _).trans h
  | ignored => exact h
  | @userCancel event h' hFor crashed hCrashed hPlatform =>
    cases crashed with
    | true => exact h
    | false => exact (Table.closed_modifyLive _ _).trans h
  | destroy => rfl
  | aside => exact h

theorem closed_run {s : Scene} (h : s.service.table.closed = true) (actions : List Action) :
    (s.run actions).service.table.closed = true :=
  run_keeps (fun t => t.service.table.closed = true) (fun _ a hBefore => closed_after hBefore a)
    actions s h

/-- Whether the table has no retired session. -/
def Unretired (t : Table) : Prop := ∀ id x, t.find? id = some x → x.retired = false

theorem Unretired.session {t : Table} (h : Unretired t) (caller : Caller) (now : Nat) :
    (t.session caller now).retired = false := by
  unfold Table.session
  cases hFind : t.find? caller.connectId with
  | none => rfl
  | some x => exact h _ x hFind

theorem Unretired.served {t : Table} (h : Unretired t) (caller : Caller) (now : Nat)
    {f : Session → Session} (hCaller : ∀ x, (f x).caller = x.caller)
    (hRetired : ∀ x, (f x).retired = x.retired) : Unretired (t.served caller now f) := by
  intro id x hFind
  by_cases hSame : id = caller.connectId
  · rw [hSame, Table.find?_served_self t caller now hCaller] at hFind
    rw [← Option.some.inj hFind, hRetired]
    exact h.session caller now
  · rw [Table.find?_served_ne t now hCaller hSame] at hFind
    exact h id x hFind

theorem Unretired.modifyLive {t : Table} (h : Unretired t) (hOpen : t.closed = false)
    {f : Session → Session} (hCaller : ∀ x, (f x).caller = x.caller)
    (hRetired : ∀ x, (f x).retired = x.retired) : Unretired (t.modifyLive f) := by
  intro id x hFind
  rw [Table.find?_modifyLive hOpen hCaller] at hFind
  obtain ⟨before, hBefore, rfl⟩ := Option.map_eq_some_iff.mp hFind
  rw [hRetired]
  exact h id before hBefore

theorem unretired_after {s : Scene}
    (hBefore : s.service.table.closed = false → Unretired s.service.table) (a : Action) :
    (s.after a).service.table.closed = false → Unretired (s.after a).service.table := by
  obtain ⟨answer, outcome, t, h', hDone, hAfter⟩ := s.after_cases a
  rw [hAfter]
  intro hOpen
  cases hDone with
  | request reply hAnswered hPlatform =>
    cases hAnswered with
    | mismatch => exact hBefore hOpen
    | unsupported => exact hBefore hOpen
    | destroyed => exact hBefore hOpen
    | retired hTakes =>
      exact (hBefore hTakes.open_eq).served _ _ Session.caller_counted fun x => rfl
    | opened hTakes =>
      exact (hBefore hTakes.open_eq).served _ _ (Session.caller_noted _ _) fun x => rfl
    | closed hTakes =>
      exact (hBefore hTakes.open_eq).served _ _ (Session.caller_noted _ _) fun x => rfl
  | ignored => exact hBefore hOpen
  | @userCancel event h' hFor crashed hCrashed hPlatform =>
    cases crashed with
    | true => exact hBefore hOpen
    | false =>
      have hWasOpen : s.service.table.closed = false :=
        (Table.closed_modifyLive _ _).symm.trans hOpen
      exact (hBefore hWasOpen).modifyLive hWasOpen (Session.caller_become _) fun x => rfl
  | destroy => exact nomatch hOpen
  | aside => exact hBefore hOpen

/-- A session is not retired as long as the service stands. -/
theorem unretired_of_reachable {s : Scene} (h : s.Reachable) :
    s.service.table.closed = false → Unretired s.service.table := by
  refine holds_of_reachable
    (P := fun s => s.service.table.closed = false → Unretired s.service.table) ?_
    (fun _ a _ hBefore => unretired_after hBefore a) h
  intro s hBegun _ id x hFind
  rw [hBegun.table_eq] at hFind
  exact nomatch hFind

end Scene

end Notice

end DevicePower
