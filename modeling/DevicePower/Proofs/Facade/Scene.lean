import DevicePower.Proofs.Api.Followed
import DevicePower.Proofs.Lock.Step
import DevicePower.Proofs.Notice.Scene

/-!
# Runs of the whole facade

The parts of a facade act on one host, and their runs have been looked at one part at a time. Here
they are put together: what happens next may be a call of the programming interface, anything that
happens to the locks and their alarms, anything that happens to the notice service, time that
passes, or a change of what the platform accepts. What a part leaves alone stays as it is.

Many of these come to the same. What one action can do is said once, by `Step`: a power call, an
action on the locks, or an action of the notice service, each as that part has it. What is said of
runs elsewhere goes through the five cases of a step and not through the actions.

## Main results

* `step_after`: the cases of an action.
* `effect_of_step`: what an action does to the platform, and whose calls are made.
* `run_keeps`: what each step keeps, a run keeps.
* `calls_run`: what is true of every call of the facade is true of the record.
-/

namespace DevicePower

/-- Whether an action is one of the locks' own, and no call that another part makes. -/
def Lock.Action.isOwn : Lock.Action → Bool
  | .other _ => false
  | _ => true

/-- Whether an action is one of the notice service's own, and no call that another part makes. -/
def Notice.Action.isOwn : Notice.Action → Bool
  | .other _ _ => false
  | _ => true

namespace Facade

/-- What happens next. -/
inductive Action where
  /-- A power call, a call for a new lock, or a change of what the platform accepts. -/
  | call (m : Api.Move)
  /-- A call on a lock by the name of a method. -/
  | lockCall (id : Nat) (method : String) (values : List Json.Value)
  /-- What else happens to the locks, their handles and their alarms. -/
  | lock (a : Lock.Action)
  /-- What happens to the notice service. -/
  | notice (a : Notice.Action)

/-- A facade on a host in the middle of a run. -/
structure Scene where
  facade : Facade
  host : Host
  /-- The alarms of each lock that have been roused and have not woken yet. -/
  roused : Nat → List (Lock.Deadline Nat) := fun _ => []

namespace Scene

/-- The facade as power calls find it. -/
def api (s : Scene) : Api.Scene := ⟨s.facade, s.host⟩

/-- The locks of the facade. -/
def locks (s : Scene) : Lock.Scene :=
  { registry := s.facade.locks, host := s.host, roused := s.roused }

/-- The notice service of the facade. -/
def notice (s : Scene) : Notice.Scene := { service := s.facade.notice, host := s.host }

/-- The scene after a call that took these places. -/
def withApi (s : Scene) (t : Api.Scene) : Scene := { s with facade := t.facade, host := t.host }

/-- The scene after something happened to the locks. -/
def withLocks (s : Scene) (t : Lock.Scene) : Scene :=
  { facade := { s.facade with locks := t.registry }, host := t.host, roused := t.roused }

/-- The scene after something happened to the notice service. -/
def withNotice (s : Scene) (t : Notice.Scene) : Scene :=
  { s with facade := { s.facade with notice := t.service }, host := t.host }

/-- The scene after an action. A call on a lock that has no handle cannot be made. -/
def after (s : Scene) : Action → Scene
  | .call m => s.withApi (s.api.after m)
  | .lockCall id method values =>
    match s.facade.onLock? id s.host (Api.callLock method values) with
    | none => s
    | some (_, facade, host) => { s with facade, host }
  | .lock a => if a.isOwn then s.withLocks (s.locks.after a) else s
  | .notice a => if a.isOwn then s.withNotice (s.notice.after a) else s

/-- The scene after some actions. -/
def run (s : Scene) (actions : List Action) : Scene := actions.foldl after s

/-! ## What an action comes to -/

/-- The scene with a lock put in its place. -/
def withLock (s : Scene) (l : Lock.Running) (h : Host) : Scene :=
  { s with facade := { s.facade with locks := s.facade.locks.put l }, host := h }

/-- What an action leaves. Locks and the notice service are left as their own scenes are. -/
inductive Step (s : Scene) : Scene → Prop
  | idle : Step s s
  /-- A lock was looked at. -/
  | seen {id : Nat} {l : Lock.Running} (hLock : s.facade.locks.find? id = some l) :
      Step s (s.withLock l s.host)
  | power (form : Form) (method : String) (values : List Json.Value) :
      Step s (s.withApi (s.api.after (.power form method values)))
  | lock {a : Lock.Action} (hOwn : a.isOwn = true) : Step s (s.withLocks (s.locks.after a))
  | notice {a : Notice.Action} (hOwn : a.isAside = false) :
      Step s (s.withNotice (s.notice.after a))

theorem onLock?_eq_none {α : Type} {s : Scene} {id : Nat}
    (op : Lock.Running → Host → Outcome α × Lock.Running × Host)
    (hLock : s.facade.locks.find? id = none) : s.facade.onLock? id s.host op = none := by
  unfold Facade.onLock?
  rw [Lock.Registry.onLock?_of_find?_eq_none s.host op hLock]
  rfl

theorem onLock?_of_find? {α : Type} {s : Scene} {id : Nat} {l : Lock.Running}
    (op : Lock.Running → Host → Outcome α × Lock.Running × Host)
    (hLock : s.facade.locks.find? id = some l) :
    s.facade.onLock? id s.host op = some ((op l s.host).1,
      { s.facade with locks := s.facade.locks.put (op l s.host).2.1 }, (op l s.host).2.2) := by
  unfold Facade.onLock?
  rw [Lock.Registry.onLock?_of_find? s.host op hLock]
  rfl

theorem withLocks_hold {s : Scene} {id : Nat} {l : Lock.Running}
    (hLock : s.facade.locks.find? id = some l) (timeout : Nat) :
    s.withLocks (s.locks.after (.hold id timeout)) =
      s.withLock (l.hold timeout s.host).2.1 (l.hold timeout s.host).2.2 := by
  have hAct : s.locks.act? (.hold id timeout) = _ :=
    Lock.Scene.onLock?_of_lock? (fun l h => l.hold timeout h) hLock
  rw [Lock.Scene.after_of_act? hAct]
  rfl

theorem withLocks_release {s : Scene} {id : Nat} {l : Lock.Running}
    (hLock : s.facade.locks.find? id = some l) :
    s.withLocks (s.locks.after (.release id)) =
      s.withLock (l.release s.host).2.1 (l.release s.host).2.2 := by
  have hAct : s.locks.act? (.release id) = _ :=
    Lock.Scene.onLock?_of_lock? (fun l h => l.release h) hLock
  rw [Lock.Scene.after_of_act? hAct]
  rfl

/-- A call on a lock by name holds or releases it, or leaves it as it is. -/
theorem step_lockCall (s : Scene) (id : Nat) (method : String) (values : List Json.Value) :
    Step s (s.after (.lockCall id method values)) := by
  cases hLock : s.facade.locks.find? id with
  | none =>
    unfold after
    dsimp only
    rw [onLock?_eq_none _ hLock]
    exact .idle
  | some l =>
    have hCalled : s.after (.lockCall id method values) = s.withLock
        (Api.callLock method values l s.host).2.1 (Api.callLock method values l s.host).2.2 := by
      unfold after
      dsimp only
      rw [onLock?_of_find? _ hLock]
      rfl
    rw [hCalled]
    unfold Api.callLock
    cases Api.LockCall.parse method values with
    | error o => exact .seen hLock
    | ok c =>
      cases c with
      | hold timeout =>
        have hHold : Step s (s.withLocks (s.locks.after (.hold id timeout))) := .lock rfl
        rw [withLocks_hold hLock] at hHold
        exact hHold
      | release =>
        have hRelease : Step s (s.withLocks (s.locks.after (.release id))) := .lock rfl
        rw [withLocks_release hLock] at hRelease
        exact hRelease
      | isHolding => exact .seen hLock

/-- A call for a new lock makes it, or leaves everything as it is. -/
theorem step_createLock (s : Scene) (form : Form) (method : String) (values : List Json.Value) :
    Step s (s.after (.call (.createLock form method values))) := by
  unfold after withApi api Api.Scene.after Api.Scene.act Facade.createLock Api.createLock
  dsimp only
  cases Api.LockRequest.parse method values with
  | error o => exact .idle
  | ok request =>
    dsimp only
    split
    · exact @Step.lock s (.create request.name request.kind) rfl
    · exact .idle

/-- The cases of an action. -/
theorem step_after (s : Scene) (a : Action) : Step s (s.after a) := by
  cases a with
  | call m =>
    cases m with
    | power form method values => exact .power form method values
    | createLock form method values => exact s.step_createLock form method values
    | change c => exact @Step.lock s (.change c) rfl
  | lockCall id method values => exact s.step_lockCall id method values
  | lock a =>
    unfold after
    dsimp only
    split
    · next hOwn => exact .lock hOwn
    · exact .idle
  | notice a =>
    cases a with
    | request r data reply => exact .notice rfl
    | userCancel event => exact .notice rfl
    | destroy => exact .notice rfl
    | pass nanoseconds => exact @Step.lock s (.pass nanoseconds) rfl
    | change c => exact @Step.lock s (.change c) rfl
    | other call _ => exact .idle

/-- What each step keeps, a run keeps. -/
theorem run_keeps {P : Scene → Prop} (step : ∀ s t, Step s t → P s → P t)
    (actions : List Action) : ∀ {s : Scene}, P s → P (s.run actions) := by
  induction actions with
  | nil => exact fun hStart => hStart
  | cons a actions ih => exact fun hStart => ih (step _ _ (step_after _ a) hStart)

/-! ## What the platform sees of a step -/

/-- The calls to the platform that a facade may make, by the part that makes them. -/
inductive Makes (presenter : Notice.Presenter) : Call → Prop
  | power {c : Api.PowerCall} {call : Call} (hCall : c.call? = some call) : Makes presenter call
  | lock {call : Call} {id : Nat} (hLock : call.lock? = some id) : Makes presenter call
  | showing (pid : Option Int32) : Makes presenter (presenter.showing pid)
  | dismissal {call : Call} (hMem : call ∈ presenter.dismissal) : Makes presenter call

/-- What a step may do to the platform: calls of the facade that are accepted are added to the
record, or what is accepted is changed. -/
inductive Effect (presenter : Notice.Presenter) (p : Platform) : Platform → Prop
  | made {more : List Call} (hMade : ∀ call ∈ more, Makes presenter call ∧ p.accepts call = true) :
      Effect presenter p (p.recorded more)
  | changed (c : Lock.Change) : Effect presenter p (c.apply p)

namespace Effect

variable {presenter : Notice.Presenter} {p : Platform}

theorem nothing : Effect presenter p p := by
  have hNone := @Effect.made presenter p [] (List.forall_mem_nil _)
  rwa [Platform.recorded_nil] at hNone

/-- Some calls are made, and those that are accepted are on record. -/
theorem sequence {calls : List Call} (hMade : ∀ call ∈ calls, Makes presenter call) :
    Effect presenter p (p.recorded (p.acceptedOf calls)) := by
  refine .made fun call hMem => ⟨hMade call (Platform.mem_of_mem_acceptedOf hMem), ?_⟩
  exact (List.mem_filter.mp hMem).2

/-- One call is made. -/
theorem attempt {call : Call} (hMade : Makes presenter call) :
    Effect presenter p (p.attempt call) := by
  rw [Platform.attempt_eq_recorded]
  refine sequence fun other hMem => ?_
  rw [List.mem_singleton.mp hMem]
  exact hMade

theorem of_asked {l : Lock.Running} {p' : Platform} (hAsked : l.Asked p p') :
    Effect presenter p p' := by
  cases hAsked with
  | nothing => exact nothing
  | acquire timeout => exact attempt (.lock rfl)
  | release _ => exact attempt (.lock rfl)

theorem of_ran {c : Api.PowerCall} {s s' : Power.State} {outcome : Outcome Json.Value}
    {p' : Platform} (hRan : c.Ran s p outcome s' p') : Effect presenter p p' := by
  cases hRan with
  | told hCall => exact nothing
  | accepted hCall hAnswer =>
    rw [← Platform.attempt_of_ok hAnswer]
    exact attempt (.power hCall)
  | failed hCall hAnswer => exact nothing

theorem of_answered {service : Notice.Service} {r : Notice.Service.Request}
    {data : Notice.Parcel} {h : Host} {answer : Notice.Reply} {t : Notice.Table} {p' : Platform}
    (hAnswered : service.Answered r data h answer t p') :
    Effect service.presenter h.platform p' := by
  cases hAnswered with
  | mismatch => exact nothing
  | unsupported => exact nothing
  | destroyed => exact nothing
  | retired => exact nothing
  | opened => exact attempt (.showing _)
  | closed =>
    exact sequence fun call hMem =>
      .dismissal (Notice.Presenter.mem_dismissal_of_mem_closing hMem)

/-- Which kinds of lock the platform can hold is not changed. -/
theorem supported_eq {p' : Platform} (h : Effect presenter p p') : p'.supported = p.supported := by
  cases h with
  | made hMade => rfl
  | changed c => exact Lock.Change.supported_apply c p

end Effect

theorem effect_power (s : Scene) (form : Form) (method : String) (values : List Json.Value) :
    Effect s.facade.notice.presenter s.host.platform
      (s.api.after (.power form method values)).host.platform := by
  have hChecked := Api.PowerCall.platform_parse method values s.host
  unfold api Api.Scene.after Api.Scene.act Facade.callPower Api.callPower
  dsimp only
  generalize Api.PowerCall.parse method values s.host = parsed at hChecked ⊢
  obtain ⟨checked, h⟩ := parsed
  rw [← hChecked]
  cases checked with
  | error e => exact .nothing
  | ok c => exact .of_ran (c.run_cases s.facade.power h)

theorem effect_lock (s : Scene) {a : Lock.Action} (hOwn : a.isOwn = true) :
    Effect s.facade.notice.presenter s.host.platform (s.locks.after a).host.platform := by
  rcases s.locks.after_cases a with ⟨_, hSame⟩ | ⟨o, t, hAct, hAfter⟩
  · rw [hSame]
    exact .nothing
  · rw [hAfter]
    dsimp only
    rcases Lock.Scene.platform_of_done (Lock.Scene.done_of_act? hAct) with hSame |
      ⟨id, l, _, hAsked⟩ | ⟨c, _, hChanged⟩ | ⟨call, rfl, _⟩
    · rw [hSame]
      exact .nothing
    · exact .of_asked hAsked
    · rw [hChanged]
      exact .changed c
    · exact nomatch hOwn

theorem effect_notice (s : Scene) {a : Notice.Action} (hOwn : a.isAside = false) :
    Effect s.facade.notice.presenter s.host.platform (s.notice.after a).host.platform := by
  obtain ⟨answer, outcome, t, h', hDone, hAfter⟩ := s.notice.after_cases a
  rw [hAfter]
  dsimp only
  cases hDone with
  | request reply hAnswered hPlatform =>
    rw [hPlatform]
    exact .of_answered hAnswered
  | ignored => exact .nothing
  | userCancel _ _ hPlatform =>
    rw [hPlatform]
    exact .sequence fun call hMem => .dismissal hMem
  | destroy hPlatform =>
    rw [hPlatform]
    exact .sequence fun call hMem => .dismissal hMem
  | aside hAside => exact nomatch hAside.symm.trans hOwn

/-- What a step does to the platform: the calls that it adds are of the part that acts. -/
theorem effect_of_step {s t : Scene} (hStep : Step s t) :
    Effect s.facade.notice.presenter s.host.platform t.host.platform := by
  cases hStep with
  | idle => exact .nothing
  | seen hLock => exact .nothing
  | power form method values => exact s.effect_power form method values
  | lock hOwn => exact s.effect_lock hOwn
  | notice hOwn => exact s.effect_notice hOwn

/-- No step changes how the notice is shown. -/
theorem notice_of_step {s t : Scene} (hStep : Step s t) :
    t.facade.notice.settings = s.facade.notice.settings ∧
      t.facade.notice.presenter = s.facade.notice.presenter := by
  cases hStep with
  | notice hOwn => exact Notice.Scene.service_run [_] s.notice
  | _ => exact ⟨rfl, rfl⟩

/-! ## What a run leaves of the platform -/

/-- What is true of every call that the facade may make, and of the record at the start, is true of
the record after any run. -/
theorem calls_run {P : Call → Prop} {s : Scene}
    (hMade : ∀ call, Makes s.facade.notice.presenter call → P call)
    (hStart : ∀ call ∈ s.host.platform.calls, P call) (actions : List Action) :
    ∀ call ∈ (s.run actions).host.platform.calls, P call := by
  refine (run_keeps (P := fun t => t.facade.notice.presenter = s.facade.notice.presenter ∧
    ∀ call ∈ t.host.platform.calls, P call) ?_ actions ⟨rfl, hStart⟩).2
  rintro t u hStep ⟨hPresenter, hBefore⟩
  refine ⟨(notice_of_step hStep).2.trans hPresenter, ?_⟩
  have hEffect := effect_of_step hStep
  rw [hPresenter] at hEffect
  generalize u.host.platform = p at hEffect
  cases hEffect with
  | made hMore =>
    intro call hMem
    rcases List.mem_append.mp hMem with hOld | hNew
    · exact hBefore call hOld
    · exact hMade call (hMore call hNew).1
  | changed c =>
    rw [Lock.Change.calls_apply]
    exact hBefore

end Scene

end Facade

end DevicePower
