import DevicePower.Proofs.Facade.Scene
import DevicePower.Proofs.Notice.Trace

/-!
# Which calls may be on record

A desktop shows the notice as a capsule and has no use for notifications; every other device shows
notifications and has no capsule. What is published is what was configured. The permission to inject
is the authorizer's to give: the facade takes it back and never grants it.

All of this can be said of single calls, by the configuration alone: `Allows` tells which calls a
facade may make. Every part of the facade makes such calls only, so the record has no others after
any run, whatever was made to fail before the start or later. The same goes for requests, close
events and ends of the service in several threads: what a thread has still to ask is allowed at any
time, and it asks for nothing else.

## Main results

* `allows_of_makes`: every call that the facade may make is allowed.
* `Traffic.calls_keep`: what is true of the presenter's calls is true of the record in every
  interleaving.
* `calls_routed`: which calls are on record, from the start on.
-/

namespace DevicePower

/-! ## Calls and devices -/

namespace Call

/-- Whether a call is about notifications. -/
def isNotification : Call → Bool
  | requestEnable => true
  | publish _ _ _ _ => true
  | cancel _ _ => true
  | _ => false

/-- Whether a call is about the capsule. -/
def isCapsule : Call → Bool
  | capsuleVisible _ => true
  | closePanel => true
  | _ => false

end Call

namespace Config

/-- Whether a facade of this configuration may make a call. -/
def Allows (c : Config) : Call → Prop
  | .requestEnable => c.device ≠ .desktop
  | .publish id label _ event =>
    c.device ≠ .desktop ∧
      id = c.notice.id ∧ label = c.notice.label ∧ event = c.notice.closeEvent
  | .cancel _ _ => c.device ≠ .desktop
  | .capsuleVisible _ => c.device = .desktop
  | .closePanel => c.device = .desktop
  | .authorize granted => granted = false
  | _ => True

/-- What is said of the calls on record, for a configuration. -/
structure Routed (c : Config) (calls : List Call) : Prop where
  /-- On a desktop none is about notifications, -/
  desktop : c.device = .desktop → ∀ call ∈ calls, call.isNotification = false
  /-- and on every other device none is about the capsule. -/
  other : c.device ≠ .desktop → ∀ call ∈ calls, call.isCapsule = false
  /-- What is published is as configured, whichever process id it names. -/
  published : ∀ id label pid event, Call.publish id label pid event ∈ calls →
    id = c.notice.id ∧ label = c.notice.label ∧ event = c.notice.closeEvent
  /-- The permission to inject is never granted. -/
  not_granted : Call.authorize true ∉ calls

theorem routed_of_allows {c : Config} {calls : List Call}
    (h : ∀ call ∈ calls, c.Allows call) : c.Routed calls := by
  refine ⟨?_, ?_, ?_, ?_⟩
  · intro hDesktop call hMem
    have hAllowed := h call hMem
    cases call with
    | requestEnable => exact absurd hDesktop hAllowed
    | publish id label pid event => exact absurd hDesktop hAllowed.1
    | cancel id label => exact absurd hDesktop hAllowed
    | _ => rfl
  · intro hOther call hMem
    have hAllowed := h call hMem
    cases call with
    | capsuleVisible visible => exact absurd hAllowed hOther
    | closePanel => exact absurd hAllowed hOther
    | _ => rfl
  · intro id label pid event hMem
    exact (h _ hMem).2
  · intro hMem
    exact nomatch h _ hMem

/-- The presenter of a configuration. -/
def presenter (c : Config) : Notice.Presenter := Notice.Presenter.forDevice c.device c.notice

theorem presenter_of_desktop {c : Config} (h : c.device = .desktop) : c.presenter = .capsule := by
  unfold presenter Notice.Presenter.forDevice
  rw [if_pos ((Device.isDesktop_iff _).mpr h)]

theorem presenter_of_other {c : Config} (h : c.device ≠ .desktop) :
    c.presenter = .notification c.notice := by
  unfold presenter Notice.Presenter.forDevice
  rw [if_neg fun hDesktop => h ((Device.isDesktop_iff _).mp hDesktop)]

theorem allows_showing (c : Config) (pid : Option Int32) : c.Allows (c.presenter.showing pid) := by
  by_cases hDesktop : c.device = .desktop
  · rw [presenter_of_desktop hDesktop]
    exact hDesktop
  · rw [presenter_of_other hDesktop]
    exact ⟨hDesktop, rfl, rfl, rfl⟩

theorem allows_dismissal (c : Config) {call : Call} (hMem : call ∈ c.presenter.dismissal) :
    c.Allows call := by
  by_cases hDesktop : c.device = .desktop
  · rw [presenter_of_desktop hDesktop] at hMem
    simp only [Notice.Presenter.dismissal, List.mem_cons, List.not_mem_nil, or_false] at hMem
    rcases hMem with rfl | rfl | rfl
    · exact hDesktop
    · exact hDesktop
    · exact rfl
  · rw [presenter_of_other hDesktop] at hMem
    simp only [Notice.Presenter.dismissal, List.mem_cons, List.not_mem_nil, or_false] at hMem
    rcases hMem with rfl | rfl
    · exact rfl
    · exact hDesktop

/-- Every call that the facade may make is allowed. -/
theorem allows_of_makes (c : Config) {call : Call}
    (hMade : Facade.Scene.Makes c.presenter call) : c.Allows call := by
  cases hMade with
  | @power request _ hCall =>
    cases request with
    | act action =>
      obtain rfl := Option.some.inj hCall
      cases action <;> trivial
    | setPowerMode mode =>
      obtain rfl := Option.some.inj hCall
      trivial
    | isScreenOn => exact nomatch hCall
    | getPowerMode => exact nomatch hCall
  | lock hLock =>
    cases call with
    | acquireLock id name kind timeout => trivial
    | releaseLock id => trivial
    | _ => exact nomatch hLock
  | showing pid => exact c.allows_showing pid
  | dismissal hMem => exact c.allows_dismissal hMem

end Config

/-! ## In several threads -/

namespace Notice

namespace Thread

/-- The calls that a thread has still to make. -/
def left : Thread → List Call
  | request _ _ (.calling _ calls _) => calls
  | userCancel _ (.calling calls) => calls
  | destroy (.calling calls) => calls
  | _ => []

variable {listing : Listing} {s s' : Shared} {thread thread' : Thread} {deed : Deed} {call : Call}

/-- What a thread asks for, it had still to ask for. -/
theorem Step.mem_left_of_accepted (h : Step listing s thread s' thread' deed)
    (hMem : call ∈ deed.accepted) : call ∈ thread.left := by
  have hAsked : ∀ {other : Call}, call ∈ (s.asked other).accepted → call = other := by
    intro other hIs
    unfold Shared.asked at hIs
    cases hAccepts : s.platform.accepts other with
    | true =>
      rw [hAccepts] at hIs
      exact List.mem_singleton.mp hIs
    | false =>
      rw [hAccepts] at hIs
      exact absurd hIs List.not_mem_nil
  cases h with
  | crashed => exact hAsked hMem ▸ List.mem_cons_self
  | called => exact hAsked hMem ▸ List.mem_cons_self
  | cancelCrashed => exact hAsked hMem ▸ List.mem_cons_self
  | cancelCalled => exact hAsked hMem ▸ List.mem_cons_self
  | destroyCrashed => exact hAsked hMem ▸ List.mem_cons_self
  | destroyCalled => exact hAsked hMem ▸ List.mem_cons_self
  | _ => exact absurd hMem List.not_mem_nil

/-- What a thread has still to ask for after a step it had before, or it is the presenter's. -/
theorem Step.mem_left (h : Step listing s thread s' thread' deed) (hMem : call ∈ thread'.left) :
    call ∈ thread.left ∨ (∃ pid, call = s.service.presenter.showing pid) ∨
      call ∈ s.service.presenter.dismissal := by
  cases h with
  | @told r data c pid hPid =>
    cases c with
    | openNotice => exact .inr (.inl ⟨pid, List.mem_singleton.mp hMem⟩)
    | closeNotice => exact .inr (.inr (Presenter.mem_dismissal_of_mem_closing hMem))
  | called => exact .inl (List.mem_cons_of_mem _ hMem)
  | cancelCalled => exact .inl (List.mem_cons_of_mem _ hMem)
  | destroyCalled => exact .inl (List.mem_cons_of_mem _ hMem)
  | meant => exact .inr (.inr hMem)
  | dismissing => exact .inr (.inr hMem)
  | _ => exact absurd hMem List.not_mem_nil

end Thread

namespace Traffic

/-- What is true of every call of the presenter, and of the record at the start, is true of the
record in every interleaving. -/
theorem calls_keep {P : Call → Prop} {s : Scene}
    (hShowing : ∀ pid, P (s.service.presenter.showing pid))
    (hDismissal : ∀ call ∈ s.service.presenter.dismissal, P call)
    (hStart : ∀ call ∈ s.host.platform.calls, P call) (listing : Listing)
    (arrivals : List Arrival) (schedule : List Nat) :
    ∀ call ∈ ((start s listing arrivals).run schedule).shared.platform.calls, P call := by
  refine (run_keeps (t := start s listing arrivals)
    (P := fun t => t.shared.service.presenter = s.service.presenter ∧
      (∀ (i : Nat) (thread : Thread), t.threads[i]? = some thread → ∀ call ∈ thread.left, P call) ∧
      ∀ call ∈ t.shared.platform.calls, P call) ?_ schedule ⟨rfl, ?_, hStart⟩).2.2
  · rintro t i thread s' thread' deed ⟨hPresenter, hLeft, hCalls⟩ hThread hStep
    refine ⟨hStep.settings_eq.2.trans hPresenter, ?_, ?_⟩
    · intro j other hOther call hMem
      rcases getElem?_stepped hOther with ⟨-, rfl⟩ | ⟨-, hSame⟩
      · rcases hStep.mem_left hMem with hBefore | ⟨pid, rfl⟩ | hDismisses
        · exact hLeft i thread hThread call hBefore
        · rw [hPresenter]
          exact hShowing pid
        · rw [hPresenter] at hDismisses
          exact hDismissal call hDismisses
      · exact hLeft j other hSame call hMem
    · intro call hMem
      have hAfter : (t.stepped i s' thread' deed).shared.platform.calls = _ := hStep.calls_eq
      rw [hAfter] at hMem
      rcases List.mem_append.mp hMem with hOld | hNew
      · exact hCalls call hOld
      · exact hLeft i thread hThread call (hStep.mem_left_of_accepted hNew)
  · -- A thread that has just been started has nothing to ask for yet.
    intro i thread hThread call hMem
    obtain ⟨a, -, rfl⟩ := List.mem_map.mp (List.mem_of_getElem? hThread)
    cases a <;> exact absurd hMem List.not_mem_nil

end Traffic

end Notice

/-! ## From the start on -/

/-- A service is started with the presenter of its device, if it is started, and at most a
notification presenter has asked for something. -/
theorem Notice.Service.start_cases (settings : Config.NoticeSettings) (device : Device) (h : Host) :
    ((start settings device h).1 = .ok (silent settings device) ∨
      (start settings device h).1 = .error .crashed) ∧
    ((start settings device h).2.platform = h.platform ∨
      device ≠ .desktop ∧
        (start settings device h).2.platform = h.platform.attempt .requestEnable) := by
  unfold start
  dsimp only
  split
  · exact ⟨.inl rfl, .inl rfl⟩
  · next shown hPresenter =>
    have hOther : device ≠ .desktop := by
      rintro rfl
      exact nomatch hPresenter
    split
    · exact ⟨.inl rfl, .inr ⟨hOther, rfl⟩⟩
    · exact ⟨.inr rfl, .inr ⟨hOther, rfl⟩⟩
    · exact ⟨.inl rfl, .inr ⟨hOther, rfl⟩⟩

namespace Facade

/-- What starting a facade puts on record is allowed, and the presenter of the facade is the one of
its configuration. -/
theorem allows_start {c : Config} {h : Host} (hFresh : h.platform.calls = []) :
    (∀ call ∈ (start c h).2.platform.calls, c.Allows call) ∧
      ∀ f, (start c h).1 = .ok f → f.notice.presenter = c.presenter := by
  have hNone : ∀ call ∈ h.platform.calls, c.Allows call := by
    rw [hFresh]
    exact List.forall_mem_nil _
  unfold start
  split
  · exact ⟨hNone, fun f hStart => nomatch hStart⟩
  · next mode hMode =>
    obtain ⟨hOutcome, hPlatform⟩ := Notice.Service.start_cases c.notice c.device h
    have hAllowed : ∀ call ∈ (Notice.Service.start c.notice c.device h).2.platform.calls,
        c.Allows call := by
      rcases hPlatform with hSame | ⟨hOther, hAsked⟩
      · rw [hSame]
        exact hNone
      · rw [hAsked, Platform.calls_attempt]
        intro call hMem
        rcases List.mem_append.mp hMem with hOld | hNew
        · exact hNone call hOld
        · split at hNew
          · rw [List.mem_singleton.mp hNew]
            exact hOther
          · exact absurd hNew List.not_mem_nil
    generalize Notice.Service.start c.notice c.device h = started at hOutcome hAllowed ⊢
    obtain ⟨outcome, h'⟩ := started
    rcases hOutcome with rfl | rfl
    · refine ⟨hAllowed, fun f hStart => ?_⟩
      obtain rfl := Except.ok.inj hStart
      rfl
    · exact ⟨hAllowed, fun f hStart => nomatch hStart⟩

namespace Scene

/-- The presenter stays the same in a run. -/
theorem presenter_run (actions : List Action) (s : Scene) :
    (s.run actions).facade.notice.presenter = s.facade.notice.presenter :=
  run_keeps (P := fun t => t.facade.notice.presenter = s.facade.notice.presenter)
    (fun _ _ hStep hBefore => (notice_of_step hStep).2.trans hBefore) actions rfl

/-- Whatever the configuration, and whatever is made to fail before the start or later: the calls on
record are those for the device, what is published is as configured, and the permission to inject is
never granted. This goes for the start, for every run of power calls, calls on locks, requests,
close events and ends of the service, and for every interleaving of such that reach the notice
service in several threads after a run. -/
theorem calls_routed (c : Config) (h : Host) (hFresh : h.platform.calls = []) :
    c.Routed (start c h).2.platform.calls ∧
      ∀ f, (start c h).1 = .ok f → ∀ actions,
        let s := ({ facade := f, host := (start c h).2 } : Scene).run actions
        c.Routed s.host.platform.calls ∧
          ∀ listing arrivals schedule,
            c.Routed ((Notice.Traffic.start s.notice listing arrivals).run
              schedule).shared.platform.calls := by
  obtain ⟨hStarted, hPresenter⟩ := allows_start (c := c) hFresh
  refine ⟨Config.routed_of_allows hStarted, ?_⟩
  intro f hStart actions s
  have hFirst : f.notice.presenter = c.presenter := hPresenter f hStart
  have hRun : ∀ call ∈ s.host.platform.calls, c.Allows call := by
    refine calls_run (fun call hMade => ?_) hStarted actions
    exact c.allows_of_makes (hFirst ▸ hMade)
  have hLater : s.notice.service.presenter = c.presenter :=
    (presenter_run actions _).trans hFirst
  refine ⟨Config.routed_of_allows hRun, ?_⟩
  intro listing arrivals schedule
  refine Config.routed_of_allows
    (Notice.Traffic.calls_keep ?_ ?_ hRun listing arrivals schedule)
  · rw [hLater]
    exact c.allows_showing
  · rw [hLater]
    exact fun call hMem => c.allows_dismissal hMem

/-- A phone that cannot cancel notifications publishes what is configured, and is closed by its
user. Then the service is ended, and a request in another thread comes too late to publish
anything. -/
theorem phone_calls_routed :
    let c : Config := { device := .phone, notice := { id := 7, label := "asked" } }
    let h : Host := { platform := { supported := [], failing := [.cancel] }, origin := ⟨"", ""⟩ }
    let r : Notice.Service.Request := ⟨⟨321, 654⟩, 0⟩
    let data := Notice.Parcel.ofBytes (Notice.Parcel.textBytes c.notice.token)
    h.platform.calls = [] ∧ ∃ f, (start c h).1 = .ok f ∧
      let s := ({ facade := f, host := (start c h).2 } : Scene).run
        [.notice (.request r data {}), .notice (.userCancel (.ofSettings c.notice))]
      let t := (Notice.Traffic.start s.notice ⟨id, fun _ => .refl _⟩
        [.destroy, .request r data]).run [0, 0, 1, 0, 0, 0, 0, 0, 0, 0]
      c.Routed s.host.platform.calls ∧ c.Routed t.shared.platform.calls ∧
        s.host.platform.calls =
          [.requestEnable, .publish 7 "asked" none "event_inject_close_notice",
            .authorize false] ∧
        t.shared.platform.calls = s.host.platform.calls ++ [.authorize false] := by
  intro c h r data
  have hFresh : h.platform.calls = [] := rfl
  let f : Facade := ⟨c, ⟨.normal, .on⟩, {}, Notice.Service.silent c.notice c.device, 0⟩
  have hStart : (start c h).1 = .ok f := rfl
  obtain ⟨hRun, hThreads⟩ := (calls_routed c h hFresh).2 f hStart
    [.notice (.request r data {}), .notice (.userCancel (.ofSettings c.notice))]
  have hLater := hThreads ⟨id, fun _ => .refl _⟩ [.destroy, .request r data]
    [0, 0, 1, 0, 0, 0, 0, 0, 0, 0]
  refine ⟨hFresh, f, hStart, ?_⟩
  dsimp only
  refine ⟨hRun, hLater, ?_, ?_⟩
  · decide +kernel
  · decide +kernel

end Scene

end Facade

end DevicePower
