import DevicePower.Proofs.Notice.Scene

/-!
# Dismissals are carried through

The notice is dismissed when the user closes it and when the service ends, and the permission to
inject input is taken back with it. So a step that the platform refuses may not keep the others from
being made. Every step is made in its turn. Those that are accepted are on the platform's record,
those that are refused are in the log of the run, each in the order in which they were made, and the
first refusal is the outcome. Only a crash of the platform ends a dismissal early.

## Main results

* `attemptEach_of_calm`, `attemptAll_of_calm`: what making several calls comes to without a crash.
* `presenter_of_reachable`: the presenter is the one for the device and the settings, in every run.
* `dismissal_is_complete`: what a close event and the end of the service leave of a dismissal.
-/

namespace DevicePower

namespace Platform

/-- Why a call is refused, if it is. -/
def refusal? (p : Platform) (c : Call) : Option Error :=
  match p.answer c with
  | .error (.refused e) => some e
  | _ => none

variable {p : Platform} {c : Call} {e : Error}

theorem refusal?_eq_some_iff : p.refusal? c = some e ↔ p.answer c = .error (.refused e) := by
  unfold refusal?
  cases p.answer c with
  | ok => simp
  | error f => cases f <;> simp

/-- A call in which the platform does not crash is accepted or refused. -/
theorem refusal?_eq_none_iff (hCalm : p.crashes c = false) :
    p.refusal? c = none ↔ p.accepts c = true := by
  unfold refusal? crashes accepts at *
  cases hAnswer : p.answer c with
  | ok => simp [Except.isOk, Except.toBool]
  | error f =>
    cases f with
    | refused e => simp [Except.isOk, Except.toBool]
    | crashed => simp [hAnswer] at hCalm

/-- Calls on record do not change what is refused. -/
theorem refusal?_attempt (p : Platform) (c : Call) : (p.attempt c).refusal? = p.refusal? := by
  funext other
  unfold refusal?
  rw [answer_attempt]

theorem crashes_attempt (p : Platform) (c : Call) : (p.attempt c).crashes = p.crashes := by
  funext other
  unfold crashes
  rw [answer_attempt]

end Platform

namespace Host

variable {calls : List Call}

/-- Without a crash every call is made, the refusals are given in their order, and nothing is
written. -/
theorem attemptEach_of_calm :
    ∀ h : Host, (∀ c ∈ calls, h.platform.crashes c = false) →
      (h.attemptEach calls).1 = .ok (calls.filterMap h.platform.refusal?) ∧
        (h.attemptEach calls).2.records = h.records := by
  induction calls with
  | nil => intro h _; exact ⟨rfl, rfl⟩
  | cons c rest ih =>
    intro h hCalm
    have hRestCalm : ∀ other ∈ rest, (h.attempt c).platform.crashes other = false := by
      intro other hMem
      rw [platform_attempt, Platform.crashes_attempt]
      exact hCalm other (List.mem_cons_of_mem c hMem)
    obtain ⟨hRefusals, hRecords⟩ := ih (h.attempt c) hRestCalm
    rw [platform_attempt, Platform.refusal?_attempt] at hRefusals
    cases hAnswer : h.platform.answer c with
    | ok =>
      have hNone : h.platform.refusal? c = none := by simp [Platform.refusal?, hAnswer]
      rw [attemptEach_of_ok hAnswer, List.filterMap_cons_none hNone]
      exact ⟨hRefusals, hRecords⟩
    | error f =>
      cases f with
      | refused e =>
        rw [attemptEach_of_refused hAnswer,
          List.filterMap_cons_some (Platform.refusal?_eq_some_iff.mpr hAnswer), hRefusals]
        exact ⟨rfl, hRecords⟩
      | crashed =>
        have hCrash : h.platform.crashes c = true := Platform.crashes_iff.mpr hAnswer
        exact nomatch hCrash.symm.trans (hCalm c List.mem_cons_self)

theorem records_foldl_write (refusals : List Error) (h : Host) :
    (refusals.foldl (fun h e => h.write (stepRecord e)) h).records =
      h.records ++ refusals.map stepRecord := by
  induction refusals generalizing h with
  | nil => exact (List.append_nil _).symm
  | cons e rest ih => rw [List.foldl_cons, ih, records_write, List.append_assoc]; rfl

/-- Without a crash the first refusal is the outcome, and every refusal is recorded. -/
theorem attemptAll_of_calm (h : Host) (hCalm : ∀ c ∈ calls, h.platform.crashes c = false) :
    (h.attemptAll calls).1 =
        (match calls.findSome? h.platform.refusal? with
          | none => .ok ()
          | some e => .error (.refused e)) ∧
      (h.attemptAll calls).2.records =
        h.records ++ (calls.filterMap h.platform.refusal?).map stepRecord := by
  obtain ⟨hRefusals, hRecords⟩ := attemptEach_of_calm h hCalm
  rw [← List.head?_filterMap]
  unfold attemptAll
  generalize h.attemptEach calls = each at hRefusals hRecords ⊢
  obtain ⟨outcome, h'⟩ := each
  obtain rfl : outcome = .ok (calls.filterMap h.platform.refusal?) := hRefusals
  refine ⟨?_, (records_foldl_write _ h').trans (congrArg (· ++ _) hRecords)⟩
  cases calls.filterMap h.platform.refusal? <;> rfl

section Outcome

variable {h : Host} (hCalm : ∀ c ∈ calls, h.platform.crashes c = false)
include hCalm

/-- Calls that are all made end well if every one is accepted. -/
theorem attemptAll_eq_ok_iff :
    (h.attemptAll calls).1 = .ok () ↔ ∀ c ∈ calls, h.platform.accepts c = true := by
  have hNone : calls.findSome? h.platform.refusal? = none ↔
      ∀ c ∈ calls, h.platform.accepts c = true := by
    rw [List.findSome?_eq_none_iff]
    exact forall₂_congr fun c hMem => Platform.refusal?_eq_none_iff (hCalm c hMem)
  rw [(attemptAll_of_calm h hCalm).1, ← hNone]
  cases calls.findSome? h.platform.refusal? <;> simp

/-- Otherwise they end as the first one that is refused. -/
theorem attemptAll_eq_refused_iff {e : Error} :
    (h.attemptAll calls).1 = .error (.refused e) ↔
      ∃ before c behind, calls = before ++ c :: behind ∧
        (∀ b ∈ before, h.platform.accepts b = true) ∧
        h.platform.answer c = .error (.refused e) := by
  have hFirst : (h.attemptAll calls).1 = .error (.refused e) ↔
      calls.findSome? h.platform.refusal? = some e := by
    rw [(attemptAll_of_calm h hCalm).1]
    cases calls.findSome? h.platform.refusal? <;> simp
  rw [hFirst, List.findSome?_eq_some_iff]
  constructor
  · rintro ⟨before, c, behind, hSplit, hRefused, hBefore⟩
    refine ⟨before, c, behind, hSplit, ?_, Platform.refusal?_eq_some_iff.mp hRefused⟩
    intro b hMem
    have hMade : b ∈ calls := hSplit ▸ List.mem_append_left _ hMem
    exact (Platform.refusal?_eq_none_iff (hCalm b hMade)).mp (hBefore b hMem)
  · rintro ⟨before, c, behind, hSplit, hBefore, hRefused⟩
    refine ⟨before, c, behind, hSplit, Platform.refusal?_eq_some_iff.mpr hRefused, ?_⟩
    intro b hMem
    have hMade : b ∈ calls := hSplit ▸ List.mem_append_left _ hMem
    exact (Platform.refusal?_eq_none_iff (hCalm b hMade)).mpr (hBefore b hMem)

end Outcome

end Host

namespace Notice

namespace Scene

/-- In every run the presenter is the one for the device and the settings of the service. -/
theorem presenter_of_reachable {s : Scene} (hReachable : s.Reachable) :
    ∃ device, s.service.presenter = Presenter.forDevice device s.service.settings := by
  obtain ⟨first, actions, hBegun, rfl⟩ := hReachable
  obtain ⟨settings, device, hService⟩ := hBegun.service_eq
  obtain ⟨hSettings, hPresenter⟩ := service_run actions first
  refine ⟨device, ?_⟩
  rw [hSettings, hPresenter, hService]
  rfl

end Scene

namespace Presenter

/-- The steps of a dismissal, by the way in which the notice is shown. -/
theorem dismissal_forDevice (device : Device) (settings : Config.NoticeSettings) :
    let p := forDevice device settings
    (p = .notification settings ∧
      p.dismissal = [.authorize false, .cancel settings.id settings.label]) ∨
    (p = .capsule ∧ p.dismissal = [.capsuleVisible false, .closePanel, .authorize false]) := by
  intro p
  unfold p forDevice
  cases device.isDesktop with
  | false => exact Or.inl ⟨rfl, rfl⟩
  | true => exact Or.inr ⟨rfl, rfl⟩

end Presenter

namespace Scene

/-- A close event is taken for this notice exactly if it names the configured event and number; any
other changes nothing. The notice is then dismissed, and so it is at the end of the service. A
dismissal consists of the steps of the presenter, and whatever the platform refuses, it is carried
through: the steps that do not fail are on record in their order, and those that fail are written to
the log. It fails exactly if a step does, and then with the error of the first. If the platform
crashes, the steps before that have been made. -/
theorem dismissal_is_complete {s : Scene} (hReachable : s.Reachable) (h : Host)
    (event : CloseEvent) :
    let settings := s.service.settings
    let p := s.service.presenter
    let isMeant := event.event = settings.closeEvent ∧ event.id = settings.id
    ((p = .notification settings ∧
        p.dismissal = [.authorize false, .cancel settings.id settings.label]) ∨
      (p = .capsule ∧ p.dismissal = [.capsuleVisible false, .closePanel, .authorize false])) ∧
    (¬ isMeant → s.service.userCancel event h = (.ok false, s.service, h)) ∧
    ((∀ c ∈ p.dismissal, h.platform.crashes c = false) →
      (s.service.userCancel event h).1 = .ok (decide isMeant) ∧
      (isMeant → (s.service.userCancel event h).2.2.platform.calls =
        h.platform.calls ++ p.dismissal.filter h.platform.accepts) ∧
      (s.service.destroy h).1 = .ok () ∧
      (s.service.destroy h).2.2.platform.calls =
        h.platform.calls ++ p.dismissal.filter h.platform.accepts ∧
      (p.dismiss h).2.platform.calls =
        h.platform.calls ++ p.dismissal.filter h.platform.accepts ∧
      (p.dismiss h).2.records =
        h.records ++ (p.dismissal.filterMap h.platform.refusal?).map Host.stepRecord ∧
      ((p.dismiss h).1 = .ok () ↔ ∀ c ∈ p.dismissal, h.platform.accepts c = true) ∧
      ∀ e, (p.dismiss h).1 = .error (.refused e) ↔
        ∃ before c behind, p.dismissal = before ++ c :: behind ∧
          (∀ b ∈ before, h.platform.accepts b = true) ∧
          h.platform.answer c = .error (.refused e)) ∧
    ((∃ c ∈ p.dismissal, h.platform.crashes c = true) →
      (p.dismiss h).1 = .error .crashed ∧
      (p.dismiss h).2.platform.calls =
        h.platform.calls ++ h.platform.acceptedOf p.dismissal) := by
  intro settings p isMeant
  have hMakes := p.makes_dismiss h
  have hCalls : (p.dismiss h).2.platform.calls =
      h.platform.calls ++ h.platform.acceptedOf p.dismissal :=
    congrArg Platform.calls hMakes.platform_eq
  have hIgnored : ¬ isMeant → s.service.userCancel event h = (.ok false, s.service, h) := by
    intro hNot
    refine s.service.userCancel_of_not_isFor h (Bool.eq_false_iff.mpr ?_)
    exact fun hFor => hNot ((event.isFor_iff settings).mp hFor)
  refine ⟨?_, hIgnored, ?_, fun hCrash => ⟨hMakes.crashed_iff.mpr hCrash, hCalls⟩⟩
  · obtain ⟨device, hPresenter⟩ := presenter_of_reachable hReachable
    have hSteps := Presenter.dismissal_forDevice device settings
    rw [← hPresenter] at hSteps
    exact hSteps
  · intro hCalm
    have hAccepted : h.platform.acceptedOf p.dismissal = p.dismissal.filter h.platform.accepts :=
      Platform.acceptedOf_eq_filter hCalm
    have hNone : p.dismissal.any h.platform.crashes = false := Platform.any_crashes_of_calm hCalm
    rw [hAccepted] at hCalls
    obtain ⟨outcome, ended, hDestroy, hEnded⟩ := s.service.destroy_cases h
    have hMeant : isMeant → (s.service.userCancel event h).1 = .ok true ∧
        (s.service.userCancel event h).2.2.platform.calls =
          h.platform.calls ++ p.dismissal.filter h.platform.accepts := by
      intro hIs
      obtain ⟨h', hCancel, hPlatform⟩ :=
        s.service.userCancel_cases h ((event.isFor_iff settings).mpr hIs) hNone
      rw [hCancel, ← hAccepted]
      exact ⟨rfl, congrArg Platform.calls hPlatform⟩
    refine ⟨?_, fun hIs => (hMeant hIs).2, ?_, ?_, hCalls,
      (Host.attemptAll_of_calm h hCalm).2, Host.attemptAll_eq_ok_iff hCalm,
      fun e => Host.attemptAll_eq_refused_iff hCalm⟩
    · by_cases hIs : isMeant
      · rw [(hMeant hIs).1, decide_eq_true hIs]
      · rw [hIgnored hIs, decide_eq_false hIs]
    · rw [s.service.destroy_outcome h, if_neg (by simpa using hNone)]
    · rw [hDestroy, ← hAccepted]
      exact congrArg Platform.calls hEnded

/-- A desktop on which the panel cannot be closed. -/
def stuckPanel : Host := { calmHost with platform := calmHost.platform.fail .closePanel }

/-- The panel cannot be closed, but the capsule is hidden and the permission taken back. -/
theorem dismissed_despite_refusal :
    let s := fresh {} .desktop
    (s.service.userCancel (.ofSettings {}) stuckPanel).1 = .ok true ∧
    (s.service.userCancel (.ofSettings {}) stuckPanel).2.2.platform.calls =
      [.capsuleVisible false, .authorize false] ∧
    (s.service.presenter.dismiss stuckPanel).1 =
      .error (.refused (.platform none "simulated ClosePanel failure")) := by
  intro s
  obtain ⟨-, -, hThrough, -⟩ := dismissal_is_complete (s := s)
    (reachable_of_begun (begun_fresh {} .desktop)) stuckPanel (.ofSettings {})
  have hCalm : ∀ c ∈ s.service.presenter.dismissal, stuckPanel.platform.crashes c = false := by
    decide +kernel
  obtain ⟨hOutcome, hCalls, -, -, -, -, -, hRefused⟩ := hThrough hCalm
  have hPanel : stuckPanel.platform.answer .closePanel =
      .error (.refused (.platform none "simulated ClosePanel failure")) :=
    Platform.refusal?_eq_some_iff.mp (by decide +kernel)
  refine ⟨hOutcome, hCalls ⟨rfl, rfl⟩, (hRefused _).mpr ?_⟩
  exact ⟨[.capsuleVisible false], .closePanel, [.authorize false], rfl, by decide +kernel, hPanel⟩

end Scene

end Notice

end DevicePower
