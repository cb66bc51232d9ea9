import DevicePower.Proofs.Notice.Ledger

/-!
# The process id that a published notice names

Where the notice is a notification, a request may carry the caller's process id behind the token,
and the notice that is published at the request names a process. The session keeps the id from one
request to the next, so a request without one has the notice published with the id that an earlier
request of the connection carried last. The published id is the request's own exactly if the request
carries one, or if no request of the connection that was counted before it did.

## Main results

* `lastPid_session`: what a session remembers, by the history.
* `published_pid_is_latest`: what is published at an open request that is accepted.
-/

namespace DevicePower.Notice

/-- The number that a request carries behind its token, if it can be read. -/
def Parcel.behindToken? (data : Parcel) : Option Int32 := data.readText.2.readInt.1.toOption

theorem Presenter.pid?_notification (settings : Config.NoticeSettings) (data : Parcel) :
    (notification settings).pid? data = data.behindToken? := rfl

namespace Scene

/-- The process id that the counted requests of a caller carried last, by the history. -/
def lastPid? (s : Scene) (caller : Caller) : Option Int32 :=
  s.history.findSome? (Event.pid? s.service caller)

/-- What a caller's session remembers is what the history says, also if it is yet to be made. -/
theorem lastPid_session {s : Scene} (h : s.Reachable) (hOpen : s.service.table.closed = false)
    (caller : Caller) :
    (s.service.table.session caller s.host.now).lastPid = s.lastPid? caller := by
  have hFind := (tracks_of_reachable h hOpen).find?_eq caller
  unfold Table.session
  rw [hFind]
  unfold sessionOf?
  cases hAny : s.history.any (Event.isCounted s.service caller) with
  | true => rfl
  | false => exact (findSome?_pid?_of_none hAny).symm

/-- The event of an action has the answer that was given. -/
theorem answer_of_after {s : Scene} {a : Action} {answer : Option Reply} {outcome : Outcome Unit}
    {service : Service} {host : Host}
    (h : s.after a = ⟨service, host, ⟨a, answer, outcome, s.host.now⟩ :: s.history⟩) :
    (s.act a).1 = answer := by
  have hHistory := congrArg history h
  exact congrArg Event.answer (List.cons.inj hHistory).1

/-- An open request that is accepted has the notice published with its own process id, or with the
one that the counted requests of its caller carried last if it carries none. This is its own exactly
if it carries one or none of those requests did. -/
theorem published_pid_is_latest {s : Scene} (h : s.Reachable) {settings : Config.NoticeSettings}
    (hPath : s.service.presenter = .notification settings) {r : Service.Request}
    {data reply : Parcel} (hCode : r.code = 0)
    (hAccepted : (s.act (.request r data reply)).1 = some .success) :
    ∃ pid,
      (s.after (.request r data reply)).host.platform.calls = s.host.platform.calls ++
        [.publish settings.id settings.label pid settings.closeEvent] ∧
      pid = data.behindToken?.or (s.lastPid? r.caller) ∧
      (pid = data.behindToken? ↔ data.behindToken?.isSome = true ∨
        ∀ e ∈ s.history, e.pid? s.service r.caller = none) := by
  obtain ⟨answer, outcome, t, h', hDone, hAfter⟩ := s.after_cases (.request r data reply)
  have hAnswer := (answer_of_after hAfter).symm.trans hAccepted
  have hCommand := Command.ofCode?_eq_openNotice.mpr hCode
  have hEarlier : (∀ e ∈ s.history, e.pid? s.service r.caller = none) ↔
      s.lastPid? r.caller = none := List.findSome?_eq_none_iff.symm
  refine ⟨data.behindToken?.or (s.lastPid? r.caller), ?_, rfl, ?_⟩
  · rw [hAfter]
    cases hDone with
    | request _ hAnswered hPlatform =>
      cases hAnswered with
      | mismatch => exact nomatch hAnswer
      | unsupported => exact nomatch hAnswer
      | destroyed => exact nomatch hAnswer
      | retired => exact nomatch hAnswer
      | @opened hTakes _ accepted hPresented =>
        cases accepted with
        | false => exact nomatch hAnswer
        | true =>
          have hCall : s.service.showCall r data s.host.now =
              .publish settings.id settings.label (data.behindToken?.or (s.lastPid? r.caller))
                settings.closeEvent := by
            unfold Service.showCall
            rw [hPath, lastPid_session h hTakes.open_eq, Presenter.pid?_notification]
            rfl
          dsimp only
          rw [hPlatform, Platform.calls_attempt, hPresented, if_pos rfl, hCall]
      | closed hTakes => exact nomatch hTakes.command_eq.symm.trans hCommand
    | aside hAside => exact nomatch hAside
  · rw [hEarlier]
    cases data.behindToken? with
    | some own => simp
    | none => simp

/-- An open request that carries a process id. -/
def openWithPid : Action :=
  .request ⟨⟨7, 9⟩, 0⟩
    (Parcel.ofBytes (Parcel.textBytes "ohos.multimodalinput.IInjectNotice" ++ Parcel.intBytes 5)) {}

/-- The bytes of a request that ends behind its token. -/
def withoutPid : Parcel :=
  Parcel.ofBytes (Parcel.textBytes "ohos.multimodalinput.IInjectNotice")

/-- After a request with a process id, one without has the same id published. -/
theorem earlier_pid_is_published :
    withoutPid.behindToken? = none ∧
    (((fresh {} .phone).run [openWithPid]).act (.request ⟨⟨7, 9⟩, 0⟩ withoutPid {})).1 =
      some .success ∧
    (((fresh {} .phone).run [openWithPid]).after
        (.request ⟨⟨7, 9⟩, 0⟩ withoutPid {})).host.platform.calls =
      ((fresh {} .phone).run [openWithPid]).host.platform.calls ++
        [.publish 100 "inject notice" (some 5) "event_inject_close_notice"] := by
  have hNone : withoutPid.behindToken? = none := by decide +kernel
  have hReachable : ((fresh {} .phone).run [openWithPid]).Reachable :=
    reachable_run (reachable_of_begun (begun_fresh {} .phone)) [openWithPid]
  have hPath : ((fresh {} .phone).run [openWithPid]).service.presenter = .notification {} :=
    (service_run [openWithPid] (fresh {} .phone)).2
  have hEarlier : ((fresh {} .phone).run [openWithPid]).lastPid? ⟨7, 9⟩ = some 5 := by
    decide +kernel
  have hAccepted : (((fresh {} .phone).run [openWithPid]).act
      (.request ⟨⟨7, 9⟩, 0⟩ withoutPid {})).1 = some .success := by decide +kernel
  obtain ⟨pid, hCalls, hPid, -⟩ := published_pid_is_latest hReachable hPath rfl hAccepted
  rw [hNone, hEarlier] at hPid
  rw [hPid] at hCalls
  exact ⟨hNone, hAccepted, hCalls⟩

/-- A published notice need not name the process id of its own request. -/
theorem published_pid_may_be_earlier :
    ¬ ∀ s : Scene, s.Reachable → ∀ settings, s.service.presenter = .notification settings →
      ∀ (r : Service.Request) (data reply : Parcel), r.code = 0 →
        (s.act (.request r data reply)).1 = some .success →
        (s.after (.request r data reply)).host.platform.calls = s.host.platform.calls ++
          [.publish settings.id settings.label data.behindToken? settings.closeEvent] := by
  intro hOwn
  have hReachable : ((fresh {} .phone).run [openWithPid]).Reachable :=
    reachable_run (reachable_of_begun (begun_fresh {} .phone)) [openWithPid]
  have hCalls := hOwn _ hReachable {} (service_run [openWithPid] (fresh {} .phone)).2 ⟨⟨7, 9⟩, 0⟩
    withoutPid {} rfl (by decide +kernel)
  have hDiffer : (((fresh {} .phone).run [openWithPid]).after
      (.request ⟨⟨7, 9⟩, 0⟩ withoutPid {})).host.platform.calls ≠
      ((fresh {} .phone).run [openWithPid]).host.platform.calls ++
        [.publish 100 "inject notice" withoutPid.behindToken? "event_inject_close_notice"] := by
    decide +kernel
  exact hDiffer hCalls

end Scene

end DevicePower.Notice
