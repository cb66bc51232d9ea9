import DevicePower.Proofs.Notice.Scene
import DevicePower.Proofs.Notice.Wire

/-!
# Every request is answered once, in a fixed order of decisions

Whatever bytes a request consists of, whoever sends it and whatever the platform refuses, one reply
is written behind what the reply's parcel holds already, and it is read back from there. Which reply
it is depends on the token first, then on the command, then on whether the service stands, and only
then on the platform. A request that is rejected on the way leaves the sessions and the platform as
they were.

A platform that crashes in a call counts as one that did not accept it. Closing the notice succeeds
whatever is refused, but not if the platform crashes.

## Main results

* `decided_of_answered`: the order of decisions.
* `every_request_answered`: every request is answered in this order, by one reply that is read back.
-/

namespace DevicePower.Notice

namespace Command

theorem ofCode?_eq_openNotice {code : UInt32} : ofCode? code = some .openNotice ↔ code = 0 := by
  unfold ofCode?
  split
  · next hZero => simp [hZero]
  · next hNot => split <;> simp [hNot]

theorem ofCode?_eq_closeNotice {code : UInt32} : ofCode? code = some .closeNotice ↔ code = 1 := by
  unfold ofCode?
  split
  · next hZero => simp [hZero]
  · split
    · next hOne => simp [hOne]
    · next hNot => simp [hNot]

theorem ofCode?_eq_none {code : UInt32} : ofCode? code = none ↔ code ≠ 0 ∧ code ≠ 1 := by
  unfold ofCode?
  split
  · next hZero => simp [hZero]
  · next hNot => split <;> simp [*]

end Command

namespace Service

variable {s : Service} {r : Request} {data : Parcel} {h : Host} {answer : Reply} {t : Table}
  {p : Platform}

/-- Every reply is one of four. -/
theorem Answered.mem (hAnswered : s.Answered r data h answer t p) :
    answer ∈ [Reply.success, .failed, .tokenMismatch, .notSupported] := by
  cases hAnswered with
  | mismatch => simp
  | unsupported => simp
  | destroyed => simp
  | retired => simp
  | opened => split <;> simp
  | closed => split <;> simp

/-- The texts of the replies are short enough to be read. -/
theorem Answered.size_le (hAnswered : s.Answered r data h answer t p) :
    (Text.Utf8.bytes answer.message).length ≤ maxTextSize := by
  have hAll : ∀ reply ∈ [Reply.success, .failed, .tokenMismatch, .notSupported],
      (Text.Utf8.bytes reply.message).length ≤ maxTextSize := by decide +kernel
  exact hAll answer hAnswered.mem

/-- The order in which a request is decided: its reply, and the service and the platform that it
leaves. -/
structure Decided (s : Service) (r : Request) (data : Parcel) (h : Host) (answer : Reply)
    (after : Service) (p : Platform) : Prop where
  wrong_token : data.token? ≠ some s.settings.token →
    answer = .tokenMismatch ∧ after = s ∧ p = h.platform
  unknown_code : data.token? = some s.settings.token → r.code ≠ 0 → r.code ≠ 1 →
    answer = .notSupported ∧ after = s ∧ p = h.platform
  after_end : data.token? = some s.settings.token → r.code = 0 ∨ r.code = 1 →
    s.isDestroyed = true → answer = .failed ∧ after = s ∧ p = h.platform
  /-- The notice is asked for, and the reply tells whether the platform accepts to show it. -/
  opening : data.token? = some s.settings.token → r.code = 0 → s.isDestroyed = false →
    answer = (if h.platform.accepts (s.showCall r data h.now) then .success else .failed) ∧
      p = h.platform.attempt (s.showCall r data h.now)
  /-- The notice is closed, whatever the platform refuses. -/
  closing : data.token? = some s.settings.token → r.code = 1 → s.isDestroyed = false →
    (∀ c ∈ s.presenter.closing, h.platform.crashes c = false) →
    answer = .success ∧ p = h.platform.recorded (s.presenter.closing.filter h.platform.accepts)
  /-- The platform crashes in one of the calls that close the notice. -/
  closing_crashed : data.token? = some s.settings.token → r.code = 1 → s.isDestroyed = false →
    (∃ c ∈ s.presenter.closing, h.platform.crashes c = true) →
    answer = .failed ∧ p = h.platform.recorded (h.platform.acceptedOf s.presenter.closing)

/-- A request that is taken for showing the notice is answered by what the platform says. -/
theorem Answered.of_openNotice (hAnswered : s.Answered r data h answer t p)
    (hSessions : Scene.Unretired s.table) (hTakes : s.Takes r data .openNotice) :
    answer = (if h.platform.accepts (s.showCall r data h.now) then .success else .failed) ∧
      p = h.platform.attempt (s.showCall r data h.now) := by
  cases hAnswered with
  | mismatch hToken => exact absurd hTakes.token_eq hToken
  | unsupported _ hCommand => exact nomatch hCommand.symm.trans hTakes.command_eq
  | destroyed _ _ hClosed => exact nomatch hClosed.symm.trans hTakes.open_eq
  | retired _ hRetired => exact nomatch hRetired.symm.trans (hSessions.session r.caller h.now)
  | opened _ _ hAccepted => exact ⟨by rw [hAccepted], rfl⟩
  | closed hOther => exact nomatch hOther.command_eq.symm.trans hTakes.command_eq

/-- A request that is taken for closing the notice succeeds unless the platform crashes. -/
theorem Answered.of_closeNotice (hAnswered : s.Answered r data h answer t p)
    (hSessions : Scene.Unretired s.table) (hTakes : s.Takes r data .closeNotice) :
    answer = (if s.presenter.closing.any h.platform.crashes then .failed else .success) ∧
      p = h.platform.recorded (h.platform.acceptedOf s.presenter.closing) := by
  cases hAnswered with
  | mismatch hToken => exact absurd hTakes.token_eq hToken
  | unsupported _ hCommand => exact nomatch hCommand.symm.trans hTakes.command_eq
  | destroyed _ _ hClosed => exact nomatch hClosed.symm.trans hTakes.open_eq
  | retired _ hRetired => exact nomatch hRetired.symm.trans (hSessions.session r.caller h.now)
  | opened hOther => exact nomatch hOther.command_eq.symm.trans hTakes.command_eq
  | closed _ _ hCrashed => exact ⟨by rw [hCrashed], rfl⟩

/-- A request with the right token to a service that has ended fails and changes nothing, if its
command is known. -/
theorem Answered.of_closed (hAnswered : s.Answered r data h answer t p)
    (hToken : data.token? = some s.settings.token) {c : Command}
    (hCommand : Command.ofCode? r.code = some c) (hClosed : s.table.closed = true) :
    answer = .failed ∧ t = s.table ∧ p = h.platform := by
  cases hAnswered with
  | mismatch hWrong => exact absurd hToken hWrong
  | unsupported _ hUnknown => exact nomatch hUnknown.symm.trans hCommand
  | destroyed => exact ⟨rfl, rfl, rfl⟩
  | retired hTakes => exact nomatch hClosed.symm.trans hTakes.open_eq
  | opened hTakes => exact nomatch hClosed.symm.trans hTakes.open_eq
  | closed hTakes => exact nomatch hClosed.symm.trans hTakes.open_eq

/-- A request that is not understood is answered so and changes nothing. -/
theorem Answered.of_misunderstood (hAnswered : s.Answered r data h answer t p)
    (hNot : data.token? ≠ some s.settings.token ∨ Command.ofCode? r.code = none) :
    answer = (if data.token? = some s.settings.token then .notSupported else .tokenMismatch) ∧
      t = s.table ∧ p = h.platform := by
  have hTaken : ∀ {c : Command}, ¬ s.Takes r data c := by
    intro c hTakes
    rcases hNot with hWrong | hUnknown
    · exact hWrong hTakes.token_eq
    · exact nomatch hUnknown.symm.trans hTakes.command_eq
  cases hAnswered with
  | mismatch hWrong => exact ⟨by rw [if_neg hWrong], rfl, rfl⟩
  | unsupported hToken => exact ⟨by rw [if_pos hToken], rfl, rfl⟩
  | destroyed hToken hCommand =>
    rcases hNot with hWrong | hUnknown
    · exact absurd hToken hWrong
    · exact nomatch hUnknown.symm.trans hCommand
  | retired hTakes => exact absurd hTakes hTaken
  | opened hTakes => exact absurd hTakes hTaken
  | closed hTakes => exact absurd hTakes hTaken

/-- The order of decisions. -/
theorem decided_of_answered (hAnswered : s.Answered r data h answer t p)
    (hSessions : s.table.closed = false → Scene.Unretired s.table) :
    s.Decided r data h answer { s with table := t } p where
  wrong_token hWrong := by
    obtain ⟨hAnswer, rfl, hPlatform⟩ := hAnswered.of_misunderstood (Or.inl hWrong)
    rw [if_neg hWrong] at hAnswer
    exact ⟨hAnswer, rfl, hPlatform⟩
  unknown_code hToken hZero hOne := by
    have hUnknown := Command.ofCode?_eq_none.mpr ⟨hZero, hOne⟩
    obtain ⟨hAnswer, rfl, hPlatform⟩ := hAnswered.of_misunderstood (Or.inr hUnknown)
    rw [if_pos hToken] at hAnswer
    exact ⟨hAnswer, rfl, hPlatform⟩
  after_end hToken hCode hEnded := by
    have hKnown : ∃ c, Command.ofCode? r.code = some c := by
      rcases hCode with hZero | hOne
      · exact ⟨_, Command.ofCode?_eq_openNotice.mpr hZero⟩
      · exact ⟨_, Command.ofCode?_eq_closeNotice.mpr hOne⟩
    obtain ⟨c, hCommand⟩ := hKnown
    obtain ⟨hAnswer, rfl, hPlatform⟩ := hAnswered.of_closed hToken hCommand hEnded
    exact ⟨hAnswer, rfl, hPlatform⟩
  opening hToken hZero hStands :=
    hAnswered.of_openNotice (hSessions hStands)
      ⟨hToken, Command.ofCode?_eq_openNotice.mpr hZero, hStands⟩
  closing hToken hOne hStands hNone := by
    obtain ⟨hAnswer, hPlatform⟩ := hAnswered.of_closeNotice (hSessions hStands)
      ⟨hToken, Command.ofCode?_eq_closeNotice.mpr hOne, hStands⟩
    rw [Platform.any_crashes_of_calm hNone] at hAnswer
    rw [Platform.acceptedOf_eq_filter hNone] at hPlatform
    exact ⟨hAnswer, hPlatform⟩
  closing_crashed hToken hOne hStands hSome := by
    obtain ⟨hAnswer, hPlatform⟩ := hAnswered.of_closeNotice (hSessions hStands)
      ⟨hToken, Command.ofCode?_eq_closeNotice.mpr hOne, hStands⟩
    rw [if_pos (List.any_eq_true.mpr hSome)] at hAnswer
    exact ⟨hAnswer, hPlatform⟩

/-- A request that begins with a text has it as its token. -/
theorem token?_of_unread {token : String} {rest : List UInt8} {data : Parcel}
    (hSize : (Text.Utf8.bytes token).length ≤ maxTextSize)
    (h : data.unread = Parcel.textBytes token ++ rest) : data.token? = some token := by
  unfold Parcel.token?
  rw [Parcel.readText_of_unread hSize h]
  rfl

end Service

namespace Scene

/-- Every request is received and answered in the order of decisions. Its one reply is added behind
what the reply's parcel held, and is read back from there with nothing left. -/
theorem every_request_answered {s : Scene} (h : s.Reachable) (r : Service.Request)
    (data reply : Parcel) :
    ∃ answer rest after host,
      s.service.receive r data reply s.host = (true, rest, answer.write reply, after, host) ∧
      answer.write reply = reply.append answer.bytes ∧
      (∃ q, Reply.read { answer.write reply with cursor := reply.data.length } = (.ok answer, q) ∧
        q.remaining = 0) ∧
      s.service.Decided r data s.host answer after host.platform := by
  obtain ⟨answer, rest, t, host, hReceive, hAnswered, _⟩ :=
    s.service.onRequest_cases r data reply s.host
  refine ⟨answer, rest, { s.service with table := t }, host, ?_, answer.write_eq_append reply,
    answer.read_write reply hAnswered.size_le, ?_⟩
  · unfold Service.receive
    rw [hReceive]
  · exact Service.decided_of_answered hAnswered (unretired_of_reachable h)

/-- A first request with the right token on a phone has the notice published. -/
theorem first_request_publishes :
    let s := fresh {} .phone
    let data := Parcel.ofBytes (Parcel.textBytes s.service.settings.token)
    ∃ rest after host,
      s.service.receive ⟨⟨7, 9⟩, 0⟩ data {} s.host =
        (true, rest, Reply.success.write {}, after, host) ∧
      (∃ q, Reply.read (Reply.success.write {}) = (.ok .success, q) ∧ q.remaining = 0) ∧
      host.platform.calls =
        [.requestEnable, .publish 100 "inject notice" none "event_inject_close_notice"] := by
  intro s data
  obtain ⟨answer, rest, after, host, hReceive, -, hRead, hDecided⟩ :=
    every_request_answered (s := s) (reachable_of_begun (begun_fresh {} .phone)) ⟨⟨7, 9⟩, 0⟩ data {}
  have hToken : data.token? = some s.service.settings.token :=
    Service.token?_of_unread (by decide +kernel) (List.append_nil _).symm
  have hCall : s.service.showCall ⟨⟨7, 9⟩, 0⟩ data s.host.now =
      .publish 100 "inject notice" none "event_inject_close_notice" := by decide +kernel
  obtain ⟨hAnswer, hPlatform⟩ := hDecided.opening hToken rfl rfl
  rw [hCall] at hAnswer hPlatform
  obtain rfl : answer = .success := hAnswer
  exact ⟨rest, after, host, hReceive, hRead, by rw [hPlatform]; rfl⟩

end Scene

end DevicePower.Notice
