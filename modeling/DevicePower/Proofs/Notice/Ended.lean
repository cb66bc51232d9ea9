import DevicePower.Proofs.Notice.Answer

/-!
# The end of the service is final

When the service ends, the table is closed first. From then on no request finds or makes a session,
so none is carried out, and the notice is never shown again. What the service may still ask for are
the calls that dismiss the notice: at its end, at a late close event, and at its end once more.

## Main results

* `answered_of_closed`: a service that has ended rejects every request.
* `addsNoShowing_after`: one action after the end shows nothing.
* `destroy_is_final`: the end and everything after it.
-/

namespace DevicePower

/-- Whether a call shows the notice. -/
def Call.shows : Call → Bool
  | .publish _ _ _ _ => true
  | .capsuleVisible visible => visible
  | _ => false

/-- The rest of the facade does not show the notice. -/
theorem Call.shows_of_not_isNotice {c : Call} (h : c.isNotice = false) : c.shows = false := by
  cases c with
  | publish => exact nomatch h
  | capsuleVisible => exact nomatch h
  | _ => rfl

namespace Platform

/-- More calls are on record, and none of them shows the notice. -/
def AddsNoShowing (p p' : Platform) : Prop :=
  ∃ more, p'.calls = p.calls ++ more ∧ ∀ c ∈ more, c.shows = false

theorem AddsNoShowing.refl (p : Platform) : p.AddsNoShowing p :=
  ⟨[], (List.append_nil _).symm, List.forall_mem_nil _⟩

theorem AddsNoShowing.trans {p p' p'' : Platform} (h : p.AddsNoShowing p')
    (h' : p'.AddsNoShowing p'') : p.AddsNoShowing p'' := by
  obtain ⟨first, hFirst, hNone⟩ := h
  obtain ⟨second, hSecond, hNone'⟩ := h'
  refine ⟨first ++ second, by rw [hSecond, hFirst, List.append_assoc], ?_⟩
  intro c hMem
  rcases List.mem_append.mp hMem with hEarly | hLate
  · exact hNone c hEarly
  · exact hNone' c hLate

end Platform

namespace Notice

namespace Presenter

/-- The call that takes the notice away. -/
def removal : Presenter → Call
  | notification s => .cancel s.id s.label
  | capsule => .capsuleVisible false

theorem removal_mem_dismissal (p : Presenter) : p.removal ∈ p.dismissal := by
  cases p <;> simp [removal, dismissal]

/-- No dismissal shows the notice. -/
theorem shows_of_mem_dismissal {p : Presenter} {c : Call} (h : c ∈ p.dismissal) :
    c.shows = false := by
  cases p with
  | notification s =>
    simp only [dismissal, List.mem_cons, List.not_mem_nil, or_false] at h
    rcases h with rfl | rfl <;> rfl
  | capsule =>
    simp only [dismissal, List.mem_cons, List.not_mem_nil, or_false] at h
    rcases h with rfl | rfl | rfl <;> rfl

theorem addsNoShowing_dismissal (p : Presenter) (platform : Platform) :
    platform.AddsNoShowing (platform.recorded (platform.acceptedOf p.dismissal)) :=
  ⟨_, rfl, fun _ hMem => shows_of_mem_dismissal (Platform.mem_of_mem_acceptedOf hMem)⟩

end Presenter

/-- A service that has ended rejects every request, and the request changes nothing. -/
theorem Service.answered_of_closed {s : Service} {r : Service.Request} {data : Parcel} {h : Host}
    {answer : Reply} {t : Table} {p : Platform} (hAnswered : s.Answered r data h answer t p)
    (hClosed : s.table.closed = true) : answer.status = -1 ∧ t = s.table ∧ p = h.platform := by
  cases hAnswered with
  | mismatch => exact ⟨rfl, rfl, rfl⟩
  | unsupported => exact ⟨rfl, rfl, rfl⟩
  | destroyed => exact ⟨rfl, rfl, rfl⟩
  | retired hTakes => exact nomatch hClosed.symm.trans hTakes.open_eq
  | opened hTakes => exact nomatch hClosed.symm.trans hTakes.open_eq
  | closed hTakes => exact nomatch hClosed.symm.trans hTakes.open_eq

namespace Scene

/-- An action after the end shows nothing. -/
theorem addsNoShowing_after {s : Scene} (hClosed : s.service.table.closed = true) (a : Action) :
    s.host.platform.AddsNoShowing (s.after a).host.platform := by
  obtain ⟨answer, outcome, t, h', hDone, hAfter⟩ := s.after_cases a
  rw [hAfter]
  cases hDone with
  | request reply hAnswered hPlatform =>
    obtain ⟨-, -, hSame⟩ := Service.answered_of_closed hAnswered hClosed
    rw [hPlatform, hSame]
    exact Platform.AddsNoShowing.refl _
  | ignored => exact Platform.AddsNoShowing.refl _
  | userCancel hFor hCrashed hPlatform =>
    rw [hPlatform]
    exact s.service.presenter.addsNoShowing_dismissal _
  | destroy hPlatform =>
    rw [hPlatform]
    exact s.service.presenter.addsNoShowing_dismissal _
  | aside hAside hCalls =>
    obtain ⟨more, hMore, hApart⟩ := hCalls
    exact ⟨more, hMore, fun c hMem => Call.shows_of_not_isNotice (hApart c hMem)⟩

theorem addsNoShowing_run {s : Scene} (hClosed : s.service.table.closed = true)
    (actions : List Action) :
    s.host.platform.AddsNoShowing (s.run actions).host.platform := by
  have hKept := run_keeps (fun t => t.service.table.closed = true ∧
    s.host.platform.AddsNoShowing t.host.platform) ?_ actions s
    ⟨hClosed, Platform.AddsNoShowing.refl _⟩
  · exact hKept.2
  · rintro t a ⟨hEnded, hBefore⟩
    exact ⟨closed_after hEnded a, hBefore.trans (addsNoShowing_after hEnded a)⟩

/-- What the end of the service leaves. -/
theorem after_destroy (s : Scene) :
    (s.after .destroy).service.table.closed = true ∧
    (s.after .destroy).host.platform =
      s.host.platform.recorded (s.host.platform.acceptedOf s.service.presenter.dismissal) := by
  obtain ⟨answer, outcome, t, h', hDone, hAfter⟩ := s.after_cases .destroy
  rw [hAfter]
  cases hDone with
  | destroy hPlatform => exact ⟨rfl, hPlatform⟩
  | aside hAside => exact nomatch hAside

theorem sorted_of_closed {t : Table} (h : t.closed = true) : t.sorted = [] := by
  unfold Table.sorted Table.live
  rw [h, if_pos rfl, List.mergeSort_nil]

/-- The end of the service is final, whatever follows. The end itself asks for the permission to be
taken back and the notice to be taken away, and each is on record if the platform accepts it and
does not crash before. From then on the service counts as ended and has no sessions, nothing on
record shows the notice again, and every request is answered with status -1 and changes neither the
service nor the platform. -/
theorem destroy_is_final (s : Scene) (later : List Action) :
    let ended := s.after .destroy
    let now := ended.run later
    (∃ own, ended.host.platform.calls = s.host.platform.calls ++ own ∧
      (∀ c ∈ own, c ∈ s.service.presenter.dismissal ∧ c.shows = false) ∧
      ((∀ c ∈ s.service.presenter.dismissal, s.host.platform.crashes c = false) →
        (.authorize false ∈ own ↔ s.host.platform.accepts (.authorize false) = true) ∧
        (s.service.presenter.removal ∈ own ↔
          s.host.platform.accepts s.service.presenter.removal = true))) ∧
    now.service.isDestroyed = true ∧ now.service.table.sorted = [] ∧
    (∃ more, now.host.platform.calls = ended.host.platform.calls ++ more ∧
      ∀ c ∈ more, c.shows = false) ∧
    ∀ r data reply, ∃ (answer : Reply) (rest : Parcel) (host : Host),
      now.service.receive r data reply now.host =
        (true, rest, answer.write reply, now.service, host) ∧
      answer.status = -1 ∧ host.platform = now.host.platform := by
  intro ended now
  obtain ⟨hEnded, hPlatform⟩ := s.after_destroy
  have hClosed : now.service.table.closed = true := closed_run hEnded later
  refine ⟨⟨s.host.platform.acceptedOf s.service.presenter.dismissal, ?_, ?_, ?_⟩, hClosed,
    sorted_of_closed hClosed, addsNoShowing_run hEnded later, ?_⟩
  · exact congrArg Platform.calls hPlatform
  · intro c hOwn
    have hMem := Platform.mem_of_mem_acceptedOf hOwn
    exact ⟨hMem, Presenter.shows_of_mem_dismissal hMem⟩
  · intro hCalm
    rw [Platform.acceptedOf_eq_filter hCalm, List.mem_filter, List.mem_filter]
    exact ⟨and_iff_right s.service.presenter.authorize_mem_dismissal,
      and_iff_right s.service.presenter.removal_mem_dismissal⟩
  · intro r data reply
    obtain ⟨answer, rest, t, host, hReceive, hAnswered, -⟩ :=
      now.service.onRequest_cases r data reply now.host
    obtain ⟨hStatus, rfl, hSame⟩ := Service.answered_of_closed hAnswered hClosed
    refine ⟨answer, rest, host, ?_, hStatus, hSame⟩
    unfold Service.receive
    rw [hReceive]

end Scene

end Notice

end DevicePower
