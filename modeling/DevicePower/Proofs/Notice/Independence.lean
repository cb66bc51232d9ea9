import DevicePower.Proofs.Notice.Ledger

/-!
# Connections do not see each other

All connections share one presenter, one table of sessions and one platform. Still, what a caller is
answered, what the platform is asked for at its requests, and what its session says are the same
whether or not other callers send requests in between. Two runs are compared for this, one with all
requests and one with the requests of a single caller. In both of them the same time passes.

What has to agree between the two runs for a caller is the caller's session, and whatever a request
reads besides it: the settings, the presenter, the answers of the platform and the clock. A request
of the caller keeps the agreement when it is made in both runs (`Alike.own`), and so does time that
passes in both (`Alike.pass`). A request of another caller keeps it when it is made in one
(`Alike.other`).

## Main results

* `Alike.own`, `Alike.pass`, `Alike.other`: what happens in two runs or in one.
* `connections_independent`: all requests against those of one caller.
-/

namespace DevicePower

namespace Notice

namespace Service

variable {s : Service} {r : Request} {data : Parcel} {h : Host} {answer : Reply} {t : Table}
  {p : Platform} {c : Command}

/-- A service that stands takes a request or does not understand it. -/
theorem misunderstood_or_takes (s : Service) (r : Request) (data : Parcel)
    (hOpen : s.table.closed = false) :
    (data.token? ≠ some s.settings.token ∨ Command.ofCode? r.code = none) ∨
      ∃ c, s.Takes r data c := by
  by_cases hToken : data.token? = some s.settings.token
  · cases hCommand : Command.ofCode? r.code with
    | none => exact Or.inl (Or.inr rfl)
    | some c => exact Or.inr ⟨c, hToken, hCommand, hOpen⟩
  · exact Or.inl (Or.inl hToken)

/-- No request opens or closes the table. -/
theorem Answered.closed_eq (hAnswered : s.Answered r data h answer t p) :
    t.closed = s.table.closed := by
  cases hAnswered with
  | mismatch => rfl
  | unsupported => rfl
  | destroyed => rfl
  | retired => exact Table.closed_served _ _ _ _
  | opened => exact Table.closed_served _ _ _ _
  | closed => exact Table.closed_served _ _ _ _

/-- What a request leaves of the platform is what some accepted calls leave. -/
theorem Answered.platform_eq_recorded (hAnswered : s.Answered r data h answer t p) :
    ∃ made, p = h.platform.recorded made := by
  have hNone : h.platform = h.platform.recorded [] := (Platform.recorded_nil _).symm
  cases hAnswered with
  | mismatch => exact ⟨_, hNone⟩
  | unsupported => exact ⟨_, hNone⟩
  | destroyed => exact ⟨_, hNone⟩
  | retired => exact ⟨_, hNone⟩
  | opened => exact ⟨_, Platform.attempt_eq_recorded _ _⟩
  | closed => exact ⟨_, rfl⟩

/-- A request leaves the sessions of other connections alone. -/
theorem Answered.find?_ne (hAnswered : s.Answered r data h answer t p) {id : ConnectId}
    (hOther : id ≠ r.caller.connectId) : t.find? id = s.table.find? id := by
  cases hAnswered with
  | mismatch => rfl
  | unsupported => rfl
  | destroyed => rfl
  | retired => exact Table.find?_served_ne _ _ Session.caller_counted hOther
  | opened => exact Table.find?_served_ne _ _ (Session.caller_noted _ _) hOther
  | closed => exact Table.find?_served_ne _ _ (Session.caller_noted _ _) hOther

/-- A request that is taken is noted in the session of its caller. -/
theorem Answered.table_of_takes (hAnswered : s.Answered r data h answer t p)
    (hSessions : Scene.Unretired s.table) (hTakes : s.Takes r data c) :
    t = s.table.served r.caller h.now (Session.noted (s.presenter.pid? data)
      (if answer = .success then some c.status else none)) := by
  cases hAnswered with
  | mismatch hToken => exact absurd hTakes.token_eq hToken
  | unsupported _ hCommand => exact nomatch hCommand.symm.trans hTakes.command_eq
  | destroyed _ _ hClosed => exact nomatch hClosed.symm.trans hTakes.open_eq
  | retired _ hRetired => exact nomatch hRetired.symm.trans (hSessions.session r.caller h.now)
  | @opened hOpens _ accepted =>
    obtain rfl := Option.some.inj (hOpens.command_eq.symm.trans hTakes.command_eq)
    cases accepted <;> rfl
  | @closed hCloses _ crashed =>
    obtain rfl := Option.some.inj (hCloses.command_eq.symm.trans hTakes.command_eq)
    cases crashed <;> rfl

end Service

/-- A request that comes in, and the parcel for its reply. -/
structure Incoming where
  request : Service.Request
  data : Parcel
  reply : Parcel

/-- What became of a request. -/
structure Dealing where
  incoming : Incoming
  /-- The parcel with the reply. -/
  written : Parcel
  /-- What the platform accepted for it. -/
  calls : List Call

namespace Incoming

/-- The action of receiving a request. -/
def action (q : Incoming) : Action := .request q.request q.data q.reply

/-- Whether a request comes from a caller. -/
def isFrom (caller : Caller) (q : Incoming) : Bool := q.request.caller == caller

end Incoming

/-- What happens next: a request comes in, or time passes. -/
inductive Occurrence where
  | request (q : Incoming)
  | pass (nanoseconds : Nat)

namespace Occurrence

def action : Occurrence → Action
  | request q => q.action
  | pass nanoseconds => .pass nanoseconds

/-- Whether an occurrence is anything but a request of another caller. -/
def concerns (caller : Caller) : Occurrence → Bool
  | request q => q.isFrom caller
  | pass _ => true

end Occurrence

namespace Scene

/-- What becomes of a request that comes in now. -/
def dealing (s : Scene) (q : Incoming) : Dealing :=
  let (_, _, written, _, host) := s.service.receive q.request q.data q.reply s.host
  ⟨q, written, host.platform.calls.drop s.host.platform.calls.length⟩

/-- What becomes of each of the requests that come in one after the other. -/
def dealings : Scene → List Occurrence → List Dealing
  | _, [] => []
  | s, .request q :: rest => s.dealing q :: (s.after q.action).dealings rest
  | s, .pass nanoseconds :: rest => (s.after (.pass nanoseconds)).dealings rest

/-- What becomes of a request, and what it leaves. -/
theorem dealing_cases (s : Scene) (q : Incoming) :
    ∃ answer t h', s.service.Answered q.request q.data s.host answer t h'.platform ∧
      h'.now = s.host.now ∧
      s.dealing q = ⟨q, answer.write q.reply,
        h'.platform.calls.drop s.host.platform.calls.length⟩ ∧
      (s.after q.action).service = { s.service with table := t } ∧
      (s.after q.action).host = h' := by
  obtain ⟨answer, rest, t, h', hReceive, hAnswered, hNow⟩ :=
    s.service.onRequest_cases q.request q.data q.reply s.host
  refine ⟨answer, t, h', hAnswered, hNow, ?_, ?_, ?_⟩
  · unfold dealing Service.receive
    rw [hReceive]
  · unfold after act Incoming.action
    dsimp only
    rw [hReceive]
  · unfold after act Incoming.action
    dsimp only
    rw [hReceive]

/-- A request leaves the service standing, or ended. -/
theorem closed_after_request (s : Scene) (q : Incoming) :
    (s.after q.action).service.table.closed = s.service.table.closed := by
  obtain ⟨answer, t, h', hAnswered, -, -, hService, -⟩ := s.dealing_cases q
  rw [hService]
  exact hAnswered.closed_eq

theorem closed_after_occurrence (s : Scene) (o : Occurrence) :
    (s.after o.action).service.table.closed = s.service.table.closed := by
  cases o with
  | request q => exact s.closed_after_request q
  | pass nanoseconds => rfl

theorem closed_after_occurrences (occurrences : List Occurrence) (s : Scene) :
    (s.run (occurrences.map Occurrence.action)).service.table.closed =
      s.service.table.closed := by
  induction occurrences generalizing s with
  | nil => rfl
  | cons o rest ih => exact (ih (s.after o.action)).trans (s.closed_after_occurrence o)

/-- What two runs have in common for a caller: its session, and what is read besides it. -/
structure Alike (caller : Caller) (s t : Scene) : Prop where
  settings_eq : s.service.settings = t.service.settings
  presenter_eq : s.service.presenter = t.service.presenter
  find?_eq : s.service.table.find? caller.connectId = t.service.table.find? caller.connectId
  answer_eq : s.host.platform.answer = t.host.platform.answer
  now_eq : s.host.now = t.host.now

namespace Alike

variable {caller : Caller} {s t : Scene}

theorem session_eq (h : Alike caller s t) :
    s.service.table.session caller s.host.now = t.service.table.session caller t.host.now := by
  unfold Table.session
  rw [h.find?_eq, h.now_eq]

theorem showCall_eq (h : Alike caller s t) (data : Parcel) (code : UInt32) :
    s.service.showCall ⟨caller, code⟩ data s.host.now =
      t.service.showCall ⟨caller, code⟩ data t.host.now := by
  unfold Service.showCall
  rw [h.session_eq, h.presenter_eq]

/-- A request is answered alike in both runs, and leaves alike what it finds alike. -/
theorem answered {code : UInt32} {data : Parcel} {answer answer' : Reply} {tb tb' : Table}
    {p p' : Platform} (h : Alike caller s t)
    (hOpen : s.service.table.closed = false) (hOpen' : t.service.table.closed = false)
    (hSessions : Unretired s.service.table) (hSessions' : Unretired t.service.table)
    (hAnswered : s.service.Answered ⟨caller, code⟩ data s.host answer tb p)
    (hAnswered' : t.service.Answered ⟨caller, code⟩ data t.host answer' tb' p') :
    answer = answer' ∧ tb.find? caller.connectId = tb'.find? caller.connectId ∧
      ∃ made, p = s.host.platform.recorded made ∧ p' = t.host.platform.recorded made := by
  have hAccepts : s.host.platform.accepts = t.host.platform.accepts := by
    unfold Platform.accepts
    rw [h.answer_eq]
  have hCrashes : s.host.platform.crashes = t.host.platform.crashes := by
    unfold Platform.crashes
    rw [h.answer_eq]
  rcases s.service.misunderstood_or_takes ⟨caller, code⟩ data hOpen with hNot | ⟨c, hTakes⟩
  · obtain ⟨hReply, rfl, rfl⟩ := hAnswered.of_misunderstood hNot
    rw [h.settings_eq] at hNot hReply
    obtain ⟨hReply', rfl, rfl⟩ := hAnswered'.of_misunderstood hNot
    exact ⟨hReply.trans hReply'.symm, h.find?_eq, [], (Platform.recorded_nil _).symm,
      (Platform.recorded_nil _).symm⟩
  · have hTakes' : t.service.Takes ⟨caller, code⟩ data c :=
      ⟨h.settings_eq ▸ hTakes.token_eq, hTakes.command_eq, hOpen'⟩
    have hMade : answer = answer' ∧
        ∃ made, p = s.host.platform.recorded made ∧ p' = t.host.platform.recorded made := by
      cases c with
      | openNotice =>
        obtain ⟨hReply, hLeft⟩ := hAnswered.of_openNotice hSessions hTakes
        obtain ⟨hReply', hLeft'⟩ := hAnswered'.of_openNotice hSessions' hTakes'
        rw [h.showCall_eq, hAccepts] at hReply
        rw [h.showCall_eq, Platform.attempt_eq_recorded, Platform.acceptedOf_congr h.answer_eq]
          at hLeft
        rw [Platform.attempt_eq_recorded] at hLeft'
        exact ⟨hReply.trans hReply'.symm, _, hLeft, hLeft'⟩
      | closeNotice =>
        obtain ⟨hReply, hLeft⟩ := hAnswered.of_closeNotice hSessions hTakes
        obtain ⟨hReply', hLeft'⟩ := hAnswered'.of_closeNotice hSessions' hTakes'
        rw [h.presenter_eq, hCrashes] at hReply
        rw [h.presenter_eq, Platform.acceptedOf_congr h.answer_eq] at hLeft
        exact ⟨hReply.trans hReply'.symm, _, hLeft, hLeft'⟩
    obtain ⟨rfl, hLeft⟩ := hMade
    refine ⟨rfl, ?_, hLeft⟩
    rw [hAnswered.table_of_takes hSessions hTakes, hAnswered'.table_of_takes hSessions' hTakes',
      Table.find?_served_self _ _ _ (Session.caller_noted _ _),
      Table.find?_served_self _ _ _ (Session.caller_noted _ _), h.session_eq, h.presenter_eq]

/-- A request of the caller that is made in both runs. -/
theorem own {q : Incoming} (h : Alike q.request.caller s t) (hReachable : s.Reachable)
    (hReachable' : t.Reachable) (hOpen : s.service.table.closed = false)
    (hOpen' : t.service.table.closed = false) :
    s.dealing q = t.dealing q ∧ Alike q.request.caller (s.after q.action) (t.after q.action) := by
  obtain ⟨answer, tb, host, hAnswered, hNow, hDealing, hService, hHost⟩ := s.dealing_cases q
  obtain ⟨answer', tb', host', hAnswered', hNow', hDealing', hService', hHost'⟩ :=
    t.dealing_cases q
  obtain ⟨rfl, hFind, made, hMade, hMade'⟩ := h.answered hOpen hOpen'
    (unretired_of_reachable hReachable hOpen) (unretired_of_reachable hReachable' hOpen')
    hAnswered hAnswered'
  have hCalls : host.platform.calls.drop s.host.platform.calls.length = made := by
    rw [hMade]
    exact List.drop_left
  have hCalls' : host'.platform.calls.drop t.host.platform.calls.length = made := by
    rw [hMade']
    exact List.drop_left
  refine ⟨by rw [hDealing, hDealing', hCalls, hCalls'], ?_⟩
  refine ⟨?_, ?_, ?_, ?_, ?_⟩
  · rw [hService, hService']
    exact h.settings_eq
  · rw [hService, hService']
    exact h.presenter_eq
  · rw [hService, hService']
    exact hFind
  · rw [hHost, hHost', hMade, hMade']
    exact h.answer_eq
  · rw [hHost, hHost', hNow, hNow']
    exact h.now_eq

/-- A request of another caller that is made in one of the runs. -/
theorem other {q : Incoming} (h : Alike caller s t) (hOther : q.request.caller ≠ caller) :
    Alike caller (s.after q.action) t := by
  obtain ⟨answer, tb, host, hAnswered, hNow, -, hService, hHost⟩ := s.dealing_cases q
  obtain ⟨made, hMade⟩ := hAnswered.platform_eq_recorded
  have hApart : caller.connectId ≠ q.request.caller.connectId :=
    fun hSame => hOther (Caller.connectId_inj hSame).symm
  refine ⟨?_, ?_, ?_, ?_, ?_⟩
  · rw [hService]
    exact h.settings_eq
  · rw [hService]
    exact h.presenter_eq
  · rw [hService]
    exact (hAnswered.find?_ne hApart).trans h.find?_eq
  · rw [hHost, hMade]
    exact h.answer_eq
  · rw [hHost, hNow]
    exact h.now_eq

/-- The same time passes in both runs. -/
theorem pass (h : Alike caller s t) (nanoseconds : Nat) :
    Alike caller (s.after (.pass nanoseconds)) (t.after (.pass nanoseconds)) :=
  ⟨h.settings_eq, h.presenter_eq, h.find?_eq, h.answer_eq, congrArg (· + nanoseconds) h.now_eq⟩

end Alike

/-- The requests of one caller come to the same with the others in between and without them. -/
theorem dealings_of_alike {caller : Caller} (occurrences : List Occurrence) :
    ∀ s t : Scene, Alike caller s t → s.Reachable → t.Reachable →
      s.service.table.closed = false → t.service.table.closed = false →
      (s.dealings occurrences).filter (fun d => d.incoming.isFrom caller) =
        t.dealings (occurrences.filter (Occurrence.concerns caller)) ∧
      Alike caller (s.run (occurrences.map Occurrence.action))
        (t.run ((occurrences.filter (Occurrence.concerns caller)).map Occurrence.action)) := by
  induction occurrences with
  | nil => exact fun s t hAlike _ _ _ _ => ⟨rfl, hAlike⟩
  | cons o rest ih =>
    intro s t hAlike hReachable hReachable' hOpen hOpen'
    have hNext := reachable_run hReachable [o.action]
    have hNext' := reachable_run hReachable' [o.action]
    have hStands := (s.closed_after_occurrence o).trans hOpen
    have hStands' := (t.closed_after_occurrence o).trans hOpen'
    cases o with
    | pass nanoseconds => exact ih _ _ (hAlike.pass nanoseconds) hNext hNext' hStands hStands'
    | request q =>
      have hSame : (s.dealing q).incoming = q := rfl
      rw [dealings, List.filter_cons, List.filter_cons, hSame, Occurrence.concerns]
      cases hFrom : q.isFrom caller with
      | true =>
        obtain rfl : q.request.caller = caller := beq_iff_eq.mp hFrom
        obtain ⟨hDealing, hLeft⟩ := hAlike.own hReachable hReachable' hOpen hOpen'
        obtain ⟨hRest, hEnd⟩ := ih _ _ hLeft hNext hNext' hStands hStands'
        rw [if_pos rfl, if_pos rfl, dealings, hRest, hDealing]
        exact ⟨rfl, hEnd⟩
      | false =>
        have hLeft := hAlike.other (beq_eq_false_iff_ne.mp hFrom)
        rw [if_neg Bool.false_ne_true, if_neg Bool.false_ne_true]
        exact ih _ _ hLeft hNext hReachable' hStands hOpen'

/-! ## Sessions belong to their callers -/

/-- A session is listed if it is found for its caller. -/
theorem mem_sorted_iff_find? {s : Scene} (h : s.Reachable)
    (hOpen : s.service.table.closed = false) {x : Session} :
    x ∈ s.service.table.sorted ↔ s.service.table.find? x.caller.connectId = some x := by
  have hLive : s.service.table.live = s.service.table.sessions := by
    unfold Table.live
    rw [hOpen]
    rfl
  rw [Table.mem_sorted, hLive, Table.mem_sessions_iff (tracks_of_reachable h hOpen).nodup]
  rfl

/-- Whatever requests from whatever callers come in, what becomes of the requests of one caller, the
replies that are written and the calls that the platform accepts for them, is what becomes of them
without the others, and so is the session that is listed for the caller. Two callers never share a
session. -/
theorem connections_independent {s : Scene} (h : s.Begun) (occurrences : List Occurrence)
    (caller : Caller) :
    let own := occurrences.filter (Occurrence.concerns caller)
    let all := s.run (occurrences.map Occurrence.action)
    let alone := s.run (own.map Occurrence.action)
    (s.dealings occurrences).filter (fun d => d.incoming.isFrom caller) = s.dealings own ∧
    (∀ x : Session, x.caller = caller →
      (x ∈ all.service.table.sorted ↔ x ∈ alone.service.table.sorted)) ∧
    ∀ c d : Caller, c.pid ≠ d.pid ∨ c.token ≠ d.token → c.connectId ≠ d.connectId ∧
      ∀ x, all.service.table.find? c.connectId = some x →
        all.service.table.find? d.connectId ≠ some x := by
  intro own all alone
  have hReachable := reachable_of_begun h
  have hOpen : s.service.table.closed = false := by rw [h.table_eq]
  have hAlike : Alike caller s s := ⟨rfl, rfl, rfl, rfl, rfl⟩
  obtain ⟨hDealings, hEnd⟩ :=
    dealings_of_alike occurrences s s hAlike hReachable hReachable hOpen hOpen
  refine ⟨hDealings, ?_, ?_⟩
  · rintro x rfl
    rw [mem_sorted_iff_find? (reachable_run hReachable _)
        ((closed_after_occurrences occurrences s).trans hOpen),
      mem_sorted_iff_find? (reachable_run hReachable _)
        ((closed_after_occurrences own s).trans hOpen), hEnd.find?_eq]
  · intro c d hDiffer
    have hApart : c.connectId ≠ d.connectId := by
      intro hSame
      obtain rfl := Caller.connectId_inj hSame
      exact hDiffer.elim (fun hPid => hPid rfl) (fun hToken => hToken rfl)
    refine ⟨hApart, fun x hFind hFind' => hApart ?_⟩
    rw [← Table.connectId_of_find? hFind, Table.connectId_of_find? hFind']

/-- Requests of two callers whose process ids differ in the sign, and time in between. -/
def mixedRequests : List Occurrence :=
  let token := Parcel.textBytes "ohos.multimodalinput.IInjectNotice"
  [.request ⟨⟨⟨7, 9⟩, 0⟩, Parcel.ofBytes (token ++ Parcel.intBytes 5), {}⟩,
   .request ⟨⟨⟨-7, 9⟩, 0⟩, Parcel.ofBytes (token ++ Parcel.intBytes 6), {}⟩,
   .request ⟨⟨⟨7, 9⟩, 1⟩, Parcel.ofBytes token, {}⟩,
   .pass 1000,
   .request ⟨⟨⟨-7, 9⟩, 1⟩, Parcel.ofBytes [0], {}⟩,
   .request ⟨⟨⟨7, 9⟩, 0⟩, Parcel.ofBytes token, {}⟩]

/-- One of the two callers has the notice published with the process id that it sent. -/
theorem mixed_requests_independent :
    let own := mixedRequests.filter (Occurrence.concerns ⟨7, 9⟩)
    own.length = 4 ∧
    ((fresh {} .phone).dealings mixedRequests).filter (fun d => d.incoming.isFrom ⟨7, 9⟩) =
      (fresh {} .phone).dealings own ∧
    ((fresh {} .phone).dealings own).map Dealing.calls =
      [[.publish 100 "inject notice" (some 5) "event_inject_close_notice"],
       [.cancel 100 "inject notice"],
       [.publish 100 "inject notice" (some 5) "event_inject_close_notice"]] := by
  refine ⟨by decide, ?_, by decide +kernel⟩
  exact (connections_independent (begun_fresh {} .phone) mixedRequests ⟨7, 9⟩).1

end Scene

end Notice

end DevicePower
